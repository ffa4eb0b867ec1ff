/-
TestEngine/Run/Summary.lean

The summary of a run: the reported results in order, how many there are of each
kind, and the message of the bail-out that ended the run early, if one did.
-/
import TestEngine.Path
import TestEngine.Verdict

namespace TestEngine

/-- What a run has reported. -/
structure Summary where
  passed : Nat
  skipped : Nat
  failed : Nat
  results : List (Path × Verdict)
  bailOut : Option String
  deriving DecidableEq, Repr

namespace Summary

def empty : Summary := ⟨0, 0, 0, [], none⟩

/-- Add a reported result. -/
def add (s : Summary) (path : Path) (v : Verdict) : Summary :=
  let s := { s with results := s.results ++ [(path, v)] }
  match v.kind with
  | .pass => { s with passed := s.passed + 1 }
  | .skip => { s with skipped := s.skipped + 1 }
  | .fail => { s with failed := s.failed + 1 }

/-- Add reported results in order. -/
def addAll (s : Summary) (lines : List (Path × Verdict)) : Summary :=
  lines.foldl (fun s line => s.add line.1 line.2) s

def total (s : Summary) : Nat := s.passed + s.skipped + s.failed

def hasFailures (s : Summary) : Bool := 0 < s.failed

/-- The first result reported for a path, given in its written form. -/
def resultFor? (s : Summary) (path : String) : Option Verdict :=
  (s.results.find? fun line => line.1.render == path).map Prod.snd

/-- The exit status: 99 after a bail-out, 1 after a failure, and 0 otherwise. -/
def exitCode (s : Summary) : Nat :=
  if s.bailOut.isSome then 99 else if s.hasFailures then 1 else 0

end Summary

end TestEngine
