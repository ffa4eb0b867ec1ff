/-
TestEngine/Verdict.lean

The result of a test: it passed, was skipped, or failed, with a message or not.
-/
namespace TestEngine

namespace Verdict

/-- The three kinds of result. -/
inductive Kind
  | pass
  | skip
  | fail
  deriving DecidableEq, Repr, Inhabited

/-- The name that outputs show. -/
def Kind.label : Kind → String
  | .pass => "PASS"
  | .skip => "SKIP"
  | .fail => "FAIL"

end Verdict

/-- The result of a test. -/
structure Verdict where
  kind : Verdict.Kind
  message : Option String
  deriving DecidableEq, Repr, Inhabited

namespace Verdict

/-- A pass without a message. -/
def pass : Verdict := ⟨.pass, none⟩

def skip (message : String) : Verdict := ⟨.skip, some message⟩

def fail (message : String) : Verdict := ⟨.fail, some message⟩

def isPass (v : Verdict) : Bool := v.kind == .pass

def isFail (v : Verdict) : Bool := v.kind == .fail

end Verdict

end TestEngine
