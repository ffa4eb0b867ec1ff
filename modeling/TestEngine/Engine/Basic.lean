/-
TestEngine/Engine/Basic.lean

The state of the engine and its effects.

All that tests, hooks and runs share is in one record, `Engine`: the chain of
hooks, the execution context of the running test, the console, the published
flags, the counters of expectations, and the journal.  The journal holds what
happened, newest first: the texts that were printed, traced or reported as errors,
and the steps of the engine that those texts do not show.

An effect, `Engine.Act`, takes the state to a value and a new state, or stops:
by unwinding, by ending the process, or because scripts were nested too deeply.
-/
import TestEngine.Script
import TestEngine.Tap.Line

namespace TestEngine

/-! ### Hooks in the chain -/

/-- What may stand in the chain of hooks. -/
inductive Hook
  | failIfLogged (policies : List Policy)
  | expecting (expectations : List Expectation)
  | rules (hook : RuleHook Action)

/-- The number of a hook in the chain; no two hooks ever get the same. -/
abbrev HookId := Nat

/-- A hook in the chain. -/
structure Installed where
  id : HookId
  hook : Hook

/-! ### The journal -/

/-- What a printed text is: a line of the report, or a diagnostic. -/
inductive Channel
  | report
  | diagnostic
  deriving DecidableEq, Repr

/-- What happened.  A unit of a case is its body or one of its subunits.

* `printed`, `traced`: a text for the output or the trace; `complained` and `perished`
  are for the error stream;
* `entered`, `left`: a test began or ended; `recorded`: an outcome was recorded for it;
* `asked`, `decided`: a hook was asked about a diagnostic, and the answer to carry out;
* `credited`, `collected`: a counter went up by one, or was read and reset;
* `bracketed`: the two hooks of a case were installed;
* `unitStarted`, `reported`, `tearingDown`, `resolved`: the steps of a case; the
  teardown comes with whether a test is running and with the hooks in the chain. -/
inductive Entry
  | printed (channel : Channel) (text : String)
  | traced (text : String)
  | complained (text : String)
  | perished (text : String)
  | entered
  | left
  | recorded (v : Verdict)
  | asked (hook : HookId) (d : Diagnostic)
  | decided (d : Diagnostic) (answer : Answer)
  | credited (counter : Nat)
  | collected (counter amount : Nat)
  | bracketed (case : ObjectId) (policies expectations : HookId)
  | unitStarted (case : ObjectId) (unit : Nat)
  | reported (case : ObjectId) (path : Path) (v : Verdict)
  | tearingDown (case : ObjectId) (active : Bool) (chain : List HookId)
  | resolved (case : ObjectId) (v : Verdict)
  deriving DecidableEq, Repr

/-! ### The state -/

/-- The test that is running: the thread on which it was started, and the outcome
that has been recorded for it. -/
structure Context where
  owner : Nat
  pending : Option Verdict
  deriving DecidableEq, Repr

/-- How diagnostics are printed. -/
structure Console where
  verbosity : Verbosity
  colours : Bool
  deriving DecidableEq, Repr

/-- Who receives logged events: nobody, a subscriber that does not know of hooks,
or the chain of hooks. -/
inductive Subscriber
  | none
  | foreign
  | chain
  deriving DecidableEq, Repr

/-- The state that tests, hooks and runs share.  The chain has its newest hook in
front, the journal its newest entry; `pushed` are the hooks that scripts have pushed
for all to name, in order, and `own` those that the current script has names of its own
for, the innermost first; `unwinding` tells whether the current thread is running
clean-up code of an unwinding. -/
structure Engine where
  chain : List Installed
  nextHook : HookId
  context : Option Context
  console : Console
  flags : ModeFlags
  debug : DebugFlags
  subscriber : Subscriber
  hasRun : Bool
  thread : Nat
  nextThread : Nat
  unwinding : Bool
  counters : List Nat
  pushed : List HookId
  own : List HookId
  journal : List Entry

/-! ### Effects -/

/-- How an effect ends without a value. -/
inductive Stop
  | unwound (payload : Payload)
  | exited (status : Nat)
  | killed
  | tooDeep
  deriving DecidableEq, Repr

namespace Engine

/-- The state of a process before anything has happened. -/
def initial : Engine where
  chain := []
  nextHook := 1
  context := none
  console := ⟨.normal, false⟩
  flags := .default
  debug := .none
  subscriber := .none
  hasRun := false
  thread := 0
  nextThread := 1
  unwinding := false
  counters := []
  pushed := []
  own := []
  journal := []

/-- An effect on the engine. -/
abbrev Act (α : Type) := EStateM Stop Engine α

/-- Note an entry in the journal. -/
def note (entry : Entry) : Act Unit :=
  modify fun e => { e with journal := entry :: e.journal }

/-- Print a line of the report. -/
def print (text : String) : Act Unit := note (.printed .report text)

/-- Trace a text. -/
def trace (text : String) : Act Unit := note (.traced text)

/-- Unwind. -/
def unwind {α : Type} (payload : Payload) : Act α := throw (.unwound payload)

/-- Report a violation and unwind with it. -/
def violate {α : Type} (v : Violation) : Act α := do
  note (.complained ("ERROR: contract violation: " ++ v.message))
  unwind (.violation v)

/-- Print a diagnostic text on the console. -/
def printDiagnostic (text : String) : Act Unit := do
  let e ← get
  note (.printed .diagnostic (Tap.diagnostic text e.console.colours))

/-! ### Counters -/

/-- Add a counter, and give its number. -/
def newCounter (e : Engine) : Nat × Engine :=
  (e.counters.length, { e with counters := e.counters ++ [0] })

/-- Count one more diagnostic. -/
def credit (counter : Nat) : Act Unit := do
  modify fun e => { e with counters := e.counters.modify counter (· + 1) }
  note (.credited counter)

/-- Take what has been counted and start again from zero; `none` if there is no
such counter. -/
def collect (counter : Nat) : Act (Option Nat) := do
  let e ← get
  match e.counters[counter]? with
  | none => pure none
  | some amount =>
    set { e with counters := e.counters.set counter 0 }
    note (.collected counter amount)
    pure (some amount)

end Engine

end TestEngine
