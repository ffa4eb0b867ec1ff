/-
TestEngine/Engine/Context.lean

Running a test body and ending it early.

`execute` runs a body in an execution context and turns the way it ends into a
verdict.  The outcome of a test is recorded in the context, and the first record
stands; ending the body is a matter of unwinding.  `raise` records an outcome and
unwinds; `request` records one on behalf of a hook and unwinds only if it is on the
thread of the test and that thread is not unwinding already.

`guarded`, `catching` and `onThread` are the ways in which a body can meet an
unwinding: clean-up code, a boundary, and another thread.
-/
import TestEngine.Engine.Basic

namespace TestEngine

namespace Engine

/-! ### The context -/

/-- Is a test running? -/
def isActive (e : Engine) : Bool := e.context.isSome

/-- Start a test on the current thread; none may be running. -/
def enter : Act Unit := do
  let e ← get
  match e.context with
  | some _ => violate .alreadyActive
  | none =>
    set { e with context := some ⟨e.thread, none⟩ }
    note .entered

/-- The state after the end of the test. -/
def leave (e : Engine) : Engine := { e with context := none, journal := .left :: e.journal }

/-- The outcome recorded for the running test. -/
def pending (e : Engine) : Option Verdict := e.context.bind Context.pending

/-- Record an outcome; the first one stands.  Tells whether the current thread is
that of the test, or that no test is running. -/
def record (v : Verdict) : Act (Option Bool) := do
  let e ← get
  match e.context with
  | none => pure none
  | some c =>
    set { e with context := some { c with pending := some (c.pending.getD v) } }
    note (.recorded v)
    pure (some (c.owner == e.thread))

/-! ### Ending a test early -/

/-- Record an outcome and end the body. -/
def raise {α : Type} (v : Verdict) : Act α := do
  match ← record v with
  | none => violate .notActive
  | some _ => unwind .abortSignal

/-- Record an outcome and end the body if that is possible here.  Tells whether a
test is running. -/
def request (v : Verdict) : Act Bool := do
  match ← record v with
  | none => pure false
  | some onOwner =>
    -- elsewhere the record is all that can be done, and the test ends at its own pace
    if onOwner && !(← get).unwinding then unwind .abortSignal else pure true

/-- The verdict on a body that unwound, given what was recorded; a violation has
none, since it goes on unwinding. -/
def verdictOn (recorded : Option Verdict) : Payload → Option Verdict
  | .violation _ => none
  | .abortSignal => some (recorded.getD (.fail "aborted without an outcome"))
  | payload => some (recorded.getD (.fail ("panicked: " ++ payload.message)))

/-- Run a body as a test and give the verdict. -/
def execute (body : Act Unit) : Act Verdict := do
  enter
  fun e =>
    match body e with
    | .ok _ e => .ok (e.pending.getD .pass) e.leave
    | .error (.unwound payload) e =>
      -- a violation passes, but the context has to be cleared all the same
      match verdictOn e.pending payload with
      | some v => .ok v e.leave
      | none => .error (.unwound payload) e.leave
    | .error stop e => .error stop e

/-! ### Unwinding -/

/-- What a process says that is killed by an unwinding out of clean-up code. -/
def lastWords : String := "thread caused non-unwinding panic. aborting."

/-- Carry out a block and then clean up, also if the block unwinds.  Unwinding out of
the clean-up of an unwinding block kills the process. -/
def guarded (block cleanup : Act Unit) : Act Unit := fun e =>
  match block e with
  | .ok _ e => cleanup e
  | .error (.unwound payload) e =>
    -- what the clean-up changes stays, but the unwinding goes on as it was
    match cleanup { e with unwinding := true } with
    | .ok _ e' => .error (.unwound payload) { e' with unwinding := e.unwinding }
    | .error (.unwound _) e' => (note (.perished lastWords) *> throw .killed) e'
    | .error stop e' => .error stop e'
  | .error stop e => .error stop e

/-- Carry out a block; its unwinding ends here, and its payload is given. -/
def catching (block : Act Unit) : Act (Option Payload) := fun e =>
  match block e with
  | .ok _ e => .ok none e
  | .error (.unwound payload) e => .ok (some payload) e
  | .error stop e => .error stop e

/-- Carry out a block on a thread of its own and wait for it.  Unwinding ends with
the thread, and its payload is given. -/
def onThread (block : Act Unit) : Act (Option Payload) := fun e =>
  let back (e' : Engine) : Engine := { e' with thread := e.thread, unwinding := e.unwinding }
  match block { e with thread := e.nextThread, nextThread := e.nextThread + 1, unwinding := false } with
  | .ok _ e' => .ok none (back e')
  | .error (.unwound payload) e' => .ok (some payload) (back e')
  | .error stop e' => .error stop e'

/-! ### Assertions -/

/-- Fail the test, or the whole process if that is asked for. -/
def failAt {α : Type} (file : String) (line : Nat) (message : String) : Act α := do
  if (← get).debug.fatalAsserts then
    note (.complained ("ERROR:" ++ file ++ ":" ++ toString line ++ ": " ++ message))
    throw .killed
  else
    raise (.fail message)

/-- Fail unless the check holds. -/
def check (c : Check) : Act Unit :=
  match c.failure? with
  | none => pure ()
  | some message => failAt "" 0 message

/-- Skip the test unless the prerequisite holds. -/
def require (p : Prerequisite) : Act Unit := do
  match p.refusal? (← get).flags with
  | none => pure ()
  | some message => raise (.skip message)

end Engine

end TestEngine
