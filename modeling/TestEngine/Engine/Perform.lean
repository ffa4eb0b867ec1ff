/-
TestEngine/Engine/Perform.lean

The interpreter of scripts.  `act` carries out one action, given an interpreter for
the scripts nested in it; `perform` closes the recursion with a bound on the depth
of nesting.  Hooks make the bound necessary, since one that logs is asked about what
it logs.
-/
import TestEngine.Engine.Dispatch

namespace TestEngine

namespace Engine

/-- Carry out the actions in order. -/
def sequence (act : Action → Act Unit) : Script → Act Unit
  | [] => pure ()
  | a :: script => do
    act a
    sequence act script

/-- How the default hook's answer is traced. -/
def answerText : Answer → String
  | .proceed => "Continue"
  | .ignore => "Ignore"
  | .suppress => "Suppress"
  | .abort message => "Abort " ++ message
  | .bailOut => "BailOut"

/-- How a verdict is traced. -/
def verdictText (v : Verdict) : String := v.kind.label ++ " " ++ v.message.getD "-"

/-- The answer to a query. -/
def holds (e : Engine) : Query → Bool
  | .console verbosity colours => e.console == ⟨verbosity, colours⟩
  | .flags required => e.flags.contains required
  | .active => e.isActive
  | .depth hooks => e.depth == hooks
  | .counted handle amount => e.counters[handle]? == some amount
  | .unwinding => e.unwinding

/-- Pop the hook that a script has named, if there is such a hook. -/
def popNamed : Option HookId → Act Unit
  | none => trace "no such hook"
  | some id => pop id

/-- Carry out one action; `perform` is for the scripts nested in it. -/
def act (perform : Script → Act Unit) : Action → Act Unit
  | .trace text => trace text
  | .check c => check c
  | .require p => require p
  | .checkExpected handle count => do
    match ← collect handle with
    | none => trace "no such handle"
    | some seen =>
      if seen = count then pure ()
      else
        failAt "" 0 ("expected " ++ toString count ++ " matching message(s), saw " ++ toString seen)
  | .count handle => do
    match ← collect handle with
    | none => trace "no such handle"
    | some seen => trace ("count " ++ toString seen)
  | .peek handle => do
    match (← get).counters[handle]? with
    | none => trace "no such handle"
    | some seen => trace ("peek " ++ toString seen)
  | .failAt file line message => failAt file line message
  | .raise v => raise v
  | .violate message => violate (.stated message)
  | .panic payload => unwind payload
  | .emit d => dispatch perform d
  | .event e => log perform e
  | .thread run => do
    match ← onThread (perform run) with
    | none => pure ()
    | some payload => trace ("thread ended: " ++ payload.message)
  | .guarded run onDrop => guarded (perform run) (perform onDrop)
  | .catch run => do
    match ← catching (perform run) with
    | none => pure ()
    | some payload => trace ("caught: " ++ payload.message)
  | .execute run => do
    let v ← execute (perform run)
    trace ("executed: " ++ verdictText v)
  | .choose q run otherwise => do
    if (← get).holds q then perform run else perform otherwise
  | .pushHook h => do
    let id ← push (.rules h)
    modify fun e => { e with pushed := e.pushed ++ [id] }
  | .popHook index => do
    popNamed (← get).pushed[index]?
  | .withHook h run =>
    withHook (.rules h) fun id => do
      modify fun e => { e with pushed := e.pushed ++ [id] }
      perform run
  | .letHook h run => letHook (.rules h) (perform run)
  | .popLocal index => do
    popNamed (← get).own[index]?
  | .askDefault d => do
    let answer ← defaultAnswer d
    trace (answerText answer)
  | .bailOut level message => bailOut level message
  | .configure verbosity colours => modify fun e => { e with console := ⟨verbosity, colours⟩ }
  | .showConsole => do
    let console := (← get).console
    trace ("console " ++ console.verbosity.label ++ (if console.colours then " true" else " false"))
  | .showDepth => do
    trace ("depth " ++ toString (← get).depth)
  | .showActive => do
    trace (if (← get).isActive then "active true" else "active false")
  | .showFlags => do
    trace ("flags " ++ (← get).flags.text)
  | .intercept => intercept
  | .unknown name => trace ("unknown action " ++ name)

/-- Carry out a script in which scripts are nested at most `fuel` deep, counting
those that hooks run. -/
def performWithin : Nat → Script → Act Unit
  | 0, _ => throw .tooDeep
  | fuel + 1, script => sequence (act (performWithin fuel)) script

/-- The deepest nesting of scripts. -/
def depthLimit : Nat := 1000

/-- Carry out a script. -/
def perform (script : Script) : Act Unit := performWithin depthLimit script

end Engine

end TestEngine
