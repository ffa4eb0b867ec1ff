/-
TestEngine/Program.lean

A process that carries out steps from its start to its end.  Unlike in a session,
nothing is set up beforehand and nothing catches an unwinding: it ends the process
with status 101.  The process writes what is printed, and what is traced after `> `,
to its standard output, and reports of wrong use to its standard error.
-/
import TestEngine.Session

namespace TestEngine

namespace Program

/-- What a process is started with. -/
structure Setup where
  args : List String
  debug : Option String
  subscriber : Subscriber

/-- What a process can be asked to do. -/
inductive Step
  | session (s : Session.Step)
  | main (object : ObjectId)
  | runArgs (object : ObjectId)
  | runWithMode (object : ObjectId) (mode : Session.ModeText)

/-- How a process has ended, `none` standing for a kill, and what it has written. -/
structure Result where
  status : Option Nat
  stdout : String
  stderr : String
  deriving DecidableEq, Repr

/-! ### Output -/

/-- What an entry of the journal writes to standard output. -/
def stdoutOf : Entry → String
  | .printed _ text => text ++ "\n"
  | .traced text => "> " ++ text ++ "\n"
  | _ => ""

/-- What an entry of the journal writes to standard error. -/
def stderrOf : Entry → String
  | .complained text => "**\n" ++ text ++ "\n"
  | .perished text => text ++ "\n"
  | _ => ""

/-- The line that is written after a step, if there is one. -/
def noteOf : Session.Reply → Option String
  | .refused e => some ("! " ++ e.name)
  | .malformedPath _ => some "! PathError"
  | .malformedPattern => some "! RegexError"
  | .noSuchHandle => some "! NoSuchHandle"
  | .status code => some ("= " ++ toString code)
  | _ => none

/-! ### Running -/

/-- Carry out a step. -/
def perform (args : List String) : Step → Session.Act Session.Reply
  | .session s => Session.perform s
  | .main object => do
    let tree ← Session.takeTree
    Session.onEngine (Engine.runMain args tree object)
  | .runArgs object => do
    let tree ← Session.takeTree
    let code ← Session.onEngine (Engine.runArgs args tree object)
    pure (.status code)
  | .runWithMode object m =>
    match m.mode.select m.includes m.excludes with
    | .error e => pure (.malformedPath e)
    | .ok mode => do
      let tree ← Session.takeTree
      let code ← Session.onEngine (Engine.runOnce mode tree object)
      pure (.status code)

/-- The status of a process that has stopped. -/
def statusOf : Stop → Option Nat
  | .unwound _ => some 101
  | .exited status => some status
  | .killed => none
  | .tooDeep => none

/-- Carry out the steps up to the end of the process. -/
def steps (args : List String) : List Step → Session.Act Unit
  | [] => pure ()
  | st :: rest => do
    let reply ← perform args st
    match noteOf reply with
    | none => pure ()
    | some line => Session.onEngine (Engine.print line)
    steps args rest

/-- The state in which a process starts. -/
def initial (setup : Setup) : Session :=
  let debug := match setup.debug with
    | some names => DebugFlags.parse names
    | none => .none
  ⟨.empty, { Engine.initial with debug, subscriber := setup.subscriber }, [], .empty⟩

/-- Run a process. -/
def run (setup : Setup) (sts : List Step) : Result :=
  let finish (status : Option Nat) (s : Session) : Result :=
    let journal := s.engine.journal.reverse
    ⟨status, String.join (journal.map stdoutOf), String.join (journal.map stderrOf)⟩
  match steps setup.args sts (initial setup) with
  | .ok _ s => finish (some 0) s
  | .error stop s => finish (statusOf stop) s

/-- The lines of a text in which a newline ends every line. -/
def linesOf (text : String) : List String :=
  if text == "" then [] else Text.linesOf (String.ofList (Text.dropFinalNewline text.toList))

end Program

end TestEngine
