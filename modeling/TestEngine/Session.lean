/-
TestEngine/Session.lean

Driving the engine step by step.  A session has a tree that steps build, and the
engine, whose state lasts from step to step; a run uses the tree up, and an empty
one takes its place.  `step` carries out a step and answers it, together with the
lines that it printed and traced.
-/
import TestEngine.Run.Process
import TestEngine.Tap.Buffer

namespace TestEngine

/-- The state of a session.  `output` holds what steps have printed so far. -/
structure Session where
  tree : Tree
  engine : Engine
  handles : List Expectation
  output : Tap.Buffer

namespace Session

/-! ### Steps -/

/-- A mode with its selection still as texts. -/
structure ModeText where
  mode : Mode
  includes : List String
  excludes : List String

/-- An expectation with its pattern still as a text. -/
structure ExpectationText where
  domain : String
  levels : LevelSet
  pattern : String

/-- What a session can be asked to do. -/
inductive Step
  | newTree
  | suite (name : String)
  | addSuite (parent : ObjectId) (name : String)
  | case (name : String) (body : Script) (teardown : Option Script)
  | addCase (parent : ObjectId) (name : String) (body : Script)
  | complexCase (name : String) (units : List (String × Script)) (teardown : Option Script)
  | addComplexCase (parent : ObjectId) (name : String) (units : List (String × Script))
      (teardown : Option Script)
  | attach (parent object : ObjectId)
  | depend (object on : ObjectId)
  | expect (object : ObjectId) (e : ExpectationText)
  | handle (e : ExpectationText)
  | addExpectation (object : ObjectId) (handle : Nat)
  | failIfLogged (object : ObjectId) (domain : String) (levels : LevelSet)
  | query (object : ObjectId)
  | run (object : ObjectId) (mode : ModeText) (lookup : List String)
  | execute (body : Script)
  | perform (script : Script)

/-- What a step answers. -/
inductive Reply
  | done
  | created (id : ObjectId)
  | handle (number : Nat)
  | info (i : Tree.Info)
  | summary (s : Summary) (lookup : List (Option Verdict))
  | verdict (v : Verdict)
  | status (code : Nat)
  | refused (e : TreeError)
  | malformedPath (e : Path.ParseError)
  | malformedPattern
  | noSuchHandle

/-- An effect on a session. -/
abbrev Act (α : Type) := EStateM Stop Session α

/-- An effect on the engine. -/
def onEngine {α : Type} (act : Engine.Act α) : Act α := fun s =>
  match act s.engine with
  | .ok a e => .ok a { s with engine := e }
  | .error stop e => .error stop { s with engine := e }

/-- An operation on the tree.  An error is a value, a violation unwinds. -/
def attempt {α : Type} (build : Tree.Build α) : Act (Except TreeError α) := fun s =>
  match build s.tree with
  | .ok a t => .ok (.ok a) { s with tree := t }
  | .error (.error e) t => .ok (.error e) { s with tree := t }
  | .error (.violation v) t => onEngine (Engine.violate v) { s with tree := t }

/-- An operation on the tree, answered. -/
def onTree {α : Type} (reply : α → Reply) (build : Tree.Build α) : Act Reply := do
  match ← attempt build with
  | .ok a => pure (reply a)
  | .error e => pure (.refused e)

/-- Take the tree out, leaving an empty one. -/
def takeTree : Act Tree := modifyGet fun s => (s.tree, { s with tree := .empty })

/-- Keep an expectation under the next handle. -/
def keep (e : Expectation) : Act Unit :=
  modify fun s =>
    { s with handles := s.handles ++ [e], engine := (Engine.newCounter s.engine).2 }

/-- Carry out a step. -/
def perform : Step → Act Reply
  | .newTree => do
    modify fun s => { s with tree := .empty }
    pure .done
  | .suite name => onTree .created (Tree.suite name)
  | .addSuite parent name => onTree .created (Tree.addSuite parent name)
  | .case name body teardown => onTree .created (Tree.case name body teardown)
  | .addCase parent name body => onTree .created (Tree.addCase parent name body)
  | .complexCase name units teardown => onTree .created (Tree.complexCase name units teardown)
  | .addComplexCase parent name units teardown =>
    onTree .created (Tree.addComplexCase parent name units teardown)
  | .attach parent object => onTree .created (Tree.attach parent object)
  | .depend object on => onTree (fun _ => .done) (Tree.addDependency object on)
  | .expect object e => do
    let number := (← get).handles.length
    match ← attempt (Tree.expectMessage object e.domain e.levels e.pattern number) with
    | .error refusal => pure (.refused refusal)
    | .ok expectation => do
      keep expectation
      pure (.handle number)
  | .handle e =>
    match Pattern.ofSource e.pattern with
    | .error _ => pure .malformedPattern
    | .ok pattern => do
      let number := (← get).handles.length
      keep ⟨e.domain, e.levels, pattern, number⟩
      pure (.handle number)
  | .addExpectation object handle => do
    match (← get).handles[handle]? with
    | none => pure .noSuchHandle
    | some e => onTree (fun _ => .done) (Tree.addExpectation object e)
  | .failIfLogged object domain levels =>
    onTree (fun _ => .done) (Tree.failIfLogged object (.new domain levels))
  | .query object => onTree .info (Tree.info object)
  | .run object m lookup =>
    match m.mode.select m.includes m.excludes with
    | .error e => pure (.malformedPath e)
    | .ok mode => do
      -- the tree is used up even if the run unwinds
      let tree ← takeTree
      let summary ← onEngine (Engine.run mode tree object)
      pure (.summary summary (lookup.map summary.resultFor?))
  | .execute body => do
    let v ← onEngine (Engine.execute (Engine.perform body))
    pure (.verdict v)
  | .perform script => do
    onEngine (Engine.perform script)
    pure .done

/-! ### Answers -/

/-- The texts that the entries of a journal print, oldest first. -/
def printedIn (journal : List Entry) : List String :=
  journal.reverse.filterMap fun
    | .printed _ text => some text
    | _ => none

/-- The texts that the entries of a journal trace, oldest first. -/
def tracedIn (journal : List Entry) : List String :=
  journal.reverse.filterMap fun
    | .traced text => some text
    | _ => none

/-- The lines that the buffer `new` has beyond `old`. -/
def newLines (old new : Tap.Buffer) : List String :=
  let text := new.contents.toList.drop old.contents.toList.length
  -- the newline between the older text and the new belongs to neither
  let text := if old.contents == "" then text else text.drop 1
  if text.isEmpty then [] else (Text.lines text).map String.ofList

/-- The answer to a step, or how it stopped, with the lines it printed and traced. -/
structure Answer where
  outcome : Except Stop Reply
  printed : List String
  traced : List String

/-- Carry out a step with an empty journal and answer it. -/
def step (s : Session) (st : Step) : Answer × Session :=
  let finish (outcome : Except Stop Reply) (s' : Session) : Answer × Session :=
    let output := s.output.emitAll (printedIn s'.engine.journal)
    (⟨outcome, newLines s.output output, tracedIn s'.engine.journal⟩, { s' with output })
  match perform st { s with engine := { s.engine with journal := [] } } with
  | .ok reply s' => finish (.ok reply) s'
  | .error stop s' => finish (.error stop) s'

/-- Carry out the steps in order. -/
def run (s : Session) : List Step → List Answer × Session
  | [] => ([], s)
  | st :: steps =>
    let (answer, s) := s.step st
    let (answers, s) := s.run steps
    (answer :: answers, s)

/-! ### Beginning and end -/

/-- A session whose engine receives logged events. -/
def initial : Session :=
  ⟨.empty, { Engine.initial with subscriber := .chain }, [], .empty⟩

/-- Try to pop hooks, from the last to the first; those that are not on top stay. -/
def popAll : List HookId → Engine → Engine
  | [], e => e
  | id :: ids, e =>
    match Engine.pop id (popAll ids e) with
    | .ok _ e => e
    | .error _ e => e

/-- The number of hooks that are left when those that scripts pushed are popped, the
newest first. -/
def hooksLeft (s : Session) : Nat := (popAll s.engine.pushed s.engine).depth

end Session

end TestEngine
