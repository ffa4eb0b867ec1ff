/-
TestEngine/Run/Resolve.lean

The scheduler.  A run prints the plan and resolves the cases under its root in
declaration order.  Resolving a case first resolves what it depends on, each in its
turn; then the case is blocked by the first dependency that did not pass, or left
out by the selection, or run.  Its teardown runs in any case, and its result is
stored, so that a case is resolved once however often it is asked for.

A case that depends on itself through others is a violation, and so is a dependency
with another parent.  The cases being resolved are therefore pairwise different,
and the number of objects bounds the recursion.

With fail-fast on, the first case that fails ends the run: every loop stops as soon
as the summary has a bail-out.
-/
import TestEngine.Run.Case
import TestEngine.Run.Summary
import TestEngine.Tree.Build

namespace TestEngine

/-- The state of a run: the tree, whose cases are used up, the engine, what has been
reported, and the cases being resolved, innermost first. -/
structure Run where
  tree : Tree
  engine : Engine
  summary : Summary
  reported : Nat
  resolving : List ObjectId

namespace Run

/-- A step of a run. -/
abbrev Act (α : Type) := EStateM Stop Run α

/-! ### Effects of the parts -/

/-- An effect on the engine. -/
def onEngine {α : Type} (act : Engine.Act α) : Act α := fun r =>
  match act r.engine with
  | .ok a e => .ok a { r with engine := e }
  | .error stop e => .error stop { r with engine := e }

def violate {α : Type} (v : Violation) : Act α := onEngine (Engine.violate v)

/-- An operation on the tree; to fail here is a violation. -/
def onTree {α : Type} (build : Tree.Build α) : Act α := fun r =>
  match build r.tree with
  | .ok a t => .ok a { r with tree := t }
  | .error (.violation v) t => violate v { r with tree := t }
  | .error (.error e) t => violate (.tree e) { r with tree := t }

/-- Take lines that have been printed into the summary. -/
def addLines (lines : List Engine.Line) : Act Unit :=
  modify fun r =>
    { r with summary := r.summary.addAll lines, reported := r.reported + lines.length }

/-- Has the run been ended early? -/
def isOver (r : Run) : Bool := r.summary.bailOut.isSome

/-! ### Prerequisites -/

/-- Resolve the cases of a suite that something depends on; `outcome` is the first
result so far that is no pass, or else a pass. -/
def resolveLeaves (resolve : ObjectId → Act Verdict) (outcome : Verdict) :
    List ObjectId → Act Verdict
  | [] => pure outcome
  | leaf :: leaves => do
    let v ← resolve leaf
    if (← get).isOver then pure v
    else
      resolveLeaves resolve (if outcome.isPass && !v.isPass then v else outcome) leaves

/-- Resolve what something depends on: a case, or all cases of a suite. -/
def resolveDependency (resolve : ObjectId → Act Verdict) (dependency : ObjectId) :
    Act Verdict := do
  let t := (← get).tree
  if t.kind? dependency == some .suite then
    resolveLeaves resolve .pass (t.leaves dependency)
  else
    resolve dependency

/-- What became of the dependencies of a case: the run has been ended in one of them,
or the case is blocked with a result, or it is free to run. -/
inductive Prerequisites
  | over (v : Verdict)
  | blocked (v : Verdict)
  | met
  deriving DecidableEq, Repr

/-- The result of a case that a dependency blocks. -/
def blockedBy (v : Verdict) (dependency : Path) : Verdict :=
  ⟨v.kind, some ("prerequisite aborted: " ++ dependency.render)⟩

/-- Resolve the dependencies of a case in order; `state` is what is known so far. -/
def resolveAll (resolve : ObjectId → Act Verdict) (case : ObjectId) (state : Prerequisites) :
    List ObjectId → Act Prerequisites
  | [] => pure state
  | dependency :: others => do
    let t := (← get).tree
    match t.node? dependency with
    | none => violate (.unknownObject dependency)
    | some n =>
      if n.parent != t.parent? case then
        violate (.notSiblings (t.path case) (t.path dependency))
      else
        let v ← resolveDependency resolve dependency
        -- a blocked case still resolves the dependencies that are left
        if (← get).isOver then pure (.over v)
        else
          let state := match state with
            | .met => if v.isPass then .met else .blocked (blockedBy v (t.path dependency))
            | state => state
          resolveAll resolve case state others

/-! ### Cases -/

/-- Run a case, or report it unrun, once its dependencies are resolved. -/
def settle (mode : Mode) (case : ObjectId) (blocked : Option Verdict) : Act Verdict := do
  let r ← get
  let path := r.tree.path case
  let unrun (v : Verdict) : Act Verdict := do
    addLines (← onEngine (Engine.reportUnrun case path (r.reported + 1) (r.tree.tags case) v))
    pure v
  match blocked with
  | some v => unrun v
  | none =>
    if mode.excluded path then unrun (.skip "excluded by selection")
    else
      match ← onTree (Tree.takeBody case) with
      | none => violate (.bodyConsumed path)
      | some body =>
        let expectations := match r.tree.case? case with
          | some c => c.expectations
          | none => []
        let (v, lines) ← onEngine <|
          Engine.runCase case path (r.reported + 1) (r.tree.inheritedPolicies case) expectations body
        addLines lines
        pure v

/-- Drop the body of a case and run its teardown, if it has one. -/
def tearDown (case : ObjectId) : Act Unit := do
  let _ ← onTree (Tree.takeBody case)
  match ← onTree (Tree.takeTeardown case) with
  | none => pure ()
  | some script => do
    onEngine do
      let e ← get
      Engine.note (.tearingDown case e.isActive (e.chain.map Installed.id))
      Engine.perform script

/-- Store the result of a case, and end the run if it failed under fail-fast. -/
def conclude (mode : Mode) (case : ObjectId) (v : Verdict) : Act Unit := do
  onTree (Tree.setResult case v)
  onEngine (Engine.note (.resolved case v))
  modify fun r => { r with resolving := r.resolving.drop 1 }
  if v.isFail && mode.failFast then
    let message := ((← get).tree.path case).render ++ " failed"
    onEngine (Engine.print (Tap.bailOut (some message)))
    modify fun r => { r with summary := { r.summary with bailOut := some message } }

/-- Settle a case, clean up, and conclude. -/
def finish (mode : Mode) (case : ObjectId) (blocked : Option Verdict) : Act Verdict := do
  let v ← settle mode case blocked
  tearDown case
  conclude mode case v
  pure v

/-- Resolve a case, as far down as the bound allows, and give its result. -/
def resolveWithin (mode : Mode) : Nat → ObjectId → Act Verdict
  | 0, _ => throw .tooDeep
  | bound + 1, case => do
    let r ← get
    match r.tree.result? case with
    | some v => pure v
    | none =>
      if r.resolving.contains case then violate (.circular (r.tree.path case))
      else
        set { r with resolving := case :: r.resolving }
        let state ← resolveAll (resolveWithin mode bound) case .met (r.tree.dependencies case)
        match state with
        -- the case stays unresolved and its teardown does not run
        | .over v => do
          modify fun r => { r with resolving := r.resolving.drop 1 }
          pure v
        | .blocked v => finish mode case (some v)
        | .met => finish mode case none

/-- Resolve a case and give its result. -/
def resolve (mode : Mode) (case : ObjectId) : Act Verdict := do
  resolveWithin mode ((← get).tree.size + 1) case

/-! ### Whole runs -/

/-- Resolve cases in order until the run is over. -/
def resolveEach (mode : Mode) : List ObjectId → Act Unit
  | [] => pure ()
  | leaf :: leaves => do
    if (← get).isOver then pure ()
    else
      let _ ← resolve mode leaf
      resolveEach mode leaves

/-- Print the paths of subunits. -/
def listTags (path : Path) : List String → Act Unit
  | [] => pure ()
  | tag :: tags => do
    let p ← onEngine (Engine.subpath path tag)
    onEngine (Engine.print p.render)
    listTags path tags

/-- Print the lines that list a case: its path, or those of its subunits. -/
def list (leaf : ObjectId) : Act Unit := do
  let t := (← get).tree
  match t.tags leaf with
  | [] => onEngine (Engine.print (t.path leaf).render)
  | tags => listTags (t.path leaf) tags

/-- List cases in order. -/
def listEach : List ObjectId → Act Unit
  | [] => pure ()
  | leaf :: leaves => do
    list leaf
    listEach leaves

/-- The number of results that the cases will report. -/
def planned (t : Tree) (leaves : List ObjectId) : Nat :=
  leaves.foldr (fun leaf n => t.leafCount leaf + n) 0

/-- Run, or list, the cases at or below the root. -/
def suite (mode : Mode) (root : ObjectId) : Act Unit := do
  let t := (← get).tree
  match t.node? root with
  | none => violate (.unknownObject root)
  | some _ =>
    if mode.listOnly then listEach (t.leaves root)
    else
      onEngine (Engine.print (Tap.plan (planned t (t.leaves root))))
      resolveEach mode (t.leaves root)

end Run

namespace Engine

/-- Set the engine up for a run: receive logged events, and take over the console
settings and the flags of the mode. -/
def prepare (mode : Mode) : Act Unit := do
  intercept
  modify fun e => { e with console := ⟨mode.verbosity, mode.colours⟩, flags := mode.flags }

/-- Run a tree from a root. -/
def runSuite (mode : Mode) (tree : Tree) (root : ObjectId) : Act Summary := fun e =>
  match Run.suite mode root ⟨tree, e, .empty, 0, []⟩ with
  | .ok _ r => .ok r.summary r.engine
  | .error stop r => .error stop r.engine

/-- Set the engine up and run a tree from a root. -/
def run (mode : Mode) (tree : Tree) (root : ObjectId) : Act Summary := do
  prepare mode
  runSuite mode tree root

end Engine

end TestEngine
