/-
TestEngine/Tree/Build.lean

Building a tree.  Objects are created detached and attached later, once each.

An operation fails with a `TreeError` if the tree cannot be built as asked, and with
a violation if an object does not exist or a message of the engine is expected.
Operations that create and attach in one go leave the new object detached if
attaching it fails.
-/
import TestEngine.Tree.Basic

namespace TestEngine

namespace Tree

/-- How an operation on a tree fails. -/
inductive Fault
  | error (e : TreeError)
  | violation (v : Violation)
  deriving DecidableEq, Repr

/-- An operation on a tree. -/
abbrev Build (α : Type) := EStateM Fault Tree α

def fail {α : Type} (e : TreeError) : Build α := throw (.error e)

def violate {α : Type} (v : Violation) : Build α := throw (.violation v)

/-! ### Access -/

/-- An object, which has to exist. -/
def getNode (id : ObjectId) : Build Node := do
  match (← get).node? id with
  | some n => pure n
  | none => violate (.unknownObject id)

/-- The data of a case, which the object has to be. -/
def getCase (id : ObjectId) : Build CaseData := do
  let n ← getNode id
  match n.kind with
  | .case data => pure data
  | .suite _ => fail (.notACase n.name)

/-- The path of an object, which has to exist; it is remembered from now on. -/
def getPath (id : ObjectId) : Build Path := do
  let _ ← getNode id
  modifyGet fun t => t.lookupPath id

/-- The written path of an object, which has to exist; it is remembered from now on. -/
def getText (id : ObjectId) : Build String := do
  let _ ← getNode id
  modifyGet fun t => t.lookupText id

/-! ### Creation -/

/-- Add a detached object. -/
def insert (name : String) (kind : NodeKind) : Build ObjectId := do
  if isElement name then
    modifyGet fun t => (t.size, ⟨t.nodes.push ⟨name, none, none, [], kind⟩⟩)
  else
    fail (.invalidName name)

/-- Create a detached suite. -/
def suite (name : String) : Build ObjectId := insert name (.suite [])

/-- Create a detached case. -/
def case (name : String) (body : Script) (teardown : Option Script) : Build ObjectId :=
  insert name (.case (.new (.simple body) teardown))

/-- The tags of subunits have to be path elements and pairwise different; `seen` are
those before. -/
def checkTags (name : String) (seen : List String) : List String → Except TreeError Unit
  | [] => .ok ()
  | tag :: tags =>
    if !isElement tag then .error (.invalidName tag)
    else if seen.contains tag then .error (.duplicateName name tag)
    else checkTags name (tag :: seen) tags

/-- Create a detached complex case from its subunits, of which there has to be one. -/
def complexCase (name : String) (units : List (String × Script)) (teardown : Option Script) :
    Build ObjectId := do
  if units.isEmpty then fail (.noSubunits name)
  match checkTags name [] (units.map Prod.fst) with
  | .error e => fail e
  | .ok _ => insert name (.case (.new (.complex units) teardown))

/-! ### Attaching -/

/-- Make `suite` the parent of `child`. -/
def attach (suite child : ObjectId) : Build ObjectId := do
  let c ← getNode child
  if c.parent.isSome then fail (.alreadyParented c.name)
  let s ← getNode suite
  if !s.isSuite then fail (.notASuite s.name)
  let t ← get
  -- `child` has no parent, so this can only be true of the root of `suite`
  if (t.lineage suite).contains child then fail (.wouldCycle s.name c.name)
  if s.children.any fun sibling => t.name? sibling == some c.name then
    let path ← getText suite
    fail (.duplicateName path c.name)
  set <| ((t.update suite fun n => { n with kind := .suite (n.children ++ [child]) }).update child
    fun n => { n with parent := some suite }).forgetPathsWithin t.size child
  pure child

def addSuite (parent : ObjectId) (name : String) : Build ObjectId := do
  attach parent (← suite name)

def addCase (parent : ObjectId) (name : String) (body : Script) : Build ObjectId := do
  attach parent (← case name body none)

def addComplexCase (parent : ObjectId) (name : String) (units : List (String × Script))
    (teardown : Option Script) : Build ObjectId := do
  attach parent (← complexCase name units teardown)

/-! ### Declarations -/

/-- Declare that a case must not run unless `dependency` has passed. -/
def addDependency (case dependency : ObjectId) : Build Unit := do
  let _ ← getCase case
  modify fun t =>
    t.updateCase case fun c => { c with dependencies := c.dependencies ++ [dependency] }

/-- Attach an expectation to a case. -/
def addExpectation (case : ObjectId) (e : Expectation) : Build Unit := do
  if e.domain == engineDomain then violate .engineDomainExpected
  let _ ← getCase case
  modify fun t => t.updateCase case fun c => { c with expectations := c.expectations ++ [e] }

/-- Expect a case to log messages, counted by the given counter.  The pattern is read before
the case is looked at. -/
def expectMessage (case : ObjectId) (domain : String) (levels : LevelSet) (pattern : String)
    (counter : Nat) : Build Expectation := do
  match Pattern.ofSource pattern with
  | .error _ => fail .invalidPattern
  | .ok pattern =>
    let e : Expectation := ⟨domain, levels, pattern, counter⟩
    addExpectation case e
    pure e

/-- Fail every test at or below an object that logs what the policy names. -/
def failIfLogged (object : ObjectId) (p : Policy) : Build Unit := do
  let _ ← getNode object
  modify fun t => t.update object fun n => { n with policies := n.policies ++ [p] }

/-! ### Running -/

/-- Take the body of a case out. -/
def takeBody (id : ObjectId) : Build (Option Body) := do
  let c ← getCase id
  modify fun t => t.updateCase id fun c => { c with body := none }
  pure c.body

/-- Take the teardown of a case out. -/
def takeTeardown (id : ObjectId) : Build (Option Script) := do
  let c ← getCase id
  modify fun t => t.updateCase id fun c => { c with teardown := none }
  pure c.teardown

/-- Store the result of a case, which may be done once. -/
def setResult (id : ObjectId) (v : Verdict) : Build Unit := do
  let c ← getCase id
  if c.result.isSome then violate .resolvedTwice
  modify fun t => t.updateCase id fun c => { c with result := some v }

/-! ### Queries -/

/-- What can be seen of an object. -/
structure Info where
  name : String
  path : Path
  kind : ObjectKind
  parent : Option ObjectId
  children : List ObjectId
  leaves : List ObjectId
  leafCount : Nat
  tags : List String
  dependencies : List ObjectId
  result : Option Verdict
  deriving Repr

/-- What can be seen of an object, which has to exist. -/
def info (id : ObjectId) : Build Info := do
  let n ← getNode id
  let path ← getPath id
  let t ← get
  pure
    { name := n.name
      path
      kind := (t.kind? id).getD .suite
      parent := n.parent
      children := n.children
      leaves := t.leaves id
      leafCount := t.leafCount id
      tags := t.tags id
      dependencies := t.dependencies id
      result := t.result? id }

end Tree

end TestEngine
