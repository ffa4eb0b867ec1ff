/-
TestEngine/Tree/Basic.lean

The tree of tests, kept as an arena: objects are numbered in order of creation, a
suite lists its children, and every object names its parent once it has one.

Walks along the tree (`lineage`, `leavesWithin`) carry a bound, which the number of
objects always suffices for, since no object is its own ancestor.
-/
import TestEngine.Path.Cell
import TestEngine.Script

namespace TestEngine

/-! ### Objects -/

/-- What a case runs: one script, or one for each subunit under its tag. -/
inductive Body
  | simple (script : Script)
  | complex (units : List (String × Script))

/-- The tags of the subunits; a simple body has none. -/
def Body.tags : Body → List String
  | .simple _ => []
  | .complex units => units.map Prod.fst

/-- The data of a case.  The body and the teardown are taken out when they run. -/
structure CaseData where
  tags : List String
  body : Option Body
  teardown : Option Script
  dependencies : List ObjectId
  expectations : List Expectation
  result : Option Verdict

namespace CaseData

/-- A case that has not run. -/
def new (body : Body) (teardown : Option Script) : CaseData :=
  ⟨body.tags, some body, teardown, [], [], none⟩

/-- The number of results that the case reports. -/
def leafCount (c : CaseData) : Nat := max c.tags.length 1

end CaseData

/-- What an object is. -/
inductive NodeKind
  | suite (children : List ObjectId)
  | case (data : CaseData)

/-- An object of the tree; `cachedPath` is its path, once that has been asked for. -/
structure Node where
  name : String
  parent : Option ObjectId
  cachedPath : Option PathCell
  policies : List Policy
  kind : NodeKind

namespace Node

def children (n : Node) : List ObjectId :=
  match n.kind with
  | .suite children => children
  | .case _ => []

def case? (n : Node) : Option CaseData :=
  match n.kind with
  | .suite _ => none
  | .case data => some data

def isSuite (n : Node) : Bool := n.case?.isNone

end Node

/-- The kinds that are told apart from outside. -/
inductive ObjectKind
  | suite
  | case
  | complexCase
  deriving DecidableEq, Repr

/-- The objects, in order of their numbers. -/
structure Tree where
  nodes : Array Node

namespace Tree

def empty : Tree := ⟨#[]⟩

def size (t : Tree) : Nat := t.nodes.size

def node? (t : Tree) (id : ObjectId) : Option Node := t.nodes[id]?

/-! ### Views -/

def name? (t : Tree) (id : ObjectId) : Option String := (t.node? id).map Node.name

def parent? (t : Tree) (id : ObjectId) : Option ObjectId := (t.node? id).bind Node.parent

def children (t : Tree) (id : ObjectId) : List ObjectId :=
  match t.node? id with
  | some n => n.children
  | none => []

def case? (t : Tree) (id : ObjectId) : Option CaseData := (t.node? id).bind Node.case?

def kind? (t : Tree) (id : ObjectId) : Option ObjectKind :=
  (t.node? id).map fun n =>
    match n.case? with
    | none => .suite
    | some c => if c.tags.isEmpty then .case else .complexCase

def tags (t : Tree) (id : ObjectId) : List String :=
  match t.case? id with
  | some c => c.tags
  | none => []

def dependencies (t : Tree) (id : ObjectId) : List ObjectId :=
  match t.case? id with
  | some c => c.dependencies
  | none => []

def result? (t : Tree) (id : ObjectId) : Option Verdict := (t.case? id).bind CaseData.result

/-- The number of results that an object itself reports. -/
def leafCount (t : Tree) (id : ObjectId) : Nat :=
  match t.case? id with
  | some c => c.leafCount
  | none => 0

/-! ### Walks -/

/-- The object, its parent, and so on, as far as the bound allows. -/
def lineageWithin (t : Tree) : Nat → ObjectId → List ObjectId
  | 0, _ => []
  | bound + 1, id =>
    match t.node? id with
    | none => []
    | some n =>
      id :: match n.parent with
        | none => []
        | some parent => t.lineageWithin bound parent

/-- The object and its ancestors, innermost first. -/
def lineage (t : Tree) (id : ObjectId) : List ObjectId := t.lineageWithin t.size id

/-- The path of an object, from the names of its lineage. -/
def path (t : Tree) (id : ObjectId) : Path := ⟨(t.lineage id).reverse.filterMap t.name?⟩

/-- The cases at or below an object, in declaration order, as far down as the bound
allows. -/
def leavesWithin (t : Tree) : Nat → ObjectId → List ObjectId
  | 0, _ => []
  | bound + 1, id =>
    match t.node? id with
    | none => []
    | some n =>
      match n.kind with
      | .case _ => [id]
      | .suite children => children.flatMap (t.leavesWithin bound)

/-- The cases at or below an object, depth first in declaration order. -/
def leaves (t : Tree) (id : ObjectId) : List ObjectId := t.leavesWithin t.size id

/-- The policies of an object and its ancestors, innermost first. -/
def inheritedPolicies (t : Tree) (id : ObjectId) : List Policy :=
  (t.lineage id).flatMap fun a =>
    match t.node? a with
    | some n => n.policies
    | none => []

/-! ### Changes -/

/-- Change one object. -/
def update (t : Tree) (id : ObjectId) (f : Node → Node) : Tree := ⟨t.nodes.modify id f⟩

/-- Change the data of a case; a suite stays as it is. -/
def updateCase (t : Tree) (id : ObjectId) (f : CaseData → CaseData) : Tree :=
  t.update id fun n =>
    match n.kind with
    | .suite _ => n
    | .case data => { n with kind := .case (f data) }

/-- Forget the remembered paths of an object and of all below it. -/
def forgetPathsWithin (t : Tree) : Nat → ObjectId → Tree
  | 0, _ => t
  | bound + 1, id =>
    (t.children id).foldl (fun t child => t.forgetPathsWithin bound child)
      (t.update id fun n => { n with cachedPath := none })

/-- Look a path up: a remembered one is taken as it is, and the paths that have to be
put together on the way are remembered. -/
def lookupPathWithin (t : Tree) : Nat → ObjectId → Path × Tree
  | 0, _ => (.empty, t)
  | bound + 1, id =>
    match t.node? id with
    | none => (.empty, t)
    | some n =>
      match n.cachedPath with
      | some c => (c.path, t)
      | none =>
        let (above, t) := match n.parent with
          | none => (Path.empty, t)
          | some parent => t.lookupPathWithin bound parent
        let p : Path := ⟨above.elements ++ [n.name]⟩
        (p, t.update id fun n => { n with cachedPath := some (.ofPath p) })

/-- Look the path of an object up. -/
def lookupPath (t : Tree) (id : ObjectId) : Path × Tree := t.lookupPathWithin t.size id

/-- Look the written form of the path of an object up.  It is remembered with the path. -/
def lookupText (t : Tree) (id : ObjectId) : String × Tree :=
  let (p, t) := t.lookupPath id
  let cell := ((t.node? id).bind Node.cachedPath).getD (.ofPath p)
  (cell.render, t.update id fun n => { n with cachedPath := some cell.written })

end Tree

end TestEngine
