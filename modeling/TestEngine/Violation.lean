/-
TestEngine/Violation.lean

What goes wrong in the use of the engine.  A `TreeError` is an answer: the tree
of tests could not be built as asked.  A `Violation` means that the engine itself
was driven wrongly; it is raised as a panic that no test boundary catches.
-/
import TestEngine.Path
import TestEngine.Diagnostic

namespace TestEngine

/-- The number of a test object in its tree, in order of creation. -/
abbrev ObjectId := Nat

/-! ### Errors of construction -/

/-- Why a tree is not changed as asked. -/
inductive TreeError
  | invalidName (name : String)
  | alreadyParented (child : String)
  | duplicateName (suite name : String)
  | notASuite (name : String)
  | notACase (name : String)
  | wouldCycle (suite child : String)
  | noSubunits (name : String)
  | invalidPattern
  deriving DecidableEq, Repr

namespace TreeError

/-- The error in words. -/
def message : TreeError → String
  | invalidName name => "invalid test name `" ++ name ++ "`"
  | alreadyParented child => "`" ++ child ++ "` already has a parent"
  | duplicateName suite name => "`" ++ suite ++ "` already contains a child named `" ++ name ++ "`"
  | notASuite name => "`" ++ name ++ "` is not a suite"
  | notACase name => "`" ++ name ++ "` is not a test case"
  | wouldCycle suite child =>
    "attaching `" ++ child ++ "` to `" ++ suite ++ "` would create a cycle"
  | noSubunits name => "complex case `" ++ name ++ "` declares no subunits"
  | invalidPattern => "invalid message pattern"

/-- The name of the kind of error. -/
def name : TreeError → String
  | invalidName _ => "InvalidName"
  | alreadyParented _ => "AlreadyParented"
  | duplicateName .. => "DuplicateName"
  | notASuite _ => "NotASuite"
  | notACase _ => "NotACase"
  | wouldCycle .. => "WouldCycle"
  | noSubunits _ => "NoSubunits"
  | invalidPattern => "InvalidPattern"

/-- A stable code for the kind of error. -/
def code : TreeError → String
  | invalidName _ => "tapline::tree::invalid_name"
  | alreadyParented _ => "tapline::tree::already_parented"
  | duplicateName .. => "tapline::tree::duplicate_name"
  | notASuite _ => "tapline::tree::not_a_suite"
  | notACase _ => "tapline::tree::not_a_case"
  | wouldCycle .. => "tapline::tree::cycle"
  | noSubunits _ => "tapline::tree::no_subunits"
  | invalidPattern => "tapline::expect::pattern"

/-- Advice, for the errors that have some. -/
def help? : TreeError → Option String
  | invalidName _ =>
    some "names are single path elements: non-empty, without '/' or whitespace"
  | alreadyParented _ => some "a test object can be attached exactly once"
  | _ => none

end TreeError

/-! ### Contract violations -/

/-- A wrong use of the engine. -/
inductive Violation
  | invalidElement (text : String)
  | unknownObject (id : ObjectId)
  | popOutOfOrder
  | popEmpty
  | alreadyActive
  | notActive
  | foreignSubscriber
  | engineDomainExpected
  | circular (path : Path)
  | notSiblings (case dependency : Path)
  | resolvedTwice
  | bodyConsumed (path : Path)
  | tree (error : TreeError)
  | ranTwice
  | stated (text : String)
  deriving DecidableEq, Repr

namespace Violation

/-- The violation in words. -/
def message : Violation → String
  | invalidElement text => "invalid path element `" ++ text ++ "`"
  | unknownObject id => "unknown test object ObjectId(" ++ toString id ++ ")"
  | popOutOfOrder => "log hook popped out of order"
  | popEmpty => "log hook popped with no hooks installed"
  | alreadyActive => "an execution context is already active"
  | notActive => "test aborted outside of an execution context"
  | foreignSubscriber =>
    "a global tracing subscriber without HookLayer is already installed; " ++
      "diagnostics would bypass the hook chain"
  | engineDomainExpected =>
    "messages from the `" ++ engineDomain ++ "` domain cannot be expected"
  | circular path => "circular dependency involving " ++ path.render
  | notSiblings case dependency =>
    "dependencies must be siblings: " ++ case.render ++ " depends on " ++ dependency.render
  | resolvedTwice => "test result assigned twice"
  | bodyConsumed path => "body of " ++ path.render ++ " already consumed"
  | tree error => error.message
  | ranTwice => "a root suite can only be run once per process"
  | stated text => text

end Violation

end TestEngine
