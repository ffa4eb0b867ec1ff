/-
TestEngine/Run/Case.lean

Running a single case and reporting it.

A case without subunits runs its body as one test and reports one line.  A complex
case runs its subunits in order and reports a line for each; once a subunit has
failed, those after it fail without running.  While a case runs, two hooks stand
on top of the chain: its expectations, and below them its policies.

`report` numbers the lines from `number` on.
-/
import TestEngine.Engine.Perform
import TestEngine.Tree.Basic

namespace TestEngine

namespace Engine

/-- A reported line: the path, and the result. -/
abbrev Line := Path × Verdict

/-- Report one result of a case. -/
def report (case : ObjectId) (number : Nat) (path : Path) (v : Verdict) : Act Unit := do
  print (Tap.result number path v)
  note (.reported case path v)

/-- The path of a subunit. -/
def subpath (path : Path) (tag : String) : Act Path :=
  match path.push tag with
  | .ok p => pure p
  | .error e => violate (.invalidElement e.text)

/-! ### Running -/

/-- Run one unit of a case as a test. -/
def runUnit (case : ObjectId) (unit : Nat) (script : Script) : Act Verdict :=
  execute do
    note (.unitStarted case unit)
    perform script

/-- Run the subunits from number `unit` on; `failed` tells whether one before them has
failed.  Gives the tag and the line of each. -/
def runSubunits (case : ObjectId) (path : Path) (number unit : Nat) (failed : Bool) :
    List (String × Script) → Act (List (String × Line))
  | [] => pure []
  | (tag, script) :: units => do
    let v ← if failed then pure (.fail "previous subunit failed") else runUnit case unit script
    let p ← subpath path tag
    report case number p v
    let others ← runSubunits case path (number + 1) (unit + 1) (failed || v.isFail) units
    pure ((tag, p, v) :: others)

/-- The result of a complex case from those of its subunits: the first failure counts;
without one, the case is skipped if all its subunits are, and passes otherwise. -/
def coalesce (units : List (String × Line)) : Verdict :=
  match units.find? fun u => u.2.2.isFail with
  | some u => .fail ("subunit " ++ u.1 ++ " failed")
  | none =>
    if units.all fun u => u.2.2.kind == .skip then .skip "all subunits skipped" else .pass

/-- Run a body and report its lines.  Gives the result of the case and the lines. -/
def runBody (case : ObjectId) (path : Path) (number : Nat) : Body → Act (Verdict × List Line)
  | .simple script => do
    let v ← runUnit case 0 script
    report case number path v
    pure (v, [(path, v)])
  | .complex units => do
    let lines ← runSubunits case path number 0 false units
    pure (coalesce lines, lines.map Prod.snd)

/-- Run a body under the hooks of its case, with messages before and after it. -/
def runCase (case : ObjectId) (path : Path) (number : Nat) (policies : List Policy)
    (expectations : List Expectation) (body : Body) : Act (Verdict × List Line) := do
  log perform (.ofMessage .debug engineDomain (">>> " ++ path.render))
  -- the expectations are on top, so what a case expects never reaches its policies
  let outcome ← withHook (.failIfLogged policies) fun outer =>
    withHook (.expecting expectations) fun inner => do
      note (.bracketed case outer inner)
      runBody case path number body
  log perform (.ofMessage .debug engineDomain ("<<< " ++ path.render))
  pure outcome

/-! ### Cases that do not run -/

/-- Report the same result for the given subunits. -/
def reportSubunits (case : ObjectId) (path : Path) (number : Nat) (v : Verdict) :
    List String → Act (List Line)
  | [] => pure []
  | tag :: tags => do
    let p ← subpath path tag
    report case number p v
    let others ← reportSubunits case path (number + 1) v tags
    pure ((p, v) :: others)

/-- Report a case that does not run: one line, or one for each subunit. -/
def reportUnrun (case : ObjectId) (path : Path) (number : Nat) (tags : List String) (v : Verdict) :
    Act (List Line) := do
  if tags.isEmpty then
    report case number path v
    pure [(path, v)]
  else
    reportSubunits case path number v tags

end Engine

end TestEngine
