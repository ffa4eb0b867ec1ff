/-
TestEngine/Script.lean

Test bodies as data.  A body, a teardown and what a hook does are scripts: lists
of actions, in which blocks of actions may be nested.  Nothing is carried out
here; `Check` and `Prerequisite` only say when and how they end a test.
-/
import TestEngine.Expectation
import TestEngine.LogEvent
import TestEngine.Mode
import TestEngine.Verdict
import TestEngine.Violation

namespace TestEngine

/-! ### Checks -/

/-- What a comparison compares. -/
inductive Operands
  | ints (left right : Int)
  | texts (left right : String)
  deriving DecidableEq, Repr

/-- A check of a test body; `source` is the text of what is checked. -/
inductive Check
  | holds (cond : Bool) (source : String) (message : Option String)
  | isTrue (cond : Bool) (source : String)
  | isFalse (cond : Bool) (source : String)
  | isSome (present : Bool) (source : String)
  | isNone (present : Bool) (source : String)
  | equal (operands : Operands) (source : String) (message : Option String)
  | notReached
  deriving DecidableEq, Repr

/-- Are the two operands equal, and how are they shown? -/
def Operands.compare : Operands → Bool × String × String
  | ints l r => (l == r, toString l, toString r)
  | texts l r => (l == r, Text.quoted l, Text.quoted r)

/-- The message of the failure, if the check fails. -/
def Check.failure? : Check → Option String
  | holds cond source message =>
    if cond then none else some (message.getD ("assertion failed: " ++ source))
  | isTrue cond source => if cond then none else some ("should be true: " ++ source)
  | isFalse cond source => if cond then some ("should be false: " ++ source) else none
  | isSome present source => if present then none else some ("should be Some: " ++ source)
  | isNone present source => if present then some ("should be None: " ++ source) else none
  | equal operands source message =>
    match operands.compare with
    | (true, _, _) => none
    | (false, l, r) =>
      some (message.getD
        ("assertion failed: `" ++ source ++ "` (left: " ++ l ++ ", right: " ++ r ++ ")"))
  | notReached => some "code should not be reached"

/-- A condition without which a test is skipped; `source` is its text. -/
inductive Prerequisite
  | condition (cond : Bool) (source : String) (message : Option String)
  | flags (required : ModeFlags) (message : Option String)
  | never (message : String)
  deriving DecidableEq, Repr

namespace Prerequisite

/-- Slow tests are enabled. -/
def thorough : Prerequisite := flags (.single .thorough) (some "thorough tests disabled")

/-- Performance tests are enabled. -/
def perf : Prerequisite := flags (.single .perf) (some "performance tests disabled")

/-- Tests of undefined behaviour are enabled. -/
def undefined : Prerequisite :=
  flags (.single .undefined) (some "tests invoking undefined behaviour are disabled")

/-- The message with which the test is skipped when the flags `active` are in
force, if it is. -/
def refusal? (active : ModeFlags) : Prerequisite → Option String
  | condition cond source message =>
    if cond then none else some (message.getD ("pre-test check failed: " ++ source))
  | flags required message =>
    if active.contains required then none
    else some (message.getD ("missing prerequisite flags: " ++ required.text))
  | never message => some message

end Prerequisite

/-! ### Panics -/

/-- What unwinding carries. -/
inductive Payload
  | abortSignal
  | text (s : String)
  | nonText
  | violation (v : Violation)
  deriving DecidableEq, Repr

/-- The text of a panic. -/
def Payload.message : Payload → String
  | abortSignal => "abort signal"
  | text s => s
  | nonText => "non-string panic payload"
  | violation v => "contract violation: " ++ v.message

/-! ### Hooks -/

/-- What a hook decides about a diagnostic. -/
inductive Answer
  | proceed
  | ignore
  | suppress
  | abort (message : String)
  | bailOut
  deriving DecidableEq, Repr

/-- A rule of a hook: which diagnostics it is about, what is done first, and what
is answered.  Absent conditions hold. -/
structure Rule (α : Type) where
  domain : Option String
  levels : Option LevelSet
  fragment : Option String
  run : List α
  answer : Answer

/-- Does the text hold the fragment? -/
def isFragment (fragment : List Char) : List Char → Bool
  | [] => fragment.isEmpty
  | c :: cs => fragment.isPrefixOf (c :: cs) || isFragment fragment cs

/-- Is the rule about the diagnostic? -/
def Rule.isMatch {α : Type} (r : Rule α) (d : Diagnostic) : Bool :=
  (match r.domain with
    | some domain => d.domain == domain
    | none => true) &&
  (match r.levels with
    | some levels => levels.contains d.level
    | none => true) &&
  (match r.fragment with
    | some fragment => isFragment fragment.toList d.text.toList
    | none => true)

/-- A hook made of rules, the first that matches deciding.  With a label it traces
what it is asked about. -/
structure RuleHook (α : Type) where
  label : Option String
  rules : List (Rule α)
  deriving Inhabited

/-! ### Actions -/

/-- What a script can ask the engine, to do one thing or another: whether the console
has these settings, the flags are in force, a test is running, so many hooks are in the
chain, so many diagnostics have been counted, or the thread is unwinding. -/
inductive Query
  | console (verbosity : Verbosity) (colours : Bool)
  | flags (required : ModeFlags)
  | active
  | depth (hooks : Nat)
  | counted (handle amount : Nat)
  | unwinding
  deriving DecidableEq, Repr

/-- A step of a script.

A hook that is pushed can be popped again by its number.  `pushHook` puts the number at
the end of a list that all scripts share, and `popHook` looks it up there.  `letHook`
gives it to the block `run` alone: there, `popLocal` has it as a local name, which is
how many blocks of this kind lie between. -/
inductive Action
  | trace (text : String)
  | check (c : Check)
  | require (p : Prerequisite)
  | checkExpected (handle count : Nat)
  | count (handle : Nat)
  | peek (handle : Nat)
  | failAt (file : String) (line : Nat) (message : String)
  | raise (v : Verdict)
  | violate (message : String)
  | panic (p : Payload)
  | emit (d : Diagnostic)
  | event (e : LogEvent)
  | thread (run : List Action)
  | guarded (run onDrop : List Action)
  | catch (run : List Action)
  | execute (run : List Action)
  | choose (q : Query) (run otherwise : List Action)
  | pushHook (h : RuleHook Action)
  | popHook (index : Nat)
  | withHook (h : RuleHook Action) (run : List Action)
  | letHook (h : RuleHook Action) (run : List Action)
  | popLocal (index : Nat)
  | askDefault (d : Diagnostic)
  | bailOut (level : Option Level) (message : String)
  | configure (verbosity : Verbosity) (colours : Bool)
  | showConsole
  | showDepth
  | showActive
  | showFlags
  | intercept
  | unknown (name : String)
  deriving Inhabited

/-- A test body, a teardown, or what a hook does. -/
abbrev Script := List Action

end TestEngine
