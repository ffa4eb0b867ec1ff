/-
TestEngine/Demo.lean

Two small test programs.  `demo` shows every outcome that a case can have;
`bailing` has a case whose teardown logs a fatal message after the case has been
resolved, so that the run bails out.
-/
import TestEngine.Program

namespace TestEngine

namespace Demo

open Program (Step)

/-! ### Every outcome -/

/-- A library that reports a full disk. -/
def diskLow (mount : String) : Action :=
  .event (.ofMessage .warn "demo-lib" ("disk " ++ mount ++ " low"))

/-- A check of a condition with this text. -/
def checked (cond : Bool) (source : String) : Action := .check (.holds cond source none)

/-- The suite `demo`, and its run. -/
def steps : List Step :=
  [ .session (.suite "demo"),
    .session (.addCase 0 "assert" [checked true "true", checked false "false"]),
    .session (.addCase 0 "not_reached" [.check .notReached]),
    .session (.addCase 0 "some" [.check (.isSome false "missing")]),
    .session (.addCase 0 "skip" [.require .thorough, .require .perf]),
    .session (.case "teardown" [checked true "value == 42"]
      (some [.event (.ofMessage .info "demo" "teardown released 42")])),
    .session (.attach 0 5),
    .session (.handle ⟨"demo-lib", .single .warning, "^disk .* low$"⟩),
    .session (.addCase 0 "expected_warning" [diskLow "/tmp", .checkExpected 0 1]),
    .session (.addExpectation 6 0),
    .session (.addCase 0 "unexpected_warning" [diskLow "/var"]),
    .session (.addCase 0 "first"
      [.event (.ofMessage .info "demo" "running first"), .check .notReached]),
    .session (.addCase 0 "second" [checked true "true"]),
    .session (.depend 9 8),
    .session (.addComplexCase 0 "phases"
      [ ("setup", [checked true "answer found"]),
        ("exercise",
          [.check (.holds false "answer == 41" (some "answer drifted"))]),
        ("verify", []) ] none),
    .session (.addCase 0 "passes" [checked true "1 + 1 == 2"]),
    .main 0 ]

/-! ### Bailing out -/

/-- A teardown that logs a fatal message at the named level. -/
def release (level : String) : Script :=
  let fatal (l : EventLevel) : Action :=
    .event ⟨l, "bailout", [⟨"message", .display "cleanup failed"⟩, ⟨"fatal", .truth true⟩]⟩
  if level == "warning" then [fatal .warn]
  else if level == "critical" then
    [.emit (Diagnostic.new "bailout" .critical "cleanup failed").asFatal]
  else [fatal .error]

/-- The suite `bail`, and its run. -/
def bailing (level : String) : List Step :=
  [ .session (.suite "bail"),
    .session (.case "cleanup" [checked true "true"] (some (release level))),
    .session (.attach 0 1),
    .session (.addCase 0 "after" [checked true "true"]),
    .main 0 ]

end Demo

end TestEngine
