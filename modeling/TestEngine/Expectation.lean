/-
TestEngine/Expectation.lean

Which diagnostics a test expects, and which it must not log.

An expectation names a domain, a set of levels and a pattern for the text; the
diagnostics it matches are counted, under the number of its counter, and do not
fail the test.  A policy names a domain and a set of levels; a test that logs a
diagnostic it matches fails.
-/
import TestEngine.Diagnostic
import TestEngine.Pattern.Reader

namespace TestEngine

/-- A diagnostic that a test expects; `counter` is the number of its counter. -/
structure Expectation where
  domain : String
  levels : LevelSet
  pattern : Pattern
  counter : Nat
  deriving Repr

/-- Does the expectation match the diagnostic? -/
def Expectation.isMatch (e : Expectation) (d : Diagnostic) : Bool :=
  d.domain == e.domain && e.levels.contains d.level && e.pattern.isMatch d.text

/-- Diagnostics that a test must not log. -/
structure Policy where
  domain : String
  levels : LevelSet
  deriving DecidableEq, Repr

namespace Policy

/-- A policy for a domain; without levels it is about criticals and warnings. -/
def new (domain : String) (levels : LevelSet) : Policy :=
  ⟨domain, if levels.isEmpty then .ofList [.critical, .warning] else levels⟩

/-- Does the policy name the domain and level of the diagnostic? -/
def isMatch (p : Policy) (d : Diagnostic) : Bool :=
  d.domain == p.domain && p.levels.contains d.level

end Policy

end TestEngine
