/-
TestEngine/Diagnostic.lean

A diagnostic is what code under test logs: where it comes from, how severe it
is, its text, and whether it is fatal.  Its written form is

    FATAL-LEVEL: (domain) text

without `FATAL-` if it is not fatal and without `(domain) ` if the domain is empty.
-/
import TestEngine.Level

namespace TestEngine

/-- A logged message. -/
structure Diagnostic where
  domain : String
  level : Level
  text : String
  fatal : Bool
  deriving DecidableEq, Repr

/-- The domain of the messages that the engine itself logs. -/
def engineDomain : String := "tapline"

namespace Diagnostic

/-- A diagnostic that is fatal only if its level is `error`. -/
def new (domain : String) (level : Level) (text : String) : Diagnostic :=
  ⟨domain, level, text, level == .error⟩

/-- The same diagnostic, fatal. -/
def asFatal (d : Diagnostic) : Diagnostic := { d with fatal := true }

/-- The written form; with colours, the mark and the level are painted. -/
def format (d : Diagnostic) (colours : Bool) : String :=
  let mark (text : String) (level : Level) :=
    if colours then Text.paint text level.colour true else text
  (if d.fatal then mark "FATAL" .error ++ "-" else "") ++ mark d.level.label d.level ++ ": " ++
    (if d.domain == "" then "" else "(" ++ d.domain ++ ") ") ++ d.text

/-- The written form without colours. -/
def plain (d : Diagnostic) : String := d.format false

end Diagnostic

end TestEngine
