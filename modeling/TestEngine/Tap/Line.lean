/-
TestEngine/Tap/Line.lean

The texts of a TAP stream: the plan, one result line per test, diagnostics as
`#` lines, and the bail-out line.  A message of several lines stays inside its
result line or diagnostic: each further line is written after `#` and three
spaces, and one newline at the end of the message is dropped.
-/
import TestEngine.Path
import TestEngine.Verdict
import TestEngine.Text.Ansi

namespace TestEngine

namespace Tap

open Text

/-- What separates the lines of a message: a newline, `mark` and three spaces. -/
def continuation (mark : String) : String := "\n" ++ mark ++ "   "

/-- A message without its final newline, its further lines marked with `mark`. -/
def indent (mark : String) (message : String) : String :=
  String.ofList
    (joinWith (continuation mark).toList (lines (dropFinalNewline message.toList)))

/-- The plan line for `count` results. -/
def plan (count : Nat) : String :=
  if count = 0 then "1..0 # Skipped: no tests to run" else "1.." ++ toString count

/-- The word that a result line starts with. -/
def status : Verdict.Kind → String
  | .fail => "not ok"
  | .pass => "ok"
  | .skip => "ok"

/-- The directive after the path: none for a pass without a message. -/
def directive (v : Verdict) : String :=
  match v.kind, v.message with
  | .pass, none => ""
  | kind, none => " # " ++ kind.label
  | kind, some message => " # " ++ kind.label ++ " " ++ indent "#" message

/-- The result line number `number`, with the further lines of its message. -/
def result (number : Nat) (path : Path) (v : Verdict) : String :=
  status v.kind ++ " " ++ toString number ++ " " ++ path.render ++ directive v

/-- A text as `#` lines, the mark in bold if colours are on. -/
def diagnostic (text : String) (colours : Bool) : String :=
  let mark := if colours then embolden "#" else "#"
  mark ++ " " ++ indent mark text

/-- The line that ends the whole stream early. -/
def bailOut : Option String → String
  | some message => "Bail out! " ++ message
  | none => "Bail out!"

end Tap

end TestEngine
