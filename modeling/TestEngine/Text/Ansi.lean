/-
TestEngine/Text/Ansi.lean

Colours for a terminal.  A painted text starts and ends with the reset
sequence, so it neither inherits an attribute nor leaves one behind.
-/
namespace TestEngine

namespace Text

/-- The terminal colours that the engine uses. -/
inductive Colour
  | red
  | green
  | yellow
  | blue
  | magenta
  | cyan
  | white
  deriving DecidableEq, Repr

/-- The digit that selects the colour as a foreground. -/
def Colour.digit : Colour → String
  | .red => "1"
  | .green => "2"
  | .yellow => "3"
  | .blue => "4"
  | .magenta => "5"
  | .cyan => "6"
  | .white => "7"

/-- The sequence that clears all attributes. -/
def ansiReset : String := "\x1b[0m"

/-- The sequence that turns bold on. -/
def ansiBold : String := "\x1b[1m"

/-- The text in a colour, and bold if asked for. -/
def paint (text : String) (colour : Colour) (bold : Bool) : String :=
  ansiReset ++ (if bold then ansiBold else "") ++ "\x1b[3" ++ colour.digit ++ "m" ++ text ++ ansiReset

/-- The text in bold. -/
def embolden (text : String) : String :=
  ansiReset ++ ansiBold ++ text ++ ansiReset

end Text

end TestEngine
