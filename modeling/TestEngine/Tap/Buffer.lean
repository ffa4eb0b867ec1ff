/-
TestEngine/Tap/Buffer.lean

Where TAP texts go.  A `Buffer` collects them in one string and puts a newline
in front of a text if it already holds something.  `printed` is what a terminal
gets for the same texts: each of them followed by a newline.

The `Reporter` numbers the results that it reports.
-/
import TestEngine.Tap.Line

namespace TestEngine

namespace Tap

/-- Collected output. -/
structure Buffer where
  contents : String
  deriving DecidableEq, Repr

namespace Buffer

def empty : Buffer := ⟨""⟩

/-- Add a text, after a newline unless the buffer is empty. -/
def emit (b : Buffer) (text : String) : Buffer :=
  ⟨if b.contents == "" then b.contents ++ text else b.contents ++ "\n" ++ text⟩

/-- Add the texts in order. -/
def emitAll (b : Buffer) (texts : List String) : Buffer := texts.foldl emit b

/-- A line without the carriage return at its end. -/
def dropReturn (line : List Char) : List Char :=
  if line.getLast? == some '\r' then line.dropLast else line

/-- The lines of a text cut at its newlines: a piece that a newline ends loses a
carriage return too, and the last piece is a line only if it is not empty. -/
def linesOfPieces : List (List Char) → List (List Char)
  | [] => []
  | [last] => if last.isEmpty then [] else [last]
  | piece :: pieces => dropReturn piece :: linesOfPieces pieces

/-- The lines of the contents. -/
def lines (b : Buffer) : List String :=
  (linesOfPieces (Text.lines b.contents.toList)).map String.ofList

end Buffer

/-- What a terminal shows after the texts: each of them with a newline. -/
def printed (texts : List String) : String :=
  String.join (texts.map (· ++ "\n"))

/-! ### The reporter -/

/-- A reporter on a buffer, with the number of results reported so far. -/
structure Reporter where
  buffer : Buffer
  reported : Nat
  deriving Repr

namespace Reporter

/-- What a reporter is asked to write. -/
inductive Step
  | plan (count : Nat)
  | result (path : Path) (verdict : Verdict)
  | bailOut (message : String)
  | raw (text : String)
  deriving Repr

def empty : Reporter := ⟨.empty, 0⟩

/-- Write one text; a result gets the next number. -/
def step (r : Reporter) : Step → Reporter
  | .plan count => ⟨r.buffer.emit (plan count), r.reported⟩
  | .result path v => ⟨r.buffer.emit (result (r.reported + 1) path v), r.reported + 1⟩
  | .bailOut message => ⟨r.buffer.emit (bailOut (some message)), r.reported⟩
  | .raw text => ⟨r.buffer.emit text, r.reported⟩

/-- Carry out the steps in order. -/
def run (r : Reporter) (steps : List Step) : Reporter := steps.foldl step r

end Reporter

end Tap

end TestEngine
