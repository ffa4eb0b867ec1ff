/-
TestEngine/LogEvent.lean

Events of the logging façade and the diagnostics they stand for.

An event has a level, a target and typed fields, which are read in order.  A field
called `message` that is no truth value gives the text, and the last one wins; a
truth value called `fatal` gives the flag, and again the last one wins; every other
field is written `name=value` after the text.
-/
import TestEngine.Diagnostic
import TestEngine.Text.Quoted

namespace TestEngine

/-- The value of a field. -/
inductive FieldValue
  | text (s : String)
  | truth (b : Bool)
  | int (i : Int)
  | display (s : String)
  | debug (s : String)
  deriving DecidableEq, Repr

/-- How a value is written: texts as they are, quoted only in their debug form. -/
def FieldValue.shown : FieldValue → String
  | text s => s
  | truth b => if b then "true" else "false"
  | int i => toString i
  | display s => s
  | debug s => Text.quoted s

/-- A named value. -/
structure LogField where
  name : String
  value : FieldValue
  deriving DecidableEq, Repr

/-- A field as an entry of a text. -/
def LogField.entry (f : LogField) : String := f.name ++ "=" ++ f.value.shown

/-- A logged event. -/
structure LogEvent where
  level : EventLevel
  target : String
  fields : List LogField
  deriving DecidableEq, Repr

namespace LogEvent

/-- What has been read of the fields: the message, the entries in order, and the
fatal flag. -/
structure Reading where
  message : Option String
  entries : List String
  fatal : Bool

/-- Read one field. -/
def Reading.field (r : Reading) (f : LogField) : Reading :=
  match f.value with
  | .truth b =>
    if f.name == "fatal" then { r with fatal := b }
    else { r with entries := r.entries ++ [f.entry] }
  | value =>
    if f.name == "message" then { r with message := some value.shown }
    else { r with entries := r.entries ++ [f.entry] }

/-- A text followed by an entry, with a space between them if there is a text. -/
def addEntry (text entry : String) : String :=
  if text == "" then entry else text ++ " " ++ entry

/-- The message and then the entries. -/
def Reading.text (r : Reading) : String := r.entries.foldl addEntry (r.message.getD "")

/-- What the fields of the event say. -/
def reading (e : LogEvent) : Reading := e.fields.foldl Reading.field ⟨none, [], false⟩

/-- The diagnostic that an event stands for. -/
def diagnostic (e : LogEvent) : Diagnostic :=
  let r := e.reading
  let level := Level.ofEvent e.level r.fatal
  ⟨e.target, level, r.text, r.fatal || level == .error⟩

/-- An event with a message and no other field. -/
def ofMessage (level : EventLevel) (target message : String) : LogEvent :=
  ⟨level, target, [⟨"message", .display message⟩]⟩

end LogEvent

end TestEngine
