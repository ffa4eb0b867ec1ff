/-
TestEngine/Proofs/LogEvent.lean

What diagnostic an event stands for.  The fields of an event are read in one pass, which keeps
three things at once; here each of the three is said of the list of fields alone.  Every field has
one of three parts: it gives the flag (`LogField.fatal?`), or the text (`LogField.message?`), or
it is ordinary and is written out.  Which part it has depends on its name and on whether it is a
truth value.  `Denotes` says what a diagnostic has of an event, and leaves nothing open about it
(`Denotes.unique`).

The façade hands over a value of any other type than those of `FieldValue` in its debug form; such
a value is a `FieldValue.display` of that form.
-/
import TestEngine.Proofs.Effect
import TestEngine.Proofs.Text.Lines

namespace TestEngine

/-! ### The parts of fields -/

namespace LogField

/-- The flag that a field gives: it is a truth value called `fatal`. -/
def fatal? (f : LogField) : Option Bool :=
  match f.value with
  | .truth b => if f.name = "fatal" then some b else none
  | _ => none

/-- The text that a field gives: it is called `message` and is no truth value. -/
def message? (f : LogField) : Option String :=
  match f.value with
  | .truth _ => none
  | value => if f.name = "message" then some value.shown else none

/-- A field that gives neither. -/
def isOrdinary (f : LogField) : Bool := f.fatal?.isNone && f.message?.isNone

theorem entry_ne_empty (f : LogField) : f.entry ≠ "" := by
  intro h
  have hlist : f.entry.toList = [] := by rw [h]; rfl
  simp [entry] at hlist

end LogField

namespace LogEvent

/-! ### Reading fields -/

/-- One field gives the flag, the text or an entry. -/
theorem Reading.field_eq (r : Reading) (f : LogField) :
    r.field f = ⟨f.message?.or r.message,
      r.entries ++ ([f].filter (·.isOrdinary)).map LogField.entry, f.fatal?.getD r.fatal⟩ := by
  obtain ⟨name, value⟩ := f
  cases value with
  | truth b =>
    by_cases hname : name = "fatal" <;>
      simp [Reading.field, LogField.isOrdinary, LogField.fatal?, LogField.message?, hname]
  | text | int | display | debug =>
    by_cases hname : name = "message" <;>
      simp [Reading.field, LogField.isOrdinary, LogField.fatal?, LogField.message?, hname]

/-- What the last field gives that gives anything. -/
def last? {α : Type} (part : LogField → Option α) (fields : List LogField) : Option α :=
  (fields.filterMap part).getLast?

theorem last?_cons {α : Type} (part : LogField → Option α) (f : LogField) (fields : List LogField) :
    last? part (f :: fields) = (last? part fields).or (part f) := by
  unfold last?
  rcases hf : part f with - | a
  · rw [List.filterMap_cons_none hf, Option.or_none]
  · rw [List.filterMap_cons_some hf, List.getLast?_cons]
    cases (fields.filterMap part).getLast? <;> rfl

/-- Of many fields, the last text and the last flag count, and every entry. -/
theorem Reading.foldl_field (fields : List LogField) (r : Reading) :
    fields.foldl Reading.field r =
      ⟨(last? LogField.message? fields).or r.message,
        r.entries ++ (fields.filter (·.isOrdinary)).map LogField.entry,
        (last? LogField.fatal? fields).getD r.fatal⟩ := by
  induction fields generalizing r with
  | nil => simp [last?]
  | cons f fields ih =>
    have hentries : (f :: fields).filter (·.isOrdinary) =
        [f].filter (·.isOrdinary) ++ fields.filter (·.isOrdinary) :=
      List.filter_append [f] fields
    rw [List.foldl_cons, ih, Reading.field_eq, last?_cons, last?_cons, Option.or_assoc, hentries,
      List.map_append, List.append_assoc]
    cases last? LogField.fatal? fields <;> rfl

/-! ### Writing entries -/

/-- Entries that are not empty are written with a space between any two. -/
theorem foldl_addEntry {entries : List String} (hne : ∀ entry ∈ entries, entry ≠ "")
    (text : String) :
    entries.foldl addEntry text = " ".intercalate ([text].filter (· ≠ "") ++ entries) := by
  have hadd : addEntry = Text.joinTo " " := by
    funext text entry
    simp [addEntry, Text.joinTo]
  have hentries : entries.dropWhile (· = "") = entries := by
    rcases entries with - | ⟨entry, entries⟩
    · rfl
    · exact List.dropWhile_cons_of_neg (by simpa using hne entry (List.mem_cons_self ..))
  rw [hadd, Text.foldl_joinTo]
  by_cases htext : text = ""
  · simp [htext, hentries]
  · simp [htext]

/-! ### Diagnostics -/

/-- The diagnostic says what the event does. -/
structure Denotes (event : LogEvent) (d : Diagnostic) : Prop where
  domain : d.domain = event.target
  /-- The last truth value called `fatal` counts, -/
  fatal : d.fatal = (last? LogField.fatal? event.fields).getD false
  level : d.level = Level.ofEvent event.level d.fatal
  /-- so no diagnostic of this level is not fatal. -/
  error : d.level = .error → d.fatal = true
  /-- The last text counts unless it is empty, and the ordinary fields follow it in order, each with
  its name and its value. -/
  text : d.text = " ".intercalate
    ((last? LogField.message? event.fields).toList.filter (· ≠ "") ++
      (event.fields.filter (·.isOrdinary)).map fun f => f.name ++ "=" ++ f.value.shown)

theorem Denotes.unique {event : LogEvent} {d d' : Diagnostic} (h : event.Denotes d)
    (h' : event.Denotes d') : d = d' := by
  obtain ⟨domain, level, text, fatal⟩ := d
  obtain ⟨domain', level', text', fatal'⟩ := d'
  cases h.domain.trans h'.domain.symm
  cases h.fatal.trans h'.fatal.symm
  cases h.level.trans h'.level.symm
  cases h.text.trans h'.text.symm
  rfl

/-- An event is at level `error` only with the flag. -/
theorem fatal_of_ofEvent_error {level : EventLevel} {fatal : Bool}
    (h : Level.ofEvent level fatal = .error) : fatal = true := by
  cases level <;> cases fatal <;> first | rfl | nomatch h

theorem denotes_diagnostic (event : LogEvent) : event.Denotes event.diagnostic := by
  have hreading : event.reading = _ := Reading.foldl_field event.fields ⟨none, [], false⟩
  have hfatal : event.diagnostic.fatal = event.reading.fatal := by
    show (event.reading.fatal || Level.ofEvent event.level event.reading.fatal == .error) = _
    rcases hf : event.reading.fatal with - | -
    · cases event.level <;> rfl
    · rfl
  have hlevel : event.diagnostic.level = Level.ofEvent event.level event.diagnostic.fatal := by
    rw [hfatal]
    rfl
  refine ⟨rfl, by rw [hfatal, hreading], hlevel, fun h => fatal_of_ofEvent_error (hlevel ▸ h), ?_⟩
  show event.reading.text = _
  have hne : ∀ entry ∈ event.reading.entries, entry ≠ "" := by
    rw [hreading]
    intro entry hentry
    obtain ⟨f, -, rfl⟩ := List.mem_map.mp hentry
    exact f.entry_ne_empty
  have hmessage : ∀ message : Option String,
      [(message.or none).getD ""].filter (· ≠ "") = message.toList.filter (· ≠ "") := by
    rintro (- | message) <;> rfl
  unfold Reading.text
  rw [foldl_addEntry hne, hreading, hmessage]
  rfl

end LogEvent

namespace Engine

/-- The chain is asked about the diagnostic that the event denotes. -/
theorem log_dispatches_denoted (perform : Script → Act Unit) (event : LogEvent) {e : Engine}
    (h : e.subscriber = .chain) :
    ∃ d, event.Denotes d ∧ log perform event e = dispatch perform d e := by
  refine ⟨event.diagnostic, event.denotes_diagnostic, ?_⟩
  have hchain : (e.subscriber == .chain) = true := by rw [h]; rfl
  unfold log
  rw [bind_of_ok (get_eq_ok.mpr ⟨rfl, rfl⟩), if_pos hchain]

/-- Here both names occur with both kinds of values, and the last of each that counts is followed
by one that does not. -/
theorem log_dispatches_mixed_fields :
    let event : LogEvent := ⟨.error, "net",
      [⟨"fatal", .truth true⟩, ⟨"message", .text "link"⟩, ⟨"peer", .int (-7)⟩,
        ⟨"fatal", .truth false⟩, ⟨"message", .debug "down"⟩, ⟨"fatal", .text "no"⟩,
        ⟨"message", .truth true⟩]⟩
    let e : Engine := { Engine.initial with subscriber := .chain }
    event.diagnostic = ⟨"net", .critical, "\"down\" peer=-7 fatal=no message=true", false⟩ ∧
      ∃ d, event.Denotes d ∧ log Engine.perform event e = dispatch Engine.perform d e :=
  ⟨by decide +kernel, log_dispatches_denoted _ _ rfl⟩

end Engine

end TestEngine
