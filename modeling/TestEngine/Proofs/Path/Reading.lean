/-
TestEngine/Proofs/Path/Reading.lean

Which texts are read as paths, and where the others go wrong.

A text *spells* a list of elements if it is these elements with `/` before each, there is
at least one, and all are valid (`Path.Spells`).  Reading accepts just these texts and gives
the elements back.  Any other text is refused at its *fault* (`Path.FaultAt`): at the first
character that no path has after those before it, or, if the text is only unfinished, at the `/`
at its end.

The reader is seen as a machine with three places to be in (`Path.Place`).  What may still
follow is known at each place (`Follows`), and something may follow at every place
(`Place.rest`), so the machine stops at a character exactly when no path starts with what has
been read (`extends_iff`).  The scan is that machine with the offsets added.

Offsets count bytes.  The label of a refused text starts at the offset and is one byte long, so
it covers the character there only if that character takes one byte (`labelled_of_refused`).
-/
import TestEngine.Path.Cell
import TestEngine.Proofs.Path

namespace TestEngine

open Text

namespace Path

/-! ### The grammar -/

/-- The text is the elements with `/` before each; there is one, and all are valid. -/
structure Spells (es : List String) (s : String) : Prop where
  nonempty : es ≠ []
  valid : ∀ e ∈ es, isElement e = true
  text : s = String.join (es.map ("/" ++ ·))

/-- Some path starts with the text. -/
def Extends (s : String) : Prop := ∃ rest es, Spells es (s ++ rest)

/-- The number of bytes before the fault of a text that is no path. -/
inductive FaultAt (s : String) : Nat → Prop
  /-- No path starts with the text up to this character, but some do up to the one before. -/
  | character {before after : String} {c : Char}
      (split : s = before ++ String.singleton c ++ after) (reads : Extends before)
      (stops : ¬ Extends (before ++ String.singleton c)) : FaultAt s before.utf8ByteSize
  /-- The text could go on, and ends with a `/`. -/
  | finalSlash {before : String} (split : s = before ++ "/") (reads : Extends s) :
      FaultAt s before.utf8ByteSize
  /-- There is nothing to read. -/
  | empty (h : s = "") : FaultAt s 0

theorem spells_iff {es : List String} {s : String} :
    Spells es s ↔ es ≠ [] ∧ (∀ e ∈ es, isElement e = true) ∧ s.toList = renderChars es := by
  have htext : s = String.join (es.map ("/" ++ ·)) ↔ s.toList = renderChars es := by
    rw [← render_eq ⟨es⟩, ← String.toList_inj, toList_render]
  constructor
  · intro h
    exact ⟨h.nonempty, h.valid, htext.mp h.text⟩
  · rintro ⟨hne, hvalid, hchars⟩
    exact ⟨hne, hvalid, htext.mpr hchars⟩

/-! ### The machine -/

/-- Where a reader can be: nothing has been read, or what has been read ends with a `/`, or with a
character of an element. -/
inductive Place
  | start
  | afterSlash
  | inElement
  deriving DecidableEq

/-- Read one character, which has to fit. -/
def step : Place → Char → Option Place
  | .start, c => if c == '/' then some .afterSlash else none
  | .afterSlash, c => if isBlank c || c == '/' then none else some .inElement
  | .inElement, c =>
    if isBlank c then none else if c == '/' then some .afterSlash else some .inElement

/-- Read characters up to the first that does not fit. -/
def advance : Place → List Char → Option Place
  | p, [] => some p
  | p, c :: cs => (step p c).bind (advance · cs)

theorem advance_append (p : Place) (xs ys : List Char) :
    advance p (xs ++ ys) = (advance p xs).bind (advance · ys) := by
  induction xs generalizing p with
  | nil => rfl
  | cons x xs ih =>
    show (step p x).bind (advance · (xs ++ ys)) = ((step p x).bind (advance · xs)).bind _
    rw [Option.bind_assoc]
    exact congrArg _ (funext ih)

/-- Where the machine stops: at a character, with all before it read. -/
theorem exists_of_advance_eq_none {p : Place} {cs : List Char} (h : advance p cs = none) :
    ∃ before c after q, cs = before ++ c :: after ∧ advance p before = some q ∧
      step q c = none := by
  induction cs generalizing p with
  | nil => exact absurd h (by simp [advance])
  | cons c cs ih =>
    rcases hstep : step p c with - | q
    · exact ⟨[], c, cs, p, rfl, rfl, hstep⟩
    · rw [advance, hstep] at h
      obtain ⟨before, d, after, r, rfl, hbefore, hd⟩ := ih h
      refine ⟨c :: before, d, after, r, rfl, ?_, hd⟩
      rw [advance, hstep]
      exact hbefore

/-! ### What may follow -/

/-- Characters of an element. -/
def Plain (cs : List Char) : Prop := ∀ c ∈ cs, c ≠ '/' ∧ isBlank c = false

/-- What a path goes on with, from each place to its end. -/
def Follows : Place → List Char → Prop
  | .start, cs => ∃ es, es ≠ [] ∧ (∀ e ∈ es, isElement e = true) ∧ cs = renderChars es
  | .afterSlash, cs => ∃ first es, first ≠ [] ∧ Plain first ∧ (∀ e ∈ es, isElement e = true) ∧
      cs = first ++ renderChars es
  | .inElement, cs => ∃ first es, Plain first ∧ (∀ e ∈ es, isElement e = true) ∧
      cs = first ++ renderChars es

theorem isElement_iff {cs : List Char} :
    isElement (String.ofList cs) = true ↔ cs ≠ [] ∧ Plain cs := by
  simp [isElement, Plain]

theorem plain_cons {c : Char} {cs : List Char} :
    Plain (c :: cs) ↔ (c ≠ '/' ∧ isBlank c = false) ∧ Plain cs := List.forall_mem_cons

/-- A path starts with a `/`, and what follows is an element and then more of them. -/
theorem follows_start_cons {c : Char} {cs : List Char} :
    Follows .start (c :: cs) ↔ c = '/' ∧ Follows .afterSlash cs := by
  constructor
  · rintro ⟨es, hne, hvalid, hcs⟩
    rcases es with - | ⟨e, es⟩
    · exact absurd rfl hne
    · obtain ⟨he, hplain⟩ := chars_of_isElement (hvalid e (List.mem_cons_self ..))
      obtain ⟨rfl, rfl⟩ := List.cons.inj hcs
      exact ⟨rfl, e.toList, es, he, hplain, fun x hx => hvalid x (List.mem_cons_of_mem e hx), rfl⟩
  · rintro ⟨rfl, first, es, hne, hplain, hvalid, rfl⟩
    refine ⟨String.ofList first :: es, by simp, ?_, ?_⟩
    · intro x hx
      rcases List.mem_cons.mp hx with rfl | hx
      · exact isElement_iff.mpr ⟨hne, hplain⟩
      · exact hvalid x hx
    · rw [renderChars, String.toList_ofList]

/-- What follows a `/` starts with a character of an element. -/
theorem follows_afterSlash_cons {c : Char} {cs : List Char} :
    Follows .afterSlash (c :: cs) ↔ (c ≠ '/' ∧ isBlank c = false) ∧ Follows .inElement cs := by
  constructor
  · rintro ⟨first, es, hne, hplain, hvalid, hcs⟩
    rcases first with - | ⟨d, first⟩
    · exact absurd rfl hne
    · obtain ⟨rfl, rfl⟩ := List.cons.inj hcs
      obtain ⟨hc, hplain⟩ := plain_cons.mp hplain
      exact ⟨hc, first, es, hplain, hvalid, rfl⟩
  · rintro ⟨hc, first, es, hplain, hvalid, rfl⟩
    exact ⟨c :: first, es, by simp, plain_cons.mpr ⟨hc, hplain⟩, hvalid, rfl⟩

/-- Within an element, either that goes on or the next one starts. -/
theorem follows_inElement_cons {c : Char} {cs : List Char} :
    Follows .inElement (c :: cs) ↔
      ((c ≠ '/' ∧ isBlank c = false) ∧ Follows .inElement cs) ∨
        (c = '/' ∧ Follows .afterSlash cs) := by
  rw [← follows_afterSlash_cons]
  constructor
  · rintro ⟨first, es, hplain, hvalid, hcs⟩
    rcases first with - | ⟨d, first⟩
    · -- the element is over, so there is a next one, with a `/` before it
      refine .inr (follows_start_cons.mp ⟨es, ?_, hvalid, hcs⟩)
      rintro rfl
      exact absurd hcs (by simp [renderChars])
    · exact .inl ⟨d :: first, es, by simp, hplain, hvalid, hcs⟩
  · rintro (⟨first, es, -, hplain, hvalid, hcs⟩ | ⟨rfl, hnext⟩)
    · exact ⟨first, es, hplain, hvalid, hcs⟩
    · obtain ⟨es, -, hvalid, hcs⟩ := follows_start_cons.mpr ⟨rfl, hnext⟩
      exact ⟨[], es, by simp [Plain], hvalid, hcs⟩

/-- What may follow a place, taken apart at its first character. -/
theorem follows_cons {p : Place} {c : Char} {cs : List Char} :
    Follows p (c :: cs) ↔ ∃ q, step p c = some q ∧ Follows q cs := by
  rcases hslash : c == '/' with - | -
  · have hc : c ≠ '/' := by simpa using hslash
    rcases hblank : isBlank c with - | - <;> cases p <;>
      simp [follows_start_cons, follows_afterSlash_cons, follows_inElement_cons, step, hc, hblank]
  · obtain rfl : c = '/' := eq_of_beq hslash
    cases p <;> simp [follows_start_cons, follows_afterSlash_cons, follows_inElement_cons, step,
      not_isBlank_slash]

theorem follows_nil {p : Place} : Follows p [] ↔ p = .inElement := by
  cases p with
  | start =>
    refine ⟨?_, by simp⟩
    rintro ⟨es, hne, -, hcs⟩
    rcases es with - | ⟨e, es⟩
    · exact absurd rfl hne
    · exact absurd hcs (by simp [renderChars])
  | afterSlash =>
    refine ⟨?_, by simp⟩
    rintro ⟨first, es, hne, -, -, hcs⟩
    exact absurd (List.append_eq_nil_iff.mp hcs.symm).1 hne
  | inElement => exact ⟨fun _ => rfl, fun _ => ⟨[], [], by simp [Plain], by simp, rfl⟩⟩

/-- The machine ends inside an element exactly on what may follow. -/
theorem advance_eq_inElement_iff {p : Place} {cs : List Char} :
    advance p cs = some .inElement ↔ Follows p cs := by
  induction cs generalizing p with
  | nil => simp [advance, follows_nil]
  | cons c cs ih =>
    rw [follows_cons]
    simp [advance, Option.bind_eq_some_iff, ih]

/-- A shortest way to the end of a path. -/
def Place.rest : Place → List Char
  | .start => ['/', 'a']
  | .afterSlash => ['a']
  | .inElement => []

theorem advance_rest (p : Place) : advance p p.rest = some .inElement := by
  cases p <;> rfl

/-- The elements of a text can be read off it just if the machine reads it to its end. -/
theorem exists_spells_iff {s : String} :
    (∃ es, Spells es s) ↔ advance .start s.toList = some .inElement := by
  rw [advance_eq_inElement_iff]
  exact exists_congr fun es => spells_iff

/-- The machine stops as soon as no path starts with what has been read, and not before. -/
theorem extends_iff {s : String} : Extends s ↔ (advance .start s.toList).isSome := by
  have hreads : Extends s ↔ ∃ rest : String,
      (advance .start s.toList).bind (advance · rest.toList) = some .inElement := by
    refine exists_congr fun rest => ?_
    rw [exists_spells_iff, String.toList_append, advance_append]
  rw [hreads, Option.isSome_iff_exists]
  constructor
  · rintro ⟨rest, hrest⟩
    obtain ⟨p, hp, -⟩ := Option.bind_eq_some_iff.mp hrest
    exact ⟨p, hp⟩
  · rintro ⟨p, hp⟩
    refine ⟨String.ofList p.rest, ?_⟩
    rw [hp, String.toList_ofList]
    exact advance_rest p

/-! ### The scan -/

/-- Where the scan is, by what it remembers. -/
def placeAfter (afterSlash : Bool) : Place := if afterSlash then .afterSlash else .inElement

theorem step_placeAfter (afterSlash : Bool) (c : Char) :
    step (placeAfter afterSlash) c =
      if isBlank c || (c == '/' && afterSlash) then none else some (placeAfter (c == '/')) := by
  rcases afterSlash with - | - <;> rcases hblank : isBlank c with - | - <;>
    rcases hslash : c == '/' with - | - <;> simp [placeAfter, step, hblank, hslash]

/-- A character that stops the machine is reported where it stands, and after any other one the
scan goes on. -/
theorem scan_cons (offset : Nat) (afterSlash : Bool) (c : Char) (cs : List Char) :
    (step (placeAfter afterSlash) c = none ∧
      ∃ flaw, scan offset afterSlash (c :: cs) = some (flaw, offset)) ∨
    (step (placeAfter afterSlash) c = some (placeAfter (c == '/')) ∧
      scan offset afterSlash (c :: cs) = scan (offset + c.utf8Size) (c == '/') cs) := by
  rw [step_placeAfter, scan]
  by_cases hblank : isBlank c = true
  · exact .inl ⟨by simp [hblank], .blank, if_pos hblank⟩
  · by_cases hslash : (c == '/' && afterSlash) = true
    · exact .inl ⟨by simp [hslash], .emptyElement, by rw [if_neg hblank, if_pos hslash]⟩
    · refine .inr ⟨if_neg ?_, by rw [if_neg hblank, if_neg hslash]⟩
      rw [Bool.or_eq_true, not_or]
      exact ⟨hblank, hslash⟩

/-- As long as the machine reads on, so does the scan. -/
theorem scan_append {afterSlash : Bool} {before : List Char} {q : Place}
    (h : advance (placeAfter afterSlash) before = some q) (offset : Nat) (rest : List Char) :
    ∃ afterSlash', q = placeAfter afterSlash' ∧
      scan offset afterSlash (before ++ rest) =
        scan (offset + (String.ofList before).utf8ByteSize) afterSlash' rest := by
  induction before generalizing offset afterSlash with
  | nil =>
    cases h
    exact ⟨afterSlash, rfl, rfl⟩
  | cons c before ih =>
    obtain ⟨p, hp, hbefore⟩ := Option.bind_eq_some_iff.mp h
    rcases scan_cons offset afterSlash c (before ++ rest) with ⟨hstop, -⟩ | ⟨hstep, hscan⟩
    · exact absurd (hstop.symm.trans hp) (by simp)
    · obtain rfl := Option.some.inj (hstep.symm.trans hp)
      obtain ⟨afterSlash', hq, hrest⟩ := ih hbefore (offset + c.utf8Size)
      refine ⟨afterSlash', hq, ?_⟩
      rw [List.cons_append, hscan, hrest, String.ofList_cons, String.utf8ByteSize_append,
        String.utf8ByteSize_singleton, Nat.add_assoc]

/-- What is left of a scan is known from the place where the machine ends. -/
theorem scan_eq {afterSlash : Bool} {cs : List Char} {q : Place}
    (h : advance (placeAfter afterSlash) cs = some q) (offset : Nat) :
    (q = .inElement ∧ scan offset afterSlash cs = none) ∨
    (q = .afterSlash ∧ scan offset afterSlash cs =
      some (.trailingSlash, offset + (String.ofList cs).utf8ByteSize - 1)) := by
  obtain ⟨afterSlash', rfl, hscan⟩ := scan_append h offset []
  rw [List.append_nil] at hscan
  rcases afterSlash' with - | -
  · exact .inl ⟨rfl, hscan⟩
  · exact .inr ⟨rfl, hscan⟩

theorem eq_afterSlash {q p : Place} (h : step q '/' = some p) : p = .afterSlash := by
  cases q <;> simp_all [step]

/-- A reader that has come to the place after a `/` has read that character last. -/
theorem eq_append_slash {cs : List Char} (h : advance .start cs = some .afterSlash) :
    ∃ before, cs = before ++ ['/'] := by
  rcases List.eq_nil_or_concat cs with rfl | ⟨before, c, rfl⟩
  · exact absurd h (by simp [advance])
  · rw [List.concat_eq_append, advance_append] at h
    obtain ⟨q, -, hq⟩ := Option.bind_eq_some_iff.mp h
    have hstep : step q c = some .afterSlash := by
      simpa [advance] using hq
    refine ⟨before, ?_⟩
    rw [List.concat_eq_append]
    cases q <;> simp_all [step]

/-! ### Faults -/

theorem faultAt_of_stop {before : List Char} {c : Char} {q : Place}
    (hreads : advance .start before = some q) (hstop : step q c = none) (after : List Char) :
    FaultAt (String.ofList (before ++ c :: after)) (String.ofList before).utf8ByteSize := by
  have hsplit : String.ofList (before ++ c :: after) =
      String.ofList before ++ String.singleton c ++ String.ofList after := by
    rw [String.ofList_append, String.ofList_cons, String.append_assoc]
  refine .character hsplit ?_ ?_
  · rw [extends_iff, String.toList_ofList, hreads]
    rfl
  · rw [extends_iff, String.toList_append, String.toList_ofList, String.toList_singleton,
      advance_append, hreads]
    simp [advance, hstop]

/-- The first character of a text is read if it is a `/`. -/
theorem advance_start_cons {c : Char} {cs : List Char} {q : Place}
    (h : advance .start (c :: cs) = some q) :
    c = '/' ∧ advance (placeAfter true) cs = some q := by
  obtain ⟨p, hp, hcs⟩ := Option.bind_eq_some_iff.mp h
  simp only [step] at hp
  split at hp
  · rename_i hc
    cases hp
    exact ⟨eq_of_beq hc, hcs⟩
  · exact absurd hp (by simp)

/-- Nothing has been read only of the empty text. -/
theorem eq_nil_of_start {cs : List Char} (h : advance .start cs = some .start) : cs = [] := by
  rcases cs with - | ⟨c, cs⟩
  · rfl
  · obtain ⟨-, hcs⟩ := advance_start_cons h
    rcases scan_eq hcs 0 with ⟨hplace, -⟩ | ⟨hplace, -⟩ <;> exact absurd hplace (by simp)

/-- A text that spells no elements has a fault. -/
theorem spells_or_faultAt (s : String) : (∃ es, Spells es s) ∨ ∃ n, FaultAt s n := by
  rcases hplace : advance .start s.toList with - | place
  · obtain ⟨before, c, after, q, hchars, hreads, hstop⟩ := exists_of_advance_eq_none hplace
    have hfault := faultAt_of_stop hreads hstop after
    rw [← hchars, String.ofList_toList] at hfault
    exact .inr ⟨_, hfault⟩
  · cases place with
    | start => exact .inr ⟨0, .empty (String.toList_inj.mp (eq_nil_of_start hplace))⟩
    | afterSlash =>
      obtain ⟨before, hbefore⟩ := eq_append_slash hplace
      have hsplit : s = String.ofList before ++ "/" := by
        rw [← String.toList_inj, hbefore, String.toList_append, String.toList_ofList]
        rfl
      exact .inr ⟨_, .finalSlash hsplit (extends_iff.mpr (by rw [hplace]; rfl))⟩
    | inElement => exact .inl (exists_spells_iff.mpr hplace)

/-! ### Reading -/

theorem parse_slash (cs : List Char) :
    parse (String.ofList ('/' :: cs)) = match scan 1 true cs with
      | some (flaw, offset) => .error ⟨String.ofList ('/' :: cs), flaw, offset, 1⟩
      | none => .ok ⟨(splitWhere (· == '/') cs).map String.ofList⟩ := by
  rw [parse, String.toList_ofList]
  rfl

theorem utf8ByteSize_slash (cs : List Char) :
    (String.ofList ('/' :: cs)).utf8ByteSize = 1 + (String.ofList cs).utf8ByteSize := by
  rw [String.ofList_cons, String.utf8ByteSize_append, String.utf8ByteSize_singleton]
  rfl

/-- The character at which the machine stops is reported. -/
theorem parse_of_stop {before : List Char} {c : Char} {q : Place}
    (hreads : advance .start before = some q) (hstop : step q c = none) (after : List Char) :
    ∃ flaw, parse (String.ofList (before ++ c :: after)) = .error
      ⟨String.ofList (before ++ c :: after), flaw, (String.ofList before).utf8ByteSize, 1⟩ := by
  rcases before with - | ⟨d, before⟩
  · -- the text does not start with a `/`
    cases hreads
    have hc : c ≠ '/' := by
      rintro rfl
      exact absurd hstop (by simp [step])
    refine ⟨.noLeadingSlash, ?_⟩
    rw [parse, String.toList_ofList]
    split
    · rename_i heq
      exact absurd (List.cons.inj heq).1 hc
    · rfl
  · obtain ⟨rfl, hbefore⟩ := advance_start_cons hreads
    obtain ⟨afterSlash, rfl, hscan⟩ := scan_append hbefore 1 (c :: after)
    rcases scan_cons (1 + (String.ofList before).utf8ByteSize) afterSlash c after with
      ⟨-, flaw, hflaw⟩ | ⟨hstep, -⟩
    · refine ⟨flaw, ?_⟩
      rw [List.cons_append, parse_slash, hscan, hflaw, utf8ByteSize_slash]
    · exact absurd (hstep.symm.trans hstop) (by simp)

/-- A `/` at the end of the text is reported if the machine gets there. -/
theorem parse_of_unfinished {s before : String} (hs : s = before ++ "/")
    (h : advance .start s.toList = some .afterSlash) :
    parse s = .error ⟨s, .trailingSlash, before.utf8ByteSize, 1⟩ := by
  rcases hchars : s.toList with - | ⟨c, cs⟩
  · rw [hchars] at h
    exact absurd h (by simp [advance])
  · rw [hchars] at h
    obtain ⟨rfl, hcs⟩ := advance_start_cons h
    have htext : s = String.ofList ('/' :: cs) := by
      rw [← hchars, String.ofList_toList]
    rcases scan_eq hcs 1 with ⟨hplace, -⟩ | ⟨-, hscan⟩
    · exact absurd hplace (by simp)
    · -- what is before the last byte is as long as what is before the final `/`
      have hoffset : 1 + (String.ofList cs).utf8ByteSize - 1 = before.utf8ByteSize := by
        have hsize := congrArg String.utf8ByteSize (htext.symm.trans hs)
        rw [utf8ByteSize_slash, String.utf8ByteSize_append] at hsize
        have hslash : "/".utf8ByteSize = 1 := rfl
        omega
      rw [hoffset] at hscan
      rw [htext, parse_slash, hscan]

/-- A text that has a fault is refused there, with a label of one byte. -/
theorem parse_of_faultAt {s : String} {n : Nat} (h : FaultAt s n) :
    ∃ flaw, parse s = .error ⟨s, flaw, n, 1⟩ := by
  cases h with
  | @character before after c hsplit hreads hstops =>
    obtain ⟨q, hq⟩ := Option.isSome_iff_exists.mp (extends_iff.mp hreads)
    have hstop : step q c = none := by
      rw [extends_iff, String.toList_append, String.toList_singleton, advance_append, hq] at hstops
      simpa [advance] using hstops
    have htext : String.ofList (before.toList ++ c :: after.toList) = s := by
      rw [hsplit, ← String.toList_inj]
      simp
    obtain ⟨flaw, hflaw⟩ := parse_of_stop hq hstop after.toList
    rw [htext, String.ofList_toList] at hflaw
    exact ⟨flaw, hflaw⟩
  | @finalSlash before hsplit hreads =>
    obtain ⟨p, hp⟩ := Option.isSome_iff_exists.mp (extends_iff.mp hreads)
    obtain rfl : p = .afterSlash := by
      rw [hsplit, String.toList_append, advance_append] at hp
      obtain ⟨q, -, hq⟩ := Option.bind_eq_some_iff.mp hp
      have hstep : step q '/' = some p := by
        simpa [advance] using hq
      exact eq_afterSlash hstep
    exact ⟨_, parse_of_unfinished hsplit hp⟩
  | empty hs =>
    rw [hs]
    exact ⟨_, rfl⟩

theorem parse_of_spells {es : List String} {s : String} (h : Spells es s) :
    parse s = .ok ⟨es⟩ := by
  rw [h.text, ← render_eq ⟨es⟩]
  exact parse_render ⟨h.nonempty, h.valid⟩

theorem spells_of_parse {es : List String} {s : String} (h : parse s = .ok ⟨es⟩) :
    Spells es s := by
  rcases spells_or_faultAt s with ⟨es', hes'⟩ | ⟨n, hn⟩
  · cases h.symm.trans (parse_of_spells hes')
    exact hes'
  · obtain ⟨flaw, herror⟩ := parse_of_faultAt hn
    exact absurd (h.symm.trans herror) (by simp)

/-- A text is refused at its fault. -/
theorem faultAt_of_parse {s : String} {e : ParseError} (h : parse s = .error e) :
    e.input = s ∧ e.length = 1 ∧ FaultAt s e.offset := by
  rcases spells_or_faultAt s with ⟨es, hes⟩ | ⟨n, hn⟩
  · exact absurd (h.symm.trans (parse_of_spells hes)) (by simp)
  · obtain ⟨flaw, herror⟩ := parse_of_faultAt hn
    cases h.symm.trans herror
    exact ⟨rfl, rfl, hn⟩

/-- What it is to read paths. -/
structure Reader (read : String → Except ParseError Path) : Prop where
  /-- The texts that are read are those that spell some elements, and these are the answer. -/
  accepts : ∀ s es, read s = .ok ⟨es⟩ ↔ Spells es s
  /-- A path that has been read is written as the text again, -/
  rewrites : ∀ s p, read s = .ok p → (PathCell.ofPath p).render = s
  /-- and what valid elements are written as is read as them. -/
  rereads : ∀ es, es ≠ [] → (∀ e ∈ es, isElement e = true) →
    read (PathCell.ofPath ⟨es⟩).render = .ok ⟨es⟩
  /-- Whatever else is refused with the offset of its fault. -/
  refuses : ∀ s e, read s = .error e → ∀ n, FaultAt s n ↔ n = e.offset

/-- Reading accepts exactly the texts of paths, undoes writing them, and reports the first character
that no path goes on with. -/
theorem reader_parse : Reader parse := by
  refine ⟨fun s es => ⟨spells_of_parse, parse_of_spells⟩, ?_, ?_, ?_⟩
  · rintro s ⟨es⟩ h
    rw [(spells_of_parse h).text]
    exact render_eq ⟨es⟩
  · intro es hne hvalid
    exact parse_render ⟨hne, hvalid⟩
  · intro s e h n
    constructor
    · intro hn
      obtain ⟨flaw, herror⟩ := parse_of_faultAt hn
      cases h.symm.trans herror
      rfl
    · rintro rfl
      exact (faultAt_of_parse h).2.2

/-! ### Labels -/

/-- The bytes of the text that make up just one character; in an empty text, there are none. -/
def Marks (s : String) (offset length : Nat) : Prop :=
  (∃ before c after, s = before ++ String.singleton c ++ after ∧ offset = before.utf8ByteSize ∧
    length = c.utf8Size) ∨
  (s = "" ∧ offset = 0 ∧ length = 0)

/-- A text that is no longer than a part of it ends there. -/
theorem eq_nil_of_utf8ByteSize {s : String} {more : List Char}
    (h : (s ++ String.ofList more).utf8ByteSize = s.utf8ByteSize) : more = [] := by
  rw [String.utf8ByteSize_append, Nat.add_eq_left, String.utf8ByteSize_eq_zero_iff] at h
  exact String.ofList_eq_empty_iff.mp h

/-- A text is cut at a byte in one way only. -/
theorem eq_of_cut {before before' after after' : String} {c c' : Char}
    (h : before ++ String.singleton c ++ after = before' ++ String.singleton c' ++ after')
    (hsize : before.utf8ByteSize = before'.utf8ByteSize) : c = c' := by
  have hlonger : ∀ {x y : String} {more : List Char}, y.toList = x.toList ++ more →
      x.utf8ByteSize = y.utf8ByteSize → more = [] := by
    intro x y more hy hxy
    have happend : y = x ++ String.ofList more := by
      rw [← String.toList_inj, hy, String.toList_append, String.toList_ofList]
    rw [happend] at hxy
    exact eq_nil_of_utf8ByteSize hxy.symm
  rw [← String.toList_inj] at h
  simp only [String.toList_append, String.toList_singleton, List.append_assoc,
    List.singleton_append] at h
  rcases List.append_eq_append_iff.mp h with ⟨more, hmore, hrest⟩ | ⟨more, hmore, hrest⟩
  · obtain rfl := hlonger hmore hsize
    exact (List.cons.inj hrest).1
  · obtain rfl := hlonger hmore hsize.symm
    exact (List.cons.inj hrest).1.symm

/-- One byte where a character starts is that character if the character takes no more. -/
theorem marks_one_iff {s before after : String} {c : Char}
    (hs : s = before ++ String.singleton c ++ after) :
    Marks s before.utf8ByteSize 1 ↔ c.utf8Size = 1 := by
  constructor
  · rintro (⟨before', c', after', hs', hoffset, hlength⟩ | ⟨-, -, hlength⟩)
    · rw [eq_of_cut (hs.symm.trans hs') hoffset]
      exact hlength.symm
    · exact absurd hlength (by simp)
  · intro hc
    exact .inl ⟨before, c, after, hs, rfl, hc.symm⟩

/-- Where the fault of a text is, there is a character, unless the text is empty. -/
theorem FaultAt.exists_character {s : String} {n : Nat} (h : FaultAt s n) (hs : s ≠ "") :
    ∃ before c after, s = before ++ String.singleton c ++ after ∧ n = before.utf8ByteSize := by
  cases h with
  | @character before after c hsplit _ _ => exact ⟨before, c, after, hsplit, rfl⟩
  | @finalSlash before hsplit _ =>
    refine ⟨before, '/', "", ?_, rfl⟩
    rw [hsplit, String.append_empty]
    rfl
  | empty hempty => exact absurd hempty hs

/-- How the fault of a text is pointed at. -/
structure Labelled (s : String) (e : ParseError) : Prop where
  /-- The label is on the text that was read, -/
  input : e.input = s
  /-- and it starts at the fault. -/
  fault : FaultAt s e.offset
  /-- Unless there is no text, it starts with a character and ends within the text. -/
  within : s ≠ "" → e.offset + e.length ≤ s.utf8ByteSize ∧
    ∃ before c after, s = before ++ String.singleton c ++ after ∧ e.offset = before.utf8ByteSize
  /-- It marks the fault just if the character there is one byte long. -/
  marks_iff : Marks s e.offset e.length ↔
    ∃ before c after, s = before ++ String.singleton c ++ after ∧ e.offset = before.utf8ByteSize ∧
      c.utf8Size = 1

/-- The label of a refused text starts at the fault.  It marks a character that takes one byte,
and a part of any other one; in an empty text, it is on a byte that is not there. -/
theorem labelled_of_refused {s : String} {e : ParseError} (h : parse s = .error e) :
    Labelled s e := by
  obtain ⟨hinput, hlength, hfault⟩ := faultAt_of_parse h
  refine ⟨hinput, hfault, fun hs => ?_, ?_⟩
  · obtain ⟨before, c, after, hsplit, hoffset⟩ := hfault.exists_character hs
    refine ⟨?_, before, c, after, hsplit, hoffset⟩
    have hpos := c.utf8Size_pos
    rw [hoffset, hlength, hsplit]
    simp only [String.utf8ByteSize_append, String.utf8ByteSize_singleton]
    omega
  · rw [hlength]
    constructor
    · rintro (⟨before, c, after, hsplit, hoffset, hc⟩ | ⟨-, -, hzero⟩)
      · exact ⟨before, c, after, hsplit, hoffset, hc.symm⟩
      · exact absurd hzero (by simp)
    · rintro ⟨before, c, after, hsplit, hoffset, hc⟩
      rw [hoffset]
      exact (marks_one_iff hsplit).mpr hc

/-- A text with a blank that takes three bytes. -/
def wideBlank : String := "/a\u3000b"

theorem labelled_of_wideBlank :
    parse wideBlank = .error ⟨wideBlank, .blank, 2, 1⟩ ∧
      Labelled wideBlank ⟨wideBlank, .blank, 2, 1⟩ :=
  ⟨by rfl, labelled_of_refused (by rfl)⟩

/-- Its label ends within the blank. -/
theorem unmarked_of_wideBlank :
    ∃ e, parse wideBlank = .error e ∧ ¬ Marks wideBlank e.offset e.length := by
  refine ⟨⟨wideBlank, .blank, 2, 1⟩, by rfl, fun hmarks => ?_⟩
  have hsplit : wideBlank = "/a" ++ String.singleton '\u3000' ++ "b" := by decide
  exact absurd ((marks_one_iff hsplit).mp hmarks) (by decide)

end Path

end TestEngine
