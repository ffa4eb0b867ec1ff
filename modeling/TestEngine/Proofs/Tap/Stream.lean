/-
TestEngine/Proofs/Tap/Stream.lean

Streams of results and diagnostics.  `Woven` describes what a run prints after its plan: results
with successive numbers, and diagnostics between them.  Whatever the messages and the
diagnostics say, every line of such a stream starts a result or has a mark in front
(`Woven.classified`), and a reader finds just the results (`Woven.decode_append`).  The first
line of a diagnostic has no second space after its mark, so it does not go on with the message
of the result before it.
-/
import TestEngine.Proofs.Tap.Decode
import TestEngine.Tap.Buffer

namespace TestEngine

namespace Tap

open Text

/-! ### Buffers -/

theorem Buffer.emitAll_of_ne_empty {b : Buffer} (hb : b.contents ≠ "") (texts : List String) :
    (b.emitAll texts).contents.toList =
      joinWith ['\n'] (b.contents.toList :: texts.map String.toList) := by
  induction texts generalizing b with
  | nil => rfl
  | cons text texts ih =>
    have hemit : (b.emit text).contents = b.contents ++ "\n" ++ text := by
      rw [emit, if_neg (by simpa using hb)]
    have hne : (b.emit text).contents ≠ "" := by
      rw [hemit]
      simp
    have hstep : b.emitAll (text :: texts) = (b.emit text).emitAll texts := rfl
    have hcontents : (b.emit text).contents.toList = (b.contents.toList ++ ['\n']) ++ text.toList := by
      rw [hemit]
      simp
    rw [hstep, ih hne, hcontents, ← append_joinWith]
    rfl

/-- The lines of a new buffer are those of the texts, if the first is not empty. -/
theorem lines_emitAll {text : String} (htext : text ≠ "") (texts : List String) :
    lines (Buffer.empty.emitAll (text :: texts)).contents.toList =
      (text :: texts).flatMap fun text => lines text.toList := by
  have hstep : Buffer.empty.emitAll (text :: texts) = (⟨text⟩ : Buffer).emitAll texts := by
    show (Buffer.empty.emit text).emitAll texts = _
    simp [Buffer.emit, Buffer.empty]
  rw [hstep, Buffer.emitAll_of_ne_empty htext, lines_joinWith_newline, ← List.map_cons,
    List.flatMap_map]

/-! ### Streams -/

/-- The text of a diagnostic, printed with colours in the class `C`. -/
def IsDiagnostic (C : Bool → Prop) (text : String) : Prop :=
  ∃ (d : Diagnostic) (colours : Bool), C colours ∧ text = diagnostic (d.format colours) colours

/-- These texts are the results, numbered from `number` on, with diagnostics between them. -/
inductive Woven (C : Bool → Prop) : Nat → List (Path × Verdict) → List String → Prop
  | done {number : Nat} : Woven C number [] []
  | comment {number : Nat} {results : List (Path × Verdict)} {text : String} {texts : List String}
      (htext : IsDiagnostic C text) (h : Woven C number results texts) :
      Woven C number results (text :: texts)
  | result {number : Nat} {path : Path} {v : Verdict} {results : List (Path × Verdict)}
      {texts : List String} (h : Woven C (number + 1) results texts) :
      Woven C number ((path, v) :: results) (result number path v :: texts)

/-- The line starts with the mark of a diagnostic. -/
def IsComment (C : Bool → Prop) (line : List Char) : Prop :=
  ∃ colours, C colours ∧ (mark colours).toList <+: line

variable {C : Bool → Prop} {number : Nat} {results : List (Path × Verdict)} {text : String}
  {texts : List String}

theorem isResult_of_mark {colours : Bool} {line : List Char}
    (h : (mark colours).toList <+: line) : isResult line = false := by
  obtain ⟨rest, rfl⟩ := h
  rcases colours with - | - <;> rfl

theorem IsComment.isResult {line : List Char} (h : IsComment C line) : isResult line = false := by
  obtain ⟨colours, -, hmark⟩ := h
  exact isResult_of_mark hmark

/-- A further line of a message is marked as a diagnostic without colours is. -/
theorem mark_of_isFurther {line : List Char} (h : isFurther line = true) :
    (mark false).toList <+: line := by
  obtain ⟨rest, hrest⟩ := List.isPrefixOf_iff_prefix.mp h
  exact ⟨[' ', ' ', ' '] ++ rest, by rw [← hrest]; rfl⟩

/-- So it is no result. -/
theorem isResult_of_isFurther {line : List Char} (h : isFurther line = true) :
    isResult line = false := isResult_of_mark (mark_of_isFurther h)

/-- The lines of a diagnostic are marked, and the first of them goes on with no message. -/
theorem lines_of_isDiagnostic (h : IsDiagnostic C text) : ∃ first further,
    lines text.toList = first :: further ∧ isFurther first = false ∧
      ∀ line ∈ first :: further, IsComment C line := by
  obtain ⟨d, colours, hcolours, rfl⟩ := h
  have hlines : ∀ {first : List Char} {further : List (List Char)},
      ∀ line ∈ ((mark colours).toList ++ ' ' :: first) ::
        further.map (furtherMark (mark colours) ++ ·), IsComment C line := by
    intro first further line hline
    refine ⟨colours, hcolours, ?_⟩
    rcases List.mem_cons.mp hline with rfl | hline
    · exact List.prefix_append _ _
    · obtain ⟨rest, -, rfl⟩ := List.mem_map.mp hline
      rw [furtherMark, List.append_assoc]
      exact List.prefix_append _ _
  rcases colours with - | -
  · -- without colours, it matters how the text starts
    obtain ⟨c, first, further, hshown, hblank⟩ := shownLines_format d
    refine ⟨_, _, lines_diagnostic false hshown, ?_, hlines⟩
    show (' ' == ' ' && (' ' == c && _)) = false
    rw [beq_eq_false_iff_ne.mpr (Ne.symm hblank)]
    rfl
  · obtain ⟨first, further, hshown, -⟩ := shownLines_eq_cons (d.format true)
    exact ⟨_, _, lines_diagnostic true hshown, rfl, hlines⟩

/-- Nor does the first line of a result. -/
theorem isFurther_of_isResult {line : List Char} (h : isResult line = true) :
    isFurther line = false := by
  rcases hf : isFurther line with - | -
  · rfl
  · rw [isResult_of_isFurther hf] at h
    exact absurd h (by simp)

/-- The lines do not go on with the message of a result before them. -/
def Fresh (ls : List (List Char)) : Prop := ∀ line, ls.head? = some line → isFurther line = false

/-- A reader passes over lines that start no result. -/
theorem decode_append_of_not_isResult {ls : List (List Char)} (h : ∀ line ∈ ls, isResult line = false)
    (rest : List (List Char)) : decode (ls ++ rest) = decode rest := by
  induction ls with
  | nil => rfl
  | cons line ls ih =>
    rw [List.cons_append, decode, if_neg (by simp [h line (List.mem_cons_self ..)])]
    exact ih fun l hl => h l (List.mem_cons_of_mem line hl)

/-- A reader takes the lines of a result together, up to where something else starts. -/
theorem decode_append_of_isResult {first : List Char} {further rest : List (List Char)}
    (hfirst : isResult first = true) (hfurther : ∀ line ∈ further, isFurther line = true)
    (hrest : Fresh rest) :
    decode (first :: further ++ rest) = readResult first further :: decode rest := by
  have hend : rest.takeWhile isFurther = [] := by
    rcases rest with - | ⟨line, rest⟩
    · rfl
    · rw [List.takeWhile_cons, hrest line rfl]
      rfl
  rw [List.cons_append, decode, if_pos hfirst, List.takeWhile_append_of_pos hfurther, hend,
    List.append_nil, decode_append_of_not_isResult fun line hline =>
      isResult_of_isFurther (hfurther line hline)]

namespace Woven

theorem fresh (h : Woven C number results texts)
    (hpaths : ∀ p ∈ results.map Prod.fst, p.Proper)
    {rest : List (List Char)} (hrest : Fresh rest) :
    Fresh (texts.flatMap (fun text => lines text.toList) ++ rest) := by
  have hfirst : ∀ {first : List Char} {further ls : List (List Char)}, isFurther first = false →
      Fresh (first :: further ++ ls) := fun hf line hline => by
    cases hline
    exact hf
  cases h with
  | done => exact hrest
  | comment htext _ =>
    obtain ⟨first, further, hlines, hfresh, -⟩ := lines_of_isDiagnostic htext
    rw [List.flatMap_cons, hlines, List.append_assoc]
    exact hfirst hfresh
  | @result _ path v _ _ _ =>
    have hpath := hpaths path (List.mem_cons_self ..)
    obtain ⟨first, further, hlines, hresult, -⟩ := readResult_result hpath number v
    rw [List.flatMap_cons, hlines, List.append_assoc]
    exact hfirst (isFurther_of_isResult hresult)

/-- A reader finds the results of the stream, with their numbers, and nothing else. -/
theorem decode_append (h : Woven C number results texts)
    (hpaths : ∀ p ∈ results.map Prod.fst, p.Proper)
    {rest : List (List Char)} (hrest : Fresh rest) :
    decode (texts.flatMap (fun text => lines text.toList) ++ rest) =
      (results.zipIdx number).map (fun r => some ⟨r.2, r.1.1, shown r.1.2⟩) ++ decode rest := by
  induction h with
  | done => rfl
  | comment htext _ ih =>
    obtain ⟨first, further, hlines, -, hcomment⟩ := lines_of_isDiagnostic htext
    rw [List.flatMap_cons, hlines, List.append_assoc,
      decode_append_of_not_isResult fun line hline => (hcomment line hline).isResult]
    exact ih hpaths
  | @result number path v results texts h ih =>
    have hpath := hpaths path (List.mem_cons_self ..)
    have hothers := fun p hp => hpaths p (List.mem_cons_of_mem path hp)
    obtain ⟨first, further, hlines, hresult, hfurther, hread⟩ :=
      readResult_result hpath number v
    rw [List.flatMap_cons, hlines, List.append_assoc,
      decode_append_of_isResult hresult hfurther (h.fresh hothers hrest), hread, ih hothers]
    rfl

/-- Every line starts a result or is marked. -/
theorem classified (h : Woven C number results texts)
    (hpaths : ∀ p ∈ results.map Prod.fst, p.Proper) :
    ∀ line ∈ texts.flatMap (fun text => lines text.toList),
      isResult line = true ∨ (mark false).toList <+: line ∨ IsComment C line := by
  induction h with
  | done =>
    intro line hline
    exact absurd hline (by simp)
  | comment htext _ ih =>
    obtain ⟨first, further, hlines, -, hcomment⟩ := lines_of_isDiagnostic htext
    intro line hline
    rw [List.flatMap_cons, hlines, List.mem_append] at hline
    rcases hline with hline | hline
    · exact .inr (.inr (hcomment line hline))
    · exact ih hpaths line hline
  | @result number path v results texts h ih =>
    have hpath := hpaths path (List.mem_cons_self ..)
    obtain ⟨first, further, hlines, hresult, hfurther, -⟩ :=
      readResult_result hpath number v
    intro line hline
    rw [List.flatMap_cons, hlines, List.mem_append] at hline
    rcases hline with hline | hline
    · rcases List.mem_cons.mp hline with rfl | hline
      · exact .inl hresult
      · exact .inr (.inl (mark_of_isFurther (hfurther line hline)))
    · exact ih (fun p hp => hpaths p (List.mem_cons_of_mem path hp)) line hline

end Woven

/-- A reader reads a result off every line that starts one. -/
theorem length_decode (ls : List (List Char)) : (decode ls).length = ls.countP isResult := by
  induction ls with
  | nil => rfl
  | cons line ls ih =>
    rw [decode, List.countP_cons]
    split
    · rw [List.length_cons, ih]
    · rw [ih, Nat.add_zero]

/-! ### Whole outputs -/

theorem isResult_plan (count : Nat) : isResult (plan count).toList = false := by
  unfold plan
  split
  · decide
  · simp [isResult, afterStatus]

/-- The line of a bail-out starts no result and goes on with none. -/
theorem bailOut_not_read (message : String) :
    isResult (bailOut (some message)).toList = false ∧
      isFurther (bailOut (some message)).toList = false := by
  have hchars : (bailOut (some message)).toList = "Bail out! ".toList ++ message.toList := by
    simp [bailOut]
  rw [hchars]
  exact ⟨rfl, rfl⟩

/-- The lines of an output: the plan, those of the texts, and that of a bail-out. -/
theorem lines_output (count : Nat) (texts : List String) {last : Option String}
    (hlast : ∀ message, last = some message → '\n' ∉ message.toList) :
    lines (Buffer.empty.emitAll (plan count ::
        (texts ++ last.toList.map fun message => bailOut (some message)))).contents.toList =
      (plan count).toList :: (texts.flatMap (fun text => lines text.toList) ++
        last.toList.map fun message => (bailOut (some message)).toList) := by
  have hplan : plan count ≠ "" := by
    unfold plan
    split
    · decide
    · simp
  rw [lines_emitAll hplan, List.flatMap_cons, lines_plan, List.flatMap_append]
  rcases last with - | message
  · rfl
  · rw [Option.toList_some, List.map_singleton, List.map_singleton, List.flatMap_singleton,
      lines_bailOut (hlast message rfl)]
    rfl

/-- A reader of an output finds the results of the stream in it. -/
theorem Woven.decode_output (h : Woven C 1 results texts)
    (hpaths : ∀ p ∈ results.map Prod.fst, p.Proper)
    (count : Nat) (last : Option String) :
    decode ((plan count).toList :: (texts.flatMap (fun text => lines text.toList) ++
        last.toList.map fun message => (bailOut (some message)).toList)) =
      (results.zipIdx 1).map fun r => some ⟨r.2, r.1.1, shown r.1.2⟩ := by
  have hfresh : Fresh (last.toList.map fun message => (bailOut (some message)).toList) := by
    rcases last with - | message
    · intro line hline
      exact absurd hline (by simp)
    · intro line hline
      cases hline
      exact (bailOut_not_read message).2
  have hnone : decode (last.toList.map fun message => (bailOut (some message)).toList) = [] := by
    rcases last with - | message
    · rfl
    · rw [Option.toList_some, List.map_singleton, decode, (bailOut_not_read message).1]
      rfl
  rw [decode, isResult_plan, if_neg (by simp), h.decode_append hpaths hfresh, hnone, List.append_nil]

end Tap

end TestEngine
