/-
TestEngine/Proofs/Text/Lines.lean

Cutting and joining undo each other.  `splitWhere` is the `splitOnP` of lists, whose theory is
used here; what is added is about lines, that is, pieces without a newline, and about joining
them with a mark at the start of each further line (`lines_joinWith`).

Texts that are put one after the other, with a separator only if there is a text already, are
joined but for the empty ones at the front (`foldl_joinTo`).
-/
import TestEngine.Text.Lines

namespace TestEngine

namespace Text

/-! ### The operations on lists -/

theorem consFirst_eq_modifyHead (c : Char) {pieces : List (List Char)} (h : pieces ≠ []) :
    consFirst c pieces = pieces.modifyHead (List.cons c) := by
  rcases pieces with - | ⟨piece, pieces⟩
  · exact absurd rfl h
  · rfl

theorem splitWhere_eq_splitOnP (p : Char → Bool) (cs : List Char) :
    splitWhere p cs = cs.splitOnP p := by
  induction cs with
  | nil => rfl
  | cons c cs ih =>
    rw [List.splitOnP_cons_eq_if_modifyHead, ← ih, splitWhere]
    split
    · rfl
    · exact consFirst_eq_modifyHead c (splitWhere_ne_nil p cs)

/-! ### Pieces -/

theorem splitWhere_append_cons {p : Char → Bool} (xs ys : List Char) {c : Char} (hc : p c = true) :
    splitWhere p (xs ++ c :: ys) = splitWhere p xs ++ splitWhere p ys := by
  simp only [splitWhere_eq_splitOnP]
  exact List.splitOnP_append_cons xs ys hc

theorem splitWhere_eq_singleton {p : Char → Bool} {cs : List Char} (h : ∀ c ∈ cs, p c = false) :
    splitWhere p cs = [cs] := by
  rw [splitWhere_eq_splitOnP]
  exact List.splitOnP_eq_singleton h

/-- No piece holds a character of the class. -/
theorem not_mem_of_mem_splitWhere {p : Char → Bool} {cs piece : List Char}
    (h : piece ∈ splitWhere p cs) : ∀ c ∈ piece, p c = false := by
  induction cs generalizing piece with
  | nil =>
    rw [List.mem_singleton.mp h]
    intro c hc
    exact absurd hc (by simp)
  | cons d cs ih =>
    rw [splitWhere] at h
    split at h
    · rcases List.mem_cons.mp h with rfl | h
      · intro c hc
        exact absurd hc (by simp)
      · exact ih h
    · rename_i hd
      rcases hs : splitWhere p cs with - | ⟨first, pieces⟩
      · exact absurd hs (splitWhere_ne_nil p cs)
      · rw [hs] at h ih
        rcases List.mem_cons.mp h with rfl | h
        · intro c hc
          rcases List.mem_cons.mp hc with rfl | hc
          · simpa using hd
          · exact ih (List.mem_cons_self ..) c hc
        · exact ih (List.mem_cons_of_mem first h)

/-- A text in front goes to the first piece. -/
theorem append_joinWith (xs sep first : List Char) (pieces : List (List Char)) :
    xs ++ joinWith sep (first :: pieces) = joinWith sep ((xs ++ first) :: pieces) := by
  rcases pieces with - | ⟨next, pieces⟩
  · rfl
  · simp only [joinWith, List.append_assoc]

/-! ### Lines -/

theorem lines_append_newline (xs ys : List Char) :
    lines (xs ++ '\n' :: ys) = lines xs ++ lines ys :=
  splitWhere_append_cons xs ys rfl

theorem lines_eq_singleton {cs : List Char} (h : '\n' ∉ cs) : lines cs = [cs] := by
  refine splitWhere_eq_singleton fun c hc => ?_
  have hne : c ≠ '\n' := fun he => h (he ▸ hc)
  simpa using hne

theorem newline_not_mem_of_mem_lines {cs line : List Char} (h : line ∈ lines cs) :
    '\n' ∉ line := by
  intro hmem
  exact absurd (not_mem_of_mem_splitWhere h '\n' hmem) (by simp)

/-- Lines that are joined so that the further ones start with a mark are cut again with it. -/
theorem lines_joinWith {mark first : List Char} {further : List (List Char)} (hmark : '\n' ∉ mark)
    (hfirst : '\n' ∉ first) (hfurther : ∀ line ∈ further, '\n' ∉ line) :
    lines (joinWith ('\n' :: mark) (first :: further)) = first :: further.map (mark ++ ·) := by
  induction further generalizing first with
  | nil => exact lines_eq_singleton hfirst
  | cons line further ih =>
    have hline := hfurther line (List.mem_cons_self ..)
    have hjoin : joinWith ('\n' :: mark) (first :: line :: further) =
        first ++ '\n' :: joinWith ('\n' :: mark) ((mark ++ line) :: further) := by
      rw [joinWith, ← append_joinWith, List.append_assoc, List.cons_append]
    have hmarked : '\n' ∉ mark ++ line := by
      rw [List.mem_append, not_or]
      exact ⟨hmark, hline⟩
    rw [hjoin, lines_append_newline, lines_eq_singleton hfirst,
      ih hmarked fun l hl => hfurther l (List.mem_cons_of_mem line hl)]
    rfl

/-- Texts under one another. -/
theorem lines_joinWith_newline (text : List Char) (texts : List (List Char)) :
    lines (joinWith ['\n'] (text :: texts)) = (text :: texts).flatMap lines := by
  induction texts generalizing text with
  | nil => simp [joinWith]
  | cons next texts ih =>
    have hjoin : joinWith ['\n'] (text :: next :: texts) =
        text ++ '\n' :: joinWith ['\n'] (next :: texts) := by
      rw [joinWith, List.append_assoc]
      rfl
    rw [hjoin, lines_append_newline, ih, ← List.flatMap_cons]

/-! ### Separators between texts -/

/-- A text followed by a piece, with a separator between them if there is a text. -/
def joinTo (sep text piece : String) : String :=
  if text = "" then piece else text ++ sep ++ piece

theorem intercalate_append_cons (sep text piece : String) (pieces : List String) :
    sep.intercalate ((text ++ sep ++ piece) :: pieces) =
      sep.intercalate (text :: piece :: pieces) := by
  rw [String.intercalate_cons_append, String.intercalate_cons_cons]

/-- No separator is put after a text that is empty, so empty texts at the front leave no trace. -/
theorem foldl_joinTo (sep text : String) (pieces : List String) :
    pieces.foldl (joinTo sep) text =
      sep.intercalate ((text :: pieces).dropWhile (· = "")) := by
  induction pieces generalizing text with
  | nil => by_cases htext : text = "" <;> simp [htext]
  | cons piece pieces ih =>
    rw [List.foldl_cons, ih, joinTo]
    by_cases htext : text = ""
    · rw [if_pos htext, List.dropWhile_cons_of_pos (a := text) (by simpa using htext)]
    · have hjoined : text ++ sep ++ piece ≠ "" := by simp [String.append_eq_empty_iff, htext]
      rw [if_neg htext, List.dropWhile_cons_of_neg (by simpa using hjoined),
        List.dropWhile_cons_of_neg (by simpa using htext), intercalate_append_cons]

theorem length_intercalate_le (sep piece : String) (pieces : List String) :
    (sep.intercalate pieces).length ≤ (sep.intercalate (piece :: pieces)).length := by
  rcases pieces with - | ⟨next, pieces⟩
  · exact Nat.zero_le _
  · rw [String.intercalate_cons_cons, String.length_append]
    exact Nat.le_add_left ..

/-- A text does not get longer without the pieces at its front. -/
theorem length_intercalate_dropWhile_le (sep : String) (p : String → Bool) (pieces : List String) :
    (sep.intercalate (pieces.dropWhile p)).length ≤ (sep.intercalate pieces).length := by
  induction pieces with
  | nil => exact Nat.le_refl _
  | cons piece pieces ih =>
    rw [List.dropWhile_cons]
    split
    · exact Nat.le_trans ih (length_intercalate_le sep piece pieces)
    · exact Nat.le_refl _

end Text

end TestEngine
