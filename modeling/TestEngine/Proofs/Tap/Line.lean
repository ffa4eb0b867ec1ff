/-
TestEngine/Proofs/Tap/Line.lean

The lines of the texts of a stream.  A plan and a bail-out are one line each.  A result and a
diagnostic show a message that may have several lines; the first goes on where the text has
got to, and each further line is written after a mark and three spaces, so that it cannot be
taken for the start of a text (`lines_append_indent`).
-/
import TestEngine.Proofs.Text.Lines
import TestEngine.Tap.Line
import TestEngine.Proofs.Path
import TestEngine.Diagnostic

namespace TestEngine

theorem newline_not_mem_toString (n : Nat) : '\n' ∉ (toString n).toList := by
  intro hmem
  rw [Nat.toString_eq_repr, Nat.toList_repr] at hmem
  exact absurd (Nat.isDigit_of_mem_toDigits (by decide) (by decide) hmem) (by decide)

theorem blank_not_mem_toString (n : Nat) : ' ' ∉ (toString n).toList := by
  intro hmem
  rw [Nat.toString_eq_repr, Nat.toList_repr] at hmem
  exact absurd (Nat.isDigit_of_mem_toDigits (by decide) (by decide) hmem) (by decide)

namespace Path

/-- The written form of a path is made of `/` and of the characters of its elements. -/
theorem mem_renderChars {es : List String} {c : Char} (h : c ∈ renderChars es) :
    c = '/' ∨ ∃ e ∈ es, c ∈ e.toList := by
  induction es with
  | nil => exact absurd h (by simp [renderChars])
  | cons e es ih =>
    rw [renderChars, List.mem_cons, List.mem_append] at h
    rcases h with rfl | h | h
    · exact .inl rfl
    · exact .inr ⟨e, List.mem_cons_self .., h⟩
    · rcases ih h with rfl | ⟨x, hx, hc⟩
      · exact .inl rfl
      · exact .inr ⟨x, List.mem_cons_of_mem e hx, hc⟩

/-- The written form of a path with valid elements has no blanks. -/
theorem not_mem_render_of_isBlank {p : Path} (hp : ∀ e ∈ p.elements, isElement e = true)
    {c : Char} (hc : Text.isBlank c = true) : c ∉ p.render.toList := by
  intro hmem
  rw [toList_render] at hmem
  rcases mem_renderChars hmem with rfl | ⟨e, he, hce⟩
  · exact absurd hc (by decide)
  · rw [((chars_of_isElement (hp e he)).2 c hce).2] at hc
    exact absurd hc (by simp)

end Path

namespace Tap

open Text

/-! ### Messages -/

/-- The lines of a message that are shown: one newline at the end does not count. -/
def shownLines (message : String) : List (List Char) := lines (dropFinalNewline message.toList)

/-- The first line of a message, and the further ones. -/
theorem shownLines_eq_cons (message : String) :
    ∃ first further, shownLines message = first :: further ∧ '\n' ∉ first ∧
      ∀ line ∈ further, '\n' ∉ line := by
  have hlines : ∀ line ∈ shownLines message, '\n' ∉ line := fun line hline =>
    newline_not_mem_of_mem_lines hline
  rcases hs : shownLines message with - | ⟨first, further⟩
  · exact absurd hs (splitWhere_ne_nil _ _)
  · rw [hs] at hlines
    exact ⟨first, further, rfl, hlines first (List.mem_cons_self ..), fun line hline =>
      hlines line (List.mem_cons_of_mem first hline)⟩

/-- What further lines start with. -/
def furtherMark (mark : String) : List Char := mark.toList ++ [' ', ' ', ' ']

theorem toList_indent (mark message : String) :
    (indent mark message).toList = joinWith ('\n' :: furtherMark mark) (shownLines message) := by
  have hcontinuation : (continuation mark).toList = '\n' :: furtherMark mark := by
    simp [continuation, furtherMark]
  rw [indent, String.toList_ofList, hcontinuation]
  rfl

/-- A message after some text on the same line. -/
theorem lines_append_indent {xs first : List Char} {further : List (List Char)}
    {mark message : String} (hxs : '\n' ∉ xs) (hmark : '\n' ∉ mark.toList)
    (hshown : shownLines message = first :: further) :
    lines (xs ++ (indent mark message).toList) =
      (xs ++ first) :: further.map (furtherMark mark ++ ·) := by
  have hlines : ∀ line ∈ first :: further, '\n' ∉ line := fun line hline =>
    newline_not_mem_of_mem_lines (hshown ▸ hline : line ∈ shownLines message)
  have hfurther : '\n' ∉ furtherMark mark := by
    simp [furtherMark, hmark]
  rw [toList_indent, hshown, append_joinWith]
  refine lines_joinWith hfurther ?_ fun line hline => hlines line (List.mem_cons_of_mem first hline)
  rw [List.mem_append, not_or]
  exact ⟨hxs, hlines first (List.mem_cons_self ..)⟩

/-! ### Plans and bail-outs -/

theorem lines_plan (count : Nat) : lines (plan count).toList = [(plan count).toList] := by
  refine lines_eq_singleton ?_
  unfold plan
  split
  · decide
  · rw [String.toList_append, List.mem_append, not_or]
    exact ⟨by decide, newline_not_mem_toString count⟩

theorem lines_bailOut {message : String} (h : '\n' ∉ message.toList) :
    lines (bailOut (some message)).toList = [(bailOut (some message)).toList] := by
  refine lines_eq_singleton ?_
  rw [bailOut, String.toList_append, List.mem_append, not_or]
  exact ⟨by decide, h⟩

/-! ### Results -/

/-- A result line up to its directive. -/
def resultStart (number : Nat) (path : Path) (v : Verdict) : String :=
  status v.kind ++ " " ++ toString number ++ " " ++ path.render

theorem result_eq (number : Nat) (path : Path) (v : Verdict) :
    result number path v = resultStart number path v ++ directive v := rfl

variable {number : Nat} {path : Path} {v : Verdict}

theorem newline_not_mem_resultStart (hpath : ∀ e ∈ path.elements, isElement e = true) :
    '\n' ∉ (resultStart number path v).toList := by
  have hstatus : '\n' ∉ (status v.kind).toList := by
    rcases v.kind with _ | _ | _ <;> decide
  simp only [resultStart, String.toList_append, List.mem_append, not_or]
  refine ⟨⟨⟨⟨hstatus, by decide⟩, newline_not_mem_toString number⟩, by decide⟩, ?_⟩
  exact path.not_mem_render_of_isBlank hpath (by decide)

/-- A result without a message is one line. -/
theorem lines_result_of_none (hpath : ∀ e ∈ path.elements, isElement e = true)
    (hmessage : v.message = none) :
    lines (result number path v).toList = [(result number path v).toList] := by
  refine lines_eq_singleton ?_
  have hdirective : '\n' ∉ (directive v).toList := by
    rcases v with ⟨_ | _ | _, message⟩ <;> cases hmessage <;> decide
  rw [result_eq, String.toList_append, List.mem_append, not_or]
  exact ⟨newline_not_mem_resultStart hpath, hdirective⟩

/-- A result with a message has the lines of the message. -/
theorem lines_result_of_some (hpath : ∀ e ∈ path.elements, isElement e = true) {message : String}
    (hmessage : v.message = some message) {first : List Char} {further : List (List Char)}
    (hshown : shownLines message = first :: further) :
    lines (result number path v).toList =
      ((resultStart number path v ++ " # " ++ v.kind.label ++ " ").toList ++ first) ::
        further.map (furtherMark "#" ++ ·) := by
  have hresult : result number path v =
      resultStart number path v ++ " # " ++ v.kind.label ++ " " ++ indent "#" message := by
    rcases v with ⟨_ | _ | _, _⟩ <;> cases hmessage <;>
      simp [result_eq, directive, String.append_assoc]
  have hstart : '\n' ∉ (resultStart number path v ++ " # " ++ v.kind.label ++ " ").toList := by
    have hlabel : '\n' ∉ v.kind.label.toList := by
      rcases v.kind with _ | _ | _ <;> decide
    simp only [String.toList_append, List.mem_append, not_or]
    exact ⟨⟨⟨newline_not_mem_resultStart hpath, by decide⟩, hlabel⟩, by decide⟩
  rw [hresult, String.toList_append]
  exact lines_append_indent hstart (by decide) hshown

/-! ### Diagnostics -/

/-- The mark at the start of the lines of a diagnostic. -/
def mark (colours : Bool) : String := if colours then embolden "#" else "#"

theorem newline_not_mem_mark (colours : Bool) : '\n' ∉ (mark colours).toList := by
  rcases colours with - | - <;> decide

theorem lines_diagnostic {text : String} {first : List Char} {further : List (List Char)}
    (colours : Bool) (hshown : shownLines text = first :: further) :
    lines (diagnostic text colours).toList =
      ((mark colours).toList ++ ' ' :: first) :: further.map (furtherMark (mark colours) ++ ·) := by
  have htext : (diagnostic text colours).toList =
      ((mark colours).toList ++ [' ']) ++ (indent (mark colours) text).toList := by
    simp [diagnostic, mark]
  have hstart : '\n' ∉ (mark colours).toList ++ [' '] := by
    simp [newline_not_mem_mark]
  rw [htext, lines_append_indent hstart (newline_not_mem_mark colours) hshown]
  simp

/-- The written form of a diagnostic does not start with a blank. -/
theorem format_eq_cons (d : Diagnostic) :
    ∃ c cs, (d.format false).toList = c :: cs ∧ c ≠ ' ' ∧ c ≠ '\n' := by
  obtain ⟨domain, level, text, fatal⟩ := d
  rcases fatal with - | -
  · rcases level with _ | _ | _ | _ | _ | _ <;>
      simp [Diagnostic.format, Level.label]
  · simp [Diagnostic.format]

/-- Nor does its first line. -/
theorem shownLines_format (d : Diagnostic) : ∃ c first further,
    shownLines (d.format false) = (c :: first) :: further ∧ c ≠ ' ' := by
  obtain ⟨c, cs, hformat, hblank, hnewline⟩ := format_eq_cons d
  have hdrop : dropFinalNewline (c :: cs) = c :: dropFinalNewline cs := by
    rcases cs with - | ⟨next, cs⟩
    · simp [dropFinalNewline, hnewline]
    · simp [dropFinalNewline]
  obtain ⟨first, further, hshown, -⟩ := shownLines_eq_cons (String.ofList cs)
  rw [shownLines, String.toList_ofList] at hshown
  refine ⟨c, first, further, ?_, hblank⟩
  rw [shownLines, hformat, hdrop, lines, splitWhere, if_neg (by simpa using hnewline)]
  exact congrArg (consFirst c) hshown

end Tap

end TestEngine
