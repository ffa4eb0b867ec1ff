/-
TestEngine/Text/Lines.lean

Cutting a text at a character and putting it together again.

* `splitWhere p` cuts at every character of the class `p` and drops that
  character; the result is never empty.
* `joinWith sep` writes the pieces with `sep` between any two neighbours.
* `dropFinalNewline` drops one newline at the end, if there is one.

The functions work on lists of characters; those of the namespace `Text` that
end in `Of` are the same for strings.
-/
namespace TestEngine

namespace Text

/-! ### Cutting -/

/-- Put a character in front of the first piece. -/
def consFirst (c : Char) : List (List Char) → List (List Char)
  | [] => [[c]]
  | piece :: pieces => (c :: piece) :: pieces

/-- Cut a text at every character of the class `p`, dropping that character. -/
def splitWhere (p : Char → Bool) : List Char → List (List Char)
  | [] => [[]]
  | c :: cs => if p c then [] :: splitWhere p cs else consFirst c (splitWhere p cs)

/-- Cut a text at its newlines. -/
def lines (cs : List Char) : List (List Char) :=
  splitWhere (· == '\n') cs

/-- The lines of a string. -/
def linesOf (s : String) : List String :=
  (lines s.toList).map String.ofList

@[simp] theorem consFirst_ne_nil (c : Char) (pieces : List (List Char)) :
    consFirst c pieces ≠ [] := by
  cases pieces <;> simp [consFirst]

@[simp] theorem splitWhere_ne_nil (p : Char → Bool) (cs : List Char) : splitWhere p cs ≠ [] := by
  cases cs with
  | nil => simp [splitWhere]
  | cons c cs => simp only [splitWhere]; split <;> simp

/-! ### Joining -/

/-- The pieces in order, with `sep` between any two neighbours. -/
def joinWith (sep : List Char) : List (List Char) → List Char
  | [] => []
  | [piece] => piece
  | piece :: next :: pieces => piece ++ sep ++ joinWith sep (next :: pieces)

/-- Cutting at one character and joining with it again gives the text back. -/
theorem joinWith_splitWhere (c : Char) (cs : List Char) :
    joinWith [c] (splitWhere (· == c) cs) = cs := by
  induction cs with
  | nil => rfl
  | cons d cs ih =>
    by_cases h : d == c
    · simp only [splitWhere, h, if_true]
      cases hs : splitWhere (· == c) cs with
      | nil => exact absurd hs (splitWhere_ne_nil _ _)
      | cons piece pieces =>
        rw [hs] at ih
        simp only [joinWith, ih, List.nil_append]
        rw [eq_of_beq h]
        rfl
    · simp only [splitWhere, h]
      cases hs : splitWhere (· == c) cs with
      | nil => exact absurd hs (splitWhere_ne_nil _ _)
      | cons piece pieces =>
        rw [hs] at ih
        cases pieces with
        | nil => simpa [consFirst, joinWith] using ih
        | cons next pieces => simpa [consFirst, joinWith] using ih

/-! ### The final newline -/

/-- The text without one newline at its end, if it has one there. -/
def dropFinalNewline : List Char → List Char
  | [] => []
  | ['\n'] => []
  | c :: cs => c :: dropFinalNewline cs

end Text

end TestEngine
