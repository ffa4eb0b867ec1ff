/-
TestEngine/Proofs/Tap/Decode.lean

Reading the results off a stream.  `decode` is a reader that knows nothing of what was meant:
it takes the lines that start with `ok ` or `not ok ` for results, each together with the lines
right after it that start with `#` and three spaces, and reads off the number, the path and the
verdict.  It reads a result as it was written (`readResult_result`), because a path has no
blanks and ends where the directive starts, and because the further lines of a message are
marked.
-/
import TestEngine.Proofs.Tap.Line

namespace TestEngine

namespace Tap

open Text

/-! ### The reader -/

/-- The text up to the first space, and what follows that space, if there is one. -/
def cutWord : List Char → List Char × Option (List Char)
  | [] => ([], none)
  | c :: cs =>
    if c == ' ' then ([], some cs)
    else
      let (word, rest) := cutWord cs
      (c :: word, rest)

/-- What follows the status of a result line, if it is one. -/
def afterStatus : List Char → Option (List Char)
  | 'o' :: 'k' :: ' ' :: cs => some cs
  | 'n' :: 'o' :: 't' :: ' ' :: 'o' :: 'k' :: ' ' :: cs => some cs
  | _ => none

/-- Is the line the start of a result? -/
def isResult (line : List Char) : Bool := (afterStatus line).isSome

/-- May the line be a further line of a message? -/
def isFurther (line : List Char) : Bool := (furtherMark "#").isPrefixOf line

/-- The number with these digits. -/
def readNumber (digits : List Char) : Option Nat :=
  if digits != [] && digits.all Char.isDigit then some (Nat.ofDigitChars 10 digits 0) else none

/-- The kind of result with this name. -/
def kindOf? (name : String) : Option Verdict.Kind :=
  [.pass, .skip, .fail].find? fun kind => kind.label == name

/-- The verdict that a directive and further lines stand for; without a directive, it is a pass. -/
def readVerdict (directive : Option (List Char)) (further : List (List Char)) : Option Verdict :=
  match directive with
  | none => some .pass
  | some cs =>
    match cutWord cs with
    | (['#'], some cs) =>
      let (name, first) := cutWord cs
      let lines := further.map (List.drop 4)
      (kindOf? (String.ofList name)).map fun kind =>
        ⟨kind, first.map fun first => String.ofList (joinWith ['\n'] (first :: lines))⟩
    | _ => none

/-- A result as it is read. -/
structure Reading where
  number : Nat
  path : Path
  verdict : Verdict
  deriving DecidableEq, Repr

/-- Read a result line and its further lines. -/
def readResult (line : List Char) (further : List (List Char)) : Option Reading := do
  let (number, rest) := cutWord (← afterStatus line)
  let (path, directive) := cutWord (← rest)
  let number ← readNumber number
  let verdict ← readVerdict directive further
  match Path.parse (String.ofList path) with
  | .ok path => some ⟨number, path, verdict⟩
  | .error _ => none

/-- Read the results of a stream, given as its lines. -/
def decode : List (List Char) → List (Option Reading)
  | [] => []
  | line :: rest =>
    if isResult line then readResult line (rest.takeWhile isFurther) :: decode rest
    else decode rest

/-! ### What can be read off a result -/

/-- A verdict as its texts show it: one newline at the end of the message does not count. -/
def shown (v : Verdict) : Verdict :=
  { v with message := v.message.map fun m => String.ofList (dropFinalNewline m.toList) }

theorem cutWord_eq_none {word : List Char} (h : ' ' ∉ word) : cutWord word = (word, none) := by
  induction word with
  | nil => rfl
  | cons c word ih =>
    rw [List.mem_cons, not_or] at h
    rw [cutWord, if_neg (by simpa using fun he => h.1 he.symm), ih h.2]

theorem cutWord_append_space {word : List Char} (h : ' ' ∉ word) (rest : List Char) :
    cutWord (word ++ ' ' :: rest) = (word, some rest) := by
  induction word with
  | nil => rfl
  | cons c word ih =>
    rw [List.mem_cons, not_or] at h
    rw [List.cons_append, cutWord, if_neg (by simpa using fun he => h.1 he.symm), ih h.2]

theorem readNumber_toString (n : Nat) : readNumber (toString n).toList = some n := by
  have hdigits : (toString n).toList = Nat.toDigits 10 n := by
    rw [Nat.toString_eq_repr, Nat.toList_repr]
  have hall : (Nat.toDigits 10 n).all Char.isDigit = true := List.all_eq_true.mpr fun c hc =>
    Nat.isDigit_of_mem_toDigits (by decide) (by decide) hc
  rw [readNumber, hdigits, if_pos (by simp [hall, Nat.toDigits_ne_nil]), Nat.ofDigitChars_ten_toDigits]

theorem kindOf?_label (kind : Verdict.Kind) : kindOf? kind.label = some kind := by
  rcases kind with _ | _ | _ <;> decide

theorem space_not_mem_label (kind : Verdict.Kind) : ' ' ∉ kind.label.toList := by
  rcases kind with _ | _ | _ <;> decide

/-- A directive without a message. -/
theorem readVerdict_of_none (kind : Verdict.Kind) :
    readVerdict (some ('#' :: ' ' :: kind.label.toList)) [] = some ⟨kind, none⟩ := by
  rcases kind with _ | _ | _ <;> decide

/-- A directive with a message and its further lines. -/
theorem readVerdict_of_some (kind : Verdict.Kind) {message : String} {first : List Char}
    {further : List (List Char)} (hshown : shownLines message = first :: further) :
    readVerdict (some ('#' :: ' ' :: (kind.label.toList ++ ' ' :: first)))
      (further.map (furtherMark "#" ++ ·)) = some (shown ⟨kind, some message⟩) := by
  have hmark : cutWord ('#' :: ' ' :: (kind.label.toList ++ ' ' :: first)) =
      (['#'], some (kind.label.toList ++ ' ' :: first)) := rfl
  have hfurther : (further.map (furtherMark "#" ++ ·)).map (List.drop 4) = further := by
    rw [List.map_map]
    exact List.map_id'' (fun line => rfl) further
  have hjoin : joinWith ['\n'] (first :: further) = dropFinalNewline message.toList := by
    rw [← hshown]
    exact joinWith_splitWhere '\n' _
  simp only [readVerdict, hmark, cutWord_append_space (space_not_mem_label kind), hfurther,
    String.ofList_toList, kindOf?_label, Option.map_some, hjoin]
  rfl

variable {number : Nat} {path : Path} {v : Verdict}

theorem afterStatus_resultStart (number : Nat) (path : Path) (v : Verdict) (rest : List Char) :
    afterStatus ((resultStart number path v).toList ++ rest) =
      some ((toString number).toList ++ ' ' :: (path.render.toList ++ rest)) := by
  have hstart : (resultStart number path v).toList ++ rest =
      ((status v.kind).toList ++ [' ']) ++
        ((toString number).toList ++ ' ' :: (path.render.toList ++ rest)) := by
    simp [resultStart]
  rw [hstart]
  rcases v.kind with _ | _ | _ <;> rfl

/-- The number and the path of a result line, and what is left to read. -/
theorem readResult_resultStart (hpath : path.Proper) {rest : List Char}
    {directive : Option (List Char)} {further : List (List Char)}
    (hrest : cutWord (path.render.toList ++ rest) = (path.render.toList, directive)) :
    readResult ((resultStart number path v).toList ++ rest) further =
      (readVerdict directive further).map fun verdict => ⟨number, path, verdict⟩ := by
  have hparse : Path.parse (String.ofList path.render.toList) = .ok path := by
    rw [String.ofList_toList, Path.parse_render hpath]
  simp only [readResult, afterStatus_resultStart, Option.bind_eq_bind, Option.bind_some,
    cutWord_append_space (blank_not_mem_toString number), hrest,
    readNumber_toString, hparse]
  rcases readVerdict directive further with - | verdict <;> rfl

/-- All the lines of a result together are read as that result. -/
theorem readResult_result (hpath : path.Proper) (number : Nat) (v : Verdict) :
    ∃ first further, lines (result number path v).toList = first :: further ∧
      isResult first = true ∧ (∀ line ∈ further, isFurther line = true) ∧
      readResult first further = some ⟨number, path, shown v⟩ := by
  have hblank : ' ' ∉ path.render.toList := path.not_mem_render_of_isBlank hpath.valid (by decide)
  have hresult : ∀ rest, isResult ((resultStart number path v).toList ++ rest) = true := by
    intro rest
    rw [isResult, afterStatus_resultStart]
    rfl
  rcases hmessage : v.message with - | message
  · refine ⟨_, [], lines_result_of_none hpath.valid hmessage, ?_, by simp, ?_⟩
    · rw [result_eq, String.toList_append]
      exact hresult _
    · rw [result_eq, String.toList_append]
      have hshown : shown v = ⟨v.kind, none⟩ := by
        rw [shown, hmessage]
        rfl
      -- only a pass without a message has no directive
      have hdirective : (directive v).toList = [] ∧ v.kind = .pass ∨
          (directive v).toList = ' ' :: '#' :: ' ' :: v.kind.label.toList := by
        rcases v with ⟨_ | _ | _, _⟩ <;> cases hmessage <;> simp [directive]
      rcases hdirective with ⟨hnone, hpass⟩ | hsome
      · have hcut : cutWord (path.render.toList ++ (directive v).toList) =
            (path.render.toList, none) := by
          rw [hnone, List.append_nil]
          exact cutWord_eq_none hblank
        rw [readResult_resultStart hpath hcut, hshown, hpass]
        rfl
      · have hcut : cutWord (path.render.toList ++ (directive v).toList) =
            (path.render.toList, some ('#' :: ' ' :: v.kind.label.toList)) := by
          rw [hsome]
          exact cutWord_append_space hblank _
        rw [readResult_resultStart hpath hcut, hshown, readVerdict_of_none]
        rfl
  · obtain ⟨first, further, hshown, -⟩ := shownLines_eq_cons message
    have hline : (resultStart number path v ++ " # " ++ v.kind.label ++ " ").toList ++ first =
        (resultStart number path v).toList ++
          (' ' :: '#' :: ' ' :: (v.kind.label.toList ++ ' ' :: first)) := by
      simp
    have hcut : cutWord (path.render.toList ++
        (' ' :: '#' :: ' ' :: (v.kind.label.toList ++ ' ' :: first))) =
          (path.render.toList, some ('#' :: ' ' :: (v.kind.label.toList ++ ' ' :: first))) :=
      cutWord_append_space hblank _
    refine ⟨_, _, lines_result_of_some hpath.valid hmessage hshown, ?_, fun line hmem => ?_, ?_⟩
    · rw [hline]
      exact hresult _
    · obtain ⟨rest, -, rfl⟩ := List.mem_map.mp hmem
      rfl
    · rw [hline, readResult_resultStart hpath hcut, readVerdict_of_some v.kind hshown, ← hmessage]
      rfl

end Tap

end TestEngine
