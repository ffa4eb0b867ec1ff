/-
TestEngine/Proofs/Tap/Sinks.lean

The two places where texts go.  A terminal puts a newline after each text (`printed`).  A buffer
puts one in front of a text, but not while it holds nothing: whether a text is the first is judged
by what the buffer holds, not by whether anything has been written.  So it forgets the empty texts
that come before all others, and agrees with the terminal about every sequence of texts that does
not start with an empty one (`sinks_of_steps`).
-/
import TestEngine.Tap.Buffer
import TestEngine.Proofs.Text.Lines

namespace TestEngine

namespace Tap

open Text

/-- The texts that the steps write, if this many results have been reported before.  What is written
to the buffer without the reporter is written as by a raw step. -/
def Reporter.texts : Nat → List Reporter.Step → List String
  | _, [] => []
  | reported, .plan count :: steps => Tap.plan count :: texts reported steps
  | reported, .result path v :: steps =>
    Tap.result (reported + 1) path v :: texts (reported + 1) steps
  | reported, .bailOut message :: steps => Tap.bailOut (some message) :: texts reported steps
  | reported, .raw text :: steps => text :: texts reported steps

/-- What a sink that is new holds after the texts, and what a terminal shows. -/
structure Sinks (texts : List String) (contents : String) : Prop where
  /-- A buffer holds the texts, but for the empty ones at the front, with one newline between any
  two. -/
  collected : contents = "\n".intercalate (texts.dropWhile (· = ""))
  /-- A terminal shows all texts with one newline between any two, and one more. -/
  shown : printed texts = if texts = [] then "" else "\n".intercalate texts ++ "\n"
  /-- The buffer holds what the terminal shows, up to the last newline, just if there is no text
  after an empty one at the front. -/
  agree : contents = "\n".intercalate texts ↔ ∀ text later, texts ≠ "" :: text :: later

/-! ### Terminals -/

theorem printed_eq (texts : List String) :
    printed texts = if texts = [] then "" else "\n".intercalate texts ++ "\n" := by
  induction texts with
  | nil => rfl
  | cons text texts ih =>
    have hfirst : printed (text :: texts) = text ++ "\n" ++ printed texts := String.join_cons
    rw [hfirst, ih, if_neg (List.cons_ne_nil text texts)]
    rcases texts with - | ⟨next, later⟩
    · simp
    · rw [if_neg (List.cons_ne_nil next later), String.intercalate_cons_cons, String.append_assoc,
        String.append_assoc, String.append_assoc]

/-! ### Buffers -/

/-- A reporter writes its texts to its buffer. -/
theorem Reporter.run_buffer (r : Reporter) (steps : List Reporter.Step) :
    (r.run steps).buffer = r.buffer.emitAll (texts r.reported steps) := by
  induction steps generalizing r with
  | nil => rfl
  | cons step steps ih =>
    cases step with
    | plan | result | bailOut | raw => exact ih _

/-- A buffer is a text that grows. -/
theorem Buffer.contents_emitAll (b : Buffer) (texts : List String) :
    (b.emitAll texts).contents = texts.foldl (joinTo "\n") b.contents := by
  induction texts generalizing b with
  | nil => rfl
  | cons text texts ih =>
    have hemit : (b.emit text).contents = joinTo "\n" b.contents text := by
      by_cases hb : b.contents = "" <;> simp [Buffer.emit, joinTo, hb]
    rw [List.foldl_cons, ← hemit]
    exact ih _

/-- To leave the empty texts at the front out makes a sequence shorter, if another text follows. -/
theorem intercalate_dropWhile_eq_iff (texts : List String) :
    "\n".intercalate (texts.dropWhile (· = "")) = "\n".intercalate texts ↔
      ∀ text later, texts ≠ "" :: text :: later := by
  rcases texts with - | ⟨first, - | ⟨next, later⟩⟩
  · simp
  · by_cases hfirst : first = "" <;> simp [hfirst]
  · by_cases hfirst : first = ""
    · refine iff_of_false (fun heq => ?_) fun hall => hall next later (by rw [hfirst])
      have hle := length_intercalate_dropWhile_le "\n" (· = "") (next :: later)
      rw [hfirst, List.dropWhile_cons_of_pos (by simp)] at heq
      rw [heq, String.intercalate_cons_cons, String.length_append, String.length_append] at hle
      have hnewline : "\n".length = 1 := rfl
      omega
    · refine iff_of_true ?_ fun text later' heq => hfirst (List.cons.inj heq).1
      rw [List.dropWhile_cons_of_neg (by simpa using hfirst)]

/-! ### The sinks -/

/-- Whatever is written, the buffer has lost the empty texts at the front and nothing else. -/
theorem sinks_of_steps (steps : List Reporter.Step) :
    Sinks (Reporter.texts 0 steps) (Reporter.empty.run steps).buffer.contents := by
  have hcontents : (Reporter.empty.run steps).buffer.contents =
      "\n".intercalate ((Reporter.texts 0 steps).dropWhile (· = "")) := by
    rw [Reporter.run_buffer, Buffer.contents_emitAll, foldl_joinTo,
      List.dropWhile_cons_of_pos (by rfl)]
    rfl
  exact ⟨hcontents, printed_eq _, hcontents ▸ intercalate_dropWhile_eq_iff _⟩

/-- A text after an empty one. -/
def blankFirst : List Reporter.Step := [.raw "", .raw "a"]

/-- The buffer has one line of the two that a terminal shows. -/
theorem blank_lost_of_blankFirst :
    let contents := (Reporter.empty.run blankFirst).buffer.contents
    let texts := Reporter.texts 0 blankFirst
    contents ≠ "\n".intercalate texts ∧ contents = "a" ∧ printed texts = "\na\n" := by
  decide +kernel

end Tap

end TestEngine
