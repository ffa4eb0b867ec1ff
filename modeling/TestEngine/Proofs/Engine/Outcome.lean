/-
TestEngine/Proofs/Engine/Outcome.lean

The outcome of a test.  A test ends early by unwinding, but what it ends with is kept
apart from that, in a slot of its context, and the two can disagree: a body may catch
what it has raised, go on to raise something else or panic, or end normally, while
other threads and hooks record outcomes on its behalf.

What settles the matter is that the slot is written once.  Whatever a script does, the
slot of the test that runs holds what it held before, or else the first of the outcomes
recorded meanwhile (`FirstRecorded`); this is respected by every change that an effect
makes, so it holds of every script.  The verdict is then a matter of the first outcome
recorded since the test was entered, and only if there is none, of the way in which the
body ended (`outcome_of_execute`).
-/
import TestEngine.Proofs.Engine.Advance

namespace TestEngine

/-- The outcome that the entry records, if it records one. -/
def Entry.outcome? : Entry → Option Verdict
  | .recorded v => some v
  | _ => none

theorem Entry.Quiet.outcome?_eq_none {x : Entry} (h : x.Quiet) : x.outcome? = none := by
  rcases x with _ | _ | _ | _ | _ | _ | _ | _ | _ | _ | _ | _ | _ | _ | _ | _
  all_goals first
    | rfl
    | exact False.elim h

namespace Engine

/-- The outcomes recorded since the state `e`, on any thread, oldest first. -/
def outcomesSince (e e' : Engine) : List Verdict := (since e e').filterMap Entry.outcome?

/-! ### The slot is written once -/

/-- A test that runs in both states has the outcome that it had, or else the first of those
recorded meanwhile. -/
def FirstRecorded (e e' : Engine) : Prop :=
  ∃ new : List Entry, e'.journal = new.reverse ++ e.journal ∧
    e'.context = e.context.map fun c =>
      { c with pending := c.pending <|> (new.filterMap Entry.outcome?).head? }

namespace FirstRecorded

variable {e e' e₁ e₂ e₃ : Engine}

/-- Nothing but what is noted and the context matters. -/
theorem congr (h : FirstRecorded e e') (hjournal : e₁.journal = e.journal)
    (hcontext : e₁.context = e.context) (hjournal' : e₂.journal = e'.journal)
    (hcontext' : e₂.context = e'.context) : FirstRecorded e₁ e₂ := by
  unfold FirstRecorded
  rw [hjournal, hcontext, hjournal', hcontext']
  exact h

theorem refl (e : Engine) : FirstRecorded e e := by
  refine ⟨[], rfl, ?_⟩
  rcases e.context with - | ⟨owner, _ | _⟩ <;> rfl

/-- What is noted records no outcome, and the context is left alone. -/
theorem note {x : Entry} (hx : x.outcome? = none) (e : Engine) :
    FirstRecorded e { e with journal := x :: e.journal } := by
  refine ⟨[x], rfl, ?_⟩
  rw [List.filterMap_cons_none hx]
  rcases e.context with - | ⟨owner, _ | _⟩ <;> rfl

/-- The first outcome of two stretches is that of the first which has one. -/
theorem trans (h : FirstRecorded e₁ e₂) (h' : FirstRecorded e₂ e₃) : FirstRecorded e₁ e₃ := by
  obtain ⟨new, hnew, hcontext⟩ := h
  obtain ⟨new', hnew', hcontext'⟩ := h'
  refine ⟨new ++ new', ?_, ?_⟩
  · exact journal_append hnew hnew'
  · rw [hcontext', hcontext, List.filterMap_append, List.head?_append]
    rcases e₁.context with - | ⟨owner, _ | v⟩
    · rfl
    · rcases (new.filterMap Entry.outcome?).head? with _ | w <;> rfl
    · rfl

/-- An outcome that is recorded counts if there is none yet. -/
theorem recording {c : Context} (hc : e.context = some c) (v : Verdict) :
    FirstRecorded e (recording v c e) := by
  refine ⟨[.recorded v], rfl, ?_⟩
  rw [hc]
  rcases c with ⟨owner, _ | w⟩ <;> rfl

/-- A test within is entered and left, and no test runs before it and after it. -/
theorem leave (hc : e.context = none) (h : FirstRecorded e.entered e') :
    FirstRecorded e e'.leave := by
  obtain ⟨new, hnew, -⟩ := h
  refine ⟨.entered :: new ++ [.left], ?_, ?_⟩
  · show .left :: e'.journal = _
    rw [hnew]
    simp [entered]
  · rw [hc]
    rfl

end FirstRecorded

/-- To be asked records no outcome. -/
theorem FirstRecorded.consulted (i : Installed) (d : Diagnostic) (e : Engine) :
    FirstRecorded e (consulted i d e) := by
  have hasked : FirstRecorded e { e with journal := .asked i.id d :: e.journal } := .note rfl e
  rcases hc : i.hook.counter? d with - | counter
  · exact hasked.congr rfl rfl (by simp [Engine.consulted, hc]) rfl
  · have hcredited := hasked.trans (.note (x := .credited counter) rfl _)
    exact hcredited.congr rfl rfl (by simp [Engine.consulted, hc]) rfl

theorem firstRecorded_enlist (named : Bool) (h : Hook) (e : Engine) :
    FirstRecorded e (enlist named h e) := by
  rcases named with _ | _
  · exact (FirstRecorded.refl e).congr rfl rfl rfl rfl
  · exact (FirstRecorded.refl e).congr rfl rfl rfl rfl

theorem firstRecorded_binding (h : Hook) (e : Engine) : FirstRecorded e (binding h e) :=
  (FirstRecorded.refl e).congr rfl rfl rfl rfl

theorem respected_firstRecorded (A : Action → Prop) :
    Respected A (fun x => x.outcome? = none) FirstRecorded where
  refl := FirstRecorded.refl
  trans h h' := h.trans h'
  noted e _ hx := .note hx e
  printed e _ := .note rfl e
  installed _ _ _ _ _ := firstRecorded_enlist _ _ _
  popped e _ _ _ _ := (FirstRecorded.refl e).congr rfl rfl rfl rfl
  released _ h _ _ := ((firstRecorded_enlist _ _ _).trans h).congr rfl rfl rfl rfl
  discarded _ h := ((firstRecorded_enlist _ _ _).trans h).congr rfl rfl rfl rfl
  bound _ _ h := ((firstRecorded_binding _ _).trans h).congr rfl rfl rfl rfl
  recorded _ _ _ _ hc := .recording hc _
  tested hc h := .leave hc h
  threaded h := h.congr rfl rfl rfl rfl
  cleaned h := h.congr rfl rfl rfl rfl
  asked d _ h := h.trans (.consulted _ d _)
  collected e counter amount _ :=
    (FirstRecorded.note (x := .collected counter amount) rfl e).congr rfl rfl rfl rfl
  configured e _ _ _ := (FirstRecorded.refl e).congr rfl rfl rfl rfl
  intercepted e := (FirstRecorded.refl e).congr rfl rfl rfl rfl

/-! ### The body of a test -/

variable {e e' : Engine}

/-- A slot that was empty holds the first outcome that was recorded since. -/
theorem FirstRecorded.slot_eq (h : FirstRecorded e e') {owner : Nat}
    (hc : e.context = some ⟨owner, none⟩) :
    e'.context = some ⟨owner, (outcomesSince e e').head?⟩ := by
  obtain ⟨new, hnew, hcontext⟩ := h
  rw [outcomesSince, since_eq hnew, hcontext, hc]
  rfl

/-- While a test runs, its slot holds the first outcome that was recorded since it was entered. -/
theorem FirstRecorded.context_eq (h : FirstRecorded e.entered e') :
    e'.context = some ⟨e.thread, (outcomesSince e.entered e').head?⟩ := h.slot_eq rfl

/-- What records no outcome does not count. -/
theorem FirstRecorded.outcomesSince_note (h : FirstRecorded e e') {x : Entry}
    (hx : x.outcome? = none) :
    outcomesSince e { e' with journal := x :: e'.journal } = outcomesSince e e' := by
  obtain ⟨new, hnew, -⟩ := h
  have hnew' : Engine.journal { e' with journal := x :: e'.journal } =
      (new ++ [x]).reverse ++ e.journal := by
    rw [List.reverse_append, List.append_assoc, ← hnew]
    rfl
  rw [outcomesSince, since_eq hnew', outcomesSince, since_eq hnew, List.filterMap_append,
    List.filterMap_cons_none hx]
  exact List.append_nil _

theorem FirstRecorded.pending_eq (h : FirstRecorded e.entered e') :
    e'.pending = (outcomesSince e.entered e').head? := by
  rw [pending, h.context_eq]
  rfl

theorem lands_firstRecorded_perform (script : Script) (e : Engine) :
    Lands (FirstRecorded e) (perform script e) :=
  (keeps_perform (respected_firstRecorded _) Entry.Quiet.outcome?_eq_none script.within_all).lands e

/-- The verdict of a test that runs a script, from the way in which the script ends.  A
violation goes on unwinding.  Otherwise the first outcome that was recorded since the test was
entered is the verdict, and only without one does it matter how the script ended.  If the
process ends, so does the test. -/
theorem outcome_of_execute (script : Script) (e : Engine) (hidle : e.context = none) :
    execute (perform script) e =
      match perform script e.entered with
      | .ok _ e' => .ok ((outcomesSince e.entered e').head?.getD .pass) e'.leave
      | .error (.unwound payload) e' =>
        match payload with
        | .violation v => .error (.unwound (.violation v)) e'.leave
        | .abortSignal =>
          .ok ((outcomesSince e.entered e').head?.getD (.fail "aborted without an outcome")) e'.leave
        | .text s =>
          .ok ((outcomesSince e.entered e').head?.getD (.fail ("panicked: " ++ s))) e'.leave
        | .nonText =>
          .ok ((outcomesSince e.entered e').head?.getD
            (.fail "panicked: non-string panic payload")) e'.leave
      | .error stop e' => .error stop e' := by
  have hfirst := lands_firstRecorded_perform script e.entered
  rw [execute_of_idle hidle]
  rcases ho : perform script e.entered with ⟨_, e'⟩ | ⟨payload | _ | _ | _, e'⟩ <;> rw [ho] at hfirst
  · simp only [concluded, FirstRecorded.pending_eq hfirst]
  · -- the slot has decided before the payload is looked at, unless it is a violation
    have hpending : e'.pending = (outcomesSince e.entered e').head? := FirstRecorded.pending_eq hfirst
    rcases payload with _ | s | _ | v
    · simp only [concluded, verdictOn, hpending]
    · have hverdict : ∀ recorded, verdictOn recorded (.text s) =
          some (recorded.getD (.fail ("panicked: " ++ s))) := fun _ => rfl
      simp only [concluded, hpending, hverdict]
    · have hverdict : ∀ recorded, verdictOn recorded .nonText =
          some (recorded.getD (.fail "panicked: non-string panic payload")) := fun _ => rfl
      simp only [concluded, hpending, hverdict]
    · simp only [concluded, verdictOn]
  all_goals rfl

/-- A body that catches what it raises, waits for a thread that raises too, and panics. -/
def raisedTwice : Script :=
  [.catch [.raise (.fail "first")], .thread [.raise (.skip "second")], .panic (.text "late")]

/-- The first of the two outcomes is the verdict, and the panic does not matter. -/
theorem outcome_of_raisedTwice :
    Engine.initial.context = none ∧
      outcomesSince Engine.initial.entered (endOf (perform raisedTwice Engine.initial.entered)) =
        [.fail "first", .skip "second"] ∧
      valueOf (execute (perform raisedTwice) Engine.initial) = some (.fail "first") := by
  refine ⟨rfl, by decide +kernel, ?_⟩
  rw [outcome_of_execute raisedTwice Engine.initial rfl]
  decide +kernel

end Engine

end TestEngine
