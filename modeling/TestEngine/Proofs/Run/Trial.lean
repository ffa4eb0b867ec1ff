/-
TestEngine/Proofs/Run/Trial.lean

Bodies that are run as tests, and what becomes of a panic in one.  A trial is a script that is
run as a test: a unit of a case, or what an action runs (`Trial`).  Its verdict is the first
outcome recorded since it was entered, and the way in which the script ends counts only if there
is none.

So a panic is a failure of the test that it ends, unless an outcome was recorded before it, and
then the panic is masked: a test passes or is skipped although its body panicked, if the first
outcome recorded for it says so (`panicked_of_unwound`, `skipped_of_caught`).  What is logged and
what is asserted records failures only, so it takes a raised outcome or an unmet prerequisite to
mask a panic.
-/
import TestEngine.Proofs.Run.Emission

namespace TestEngine

/-! ### Trials -/

/-- A script that is run as a test: in a script, nested at most `depth` deep, or as a unit of a
case. -/
inductive Trial
  | nested (depth : Nat) (script : Script)
  | unit (case : ObjectId) (number : Nat) (script : Script)

namespace Trial

def script : Trial → Script
  | .nested _ script => script
  | .unit _ _ script => script

/-- How deep scripts may be nested. -/
def depth : Trial → Nat
  | .nested depth _ => depth
  | .unit _ _ _ => Engine.depthLimit

/-- Run the script as a test. -/
def act : Trial → Engine.Act Verdict
  | .nested depth script => Engine.execute (Engine.performWithin depth script)
  | .unit case number script => Engine.runUnit case number script

/-- The state in which the script starts. -/
def opened (e : Engine) : Trial → Engine
  | .nested _ _ => e.entered
  | .unit case number _ => Engine.begun case number e

/-- Carry out the script. -/
def perform (t : Trial) : Engine.Act Unit := Engine.performWithin t.depth t.script

variable {t : Trial} {e e' : Engine}

theorem act_eq (hidle : e.context = none) : t.act e = Engine.concluded (t.perform (t.opened e)) := by
  rcases t with ⟨depth, script⟩ | ⟨case, number, script⟩
  · exact Engine.execute_of_idle hidle
  · exact Engine.runUnit_of_idle hidle

@[simp] theorem chain_opened : (t.opened e).chain = e.chain := by
  rcases t with _ | _ <;> rfl

@[simp] theorem thread_opened : (t.opened e).thread = e.thread := by
  rcases t with _ | _ <;> rfl

@[simp] theorem unwinding_opened : (t.opened e).unwinding = e.unwinding := by
  rcases t with _ | _ <;> rfl

theorem firstRecorded_opened (t : Trial) (e : Engine) :
    Engine.FirstRecorded e.entered (t.opened e) := by
  rcases t with _ | ⟨case, number, _⟩
  · exact Engine.FirstRecorded.refl _
  · exact Engine.FirstRecorded.note (x := .unitStarted case number) rfl _

theorem lands_firstRecorded (t : Trial) (e : Engine) :
    Lands (Engine.FirstRecorded e.entered) (t.perform (t.opened e)) := by
  have hkeeps := Engine.keeps_performWithin (Engine.respected_firstRecorded _)
    Entry.Quiet.outcome?_eq_none t.depth t.script.within_all
  exact (hkeeps.lands (t.opened e)).mono fun _ h => (t.firstRecorded_opened e).trans h

end Trial

/-! ### Outcomes that are failures -/

/-- The action records no outcome but failures. -/
def Action.FailsOnly : Action → Prop
  | .raise v => v.isFail = true
  | .require p => ∀ flags, p.refusal? flags = none
  | _ => True

theorem isFail_of_recordable {v : Verdict} (h : Recordable Action.FailsOnly v) : v.isFail = true := by
  rcases h with hfail | hraise | ⟨p, flags, message, hrequire, hrefusal, -⟩
  · exact hfail
  · exact hraise
  · exact absurd hrefusal (by rw [hrequire flags]; simp)

namespace Engine

/-- All outcomes that were recorded meanwhile are failures. -/
def FailuresRecorded (e e' : Engine) : Prop :=
  ∃ new : List Entry, e'.journal = new.reverse ++ e.journal ∧
    ∀ v ∈ new.filterMap Entry.outcome?, v.isFail = true

namespace FailuresRecorded

variable {e e' e₁ e₂ e₃ : Engine}

/-- Nothing but what is noted matters. -/
theorem congr (h : FailuresRecorded e e') (hjournal : e₁.journal = e.journal)
    (hjournal' : e₂.journal = e'.journal) : FailuresRecorded e₁ e₂ := by
  unfold FailuresRecorded
  rw [hjournal, hjournal']
  exact h

theorem refl (e : Engine) : FailuresRecorded e e := ⟨[], rfl, by simp⟩

theorem trans (h : FailuresRecorded e₁ e₂) (h' : FailuresRecorded e₂ e₃) :
    FailuresRecorded e₁ e₃ := by
  obtain ⟨new, hnew, hfail⟩ := h
  obtain ⟨new', hnew', hfail'⟩ := h'
  refine ⟨new ++ new', ?_, fun v hv => ?_⟩
  · exact journal_append hnew hnew'
  · rw [List.filterMap_append] at hv
    rcases List.mem_append.mp hv with hv | hv
    · exact hfail v hv
    · exact hfail' v hv

theorem note {x : Entry} (hx : ∀ v, x.outcome? = some v → v.isFail = true) (e : Engine) :
    FailuresRecorded e { e with journal := x :: e.journal } := by
  refine ⟨[x], rfl, fun v hv => ?_⟩
  obtain ⟨y, hy, hout⟩ := List.mem_filterMap.mp hv
  rw [List.mem_singleton.mp hy] at hout
  exact hx v hout

/-- What records no outcome does not matter. -/
theorem note_of_none {x : Entry} (hx : x.outcome? = none) (e : Engine) :
    FailuresRecorded e { e with journal := x :: e.journal } :=
  note (fun v hv => absurd hv (by simp [hx])) e

theorem consulted (i : Installed) (d : Diagnostic) (e : Engine) :
    FailuresRecorded e (consulted i d e) := by
  have hasked : FailuresRecorded e (asking i d e) := note_of_none rfl e
  rcases hc : i.hook.counter? d with - | counter
  · exact hasked.congr rfl (by simp [Engine.consulted, asking, hc])
  · have hcredited := hasked.trans (note_of_none (x := .credited counter) rfl _)
    exact hcredited.congr rfl (by simp [Engine.consulted, asking, hc])

end FailuresRecorded

theorem failuresRecorded_enlist (named : Bool) (h : Hook) (e : Engine) :
    FailuresRecorded e (enlist named h e) := by
  rcases named with _ | _ <;> exact (FailuresRecorded.refl e).congr rfl rfl

theorem failuresRecorded_binding (h : Hook) (e : Engine) : FailuresRecorded e (binding h e) :=
  (FailuresRecorded.refl e).congr rfl rfl

/-- Scripts whose actions record failures only. -/
theorem respected_failuresRecorded :
    Respected Action.FailsOnly (fun x => x.outcome? = none) FailuresRecorded where
  refl := FailuresRecorded.refl
  trans h h' := h.trans h'
  noted e _ hx := .note_of_none hx e
  printed e _ := .note_of_none rfl e
  installed _ _ _ _ _ := failuresRecorded_enlist _ _ _
  popped e _ _ _ _ := (FailuresRecorded.refl e).congr rfl rfl
  released _ h _ _ := ((failuresRecorded_enlist _ _ _).trans h).congr rfl rfl
  discarded _ h := ((failuresRecorded_enlist _ _ _).trans h).congr rfl rfl
  bound _ _ h := ((failuresRecorded_binding _ _).trans h).congr rfl rfl
  recorded e _ v hv _ := by
    have hnoted := FailuresRecorded.note (x := .recorded v)
      (fun w hw => Option.some.inj hw ▸ isFail_of_recordable hv) e
    exact hnoted.congr rfl rfl
  tested {e e'} _ h := by
    have hentered := FailuresRecorded.note_of_none (x := .entered) rfl e
    have hleft := FailuresRecorded.note_of_none (x := .left) rfl e'
    exact ((hentered.trans (h.congr rfl rfl)).trans hleft).congr rfl rfl
  threaded h := h.congr rfl rfl
  cleaned h := h.congr rfl rfl
  asked d _ h := h.trans (.consulted _ d _)
  collected e counter amount _ :=
    (FailuresRecorded.note_of_none (x := .collected counter amount) rfl e).congr rfl rfl
  configured e _ _ _ := (FailuresRecorded.refl e).congr rfl rfl
  intercepted e := (FailuresRecorded.refl e).congr rfl rfl

end Engine

open Engine

/-- A script whose actions record failures only, as do those of the hooks in the chain, has no
other outcomes. -/
theorem Trial.lands_failuresRecorded {t : Trial} {e : Engine}
    (hscript : Script.Within Action.FailsOnly t.script) (hhooks : e.Within Action.FailsOnly) :
    Lands (FailuresRecorded e.entered) (t.perform (t.opened e)) := by
  have hopened : FailuresRecorded e.entered (t.opened e) := by
    rcases t with _ | ⟨case, number, _⟩
    · exact .refl _
    · exact .note_of_none (x := .unitStarted case number) rfl _
  have hwithin : (t.opened e).Within Action.FailsOnly := by
    intro i hi
    rw [t.chain_opened] at hi
    exact hhooks i hi
  have hkeeps := keeps_performWithin respected_failuresRecorded Entry.Quiet.outcome?_eq_none
    t.depth hscript
  exact (hkeeps (t.opened e) hwithin).mono fun _ h => hopened.trans h.2

/-! ### Panics -/

/-- A panic that is neither a signal of the engine nor a violation. -/
def Payload.Ordinary : Payload → Prop
  | .text _ => True
  | .nonText => True
  | _ => False

theorem verdictOn_of_ordinary {payload : Payload} (h : payload.Ordinary)
    (recorded : Option Verdict) :
    verdictOn recorded payload =
      some (recorded.getD (.fail ("panicked: " ++ payload.message))) := by
  rcases payload with _ | s | _ | v
  · exact h.elim
  · rfl
  · rfl
  · exact h.elim

/-- What becomes of a panic that ends the script of a trial in the state `e'`. -/
structure Panicked (t : Trial) (payload : Payload) (e e' : Engine) : Prop where
  /-- The test ends: with the first outcome recorded for it, or else with a failure that tells of
  the panic. -/
  verdict : t.act e = .ok ((outcomesSince e.entered e').head?.getD
    (.fail ("panicked: " ++ payload.message))) e'.leave
  /-- The test does not fail just if the first outcome recorded for it is no failure. -/
  masked_iff : (∃ v e₁, t.act e = .ok v e₁ ∧ v.isFail = false) ↔
    ∃ v, (outcomesSince e.entered e').head? = some v ∧ v.isFail = false
  /-- The panic of a body that records failures only is not masked, whatever it logs. -/
  unmasked : Script.Within Action.FailsOnly t.script → e.Within Action.FailsOnly →
    ∃ v, t.act e = .ok v e'.leave ∧ v.isFail = true

theorem isFail_getD_fail (recorded : Option Verdict) (message : String) :
    (recorded.getD (.fail message)).isFail = false ↔ ∃ v, recorded = some v ∧ v.isFail = false := by
  rcases recorded with - | v
  · simp [Verdict.fail, Verdict.isFail]
  · simp

/-- A test whose body ends in a panic ends with the first outcome recorded for it. -/
theorem panicked_of_unwound (t : Trial) {payload : Payload} {e e' : Engine}
    (hidle : e.context = none) (hordinary : payload.Ordinary)
    (hunwound : t.perform (t.opened e) = .error (.unwound payload) e') :
    Panicked t payload e e' := by
  have hfirst : FirstRecorded e.entered e' := by
    have hlands := t.lands_firstRecorded e
    rw [hunwound] at hlands
    exact hlands
  have hverdict : t.act e = .ok ((outcomesSince e.entered e').head?.getD
      (.fail ("panicked: " ++ payload.message))) e'.leave := by
    rw [t.act_eq hidle, hunwound]
    simp only [concluded, verdictOn_of_ordinary hordinary, hfirst.pending_eq]
  refine ⟨hverdict, ?_, fun hscript hhooks => ⟨_, hverdict, ?_⟩⟩
  · rw [← isFail_getD_fail _ ("panicked: " ++ payload.message), hverdict]
    constructor
    · rintro ⟨v, e₁, hv, hfail⟩
      cases hv
      exact hfail
    · exact fun hfail => ⟨_, _, rfl, hfail⟩
  · have hlands := Trial.lands_failuresRecorded hscript hhooks
    rw [hunwound] at hlands
    obtain ⟨new, hnew, hfail⟩ := hlands
    rw [outcomesSince, since_eq hnew]
    rcases hhead : (new.filterMap Entry.outcome?).head? with - | v
    · rfl
    · exact hfail v (List.mem_of_head? hhead)

/-- A body that has a thread skip the test, logs an error and panics. -/
def deserted : Trial :=
  .nested 3 [.thread [.require (.never "no network")],
    .emit ⟨"net", .warning, "retry", false⟩, .panic (.text "boom")]

theorem panicked_of_deserted :
    Engine.initial.context = none ∧ (Payload.text "boom").Ordinary ∧
      stopOf (deserted.perform (deserted.opened .initial)) = some (.unwound (.text "boom")) ∧
      Panicked deserted (.text "boom") .initial
        (endOf (deserted.perform (deserted.opened .initial))) ∧
      valueOf (deserted.act .initial) = some (.skip "no network") := by
  have hstop : stopOf (deserted.perform (deserted.opened .initial)) =
      some (.unwound (.text "boom")) := by decide +kernel
  exact ⟨rfl, trivial, hstop, panicked_of_unwound deserted rfl trivial (eq_error_of_stopOf hstop),
    by decide +kernel⟩

/-- A body that raises a skip, catches what unwinds, and panics, is skipped: it is not so that
every panic of a body fails the test. -/
theorem skipped_of_caught :
    ¬ ∀ (t : Trial) (payload : Payload) (e e' : Engine), e.context = none → payload.Ordinary →
      t.perform (t.opened e) = .error (.unwound payload) e' →
      ∃ v e₁, t.act e = .ok v e₁ ∧ v.isFail = true := by
  intro hall
  let t : Trial := .nested 3 [.catch [.raise (.skip "later")], .panic (.text "boom")]
  have hstop : stopOf (t.perform (t.opened .initial)) = some (.unwound (.text "boom")) := by
    decide +kernel
  obtain ⟨v, e₁, hv, hfail⟩ := hall t (.text "boom") .initial _ rfl trivial (eq_error_of_stopOf hstop)
  have hvalue : valueOf (t.act .initial) = some (.skip "later") := by decide +kernel
  rw [hv] at hvalue
  obtain rfl : v = .skip "later" := Option.some.inj hvalue
  exact absurd hfail (by decide)

end TestEngine
