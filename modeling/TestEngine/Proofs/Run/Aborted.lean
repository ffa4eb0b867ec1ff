/-
TestEngine/Proofs/Run/Aborted.lean

Tests that a diagnostic aborts.  When the hooks decide to abort, a failure is recorded for the
test, and the action that emitted the diagnostic unwinds like a failed assertion, provided that
it is carried out on the thread of the test and that this thread does not unwind; it ends
normally otherwise, and its thread goes on (`aborted_of_decision`).  Either way the verdict is
the first outcome recorded, unless a violation or the end of the process comes in between.

What counts is whether the *thread* unwinds.  A test that is run by a clean-up is carried out on
a thread that unwinds already, although nothing in the test does: there no diagnostic ends the
body, and its later actions are carried out (`continued_of_unwinding`).
-/
import TestEngine.Proofs.Engine.Unwinding
import TestEngine.Proofs.Run.Escalated
import TestEngine.Proofs.Run.Trial

namespace TestEngine

namespace Engine

variable {sub : Script → Act Unit} {d : Diagnostic} {e e' : Engine} {a : Answer}

/-! ### Decisions -/

/-- What is decided about a diagnostic by the hooks in the chain, or else by the default hook. -/
def decision (sub : Script → Act Unit) (d : Diagnostic) : Act Answer := do
  let e ← get
  match ← askAll sub d e.chain with
  | .proceed => defaultAnswer d
  | answer => pure answer

theorem dispatch_of_decision (h : decision sub d e = .ok a e') :
    dispatch sub d e = carryOut d a (deciding d a e') := by
  rcases hask : askAll sub d e.chain e with ⟨b, e₁⟩ | ⟨stop, e₁⟩
  · have hdecision : decision sub d e = (match b with
        | .proceed => defaultAnswer d
        | answer => pure answer) e₁ := by
      refine (bind_of_ok (x := askAll sub d e.chain) hask).trans ?_
      rcases b with _ | _ | _ | _ | _ <;> rfl
    rw [hdecision] at h
    by_cases hproceed : b = .proceed
    · subst hproceed
      rw [dispatch_of_unanswered hask]
      exact bind_of_ok h
    · rw [dispatch_of_answered hask hproceed]
      rcases b with _ | _ | _ | _ | _
      · exact absurd rfl hproceed
      all_goals
        cases h
        rfl
  · have hdecision : decision sub d e = .error stop e₁ :=
      bind_of_error (x := askAll sub d e.chain) hask
    rw [hdecision] at h
    nomatch h

/-- A relation that is respected survives a decision. -/
theorem keeps_decision {P : Entry → Prop} {R : Engine → Engine → Prop}
    (hR : Respected (fun _ => True) P R) (hP : ∀ {x : Entry}, x.Quiet → P x) (n : Nat)
    (d : Diagnostic) : Keeps (fun _ => True) R (decision (performWithin n) d) := by
  refine keeps_get_bind fun e hw => ?_
  have hask := lands_askAll hR hP (fun _ => keeps_performWithin hR hP n) d hw (fun i hi => hi)
    (hR.leads_refl hw)
  refine lands_bind hR hask fun answer => ?_
  rcases answer with _ | _ | _ | _ | _
  · exact keeps_defaultAnswer hR d
  all_goals exact keeps_pure hR _

/-- An assertion that fails has a failure recorded, and unwinds. -/
theorem raise_of_active {α : Type} {c : Context} (hc : e.context = some c) (v : Verdict) :
    (raise v : Act α) e = .error (.unwound .abortSignal) (recording v c e) :=
  bind_of_ok (record_of_active hc v)

/-- The state when the hooks have decided in `e'` to fail the test that was started in `e`. -/
def aborting (d : Diagnostic) (message : String) (e e' : Engine) : Engine :=
  recording (.fail message) ⟨e.thread, (outcomesSince e.entered e').head?⟩
    (deciding d (.abort message) e')

end Engine

open Engine

/-! ### Aborts -/

/-- What becomes of a test when an action in it emits the diagnostic `d` in the state `e₁`, and it
is decided, in the state `e₂`, to abort. -/
structure Aborted (t : Trial) (e : Engine) (m : Nat) (a : Action) (e₁ : Engine) (d : Diagnostic)
    (message : String) (e₂ : Engine) : Prop where
  /-- The action unwinds if it is carried out on the thread of the test and that does not unwind.
  Otherwise it ends normally. -/
  call : act (performWithin m) a e₁ =
    if e₁.thread = e.thread ∧ e₁.unwinding = false then
      .error (.unwound .abortSignal) (aborting d message e e₂)
    else .ok () (aborting d message e e₂)
  /-- It goes on, or unwinds, on the thread on which it was carried out. -/
  restored : Restored e₁ (aborting d message e e₂)
  /-- When it unwinds, it does what a failed assertion does. -/
  asserts : e₁.thread = e.thread → e₁.unwinding = false →
    act (performWithin m) a e₁ = (raise (.fail message) : Act Unit) (deciding d (.abort message) e₂)
  /-- The verdict is the first outcome recorded, which is the failure if there was none before. -/
  verdict : EndsWith ((outcomesSince e.entered e₂).head?.getD (.fail message)) (t.act e)
  /-- If the thread of the test did not unwind when the test was started, an action that lies on
  a spine of the script ends it: all that is left to do is what the frames of the spine say. -/
  stops : e.unwinding = false → ∀ frames, Spine t.depth t.script (t.opened e) m a e₁ frames →
    t.perform (t.opened e) = unwindThrough .abortSignal frames (aborting d message e e₂)
  /-- Without a spine of the script, there is one of a block that catches, and which is ended
  likewise. -/
  caught : e₁.thread = e.thread → e₁.unwinding = false →
    (∃ frames, Spine t.depth t.script (t.opened e) m a e₁ frames) ∨
      ∃ k run e₀ frames, Occurs t.depth t.script (t.opened e) k (.catch run) e₀ ∧
        Spine k run e₀ m a e₁ frames ∧
        performWithin k run e₀ = unwindThrough .abortSignal frames (aborting d message e e₂)
  /-- If the thread unwound when the test was started, no action of the test is ended. -/
  continued : e.unwinding = true → act (performWithin m) a e₁ = .ok () (aborting d message e e₂)

/-- What a test does that has been started on a thread is done on this thread, which unwinds still
if it did, or on a later one. -/
theorem Trial.threaded_of_occurs {t : Trial} {e e₁ : Engine} {m : Nat} {a : Action}
    (hoccurs : Occurs t.depth t.script (t.opened e) m a e₁) : Threaded e e₁ := by
  have hopened : Threaded e (t.opened e) := by
    rcases t with _ | _ <;> exact .same rfl rfl rfl
  exact hopened.trans hoccurs.threaded

/-- A diagnostic that the hooks have decided to abort for ends the body like a failed assertion if
it is emitted on the thread of the test and that thread does not unwind, and otherwise it only
has a failure recorded. -/
theorem aborted_of_decision (t : Trial) {e e₁ e₂ : Engine} {m : Nat} {a : Action} {d : Diagnostic}
    {message : String} (hidle : e.context = none) (hthread : e.thread < e.nextThread)
    (hoccurs : Occurs t.depth t.script (t.opened e) m a e₁) (hemits : emission? e₁ a = some d)
    (hdecided : decision (performWithin m) d e₁ = .ok (.abort message) e₂) :
    Aborted t e m a e₁ d message e₂ := by
  have hfirst : FirstRecorded e.entered e₂ :=
    ((t.firstRecorded_opened e).trans (hoccurs.relates (respected_firstRecorded _)
      Entry.Quiet.outcome?_eq_none deepens_firstRecorded)).trans
      ((keeps_decision (respected_firstRecorded _) Entry.Quiet.outcome?_eq_none m d).of_ended
        (.inl ⟨_, hdecided⟩))
  have hcontext : (deciding d (.abort message) e₂).context =
      some ⟨e.thread, (outcomesSince e.entered e₂).head?⟩ := hfirst.context_eq
  have hrestored : Restored e₁ e₂ :=
    (keeps_decision (respected_restored _ fun _ => True) (fun _ => trivial) m d).of_ended
      (.inl ⟨_, hdecided⟩)
  have hdispatch : act (performWithin m) a e₁ =
      carryOut d (.abort message) (deciding d (.abort message) e₂) := by
    rw [act_of_emission hemits, dispatch_of_decision hdecided]
  have hcall : act (performWithin m) a e₁ =
      if e₁.thread = e.thread ∧ e₁.unwinding = false then
        .error (.unwound .abortSignal) (aborting d message e e₂)
      else .ok () (aborting d message e e₂) := by
    have hsame : (deciding d (.abort message) e₂).thread = e₁.thread := hrestored.1
    have hunwinding : (deciding d (.abort message) e₂).unwinding = e₁.unwinding := hrestored.2
    rw [hdispatch, carryOut_abort hcontext, hsame, hunwinding]
    refine if_congr ?_ rfl rfl
    rw [Bool.and_eq_true, beq_iff_eq, Bool.not_eq_true', eq_comm]
  have hunwinds : e₁.thread = e.thread → e₁.unwinding = false → act (performWithin m) a e₁ =
      .error (.unwound .abortSignal) (aborting d message e e₂) := fun hsame hcalm =>
    hcall.trans (if_pos ⟨hsame, hcalm⟩)
  have hstarted := t.threaded_of_occurs hoccurs
  have hopened : (t.opened e).thread < (t.opened e).nextThread := by
    rcases t with _ | _ <;> exact hthread
  refine ⟨hcall, hrestored, fun hsame hcalm => ?_, ?_, fun hcalm frames hspine => ?_,
    fun hsame hcalm => ?_, fun hunwinding => ?_⟩
  · rw [hunwinds hsame hcalm]
    exact (raise_of_active hcontext _).symm
  · rw [t.act_eq hidle]
    have hdecided : Lands
        (Decided e.thread ((outcomesSince e.entered e₂).head?.getD (.fail message)))
        (act (performWithin m) a e₁) := by
      rw [hdispatch]
      exact lands_carryOut_abort hcontext message
    exact endsWith_of_decided (hoccurs.lands_decided hdecided)
  · obtain ⟨hsame, hstill⟩ := hspine.restored
    rw [t.thread_opened] at hsame
    rw [t.unwinding_opened] at hstill
    exact hspine.performWithin_eq (hunwinds hsame (hstill.trans hcalm))
  · rcases hoccurs.reaches hopened (hsame.trans t.thread_opened.symm) hcalm with
      hspine | ⟨k, run, e₀, frames, hcatch, hspine⟩
    · exact .inl hspine
    · exact .inr ⟨k, run, e₀, frames, hcatch, hspine,
        hspine.performWithin_eq (hunwinds hsame hcalm)⟩
  · refine hcall.trans (if_neg ?_)
    rintro ⟨hsame, hcalm⟩
    rw [hstarted.unwinding_of_thread_eq hthread hsame hunwinding] at hcalm
    nomatch hcalm

/-- A fatal diagnostic in a block that is guarded twice. -/
def guardedTwice : Trial :=
  .nested 4 [.guarded [.guarded [.emit ⟨"net", .error, "lost", true⟩, .trace "later"]
    [.trace "inner"]] [.trace "outer"], .trace "last"]

/-- The clean-ups are carried out, the inner one first, and nothing else is. -/
theorem aborted_of_guardedTwice :
    let d : Diagnostic := ⟨"net", .error, "lost", true⟩
    Engine.initial.context = none ∧ Engine.initial.thread < Engine.initial.nextThread ∧
      Occurs guardedTwice.depth guardedTwice.script (guardedTwice.opened .initial) 1 (.emit d)
        (guardedTwice.opened .initial) ∧
      emission? (guardedTwice.opened .initial) (.emit d) = some d ∧
      decision (performWithin 1) d (guardedTwice.opened .initial) =
        .ok (.abort d.plain) (guardedTwice.opened .initial) ∧
      Aborted guardedTwice .initial 1 (.emit d) (guardedTwice.opened .initial) d d.plain
        (guardedTwice.opened .initial) ∧
      valueOf (guardedTwice.act .initial) = some (.fail "FATAL-ERROR: (net) lost") ∧
      (endOf (guardedTwice.act .initial)).journal.filter (· matches .traced _) =
        [.traced "outer", .traced "inner"] := by
  intro d
  have hoccurs : Occurs guardedTwice.depth guardedTwice.script (guardedTwice.opened .initial) 1
      (.emit d) (guardedTwice.opened .initial) := .inside .block (.inside .block .here)
  exact ⟨rfl, by decide, hoccurs, rfl, rfl,
    aborted_of_decision guardedTwice rfl (by decide) hoccurs rfl rfl, by decide +kernel,
    by decide +kernel⟩

/-- A clean-up that runs a test, in which a fatal diagnostic is emitted. -/
def lostInCleanup : Script :=
  [.catch [.guarded [.panic (.text "outer")]
    [.execute [.emit ⟨"net", .error, "lost", true⟩, .trace "later"]]]]

/-- It is not so that a diagnostic for which the hooks abort ends the body in which it is emitted,
even if that is done on the thread of the test and outside of any clean-up of the body: a test that
is run by a clean-up goes on. -/
theorem continued_of_unwinding :
    (¬ ∀ (t : Trial) (e e₁ e₂ : Engine) (m : Nat) (a : Action) (d : Diagnostic) (message : String)
        (frames : List Frame), e.context = none → e.thread < e.nextThread →
      Spine t.depth t.script (t.opened e) m a e₁ frames → emission? e₁ a = some d →
      decision (performWithin m) d e₁ = .ok (.abort message) e₂ →
      ∃ e₃, t.perform (t.opened e) = unwindThrough .abortSignal frames e₃) ∧
    .traced "later" ∈ (endOf (perform lostInCleanup .initial)).journal := by
  refine ⟨fun hall => ?_, by decide +kernel⟩
  let e : Engine := { Engine.initial with unwinding := true }
  let d : Diagnostic := ⟨"net", .error, "lost", true⟩
  let t : Trial := .nested 2 [.emit d, .trace "later"]
  obtain ⟨e₃, hunwound⟩ := hall t e (t.opened e) (t.opened e) 1 (.emit d) d d.plain [] rfl
    (by decide) .here rfl rfl
  have hok : valueOf (t.perform (t.opened e)) = some () := by decide +kernel
  rw [hunwound] at hok
  nomatch (show (none : Option Unit) = some () from hok)

end TestEngine
