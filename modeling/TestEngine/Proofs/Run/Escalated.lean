/-
TestEngine/Proofs/Run/Escalated.lean

Fatal diagnostics.  The policies of a case leave what is fatal to the hooks below, since the
default hook, which is asked last, escalates it.  So a diagnostic that is forbidden and not
expected fails the case for certain only if it is not fatal.  If it is, the hooks below decide:
the case fails if they pass on the diagnostic or abort, but if the first of them that decides
ignores or suppresses it, nothing is recorded and the body goes on
(`escalated_of_forbidden`, `tolerated_of_fatal`).
-/
import TestEngine.Proofs.Run.Classified

namespace TestEngine

namespace Engine

variable {d : Diagnostic} {e e' : Engine}

/-! ### Asking hooks -/

/-- A relation that is respected survives the asking of hooks in the chain. -/
theorem Answered.relates {P : Entry → Prop} {R : Engine → Engine → Prop}
    (hR : Respected (fun _ => True) P R) (hP : ∀ {x : Entry}, x.Quiet → P x) {n : Nat}
    {is : List Installed} {a : Answer} (h : Answered (performWithin n) d is e a e') {e₀ : Engine}
    (his : ∀ i ∈ is, i ∈ e₀.chain) (he : R e₀ e) : R e₀ e' := by
  have hsub : ∀ script, Script.Within (fun _ => True) script →
      Keeps (fun _ => True) R (performWithin n script) := fun _ => keeps_performWithin hR hP n
  have hask := lands_askAll hR hP hsub d e₀.within_all his ⟨e.within_all, he⟩
  rw [askAll_eq_ok.mpr h] at hask
  exact hask.2

/-! ### Aborting -/

/-- The outcome that there was, or else the failure, is the outcome of the test. -/
theorem lands_carryOut_abort {c : Context} (hc : e.context = some c) (message : String) :
    Lands (Decided c.owner (c.pending.getD (.fail message))) (carryOut d (.abort message) e) := by
  rw [carryOut_abort hc]
  split
  · rfl
  · rfl

/-- The default hook escalates a fatal diagnostic of a test. -/
theorem defaultAnswer_of_fatal (hfatal : d.fatal = true) {c : Context} (hc : e.context = some c) :
    defaultAnswer d e = .ok (.abort d.plain) e := by
  have hactive : e.isActive = true := by
    rw [isActive, hc]
    rfl
  refine (bind_of_ok (get_eq_ok.mpr ⟨rfl, rfl⟩)).trans ?_
  rw [if_pos hfatal, hactive]
  rfl

/-! ### Actions that stand right in a script -/

theorem Occurs.depth_lt {n m : Nat} {script : Script} {a : Action}
    (h : Occurs n script e m a e') : m < n := by
  induction h with
  | here => exact Nat.lt_succ_self _
  | after _ _ ih => exact ih
  | inside _ _ ih => exact Nat.lt_succ_of_lt ih

/-- When an action unwinds that stands right in a script, so does the script. -/
theorem Occurs.performWithin_of_error {n m : Nat} {script : Script} {a : Action} {stop : Stop}
    {e₁ : Engine} (h : Occurs n script e m a e₁) (hright : m + 1 = n)
    (ha : act (performWithin m) a e₁ = .error stop e') :
    performWithin n script e = .error stop e' := by
  induction h with
  | here =>
    rw [performWithin_cons]
    exact bind_of_error ha
  | after hok _ ih =>
    rw [performWithin_cons, bind_of_ok hok]
    exact ih hright ha
  | inside _ h _ =>
    have hlt := h.depth_lt
    exact absurd hright (by omega)

/-! ### Units that fail -/

variable {case : ObjectId} {path : Path} {script : Script} {e₁ : Engine}

/-- If a subunit fails, it is among those reported. -/
theorem Begins.exists_isFail {number unit k : Nat} {units : List (String × Script)}
    {ls : List (String × Line)} (h : Begins case path number unit units e k script e₁)
    (hfail : ∀ v e₂, runUnit case k script e₁ = .ok v e₂ → v.isFail = true)
    (hrun : runSubunits case path number unit false units e = .ok ls e') :
    ∃ u ∈ ls, u.2.2.isFail = true := by
  induction h generalizing ls e' with
  | here =>
    rw [runSubunits_cons] at hrun
    simp only [bind_eq_ok, pure_eq_ok] at hrun
    obtain ⟨v, e₂, hv, p, _, _, _, _, _, others, _, _, rfl, _⟩ := hrun
    exact ⟨_, List.mem_cons_self .., hfail v e₂ hv⟩
  | @later number unit k tag script s units e e₁ e₂ e₃ v hunit hpassed hreport _ ih =>
    rw [runSubunits_cons] at hrun
    simp only [bind_eq_ok, pure_eq_ok] at hrun hreport
    obtain ⟨w, e₄, hw, p, e₅, hp, _, e₆, hline, others, e₇, hrest, rfl, _⟩ := hrun
    -- both runs of the first subunit are the same, so the others start in the same state
    obtain ⟨p', e₅', hp', hline'⟩ := hreport
    cases hunit.symm.trans hw
    cases hp'.symm.trans hp
    cases hline'.symm.trans hline
    rw [hpassed] at hrest
    obtain ⟨u, hu, hufail⟩ := ih hfail hrest
    exact ⟨u, List.mem_cons_of_mem _ hu, hufail⟩

/-- If a unit of the body fails, so does the case. -/
theorem Starts.isFail {number unit : Nat} {body : Body} {v : Verdict} {lines : List Line}
    (h : Starts case path number body e unit script e₁)
    (hfail : ∀ v e₂, runUnit case unit script e₁ = .ok v e₂ → v.isFail = true)
    (hrun : runBody case path number body e = .ok (v, lines) e') : v.isFail = true := by
  cases h with
  | simple =>
    simp only [runBody, bind_eq_ok, pure_eq_ok] at hrun
    obtain ⟨w, e₂, hw, _, _, _, hpair, _⟩ := hrun
    cases hpair
    exact hfail _ e₂ hw
  | complex h =>
    simp only [runBody, bind_eq_ok, pure_eq_ok] at hrun
    obtain ⟨ls, e₂, hls, hpair, _⟩ := hrun
    cases hpair
    exact coalesce_isFail.mpr (h.exists_isFail hfail hls)

/-- The body of a case runs right after its hooks are installed. -/
theorem runBody_of_runCase {number : Nat} {policies : List Policy}
    {expectations : List Expectation} {body : Body} {v : Verdict} {lines : List Line}
    {opened : Engine}
    (hopens : log perform (.ofMessage .debug engineDomain (">>> " ++ path.render)) e = .ok () opened)
    (h : runCase case path number policies expectations body e = .ok (v, lines) e') :
    ∃ e₂, runBody case path number body (bracketing case policies expectations opened) =
      .ok (v, lines) e₂ := by
  simp only [runCase, bind_eq_ok, pure_eq_ok] at h
  obtain ⟨_, e₁, hbefore, _, e₄, hrun, _, _, _, rfl, _⟩ := h
  cases hopens.symm.trans hbefore
  obtain ⟨e₃, hinner, -, -⟩ := advances_withHook hrun
  obtain ⟨e₂, hbody, -, -⟩ := advances_withHook hinner
  exact ⟨e₂, hbody⟩

end Engine

namespace Run

open Engine

variable {mode : Mode} {t : Tree}

/-- A case that is not left out runs its body, if it is settled without being blocked. -/
theorem runCase_of_finish {case : ObjectId} {c : CaseData} {body : Body} {v : Verdict} {r r' : Run}
    (hcase : r.tree.case? case = some c) (hbody : c.body = some body)
    (hselected : mode.excluded (r.tree.path case) = false)
    (h : finish mode case none r = .ok v r') :
    ∃ lines e, runCase case (r.tree.path case) (r.reported + 1)
      (r.tree.inheritedPolicies case) c.expectations body r.engine = .ok (v, lines) e := by
  obtain ⟨r₁, _, _, hsettle, -⟩ := finish_eq_ok.mp h
  rcases settle_cases hsettle with ⟨_, _, hwithheld, -⟩ |
    ⟨c', body', lines, e, -, -, hcase', hbody', hrun, -⟩
  · rcases hwithheld with - | hexcluded
    rw [hselected] at hexcluded
    nomatch hexcluded
  · cases hcase.symm.trans hcase'
    cases hbody.symm.trans hbody'
    exact ⟨lines, e, hrun⟩

namespace Emission

/-- The case ends with a verdict: its unit does, and is sure to do so if nothing in the body can
catch the unwinding; and a failure of the unit fails the case, if the case comes to an end. -/
structure EndsIn (m : Emission mode t) (v : Verdict) : Prop where
  unit : EndsWith v m.unitOutcome
  ends : m.state.unwinding = false → m.depth + 1 = depthLimit → ∃ e, m.unitOutcome = .ok v e
  case : v.isFail = true → ∀ w r, finish mode m.case none m.run = .ok w r →
    w.isFail = true ∧ r.tree.result? m.case = some w

variable (m : Emission mode t)

/-- What the action records is the verdict on the unit. -/
theorem endsIn (owner : Nat) {v : Verdict} (hdecided : Lands (Decided owner v) m.outcome)
    (hunwinds : m.state.unwinding = false → ∃ e, m.outcome = .error (.unwound .abortSignal) e) :
    m.EndsIn v := by
  have hunit := m.endsWith owner hdecided
  refine ⟨hunit, fun hcalm hright => ?_, fun hfail w r hfinish => ?_⟩
  · obtain ⟨e, hout⟩ := hunwinds hcalm
    rw [hout] at hdecided
    have hperform : perform m.script (begun m.case m.unit m.start) =
        .error (.unwound .abortSignal) e := m.occurs.performWithin_of_error hright hout
    have hverdict : verdictOn e.pending .abortSignal = some v := by
      have hcontext : e.context = some ⟨owner, some v⟩ := hdecided
      rw [pending, hcontext]
      rfl
    refine ⟨e.leave, ?_⟩
    rw [unitOutcome, runUnit_of_idle m.idle, hperform]
    simp only [concluded, hverdict]
  · obtain ⟨lines, e, hcase⟩ := runCase_of_finish m.isCase m.hasBody m.selected hfinish
    obtain ⟨e₂, hbody⟩ := runBody_of_runCase m.opens hcase
    obtain ⟨s, hs, rfl, hconcluded⟩ := concluded_of_finish hfinish
    refine ⟨m.starts.isFail (fun u e₃ hu => ?_) hbody, hs ▸ hconcluded.result⟩
    have hend : EndsWith v (runUnit m.case m.unit m.script m.start) := hunit
    rw [hu] at hend
    rw [show u = v from hend]
    exact hfail

/-- If the hooks have come to abort, the case ends with the first outcome that they recorded when
they were asked, or else with the failure. -/
theorem endsIn_of_abort {message : String} {e' : Engine} (hfirst : FirstRecorded m.state e')
    (hrestored : Restored m.state e')
    (hout : m.outcome = carryOut m.diagnostic (.abort message)
      (deciding m.diagnostic (.abort message) e')) :
    m.EndsIn ((outcomesSince m.state e').head?.getD (.fail message)) := by
  have hcontext : (deciding m.diagnostic (.abort message) e').context =
      some ⟨m.state.thread, (outcomesSince m.state e').head?⟩ := hfirst.slot_eq m.bracketed.context
  refine m.endsIn m.state.thread ?_ fun hcalm => ?_
  · rw [hout]
    exact lands_carryOut_abort hcontext message
  · rw [hout, carryOut_abort hcontext]
    have hthread : (deciding m.diagnostic (.abort message) e').thread = m.state.thread := hrestored.1
    have hunwinding : (deciding m.diagnostic (.abort message) e').unwinding = false :=
      hrestored.2.trans hcalm
    rw [hthread, hunwinding]
    simp

/-- While the hooks below are asked, the slot of the test keeps the first outcome recorded, and
all threads and clean-ups that they begin come to an end. -/
theorem relates_of_answered {a : Answer} {e' : Engine}
    (h : Answered (performWithin m.depth) m.diagnostic m.opened.chain
      (passing m.outer m.inner m.diagnostic m.state) a e') :
    FirstRecorded m.state e' ∧ Restored m.state e' := by
  have hasked : FirstRecorded m.state (passing m.outer m.inner m.diagnostic m.state) :=
    (FirstRecorded.note (x := .asked m.inner m.diagnostic) rfl m.state).trans (.note rfl _)
  have hbelow : ∀ i ∈ m.opened.chain, i ∈ m.state.chain := fun i hi => by
    rw [m.bracketed.chain]
    exact List.mem_cons_of_mem _ (List.mem_cons_of_mem _ hi)
  exact ⟨h.relates (respected_firstRecorded _) Entry.Quiet.outcome?_eq_none hbelow hasked,
    h.relates (respected_restored _ fun _ => True) (fun _ => trivial) hbelow ⟨rfl, rfl⟩⟩

end Emission

/-- What becomes of a diagnostic that the policies of a case forbid. -/
structure Escalated (m : Emission mode t) : Prop where
  /-- If it is not fatal, it fails the case, whatever the hooks below are. -/
  unmarked : m.diagnostic.fatal = false →
    m.EndsIn (.fail ("Unexpected message: " ++ m.diagnostic.plain))
  /-- If it is fatal and the hooks below pass on it, the default hook fails the case, unless they
  have recorded an outcome themselves. -/
  unanswered : m.diagnostic.fatal = true → ∀ e',
    Answered (performWithin m.depth) m.diagnostic m.opened.chain
      (passing m.outer m.inner m.diagnostic m.state) .proceed e' →
    m.EndsIn ((outcomesSince m.state e').head?.getD (.fail m.diagnostic.plain))
  /-- If the first of them that decides aborts, it fails the case likewise. -/
  aborted : m.diagnostic.fatal = true → ∀ message e',
    Answered (performWithin m.depth) m.diagnostic m.opened.chain
      (passing m.outer m.inner m.diagnostic m.state) (.abort message) e' →
    m.EndsIn ((outcomesSince m.state e').head?.getD (.fail message))
  /-- If it ignores or suppresses the diagnostic, nothing is recorded and the body goes on. -/
  dropped : m.diagnostic.fatal = true → ∀ a e', a = .ignore ∨ a = .suppress →
    Answered (performWithin m.depth) m.diagnostic m.opened.chain
      (passing m.outer m.inner m.diagnostic m.state) a e' →
    ∃ e'', m.outcome = .ok () e'' ∧ outcomesSince m.state e'' = outcomesSince m.state e'

/-- A diagnostic that a case emits, that none of its expectations matches, and that its level or a
policy forbids, fails the case for certain if it is not fatal, and otherwise if no hook below
drops it. -/
theorem escalated_of_forbidden (calls : List Tree.Call) (mode : Mode)
    (m : Emission mode (Tree.ofCalls calls))
    (hx : ((Tree.ofCalls calls).expectations m.case).find? (·.isMatch m.diagnostic) = none)
    (hforbids : (Tree.ofCalls calls).Forbids m.case m.diagnostic) : Escalated m := by
  have hforest := (Tree.sound_ofCalls calls).forest
  have hanswer : m.diagnostic.fatal = true → ∀ a e',
      Answered (performWithin m.depth) m.diagnostic m.opened.chain
        (passing m.outer m.inner m.diagnostic m.state) a e' →
      askAll (performWithin m.depth) m.diagnostic m.state.chain m.state = .ok a e' := by
    intro hfatal a e' h
    rw [m.askAll_eq hforest hx (.inl hfatal)]
    exact askAll_eq_ok.mpr h
  refine ⟨fun hfatal => ?_, fun hfatal e' h => ?_, fun hfatal message e' h => ?_,
    fun hfatal a e' ha h => ?_⟩
  · have hforbidden := (m.forbids_iff hforest).mp hforbids
    obtain ⟨e', hout, hdecided, -⟩ :=
      dispatch_forbidden m.bracketed (performWithin m.depth) hx hfatal hforbidden
    have hout := m.outcome_eq.trans hout
    refine m.endsIn m.state.thread ?_ fun hcalm => ⟨e', ?_⟩
    · rw [hout]
      split
      · exact hdecided
      · exact hdecided
    · rw [hout, hcalm]
      rfl
  · obtain ⟨hfirst, hrestored⟩ := m.relates_of_answered h
    refine m.endsIn_of_abort hfirst hrestored ?_
    rw [m.outcome_eq, dispatch_of_unanswered (hanswer hfatal _ e' h)]
    refine (bind_of_ok (defaultAnswer_of_fatal hfatal (hfirst.slot_eq m.bracketed.context))).trans ?_
    rfl
  · obtain ⟨hfirst, hrestored⟩ := m.relates_of_answered h
    refine m.endsIn_of_abort hfirst hrestored ?_
    rw [m.outcome_eq]
    exact dispatch_of_answered (hanswer hfatal _ e' h) (by simp)
  · obtain ⟨hfirst, -⟩ := m.relates_of_answered h
    have hnoted : outcomesSince m.state (deciding m.diagnostic a e') = outcomesSince m.state e' :=
      hfirst.outcomesSince_note rfl
    rcases ha with rfl | rfl
    · refine ⟨deciding m.diagnostic .ignore e', ?_, hnoted⟩
      rw [m.outcome_eq]
      exact dispatch_of_answered (hanswer hfatal _ e' h) (by simp)
    · refine ⟨suppressing m.diagnostic (deciding m.diagnostic .suppress e'), ?_, ?_⟩
      · rw [m.outcome_eq, dispatch_of_answered (hanswer hfatal _ e' h) (by simp)]
        exact carryOut_suppress _ _
      · have hdeciding : FirstRecorded m.state (deciding m.diagnostic .suppress e') :=
          hfirst.trans (.note rfl e')
        unfold suppressing
        split
        · exact (hdeciding.outcomesSince_note rfl).trans hnoted
        · exact hnoted

/-- A warning, fatal or not. -/
def lateReply (fatal : Bool) : Diagnostic := ⟨"net", .warning, "late reply", fatal⟩

/-- A suite with a case that logs it. -/
def warnedCalls (fatal : Bool) : List Tree.Call :=
  [.suite "s", .addCase 0 "a" [.emit (lateReply fatal)]]

/-- The warning of this case, under a hook that ignores everything. -/
def warnedEmission (fatal : Bool) : Emission .default (Tree.ofCalls (warnedCalls fatal)) where
  root := 0
  engine := lenientEngine
  settled := []
  run := start (Tree.ofCalls (warnedCalls fatal))
    (announced (Tree.ofCalls (warnedCalls fatal)) 0 lenientEngine)
  case := 1
  data := .new (.simple [.emit (lateReply fatal)]) none
  body := .simple [.emit (lateReply fatal)]
  opened := announced (Tree.ofCalls (warnedCalls fatal)) 0 lenientEngine
  unit := 0
  script := [.emit (lateReply fatal)]
  start := bracketing 1 [] [] (announced (Tree.ofCalls (warnedCalls fatal)) 0 lenientEngine)
  depth := 999
  action := .emit (lateReply fatal)
  diagnostic := lateReply fatal
  state := begun 1 0
    (bracketing 1 [] [] (announced (Tree.ofCalls (warnedCalls fatal)) 0 lenientEngine))
  reached := reached_lenientEngine
  progress := .refl _
  isCase := rfl
  hasBody := rfl
  selected := rfl
  opens := rfl
  starts := .simple
  idle := rfl
  occurs := .here
  emits := rfl
  onThread := rfl
  undecided := by rcases fatal with - | - <;> decide +kernel
  unpushed := by rcases fatal with - | - <;> decide +kernel

/-- The warning fails the case if it is not fatal, and is dropped if it is. -/
theorem escalated_of_warned :
    (∃ e, (warnedEmission false).unitOutcome =
      .ok (.fail "Unexpected message: WARNING: (net) late reply") e) ∧
    ∃ e, (warnedEmission true).outcome = .ok () e ∧
      outcomesSince (warnedEmission true).state e = [] := by
  constructor
  · have hescalated := escalated_of_forbidden (warnedCalls false) .default (warnedEmission false)
      rfl (.inr (.inl rfl))
    exact (hescalated.unmarked rfl).ends rfl rfl
  · have hescalated := escalated_of_forbidden (warnedCalls true) .default (warnedEmission true)
      rfl (.inr (.inl rfl))
    obtain ⟨e, hout, hnone⟩ :=
      hescalated.dropped rfl .ignore _ (.inl rfl) (.decides rfl (by simp))
    exact ⟨e, hout, hnone.trans (by decide +kernel)⟩

/-- So the mark decides about the whole run of this suite: without it, the case fails, and with it,
the case passes. -/
theorem tolerated_of_fatal :
    (Tree.ofCalls (warnedCalls true)).Forbids 1 (lateReply true) ∧
      (Tree.ofCalls (warnedCalls true)).expectations 1 = [] ∧
      (valueOf (Engine.run .default (Tree.ofCalls (warnedCalls false)) 0 lenientEngine)).map
        Summary.results =
          some [(⟨["s", "a"]⟩, .fail "Unexpected message: WARNING: (net) late reply")] ∧
      (valueOf (Engine.run .default (Tree.ofCalls (warnedCalls true)) 0 lenientEngine)).map
        Summary.results = some [(⟨["s", "a"]⟩, .pass)] :=
  ⟨.inr (.inl rfl), rfl, by decide +kernel, by decide +kernel⟩

end Run

end TestEngine
