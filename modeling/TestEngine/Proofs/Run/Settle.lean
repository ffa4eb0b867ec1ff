/-
TestEngine/Proofs/Run/Settle.lean

What is done once the dependencies of a case are resolved: the case is run or reported
unrun, cleaned up, and its result is stored.  This is the one step of a run that
changes anything but the cases being resolved.

A `Settlement` records such a step: the case, its verdict, its lines, the hooks it ran
under, its teardown and the bail-out that it caused.  `Settlement.steps` are the steps
that it takes, in order.  `Concluded` relates the runs before and after, and
`concluded_of_finish` says that `finish` does nothing else.
-/
import TestEngine.Proofs.Run.Case
import TestEngine.Proofs.Run.Finish

namespace TestEngine

/-! ### Lines of the summary -/

namespace Summary

theorem results_add (s : Summary) (path : Path) (v : Verdict) :
    (s.add path v).results = s.results ++ [(path, v)] := by
  rcases v with ⟨_ | _ | _, message⟩ <;> rfl

theorem bailOut_add (s : Summary) (path : Path) (v : Verdict) :
    (s.add path v).bailOut = s.bailOut := by
  rcases v with ⟨_ | _ | _, message⟩ <;> rfl

theorem results_addAll (s : Summary) (lines : List (Path × Verdict)) :
    (s.addAll lines).results = s.results ++ lines := by
  induction lines generalizing s with
  | nil => exact (List.append_nil _).symm
  | cons line lines ih =>
    refine (ih (s.add line.1 line.2)).trans ?_
    rw [results_add, List.append_assoc]
    rfl

theorem bailOut_addAll (s : Summary) (lines : List (Path × Verdict)) :
    (s.addAll lines).bailOut = s.bailOut := by
  induction lines generalizing s with
  | nil => rfl
  | cons line lines ih => exact (ih (s.add line.1 line.2)).trans (bailOut_add _ _ _)

end Summary

/-! ### Changes of one case -/

namespace Tree

/-- Only what a run changes has changed, and only in one case. -/
structure Reworks (case : ObjectId) (t t' : Tree) : Prop where
  static : t'.static = t.static
  others : ∀ {c}, c ≠ case → t'.case? c = t.case? c

theorem Reworks.trans {case : ObjectId} {t₁ t₂ t₃ : Tree} (h : Reworks case t₁ t₂)
    (h' : Reworks case t₂ t₃) : Reworks case t₁ t₃ :=
  ⟨h'.static.trans h.static, fun hc => (h'.others hc).trans (h.others hc)⟩

theorem reworks_refl (case : ObjectId) (t : Tree) : Reworks case t t := ⟨rfl, fun _ => rfl⟩

theorem reworks_updateCase {f : CaseData → CaseData} (hf : ∀ c, (f c).static = c.static)
    {case : ObjectId} {t : Tree} {c : CaseData} (hc : t.case? case = some c) :
    Reworks case t (t.updateCase case f) ∧ (t.updateCase case f).case? case = some (f c) := by
  refine ⟨⟨static_updateCase hf case, fun hne => ?_⟩, ?_⟩
  · rw [case?_updateCase, if_neg hne]
  · rw [case?_updateCase, if_pos rfl, hc]
    rfl

theorem result?_of_case? {t : Tree} {case : ObjectId} {c : CaseData} (hc : t.case? case = some c) :
    t.result? case = c.result := by
  rw [result?, hc]
  rfl

theorem takeBody_spec {t t' : Tree} {case : ObjectId} {b : Option Body}
    (h : takeBody case t = .ok b t') : ∃ c, t.case? case = some c ∧ c.body = b ∧
      Reworks case t t' ∧ t'.case? case = some { c with body := none } := by
  obtain ⟨c, hc, hb, rfl⟩ := takeBody_eq_ok.mp h
  refine ⟨c, hc, hb, ?_⟩
  apply reworks_updateCase _ hc
  exact fun _ => rfl

theorem setResult_spec {t t' : Tree} {case : ObjectId} {v : Verdict} {u : Unit}
    (h : setResult case v t = .ok u t') : ∃ c, t.case? case = some c ∧ c.result = none ∧
      Reworks case t t' ∧ t'.case? case = some { c with result := some v } := by
  obtain ⟨c, hc, hr, rfl⟩ := setResult_eq_ok.mp h
  refine ⟨c, hc, hr, ?_⟩
  apply reworks_updateCase _ hc
  exact fun _ => rfl

end Tree

/-! ### Settlements -/

/-- How a case was settled: its verdict and its lines, numbered from `number` on; the two
hooks under which it ran, if it did; whether a test was running and which hooks there
were at its teardown, if it had one; and the message of the bail-out, if it caused one. -/
structure Settlement where
  case : ObjectId
  verdict : Verdict
  number : Nat
  lines : List Engine.Line
  hooks : Option (HookId × HookId)
  cleanup : Option (Bool × List HookId)
  bail : Option String

namespace Settlement

/-- The steps of a case up to its last line. -/
def reports (s : Settlement) : List Entry :=
  (s.hooks.toList.map fun h => .bracketed s.case h.1 h.2) ++
    Engine.reportSteps s.case s.number 0 s.hooks.isNone s.lines

/-- The teardown of a case. -/
def cleanups (s : Settlement) : List Entry :=
  s.cleanup.toList.map fun c => .tearingDown s.case c.1 c.2

/-- The conclusion of a case. -/
def conclusion (s : Settlement) : List Entry :=
  .resolved s.case s.verdict ::
    s.bail.toList.map fun message => .printed .report (Tap.bailOut (some message))

/-- The steps of a case. -/
def steps (s : Settlement) : List Entry := s.reports ++ s.cleanups ++ s.conclusion

/-- Only a case that runs is started. -/
theorem started_of_mem_steps {s : Settlement} {case : ObjectId} {unit : Nat}
    (h : .unitStarted case unit ∈ s.steps) : s.case = case ∧ s.hooks.isSome = true := by
  unfold steps reports cleanups conclusion at h
  have hreport : .unitStarted case unit ∈
      Engine.reportSteps s.case s.number 0 s.hooks.isNone s.lines := by simpa using h
  obtain ⟨hcase, hhooks⟩ := Engine.started_of_mem_reportSteps hreport
  exact ⟨hcase, by simpa using hhooks⟩

end Settlement

/-- A teardown is carried out between two states of the engine, right after it was noted with
the state in which it starts. -/
def Engine.TornDown (case : ObjectId) (script : Script) (e e' : Engine) : Prop :=
  ∃ e₁ e₂, perform script e₁ = .ok () e₂ ∧ e.journal <:+ e₁.journal ∧ e₂.journal <:+ e'.journal ∧
    e₁.journal.head? = some (.tearingDown case e₁.isActive (e₁.chain.map Installed.id))

theorem Engine.TornDown.mono {case : ObjectId} {script : Script} {e e' e₀ e₃ : Engine}
    (h : TornDown case script e e') (hbefore : e₀.journal <:+ e.journal)
    (hafter : e'.journal <:+ e₃.journal) : TornDown case script e₀ e₃ := by
  obtain ⟨e₁, e₂, hperform, hstart, hend, hnoted⟩ := h
  exact ⟨e₁, e₂, hperform, hbefore.trans hstart, hend.trans hafter, hnoted⟩

namespace Run

variable {mode : Mode} {case : ObjectId} {blocked : Option Verdict} {v : Verdict} {r r' : Run}

/-- Why a case was settled as it was: it was blocked, or left out by the selection, or its
body was run, between the states `e` and `e'` of the engine. -/
inductive Grounds (mode : Mode) (t : Tree) (blocked : Option Verdict) (s : Settlement)
    (e e' : Engine) : Prop
  | blocked (hblocked : blocked = some s.verdict) (hhooks : s.hooks = none)
      (hlines : s.lines = ((t.path s.case).reports (t.tags s.case)).map fun p => (p, s.verdict))
  | excluded (hblocked : blocked = none) (hmode : mode.excluded (t.path s.case) = true)
      (hverdict : s.verdict = .skip "excluded by selection") (hhooks : s.hooks = none)
      (hlines : s.lines = ((t.path s.case).reports (t.tags s.case)).map fun p => (p, s.verdict))
  | ran {c : CaseData} {body : Body} {e₁ e₂ : Engine} (hblocked : blocked = none)
      (hmode : mode.excluded (t.path s.case) = false) (hhooks : s.hooks.isSome = true)
      (hcase : t.case? s.case = some c) (hbody : c.body = some body)
      (hrun : Engine.runBody s.case (t.path s.case) s.number body e₁ = .ok (s.verdict, s.lines) e₂)
      (hbefore : e.journal <:+ e₁.journal) (hafter : e₂.journal <:+ e'.journal)

/-- A case was settled, and this is all that happened. -/
structure Concluded (mode : Mode) (blocked : Option Verdict) (s : Settlement) (r r' : Run) :
    Prop where
  unresolved : r.tree.result? s.case = none
  rework : Tree.Reworks s.case r.tree r'.tree
  result : r'.tree.result? s.case = some s.verdict
  number : s.number = r.reported + 1
  steps : Engine.Advances s.steps r.engine r'.engine
  results : r'.summary.results = r.summary.results ++ s.lines
  reported : r'.reported = r.reported + s.lines.length
  bail : s.bail.isSome = bailsOut mode s.verdict
  bailOut : r'.summary.bailOut = s.bail.or r.summary.bailOut
  /-- A bail-out names the case, and its line is the last entry. -/
  bailed : ∀ message, s.bail = some message → message = (r.tree.path s.case).render ++ " failed" ∧
    r'.engine.journal.head? = some (.printed .report (Tap.bailOut (some message)))
  grounds : Grounds mode r.tree blocked s r.engine r'.engine
  /-- There is a teardown just if the case has one, and then it is carried out. -/
  cleanup : ∃ c, r.tree.case? s.case = some c ∧ s.cleanup.isSome = c.teardown.isSome ∧
    ∀ script, c.teardown = some script → Engine.TornDown s.case script r.engine r'.engine
  /-- The teardown runs when no more tests run than before, and without the hooks. -/
  cleanly : ∀ active chain, s.cleanup = some (active, chain) → active = r.engine.isActive ∧
    (r.engine.Fresh → ∀ outer inner, s.hooks = some (outer, inner) → outer ∉ chain ∧ inner ∉ chain)

theorem Concluded.isOver_eq {s : Settlement} (h : Concluded mode blocked s r r') :
    r'.isOver = (r.isOver || s.bail.isSome) := by
  unfold isOver
  rw [h.bailOut]
  rcases s.bail with - | message
  · exact (Bool.or_false _).symm
  · exact (Bool.or_true _).symm

/-! ### Parts -/

/-- A case is settled without its teardown: its lines, and what stays to be done. -/
structure Treated (mode : Mode) (blocked : Option Verdict) (s : Settlement) (r r' : Run) :
    Prop where
  rework : Tree.Reworks s.case r.tree r'.tree
  result : r'.tree.result? s.case = r.tree.result? s.case
  teardown : (r'.tree.case? s.case).map CaseData.teardown =
    (r.tree.case? s.case).map CaseData.teardown
  number : s.number = r.reported + 1
  steps : Engine.Advances s.reports r.engine r'.engine
  gone : r.engine.Fresh → ∀ outer inner, s.hooks = some (outer, inner) →
    r'.engine.standing outer = 0 ∧ r'.engine.standing inner = 0
  results : r'.summary.results = r.summary.results ++ s.lines
  reported : r'.reported = r.reported + s.lines.length
  bailOut : r'.summary.bailOut = r.summary.bailOut
  grounds : Grounds mode r.tree blocked s r.engine r'.engine

theorem treated_of_withheld {w : Verdict} {lines : List Engine.Line} {e : Engine}
    (hwithheld : Withheld mode (r.tree.path case) blocked w)
    (h : Engine.reportUnrun case (r.tree.path case) (r.reported + 1) (r.tree.tags case) w r.engine =
      .ok lines e)
    (cleanup : Option (Bool × List HookId)) (bail : Option String) :
    Treated mode blocked ⟨case, w, r.reported + 1, lines, none, cleanup, bail⟩ r
      (r.summed r.tree e lines) := by
  obtain ⟨hsteps, hlines⟩ := Engine.advances_reportUnrun h
  refine ⟨Tree.reworks_refl _ _, rfl, rfl, rfl, hsteps, ?_, Summary.results_addAll _ _, rfl,
    Summary.bailOut_addAll _ _, ?_⟩
  · intro _ outer inner hnone
    exact absurd hnone (by simp)
  · rcases hwithheld with - | hexcluded
    · exact .blocked rfl rfl hlines
    · exact .excluded rfl hexcluded rfl rfl hlines

theorem treated_of_settle (h : settle mode case blocked r = .ok v r') :
    ∃ number lines hooks, ∀ cleanup bail,
      Treated mode blocked ⟨case, v, number, lines, hooks, cleanup, bail⟩ r r' := by
  rcases settle_cases h with ⟨lines, e, hwithheld, hlines, rfl⟩ |
    ⟨c, body, lines, e, rfl, hmode, hcase, hbody, hrun, rfl⟩
  · exact ⟨_, lines, none, treated_of_withheld hwithheld hlines⟩
  · obtain ⟨outer, inner, e₁, e₂, hsteps, hgone, hbody', hbefore, hafter⟩ :=
      Engine.advances_runCase hrun
    obtain ⟨hwork, hcase'⟩ : Tree.Reworks case r.tree (r.taken case).tree ∧
        (r.taken case).tree.case? case = some { c with body := none } := by
      apply Tree.reworks_updateCase _ hcase
      exact fun _ => rfl
    have hresult : (r.taken case).tree.result? case = r.tree.result? case := by
      rw [Tree.result?_of_case? hcase, Tree.result?_of_case? hcase']
    have hteardown : ((r.taken case).tree.case? case).map CaseData.teardown =
        (r.tree.case? case).map CaseData.teardown := by
      rw [hcase, hcase']
      rfl
    -- the teardown and the bail-out come later and are left open here
    refine ⟨r.reported + 1, lines, some (outer, inner), fun cleanup bail => ?_⟩
    refine ⟨hwork, hresult, hteardown, rfl, hsteps, fun hfresh o i hpair => ?_,
      Summary.results_addAll _ _, rfl, Summary.bailOut_addAll _ _,
      .ran rfl hmode rfl hcase hbody hbody' hbefore hafter⟩
    cases hpair
    exact hgone hfresh

/-- Settling a case leaves its teardown where it was. -/
theorem teardown_of_settle {script : Option Script} (h : settle mode case blocked r = .ok v r') :
    (∃ c, r'.tree.case? case = some c ∧ c.teardown = script) ↔
      ∃ c, r.tree.case? case = some c ∧ c.teardown = script := by
  obtain ⟨number, lines, hooks, htreated⟩ := treated_of_settle h
  rw [← Option.map_eq_some_iff, ← Option.map_eq_some_iff, (htreated none none).teardown]

/-- The teardown of a case, and nothing else. -/
structure CleanedUp (case : ObjectId) (cleanup : Option (Bool × List HookId)) (r r' : Run) :
    Prop where
  rework : Tree.Reworks case r.tree r'.tree
  result : r'.tree.result? case = r.tree.result? case
  teardown : ∃ c, r.tree.case? case = some c ∧ cleanup.isSome = c.teardown.isSome ∧
    ∀ script, c.teardown = some script → Engine.TornDown case script r.engine r'.engine
  steps : Engine.Advances (cleanup.toList.map fun c => .tearingDown case c.1 c.2) r.engine r'.engine
  noted : ∀ active chain, cleanup = some (active, chain) →
    active = r.engine.isActive ∧ chain = r.engine.chain.map Installed.id
  summary : r'.summary = r.summary
  reported : r'.reported = r.reported

theorem cleanedUp_of_tearDown (h : tearDown case r = .ok () r') :
    ∃ cleanup, CleanedUp case cleanup r r' := by
  obtain ⟨c, e, hc, hcleaning, rfl⟩ := tearDown_eq_ok.mp h
  obtain ⟨hwork, hc'⟩ : Tree.Reworks case r.tree (r.stripped case).tree ∧
      (r.stripped case).tree.case? case = some { c with
        body := none
        teardown := none } := by
    apply Tree.reworks_updateCase _ hc
    exact fun _ => rfl
  have hresult : (r.stripped case).tree.result? case = r.tree.result? case := by
    rw [Tree.result?_of_case? hc', Tree.result?_of_case? hc]
  rcases hscript : c.teardown with - | script <;> rw [hscript] at hcleaning
  · obtain ⟨-, rfl⟩ := pure_eq_ok.mp hcleaning
    refine ⟨none, hwork, hresult, ⟨c, hc, by simp [hscript], fun script hsome => ?_⟩,
      Engine.Advances.refl _, ?_, rfl, rfl⟩
    · rw [hscript] at hsome
      exact absurd hsome (by simp)
    · intro _ _ hnone
      exact absurd hnone (by simp)
  · -- the teardown is carried out right after it has been noted
    have hperform : Engine.perform script (Engine.tearing case r.engine) = .ok () e := hcleaning
    refine ⟨some (r.engine.isActive, r.engine.chain.map Installed.id), hwork, hresult,
      ⟨c, hc, by simp [hscript], fun script' hscript' => ?_⟩, ?_, ?_, rfl, rfl⟩
    · cases hscript.symm.trans hscript'
      exact ⟨_, e, hperform, List.suffix_cons _ _, List.suffix_refl _, rfl⟩
    · exact (Engine.advances_note_step rfl _).trans (Engine.advances_perform hperform)
    · intro active chain hpair
      cases hpair
      exact ⟨rfl, rfl⟩

/-- The result of a case is stored, and nothing else is done. -/
structure Stored (mode : Mode) (case : ObjectId) (v : Verdict) (bail : Option String) (r r' : Run) :
    Prop where
  unresolved : r.tree.result? case = none
  rework : Tree.Reworks case r.tree r'.tree
  result : r'.tree.result? case = some v
  steps : Engine.Advances (.resolved case v ::
    bail.toList.map fun message => .printed .report (Tap.bailOut (some message))) r.engine r'.engine
  results : r'.summary.results = r.summary.results
  reported : r'.reported = r.reported
  bails : bail.isSome = bailsOut mode v
  bailOut : r'.summary.bailOut = bail.or r.summary.bailOut
  bailed : ∀ message, bail = some message → message = (r.tree.path case).render ++ " failed" ∧
    r'.engine.journal.head? = some (.printed .report (Tap.bailOut (some message)))

theorem stored_of_conclude (h : conclude mode case v r = .ok () r') :
    ∃ bail, Stored mode case v bail r r' := by
  obtain ⟨t, hset, rfl⟩ := conclude_eq_ok.mp h
  obtain ⟨c, hc, hnone, hwork, hc'⟩ := Tree.setResult_spec hset
  have hunresolved : r.tree.result? case = none := by
    rw [Tree.result?_of_case? hc, hnone]
  have hresult : t.result? case = some v := Tree.result?_of_case? hc'
  have hresolved : Engine.Advances [.resolved case v] r.engine (r.concluding case v t).engine :=
    Engine.advances_note_step rfl r.engine
  rcases hbail : bailsOut mode v with - | -
  · refine ⟨none, hunresolved, hwork, hresult, hresolved, rfl, rfl, hbail.symm, rfl, ?_⟩
    exact fun message hnone => absurd hnone (by simp)
  · refine ⟨some (grievance t case), hunresolved, hwork, hresult, ?_, rfl, rfl, hbail.symm, rfl,
      fun message hmessage => ?_⟩
    · exact hresolved.trans (Engine.advances_note_step rfl _)
    · cases hmessage
      refine ⟨?_, rfl⟩
      rw [grievance, Tree.path_eq_of_static hwork.static]

/-! ### The whole -/

variable {s : Settlement} {r₁ r₂ : Run}

theorem Grounds.mono {t : Tree} {e e' e₃ : Engine} (h : Grounds mode t blocked s e e')
    (hlater : e'.journal <:+ e₃.journal) : Grounds mode t blocked s e e₃ := by
  cases h with
  | blocked hblocked hhooks hlines => exact .blocked hblocked hhooks hlines
  | excluded hblocked hmode hverdict hhooks hlines =>
    exact .excluded hblocked hmode hverdict hhooks hlines
  | ran hblocked hmode hhooks hcase hbody hrun hbefore hafter =>
    exact .ran hblocked hmode hhooks hcase hbody hrun hbefore (hafter.trans hlater)

/-- Treating a case leaves its teardown to be carried out. -/
theorem Treated.cleanup {cleanup : Option (Bool × List HookId)}
    (hs : Treated mode blocked s r r₁) (hclean : CleanedUp s.case cleanup r₁ r₂)
    (hafter : r₂.engine.journal <:+ r'.engine.journal) :
    ∃ c, r.tree.case? s.case = some c ∧ cleanup.isSome = c.teardown.isSome ∧
      ∀ script, c.teardown = some script → Engine.TornDown s.case script r.engine r'.engine := by
  obtain ⟨c₁, hc₁, hteardown, htorn⟩ := hclean.teardown
  have hmap := hs.teardown
  rw [hc₁] at hmap
  obtain ⟨c, hc, hsame⟩ := Option.map_eq_some_iff.mp hmap.symm
  refine ⟨c, hc, ?_, fun script hscript => ?_⟩
  · rw [hsame]
    exact hteardown
  · have htorn' := htorn script (hsame.symm.trans hscript)
    exact htorn'.mono hs.steps.journal_suffix hafter

/-- The hooks of a case are gone when its teardown starts. -/
theorem Treated.cleanly (hs : Treated mode blocked s r r₁)
    (hclean : CleanedUp s.case s.cleanup r₁ r₂) (active : Bool) (chain : List HookId)
    (hcleanup : s.cleanup = some (active, chain)) :
    active = r.engine.isActive ∧ (r.engine.Fresh → ∀ outer inner,
      s.hooks = some (outer, inner) → outer ∉ chain ∧ inner ∉ chain) := by
  obtain ⟨hactive, hchain⟩ := hclean.noted active chain hcleanup
  refine ⟨hactive.trans hs.steps.active, fun hfresh outer inner hhooks => ?_⟩
  obtain ⟨houter, hinner⟩ := hs.gone hfresh outer inner hhooks
  rw [hchain]
  exact ⟨Engine.not_mem_chain_of_standing houter, Engine.not_mem_chain_of_standing hinner⟩

/-- Settling a case, cleaning up and storing the result conclude the case. -/
theorem concluded_of_finish (h : finish mode case blocked r = .ok v r') :
    ∃ s : Settlement, s.case = case ∧ s.verdict = v ∧ Concluded mode blocked s r r' := by
  unfold finish at h
  simp only [bind_eq_ok, pure_eq_ok] at h
  obtain ⟨w, r₁, hsettle, _, r₂, htear, _, r₃, hconclude, rfl, rfl⟩ := h
  obtain ⟨number, lines, hooks, htreated⟩ := treated_of_settle hsettle
  obtain ⟨cleanup, hclean⟩ := cleanedUp_of_tearDown htear
  obtain ⟨bail, hstored⟩ := stored_of_conclude hconclude
  -- the three parts have said what there is to record
  let s : Settlement := ⟨case, w, number, lines, hooks, cleanup, bail⟩
  have hs : Treated mode blocked s r r₁ := htreated cleanup bail
  have hsteps : Engine.Advances s.steps r.engine r₃.engine :=
    (hs.steps.trans hclean.steps).trans hstored.steps
  have hafter : r₁.engine.journal <:+ r₃.engine.journal :=
    (hclean.steps.trans hstored.steps).journal_suffix
  have hunresolved : r.tree.result? case = none := by
    rw [← hstored.unresolved, hclean.result]
    exact hs.result.symm
  refine ⟨s, rfl, rfl, hunresolved, (hs.rework.trans hclean.rework).trans hstored.rework,
    hstored.result, hs.number, hsteps, ?_, ?_, hstored.bails, ?_, fun message hbail => ?_,
    hs.grounds.mono hafter, hs.cleanup hclean hstored.steps.journal_suffix, hs.cleanly hclean⟩
  · rw [hstored.results, hclean.summary, hs.results]
  · rw [hstored.reported, hclean.reported, hs.reported]
  · rw [hstored.bailOut, hclean.summary, hs.bailOut]
  · obtain ⟨hmessage, hlast⟩ := hstored.bailed message hbail
    rw [Tree.path_eq_of_static (hs.rework.trans hclean.rework).static] at hmessage
    exact ⟨hmessage, hlast⟩

end Run

end TestEngine
