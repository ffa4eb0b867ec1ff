/-
TestEngine/Proofs/Run/Results.lean

The result of every case that a run resolves.  Whichever way the scheduler came to a
case, directly or for the sake of another one, its result solves one equation
(`result_of_resolved`): the first dependency that did not pass decides it; else the
selection may; else its body does.  The outcomes of the dependencies are read off the
tree in which the run ended, where all of them have been decided.
-/
import TestEngine.Proofs.Run.Start

namespace TestEngine

namespace Run

/-- The body of a case is not run between two states of the engine. -/
def NeverStarted (case : ObjectId) (e e' : Engine) : Prop :=
  ∀ unit, .unitStarted case unit ∉ Engine.since e e'

/-- The body of a case is run between two states of the engine, and gives this result. -/
def GivenByBody (t : Tree) (case : ObjectId) (v : Verdict) (e e' : Engine) : Prop :=
  ∃ c body number lines e₁ e₂, t.case? case = some c ∧ c.body = some body ∧
    Engine.runBody case (t.path case) number body e₁ = .ok (v, lines) e₂ ∧
    e.journal <:+ e₁.journal ∧ e₂.journal <:+ e'.journal ∧
    Engine.Produced (t.path case) body v lines

variable {mode : Mode} {t : Tree} {r : Run} {e : Engine}

/-! ### Cases that are not started -/

/-- A case that is settled without hooks is never started. -/
theorem neverStarted_of_settled {ss : List Settlement} {e' : Engine} {s : Settlement}
    {text : String}
    (hsteps : Engine.Advances (.printed .report text :: ss.flatMap Settlement.steps) e e')
    (hnodup : (ss.map Settlement.case).Nodup) (hs : s ∈ ss) (hhooks : s.hooks = none) :
    NeverStarted s.case e e' := by
  intro unit hmem
  have hstep : .unitStarted s.case unit ∈ Engine.stepsSince e e' :=
    List.mem_filter.mpr ⟨hmem, rfl⟩
  rw [hsteps.stepsSince_eq, List.mem_cons] at hstep
  have hstep := hstep.resolve_left (by simp)
  obtain ⟨s', hs', hmem'⟩ := List.mem_flatMap.mp hstep
  obtain ⟨hcase, hsome⟩ := Settlement.started_of_mem_steps hmem'
  rw [List.inj_on_of_nodup_map hnodup hs' hs hcase, hhooks] at hsome
  exact absurd hsome (by simp)

/-! ### The equation -/

/-- The result `v` of a case of the tree `t` follows from the results in `t'`, the tree after
the run: if a dependency did not pass, the first such decides; else the case may be left
out by the selection; else its body gives the result.  All its dependencies have been
decided, so that their outcomes are the ones that the run has seen. -/
def ResultEquation (mode : Mode) (t t' : Tree) (e e' : Engine) (case : ObjectId) (v : Verdict) :
    Prop :=
  (∀ d ∈ t.dependencies case, ∀ l ∈ t.leaves d, (t'.result? l).isSome = true) ∧
  match t'.blocker? (t.dependencies case) with
  | some d =>
    v = ⟨(t'.outcome d).kind, some ("prerequisite aborted: " ++ (t.path d).render)⟩ ∧
      NeverStarted case e e'
  | none =>
    if mode.excluded (t.path case) then
      v = .skip "excluded by selection" ∧ NeverStarted case e e'
    else GivenByBody t case v e e'

/-- The result of every case that a run resolves solves its equation, whatever made the run
resolve the case.  This needs no run that goes to its end: fail-fast may be on. -/
theorem result_of_resolved (calls : List Tree.Call) (mode : Mode) (root : ObjectId) (e : Engine)
    (r : Run) (hmode : mode.listOnly = false)
    (h : Run.suite mode root (Run.start (Tree.ofCalls calls) e) = .ok () r)
    (case : ObjectId) (v : Verdict) (hv : r.tree.result? case = some v) :
    ResultEquation mode (Tree.ofCalls calls) r.tree e r.engine case v := by
  have hsound := Tree.sound_ofCalls calls
  generalize Tree.ofCalls calls = t at *
  obtain ⟨-, ss, hprogress, -, -⟩ := suite_spec hmode h
  obtain ⟨s, hs, rfl⟩ := hprogress.mem_of_result? (hsound.result?_eq_none case) (by rw [hv]; rfl)
  have hverdict : s.verdict = v := Option.some.inj ((hprogress.result?_of_mem hs).symm.trans hv)
  have hsteps := advances_suite hprogress
  have hnever := neverStarted_of_settled hsteps hprogress.nodup hs
  obtain ⟨r₁, r₂, m⟩ := hprogress.moment hs
  have hblockade : blockadeOf r₁.tree s.case =
      (r.tree.blocker? (t.dependencies s.case)).map r.tree.blockade := m.blockadeOf_eq
  have hpath : ∀ d, r₁.tree.path d = t.path d := m.path
  refine ⟨fun d hd l hl => m.later.isSome_result? (m.isSome_result? hsound.forest hd hl), ?_⟩
  -- the reason that the run had says which case of the equation it is
  rcases m.settles.concluded.grounds with ⟨hblocked, hhooks, -⟩ |
    ⟨hfree, hexcluded, hskip, hhooks, -⟩ | ⟨hfree, hincluded, -, hcase, hbody, hrun, hpre, hpost⟩
  · rw [hblockade] at hblocked
    obtain ⟨d, hd, hv⟩ := Option.map_eq_some_iff.mp hblocked
    rw [hd]
    refine ⟨?_, hnever hhooks⟩
    rw [← hverdict, ← hv, ← hpath d, ← Tree.path_eq_of_static m.later.static]
    rfl
  · rw [hblockade, Option.map_eq_none_iff] at hfree
    rw [hpath] at hexcluded
    simp only [hfree, hexcluded, if_true]
    exact ⟨hverdict.symm.trans hskip, hnever hhooks⟩
  · rw [hblockade, Option.map_eq_none_iff] at hfree
    rw [hpath] at hincluded hrun
    simp only [hfree, hincluded, Bool.false_eq_true, if_false]
    rw [m.untouched] at hcase
    rw [hverdict] at hrun
    obtain ⟨_, hstarted⟩ := m.started
    have hfirst : e.journal <:+ r₁.engine.journal :=
      ((Engine.advances_note_step rfl e).trans hstarted).journal_suffix
    exact ⟨_, _, _, _, _, _, hcase, hbody, hrun, hfirst.trans hpre, hpost.trans m.finished,
      (Engine.advances_runBody hrun).2⟩

/-- A suite with a case that fails and one that depends on it. -/
def blockedCalls : List Tree.Call :=
  [.suite "s", .addCase 0 "a" [.raise (.fail "broken")], .addCase 0 "b" [], .addDependency 2 1]

/-- The second case is blocked by the first, which the run has resolved before. -/
theorem result_of_blocked :
    let o := Run.suite .default 0 (Run.start (Tree.ofCalls blockedCalls) .initial)
    o = .ok () (endOf o) ∧
      (endOf o).tree.result? 2 = some ⟨.fail, some "prerequisite aborted: /s/a"⟩ ∧
      ResultEquation .default (Tree.ofCalls blockedCalls) (endOf o).tree .initial (endOf o).engine 2
        ⟨.fail, some "prerequisite aborted: /s/a"⟩ := by
  intro o
  have hrun : o = .ok () (endOf o) := eq_ok_endOf (by decide +kernel)
  have hresult : (endOf o).tree.result? 2 = some ⟨.fail, some "prerequisite aborted: /s/a"⟩ := by
    decide +kernel
  exact ⟨hrun, hresult,
    result_of_resolved blockedCalls .default 0 .initial (endOf o) rfl hrun 2 _ hresult⟩

end Run

end TestEngine
