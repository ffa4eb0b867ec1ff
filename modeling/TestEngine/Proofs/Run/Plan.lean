/-
TestEngine/Proofs/Run/Plan.lean

When the plan is exact.  The plan counts the cases at or below the root, but a root that
is a case may depend on its siblings, and these are resolved and reported too.  A run
never reports fewer results than it planned, and as many just if no dependency of the
root has a case at or below it (`plan_exact_iff`); in particular the plan of a suite is
exact.  A case that depends on a sibling shows that the condition is needed
(`plan_short_of_results`).
-/
import TestEngine.Proofs.Run.Coverage

namespace TestEngine

namespace Run

variable {mode : Mode} {t : Tree} {root : ObjectId} {e : Engine} {r : Run} {ss : List Settlement}

/-- The settled cases that are not below the root. -/
def strays (t : Tree) (root : ObjectId) (ss : List Settlement) : List ObjectId :=
  (ss.map Settlement.case).filter fun c => !(t.leaves root).contains c

theorem mem_strays {c : ObjectId} :
    c ∈ strays t root ss ↔ c ∈ ss.map Settlement.case ∧ c ∉ t.leaves root := by
  unfold strays
  rw [List.mem_filter]
  simp

/-- What is settled is what was planned, and the strays. -/
theorem settled_perm_append (h : t.Forest) (hnodup : (ss.map Settlement.case).Nodup)
    (hsettled : ∀ l ∈ t.leaves root, l ∈ ss.map Settlement.case) :
    (ss.map Settlement.case).Perm (t.leaves root ++ strays t root ss) := by
  have hplanned : ((ss.map Settlement.case).filter fun c => (t.leaves root).contains c).Perm
      (t.leaves root) := by
    refine (List.perm_ext_iff_of_nodup (hnodup.filter _) (h.nodup_leaves root)).mpr fun c => ?_
    rw [List.mem_filter]
    constructor
    · rintro ⟨-, hc⟩
      simpa using hc
    · intro hc
      exact ⟨hsettled c hc, by simpa using hc⟩
  exact (List.filter_append_perm _ _).symm.trans (hplanned.append_right _)

theorem length_results (h : t.Sound) (hprogress : Progress mode (start t e) ss r)
    (hcases : ∀ c ∈ ss.map Settlement.case, (t.case? c).isSome = true) :
    r.summary.results.length = planned t (ss.map Settlement.case) := by
  rw [← Tree.length_flatMap_reportPaths hcases, ← paths_of_results h hprogress, List.length_map]

theorem planned_append (t : Tree) (cs cs' : List ObjectId) :
    planned t (cs ++ cs') = planned t cs + planned t cs' := by
  induction cs with
  | nil => exact (Nat.zero_add _).symm
  | cons c cs ih => exact (congrArg (t.leafCount c + ·) ih).trans (Nat.add_assoc ..).symm

theorem planned_perm {cs cs' : List ObjectId} (h : cs.Perm cs') : planned t cs = planned t cs' := by
  unfold planned
  refine h.foldr_eq' (fun x _ y _ n => ?_) 0
  exact Nat.add_left_comm (t.leafCount y) (t.leafCount x) n

theorem planned_eq_zero {cs : List ObjectId} (hcases : ∀ c ∈ cs, (t.case? c).isSome = true) :
    planned t cs = 0 ↔ cs = [] := by
  rcases cs with - | ⟨c, cs⟩
  · simp [planned]
  · have hpos := Tree.leafCount_pos (hcases c (List.mem_cons_self ..))
    have hsum : planned t (c :: cs) = t.leafCount c + planned t cs := rfl
    constructor
    · intro hzero
      omega
    · intro hnil
      exact absurd hnil (by simp)

/-- If nothing strays, the root brings in no cases of its own. -/
theorem leaves_of_dependency (h : t.Sound) (hprogress : Progress mode (start t e) ss r)
    (hsettled : ∀ l ∈ t.leaves root, l ∈ ss.map Settlement.case)
    (hstrays : strays t root ss = []) : ∀ d ∈ t.dependencies root, t.leaves d = [] := by
  intro d hd
  have hcase : (t.case? root).isSome = true := by
    unfold Tree.dependencies at hd
    rcases hc : t.case? root with - | c <;> rw [hc] at hd
    · exact absurd hd (by simp)
    · rfl
  have hleaves := h.forest.leaves_of_case hcase
  obtain ⟨s, hs, hroot⟩ := List.mem_map.mp (hsettled root (by rw [hleaves]; simp))
  obtain ⟨r₁, r₂, m⟩ := hprogress.moment hs
  refine List.eq_nil_iff_forall_not_mem.mpr fun l hl => ?_
  -- the dependency was decided before the root was settled
  have hdecided : (r₁.tree.result? l).isSome = true := by
    rw [← hroot] at hd
    exact m.isSome_result? h.forest hd hl
  -- the leaf was settled before the root, hence is another case, and strays
  have hne : l ≠ root := by
    intro he
    rw [he, ← hroot, m.settles.concluded.unresolved] at hdecided
    exact absurd hdecided (by simp)
  have hend : (r.tree.result? l).isSome = true := m.later.isSome_result? hdecided
  obtain ⟨s', hs', rfl⟩ := hprogress.mem_of_result? (h.result?_eq_none l) hend
  have hstray : s'.case ∈ strays t root ss := by
    refine mem_strays.mpr ⟨List.mem_map_of_mem hs', ?_⟩
    rw [hleaves]
    simpa using hne
  rw [hstrays] at hstray
  exact absurd hstray (by simp)

/-- The report of a run is its plan and its results, numbered from 1; the plan never exceeds
their number, and reaches it just if no dependency of the root has leaves. -/
theorem plan_exact_iff (calls : List Tree.Call) (mode : Mode) (root : ObjectId) (e : Engine)
    (r : Run) (hlist : mode.listOnly = false) (hfast : mode.failFast = false)
    (h : suite mode root (start (Tree.ofCalls calls) e) = .ok () r) :
    let t := Tree.ofCalls calls
    let plan := planned t (t.leaves root)
    let lines := r.summary.results
    Engine.reportTextsSince e r.engine = Tap.plan plan :: Engine.resultTexts 1 lines ∧
      (Engine.resultTexts 1 lines).getLast? =
        lines.getLast?.map (fun line => Tap.result lines.length line.1 line.2) ∧
      plan ≤ lines.length ∧
      (plan = lines.length ↔ ∀ d ∈ t.dependencies root, t.leaves d = []) := by
  have hsound := Tree.sound_ofCalls calls
  generalize Tree.ofCalls calls = t at *
  obtain ⟨-, ss, hprogress, hresolved, hconfined⟩ := suite_spec hlist h
  have hover : r.isOver = false := hprogress.isOver_eq hfast
  have hsettled : ∀ l ∈ t.leaves root, l ∈ ss.map Settlement.case := by
    intro l hl
    obtain ⟨s, hs, rfl⟩ :=
      hprogress.mem_of_result? (hsound.result?_eq_none l) (hresolved hover l hl)
    exact List.mem_map_of_mem hs
  have hcases := isSome_case?_of_settled hprogress
  have hperm := settled_perm_append hsound.forest hprogress.nodup hsettled
  have hlength : r.summary.results.length =
      planned t (t.leaves root) + planned t (strays t root ss) := by
    rw [length_results hsound hprogress hcases, ← planned_append]
    exact planned_perm hperm
  have hstrays : planned t (strays t root ss) = 0 ↔ strays t root ss = [] :=
    planned_eq_zero fun c hc => hcases c (mem_strays.mp hc).1
  intro _ plan lines
  refine ⟨reportTexts_of_suite hprogress hfast, ?_, Nat.le.intro hlength.symm, ?_⟩
  · rw [Engine.getLast?_resultTexts, Nat.add_sub_cancel_left]
  · constructor
    · intro hexact
      have hzero : planned t (strays t root ss) = 0 :=
        Nat.left_eq_add.mp (hexact.trans hlength)
      exact leaves_of_dependency hsound hprogress hsettled (hstrays.mp hzero)
    · intro hown
      have hnone : strays t root ss = [] := by
        refine List.eq_nil_iff_forall_not_mem.mpr fun c hc => ?_
        obtain ⟨hmem, hout⟩ := mem_strays.mp hc
        obtain ⟨s, hs, rfl⟩ := List.mem_map.mp hmem
        exact hout (hconfined _ (Tree.closed_leaves hsound.forest hown) (fun l hl => hl) s hs)
      rw [hstrays.mpr hnone] at hlength
      exact hlength.symm

/-- Two cases of a suite, the first of which depends on the second. -/
def dependentCalls : List Tree.Call :=
  [.suite "s", .addCase 0 "a" [], .addCase 0 "b" [], .addDependency 1 2]

/-- A run of the first case alone plans one result and reports two. -/
theorem plan_short_of_results :
    let o := suite .default 1 (start (Tree.ofCalls dependentCalls) .initial)
    o = .ok () (endOf o) ∧
      Engine.reportTextsSince .initial (endOf o).engine = ["1..1", "ok 1 /s/b", "ok 2 /s/a"] ∧
      (endOf o).summary.results.length = 2 := by
  intro o
  exact ⟨eq_ok_endOf (by decide +kernel), by decide +kernel, by decide +kernel⟩

/-- The same run, in which the plan is short because of the dependency. -/
theorem plan_exact_iff_of_dependent :
    let o := suite .default 1 (start (Tree.ofCalls dependentCalls) .initial)
    o = .ok () (endOf o) ∧ (planned (Tree.ofCalls dependentCalls)
      ((Tree.ofCalls dependentCalls).leaves 1) = (endOf o).summary.results.length ↔
        ∀ d ∈ (Tree.ofCalls dependentCalls).dependencies 1,
          (Tree.ofCalls dependentCalls).leaves d = []) := by
  intro o
  have hrun : o = .ok () (endOf o) := eq_ok_endOf (by decide +kernel)
  exact ⟨hrun, (plan_exact_iff dependentCalls .default 1 .initial (endOf o) rfl rfl hrun).2.2.2⟩

end Run

end TestEngine
