/-
TestEngine/Proofs/Run/Progress.lean

A run as a sequence of settlements.  Between two states of a run cases are settled one
after another, each when all that it depends on has been decided and with the result
that its dependencies, the selection or its body give it (`Settles`); `Progress` is the
reflexive and transitive closure, with the list of what was settled.

Results are never taken back (`Tree.Extends`), so what has been decided stays decided
and keeps its outcome.  Hence every case is settled once at most (`Progress.nodup`), and
what was true at that moment (`Moment`) can be read off the tree at the end.
-/
import Mathlib.Data.List.Basic
import TestEngine.Proofs.Run.Schedule
import TestEngine.Proofs.Run.Settle

namespace TestEngine

/-! ### Outcomes -/

namespace Tree

/-- The cases that have to be resolved for a dependency: itself, or those of a suite. -/
def awaited (t : Tree) (d : ObjectId) : List ObjectId :=
  if t.kind? d == some .suite then t.leaves d else [d]

/-- All that a dependency stands for has been resolved. -/
def Decided (t : Tree) (d : ObjectId) : Prop := ∀ l ∈ t.awaited d, (t.result? l).isSome = true

/-- The first result of the cases that is no pass. -/
def firstFlaw (t : Tree) (cases : List ObjectId) : Option Verdict :=
  (cases.filterMap t.result?).find? fun v => !v.isPass

/-- The outcome of a dependency: the result of a case; the first result in a suite that is
no pass, or else a pass. -/
def outcome (t : Tree) (d : ObjectId) : Verdict :=
  if t.kind? d == some .suite then (t.firstFlaw (t.leaves d)).getD .pass
  else (t.result? d).getD .pass

/-- The first of several dependencies that did not pass. -/
def blocker? (t : Tree) (dependencies : List ObjectId) : Option ObjectId :=
  dependencies.find? fun d => !(t.outcome d).isPass

/-- The result of a case that a dependency blocks. -/
def blockade (t : Tree) (d : ObjectId) : Verdict := Run.blockedBy (t.outcome d) (t.path d)

/-- The outcome of a dependency depends on the results of the cases that it stands for. -/
theorem outcome_congr {t t' : Tree} {d : ObjectId} (hstatic : t'.static = t.static)
    (hresults : ∀ l ∈ t.awaited d, t'.result? l = t.result? l) : t'.outcome d = t.outcome d := by
  unfold outcome
  rw [kind?_eq_of_static hstatic, leaves_eq_of_static hstatic]
  unfold awaited at hresults
  split
  · rename_i hsuite
    rw [if_pos hsuite] at hresults
    unfold firstFlaw
    rw [List.filterMap_congr hresults]
  · rename_i hsuite
    rw [if_neg hsuite] at hresults
    rw [hresults d (List.mem_singleton_self d)]

theorem blocker?_congr {t t' : Tree} {dependencies : List ObjectId}
    (houtcomes : ∀ d ∈ dependencies, t'.outcome d = t.outcome d) :
    t'.blocker? dependencies = t.blocker? dependencies := by
  unfold blocker?
  induction dependencies with
  | nil => rfl
  | cons d dependencies ih =>
    rw [List.find?_cons, List.find?_cons, houtcomes d (List.mem_cons_self ..),
      ih fun x hx => houtcomes x (List.mem_cons_of_mem _ hx)]

/-! ### Results stay -/

/-- A later state of the tree of a run. -/
structure Extends (t t' : Tree) : Prop where
  static : t'.static = t.static
  results : ∀ {c v}, t.result? c = some v → t'.result? c = some v

namespace Extends

variable {t t' t'' : Tree}

theorem refl (t : Tree) : Extends t t := ⟨rfl, fun h => h⟩

theorem trans (h : Extends t t') (h' : Extends t' t'') : Extends t t'' :=
  ⟨h'.static.trans h.static, fun hv => h'.results (h.results hv)⟩

variable (h : Extends t t')

include h

theorem isSome_result? {c : ObjectId} (hc : (t.result? c).isSome = true) :
    (t'.result? c).isSome = true := by
  obtain ⟨v, hv⟩ := Option.isSome_iff_exists.mp hc
  rw [h.results hv]
  rfl

theorem awaited (d : ObjectId) : t'.awaited d = t.awaited d := by
  unfold Tree.awaited
  rw [kind?_eq_of_static h.static, leaves_eq_of_static h.static]

theorem size_eq : t'.size = t.size :=
  calc
    t'.size = t'.static.size := (size_map _).symm
    _ = t.static.size := by rw [h.static]
    _ = t.size := size_map _

theorem decided {d : ObjectId} (hd : t.Decided d) : t'.Decided d := by
  intro l hl
  rw [h.awaited] at hl
  exact h.isSome_result? (hd l hl)

theorem result?_eq {c : ObjectId} (hc : (t.result? c).isSome = true) :
    t'.result? c = t.result? c := by
  obtain ⟨v, hv⟩ := Option.isSome_iff_exists.mp hc
  rw [hv, h.results hv]

theorem outcome {d : ObjectId} (hd : t.Decided d) : t'.outcome d = t.outcome d :=
  outcome_congr h.static fun l hl => h.result?_eq (hd l hl)

theorem blockade {d : ObjectId} (hd : t.Decided d) : t'.blockade d = t.blockade d := by
  unfold Tree.blockade
  rw [h.outcome hd, path_eq_of_static h.static]

theorem blocker? {dependencies : List ObjectId} (hd : ∀ d ∈ dependencies, t.Decided d) :
    t'.blocker? dependencies = t.blocker? dependencies :=
  blocker?_congr fun d hmem => h.outcome (hd d hmem)

end Extends

/-- A case that had no result got one, and the other cases are as before. -/
theorem Reworks.extends {case : ObjectId} {t t' : Tree} (h : Reworks case t t')
    (hnone : t.result? case = none) : Extends t t' := by
  refine ⟨h.static, fun {c v} hv => ?_⟩
  have hne : c ≠ case := by
    intro hc
    rw [hc, hnone] at hv
    exact absurd hv (by simp)
  rw [result?, h.others hne]
  exact hv

end Tree

namespace Run

/-! ### Settlements in a run -/

/-- What blocks a case, as far as the results go that the tree has now. -/
def blockadeOf (t : Tree) (case : ObjectId) : Option Verdict :=
  (t.blocker? (t.dependencies case)).map t.blockade

theorem blockadeOf_congr {t t' : Tree} {case : ObjectId} (hstatic : t'.static = t.static)
    (hresults : ∀ d ∈ t.dependencies case, ∀ l ∈ t.awaited d, t'.result? l = t.result? l) :
    blockadeOf t' case = blockadeOf t case := by
  have houtcomes : ∀ d ∈ t.dependencies case, t'.outcome d = t.outcome d := fun d hd =>
    Tree.outcome_congr hstatic (hresults d hd)
  unfold blockadeOf
  rw [Tree.dependencies_eq_of_static hstatic, Tree.blocker?_congr houtcomes]
  refine Option.map_congr fun d hd => ?_
  unfold Tree.blockade
  rw [houtcomes d (List.mem_of_find?_eq_some hd), Tree.path_eq_of_static hstatic]

/-- A case is settled, all its dependencies being decided, in a run that goes on. -/
structure Settles (mode : Mode) (s : Settlement) (r r' : Run) : Prop where
  goesOn : r.isOver = false
  decided : ∀ d ∈ r.tree.dependencies s.case, r.tree.Decided d
  siblings : ∀ d ∈ r.tree.dependencies s.case, r.tree.Sibling s.case d
  concluded : Concluded mode (blockadeOf r.tree s.case) s r r'

/-- Cases are settled one after another; which cases are being resolved does not matter. -/
inductive Progress (mode : Mode) : Run → List Settlement → Run → Prop
  | idle (r : Run) (ids : List ObjectId) : Progress mode r [] { r with resolving := ids }
  | step {r r₁ r' : Run} {s : Settlement} {ss : List Settlement} (hs : Settles mode s r r₁)
      (hss : Progress mode r₁ ss r') : Progress mode r (s :: ss) r'

variable {mode : Mode} {r r₁ r' : Run} {s : Settlement} {ss ss' : List Settlement}

namespace Progress

theorem refl (r : Run) : Progress mode r [] r := idle r r.resolving

/-- Progress does not depend on which cases are being resolved. -/
theorem resume {ids : List ObjectId} (h : Progress mode { r with resolving := ids } ss r') :
    Progress mode r ss r' := by
  -- only the first step starts from the changed list, and it makes no use of it
  generalize hr₀ : { r with resolving := ids } = r₀ at h
  rcases h with ⟨_, ids'⟩ | ⟨hs, hss⟩
  · rw [← hr₀]
    exact idle r ids'
  · subst hr₀
    refine step ⟨hs.goesOn, hs.decided, hs.siblings, ?_⟩ hss
    have hc := hs.concluded
    exact ⟨hc.unresolved, hc.rework, hc.result, hc.number, hc.steps, hc.results, hc.reported,
      hc.bail, hc.bailOut, hc.bailed, hc.grounds, hc.cleanup, hc.cleanly⟩

theorem trans (h : Progress mode r ss r₁) (h' : Progress mode r₁ ss' r') :
    Progress mode r (ss ++ ss') r' := by
  induction h with
  | idle r ids => exact h'.resume
  | step hs _ ih => exact step hs (ih h')

theorem single (hs : Settles mode s r r') : Progress mode r [s] r' := step hs (refl r')

/-! ### What stays and what is added -/

theorem «extends» (h : Progress mode r ss r') : r.tree.Extends r'.tree := by
  induction h with
  | idle r ids => exact Tree.Extends.refl r.tree
  | step hs _ ih => exact (hs.concluded.rework.extends hs.concluded.unresolved).trans ih

/-- A case that is not settled is as before. -/
theorem case?_of_not_mem (h : Progress mode r ss r') {c : ObjectId}
    (hc : c ∉ ss.map Settlement.case) : r'.tree.case? c = r.tree.case? c := by
  induction h with
  | idle r ids => rfl
  | step hs _ ih =>
    rw [List.map_cons, List.mem_cons, not_or] at hc
    rw [ih hc.2, hs.concluded.rework.others hc.1]

theorem result?_of_mem (h : Progress mode r ss r') (hmem : s ∈ ss) :
    r'.tree.result? s.case = some s.verdict := by
  induction h with
  | idle r ids => exact absurd hmem (by simp)
  | step hs hss ih =>
    rcases List.mem_cons.mp hmem with rfl | hmem
    · exact hss.extends.results hs.concluded.result
    · exact ih hmem

/-- What is settled had no result before. -/
theorem unresolved (h : Progress mode r ss r') (hmem : s ∈ ss) : r.tree.result? s.case = none := by
  induction h with
  | idle r ids => exact absurd hmem (by simp)
  | @step r r₁ r' s₁ ss hs hss ih =>
    rcases List.mem_cons.mp hmem with rfl | hmem
    · exact hs.concluded.unresolved
    · rcases hv : r.tree.result? s.case with - | v
      · rfl
      · have hext := hs.concluded.rework.extends hs.concluded.unresolved
        rw [← ih hmem]
        exact (hext.results hv).symm

/-- No case is settled twice. -/
theorem nodup (h : Progress mode r ss r') : (ss.map Settlement.case).Nodup := by
  induction h with
  | idle r ids => exact List.nodup_nil
  | @step r r₁ r' s ss hs hss ih =>
    -- a case that comes again later would have had its result already
    refine List.nodup_cons.mpr ⟨fun hmem => ?_, ih⟩
    obtain ⟨s', hs', hcase⟩ := List.mem_map.mp hmem
    have hnone := hss.unresolved hs'
    rw [hcase, hs.concluded.result] at hnone
    exact absurd hnone (by simp)

/-- A case that has a result in the end had it before or was settled. -/
theorem mem_of_result? (h : Progress mode r ss r') {c : ObjectId} (hnone : r.tree.result? c = none)
    (hsome : (r'.tree.result? c).isSome = true) : ∃ s ∈ ss, s.case = c := by
  by_cases hmem : c ∈ ss.map Settlement.case
  · exact List.mem_map.mp hmem
  · rw [Tree.result?, h.case?_of_not_mem hmem] at hsome
    rw [Tree.result?] at hnone
    rw [hnone] at hsome
    exact absurd hsome (by simp)

theorem steps (h : Progress mode r ss r') :
    Engine.Advances (ss.flatMap Settlement.steps) r.engine r'.engine := by
  induction h with
  | idle r ids => exact Engine.Advances.refl r.engine
  | step hs _ ih =>
    rw [List.flatMap_cons]
    exact hs.concluded.steps.trans ih

theorem results (h : Progress mode r ss r') :
    r'.summary.results = r.summary.results ++ ss.flatMap Settlement.lines := by
  induction h with
  | idle r ids => exact (List.append_nil _).symm
  | step hs _ ih => rw [ih, hs.concluded.results, List.flatMap_cons, List.append_assoc]

/-- A run that has been ended early stays so. -/
theorem isOver (h : Progress mode r ss r') (hover : r'.isOver = false) : r.isOver = false := by
  induction h with
  | idle r ids => exact hover
  | step hs _ ih =>
    have hstep := hs.concluded.isOver_eq
    rw [ih hover] at hstep
    exact (Bool.or_eq_false_iff.mp hstep.symm).1

/-- Without fail-fast, nothing ends a run early. -/
theorem isOver_eq (h : Progress mode r ss r') (hmode : mode.failFast = false) :
    r'.isOver = r.isOver := by
  induction h with
  | idle r ids => rfl
  | step hs _ ih =>
    rw [ih, hs.concluded.isOver_eq, hs.concluded.bail, bailsOut, hmode, Bool.and_false, Bool.or_false]

end Progress

/-! ### Moments -/

/-- The moment at which a case was settled in a run from `r` to `r'`: the runs right before it
and right after it.  Until then the case had not been touched. -/
structure Moment (mode : Mode) (s : Settlement) (r r₁ r₂ r' : Run) : Prop where
  settles : Settles mode s r₁ r₂
  before : ∃ ss, Progress mode r ss r₁
  after : ∃ ss, Progress mode r₂ ss r'
  untouched : r₁.tree.case? s.case = r.tree.case? s.case

theorem Progress.moment (h : Progress mode r ss r') (hmem : s ∈ ss) :
    ∃ r₁ r₂, Moment mode s r r₁ r₂ r' := by
  induction h with
  | idle r ids => exact absurd hmem (by simp)
  | @step r r₁ r' s₁ ss hs hss ih =>
    rcases List.mem_cons.mp hmem with rfl | hmem
    · exact ⟨r, r₁, hs, ⟨[], refl r⟩, ⟨ss, hss⟩, rfl⟩
    · obtain ⟨r₂, r₃, hs', ⟨ss₁, hbefore⟩, hafter, hcase⟩ := ih hmem
      have hne : s.case ≠ s₁.case := by
        intro he
        have hnone := hss.unresolved hmem
        rw [he, hs.concluded.result] at hnone
        exact absurd hnone (by simp)
      exact ⟨r₂, r₃, hs', ⟨s₁ :: ss₁, step hs hbefore⟩, hafter,
        hcase.trans (hs.concluded.rework.others hne)⟩

namespace Moment

variable {r₂ : Run} (m : Moment mode s r r₁ r₂ r')

include m

theorem earlier : r.tree.Extends r₁.tree := by
  obtain ⟨_, hbefore⟩ := m.before
  exact hbefore.extends

theorem later : r₁.tree.Extends r'.tree := by
  obtain ⟨_, hafter⟩ := m.after
  have hconcluded := m.settles.concluded
  exact (hconcluded.rework.extends hconcluded.unresolved).trans hafter.extends

/-- The engine had got to where the case was settled by some steps. -/
theorem started : ∃ steps, Engine.Advances steps r.engine r₁.engine := by
  obtain ⟨_, hbefore⟩ := m.before
  exact ⟨_, hbefore.steps⟩

theorem finished : r₂.engine.journal <:+ r'.engine.journal := by
  obtain ⟨_, hafter⟩ := m.after
  exact hafter.steps.journal_suffix

theorem dependencies : r₁.tree.dependencies s.case = r.tree.dependencies s.case :=
  Tree.dependencies_eq_of_static m.earlier.static _

theorem path (d : ObjectId) : r₁.tree.path d = r.tree.path d :=
  Tree.path_eq_of_static m.earlier.static d

/-- What blocked the case can be read off the last tree, since its dependencies were decided. -/
theorem blockadeOf_eq : blockadeOf r₁.tree s.case =
    (r'.tree.blocker? (r.tree.dependencies s.case)).map r'.tree.blockade := by
  have hdecided := m.settles.decided
  unfold blockadeOf
  rw [← m.dependencies, m.later.blocker? hdecided]
  rcases hb : r₁.tree.blocker? (r₁.tree.dependencies s.case) with - | d
  · rfl
  · rw [Option.map_some, Option.map_some,
      m.later.blockade (hdecided d (List.mem_of_find?_eq_some hb))]

end Moment

end Run

end TestEngine
