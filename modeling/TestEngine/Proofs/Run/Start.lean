/-
TestEngine/Proofs/Run/Start.lean

Whole runs.  A run of a tree prints the plan and then settles cases (`suite_spec`); in a
tree that was built by its operations, none of them has a result at the start, so what
has one at the end was settled, and what a dependency waits for are the leaves at or
below it.
-/
import TestEngine.Proofs.Run.Resolve
import TestEngine.Proofs.Tree.Construction

namespace TestEngine

/-! ### Built trees -/

namespace Tree

variable {t : Tree}

/-- What a dependency waits for are the leaves at or below it. -/
theorem awaited_eq_leaves (h : t.Forest) {d : ObjectId} (hd : (t.name? d).isSome = true) :
    t.awaited d = t.leaves d := by
  unfold awaited
  split
  · rfl
  · rename_i hsuite
    refine (h.leaves_of_case ?_).symm
    unfold kind? at hsuite
    unfold name? at hd
    unfold case?
    rcases hn : t.node? d with - | n <;> rw [hn] at hd hsuite
    · exact absurd hd (by simp)
    · rcases hc : n.case? with - | c
      · exact absurd hsuite (by simp [hc])
      · simp [hc]

theorem Sound.result?_eq_none (h : t.Sound) (case : ObjectId) : t.result? case = none := by
  unfold result?
  rcases hc : t.case? case with - | c
  · rfl
  · exact (h.unrun hc).result

end Tree

/-! ### Runs -/

namespace Run

variable {mode : Mode} {r' : Run}

/-- The run of a tree before anything has happened. -/
def start (t : Tree) (e : Engine) : Run := ⟨t, e, .empty, 0, []⟩

/-- The state of the engine when the plan has been printed. -/
def announced (t : Tree) (root : ObjectId) (e : Engine) : Engine :=
  { e with journal := .printed .report (Tap.plan (planned t (t.leaves root))) :: e.journal }

theorem runSuite_eq_ok {t : Tree} {root : ObjectId} {e e' : Engine} {s : Summary} :
    Engine.runSuite mode t root e = .ok s e' ↔
      ∃ r, suite mode root (start t e) = .ok () r ∧ r.summary = s ∧ r.engine = e' := by
  unfold Engine.runSuite start
  rcases suite mode root ⟨t, e, .empty, 0, []⟩ with ⟨_, r⟩ | ⟨stop, r⟩
  · simp
  · simp

theorem runSuite_eq_error {t : Tree} {root : ObjectId} {e e' : Engine} {stop : Stop} :
    Engine.runSuite mode t root e = .error stop e' ↔
      ∃ r, suite mode root (start t e) = .error stop r ∧ r.engine = e' := by
  unfold Engine.runSuite start
  rcases suite mode root ⟨t, e, .empty, 0, []⟩ with ⟨_, r⟩ | ⟨stop, r⟩
  · simp
  · simp [and_assoc]

/-- A run prints the plan and then settles cases. -/
theorem suite_spec {t : Tree} {e : Engine} {root : ObjectId} {u : Unit}
    (hmode : mode.listOnly = false) (h : suite mode root (start t e) = .ok u r') :
    (t.node? root).isSome = true ∧ ∃ ss, Progress mode (start t (announced t root e)) ss r' ∧
      (r'.isOver = false → ∀ l ∈ t.leaves root, (r'.tree.result? l).isSome = true) ∧
      Confined t (t.leaves root) ss := by
  unfold suite at h
  simp only [get_bind_eq_ok] at h
  rcases hn : t.node? root with - | n
  · rw [show (start t e).tree.node? root = none from hn] at h
    exact absurd h violate_eq_ok
  · rw [show (start t e).tree.node? root = some n from hn] at h
    simp only [hmode, Bool.false_eq_true, if_false, bind_eq_ok, onEngine_eq_ok] at h
    obtain ⟨_, _, ⟨e', hprint, rfl⟩, h⟩ := h
    rw [← Engine.note_eq_ok.mp hprint] at h
    exact ⟨rfl, resolveEach_spec h⟩

/-- When a case was settled, all that its dependencies stand for had been resolved. -/
theorem Moment.isSome_result? {s : Settlement} {r r₁ r₂ r' : Run}
    (m : Moment mode s r r₁ r₂ r') (hforest : r.tree.Forest) {d l : ObjectId}
    (hd : d ∈ r.tree.dependencies s.case) (hl : l ∈ r.tree.leaves d) :
    (r₁.tree.result? l).isSome = true := by
  have hd₁ : d ∈ r₁.tree.dependencies s.case := m.dependencies ▸ hd
  have hsibling := m.earlier.sibling.mp (m.settles.siblings d hd₁)
  refine m.settles.decided d hd₁ l ?_
  rw [m.earlier.awaited, Tree.awaited_eq_leaves hforest hsibling.1]
  exact hl

/-- The steps of a run are its plan and those of the cases that it settles. -/
theorem advances_suite {t : Tree} {e : Engine} {root : ObjectId} {ss : List Settlement}
    (h : Progress mode (start t (announced t root e)) ss r') :
    Engine.Advances (.printed .report (Tap.plan (planned t (t.leaves root))) ::
      ss.flatMap Settlement.steps) e r'.engine :=
  (Engine.advances_note_step rfl e).trans h.steps

end Run

end TestEngine
