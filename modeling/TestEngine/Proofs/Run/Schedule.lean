/-
TestEngine/Proofs/Run/Schedule.lean

How the scheduler goes on from where it is.  Each of its parts is an equation here, for each of the
ways that it may take: a run may be over or go on, a dependency may be a sibling of the case or not,
and a case may be resolved already, be in the middle of being resolved, or be resolved now.
-/
import TestEngine.Proofs.Effect
import TestEngine.Proofs.Tree.Forest

namespace TestEngine

namespace Tree

/-- Does the dependency exist, and has it the same parent as the case? -/
def Sibling (t : Tree) (case d : ObjectId) : Prop :=
  (t.name? d).isSome = true ∧ t.parent? d = t.parent? case

/-- What is objected to a dependency of a case that is no sibling of it. -/
def objection (t : Tree) (case d : ObjectId) : Violation :=
  match t.node? d with
  | none => .unknownObject d
  | some _ => .notSiblings (t.path case) (t.path d)

end Tree

namespace Run

variable {mode : Mode} {resolve : ObjectId → Act Verdict} {case d l : ObjectId}
  {leaves dependencies : List ObjectId} {r r' : Run}

/-- In a run that goes on, the first of two ways is not taken. -/
theorem get_bind_of_goes {α : Type} {x y : Act α} (hgoes : r.isOver = false) :
    ((get : Act Run) >>= fun r' => if r'.isOver then x else y) r = y r := by
  refine (bind_of_ok (get_eq_ok.mpr ⟨rfl, rfl⟩)).trans ?_
  rw [if_neg (by rw [hgoes]; simp)]

/-- In a run that is over, the first of two ways is taken. -/
theorem get_bind_of_over {α : Type} {x y : Act α} (hover : r.isOver = true) :
    ((get : Act Run) >>= fun r' => if r'.isOver then x else y) r = x r := by
  refine (bind_of_ok (get_eq_ok.mpr ⟨rfl, rfl⟩)).trans ?_
  rw [if_pos hover]

/-! ### Prerequisites -/

theorem resolveDependency_eq : resolveDependency resolve d r =
    (if r.tree.kind? d == some .suite then resolveLeaves resolve .pass (r.tree.leaves d)
      else resolve d) r := rfl

/-- What is known of a case after one more of its dependencies has this outcome. -/
def Prerequisites.add (v : Verdict) (path : Path) : Prerequisites → Prerequisites
  | .met => if v.isPass then .met else .blocked (blockedBy v path)
  | state => state

theorem resolveAll_of_sibling (h : r.tree.Sibling case d) (state : Prerequisites) :
    resolveAll resolve case state (d :: dependencies) r =
      (resolveDependency resolve d >>= fun v => get >>= fun r' =>
        if r'.isOver then pure (.over v)
        else resolveAll resolve case (state.add v (r.tree.path d)) dependencies) r := by
  obtain ⟨hname, hparent⟩ := h
  rw [Tree.isSome_name?] at hname
  obtain ⟨n, hn⟩ := Option.isSome_iff_exists.mp hname
  have hsame : (n.parent != r.tree.parent? case) = false := by
    rw [← hparent, Tree.parent?, hn]
    simp
  refine (bind_of_ok (get_eq_ok.mpr ⟨rfl, rfl⟩)).trans ?_
  simp only [hn, hsame]
  rfl

theorem resolveAll_of_stranger (h : ¬ r.tree.Sibling case d) (state : Prerequisites) :
    resolveAll resolve case state (d :: dependencies) r = violate (r.tree.objection case d) r := by
  refine (bind_of_ok (get_eq_ok.mpr ⟨rfl, rfl⟩)).trans ?_
  unfold Tree.objection
  rcases hn : r.tree.node? d with - | n
  · rfl
  · have hother : (n.parent != r.tree.parent? case) = true := by
      refine bne_iff_ne.mpr fun hsame => h ⟨?_, ?_⟩
      · rw [Tree.isSome_name?, hn]
        rfl
      · rw [← hsame, Tree.parent?, hn]
        rfl
    simp only [hother]
    rfl

/-- What resolving a dependency does, and what comes after it. -/
theorem resolveAll_cons_eq_ok {state state' : Prerequisites}
    (h : resolveAll resolve case state (d :: dependencies) r = .ok state' r') :
    r.tree.Sibling case d ∧ ∃ v r₁, resolveDependency resolve d r = .ok v r₁ ∧
      (r₁.isOver = true ∧ state' = .over v ∧ r' = r₁ ∨
        r₁.isOver = false ∧ resolveAll resolve case (state.add v (r.tree.path d)) dependencies r₁ =
          .ok state' r') := by
  by_cases hsibling : r.tree.Sibling case d
  · rw [resolveAll_of_sibling hsibling] at h
    obtain ⟨v, r₁, hd, h⟩ := bind_eq_ok.mp h
    refine ⟨hsibling, v, r₁, hd, ?_⟩
    rcases hover : r₁.isOver with - | -
    · rw [get_bind_of_goes hover] at h
      exact .inr ⟨rfl, h⟩
    · rw [get_bind_of_over hover] at h
      obtain ⟨rfl, rfl⟩ := pure_eq_ok.mp h
      exact .inl ⟨rfl, rfl, rfl⟩
  · rw [resolveAll_of_stranger hsibling] at h
    exact absurd h violate_eq_ok

/-! ### Cases -/

/-- The state in which the dependencies of a case are resolved. -/
def opened (case : ObjectId) (r : Run) : Run := { r with resolving := case :: r.resolving }

/-- The result of a case that its dependencies block. -/
def Prerequisites.blockade : Prerequisites → Option Verdict
  | .blocked v => some v
  | _ => none

/-- What is done for a case when the scheduler is through with its dependencies. -/
def followUp (mode : Mode) (case : ObjectId) : Prerequisites → Act Verdict
  | .over v => do
    modify fun r => { r with resolving := r.resolving.drop 1 }
    pure v
  | .blocked v => finish mode case (some v)
  | .met => finish mode case none

theorem followUp_of_goes {state : Prerequisites} (h : ∀ v, state ≠ .over v) :
    followUp mode case state = finish mode case state.blockade := by
  rcases state with v | v | -
  · exact absurd rfl (h v)
  · rfl
  · rfl

/-- A case that has a result keeps it. -/
theorem resolveWithin_of_resolved {bound : Nat} {v : Verdict} (h : r.tree.result? case = some v) :
    resolveWithin mode (bound + 1) case r = .ok v r := by
  refine (bind_of_ok (get_eq_ok.mpr ⟨rfl, rfl⟩)).trans ?_
  simp only [h]
  rfl

/-- A case that is met again while it is being resolved. -/
theorem resolveWithin_of_circular {bound : Nat} (hnone : r.tree.result? case = none)
    (hagain : r.resolving.contains case = true) :
    resolveWithin mode (bound + 1) case r = violate (.circular (r.tree.path case)) r := by
  refine (bind_of_ok (get_eq_ok.mpr ⟨rfl, rfl⟩)).trans ?_
  simp only [hnone, hagain, if_true]

/-- A case that is resolved for the first time. -/
theorem resolveWithin_of_first {bound : Nat} (hnone : r.tree.result? case = none)
    (hfirst : r.resolving.contains case = false) :
    resolveWithin mode (bound + 1) case r =
      (resolveAll (resolveWithin mode bound) case .met (r.tree.dependencies case) >>=
        followUp mode case) (r.opened case) := by
  refine (bind_of_ok (get_eq_ok.mpr ⟨rfl, rfl⟩)).trans ?_
  simp only [hnone, hfirst]
  rfl

/-! ### Whole runs -/

theorem resolveEach_of_goes (hgoes : r.isOver = false) :
    resolveEach mode (l :: leaves) r = (Run.resolve mode l >>= fun _ => resolveEach mode leaves) r :=
  get_bind_of_goes hgoes

theorem resolveEach_of_over (hover : r.isOver = true) :
    resolveEach mode leaves r = .ok () r := by
  rcases leaves with - | ⟨leaf, leaves⟩
  · rfl
  · exact get_bind_of_over hover

end Run

end TestEngine
