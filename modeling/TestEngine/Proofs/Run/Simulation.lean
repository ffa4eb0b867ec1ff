/-
TestEngine/Proofs/Run/Simulation.lean

Two runs of the same tree side by side.  The second one follows the first as long as it is in step
with it; it may be left behind, and then it is over, so that it does nothing any more whatever the
first one does.  Being in step and being left behind are relations between runs, and a `Simulation`
says what is asked of them: the two have to be related still when a case has been finished in both.
Then they are related after whole runs (`Simulation.follows_resolveEach`).

The scheduler looks at the tree, at the cases being resolved and at whether the run is over, and
that is all that two runs in step have to agree on.
-/
import TestEngine.Proofs.Run.Turn

namespace TestEngine

namespace Engine

theorem suffix_consulted (i : Installed) (d : Diagnostic) (e : Engine) :
    e.journal <:+ (consulted i d e).journal := by
  have hasked : e.journal <:+ .asked i.id d :: e.journal := List.suffix_cons _ _
  rcases hc : i.hook.counter? d with - | counter
  · simp [consulted, hc]
  · simpa [consulted, hc] using hasked.trans (List.suffix_cons (.credited counter) _)

/-- What has been noted stays noted. -/
theorem respected_journal (A : Action → Prop) (P : Entry → Prop) :
    Respected A P fun e e' => e.journal <:+ e'.journal where
  refl _ := List.suffix_refl _
  trans h h' := h.trans h'
  noted _ _ _ := List.suffix_cons _ _
  printed _ _ := List.suffix_cons _ _
  installed _ named _ _ _ := by rcases named with _ | _ <;> exact List.suffix_refl _
  popped _ _ _ _ _ := List.suffix_refl _
  released {_ _ named _ _ _} _ h _ _ := by rcases named with _ | _ <;> exact h
  discarded {_ _ named _} _ h := by rcases named with _ | _ <;> exact h
  bound _ _ h := h
  recorded _ _ _ _ _ := List.suffix_cons _ _
  tested _ h := (List.suffix_cons _ _).trans (h.trans (List.suffix_cons _ _))
  threaded h := h
  cleaned h := h
  asked d _ h := h.trans (suffix_consulted _ d _)
  collected _ _ _ _ := List.suffix_cons _ _
  configured _ _ _ _ := List.suffix_refl _
  intercepted _ := List.suffix_refl _

end Engine

namespace Run

variable {α : Type} {mode mode' : Mode} {Step Left : Run → Run → Prop} {r r' r₁ r₁' : Run}

/-! ### Following -/

/-- What the first effect does, the second one does too, or it is left behind with what it gives
when a run is over. -/
def Follows (Step Left : Run → Run → Prop) (whenOver : Verdict → α) (x x' : Act α) : Prop :=
  ∀ {r r' : Run} {a : α} {r₁ : Run}, Step r r' → x r = .ok a r₁ →
    (∃ r₁', x' r' = .ok a r₁' ∧ Step r₁ r₁') ∨ ∃ v r₁', x' r' = .ok (whenOver v) r₁' ∧ Left r₁ r₁'

/-- A run in the second mode follows one in the first. -/
structure Simulation (mode mode' : Mode) (Step Left : Run → Run → Prop) : Prop where
  tree : ∀ {r r'}, Step r r' → r'.tree = r.tree
  resolving : ∀ {r r'}, Step r r' → r'.resolving = r.resolving
  isOver : ∀ {r r'}, Step r r' → r'.isOver = r.isOver
  resume : ∀ {r r'}, Step r r' → ∀ ids,
    Step { r with resolving := ids } { r' with resolving := ids }
  finish : ∀ case blocked, Follows Step Left id (finish mode case blocked)
    (finish mode' case blocked)
  ended : ∀ {r r'}, Left r r' → r'.isOver = true
  /-- The first run may go on meanwhile. -/
  left : ∀ {r r' r₁}, Left r r' → r.engine.journal <:+ r₁.engine.journal → ∀ ids,
    Left r₁ { r' with resolving := ids }

/-- What an effect of a run notes comes on top. -/
abbrev Records (x : Act α) : Prop :=
  Keeps (fun _ => True) (fun e e' => e.journal <:+ e'.journal) x

theorem records_resolveWithin (mode : Mode) (bound : Nat) (case : ObjectId) :
    Records (resolveWithin mode bound case) :=
  keeps_resolveWithin (Engine.respected_journal _ fun _ => True) (fun _ => trivial) mode bound case

namespace Simulation

variable (hsim : Simulation mode mode' Step Left)

include hsim

/-- The run that is left behind stays so while the other one goes on. -/
theorem behind {x : Act α} (hx : Records x) {a : α} (h : Left r r') (hok : x r = .ok a r₁) :
    Left r₁ r' :=
  hsim.left h (hx.of_ok hok) r'.resolving

/-! ### Prerequisites -/

section Resolver

variable {resolve resolve' : ObjectId → Act Verdict}
  (hfollows : ∀ case, Follows Step Left id (resolve case) (resolve' case))
  (hrecords : ∀ case, Records (resolve case))

include hfollows hrecords

theorem follows_resolveLeaves (outcome : Verdict) (leaves : List ObjectId) :
    Follows Step Left id (resolveLeaves resolve outcome leaves)
      (resolveLeaves resolve' outcome leaves) := by
  induction leaves generalizing outcome with
  | nil =>
    intro r r' v r₁ h hok
    obtain ⟨rfl, rfl⟩ := pure_eq_ok.mp hok
    exact .inl ⟨r', rfl, h⟩
  | cons leaf leaves ih =>
    intro r r' v r₁ h hok
    obtain ⟨w, r₂, hleaf, hrest⟩ := bind_eq_ok.mp hok
    have hkeeps := keeps_resolveLeaves (Engine.respected_journal _ fun _ => True) hrecords
    rcases hfollows leaf h hleaf with ⟨r₂', hleaf', h₂⟩ | ⟨w', r₂', hleaf', h₂⟩
    · rcases hover : r₂.isOver with - | -
      · rw [get_bind_of_goes hover] at hrest
        rw [resolveLeaves, bind_of_ok hleaf', get_bind_of_goes ((hsim.isOver h₂).trans hover)]
        exact ih _ h₂ hrest
      · rw [get_bind_of_over hover] at hrest
        obtain ⟨rfl, rfl⟩ := pure_eq_ok.mp hrest
        refine .inl ⟨r₂', (bind_of_ok hleaf').trans ?_, h₂⟩
        rw [get_bind_of_over ((hsim.isOver h₂).trans hover)]
        rfl
    · -- the second run is over, and the first one may go on with the other cases
      have hon : r₂.engine.journal <:+ r₁.engine.journal := by
        rcases hover : r₂.isOver with - | -
        · rw [get_bind_of_goes hover] at hrest
          exact (hkeeps _ leaves).of_ok hrest
        · rw [get_bind_of_over hover] at hrest
          obtain ⟨-, rfl⟩ := pure_eq_ok.mp hrest
          exact List.suffix_refl _
      refine .inr ⟨w', r₂', (bind_of_ok hleaf').trans ?_, hsim.left h₂ hon _⟩
      rw [get_bind_of_over (hsim.ended h₂)]
      rfl

theorem follows_resolveDependency (d : ObjectId) :
    Follows Step Left id (resolveDependency resolve d) (resolveDependency resolve' d) := by
  intro r r' v r₁ h hok
  rw [resolveDependency_eq] at hok
  rw [resolveDependency_eq, hsim.tree h]
  split at hok
  · rename_i hsuite
    rw [if_pos hsuite]
    exact hsim.follows_resolveLeaves hfollows hrecords _ _ h hok
  · rename_i hcase
    rw [if_neg hcase]
    exact hfollows d h hok

theorem follows_resolveAll (case : ObjectId) (state : Prerequisites)
    (dependencies : List ObjectId) :
    Follows Step Left .over (resolveAll resolve case state dependencies)
      (resolveAll resolve' case state dependencies) := by
  induction dependencies generalizing state with
  | nil =>
    intro r r' v r₁ h hok
    obtain ⟨rfl, rfl⟩ := pure_eq_ok.mp hok
    exact .inl ⟨r', rfl, h⟩
  | cons d dependencies ih =>
    intro r r' state' r₁ h hok
    obtain ⟨hsibling, v, r₂, hd, hrest⟩ := resolveAll_cons_eq_ok hok
    have hkeeps := keeps_resolveAll (Engine.respected_journal _ fun _ => True) (fun _ => trivial)
      hrecords
    rw [← hsim.tree h] at hsibling
    rw [resolveAll_of_sibling hsibling, hsim.tree h]
    rcases hsim.follows_resolveDependency hfollows hrecords d h hd with
      ⟨r₂', hd', h₂⟩ | ⟨v', r₂', hd', h₂⟩
    · rw [bind_of_ok hd']
      rcases hrest with ⟨hover, rfl, rfl⟩ | ⟨hgoes, hrest⟩
      · refine .inl ⟨r₂', ?_, h₂⟩
        rw [get_bind_of_over ((hsim.isOver h₂).trans hover)]
        rfl
      · rw [get_bind_of_goes ((hsim.isOver h₂).trans hgoes)]
        exact ih _ h₂ hrest
    · rw [bind_of_ok hd', get_bind_of_over (hsim.ended h₂)]
      have hon : r₂.engine.journal <:+ r₁.engine.journal := by
        rcases hrest with ⟨-, -, rfl⟩ | ⟨-, hrest⟩
        · exact List.suffix_refl _
        · exact (hkeeps case _ dependencies).of_ok hrest
      exact .inr ⟨v', r₂', rfl, hsim.left h₂ hon _⟩

end Resolver

/-! ### Cases -/

theorem follows_followUp (case : ObjectId) (state : Prerequisites) :
    Follows Step Left id (followUp mode case state) (followUp mode' case state) := by
  rcases state with v | v | -
  · intro r r' w r₁ h hok
    obtain ⟨_, _, hdrop, hpure⟩ := bind_eq_ok.mp hok
    rw [modify_eq_ok] at hdrop
    obtain ⟨rfl, rfl⟩ := pure_eq_ok.mp hpure
    subst hdrop
    refine .inl ⟨{ r' with resolving := r'.resolving.drop 1 }, rfl, ?_⟩
    rw [hsim.resolving h]
    exact hsim.resume h _
  · exact hsim.finish case (some v)
  · exact hsim.finish case none

theorem follows_resolveWithin (bound : Nat) (case : ObjectId) :
    Follows Step Left id (resolveWithin mode bound case) (resolveWithin mode' bound case) := by
  induction bound generalizing case with
  | zero => exact fun _ hok => absurd hok throw_eq_ok
  | succ bound ih =>
    intro r r' v r₁ h hok
    have htree := hsim.tree h
    have hopened : Step (r.opened case) (r'.opened case) := by
      unfold opened
      rw [hsim.resolving h]
      exact hsim.resume h _
    rcases hresult : r.tree.result? case with - | w
    · rcases hfirst : r.resolving.contains case with - | -
      · rw [resolveWithin_of_first hresult hfirst] at hok
        rw [resolveWithin_of_first (htree ▸ hresult) (hsim.resolving h ▸ hfirst), htree]
        obtain ⟨state, r₂, hall, hrest⟩ := bind_eq_ok.mp hok
        rcases hsim.follows_resolveAll ih (records_resolveWithin mode bound) case .met _ hopened
          hall with ⟨r₂', hall', h₂⟩ | ⟨v', r₂', hall', h₂⟩
        · rw [bind_of_ok hall']
          exact hsim.follows_followUp case state h₂ hrest
        · -- the case stays unresolved in the run that is over
          have hon := (keeps_followUp (Engine.respected_journal _ fun _ => True)
            (fun _ => trivial) mode case state).of_ok hrest
          exact .inr ⟨v', _, bind_of_ok hall', hsim.left h₂ hon _⟩
      · rw [resolveWithin_of_circular hresult hfirst] at hok
        exact absurd hok violate_eq_ok
    · rw [resolveWithin_of_resolved hresult] at hok
      cases hok
      exact .inl ⟨r', resolveWithin_of_resolved (htree ▸ hresult), h⟩

/-! ### Whole runs -/

theorem follows_resolveEach (leaves : List ObjectId) :
    Follows Step Left (fun _ => ()) (resolveEach mode leaves) (resolveEach mode' leaves) := by
  induction leaves with
  | nil =>
    intro r r' _ r₁ h hok
    obtain ⟨-, rfl⟩ := pure_eq_ok.mp hok
    exact .inl ⟨r', rfl, h⟩
  | cons leaf leaves ih =>
    intro r r' _ r₁ h hok
    rcases hover : r.isOver with - | -
    · rw [resolveEach_of_goes hover] at hok
      rw [resolveEach_of_goes ((hsim.isOver h).trans hover)]
      obtain ⟨v, r₂, hleaf, hrest⟩ := bind_eq_ok.mp hok
      have hbound : resolve mode' leaf r' = resolveWithin mode' (r.tree.size + 1) leaf r' := by
        rw [← hsim.tree h]
        rfl
      rcases hsim.follows_resolveWithin (r.tree.size + 1) leaf h hleaf with
        ⟨r₂', hleaf', h₂⟩ | ⟨v', r₂', hleaf', h₂⟩
      · rw [bind_of_ok (hbound.trans hleaf')]
        exact ih h₂ hrest
      · rw [bind_of_ok (hbound.trans hleaf'), resolveEach_of_over (hsim.ended h₂)]
        have hkeeps := keeps_resolveEach (Engine.respected_journal (fun _ => True) fun _ => True)
          (fun _ => trivial) mode leaves
        exact .inr ⟨v', r₂', rfl, hsim.behind hkeeps h₂ hrest⟩
    · rw [resolveEach_of_over hover] at hok
      rw [resolveEach_of_over ((hsim.isOver h).trans hover)]
      cases hok
      exact .inl ⟨r', rfl, h⟩

end Simulation

/-! ### Invariants -/

/-- What holds of a run whichever cases are being resolved, and holds still when a case has been
finished, holds of a run that has returned. -/
theorem invariant_of_resolveEach {Q : Run → Prop}
    (hresume : ∀ {r}, Q r → ∀ ids, Q { r with resolving := ids })
    (hfinish : ∀ {case blocked v r r'}, Q r → finish mode case blocked r = .ok v r' → Q r')
    {leaves : List ObjectId} {u : Unit} (h : resolveEach mode leaves r = .ok u r') (hr : Q r) :
    Q r' := by
  -- the run follows itself, and is never left behind
  have hsim : Simulation mode mode (fun r r' => r' = r ∧ Q r) (fun _ _ => False) := by
    refine ⟨fun h => h.1 ▸ rfl, fun h => h.1 ▸ rfl, fun h => h.1 ▸ rfl, fun h ids => ?_,
      fun case blocked r r' v r₁ h hok => ?_, fun h => h.elim, fun h => h.elim⟩
    · exact ⟨h.1 ▸ rfl, hresume h.2 ids⟩
    · obtain ⟨rfl, hq⟩ := h
      exact .inl ⟨r₁, hok, rfl, hfinish hq hok⟩
  rcases hsim.follows_resolveEach leaves ⟨rfl, hr⟩ h with ⟨r₁', -, -, hq⟩ | ⟨_, _, -, hleft⟩
  · exact hq
  · exact hleft.elim

end Run

end TestEngine
