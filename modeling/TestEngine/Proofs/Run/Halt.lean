/-
TestEngine/Proofs/Run/Halt.lean

Why a run stops.  The scheduler stops for one of three reasons (`Halts`):

* a case is met again while it is being resolved;
* a case depends on something that is no sibling of it;
* a case stalls while it is finished.

`Meets` follows the scheduler down to the cases that it is asked for.  Wherever that is, the cases
being resolved are different cases of the tree without results (`Standing`): they are the same
again after every effect that returns, and have not been touched meanwhile (`Reserved`).  So a case
that is met for the first time has not run, which is all that finishing it needs, and the bound is
never met.
-/
import TestEngine.Proofs.Run.Simulation
import TestEngine.Proofs.Run.Stall

namespace TestEngine

theorem Tree.lt_size_of_case? {t : Tree} {c : ObjectId} (h : (t.case? c).isSome) : c < t.size :=
  lt_size_of_node? (isSome_node?_of_case? h)

namespace Run

variable {mode : Mode} {t : Tree} {root case c d l : ObjectId} {e : Engine} {bound bound' : Nat}
  {blocked : Option Verdict} {v : Verdict} {r r₁ r₂ r' : Run}

/-! ### What is being resolved -/

/-- The cases being resolved are the same as before, and have not been touched. -/
structure Reserved (r r' : Run) : Prop where
  resolving : r'.resolving = r.resolving
  untouched : ∀ x ∈ r.resolving, r'.tree.case? x = r.tree.case? x

namespace Reserved

theorem refl (r : Run) : Reserved r r := ⟨rfl, fun _ _ => rfl⟩

theorem trans (h : Reserved r r₁) (h' : Reserved r₁ r') : Reserved r r' :=
  ⟨h'.resolving.trans h.resolving, fun x hx =>
    (h'.untouched x (h.resolving ▸ hx)).trans (h.untouched x hx)⟩

/-- A case that is taken off the list again was all that may have been touched. -/
theorem closed (h : Reserved (r.opened case) r₁) (hfirst : r.resolving.contains case = false)
    (hresolving : r'.resolving = r₁.resolving.drop 1)
    (hothers : ∀ x ≠ case, r'.tree.case? x = r₁.tree.case? x) : Reserved r r' := by
  refine ⟨?_, fun x hx => ?_⟩
  · rw [hresolving, h.resolving]
    rfl
  · have hne : x ≠ case := by
      rintro rfl
      exact absurd hfirst (by simpa using hx)
    exact (hothers x hne).trans (h.untouched x (List.mem_cons_of_mem _ hx))

end Reserved

section Dependencies

variable {resolve : ObjectId → Act Verdict} {leaves dependencies : List ObjectId}
  (hresolve : ∀ {c r v r'}, resolve c r = .ok v r' → Reserved r r')

include hresolve

theorem reserved_of_resolveLeaves {outcome : Verdict}
    (h : resolveLeaves resolve outcome leaves r = .ok v r') : Reserved r r' := by
  induction leaves generalizing r outcome with
  | nil =>
    obtain ⟨-, rfl⟩ := pure_eq_ok.mp h
    exact .refl r
  | cons leaf leaves ih =>
    obtain ⟨w, r₁, hleaf, h⟩ := bind_eq_ok.mp h
    rw [get_bind_eq_ok] at h
    split at h
    · obtain ⟨-, rfl⟩ := pure_eq_ok.mp h
      exact hresolve hleaf
    · exact (hresolve hleaf).trans (ih h)

theorem reserved_of_resolveDependency (h : resolveDependency resolve d r = .ok v r') :
    Reserved r r' := by
  rw [resolveDependency_eq] at h
  split at h
  · exact reserved_of_resolveLeaves hresolve h
  · exact hresolve h

theorem reserved_of_resolveAll {state state' : Prerequisites}
    (h : resolveAll resolve case state dependencies r = .ok state' r') : Reserved r r' := by
  induction dependencies generalizing r state with
  | nil =>
    obtain ⟨-, rfl⟩ := pure_eq_ok.mp h
    exact .refl r
  | cons d dependencies ih =>
    obtain ⟨-, w, r₁, hd, ⟨-, -, rfl⟩ | ⟨-, h⟩⟩ := resolveAll_cons_eq_ok h
    · exact reserved_of_resolveDependency hresolve hd
    · exact (reserved_of_resolveDependency hresolve hd).trans (ih h)

theorem Among.reserved (h : Among resolve leaves r l r') : Reserved r r' := by
  induction h with
  | here => exact .refl _
  | later hleaf _ _ ih => exact (hresolve hleaf).trans ih

end Dependencies

theorem resolving_of_settle (h : settle mode case blocked r = .ok v r') :
    r'.resolving = r.resolving := by
  rcases settle_cases h with ⟨_, _, -, -, rfl⟩ | ⟨_, _, _, _, -, -, -, -, -, rfl⟩
  · rfl
  · rfl

theorem resolving_of_tearDown (h : tearDown case r = .ok () r') : r'.resolving = r.resolving := by
  obtain ⟨_, _, -, -, rfl⟩ := tearDown_eq_ok.mp h
  rfl

theorem resolving_of_finish (h : finish mode case blocked r = .ok v r') :
    r'.resolving = r.resolving.drop 1 := by
  obtain ⟨r₁, r₂, t, hsettle, htear, -, rfl⟩ := finish_eq_ok.mp h
  rw [← resolving_of_settle hsettle, ← resolving_of_tearDown htear]
  split
  · rfl
  · rfl

theorem reserved_of_resolveWithin (h : resolveWithin mode bound case r = .ok v r') :
    Reserved r r' := by
  induction bound generalizing case r v r' with
  | zero => exact absurd h throw_eq_ok
  | succ bound ih =>
    rcases hresult : r.tree.result? case with - | w
    · rcases hfirst : r.resolving.contains case with - | -
      · rw [resolveWithin_of_first hresult hfirst] at h
        obtain ⟨state, r₁, hall, h⟩ := bind_eq_ok.mp h
        have hopened : Reserved (r.opened case) r₁ := reserved_of_resolveAll ih hall
        have hfinish : ∀ {blocked}, finish mode case blocked r₁ = .ok v r' → Reserved r r' := by
          intro blocked h
          obtain ⟨s, rfl, -, hs⟩ := concluded_of_finish h
          exact hopened.closed hfirst (resolving_of_finish h) fun x => hs.rework.others
        rcases state with w | w | -
        · -- the run was ended on the way, and the case is only taken off the list
          obtain ⟨_, _, hdrop, h⟩ := bind_eq_ok.mp h
          obtain ⟨-, rfl⟩ := pure_eq_ok.mp h
          obtain rfl := modify_eq_ok.mp hdrop
          exact hopened.closed hfirst rfl fun _ _ => rfl
        · exact hfinish h
        · exact hfinish h
      · rw [resolveWithin_of_circular hresult hfirst] at h
        exact absurd h violate_eq_ok
    · rw [resolveWithin_of_resolved hresult] at h
      cases h
      exact .refl r

theorem reserved_of_resolveEach {leaves : List ObjectId} {u : Unit}
    (h : resolveEach mode leaves r = .ok u r') : Reserved r r' := by
  induction leaves generalizing r with
  | nil =>
    obtain ⟨-, rfl⟩ := pure_eq_ok.mp h
    exact .refl r
  | cons leaf leaves ih =>
    rcases hover : r.isOver with - | -
    · rw [resolveEach_of_goes hover] at h
      obtain ⟨v, r₁, hleaf, h⟩ := bind_eq_ok.mp h
      exact .trans (reserved_of_resolveWithin hleaf) (ih h)
    · rw [resolveEach_of_over hover] at h
      cases h
      exact .refl _

/-! ### Runs that are under way -/

/-- A run is under way: it goes on, and the cases being resolved are different and unresolved. -/
structure Ongoing (mode : Mode) (t : Tree) (e : Engine) (r : Run) : Prop where
  goes : r.isOver = false
  progress : ∃ ss, Progress mode (start t e) ss r
  nodup : r.resolving.Nodup
  unresolved : ∀ x ∈ r.resolving, r.tree.result? x = none

/-- The run is under way as before, with the same cases being resolved. -/
def Stays (mode : Mode) (t : Tree) (e : Engine) (r r' : Run) : Prop :=
  Ongoing mode t e r' ∧ r'.resolving = r.resolving

namespace Ongoing

theorem «extends» (h : Ongoing mode t e r) : t.Extends r.tree := by
  obtain ⟨ss, hprogress⟩ := h.progress
  exact hprogress.extends

theorem idle (h : Ongoing mode t e r) (hidle : e.context = none) : r.engine.context = none := by
  obtain ⟨ss, hprogress⟩ := h.progress
  exact Engine.idle_of_isActive hprogress.steps.active hidle

/-- A case without a result has not been touched. -/
theorem unrun (h : Ongoing mode t e r) (ht : t.Sound) {c : ObjectId}
    (hnone : r.tree.result? c = none) (hc : (t.case? c).isSome) :
    ∃ data, r.tree.case? c = some data ∧ data.Unrun := by
  obtain ⟨ss, hprogress⟩ := h.progress
  have hnot : c ∉ ss.map Settlement.case := by
    intro hmem
    obtain ⟨s, hs, rfl⟩ := List.mem_map.mp hmem
    exact absurd (hnone.symm.trans (hprogress.result?_of_mem hs)) (by simp)
  obtain ⟨data, hdata⟩ := Option.isSome_iff_exists.mp hc
  exact ⟨data, (hprogress.case?_of_not_mem hnot).trans hdata, ht.unrun hdata⟩

theorem opened (h : Ongoing mode t e r) (hnone : r.tree.result? case = none)
    (hfirst : r.resolving.contains case = false) : Ongoing mode t e (r.opened case) := by
  obtain ⟨ss, hprogress⟩ := h.progress
  have hnew : case ∉ r.resolving := by simpa using hfirst
  refine ⟨h.goes, ⟨_, hprogress.trans (.idle r (case :: r.resolving))⟩,
    List.nodup_cons.mpr ⟨hnew, h.nodup⟩, fun x hx => ?_⟩
  rcases List.mem_cons.mp hx with rfl | hx
  · exact hnone
  · exact h.unresolved x hx

/-- Settling cases other than those being resolved keeps a run under way. -/
theorem stays {ss : List Settlement} (h : Ongoing mode t e r) (hgoes : r'.isOver = false)
    (hprogress : Progress mode r ss r') (hreserved : Reserved r r') : Stays mode t e r r' := by
  obtain ⟨ss₀, hstart⟩ := h.progress
  refine ⟨⟨hgoes, ⟨_, hstart.trans hprogress⟩, hreserved.resolving ▸ h.nodup, fun x hx => ?_⟩,
    hreserved.resolving⟩
  rw [hreserved.resolving] at hx
  rw [Tree.result?, hreserved.untouched x hx]
  exact h.unresolved x hx

end Ongoing

section Dependencies

variable {resolve : ObjectId → Act Verdict} {leaves dependencies : List ObjectId}
  (hspec : Resolves mode resolve) (hresolve : ∀ {c r v r'}, resolve c r = .ok v r' → Reserved r r')

include hspec hresolve

theorem Among.stays (hplace : Ongoing mode t e r) (h : Among resolve leaves r l r') :
    Stays mode t e r r' := by
  induction h with
  | here => exact ⟨hplace, rfl⟩
  | later hleaf hgoes _ ih =>
    obtain ⟨ss, hprogress, -⟩ := hspec hplace.goes hleaf
    have hstays := hplace.stays hgoes hprogress (hresolve hleaf)
    have hlater := ih hstays.1
    exact ⟨hlater.1, hlater.2.trans hstays.2⟩

theorem Reaches.stays (hplace : Ongoing mode t e r)
    (h : Reaches resolve case dependencies r d r') : Stays mode t e r r' := by
  induction h with
  | here => exact ⟨hplace, rfl⟩
  | later _ hd hgoes _ ih =>
    obtain ⟨ss, hprogress, -⟩ := resolveDependency_spec hspec hplace.goes hd
    have hstays := hplace.stays hgoes hprogress (reserved_of_resolveDependency hresolve hd)
    have hlater := ih hstays.1
    exact ⟨hlater.1, hlater.2.trans hstays.2⟩

end Dependencies

/-! ### What the scheduler is asked for -/

/-- In a run under way the scheduler is asked for a case of the tree, as are those being resolved,
and the bound suffices for the cases that are left. -/
structure Standing (mode : Mode) (t : Tree) (e : Engine) (bound : Nat) (case : ObjectId) (r : Run) :
    Prop extends Ongoing mode t e r where
  cases : ∀ x ∈ case :: r.resolving, (t.case? x).isSome = true
  room : t.size + 1 ≤ r.resolving.length + bound

/-- Different cases of the tree are no more than its objects. -/
theorem length_le_size {ids : List ObjectId} (hnodup : ids.Nodup) (hids : ∀ x ∈ ids, x < t.size) :
    ids.length ≤ t.size := by
  have hrange := (hnodup.subperm fun x hx => List.mem_range.mpr (hids x hx)).length_le
  rwa [List.length_range] at hrange

namespace Standing

/-- The bound is never met. -/
theorem bound_ne_zero (h : Standing mode t e bound case r) : bound ≠ 0 := by
  rintro rfl
  -- more cases than there are objects would have to be in progress
  have hlength := length_le_size h.nodup fun x hx =>
    Tree.lt_size_of_case? (h.cases x (List.mem_cons_of_mem _ hx))
  have hroom := h.room
  omega

/-- The case waits for what the scheduler is asked for one level down. -/
theorem reached (ht : t.Sound) (h : Standing mode t e (bound + 1) case r)
    (hnone : r.tree.result? case = none) (hfirst : r.resolving.contains case = false)
    (hd : Reaches (resolveWithin mode bound) case (r.tree.dependencies case) (r.opened case) d r₁)
    (hsibling : r₁.tree.Sibling case d)
    (hl : Among (resolveWithin mode bound) (r₁.tree.awaited d) r₁ l r₂) :
    Stays mode t e (r.opened case) r₂ ∧ d ∈ t.dependencies case ∧ l ∈ t.leaves d := by
  have hspec : Resolves mode (resolveWithin mode bound) := resolveWithin_spec mode bound
  have hstays := hd.stays hspec reserved_of_resolveWithin (h.opened hnone hfirst)
  have hstays' := hl.stays hspec reserved_of_resolveWithin hstays.1
  have hext := hstays.1.extends
  refine ⟨⟨hstays'.1, hstays'.2.trans hstays.2⟩, ?_, ?_⟩
  · rw [← Tree.dependencies_eq_of_static h.extends.static]
    exact hd.mem
  · rw [← Tree.awaited_eq_leaves ht.forest (hext.sibling.mp hsibling).1, ← hext.awaited]
    exact hl.mem

/-- One level down the same is true of the cases that something depends on. -/
theorem below (ht : t.Sound) (h : Standing mode t e (bound + 1) case r)
    (hnone : r.tree.result? case = none) (hfirst : r.resolving.contains case = false)
    (hd : Reaches (resolveWithin mode bound) case (r.tree.dependencies case) (r.opened case) d r₁)
    (hsibling : r₁.tree.Sibling case d)
    (hl : Among (resolveWithin mode bound) (r₁.tree.awaited d) r₁ l r₂) :
    Standing mode t e bound l r₂ := by
  obtain ⟨⟨hplace, hsame⟩, -, hleaf⟩ := h.reached ht hnone hfirst hd hsibling hl
  have hresolving : r₂.resolving = case :: r.resolving := hsame
  refine ⟨hplace, fun x hx => ?_, ?_⟩
  · rw [hresolving] at hx
    rcases List.mem_cons.mp hx with rfl | hx
    · exact (ht.forest.mem_leaves.mp hleaf).1
    · exact h.cases x hx
  · -- one more case is in progress, and one level less is left
    have hroom := h.room
    rw [hresolving, List.length_cons]
    omega

/-- So it is wherever the scheduler comes. -/
theorem meets (ht : t.Sound) (h : Standing mode t e bound case r)
    (hmeets : Meets mode bound case r bound' c r') : Standing mode t e bound' c r' := by
  induction hmeets with
  | here => exact h
  | nested hnone hfirst hd hsibling hl _ ih => exact ih (h.below ht hnone hfirst hd hsibling hl)

/-- When it is the turn of a case, the run is still under way, and the case is one of those being
resolved. -/
theorem turn (ht : t.Sound) (h : Standing mode t e bound case r)
    (hturn : Turn mode bound case r c blocked r') :
    Ongoing mode t e r' ∧ c ∈ r'.resolving ∧ ∀ x ∈ r'.resolving, (t.case? x).isSome = true := by
  obtain ⟨bound', r₁, state, hmeets, hnone, hfirst, hready, hgoes, -⟩ := hturn.meets
  have hspec : Resolves mode (resolveWithin mode bound') := resolveWithin_spec mode bound'
  have hplace := h.meets ht hmeets
  have hopened := hplace.opened hnone hfirst
  obtain ⟨ss, hprogress, -, hmet, -⟩ := resolveAll_spec hspec (by simp) hopened.goes hready
  have hstays := hopened.stays (hmet hgoes).1 hprogress
    (reserved_of_resolveAll reserved_of_resolveWithin hready)
  rw [hstays.2]
  exact ⟨hstays.1, List.mem_cons_self .., hplace.cases⟩

end Standing

/-! ### Why the scheduler stops -/

section Explained

variable {resolve : ObjectId → Act Verdict} {leaves dependencies : List ObjectId} {B : Stop → Prop}

theorem explained_resolveLeaves {outcome : Verdict}
    (h : ∀ l r', Among resolve leaves r l r' → Explained B (fun _ _ => True) (resolve l r')) :
    Explained B (fun _ _ => True) (resolveLeaves resolve outcome leaves r) := by
  induction leaves generalizing r outcome with
  | nil => exact trivial
  | cons leaf leaves ih =>
    refine explained_bind (h leaf r .here) fun v r₁ hleaf _ => ?_
    -- a run that is over leaves the other cases alone
    rcases hover : r₁.isOver with - | -
    · rw [get_bind_of_goes hover]
      exact ih fun l r' hl => h l r' (.later hleaf hover hl)
    · rw [get_bind_of_over hover]
      exact trivial

theorem explained_resolveDependency
    (h : ∀ l r', Among resolve (r.tree.awaited d) r l r' →
      Explained B (fun _ _ => True) (resolve l r')) :
    Explained B (fun _ _ => True) (resolveDependency resolve d r) := by
  rw [resolveDependency_eq]
  unfold Tree.awaited at h
  split
  · rename_i hsuite
    rw [if_pos hsuite] at h
    exact explained_resolveLeaves h
  · rename_i hsuite
    rw [if_neg hsuite] at h
    exact h d r .here

theorem explained_resolveAll {state : Prerequisites}
    (hstranger : ∀ d r', Reaches resolve case dependencies r d r' → ¬ r'.tree.Sibling case d →
      B (.unwound (.violation (r'.tree.objection case d))))
    (hreached : ∀ d r', Reaches resolve case dependencies r d r' → r'.tree.Sibling case d →
      Explained B (fun _ _ => True) (resolveDependency resolve d r')) :
    Explained B (fun _ _ => True) (resolveAll resolve case state dependencies r) := by
  induction dependencies generalizing r state with
  | nil => exact trivial
  | cons d dependencies ih =>
    by_cases hsibling : r.tree.Sibling case d
    · rw [resolveAll_of_sibling hsibling]
      refine explained_bind (hreached d r .here hsibling) fun v r₁ hd _ => ?_
      rcases hover : r₁.isOver with - | -
      · rw [get_bind_of_goes hover]
        refine ih (fun x r' hx => ?_) fun x r' hx => ?_
        · exact hstranger x r' (.later hsibling hd hover hx)
        · exact hreached x r' (.later hsibling hd hover hx)
      · rw [get_bind_of_over hover]
        exact trivial
    · rw [resolveAll_of_stranger hsibling]
      exact hstranger d r .here hsibling

end Explained

theorem explained_resolveEach {leaves : List ObjectId} {B : Stop → Prop}
    (h : ∀ l r', Among (resolve mode) leaves r l r' →
      Explained B (fun _ _ => True) (resolve mode l r')) :
    Explained B (fun _ _ => True) (resolveEach mode leaves r) := by
  induction leaves generalizing r with
  | nil => exact trivial
  | cons leaf leaves ih =>
    rcases hover : r.isOver with - | -
    · rw [resolveEach_of_goes hover]
      refine explained_bind (h leaf r .here) fun v r₁ hleaf _ => ?_
      rcases hover₁ : r₁.isOver with - | -
      · exact ih fun l r' hl => h l r' (.later hleaf hover₁ hl)
      · rw [resolveEach_of_over hover₁]
        exact trivial
    · rw [resolveEach_of_over hover]
      exact trivial

/-- While a case is being resolved, no deeper than the bound allows, the run stops for one of these
reasons. -/
inductive Halts (mode : Mode) (bound : Nat) (case : ObjectId) (r : Run) : Stop → Prop
  | circular {bound' : Nat} {c : ObjectId} {r' : Run} (h : Meets mode bound case r (bound' + 1) c r')
      (hnone : r'.tree.result? c = none) (hagain : r'.resolving.contains c = true) :
      Halts mode bound case r (.unwound (.violation (.circular (r'.tree.path c))))
  | stranger {bound' : Nat} {c d : ObjectId} {r₁ r₂ : Run}
      (h : Meets mode bound case r (bound' + 1) c r₁) (hnone : r₁.tree.result? c = none)
      (hfirst : r₁.resolving.contains c = false)
      (hd : Reaches (resolveWithin mode bound') c (r₁.tree.dependencies c) (r₁.opened c) d r₂)
      (hstranger : ¬ r₂.tree.Sibling c d) :
      Halts mode bound case r (.unwound (.violation (r₂.tree.objection c d)))
  | stalled {c : ObjectId} {blocked : Option Verdict} {r' : Run} {stop : Stop}
      (h : Turn mode bound case r c blocked r') (hstalls : Stalls mode c blocked r' stop) :
      Halts mode bound case r stop

theorem Halts.nested {stop : Stop} (hnone : r.tree.result? case = none)
    (hfirst : r.resolving.contains case = false)
    (hd : Reaches (resolveWithin mode bound) case (r.tree.dependencies case) (r.opened case) d r₁)
    (hsibling : r₁.tree.Sibling case d)
    (hl : Among (resolveWithin mode bound) (r₁.tree.awaited d) r₁ l r₂)
    (h : Halts mode bound l r₂ stop) : Halts mode (bound + 1) case r stop := by
  cases h with
  | circular h hnone' hagain => exact .circular (.nested hnone hfirst hd hsibling hl h) hnone' hagain
  | stranger h hnone' hfirst' hd' hstranger =>
    exact .stranger (.nested hnone hfirst hd hsibling hl h) hnone' hfirst' hd' hstranger
  | stalled h hstalls => exact .stalled (.nested hnone hfirst hd hsibling hl h) hstalls

theorem explained_resolveWithin (ht : t.Sound) (h : Standing mode t e bound case r) :
    Explained (Halts mode bound case r) (fun _ _ => True) (resolveWithin mode bound case r) := by
  induction bound generalizing case r with
  | zero => exact absurd rfl h.bound_ne_zero
  | succ bound ih =>
    rcases hresult : r.tree.result? case with - | v
    · rcases hfirst : r.resolving.contains case with - | -
      · rw [resolveWithin_of_first hresult hfirst]
        refine explained_bind (explained_resolveAll ?_ ?_) fun state r₁ hall _ => ?_
        · exact fun d r₁ => .stranger .here hresult hfirst
        · intro d r₁ hd hsibling
          refine explained_resolveDependency fun l r₂ hl => ?_
          refine (ih (h.below ht hresult hfirst hd hsibling hl)).mono ?_ fun _ _ => id
          exact fun stop => .nested hresult hfirst hd hsibling hl
        · by_cases hgoes : ∀ v, state ≠ .over v
          · -- nothing has touched the case meanwhile, so that it can be finished
            have hturn : Turn mode (bound + 1) case r case state.blockade r₁ :=
              .own hresult hfirst hall hgoes
            obtain ⟨hplace, hmem, hcases⟩ := h.turn ht hturn
            obtain ⟨data, hdata, hunrun⟩ :=
              hplace.unrun ht (hplace.unresolved case hmem) (hcases case hmem)
            rw [followUp_of_goes hgoes]
            exact (explained_finish hdata hunrun).mono (fun stop => .stalled hturn) fun _ _ => id
          · obtain ⟨v, rfl⟩ : ∃ v, state = .over v := by simpa using hgoes
            exact trivial
      · rw [resolveWithin_of_circular hresult hfirst]
        exact .circular .here hresult hfirst
    · rw [resolveWithin_of_resolved hresult]
      exact trivial

/-! ### Whole runs -/

/-- The cases below a root are resolved one after another, with nothing else being resolved. -/
theorem Ongoing.standing {leaves : List ObjectId} (h : Ongoing mode t e r) (hnone : r.resolving = [])
    (hleaves : ∀ l ∈ leaves, (t.case? l).isSome = true) (hl : Among (resolve mode) leaves r l r') :
    Standing mode t e (r'.tree.size + 1) l r' := by
  have hspec : Resolves mode (resolve mode) := resolve_spec mode
  obtain ⟨hplace, hsame⟩ := hl.stays hspec reserved_of_resolveWithin h
  rw [hnone] at hsame
  refine ⟨hplace, fun x hx => ?_, ?_⟩
  · rw [hsame, List.mem_singleton] at hx
    exact hx ▸ hleaves l hl.mem
  · rw [hsame, hplace.extends.size_eq, List.length_nil]
    omega

theorem ongoing_start (mode : Mode) (t : Tree) (e : Engine) : Ongoing mode t e (start t e) :=
  ⟨rfl, ⟨[], .refl _⟩, List.nodup_nil, fun _ hx => nomatch hx⟩

theorem standing_of_among (ht : t.Sound)
    (h : Among (resolve mode) (t.leaves root) (start t (announced t root e)) l r) :
    Standing mode t (announced t root e) (r.tree.size + 1) l r :=
  (ongoing_start mode t _).standing rfl (fun _ hl => (ht.forest.mem_leaves.mp hl).1) h

/-- A run stops for one of these reasons. -/
inductive Halted (mode : Mode) (t : Tree) (root : ObjectId) (e : Engine) : Stop → Prop
  | unknown (hroot : t.node? root = none) :
      Halted mode t root e (.unwound (.violation (.unknownObject root)))
  | leaf {l : ObjectId} {r : Run} {stop : Stop}
      (hl : Among (resolve mode) (t.leaves root) (start t (announced t root e)) l r)
      (h : Halts mode (r.tree.size + 1) l r stop) : Halted mode t root e stop

theorem explained_suite (ht : t.Sound) (mode : Mode) (root : ObjectId) (e : Engine) :
    Explained (Halted mode t root e) (fun _ _ => True) (suite mode root (start t e)) := by
  rcases hroot : t.node? root with - | n
  · have hunknown : suite mode root (start t e) = violate (.unknownObject root) (start t e) := by
      refine (bind_of_ok (get_eq_ok.mpr ⟨rfl, rfl⟩)).trans ?_
      simp only [start, hroot]
    rw [hunknown]
    exact .unknown hroot
  · have hroot' : (t.node? root).isSome = true := by
      rw [hroot]
      rfl
    rcases hlist : mode.listOnly with - | -
    · rw [suite_eq hlist hroot']
      refine explained_resolveEach fun l r hl => ?_
      refine (explained_resolveWithin ht (standing_of_among ht hl)).mono ?_ fun _ _ => id
      exact fun stop => .leaf hl
    · exact explained_of_ok (suite_listing ht hroot' hlist e) trivial

end Run

end TestEngine
