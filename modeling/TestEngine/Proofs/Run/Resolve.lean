/-
TestEngine/Proofs/Run/Resolve.lean

The scheduler makes progress.  Every part of it, from the resolution of a single case to
a whole run, settles cases one after another and does nothing else (`Run.Progress`), and
unless the run has been ended early

* a case that was asked for has its result, and it is the one that was given;
* a dependency that was asked for has been decided, and its outcome was given.

What is resolved on the way is bounded by closed sets of cases (`Tree.Closed`): where a
set holds all that its members can make the scheduler resolve, nothing outside it is
settled.
-/
import TestEngine.Proofs.Run.Progress

namespace TestEngine

namespace Tree

/-- A set of cases that holds all that its members wait for. -/
def Closed (t : Tree) (K : ObjectId → Prop) : Prop :=
  ∀ c, K c → ∀ d ∈ t.dependencies c, t.Sibling c d → ∀ l ∈ t.awaited d, K l

theorem Extends.sibling {t t' : Tree} (h : Extends t t') {c d : ObjectId} :
    t'.Sibling c d ↔ t.Sibling c d := by
  unfold Sibling
  rw [name?_eq_of_static h.static, parent?_eq_of_static h.static, parent?_eq_of_static h.static]

theorem Extends.closed {t t' : Tree} (h : Extends t t') {K : ObjectId → Prop} (hK : t.Closed K) :
    t'.Closed K := by
  intro c hc d hd hsibling l hl
  rw [dependencies_eq_of_static h.static] at hd
  rw [h.awaited] at hl
  exact hK c hc d hd (h.sibling.mp hsibling) l hl

theorem firstFlaw_cons {t : Tree} {leaf : ObjectId} {leaves : List ObjectId} {v : Verdict}
    (h : t.result? leaf = some v) :
    t.firstFlaw (leaf :: leaves) = if v.isPass then t.firstFlaw leaves else some v := by
  unfold firstFlaw
  rw [List.filterMap_cons_some h, List.find?_cons]
  rcases v.isPass with - | - <;> rfl

end Tree

namespace Run

variable {mode : Mode} {r r' : Run}

/-- All that is settled is in every closed set that holds the cases asked for. -/
def Confined (t : Tree) (cases : List ObjectId) (ss : List Settlement) : Prop :=
  ∀ K, t.Closed K → (∀ c ∈ cases, K c) → ∀ s ∈ ss, K s.case

theorem confined_nil (t : Tree) (cases : List ObjectId) : Confined t cases [] :=
  fun _ _ _ _ hs => absurd hs (by simp)

theorem Confined.append {t t' : Tree} {cases cases' : List ObjectId} {ss ss' : List Settlement}
    (h : Confined t cases ss) (ht : t.Extends t') (h' : Confined t' cases' ss') :
    Confined t (cases ++ cases') (ss ++ ss') := by
  intro K hK hcases s hs
  rcases List.mem_append.mp hs with hs | hs
  · exact h K hK (fun c hc => hcases c (List.mem_append_left _ hc)) s hs
  · exact h' K (ht.closed hK) (fun c hc => hcases c (List.mem_append_right _ hc)) s hs

/-- What the resolution of a case does in a run that goes on. -/
def Resolves (mode : Mode) (resolve : ObjectId → Act Verdict) : Prop :=
  ∀ {case : ObjectId} {r r' : Run} {v : Verdict}, r.isOver = false → resolve case r = .ok v r' →
    ∃ ss, Progress mode r ss r' ∧ (r'.isOver = false → r'.tree.result? case = some v) ∧
      Confined r.tree [case] ss

section Dependencies

variable {resolve : ObjectId → Act Verdict} (hres : Resolves mode resolve)

include hres

theorem resolveLeaves_spec {outcome v : Verdict} {leaves : List ObjectId}
    (hgoes : r.isOver = false) (h : resolveLeaves resolve outcome leaves r = .ok v r') :
    ∃ ss, Progress mode r ss r' ∧
      (r'.isOver = false → (∀ l ∈ leaves, (r'.tree.result? l).isSome = true) ∧
        v = if outcome.isPass then (r'.tree.firstFlaw leaves).getD outcome else outcome) ∧
      Confined r.tree leaves ss := by
  induction leaves generalizing outcome r with
  | nil =>
    obtain ⟨rfl, rfl⟩ := pure_eq_ok.mp h
    refine ⟨[], .refl r, fun _ => ⟨fun l hl => absurd hl (by simp), ?_⟩, confined_nil _ _⟩
    simp [Tree.firstFlaw]
  | cons leaf leaves ih =>
    unfold resolveLeaves at h
    obtain ⟨w, r₁, hleaf, h⟩ := bind_eq_ok.mp h
    obtain ⟨ss, hprogress, hresult, hconfined⟩ := hres hgoes hleaf
    -- an ended run leaves the other leaves alone, and then nothing is claimed of them
    rcases hover : r₁.isOver with - | -
    · rw [get_bind_of_goes hover] at h
      obtain ⟨ss', hprogress', hrest, hconfined'⟩ := ih hover h
      refine ⟨ss ++ ss', hprogress.trans hprogress', fun hend => ?_,
        hconfined.append hprogress.extends hconfined'⟩
      obtain ⟨hresolved, hv⟩ := hrest hend
      have hw : r'.tree.result? leaf = some w := hprogress'.extends.results (hresult hover)
      refine ⟨fun l hl => ?_, ?_⟩
      · rcases List.mem_cons.mp hl with rfl | hl
        · rw [hw]
          rfl
        · exact hresolved l hl
      · -- the first flaw stays what it was once there is one
        rw [hv, Tree.firstFlaw_cons hw]
        rcases ho : outcome.isPass with - | - <;> rcases hw : w.isPass with - | - <;> simp [ho, hw]
    · rw [get_bind_of_over hover] at h
      obtain ⟨rfl, rfl⟩ := pure_eq_ok.mp h
      refine ⟨ss, hprogress, fun hend => absurd hover (by simp [hend]), ?_⟩
      intro K hK hcases
      exact hconfined K hK fun c hc =>
        hcases c (List.mem_cons.mpr (.inl (List.mem_singleton.mp hc)))

theorem resolveDependency_spec {d : ObjectId} {v : Verdict} (hgoes : r.isOver = false)
    (h : resolveDependency resolve d r = .ok v r') :
    ∃ ss, Progress mode r ss r' ∧
      (r'.isOver = false → r'.tree.Decided d ∧ v = r'.tree.outcome d) ∧
      Confined r.tree (r.tree.awaited d) ss := by
  rw [resolveDependency_eq] at h
  unfold Tree.Decided Tree.outcome Tree.awaited
  rcases hsuite : r.tree.kind? d == some .suite with - | -
  · rw [hsuite, if_neg (by simp)] at h
    obtain ⟨ss, hprogress, hresult, hconfined⟩ := hres hgoes h
    refine ⟨ss, hprogress, fun hend => ?_, ?_⟩
    · rw [Tree.kind?_eq_of_static hprogress.extends.static, hsuite, if_neg (by simp),
        if_neg (by simp), hresult hend]
      refine ⟨fun l hl => ?_, rfl⟩
      rw [List.mem_singleton.mp hl, hresult hend]
      rfl
    · rw [if_neg (by simp)]
      exact hconfined
  · rw [hsuite, if_pos rfl] at h
    obtain ⟨ss, hprogress, hresult, hconfined⟩ := resolveLeaves_spec hres hgoes h
    refine ⟨ss, hprogress, fun hend => ?_, ?_⟩
    · rw [Tree.kind?_eq_of_static hprogress.extends.static, hsuite, if_pos rfl, if_pos rfl,
        Tree.leaves_eq_of_static hprogress.extends.static]
      exact hresult hend
    · rw [if_pos rfl]
      exact hconfined

/-- What is known of a case after some more of its dependencies have been decided. -/
def Prerequisites.after (t : Tree) (dependencies : List ObjectId) : Prerequisites → Prerequisites
  | .met =>
    match t.blocker? dependencies with
    | none => .met
    | some d => .blocked (t.blockade d)
  | state => state

omit hres in
theorem notOver_add {state : Prerequisites} (h : ∀ v, state ≠ .over v) (v : Verdict) (path : Path) :
    ∀ w, state.add v path ≠ .over w := by
  intro w
  rcases state with w' | w' | _
  · exact absurd rfl (h w')
  · simp [Prerequisites.add]
  · simp only [Prerequisites.add]
    split <;> simp

omit hres in
theorem after_add {t : Tree} {state : Prerequisites} (h : ∀ v, state ≠ .over v) {d : ObjectId}
    {dependencies : List ObjectId} :
    (state.add (t.outcome d) (t.path d)).after t dependencies =
      state.after t (d :: dependencies) := by
  rcases state with w' | w' | _
  · exact absurd rfl (h w')
  · rfl
  · unfold Prerequisites.add Prerequisites.after Tree.blocker?
    rw [List.find?_cons]
    rcases hpass : (t.outcome d).isPass with - | -
    · simp [Tree.blockade]
    · simp

theorem resolveAll_spec {case : ObjectId} {state state' : Prerequisites}
    {dependencies : List ObjectId} (hstate : ∀ v, state ≠ .over v) (hgoes : r.isOver = false)
    (h : resolveAll resolve case state dependencies r = .ok state' r') :
    ∃ ss, Progress mode r ss r' ∧
      ((∃ v, state' = .over v) → r'.isOver = true) ∧
      ((∀ v, state' ≠ .over v) → r'.isOver = false ∧ state' = state.after r'.tree dependencies ∧
        ∀ d ∈ dependencies, r'.tree.Decided d ∧ r'.tree.Sibling case d) ∧
      ∀ K, r.tree.Closed K →
        (∀ d ∈ dependencies, r.tree.Sibling case d → ∀ l ∈ r.tree.awaited d, K l) →
          ∀ s ∈ ss, K s.case := by
  induction dependencies generalizing state r with
  | nil =>
    obtain ⟨rfl, rfl⟩ := pure_eq_ok.mp h
    refine ⟨[], .refl r, ?_, fun _ => ⟨hgoes, ?_, fun d hd => absurd hd (by simp)⟩, ?_⟩
    · rintro ⟨v, hv⟩
      exact absurd hv (hstate v)
    · rcases state with _ | _ | _ <;> rfl
    · intro K _ _ s hs
      exact absurd hs (by simp)
  | cons d dependencies ih =>
    obtain ⟨hsibling, w, r₁, hdependency, hrest⟩ := resolveAll_cons_eq_ok h
    obtain ⟨ss, hprogress, hdecided, hconfined⟩ := resolveDependency_spec hres hgoes hdependency
    have hext₁ := hprogress.extends
    rcases hrest with ⟨hover, rfl, rfl⟩ | ⟨hover, h⟩
    · refine ⟨ss, hprogress, fun _ => hover, fun hno => absurd rfl (hno w), ?_⟩
      intro K hK hcases
      exact hconfined K hK (hcases d (List.mem_cons_self ..) hsibling)
    · obtain ⟨hd, rfl⟩ := hdecided hover
      -- the outcome was that of the tree then; decided dependencies keep it to the end
      have hnot := notOver_add hstate (r₁.tree.outcome d) (r.tree.path d)
      obtain ⟨ss', hprogress', hend, hafter, hconfined'⟩ := ih hnot hover h
      have hext := hprogress'.extends
      refine ⟨ss ++ ss', hprogress.trans hprogress', hend, fun hno => ?_, ?_⟩
      · obtain ⟨hlast, rfl, hothers⟩ := hafter hno
        refine ⟨hlast, ?_, fun x hx => ?_⟩
        · rw [← hext.outcome hd, ← Tree.path_eq_of_static (hext₁.trans hext).static]
          exact after_add hstate
        · rcases List.mem_cons.mp hx with rfl | hx
          · exact ⟨hext.decided hd, (hext₁.trans hext).sibling.mpr hsibling⟩
          · exact hothers x hx
      · intro K hK hcases s hs
        rcases List.mem_append.mp hs with hs | hs
        · exact hconfined K hK (hcases d (List.mem_cons_self ..) hsibling) s hs
        · refine hconfined' K (hext₁.closed hK) (fun x hx hx' l hl => ?_) s hs
          rw [hext₁.awaited] at hl
          exact hcases x (List.mem_cons_of_mem _ hx) (hext₁.sibling.mp hx') l hl

end Dependencies

/-! ### Cases -/

theorem blockade_after (t : Tree) (case : ObjectId) :
    (Prerequisites.met.after t (t.dependencies case)).blockade = blockadeOf t case := by
  unfold Prerequisites.after blockadeOf
  rcases t.blocker? (t.dependencies case) with - | d <;> rfl

/-- Once its dependencies are decided, a case is settled. -/
theorem settles_of_finish {case : ObjectId} {state : Prerequisites} {v : Verdict}
    (hgoes : r.isOver = false) (hstate : state = Prerequisites.met.after r.tree (r.tree.dependencies case))
    (hdependencies : ∀ d ∈ r.tree.dependencies case, r.tree.Decided d ∧ r.tree.Sibling case d)
    (h : finish mode case state.blockade r = .ok v r') :
    ∃ s : Settlement, s.case = case ∧ s.verdict = v ∧ Settles mode s r r' := by
  rw [hstate, blockade_after] at h
  obtain ⟨s, rfl, rfl, hs⟩ := concluded_of_finish h
  exact ⟨s, rfl, rfl, hgoes, fun d hd => (hdependencies d hd).1,
    fun d hd => (hdependencies d hd).2, hs⟩

theorem resolveWithin_spec (mode : Mode) (bound : Nat) :
    Resolves mode (resolveWithin mode bound) := by
  induction bound with
  | zero => exact fun _ h => absurd h throw_eq_ok
  | succ bound ih =>
    intro case r r' v hgoes h
    rcases hresult : r.tree.result? case with - | w
    · rcases hcircular : r.resolving.contains case with - | -
      · rw [resolveWithin_of_first hresult hcircular] at h
        obtain ⟨state, r₁, hdependencies, h⟩ := bind_eq_ok.mp h
        have hgoes' : (r.opened case).isOver = false := hgoes
        obtain ⟨ss, hresumed, hover, hmet, hconfined⟩ :=
          resolveAll_spec (fun hgoes h => ih hgoes h) (by simp) hgoes' hdependencies
        -- that the case was being resolved meanwhile makes no difference to what was settled
        have hprogress : Progress mode r ss r₁ := hresumed.resume
        have hext := hprogress.extends
        have hconfined' : Confined r.tree [case] ss := fun K hK hcase =>
          hconfined K hK fun d hd hsibling l hl =>
            hK case (hcase case (List.mem_singleton_self case)) d hd hsibling l hl
        have hfinish : (∀ w, state ≠ .over w) → finish mode case state.blockade r₁ = .ok v r' →
            ∃ ss, Progress mode r ss r' ∧ (r'.isOver = false → r'.tree.result? case = some v) ∧
              Confined r.tree [case] ss := by
          intro hno h
          -- all dependencies are decided now, so this is the moment to settle the case
          have hmet := hmet hno
          rw [← Tree.dependencies_eq_of_static hext.static] at hmet
          obtain ⟨s, rfl, rfl, hs⟩ := settles_of_finish hmet.1 hmet.2.1 hmet.2.2 h
          refine ⟨ss ++ [s], hprogress.trans (.single hs), fun _ => hs.concluded.result, ?_⟩
          intro K hK hcase s' hs'
          rcases List.mem_append.mp hs' with hs' | hs'
          · exact hconfined' K hK hcase s' hs'
          · rw [List.mem_singleton.mp hs']
            exact hcase _ (List.mem_singleton_self _)
        rcases state with w | w | _
        · -- the run was ended on the way, and the case stays unresolved
          obtain ⟨_, _, hdrop, h⟩ := bind_eq_ok.mp h
          obtain rfl := modify_eq_ok.mp hdrop
          obtain ⟨rfl, rfl⟩ := pure_eq_ok.mp h
          refine ⟨ss ++ [], hprogress.trans (.idle r₁ _), fun hend => ?_, ?_⟩
          · have hr₁ := hover ⟨w, rfl⟩
            exact absurd hr₁ (by rw [show r₁.isOver = false from hend]; simp)
          · rw [List.append_nil]
            exact hconfined'
        · exact hfinish (by simp) h
        · exact hfinish (by simp) h
      · rw [resolveWithin_of_circular hresult hcircular] at h
        exact absurd h violate_eq_ok
    · rw [resolveWithin_of_resolved hresult] at h
      cases h
      exact ⟨[], .refl r, fun _ => hresult, confined_nil _ _⟩

/-! ### Whole runs -/

theorem resolve_spec (mode : Mode) : Resolves mode (resolve mode) := by
  intro case r r' v hgoes h
  unfold resolve at h
  simp only [get_bind_eq_ok] at h
  exact resolveWithin_spec mode _ hgoes h

theorem resolveEach_spec {leaves : List ObjectId} {u : Unit}
    (h : resolveEach mode leaves r = .ok u r') :
    ∃ ss, Progress mode r ss r' ∧
      (r'.isOver = false → ∀ l ∈ leaves, (r'.tree.result? l).isSome = true) ∧
      Confined r.tree leaves ss := by
  induction leaves generalizing r with
  | nil =>
    obtain ⟨-, rfl⟩ := pure_eq_ok.mp h
    exact ⟨[], .refl r, fun _ l hl => absurd hl (by simp), confined_nil _ _⟩
  | cons leaf leaves ih =>
    rcases hover : r.isOver with - | -
    · rw [resolveEach_of_goes hover] at h
      obtain ⟨w, r₁, hleaf, h⟩ := bind_eq_ok.mp h
      obtain ⟨ss, hprogress, hresult, hconfined⟩ := resolve_spec mode hover hleaf
      obtain ⟨ss', hprogress', hrest, hconfined'⟩ := ih h
      refine ⟨ss ++ ss', hprogress.trans hprogress', fun hend l hl => ?_,
        hconfined.append hprogress.extends hconfined'⟩
      rcases List.mem_cons.mp hl with rfl | hl
      · rw [hprogress'.extends.results (hresult (hprogress'.isOver hend))]
        rfl
      · exact hrest hend l hl
    · rw [resolveEach_of_over hover] at h
      cases h
      exact ⟨[], .refl _, fun hend => absurd hover (by rw [hend]; simp), confined_nil _ _⟩

end Run

end TestEngine
