/-
TestEngine/Proofs/Run/Order.lean

The order in which a run resolves its cases.  `Tree.PostOrder` is the depth-first traversal of
the dependencies, in post-order: a case comes after all that it depends on, and each case comes
once.  It looks at the declarations only, at no result.

A run that returns without fail-fast finishes the cases in this order, one after another
(`Run.Course`), and it does nothing else.  That a dependency did not pass, or that the selection
leaves a case out, makes no difference to the order.  From the order of the cases follows that of
the lines that they report (`inOrder_of_suite`).
-/
import TestEngine.Proofs.Run.Rejection

namespace TestEngine

open Relation

/-! ### Post-order -/

namespace Tree

variable {t t' : Tree} {seen todo order order' : List ObjectId} {c p : ObjectId}

/-- What has to be resolved before a case: the cases at or below each of its dependencies. -/
def prerequisites (t : Tree) (case : ObjectId) : List ObjectId :=
  (t.dependencies case).flatMap t.leaves

/-- The depth-first traversal of some cases, in post-order, when those of `seen` have been visited:
the cases that are visited by then, each after its prerequisites. -/
inductive PostOrder (t : Tree) : List ObjectId → List ObjectId → List ObjectId → Prop
  | done {seen : List ObjectId} : PostOrder t seen [] []
  | again {seen cases order : List ObjectId} {c : ObjectId} (hseen : c ∈ seen)
      (h : PostOrder t seen cases order) : PostOrder t seen (c :: cases) order
  | visit {seen cases before after : List ObjectId} {c : ObjectId}
      (hbefore : PostOrder t seen (t.prerequisites c) before) (hnew : c ∉ seen ++ before)
      (hafter : PostOrder t (seen ++ before ++ [c]) cases after) :
      PostOrder t seen (c :: cases) (before ++ c :: after)

theorem mem_prerequisites : p ∈ t.prerequisites c ↔ t.Awaits c p := List.mem_flatMap

namespace PostOrder

/-- There is one such order at most. -/
theorem unique (h : PostOrder t seen todo order) (h' : PostOrder t seen todo order') :
    order' = order := by
  induction h generalizing order' with
  | done =>
    cases h'
    rfl
  | again hseen _ ih =>
    cases h' with
    | again _ h' => exact ih h'
    | visit _ hnew _ => exact absurd (List.mem_append_left _ hseen) hnew
  | visit _ hnew _ ihbefore ihafter =>
    cases h' with
    | again hseen _ => exact absurd (List.mem_append_left _ hseen) hnew
    | visit hbefore' _ hafter' =>
      obtain rfl := ihbefore hbefore'
      obtain rfl := ihafter hafter'
      rfl

/-- The order depends on the declarations only. -/
theorem of_static (hstatic : t'.static = t.static) (h : PostOrder t seen todo order) :
    PostOrder t' seen todo order := by
  have hsame : ∀ c, t'.prerequisites c = t.prerequisites c := by
    intro c
    rw [prerequisites, prerequisites, dependencies_eq_of_static hstatic]
    exact List.flatMap_congr fun d _ => leaves_eq_of_static hstatic d
  induction h with
  | done => exact .done
  | again hseen _ ih => exact .again hseen ih
  | visit _ hnew _ ihbefore ihafter => exact .visit (hsame _ ▸ ihbefore) hnew ihafter

theorem append {more : List ObjectId} (h : PostOrder t seen todo order)
    (h' : PostOrder t (seen ++ order) more order') :
    PostOrder t seen (todo ++ more) (order ++ order') := by
  induction h with
  | done =>
    rw [List.append_nil] at h'
    exact h'
  | again hseen _ ih => exact .again hseen (ih h')
  | @visit seen cases before after c hbefore hnew _ _ ihafter =>
    have hrest := ihafter (by simpa using h')
    rw [List.append_assoc, List.cons_append]
    exact .visit hbefore hnew hrest

/-- A case comes after all its prerequisites. -/
theorem mem_of_prerequisite (h : PostOrder t seen todo order) :
    (∀ c ∈ todo, c ∈ seen ++ order) ∧ ∀ {before after c}, order = before ++ c :: after →
      ∀ p ∈ t.prerequisites c, p ∈ seen ++ before := by
  induction h with
  | done => exact ⟨fun c hc => absurd hc (by simp), fun h => absurd h (by simp)⟩
  | again hseen _ ih =>
    refine ⟨fun c hc => ?_, ih.2⟩
    rcases List.mem_cons.mp hc with rfl | hc
    · exact List.mem_append_left _ hseen
    · exact ih.1 c hc
  | @visit seen cases first rest x _ _ _ ihbefore ihafter =>
    refine ⟨fun c hc => ?_, fun {before after c} heq p hp => ?_⟩
    · rcases List.mem_cons.mp hc with rfl | hc
      · simp
      · simpa [or_assoc] using ihafter.1 c hc
    · -- the case is in the first part, or it is the one between the parts, or in the last part
      rcases List.append_eq_append_iff.mp heq with ⟨mid, rfl, hmid⟩ | ⟨mid, rfl, hmid⟩
      · rcases mid with - | ⟨y, mid⟩
        · obtain ⟨rfl, -⟩ := List.cons.inj hmid
          simpa using ihbefore.1 p hp
        · obtain ⟨rfl, rfl⟩ := List.cons.inj hmid
          simpa [or_assoc] using ihafter.2 rfl p hp
      · rcases mid with - | ⟨y, mid⟩
        · obtain ⟨rfl, -⟩ := List.cons.inj hmid
          simpa using ihbefore.1 p hp
        · obtain ⟨rfl, rfl⟩ := List.cons.inj hmid
          exact ihbefore.2 rfl p hp

/-- No case comes twice, and none comes again. -/
theorem nodup (h : PostOrder t seen todo order) : order.Nodup ∧ ∀ c ∈ order, c ∉ seen := by
  induction h with
  | done => exact ⟨List.nodup_nil, by simp⟩
  | again _ _ ih => exact ih
  | @visit seen cases before after x _ hnew _ ihbefore ihafter =>
    rw [List.mem_append, not_or] at hnew
    have hlater : ∀ c ∈ after, c ∉ seen ∧ c ∉ before ∧ c ≠ x := by
      intro c hc
      simpa [not_or] using ihafter.2 c hc
    refine ⟨?_, fun c hc => ?_⟩
    · refine List.nodup_append.mpr ⟨ihbefore.1, List.nodup_cons.mpr ⟨fun hx => ?_, ihafter.1⟩, ?_⟩
      · exact (hlater x hx).2.2 rfl
      · rintro a ha b hb rfl
        rcases List.mem_cons.mp hb with rfl | hb
        · exact hnew.2 ha
        · exact (hlater a hb).2.1 ha
    · rcases List.mem_append.mp hc with hc | hc
      · exact ihbefore.2 c hc
      · rcases List.mem_cons.mp hc with rfl | hc
        · exact hnew.1
        · exact (hlater c hc).1

/-- Without dependencies, the cases are visited as they come. -/
theorem of_independent (hnone : ∀ c ∈ todo, t.prerequisites c = [])
    (hnodup : (seen ++ todo).Nodup) : PostOrder t seen todo todo := by
  induction todo generalizing seen with
  | nil => exact .done
  | cons c todo ih =>
    have hfirst : PostOrder t seen (t.prerequisites c) [] := by
      rw [hnone c (List.mem_cons_self ..)]
      exact .done
    have hnew : c ∉ seen ++ [] := by
      rw [List.append_nil]
      exact fun hc => (List.nodup_append.mp hnodup).2.2 c hc c (List.mem_cons_self ..) rfl
    have hrest : PostOrder t (seen ++ [] ++ [c]) todo todo :=
      ih (fun x hx => hnone x (List.mem_cons_of_mem _ hx)) (by simpa using hnodup)
    exact .visit hfirst hnew hrest

/-- All that a case waits for comes before it, be it through others. -/
theorem mem_of_transGen (h : PostOrder t [] todo order) (hp : TransGen t.Awaits c p) :
    ∀ {before after}, order = before ++ c :: after → p ∈ before := by
  induction hp using TransGen.head_induction_on with
  | single hp =>
    intro before after heq
    exact h.mem_of_prerequisite.2 heq p (mem_prerequisites.mpr hp)
  | head hc _ ih =>
    intro before after heq
    obtain ⟨pre, post, rfl⟩ :=
      List.append_of_mem (h.mem_of_prerequisite.2 heq _ (mem_prerequisites.mpr hc))
    rw [List.append_assoc, List.cons_append] at heq
    exact List.mem_append_left _ (ih heq)

end PostOrder

end Tree

/-! ### The course of a run -/

namespace Run

variable {mode : Mode} {t : Tree} {r r₁ r' : Run} {order order' seen : List ObjectId}

/-- The cases are finished in this order, each when all its dependencies are decided, in a run that
goes on.  Which cases are being resolved meanwhile does not matter. -/
inductive Course (mode : Mode) : Run → List ObjectId → Run → Prop
  | idle (r : Run) (ids : List ObjectId) : Course mode r [] { r with resolving := ids }
  | step {r r₁ r' : Run} {c : ObjectId} {cases : List ObjectId} {v : Verdict}
      (ids : List ObjectId) (hgoes : r.isOver = false)
      (hdecided : ∀ d ∈ r.tree.dependencies c, r.tree.Decided d ∧ r.tree.Sibling c d)
      (hfinish : finish mode c (blockadeOf r.tree c) { r with resolving := ids } = .ok v r₁)
      (hrest : Course mode r₁ cases r') : Course mode r (c :: cases) r'

namespace Course

theorem refl (r : Run) : Course mode r [] r := idle r r.resolving

theorem resume {ids : List ObjectId} (h : Course mode { r with resolving := ids } order r') :
    Course mode r order r' := by
  generalize hr₀ : { r with resolving := ids } = r₀ at h
  cases h with
  | idle _ ids' =>
    rw [← hr₀]
    exact idle r ids'
  | step ids' hgoes hdecided hfinish hrest =>
    subst hr₀
    exact step ids' hgoes hdecided hfinish hrest

theorem trans (h : Course mode r order r₁) (h' : Course mode r₁ order' r') :
    Course mode r (order ++ order') r' := by
  induction h with
  | idle r ids => exact h'.resume
  | step ids hgoes hdecided hfinish _ ih => exact step ids hgoes hdecided hfinish (ih h')

/-- A run that takes its course settles the cases in this order. -/
theorem progress (h : Course mode r order r') :
    ∃ ss, Progress mode r ss r' ∧ ss.map Settlement.case = order := by
  induction h with
  | idle r ids => exact ⟨[], .idle r ids, rfl⟩
  | @step r r₁ r' c cases v ids hgoes hdecided hfinish _ ih =>
    obtain ⟨ss, hprogress, rfl⟩ := ih
    obtain ⟨s, rfl, -, hconcluded⟩ := concluded_of_finish hfinish
    have hs : Settles mode s { r with resolving := ids } r₁ :=
      ⟨hgoes, fun d hd => (hdecided d hd).1, fun d hd => (hdecided d hd).2, hconcluded⟩
    exact ⟨s :: ss, (Progress.step hs hprogress).resume, rfl⟩

end Course

/-! ### The scheduler takes its course -/

/-- A run of the tree goes on, and the cases of `seen` are those that have been resolved. -/
structure Seen (t : Tree) (seen : List ObjectId) (r : Run) : Prop where
  goes : r.isOver = false
  earlier : t.Extends r.tree
  resolved : ∀ c, c ∈ seen ↔ (r.tree.result? c).isSome = true

/-- From one state of a run to the other, the scheduler visits some cases. -/
def Visits (mode : Mode) (t : Tree) (seen todo : List ObjectId) (r r' : Run) : Prop :=
  ∃ order, t.PostOrder seen todo order ∧ Course mode r order r' ∧ Seen t (seen ++ order) r'

theorem Seen.of_course (hfast : mode.failFast = false) (h : Seen t seen r)
    (hcourse : Course mode r order r') : Seen t (seen ++ order) r' := by
  obtain ⟨ss, hprogress, rfl⟩ := hcourse.progress
  refine ⟨(hprogress.isOver_eq hfast).trans h.goes, h.earlier.trans hprogress.extends, fun c => ?_⟩
  rw [List.mem_append, h.resolved]
  constructor
  · rintro (hc | hc)
    · exact hprogress.extends.isSome_result? hc
    · obtain ⟨s, hs, rfl⟩ := List.mem_map.mp hc
      rw [hprogress.result?_of_mem hs]
      rfl
  · intro hc
    rcases hold : r.tree.result? c with - | v
    · obtain ⟨s, hs, rfl⟩ := hprogress.mem_of_result? hold hc
      exact .inr (List.mem_map_of_mem hs)
    · exact .inl rfl

namespace Visits

variable {todo more : List ObjectId}

theorem refl (h : Seen t seen r) : Visits mode t seen [] r r :=
  ⟨[], .done, .refl r, by rwa [List.append_nil]⟩

theorem trans (h : Visits mode t seen todo r r₁)
    (h' : ∀ seen', Seen t seen' r₁ → Visits mode t seen' more r₁ r') :
    Visits mode t seen (todo ++ more) r r' := by
  obtain ⟨order, hpost, hcourse, hseen⟩ := h
  obtain ⟨order', hpost', hcourse', hseen'⟩ := h' _ hseen
  rw [List.append_assoc] at hseen'
  exact ⟨order ++ order', hpost.append hpost', hcourse.trans hcourse', hseen'⟩

end Visits

/-- A way to resolve a case visits it. -/
def Visiting (mode : Mode) (t : Tree) (resolve : ObjectId → Act Verdict) : Prop :=
  ∀ {case : ObjectId} {seen : List ObjectId} {r r' : Run} {v : Verdict}, Seen t seen r →
    resolve case r = .ok v r' → Visits mode t seen [case] r r'

section Scheduler

variable (ht : t.Forest) (hfast : mode.failFast = false) {resolve : ObjectId → Act Verdict}
  (hvisits : Visiting mode t resolve) {case d : ObjectId} {leaves dependencies : List ObjectId}
  {v : Verdict}

include hvisits

theorem visits_resolveLeaves {outcome : Verdict} (h : Seen t seen r)
    (hok : resolveLeaves resolve outcome leaves r = .ok v r') :
    Visits mode t seen leaves r r' := by
  induction leaves generalizing seen outcome r with
  | nil =>
    obtain ⟨rfl, rfl⟩ := pure_eq_ok.mp hok
    exact .refl h
  | cons leaf leaves ih =>
    unfold resolveLeaves at hok
    obtain ⟨w, r₁, hleaf, hok⟩ := bind_eq_ok.mp hok
    have hfirst := hvisits h hleaf
    obtain ⟨_, -, -, hseen⟩ := hfirst
    rw [get_bind_of_goes hseen.goes] at hok
    exact (hvisits h hleaf).trans fun seen' hseen' => ih hseen' hok

include ht

theorem visits_resolveDependency (h : Seen t seen r) (hsibling : t.Sibling case d)
    (hok : resolveDependency resolve d r = .ok v r') :
    Visits mode t seen (t.leaves d) r r' := by
  rw [← Tree.awaited_eq_leaves ht hsibling.1, ← h.earlier.awaited]
  rw [resolveDependency_eq] at hok
  unfold Tree.awaited
  split at hok
  · rename_i hsuite
    rw [if_pos hsuite]
    exact visits_resolveLeaves hvisits h hok
  · rename_i hsuite
    rw [if_neg hsuite]
    exact hvisits h hok

/-- The dependencies are visited in order, whatever their outcomes are. -/
theorem visits_resolveAll {state state' : Prerequisites} (h : Seen t seen r)
    (hok : resolveAll resolve case state dependencies r = .ok state' r') :
    Visits mode t seen (dependencies.flatMap t.leaves) r r' := by
  induction dependencies generalizing seen state r with
  | nil =>
    obtain ⟨rfl, rfl⟩ := pure_eq_ok.mp hok
    exact .refl h
  | cons d dependencies ih =>
    obtain ⟨hsibling, w, r₁, hdependency, hrest⟩ := resolveAll_cons_eq_ok hok
    have hfirst := visits_resolveDependency ht hvisits h (h.earlier.sibling.mp hsibling) hdependency
    obtain ⟨_, -, -, hseen⟩ := id hfirst
    rw [List.flatMap_cons]
    refine hfirst.trans fun seen' hseen' => ?_
    rcases hrest with ⟨hover, -, -⟩ | ⟨-, hrest⟩
    · exact absurd hover (by rw [hseen.goes]; simp)
    · exact ih hseen' hrest

omit hvisits

include hfast

/-- A case is visited after its dependencies, unless it has been visited before. -/
theorem visiting_resolveWithin (bound : Nat) : Visiting mode t (resolveWithin mode bound) := by
  induction bound with
  | zero => exact fun _ hok => absurd hok throw_eq_ok
  | succ bound ih =>
    intro case seen r r' v h hok
    rcases hresult : r.tree.result? case with - | w
    · rcases hcircular : r.resolving.contains case with - | -
      · rw [resolveWithin_of_first hresult hcircular] at hok
        obtain ⟨state, r₁, hall, hok⟩ := bind_eq_ok.mp hok
        have hopened : Seen t seen (r.opened case) := ⟨h.goes, h.earlier, h.resolved⟩
        obtain ⟨before, hbefore, hcourse, hseen⟩ := visits_resolveAll ht ih hopened hall
        obtain ⟨ss, hprogress, hover, hmet, -⟩ := resolveAll_spec
          (fun hgoes hok => resolveWithin_spec mode bound hgoes hok) (by simp) hopened.goes hall
        have hnot : ∀ w, state ≠ .over w := by
          rintro w rfl
          exact absurd (hover ⟨w, rfl⟩) (by rw [hseen.goes]; simp)
        obtain ⟨-, hstate, hdependencies⟩ := hmet hnot
        -- the accumulated state is what the tree says, now that all dependencies are decided
        have hsame : r₁.tree.dependencies case = r.tree.dependencies case :=
          Tree.dependencies_eq_of_static hprogress.extends.static case
        rw [followUp_of_goes hnot, hstate, ← hsame, blockade_after] at hok
        rw [← hsame] at hdependencies
        have hcase : t.prerequisites case = (r.tree.dependencies case).flatMap t.leaves := by
          rw [Tree.prerequisites, Tree.dependencies_eq_of_static h.earlier.static]
        obtain ⟨s, rfl, -, hconcluded⟩ := concluded_of_finish hok
        have hnew : s.case ∉ seen ++ before := by
          rw [hseen.resolved, hconcluded.unresolved]
          simp
        have hstep : Course mode r₁ [s.case] r' :=
          .step r₁.resolving hseen.goes hdependencies hok (.refl r')
        have hvisited := hseen.of_course hfast hstep
        rw [List.append_assoc] at hvisited
        exact ⟨before ++ [s.case], .visit (hcase ▸ hbefore) hnew .done, hcourse.resume.trans hstep,
          hvisited⟩
      · rw [resolveWithin_of_circular hresult hcircular] at hok
        exact absurd hok violate_eq_ok
    · rw [resolveWithin_of_resolved hresult] at hok
      cases hok
      have hseen : case ∈ seen := (h.resolved case).mpr (by rw [hresult]; rfl)
      exact ⟨[], .again hseen .done, .refl r, by rwa [List.append_nil]⟩

theorem visits_resolveEach {u : Unit} (h : Seen t seen r)
    (hok : resolveEach mode leaves r = .ok u r') : Visits mode t seen leaves r r' := by
  induction leaves generalizing seen r with
  | nil =>
    obtain ⟨-, rfl⟩ := pure_eq_ok.mp hok
    exact .refl h
  | cons leaf leaves ih =>
    rw [resolveEach_of_goes h.goes] at hok
    obtain ⟨v, r₁, hleaf, hok⟩ := bind_eq_ok.mp hok
    have hfirst : Visits mode t seen [leaf] r r₁ := visiting_resolveWithin ht hfast _ h hleaf
    exact hfirst.trans fun seen' hseen' => ih hseen' hok

end Scheduler

/-- A run of a built tree takes its course: it finishes the cases in post-order. -/
theorem course_of_suite {root : ObjectId} {e : Engine} {u : Unit} (ht : t.Sound)
    (hlist : mode.listOnly = false) (hfast : mode.failFast = false)
    (h : suite mode root (start t e) = .ok u r') : ∃ order,
      t.PostOrder [] (t.leaves root) order ∧
        Course mode (start t (announced t root e)) order r' := by
  obtain ⟨hroot, -⟩ := suite_spec hlist h
  rw [suite_eq hlist hroot] at h
  have hstart : Seen t [] (start t (announced t root e)) := by
    refine ⟨rfl, .refl t, fun c => ?_⟩
    rw [show (start t (announced t root e)).tree.result? c = none from ht.result?_eq_none c]
    simp
  obtain ⟨order, hpost, hcourse, -⟩ := visits_resolveEach ht.forest hfast hstart h
  exact ⟨order, hpost, hcourse⟩

/-! ### The order of the report -/

/-- Where a list that is put together from parts is split at an entry, one of the parts is. -/
theorem exists_of_flatMap_eq {α β : Type} {f : α → List β} {l : List α} {before after : List β}
    {x : β} (h : l.flatMap f = before ++ x :: after) : ∃ pre a post front back,
      l = pre ++ a :: post ∧ f a = front ++ x :: back ∧ before = pre.flatMap f ++ front ∧
        after = back ++ post.flatMap f := by
  induction l generalizing before with
  | nil => exact absurd h (by simp)
  | cons a l ih =>
    rw [List.flatMap_cons] at h
    rcases List.append_eq_append_iff.mp h with ⟨mid, rfl, hmid⟩ | ⟨mid, hfirst, hmid⟩
    · obtain ⟨pre, b, post, front, back, rfl, hb, rfl, rfl⟩ := ih hmid
      exact ⟨a :: pre, b, post, front, back, rfl, hb, by simp, rfl⟩
    · rcases mid with - | ⟨y, mid⟩
      · have hrest : l.flatMap f = [] ++ x :: after := hmid.symm
        obtain ⟨pre, b, post, front, back, rfl, hb, hpre, rfl⟩ := ih hrest
        refine ⟨a :: pre, b, post, front, back, rfl, hb, ?_, rfl⟩
        rw [List.flatMap_cons, List.append_assoc, ← hpre, hfirst, List.append_nil, List.append_nil]
      · obtain ⟨rfl, rfl⟩ := List.cons.inj hmid
        exact ⟨[], a, l, before, mid, rfl, hfirst, rfl, rfl⟩

/-- A run from the state `e` to the state `e'` of the engine reports the cases in this order. -/
structure InOrder (t : Tree) (root : ObjectId) (e e' : Engine) (order : List ObjectId) : Prop where
  /-- It is the post-order of the cases at or below the root, -/
  postOrder : ∀ order', t.PostOrder [] (t.leaves root) order' ↔ order' = order
  /-- and each case reports all its lines when it comes. -/
  reports : (Engine.reportsSince e e').map (fun x => (x.1, x.2.1)) =
    order.flatMap fun c => (t.reportPaths c).map fun path => (c, path)
  /-- What a case depends on, be it through others, reports all its lines before. -/
  earlier : ∀ c p, TransGen t.Awaits c p → ∀ before line after,
    Engine.reportsSince e e' = before ++ (c, line) :: after →
      p ∈ before.map Prod.fst ∧ p ∉ ((c, line) :: after).map Prod.fst
  /-- Without dependencies, the order is that of the declarations. -/
  declared : (∀ c ∈ t.leaves root, t.dependencies c = []) → order = t.leaves root

/-- A run that returns reports in post-order. -/
theorem inOrder_of_suite (calls : List Tree.Call) (mode : Mode) (root : ObjectId) (e : Engine)
    (r : Run) (hlist : mode.listOnly = false) (hfast : mode.failFast = false)
    (h : suite mode root (start (Tree.ofCalls calls) e) = .ok () r) :
    ∃ order, InOrder (Tree.ofCalls calls) root e r.engine order := by
  have hsound := Tree.sound_ofCalls calls
  generalize Tree.ofCalls calls = t at *
  obtain ⟨order, hpost, hcourse⟩ := course_of_suite hsound hlist hfast h
  obtain ⟨ss, hprogress, rfl⟩ := hcourse.progress
  have hreports := reports_of_suite hprogress
  have hpaths := lines_of_settled hsound hprogress
  have hlines : ∀ s ∈ ss, s.lines ≠ [] := by
    intro s hs
    have hlength := congrArg List.length (hpaths s hs)
    have hcase := isSome_case?_of_settled hprogress _ (List.mem_map_of_mem hs)
    rw [List.length_map, Tree.length_reportPaths hcase] at hlength
    exact List.ne_nil_of_length_pos (hlength ▸ Tree.leafCount_pos hcase)
  refine ⟨_, fun order' => ⟨hpost.unique, fun heq => heq ▸ hpost⟩, ?_, ?_, fun hnone => ?_⟩
  · rw [hreports, List.map_flatMap, List.flatMap_map]
    refine List.flatMap_congr fun s hs => ?_
    rw [← hpaths s hs, List.map_map, List.map_map]
    rfl
  · intro c p hp before line after hsplit
    rw [hreports] at hsplit
    obtain ⟨pre, s, post, front, back, rfl, hs, rfl, rfl⟩ := exists_of_flatMap_eq hsplit
    have hcase : ∀ x ∈ front ++ (c, line) :: back, x.1 = s.case := by
      intro x hx
      rw [← hs] at hx
      obtain ⟨_, -, rfl⟩ := List.mem_map.mp hx
      rfl
    obtain rfl : c = s.case := hcase (c, line) (by simp)
    have hbefore : p ∈ pre.map Settlement.case :=
      hpost.mem_of_transGen hp (by rw [List.map_append, List.map_cons])
    have hnodup := hpost.nodup.1
    rw [List.map_append, List.map_cons] at hnodup
    have hlater : p ∉ s.case :: post.map Settlement.case := fun hmem =>
      (List.nodup_append.mp hnodup).2.2 p hbefore p hmem rfl
    refine ⟨?_, fun hmem => hlater ?_⟩
    · obtain ⟨s', hs', rfl⟩ := List.mem_map.mp hbefore
      obtain ⟨line', hline'⟩ := List.exists_mem_of_ne_nil _ (hlines s' (by simp [hs']))
      rw [List.map_append, List.mem_append]
      refine .inl (List.mem_map.mpr ⟨(s'.case, line'), List.mem_flatMap.mpr ⟨s', hs', ?_⟩, rfl⟩)
      exact List.mem_map_of_mem hline'
    · obtain ⟨x, hx, rfl⟩ := List.mem_map.mp hmem
      rw [← List.cons_append, List.mem_append] at hx
      rcases hx with hx | hx
      · rw [hcase x (List.mem_append_right _ hx)]
        exact List.mem_cons_self ..
      · obtain ⟨s', hs', hx⟩ := List.mem_flatMap.mp hx
        obtain ⟨_, -, rfl⟩ := List.mem_map.mp hx
        exact List.mem_cons_of_mem _ (List.mem_map_of_mem hs')
  · refine (hpost.unique (.of_independent (fun c hc => ?_) ?_)).symm
    · rw [Tree.prerequisites, hnone c hc, List.flatMap_nil]
    · exact hsound.forest.nodup_leaves root

/-- A suite whose first case depends on one that fails and on a suite that is declared later. -/
def sharedCalls : List Tree.Call :=
  [.suite "s", .addCase 0 "a" [], .addCase 0 "b" [.raise (.fail "broken")], .addSuite 0 "inner",
    .addCase 3 "c" [], .addDependency 1 2, .addDependency 1 3]

/-- The first case is blocked by the failure, and comes last all the same. -/
theorem inOrder_of_shared :
    let o := suite .default 0 (start (Tree.ofCalls sharedCalls) .initial)
    o = .ok () (endOf o) ∧
      InOrder (Tree.ofCalls sharedCalls) 0 .initial (endOf o).engine [2, 4, 1] := by
  intro o
  have hrun : o = .ok () (endOf o) := eq_ok_endOf (by decide +kernel)
  obtain ⟨order, horder⟩ := inOrder_of_suite sharedCalls .default 0 .initial (endOf o) rfl rfl hrun
  have hleaves : (Tree.ofCalls sharedCalls).leaves 0 = [1, 2, 4] := by decide +kernel
  have hfirst : (Tree.ofCalls sharedCalls).prerequisites 1 = [2, 4] := by decide +kernel
  have hothers : ∀ c ∈ [2, 4], (Tree.ofCalls sharedCalls).prerequisites c = [] := by
    decide +kernel
  have hbefore : (Tree.ofCalls sharedCalls).PostOrder []
      ((Tree.ofCalls sharedCalls).prerequisites 1) [2, 4] := by
    rw [hfirst]
    exact .of_independent hothers (by decide)
  have hpost : (Tree.ofCalls sharedCalls).PostOrder [] ((Tree.ofCalls sharedCalls).leaves 0)
      [2, 4, 1] := by
    rw [hleaves]
    exact .visit hbefore (by decide) (.again (by decide) (.again (by decide) .done))
  rw [(horder.postOrder [2, 4, 1]).mp hpost]
  exact ⟨hrun, horder⟩

end Run

end TestEngine
