/-
TestEngine/Proofs/Tree/Linking.lean

What becomes of the objects of a tree when one of them is made the last child of a suite
(`Tree.Linked`).

What is seen of an object are its views (`Tree.Views`): name, kind and the data of a case are its
own, its parent and its children are links, its path is put together upwards and its leaves are
put together downwards.  The new link is on the way up from those at or below the child, so
these get longer paths (`Linked.path_of_over`); and it is on the way down from the suite
and its ancestors, so these get more leaves, all of them in one place (`Linked.leaves_of_over`).
Nothing else changes (`Linked.path_of_not_over`, `Linked.leaves_of_not_over`).
-/
import TestEngine.Proofs.Tree.Remembered

namespace TestEngine

namespace Tree

variable {t t' : Tree}

/-! ### What an object shows -/

/-- Asked for, the object shows this. -/
def Shows (t : Tree) (id : ObjectId) (i : Info) : Prop := valueOf (info id t) = some i

/-- The views of the object are these. -/
structure Views (t : Tree) (id : ObjectId) (i : Info) : Prop where
  name : t.name? id = some i.name
  path : t.path id = i.path
  kind : t.kind? id = some i.kind
  parent : t.parent? id = i.parent
  children : t.children id = i.children
  leaves : t.leaves id = i.leaves
  leafCount : t.leafCount id = i.leafCount
  tags : t.tags id = i.tags
  dependencies : t.dependencies id = i.dependencies
  result : t.result? id = i.result

/-- The kind of an object depends on the data of the case, if it is one. -/
theorem kind?_congr {id : ObjectId} (hname : t'.name? id = t.name? id)
    (hcase : t'.case? id = t.case? id) : t'.kind? id = t.kind? id := by
  unfold name? at hname
  unfold case? at hcase
  unfold kind?
  rcases hn : t.node? id with - | n <;> rcases hn' : t'.node? id with - | n' <;>
    rw [hn, hn'] at hname hcase
  · exact absurd hname (by simp)
  · exact absurd hname (by simp)
  · have hcase : n'.case? = n.case? := hcase
    rw [Option.map_some, Option.map_some, hcase]

theorem views_of_some {id : ObjectId} {n : Node} (hn : t.node? id = some n) :
    t.Views id
      { name := n.name
        path := t.path id
        kind := (t.kind? id).getD .suite
        parent := n.parent
        children := n.children
        leaves := t.leaves id
        leafCount := t.leafCount id
        tags := t.tags id
        dependencies := t.dependencies id
        result := t.result? id } := by
  refine ⟨?_, rfl, ?_, ?_, ?_, rfl, rfl, rfl, rfl, rfl⟩
  · rw [name?, hn]
    rfl
  · rw [kind?, hn]
    rfl
  · rw [parent?, hn]
    rfl
  · rw [Tree.children, hn]

/-- An object has one set of views. -/
theorem Views.unique {id : ObjectId} {i j : Info} (hi : t.Views id i) (hj : t.Views id j) :
    i = j := by
  rcases i with ⟨_, _, _, _, _, _, _, _, _, _⟩
  rcases j with ⟨_, _, _, _, _, _, _, _, _, _⟩
  congr 1
  · exact Option.some.inj (hi.name.symm.trans hj.name)
  · exact hi.path.symm.trans hj.path
  · exact Option.some.inj (hi.kind.symm.trans hj.kind)
  · exact hi.parent.symm.trans hj.parent
  · exact hi.children.symm.trans hj.children
  · exact hi.leaves.symm.trans hj.leaves
  · exact hi.leafCount.symm.trans hj.leafCount
  · exact hi.tags.symm.trans hj.tags
  · exact hi.dependencies.symm.trans hj.dependencies
  · exact hi.result.symm.trans hj.result

theorem Views.known {id : ObjectId} {i : Info} (hi : t.Views id i) : (t.node? id).isSome := by
  rw [← isSome_name?, hi.name]
  rfl

/-- Where name and data of an object stay, only its links can change, and what they lead to. -/
theorem Views.of_same {id : ObjectId} {i : Info} (hi : t.Views id i)
    (hname : t'.name? id = t.name? id) (hcase : t'.case? id = t.case? id) :
    t'.Views id { i with
      path := t'.path id
      parent := t'.parent? id
      children := t'.children id
      leaves := t'.leaves id } := by
  refine ⟨hname.trans hi.name, rfl, (kind?_congr hname hcase).trans hi.kind, rfl, rfl, rfl, ?_, ?_,
    ?_, ?_⟩
  · rw [Tree.leafCount, hcase]
    exact hi.leafCount
  · rw [Tree.tags, hcase]
    exact hi.tags
  · rw [Tree.dependencies, hcase]
    exact hi.dependencies
  · rw [Tree.result?, hcase]
    exact hi.result

theorem Views.of_uncached {id : ObjectId} {i : Info} (hi : t.Views id i)
    (heq : t'.uncached = t.uncached) : t'.Views id i := by
  have hviews := hi.of_same (name?_eq_of_uncached heq id) (case?_eq_of_uncached heq id)
  rwa [path_eq_of_uncached heq, parent?_eq_of_uncached heq, children_eq_of_uncached heq,
    leaves_eq_of_uncached heq, hi.path, hi.parent, hi.children, hi.leaves] at hviews

/-- An object shows its views, whether or not its path is remembered. -/
theorem Coherent.exists_shows (hc : t.Coherent) (h : t.Forest) {id : ObjectId}
    (hid : (t.node? id).isSome) : ∃ i, t.Shows id i ∧ t.Views id i := by
  obtain ⟨n, hn⟩ := Option.isSome_iff_exists.mp hid
  -- what is looked at is the tree after the lookup, which remembers more
  have hsame : (t.lookupPath id).2.uncached = t.uncached := uncached_lookupPath id
  have hviews := views_of_some hn
  have hafter := hviews.of_uncached hsame
  have hkind : (t.lookupPath id).2.kind? id = t.kind? id :=
    kind?_congr (name?_eq_of_uncached hsame id) (case?_eq_of_uncached hsame id)
  refine ⟨_, ?_, hviews⟩
  unfold Shows info
  rw [bind_of_ok (getNode_of_some hn), bind_of_ok (getPath_of_known hid), (hc.lookupPath h hid).1]
  generalize (t.lookupPath id).2 = u at hafter hkind ⊢
  show some (Info.mk n.name (t.path id) ((u.kind? id).getD .suite) n.parent n.children (u.leaves id)
    (u.leafCount id) (u.tags id) (u.dependencies id) (u.result? id)) = _
  rw [hkind, hafter.leaves, hafter.leafCount, hafter.tags, hafter.dependencies, hafter.result]

theorem Coherent.shows_iff (hc : t.Coherent) (h : t.Forest) {id : ObjectId} {i : Info} :
    t.Shows id i ↔ t.Views id i := by
  constructor
  · intro hi
    rcases hn : t.node? id with - | n
    · have hfails : info id t = .error (.violation (.unknownObject id)) t :=
        bind_of_error (getNode_of_none hn)
      rw [Shows, hfails] at hi
      exact absurd hi (by simp [valueOf])
    · obtain ⟨j, hj, hviews⟩ := hc.exists_shows h (by rw [hn]; rfl)
      rw [Option.some.inj (hi.symm.trans hj)]
      exact hviews
  · intro hi
    obtain ⟨j, hj, hviews⟩ := hc.exists_shows h hi.known
    rw [hi.unique hviews]
    exact hj

/-! ### Leaves are put together downwards -/

theorem leavesWithin_eq (bound : Nat) (id : ObjectId) :
    t.leavesWithin (bound + 1) id =
      if (t.case? id).isSome then [id] else (t.children id).flatMap (t.leavesWithin bound) := by
  unfold leavesWithin case? Tree.children
  rcases t.node? id with - | ⟨name, parent, cached, policies, children | data⟩ <;> rfl

/-- Where the links down stay, the leaves stay. -/
theorem leavesWithin_congr (Kept : ObjectId → Prop)
    (down : ∀ {x c}, Kept x → c ∈ t.children x → Kept c)
    (children : ∀ {x}, Kept x → t'.children x = t.children x)
    (case : ∀ {x}, Kept x → t'.case? x = t.case? x) (bound : Nat) {x : ObjectId} (hx : Kept x) :
    t'.leavesWithin bound x = t.leavesWithin bound x := by
  induction bound generalizing x with
  | zero => rfl
  | succ bound ih =>
    rw [leavesWithin_eq, leavesWithin_eq, case hx, children hx]
    split
    · rfl
    · exact List.flatMap_congr fun c hc => ih (down hx hc)

/-! ### A new link -/

section Linked

variable {suite child : ObjectId}

/-- What is remembered of paths does not matter to links. -/
theorem Linked.of_uncached {u : Tree} (hl : Linked t u suite child)
    (heq : t'.uncached = u.uncached) : Linked t t' suite child where
  toAttachable := hl.toAttachable
  name x := (name?_eq_of_uncached heq x).trans (hl.name x)
  parent x := (parent?_eq_of_uncached heq x).trans (hl.parent x)
  children x := (children_eq_of_uncached heq x).trans (hl.children x)
  case x := (case?_eq_of_uncached heq x).trans (hl.case x)

theorem Attachable.suite_known (ha : t.Attachable suite child) : (t.node? suite).isSome := by
  obtain ⟨s, hs, -⟩ := ha.isSuite
  rw [hs]
  rfl

variable (hl : Linked t t' suite child) (h : t.Forest)

include hl h

theorem Linked.not_over : ¬ t.Over suite child :=
  (h.mem_lineage_iff_over hl.suite_known).not.mp hl.acyclic

/-- The way up from an object that is not at or below the child does not pass the new link. -/
theorem Linked.path_of_not_over (h' : t'.Forest) {x : ObjectId} (hx : (t.node? x).isSome)
    (hnot : ¬ t.Over x child) : t'.path x = t.path x := by
  refine h.path_congr h' (fun x => ¬ t.Over x child) (fun hx hp hover => hx (.head hp hover))
    (fun _ => hl.name _) (fun {x} hx => ?_) hnot hx
  rw [hl.parent, if_neg]
  rintro rfl
  exact hx .refl

/-- The path of the suite goes in front of the paths of all at or below the child. -/
theorem Linked.path_of_over (h' : t'.Forest) {x : ObjectId}
    (hx : t.Over x child) :
    (t'.path x).elements = (t.path suite).elements ++ (t.path x).elements := by
  induction hx using Relation.ReflTransGen.head_induction_on with
  | refl =>
    obtain ⟨name, hname⟩ := Option.isSome_iff_exists.mp (isSome_name? ▸ hl.known)
    have hparent : t'.parent? child = some suite := by
      rw [hl.parent, if_pos rfl]
    rw [h'.path_of_parent hparent ((hl.name child).trans hname), h.path_of_top hl.top hname,
      hl.path_of_not_over h h' hl.suite_known (hl.not_over h)]
  | @head x p hp _ ih =>
    obtain ⟨name, hname⟩ := Option.isSome_iff_exists.mp
      (isSome_name? ▸ isSome_node?_of_parent? hp)
    -- only the child has another parent than before
    have hparent : t'.parent? x = some p := by
      rw [hl.parent, if_neg]
      · exact hp
      · rintro rfl
        exact absurd (hl.top.symm.trans hp) (by simp)
    rw [h'.path_of_parent hparent ((hl.name x).trans hname), ih, h.path_of_parent hp hname,
      List.append_assoc]

/-- The way down from an object that is not above the suite does not pass the new link. -/
theorem Linked.leaves_of_not_over (hsize : t'.size = t.size) {x : ObjectId}
    (hnot : ¬ t.Over suite x) : t'.leaves x = t.leaves x := by
  unfold leaves
  rw [hsize]
  refine leavesWithin_congr (fun x => ¬ t.Over suite x)
    (fun hx hc hover => hx (hover.tail (h.mem_children.mp hc))) (fun {x} hx => ?_)
    (fun _ => hl.case _) t.size hnot
  rw [hl.children, if_neg]
  rintro rfl
  exact hx .refl

/-- The leaves of the child come right after those of the suite. -/
theorem Linked.leaves_of_over (h' : t'.Forest) (hsize : t'.size = t.size) {a : ObjectId}
    (ha : t.Over suite a) : ∃ before after,
      t.leaves a = before ++ t.leaves suite ++ after ∧
        t'.leaves a = before ++ t.leaves suite ++ t.leaves child ++ after := by
  have hleaves : ∀ {xs : List ObjectId}, (∀ x ∈ xs, ¬ t.Over suite x) →
      xs.flatMap t'.leaves = xs.flatMap t.leaves := fun hxs =>
    List.flatMap_congr fun x hx => hl.leaves_of_not_over h hsize (hxs x hx)
  have hover : ∀ {a}, t.Over suite a → a ∈ t.lineage suite := fun ha =>
    (h.mem_lineage_iff_over hl.suite_known).mpr ha
  induction ha with
  | refl =>
    obtain ⟨s, hs, hsuite⟩ := hl.isSuite
    have hcase : t.case? suite = none := by
      rw [case?, hs]
      exact Option.isNone_iff_eq_none.mp hsuite
    -- neither the older children nor the new one are above the suite
    have hchildren : ∀ x ∈ t.children suite, ¬ t.Over suite x := fun x hx hmem =>
      h.not_mem_lineage_parent (h.mem_children.mp hx) (hover hmem)
    refine ⟨[], [], by simp, ?_⟩
    rw [h'.leaves_of_suite ((hl.case suite).trans hcase), hl.children, if_pos rfl,
      List.flatMap_append, hleaves hchildren, List.flatMap_singleton,
      hl.leaves_of_not_over h hsize (hl.not_over h), h.leaves_of_suite hcase]
    simp
  | @tail b a hb hp ih =>
    obtain ⟨before, after, hbefore, hafter⟩ := ih
    have hmem := h.mem_children.mpr hp
    obtain ⟨older, younger, hsplit⟩ := List.append_of_mem hmem
    have hcase : t.case? a = none := by
      rcases hc : t.case? a with - | c
      · rfl
      · rw [children_of_case hc] at hmem
        exact absurd hmem (by simp)
    have hsame : t'.children a = t.children a := by
      rw [hl.children, if_neg]
      rintro rfl
      exact h.not_mem_lineage_parent hp (hover hb)
    -- the suite is below one child only
    have hothers : ∀ x, x ∈ older ∨ x ∈ younger → ¬ t.Over suite x := by
      intro x hx hmem
      have hxb : x = b := by
        refine h.eq_of_mem_lineage (hover hmem) (hover hb) (h.mem_children.mp ?_) hp
        rw [hsplit]
        rcases hx with hx | hx <;> simp [hx]
      have hnodup := h.nodup a
      rw [hsplit] at hnodup
      have hnot := (List.nodup_middle.mp hnodup).notMem
      rw [hxb] at hx
      exact hnot (List.mem_append.mpr hx)
    refine ⟨older.flatMap t.leaves ++ before, after ++ younger.flatMap t.leaves, ?_, ?_⟩
    · rw [h.leaves_of_suite hcase, hsplit, List.flatMap_append, List.flatMap_cons, hbefore]
      simp only [List.append_assoc]
    · rw [h'.leaves_of_suite ((hl.case a).trans hcase), hsame, hsplit, List.flatMap_append,
        List.flatMap_cons, hafter, hleaves fun x hx => hothers x (.inl hx),
        hleaves fun x hx => hothers x (.inr hx)]
      simp only [List.append_assoc]

end Linked

end Tree

end TestEngine
