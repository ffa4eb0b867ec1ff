/-
TestEngine/Proofs/Run/Listing.lean

What a run in list mode prints: the paths of the cases at or below its root, in order,
and nothing else (`suite_listing`).  It always comes to its end.

The paths listed are pairwise different, also as texts (`nodup_listing`,
`nodup_map_render_listing`), since objects below one root are told apart by their paths,
since the tags of a case are different, and since no case lies below another one, so that
no path of a subunit is the path of a case.
-/
import TestEngine.Proofs.Path
import TestEngine.Proofs.Run.Report

namespace TestEngine

/-! ### Runs in list mode -/

namespace Run

variable {mode : Mode} {t : Tree} {r : Run}

/-- A run after printing some lines of the report. -/
def listed (texts : List String) (r : Run) : Run :=
  { r with engine :=
    { r.engine with journal := (texts.map (Entry.printed .report)).reverse ++ r.engine.journal } }

theorem listed_listed (texts texts' : List String) (r : Run) :
    listed texts' (listed texts r) = listed (texts ++ texts') r := by
  unfold listed
  simp

theorem print_eq_listed (text : String) :
    onEngine (Engine.print text) r = .ok () (listed [text] r) := rfl

theorem listTags_of_isElement {path : Path} {tags : List String}
    (h : ∀ tag ∈ tags, isElement tag = true) :
    listTags path tags r =
      .ok () (listed (tags.map fun tag => (⟨path.elements ++ [tag]⟩ : Path).render) r) := by
  induction tags generalizing r with
  | nil => rfl
  | cons tag tags ih =>
    have hpath : onEngine (Engine.subpath path tag) r = .ok ⟨path.elements ++ [tag]⟩ r :=
      onEngine_eq_ok.mpr ⟨r.engine,
        Engine.subpath_eq_ok.mpr ⟨h tag (List.mem_cons_self ..), rfl, rfl⟩, rfl⟩
    unfold listTags
    rw [bind_of_ok hpath, bind_of_ok (print_eq_listed _),
      ih fun x hx => h x (List.mem_cons_of_mem _ hx), listed_listed]
    rfl

/-- A case is listed by the paths under which it would report. -/
theorem list_of_isElement (leaf : ObjectId) (h : ∀ tag ∈ r.tree.tags leaf, isElement tag = true) :
    list leaf r = .ok () (listed ((r.tree.reportPaths leaf).map Path.render) r) := by
  unfold list
  refine (bind_of_ok (get_eq_ok.mpr ⟨rfl, rfl⟩)).trans ?_
  unfold Tree.reportPaths
  rcases htags : r.tree.tags leaf with - | ⟨tag, tags⟩
  · exact print_eq_listed _
  · simp only
    rw [htags] at h
    rw [listTags_of_isElement h, Path.reports, List.map_map]
    rfl

theorem listEach_of_isElement {leaves : List ObjectId}
    (h : ∀ leaf ∈ leaves, ∀ tag ∈ t.tags leaf, isElement tag = true) (hr : r.tree = t) :
    listEach leaves r = .ok () (listed ((leaves.flatMap t.reportPaths).map Path.render) r) := by
  induction leaves generalizing r with
  | nil => rfl
  | cons leaf leaves ih =>
    have hleaf := list_of_isElement (r := r) leaf (hr ▸ h leaf (List.mem_cons_self ..))
    have hrest := ih (r := listed ((r.tree.reportPaths leaf).map Path.render) r)
      (fun l hl => h l (List.mem_cons_of_mem _ hl)) hr
    unfold listEach
    rw [bind_of_ok hleaf, hrest, listed_listed, hr, List.flatMap_cons, List.map_append]

theorem isElement_of_mem_tags (h : t.Sound) {case : ObjectId} {tag : String}
    (htag : tag ∈ t.tags case) : isElement tag = true := by
  unfold Tree.tags at htag
  rcases hc : t.case? case with - | c <;> rw [hc] at htag
  · exact absurd htag (by simp)
  · exact (h.unrun hc).isElement tag htag

/-- A run in list mode prints the paths of the cases at or below its root. -/
theorem suite_listing (h : t.Sound) {root : ObjectId} (hroot : (t.node? root).isSome = true)
    (hmode : mode.listOnly = true) (e : Engine) :
    suite mode root (start t e) =
      .ok () (listed ((t.listing root).map Path.render) (start t e)) := by
  unfold suite
  refine (bind_of_ok (get_eq_ok.mpr ⟨rfl, rfl⟩)).trans ?_
  rcases hn : t.node? root with - | n
  · rw [hn] at hroot
    exact absurd hroot (by simp)
  · simp only [start, hn, hmode, if_true]
    exact listEach_of_isElement (fun l _ tag htag => isElement_of_mem_tags h htag) rfl

theorem since_listed (texts : List String) (t : Tree) (e : Engine) :
    Engine.since e (listed texts (start t e)).engine = texts.map (Entry.printed .report) := by
  refine Engine.since_eq ?_
  rfl

end Run

/-! ### The paths of cases -/

namespace Tree

variable {t : Tree} (h : t.Sound)

include h

theorem nodup_reportPaths (case : ObjectId) : (t.reportPaths case).Nodup := by
  unfold reportPaths
  rcases htags : t.tags case with - | ⟨tag, tags⟩
  · exact List.nodup_singleton _
  · have hnodup : (tag :: tags).Nodup := by
      unfold Tree.tags at htags
      rcases hc : t.case? case with - | c <;> rw [hc] at htags
      · exact absurd htags (by simp)
      · exact htags ▸ (h.unrun hc).nodup
    refine hnodup.map fun a b hab => ?_
    have helements := congrArg Path.elements hab
    exact List.singleton_inj.mp (List.append_cancel_left helements)

theorem isElement_of_mem_reportPaths {case : ObjectId} {p : Path} (hp : p ∈ t.reportPaths case) :
    ∀ x ∈ p.elements, isElement x = true := by
  unfold reportPaths at hp
  intro x hx
  rcases htags : t.tags case with - | ⟨tag, tags⟩ <;> rw [htags] at hp
  · rw [List.mem_singleton.mp hp] at hx
    exact h.forest.isElement_of_mem_path hx
  · obtain ⟨tag', htag', rfl⟩ := List.mem_map.mp hp
    rcases List.mem_append.mp hx with hx | hx
    · exact h.forest.isElement_of_mem_path hx
    · rw [List.mem_singleton.mp hx]
      exact Run.isElement_of_mem_tags h (htags ▸ htag')

omit h in
/-- The paths of a case are its own one or extend it by a tag. -/
theorem eq_or_of_mem_reportPaths {case : ObjectId} {p : Path} (hp : p ∈ t.reportPaths case) :
    p.elements = (t.path case).elements ∨ ∃ tag, p.elements = (t.path case).elements ++ [tag] := by
  unfold reportPaths at hp
  rcases htags : t.tags case with - | ⟨tag, tags⟩ <;> rw [htags] at hp
  · rw [List.mem_singleton.mp hp]
    exact .inl rfl
  · obtain ⟨tag', -, rfl⟩ := List.mem_map.mp hp
    exact .inr ⟨tag', rfl⟩

/-- Cases below the same root are in the same tree of the forest. -/
theorem getLast?_lineage_of_leaves {root a b : ObjectId} (ha : a ∈ t.leaves root)
    (hb : b ∈ t.leaves root) : (t.lineage a).getLast? = (t.lineage b).getLast? := by
  rw [h.forest.getLast?_lineage (h.forest.mem_leaves.mp ha).2,
    h.forest.getLast?_lineage (h.forest.mem_leaves.mp hb).2]

omit h in
theorem isSome_node?_of_case? {id : ObjectId} (hc : (t.case? id).isSome = true) :
    (t.node? id).isSome = true := by
  unfold case? at hc
  rcases hn : t.node? id with - | n <;> rw [hn] at hc
  · exact absurd hc (by simp)
  · rfl

/-- The path of a case is not that of a subunit of another case below the same root. -/
theorem path_ne_subpath {root a b : ObjectId} (ha : a ∈ t.leaves root) (hb : b ∈ t.leaves root)
    (tag : String) : (t.path a).elements ≠ (t.path b).elements ++ [tag] := by
  intro heq
  have hcase := (h.forest.mem_leaves.mp hb).1
  have hnode := isSome_node?_of_case? (h.forest.mem_leaves.mp ha).1
  have hnode' := isSome_node?_of_case? hcase
  obtain ⟨name, hname⟩ := Option.isSome_iff_exists.mp (isSome_name? ▸ hnode)
  rcases hp : t.parent? a with - | q
  · rw [h.forest.path_of_top hp hname, List.singleton_eq_append_iff] at heq
    rcases heq with ⟨hempty, -⟩ | ⟨-, hempty⟩
    · exact h.forest.path_ne_empty hnode' hempty
    · exact absurd hempty (by simp)
  · rw [h.forest.path_of_parent hp hname] at heq
    obtain ⟨hinit, -⟩ := List.append_inj' heq rfl
    have hq := h.forest.node?_of_parent hp
    have htop : (t.lineage q).getLast? = (t.lineage b).getLast? := by
      rw [← getLast?_lineage_of_leaves h ha hb]
      exact (h.forest.getLast?_lineage
        (h.forest.mem_lineage.mpr (.inr ⟨q, hp, h.forest.mem_lineage_self hq⟩))).symm
    have hqb : q = b := h.forest.eq_of_path_eq hq hnode' htop (congrArg Path.mk hinit)
    -- the parent of `a` is no case
    have hmem : a ∈ t.children q := h.forest.mem_children.mpr hp
    obtain ⟨c, hc⟩ := Option.isSome_iff_exists.mp hcase
    rw [hqb, children_of_case hc] at hmem
    exact absurd hmem (by simp)

/-- A path leads to one case at most of those below a root. -/
theorem eq_of_mem_reportPaths {root a b : ObjectId} {p : Path} (ha : a ∈ t.leaves root)
    (hb : b ∈ t.leaves root) (hpa : p ∈ t.reportPaths a) (hpb : p ∈ t.reportPaths b) : a = b := by
  have hsame : (t.path a).elements = (t.path b).elements → a = b := fun heq =>
    h.forest.eq_of_path_eq (isSome_node?_of_case? (h.forest.mem_leaves.mp ha).1)
      (isSome_node?_of_case? (h.forest.mem_leaves.mp hb).1) (getLast?_lineage_of_leaves h ha hb)
      (congrArg Path.mk heq)
  rcases eq_or_of_mem_reportPaths hpa with hpa | ⟨tag, hpa⟩ <;>
    rcases eq_or_of_mem_reportPaths hpb with hpb | ⟨tag', hpb⟩ <;> rw [hpa] at hpb
  · exact hsame hpb
  · exact absurd hpb (path_ne_subpath h ha hb tag')
  · exact absurd hpb.symm (path_ne_subpath h hb ha tag)
  · exact hsame (List.append_inj' hpb rfl).1

theorem nodup_listing (root : ObjectId) : (t.listing root).Nodup := by
  unfold listing
  refine List.nodup_flatMap.mpr ⟨fun a _ => nodup_reportPaths h a, ?_⟩
  refine (h.forest.nodup_leaves root).imp_of_mem fun {a b} ha hb hab p hpa hpb => hab ?_
  exact eq_of_mem_reportPaths h ha hb hpa hpb

theorem nodup_map_render_listing (root : ObjectId) :
    ((t.listing root).map Path.render).Nodup := by
  refine List.Nodup.map_on (fun p hp q hq hpq => ?_) (nodup_listing h root)
  obtain ⟨a, -, hp⟩ := List.mem_flatMap.mp hp
  obtain ⟨b, -, hq⟩ := List.mem_flatMap.mp hq
  exact Path.render_inj (isElement_of_mem_reportPaths h hp) (isElement_of_mem_reportPaths h hq) hpq

end Tree

end TestEngine
