/-
TestEngine/Proofs/Tree/Remembered.lean

Remembered paths are never stale.  An object remembers its path once it has been asked
for it, and the path remembers the text that it was written as; a lookup fills in what the
ancestors remember as well, and attaching an object has to make all below it forget.

A tree is *coherent* if whatever an object remembers is what it would find out now
(`Tree.Coherent`).  Every step of building a tree keeps it coherent:

* a new object remembers nothing, and a declaration touches no path;
* attaching changes the paths of those at or below the child only, and those are the ones that
  forget (`remembered?_forgetPathsWithin`);
* a lookup stores what it has found (`Coherent.remember`).

What a lookup finds is then said without any walk through the arena: the names from the
object without a parent down (`Tree.Named`).
-/
import TestEngine.Proofs.Path
import TestEngine.Proofs.Tree.Construction

namespace TestEngine

namespace Tree

variable {t t' : Tree}

/-! ### What is remembered -/

/-- What an object remembers of its path. -/
def remembered? (t : Tree) (id : ObjectId) : Option PathCell := (t.node? id).bind Node.cachedPath

/-- Whatever an object remembers is its path. -/
def Coherent (t : Tree) : Prop :=
  ∀ id cell, t.remembered? id = some cell → cell.Holds (t.path id)

theorem remembered?_update {f : Node → Node} {id x : ObjectId} (hx : x ≠ id) :
    (t.update id f).remembered? x = t.remembered? x := by
  unfold remembered?
  rw [node?_update, if_neg hx]

theorem remembered?_update_of_eq {f : Node → Node} (hf : ∀ n, (f n).cachedPath = n.cachedPath)
    (id x : ObjectId) : (t.update id f).remembered? x = t.remembered? x := by
  unfold remembered?
  rw [node?_update]
  split
  · rcases t.node? x with - | n
    · rfl
    · exact hf n
  · rfl

theorem remembered?_update_self {c : Option PathCell} {id : ObjectId} :
    (t.update id fun n => { n with cachedPath := c }).remembered? id =
      if (t.node? id).isSome then c else none := by
  unfold remembered?
  rw [node?_update, if_pos rfl]
  rcases t.node? id with - | n <;> rfl

/-! ### Which paths change -/

/-- A path is put together from the names of an object and its ancestors: where these and the
links between them stay, the paths stay. -/
theorem Forest.path_congr (h : t.Forest) (h' : t'.Forest) (Kept : ObjectId → Prop)
    (up : ∀ {x p}, Kept x → t.parent? x = some p → Kept p)
    (name : ∀ {x}, Kept x → t'.name? x = t.name? x)
    (parent : ∀ {x}, Kept x → t'.parent? x = t.parent? x) {x : ObjectId} (hx : Kept x)
    (hnode : (t.node? x).isSome) : t'.path x = t.path x := by
  refine h.induction (motive := fun x => Kept x → (t.node? x).isSome → t'.path x = t.path x)
    (fun x ih hx hnode => congrArg Path.mk ?_) x hx hnode
  obtain ⟨s, hs⟩ := Option.isSome_iff_exists.mp (isSome_name? ▸ hnode)
  have hs' : t'.name? x = some s := (name hx).trans hs
  rcases hp : t.parent? x with - | p
  · have hp' : t'.parent? x = none := (parent hx).trans hp
    exact (h'.path_of_top hp' hs').trans (h.path_of_top hp hs).symm
  · have hp' : t'.parent? x = some p := (parent hx).trans hp
    have hpath := ih p hp (up hx hp) (h.node?_of_parent hp)
    have habove := h'.path_of_parent hp' hs'
    rw [hpath] at habove
    exact habove.trans (h.path_of_parent hp hs).symm

theorem isSome_node?_of_remembered? {id : ObjectId} {cell : PathCell}
    (h : t.remembered? id = some cell) : (t.node? id).isSome := by
  unfold remembered? at h
  rcases hn : t.node? id with - | n
  · rw [hn] at h
    exact absurd h (by simp)
  · rfl

/-- Coherence survives a change that makes no object remember more and keeps the names and links
above those that still remember something. -/
theorem Coherent.of_kept (hc : t.Coherent) (h : t.Forest) (h' : t'.Forest)
    (Kept : ObjectId → Prop) (up : ∀ {x p}, Kept x → t.parent? x = some p → Kept p)
    (name : ∀ {x}, Kept x → t'.name? x = t.name? x)
    (parent : ∀ {x}, Kept x → t'.parent? x = t.parent? x)
    (kept : ∀ {x cell}, t'.remembered? x = some cell → t.remembered? x = some cell ∧ Kept x) :
    t'.Coherent := by
  intro x cell hcell
  obtain ⟨hold, hx⟩ := kept hcell
  rw [h.path_congr h' Kept up name parent hx (isSome_node?_of_remembered? hold)]
  exact hc x cell hold

/-! ### Forgetting -/

/-- To forget is not to remember anything new. -/
theorem remembered?_of_forgetPathsWithin (bound : Nat) (id : ObjectId) {x : ObjectId}
    {cell : PathCell} (h : (t.forgetPathsWithin bound id).remembered? x = some cell) :
    t.remembered? x = some cell := by
  induction bound generalizing t id with
  | zero => exact h
  | succ bound ih =>
    have hfold : ∀ (cs : List ObjectId) (t : Tree),
        (cs.foldl (fun t c => t.forgetPathsWithin bound c) t).remembered? x = some cell →
          t.remembered? x = some cell := by
      intro cs
      induction cs with
      | nil => exact fun t ht => ht
      | cons c cs ihs => exact fun t ht => ih c (ihs _ ht)
    have hcleared := hfold _ _ h
    by_cases hx : x = id
    · rw [hx, remembered?_update_self] at hcleared
      exact absurd hcleared (by simp)
    · rwa [remembered?_update hx] at hcleared

/-- Whoever remembers nothing does not remember more while others forget. -/
theorem remembered?_foldl_of_none (bound : Nat) (cs : List ObjectId) {x : ObjectId}
    (h : t.remembered? x = none) :
    (cs.foldl (fun t c => t.forgetPathsWithin bound c) t).remembered? x = none := by
  induction cs generalizing t with
  | nil => exact h
  | cons c cs ih =>
    refine ih (Option.eq_none_iff_forall_ne_some.mpr fun cell hcell => ?_)
    rw [remembered?_of_forgetPathsWithin bound c hcell] at h
    exact absurd h (by simp)

/-- Whoever is below an object is at or below one of its children. -/
theorem Forest.exists_child (h : t.Forest) {a x : ObjectId} (hx : a ∈ t.lineage x) (hne : x ≠ a) :
    ∃ c ∈ t.children a, c ∈ t.lineage x := by
  refine h.induction (motive := fun x => a ∈ t.lineage x → x ≠ a →
    ∃ c ∈ t.children a, c ∈ t.lineage x) (fun x ih hx hne => ?_) x hx hne
  rcases h.mem_lineage.mp hx with ⟨rfl, -⟩ | ⟨p, hp, hap⟩
  · exact absurd rfl hne
  · by_cases hpa : p = a
    · rw [hpa] at hp
      exact ⟨x, h.mem_children.mpr hp, h.mem_lineage_self (isSome_node?_of_parent? hp)⟩
    · obtain ⟨c, hc, hcp⟩ := ih p hp hap hpa
      exact ⟨c, hc, h.mem_lineage.mpr (.inr ⟨p, hp, hcp⟩)⟩

/-- All at or below the object forget.  The walk down is deep enough: where its bound is used up,
the lineages are longer than the tree is large. -/
theorem remembered?_forgetPathsWithin (h : t.Sound) {bound : Nat} {id x : ObjectId}
    (hbound : t.size < bound + (t.lineage id).length) (hx : id ∈ t.lineage x) :
    (t.forgetPathsWithin bound id).remembered? x = none := by
  induction bound generalizing t id with
  | zero =>
    have hle : (t.lineage id).length ≤ t.size := h.forest.length_lineageWithin_le t.size id
    omega
  | succ bound ih =>
    unfold forgetPathsWithin
    have hcleared : (t.update id fun n => { n with cachedPath := none }).uncached = t.uncached := by
      apply map_update
      exact fun n => rfl
    generalize hu : (t.update id fun n => { n with cachedPath := none }) = u at hcleared
    by_cases hne : x = id
    · refine remembered?_foldl_of_none bound _ ?_
      rw [← hu, hne, remembered?_update_self]
      split <;> rfl
    · -- it is at or below one of the children, and the walk comes to that one
      obtain ⟨c, hc, hcx⟩ := h.forest.exists_child hx hne
      have hp := h.forest.mem_children.mp hc
      have hdeep : t.size < bound + (t.lineage c).length := by
        rw [h.forest.lineage_of_parent hp, List.length_cons]
        omega
      have hwalk : ∀ (cs : List ObjectId) (u : Tree), u.uncached = t.uncached → c ∈ cs →
          (cs.foldl (fun t c => t.forgetPathsWithin bound c) u).remembered? x = none := by
        intro cs
        induction cs with
        | nil => exact fun u _ hmem => absurd hmem (by simp)
        | cons d cs ihs =>
          intro u heq hmem
          rcases List.mem_cons.mp hmem with rfl | hmem
          · refine remembered?_foldl_of_none bound cs (ih (h.of_uncached heq) ?_ ?_)
            · rw [size_eq_of_uncached heq, lineage_eq_of_uncached heq]
              exact hdeep
            · rw [lineage_eq_of_uncached heq]
              exact hcx
          · exact ihs _ ((uncached_forgetPathsWithin bound d).trans heq) hmem
      exact hwalk _ u hcleared hc

/-! ### Looking up -/

/-- An object may remember its path. -/
theorem Coherent.remember (hc : t.Coherent) {id : ObjectId} {cell : PathCell}
    (hcell : cell.Holds (t.path id)) :
    (t.update id fun n => { n with cachedPath := some cell }).Coherent := by
  intro x cell' hx
  have hpath : (t.update id fun n => { n with cachedPath := some cell }).path x = t.path x := by
    apply path_eq_of_uncached
    apply map_update
    exact fun n => rfl
  rw [hpath]
  by_cases hne : x = id
  · rw [hne, remembered?_update_self] at hx
    split at hx
    · cases hx
      rw [hne]
      exact hcell
    · exact absurd hx (by simp)
  · rw [remembered?_update hne] at hx
    exact hc x cell' hx

/-- What is looked up is the path of the object, and what is then remembered is right.  The bound
is that of a walk up: it has to be as great as the lineage is long. -/
theorem Coherent.lookupPathWithin (hc : t.Coherent) (h : t.Forest) {bound : Nat} {id : ObjectId}
    (hbound : (t.lineage id).length ≤ bound) (hid : (t.node? id).isSome) :
    (t.lookupPathWithin bound id).1 = t.path id ∧ (t.lookupPathWithin bound id).2.Coherent := by
  induction bound generalizing id with
  | zero =>
    have hpos := List.length_pos_of_mem (h.mem_lineage_self hid)
    omega
  | succ bound ih =>
    obtain ⟨n, hn⟩ := Option.isSome_iff_exists.mp hid
    have hname : t.name? id = some n.name := by rw [name?, hn]; rfl
    have hparent : t.parent? id = n.parent := by rw [parent?, hn]; rfl
    unfold Tree.lookupPathWithin
    rcases hcell : n.cachedPath with - | cell <;> simp only [hn, hcell]
    · -- it has to be found out, and that of a parent is found out first
      rcases hp : n.parent with - | p <;> rw [hp] at hparent
      · have hpath : (⟨Path.empty.elements ++ [n.name]⟩ : Path) = t.path id :=
          congrArg Path.mk (h.path_of_top hparent hname).symm
        refine ⟨hpath, hc.remember ?_⟩
        rw [← hpath]
        exact PathCell.holds_ofPath _
      · rw [h.lineage_of_parent hparent, List.length_cons] at hbound
        obtain ⟨habove, hc'⟩ := ih (Nat.le_of_succ_le_succ hbound) (h.node?_of_parent hparent)
        have hpath : (⟨(t.lookupPathWithin bound p).1.elements ++ [n.name]⟩ : Path) = t.path id := by
          rw [habove]
          exact congrArg Path.mk (h.path_of_parent hparent hname).symm
        refine ⟨hpath, hc'.remember ?_⟩
        rw [path_eq_of_uncached (uncached_lookupPathWithin bound p), ← hpath]
        exact PathCell.holds_ofPath _
    · -- it is remembered
      refine ⟨(hc id cell ?_).path, hc⟩
      rw [remembered?, hn]
      exact hcell

theorem Coherent.lookupPath (hc : t.Coherent) (h : t.Forest) {id : ObjectId}
    (hid : (t.node? id).isSome) :
    (t.lookupPath id).1 = t.path id ∧ (t.lookupPath id).2.Coherent :=
  hc.lookupPathWithin h (h.length_lineageWithin_le t.size id) hid

/-- Nothing changes where there is no object. -/
theorem lookupPath_of_none {id : ObjectId} (hid : t.node? id = none) :
    (t.lookupPath id).2 = t := by
  unfold Tree.lookupPath
  rcases t.size with - | bound
  · rfl
  · unfold Tree.lookupPathWithin
    rw [hid]

theorem lookupText_of_none {id : ObjectId} (hid : t.node? id = none) :
    (t.lookupText id).2 = t := by
  unfold Tree.lookupText
  simp only [lookupPath_of_none hid]
  refine ext_node? fun x => ?_
  rw [node?_update]
  split
  · rename_i hx
    rw [hx, hid]
    rfl
  · rfl

theorem Coherent.lookupText (hc : t.Coherent) (h : t.Forest) {id : ObjectId}
    (hid : (t.node? id).isSome) :
    (t.lookupText id).1 = (t.path id).render ∧ (t.lookupText id).2.Coherent := by
  obtain ⟨hpath, hc'⟩ := hc.lookupPath h hid
  have hsame : (t.lookupPath id).2.path id = t.path id :=
    path_eq_of_uncached (uncached_lookupPath id) id
  -- the cell that is written is the one that the lookup has left, which holds the path
  have hcell : (((t.lookupPath id).2.remembered? id).getD (.ofPath (t.lookupPath id).1)).Holds
      (t.path id) := by
    rcases hr : (t.lookupPath id).2.remembered? id with - | cell
    · rw [hpath]
      exact PathCell.holds_ofPath _
    · rw [← hsame]
      exact hc' id cell hr
  refine ⟨hcell.render_eq, hc'.remember ?_⟩
  rw [hsame]
  exact hcell.written

/-! ### Every tree is coherent -/

theorem coherent_empty : Tree.empty.Coherent :=
  fun _ _ hcell => absurd hcell (by simp [remembered?, node?, Tree.empty])

theorem Coherent.push (hc : t.Coherent) (h : t.Sound) {n : Node} (hn : n.New) :
    (t.push n).Coherent := by
  refine hc.of_kept h.forest (h.push hn).forest (fun x => (t.node? x).isSome)
    (fun _ hp => h.forest.node?_of_parent hp) (name?_push n) (fun _ => parent?_push hn.parent _)
    fun {x cell} hcell => ?_
  have hold : t.remembered? x = some cell := by
    unfold remembered? at hcell ⊢
    rw [node?_push] at hcell
    split at hcell
    · rw [Option.bind_some, hn.cachedPath] at hcell
      exact absurd hcell (by simp)
    · exact hcell
  exact ⟨hold, isSome_node?_of_remembered? hold⟩

theorem remembered?_link (suite child x : ObjectId) :
    (t.link suite child).remembered? x = t.remembered? x := by
  unfold link
  rw [remembered?_update_of_eq, remembered?_update_of_eq]
  · exact fun n => rfl
  · exact fun n => rfl

theorem Coherent.attached (hc : t.Coherent) (h : t.Sound) {suite child : ObjectId}
    (ha : t.Attachable suite child) :
    ((t.link suite child).forgetPathsWithin t.size child).Coherent := by
  have hl := ha.linked h.forest
  have hlinked := h.link hl
  obtain ⟨s, hs, -⟩ := ha.isSuite
  have heq : ((t.link suite child).forgetPathsWithin t.size child).uncached =
      (t.link suite child).uncached := uncached_forgetPathsWithin _ _
  have hparent : (t.link suite child).parent? child = some suite := by
    rw [hl.parent, if_pos rfl]
  -- the walk down from the child is deep enough, since the child has an ancestor now
  have hdeep : (t.link suite child).size < t.size + ((t.link suite child).lineage child).length := by
    have hsize : (t.link suite child).size = t.size := by
      unfold link update size
      simp
    have hknown := hlinked.forest.node?_of_parent hparent
    have hpos := List.length_pos_of_mem (hlinked.forest.mem_lineage_self hknown)
    rw [hsize, hlinked.forest.lineage_of_parent hparent, List.length_cons]
    omega
  -- whoever still remembers a path is not at or below the child
  refine hc.of_kept h.forest (hlinked.of_uncached heq).forest
    (fun x => child ∉ (t.link suite child).lineage x ∧ x ≠ child) ?_ ?_ ?_ ?_
  · intro x p hx hp
    have hp' : (t.link suite child).parent? x = some p := by
      rw [hl.parent, if_neg hx.2]
      exact hp
    have hnot : child ∉ (t.link suite child).lineage p := fun hmem =>
      hx.1 (hlinked.forest.mem_lineage.mpr (.inr ⟨p, hp', hmem⟩))
    refine ⟨hnot, ?_⟩
    rintro rfl
    exact hnot (hlinked.forest.mem_lineage_self (hlinked.forest.node?_of_parent hp'))
  · intro x _
    rw [name?_eq_of_uncached heq, hl.name]
  · intro x hx
    rw [parent?_eq_of_uncached heq, hl.parent, if_neg hx.2]
  · intro x cell hcell
    have hnot : child ∉ (t.link suite child).lineage x := by
      intro hmem
      rw [remembered?_forgetPathsWithin hlinked hdeep hmem] at hcell
      exact absurd hcell (by simp)
    have hold := remembered?_of_forgetPathsWithin _ _ hcell
    rw [remembered?_link] at hold
    refine ⟨hold, hnot, ?_⟩
    rintro rfl
    exact hnot (hlinked.forest.mem_lineage_self (isSome_node?_of_parent? hparent))

theorem Coherent.step (hc : t.Coherent) (h : t.Sound) (hstep : Step t t') : t'.Coherent := by
  rcases hstep with hn | ⟨id, hf⟩ | ha | id | id
  · exact hc.push h hn
  · refine hc.of_kept h.forest (h.update hf id).forest (fun _ => True) (fun _ _ => trivial)
      (fun _ => name?_update hf.toFramed id _) (fun _ => parent?_update hf.toFramed id _) ?_
    intro x cell hcell
    rw [remembered?_update_of_eq hf.cachedPath] at hcell
    exact ⟨hcell, trivial⟩
  · exact hc.attached h ha
  · rcases hid : t.node? id with - | n
    · rw [lookupPath_of_none hid]
      exact hc
    · exact (hc.lookupPath h.forest (by rw [hid]; rfl)).2
  · rcases hid : t.node? id with - | n
    · rw [lookupText_of_none hid]
      exact hc
    · exact (hc.lookupText h.forest (by rw [hid]; rfl)).2

theorem coherent_ofCalls (calls : List Call) : (ofCalls calls).Coherent :=
  ofCalls_induction coherent_empty (fun h hc hstep => hc.step h hstep) calls

/-! ### What a lookup finds -/

/-- The names from the object without a parent down to the object. -/
inductive Named (t : Tree) : ObjectId → List String → Prop
  | top {id : ObjectId} {name : String} (hp : t.parent? id = none) (hn : t.name? id = some name) :
      Named t id [name]
  | under {id p : ObjectId} {names : List String} {name : String} (hp : t.parent? id = some p)
      (hn : t.name? id = some name) (h : Named t p names) : Named t id (names ++ [name])

theorem Forest.named_path (h : t.Forest) {id : ObjectId} (hid : (t.node? id).isSome) :
    t.Named id (t.path id).elements := by
  refine h.induction (motive := fun id => (t.node? id).isSome → t.Named id (t.path id).elements)
    (fun id ih hid => ?_) id hid
  obtain ⟨name, hn⟩ := Option.isSome_iff_exists.mp (isSome_name? ▸ hid)
  rcases hp : t.parent? id with - | p
  · rw [h.path_of_top hp hn]
    exact .top hp hn
  · rw [h.path_of_parent hp hn]
    exact .under hp hn (ih p hp (h.node?_of_parent hp))

/-- An object has one list of names. -/
theorem Named.unique {id : ObjectId} {xs ys : List String} (hx : t.Named id xs)
    (hy : t.Named id ys) : xs = ys := by
  induction hx generalizing ys with
  | top hp hn =>
    cases hy with
    | top hp' hn' => rw [Option.some.inj (hn.symm.trans hn')]
    | under hp' => exact absurd (hp.symm.trans hp') (by simp)
  | under hp hn _ ih =>
    cases hy with
    | top hp' => exact absurd (hp.symm.trans hp') (by simp)
    | under hp' hn' hy =>
      cases hp.symm.trans hp'
      rw [ih hy, Option.some.inj (hn.symm.trans hn')]

theorem getPath_of_known {id : ObjectId} (hid : (t.node? id).isSome) :
    getPath id t = .ok (t.lookupPath id).1 (t.lookupPath id).2 := by
  obtain ⟨n, hn⟩ := Option.isSome_iff_exists.mp hid
  unfold getPath
  rw [bind_of_ok (getNode_of_some hn)]
  rfl

theorem getText_of_known {id : ObjectId} (hid : (t.node? id).isSome) :
    getText id t = .ok (t.lookupText id).1 (t.lookupText id).2 := by
  obtain ⟨n, hn⟩ := Option.isSome_iff_exists.mp hid
  unfold getText
  rw [bind_of_ok (getNode_of_some hn)]
  rfl

/-- What is found of an object: these names, and no others, are those along the links; they are
its path, whether or not anything is remembered, and with `/` before each its text. -/
structure Finds (t : Tree) (id : ObjectId) (names : List String) : Prop where
  named : ∀ xs, t.Named id xs ↔ xs = names
  path : valueOf (getPath id t) = some ⟨names⟩
  afresh : valueOf (getPath id t.uncached) = some ⟨names⟩
  text : valueOf (getText id t) = some (String.join (names.map ("/" ++ ·)))

theorem coherent_uncached (t : Tree) : t.uncached.Coherent := by
  intro id cell hcell
  have hnone : t.uncached.remembered? id = none := by
    unfold remembered? uncached
    rw [node?_map]
    rcases t.node? id with - | n <;> rfl
  exact absurd (hnone.symm.trans hcell) (by simp)

theorem Coherent.finds (hc : t.Coherent) (h : t.Sound) {id : ObjectId}
    (hid : (t.node? id).isSome) : t.Finds id (t.path id).elements := by
  have hnamed := h.forest.named_path hid
  refine ⟨fun xs => ⟨fun hxs => hxs.unique hnamed, fun hxs => hxs ▸ hnamed⟩, ?_, ?_, ?_⟩
  · rw [getPath_of_known hid, (hc.lookupPath h.forest hid).1]
    rfl
  · have hsound : t.uncached.Sound := h.of_uncached (uncached_uncached t)
    have hid' : (t.uncached.node? id).isSome := (isSome_node?_uncached id).trans hid
    rw [getPath_of_known hid', ((coherent_uncached t).lookupPath hsound.forest hid').1,
      path_uncached]
    rfl
  · rw [getText_of_known hid, (hc.lookupText h.forest hid).1, Path.render_eq]
    rfl

/-- Whatever has been called, and whether or not it has succeeded, the path that is found of an
object is given by the names from the object without a parent down, as they are now. -/
theorem finds_ofCalls (calls : List Call) (id : ObjectId)
    (hid : ((ofCalls calls).node? id).isSome) : ∃ names, (ofCalls calls).Finds id names :=
  ⟨_, (coherent_ofCalls calls).finds (sound_ofCalls calls) hid⟩

/-- The path of a case is written, and then its suite is attached to another one. -/
def movedCalls : List Call :=
  [.suite "inner", .addCase 0 "case" [], .text 1, .suite "outer", .attach 2 0]

theorem finds_of_moved : (ofCalls movedCalls).Finds 1 ["outer", "inner", "case"] := by
  obtain ⟨names, hfinds⟩ := finds_ofCalls movedCalls 1 (by decide +kernel)
  have houter : (ofCalls movedCalls).Named 2 ["outer"] := .top (by decide +kernel) (by decide +kernel)
  have hinner : (ofCalls movedCalls).Named 0 (["outer"] ++ ["inner"]) :=
    .under (by decide +kernel) (by decide +kernel) houter
  have hcase : (ofCalls movedCalls).Named 1 (["outer", "inner"] ++ ["case"]) :=
    .under (by decide +kernel) (by decide +kernel) hinner
  rw [show ["outer", "inner", "case"] = names from (hfinds.named _).mp hcase]
  exact hfinds

end Tree

end TestEngine
