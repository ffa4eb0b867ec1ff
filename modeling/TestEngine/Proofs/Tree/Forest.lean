/-
TestEngine/Proofs/Tree/Forest.lean

The shape of a tree that was built by its operations: an ordered forest with valid
names, those of siblings different (`Tree.Forest`).

That no object is its own ancestor is stated by a rank that grows from parents to
children; inductions follow it (`Forest.induction`).  It makes the bounds of the
walks harmless, so that lineages and leaves have the equations one expects, and then

* the leaves at or below an object are the cases that have it in their lineage, each
  once (`mem_leaves`, `nodup_leaves`);
* in one tree of the forest, objects are told apart by their paths (`eq_of_path_eq`).
-/
import Mathlib.Data.List.Perm.Subperm
import Mathlib.Data.List.Nodup
import Mathlib.Logic.Relation
import TestEngine.Proofs.Tree.View

namespace TestEngine

namespace Tree

/-- An ordered forest in which every path leads to one object only. -/
structure Forest (t : Tree) : Prop where
  mem_children : ∀ {p c}, c ∈ t.children p ↔ t.parent? c = some p
  nodup : ∀ p, (t.children p).Nodup
  isElement : ∀ {id name}, t.name? id = some name → isElement name = true
  siblings : ∀ {p a b}, t.parent? a = some p → t.parent? b = some p →
    t.name? a = t.name? b → a = b
  ranked : ∃ rank : ObjectId → Nat, ∀ {c p}, t.parent? c = some p → rank p < rank c

/-- The object `a` is `id` or an ancestor of it. -/
def Over (t : Tree) (id a : ObjectId) : Prop :=
  Relation.ReflTransGen (fun x y => t.parent? x = some y) id a

variable {t : Tree}

theorem isSome_node?_of_parent? {c p : ObjectId} (h : t.parent? c = some p) :
    (t.node? c).isSome := by
  unfold parent? at h
  rcases hn : t.node? c with - | n
  · rw [hn] at h
    exact absurd h (by simp)
  · rfl

theorem children_of_case {id : ObjectId} {c : CaseData} (h : t.case? id = some c) :
    t.children id = [] := by
  unfold case? at h
  unfold children
  rcases hn : t.node? id with - | n
  · rfl
  · rcases hk : n.kind with children | data
    · exact absurd h (by simp [hn, Node.case?, hk])
    · simp only [Node.children, hk]

theorem isSome_name? {id : ObjectId} : (t.name? id).isSome = (t.node? id).isSome :=
  Option.isSome_map

/-- Only an object has leaves. -/
theorem isSome_node?_of_mem_leaves {id l : ObjectId} (h : l ∈ t.leaves id) :
    (t.node? id).isSome := by
  unfold leaves at h
  rcases hsize : t.size with - | bound <;> rw [hsize] at h
  · exact absurd h (by simp [leavesWithin])
  · unfold leavesWithin at h
    rcases hn : t.node? id with - | n
    · exact absurd h (by simp [hn])
    · rfl

theorem lt_size_of_node? {id : ObjectId} (h : (t.node? id).isSome) : id < t.size := by
  unfold node? at h
  simpa [size] using h

theorem mem_lineageWithin {bound : Nat} {id x : ObjectId} (h : x ∈ t.lineageWithin bound id) :
    (t.node? x).isSome := by
  induction bound generalizing id with
  | zero => exact absurd h (by simp [lineageWithin])
  | succ bound ih =>
    unfold lineageWithin at h
    rcases hn : t.node? id with - | n <;> simp only [hn] at h
    · exact absurd h (by simp)
    · rcases List.mem_cons.mp h with rfl | h
      · rw [hn]; rfl
      · rcases hp : n.parent with - | p <;> simp only [hp] at h
        · exact absurd h (by simp)
        · exact ih h

/-- A walk that was not cut short by its bound is not changed by a greater one. -/
theorem lineageWithin_succ {bound : Nat} {id : ObjectId}
    (h : (t.lineageWithin (bound + 1) id).length ≤ bound) :
    t.lineageWithin (bound + 1) id = t.lineageWithin bound id := by
  induction bound generalizing id with
  | zero => simpa [lineageWithin] using h
  | succ bound ih =>
    rw [lineageWithin] at h ⊢
    rw [lineageWithin]
    rcases hn : t.node? id with - | n <;> simp only [hn] at h ⊢
    rcases hp : n.parent with - | p <;> simp only [hp] at h ⊢
    -- the rest of the walk is shorter than its bound by as much
    rw [ih (Nat.le_of_succ_le_succ h)]

/-- Along a lineage the rank falls. -/
theorem lineageWithin_ranked {rank : ObjectId → Nat}
    (hrank : ∀ {c p}, t.parent? c = some p → rank p < rank c) (bound : Nat) (id : ObjectId) :
    (∀ x ∈ t.lineageWithin bound id, rank x ≤ rank id) ∧ (t.lineageWithin bound id).Nodup := by
  induction bound generalizing id with
  | zero => simp [lineageWithin]
  | succ bound ih =>
    unfold lineageWithin
    rcases hn : t.node? id with - | n
    · simp
    · rcases hp : n.parent with - | p <;> simp only [hp]
      · simp
      · -- the object ranks above its parent, and so above the rest of its lineage
        obtain ⟨hle, hnodup⟩ := ih p
        have hlt : rank p < rank id := hrank (by rw [parent?, hn]; exact hp)
        refine ⟨fun x hx => ?_, List.nodup_cons.mpr ⟨fun hx => ?_, hnodup⟩⟩
        · rcases List.mem_cons.mp hx with rfl | hx
          · exact Nat.le_refl _
          · exact Nat.le_trans (hle x hx) (Nat.le_of_lt hlt)
        · exact absurd (hle id hx) (Nat.not_le.mpr hlt)

namespace Forest

variable (h : t.Forest)

include h

/-- What holds of an object if it holds of its parent holds of every object. -/
theorem induction {motive : ObjectId → Prop}
    (step : ∀ id, (∀ p, t.parent? id = some p → motive p) → motive id) (id : ObjectId) :
    motive id := by
  obtain ⟨rank, hrank⟩ := h.ranked
  induction hk : rank id using Nat.strongRecOn generalizing id with
  | _ k ih => exact step id fun p hp => ih _ (hk ▸ hrank hp) p rfl

theorem node?_of_parent {c p : ObjectId} (hp : t.parent? c = some p) : (t.node? p).isSome := by
  have hmem := h.mem_children.mpr hp
  rcases hn : t.node? p with - | n
  · exact absurd hmem (by simp [Tree.children, hn])
  · rfl

/-! ### Lineages -/

theorem length_lineageWithin_le (bound : Nat) (id : ObjectId) :
    (t.lineageWithin bound id).length ≤ t.size := by
  -- a lineage holds objects of the tree, none twice
  obtain ⟨rank, hrank⟩ := h.ranked
  have hsub : t.lineageWithin bound id ⊆ List.range t.size := fun x hx =>
    List.mem_range.mpr (lt_size_of_node? (mem_lineageWithin hx))
  have hnodup := (lineageWithin_ranked hrank bound id).2
  rw [← List.length_range (n := t.size)]
  exact (List.Nodup.subperm hnodup hsub).length_le

theorem lineage_eq (id : ObjectId) :
    t.lineage id = match t.node? id with
      | none => []
      | some n => id :: match n.parent with
        | none => []
        | some p => t.lineage p := by
  have hlen := h.length_lineageWithin_le (t.size + 1) id
  unfold lineage
  rw [← lineageWithin_succ hlen]
  rfl

theorem lineage_of_parent {c p : ObjectId} (hp : t.parent? c = some p) :
    t.lineage c = c :: t.lineage p := by
  rw [h.lineage_eq]
  unfold parent? at hp
  rcases hn : t.node? c with - | n <;> rw [hn] at hp
  · exact absurd hp (by simp)
  · have hp : n.parent = some p := hp
    simp only [hp]

theorem lineage_of_top {id : ObjectId} (hn : (t.node? id).isSome) (hp : t.parent? id = none) :
    t.lineage id = [id] := by
  rw [h.lineage_eq]
  unfold parent? at hp
  rcases hn' : t.node? id with - | n <;> rw [hn'] at hn hp
  · exact absurd hn (by simp)
  · have hp : n.parent = none := hp
    simp only [hp]

theorem mem_lineage_self {id : ObjectId} (hn : (t.node? id).isSome) : id ∈ t.lineage id := by
  rw [h.lineage_eq]
  rcases hn' : t.node? id with - | n
  · rw [hn'] at hn
    exact absurd hn (by simp)
  · exact List.mem_cons_self ..

/-- An object is in the lineage of another one if it is the other one, or if it is in the
lineage of its parent. -/
theorem mem_lineage {id a : ObjectId} :
    a ∈ t.lineage id ↔
      (a = id ∧ (t.node? id).isSome) ∨ ∃ p, t.parent? id = some p ∧ a ∈ t.lineage p := by
  rcases hp : t.parent? id with - | p
  · rcases hn : t.node? id with - | n
    · rw [h.lineage_eq, hn]
      simp
    · rw [h.lineage_of_top (by rw [hn]; rfl) hp]
      simp
  · rw [h.lineage_of_parent hp, List.mem_cons]
    simp [isSome_node?_of_parent? hp]

theorem mem_lineage_trans {a b c : ObjectId} (hab : a ∈ t.lineage b) (hbc : b ∈ t.lineage c) :
    a ∈ t.lineage c := by
  refine h.induction (motive := fun c => b ∈ t.lineage c → a ∈ t.lineage c)
    (fun c ih hbc => ?_) c hbc
  rcases h.mem_lineage.mp hbc with ⟨rfl, -⟩ | ⟨p, hp, hbp⟩
  · exact hab
  · exact h.mem_lineage.mpr (.inr ⟨p, hp, ih p hp hbp⟩)

/-- A lineage holds the object and its ancestors. -/
theorem mem_lineage_iff_over {id a : ObjectId} (hid : (t.node? id).isSome = true) :
    a ∈ t.lineage id ↔ t.Over id a := by
  constructor
  · refine h.induction (motive := fun id => a ∈ t.lineage id → t.Over id a) (fun id ih ha => ?_) id
    rcases h.mem_lineage.mp ha with ⟨rfl, -⟩ | ⟨p, hp, ha⟩
    · exact Relation.ReflTransGen.refl
    · exact Relation.ReflTransGen.head hp (ih p hp ha)
  · intro hover
    refine Relation.ReflTransGen.head_induction_on
      (motive := fun x _ => (t.node? x).isSome = true → a ∈ t.lineage x) hover
      h.mem_lineage_self (fun hp _ ih _ => ?_) hid
    exact h.mem_lineage.mpr (.inr ⟨_, hp, ih (h.node?_of_parent hp)⟩)

/-- No object is in the lineage of its parent. -/
theorem not_mem_lineage_parent {c p : ObjectId} (hp : t.parent? c = some p) :
    c ∉ t.lineage p := by
  obtain ⟨rank, hrank⟩ := h.ranked
  intro hc
  exact absurd ((lineageWithin_ranked hrank t.size p).1 c hc) (Nat.not_le.mpr (hrank hp))

/-- At most one of several siblings is in a given lineage. -/
theorem eq_of_mem_lineage {id a b p : ObjectId} (ha : a ∈ t.lineage id) (hb : b ∈ t.lineage id)
    (hap : t.parent? a = some p) (hbp : t.parent? b = some p) : a = b := by
  refine h.induction (motive := fun id => a ∈ t.lineage id → b ∈ t.lineage id → a = b)
    (fun id ih ha hb => ?_) id ha hb
  -- if one of them is the object itself, the other would be in the lineage of its parent
  rcases h.mem_lineage.mp ha with ⟨rfl, -⟩ | ⟨q, hq, haq⟩ <;>
    rcases h.mem_lineage.mp hb with ⟨rfl, -⟩ | ⟨q', hq', hbq⟩
  · rfl
  · rw [hap] at hq'
    cases hq'
    exact absurd hbq (h.not_mem_lineage_parent hbp)
  · rw [hbp] at hq
    cases hq
    exact absurd haq (h.not_mem_lineage_parent hap)
  · rw [hq] at hq'
    cases hq'
    exact ih q hq haq hbq

/-- All that share an ancestor are in the same tree of the forest. -/
theorem getLast?_lineage {a id : ObjectId} (ha : a ∈ t.lineage id) :
    (t.lineage id).getLast? = (t.lineage a).getLast? := by
  refine h.induction (motive := fun id => a ∈ t.lineage id →
    (t.lineage id).getLast? = (t.lineage a).getLast?) (fun id ih ha => ?_) id ha
  rcases h.mem_lineage.mp ha with ⟨rfl, -⟩ | ⟨p, hp, hap⟩
  · rfl
  · rw [h.lineage_of_parent hp, ← ih p hp hap]
    rcases hl : t.lineage p with - | ⟨x, xs⟩
    · rw [hl] at hap
      exact absurd hap (by simp)
    · rw [List.getLast?_cons_cons]

/-! ### Leaves -/

omit h in
/-- A walk down that is deep enough for all lineages is not changed by a greater bound. -/
theorem leavesWithin_succ (h : t.Forest) {bound : Nat} {id : ObjectId}
    (hb : t.size < bound + (t.lineage id).length) :
    t.leavesWithin (bound + 1) id = t.leavesWithin bound id := by
  induction bound generalizing id with
  | zero =>
    have := h.length_lineageWithin_le t.size id
    unfold lineage at hb
    omega
  | succ bound ih =>
    rw [leavesWithin]
    conv => rhs; rw [leavesWithin]
    rcases hn : t.node? id with - | n
    · rfl
    rcases hk : n.kind with children | data <;> simp only [hk]
    -- a child has one more object in its lineage, which makes up for the smaller bound
    refine List.flatMap_congr fun c hc => ih ?_
    have hp : t.parent? c = some id := h.mem_children.mp (by
      rw [Tree.children, hn]
      simpa [Node.children, hk] using hc)
    rw [h.lineage_of_parent hp, List.length_cons]
    omega

theorem leaves_eq (id : ObjectId) :
    t.leaves id = match t.node? id with
      | none => []
      | some n => match n.kind with
        | .case _ => [id]
        | .suite children => children.flatMap t.leaves := by
  rcases hn : t.node? id with - | n
  · unfold leaves
    rcases hs : t.size with - | bound
    · rfl
    · simp only [leavesWithin, hn]
  · have hlen : 0 < (t.lineage id).length :=
      List.length_pos_of_mem (h.mem_lineage_self (by rw [hn]; rfl))
    unfold leaves
    rw [← leavesWithin_succ h (by omega : t.size < t.size + (t.lineage id).length), leavesWithin]
    rcases hk : n.kind with children | c <;> simp only [hn, hk]

theorem leaves_of_case {id : ObjectId} (hc : (t.case? id).isSome) : t.leaves id = [id] := by
  rw [h.leaves_eq]
  unfold case? at hc
  rcases hn : t.node? id with - | n <;> rw [hn] at hc
  · exact absurd hc (by simp)
  · rcases hk : n.kind with children | data
    · exact absurd hc (by simp [Node.case?, hk])
    · simp only [hk]

theorem leaves_of_suite {id : ObjectId} (hc : t.case? id = none) :
    t.leaves id = (t.children id).flatMap t.leaves := by
  rw [h.leaves_eq]
  unfold case? at hc
  unfold Tree.children
  rcases hn : t.node? id with - | n <;> rw [hn] at hc
  · rfl
  · rcases hk : n.kind with children | data
    · simp only [Node.children, hk]
    · exact absurd hc (by simp [Node.case?, hk])

/-- The leaves below an object are below its ancestors. -/
theorem leaves_subset {a id : ObjectId} (ha : a ∈ t.lineage id) : t.leaves id ⊆ t.leaves a := by
  refine h.induction (motive := fun id => a ∈ t.lineage id → t.leaves id ⊆ t.leaves a)
    (fun id ih ha => ?_) id ha
  rcases h.mem_lineage.mp ha with ⟨rfl, -⟩ | ⟨p, hp, hap⟩
  · exact fun l hl => hl
  · intro l hl
    have hmem : id ∈ t.children p := h.mem_children.mpr hp
    have hcase : t.case? p = none := by
      rcases hc : t.case? p with - | c
      · rfl
      · rw [children_of_case hc] at hmem
        exact absurd hmem (by simp)
    apply ih p hp hap
    rw [h.leaves_of_suite hcase]
    exact List.mem_flatMap.mpr ⟨id, hmem, hl⟩

theorem mem_leavesWithin {bound : Nat} {l id : ObjectId} (hl : l ∈ t.leavesWithin bound id) :
    (t.case? l).isSome ∧ id ∈ t.lineage l := by
  induction bound generalizing id with
  | zero => exact absurd hl (by simp [leavesWithin])
  | succ bound ih =>
    unfold leavesWithin at hl
    rcases hn : t.node? id with - | n <;> simp only [hn] at hl
    · exact absurd hl (by simp)
    · have hid : id ∈ t.lineage id := h.mem_lineage_self (by rw [hn]; rfl)
      rcases hk : n.kind with children | data <;> simp only [hk] at hl
      · obtain ⟨c, hc, hl⟩ := List.mem_flatMap.mp hl
        obtain ⟨hcase, hmem⟩ := ih hl
        have hp : t.parent? c = some id := h.mem_children.mp (by
          rw [Tree.children, hn]
          simpa [Node.children, hk] using hc)
        exact ⟨hcase, h.mem_lineage_trans (h.mem_lineage.mpr (.inr ⟨id, hp, hid⟩)) hmem⟩
      · rw [List.mem_singleton.mp hl]
        refine ⟨?_, hid⟩
        simp [case?, hn, Node.case?, hk]

/-- The leaves at or below an object are the cases with the object in their lineage. -/
theorem mem_leaves {l id : ObjectId} :
    l ∈ t.leaves id ↔ (t.case? l).isSome ∧ id ∈ t.lineage l := by
  constructor
  · exact h.mem_leavesWithin
  · rintro ⟨hcase, hmem⟩
    apply h.leaves_subset hmem
    rw [h.leaves_of_case hcase]
    exact List.mem_singleton_self l

theorem nodup_leavesWithin (bound : Nat) (id : ObjectId) : (t.leavesWithin bound id).Nodup := by
  induction bound generalizing id with
  | zero => exact List.nodup_nil
  | succ bound ih =>
    unfold leavesWithin
    rcases hn : t.node? id with - | n
    · exact List.nodup_nil
    rcases hk : n.kind with children | data <;> simp only [hk]
    · have hchildren : t.children id = children := by
        unfold Tree.children
        simp only [hn, Node.children, hk]
      refine List.nodup_flatMap.mpr ⟨fun c _ => ih c, ?_⟩
      have hnodup : children.Nodup := hchildren ▸ h.nodup id
      -- a common leaf would have two siblings in its lineage
      refine List.Pairwise.imp_of_mem (fun {a b} ha hb hab l hla hlb => hab ?_) hnodup
      rw [← hchildren] at ha hb
      exact h.eq_of_mem_lineage (h.mem_leavesWithin hla).2 (h.mem_leavesWithin hlb).2
        (h.mem_children.mp ha) (h.mem_children.mp hb)
    · exact List.nodup_singleton id

theorem nodup_leaves (id : ObjectId) : (t.leaves id).Nodup := h.nodup_leavesWithin t.size id

/-- What has the same parent as a case below a root has its leaves below the root too. -/
theorem leaves_subset_of_sibling {root c d : ObjectId} (hc : c ∈ t.leaves root) (hne : c ≠ root)
    (hp : t.parent? d = t.parent? c) : t.leaves d ⊆ t.leaves root := by
  rcases h.mem_lineage.mp (h.mem_leaves.mp hc).2 with ⟨rfl, -⟩ | ⟨p, hcp, hroot⟩
  · exact absurd rfl hne
  · exact h.leaves_subset (h.mem_lineage.mpr (.inr ⟨p, hp.trans hcp, hroot⟩))

/-! ### Paths -/

theorem path_of_parent {c p : ObjectId} {name : String} (hp : t.parent? c = some p)
    (hn : t.name? c = some name) : (t.path c).elements = (t.path p).elements ++ [name] := by
  unfold path
  rw [h.lineage_of_parent hp]
  simp [hn]

theorem path_of_top {id : ObjectId} {name : String} (hp : t.parent? id = none)
    (hn : t.name? id = some name) : (t.path id).elements = [name] := by
  have hnode : (t.node? id).isSome := by
    unfold name? at hn
    rcases hn' : t.node? id with - | n <;> rw [hn'] at hn
    · exact absurd hn (by simp)
    · rfl
  unfold path
  rw [h.lineage_of_top hnode hp]
  simp [hn]

theorem path_ne_empty {id : ObjectId} (hn : (t.node? id).isSome) : (t.path id).elements ≠ [] := by
  obtain ⟨name, hname⟩ := Option.isSome_iff_exists.mp (isSome_name? ▸ hn)
  rcases hp : t.parent? id with - | p
  · rw [h.path_of_top hp hname]
    simp
  · rw [h.path_of_parent hp hname]
    simp

theorem isElement_of_mem_path {id : ObjectId} {name : String}
    (hn : name ∈ (t.path id).elements) : TestEngine.isElement name = true := by
  obtain ⟨a, -, ha⟩ := List.mem_filterMap.mp hn
  exact h.isElement ha

/-- In one tree of the forest, objects with the same path are the same. -/
theorem eq_of_path_eq {a b : ObjectId} (ha : (t.node? a).isSome) (hb : (t.node? b).isSome)
    (htop : (t.lineage a).getLast? = (t.lineage b).getLast?) (hpath : t.path a = t.path b) :
    a = b := by
  refine h.induction (motive := fun a => ∀ b, (t.node? a).isSome → (t.node? b).isSome →
    (t.lineage a).getLast? = (t.lineage b).getLast? → t.path a = t.path b → a = b)
    (fun a ih b ha hb htop hpath => ?_) a b ha hb htop hpath
  obtain ⟨m, hm⟩ := Option.isSome_iff_exists.mp (isSome_name? ▸ ha)
  obtain ⟨n, hn⟩ := Option.isSome_iff_exists.mp (isSome_name? ▸ hb)
  have helements := congrArg Path.elements hpath
  -- a path of one name is that of a top object; longer ones are split at their last names
  rcases hap : t.parent? a with - | p <;> rcases hbp : t.parent? b with - | q
  · rw [h.lineage_of_top ha hap, h.lineage_of_top hb hbp] at htop
    exact Option.some.inj htop
  · rw [h.path_of_top hap hm, h.path_of_parent hbp hn, List.singleton_eq_append_iff] at helements
    rcases helements with ⟨hempty, -⟩ | ⟨-, hempty⟩
    · exact absurd hempty (h.path_ne_empty (h.node?_of_parent hbp))
    · exact absurd hempty (by simp)
  · rw [h.path_of_parent hap hm, h.path_of_top hbp hn, List.append_eq_singleton_iff] at helements
    rcases helements with ⟨hempty, -⟩ | ⟨-, hempty⟩
    · exact absurd hempty (h.path_ne_empty (h.node?_of_parent hap))
    · exact absurd hempty (by simp)
  · rw [h.path_of_parent hap hm, h.path_of_parent hbp hn] at helements
    obtain ⟨hinit, hlast⟩ := List.append_inj' helements rfl
    have hnp := h.node?_of_parent hap
    have hnq := h.node?_of_parent hbp
    have htop' : (t.lineage p).getLast? = (t.lineage q).getLast? := by
      rw [← h.getLast?_lineage (h.mem_lineage.mpr (.inr ⟨p, hap, h.mem_lineage_self hnp⟩)),
        ← h.getLast?_lineage (h.mem_lineage.mpr (.inr ⟨q, hbp, h.mem_lineage_self hnq⟩))]
      exact htop
    have hpq : p = q := ih p hap q hnp hnq htop' (congrArg Path.mk hinit)
    rw [← hpq] at hbp
    refine h.siblings hap hbp ?_
    rw [hm, hn, List.singleton_inj.mp hlast]

end Forest

end Tree

end TestEngine
