/-
TestEngine/Proofs/Tree/View.lean

Which changes of a tree can be seen, and through which views.

* An object that is changed changes alone (`node?_update`, `case?_updateCase`).
* A run uses up the bodies and teardowns of cases and stores their results, and all
  else stays.  What stays is the *static* part of a tree (`Tree.static`); lineages,
  paths, leaves, tags, dependencies and policies are views of that part alone, so two
  trees with the same static part agree on them.
* Remembered paths are not visible to any view (`Tree.uncached`).

Both parts are obtained by changing every object in the same way (`Tree.map`); the
walks are followed through such a change once, for every change that keeps names and
links (`Node.Framed`).
-/
import TestEngine.Tree.Build

namespace TestEngine

/-! ### The static part -/

/-- The data of a case without what a run uses up and stores. -/
def CaseData.static (c : CaseData) : CaseData :=
  { c with body := none, teardown := none, result := none }

namespace Node

/-- The kind of an object without what a run changes. -/
def staticKind : NodeKind → NodeKind
  | .suite children => .suite children
  | .case data => .case data.static

/-- An object without what a run changes. -/
def static (n : Node) : Node := { n with kind := staticKind n.kind }

/-- An object without its remembered path. -/
def uncached (n : Node) : Node := { n with cachedPath := none }

/-- A change of an object that keeps its name, its links and whether it is a suite. -/
structure Framed (f : Node → Node) : Prop where
  name : ∀ n, (f n).name = n.name
  parent : ∀ n, (f n).parent = n.parent
  children : ∀ n, (f n).children = n.children
  isSuite : ∀ n, (f n).isSuite = n.isSuite

theorem static_framed : Framed static := by
  refine ⟨fun n => rfl, fun n => rfl, fun n => ?_, fun n => ?_⟩
  all_goals rcases n with ⟨_, _, _, _, children | data⟩ <;> rfl

theorem uncached_framed : Framed uncached :=
  ⟨fun _ => rfl, fun _ => rfl, fun _ => rfl, fun _ => rfl⟩

theorem case?_static (n : Node) : n.static.case? = n.case?.map CaseData.static := by
  rcases n with ⟨_, _, _, _, children | data⟩ <;> rfl

end Node

namespace Tree

/-- Every object changed in the same way. -/
def map (f : Node → Node) (t : Tree) : Tree := ⟨t.nodes.map f⟩

/-- What no run changes. -/
def static (t : Tree) : Tree := t.map Node.static

/-- What can be seen but for remembered paths. -/
def uncached (t : Tree) : Tree := t.map Node.uncached

variable {t t' : Tree}

theorem ext_node? (h : ∀ id, t.node? id = t'.node? id) : t = t' := by
  rcases t with ⟨nodes⟩
  rcases t' with ⟨nodes'⟩
  exact congrArg Tree.mk (Array.ext_getElem? h)

theorem node?_map (f : Node → Node) (id : ObjectId) : (t.map f).node? id = (t.node? id).map f := by
  simp [map, node?]

theorem size_map (f : Node → Node) : (t.map f).size = t.size := by
  simp [map, size]

/-! ### Changing one object -/

theorem node?_update (id x : ObjectId) (f : Node → Node) :
    (t.update id f).node? x = if x = id then (t.node? x).map f else t.node? x := by
  unfold update node?
  rw [Array.getElem?_modify]
  by_cases hx : x = id
  · rw [if_pos hx.symm, if_pos hx]
  · rw [if_neg (Ne.symm hx), if_neg hx]

/-- The cases stand in the arena. -/
theorem mem_cases {id : ObjectId} {c : CaseData} (h : t.case? id = some c) :
    c ∈ t.nodes.toList.filterMap Node.case? := by
  obtain ⟨n, hn, hc⟩ := Option.bind_eq_some_iff.mp h
  obtain ⟨hlt, hget⟩ := Array.getElem?_eq_some_iff.mp hn
  exact List.mem_filterMap.mpr ⟨n, hget ▸ Array.getElem_mem_toList hlt, hc⟩

theorem case?_updateCase (id x : ObjectId) (f : CaseData → CaseData) :
    (t.updateCase id f).case? x = if x = id then (t.case? x).map f else t.case? x := by
  unfold updateCase case?
  rw [node?_update]
  by_cases hx : x = id
  · rw [if_pos hx, if_pos hx]
    rcases t.node? x with - | ⟨name, parent, cached, policies, children | data⟩ <;> rfl
  · rw [if_neg hx, if_neg hx]

/-- Two changes of a case are one change. -/
theorem updateCase_updateCase (t : Tree) (id : ObjectId) (f g : CaseData → CaseData) :
    (t.updateCase id f).updateCase id g = t.updateCase id (g ∘ f) := by
  apply ext_node?
  intro x
  unfold updateCase
  rw [node?_update, node?_update, node?_update]
  by_cases hx : x = id
  · rw [if_pos hx, if_pos hx, if_pos hx, Option.map_map]
    refine congrArg (fun f => Option.map f _) (funext fun n => ?_)
    rcases n with ⟨_, _, _, _, children | data⟩ <;> rfl
  · rw [if_neg hx, if_neg hx, if_neg hx]

/-- A change that cannot be seen in any object cannot be seen in the tree. -/
theorem map_update {f g : Node → Node} (hg : ∀ n, f (g n) = f n) (id : ObjectId) :
    (t.update id g).map f = t.map f := by
  apply ext_node?
  intro x
  rw [node?_map, node?_map, node?_update]
  by_cases hx : x = id
  · rw [if_pos hx, Option.map_map]
    exact congrArg (fun h => Option.map h _) (funext hg)
  · rw [if_neg hx]

theorem static_updateCase {f : CaseData → CaseData} (hf : ∀ c, (f c).static = c.static)
    (id : ObjectId) : (t.updateCase id f).static = t.static := by
  refine map_update (fun n => ?_) id
  rcases n with ⟨_, _, _, _, children | data⟩
  · rfl
  · exact congrArg (fun c => Node.mk _ _ _ _ (.case c)) (hf data)

/-! ### Views of the frame -/

section Framed

variable {f : Node → Node} (hf : Node.Framed f)

include hf

theorem name?_map (id : ObjectId) : (t.map f).name? id = t.name? id := by
  unfold name?
  rw [node?_map]
  rcases t.node? id with - | n
  · rfl
  · exact congrArg some (hf.name n)

theorem parent?_map (id : ObjectId) : (t.map f).parent? id = t.parent? id := by
  unfold parent?
  rw [node?_map]
  rcases t.node? id with - | n
  · rfl
  · exact hf.parent n

theorem children_map (id : ObjectId) : (t.map f).children id = t.children id := by
  unfold children
  rw [node?_map]
  rcases t.node? id with - | n
  · rfl
  · exact hf.children n

theorem name?_update (id x : ObjectId) : (t.update id f).name? x = t.name? x := by
  unfold name?
  rw [node?_update]
  split
  · rcases t.node? x with - | n
    · rfl
    · exact congrArg some (hf.name n)
  · rfl

theorem parent?_update (id x : ObjectId) : (t.update id f).parent? x = t.parent? x := by
  unfold parent?
  rw [node?_update]
  split
  · rcases t.node? x with - | n
    · rfl
    · exact hf.parent n
  · rfl

theorem children_update (id x : ObjectId) : (t.update id f).children x = t.children x := by
  unfold children
  rw [node?_update]
  by_cases hx : x = id
  · rw [if_pos hx]
    rcases t.node? x with - | n
    · rfl
    · exact hf.children n
  · rw [if_neg hx]

theorem lineageWithin_map (bound : Nat) (id : ObjectId) :
    (t.map f).lineageWithin bound id = t.lineageWithin bound id := by
  induction bound generalizing id with
  | zero => rfl
  | succ bound ih =>
    simp only [lineageWithin, node?_map]
    rcases t.node? id with - | n
    · rfl
    · simp only [Option.map_some, hf.parent]
      rcases n.parent with - | p
      · rfl
      · exact congrArg (id :: ·) (ih p)

theorem lineage_map (id : ObjectId) : (t.map f).lineage id = t.lineage id := by
  unfold lineage
  rw [size_map, lineageWithin_map hf]

theorem path_map (id : ObjectId) : (t.map f).path id = t.path id := by
  unfold path
  rw [lineage_map hf, funext (name?_map hf)]

theorem leavesWithin_map (bound : Nat) (id : ObjectId) :
    (t.map f).leavesWithin bound id = t.leavesWithin bound id := by
  induction bound generalizing id with
  | zero => rfl
  | succ bound ih =>
    simp only [leavesWithin, node?_map]
    rcases t.node? id with - | n
    · rfl
    · have hchildren := hf.children n
      have hsuite := hf.isSuite n
      simp only [Option.map_some]
      unfold Node.children at hchildren
      unfold Node.isSuite Node.case? at hsuite
      rcases hk : n.kind with children | data <;> rcases hk' : (f n).kind with children' | data' <;>
        rw [hk, hk'] at hchildren hsuite
      · rw [← show children' = children from hchildren, funext ih]
      · exact absurd hsuite (by simp)
      · exact absurd hsuite (by simp)

theorem leaves_map (id : ObjectId) : (t.map f).leaves id = t.leaves id := by
  unfold leaves
  rw [size_map, leavesWithin_map hf]

end Framed

/-! ### Views of the static part -/

theorem case?_static (id : ObjectId) : t.static.case? id = (t.case? id).map CaseData.static := by
  unfold case? static
  rw [node?_map]
  rcases t.node? id with - | n
  · rfl
  · exact Node.case?_static n

theorem tags_static (id : ObjectId) : t.static.tags id = t.tags id := by
  unfold tags
  rw [case?_static]
  rcases t.case? id with - | c <;> rfl

theorem dependencies_static (id : ObjectId) : t.static.dependencies id = t.dependencies id := by
  unfold dependencies
  rw [case?_static]
  rcases t.case? id with - | c <;> rfl

theorem kind?_static (id : ObjectId) : t.static.kind? id = t.kind? id := by
  unfold kind? static
  rw [node?_map]
  rcases t.node? id with - | ⟨name, parent, cached, policies, children | data⟩ <;> rfl

theorem inheritedPolicies_static (id : ObjectId) :
    t.static.inheritedPolicies id = t.inheritedPolicies id := by
  unfold inheritedPolicies static
  rw [lineage_map Node.static_framed]
  refine congrArg (fun policies => List.flatMap policies (t.lineage id)) (funext fun a => ?_)
  rw [node?_map]
  rcases t.node? a with - | n <;> rfl

/-- Trees with the same static part agree on every view of it. -/
theorem static_congr {α : Type} (view : Tree → α) (hv : ∀ t, view t.static = view t)
    (h : t'.static = t.static) : view t' = view t := by
  rw [← hv t', h, hv t]

theorem name?_eq_of_static (h : t'.static = t.static) (id : ObjectId) : t'.name? id = t.name? id :=
  static_congr (fun t => t.name? id) (fun _ => name?_map Node.static_framed id) h

theorem parent?_eq_of_static (h : t'.static = t.static) (id : ObjectId) :
    t'.parent? id = t.parent? id :=
  static_congr (fun t => t.parent? id) (fun _ => parent?_map Node.static_framed id) h

theorem path_eq_of_static (h : t'.static = t.static) (id : ObjectId) : t'.path id = t.path id :=
  static_congr (fun t => t.path id) (fun _ => path_map Node.static_framed id) h

theorem leaves_eq_of_static (h : t'.static = t.static) (id : ObjectId) :
    t'.leaves id = t.leaves id :=
  static_congr (fun t => t.leaves id) (fun _ => leaves_map Node.static_framed id) h

theorem tags_eq_of_static (h : t'.static = t.static) (id : ObjectId) : t'.tags id = t.tags id :=
  static_congr (fun t => t.tags id) (fun _ => tags_static id) h

theorem dependencies_eq_of_static (h : t'.static = t.static) (id : ObjectId) :
    t'.dependencies id = t.dependencies id :=
  static_congr (fun t => t.dependencies id) (fun _ => dependencies_static id) h

theorem inheritedPolicies_eq_of_static (h : t'.static = t.static) (id : ObjectId) :
    t'.inheritedPolicies id = t.inheritedPolicies id :=
  static_congr (fun t => t.inheritedPolicies id) (fun _ => inheritedPolicies_static id) h

theorem kind?_eq_of_static (h : t'.static = t.static) (id : ObjectId) :
    t'.kind? id = t.kind? id :=
  static_congr (fun t => t.kind? id) (fun _ => kind?_static id) h

theorem isSome_case?_eq_of_static (h : t'.static = t.static) (id : ObjectId) :
    (t'.case? id).isSome = (t.case? id).isSome :=
  static_congr (fun t => (t.case? id).isSome) (fun _ => by rw [case?_static, Option.isSome_map]) h

/-! ### Views but for remembered paths -/

theorem isSome_node?_uncached (id : ObjectId) :
    (t.uncached.node? id).isSome = (t.node? id).isSome := by
  unfold uncached
  rw [node?_map, Option.isSome_map]

theorem case?_uncached (id : ObjectId) : t.uncached.case? id = t.case? id := by
  unfold case? uncached
  rw [node?_map]
  rcases t.node? id with - | n <;> rfl

theorem uncached_uncached (t : Tree) : t.uncached.uncached = t.uncached := by
  apply ext_node?
  intro id
  unfold uncached
  rw [node?_map, node?_map, Option.map_map]
  rfl

theorem path_uncached (id : ObjectId) : t.uncached.path id = t.path id :=
  path_map Node.uncached_framed id

/-- Trees that differ in remembered paths only agree on every view that does not look at them. -/
theorem uncached_congr {α : Type} (view : Tree → α) (hv : ∀ t, view t.uncached = view t)
    (h : t'.uncached = t.uncached) : view t' = view t := by
  rw [← hv t', h, hv t]

theorem size_eq_of_uncached (h : t'.uncached = t.uncached) : t'.size = t.size :=
  uncached_congr size (fun _ => size_map Node.uncached) h

theorem name?_eq_of_uncached (h : t'.uncached = t.uncached) (id : ObjectId) :
    t'.name? id = t.name? id :=
  uncached_congr (fun t => t.name? id) (fun _ => name?_map Node.uncached_framed id) h

theorem parent?_eq_of_uncached (h : t'.uncached = t.uncached) (id : ObjectId) :
    t'.parent? id = t.parent? id :=
  uncached_congr (fun t => t.parent? id) (fun _ => parent?_map Node.uncached_framed id) h

theorem children_eq_of_uncached (h : t'.uncached = t.uncached) (id : ObjectId) :
    t'.children id = t.children id :=
  uncached_congr (fun t => t.children id) (fun _ => children_map Node.uncached_framed id) h

theorem case?_eq_of_uncached (h : t'.uncached = t.uncached) (id : ObjectId) :
    t'.case? id = t.case? id :=
  uncached_congr (fun t => t.case? id) (fun _ => case?_uncached id) h

theorem lineage_eq_of_uncached (h : t'.uncached = t.uncached) (id : ObjectId) :
    t'.lineage id = t.lineage id :=
  uncached_congr (fun t => t.lineage id) (fun _ => lineage_map Node.uncached_framed id) h

theorem path_eq_of_uncached (h : t'.uncached = t.uncached) (id : ObjectId) :
    t'.path id = t.path id :=
  uncached_congr (fun t => t.path id) (fun _ => path_uncached id) h

theorem leaves_eq_of_uncached (h : t'.uncached = t.uncached) (id : ObjectId) :
    t'.leaves id = t.leaves id :=
  uncached_congr (fun t => t.leaves id) (fun _ => leaves_map Node.uncached_framed id) h

end Tree

end TestEngine
