/-
TestEngine/Proofs/Tree/Representation.lean

What the arena of a tree looks like, whatever calls have built it and whether they
succeeded: the two directions of the links agree, they form ordered trees without cycles,
and names and tags tell siblings and subunits apart (`Tree.Represented`).  Links stay once
they have been set: of all the steps that a call is made of, only one sets a link to a
parent, and it sets that of an object that has none (`parent?_of_step`).

That no object is its own ancestor is said by following the links: from every object a
top object is reached in fewer steps than there are objects (`Forest.climbs`).
-/
import TestEngine.Proofs.Tree.Construction

namespace TestEngine

/-- A case that has not run has tags if it was given subunits. -/
theorem CaseData.Unrun.tags_ne_nil_iff {c : CaseData} (h : c.Unrun) :
    c.tags ≠ [] ↔ ∃ units, c.body = some (.complex units) := by
  obtain ⟨body, hbody, htags, hne⟩ := h.body
  rw [hbody, ← htags]
  rcases body with script | units
  · simp [Body.tags]
  · have hunits : units ≠ [] := fun he => hne (congrArg Body.complex he)
    simpa [Body.tags] using hunits

namespace Tree

variable {t t' : Tree}

/-! ### Climbing -/

/-- The object that is reached by following the links to parents so many times. -/
def climb (t : Tree) : Nat → ObjectId → Option ObjectId
  | 0, id => some id
  | steps + 1, id => (t.parent? id).bind (t.climb steps)

/-- A lineage ends with the object without a parent that is reached by climbing along it. -/
theorem Forest.climb_lineage (h : t.Forest) {id : ObjectId} (hid : (t.node? id).isSome) :
    ∃ steps top, steps + 1 = (t.lineage id).length ∧ t.climb steps id = some top ∧
      (t.node? top).isSome ∧ t.parent? top = none := by
  refine h.induction (motive := fun id => (t.node? id).isSome → ∃ steps top,
    steps + 1 = (t.lineage id).length ∧ t.climb steps id = some top ∧ (t.node? top).isSome ∧
      t.parent? top = none) (fun id ih hid => ?_) id hid
  rcases hp : t.parent? id with - | p
  · exact ⟨0, id, by rw [h.lineage_of_top hid hp]; rfl, rfl, hid, hp⟩
  · obtain ⟨steps, top, hlength, hclimb, htop⟩ := ih p hp (h.node?_of_parent hp)
    refine ⟨steps + 1, top, ?_, ?_, htop⟩
    · rw [h.lineage_of_parent hp, List.length_cons, hlength]
    · rw [climb, hp]
      exact hclimb

/-- From every object a top object is reached in fewer steps than there are objects. -/
theorem Forest.climbs (h : t.Forest) {id : ObjectId} (hid : (t.node? id).isSome) :
    ∃ steps < t.size, ∃ top, t.climb steps id = some top ∧ (t.node? top).isSome ∧
      t.parent? top = none := by
  obtain ⟨steps, top, hlength, hclimb⟩ := h.climb_lineage hid
  have hle : (t.lineage id).length ≤ t.size := h.length_lineageWithin_le t.size id
  exact ⟨steps, by omega, top, hclimb⟩

/-! ### Links stay -/

/-- Whoever has a parent in the first tree has the same one in the second. -/
def KeepsParents (t t' : Tree) : Prop := ∀ c p, t.parent? c = some p → t'.parent? c = some p

theorem parent?_of_step (h : t.Sound) (hstep : Step t t') : KeepsParents t t' := by
  intro c p hp
  rcases hstep with hn | ⟨id, hf⟩ | ha | id | id
  · rw [parent?_push hn.parent]
    exact hp
  · rw [parent?_update hf.toFramed]
    exact hp
  · -- the new child had no parent, so it is not `c`
    have hl := ha.linked h.forest
    rw [parent?_eq_of_uncached (uncached_forgetPathsWithin _ _), hl.parent]
    split
    · rename_i hc
      rw [hc, hl.top] at hp
      exact absurd hp (by simp)
    · exact hp
  · rw [parent?_eq_of_uncached (uncached_lookupPath id)]
    exact hp
  · rw [parent?_eq_of_uncached (uncached_lookupText id)]
    exact hp

theorem Sound.keepsParents (h : t.Sound) (hsteps : Relation.ReflTransGen Step t t') :
    KeepsParents t t' := by
  induction hsteps with
  | refl => exact fun _ _ hp => hp
  | tail hbefore hstep ih =>
    exact fun c p hp => parent?_of_step (h.steps hbefore) hstep c p (ih c p hp)

/-! ### The arena -/

/-- The arena is well-formed. -/
structure Represented (t : Tree) : Prop where
  /-- Names are valid path elements. -/
  isElement : ∀ id name, t.name? id = some name → isElement name = true
  /-- A suite lists the objects whose parent it is, -/
  linked : ∀ p c, c ∈ t.children p ↔ t.parent? c = some p
  /-- each of them once, and no other suite lists them, -/
  once : ∀ p c, c ∈ t.children p →
    (t.children p).count c = 1 ∧ ∀ q, c ∈ t.children q → q = p
  /-- and all that are listed, and that list others, exist. -/
  exists_of_mem : ∀ p c, c ∈ t.children p →
    (t.node? c).isSome ∧ t.kind? p = some .suite
  /-- Following the links to parents comes to an end before all objects have been seen. -/
  climbs : ∀ id, (t.node? id).isSome →
    ∃ steps < t.size, ∃ top, t.climb steps id = some top ∧ (t.node? top).isSome ∧
      t.parent? top = none
  /-- Siblings have different names. -/
  siblings : ∀ p, ((t.children p).map t.name?).Nodup
  /-- The complex cases are those that were given subunits, -/
  complex : ∀ id c, t.case? id = some c →
    (t.kind? id = some .complexCase ↔ ∃ units, c.body = some (.complex units))
  /-- and their tags are those of the subunits, at least one, valid path elements, and different. -/
  tags : ∀ id c units, t.case? id = some c → c.body = some (.complex units) →
    c.tags = units.map Prod.fst ∧ c.tags ≠ [] ∧ (∀ tag ∈ c.tags, TestEngine.isElement tag = true) ∧
      c.tags.Nodup

theorem kind?_of_mem_children {p c : ObjectId} (h : c ∈ t.children p) :
    t.kind? p = some .suite := by
  unfold children at h
  unfold kind?
  rcases hn : t.node? p with - | n <;> rw [hn] at h
  · exact absurd h (by simp)
  · rcases hk : n.kind with children | data
    · simp [Node.case?, hk]
    · exact absurd h (by simp [Node.children, hk])

theorem kind?_of_case {id : ObjectId} {c : CaseData} (h : t.case? id = some c) :
    t.kind? id = some (if c.tags.isEmpty then .case else .complexCase) := by
  obtain ⟨n, hn, hc⟩ := Option.bind_eq_some_iff.mp h
  unfold kind?
  rw [hn, Option.map_some, hc]

theorem Sound.represented (h : t.Sound) : t.Represented where
  isElement _ _ hname := h.forest.isElement hname
  linked _ _ := h.forest.mem_children
  once p c hc := by
    refine ⟨List.count_eq_one_of_mem (h.forest.nodup p) hc, fun q hq => ?_⟩
    have hp := h.forest.mem_children.mp hc
    rw [h.forest.mem_children.mp hq] at hp
    exact Option.some.inj hp
  exists_of_mem _ _ hc :=
    ⟨isSome_node?_of_parent? (h.forest.mem_children.mp hc), kind?_of_mem_children hc⟩
  climbs _ hid := h.forest.climbs hid
  siblings p := List.Nodup.map_on (fun _ ha _ hb hab =>
    h.forest.siblings (h.forest.mem_children.mp ha) (h.forest.mem_children.mp hb) hab)
    (h.forest.nodup p)
  complex id c hc := by
    rw [kind?_of_case hc, ← (h.unrun hc).tags_ne_nil_iff]
    rcases c.tags with - | ⟨tag, tags⟩ <;> simp
  tags id c units hc hbody := by
    have hunrun := h.unrun hc
    refine ⟨?_, hunrun.tags_ne_nil_iff.mpr ⟨units, hbody⟩, hunrun.isElement, hunrun.nodup⟩
    obtain ⟨body, hbody', htags, -⟩ := hunrun.body
    cases hbody.symm.trans hbody'
    exact htags.symm

/-- After any calls, successful or not, the arena is well-formed, and whatever is called later,
nobody's parent is changed or cleared. -/
theorem represented_ofCalls (calls later : List Call) :
    (ofCalls calls).Represented ∧ KeepsParents (ofCalls calls) (ofCalls (calls ++ later)) :=
  ⟨(sound_ofCalls calls).represented,
    (sound_ofCalls calls).keepsParents (steps_ofCalls_append calls later)⟩

end Tree

end TestEngine
