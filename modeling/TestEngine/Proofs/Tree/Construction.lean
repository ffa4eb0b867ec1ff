/-
TestEngine/Proofs/Tree/Construction.lean

The trees that can be built.  A program builds a tree by a sequence of calls
(`Tree.Call`), each of which may fail and may then have done a part of its work; what a
failed call leaves behind is a tree to go on with.  `Tree.ofCalls` is the tree after a
sequence of calls.

A call does one thing after another to the tree, and there are five things that it can do
(`Tree.Step`): it adds a new object, declares something about one, makes one the last child
of a suite, or looks a path up, or the text of one.  What holds of the empty tree and
survives every step holds of every tree that can be built (`ofCalls_induction`).

Every such tree is *sound* (`sound_ofCalls`): its objects form a forest, and its cases
have not run yet and are fit to run.
-/
import Mathlib.Logic.Relation
import TestEngine.Proofs.Effect
import TestEngine.Proofs.Tree.Forest

namespace TestEngine

/-! ### Calls -/

namespace Tree

/-- What a program can ask of a tree while building it. -/
inductive Call
  | suite (name : String)
  | addSuite (parent : ObjectId) (name : String)
  | case (name : String) (body : Script) (teardown : Option Script)
  | addCase (parent : ObjectId) (name : String) (body : Script)
  | complexCase (name : String) (units : List (String × Script)) (teardown : Option Script)
  | addComplexCase (parent : ObjectId) (name : String) (units : List (String × Script))
      (teardown : Option Script)
  | attach (parent child : ObjectId)
  | addDependency (object dependency : ObjectId)
  | addExpectation (object : ObjectId) (e : Expectation)
  | failIfLogged (object : ObjectId) (p : Policy)
  | path (object : ObjectId)
  | text (object : ObjectId)

/-- The tree after a call. -/
def Call.after (t : Tree) : Call → Tree
  | .suite name => endOf (Tree.suite name t)
  | .addSuite parent name => endOf (Tree.addSuite parent name t)
  | .case name body teardown => endOf (Tree.case name body teardown t)
  | .addCase parent name body => endOf (Tree.addCase parent name body t)
  | .complexCase name units teardown => endOf (Tree.complexCase name units teardown t)
  | .addComplexCase parent name units teardown =>
    endOf (Tree.addComplexCase parent name units teardown t)
  | .attach parent child => endOf (Tree.attach parent child t)
  | .addDependency object dependency => endOf (Tree.addDependency object dependency t)
  | .addExpectation object e => endOf (Tree.addExpectation object e t)
  | .failIfLogged object p => endOf (Tree.failIfLogged object p t)
  | .path object => endOf (Tree.getPath object t)
  | .text object => endOf (Tree.getText object t)

/-- The tree after a sequence of calls. -/
def ofCalls (calls : List Call) : Tree := calls.foldl Call.after .empty

end Tree

/-! ### Soundness -/

/-- A case that has not run and is fit to run: its body fits its tags, of which there are
none or some that can be told apart in paths. -/
structure CaseData.Unrun (c : CaseData) : Prop where
  result : c.result = none
  body : ∃ body, c.body = some body ∧ body.tags = c.tags ∧ body ≠ .complex []
  nodup : c.tags.Nodup
  isElement : ∀ tag ∈ c.tags, isElement tag = true

namespace Tree

/-- A forest whose cases have not run. -/
structure Sound (t : Tree) : Prop where
  forest : t.Forest
  unrun : ∀ {id c}, t.case? id = some c → c.Unrun

variable {t t' : Tree}

/-- Soundness is a matter of names, links and cases; of the names only those of attached
objects have to stay. -/
theorem Sound.of_links (h : t.Sound)
    (helement : ∀ {id name}, t'.name? id = some name → TestEngine.isElement name = true)
    (hname : ∀ {id p}, t.parent? id = some p → t'.name? id = t.name? id)
    (hparent : ∀ id, t'.parent? id = t.parent? id)
    (hchildren : ∀ id, t'.children id = t.children id)
    (hcase : ∀ {id c}, t'.case? id = some c → c.Unrun) : t'.Sound := by
  refine ⟨⟨?_, ?_, helement, ?_, ?_⟩, hcase⟩
  · intro p c
    rw [hchildren, hparent]
    exact h.forest.mem_children
  · intro p
    rw [hchildren]
    exact h.forest.nodup p
  · intro p a b ha hb hab
    rw [hparent] at ha hb
    rw [hname ha, hname hb] at hab
    exact h.forest.siblings ha hb hab
  · obtain ⟨rank, hrank⟩ := h.forest.ranked
    exact ⟨rank, fun {c p} hp => hrank (hparent c ▸ hp)⟩

theorem Sound.congr (h : t.Sound) (hname : ∀ id, t'.name? id = t.name? id)
    (hparent : ∀ id, t'.parent? id = t.parent? id)
    (hchildren : ∀ id, t'.children id = t.children id)
    (hcase : ∀ {id c}, t'.case? id = some c → c.Unrun) : t'.Sound := by
  refine h.of_links (fun {id name} hid => ?_) (fun _ => hname _) hparent hchildren hcase
  rw [hname] at hid
  exact h.forest.isElement hid

theorem sound_empty : Tree.empty.Sound := by
  have hnone : ∀ id, Tree.empty.node? id = none := fun id => rfl
  refine ⟨⟨?_, ?_, ?_, ?_, ⟨fun _ => 0, ?_⟩⟩, ?_⟩
  all_goals intros; simp_all [children, parent?, name?, case?]

end Tree

/-! ### Steps -/

namespace Node

/-- An object that has just been made: a suite without children, or a case that has not run, with
a valid name and without a parent. -/
structure New (n : Node) : Prop where
  isElement : isElement n.name = true
  parent : n.parent = none
  children : n.children = []
  cachedPath : n.cachedPath = none
  unrun : ∀ {c}, n.case? = some c → c.Unrun

/-- A change that declares something about an object: its name, its links and what is remembered
of its path stay, and a case stays fit to run. -/
structure Declares (f : Node → Node) : Prop extends Framed f where
  cachedPath : ∀ n, (f n).cachedPath = n.cachedPath
  unrun : ∀ {n}, (∀ {c}, n.case? = some c → c.Unrun) → ∀ {c}, (f n).case? = some c → c.Unrun

end Node

namespace Tree

/-- The tree with one more object. -/
def push (t : Tree) (n : Node) : Tree := ⟨t.nodes.push n⟩

/-- The tree in which `child` is the last child of `suite`; what is remembered of paths stays. -/
def link (t : Tree) (suite child : ObjectId) : Tree :=
  (t.update suite fun n => { n with kind := .suite (n.children ++ [child]) }).update child
    fun n => { n with parent := some suite }

/-- What is checked of a suite and a child before they are linked. -/
structure Attachable (t : Tree) (suite child : ObjectId) : Prop where
  known : (t.node? child).isSome
  top : t.parent? child = none
  isSuite : ∃ s, t.node? suite = some s ∧ s.isSuite = true
  acyclic : child ∉ t.lineage suite
  fresh : ∀ b ∈ t.children suite, t.name? b ≠ t.name? child

/-- The things that can be done to a tree while it is built. -/
inductive Step (t : Tree) : Tree → Prop
  | created {n : Node} (hn : n.New) : Step t (t.push n)
  | declared (id : ObjectId) {f : Node → Node} (hf : Node.Declares f) : Step t (t.update id f)
  | attached {suite child : ObjectId} (h : t.Attachable suite child) :
      Step t ((t.link suite child).forgetPathsWithin t.size child)
  | lookedUp (id : ObjectId) : Step t (t.lookupPath id).2
  | written (id : ObjectId) : Step t (t.lookupText id).2

variable {t t' : Tree}

theorem node?_push (n : Node) (x : ObjectId) :
    (t.push n).node? x = if x = t.size then some n else t.node? x :=
  Array.getElem?_push

theorem node?_size : t.node? t.size = none := by
  unfold node? size
  simp

theorem node?_link {suite child : ObjectId} (hne : suite ≠ child) (x : ObjectId) :
    (t.link suite child).node? x =
      if x = child then (t.node? x).map fun n => { n with parent := some suite }
      else if x = suite then
        (t.node? x).map fun n => { n with kind := .suite (n.children ++ [child]) }
      else t.node? x := by
  unfold link
  rw [node?_update, node?_update]
  by_cases hx : x = child
  · rw [if_pos hx, if_pos hx, if_neg (by rw [hx]; exact Ne.symm hne)]
  · rw [if_neg hx, if_neg hx]

/-! ### Steps keep a tree sound -/

/-- What is remembered of paths does not matter. -/
theorem Sound.of_uncached (h : t.Sound) (heq : t'.uncached = t.uncached) : t'.Sound :=
  h.congr (name?_eq_of_uncached heq) (parent?_eq_of_uncached heq) (children_eq_of_uncached heq)
    fun hc => h.unrun ((case?_eq_of_uncached heq _).symm.trans hc)

theorem uncached_forgetPathsWithin (bound : Nat) (id : ObjectId) :
    (t.forgetPathsWithin bound id).uncached = t.uncached := by
  induction bound generalizing t id with
  | zero => rfl
  | succ bound ih =>
    -- the paths of the children are forgotten one after another
    have hfold : ∀ (cs : List ObjectId) (t : Tree),
        (cs.foldl (fun t child => t.forgetPathsWithin bound child) t).uncached = t.uncached := by
      intro cs
      induction cs with
      | nil => exact fun t => rfl
      | cons c cs ihs => exact fun t => (ihs _).trans (ih c)
    unfold forgetPathsWithin
    rw [hfold]
    apply map_update
    exact fun n => rfl

theorem uncached_lookupPathWithin (bound : Nat) (id : ObjectId) :
    (t.lookupPathWithin bound id).2.uncached = t.uncached := by
  induction bound generalizing id with
  | zero => rfl
  | succ bound ih =>
    unfold lookupPathWithin
    rcases hn : t.node? id with - | n
    · rfl
    · rcases hc : n.cachedPath with - | p
      · simp only [hc]
        have hset : ∀ (t : Tree) (p : Option PathCell),
            (t.update id fun n => { n with cachedPath := p }).uncached = t.uncached := by
          intro t p
          apply map_update
          exact fun n => rfl
        refine (hset _ _).trans ?_
        rcases hp : n.parent with - | parent
        · rfl
        · exact ih parent
      · simp only [hc]

theorem uncached_lookupPath (id : ObjectId) : (t.lookupPath id).2.uncached = t.uncached :=
  uncached_lookupPathWithin t.size id

theorem uncached_lookupText (id : ObjectId) : (t.lookupText id).2.uncached = t.uncached := by
  unfold lookupText
  refine Eq.trans ?_ (uncached_lookupPathWithin t.size id)
  apply map_update
  exact fun n => rfl

theorem Sound.update (h : t.Sound) {f : Node → Node} (hf : Node.Declares f) (id : ObjectId) :
    (t.update id f).Sound := by
  refine h.congr (name?_update hf.toFramed id) (parent?_update hf.toFramed id)
    (children_update hf.toFramed id) fun {x c} hc => ?_
  have hx : ∀ {c}, (t.node? x).bind Node.case? = some c → c.Unrun := h.unrun
  unfold case? at hc
  rw [node?_update] at hc
  rcases hn : t.node? x with - | n <;> rw [hn] at hc hx
  · exact absurd hc (by simp)
  · split at hc
    · exact hf.unrun hx hc
    · exact hx hc

/-- The data of a case may be changed as long as it stays fit to run. -/
theorem declares_case {f : CaseData → CaseData} (hf : ∀ c, c.Unrun → (f c).Unrun) :
    Node.Declares fun n => match n.kind with
      | .suite _ => n
      | .case data => { n with kind := .case (f data) } := by
  refine ⟨⟨fun n => ?_, fun n => ?_, fun n => ?_, fun n => ?_⟩, fun n => ?_, fun {n} hn {c} hc => ?_⟩
  all_goals rcases n with ⟨_, _, _, _, children | data⟩
  all_goals try rfl
  · exact absurd hc (by simp [Node.case?])
  · cases hc
    exact hf data (hn rfl)

theorem parent?_push {n : Node} (hn : n.parent = none) (x : ObjectId) :
    (t.push n).parent? x = t.parent? x := by
  unfold parent?
  rw [node?_push]
  by_cases hx : x = t.size
  · rw [if_pos hx, hx, node?_size]
    exact hn
  · rw [if_neg hx]

theorem children_push {n : Node} (hn : n.children = []) (x : ObjectId) :
    (t.push n).children x = t.children x := by
  unfold children
  rw [node?_push]
  by_cases hx : x = t.size
  · rw [if_pos hx, hx, node?_size]
    exact hn
  · rw [if_neg hx]

/-- An object that is there already stays as it is. -/
theorem node?_push_of_known (n : Node) {x : ObjectId} (hx : (t.node? x).isSome) :
    (t.push n).node? x = t.node? x := by
  rw [node?_push, if_neg]
  rintro rfl
  rw [node?_size] at hx
  exact absurd hx (by simp)

theorem name?_push (n : Node) {x : ObjectId} (hx : (t.node? x).isSome) :
    (t.push n).name? x = t.name? x := by
  rw [name?, name?, node?_push_of_known n hx]

theorem case?_push (n : Node) {x : ObjectId} (hx : (t.node? x).isSome) :
    (t.push n).case? x = t.case? x := by
  rw [case?, case?, node?_push_of_known n hx]

theorem Sound.push (h : t.Sound) {n : Node} (hn : n.New) : (t.push n).Sound := by
  refine h.of_links (fun {x name} hx => ?_) (fun hp => name?_push n (isSome_node?_of_parent? hp))
    (parent?_push hn.parent) (children_push hn.children) fun {x c} hc => ?_
  · rw [name?, node?_push] at hx
    split at hx
    · cases hx
      exact hn.isElement
    · exact h.forest.isElement hx
  · rw [case?, node?_push] at hc
    split at hc
    · exact hn.unrun hc
    · exact h.unrun hc

/-- In the tree `t'`, `child`, which had no parent in `t`, has become the last child of `suite`. -/
structure Linked (t t' : Tree) (suite child : ObjectId) : Prop extends
    Attachable t suite child where
  name : ∀ x, t'.name? x = t.name? x
  parent : ∀ x, t'.parent? x = if x = child then some suite else t.parent? x
  children : ∀ x, t'.children x = if x = suite then t.children x ++ [child] else t.children x
  case : ∀ x, t'.case? x = t.case? x

namespace Linked

variable {suite child : ObjectId} (hl : Linked t t' suite child) (h : t.Forest)

include hl h

theorem mem_children {p c : ObjectId} : c ∈ t'.children p ↔ t'.parent? c = some p := by
  rw [hl.children, hl.parent]
  by_cases hc : c = child
  · rw [if_pos hc, hc]
    by_cases hp : p = suite
    · rw [if_pos hp, hp]
      simp
    · rw [if_neg hp, h.mem_children, hl.top]
      simp [Ne.symm hp]
  · rw [if_neg hc]
    by_cases hp : p = suite
    · rw [if_pos hp, List.mem_append, List.mem_singleton, h.mem_children]
      simp [hc]
    · rw [if_neg hp]
      exact h.mem_children

theorem nodup_children (p : ObjectId) : (t'.children p).Nodup := by
  rw [hl.children]
  by_cases hp : p = suite
  · have hnew : child ∉ t.children suite := by
      intro hmem
      have hparent := h.mem_children.mp hmem
      rw [hl.top] at hparent
      exact absurd hparent (by simp)
    rw [if_pos hp, hp]
    refine List.nodup_append.mpr ⟨h.nodup suite, List.nodup_singleton child, fun a ha b hb => ?_⟩
    rw [List.mem_singleton.mp hb]
    exact fun he => hnew (he ▸ ha)
  · rw [if_neg hp]
    exact h.nodup p

theorem eq_of_name {p a b : ObjectId} (ha : t'.parent? a = some p) (hb : t'.parent? b = some p)
    (hab : t'.name? a = t'.name? b) : a = b := by
  rw [hl.parent] at ha hb
  rw [hl.name, hl.name] at hab
  -- the new child is told apart from the old ones by the check of its name
  split at ha <;> split at hb
  · rename_i hac hbc
    rw [hac, hbc]
  · rename_i hac hbc
    cases ha
    exact absurd (hac ▸ hab.symm) (hl.fresh b (h.mem_children.mpr hb))
  · rename_i hac hbc
    cases hb
    exact absurd (hbc ▸ hab) (hl.fresh a (h.mem_children.mpr ha))
  · exact h.siblings ha hb hab

theorem ranked : ∃ rank : ObjectId → Nat, ∀ {c p}, t'.parent? c = some p → rank p < rank c := by
  -- all at or below `child` move below `suite`, which is itself not among them
  obtain ⟨rank, hrank⟩ := h.ranked
  refine ⟨fun x => if child ∈ t.lineage x then rank x + rank suite + 1 else rank x, ?_⟩
  intro c p hp
  rw [hl.parent] at hp
  split at hp
  · rename_i hc
    cases hp
    dsimp only
    rw [if_neg hl.acyclic, hc, if_pos (h.mem_lineage_self hl.known)]
    omega
  · rename_i hc
    have hiff : child ∈ t.lineage c ↔ child ∈ t.lineage p := by
      rw [h.lineage_of_parent hp, List.mem_cons]
      simp [Ne.symm hc]
    have hless := hrank hp
    simp only [hiff]
    split <;> omega

end Linked

theorem Sound.link (h : t.Sound) {suite child : ObjectId} (hl : Linked t t' suite child) :
    t'.Sound := by
  have hf := h.forest
  refine ⟨⟨hl.mem_children hf, hl.nodup_children hf, ?_, hl.eq_of_name hf, hl.ranked hf⟩, ?_⟩
  · intro x name hx
    rw [hl.name] at hx
    exact hf.isElement hx
  · intro x c hx
    rw [hl.case] at hx
    exact h.unrun hx

section Attachable

variable {suite child : ObjectId}

theorem Attachable.ne (ha : t.Attachable suite child) (h : t.Forest) : suite ≠ child := by
  rintro rfl
  obtain ⟨s, hs, -⟩ := ha.isSuite
  exact ha.acyclic (h.mem_lineage_self (by rw [hs]; rfl))

theorem Attachable.linked (ha : t.Attachable suite child) (h : t.Forest) :
    Linked t (t.link suite child) suite child := by
  have hne := ha.ne h
  obtain ⟨s, hs, hsuite⟩ := ha.isSuite
  obtain ⟨c, hc⟩ := Option.isSome_iff_exists.mp ha.known
  have hcases : s.case? = none := Option.isNone_iff_eq_none.mp hsuite
  refine ⟨ha, ?_, ?_, ?_, ?_⟩
  all_goals
    intro x
    simp only [name?, parent?, Tree.children, case?, node?_link hne]
    by_cases hx : x = child
    · have hx' : x ≠ suite := fun he => hne (he.symm.trans hx)
      rw [hx] at hx' ⊢
      simp [hx', hc, Node.children, Node.case?]
    · by_cases hxs : x = suite
      · rw [hxs] at hx ⊢
        simp [hx, hs, Node.children, Node.case?]
        try exact hcases.symm
      · simp [hx, hxs]

end Attachable

theorem Sound.step (h : t.Sound) (hstep : Step t t') : t'.Sound := by
  rcases hstep with hn | ⟨id, hf⟩ | ha | id | id
  · exact h.push hn
  · exact h.update hf id
  · exact (h.link (ha.linked h.forest)).of_uncached (uncached_forgetPathsWithin _ _)
  · exact h.of_uncached (uncached_lookupPath id)
  · exact h.of_uncached (uncached_lookupText id)

/-! ### Operations -/

/-- The operation changes the tree step by step, whether it succeeds or fails. -/
def Evolves {α : Type} (build : Build α) (t : Tree) : Prop :=
  Relation.ReflTransGen Step t (endOf (build t))

variable {α β : Type}

theorem evolves_refl {build : Build α} (h : endOf (build t) = t) : Evolves build t := by
  unfold Evolves
  rw [h]

theorem evolves_of_step {build : Build α} (h : Step t (endOf (build t))) : Evolves build t := .single h

theorem evolves_bind {x : Build α} {f : α → Build β} (hx : Evolves x t)
    (hf : ∀ a t', x t = .ok a t' → Evolves (f a) t') : Evolves (x >>= f) t := by
  unfold Evolves at *
  rcases hxt : x t with ⟨a, t₁⟩ | ⟨fault, t₁⟩ <;> rw [hxt] at hx
  · rw [bind_of_ok hxt]
    exact hx.trans (hf a t₁ hxt)
  · rw [bind_of_error hxt]
    exact hx

theorem evolves_ite {c : Prop} [Decidable c] {x y : Build β} (hx : c → Evolves x t)
    (hy : ¬c → Evolves y t) : Evolves (if c then x else y) t := by
  split
  · rename_i hc
    exact hx hc
  · rename_i hc
    exact hy hc

theorem evolves_get_bind {f : Tree → Build β} (h : Evolves (f t) t) : Evolves (get >>= f) t := h

theorem getNode_of_some {id : ObjectId} {n : Node} (h : t.node? id = some n) :
    getNode id t = .ok n t := by
  unfold getNode
  refine (bind_of_ok (get_eq_ok.mpr ⟨rfl, rfl⟩)).trans ?_
  rw [h]
  rfl

theorem getNode_of_none {id : ObjectId} (h : t.node? id = none) :
    getNode id t = .error (.violation (.unknownObject id)) t := by
  unfold getNode
  refine (bind_of_ok (get_eq_ok.mpr ⟨rfl, rfl⟩)).trans ?_
  rw [h]
  rfl

theorem evolves_getNode_bind {id : ObjectId} {f : Node → Build β}
    (hf : ∀ n, t.node? id = some n → Evolves (f n) t) : Evolves (getNode id >>= f) t := by
  rcases hn : t.node? id with - | n
  · refine evolves_refl ?_
    rw [bind_of_error (getNode_of_none hn)]
    rfl
  · unfold Evolves
    rw [bind_of_ok (getNode_of_some hn)]
    exact hf n hn

theorem evolves_getCase_bind {id : ObjectId} {f : CaseData → Build β}
    (hf : ∀ c, t.case? id = some c → Evolves (f c) t) : Evolves (getCase id >>= f) t := by
  rcases hc : getCase id t with ⟨c, t'⟩ | ⟨fault, t'⟩
  · obtain ⟨hcase, rfl⟩ := getCase_eq_ok.mp hc
    unfold Evolves
    rw [bind_of_ok hc]
    exact hf c hcase
  · refine evolves_bind (evolves_getNode_bind fun n _ => ?_) fun c t' hok => ?_
    · rcases n.kind with children | data
      · exact .refl
      · exact .refl
    · exact absurd (hok.symm.trans hc) (by simp)

/-- The operation adds a new object, or fails and leaves the tree as it is. -/
inductive Creates (build : Build ObjectId) (t : Tree) : Prop
  | added {n : Node} (hn : n.New) (h : build t = .ok t.size (t.push n))
  | refused {fault : Fault} (h : build t = .error fault t)

theorem Creates.evolves {build : Build ObjectId} (h : Creates build t) : Evolves build t := by
  rcases h with ⟨hn, h⟩ | h
  · refine evolves_of_step ?_
    rw [h]
    exact .created hn
  · refine evolves_refl ?_
    rw [h]
    rfl

theorem creates_insert (name : String) {kind : NodeKind}
    (hchildren : ∀ children, kind = .suite children → children = [])
    (hcase : ∀ c, kind = .case c → c.Unrun) : Creates (insert name kind) t := by
  unfold insert
  by_cases hname : isElement name = true
  · rw [if_pos hname]
    have hnew : (⟨name, none, none, [], kind⟩ : Node).New := by
      refine ⟨hname, rfl, ?_, rfl, fun {c} hc => ?_⟩
      · rcases kind with children | data
        · exact hchildren children rfl
        · rfl
      · rcases kind with children | data
        · exact absurd hc (by simp [Node.case?])
        · exact hcase c (by cases hc; rfl)
    exact .added hnew rfl
  · rw [if_neg hname]
    exact .refused rfl

theorem creates_suite (name : String) : Creates (suite name) t := by
  refine creates_insert name (fun children hk => ?_) fun c hk => ?_
  · cases hk
    rfl
  · exact absurd hk (by simp)

theorem creates_case (name : String) (body : Script) (teardown : Option Script) :
    Creates (case name body teardown) t := by
  refine creates_insert name (fun children hk => ?_) fun c hk => ?_
  · exact absurd hk (by simp)
  · cases hk
    exact ⟨rfl, ⟨_, rfl, rfl, by simp⟩, List.nodup_nil, by simp [CaseData.new, Body.tags]⟩

/-- Tags that pass the check are pairwise different path elements. -/
theorem checkTags_eq_ok {name : String} {seen tags : List String} {u : Unit}
    (h : checkTags name seen tags = .ok u) :
    tags.Nodup ∧ (∀ tag ∈ tags, isElement tag = true) ∧ ∀ tag ∈ tags, tag ∉ seen := by
  induction tags generalizing seen with
  | nil => simp
  | cons tag tags ih =>
    unfold checkTags at h
    split at h
    · exact absurd h (by simp)
    · split at h
      · exact absurd h (by simp)
      · rename_i helement hseen
        obtain ⟨hnodup, helements, hfresh⟩ := ih h
        have htag : tag ∉ tags := fun hmem => hfresh tag hmem (List.mem_cons_self ..)
        refine ⟨List.nodup_cons.mpr ⟨htag, hnodup⟩, ?_, ?_⟩
        · intro x hx
          rcases List.mem_cons.mp hx with rfl | hx
          · simpa using helement
          · exact helements x hx
        · intro x hx
          rcases List.mem_cons.mp hx with rfl | hx
          · simpa using hseen
          · exact fun hmem => hfresh x hx (List.mem_cons_of_mem _ hmem)

theorem creates_complexCase (name : String) (units : List (String × Script))
    (teardown : Option Script) : Creates (complexCase name units teardown) t := by
  unfold complexCase
  by_cases hunits : units.isEmpty = true
  · rw [if_pos hunits]
    exact .refused rfl
  · rw [if_neg hunits]
    rcases hcheck : checkTags name [] (units.map Prod.fst) with e | u
    · exact .refused rfl
    · obtain ⟨hnodup, helements, -⟩ := checkTags_eq_ok hcheck
      refine creates_insert name (fun children hk => ?_) fun c hk => ?_
      · exact absurd hk (by simp)
      · cases hk
        refine ⟨rfl, ⟨_, rfl, rfl, ?_⟩, hnodup, helements⟩
        intro hempty
        cases hempty
        exact absurd hunits (by simp)

theorem evolves_getPath (id : ObjectId) : Evolves (getPath id) t :=
  evolves_getNode_bind fun _ _ => .single (.lookedUp id)

theorem evolves_getText (id : ObjectId) : Evolves (getText id) t :=
  evolves_getNode_bind fun _ _ => .single (.written id)

theorem evolves_attach (suite child : ObjectId) : Evolves (attach suite child) t := by
  refine evolves_getNode_bind fun c hc => evolves_ite (fun _ => .refl) fun hparent => ?_
  refine evolves_getNode_bind fun s hs => evolves_ite (fun _ => .refl) fun hsuite => ?_
  refine evolves_get_bind (evolves_ite (fun _ => .refl) fun hcycle =>
    evolves_ite (fun _ => ?_) fun hfresh => evolves_of_step ?_)
  · exact evolves_bind (evolves_getText suite) fun _ _ _ => .refl
  · have hname : t.name? child = some c.name := by
      rw [name?, hc]
      rfl
    have hchildren : t.children suite = s.children := by
      rw [children, hs]
    refine .attached ⟨by rw [hc]; rfl, ?_, ⟨s, hs, by simpa using hsuite⟩, by simpa using hcycle, ?_⟩
    · rw [parent?, hc]
      simpa using hparent
    · rw [hname, hchildren]
      simpa using hfresh

/-- A new object that is attached at once is detached at first. -/
theorem evolves_add {build : Build ObjectId} (h : Creates build t) (parent : ObjectId) :
    Evolves (build >>= attach parent) t :=
  evolves_bind h.evolves fun id _ _ => evolves_attach parent id

theorem evolves_addDependency (object dependency : ObjectId) :
    Evolves (addDependency object dependency) t :=
  evolves_getCase_bind fun _ _ => .single <| .declared object <|
    declares_case fun _ hc => ⟨hc.result, hc.body, hc.nodup, hc.isElement⟩

theorem evolves_addExpectation (object : ObjectId) (e : Expectation) :
    Evolves (addExpectation object e) t :=
  evolves_ite (fun _ => .refl) fun _ => evolves_getCase_bind fun _ _ =>
    .single <| .declared object <|
      declares_case fun _ hc => ⟨hc.result, hc.body, hc.nodup, hc.isElement⟩

theorem evolves_failIfLogged (object : ObjectId) (p : Policy) :
    Evolves (failIfLogged object p) t :=
  evolves_getNode_bind fun _ _ => .single <| .declared object
    ⟨⟨fun _ => rfl, fun _ => rfl, fun _ => rfl, fun _ => rfl⟩, fun _ => rfl, fun hn _ hc => hn hc⟩

/-! ### All trees -/

/-- A call does one step after another. -/
theorem steps_after (t : Tree) (call : Call) : Relation.ReflTransGen Step t (call.after t) := by
  rcases call with name | ⟨parent, name⟩ | ⟨name, body, teardown⟩ | ⟨parent, name, body⟩ |
    ⟨name, units, teardown⟩ | ⟨parent, name, units, teardown⟩ | ⟨parent, child⟩ |
    ⟨object, dependency⟩ | ⟨object, e⟩ | ⟨object, p⟩ | object | object
  · exact (creates_suite name).evolves
  · exact evolves_add (creates_suite name) parent
  · exact (creates_case name body teardown).evolves
  · exact evolves_add (creates_case name body none) parent
  · exact (creates_complexCase name units teardown).evolves
  · exact evolves_add (creates_complexCase name units teardown) parent
  · exact evolves_attach parent child
  · exact evolves_addDependency object dependency
  · exact evolves_addExpectation object e
  · exact evolves_failIfLogged object p
  · exact evolves_getPath object
  · exact evolves_getText object

theorem steps_calls (t : Tree) (calls : List Call) :
    Relation.ReflTransGen Step t (calls.foldl Call.after t) := by
  induction calls generalizing t with
  | nil => exact .refl
  | cons call calls ih => exact (steps_after t call).trans (ih _)

/-- Later calls go on from the tree that there is. -/
theorem steps_ofCalls_append (calls later : List Call) :
    Relation.ReflTransGen Step (ofCalls calls) (ofCalls (calls ++ later)) := by
  unfold ofCalls
  rw [List.foldl_append]
  exact steps_calls _ later

theorem Sound.steps (h : t.Sound) (hsteps : Relation.ReflTransGen Step t t') : t'.Sound := by
  induction hsteps with
  | refl => exact h
  | tail _ hstep ih => exact ih.step hstep

/-- Every tree that can be built is sound. -/
theorem sound_ofCalls (calls : List Call) : (ofCalls calls).Sound :=
  sound_empty.steps (steps_calls .empty calls)

/-- What holds of the empty tree and survives every step of sound trees holds of every tree that
can be built. -/
theorem ofCalls_induction {motive : Tree → Prop} (empty : motive .empty)
    (step : ∀ {t t'}, t.Sound → motive t → Step t t' → motive t') (calls : List Call) :
    motive (ofCalls calls) := by
  have hsteps : Relation.ReflTransGen Step .empty (ofCalls calls) := steps_calls _ calls
  generalize ofCalls calls = t at hsteps ⊢
  induction hsteps with
  | refl => exact empty
  | tail hbefore hstep ih => exact step (sound_empty.steps hbefore) ih hstep

end Tree

end TestEngine
