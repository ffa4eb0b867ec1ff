/-
TestEngine/Proofs/Tree/Attach.lean

When a child is attached to a suite, and what a call leaves behind that fails.

Attaching makes four checks.  It is refused for the first one that fails (`Tree.Declines`), and if
none fails (`Tree.Fits`), the two are linked; what a link changes is known, so all that is
different afterwards can be said object by object (`Tree.Attached`).

A call that fails has at most looked a path up by then, and may have made the object that it could
not attach: what was there before shows what it showed (`Tree.Unharmed`).
-/
import TestEngine.Proofs.Tree.Linking

namespace TestEngine

namespace Tree

variable {t t' : Tree} {suite child : ObjectId}

/-! ### The checks -/

/-- Nothing is wrong with making the object a child of the suite. -/
structure Fits (t : Tree) (suite child : ObjectId) : Prop where
  top : t.parent? child = none
  isSuite : t.kind? suite = some .suite
  acyclic : ¬ t.Over suite child
  fresh : ∀ sibling ∈ t.children suite, t.name? sibling ≠ t.name? child

/-- What is wrong with it, if the checks are made in this order. -/
inductive Declines (t : Tree) (suite child : ObjectId) : TreeError → Prop
  | alreadyParented {name : String} (hchild : t.name? child = some name)
      (hparent : t.parent? child ≠ none) : Declines t suite child (.alreadyParented name)
  | notASuite {name : String} (hsuite : t.name? suite = some name)
      (htop : t.parent? child = none) (hkind : t.kind? suite ≠ some .suite) :
      Declines t suite child (.notASuite name)
  | wouldCycle {above name : String} (hsuite : t.name? suite = some above)
      (hchild : t.name? child = some name) (htop : t.parent? child = none)
      (hkind : t.kind? suite = some .suite) (hover : t.Over suite child) :
      Declines t suite child (.wouldCycle above name)
  | duplicateName {names : List String} {name : String} (hsuite : t.Named suite names)
      (hchild : t.name? child = some name) (htop : t.parent? child = none)
      (hkind : t.kind? suite = some .suite) (hover : ¬ t.Over suite child) {sibling : ObjectId}
      (hsibling : sibling ∈ t.children suite) (htaken : t.name? sibling = some name) :
      Declines t suite child (.duplicateName (String.join (names.map ("/" ++ ·))) name)

theorem fits_or_declines (h : t.Forest) (hsuite : (t.node? suite).isSome)
    (hchild : (t.node? child).isSome) : t.Fits suite child ∨ ∃ e, t.Declines suite child e := by
  obtain ⟨above, habove⟩ := Option.isSome_iff_exists.mp (isSome_name? ▸ hsuite)
  obtain ⟨name, hname⟩ := Option.isSome_iff_exists.mp (isSome_name? ▸ hchild)
  by_cases htop : t.parent? child = none
  · by_cases hkind : t.kind? suite = some .suite
    · by_cases hover : t.Over suite child
      · exact .inr ⟨_, .wouldCycle habove hname htop hkind hover⟩
      · by_cases htaken : ∃ sibling ∈ t.children suite, t.name? sibling = some name
        · obtain ⟨sibling, hsibling, htaken⟩ := htaken
          have hnamed := h.named_path hsuite
          exact .inr ⟨_, .duplicateName hnamed hname htop hkind hover hsibling htaken⟩
        · refine .inl ⟨htop, hkind, hover, fun sibling hsibling hsame => ?_⟩
          exact htaken ⟨sibling, hsibling, hsame.trans hname⟩
    · exact .inr ⟨_, .notASuite habove htop hkind⟩
  · exact .inr ⟨_, .alreadyParented hname htop⟩

theorem kind?_eq_suite_iff {s : Node} (hs : t.node? suite = some s) :
    t.kind? suite = some .suite ↔ s.isSuite = true := by
  rw [kind?, hs, Option.map_some, Node.isSuite]
  rcases s.case? with - | data
  · simp
  · rcases htags : data.tags with - | ⟨tag, tags⟩ <;> simp [htags]

/-- A check before an effect. -/
theorem ite_apply {β : Type} {c p : Prop} [Decidable c] [Decidable p] {x y : Build β}
    {r r' : EStateM.Result Fault Tree β} (hp : c ↔ p) (hx : c → x t = r) (hy : ¬ c → y t = r') :
    (if c then x else y) t = if p then r else r' := by
  by_cases hc : c
  · rw [if_pos hc, if_pos (hp.mp hc)]
    exact hx hc
  · rw [if_neg hc, if_neg (hp.not.mp hc)]
    exact hy hc

/-- Attaching, in the words of the views. -/
theorem attach_eq (hc : t.Coherent) (h : t.Forest) {above name : String}
    (hsuite : t.name? suite = some above) (hchild : t.name? child = some name) :
    attach suite child t =
      if t.parent? child ≠ none then .error (.error (.alreadyParented name)) t
      else if t.kind? suite ≠ some .suite then .error (.error (.notASuite above)) t
      else if child ∈ t.lineage suite then .error (.error (.wouldCycle above name)) t
      else if ∃ sibling ∈ t.children suite, t.name? sibling = some name then
        .error (.error (.duplicateName (t.path suite).render name)) (t.lookupText suite).2
      else .ok child ((t.link suite child).forgetPathsWithin t.size child) := by
  obtain ⟨s, hs, rfl⟩ := Option.map_eq_some_iff.mp hsuite
  obtain ⟨c, hc', rfl⟩ := Option.map_eq_some_iff.mp hchild
  have hparent : t.parent? child = c.parent := by
    rw [parent?, hc']
    rfl
  have hchildren : t.children suite = s.children := by
    rw [children, hs]
  have htext : getText suite t = .ok (t.path suite).render (t.lookupText suite).2 := by
    have hknown : (t.node? suite).isSome := by rw [hs]; rfl
    rw [getText_of_known hknown, (hc.lookupText h hknown).1]
  -- each check is compared with the one of the views that it stands for
  refine (bind_of_ok (getNode_of_some hc')).trans ?_
  refine ite_apply ?_ (fun _ => rfl) fun _ => ?_
  · rw [hparent, Option.isSome_iff_ne_none]
  · refine (bind_of_ok (getNode_of_some hs)).trans ?_
    refine ite_apply ?_ (fun _ => rfl) fun _ => ite_apply ?_ (fun _ => rfl) fun _ =>
      ite_apply ?_ (fun _ => bind_of_ok htext) fun _ => rfl
    · rw [ne_eq, kind?_eq_suite_iff hs]
      simp
    · simp
    · rw [hchildren]
      simp

theorem Fits.attachable (hf : t.Fits suite child) (h : t.Forest)
    (hchild : (t.node? child).isSome) : t.Attachable suite child := by
  obtain ⟨s, hs, -⟩ := Option.map_eq_some_iff.mp hf.isSuite
  have hsuite : (t.node? suite).isSome := by rw [hs]; rfl
  exact ⟨hchild, hf.top, ⟨s, hs, (kind?_eq_suite_iff hs).mp hf.isSuite⟩,
    (h.mem_lineage_iff_over hsuite).not.mpr hf.acyclic, hf.fresh⟩

/-- Only objects of the tree are linked. -/
theorem known_of_attach {x : ObjectId} (hok : attach suite child t = .ok x t') :
    (t.node? suite).isSome ∧ (t.node? child).isSome := by
  rcases hchild : t.node? child with - | c
  · have herror : attach suite child t = .error (.violation (.unknownObject child)) t :=
      bind_of_error (getNode_of_none hchild)
    exact absurd (hok.symm.trans herror) (by simp)
  · rcases hsuite : t.node? suite with - | s
    · have herror : attach suite child t =
          if c.parent.isSome = true then .error (.error (.alreadyParented c.name)) t
          else .error (.violation (.unknownObject suite)) t :=
        (bind_of_ok (getNode_of_some hchild)).trans
          (ite_apply .rfl (fun _ => rfl) fun _ => bind_of_error (getNode_of_none hsuite))
      rw [herror] at hok
      split at hok <;> exact absurd hok (by simp)
    · exact ⟨rfl, rfl⟩

section Outcome

variable (hc : t.Coherent) (h : t.Forest)

include hc h

theorem attach_of_fits (hchild : (t.node? child).isSome) (hf : t.Fits suite child) :
    attach suite child t = .ok child ((t.link suite child).forgetPathsWithin t.size child) := by
  have ha := hf.attachable h hchild
  obtain ⟨above, habove⟩ := Option.isSome_iff_exists.mp (isSome_name? ▸ ha.suite_known)
  obtain ⟨name, hname⟩ := Option.isSome_iff_exists.mp (isSome_name? ▸ hchild)
  have hfresh : ¬ ∃ sibling ∈ t.children suite, t.name? sibling = some name := by
    rintro ⟨sibling, hsibling, htaken⟩
    exact hf.fresh sibling hsibling (htaken.trans hname.symm)
  rw [attach_eq hc h habove hname, if_neg (not_not.mpr hf.top), if_neg (not_not.mpr hf.isSuite),
    if_neg ha.acyclic, if_neg hfresh]

theorem attach_of_declines (hsuite : (t.node? suite).isSome) (hchild : (t.node? child).isSome)
    {e : TreeError} (hd : t.Declines suite child e) :
    ∃ t', attach suite child t = .error (.error e) t' := by
  obtain ⟨above, habove⟩ := Option.isSome_iff_exists.mp (isSome_name? ▸ hsuite)
  obtain ⟨name, hname⟩ := Option.isSome_iff_exists.mp (isSome_name? ▸ hchild)
  have hlineage := h.mem_lineage_iff_over (a := child) hsuite
  rw [attach_eq hc h habove hname]
  cases hd with
  | alreadyParented hchild hparent =>
    rw [if_pos hparent, Option.some.inj (hname.symm.trans hchild)]
    exact ⟨_, rfl⟩
  | notASuite hsuite htop hkind =>
    rw [if_neg (not_not.mpr htop), if_pos hkind, Option.some.inj (habove.symm.trans hsuite)]
    exact ⟨_, rfl⟩
  | wouldCycle hsuite hchild htop hkind hover =>
    rw [if_neg (not_not.mpr htop), if_neg (not_not.mpr hkind), if_pos (hlineage.mpr hover),
      Option.some.inj (habove.symm.trans hsuite), Option.some.inj (hname.symm.trans hchild)]
    exact ⟨_, rfl⟩
  | @duplicateName names name' hnames hchild htop hkind hover sibling hsibling htaken =>
    obtain rfl := Option.some.inj (hname.symm.trans hchild)
    have hnames : names = (t.path suite).elements := hnames.unique (h.named_path hsuite)
    rw [if_neg (not_not.mpr htop), if_neg (not_not.mpr hkind), if_neg (hlineage.not.mpr hover),
      if_pos ⟨sibling, hsibling, htaken⟩, hnames, Path.render_eq]
    exact ⟨_, rfl⟩

/-- The child is attached, or refused for the first thing that is wrong. -/
theorem attach_cases (hsuite : (t.node? suite).isSome) (hchild : (t.node? child).isSome) :
    (t.Fits suite child ∧ attach suite child t =
      .ok child ((t.link suite child).forgetPathsWithin t.size child)) ∨
    ∃ e t', t.Declines suite child e ∧ attach suite child t = .error (.error e) t' := by
  rcases fits_or_declines h hsuite hchild with hf | ⟨e, hd⟩
  · exact .inl ⟨hf, attach_of_fits hc h hchild hf⟩
  · obtain ⟨t', herror⟩ := attach_of_declines hc h hsuite hchild hd
    exact .inr ⟨e, t', hd, herror⟩

end Outcome

/-! ### What attaching does -/

/-- What is different after the child has been attached to the suite. -/
structure Attached (t t' : Tree) (suite child : ObjectId) : Prop where
  /-- There are the same objects. -/
  known : ∀ x, (t'.node? x).isSome = (t.node? x).isSome
  /-- The child has the suite as its parent, and the suite the child as its last child; besides
  these, an object may only show another path and other leaves. -/
  shows : ∀ x i, t.Shows x i → ∃ path leaves, t'.Shows x { i with
    path, leaves
    parent := if x = child then some suite else i.parent
    children := if x = suite then i.children ++ [child] else i.children }
  /-- The path of the suite goes in front of the paths of the child and all below it; other paths
  stay. -/
  path : ∀ x i i' s, t.Shows x i → t'.Shows x i' → t.Shows suite s →
    (t.Over x child → i'.path.elements = s.path.elements ++ i.path.elements) ∧
      (¬ t.Over x child → i'.path = i.path)
  /-- The leaves of the child come after those of the suite, in the suite and its ancestors; others
  have the leaves that they had. -/
  leaves : ∀ x i i' s c, t.Shows x i → t'.Shows x i' → t.Shows suite s → t.Shows child c →
    (t.Over suite x → ∃ before after, i.leaves = before ++ s.leaves ++ after ∧
      i'.leaves = before ++ s.leaves ++ c.leaves ++ after) ∧
      (¬ t.Over suite x → i'.leaves = i.leaves)

theorem isSome_node?_of_uncached (heq : t'.uncached = t.uncached) (x : ObjectId) :
    (t'.node? x).isSome = (t.node? x).isSome := by
  rw [← isSome_name?, ← isSome_name?, name?_eq_of_uncached heq]

theorem Linked.attached (hl : Linked t t' suite child) (hsize : t'.size = t.size) (hc : t.Coherent)
    (h : t.Forest) (hc' : t'.Coherent) (h' : t'.Forest) : Attached t t' suite child where
  known x := by
    rw [← isSome_name?, ← isSome_name?, hl.name]
  shows x i hx := by
    have hi := (hc.shows_iff h).mp hx
    refine ⟨t'.path x, t'.leaves x, (hc'.shows_iff h').mpr ?_⟩
    have hviews := hi.of_same (hl.name x) (hl.case x)
    rwa [hl.parent, hl.children, hi.parent, hi.children] at hviews
  path x i i' s hx hx' hs := by
    have hi := (hc.shows_iff h).mp hx
    rw [← ((hc'.shows_iff h').mp hx').path, ← hi.path, ← ((hc.shows_iff h).mp hs).path]
    exact ⟨hl.path_of_over h h', hl.path_of_not_over h h' hi.known⟩
  leaves x i i' s c hx hx' hs hchild := by
    rw [← ((hc'.shows_iff h').mp hx').leaves, ← ((hc.shows_iff h).mp hx).leaves,
      ← ((hc.shows_iff h).mp hs).leaves, ← ((hc.shows_iff h).mp hchild).leaves]
    exact ⟨hl.leaves_of_over h h' hsize, hl.leaves_of_not_over h hsize⟩

theorem Attachable.attached (ha : t.Attachable suite child) (hc : t.Coherent) (h : t.Sound) :
    Attached t ((t.link suite child).forgetPathsWithin t.size child) suite child := by
  have heq : ((t.link suite child).forgetPathsWithin t.size child).uncached =
      (t.link suite child).uncached := uncached_forgetPathsWithin _ _
  have hsize : (t.link suite child).size = t.size := by
    unfold link update size
    simp
  refine ((ha.linked h.forest).of_uncached heq).attached ((size_eq_of_uncached heq).trans hsize) hc
    h.forest (hc.attached h ha) ?_
  exact ((h.link (ha.linked h.forest)).of_uncached heq).forest

/-! ### Calls that fail -/

/-- The calls that build a tree. -/
inductive Construction : {α : Type} → Build α → Prop
  | suite (name : String) : Construction (Tree.suite name)
  | addSuite (parent : ObjectId) (name : String) : Construction (Tree.addSuite parent name)
  | case (name : String) (body : Script) (teardown : Option Script) :
      Construction (Tree.case name body teardown)
  | addCase (parent : ObjectId) (name : String) (body : Script) :
      Construction (Tree.addCase parent name body)
  | complexCase (name : String) (units : List (String × Script)) (teardown : Option Script) :
      Construction (Tree.complexCase name units teardown)
  | addComplexCase (parent : ObjectId) (name : String) (units : List (String × Script))
      (teardown : Option Script) : Construction (Tree.addComplexCase parent name units teardown)
  | attach (suite child : ObjectId) : Construction (Tree.attach suite child)
  | addDependency (object dependency : ObjectId) :
      Construction (Tree.addDependency object dependency)
  | expectMessage (object : ObjectId) (domain : String) (levels : LevelSet) (pattern : String)
      (counter : Nat) : Construction (Tree.expectMessage object domain levels pattern counter)
  | addExpectation (object : ObjectId) (e : Expectation) :
      Construction (Tree.addExpectation object e)
  | failIfLogged (object : ObjectId) (p : Policy) : Construction (Tree.failIfLogged object p)

/-- What a call leaves behind that fails. -/
structure Unharmed (t t' : Tree) : Prop where
  /-- An object that was there shows what it showed, -/
  shows : ∀ x i, t.Shows x i → t'.Shows x i
  /-- and what it does not show has stayed too, but for what it remembers of its path. -/
  kept : ∀ x, (t.node? x).isSome → (t'.node? x).map Node.uncached = (t.node? x).map Node.uncached
  /-- One object may be new; it is detached. -/
  new : ∀ x, (t'.node? x).isSome → (t.node? x).isSome ∨
    x = t.size ∧ t'.parent? x = none ∧ t'.children x = [] ∧ ∀ p, x ∉ t'.children p

/-- If the operation fails, it has changed nothing but what is remembered of paths. -/
def Spares {α : Type} (build : Build α) (t : Tree) : Prop :=
  ∀ fault t', build t = .error fault t' → t'.uncached = t.uncached

section Spares

variable {α β : Type}

theorem spares_of_ok {build : Build α} {a : α} (h : build t = .ok a t') : Spares build t := by
  intro fault t₁ herror
  exact absurd (h.symm.trans herror) (by simp)

theorem spares_of_error {build : Build α} {fault : Fault} (h : build t = .error fault t) :
    Spares build t := by
  intro fault' t₁ herror
  cases h.symm.trans herror
  rfl

/-- What has gone before may have changed the tree if nothing can fail afterwards. -/
theorem spares_bind {x : Build α} {f : α → Build β} (hx : Spares x t)
    (hf : ∀ a t₁, x t = .ok a t₁ →
      ∀ fault t', f a t₁ = .error fault t' → t'.uncached = t.uncached) :
    Spares (x >>= f) t := by
  intro fault t' h
  rcases hxt : x t with ⟨a, t₁⟩ | ⟨fault', t₁⟩
  · rw [bind_of_ok hxt] at h
    exact hf a t₁ hxt fault t' h
  · rw [bind_of_error hxt] at h
    cases h
    exact hx _ _ hxt

theorem spares_ite {c : Prop} [Decidable c] {x y : Build β} (hx : c → Spares x t)
    (hy : ¬ c → Spares y t) : Spares (if c then x else y) t := by
  split
  · rename_i hc
    exact hx hc
  · rename_i hc
    exact hy hc

theorem spares_getNode_bind {id : ObjectId} {f : Node → Build β}
    (hf : ∀ n, t.node? id = some n → Spares (f n) t) : Spares (getNode id >>= f) t := by
  rcases hn : t.node? id with - | n
  · exact spares_of_error (bind_of_error (getNode_of_none hn))
  · unfold Spares
    rw [bind_of_ok (getNode_of_some hn)]
    exact hf n hn

theorem spares_getCase_bind {id : ObjectId} {f : CaseData → Build β}
    (hf : ∀ c, t.case? id = some c → Spares (f c) t) : Spares (getCase id >>= f) t := by
  refine spares_bind (spares_getNode_bind fun n _ => ?_) fun c t₁ hok => ?_
  · rcases n.kind with children | data
    · exact spares_of_error rfl
    · exact spares_of_ok rfl
  · obtain ⟨hcase, rfl⟩ := getCase_eq_ok.mp hok
    exact hf c hcase

theorem spares_attach (suite child : ObjectId) : Spares (attach suite child) t := by
  refine spares_getNode_bind fun c _ => spares_ite (fun _ => spares_of_error rfl) fun _ => ?_
  refine spares_getNode_bind fun s hs => spares_ite (fun _ => spares_of_error rfl) fun _ => ?_
  refine spares_ite (fun _ => spares_of_error rfl) fun _ => spares_ite (fun _ => ?_) fun _ =>
    spares_of_ok rfl
  -- the path of the suite is looked up for the error
  have hknown : (t.node? suite).isSome := by rw [hs]; rfl
  have htext := getText_of_known hknown
  refine spares_bind (spares_of_ok htext) fun path t₁ hok fault t' herror => ?_
  cases htext.symm.trans hok
  cases herror
  exact uncached_lookupText suite

theorem spares_addDependency (object dependency : ObjectId) :
    Spares (addDependency object dependency) t :=
  spares_getCase_bind fun _ _ => spares_of_ok rfl

theorem spares_addExpectation (object : ObjectId) (e : Expectation) :
    Spares (addExpectation object e) t :=
  spares_ite (fun _ => spares_of_error rfl) fun _ => spares_getCase_bind fun _ _ => spares_of_ok rfl

theorem spares_failIfLogged (object : ObjectId) (p : Policy) : Spares (failIfLogged object p) t :=
  spares_getNode_bind fun _ _ => spares_of_ok rfl

theorem spares_expectMessage (object : ObjectId) (domain : String) (levels : LevelSet)
    (pattern : String) (counter : Nat) :
    Spares (expectMessage object domain levels pattern counter) t := by
  unfold expectMessage
  rcases Pattern.ofSource pattern with - | pattern
  · exact spares_of_error rfl
  · refine spares_bind (spares_addExpectation object _) fun _ t₁ _ fault t' herror => ?_
    exact absurd herror (by simp [pure, EStateM.pure])

end Spares

/-- What is left behind by a call that fails. -/
def Remains (t t' : Tree) : Prop :=
  t'.uncached = t.uncached ∨ ∃ n : Node, n.New ∧ t'.uncached = (t.push n).uncached

theorem Creates.remains {build : Build ObjectId} {fault : Fault} (h : Creates build t)
    (herror : build t = .error fault t') : Remains t t' := by
  rcases h with ⟨-, hok⟩ | hrefused
  · exact absurd (hok.symm.trans herror) (by simp)
  · cases hrefused.symm.trans herror
    exact .inl rfl

/-- An object that cannot be attached has been made by then. -/
theorem Creates.remains_add {build : Build ObjectId} {fault : Fault} {parent : ObjectId}
    (h : Creates build t) (herror : (build >>= attach parent) t = .error fault t') :
    Remains t t' := by
  rcases h with ⟨hn, hok⟩ | hrefused
  · rw [bind_of_ok hok] at herror
    exact .inr ⟨_, hn, spares_attach _ _ _ _ herror⟩
  · rw [bind_of_error hrefused] at herror
    cases herror
    exact .inl rfl

theorem Construction.remains {α : Type} {build : Build α} (hb : Construction build) {fault : Fault}
    (herror : build t = .error fault t') : Remains t t' := by
  cases hb with
  | suite name => exact (creates_suite name).remains herror
  | addSuite parent name => exact (creates_suite name).remains_add herror
  | case name body teardown => exact (creates_case name body teardown).remains herror
  | addCase parent name body => exact (creates_case name body none).remains_add herror
  | complexCase name units teardown =>
    exact (creates_complexCase name units teardown).remains herror
  | addComplexCase parent name units teardown =>
    exact (creates_complexCase name units teardown).remains_add herror
  | attach suite child => exact .inl (spares_attach suite child _ _ herror)
  | addDependency object dependency =>
    exact .inl (spares_addDependency object dependency _ _ herror)
  | expectMessage object domain levels pattern counter =>
    exact .inl (spares_expectMessage object domain levels pattern counter _ _ herror)
  | addExpectation object e => exact .inl (spares_addExpectation object e _ _ herror)
  | failIfLogged object p => exact .inl (spares_failIfLogged object p _ _ herror)

theorem size_push (n : Node) : (t.push n).size = t.size + 1 := by
  unfold push size
  simp

/-- A new object changes nothing of those that were there. -/
theorem Views.push {x : ObjectId} {i : Info} {n : Node} (hi : t.Views x i) (h : t.Sound)
    (hn : n.New) : (t.push n).Views x i := by
  have hpath : (t.push n).path x = t.path x :=
    h.forest.path_congr (h.push hn).forest (fun x => (t.node? x).isSome)
      (fun _ hp => h.forest.node?_of_parent hp) (name?_push n)
      (fun _ => parent?_push hn.parent _) hi.known hi.known
  have hleaves : (t.push n).leaves x = t.leaves x := by
    unfold Tree.leaves
    rw [size_push, leavesWithin_congr (fun x => (t.node? x).isSome)
      (fun _ hc => isSome_node?_of_parent? (h.forest.mem_children.mp hc))
      (fun _ => children_push hn.children _) (case?_push n) _ hi.known]
    -- the greater bound finds no more
    have hpos := List.length_pos_of_mem (h.forest.mem_lineage_self hi.known)
    exact h.forest.leavesWithin_succ (by omega)
  have hviews := hi.of_same (name?_push n hi.known) (case?_push n hi.known)
  rwa [hpath, hleaves, parent?_push hn.parent, children_push hn.children, hi.path, hi.leaves,
    hi.parent, hi.children] at hviews

/-- A new object has no links, and no links lead to it. -/
theorem detached_push (h : t.Forest) {n : Node} (hn : n.New) :
    (t.push n).parent? t.size = none ∧ (t.push n).children t.size = [] ∧
      ∀ p, t.size ∉ (t.push n).children p := by
  have hnone : t.parent? t.size = none := by
    rw [parent?, node?_size]
    rfl
  refine ⟨?_, ?_, fun p hp => ?_⟩
  · rw [parent?_push hn.parent, hnone]
  · rw [children_push hn.children, children, node?_size]
  · rw [children_push hn.children, h.mem_children, hnone] at hp
    exact absurd hp (by simp)

theorem node?_of_uncached (heq : t'.uncached = t.uncached) (x : ObjectId) :
    (t'.node? x).map Node.uncached = (t.node? x).map Node.uncached := by
  rw [← node?_map, ← node?_map]
  exact congrArg (fun t : Tree => t.node? x) heq

theorem Remains.unharmed (hr : Remains t t') (hc : t.Coherent) (h : t.Sound) (hc' : t'.Coherent)
    (h' : t'.Forest) : Unharmed t t' := by
  rcases hr with heq | ⟨n, hn, heq⟩
  · refine ⟨fun x i hx => ?_, fun x _ => node?_of_uncached heq x, fun x hx => .inl ?_⟩
    · exact (hc'.shows_iff h').mpr (((hc.shows_iff h.forest).mp hx).of_uncached heq)
    · rwa [isSome_node?_of_uncached heq] at hx
  · refine ⟨fun x i hx => ?_, fun x hx => ?_, fun x hx => ?_⟩
    · exact (hc'.shows_iff h').mpr ((((hc.shows_iff h.forest).mp hx).push h hn).of_uncached heq)
    · rw [node?_of_uncached heq, node?_push_of_known n hx]
    · rw [isSome_node?_of_uncached heq, node?_push] at hx
      by_cases hnew : x = t.size
      · obtain ⟨hparent, hchildren, hlisted⟩ := detached_push h.forest hn
        rw [hnew]
        refine .inr ⟨rfl, ?_, ?_, fun p => ?_⟩
        · rw [parent?_eq_of_uncached heq, hparent]
        · rw [children_eq_of_uncached heq, hchildren]
        · rw [children_eq_of_uncached heq]
          exact hlisted p
      · rw [if_neg hnew] at hx
        exact .inl hx

/-! ### Every tree that is built -/

theorem ofCalls_concat (calls : List Call) (call : Call) :
    ofCalls (calls ++ [call]) = call.after (ofCalls calls) := by
  unfold ofCalls
  rw [List.foldl_append]
  rfl

/-- What follows without failing does not matter to where an operation ends. -/
theorem endOf_bind_pure {α β : Type} (x : Build α) (b : β) (t : Tree) :
    endOf ((x >>= fun _ => pure b) t) = endOf (x t) := by
  rcases hx : x t with ⟨a, t'⟩ | ⟨fault, t'⟩
  · rw [bind_of_ok hx]
    rfl
  · rw [bind_of_error hx]
    rfl

/-- Whatever is built, and however it ends, the tree that is left can be built by calls. -/
theorem Construction.exists_calls {α : Type} {build : Build α} (hb : Construction build)
    (calls : List Call) : ∃ later, endOf (build (ofCalls calls)) = ofCalls (calls ++ later) := by
  have hcall : ∀ call : Call, ∃ later, call.after (ofCalls calls) = ofCalls (calls ++ later) :=
    fun call => ⟨[call], (ofCalls_concat calls call).symm⟩
  cases hb with
  | suite name => exact hcall (.suite name)
  | addSuite parent name => exact hcall (.addSuite parent name)
  | case name body teardown => exact hcall (.case name body teardown)
  | addCase parent name body => exact hcall (.addCase parent name body)
  | complexCase name units teardown => exact hcall (.complexCase name units teardown)
  | addComplexCase parent name units teardown =>
    exact hcall (.addComplexCase parent name units teardown)
  | attach suite child => exact hcall (.attach suite child)
  | addDependency object dependency => exact hcall (.addDependency object dependency)
  | expectMessage object domain levels pattern counter =>
    unfold Tree.expectMessage
    rcases Pattern.ofSource pattern with - | pattern
    · exact ⟨[], by rw [List.append_nil]; rfl⟩
    · rw [endOf_bind_pure]
      exact hcall (.addExpectation object _)
  | addExpectation object e => exact hcall (.addExpectation object e)
  | failIfLogged object p => exact hcall (.failIfLogged object p)

/-- Building a tree changes what it has to, or nothing. -/
structure Careful (t : Tree) : Prop where
  /-- Of two objects, the one is attached to the other just if nothing is wrong with that, -/
  attaches_iff : ∀ suite child, (t.node? suite).isSome → (t.node? child).isSome →
    ((∃ t', attach suite child t = .ok child t') ↔ t.Fits suite child)
  /-- and otherwise refused with the first thing that is wrong. -/
  refuses_iff : ∀ suite child fault, (t.node? suite).isSome → (t.node? child).isSome →
    ((∃ t', attach suite child t = .error fault t') ↔
      ∃ e, fault = .error e ∧ t.Declines suite child e)
  /-- Only what the new link stands for is different afterwards. -/
  attached : ∀ suite child a t', attach suite child t = .ok a t' →
    a = child ∧ Attached t t' suite child
  /-- A call that fails, for whatever reason, changes no object. -/
  unharmed : ∀ {α : Type} (build : Build α), Construction build →
    ∀ fault t', build t = .error fault t' → Unharmed t t'

/-- Whatever has been called, and whether or not it has succeeded: a child is attached exactly if
nothing is wrong with that, and then nothing but the new link shows; and of a call that fails
nothing shows. -/
theorem careful_ofCalls (calls : List Call) : (ofCalls calls).Careful := by
  have hc := coherent_ofCalls calls
  have h := sound_ofCalls calls
  refine ⟨fun suite child hsuite hchild => ⟨?_, fun hf => ?_⟩,
    fun suite child fault hsuite hchild => ⟨?_, ?_⟩, fun suite child x t' hok => ?_,
    fun {α} build hb fault t' herror => ?_⟩
  · rintro ⟨t', hok⟩
    rcases attach_cases hc h.forest hsuite hchild with ⟨hf, -⟩ | ⟨e, t₁, -, herror⟩
    · exact hf
    · exact absurd (hok.symm.trans herror) (by simp)
  · exact ⟨_, attach_of_fits hc h.forest hchild hf⟩
  · rintro ⟨t', herror⟩
    rcases attach_cases hc h.forest hsuite hchild with ⟨-, hok⟩ | ⟨e, t₁, hd, herror'⟩
    · exact absurd (herror.symm.trans hok) (by simp)
    · cases herror.symm.trans herror'
      exact ⟨e, rfl, hd⟩
  · rintro ⟨e, rfl, hd⟩
    exact attach_of_declines hc h.forest hsuite hchild hd
  · obtain ⟨hsuite, hchild⟩ := known_of_attach hok
    rcases attach_cases hc h.forest hsuite hchild with ⟨hf, hok'⟩ | ⟨e, t₁, -, herror⟩
    · cases hok.symm.trans hok'
      exact ⟨rfl, (hf.attachable h.forest hchild).attached hc h⟩
    · exact absurd (hok.symm.trans herror) (by simp)
  · -- what is left can be built by calls too, so its paths can be looked up
    obtain ⟨later, hlater⟩ := hb.exists_calls calls
    rw [herror] at hlater
    obtain rfl : t' = ofCalls (calls ++ later) := hlater
    exact (hb.remains herror).unharmed hc h (coherent_ofCalls _) (sound_ofCalls _).forest

/-- A suite with a case, and a suite without one. -/
def shelvedCalls : List Call := [.suite "inner", .addCase 0 "case" [], .suite "outer"]

/-- The first suite can be attached to the second; a case of the name that is taken cannot be added
to it, and is left detached. -/
theorem careful_of_shelved :
    (∃ t', attach 2 0 (ofCalls shelvedCalls) = .ok 0 t' ∧
      Attached (ofCalls shelvedCalls) t' 2 0) ∧
    ∃ t', addCase 0 "case" [] (ofCalls shelvedCalls) =
        .error (.error (.duplicateName "/inner" "case")) t' ∧
      Unharmed (ofCalls shelvedCalls) t' ∧ (t'.node? 3).isSome := by
  have hcareful := careful_ofCalls shelvedCalls
  have hok : attach 2 0 (ofCalls shelvedCalls) = .ok 0 _ :=
    eq_ok_of_valueOf (by decide +kernel)
  have herror : addCase 0 "case" [] (ofCalls shelvedCalls) =
      .error (.error (.duplicateName "/inner" "case")) _ := eq_error_of_stopOf (by decide +kernel)
  exact ⟨⟨_, hok, (hcareful.attached 2 0 0 _ hok).2⟩,
    ⟨_, herror, hcareful.unharmed _ (.addCase 0 "case" []) _ _ herror, by decide +kernel⟩⟩

end Tree

end TestEngine
