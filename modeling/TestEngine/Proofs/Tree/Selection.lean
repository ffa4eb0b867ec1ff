/-
TestEngine/Proofs/Tree/Selection.lean

What a selection by paths selects.  The paths with which the path of an object starts are
those of its ancestors and its own (`Forest.prefix_path_iff`).  In one tree of the forest an
object is told by its path, so there the path of one object starts with that of another just if
the other is the object or an ancestor, and to give the path of an object is to give
all that is at or below it.  Two trees of the forest may have top objects of the same name; there a
path that is given leads to the objects below all that have it (`Tree.Leads`).

The paths are those that are looked up while the tree is built (`Tree.Located`).
-/
import TestEngine.Mode
import TestEngine.Proofs.Tree.Remembered

namespace TestEngine

/-! ### Selections -/

namespace Mode

variable {m : Mode} {p q : Path}

theorem excluded_iff : m.excluded p = true ↔
    (m.includes ≠ [] ∧ ∀ i ∈ m.includes, ¬ p.startsWith i = true) ∨
      ∃ e ∈ m.excludes, p.startsWith e = true := by
  simp [excluded]

/-- More paths to skip leave no less out. -/
theorem excluded_of_subset {es : List Path} (hes : m.excludes ⊆ es) (h : m.excluded p = true) :
    { m with excludes := es }.excluded p = true := by
  rcases excluded_iff.mp h with hincludes | ⟨e, he, hp⟩
  · exact excluded_iff.mpr (.inl hincludes)
  · exact excluded_iff.mpr (.inr ⟨e, hes he, hp⟩)

/-- A path that does not lead to a test can be skipped or not. -/
theorem excluded_of_skipped (h : p.startsWith q = false) (es es' : List Path) :
    { m with excludes := es ++ q :: es' }.excluded p =
      { m with excludes := es ++ es' }.excluded p := by
  simp [excluded, h]

/-- A path that does not lead to a test does not select it. -/
theorem excluded_of_selected (h : p.startsWith q = false) (is is' : List Path) :
    { m with includes := is ++ q :: is' }.excluded p =
      (decide (is ++ is' = []) || { m with includes := is ++ is' }.excluded p) := by
  rcases is with - | ⟨i, is⟩ <;> rcases is' with - | ⟨i', is'⟩ <;> simp [excluded, h]

end Mode

namespace Tree

variable {t : Tree}

/-! ### Paths and ancestors -/

/-- A path starts with the paths of the ancestors and with itself, and with no others. -/
theorem Forest.prefix_path_iff (h : t.Forest) {id : ObjectId} (hid : (t.node? id).isSome)
    {es : List String} (hes : es ≠ []) :
    es <+: (t.path id).elements ↔ ∃ a ∈ t.lineage id, (t.path a).elements = es := by
  refine h.induction (motive := fun id => (t.node? id).isSome → (es <+: (t.path id).elements ↔
    ∃ a ∈ t.lineage id, (t.path a).elements = es)) (fun id ih hid => ?_) id hid
  obtain ⟨name, hn⟩ := Option.isSome_iff_exists.mp (isSome_name? ▸ hid)
  rcases hp : t.parent? id with - | p
  · have hpath := h.path_of_top hp hn
    rw [h.lineage_of_top hid hp, hpath, ← List.nil_append [name], List.prefix_concat_iff,
      List.prefix_nil]
    simp [hes, hpath, eq_comm]
  · have hpath := h.path_of_parent hp hn
    have hparent := ih p hp (h.node?_of_parent hp)
    rw [h.lineage_of_parent hp, hpath, List.prefix_concat_iff, hparent, List.exists_mem_cons_iff,
      hpath, eq_comm]

/-- Nothing is below a case. -/
theorem Forest.eq_of_over_case (h : t.Forest) {c x : ObjectId} (hc : (t.case? c).isSome)
    (hover : t.Over x c) : x = c := by
  obtain ⟨data, hdata⟩ := Option.isSome_iff_exists.mp hc
  rcases Relation.ReflTransGen.cases_tail hover with heq | ⟨b, -, hb⟩
  · exact heq.symm
  · have hmem := h.mem_children.mpr hb
    rw [children_of_case hdata] at hmem
    exact absurd hmem (by simp)

/-! ### Located objects -/

/-- Looking the object up finds this path. -/
def Located (t : Tree) (id : ObjectId) (p : Path) : Prop := valueOf (getPath id t) = some p

/-- The objects have the same parentless ancestor. -/
def SameTree (t : Tree) (x y : ObjectId) : Prop :=
  ∃ top, t.parent? top = none ∧ t.Over x top ∧ t.Over y top

/-- The path is that of the object or of one of its ancestors. -/
def Leads (t : Tree) (p : Path) (id : ObjectId) : Prop := ∃ a, t.Over id a ∧ t.Located a p

section Located

variable (hc : t.Coherent) (h : t.Forest)

include hc h

theorem Coherent.located_iff {id : ObjectId} {p : Path} :
    t.Located id p ↔ (t.node? id).isSome ∧ t.path id = p := by
  unfold Located
  rcases hn : t.node? id with - | n
  · have hfails : getPath id t = .error (.violation (.unknownObject id)) t :=
      bind_of_error (getNode_of_none hn)
    rw [hfails]
    simp [valueOf]
  · have hid : (t.node? id).isSome := by rw [hn]; rfl
    rw [getPath_of_known hid, (hc.lookupPath h hid).1]
    simp [valueOf]

/-- In one tree of the forest an object is told by its path. -/
theorem Coherent.eq_of_located {x y : ObjectId} {p : Path} (htree : t.SameTree x y)
    (hx : t.Located x p) (hy : t.Located y p) : x = y := by
  obtain ⟨hxn, hxp⟩ := (hc.located_iff h).mp hx
  obtain ⟨hyn, hyp⟩ := (hc.located_iff h).mp hy
  obtain ⟨top, -, hxtop, hytop⟩ := htree
  refine h.eq_of_path_eq hxn hyn ?_ (hxp.trans hyp.symm)
  rw [h.getLast?_lineage ((h.mem_lineage_iff_over hxn).mpr hxtop),
    h.getLast?_lineage ((h.mem_lineage_iff_over hyn).mpr hytop)]

/-- The path of an object starts with those that lead to it. -/
theorem Coherent.startsWith_iff_leads {id : ObjectId} {p q : Path} (hp : p.elements ≠ [])
    (hid : t.Located id q) : q.startsWith p = true ↔ t.Leads p id := by
  obtain ⟨hn, rfl⟩ := (hc.located_iff h).mp hid
  rw [Path.startsWith_iff, h.prefix_path_iff hn hp]
  refine exists_congr fun a => ?_
  rw [h.mem_lineage_iff_over hn, hc.located_iff h]
  refine and_congr_right fun hover => ⟨fun hpath => ⟨?_, congrArg Path.mk hpath⟩, fun hpath => ?_⟩
  · exact mem_lineageWithin ((h.mem_lineage_iff_over hn).mpr hover)
  · rw [hpath.2]

theorem Coherent.elements_ne_nil {id : ObjectId} {p : Path} (hid : t.Located id p) :
    p.elements ≠ [] := by
  obtain ⟨hn, rfl⟩ := (hc.located_iff h).mp hid
  exact h.path_ne_empty hn

/-- In one tree of the forest the path of an object leads to those at or below it. -/
theorem Coherent.leads_iff {x y : ObjectId} {p : Path} (htree : t.SameTree y x)
    (hx : t.Located x p) : t.Leads p y ↔ t.Over y x := by
  constructor
  · rintro ⟨a, hover, ha⟩
    -- `a` is in the tree of `y`, which is that of `x`
    obtain ⟨top, htop, hytop, hxtop⟩ := htree
    have hunique : Relator.RightUnique fun x y => t.parent? x = some y :=
      fun _ _ _ hb hb' => Option.some.inj (hb.symm.trans hb')
    have hatop : t.SameTree a x := by
      refine ⟨top, htop, ?_, hxtop⟩
      rcases Relation.ReflTransGen.total_of_right_unique hunique hover hytop with habove | hbelow
      · exact habove
      · rcases Relation.ReflTransGen.cases_head hbelow with rfl | ⟨b, hb, -⟩
        · exact .refl
        · exact absurd (htop.symm.trans hb) (by simp)
    rw [← hc.eq_of_located h hatop ha hx]
    exact hover
  · exact fun hover => ⟨x, hover, hx⟩

end Located

/-! ### What is selected -/

/-- The objects are in the tree of `c`, and looking them up one by one finds these paths. -/
def Listed (t : Tree) (c : ObjectId) (ids : List ObjectId) (paths : List Path) : Prop :=
  List.Forall₂ (fun id p => t.SameTree c id ∧ t.Located id p) ids paths

/-- To select paths is to select subtrees. -/
structure Selective (t : Tree) : Prop where
  /-- The path of an object starts with the path of another one if that is the object or an
  ancestor, -/
  startsWith_iff : ∀ x y p q, t.SameTree y x → t.Located x p → t.Located y q →
    (q.startsWith p = true ↔ t.Over y x)
  /-- and is the same only if the objects are. -/
  eq_of_path_eq : ∀ x y p, t.SameTree x y → t.Located x p → t.Located y p → x = y
  /-- So a case is left out if objects are given that are to run and none of them is the case or an
  ancestor, or if one of those to skip is. -/
  excluded_iff : ∀ (mode : Mode) is es c q, t.Listed c is mode.includes →
    t.Listed c es mode.excludes → t.Located c q →
    (mode.excluded q = true ↔ (is ≠ [] ∧ ∀ i ∈ is, ¬ t.Over c i) ∨ ∃ e ∈ es, t.Over c e)
  /-- In the whole forest, a path of another tree may lead to the case as well. -/
  excluded_iff_leads : ∀ (mode : Mode) c q, (∀ p ∈ mode.includes ++ mode.excludes, p.elements ≠ []) →
    t.Located c q →
    (mode.excluded q = true ↔ (mode.includes ≠ [] ∧ ∀ p ∈ mode.includes, ¬ t.Leads p c) ∨
      ∃ p ∈ mode.excludes, t.Leads p c)
  /-- What is left out stays so if more is to be skipped. -/
  still_excluded : ∀ (mode : Mode) es q, mode.excludes ⊆ es → mode.excluded q = true →
    { mode with excludes := es }.excluded q = true
  /-- A path below a case does not matter among those to skip, and selects nothing among those to
  run. -/
  below_case : ∀ c p below x q, (t.case? c).isSome → t.Located c p → below.startsWith p = true →
    below ≠ p → t.SameTree x c → t.Located x q → ∀ (mode : Mode) ps ps',
      { mode with excludes := ps ++ below :: ps' }.excluded q =
        { mode with excludes := ps ++ ps' }.excluded q ∧
      { mode with includes := ps ++ below :: ps' }.excluded q =
        (decide (ps ++ ps' = []) || { mode with includes := ps ++ ps' }.excluded q)

theorem Listed.exists_leads_iff (hc : t.Coherent) (h : t.Forest) {c : ObjectId}
    {ids : List ObjectId} {ps : List Path} (hl : t.Listed c ids ps) :
    (∃ p ∈ ps, t.Leads p c) ↔ ∃ i ∈ ids, t.Over c i := by
  induction hl with
  | nil => simp
  | cons hid _ ih =>
    rw [List.exists_mem_cons_iff, List.exists_mem_cons_iff, ih, hc.leads_iff h hid.1 hid.2]

/-- No path of an object starts with one below a case. -/
theorem Coherent.not_startsWith_below (hc : t.Coherent) (h : t.Forest) {c x : ObjectId}
    {p q below : Path} (hcase : (t.case? c).isSome) (hp : t.Located c p)
    (hbelow : below.startsWith p = true) (hne : below ≠ p) (htree : t.SameTree x c)
    (hq : t.Located x q) : q.startsWith below = false := by
  refine Bool.eq_false_iff.mpr fun hstarts => hne ?_
  have hstart := Path.startsWith_iff.mp hbelow
  have hfurther := Path.startsWith_iff.mp hstarts
  -- the object would be below the case, and so the case itself, whose path is too short
  have hq' : q.startsWith p = true := Path.startsWith_iff.mpr (hstart.trans hfurther)
  have hover : t.Over x c :=
    (hc.leads_iff h htree hp).mp ((hc.startsWith_iff_leads h (hc.elements_ne_nil h hp) hq).mp hq')
  obtain rfl : x = c := h.eq_of_over_case hcase hover
  obtain rfl : p = q := Option.some.inj (hp.symm.trans hq)
  exact congrArg Path.mk (hfurther.eq_of_length_le hstart.length_le)

theorem Coherent.excluded_iff_leads (hc : t.Coherent) (h : t.Forest) {mode : Mode} {c : ObjectId}
    {q : Path} (hne : ∀ p ∈ mode.includes ++ mode.excludes, p.elements ≠ []) (hq : t.Located c q) :
    mode.excluded q = true ↔ (mode.includes ≠ [] ∧ ∀ p ∈ mode.includes, ¬ t.Leads p c) ∨
      ∃ p ∈ mode.excludes, t.Leads p c := by
  rw [Mode.excluded_iff]
  have hleads : ∀ p ∈ mode.includes ++ mode.excludes, (q.startsWith p = true ↔ t.Leads p c) :=
    fun p hp => hc.startsWith_iff_leads h (hne p hp) hq
  refine or_congr (and_congr_right fun _ => forall₂_congr fun p hp => not_congr ?_) ?_
  · exact hleads p (List.mem_append_left _ hp)
  · exact exists_congr fun p => and_congr_right fun hp => hleads p (List.mem_append_right _ hp)

theorem Listed.elements_ne_nil (hc : t.Coherent) (h : t.Forest) {c : ObjectId}
    {ids : List ObjectId} {ps : List Path} (hl : t.Listed c ids ps) :
    ∀ p ∈ ps, p.elements ≠ [] := by
  induction hl with
  | nil => simp
  | cons hid _ ih => exact List.forall_mem_cons.mpr ⟨hc.elements_ne_nil h hid.2, ih⟩

theorem Coherent.selective (hc : t.Coherent) (h : t.Forest) : t.Selective where
  startsWith_iff x y p q htree hx hy := by
    rw [hc.startsWith_iff_leads h (hc.elements_ne_nil h hx) hy, hc.leads_iff h htree hx]
  eq_of_path_eq x y p := hc.eq_of_located h
  excluded_iff mode is es c q his hes hq := by
    have hne : ∀ p ∈ mode.includes ++ mode.excludes, p.elements ≠ [] := fun p hp =>
      (List.mem_append.mp hp).elim (his.elements_ne_nil hc h p) (hes.elements_ne_nil hc h p)
    have hnil : mode.includes ≠ [] ↔ is ≠ [] := by
      rw [← List.length_pos_iff, ← List.length_pos_iff, his.length_eq]
    have hnone : (∀ p ∈ mode.includes, ¬ t.Leads p c) ↔ ∀ i ∈ is, ¬ t.Over c i := by
      simpa using not_congr (his.exists_leads_iff hc h)
    rw [hc.excluded_iff_leads h hne hq, hnil, hnone, hes.exists_leads_iff hc h]
  excluded_iff_leads mode c q := hc.excluded_iff_leads h
  still_excluded mode es q := Mode.excluded_of_subset
  below_case c p below x q hcase hp hbelow hne htree hq mode ps ps' := by
    have hnot := hc.not_startsWith_below h hcase hp hbelow hne htree hq
    exact ⟨Mode.excluded_of_skipped hnot ps ps', Mode.excluded_of_selected hnot ps ps'⟩

/-- In every tree that can be built, to select paths is to select subtrees. -/
theorem selective_ofCalls (calls : List Call) : (ofCalls calls).Selective :=
  (coherent_ofCalls calls).selective (sound_ofCalls calls).forest

/-- A suite with a case and a suite that has another case. -/
def nestedCalls : List Call := [.suite "s", .addSuite 0 "u", .addCase 1 "c" [], .addCase 0 "d" []]

/-- If the inner suite is selected, the case beside it is left out. -/
theorem excluded_of_nested :
    (ofCalls nestedCalls).Listed 3 [1] [⟨["s", "u"]⟩] ∧ (ofCalls nestedCalls).Located 3 ⟨["s", "d"]⟩ ∧
      { Mode.default with includes := [⟨["s", "u"]⟩] }.excluded ⟨["s", "d"]⟩ = true := by
  have htree : (ofCalls nestedCalls).SameTree 3 1 :=
    ⟨0, by decide +kernel, .single (by decide +kernel), .single (by decide +kernel)⟩
  have hsuite : (ofCalls nestedCalls).Located 1 ⟨["s", "u"]⟩ := by
    unfold Located
    decide +kernel
  have hcase : (ofCalls nestedCalls).Located 3 ⟨["s", "d"]⟩ := by
    unfold Located
    decide +kernel
  have hlisted : (ofCalls nestedCalls).Listed 3 [1] [⟨["s", "u"]⟩] := .cons ⟨htree, hsuite⟩ .nil
  have hnot : ¬ (ofCalls nestedCalls).Over 3 1 := by
    rw [← (sound_ofCalls nestedCalls).forest.mem_lineage_iff_over (by decide +kernel)]
    decide +kernel
  have hselected := (selective_ofCalls nestedCalls).excluded_iff
    { Mode.default with includes := [⟨["s", "u"]⟩] } [1] [] 3 _ hlisted .nil hcase
  exact ⟨hlisted, hcase, hselected.mpr (.inl ⟨by simp, by simpa using hnot⟩)⟩

end Tree

end TestEngine
