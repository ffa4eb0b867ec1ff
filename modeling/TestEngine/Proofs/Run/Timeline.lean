/-
TestEngine/Proofs/Run/Timeline.lean

The order of the steps of a case.  The steps that a run takes for one case stand together
(`Placed`): first its two hooks, if it runs, then its units with their lines, then its
teardown, and then its conclusion.  Whatever else the run does for other cases comes
before or after, so what holds of the steps of the one case holds of the whole run.

`timeline_of_suite` reads off this what can be said of every case: which units are
started and when, that the teardown is carried out once if the case is resolved, and what
has happened by then.  That its script is run at that point, and not only noted, is
`Engine.TornDown`.
-/
import TestEngine.Proofs.Run.Reached
import TestEngine.Proofs.Run.Report

namespace TestEngine

/-! ### Entries of a case -/

namespace Entry

/-- The case of which the entry is a step, if there is one. -/
def case? : Entry → Option ObjectId
  | .bracketed case .. => some case
  | .unitStarted case _ => some case
  | .reported case .. => some case
  | .tearingDown case .. => some case
  | .resolved case _ => some case
  | _ => none

/-- The unit of the case that is started, if the entry says so. -/
def unitOf? (case : ObjectId) : Entry → Option Nat
  | .unitStarted case' unit => if case' = case then some unit else none
  | _ => none

/-- The teardown of the case, if the entry is one: whether a test is running, and the hooks
in the chain. -/
def teardownOf? (case : ObjectId) : Entry → Option (Bool × List HookId)
  | .tearingDown case' active chain => if case' = case then some (active, chain) else none
  | _ => none

theorem unitOf?_eq_none {case : ObjectId} {x : Entry} (h : x.case? ≠ some case) :
    x.unitOf? case = none := by
  unfold unitOf?
  split
  · exact if_neg fun hc => h (congrArg some hc)
  · rfl

theorem teardownOf?_eq_none {case : ObjectId} {x : Entry} (h : x.case? ≠ some case) :
    x.teardownOf? case = none := by
  unfold teardownOf?
  split
  · exact if_neg fun hc => h (congrArg some hc)
  · rfl

end Entry

/-- The teardown of a case, if it has one. -/
def Tree.teardown? (t : Tree) (case : ObjectId) : Option Script :=
  (t.case? case).bind CaseData.teardown

/-- What can be said of the order of the steps of a case, in a run of the tree `t` that has
ended in the tree `t'`. -/
structure Timeline (mode : Mode) (t t' : Tree) (steps : List Entry) (case : ObjectId) : Prop where
  /-- Units are started in order from the first on, each once. -/
  units : ∃ count ≤ t.leafCount case, steps.filterMap (Entry.unitOf? case) = List.range count
  /-- The hooks of a case are installed if one of its units is started. -/
  hooks : ∀ unit, .unitStarted case unit ∈ steps → ∃ outer inner,
    .bracketed case outer inner ∈ steps
  /-- No unit is started after one has failed. -/
  stops : ∀ pre post path v, steps = pre ++ .reported case path v :: post → v.isFail = true →
    ∀ unit, .unitStarted case unit ∉ post
  /-- A case that is blocked or left out by the selection is not started. -/
  unrun : (t'.blocker? (t.dependencies case)).isSome = true ∨ mode.excluded (t.path case) = true →
    ∀ unit, .unitStarted case unit ∉ steps
  /-- The teardown is carried out once if the case is resolved, and never otherwise. -/
  teardowns : (steps.filterMap (Entry.teardownOf? case)).length =
    if (t'.result? case).isSome = true ∧ (t.teardown? case).isSome = true then 1 else 0
  /-- The teardown comes right after the last line of the case and right before its conclusion,
  while no test is running and the hooks of the case are gone. -/
  teardown : ∀ pre post active chain, steps = pre ++ .tearingDown case active chain :: post →
    (∃ path v, pre.getLast? = some (.reported case path v)) ∧
    (∃ v, post.head? = some (.resolved case v)) ∧
    (∀ path v, .reported case path v ∉ post) ∧ (∀ unit, .unitStarted case unit ∉ post) ∧
    active = false ∧
    ∀ outer inner, .bracketed case outer inner ∈ steps → outer ∉ chain ∧ inner ∉ chain

/-! ### Steps that stand together -/

/-- Where an element stands that is in neither end of a list. -/
theorem exists_split_of_append {α : Type} {before block after pre post : List α} {x : α}
    (h : before ++ (block ++ after) = pre ++ x :: post) (hbefore : x ∉ before)
    (hafter : x ∉ after) :
    ∃ pre' post', block = pre' ++ x :: post' ∧ pre = before ++ pre' ∧ post = post' ++ after := by
  -- the element is not in the first part, so that part ends before it
  have hleft : ∃ pre', pre = before ++ pre' ∧ block ++ after = pre' ++ x :: post := by
    rcases List.append_eq_append_iff.mp h with hpre | ⟨rest, hrest, hx⟩
    · exact hpre
    · rcases rest with - | ⟨y, rest⟩
      · exact ⟨[], by simpa using hrest.symm, hx.symm⟩
      · obtain ⟨rfl, -⟩ := List.cons.inj hx
        exact absurd (by rw [hrest]; simp) hbefore
  obtain ⟨pre', hpre, hblock⟩ := hleft
  rcases List.append_eq_append_iff.mp hblock with ⟨rest, -, hrest⟩ | ⟨rest, hrest, hx⟩
  · exact absurd (by rw [hrest]; simp) hafter
  · rcases rest with - | ⟨y, post'⟩
    · exact absurd (by rw [show after = x :: post from hx.symm]; simp) hafter
    · obtain ⟨rfl, hpost⟩ := List.cons.inj hx
      exact ⟨pre', post', hrest, hpre, hpost⟩

/-- The steps of a case stand together in a list. -/
structure Placed (case : ObjectId) (steps before block after : List Entry) : Prop where
  eq : steps = before ++ (block ++ after)
  before : ∀ x ∈ before, x.case? ≠ some case
  after : ∀ x ∈ after, x.case? ≠ some case

namespace Placed

variable {case : ObjectId} {steps before block after : List Entry}
  (h : Placed case steps before block after)

include h

theorem split {pre post : List Entry} {x : Entry} (hx : x.case? = some case)
    (hsteps : steps = pre ++ x :: post) :
    ∃ pre' post', block = pre' ++ x :: post' ∧ pre = before ++ pre' ∧ post = post' ++ after :=
  exists_split_of_append (h.eq.symm.trans hsteps) (fun hmem => h.before x hmem hx)
    fun hmem => h.after x hmem hx

theorem mem_iff {x : Entry} (hx : x.case? = some case) : x ∈ steps ↔ x ∈ block := by
  rw [h.eq, List.mem_append, List.mem_append]
  constructor
  · rintro (hmem | hmem | hmem)
    · exact absurd hx (h.before x hmem)
    · exact hmem
    · exact absurd hx (h.after x hmem)
  · exact fun hmem => .inr (.inl hmem)

theorem filterMap_eq {α : Type} {f : Entry → Option α}
    (hf : ∀ x : Entry, x.case? ≠ some case → f x = none) :
    steps.filterMap f = block.filterMap f := by
  have hbefore : before.filterMap f = [] :=
    List.filterMap_eq_nil_iff.mpr fun x hx => hf x (h.before x hx)
  have hafter : after.filterMap f = [] :=
    List.filterMap_eq_nil_iff.mpr fun x hx => hf x (h.after x hx)
  rw [h.eq, List.filterMap_append, List.filterMap_append, hbefore, hafter, List.nil_append,
    List.append_nil]

end Placed

/-! ### The steps of a settled case -/

section Units

variable {case : ObjectId}

/-- The steps of the units of a case are printed lines, starts and reports. -/
theorem cases_of_mem_reportSteps {number unit : Nat} {failed : Bool} {lines : List Engine.Line}
    {x : Entry} (h : x ∈ Engine.reportSteps case number unit failed lines) :
    (∃ text, x = .printed .report text) ∨ (∃ n, x = .unitStarted case n) ∨
      ∃ path v, x = .reported case path v := by
  induction lines generalizing number unit failed with
  | nil => exact absurd h (by simp [Engine.reportSteps])
  | cons line lines ih =>
    unfold Engine.reportSteps Engine.unitSteps at h
    rcases List.mem_append.mp h with h | h
    · rcases List.mem_append.mp h with h | h
      · split at h
        · exact .inr (.inl ⟨unit, List.mem_singleton.mp h⟩)
        · exact absurd h (by simp)
      · rcases List.mem_pair.mp h with rfl | rfl
        · exact .inl ⟨_, rfl⟩
        · exact .inr (.inr ⟨_, _, rfl⟩)
    · exact ih h

/-- The units of a case are started in order up to a certain one. -/
theorem units_of_reportSteps (case : ObjectId) (number unit : Nat) (failed : Bool)
    (lines : List Engine.Line) :
    ∃ count ≤ lines.length, (failed = true → count = 0) ∧
      (Engine.reportSteps case number unit failed lines).filterMap (Entry.unitOf? case) =
        List.range' unit count := by
  induction lines generalizing number unit failed with
  | nil => exact ⟨0, Nat.le_refl _, fun _ => rfl, rfl⟩
  | cons line lines ih =>
    obtain ⟨count, hcount, hzero, hunits⟩ := ih (number + 1) (unit + 1) (failed || line.2.isFail)
    rcases failed with _ | _
    · refine ⟨count + 1, Nat.succ_le_succ hcount, fun hfailed => absurd hfailed (by simp), ?_⟩
      rw [Engine.reportSteps, List.filterMap_append, hunits, List.range'_succ]
      simp [Engine.unitSteps, Entry.unitOf?]
    · obtain rfl := hzero rfl
      refine ⟨0, Nat.zero_le _, fun _ => rfl, ?_⟩
      rw [Engine.reportSteps, List.filterMap_append, hunits]
      simp [Engine.unitSteps, Entry.unitOf?]

/-- Of two steps, the second does not start a unit of the case if the first reports that one
of its units has failed. -/
def Bars (case : ObjectId) (x y : Entry) : Prop :=
  ∀ path v, x = .reported case path v → v.isFail = true → ∀ unit, y ≠ .unitStarted case unit

theorem reportSteps_pairwise (case : ObjectId) (number unit : Nat) (failed : Bool)
    (lines : List Engine.Line) :
    (Engine.reportSteps case number unit failed lines).Pairwise (Bars case) := by
  induction lines generalizing number unit failed with
  | nil => exact List.Pairwise.nil
  | cons line lines ih =>
    refine List.pairwise_append.mpr ⟨?_, ih _ _ _, ?_⟩
    · unfold Engine.unitSteps
      rcases failed with _ | _ <;> simp [Bars]
    · -- what comes after a failed line runs no unit
      intro x hx y hy path v hreported hfail n hstarted
      have hline : v = line.2 := by
        rw [hreported] at hx
        rcases failed with _ | _ <;> simp [Engine.unitSteps] at hx <;> exact hx.2
      rw [hstarted] at hy
      have hnot := (Engine.started_of_mem_reportSteps hy).2
      rw [← hline, hfail, Bool.or_true] at hnot
      exact absurd hnot (by simp)

theorem getLast?_reportSteps (case : ObjectId) (number unit : Nat) (failed : Bool)
    {lines : List Engine.Line} (h : lines ≠ []) :
    ∃ path v, (Engine.reportSteps case number unit failed lines).getLast? =
      some (.reported case path v) := by
  induction lines generalizing number unit failed with
  | nil => exact absurd rfl h
  | cons line lines ih =>
    unfold Engine.reportSteps
    rw [List.getLast?_append]
    rcases lines with - | ⟨next, lines⟩
    · refine ⟨line.1, line.2, ?_⟩
      rcases failed with _ | _ <;> rfl
    · obtain ⟨path, v, hlast⟩ :=
        ih (number + 1) (unit + 1) (failed || line.2.isFail) (by simp)
      exact ⟨path, v, by rw [hlast]; rfl⟩

end Units

namespace Settlement

variable {s : Settlement} {x : Entry}

theorem case?_of_mem_steps (h : x ∈ s.steps) : x.case? = none ∨ x.case? = some s.case := by
  unfold steps reports cleanups conclusion at h
  rcases List.mem_append.mp h with h | h
  · rcases List.mem_append.mp h with h | h
    · rcases List.mem_append.mp h with h | h
      · obtain ⟨_, -, rfl⟩ := List.mem_map.mp h
        exact .inr rfl
      · rcases cases_of_mem_reportSteps h with ⟨_, rfl⟩ | ⟨_, rfl⟩ | ⟨_, _, rfl⟩
        · exact .inl rfl
        · exact .inr rfl
        · exact .inr rfl
    · obtain ⟨_, -, rfl⟩ := List.mem_map.mp h
      exact .inr rfl
  · rcases List.mem_cons.mp h with rfl | h
    · exact .inr rfl
    · obtain ⟨_, -, rfl⟩ := List.mem_map.mp h
      exact .inl rfl

/-- Units are started in the reports of a case only. -/
theorem units_of_steps (s : Settlement) : ∃ count ≤ s.lines.length,
    s.steps.filterMap (Entry.unitOf? s.case) = List.range count := by
  obtain ⟨count, hcount, -, hunits⟩ :=
    units_of_reportSteps s.case s.number 0 s.hooks.isNone s.lines
  refine ⟨count, hcount, ?_⟩
  rw [List.range_eq_range', ← hunits]
  unfold steps reports cleanups conclusion
  rcases s.hooks with - | hooks <;> rcases s.cleanup with - | cleanup <;>
    rcases s.bail with - | message <;> simp [List.filterMap_cons, Entry.unitOf?]

/-- No unit is started after one has failed. -/
theorem stops_of_steps {pre post : List Entry} {path : Path} {v : Verdict}
    (h : s.steps = pre ++ .reported s.case path v :: post) (hfail : v.isFail = true) (unit : Nat) :
    .unitStarted s.case unit ∉ post := by
  let opening : List Entry := s.hooks.toList.map fun h => .bracketed s.case h.1 h.2
  have hopening : .reported s.case path v ∉ opening := by simp [opening]
  have hending : .reported s.case path v ∉ s.cleanups ++ s.conclusion := by
    simp [cleanups, conclusion]
  have hsteps : s.steps = opening ++ (Engine.reportSteps s.case s.number 0 s.hooks.isNone s.lines ++
      (s.cleanups ++ s.conclusion)) := by
    simp [steps, reports, opening]
  obtain ⟨pre', post', hunits, -, rfl⟩ :=
    exists_split_of_append (hsteps.symm.trans h) hopening hending
  have hpairwise := reportSteps_pairwise s.case s.number 0 s.hooks.isNone s.lines
  rw [hunits] at hpairwise
  have hbars := (List.pairwise_cons.mp (List.pairwise_append.mp hpairwise).2.1).1
  intro hmem
  rcases List.mem_append.mp hmem with hmem | hmem
  · exact hbars _ hmem path v rfl hfail unit rfl
  · exact absurd hmem (by simp [cleanups, conclusion])

/-- The reports of a case are no teardown. -/
theorem teardownOf?_of_mem_reports (h : x ∈ s.reports) : x.teardownOf? s.case = none := by
  rcases List.mem_append.mp h with h | h
  · obtain ⟨_, -, rfl⟩ := List.mem_map.mp h
    rfl
  · rcases cases_of_mem_reportSteps h with ⟨_, rfl⟩ | ⟨_, rfl⟩ | ⟨_, _, rfl⟩ <;> rfl

theorem teardowns_of_steps (s : Settlement) :
    s.steps.filterMap (Entry.teardownOf? s.case) = s.cleanup.toList := by
  have hreports : s.reports.filterMap (Entry.teardownOf? s.case) = [] :=
    List.filterMap_eq_nil_iff.mpr fun x hx => teardownOf?_of_mem_reports hx
  unfold steps cleanups conclusion
  rw [List.filterMap_append, List.filterMap_append, hreports]
  rcases s.cleanup with - | cleanup <;> rcases s.bail with - | message <;>
    simp [Entry.teardownOf?]

/-- What comes before the teardown of a case and after it. -/
theorem split_of_teardown {pre post : List Entry} {active : Bool} {chain : List HookId}
    (h : s.steps = pre ++ .tearingDown s.case active chain :: post) :
    s.cleanup = some (active, chain) ∧ pre = s.reports ∧ post = s.conclusion := by
  have hreports : .tearingDown s.case active chain ∉ s.reports := by
    intro hmem
    exact absurd (teardownOf?_of_mem_reports hmem) (by simp [Entry.teardownOf?])
  have hconclusion : .tearingDown s.case active chain ∉ s.conclusion := by
    simp [conclusion]
  have hsteps : s.steps = s.reports ++ (s.cleanups ++ s.conclusion) := List.append_assoc ..
  obtain ⟨pre', post', hcleanups, rfl, rfl⟩ :=
    exists_split_of_append (hsteps.symm.trans h) hreports hconclusion
  unfold cleanups at hcleanups
  rcases hc : s.cleanup with - | cleanup <;> rw [hc] at hcleanups
  · exact absurd hcleanups (by simp)
  · rcases pre' with - | ⟨y, pre'⟩
    · simp only [Option.toList_some, List.map_cons, List.map_nil, List.nil_append,
        List.cons.injEq, Entry.tearingDown.injEq, true_and] at hcleanups
      obtain ⟨⟨rfl, rfl⟩, rfl⟩ := hcleanups
      exact ⟨rfl, List.append_nil _, rfl⟩
    · exact absurd hcleanups (by simp)

/-- A step of the case that is not part of its conclusion does not come after the teardown. -/
theorem not_mem_of_placed {steps before after : List Entry}
    (h : Placed s.case steps before s.steps after) (hx : x.case? = some s.case)
    (hconclusion : x ∉ s.conclusion) : x ∉ s.conclusion ++ after := by
  intro hmem
  rcases List.mem_append.mp hmem with hmem | hmem
  · exact hconclusion hmem
  · exact h.after x hmem hx

/-- The last report of a case is its last line. -/
theorem getLast?_reports (h : s.lines ≠ []) :
    ∃ path v, s.reports.getLast? = some (.reported s.case path v) := by
  obtain ⟨path, v, hlast⟩ := getLast?_reportSteps s.case s.number 0 s.hooks.isNone h
  refine ⟨path, v, ?_⟩
  rw [reports, List.getLast?_append, hlast]
  rfl

/-- The hooks are installed for a case that starts a unit. -/
theorem bracketed_of_started {unit : Nat} (h : .unitStarted s.case unit ∈ s.steps) :
    ∃ outer inner, .bracketed s.case outer inner ∈ s.steps := by
  obtain ⟨⟨outer, inner⟩, hhooks⟩ := Option.isSome_iff_exists.mp (started_of_mem_steps h).2
  refine ⟨outer, inner, ?_⟩
  simp [steps, reports, hhooks]

theorem hooks_of_bracketed {outer inner : HookId} (h : .bracketed s.case outer inner ∈ s.steps) :
    s.hooks = some (outer, inner) := by
  have hreports : .bracketed s.case outer inner ∈ s.reports := by
    simpa [steps, cleanups, conclusion] using h
  rcases List.mem_append.mp hreports with hmem | hmem
  · rcases hhooks : s.hooks with - | ⟨o, i⟩ <;> rw [hhooks] at hmem
    · exact absurd hmem (by simp)
    · obtain ⟨-, rfl, rfl⟩ := Entry.bracketed.inj (List.mem_singleton.mp hmem)
      rfl
  · rcases cases_of_mem_reportSteps hmem with ⟨_, h⟩ | ⟨_, h⟩ | ⟨_, _, h⟩ <;>
      exact absurd h (by simp)

end Settlement

/-! ### Whole runs -/

namespace Run

variable {mode : Mode} {t : Tree} {r : Run} {e : Engine} {ss : List Settlement} {s : Settlement}

/-- A case that is not settled takes no steps. -/
theorem case?_ne_of_absent {case : ObjectId} (h : case ∉ ss.map Settlement.case) :
    ∀ x ∈ ss.flatMap Settlement.steps, x.case? ≠ some case := by
  intro x hx hcase
  obtain ⟨s, hs, hmem⟩ := List.mem_flatMap.mp hx
  rcases Settlement.case?_of_mem_steps hmem with hnone | hsome
  · rw [hnone] at hcase
    exact absurd hcase (by simp)
  · rw [hsome] at hcase
    exact h (List.mem_map.mpr ⟨s, hs, Option.some.inj hcase⟩)

/-- The steps of a settled case stand together, among those of the cases settled before it and
after it. -/
theorem placed_of_settled (hnodup : (ss.map Settlement.case).Nodup) (hs : s ∈ ss) (text : String) :
    ∃ before after, Placed s.case (.printed .report text :: ss.flatMap Settlement.steps)
      before s.steps after := by
  obtain ⟨ss₁, ss₂, rfl⟩ := List.append_of_mem hs
  rw [List.map_append, List.map_cons] at hnodup
  obtain ⟨-, hrest, hdisjoint⟩ := List.nodup_append.mp hnodup
  have habsent₁ : s.case ∉ ss₁.map Settlement.case := fun hmem =>
    hdisjoint _ hmem _ (List.mem_cons_self ..) rfl
  have habsent₂ : s.case ∉ ss₂.map Settlement.case := (List.nodup_cons.mp hrest).1
  refine ⟨.printed .report text :: ss₁.flatMap Settlement.steps, ss₂.flatMap Settlement.steps,
    ?_, ?_, case?_ne_of_absent habsent₂⟩
  · rw [List.flatMap_append, List.flatMap_cons]
    rfl
  · intro x hx
    rcases List.mem_cons.mp hx with rfl | hx
    · exact fun h => absurd h (by simp [Entry.case?])
    · exact case?_ne_of_absent habsent₁ x hx

/-- A case that is blocked or left out by the selection runs under no hooks. -/
theorem hooks_of_unrun (hprogress : Progress mode (start t e) ss r) (hs : s ∈ ss)
    (h : (r.tree.blocker? (t.dependencies s.case)).isSome = true ∨
      mode.excluded (t.path s.case) = true) : s.hooks = none := by
  obtain ⟨r₁, r₂, m⟩ := hprogress.moment hs
  have hblockade : blockadeOf r₁.tree s.case =
      (r.tree.blocker? (t.dependencies s.case)).map r.tree.blockade := m.blockadeOf_eq
  rcases m.settles.concluded.grounds with ⟨-, hhooks, -⟩ | ⟨-, -, -, hhooks, -⟩ |
    ⟨hblocked, hincluded, -, -, -, -, -, -⟩
  · exact hhooks
  · exact hhooks
  · exfalso
    rcases h with hblocker | hexcluded
    · rw [hblockade, Option.map_eq_none_iff] at hblocked
      rw [hblocked] at hblocker
      exact absurd hblocker (by simp)
    · have hpath : r₁.tree.path s.case = t.path s.case := m.path _
      rw [hpath, hexcluded] at hincluded
      exact absurd hincluded (by simp)

/-- There is a teardown just if the case has one, and its script is carried out. -/
theorem tornDown_of_settled (hprogress : Progress mode (start t e) ss r) (hs : s ∈ ss) :
    s.cleanup.isSome = (t.teardown? s.case).isSome ∧
      ∀ script, t.teardown? s.case = some script →
        Engine.TornDown s.case script e r.engine := by
  obtain ⟨r₁, r₂, m⟩ := hprogress.moment hs
  obtain ⟨c, hcase, hcleanup, htorn⟩ := m.settles.concluded.cleanup
  obtain ⟨_, hstarted⟩ := m.started
  rw [m.untouched] at hcase
  have hteardown : t.teardown? s.case = c.teardown := by
    rw [Tree.teardown?, show t.case? s.case = some c from hcase]
    rfl
  refine ⟨by rw [hcleanup, hteardown], fun script hscript => ?_⟩
  exact (htorn script (hteardown.symm.trans hscript)).mono hstarted.journal_suffix m.finished

/-- The teardown of a case starts outside of tests and without the hooks of the case. -/
theorem cleanly_of_settled (hprogress : Progress mode (start t e) ss r) (hs : s ∈ ss)
    (hidle : e.isActive = false) (hfresh : e.Fresh) (active : Bool) (chain : List HookId)
    (hcleanup : s.cleanup = some (active, chain)) : active = false ∧
      ∀ outer inner, s.hooks = some (outer, inner) → outer ∉ chain ∧ inner ∉ chain := by
  obtain ⟨r₁, r₂, m⟩ := hprogress.moment hs
  obtain ⟨_, hstarted⟩ := m.started
  obtain ⟨hactive, hgone⟩ := m.settles.concluded.cleanly active chain hcleanup
  -- until then no test has been left running, and no hook stands under a number to come
  refine ⟨?_, hgone (hstarted.hooks.fresh hfresh)⟩
  rw [hactive, hstarted.active]
  exact hidle

theorem timeline_of_absent {case : ObjectId} (hprogress : Progress mode (start t e) ss r)
    (hsound : t.Sound) (text : String) (habsent : case ∉ ss.map Settlement.case) :
    Timeline mode t r.tree (.printed .report text :: ss.flatMap Settlement.steps) case := by
  have hnone : ∀ x ∈ (Entry.printed .report text :: ss.flatMap Settlement.steps),
      x.case? ≠ some case := by
    intro x hx
    rcases List.mem_cons.mp hx with rfl | hx
    · exact fun h => absurd h (by simp [Entry.case?])
    · exact case?_ne_of_absent habsent x hx
  have hresult : r.tree.result? case = none := by
    rw [Tree.result?, hprogress.case?_of_not_mem habsent]
    exact hsound.result?_eq_none case
  refine ⟨⟨0, Nat.zero_le _, ?_⟩, ?_, ?_, ?_, ?_, ?_⟩
  · exact List.filterMap_eq_nil_iff.mpr fun x hx => Entry.unitOf?_eq_none (hnone x hx)
  · intro unit hmem
    exact absurd rfl (hnone _ hmem)
  · intro pre post path v hsteps
    exact absurd rfl (hnone (.reported case path v) (by rw [hsteps]; simp))
  · intro _ unit hmem
    exact hnone _ hmem rfl
  · rw [List.filterMap_eq_nil_iff.mpr fun x hx => Entry.teardownOf?_eq_none (hnone x hx), hresult]
    rfl
  · intro pre post active chain hsteps
    exact absurd rfl (hnone (.tearingDown case active chain) (by rw [hsteps]; simp))

theorem timeline_of_settled (hprogress : Progress mode (start t e) ss r) (hsound : t.Sound)
    (hidle : e.isActive = false) (hfresh : e.Fresh) (text : String) (hs : s ∈ ss) :
    Timeline mode t r.tree (.printed .report text :: ss.flatMap Settlement.steps) s.case := by
  obtain ⟨before, after, hplaced⟩ := placed_of_settled hprogress.nodup hs text
  have hcleanup := (tornDown_of_settled hprogress hs).1
  have hpaths : s.lines.map Prod.fst = t.reportPaths s.case :=
    lines_of_settled hsound hprogress s hs
  have hcase := isSome_case?_of_settled hprogress s.case (List.mem_map_of_mem hs)
  have hlength : s.lines.length = t.leafCount s.case := by
    rw [← Tree.length_reportPaths hcase, ← hpaths, List.length_map]
  refine ⟨?_, ?_, ?_, ?_, ?_, ?_⟩
  · obtain ⟨count, hcount, hunits⟩ := s.units_of_steps
    refine ⟨count, hlength ▸ hcount, ?_⟩
    rw [hplaced.filterMap_eq fun x => Entry.unitOf?_eq_none, hunits]
  · intro unit hmem
    obtain ⟨outer, inner, hhooks⟩ := s.bracketed_of_started ((hplaced.mem_iff rfl).mp hmem)
    exact ⟨outer, inner, (hplaced.mem_iff rfl).mpr hhooks⟩
  · intro pre post path v hsteps hfail unit hmem
    obtain ⟨pre', post', hblock, -, rfl⟩ := hplaced.split rfl hsteps
    rcases List.mem_append.mp hmem with hmem | hmem
    · exact Settlement.stops_of_steps hblock hfail unit hmem
    · exact hplaced.after _ hmem rfl
  · intro hunrun unit hmem
    have hhooks := (Settlement.started_of_mem_steps ((hplaced.mem_iff rfl).mp hmem)).2
    rw [hooks_of_unrun hprogress hs hunrun] at hhooks
    exact absurd hhooks (by simp)
  · rw [hplaced.filterMap_eq fun x => Entry.teardownOf?_eq_none, s.teardowns_of_steps,
      hprogress.result?_of_mem hs, ← hcleanup]
    rcases s.cleanup with - | cleanup <;> rfl
  · intro pre post active chain hsteps
    obtain ⟨pre', post', hblock, rfl, rfl⟩ := hplaced.split rfl hsteps
    obtain ⟨hsome, rfl, rfl⟩ := Settlement.split_of_teardown hblock
    obtain ⟨hactive, hgone⟩ := cleanly_of_settled hprogress hs hidle hfresh active chain hsome
    have hlines : s.lines ≠ [] := by
      refine List.ne_nil_of_length_pos ?_
      rw [hlength]
      exact Tree.leafCount_pos hcase
    refine ⟨?_, ⟨s.verdict, rfl⟩, fun path v => ?_, fun unit => ?_, hactive, ?_⟩
    · obtain ⟨path, v, hlast⟩ := s.getLast?_reports hlines
      exact ⟨path, v, by rw [List.getLast?_append, hlast]; rfl⟩
    · exact s.not_mem_of_placed hplaced rfl (by simp [Settlement.conclusion])
    · exact s.not_mem_of_placed hplaced rfl (by simp [Settlement.conclusion])
    · intro outer inner hmem
      exact hgone outer inner (Settlement.hooks_of_bracketed ((hplaced.mem_iff rfl).mp hmem))

/-- In every run that returns, the steps of every case keep their order, and the teardown of
every case that is resolved is carried out.  The run starts in a state that a process can be
in, outside of tests. -/
theorem timeline_of_suite (calls : List Tree.Call) (mode : Mode) (root : ObjectId) (e : Engine)
    (r : Run) (hlist : mode.listOnly = false) (hidle : e.isActive = false) (he : e.Reached)
    (h : suite mode root (start (Tree.ofCalls calls) e) = .ok () r) (case : ObjectId) :
    Timeline mode (Tree.ofCalls calls) r.tree (Engine.stepsSince e r.engine) case ∧
      ∀ script, (Tree.ofCalls calls).teardown? case = some script →
        (r.tree.result? case).isSome = true → Engine.TornDown case script e r.engine := by
  have hsound := Tree.sound_ofCalls calls
  generalize Tree.ofCalls calls = t at *
  obtain ⟨-, ss, hprogress, -, -⟩ := suite_spec hlist h
  rw [(advances_suite hprogress).stepsSince_eq]
  have hidle' : (announced t root e).isActive = false := hidle
  have hfresh : (announced t root e).Fresh := he.fresh
  refine ⟨?_, fun script hscript hresolved => ?_⟩
  · by_cases hmem : case ∈ ss.map Settlement.case
    · obtain ⟨s, hs, rfl⟩ := List.mem_map.mp hmem
      exact timeline_of_settled hprogress hsound hidle' hfresh _ hs
    · exact timeline_of_absent hprogress hsound _ hmem
  · obtain ⟨s, hs, rfl⟩ := hprogress.mem_of_result? (hsound.result?_eq_none case) hresolved
    have htorn := (tornDown_of_settled hprogress hs).2 script hscript
    exact htorn.mono (Engine.advances_note_step rfl e).journal_suffix (List.suffix_refl _)

/-- A suite with a complex case, whose first subunit fails and which has a teardown. -/
def brokenCalls : List Tree.Call :=
  [.suite "s", .addComplexCase 0 "c" [("x", [.raise (.fail "broken")]), ("y", [])] (some [])]

/-- The second subunit of the case is reported without being started, and the teardown comes
after both lines, when the chain is empty again. -/
theorem timeline_of_broken :
    let o := suite .default 0 (start (Tree.ofCalls brokenCalls) .initial)
    o = .ok () (endOf o) ∧
      Engine.stepsSince .initial (endOf o).engine =
        [.printed .report "1..2", .bracketed 1 1 2, .unitStarted 1 0,
          .printed .report "not ok 1 /s/c/x # FAIL broken",
          .reported 1 ⟨["s", "c", "x"]⟩ (.fail "broken"),
          .printed .report "not ok 2 /s/c/y # FAIL previous subunit failed",
          .reported 1 ⟨["s", "c", "y"]⟩ (.fail "previous subunit failed"),
          .tearingDown 1 false [], .resolved 1 (.fail "subunit x failed")] ∧
      Timeline .default (Tree.ofCalls brokenCalls) (endOf o).tree
        (Engine.stepsSince .initial (endOf o).engine) 1 ∧
      Engine.TornDown 1 [] .initial (endOf o).engine := by
  intro o
  have hrun : o = .ok () (endOf o) := eq_ok_endOf (by decide +kernel)
  have horder := timeline_of_suite brokenCalls .default 0 .initial (endOf o) rfl rfl
    (.initial .none .none) hrun 1
  exact ⟨hrun, by decide +kernel, horder.1, horder.2 [] rfl (by decide +kernel)⟩

end Run

end TestEngine
