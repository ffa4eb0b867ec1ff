/-
TestEngine/Proofs/Run/Emission.lean

What becomes of a diagnostic that the body of a case emits.  An `Emission` is such a moment in
a run of a tree: an action somewhere in the course of the running unit, on the thread of the
unit, before any outcome is recorded, and without hooks above those of the case.

Neither scripts nor the hooks below can get at the two hooks of a case: all that stands above
them is newer, and nothing names them (`Engine.Atop`).  So when a diagnostic is emitted, they
stand on top of the hooks that were there before the case (`Emission.bracketed`), and what
becomes of the diagnostic is a matter of the expectations of the case, of the policies of the
case and its ancestors, and of the hooks below, in this order (`classified_of_emission`).
-/
import Mathlib.Logic.Relation
import TestEngine.Proofs.Engine.Classify
import TestEngine.Proofs.Run.Reached
import TestEngine.Proofs.Run.Start

namespace TestEngine

/-! ### Policies and expectations of a case -/

namespace Tree

/-- The expectations of a case, in order of attachment. -/
def expectations (t : Tree) (id : ObjectId) : List Expectation :=
  match t.case? id with
  | some c => c.expectations
  | none => []

/-- The policies of an object itself. -/
def policies (t : Tree) (id : ObjectId) : List Policy :=
  match t.node? id with
  | some n => n.policies
  | none => []

variable {t t' : Tree}

theorem expectations_static (id : ObjectId) : t.static.expectations id = t.expectations id := by
  unfold expectations
  rw [case?_static]
  rcases t.case? id with - | c <;> rfl

theorem expectations_eq_of_static (h : t'.static = t.static) (id : ObjectId) :
    t'.expectations id = t.expectations id :=
  static_congr (fun t => t.expectations id) (fun _ => expectations_static id) h

/-- The policies under which a case runs are its own and those of its ancestors. -/
theorem Forest.mem_inheritedPolicies (h : t.Forest) {id : ObjectId}
    (hid : (t.node? id).isSome = true) {p : Policy} :
    p ∈ t.inheritedPolicies id ↔ ∃ a, t.Over id a ∧ p ∈ t.policies a := by
  have hflat : t.inheritedPolicies id = (t.lineage id).flatMap t.policies := rfl
  rw [hflat, List.mem_flatMap]
  exact exists_congr fun a => and_congr_left fun _ => h.mem_lineage_iff_over hid

end Tree

namespace Engine

/-! ### The hooks of a case stay -/

/-- The hook `i` stands right above the `older` hooks, all above it are newer, and no script can
name it. -/
structure Atop (i : Installed) (older : List Installed) (e : Engine) : Prop where
  chain : ∃ newer, e.chain = newer ++ i :: older ∧ ∀ j ∈ newer, i.id < j.id
  nextHook : i.id < e.nextHook
  unnamed : i.id ∉ e.names

section Atop

variable {i : Installed} {older : List Installed} {e e' : Engine}

theorem Atop.enlist (h : Atop i older e) (named : Bool) (hook : Hook) :
    Atop i older (enlist named hook e) := by
  obtain ⟨newer, hchain, hnewer⟩ := h.chain
  have hchain' : (Engine.enlist named hook e).chain = (⟨e.nextHook, hook⟩ :: newer) ++ i :: older := by
    rw [List.cons_append, ← hchain]
    rcases named with _ | _ <;> rfl
  refine ⟨⟨_, hchain', fun j hj => ?_⟩, ?_, ?_⟩
  · rcases List.mem_cons.mp hj with rfl | hj
    · exact h.nextHook
    · exact hnewer j hj
  · have hnext : (Engine.enlist named hook e).nextHook = e.nextHook + 1 := by
      rcases named with _ | _ <;> rfl
    rw [hnext]
    exact Nat.lt_succ_of_lt h.nextHook
  · rcases named with _ | _
    · exact h.unnamed
    · intro hmem
      rcases List.mem_append.mp hmem with hmem | hmem
      · rcases List.mem_append.mp hmem with hmem | hmem
        · exact h.unnamed (List.mem_append_left _ hmem)
        · exact absurd (List.mem_singleton.mp hmem) (Nat.ne_of_lt h.nextHook)
      · exact h.unnamed (List.mem_append_right _ hmem)

/-- A newer hook may get a name that only a block knows. -/
theorem Atop.binding (h : Atop i older e) (hook : Hook) : Atop i older (binding hook e) := by
  obtain ⟨newer, hchain, hnewer⟩ := h.chain
  refine ⟨⟨⟨e.nextHook, hook⟩ :: newer, congrArg (_ :: ·) hchain, fun j hj => ?_⟩,
    Nat.lt_succ_of_lt h.nextHook, fun hmem => ?_⟩
  · rcases List.mem_cons.mp hj with rfl | hj
    · exact h.nextHook
    · exact hnewer j hj
  · rcases List.mem_append.mp hmem with hmem | hmem
    · exact h.unnamed (List.mem_append_left _ hmem)
    · rcases List.mem_cons.mp hmem with hid | hmem
      · exact absurd hid (Nat.ne_of_lt h.nextHook)
      · exact h.unnamed (List.mem_append_right _ hmem)

/-- At the end of the block, the names are those that there were before. -/
theorem Atop.unbound (h : Atop i older e) (h' : Atop i older e') :
    Atop i older (unbound e e') := by
  refine ⟨h'.chain, h'.nextHook, fun hmem => ?_⟩
  rcases List.mem_append.mp hmem with hmem | hmem
  · exact h'.unnamed (List.mem_append_left _ hmem)
  · exact h.unnamed (List.mem_append_right _ hmem)

/-- The newest hook may go if it is another one. -/
theorem Atop.pop (h : Atop i older e) {j : Installed} {rest : List Installed}
    (hc : e.chain = j :: rest) (hne : j.id ≠ i.id) : Atop i older { e with chain := rest } := by
  obtain ⟨newer, hchain, hnewer⟩ := h.chain
  rw [hc] at hchain
  rcases newer with - | ⟨k, newer⟩
  · cases hchain
    exact absurd rfl hne
  · cases hchain
    exact ⟨⟨newer, rfl, fun j hj => hnewer j (List.mem_cons_of_mem _ hj)⟩, h.nextHook, h.unnamed⟩

/-- Removing a hook that was installed above `i` leaves `i` and all below in place. -/
theorem Atop.discard (h : Atop i older e) (hold : ∀ j ∈ older, j.id < i.id) {id : HookId}
    (hid : i.id < id) : Atop i older (discard id e) := by
  obtain ⟨newer, hchain, hnewer⟩ := h.chain
  refine ⟨⟨newer.filter fun j => j.id != id, ?_, fun j hj => hnewer j (List.mem_filter.mp hj).1⟩,
    h.nextHook, h.unnamed⟩
  have hstay : (i :: older).filter (fun j => j.id != id) = i :: older := by
    refine List.filter_eq_self.mpr fun j hj => ?_
    rcases List.mem_cons.mp hj with rfl | hj
    · simpa using Nat.ne_of_lt hid
    · simpa using Nat.ne_of_lt (Nat.lt_trans (hold j hj) hid)
  show e.chain.filter (fun j => j.id != id) = _
  rw [hchain, List.filter_append, hstay]

theorem respected_atop (A : Action → Prop) (P : Entry → Prop) (hold : ∀ j ∈ older, j.id < i.id) :
    Respected A P fun e e' => Atop i older e → Atop i older e' where
  refl _ h := h
  trans h h' ha := h' (h ha)
  noted _ _ _ h := ⟨h.chain, h.nextHook, h.unnamed⟩
  printed _ _ h := ⟨h.chain, h.nextHook, h.unnamed⟩
  installed _ named hook _ _ h := h.enlist named hook
  popped _ _ _ hc hnamed h := h.pop hc fun hid => h.unnamed (hid ▸ hnamed)
  released _ h hc hid ha :=
    (h (ha.enlist _ _)).pop hc fun heq => absurd (hid.symm.trans heq) (Nat.ne_of_gt ha.nextHook)
  discarded _ h ha := (h (ha.enlist _ _)).discard hold ha.nextHook
  bound _ _ h ha := ha.unbound (h (ha.binding _))
  recorded _ _ _ _ _ h := ⟨h.chain, h.nextHook, h.unnamed⟩
  tested _ h ha :=
    let ha' := h ⟨ha.chain, ha.nextHook, ha.unnamed⟩
    ⟨ha'.chain, ha'.nextHook, ha'.unnamed⟩
  threaded h ha :=
    let ha' := h ⟨ha.chain, ha.nextHook, ha.unnamed⟩
    ⟨ha'.chain, ha'.nextHook, ha'.unnamed⟩
  cleaned h ha :=
    let ha' := h ⟨ha.chain, ha.nextHook, ha.unnamed⟩
    ⟨ha'.chain, ha'.nextHook, ha'.unnamed⟩
  asked _ _ h ha :=
    let ha' := h ha
    ⟨ha'.chain, ha'.nextHook, ha'.unnamed⟩
  collected _ _ _ _ h := ⟨h.chain, h.nextHook, h.unnamed⟩
  configured _ _ _ _ h := ⟨h.chain, h.nextHook, h.unnamed⟩
  intercepted _ h := ⟨h.chain, h.nextHook, h.unnamed⟩

theorem deepens_atop : Deepens fun e e' => Atop i older e → Atop i older e' :=
  ⟨fun _ h => ⟨h.chain, h.nextHook, h.unnamed⟩, fun _ h => ⟨h.chain, h.nextHook, h.unnamed⟩,
    fun _ hook h => h.binding hook⟩

/-- Without newer hooks, the chain is what it was. -/
theorem Atop.chain_eq (h : Atop i older e) (hnewer : ∀ j ∈ e.chain, j.id ≤ i.id) :
    e.chain = i :: older := by
  obtain ⟨newer, hchain, hlt⟩ := h.chain
  rcases newer with - | ⟨j, newer⟩
  · exact hchain
  · have hle := hnewer j (by rw [hchain]; exact List.mem_cons_self ..)
    exact absurd (hlt j (List.mem_cons_self ..)) (Nat.not_lt.mpr hle)

end Atop

/-! ### Units begin -/

variable {case : ObjectId} {path : Path}

/-- The state in which the body of a case starts, with its two hooks installed. -/
def bracketing (case : ObjectId) (policies : List Policy) (expectations : List Expectation)
    (e : Engine) : Engine :=
  let e₁ := (install (.failIfLogged policies) e).2
  let e₂ := (install (.expecting expectations) e₁).2
  { e₂ with journal := .bracketed case e.nextHook (e.nextHook + 1) :: e₂.journal }

/-- The chain when the policies of a case are installed, and its expectations not yet. -/
def policed (policies : List Policy) (e : Engine) : List Installed :=
  ⟨e.nextHook, .failIfLogged policies⟩ :: e.chain

theorem Numbered.lt_of_mem_policed {e : Engine} (h : e.Numbered) (policies : List Policy) :
    ∀ j ∈ policed policies e, j.id < e.nextHook + 1 := by
  intro j hj
  rcases List.mem_cons.mp hj with rfl | hj
  · exact Nat.lt_succ_self _
  · exact Nat.lt_succ_of_lt (h.lt_nextHook hj)

theorem Numbered.atop_bracketing {e : Engine} (h : e.Numbered) (case : ObjectId)
    (policies : List Policy) (expectations : List Expectation) :
    Atop ⟨e.nextHook + 1, .expecting expectations⟩ (policed policies e)
      (bracketing case policies expectations e) := by
  refine ⟨⟨[], rfl, fun j hj => absurd hj (by simp)⟩, Nat.lt_succ_self _, fun hmem => ?_⟩
  exact absurd (h.named _ hmem) (Nat.not_lt.mpr (Nat.le_succ _))

/-- The state in which the script of a unit starts. -/
def begun (case : ObjectId) (unit : Nat) (e : Engine) : Engine :=
  { e.entered with journal := .unitStarted case unit :: e.entered.journal }

/-- Of the units listed, numbered from `unit` on, the one with number `k` and this script is
reached in the last state: those before it have run without failing, and were reported. -/
inductive Begins (case : ObjectId) (path : Path) : Nat → Nat → List (String × Script) → Engine →
    Nat → Script → Engine → Prop
  | here {number unit : Nat} {tag : String} {script : Script} {units : List (String × Script)}
      {e : Engine} : Begins case path number unit ((tag, script) :: units) e unit script e
  | later {number unit k : Nat} {tag : String} {script s : Script} {units : List (String × Script)}
      {e e₁ e₂ e₃ : Engine} {v : Verdict} (hrun : runUnit case unit script e = .ok v e₁)
      (hpassed : v.isFail = false)
      (hreport : (do let p ← subpath path tag; report case number p v) e₁ = .ok () e₂)
      (h : Begins case path (number + 1) (unit + 1) units e₂ k s e₃) :
      Begins case path number unit ((tag, script) :: units) e k s e₃

/-- A unit of the body is reached in the last state: the body itself, or one of its subunits. -/
inductive Starts (case : ObjectId) (path : Path) (number : Nat) : Body → Engine → Nat → Script →
    Engine → Prop
  | simple {script : Script} {e : Engine} : Starts case path number (.simple script) e 0 script e
  | complex {units : List (String × Script)} {e e' : Engine} {k : Nat} {script : Script}
      (h : Begins case path number 0 units e k script e') :
      Starts case path number (.complex units) e k script e'

section Starts

variable {P : Entry → Prop} {R : Engine → Engine → Prop} (hR : Respected (fun _ => True) P R)
  (hP : ∀ {x : Entry}, x.Alone → P x)

include hR hP

theorem Begins.relates {number unit k : Nat} {units : List (String × Script)} {e e' : Engine}
    {script : Script} (h : Begins case path number unit units e k script e') : R e e' := by
  induction h with
  | here => exact hR.refl _
  | @later number unit k tag script s units e e₁ e₂ e₃ v hrun _ hreport _ ih =>
    have hunit := (keeps_runUnit hR (fun h => hP h.alone) case unit script.within_all).lands e
    rw [hrun] at hunit
    have hlines := (keeps_bind hR (keeps_subpath hR (fun h => hP h.alone) path tag) fun p =>
      keeps_report hR (fun h => hP h.alone) case number p v).lands e₁
    rw [hreport] at hlines
    exact hR.trans hunit (hR.trans hlines ih)

theorem Starts.relates {number k : Nat} {body : Body} {e e' : Engine} {script : Script}
    (h : Starts case path number body e k script e') : R e e' := by
  cases h with
  | simple => exact hR.refl e
  | complex h => exact h.relates hR hP

end Starts

/-! ### The end of a unit -/

theorem runUnit_of_idle {unit : Nat} {script : Script} {e : Engine} (hidle : e.context = none) :
    runUnit case unit script e = concluded (perform script (begun case unit e)) :=
  execute_of_idle hidle

/-- A test ends with this verdict, unless it violates a contract or the process ends. -/
def EndsWith (v : Verdict) : EStateM.Result Stop Engine Verdict → Prop
  | .ok w _ => w = v
  | .error (.unwound (.violation _)) _ => True
  | .error (.unwound _) _ => False
  | .error _ _ => True

theorem endsWith_of_decided {owner : Nat} {v : Verdict} {o : EStateM.Result Stop Engine Unit}
    (h : Lands (Decided owner v) o) : EndsWith v (concluded o) := by
  have hpending : ∀ e, Decided owner v e → e.pending = some v := by
    intro e hd
    rw [pending, hd]
    rfl
  rcases o with ⟨_, e⟩ | ⟨payload | _ | _ | _, e⟩
  · show e.pending.getD .pass = v
    rw [hpending e h]
    rfl
  · rcases payload with _ | s | _ | w
    all_goals simp only [concluded, hpending e h, verdictOn]
    all_goals trivial
  all_goals trivial

end Engine

namespace Run

/-! ### Emissions -/

/-- An action in the body of a case emits a diagnostic, in a run of the tree `t`: on the thread
of the unit that runs, before an outcome is recorded, and with no hooks in the chain but those
that were there when the body started. -/
structure Emission (mode : Mode) (t : Tree) where
  root : ObjectId
  /-- The engine before the run. -/
  engine : Engine
  settled : List Settlement
  /-- The run when it is the turn of the case. -/
  run : Run
  case : ObjectId
  data : CaseData
  body : Body
  /-- The engine before the hooks of the case are installed. -/
  opened : Engine
  unit : Nat
  script : Script
  /-- The engine before the unit. -/
  start : Engine
  depth : Nat
  action : Action
  diagnostic : Diagnostic
  /-- The engine before the action. -/
  state : Engine
  reached : engine.Reached
  progress : Progress mode (Run.start t (announced t root engine)) settled run
  isCase : run.tree.case? case = some data
  hasBody : data.body = some body
  selected : mode.excluded (run.tree.path case) = false
  opens : Engine.log Engine.perform
    (.ofMessage .debug engineDomain (">>> " ++ (run.tree.path case).render)) run.engine =
      .ok () opened
  starts : Engine.Starts case (run.tree.path case) (run.reported + 1) body
    (Engine.bracketing case (run.tree.inheritedPolicies case) data.expectations opened) unit script
    start
  idle : start.context = none
  occurs : Engine.Occurs Engine.depthLimit script (Engine.begun case unit start) depth action state
  emits : Engine.emission? state action = some diagnostic
  onThread : state.thread = start.thread
  undecided : Engine.outcomesSince start.entered state = []
  unpushed : ∀ i ∈ state.chain, i.id ≤ opened.nextHook + 1

namespace Emission

variable {mode : Mode} {t : Tree} (m : Emission mode t)

/-- The number of the hook with the policies. -/
def outer : HookId := m.opened.nextHook

/-- The number of the hook with the expectations. -/
def inner : HookId := m.opened.nextHook + 1

/-- How the action ends that emits the diagnostic. -/
def outcome : EStateM.Result Stop Engine Unit :=
  Engine.act (Engine.performWithin m.depth) m.action m.state

/-- How the unit ends in which it does so. -/
def unitOutcome : EStateM.Result Stop Engine Verdict :=
  Engine.runUnit m.case m.unit m.script m.start

theorem outcome_eq :
    m.outcome = Engine.dispatch (Engine.performWithin m.depth) m.diagnostic m.state :=
  Engine.act_of_emission m.emits

theorem static : m.run.tree.static = t.static := m.progress.extends.static

theorem expectations_eq : t.expectations m.case = m.data.expectations := by
  rw [← Tree.expectations_eq_of_static m.static, Tree.expectations, m.isCase]

theorem policies_eq : t.inheritedPolicies m.case = m.run.tree.inheritedPolicies m.case :=
  (Tree.inheritedPolicies_eq_of_static m.static _).symm

theorem isSome_node? : (t.node? m.case).isSome = true := by
  have hnode : (m.run.tree.name? m.case).isSome = true := by
    rw [Tree.isSome_name?]
    have hcase := m.isCase
    unfold Tree.case? at hcase
    rcases hn : m.run.tree.node? m.case with - | n <;> rw [hn] at hcase
    · exact absurd hcase (by simp)
    · rfl
  rw [Tree.name?_eq_of_static m.static, Tree.isSome_name?] at hnode
  exact hnode

/-- The state of the engine when the hooks of the case are installed. -/
theorem numbered : m.opened.Numbered := by
  have hlog := Engine.advances_log m.opens
  have hprint := Engine.advances_note_step
    (x := .printed .report (Tap.plan (planned t (t.leaves m.root)))) rfl m.engine
  have hhooks := (hprint.hooks.trans m.progress.steps.hooks).trans hlog.hooks
  exact hhooks.numbered m.reached.numbered

/-- The slot of the unit that runs holds the first outcome that was recorded for it. -/
theorem slot : m.state.context =
    some ⟨m.start.thread, (Engine.outcomesSince m.start.entered m.state).head?⟩ := by
  have hbegun : Engine.FirstRecorded m.start.entered (Engine.begun m.case m.unit m.start) :=
    Engine.FirstRecorded.note (x := .unitStarted m.case m.unit) rfl _
  have hstate := m.occurs.relates (Engine.respected_firstRecorded _)
    Entry.Quiet.outcome?_eq_none Engine.deepens_firstRecorded
  exact (hbegun.trans hstate).context_eq

/-- When the diagnostic is emitted, the hooks of the case stand on top of those that were there
before, and nothing has been recorded for the test that runs. -/
theorem bracketed : Engine.Bracketed m.outer m.inner (t.inheritedPolicies m.case)
    (t.expectations m.case) m.opened.chain m.state := by
  rw [m.expectations_eq, m.policies_eq]
  have hbody := m.numbered.atop_bracketing m.case (m.run.tree.inheritedPolicies m.case)
    m.data.expectations
  -- from the start of the body to the start of the unit, and on to the action
  have hR := Engine.respected_atop (fun _ => True) (fun _ => True)
    (i := ⟨m.inner, .expecting m.data.expectations⟩)
    (m.numbered.lt_of_mem_policed (m.run.tree.inheritedPolicies m.case))
  have hstart := m.starts.relates hR (fun _ => trivial) hbody
  have hstate := m.occurs.relates hR (fun _ => trivial) Engine.deepens_atop
    ⟨hstart.chain, hstart.nextHook, hstart.unnamed⟩
  refine ⟨hstate.chain_eq m.unpushed, ?_⟩
  rw [m.slot, m.undecided, m.onThread]
  rfl

end Emission

end Run

end TestEngine
