/-
TestEngine/Proofs/Engine/Advance.lean

How the engine gets on during a run.  Most of what the journal says is about what
scripts did; the *steps* among its entries are those that only a run itself can note:
the lines of its report and the steps of its cases.  `Advances steps e e'` says that the
engine went from `e` to `e'` by these steps in this order, whatever else was noted, that
a test is running in `e'` just if one was in `e`, and that hooks came into the chain
under new numbers only (`Rehooked`).

Scripts advance the engine by no step at all (`advances_perform`).
-/
import TestEngine.Proofs.Engine.Respect

namespace TestEngine

/-! ### Steps -/

/-- Is the entry a line of the report or a step of a case? -/
def Entry.isStep : Entry → Bool
  | .printed .report _ => true
  | .bracketed .. => true
  | .unitStarted .. => true
  | .reported .. => true
  | .tearingDown .. => true
  | .resolved .. => true
  | _ => false

theorem Entry.Quiet.not_isStep {x : Entry} (h : x.Quiet) : x.isStep = false := by
  rcases x with _ | _ | _ | _ | _ | _ | _ | _ | _ | _ | _ | _ | _ | _ | _ | _
  all_goals first
    | rfl
    | exact False.elim h

namespace Engine

/-- The entries noted since the state `e`, oldest first. -/
def since (e e' : Engine) : List Entry :=
  (e'.journal.take (e'.journal.length - e.journal.length)).reverse

/-- The steps among the entries noted since the state `e`, oldest first. -/
def stepsSince (e e' : Engine) : List Entry := (since e e').filter Entry.isStep

/-- How often a hook stands in the chain. -/
def standing (e : Engine) (id : HookId) : Nat := (e.chain.map Installed.id).count id

/-! ### Hooks -/

/-- Hooks have come into the chain under new numbers only, each at most once, and a script can
name no hook but these that it could not name before. -/
structure Rehooked (e e' : Engine) : Prop where
  nextHook : e.nextHook ≤ e'.nextHook
  standing : ∀ id, e'.standing id ≤
    e.standing id + if e.nextHook ≤ id ∧ id < e'.nextHook then 1 else 0
  named : ∀ id ∈ e'.names, id ∈ e.names ∨ e.nextHook ≤ id ∧ id < e'.nextHook

variable {e e' e₁ e₂ e₃ : Engine}

/-- Two stretches of new numbers in a row are one. -/
theorem count_le_of_stretches {a b c id n₁ n₂ n₃ : Nat} (h₁ : n₁ ≤ n₂) (h₂ : n₂ ≤ n₃)
    (hb : b ≤ a + if n₁ ≤ id ∧ id < n₂ then 1 else 0)
    (hc : c ≤ b + if n₂ ≤ id ∧ id < n₃ then 1 else 0) :
    c ≤ a + if n₁ ≤ id ∧ id < n₃ then 1 else 0 := by
  split at hb <;> split at hc <;> split <;> omega

theorem Rehooked.trans (h : Rehooked e₁ e₂) (h' : Rehooked e₂ e₃) : Rehooked e₁ e₃ := by
  refine ⟨Nat.le_trans h.nextHook h'.nextHook, fun id => ?_, fun id hid => ?_⟩
  · exact count_le_of_stretches h.nextHook h'.nextHook (h.standing id) (h'.standing id)
  · rcases h'.named id hid with hid | ⟨hle, hlt⟩
    · rcases h.named id hid with hid | ⟨hle, hlt⟩
      · exact .inl hid
      · exact .inr ⟨hle, Nat.lt_of_lt_of_le hlt h'.nextHook⟩
    · exact .inr ⟨Nat.le_trans h.nextHook hle, hlt⟩

/-- Fewer hooks. -/
theorem rehooked_of_sublist (hnext : e'.nextHook = e.nextHook)
    (hchain : e'.chain.Sublist e.chain) (hnames : e'.names = e.names) : Rehooked e e' := by
  refine ⟨Nat.le_of_eq hnext.symm, fun id => ?_, fun id hid => .inl (hnames ▸ hid)⟩
  exact Nat.le_trans ((hchain.map Installed.id).count_le id) (Nat.le_add_right _ _)

theorem rehooked_refl (e : Engine) : Rehooked e e :=
  rehooked_of_sublist rfl (List.Sublist.refl _) rfl

theorem standing_install_le (h : Hook) (e : Engine) (id : HookId) :
    (install h e).2.standing id ≤
      e.standing id + if e.nextHook ≤ id ∧ id < e.nextHook + 1 then 1 else 0 := by
  show List.count id (e.nextHook :: e.chain.map Installed.id) ≤
    (e.chain.map Installed.id).count id + _
  rw [List.count_cons]
  by_cases hid : e.nextHook = id
  · refine Nat.le_of_eq ?_
    rw [if_pos (by simp [hid]), if_pos ⟨Nat.le_of_eq hid, hid ▸ Nat.lt_succ_self _⟩]
  · rw [if_neg (by simpa using hid)]
    exact Nat.le_add_right _ _

/-- The chain, the numbers of hooks and their names decide. -/
theorem Rehooked.congr (h : Rehooked e e') (hchain : e₁.chain = e.chain)
    (hnext : e₁.nextHook = e.nextHook) (hnames : e₁.names = e.names)
    (hchain' : e₂.chain = e'.chain) (hnext' : e₂.nextHook = e'.nextHook)
    (hnames' : e₂.names = e'.names) : Rehooked e₁ e₂ := by
  refine ⟨by rw [hnext, hnext']; exact h.nextHook, fun id => ?_, ?_⟩
  · have hs := h.standing id
    unfold Engine.standing at hs ⊢
    rw [hchain, hchain', hnext, hnext']
    exact hs
  · rw [hnames, hnames', hnext, hnext']
    exact h.named

theorem rehooked_enlist (named : Bool) (h : Hook) (e : Engine) :
    Rehooked e (enlist named h e) := by
  rcases named with _ | _
  · exact ⟨Nat.le_succ _, standing_install_le h e, fun id hid => .inl hid⟩
  · refine ⟨Nat.le_succ _, standing_install_le h e, fun id hid => ?_⟩
    rcases List.mem_append.mp hid with hid | hid
    · rcases List.mem_append.mp hid with hid | hid
      · exact .inl (List.mem_append_left _ hid)
      · rw [List.mem_singleton.mp hid]
        exact .inr ⟨Nat.le_refl _, Nat.lt_succ_self _⟩
    · exact .inl (List.mem_append_right _ hid)

theorem rehooked_binding (h : Hook) (e : Engine) : Rehooked e (binding h e) := by
  refine ⟨Nat.le_succ _, standing_install_le h e, fun id hid => ?_⟩
  rcases List.mem_append.mp hid with hid | hid
  · exact .inl (List.mem_append_left _ hid)
  · rcases List.mem_cons.mp hid with rfl | hid
    · exact .inr ⟨Nat.le_refl _, Nat.lt_succ_self _⟩
    · exact .inl (List.mem_append_right _ hid)

/-- A script may lose the names that it has got. -/
theorem Rehooked.unbound (h : Rehooked e e') : Rehooked e (unbound e e') := by
  refine ⟨h.nextHook, h.standing, fun id hid => ?_⟩
  rcases List.mem_append.mp hid with hid | hid
  · exact h.named id (List.mem_append_left _ hid)
  · exact .inl (List.mem_append_right _ hid)

theorem rehooked_pop {i : Installed} {older : List Installed} (hc : e.chain = i :: older) :
    Rehooked e { e with chain := older } := by
  refine rehooked_of_sublist rfl ?_ rfl
  rw [hc]
  exact List.sublist_cons_self i older

theorem rehooked_discard (id : HookId) (e : Engine) : Rehooked e (discard id e) :=
  rehooked_of_sublist rfl List.filter_sublist rfl

theorem respected_rehooked (A : Action → Prop) (P : Entry → Prop) : Respected A P Rehooked where
  refl := rehooked_refl
  trans h h' := h.trans h'
  noted e _ _ := (rehooked_refl e).congr rfl rfl rfl rfl rfl rfl
  printed e _ := (rehooked_refl e).congr rfl rfl rfl rfl rfl rfl
  installed _ _ _ _ _ := rehooked_enlist _ _ _
  popped _ _ _ hc _ := rehooked_pop hc
  released _ h hc _ := ((rehooked_enlist ..).trans h).trans (rehooked_pop hc)
  discarded _ h := ((rehooked_enlist ..).trans h).trans (rehooked_discard _ _)
  bound _ _ h := ((rehooked_binding ..).trans h).unbound
  recorded e _ _ _ _ := (rehooked_refl e).congr rfl rfl rfl rfl rfl rfl
  tested _ h := h.congr rfl rfl rfl rfl rfl rfl
  threaded h := h.congr rfl rfl rfl rfl rfl rfl
  cleaned h := h.congr rfl rfl rfl rfl rfl rfl
  asked _ _ h := h.congr rfl rfl rfl rfl rfl rfl
  collected e _ _ _ := (rehooked_refl e).congr rfl rfl rfl rfl rfl rfl
  configured e _ _ _ := (rehooked_refl e).congr rfl rfl rfl rfl rfl rfl
  intercepted e := (rehooked_refl e).congr rfl rfl rfl rfl rfl rfl

/-! ### Advancing -/

/-- The engine has gone from one state to another by these steps. -/
structure Advances (steps : List Entry) (e e' : Engine) : Prop where
  noted : ∃ new : List Entry, e'.journal = new.reverse ++ e.journal ∧
    new.filter Entry.isStep = steps
  active : e'.isActive = e.isActive
  hooks : Rehooked e e'

theorem since_eq {new : List Entry} (h : e'.journal = new.reverse ++ e.journal) :
    since e e' = new := by
  unfold since
  rw [h]
  simp

namespace Advances

variable {steps steps' : List Entry}

theorem stepsSince_eq (h : Advances steps e e') : stepsSince e e' = steps := by
  obtain ⟨new, hnew, hsteps⟩ := h.noted
  unfold stepsSince
  rw [since_eq hnew, hsteps]

theorem journal_suffix (h : Advances steps e e') : e.journal <:+ e'.journal := by
  obtain ⟨new, hnew, -⟩ := h.noted
  exact ⟨new.reverse, hnew.symm⟩

theorem refl (e : Engine) : Advances [] e e := ⟨⟨[], rfl, rfl⟩, rfl, rehooked_refl e⟩

theorem trans (h : Advances steps e₁ e₂) (h' : Advances steps' e₂ e₃) :
    Advances (steps ++ steps') e₁ e₃ := by
  obtain ⟨new, hnew, hsteps⟩ := h.noted
  obtain ⟨new', hnew', hsteps'⟩ := h'.noted
  refine ⟨⟨new ++ new', ?_, ?_⟩, h'.active.trans h.active, h.hooks.trans h'.hooks⟩
  · exact journal_append hnew hnew'
  · rw [List.filter_append, hsteps, hsteps']

/-- Nothing but what is noted, the context and the hooks matters. -/
theorem congr (h : Advances steps e e') (hjournal : e₁.journal = e.journal)
    (hactive : e₁.isActive = e.isActive) (hchain : e₁.chain = e.chain)
    (hnext : e₁.nextHook = e.nextHook) (hnames : e₁.names = e.names)
    (hjournal' : e₂.journal = e'.journal) (hactive' : e₂.isActive = e'.isActive)
    (hchain' : e₂.chain = e'.chain) (hnext' : e₂.nextHook = e'.nextHook)
    (hnames' : e₂.names = e'.names) : Advances steps e₁ e₂ := by
  refine ⟨?_, ?_, h.hooks.congr hchain hnext hnames hchain' hnext' hnames'⟩
  · rw [hjournal, hjournal']
    exact h.noted
  · rw [hactive, hactive']
    exact h.active

end Advances

theorem advances_note_step {x : Entry} (hx : x.isStep = true) (e : Engine) :
    Advances [x] e { e with journal := x :: e.journal } := by
  refine ⟨⟨[x], rfl, ?_⟩, rfl, (rehooked_refl e).congr rfl rfl rfl rfl rfl rfl⟩
  simp [hx]

theorem advances_note {x : Entry} (hx : x.isStep = false) (e : Engine) :
    Advances [] e { e with journal := x :: e.journal } := by
  refine ⟨⟨[x], rfl, ?_⟩, rfl, (rehooked_refl e).congr rfl rfl rfl rfl rfl rfl⟩
  simp [hx]

/-! ### Scripts -/

/-- A change of the hooks alone. -/
theorem advances_of_rehooked (h : Rehooked e e') (hjournal : e'.journal = e.journal)
    (hactive : e'.isActive = e.isActive) : Advances [] e e' :=
  ⟨⟨[], hjournal, rfl⟩, hactive, h⟩

theorem advances_enlist (named : Bool) (h : Hook) (e : Engine) :
    Advances [] e (enlist named h e) := by
  refine advances_of_rehooked (rehooked_enlist named h e) ?_ ?_
  all_goals rcases named with _ | _ <;> rfl

theorem advances_binding (h : Hook) (e : Engine) : Advances [] e (binding h e) :=
  advances_of_rehooked (rehooked_binding h e) rfl rfl

/-- To be asked is no step of a run. -/
theorem advances_consulted (i : Installed) (d : Diagnostic) (e : Engine) :
    Advances [] e (consulted i d e) := by
  have hasked : Advances [] e { e with journal := .asked i.id d :: e.journal } := advances_note rfl e
  rcases hc : i.hook.counter? d with - | counter
  · exact hasked.congr rfl rfl rfl rfl rfl (by simp [consulted, hc]) rfl rfl rfl rfl
  · have hcredited := hasked.trans (advances_note (x := .credited counter) rfl _)
    exact hcredited.congr rfl rfl rfl rfl rfl (by simp [consulted, hc]) rfl rfl rfl rfl

theorem respected_advances (A : Action → Prop) :
    Respected A (fun x => x.isStep = false) (Advances []) where
  refl := Advances.refl
  trans h h' := h.trans h'
  noted e _ hx := advances_note hx e
  printed e _ := advances_note rfl e
  installed e named h _ _ := advances_enlist named h e
  popped e _ _ hc _ := advances_of_rehooked (rehooked_pop hc) rfl rfl
  released _ h hc _ :=
    ((advances_enlist ..).trans h).trans (advances_of_rehooked (rehooked_pop hc) rfl rfl)
  discarded _ h :=
    ((advances_enlist ..).trans h).trans (advances_of_rehooked (rehooked_discard ..) rfl rfl)
  bound _ _ h :=
    have hblock := (advances_binding _ _).trans h
    ⟨hblock.noted, hblock.active, hblock.hooks.unbound⟩
  recorded e c v _ hc := by
    refine (advances_note (x := .recorded v) rfl e).congr rfl rfl rfl rfl rfl rfl ?_ rfl rfl rfl
    show true = e.context.isSome
    rw [hc]
    rfl
  tested {e e'} hc h := by
    -- the test has been entered before its body and is left after it
    obtain ⟨new, hnew, hsteps⟩ := h.noted
    refine ⟨⟨.entered :: new ++ [.left], ?_, ?_⟩, ?_, h.hooks.congr rfl rfl rfl rfl rfl rfl⟩
    · show .left :: e'.journal = _
      rw [hnew]
      simp [entered]
    · rw [List.filter_append, List.filter_cons_of_neg (by simp [Entry.isStep]), hsteps]
      rfl
    · show false = e.context.isSome
      rw [hc]
      rfl
  threaded h := h.congr rfl rfl rfl rfl rfl rfl rfl rfl rfl rfl
  cleaned h := h.congr rfl rfl rfl rfl rfl rfl rfl rfl rfl rfl
  asked d _ h := h.trans (advances_consulted _ d _)
  collected e counter amount _ := by
    refine (advances_note (x := .collected counter amount) rfl e).congr rfl rfl rfl rfl rfl ?_ ?_ ?_ ?_ ?_
    all_goals rfl
  configured e _ _ _ := (Advances.refl e).congr rfl rfl rfl rfl rfl rfl rfl rfl rfl rfl
  intercepted e := (Advances.refl e).congr rfl rfl rfl rfl rfl rfl rfl rfl rfl rfl

theorem lands_advances_perform (script : Script) (e : Engine) :
    Lands (Advances [] e) (perform script e) :=
  (keeps_perform (respected_advances _) Entry.Quiet.not_isStep script.within_all).lands e

/-- A script takes no step of a run. -/
theorem advances_perform {script : Script} {u : Unit} (h : perform script e = .ok u e') :
    Advances [] e e' := by
  have hlands := lands_advances_perform script e
  rw [h] at hlands
  exact hlands

/-- An event takes no step of a run. -/
theorem advances_log {event : LogEvent} {u : Unit} (h : log perform event e = .ok u e') :
    Advances [] e e' := by
  have hperform : ∀ script, Script.Within (fun _ => True) script →
      Keeps (fun _ => True) (Advances []) (perform script) := fun _ =>
    keeps_perform (respected_advances _) Entry.Quiet.not_isStep
  have hlands :=
    (keeps_log (respected_advances _) Entry.Quiet.not_isStep hperform event).lands e
  rw [h] at hlands
  exact hlands

end Engine

end TestEngine
