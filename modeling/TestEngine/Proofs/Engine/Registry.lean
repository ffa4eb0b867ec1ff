/-
TestEngine/Proofs/Engine/Registry.lean

Which counter a question is credited to.  That depends on the hook and the diagnostic alone, and
a hook is known by its number, so there is a registry of it: for the number of a hook and a
diagnostic it has the counter, if there is one.  Scripts install no hooks that credit anything.
So if the registry is right about the chain and knows no number that has not been given, then it
is right about the chain after any script, and meanwhile each counter is credited for just those
questions that are registered for it (`respected_books`).
-/
import TestEngine.Proofs.Engine.Classify

namespace TestEngine

/-- The counter to which a hook credits a diagnostic. -/
abbrev Registry := HookId → Diagnostic → Option Nat

namespace Registry

/-- Nothing is credited. -/
def none : Registry := fun _ _ => Option.none

/-- The registry with a hook of this number. -/
def assign (reg : Registry) (id : HookId) (h : Hook) : Registry := fun id' d =>
  if id' = id then h.counter? d else reg id' d

theorem assign_same (reg : Registry) (id : HookId) (h : Hook) (d : Diagnostic) :
    reg.assign id h id d = h.counter? d := if_pos rfl

theorem assign_of_ne (reg : Registry) {id id' : HookId} (hne : id' ≠ id) (h : Hook)
    (d : Diagnostic) : reg.assign id h id' d = reg id' d := if_neg hne

end Registry

/-- The entry is a question that is registered for the counter. -/
def Entry.isFor (reg : Registry) (counter : Nat) : Entry → Bool
  | .asked id d => reg id d == some counter
  | _ => false

/-- The entry is neither a question nor a credit. -/
def Entry.Unasked : Entry → Prop
  | .asked .. => False
  | .credited _ => False
  | _ => True

theorem Entry.Plain.unasked {x : Entry} (h : x.Plain) : x.Unasked := by
  rcases x with _ | _ | _ | _ | _ | _ | _ | _ | _ | _ | _ | _ | _ | _ | _ | _
  all_goals trivial

namespace Entry.Unasked

variable {x : Entry} (hx : x.Unasked)

include hx

theorem ne_asked (id : HookId) (d : Diagnostic) : x ≠ .asked id d := by
  rintro rfl
  exact hx

theorem count_credited (counter : Nat) : [x].count (.credited counter) = 0 := by
  rw [List.count_singleton]
  refine if_neg fun heq => ?_
  rw [beq_iff_eq.mp heq] at hx
  exact hx

theorem isFor_eq (reg : Registry) (counter : Nat) : x.isFor reg counter = false := by
  rcases x with _ | _ | _ | _ | _ | _ | _ | _ | _ | _ | _ | _ | _ | _ | _ | _
  all_goals first
    | rfl
    | exact False.elim hx

end Entry.Unasked

/-- A hook that is about no case credits nothing. -/
theorem Hook.Installable.counter?_eq_none {h : Hook} (hi : h.Installable Entry.Plain)
    (d : Diagnostic) : h.counter? d = none := by
  rcases h with policies | expectations | hook
  · rfl
  · obtain ⟨_, _, _, hbracketed⟩ := hi
    exact False.elim hbracketed
  · rfl

namespace Engine

variable {reg reg' : Registry} {e e' e₁ e₂ e₃ : Engine} {new new' : List Entry}

/-- The registry is right about the hooks in the chain, and no number is registered that has not
been given. -/
structure Registered (reg : Registry) (e : Engine) : Prop where
  chain : ∀ i ∈ e.chain, i.id < e.nextHook ∧ ∀ d, i.hook.counter? d = reg i.id d
  fresh : ∀ id d, e.nextHook ≤ id → reg id d = none

namespace Registered

theorem congr (h : Registered reg e) (hchain : e'.chain = e.chain)
    (hnext : e'.nextHook = e.nextHook) : Registered reg e' := by
  refine ⟨?_, ?_⟩
  · rw [hchain, hnext]
    exact h.chain
  · rw [hnext]
    exact h.fresh

/-- Fewer hooks. -/
theorem sublist (h : Registered reg e) {chain : List Installed} (hchain : chain.Sublist e.chain) :
    Registered reg { e with chain := chain } :=
  ⟨fun i hi => h.chain i (hchain.subset hi), h.fresh⟩

/-- A hook is registered when it is installed. -/
theorem enlist (h : Registered reg e) (named : Bool) (hook : Hook) :
    Registered (reg.assign e.nextHook hook) (enlist named hook e) := by
  have hchain : (Engine.enlist named hook e).chain = ⟨e.nextHook, hook⟩ :: e.chain := by
    rcases named with _ | _ <;> rfl
  have hnext : (Engine.enlist named hook e).nextHook = e.nextHook + 1 := by
    rcases named with _ | _ <;> rfl
  refine ⟨fun i hi => ?_, fun id d hid => ?_⟩
  · rw [hchain] at hi
    rw [hnext]
    rcases List.mem_cons.mp hi with rfl | hi
    · exact ⟨Nat.lt_succ_self _, fun d => (reg.assign_same _ _ d).symm⟩
    · obtain ⟨hlt, hcounter⟩ := h.chain i hi
      refine ⟨Nat.lt_succ_of_lt hlt, fun d => ?_⟩
      rw [reg.assign_of_ne (Nat.ne_of_lt hlt), hcounter]
  · rw [hnext] at hid
    rw [reg.assign_of_ne (Nat.ne_of_gt hid)]
    exact h.fresh id d (Nat.le_of_succ_le hid)

/-- Nothing changes in the registry for a hook that credits nothing. -/
theorem enlist_of_none (h : Registered reg e) (named : Bool) {hook : Hook}
    (hnone : ∀ d, hook.counter? d = none) : Registered reg (Engine.enlist named hook e) := by
  have hsame : reg.assign e.nextHook hook = reg := by
    funext id d
    unfold Registry.assign
    split
    · rename_i hid
      rw [hnone, h.fresh id d (Nat.le_of_eq hid.symm)]
    · rfl
  rw [← hsame]
  exact h.enlist named hook

end Registered

/-- While these entries were noted, the oldest first, the registry has been right about the chain,
and each counter was credited for the questions that are registered for it. -/
structure Booked (reg : Registry) (e e' : Engine) (new : List Entry) : Prop where
  journal : e'.journal = new.reverse ++ e.journal
  registered : Registered reg e'
  nextHook : e.nextHook ≤ e'.nextHook
  given : ∀ id d, .asked id d ∈ new → id < e'.nextHook
  credits : ∀ counter, new.count (.credited counter) = new.countP (Entry.isFor reg counter)

namespace Booked

theorem congr (h : Booked reg e e' new) (hjournal : e₁.journal = e.journal)
    (hnext : e₁.nextHook = e.nextHook) (hjournal' : e₂.journal = e'.journal)
    (hchain' : e₂.chain = e'.chain) (hnext' : e₂.nextHook = e'.nextHook) :
    Booked reg e₁ e₂ new := by
  refine ⟨?_, h.registered.congr hchain' hnext', ?_, ?_, h.credits⟩
  · rw [hjournal, hjournal']
    exact h.journal
  · rw [hnext, hnext']
    exact h.nextHook
  · rw [hnext']
    exact h.given

theorem refl (h : Registered reg e) : Booked reg e e [] :=
  ⟨rfl, h, Nat.le_refl _, fun _ _ hmem => by simp at hmem, fun _ => rfl⟩

theorem trans (h : Booked reg e₁ e₂ new) (h' : Booked reg e₂ e₃ new') :
    Booked reg e₁ e₃ (new ++ new') := by
  refine ⟨?_, h'.registered, Nat.le_trans h.nextHook h'.nextHook, fun id d hmem => ?_,
    fun counter => ?_⟩
  · exact journal_append h.journal h'.journal
  · rcases List.mem_append.mp hmem with hmem | hmem
    · exact Nat.lt_of_lt_of_le (h.given id d hmem) h'.nextHook
    · exact h'.given id d hmem
  · rw [List.count_append, List.countP_append, h.credits, h'.credits]

/-- Fewer hooks. -/
theorem sublist (h : Booked reg e e' new) {chain : List Installed}
    (hchain : chain.Sublist e'.chain) : Booked reg e { e' with chain := chain } new :=
  ⟨h.journal, h.registered.sublist hchain, h.nextHook, h.given, h.credits⟩

/-- An entry that is neither a question nor a credit. -/
theorem note (h : Registered reg e) {x : Entry} (hx : x.Unasked) :
    Booked reg e { e with journal := x :: e.journal } [x] := by
  refine ⟨rfl, h.congr rfl rfl, Nat.le_refl _, fun id d hmem => ?_, fun counter => ?_⟩
  · exact absurd (List.mem_singleton.mp hmem).symm (hx.ne_asked id d)
  · rw [hx.count_credited, List.countP_singleton, if_neg (by simp [hx.isFor_eq])]

/-- To be asked is what a hook is registered for. -/
theorem consulted (h : Registered reg e) {i : Installed} (hgiven : i.id < e.nextHook)
    {d : Diagnostic} (hcounter : i.hook.counter? d = reg i.id d) :
    ∃ new, Booked reg e (consulted i d e) new ∧ ∀ x ∈ new, ∀ c o i, x ≠ .bracketed c o i := by
  have hasked : (Entry.asked i.id d).isFor reg = fun counter => reg i.id d == some counter := rfl
  rcases hc : reg i.id d with - | counter <;> rw [hc] at hcounter
  · refine ⟨[.asked i.id d], ⟨?_, h.congr rfl rfl, Nat.le_refl _, ?_, fun counter => ?_⟩, ?_⟩
    · simp [Engine.consulted, hcounter]
    · rintro id d' hmem
      cases List.mem_singleton.mp hmem
      exact hgiven
    · simp [Entry.isFor, hc]
    · simp
  · refine ⟨[.asked i.id d, .credited counter], ⟨?_, h.congr rfl rfl, Nat.le_refl _, ?_,
      fun other => ?_⟩, ?_⟩
    · simp [Engine.consulted, hcounter]
    · rintro id d' hmem
      have hsame : id = i.id ∧ d' = d := by simpa using hmem
      rw [hsame.1]
      exact hgiven
    · simp [Entry.isFor, hc, List.count_cons, List.countP_cons]
    · simp

end Booked

/-! ### Scripts -/

/-- If the registry is right about the chain, it is so meanwhile, and no hooks of cases are
installed. -/
def Books (reg : Registry) (e e' : Engine) : Prop :=
  Registered reg e → ∃ new, Booked reg e e' new ∧ ∀ x ∈ new, ∀ c o i, x ≠ .bracketed c o i

namespace Books

theorem congr (h : Books reg e e') (hjournal : e₁.journal = e.journal)
    (hchain : e₁.chain = e.chain) (hnext : e₁.nextHook = e.nextHook)
    (hjournal' : e₂.journal = e'.journal) (hchain' : e₂.chain = e'.chain)
    (hnext' : e₂.nextHook = e'.nextHook) : Books reg e₁ e₂ := by
  intro hreg
  obtain ⟨new, hbooked, hnew⟩ := h (hreg.congr hchain.symm hnext.symm)
  exact ⟨new, hbooked.congr hjournal hnext hjournal' hchain' hnext', hnew⟩

theorem refl (e : Engine) : Books reg e e := fun hreg => ⟨[], .refl hreg, by simp⟩

theorem trans (h : Books reg e₁ e₂) (h' : Books reg e₂ e₃) : Books reg e₁ e₃ := by
  intro hreg
  obtain ⟨new, hbooked, hnew⟩ := h hreg
  obtain ⟨new', hbooked', hnew'⟩ := h' hbooked.registered
  refine ⟨new ++ new', hbooked.trans hbooked', fun x hx => ?_⟩
  rcases List.mem_append.mp hx with hx | hx
  · exact hnew x hx
  · exact hnew' x hx

theorem note {x : Entry} (hx : x.Unasked) (hcase : ∀ c o i, x ≠ .bracketed c o i) (e : Engine) :
    Books reg e { e with journal := x :: e.journal } := fun hreg =>
  ⟨[x], .note hreg hx, fun y hy => by rw [List.mem_singleton.mp hy]; exact hcase⟩

theorem note_plain {x : Entry} (hx : x.Plain) (e : Engine) :
    Books reg e { e with journal := x :: e.journal } := by
  refine note hx.unasked ?_ e
  rintro c o i rfl
  exact hx

theorem sublist (h : Books reg e e') {chain : List Installed} (hchain : chain.Sublist e'.chain) :
    Books reg e { e' with chain := chain } := by
  intro hreg
  obtain ⟨new, hbooked, hnew⟩ := h hreg
  exact ⟨new, hbooked.sublist hchain, hnew⟩

end Books

theorem books_enlist (named : Bool) {h : Hook} (hi : h.Installable Entry.Plain) (e : Engine) :
    Books reg e (enlist named h e) := by
  intro hreg
  have hinstalled := hreg.enlist_of_none named fun d => hi.counter?_eq_none d
  refine ⟨[], ⟨?_, hinstalled, ?_, by simp, fun _ => rfl⟩, by simp⟩
  · rcases named with _ | _ <;> rfl
  · rcases named with _ | _ <;> exact Nat.le_succ _

theorem books_binding {h : Hook} (hi : h.Installable Entry.Plain) (e : Engine) :
    Books reg e (binding h e) :=
  (books_enlist false hi e).congr rfl rfl rfl rfl rfl rfl

/-- A hook that was in the chain at the beginning is registered still. -/
theorem Books.consulted {e₀ : Engine} {i : Installed} (d : Diagnostic) (hi : i ∈ e₀.chain)
    (h : Books reg e₀ e) : Books reg e₀ (consulted i d e) := by
  intro hreg
  obtain ⟨new, hbooked, hnew⟩ := h hreg
  obtain ⟨hgiven, hcounter⟩ := hreg.chain i hi
  obtain ⟨asked, hasked, hplain⟩ := Booked.consulted hbooked.registered
    (Nat.lt_of_lt_of_le hgiven hbooked.nextHook) (hcounter d)
  refine ⟨new ++ asked, hbooked.trans hasked, fun x hx => ?_⟩
  rcases List.mem_append.mp hx with hx | hx
  · exact hnew x hx
  · exact hplain x hx

theorem respected_books (A : Action → Prop) (reg : Registry) :
    Respected A Entry.Plain (Books reg) where
  refl := Books.refl
  trans h h' := h.trans h'
  noted e _ hx := .note_plain hx e
  printed e d := .note (x := .printed .diagnostic _) trivial (by simp) e
  installed e named _ _ hi := books_enlist named hi e
  popped e i older hc _ := (Books.refl e).sublist (hc ▸ List.sublist_cons_self i older)
  released {_ _ _ _ i older} hi h hc _ :=
    ((books_enlist _ hi _).trans h).sublist (hc ▸ List.sublist_cons_self i older)
  discarded hi h := ((books_enlist _ hi _).trans h).sublist List.filter_sublist
  bound _ hi h := ((books_binding hi _).trans h).congr rfl rfl rfl rfl rfl rfl
  recorded e _ v _ _ :=
    (Books.note (x := .recorded v) trivial (by simp) e).congr rfl rfl rfl rfl rfl rfl
  tested {e e'} _ h := by
    have hentered : Books reg e _ := .note (x := .entered) trivial (by simp) e
    have hleft : Books reg e' _ := .note (x := .left) trivial (by simp) e'
    have hbody := (hentered.trans (h.congr rfl rfl rfl rfl rfl rfl)).trans hleft
    exact hbody.congr rfl rfl rfl rfl rfl rfl
  threaded h := h.congr rfl rfl rfl rfl rfl rfl
  cleaned h := h.congr rfl rfl rfl rfl rfl rfl
  asked d hi h := h.consulted d hi
  collected e counter amount _ := by
    refine (Books.note (x := .collected counter amount) trivial (by simp) e).congr ?_ ?_ ?_ ?_ ?_ ?_
    all_goals rfl
  configured e _ _ _ := (Books.refl e).congr rfl rfl rfl rfl rfl rfl
  intercepted e := (Books.refl e).congr rfl rfl rfl rfl rfl rfl

end Engine

end TestEngine
