/-
TestEngine/Proofs/Engine/Respect.lean

What scripts cannot do.  A relation between engine states is *respected* if it
survives each of the few changes that an effect can make to the engine: an entry noted
in the journal, a hook added or removed, an outcome recorded, a counter changed, a test,
a thread or a clean-up begun and ended.  Then it relates the state before any script to
the state after it, as long as the process goes on (`keeps_perform`), however the script
nests, unwinds, catches, starts threads or logs to hooks that run scripts of their own.

`Respected A P R` is relative to a class `A` of actions and a class `P` of entries.
Scripts within `A`, also those of the hooks in the chain, are all that is carried out, so
a relation that some action would break can be respected still.  The entries that are noted
without any other change are the quiet ones (`Entry.Quiet`) if a script notes them, and the
plain ones if a run may note them too without a hook of a case (`Entry.Plain`); all others come
with a change, which has a field of its own.  So a relation that breaks when the hooks of a case
are installed is respected still, as long as `P` is about plain entries only
(`Hook.Installable`).
-/
import TestEngine.Proofs.Effect
import TestEngine.Proofs.Script

namespace TestEngine

/-! ### Ends of effects -/

/-- `Q` holds of the state in which an effect has ended, unless the process has ended
with it. -/
def Lands {σ α : Type} (Q : σ → Prop) : EStateM.Result Stop σ α → Prop
  | .ok _ s => Q s
  | .error (.unwound _) s => Q s
  | .error _ _ => True

theorem Lands.mono {σ α : Type} {Q Q' : σ → Prop} {o : EStateM.Result Stop σ α}
    (h : Lands Q o) (hq : ∀ s, Q s → Q' s) : Lands Q' o := by
  rcases o with ⟨a, s⟩ | ⟨_ | _ | _ | _, s⟩
  · exact hq s h
  · exact hq s h
  all_goals trivial

theorem Lands.and {σ α : Type} {Q Q' : σ → Prop} {o : EStateM.Result Stop σ α} (h : Lands Q o)
    (h' : Lands Q' o) : Lands (fun s => Q s ∧ Q' s) o := by
  rcases o with ⟨a, s⟩ | ⟨_ | _ | _ | _, s⟩
  · exact ⟨h, h'⟩
  · exact ⟨h, h'⟩
  all_goals trivial

/-- Without a value, it does not matter what type the value would have had. -/
theorem Lands.of_error {σ α β : Type} {Q : σ → Prop} {stop : Stop} {s : σ}
    (h : Lands Q (.error stop s : EStateM.Result Stop σ α)) :
    Lands Q (.error stop s : EStateM.Result Stop σ β) := by
  rcases stop with _ | _ | _ | _
  · exact h
  all_goals trivial

/-! ### Quiet entries -/

/-- What a script may note without any other change. -/
def Entry.Quiet : Entry → Prop
  | .traced _ => True
  | .complained _ => True
  | .perished _ => True
  | .decided .. => True
  | _ => False

/-- What may be noted without any other change, and is about no hook. -/
def Entry.Plain : Entry → Prop
  | .printed .diagnostic _ => False
  | .entered => False
  | .left => False
  | .recorded _ => False
  | .asked .. => False
  | .credited _ => False
  | .collected .. => False
  | .bracketed .. => False
  | _ => True

theorem Entry.Quiet.plain {x : Entry} (h : x.Quiet) : x.Plain := by
  rcases x with _ | _ | _ | _ | _ | _ | _ | _ | _ | _ | _ | _ | _ | _ | _ | _
  all_goals trivial

/-- The counter that the hook credits when it is asked about the diagnostic, if it credits one. -/
def Hook.counter? (d : Diagnostic) : Hook → Option Nat
  | .expecting expectations => (expectations.find? (·.isMatch d)).map (·.counter)
  | _ => none

/-- A hook made of rules may be installed at any time; the two hooks of a case only where it may
be noted that they are. -/
def Hook.Installable (P : Entry → Prop) : Hook → Prop
  | .rules _ => True
  | _ => ∃ case outer inner, P (.bracketed case outer inner)

/-- The outcomes that scripts of the class record: failures, those that an action of the class
raises, and the skips of prerequisites. -/
def Recordable (A : Action → Prop) (v : Verdict) : Prop :=
  v.isFail = true ∨ A (.raise v) ∨
    ∃ p flags message, A (.require p) ∧ p.refusal? flags = some message ∧ v = .skip message

theorem recordable_fail (A : Action → Prop) (message : String) : Recordable A (.fail message) :=
  .inl rfl

namespace Engine

/-! ### The journal -/

/-- What is noted in two steps is noted in one. -/
theorem journal_append {e₁ e₂ e₃ : Engine} {new new' : List Entry}
    (h : e₂.journal = new.reverse ++ e₁.journal) (h' : e₃.journal = new'.reverse ++ e₂.journal) :
    e₃.journal = (new ++ new').reverse ++ e₁.journal := by
  rw [h', h, List.reverse_append, List.append_assoc]

/-! ### Changes of the state -/

/-- The state in which the body of a test starts. -/
def entered (e : Engine) : Engine :=
  { e with context := some ⟨e.thread, none⟩, journal := .entered :: e.journal }

/-- The state in which the work of a new thread starts. -/
def spawned (e : Engine) : Engine :=
  { e with thread := e.nextThread, nextThread := e.nextThread + 1, unwinding := false }

/-- The state `e'`, back on the thread of `e`. -/
def resumed (e e' : Engine) : Engine := { e' with thread := e.thread, unwinding := e.unwinding }

/-- The state with one more hook, which scripts can name if they have pushed it. -/
def enlist (named : Bool) (h : Hook) (e : Engine) : Engine :=
  match named with
  | true => { (install h e).2 with pushed := e.pushed ++ [e.nextHook] }
  | false => (install h e).2

/-- The state with one more hook, for which the current script has a name. -/
def binding (h : Hook) (e : Engine) : Engine :=
  { (install h e).2 with own := e.nextHook :: e.own }

/-- The state `e'`, with the names that the script has in `e`. -/
def unbound (e e' : Engine) : Engine := { e' with own := e.own }

/-- The hooks that the current script can name. -/
def names (e : Engine) : List HookId := e.pushed ++ e.own

/-- The state with an outcome recorded for the test that is running in the context `c`. -/
def recording (v : Verdict) (c : Context) (e : Engine) : Engine :=
  { e with
    context := some { c with pending := some (c.pending.getD v) }
    journal := .recorded v :: e.journal }

/-- The state with a diagnostic printed as the console has it. -/
def printing (d : Diagnostic) (e : Engine) : Engine :=
  let text := Tap.diagnostic (d.format e.console.colours) e.console.colours
  { e with journal := .printed .diagnostic text :: e.journal }

/-- The state with one more diagnostic counted. -/
def crediting (counter : Nat) (e : Engine) : Engine :=
  { e with
    counters := e.counters.modify counter (· + 1)
    journal := .credited counter :: e.journal }

/-- The state after it is noted that a hook is asked. -/
def asking (i : Installed) (d : Diagnostic) (e : Engine) : Engine :=
  { e with journal := .asked i.id d :: e.journal }

/-- The state after a hook has been asked, without what its rules do: the question is noted, and an
expected diagnostic is counted. -/
def consulted (i : Installed) (d : Diagnostic) (e : Engine) : Engine :=
  { e with
    counters := (i.hook.counter? d).elim e.counters fun counter => e.counters.modify counter (· + 1)
    journal := (i.hook.counter? d).elim (.asked i.id d :: e.journal) fun counter =>
      .credited counter :: .asked i.id d :: e.journal }

/-- The state with a counter read and reset. -/
def collecting (counter amount : Nat) (e : Engine) : Engine :=
  { e with
    counters := e.counters.set counter 0
    journal := .collected counter amount :: e.journal }

/-! ### Relations that effects keep -/

/-- What an effect may lead to. -/
def Leads (A : Action → Prop) (R : Engine → Engine → Prop) (e e' : Engine) : Prop :=
  e'.Within A ∧ R e e'

/-- `R` relates the state before an effect to the one after it, as long as the process
goes on, and hooks stay within `A`. -/
def Keeps {α : Type} (A : Action → Prop) (R : Engine → Engine → Prop) (act : Act α) : Prop :=
  ∀ e, e.Within A → Lands (Leads A R e) (act e)

/-- An effect has ended, and the process goes on. -/
def Ended {α : Type} (act : Act α) (e e' : Engine) : Prop :=
  (∃ a, act e = .ok a e') ∨ ∃ payload, act e = .error (.unwound payload) e'

/-- `R` survives every change that an effect makes, given that only entries of the class
`P` are noted without another change, and only actions of the class `A` carried out. -/
structure Respected (A : Action → Prop) (P : Entry → Prop) (R : Engine → Engine → Prop) :
    Prop where
  refl : ∀ e, R e e
  trans : ∀ {e₁ e₂ e₃}, R e₁ e₂ → R e₂ e₃ → R e₁ e₃
  noted : ∀ e {x}, P x → R e { e with journal := x :: e.journal }
  printed : ∀ e d, R e (printing d e)
  installed : ∀ e named {h : Hook}, h.Within A → h.Installable P → R e (enlist named h e)
  /-- Only a hook that a script can name is popped by name. -/
  popped : ∀ e {i older}, e.chain = i :: older → i.id ∈ e.names → R e { e with chain := older }
  /-- A guarded hook is popped at the end of its block, -/
  released : ∀ {e e' named h i older}, h.Installable P → R (enlist named h e) e' →
    e'.chain = i :: older → i.id = e.nextHook → R e { e' with chain := older }
  /-- or discarded by an unwinding thread. -/
  discarded : ∀ {e e' named h}, h.Installable P → R (enlist named h e) e' →
    R e (discard e.nextHook e')
  /-- The name of a hook is gone at the end of its block, but the hook may stay. -/
  bound : ∀ {e e' h}, h.Within A → h.Installable P → R (binding h e) e' → R e (unbound e e')
  recorded : ∀ e {c v}, Recordable A v → e.context = some c → R e (recording v c e)
  /-- What holds of a test body holds of the test, whose context begins and ends with it. -/
  tested : ∀ {e e'}, e.context = none → R e.entered e' → R e e'.leave
  threaded : ∀ {e e'}, R e.spawned e' → R e (resumed e e')
  cleaned : ∀ {e e'}, R { e with unwinding := true } e' →
    R e { e' with unwinding := e.unwinding }
  /-- A hook is asked that was in the chain at the beginning. -/
  asked : ∀ {e₀ e i} d, i ∈ e₀.chain → R e₀ e → R e₀ (consulted i d e)
  collected : ∀ e {counter amount}, e.counters[counter]? = some amount →
    R e (collecting counter amount e)
  configured : ∀ e {verbosity colours}, A (.configure verbosity colours) →
    R e { e with console := ⟨verbosity, colours⟩ }
  intercepted : ∀ e, R e { e with subscriber := .chain }

section Keeps

variable {α β : Type} {A : Action → Prop} {P : Entry → Prop} {R : Engine → Engine → Prop}

theorem Lands.of_ended {Q : Engine → Prop} {act : Act α} {e e' : Engine} (h : Lands Q (act e))
    (hend : Ended act e e') : Q e' := by
  rcases hend with ⟨a, ha⟩ | ⟨payload, hp⟩
  · rw [ha] at h
    exact h
  · rw [hp] at h
    exact h

/-- Where all actions are allowed, hooks are of no concern. -/
theorem Keeps.lands {act : Act α} (h : Keeps (fun _ => True) R act) (e : Engine) :
    Lands (R e) (act e) :=
  (h e e.within_all).mono fun _ he => he.2

theorem Keeps.of_ended {act : Act α} (h : Keeps (fun _ => True) R act) {e e' : Engine}
    (hend : Ended act e e') : R e e' :=
  Lands.of_ended (h.lands e) hend

/-! ### Sequences -/

theorem Respected.leads_refl (hR : Respected A P R) {e : Engine} (hw : e.Within A) :
    Leads A R e e :=
  ⟨hw, hR.refl e⟩

theorem Respected.leads_trans (hR : Respected A P R) {e₁ e₂ e₃ : Engine} (h : Leads A R e₁ e₂)
    (h' : Leads A R e₂ e₃) : Leads A R e₁ e₃ :=
  ⟨h'.1, hR.trans h.2 h'.2⟩

theorem Respected.lands_trans (hR : Respected A P R) {e₁ e₂ : Engine}
    {o : EStateM.Result Stop Engine α} (h : Leads A R e₁ e₂) (ho : Lands (Leads A R e₂) o) :
    Lands (Leads A R e₁) o :=
  ho.mono fun _ => hR.leads_trans h

theorem keeps_pure (hR : Respected A P R) (a : α) : Keeps A R (pure a) :=
  fun _ hw => hR.leads_refl hw

/-- A sequence that starts in a given state. -/
theorem lands_bind (hR : Respected A P R) {e : Engine} {x : Act α} {f : α → Act β}
    (hx : Lands (Leads A R e) (x e)) (hf : ∀ a, Keeps A R (f a)) :
    Lands (Leads A R e) ((x >>= f) e) := by
  rcases hxe : x e with ⟨a, e₁⟩ | ⟨stop, e₁⟩ <;> rw [hxe] at hx
  · rw [bind_of_ok hxe]
    exact hR.lands_trans hx (hf a e₁ hx.1)
  · rw [bind_of_error hxe]
    exact hx.of_error

theorem keeps_bind (hR : Respected A P R) {x : Act α} {f : α → Act β} (hx : Keeps A R x)
    (hf : ∀ a, Keeps A R (f a)) : Keeps A R (x >>= f) :=
  fun e hw => lands_bind hR (hx e hw) hf

/-- The part of an effect after reading the state may make use of the state read. -/
theorem keeps_get_bind {f : Engine → Act α} (hf : ∀ e, e.Within A → Lands (Leads A R e) (f e e)) :
    Keeps A R (get >>= f) := hf

theorem lands_ite {Q : Engine → Prop} {e : Engine} {c : Prop} [Decidable c] {x y : Act α}
    (hx : Lands Q (x e)) (hy : Lands Q (y e)) : Lands Q ((if c then x else y) e) := by
  split
  · exact hx
  · exact hy

theorem keeps_ite {c : Prop} [Decidable c] {x y : Act α} (hx : Keeps A R x) (hy : Keeps A R y) :
    Keeps A R (if c then x else y) :=
  fun e hw => lands_ite (hx e hw) (hy e hw)

theorem keeps_unwind (hR : Respected A P R) (payload : Payload) :
    Keeps A R (unwind payload : Act α) :=
  fun _ hw => hR.leads_refl hw

theorem keeps_note (hR : Respected A P R) {x : Entry} (hx : P x) : Keeps A R (note x) :=
  fun e hw => ⟨hw, hR.noted e hx⟩

theorem lands_printDiagnostic (hR : Respected A P R) {e : Engine} (hw : e.Within A)
    (d : Diagnostic) :
    Lands (Leads A R e) (printDiagnostic (d.format e.console.colours) e) :=
  ⟨hw, hR.printed e d⟩

theorem keeps_collect (hR : Respected A P R) (counter : Nat) : Keeps A R (collect counter) := by
  refine keeps_get_bind fun e hw => ?_
  rcases hc : e.counters[counter]? with - | amount
  · exact hR.leads_refl hw
  · exact ⟨hw, hR.collected e hc⟩

/-! ### The primitive effects -/

variable (hR : Respected A P R) (hP : ∀ {x : Entry}, x.Quiet → P x)

include hR hP

theorem keeps_trace (text : String) : Keeps A R (trace text) :=
  keeps_note hR (hP trivial)

theorem keeps_violate (v : Violation) : Keeps A R (violate v : Act α) := by
  refine keeps_bind hR (keeps_note hR (hP ?_)) fun _ => keeps_unwind hR _
  trivial

/-! ### The chain of hooks -/

omit hR hP in
theorem within_enlist {e : Engine} {h : Hook} (hw : e.Within A) (hh : h.Within A) (named : Bool) :
    (enlist named h e).Within A := by
  have hchain : (enlist named h e).chain = ⟨e.nextHook, h⟩ :: e.chain := by
    rcases named with _ | _ <;> rfl
  intro i hi
  rw [hchain] at hi
  rcases List.mem_cons.mp hi with rfl | hi
  · exact hh
  · exact hw i hi

omit hR hP in
theorem within_of_cons {e : Engine} {i : Installed} {older : List Installed} (hw : e.Within A)
    (hc : e.chain = i :: older) : Engine.Within A { e with chain := older } :=
  fun j hj => hw j (hc ▸ List.mem_cons_of_mem i hj)

omit hR hP in
theorem within_discard {e : Engine} (hw : e.Within A) (id : HookId) : (discard id e).Within A :=
  fun i hi => hw i (List.mem_filter.mp hi).1

/-- Popping does what it should to the newest hook, and is a violation otherwise. -/
theorem lands_pop {e : Engine} (hw : e.Within A) {id : HookId}
    (hpop : ∀ i older, e.chain = i :: older → i.id = id → R e { e with chain := older }) :
    Lands (Leads A R e) (pop id e) := by
  rcases pop_cases id e with ⟨newest, older, hc, hid, hpopped⟩ | ⟨-, v, hpopped⟩ <;> rw [hpopped]
  · exact ⟨within_of_cons hw hc, hpop newest older hc hid⟩
  · exact keeps_violate hR hP v e hw

omit hR hP in
theorem withHook_eq (h : Hook) (block : HookId → Act α) (e : Engine) :
    withHook h block e = match block e.nextHook (install h e).2 with
      | .ok a e' => (release e.nextHook *> pure a) e'
      | .error (.unwound payload) e' => .error (.unwound payload) (discard e.nextHook e')
      | .error stop e' => .error stop e' := rfl

/-- A block under a hook.  The block may start with giving scripts the name of the hook. -/
theorem keeps_withHook {h : Hook} {block : HookId → Act α} (named : Bool) (hh : h.Within A)
    (hi : h.Installable P) (hb : ∀ e, e.Within A →
      Lands (Leads A R (enlist named h e)) (block e.nextHook (install h e).2)) :
    Keeps A R (withHook h block) := by
  intro e hw
  have hblock := hb e hw
  have hinstalled := hR.installed e named hh hi
  rw [withHook_eq]
  rcases ho : block e.nextHook (install h e).2 with ⟨a, e₁⟩ | ⟨_ | _ | _ | _, e₁⟩ <;>
    rw [ho] at hblock
  · -- the end of the guard counts from before the hook was installed
    have hrelease : Lands (Leads A R e) (release e.nextHook e₁) := by
      unfold release
      rw [bind_of_ok (get_eq_ok.mpr ⟨rfl, rfl⟩)]
      rcases hu : e₁.unwinding with - | -
      · have htrans : ∀ e', Leads A R e₁ e' → Leads A R e e' :=
          fun e' => hR.leads_trans ⟨hblock.1, hR.trans hinstalled hblock.2⟩
        unfold pop
        simp only [Bool.false_eq_true, if_false]
        rw [bind_of_ok (get_eq_ok.mpr ⟨rfl, rfl⟩)]
        rcases hc : e₁.chain with - | ⟨newest, older⟩
        · exact (keeps_violate hR hP _ e₁ hblock.1).mono htrans
        · by_cases hid : newest.id = e.nextHook
          · simp only [hid, if_true]
            exact ⟨within_of_cons hblock.1 hc, hR.released hi hblock.2 hc hid⟩
          · simp only [hid, if_false]
            exact (keeps_violate hR hP _ e₁ hblock.1).mono htrans
      · exact ⟨within_discard hblock.1 _, hR.discarded hi hblock.2⟩
    show Lands (Leads A R e) ((release e.nextHook >>= fun _ => pure a) e₁)
    rcases hr : release e.nextHook e₁ with ⟨b, e₂⟩ | ⟨stop, e₂⟩ <;> rw [hr] at hrelease
    · rw [bind_of_ok hr]
      exact hrelease
    · rw [bind_of_error hr]
      exact hrelease.of_error
  · exact ⟨within_discard hblock.1 _, hR.discarded hi hblock.2⟩
  all_goals trivial

omit hR hP in
theorem letHook_eq (h : Hook) (block : Act α) (e : Engine) :
    letHook h block e = match block (binding h e) with
      | .ok a e' => .ok a (unbound e e')
      | .error (.unwound payload) e' => .error (.unwound payload) (unbound e e')
      | .error stop e' => .error stop e' := rfl

omit hP in
/-- A block that has a name for a hook. -/
theorem keeps_letHook {h : Hook} {block : Act α} (hh : h.Within A) (hi : h.Installable P)
    (hb : Keeps A R block) : Keeps A R (letHook h block) := by
  intro e hw
  have hblock := hb (binding h e) (within_enlist hw hh false)
  rw [letHook_eq]
  rcases ho : block (binding h e) with ⟨a, e₁⟩ | ⟨_ | _ | _ | _, e₁⟩ <;> rw [ho] at hblock
  · exact ⟨hblock.1, hR.bound hh hi hblock.2⟩
  · exact ⟨hblock.1, hR.bound hh hi hblock.2⟩
  all_goals trivial

/-- Only a hook that the script can name is popped by name. -/
theorem lands_popNamed {e : Engine} (hw : e.Within A) {name : Option HookId}
    (hname : ∀ id ∈ name, id ∈ e.names) : Lands (Leads A R e) (popNamed name e) := by
  rcases name with - | id
  · exact keeps_trace hR hP _ e hw
  · refine lands_pop hR hP hw fun i older hchain hi => hR.popped e hchain ?_
    rw [hi]
    exact hname id rfl

/-! ### The context -/

omit hR hP in
theorem record_of_active {e : Engine} {c : Context} (hc : e.context = some c) (v : Verdict) :
    record v e = .ok (some (c.owner == e.thread)) (recording v c e) := by
  rcases e with ⟨_, _, context⟩
  subst hc
  rfl

omit hR hP in
theorem record_of_idle {e : Engine} (hc : e.context = none) (v : Verdict) :
    record v e = .ok none e := by
  rcases e with ⟨_, _, context⟩
  subst hc
  rfl

omit hP in
theorem keeps_record {v : Verdict} (hv : Recordable A v) : Keeps A R (record v) := by
  intro e hw
  rcases hc : e.context with - | c
  · rw [record_of_idle hc]
    exact hR.leads_refl hw
  · rw [record_of_active hc]
    exact ⟨hw, hR.recorded e hv hc⟩

theorem keeps_raise {v : Verdict} (hv : Recordable A v) : Keeps A R (raise v : Act α) := by
  refine keeps_bind hR (keeps_record hR hv) fun owner => ?_
  rcases owner with - | owner
  · exact keeps_violate hR hP _
  · exact keeps_unwind hR _

omit hP in
theorem keeps_request {v : Verdict} (hv : Recordable A v) : Keeps A R (request v) := by
  refine keeps_bind hR (keeps_record hR hv) fun owner => ?_
  rcases owner with - | owner
  · exact keeps_pure hR _
  · exact keeps_get_bind fun e hw => keeps_ite (keeps_unwind hR _) (keeps_pure hR _) e hw

omit hR hP in
theorem enter_of_idle {e : Engine} (hc : e.context = none) : enter e = .ok () e.entered := by
  rcases e with ⟨_, _, context⟩
  subst hc
  rfl

/-- The end of a test, from the way its body has ended. -/
def concluded : EStateM.Result Stop Engine Unit → EStateM.Result Stop Engine Verdict
  | .ok _ e => .ok (e.pending.getD .pass) e.leave
  | .error (.unwound payload) e =>
    match verdictOn e.pending payload with
    | some v => .ok v e.leave
    | none => .error (.unwound payload) e.leave
  | .error stop e => .error stop e

omit hR hP in
theorem execute_of_idle {body : Act Unit} {e : Engine} (hc : e.context = none) :
    execute body e = concluded (body e.entered) := by
  unfold execute
  exact (bind_of_ok (enter_of_idle hc)).trans rfl

omit hR hP in
theorem execute_of_active {body : Act Unit} {e : Engine} {c : Context} (hc : e.context = some c) :
    execute body e = (violate .alreadyActive : Act Verdict) e := by
  have henter : enter e = (violate .alreadyActive : Act Unit) e := by
    rcases e with ⟨_, _, context⟩
    subst hc
    rfl
  rcases hv : (violate .alreadyActive : Act Unit) e with ⟨_, _⟩ | ⟨stop, e₁⟩
  · exact absurd hv violate_eq_ok
  · unfold execute
    refine (bind_of_error (henter.trans hv)).trans ?_
    cases hv
    rfl

theorem keeps_execute {body : Act Unit} (hb : Keeps A R body) : Keeps A R (execute body) := by
  intro e hw
  rcases hc : e.context with - | c
  · -- the body runs in a context of its own, which is gone afterwards
    have hleave : ∀ e', Leads A R e.entered e' → Leads A R e e'.leave := fun e' h =>
      ⟨h.1, hR.tested hc h.2⟩
    have hbody := hb e.entered hw
    rw [execute_of_idle hc]
    rcases ho : body e.entered with ⟨a, e'⟩ | ⟨payload | _ | _ | _, e'⟩ <;> rw [ho] at hbody
    · exact hleave e' hbody
    · rcases hv : verdictOn e'.pending payload with - | v
      · simp only [concluded, hv]
        exact hleave e' hbody
      · simp only [concluded, hv]
        exact hleave e' hbody
    all_goals trivial
  · rw [execute_of_active hc]
    exact keeps_violate hR hP _ e hw

/-! ### Clean-up, boundaries and threads -/

omit hP in
theorem keeps_guarded {block cleanup : Act Unit} (hb : Keeps A R block) (hc : Keeps A R cleanup) :
    Keeps A R (guarded block cleanup) := by
  intro e hw
  have hblock := hb e hw
  unfold guarded
  rcases ho : block e with ⟨a, e₁⟩ | ⟨payload | _ | _ | _, e₁⟩ <;> rw [ho] at hblock
  · exact hR.lands_trans hblock (hc e₁ hblock.1)
  · have hclean := hc { e₁ with unwinding := true } hblock.1
    rcases hd : cleanup { e₁ with unwinding := true } with ⟨b, e₂⟩ | ⟨_ | _ | _ | _, e₂⟩ <;>
      rw [hd] at hclean <;> simp only [hd]
    · exact hR.leads_trans hblock ⟨hclean.1, hR.cleaned hclean.2⟩
    all_goals trivial
  all_goals trivial

omit hR hP in
theorem keeps_catching {block : Act Unit} (hb : Keeps A R block) : Keeps A R (catching block) := by
  intro e hw
  have hblock := hb e hw
  unfold catching
  rcases ho : block e with ⟨a, e₁⟩ | ⟨_ | _ | _ | _, e₁⟩ <;> rw [ho] at hblock
  · exact hblock
  · exact hblock
  all_goals trivial

omit hR hP in
theorem onThread_eq (block : Act Unit) (e : Engine) :
    onThread block e = match block e.spawned with
      | .ok _ e' => .ok none (resumed e e')
      | .error (.unwound payload) e' => .ok (some payload) (resumed e e')
      | .error stop e' => .error stop e' := rfl

omit hP in
theorem keeps_onThread {block : Act Unit} (hb : Keeps A R block) : Keeps A R (onThread block) := by
  intro e hw
  have hblock := hb e.spawned hw
  rw [onThread_eq]
  rcases ho : block e.spawned with ⟨a, e₁⟩ | ⟨_ | _ | _ | _, e₁⟩ <;> rw [ho] at hblock
  · exact ⟨hblock.1, hR.threaded hblock.2⟩
  · exact ⟨hblock.1, hR.threaded hblock.2⟩
  all_goals trivial

/-! ### Assertions -/

theorem keeps_failAt (file : String) (line : Nat) (message : String) :
    Keeps A R (failAt file line message : Act α) := by
  refine keeps_get_bind fun e hw => ?_
  rcases hd : e.debug.fatalAsserts with - | -
  · exact keeps_raise hR hP (recordable_fail A message) e hw
  · exact trivial

theorem keeps_check (c : Check) : Keeps A R (check c) := by
  unfold check
  rcases c.failure? with - | message
  · exact keeps_pure hR ()
  · exact keeps_failAt hR hP _ _ _

theorem keeps_require {p : Prerequisite} (hp : A (.require p)) : Keeps A R (require p) := by
  refine keeps_get_bind fun e hw => ?_
  rcases hr : p.refusal? e.flags with - | message
  · exact hR.leads_refl hw
  · exact keeps_raise hR hP (.inr (.inr ⟨p, e.flags, message, hp, hr, rfl⟩)) e hw

/-! ### Diagnostics -/

omit hR hP in
/-- A bail-out ends the process. -/
theorem keeps_bailOut (level : Option Level) (message : String) :
    Keeps A R (bailOut level message : Act α) := by
  intro e _
  unfold bailOut
  let e₁ : Engine :=
    { e with journal := .printed .report (Tap.bailOut (some message)) :: e.journal }
  have hprint : print (Tap.bailOut (some message)) e = .ok () e₁ := rfl
  rw [(bind_of_ok hprint).trans (bind_of_ok (get_eq_ok.mpr ⟨rfl, rfl⟩))]
  split <;> trivial

omit hP in
theorem keeps_defaultAnswer (d : Diagnostic) : Keeps A R (defaultAnswer d) := by
  refine keeps_get_bind fun e hw => lands_ite (keeps_pure hR _ e hw) ?_
  refine lands_ite ?_ (keeps_pure hR _ e hw)
  exact lands_bind hR (lands_printDiagnostic hR hw d) fun _ => keeps_pure hR _

theorem keeps_announce (label : Option String) (d : Diagnostic) : Keeps A R (announce label d) := by
  rcases label with - | label
  · exact keeps_pure hR ()
  · exact keeps_trace hR hP _

variable {sub : Script → Act Unit} (hp : ∀ script, Script.Within A script → Keeps A R (sub script))

include hp

omit hP in
/-- The first rule that matches is carried out. -/
theorem keeps_rule (d : Diagnostic) {rules : List (Rule Action)}
    (hrules : ∀ s ∈ rules.map Rule.run, Script.Within A s) :
    Keeps A R (match rules.find? (·.isMatch d) with
      | none => pure .proceed
      | some rule => do
        sub rule.run
        pure rule.answer) := by
  split
  · exact keeps_pure hR _
  · rename_i rule hrule
    have hrun := hrules rule.run (List.mem_map_of_mem (List.mem_of_find?_eq_some hrule))
    exact keeps_bind hR (hp _ hrun) fun _ => keeps_pure hR _

/-- What a hook does that was in the chain at the beginning. -/
theorem lands_askHook (d : Diagnostic) {e₀ e : Engine} (hw : e₀.Within A) {i : Installed}
    (hi : i ∈ e₀.chain) (he : Leads A R e₀ e) :
    Lands (Leads A R e₀) (askHook sub d i.hook (asking i d e)) := by
  have hasked := hR.asked d hi he.2
  have hh := hw i hi
  rcases i with ⟨id, policies | expectations | hook⟩
  · exact ⟨he.1, hasked⟩
  · rcases hx : expectations.find? (·.isMatch d) with - | x
    · simp only [consulted, Hook.counter?, hx] at hasked
      simp only [askHook, hx]
      exact ⟨he.1, hasked⟩
    · simp only [consulted, Hook.counter?, hx] at hasked
      simp only [askHook, hx]
      exact ⟨he.1, hasked⟩
  · have hrules := keeps_rule hR hp d hh
    have hhook : Keeps A R (askHook sub d (.rules hook)) := by
      unfold askHook
      exact keeps_bind hR (keeps_announce hR hP _ d) fun _ => hrules
    have hnoted : Leads A R e₀ (asking ⟨id, .rules hook⟩ d e) := ⟨he.1, hasked⟩
    exact hR.lands_trans hnoted (hhook _ he.1)

/-- The hooks asked are among those that were in the chain at the beginning. -/
theorem lands_askAll (d : Diagnostic) {e₀ : Engine} (hw : e₀.Within A) {is : List Installed}
    (his : ∀ i ∈ is, i ∈ e₀.chain) {e : Engine} (he : Leads A R e₀ e) :
    Lands (Leads A R e₀) (askAll sub d is e) := by
  induction is generalizing e with
  | nil => exact he
  | cons i is ih =>
    have hask := lands_askHook hR hP hp d hw (his i (List.mem_cons_self ..)) he
    show Lands (Leads A R e₀) ((askHook sub d i.hook >>= _) (asking i d e))
    rcases ho : askHook sub d i.hook (asking i d e) with ⟨answer, e₁⟩ | ⟨stop, e₁⟩ <;>
      rw [ho] at hask
    · rw [bind_of_ok ho]
      rcases answer with _ | _ | _ | _ | _
      · exact ih (fun j hj => his j (List.mem_cons_of_mem i hj)) hask
      all_goals exact hask
    · rw [bind_of_error ho]
      exact hask.of_error

omit hp hP in
theorem keeps_noteSuppressed (d : Diagnostic) : Keeps A R (noteSuppressed d) :=
  keeps_get_bind fun e hw => lands_ite (lands_printDiagnostic hR hw _) (keeps_pure hR _ e hw)

omit hp hP in
theorem keeps_carryOut (d : Diagnostic) (answer : Answer) : Keeps A R (carryOut d answer) := by
  rcases answer with _ | _ | _ | message | _
  · exact keeps_pure hR _
  · exact keeps_pure hR _
  · exact keeps_noteSuppressed hR d
  · exact keeps_bind hR (keeps_request hR (recordable_fail A message)) fun active =>
      keeps_ite (keeps_bailOut _ _) (keeps_pure hR _)
  · exact keeps_bailOut _ _

/-- The hooks asked are those in the chain, which are within the class of actions. -/
theorem keeps_dispatch (d : Diagnostic) : Keeps A R (dispatch sub d) := by
  refine keeps_get_bind fun e hw => ?_
  have hask := lands_askAll hR hP hp d hw (fun i hi => hi) (hR.leads_refl hw)
  refine lands_bind hR hask fun answer => ?_
  have hend : ∀ answer, Keeps A R (do note (.decided d answer); carryOut d answer) := by
    intro answer
    refine keeps_bind hR (keeps_note hR (hP ?_)) fun _ => keeps_carryOut hR d answer
    trivial
  rcases answer with _ | _ | _ | _ | _
  · exact keeps_bind hR (keeps_defaultAnswer hR d) hend
  all_goals exact keeps_bind hR (keeps_pure hR _) hend

omit hp in
theorem keeps_intercept : Keeps A R intercept := by
  refine keeps_get_bind fun e hw => ?_
  rcases hs : e.subscriber with _ | _ | _
  · exact ⟨hw, hR.intercepted e⟩
  · exact keeps_violate hR hP _ e hw
  · exact hR.leads_refl hw

theorem keeps_log (event : LogEvent) : Keeps A R (log sub event) :=
  keeps_get_bind fun e hw => keeps_ite (keeps_dispatch hR hP hp _) (keeps_pure hR _) e hw

/-! ### Scripts -/

omit hR hP hp in
theorem keeps_sequence (hR : Respected A P R) {act : Action → Act Unit} {script : Script}
    (ha : ∀ a ∈ script, Keeps A R (act a)) : Keeps A R (sequence act script) := by
  induction script with
  | nil => exact keeps_pure hR ()
  | cons a script ih =>
    exact keeps_bind hR (ha a (List.mem_cons_self ..)) fun _ =>
      ih fun b hb => ha b (List.mem_cons_of_mem a hb)

omit hp in
/-- A payload, or its absence, is traced. -/
theorem keeps_traceEnd {block : Act (Option Payload)} (hb : Keeps A R block) (start : String) :
    Keeps A R (do
      match ← block with
      | none => pure ()
      | some payload => trace (start ++ payload.message)) := by
  refine keeps_bind hR hb fun payload => ?_
  rcases payload with - | payload
  · exact keeps_pure hR ()
  · exact keeps_trace hR hP _

omit hp in
/-- What is done with the number of a counter, if there is one. -/
theorem keeps_collected (handle : Nat) {f : Nat → Act Unit} (hf : ∀ seen, Keeps A R (f seen)) :
    Keeps A R (do
      match ← collect handle with
      | none => trace "no such handle"
      | some seen => f seen) := by
  refine keeps_bind hR (keeps_collect hR handle) fun seen => ?_
  rcases seen with - | seen
  · exact keeps_trace hR hP _
  · exact hf seen

/-- One action of the class keeps what the scripts nested in it keep. -/
theorem keeps_act {a : Action} (ha : A a) (hs : ∀ s ∈ a.scripts, Script.Within A s) :
    Keeps A R (act sub a) := by
  have htrace : ∀ text, Keeps A R (trace text) := keeps_trace hR hP
  have hsub : ∀ s ∈ a.scripts, Keeps A R (sub s) := fun s hmem => hp s (hs s hmem)
  rcases a with text | c | p | ⟨handle, count⟩ | handle | handle | ⟨file, line, message⟩ | v |
    message | payload | d | event | run | ⟨run, onDrop⟩ | run | run | ⟨q, run, otherwise⟩ | h |
    index | ⟨h, run⟩ | ⟨h, run⟩ | index | d | ⟨level, message⟩ | ⟨verbosity, colours⟩ | - | - | - |
    - | - | name
  · exact htrace _
  · exact keeps_check hR hP c
  · exact keeps_require hR hP ha
  · exact keeps_collected hR hP handle fun seen =>
      keeps_ite (keeps_pure hR ()) (keeps_failAt hR hP _ _ _)
  · exact keeps_collected hR hP handle fun seen => htrace _
  · refine keeps_get_bind fun e hw => ?_
    rcases e.counters[handle]? with - | seen
    · exact htrace _ e hw
    · exact htrace _ e hw
  · exact keeps_failAt hR hP file line message
  · exact keeps_raise hR hP (.inr (.inl ha))
  · exact keeps_violate hR hP _
  · exact keeps_unwind hR payload
  · exact keeps_dispatch hR hP hp d
  · exact keeps_log hR hP hp event
  · exact keeps_traceEnd hR hP (keeps_onThread hR (hsub run (by simp [Action.scripts]))) _
  · exact keeps_guarded hR (hsub run (by simp [Action.scripts]))
      (hsub onDrop (by simp [Action.scripts]))
  · exact keeps_traceEnd hR hP (keeps_catching (hsub run (by simp [Action.scripts]))) _
  · exact keeps_bind hR (keeps_execute hR hP (hsub run (by simp [Action.scripts]))) fun _ =>
      htrace _
  · exact keeps_get_bind fun e hw => keeps_ite (hsub run (by simp [Action.scripts]))
      (hsub otherwise (by simp [Action.scripts])) e hw
  · -- the hook is installed and then given a name, which is one change
    have hh : (Hook.rules h).Within A := hs
    exact fun e hw => ⟨within_enlist hw hh true, hR.installed e true hh trivial⟩
  · exact keeps_get_bind fun e hw => lands_popNamed hR hP hw fun _ hid =>
      List.mem_append_left _ (List.mem_of_getElem? hid)
  · have hh : (Hook.rules h).Within A := fun s hmem => hs s (List.mem_cons_of_mem run hmem)
    have hrun := hsub run (List.mem_cons_self ..)
    simp only [act]
    exact keeps_withHook hR hP true hh trivial fun e hw => hrun _ (within_enlist hw hh true)
  · have hh : (Hook.rules h).Within A := fun s hmem => hs s (List.mem_cons_of_mem run hmem)
    exact keeps_letHook hR hh trivial (hsub run (List.mem_cons_self ..))
  · exact keeps_get_bind fun e hw => lands_popNamed hR hP hw fun _ hid =>
      List.mem_append_right _ (List.mem_of_getElem? hid)
  · exact keeps_bind hR (keeps_defaultAnswer hR d) fun _ => htrace _
  · exact keeps_bailOut level message
  · exact fun e hw => ⟨hw, hR.configured e ha⟩
  · exact keeps_get_bind fun e hw => htrace _ e hw
  · exact keeps_get_bind fun e hw => htrace _ e hw
  · exact keeps_get_bind fun e hw => htrace _ e hw
  · exact keeps_get_bind fun e hw => htrace _ e hw
  · exact keeps_intercept hR hP
  · exact htrace _

omit hp in
theorem keeps_performWithin (fuel : Nat) {script : Script} (hs : Script.Within A script) :
    Keeps A R (performWithin fuel script) := by
  induction fuel generalizing script with
  | zero => exact fun e _ => trivial
  | succ fuel ih =>
    refine keeps_sequence hR fun a ha => keeps_act hR hP (fun s => ih) (hs a (.here ha)) ?_
    exact fun s hmem b hb => hs b (.inside ha hmem hb)

omit hR hP hp in
/-- Where all actions are allowed, every single one keeps the relation. -/
theorem keeps_actWithin (hR : Respected (fun _ => True) P R) (hP : ∀ {x : Entry}, x.Quiet → P x)
    (fuel : Nat) (a : Action) : Keeps (fun _ => True) R (act (performWithin fuel) a) :=
  keeps_act hR hP (fun _ => keeps_performWithin hR hP fuel) trivial fun s _ => s.within_all

omit hp in
/-- A relation that is respected relates the states before and after any script. -/
theorem keeps_perform {script : Script} (hs : Script.Within A script) :
    Keeps A R (perform script) :=
  keeps_performWithin hR hP depthLimit hs

end Keeps

/-! ### Threads and clean-ups -/

/-- The same thread runs in both states, and it unwinds in both or in neither. -/
def Restored (e e' : Engine) : Prop := e'.thread = e.thread ∧ e'.unwinding = e.unwinding

/-- An effect ends the threads and the clean-ups that it has begun. -/
theorem respected_restored (A : Action → Prop) (P : Entry → Prop) : Respected A P Restored where
  refl _ := ⟨rfl, rfl⟩
  trans h h' := ⟨h'.1.trans h.1, h'.2.trans h.2⟩
  noted _ _ _ := ⟨rfl, rfl⟩
  printed _ _ := ⟨rfl, rfl⟩
  installed _ named _ _ _ := by rcases named with _ | _ <;> exact ⟨rfl, rfl⟩
  popped _ _ _ _ _ := ⟨rfl, rfl⟩
  released {_ _ named _ _ _} _ h _ _ := by rcases named with _ | _ <;> exact h
  discarded {_ _ named _} _ h := by rcases named with _ | _ <;> exact h
  bound _ _ h := h
  recorded _ _ _ _ _ := ⟨rfl, rfl⟩
  tested _ h := h
  threaded _ := ⟨rfl, rfl⟩
  cleaned h := ⟨h.1, rfl⟩
  asked _ _ h := h
  collected _ _ _ _ := ⟨rfl, rfl⟩
  configured _ _ _ _ := ⟨rfl, rfl⟩
  intercepted _ := ⟨rfl, rfl⟩

end Engine

end TestEngine
