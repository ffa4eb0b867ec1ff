/-
TestEngine/Proofs/Engine/Kin.lean

Two engines side by side that carry out the same scripts.  They may have got to where they start in
different ways: other numbers of hooks and threads have been given, and other texts printed.  None
of this can be seen by scripts, so the two engines stay kin (`Pairing.Kin`), whatever the scripts
do, and effects end in the same way (`couples_perform`).  What is printed may differ: the second
console may be the louder one (`Console.Milder`), and then there are more diagnostics in the second
output.

What scripts can see of each other are counters, the hooks that have been pushed for all to name,
and the settings of the console (`Resource`).  A hook with a local name is nobody else's business.
A `Pairing` says where the two engines start, which resources may be read, so that they have to
agree on them, which may be written, so that all others stay as they are, and which texts of the
first output have to be in the second one.

A pairing of an engine with itself is of use as well: then being kin says no more than that all
resources that may not be written are as they were.
-/
import Mathlib.Data.List.Forall2
import Mathlib.Data.Option.Basic
import TestEngine.Proofs.Engine.Spared

namespace TestEngine

/-! ### What scripts share -/

/-- What one script can leave for another: what has been counted, the hooks that have been pushed
for all to name, and the settings of the console. -/
inductive Resource
  | counter (handle : Nat)
  | names
  | console
  deriving DecidableEq

namespace Action

/-- The action itself makes use of what it finds there, whatever the scripts in it do. -/
def Reads : Action → Resource → Prop
  | .checkExpected handle _, x => x = .counter handle
  | .count handle, x => x = .counter handle
  | .peek handle, x => x = .counter handle
  | .choose (.counted handle _) _ _, x => x = .counter handle
  | .choose (.console _ _) _ _, x => x = .console
  | .popHook _, x => x = .names
  | _, _ => False

/-- The action itself changes what is there. -/
def Writes : Action → Resource → Prop
  | .checkExpected handle _, x => x = .counter handle
  | .count handle, x => x = .counter handle
  | .pushHook _, x => x = .names
  | .withHook _ _, x => x = .names
  | .configure _ _, x => x = .console
  | _, _ => False

/-- The flags that the action asks for, to skip a test or to choose between scripts. -/
def flags? : Action → Option ModeFlags
  | .require (.flags required _) => some required
  | .choose (.flags required) _ _ => some required
  | _ => none

end Action

namespace Script

/-- Some action in the script makes use of what it finds there. -/
def Reads (script : Script) (x : Resource) : Prop := ∃ a, Has script a ∧ a.Reads x

/-- Some action in the script changes what is there. -/
def Writes (script : Script) (x : Resource) : Prop := ∃ a, Has script a ∧ a.Writes x

variable {a : Action} {script : Script} {x : Resource}

@[simp] theorem reads_nil : ¬ Reads [] x := by simp [Reads]

@[simp] theorem reads_cons :
    Reads (a :: script) x ↔ a.Reads x ∨ (∃ s ∈ a.scripts, Reads s x) ∨ Reads script x := by
  unfold Reads
  simp only [has_cons]
  grind

@[simp] theorem writes_nil : ¬ Writes [] x := by simp [Writes]

@[simp] theorem writes_cons :
    Writes (a :: script) x ↔ a.Writes x ∨ (∃ s ∈ a.scripts, Writes s x) ∨ Writes script x := by
  unfold Writes
  simp only [has_cons]
  grind

end Script

namespace Hook

/-- The hook makes use of what it finds there when it is asked. -/
def Reads : Hook → Resource → Prop
  | .failIfLogged _, _ => False
  | .expecting _, _ => False
  | .rules h, x => ∃ s ∈ h.scripts, Script.Reads s x

/-- The hook changes what is there when it is asked. -/
def Writes : Hook → Resource → Prop
  | .failIfLogged _, _ => False
  | .expecting expectations, x => ∃ p ∈ expectations, x = .counter p.counter
  | .rules h, x => ∃ s ∈ h.scripts, Script.Writes s x

end Hook

namespace Engine

/-- A hook in the chain makes use of what it finds there. -/
def HooksRead (e : Engine) (x : Resource) : Prop := ∃ i ∈ e.chain, i.hook.Reads x

/-- A hook in the chain changes what is there. -/
def HooksWrite (e : Engine) (x : Resource) : Prop := ∃ i ∈ e.chain, i.hook.Writes x

end Engine

/-- The resource is the same in two states of the engine. -/
def Resource.Same (e e' : Engine) : Resource → Prop
  | .counter handle => e'.counters[handle]? = e.counters[handle]?
  | .names => e'.pushed = e.pushed
  | .console => e'.console = e.console

theorem Resource.Same.refl (x : Resource) (e : Engine) : x.Same e e := by
  rcases x with handle | - | - <;> rfl

theorem Resource.Same.symm {e e' : Engine} {x : Resource} (h : x.Same e e') : x.Same e' e := by
  rcases x with handle | - | -
  · exact Eq.symm h
  · exact Eq.symm h
  · exact Eq.symm h

theorem Resource.Same.trans {e e₁ e₂ : Engine} {x : Resource} (h : x.Same e e₁)
    (h' : x.Same e₁ e₂) : x.Same e e₂ := by
  rcases x with handle | - | -
  · exact Eq.trans h' h
  · exact Eq.trans h' h
  · exact Eq.trans h' h

/-- What is printed at a verbosity is printed at those of a higher rank. -/
def Verbosity.rank : Verbosity → Nat
  | .quiet => 0
  | .normal => 1
  | .verbose => 2

/-- The second console has the same colours and prints no less. -/
structure Console.Milder (c c' : Console) : Prop where
  colours : c'.colours = c.colours
  verbosity : c.verbosity.rank ≤ c'.verbosity.rank

theorem Console.Milder.refl (c : Console) : c.Milder c := ⟨rfl, Nat.le_refl _⟩

/-- The text of an entry on a channel that is looked at. -/
def Entry.seen? (sees : Channel → Bool) : Entry → Option String
  | .printed channel text => if sees channel then some text else none
  | _ => none

namespace Engine

/-! ### Numbers -/

/-- Numbers that correspond to each other, those from `n` on and from `n'` on being new: old ones
are the same, and new ones are so in the order in which they are given. -/
inductive Shifted (n n' : Nat) : Nat → Nat → Prop
  | old {a : Nat} (h : a < n) (h' : a < n') : Shifted n n' a a
  | new (i : Nat) : Shifted n n' (n + i) (n' + i)

theorem Shifted.eq_iff {n n' a a' b b' : Nat} (h : Shifted n n' a a') (h' : Shifted n n' b b') :
    a' = b' ↔ a = b := by
  cases h <;> cases h' <;> omega

/-- Two engines that are to be compared. -/
structure Pairing where
  start : Engine
  start' : Engine
  reads : Resource → Prop
  writes : Resource → Prop
  sees : Channel → Bool

namespace Pairing

variable (k : Pairing)

/-- An action that keeps to the resources, and does not ask for flags that differ. -/
structure Allows (a : Action) : Prop where
  reads : ∀ x, a.Reads x → k.reads x
  writes : ∀ x, a.Writes x → k.writes x
  flags : ∀ required, a.flags? = some required →
    k.start'.flags.contains required = k.start.flags.contains required

/-- A hook that keeps to the resources. -/
def Admits : Hook → Prop
  | .failIfLogged _ => True
  | .expecting expectations => ∀ x ∈ expectations, k.writes (.counter x.counter)
  | .rules h => ∀ s ∈ h.scripts, Script.Within k.Allows s

/-- The same hook, under numbers that correspond to each other. -/
structure Matches (i i' : Installed) : Prop where
  id : Shifted k.start.nextHook k.start'.nextHook i.id i'.id
  hook : i'.hook = i.hook
  admits : k.Admits i.hook

/-- Tests that have been started on threads that correspond to each other. -/
structure SameTest (c c' : Context) : Prop where
  owner : Shifted k.start.nextThread k.start'.nextThread c.owner c'.owner
  pending : c'.pending = c.pending

/-- What has been printed in the first engine has been printed in the second one, in the same order,
as far as it is looked at. -/
def Echoes (e e' : Engine) : Prop :=
  ∃ new new', e.journal = new ++ k.start.journal ∧ e'.journal = new' ++ k.start'.journal ∧
    (new.filterMap (Entry.seen? k.sees)).Sublist (new'.filterMap (Entry.seen? k.sees))

variable {k}

/-- A script keeps to the resources that its actions use. -/
theorem within_of_uses (hflags : k.start'.flags = k.start.flags) {script : Script}
    (hreads : ∀ x, script.Reads x → k.reads x) (hwrites : ∀ x, script.Writes x → k.writes x) :
    Script.Within k.Allows script := by
  refine fun a ha => ⟨fun x hx => hreads x ⟨a, ha, hx⟩, fun x hx => hwrites x ⟨a, ha, hx⟩, ?_⟩
  intro required _
  rw [hflags]

/-- A hook keeps to the resources that its scripts use. -/
theorem admits_of_uses (hflags : k.start'.flags = k.start.flags) {h : Hook}
    (hreads : ∀ x, h.Reads x → k.reads x) (hwrites : ∀ x, h.Writes x → k.writes x) :
    k.Admits h := by
  rcases h with policies | expectations | hook
  · trivial
  · exact fun p hp => hwrites _ ⟨p, hp, rfl⟩
  · exact fun s hs => within_of_uses hflags (fun x hx => hreads x ⟨s, hs, hx⟩)
      fun x hx => hwrites x ⟨s, hs, hx⟩

variable (k)

/-- The two engines differ in nothing that scripts can see. -/
structure Kin (e e' : Engine) : Prop where
  chain : List.Forall₂ k.Matches e.chain e'.chain
  nextHook : ∃ i, e.nextHook = k.start.nextHook + i ∧ e'.nextHook = k.start'.nextHook + i
  context : Option.Rel k.SameTest e.context e'.context
  console : k.sees .diagnostic = true → e.console.Milder e'.console
  settings : k.reads .console → e'.console = e.console
  flags : e.flags = k.start.flags ∧ e'.flags = k.start'.flags
  debug : e'.debug = e.debug
  subscriber : e'.subscriber = e.subscriber
  thread : Shifted k.start.nextThread k.start'.nextThread e.thread e'.thread
  nextThread : ∃ i, e.nextThread = k.start.nextThread + i ∧
    e'.nextThread = k.start'.nextThread + i
  unwinding : e'.unwinding = e.unwinding
  counters : ∀ handle, k.reads (.counter handle) → e'.counters[handle]? = e.counters[handle]?
  pushed : k.reads .names →
    List.Forall₂ (Shifted k.start.nextHook k.start'.nextHook) e.pushed e'.pushed
  own : List.Forall₂ (Shifted k.start.nextHook k.start'.nextHook) e.own e'.own
  untouched : ∀ x : Resource, ¬ k.writes x → x.Same k.start e ∧ x.Same k.start' e'
  echoes : k.Echoes e e'

/-- The two effects end in the same way, and leave the two engines kin. -/
def Couples {α : Type} (x x' : Act α) : Prop := ∀ e e', k.Kin e e' → Alike k.Kin (x e) (x' e')

end Pairing

/-! ### Sequences -/

section Couples

variable {k : Pairing} {α β : Type} {e e' : Engine}

theorem couples_bind {x x' : Act α} {f f' : α → Act β} (hx : k.Couples x x')
    (hf : ∀ a, k.Couples (f a) (f' a)) : k.Couples (x >>= f) (x' >>= f') :=
  fun e e' h => (hx e e' h).bind hf

theorem couples_pure (a : α) : k.Couples (pure a) (pure a) := fun _ _ h => ⟨rfl, h⟩

theorem couples_throw (stop : Stop) : k.Couples (throw stop : Act α) (throw stop) :=
  fun _ _ h => ⟨rfl, h⟩

theorem couples_unwind (payload : Payload) :
    k.Couples (unwind payload : Act α) (unwind payload) :=
  couples_throw _

theorem couples_get_bind {f f' : Engine → Act α}
    (hf : ∀ e e', k.Kin e e' → Alike k.Kin (f e e) (f' e' e')) :
    k.Couples (get >>= f) (get >>= f') :=
  hf

theorem couples_ite {c : Prop} [Decidable c] {x x' y y' : Act α} (hx : k.Couples x x')
    (hy : k.Couples y y') : k.Couples (if c then x else y) (if c then x' else y') := by
  split
  · exact hx
  · exact hy

/-! ### Entries -/

theorem Pairing.Echoes.noted (h : k.Echoes e e') {x x' : Entry}
    (hx : x'.seen? k.sees = x.seen? k.sees) :
    k.Echoes { e with journal := x :: e.journal } { e' with journal := x' :: e'.journal } := by
  obtain ⟨new, new', hnew, hnew', hsub⟩ := h
  refine ⟨x :: new, x' :: new', congrArg (x :: ·) hnew, congrArg (x' :: ·) hnew', ?_⟩
  rw [List.filterMap_cons, List.filterMap_cons, hx]
  rcases x.seen? k.sees with - | text
  · exact hsub
  · exact hsub.cons_cons text

/-- What is not looked at may be noted in the first engine only. -/
theorem Pairing.Echoes.hidden (h : k.Echoes e e') {x : Entry} (hx : x.seen? k.sees = none) :
    k.Echoes { e with journal := x :: e.journal } e' := by
  obtain ⟨new, new', hnew, hnew', hsub⟩ := h
  refine ⟨x :: new, new', congrArg (x :: ·) hnew, hnew', ?_⟩
  rw [List.filterMap_cons_none hx]
  exact hsub

/-- Anything may be noted in the second engine only. -/
theorem Pairing.Echoes.louder (h : k.Echoes e e') (x : Entry) :
    k.Echoes e { e' with journal := x :: e'.journal } := by
  obtain ⟨new, new', hnew, hnew', hsub⟩ := h
  refine ⟨new, x :: new', hnew, congrArg (x :: ·) hnew', ?_⟩
  rw [List.filterMap_cons]
  rcases x.seen? k.sees with - | text
  · exact hsub
  · exact hsub.cons text

theorem Pairing.Kin.noted (h : k.Kin e e') {x x' : Entry}
    (hx : x'.seen? k.sees = x.seen? k.sees) :
    k.Kin { e with journal := x :: e.journal } { e' with journal := x' :: e'.journal } :=
  { h with echoes := h.echoes.noted hx }

theorem couples_note {x x' : Entry} (hx : x'.seen? k.sees = x.seen? k.sees) :
    k.Couples (note x) (note x') :=
  fun _ _ h => ⟨rfl, h.noted hx⟩

theorem couples_trace (text text' : String) : k.Couples (trace text) (trace text') :=
  couples_note rfl

theorem couples_violate (v : Violation) : k.Couples (violate v : Act α) (violate v) :=
  couples_bind (couples_note rfl) fun _ => couples_unwind _

/-- Print a text that depends on the console, if the console has it so. -/
def printIf (shown : Console → Bool) (text : Console → String) : Act Unit := do
  let e ← get
  if shown e.console then printDiagnostic (text e.console)

/-- What is printed may differ if nobody looks at it, and the second console may print where the
first one does not. -/
theorem couples_printIf (shown : Console → Bool) (text : Console → String)
    (hshown : ∀ {c c' : Console}, c.Milder c' → shown c = true → shown c' = true)
    (htext : ∀ {c c' : Console}, c.Milder c' → text c' = text c) :
    k.Couples (printIf shown text) (printIf shown text) := by
  refine couples_get_bind fun e e' h => ?_
  rcases hsees : k.sees .diagnostic with - | -
  · have hhidden : ∀ text, (Entry.printed .diagnostic text).seen? k.sees = none := by
      intro text
      simp [Entry.seen?, hsees]
    split
    · split
      · exact ⟨rfl, h.noted ((hhidden _).trans (hhidden _).symm)⟩
      · exact ⟨rfl, { h with echoes := h.echoes.hidden (hhidden _) }⟩
    · split
      · exact ⟨rfl, { h with echoes := h.echoes.louder _ }⟩
      · exact ⟨rfl, h⟩
  · have hmilder := h.console hsees
    split
    · rename_i hfirst
      rw [if_pos (hshown hmilder hfirst)]
      have hsame : Tap.diagnostic (text e'.console) e'.console.colours =
          Tap.diagnostic (text e.console) e.console.colours := by
        rw [htext hmilder, hmilder.colours]
      refine ⟨rfl, h.noted ?_⟩
      rw [hsame]
    · split
      · exact ⟨rfl, { h with echoes := h.echoes.louder _ }⟩
      · exact ⟨rfl, h⟩

/-! ### Counters -/

theorem couples_credit {counter : Nat} (hwrites : k.writes (.counter counter)) :
    k.Couples (credit counter) (credit counter) := by
  intro e e' h
  refine ⟨rfl, ?_⟩
  refine { h with counters := fun handle hreads => ?_, untouched := fun x hx => ?_, echoes := ?_ }
  · show (e'.counters.modify counter (· + 1))[handle]? = (e.counters.modify counter (· + 1))[handle]?
    rw [List.getElem?_modify, List.getElem?_modify, h.counters handle hreads]
  · rcases x with handle | - | -
    · have hne : counter ≠ handle := by
        rintro rfl
        exact hx hwrites
      have hsame : ∀ l : List Nat, (l.modify counter (· + 1))[handle]? = l[handle]? := by
        intro l
        simp [hne]
      obtain ⟨hfirst, hsecond⟩ := h.untouched _ hx
      exact ⟨(hsame _).trans hfirst, (hsame _).trans hsecond⟩
    · exact h.untouched _ hx
    · exact h.untouched _ hx
  · exact h.echoes.noted rfl

theorem collect_eq (counter : Nat) (e : Engine) :
    collect counter e = match e.counters[counter]? with
      | none => .ok none e
      | some amount => .ok (some amount) (collecting counter amount e) := by
  refine (bind_of_ok (get_eq_ok.mpr ⟨rfl, rfl⟩)).trans ?_
  rcases e.counters[counter]? with - | amount
  · rfl
  · rfl

theorem couples_collect {counter : Nat} (hreads : k.reads (.counter counter))
    (hwrites : k.writes (.counter counter)) : k.Couples (collect counter) (collect counter) := by
  intro e e' h
  have hsame := h.counters counter hreads
  rw [collect_eq, collect_eq, hsame]
  rcases hc : e.counters[counter]? with - | amount
  · exact ⟨rfl, h⟩
  · refine ⟨rfl, ?_⟩
    refine { h with counters := fun handle hreads => ?_, untouched := fun x hx => ?_, echoes := ?_ }
    · show (e'.counters.set counter 0)[handle]? = (e.counters.set counter 0)[handle]?
      by_cases hne : counter = handle
      · subst hne
        rw [List.getElem?_set_self', List.getElem?_set_self', hsame]
      · rw [List.getElem?_set_ne hne, List.getElem?_set_ne hne, h.counters handle hreads]
    · rcases x with handle | - | -
      · have hne : counter ≠ handle := by
          rintro rfl
          exact hx hwrites
        obtain ⟨hfirst, hsecond⟩ := h.untouched _ hx
        exact ⟨(List.getElem?_set_ne hne).trans hfirst, (List.getElem?_set_ne hne).trans hsecond⟩
      · exact h.untouched _ hx
      · exact h.untouched _ hx
    · exact h.echoes.noted rfl

/-! ### Outcomes -/

theorem Pairing.Kin.context_cases (h : k.Kin e e') :
    e.context = none ∧ e'.context = none ∨
      ∃ c c', e.context = some c ∧ e'.context = some c' ∧ k.SameTest c c' := by
  have hcontext := h.context
  generalize e.context = c, e'.context = c' at hcontext
  cases hcontext with
  | none => exact .inl ⟨rfl, rfl⟩
  | some htest => exact .inr ⟨_, _, rfl, rfl, htest⟩

theorem Pairing.Kin.isActive_eq (h : k.Kin e e') : e'.isActive = e.isActive := by
  unfold isActive
  rcases h.context_cases with ⟨hc, hc'⟩ | ⟨c, c', hc, hc', -⟩
  · rw [hc, hc']
  · rw [hc, hc']
    rfl

theorem Pairing.Kin.pending_eq (h : k.Kin e e') : e'.pending = e.pending := by
  unfold pending
  rcases h.context_cases with ⟨hc, hc'⟩ | ⟨c, c', hc, hc', htest⟩
  · rw [hc, hc']
  · rw [hc, hc']
    exact htest.pending

theorem couples_record (v : Verdict) : k.Couples (record v) (record v) := by
  intro e e' h
  rcases h.context_cases with ⟨hc, hc'⟩ | ⟨c, c', hc, hc', htest⟩
  · rw [record_of_idle hc, record_of_idle hc']
    exact ⟨rfl, h⟩
  · rw [record_of_active hc, record_of_active hc']
    have hpending : some (c'.pending.getD v) = some (c.pending.getD v) := by rw [htest.pending]
    refine ⟨?_, { h with context := .some ⟨htest.owner, hpending⟩, echoes := h.echoes.noted rfl }⟩
    have howner : (c'.owner == e'.thread) = (c.owner == e.thread) := by
      rw [Bool.eq_iff_iff, beq_iff_eq, beq_iff_eq]
      exact htest.owner.eq_iff h.thread
    rw [howner]

theorem couples_raise (v : Verdict) : k.Couples (raise v : Act α) (raise v) := by
  refine couples_bind (couples_record v) fun owner => ?_
  rcases owner with - | owner
  · exact couples_violate _
  · exact couples_unwind _

theorem couples_request (v : Verdict) : k.Couples (request v) (request v) := by
  refine couples_bind (couples_record v) fun owner => ?_
  rcases owner with - | owner
  · exact couples_pure _
  · refine couples_get_bind fun e e' h => ?_
    rw [h.unwinding]
    exact couples_ite (couples_unwind _) (couples_pure _) _ _ h

theorem couples_failAt (file : String) (line : Nat) (message : String) :
    k.Couples (failAt file line message : Act α) (failAt file line message) := by
  refine couples_get_bind fun e e' h => ?_
  rw [h.debug]
  exact couples_ite (couples_bind (couples_note rfl) fun _ => couples_throw _) (couples_raise _) _ _ h

theorem couples_check (c : Check) : k.Couples (check c) (check c) := by
  unfold check
  rcases c.failure? with - | message
  · exact couples_pure ()
  · exact couples_failAt _ _ _

/-- A test is skipped for the same reason if the flags that are asked for are in force in both. -/
theorem Pairing.Allows.refusal?_eq {p : Prerequisite} (hp : k.Allows (.require p)) :
    p.refusal? k.start'.flags = p.refusal? k.start.flags := by
  rcases p with ⟨cond, source, message⟩ | ⟨required, message⟩ | message
  · rfl
  · simp only [Prerequisite.refusal?, hp.flags required rfl]
  · rfl

theorem couples_require {p : Prerequisite} (hp : k.Allows (.require p)) :
    k.Couples (require p) (require p) := by
  refine couples_get_bind fun e e' h => ?_
  rw [h.flags.1, h.flags.2, hp.refusal?_eq]
  rcases p.refusal? k.start.flags with - | message
  · exact couples_pure () _ _ h
  · exact couples_raise _ _ _ h

/-! ### The chain of hooks -/

theorem couples_pop {id id' : HookId}
    (hid : Shifted k.start.nextHook k.start'.nextHook id id') : k.Couples (pop id) (pop id') := by
  refine couples_get_bind fun e e' h => ?_
  have hchain := h.chain
  rcases hc : e.chain with - | ⟨newest, older⟩ <;> rw [hc] at hchain <;>
    rcases hc' : e'.chain with - | ⟨newest', older'⟩ <;> rw [hc'] at hchain
  · exact couples_violate _ _ _ h
  · nomatch hchain
  · nomatch hchain
  · obtain ⟨hnewest, holder⟩ := List.forall₂_cons.mp hchain
    have hiff := hnewest.id.eq_iff hid
    dsimp only
    by_cases heq : newest.id = id
    · rw [if_pos heq, if_pos (hiff.mpr heq)]
      exact ⟨rfl, { h with chain := holder }⟩
    · rw [if_neg heq, if_neg (mt hiff.mp heq)]
      exact couples_violate _ _ _ h

/-- A hook is popped by its name if both scripts can name one. -/
theorem couples_popNamed {name name' : Option HookId}
    (hname : Option.Rel (Shifted k.start.nextHook k.start'.nextHook) name name') :
    k.Couples (popNamed name) (popNamed name') := by
  cases hname with
  | none => exact couples_trace _ _
  | some hid => exact couples_pop hid

theorem rel_getElem? {R : HookId → HookId → Prop} {ids ids' : List HookId}
    (h : List.Forall₂ R ids ids') (i : Nat) : Option.Rel R ids[i]? ids'[i]? := by
  induction h generalizing i with
  | nil => exact .none
  | cons hid _ ih =>
    rcases i with - | i
    · exact .some hid
    · exact ih i

theorem forall₂_discard {is is' : List Installed} (h : List.Forall₂ k.Matches is is')
    {id id' : HookId} (hid : Shifted k.start.nextHook k.start'.nextHook id id') :
    List.Forall₂ k.Matches (is.filter fun i => i.id != id) (is'.filter fun i => i.id != id') := by
  induction h with
  | nil => exact .nil
  | @cons i i' is is' hi _ ih =>
    have hsame : (i'.id != id') = (i.id != id) := by
      rw [Bool.eq_iff_iff, bne_iff_ne, bne_iff_ne]
      exact not_congr (hi.id.eq_iff hid)
    rw [List.filter_cons, List.filter_cons, hsame]
    split
    · exact .cons hi ih
    · exact ih

theorem Pairing.Kin.discard (h : k.Kin e e') {id id' : HookId}
    (hid : Shifted k.start.nextHook k.start'.nextHook id id') :
    k.Kin (discard id e) (discard id' e') :=
  { h with chain := forall₂_discard h.chain hid }

theorem couples_release {id id' : HookId}
    (hid : Shifted k.start.nextHook k.start'.nextHook id id') :
    k.Couples (release id) (release id') := by
  refine couples_get_bind fun e e' h => ?_
  rw [h.unwinding]
  split
  · exact ⟨rfl, h.discard hid⟩
  · exact couples_pop hid _ _ h

theorem Pairing.Kin.next (h : k.Kin e e') :
    Shifted k.start.nextHook k.start'.nextHook e.nextHook e'.nextHook := by
  obtain ⟨i, hi, hi'⟩ := h.nextHook
  rw [hi, hi']
  exact .new i

theorem Pairing.Kin.enlist (hkin : k.Kin e e') {h : Hook} (named : Bool) (hh : k.Admits h)
    (hnamed : named = true → k.writes .names) :
    k.Kin (enlist named h e) (enlist named h e') := by
  obtain ⟨i, hi, hi'⟩ := hkin.nextHook
  have hchain : List.Forall₂ k.Matches (⟨e.nextHook, h⟩ :: e.chain) (⟨e'.nextHook, h⟩ :: e'.chain) :=
    .cons ⟨hkin.next, rfl, hh⟩ hkin.chain
  have hnext : ∃ i, e.nextHook + 1 = k.start.nextHook + i ∧
      e'.nextHook + 1 = k.start'.nextHook + i :=
    ⟨i + 1, by rw [hi, Nat.add_assoc], by rw [hi', Nat.add_assoc]⟩
  rcases named with _ | _
  · exact { hkin with chain := hchain, nextHook := hnext }
  · refine { hkin with
      chain := hchain
      nextHook := hnext
      pushed := fun hreads => ?_
      untouched := fun x hx => ?_ }
    · exact List.rel_append (hkin.pushed hreads) (.cons hkin.next .nil)
    · rcases x with handle | - | -
      · exact hkin.untouched _ hx
      · exact absurd (hnamed rfl) hx
      · exact hkin.untouched _ hx

theorem Pairing.Kin.binding (hkin : k.Kin e e') {h : Hook} (hh : k.Admits h) :
    k.Kin (binding h e) (binding h e') := by
  have hinstalled : k.Kin (Engine.enlist false h e) (Engine.enlist false h e') :=
    hkin.enlist false hh (by simp)
  exact { hinstalled with own := .cons hkin.next hkin.own }

/-- The names that scripts had before correspond to each other. -/
theorem Pairing.Kin.unbound {e₁ e₁' : Engine} (h : k.Kin e e') (h₁ : k.Kin e₁ e₁') :
    k.Kin (unbound e e₁) (unbound e' e₁') :=
  { h₁ with own := h.own }

/-- A block under a hook, which starts with giving scripts the name of the hook, or does not. -/
theorem couples_withHook {h : Hook} (hh : k.Admits h) (named : Bool)
    (hnamed : named = true → k.writes .names) {block block' : HookId → Act α}
    (hb : ∀ e e', Shifted k.start.nextHook k.start'.nextHook e.nextHook e'.nextHook →
      k.Kin (enlist named h e) (enlist named h e') →
      Alike k.Kin (block e.nextHook (install h e).2) (block' e'.nextHook (install h e').2)) :
    k.Couples (withHook h block) (withHook h block') := by
  intro e e' hkin
  rw [withHook_eq, withHook_eq]
  rcases (hb e e' hkin.next (hkin.enlist named hh hnamed)).cases with
    ⟨a, e₁, e₁', ho, ho', hends⟩ | ⟨stop, e₁, e₁', ho, ho', hends⟩ <;> rw [ho, ho']
  · exact couples_bind (couples_release hkin.next) (fun _ => couples_pure a) _ _ hends
  · rcases stop with payload | _ | _ | _
    · exact ⟨rfl, hends.discard hkin.next⟩
    all_goals exact ⟨rfl, hends⟩

/-- A block that has a name for a hook. -/
theorem couples_letHook {h : Hook} (hh : k.Admits h) {block block' : Act α}
    (hb : k.Couples block block') : k.Couples (letHook h block) (letHook h block') := by
  intro e e' hkin
  rw [letHook_eq, letHook_eq]
  rcases (hb _ _ (hkin.binding hh)).cases with
    ⟨a, e₁, e₁', ho, ho', hends⟩ | ⟨stop, e₁, e₁', ho, ho', hends⟩ <;> rw [ho, ho']
  · exact ⟨rfl, hkin.unbound hends⟩
  · rcases stop with payload | _ | _ | _
    · exact ⟨rfl, hkin.unbound hends⟩
    all_goals exact ⟨rfl, hends⟩

/-- A query is answered in the same way if the engines agree on what it asks for. -/
theorem Pairing.Kin.holds_eq (h : k.Kin e e') {q : Query} {run otherwise : Script}
    (hq : k.Allows (.choose q run otherwise)) : e'.holds q = e.holds q := by
  rcases q with ⟨verbosity, colours⟩ | required | - | hooks | ⟨handle, amount⟩ | -
  · simp only [holds, h.settings (hq.reads _ rfl)]
  · simp only [holds, h.flags.1, h.flags.2, hq.flags required rfl]
  · exact h.isActive_eq
  · have hdepth : e'.depth = e.depth := h.chain.length_eq.symm
    simp only [holds, hdepth]
  · simp only [holds, h.counters handle (hq.reads _ rfl)]
  · exact h.unwinding

theorem couples_intercept : k.Couples intercept intercept := by
  refine couples_get_bind fun e e' h => ?_
  rw [h.subscriber]
  rcases e.subscriber with _ | _ | _
  · exact ⟨rfl, { h with subscriber := rfl }⟩
  · exact couples_violate _ _ _ h
  · exact couples_pure () _ _ h

/-! ### Diagnostics -/

theorem couples_bailOut (level : Option Level) (message : String) :
    k.Couples (bailOut level message : Act α) (bailOut level message) := by
  refine couples_bind (couples_note rfl) fun _ => couples_get_bind fun e e' h => ?_
  rw [h.debug]
  exact couples_ite (couples_throw _) (couples_throw _) _ _ h

theorem defaultAnswer_eq (d : Diagnostic) :
    defaultAnswer d = get >>= fun e =>
      if d.fatal then pure (if e.isActive then .abort d.plain else .bailOut)
      else printIf (fun console => isPrinted console.verbosity d.level)
        (fun console => d.format console.colours) >>= fun _ => pure .ignore := by
  funext e
  show (if d.fatal then _ else _ : Act Answer) e = (if d.fatal then _ else _ : Act Answer) e
  split
  · rfl
  · show (if isPrinted e.console.verbosity d.level then _ else _ : Act Answer) e = _
    split
    · rename_i hprinted
      refine Eq.symm ((bind_of_ok (?_ : printIf _ _ e = .ok () (printing d e))).trans rfl)
      show (if isPrinted e.console.verbosity d.level then _ else _ : Act Unit) e = _
      rw [if_pos hprinted]
      rfl
    · rename_i hprinted
      refine Eq.symm ((bind_of_ok (?_ : printIf _ _ e = .ok () e)).trans rfl)
      show (if isPrinted e.console.verbosity d.level then _ else _ : Act Unit) e = _
      rw [if_neg hprinted]
      rfl

theorem isPrinted_of_rank_le {v v' : Verbosity} (h : v.rank ≤ v'.rank) {level : Level}
    (hprinted : isPrinted v level = true) : isPrinted v' level = true := by
  revert h hprinted
  cases v <;> cases v' <;> cases level <;> decide

theorem couples_defaultAnswer (d : Diagnostic) :
    k.Couples (defaultAnswer d) (defaultAnswer d) := by
  rw [defaultAnswer_eq]
  refine couples_get_bind fun e e' h => ?_
  rw [h.isActive_eq]
  refine couples_ite (couples_pure _) ?_ _ _ h
  refine couples_bind (couples_printIf _ _ ?_ ?_) fun _ => couples_pure _
  · exact fun hmilder => isPrinted_of_rank_le hmilder.verbosity
  · exact fun hmilder => by rw [hmilder.colours]

/-- Suppressed messages are noted at the level of information. -/
theorem couples_noteSuppressed (d : Diagnostic) :
    k.Couples (noteSuppressed d) (noteSuppressed d) := by
  refine couples_printIf (fun console => isPrinted console.verbosity .info)
    (fun console => (Diagnostic.new engineDomain .info
      ("Suppressed message: " ++ d.format console.colours)).format console.colours) ?_ ?_
  · exact fun hmilder => isPrinted_of_rank_le hmilder.verbosity
  · exact fun hmilder => by rw [hmilder.colours]

theorem couples_announce (label : Option String) (d : Diagnostic) :
    k.Couples (announce label d) (announce label d) := by
  rcases label with - | label
  · exact couples_pure ()
  · exact couples_trace _ _

theorem couples_carryOut (d : Diagnostic) (answer : Answer) :
    k.Couples (carryOut d answer) (carryOut d answer) := by
  rcases answer with _ | _ | _ | message | _
  · exact couples_pure _
  · exact couples_pure _
  · exact couples_noteSuppressed d
  · exact couples_bind (couples_request _) fun active =>
      couples_ite (couples_bailOut _ _) (couples_pure _)
  · exact couples_bailOut _ _

/-! ### Unwinding -/

theorem Pairing.Kin.spawned (h : k.Kin e e') : k.Kin e.spawned e'.spawned := by
  obtain ⟨i, hi, hi'⟩ := h.nextThread
  have hthread : Shifted k.start.nextThread k.start'.nextThread e.nextThread e'.nextThread := by
    rw [hi, hi']
    exact .new i
  have hnext : ∃ i, e.nextThread + 1 = k.start.nextThread + i ∧
      e'.nextThread + 1 = k.start'.nextThread + i := ⟨i + 1, by omega, by omega⟩
  exact { h with thread := hthread, nextThread := hnext, unwinding := rfl }

theorem Pairing.Kin.unwound (h : k.Kin e e') (unwinding : Bool) :
    k.Kin { e with unwinding := unwinding } { e' with unwinding := unwinding } :=
  { h with unwinding := rfl }

theorem Pairing.Kin.resumed {e₁ e₁' : Engine} (h : k.Kin e e') (h₁ : k.Kin e₁ e₁') :
    k.Kin (resumed e e₁) (resumed e' e₁') :=
  { h₁ with thread := h.thread, unwinding := h.unwinding }

theorem couples_onThread {block block' : Act Unit} (hb : k.Couples block block') :
    k.Couples (onThread block) (onThread block') := by
  intro e e' h
  rw [onThread_eq, onThread_eq]
  rcases (hb _ _ h.spawned).cases with
    ⟨_, e₁, e₁', ho, ho', hends⟩ | ⟨stop, e₁, e₁', ho, ho', hends⟩ <;> rw [ho, ho']
  · exact ⟨rfl, h.resumed hends⟩
  · rcases stop with payload | _ | _ | _
    · exact ⟨rfl, h.resumed hends⟩
    all_goals exact ⟨rfl, hends⟩

theorem couples_catching {block block' : Act Unit} (hb : k.Couples block block') :
    k.Couples (catching block) (catching block') := by
  intro e e' h
  unfold catching
  rcases (hb e e' h).cases with
    ⟨_, e₁, e₁', ho, ho', hends⟩ | ⟨stop, e₁, e₁', ho, ho', hends⟩ <;> rw [ho, ho']
  · exact ⟨rfl, hends⟩
  · rcases stop with payload | _ | _ | _
    all_goals exact ⟨rfl, hends⟩

theorem couples_guarded {block block' cleanup cleanup' : Act Unit} (hb : k.Couples block block')
    (hc : k.Couples cleanup cleanup') :
    k.Couples (guarded block cleanup) (guarded block' cleanup') := by
  intro e e' h
  unfold guarded
  rcases (hb e e' h).cases with
    ⟨_, e₁, e₁', ho, ho', hends⟩ | ⟨stop, e₁, e₁', ho, ho', hends⟩ <;> rw [ho, ho']
  · exact hc _ _ hends
  · rcases stop with payload | _ | _ | _
    · dsimp only
      rcases (hc _ _ (hends.unwound true)).cases with
        ⟨_, e₂, e₂', hd, hd', hclean⟩ | ⟨stop, e₂, e₂', hd, hd', hclean⟩ <;> rw [hd, hd']
      · rw [hends.unwinding]
        exact ⟨rfl, hclean.unwound _⟩
      · rcases stop with _ | _ | _ | _
        · exact couples_bind (couples_note rfl) (fun _ => couples_throw .killed) _ _ hclean
        all_goals exact ⟨rfl, hclean⟩
    all_goals exact ⟨rfl, hends⟩

theorem Pairing.Kin.entered (h : k.Kin e e') : k.Kin e.entered e'.entered :=
  { h with context := .some ⟨h.thread, rfl⟩, echoes := h.echoes.noted rfl }

theorem Pairing.Kin.leave (h : k.Kin e e') : k.Kin e.leave e'.leave :=
  { h with context := .none, echoes := h.echoes.noted rfl }

theorem couples_execute {body body' : Act Unit} (hb : k.Couples body body') :
    k.Couples (execute body) (execute body') := by
  intro e e' h
  rcases h.context_cases with ⟨hc, hc'⟩ | ⟨c, c', hc, hc', -⟩
  · rw [execute_of_idle hc, execute_of_idle hc']
    rcases (hb _ _ h.entered).cases with
      ⟨_, e₁, e₁', ho, ho', hends⟩ | ⟨stop, e₁, e₁', ho, ho', hends⟩ <;> rw [ho, ho']
    · exact ⟨by rw [hends.pending_eq], hends.leave⟩
    · rcases stop with payload | _ | _ | _
      · unfold concluded
        dsimp only
        rw [hends.pending_eq]
        rcases verdictOn e₁.pending payload with - | v
        · exact ⟨rfl, hends.leave⟩
        · exact ⟨rfl, hends.leave⟩
      all_goals exact ⟨rfl, hends⟩
  · rw [execute_of_active hc, execute_of_active hc']
    exact couples_violate _ _ _ h

/-! ### Dispatching -/

variable {sub : Script → Act Unit}
  (hsub : ∀ s, Script.Within k.Allows s → k.Couples (sub s) (sub s))

include hsub

theorem couples_rule (d : Diagnostic) {rules : List (Rule Action)}
    (hrules : ∀ s ∈ rules.map Rule.run, Script.Within k.Allows s) :
    k.Couples (match rules.find? (·.isMatch d) with
      | none => pure .proceed
      | some rule => do
        sub rule.run
        pure rule.answer) (match rules.find? (·.isMatch d) with
      | none => pure .proceed
      | some rule => do
        sub rule.run
        pure rule.answer) := by
  split
  · exact couples_pure _
  · rename_i rule hrule
    have hrun := hrules rule.run (List.mem_map_of_mem (List.mem_of_find?_eq_some hrule))
    exact couples_bind (hsub _ hrun) fun _ => couples_pure _

theorem couples_askHook (d : Diagnostic) {h : Hook} (hh : k.Admits h) :
    k.Couples (askHook sub d h) (askHook sub d h) := by
  rcases h with policies | expectations | hook
  · exact couples_pure _
  · simp only [askHook]
    split
    · exact couples_pure _
    · rename_i expectation hfound
      have hwrites := hh expectation (List.mem_of_find?_eq_some hfound)
      exact couples_bind (couples_credit hwrites) fun _ => couples_pure _
  · have hrules := couples_rule hsub d hh
    unfold askHook
    exact couples_bind (couples_announce _ d) fun _ => hrules

theorem couples_askAll (d : Diagnostic) {is is' : List Installed}
    (h : List.Forall₂ k.Matches is is') : k.Couples (askAll sub d is) (askAll sub d is') := by
  induction h with
  | nil => exact couples_pure _
  | @cons i i' is is' hi _ ih =>
    refine couples_bind (couples_note rfl) fun _ => ?_
    rw [hi.hook]
    refine couples_bind (couples_askHook hsub d hi.admits) fun answer => ?_
    rcases answer with _ | _ | _ | _ | _
    · exact ih
    all_goals exact couples_pure _

theorem couples_dispatch (d : Diagnostic) : k.Couples (dispatch sub d) (dispatch sub d) := by
  have hend : ∀ answer, k.Couples (do note (.decided d answer); carryOut d answer)
      (do note (.decided d answer); carryOut d answer) := fun answer =>
    couples_bind (couples_note rfl) fun _ => couples_carryOut d answer
  refine couples_get_bind fun e e' h => ?_
  refine couples_bind (couples_askAll hsub d h.chain) (fun answer => ?_) e e' h
  rcases answer with _ | _ | _ | _ | _
  · exact couples_bind (couples_defaultAnswer d) hend
  all_goals exact couples_bind (couples_pure _) hend

theorem couples_log (event : LogEvent) : k.Couples (log sub event) (log sub event) := by
  refine couples_get_bind fun e e' h => ?_
  rw [h.subscriber]
  exact couples_ite (couples_dispatch hsub _) (couples_pure _) _ _ h

/-! ### Scripts -/

omit hsub in
theorem couples_tell (start : String) (payload : Option Payload) :
    k.Couples (tell start payload) (tell start payload) := by
  rcases payload with - | payload
  · exact couples_pure ()
  · exact couples_trace _ _

theorem couples_act {a : Action} (ha : k.Allows a)
    (hs : ∀ s ∈ a.scripts, Script.Within k.Allows s) : k.Couples (act sub a) (act sub a) := by
  have htrace : ∀ text text', k.Couples (trace text) (trace text') := couples_trace
  have hnested : ∀ s ∈ a.scripts, k.Couples (sub s) (sub s) := fun s hmem => hsub s (hs s hmem)
  rcases a with text | c | p | ⟨handle, count⟩ | handle | handle | ⟨file, line, message⟩ | v |
    message | payload | d | event | run | ⟨run, onDrop⟩ | run | run | ⟨q, run, otherwise⟩ | h |
    index | ⟨h, run⟩ | ⟨h, run⟩ | index | d | ⟨level, message⟩ | ⟨verbosity, colours⟩ | - | - | - |
    - | - | name
  · exact htrace _ _
  · exact couples_check c
  · exact couples_require ha
  · refine couples_bind (couples_collect (ha.reads _ rfl) (ha.writes _ rfl)) fun seen => ?_
    rcases seen with - | seen
    · exact htrace _ _
    · exact couples_ite (couples_pure ()) (couples_failAt _ _ _)
  · refine couples_bind (couples_collect (ha.reads _ rfl) (ha.writes _ rfl)) fun seen => ?_
    rcases seen with - | seen
    · exact htrace _ _
    · exact htrace _ _
  · refine couples_get_bind fun e e' h => ?_
    rw [h.counters handle (ha.reads _ rfl)]
    rcases e.counters[handle]? with - | seen
    · exact htrace _ _ _ _ h
    · exact htrace _ _ _ _ h
  · exact couples_failAt file line message
  · exact couples_raise v
  · exact couples_violate _
  · exact couples_unwind payload
  · exact couples_dispatch hsub d
  · exact couples_log hsub event
  · exact couples_bind (couples_onThread (hnested run (List.mem_singleton.mpr rfl))) fun payload =>
      couples_tell _ payload
  · exact couples_guarded (hnested run (by simp [Action.scripts]))
      (hnested onDrop (by simp [Action.scripts]))
  · exact couples_bind (couples_catching (hnested run (List.mem_singleton.mpr rfl))) fun payload =>
      couples_tell _ payload
  · exact couples_bind (couples_execute (hnested run (List.mem_singleton.mpr rfl))) fun _ =>
      htrace _ _
  · intro e e' hkin
    rw [act_choose, act_choose, hkin.holds_eq ha]
    refine hnested _ ?_ e e' hkin
    split
    · exact List.mem_cons_self ..
    · exact List.mem_cons_of_mem run (List.mem_singleton.mpr rfl)
  · exact fun e e' hkin =>
      ⟨rfl, hkin.enlist (h := .rules h) true hs fun _ => ha.writes .names rfl⟩
  · exact couples_get_bind fun e e' hkin =>
      couples_popNamed (rel_getElem? (hkin.pushed (ha.reads .names rfl)) index) e e' hkin
  · have hh : k.Admits (.rules h) := fun s hmem => hs s (List.mem_cons_of_mem run hmem)
    have hrun := hnested run (List.mem_cons_self ..)
    simp only [act]
    exact couples_withHook hh true (fun _ => ha.writes .names rfl) fun e e' _ henlist =>
      hrun _ _ henlist
  · have hh : k.Admits (.rules h) := fun s hmem => hs s (List.mem_cons_of_mem run hmem)
    exact couples_letHook hh (hnested run (List.mem_cons_self ..))
  · exact couples_get_bind fun e e' hkin =>
      couples_popNamed (rel_getElem? hkin.own index) e e' hkin
  · exact couples_bind (couples_defaultAnswer d) fun _ => htrace _ _
  · exact couples_bailOut level message
  · have hwrites := ha.writes .console rfl
    refine fun e e' h => ⟨rfl, { h with
      console := fun _ => .refl _
      settings := fun _ => rfl
      untouched := fun x hx => ?_ }⟩
    rcases x with handle | - | -
    · exact h.untouched _ hx
    · exact h.untouched _ hx
    · exact absurd hwrites hx
  · exact couples_get_bind fun _ _ h => htrace _ _ _ _ h
  · exact couples_get_bind fun _ _ h => htrace _ _ _ _ h
  · exact couples_get_bind fun _ _ h => htrace _ _ _ _ h
  · exact couples_get_bind fun _ _ h => htrace _ _ _ _ h
  · exact couples_intercept
  · exact htrace _ _

omit hsub

theorem couples_performWithin (n : Nat) {script : Script} (hs : Script.Within k.Allows script) :
    k.Couples (performWithin n script) (performWithin n script) := by
  induction n generalizing script with
  | zero => exact couples_throw _
  | succ n ih =>
    induction script with
    | nil => exact couples_pure ()
    | cons a script ihs =>
      have hrest : Script.Within k.Allows script := by
        intro b hb
        cases hb with
        | here hmem => exact hs b (.here (List.mem_cons_of_mem a hmem))
        | inside hmem hin hhas => exact hs b (.inside (List.mem_cons_of_mem a hmem) hin hhas)
      have hnested : ∀ s ∈ a.scripts, Script.Within k.Allows s :=
        fun s hmem b hb => hs b (.inside (List.mem_cons_self ..) hmem hb)
      exact couples_bind (couples_act (fun s => ih) (hs a (.here (List.mem_cons_self ..))) hnested)
        fun _ => ihs hrest

/-- A script does the same to engines that are kin. -/
theorem couples_perform {script : Script} (hs : Script.Within k.Allows script) :
    k.Couples (perform script) (perform script) :=
  couples_performWithin depthLimit hs

end Couples

end Engine

end TestEngine
