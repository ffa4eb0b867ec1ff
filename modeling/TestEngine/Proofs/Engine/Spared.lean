/-
TestEngine/Proofs/Engine/Spared.lean

Tests without the tests that they attempt.  A test within a test is refused with a violation.
If the body catches it, the attempt makes no difference to how the test ends: without it, the
body ends in the same way, and the test with the same verdict (`alike_execute`).

The two bodies, one with such attempts and one that is spared them (`Script.Spares`), are carried
out in lockstep.  They go through states that differ in nothing but the journal, and in what the
hooks that they have pushed themselves attempt (`Twins`).  The only point where the one unwinds
and the other does not is the attempt itself, and the block of which it is the end catches that.
-/
import Mathlib.Data.List.Forall2
import TestEngine.Proofs.Engine.Extent

namespace TestEngine

/-! ### Sparing attempts -/

mutual

/-- The second action is the first one without some of the tests attempted and caught in it. -/
inductive Action.Spares : Action → Action → Prop
  | refl (a : Action) : Action.Spares a a
  | thread {run run' : Script} (h : Script.Curtails run run') :
      Action.Spares (.thread run) (.thread run')
  | guarded {run run' onDrop onDrop' : Script} (hrun : Script.Spares run run')
      (hdrop : Script.Spares onDrop onDrop') :
      Action.Spares (.guarded run onDrop) (.guarded run' onDrop')
  | caught {run run' : Script} (h : Script.Curtails run run') :
      Action.Spares (.catch run) (.catch run')
  | execute {run run' : Script} (h : Script.Spares run run') :
      Action.Spares (.execute run) (.execute run')
  | pushHook {label : Option String} {rules rules' : List (Rule Action)} (h : Rule.Spares rules rules') :
      Action.Spares (.pushHook ⟨label, rules⟩) (.pushHook ⟨label, rules'⟩)
  | withHook {label : Option String} {rules rules' : List (Rule Action)} {run run' : Script}
      (hrules : Rule.Spares rules rules') (hrun : Script.Spares run run') :
      Action.Spares (.withHook ⟨label, rules⟩ run) (.withHook ⟨label, rules'⟩ run')
  | letHook {label : Option String} {rules rules' : List (Rule Action)} {run run' : Script}
      (hrules : Rule.Spares rules rules') (hrun : Script.Spares run run') :
      Action.Spares (.letHook ⟨label, rules⟩ run) (.letHook ⟨label, rules'⟩ run')
  | choose {q : Query} {run run' otherwise otherwise' : Script} (hrun : Script.Spares run run')
      (hotherwise : Script.Spares otherwise otherwise') :
      Action.Spares (.choose q run otherwise) (.choose q run' otherwise')

/-- The second script is the first one without some of the tests attempted and caught in it. -/
inductive Script.Spares : Script → Script → Prop
  | nil : Script.Spares [] []
  | cons {a a' : Action} {script script' : Script} (ha : Action.Spares a a')
      (h : Script.Spares script script') : Script.Spares (a :: script) (a' :: script')

/-- The second block is the first one, the unwinding of which is caught, perhaps without a test
attempted right in it.  What would come after the attempt is never carried out. -/
inductive Script.Curtails : Script → Script → Prop
  | whole {run run' : Script} (h : Script.Spares run run') : Script.Curtails run run'
  | cut {run run' inner rest : Script} (h : Script.Spares run run') :
      Script.Curtails (run ++ .execute inner :: rest) run'

/-- The rules of hooks that differ in what they run. -/
inductive Rule.Spares : List (Rule Action) → List (Rule Action) → Prop
  | nil : Rule.Spares [] []
  | cons {domain : Option String} {levels : Option LevelSet} {fragment : Option String}
      {answer : Answer} {run run' : Script} {rules rules' : List (Rule Action)}
      (hrun : Script.Spares run run') (h : Rule.Spares rules rules') :
      Rule.Spares (⟨domain, levels, fragment, run, answer⟩ :: rules)
        (⟨domain, levels, fragment, run', answer⟩ :: rules')

end

theorem Script.spares_refl (script : Script) : Script.Spares script script := by
  induction script with
  | nil => exact .nil
  | cons a script ih => exact .cons (.refl a) ih

theorem Rule.spares_refl (rules : List (Rule Action)) : Rule.Spares rules rules := by
  induction rules with
  | nil => exact .nil
  | cons rule rules ih => exact .cons (Script.spares_refl _) ih

/-- The first rules that match correspond to each other. -/
theorem Rule.Spares.find?_eq {rules rules' : List (Rule Action)} (h : Rule.Spares rules rules')
    (d : Diagnostic) :
    rules.find? (·.isMatch d) = none ∧ rules'.find? (·.isMatch d) = none ∨
      ∃ rule rule', rules.find? (·.isMatch d) = some rule ∧ rules'.find? (·.isMatch d) = some rule' ∧
        rule'.answer = rule.answer ∧ Script.Spares rule.run rule'.run := by
  induction rules generalizing rules' with
  | nil =>
    cases h
    exact .inl ⟨rfl, rfl⟩
  | cons rule rules ih =>
    cases h with
    | @cons domain levels fragment answer run run' _ rules' hrun h =>
      have hsame : Rule.isMatch ⟨domain, levels, fragment, run', answer⟩ d =
          Rule.isMatch ⟨domain, levels, fragment, run, answer⟩ d := rfl
      rw [List.find?_cons, List.find?_cons, hsame]
      split
      · exact .inr ⟨_, _, rfl, rfl, rfl, hrun⟩
      · exact ih h

/-- A hook that runs the same, but for tests that it attempts. -/
inductive Hook.Spares : Hook → Hook → Prop
  | refl (h : Hook) : Hook.Spares h h
  | rules {label : Option String} {rules rules' : List (Rule Action)} (h : Rule.Spares rules rules') :
      Hook.Spares (.rules ⟨label, rules⟩) (.rules ⟨label, rules'⟩)

namespace Engine

/-! ### Twins -/

/-- A hook under the same number that runs the same, but for tests that it attempts. -/
def Replaces (i i' : Installed) : Prop := i'.id = i.id ∧ Hook.Spares i.hook i'.hook

/-- States that differ in the journal, and in what hooks attempt. -/
def Resembles (e e' : Engine) : Prop :=
  ∃ chain journal, List.Forall₂ Replaces e.chain chain ∧
    e' = { e with chain := chain, journal := journal }

/-- Such states, with a test running in both. -/
def Twins (e e' : Engine) : Prop := e.isActive = true ∧ Resembles e e'

/-- Effects end in the same way, and in states that correspond to each other. -/
def Alike {α : Type} (R : Engine → Engine → Prop) :
    EStateM.Result Stop Engine α → EStateM.Result Stop Engine α → Prop
  | .ok a e, .ok a' e' => a' = a ∧ R e e'
  | .error stop e, .error stop' e' => stop' = stop ∧ R e e'
  | _, _ => False

/-- The two effects are in lockstep while a test is running. -/
def Tracks {α : Type} (x x' : Act α) : Prop := ∀ e e', Twins e e' → Alike Twins (x e) (x' e')

theorem Alike.cases {α : Type} {R : Engine → Engine → Prop} {o o' : EStateM.Result Stop Engine α}
    (h : Alike R o o') : (∃ a e e', o = .ok a e ∧ o' = .ok a e' ∧ R e e') ∨
      ∃ stop e e', o = .error stop e ∧ o' = .error stop e' ∧ R e e' := by
  rcases o with ⟨a, e⟩ | ⟨stop, e⟩ <;> rcases o' with ⟨a', e'⟩ | ⟨stop', e'⟩
  · obtain ⟨rfl, hends⟩ := h
    exact .inl ⟨_, e, e', rfl, rfl, hends⟩
  · exact h.elim
  · exact h.elim
  · obtain ⟨rfl, hends⟩ := h
    exact .inr ⟨_, e, e', rfl, rfl, hends⟩

theorem Alike.valueOf_eq {α : Type} {R : Engine → Engine → Prop}
    {o o' : EStateM.Result Stop Engine α} (h : Alike R o o') : valueOf o = valueOf o' := by
  rcases h.cases with ⟨a, _, _, rfl, rfl, -⟩ | ⟨stop, _, _, rfl, rfl, -⟩
  · rfl
  · rfl

theorem resembles_refl (e : Engine) : Resembles e e :=
  ⟨e.chain, e.journal, List.forall₂_same.mpr fun _ _ => ⟨rfl, .refl _⟩, rfl⟩

section Tracks

variable {α β : Type} {e e' : Engine}

/-! ### Sequences -/

theorem Alike.bind {R : Engine → Engine → Prop} {x x' : Act α} {f f' : α → Act β}
    (hx : Alike R (x e) (x' e')) (hf : ∀ a e₁ e₁', R e₁ e₁' → Alike R (f a e₁) (f' a e₁')) :
    Alike R ((x >>= f) e) ((x' >>= f') e') := by
  rcases hx.cases with ⟨a, e₁, e₁', ho, ho', hends⟩ | ⟨stop, e₁, e₁', ho, ho', hends⟩
  · rw [bind_of_ok ho, bind_of_ok ho']
    exact hf a e₁ e₁' hends
  · rw [bind_of_error ho, bind_of_error ho']
    exact ⟨rfl, hends⟩

theorem tracks_bind {x x' : Act α} {f f' : α → Act β} (hx : Tracks x x')
    (hf : ∀ a, Tracks (f a) (f' a)) : Tracks (x >>= f) (x' >>= f') :=
  fun e e' h => (hx e e' h).bind hf

theorem tracks_pure (a : α) : Tracks (pure a) (pure a) := fun _ _ h => ⟨rfl, h⟩

theorem tracks_throw (stop : Stop) : Tracks (throw stop : Act α) (throw stop) :=
  fun _ _ h => ⟨rfl, h⟩

theorem tracks_unwind (payload : Payload) : Tracks (unwind payload : Act α) (unwind payload) :=
  tracks_throw _

/-- The part of an effect after reading the state may make use of the state read. -/
theorem tracks_get_bind {f f' : Engine → Act α}
    (hf : ∀ (e : Engine) (chain : List Installed) (journal : List Entry),
      let e' := { e with chain := chain, journal := journal }
      Twins e e' → Alike Twins (f e e) (f' e' e')) : Tracks (get >>= f) (get >>= f') := by
  rintro e _ ⟨hactive, chain, journal, hchain, rfl⟩
  exact hf e chain journal ⟨hactive, chain, journal, hchain, rfl⟩

theorem tracks_ite {c : Prop} [Decidable c] {x x' y y' : Act α} (hx : Tracks x x')
    (hy : Tracks y y') : Tracks (if c then x else y) (if c then x' else y') := by
  split
  · exact hx
  · exact hy

theorem Twins.chain {chain : List Installed} {journal : List Entry}
    (h : Twins e { e with chain := chain, journal := journal }) :
    List.Forall₂ Replaces e.chain chain := by
  obtain ⟨-, _, _, hchain, hsame⟩ := h
  cases hsame
  exact hchain

/-- The queries of scripts are answered in the same way. -/
theorem Twins.holds_eq (h : Twins e e') (q : Query) : e'.holds q = e.holds q := by
  obtain ⟨-, chain, journal, hchain, rfl⟩ := h
  have hdepth : chain.length = e.chain.length := hchain.length_eq.symm
  rcases q with ⟨verbosity, colours⟩ | required | - | hooks | ⟨handle, amount⟩ | -
  case depth => exact congrArg (· == hooks) hdepth
  all_goals rfl

/-- What is noted makes no difference. -/
theorem Twins.noted (h : Twins e e') (journal journal' : List Entry) :
    Twins { e with journal := journal } { e' with journal := journal' } := by
  obtain ⟨hactive, chain, _, hchain, rfl⟩ := h
  exact ⟨hactive, chain, journal', hchain, rfl⟩

theorem tracks_note (x x' : Entry) : Tracks (note x) (note x') := fun _ _ h => ⟨rfl, h.noted _ _⟩

theorem tracks_trace (text text' : String) : Tracks (trace text) (trace text') := tracks_note _ _

theorem tracks_violate (v : Violation) : Tracks (violate v : Act α) (violate v) :=
  tracks_bind (tracks_note _ _) fun _ => tracks_unwind _

theorem tracks_printDiagnostic (text text' : String) :
    Tracks (printDiagnostic text) (printDiagnostic text') :=
  tracks_get_bind fun _ _ _ h => tracks_note _ _ _ _ h

theorem tracks_credit (counter : Nat) : Tracks (credit counter) (credit counter) := by
  rintro _ _ ⟨hactive, chain, journal, hchain, rfl⟩
  exact ⟨rfl, hactive, chain, _, hchain, rfl⟩

theorem tracks_collect (counter : Nat) : Tracks (collect counter) (collect counter) := by
  refine tracks_get_bind fun e chain journal h => ?_
  dsimp only
  rcases e.counters[counter]? with - | amount
  · exact tracks_pure none _ _ h
  · exact ⟨rfl, h.1, chain, _, h.chain, rfl⟩

/-! ### Outcomes -/

theorem tracks_record (v : Verdict) : Tracks (record v) (record v) := by
  rintro e _ ⟨hactive, chain, journal, hchain, rfl⟩
  obtain ⟨c, hc⟩ := Option.isSome_iff_exists.mp hactive
  rw [record_of_active hc, record_of_active (e := { e with chain := chain, journal := journal }) hc]
  exact ⟨rfl, rfl, chain, _, hchain, rfl⟩

theorem tracks_raise (v : Verdict) : Tracks (raise v : Act α) (raise v) := by
  refine tracks_bind (tracks_record v) fun owner => ?_
  rcases owner with - | owner
  · exact tracks_violate _
  · exact tracks_unwind _

theorem tracks_request (v : Verdict) : Tracks (request v) (request v) := by
  refine tracks_bind (tracks_record v) fun owner => ?_
  rcases owner with - | owner
  · exact tracks_pure _
  · exact tracks_get_bind fun _ _ _ h => tracks_ite (tracks_unwind _) (tracks_pure _) _ _ h

theorem tracks_failAt (file : String) (line : Nat) (message : String) :
    Tracks (failAt file line message : Act α) (failAt file line message) := by
  refine tracks_get_bind fun _ _ _ h => ?_
  exact tracks_ite (tracks_bind (tracks_note _ _) fun _ => tracks_throw _) (tracks_raise _) _ _ h

theorem tracks_check (c : Check) : Tracks (check c) (check c) := by
  unfold check
  rcases c.failure? with - | message
  · exact tracks_pure ()
  · exact tracks_failAt _ _ _

theorem tracks_require (p : Prerequisite) : Tracks (require p) (require p) := by
  refine tracks_get_bind fun e _ _ h => ?_
  dsimp only
  rcases p.refusal? e.flags with - | message
  · exact tracks_pure () _ _ h
  · exact tracks_raise _ _ _ h

/-! ### The chain of hooks -/

theorem tracks_pop (id : HookId) : Tracks (pop id) (pop id) := by
  refine tracks_get_bind fun e chain journal htwins => ?_
  have hchain := htwins.chain
  dsimp only
  rcases hc : e.chain with - | ⟨newest, older⟩ <;> rw [hc] at hchain <;> cases hchain
  · exact tracks_violate _ _ _ htwins
  · rename_i newest' older' hnewest holder
    dsimp only
    rw [hnewest.1]
    split
    · exact ⟨rfl, htwins.1, older', journal, holder, rfl⟩
    · exact tracks_violate _ _ _ htwins

theorem replaces_filter {is is' : List Installed} (h : List.Forall₂ Replaces is is') (id : HookId) :
    List.Forall₂ Replaces (is.filter fun i => i.id != id) (is'.filter fun i => i.id != id) := by
  induction h with
  | nil => exact .nil
  | cons hi _ ih =>
    rw [List.filter_cons, List.filter_cons, hi.1]
    split
    · exact .cons hi ih
    · exact ih

theorem Twins.discard (id : HookId) (h : Twins e e') : Twins (discard id e) (discard id e') := by
  obtain ⟨hactive, chain, journal, hchain, rfl⟩ := h
  exact ⟨hactive, _, journal, replaces_filter hchain id, rfl⟩

theorem tracks_release (id : HookId) : Tracks (release id) (release id) := by
  refine tracks_get_bind fun e chain journal h => ?_
  dsimp only
  split
  · exact ⟨rfl, h.discard id⟩
  · exact tracks_pop id _ _ h

theorem Twins.enlist {h h' : Hook} (hh : Hook.Spares h h') (htwins : Twins e e') (named : Bool) :
    Twins (enlist named h e) (enlist named h' e') := by
  obtain ⟨hactive, chain, journal, hchain, rfl⟩ := htwins
  have hchain' : List.Forall₂ Replaces (⟨e.nextHook, h⟩ :: e.chain) (⟨e.nextHook, h'⟩ :: chain) :=
    .cons ⟨rfl, hh⟩ hchain
  rcases named with _ | _
  · exact ⟨hactive, _, journal, hchain', rfl⟩
  · exact ⟨hactive, _, journal, hchain', rfl⟩

/-- A block under a hook, which starts with giving scripts the name of the hook. -/
theorem tracks_withHook {h h' : Hook} {block block' : HookId → Act α}
    (hb : ∀ e e', Twins e e' → Alike Twins (block e.nextHook (install h e).2)
      (block' e'.nextHook (install h' e').2)) : Tracks (withHook h block) (withHook h' block') := by
  intro e e' htwins
  have hnext : e'.nextHook = e.nextHook := by
    obtain ⟨-, chain, journal, -, rfl⟩ := htwins
    rfl
  rw [withHook_eq, withHook_eq]
  rcases (hb e e' htwins).cases with ⟨a, e₁, e₁', ho, ho', hends⟩ | ⟨stop, e₁, e₁', ho, ho', hends⟩
  · rw [ho, ho', hnext]
    exact tracks_bind (tracks_release _) (fun _ => tracks_pure a) _ _ hends
  · rw [ho, ho', hnext]
    rcases stop with payload | _ | _ | _
    · exact ⟨rfl, hends.discard _⟩
    all_goals exact ⟨rfl, hends⟩

/-- If a script can name no such hook, that is traced. -/
theorem tracks_popNamed (name : Option HookId) : Tracks (popNamed name) (popNamed name) := by
  rcases name with - | id
  · exact tracks_trace _ _
  · exact tracks_pop id

theorem Twins.binding {h h' : Hook} (hh : Hook.Spares h h') (htwins : Twins e e') :
    Twins (binding h e) (binding h' e') := by
  obtain ⟨hactive, chain, journal, hchain, rfl⟩ := htwins
  have hchain' : List.Forall₂ Replaces (⟨e.nextHook, h⟩ :: e.chain) (⟨e.nextHook, h'⟩ :: chain) :=
    .cons ⟨rfl, hh⟩ hchain
  exact ⟨hactive, _, journal, hchain', rfl⟩

theorem Twins.unbound {e₁ e₁' : Engine} (h : Twins e e') (h₁ : Twins e₁ e₁') :
    Twins (unbound e e₁) (unbound e' e₁') := by
  obtain ⟨-, chain, journal, -, rfl⟩ := h
  obtain ⟨hactive, chain₁, journal₁, hchain, rfl⟩ := h₁
  exact ⟨hactive, chain₁, journal₁, hchain, rfl⟩

/-- A block that has a name for a hook. -/
theorem tracks_letHook {h h' : Hook} {block block' : Act α} (hh : Hook.Spares h h')
    (hb : Tracks block block') : Tracks (letHook h block) (letHook h' block') := by
  intro e e' htwins
  rw [letHook_eq, letHook_eq]
  rcases (hb _ _ (htwins.binding hh)).cases with
    ⟨a, e₁, e₁', ho, ho', hends⟩ | ⟨stop, e₁, e₁', ho, ho', hends⟩ <;> rw [ho, ho']
  · exact ⟨rfl, htwins.unbound hends⟩
  · rcases stop with payload | _ | _ | _
    · exact ⟨rfl, htwins.unbound hends⟩
    all_goals exact ⟨rfl, hends⟩

theorem tracks_intercept : Tracks intercept intercept := by
  refine tracks_get_bind fun e chain journal h => ?_
  dsimp only
  rcases hs : e.subscriber with _ | _ | _
  · exact ⟨rfl, h.1, chain, journal, h.chain, rfl⟩
  · rw [hs] at h
    exact tracks_violate _ _ _ h
  · rw [hs] at h
    exact tracks_pure () _ _ h

/-! ### Diagnostics -/

theorem tracks_bailOut (level : Option Level) (message : String) :
    Tracks (bailOut level message : Act α) (bailOut level message) := by
  refine tracks_bind (tracks_note _ _) fun _ => ?_
  exact tracks_get_bind fun _ _ _ h => tracks_ite (tracks_throw _) (tracks_throw _) _ _ h

theorem tracks_defaultAnswer (d : Diagnostic) : Tracks (defaultAnswer d) (defaultAnswer d) := by
  refine tracks_get_bind fun _ _ _ h => tracks_ite (tracks_pure _) ?_ _ _ h
  exact tracks_ite (tracks_bind (tracks_printDiagnostic _ _) fun _ => tracks_pure _) (tracks_pure _)

theorem tracks_noteSuppressed (d : Diagnostic) : Tracks (noteSuppressed d) (noteSuppressed d) :=
  tracks_get_bind fun _ _ _ h => tracks_ite (tracks_printDiagnostic _ _) (tracks_pure _) _ _ h

theorem tracks_announce (label : Option String) (d : Diagnostic) :
    Tracks (announce label d) (announce label d) := by
  rcases label with - | label
  · exact tracks_pure ()
  · exact tracks_trace _ _

theorem tracks_carryOut (d : Diagnostic) (answer : Answer) :
    Tracks (carryOut d answer) (carryOut d answer) := by
  rcases answer with _ | _ | _ | message | _
  · exact tracks_pure _
  · exact tracks_pure _
  · exact tracks_noteSuppressed d
  · exact tracks_bind (tracks_request _) fun active => tracks_ite (tracks_bailOut _ _) (tracks_pure _)
  · exact tracks_bailOut _ _

variable {sub : Script → Act Unit}
  (hsub : ∀ {s s' : Script}, Script.Spares s s' → Tracks (sub s) (sub s'))

include hsub

theorem tracks_askHook (d : Diagnostic) {h h' : Hook} (hh : Hook.Spares h h') :
    Tracks (askHook sub d h) (askHook sub d h') := by
  have hrules : ∀ {label rules rules'}, Rule.Spares rules rules' →
      Tracks (askHook sub d (.rules ⟨label, rules⟩)) (askHook sub d (.rules ⟨label, rules'⟩)) := by
    intro label rules rules' h
    simp only [askHook]
    refine tracks_bind (tracks_announce label d) fun _ => ?_
    rcases h.find?_eq d with ⟨hnone, hnone'⟩ | ⟨rule, rule', hsome, hsome', hanswer, hrun⟩
    · rw [hnone, hnone']
      exact tracks_pure _
    · rw [hsome, hsome']
      dsimp only
      rw [hanswer]
      exact tracks_bind (hsub hrun) fun _ => tracks_pure rule.answer
  cases hh with
  | refl =>
    rcases h with policies | expectations | ⟨label, rules⟩
    · exact tracks_pure _
    · simp only [askHook]
      split
      · exact tracks_pure _
      · exact tracks_bind (tracks_credit _) fun _ => tracks_pure _
    · exact hrules (Rule.spares_refl _)
  | rules h => exact hrules h

theorem tracks_askAll (d : Diagnostic) {is is' : List Installed} (h : List.Forall₂ Replaces is is') :
    Tracks (askAll sub d is) (askAll sub d is') := by
  induction h with
  | nil => exact tracks_pure _
  | cons hi _ ih =>
    refine tracks_bind (tracks_note _ _) fun _ =>
      tracks_bind (tracks_askHook hsub d hi.2) fun answer => ?_
    rcases answer with _ | _ | _ | _ | _
    · exact ih
    all_goals exact tracks_pure _

theorem tracks_dispatch (d : Diagnostic) : Tracks (dispatch sub d) (dispatch sub d) := by
  rintro e _ ⟨hactive, chain, journal, hchain, rfl⟩
  have hend : ∀ answer, Tracks (do note (.decided d answer); carryOut d answer)
      (do note (.decided d answer); carryOut d answer) := fun answer =>
    tracks_bind (tracks_note _ _) fun _ => tracks_carryOut d answer
  have hasked := tracks_askAll hsub d hchain _ _ ⟨hactive, chain, journal, hchain, rfl⟩
  refine hasked.bind fun answer => ?_
  rcases answer with _ | _ | _ | _ | _
  · exact tracks_bind (tracks_defaultAnswer d) hend
  all_goals exact tracks_bind (tracks_pure _) hend

theorem tracks_log (event : LogEvent) : Tracks (log sub event) (log sub event) :=
  tracks_get_bind fun _ _ _ h => tracks_ite (tracks_dispatch hsub _) (tracks_pure _) _ _ h

/-! ### Unwinding -/

omit hsub

theorem Twins.unwinding_eq (h : Twins e e') : e'.unwinding = e.unwinding := by
  obtain ⟨-, chain, journal, -, rfl⟩ := h
  rfl

theorem Twins.unwound (h : Twins e e') (unwinding : Bool) :
    Twins { e with unwinding := unwinding } { e' with unwinding := unwinding } := by
  obtain ⟨hactive, chain, journal, hchain, rfl⟩ := h
  exact ⟨hactive, chain, journal, hchain, rfl⟩

theorem Twins.spawned (h : Twins e e') : Twins e.spawned e'.spawned := by
  obtain ⟨hactive, chain, journal, hchain, rfl⟩ := h
  exact ⟨hactive, chain, journal, hchain, rfl⟩

theorem Twins.resumed {e₁ e₁' : Engine} (h : Twins e e') (h₁ : Twins e₁ e₁') :
    Twins (resumed e e₁) (resumed e' e₁') := by
  obtain ⟨-, chain, journal, -, rfl⟩ := h
  obtain ⟨hactive, chain₁, journal₁, hchain, rfl⟩ := h₁
  exact ⟨hactive, chain₁, journal₁, hchain, rfl⟩

theorem tracks_guarded {block block' cleanup cleanup' : Act Unit} (hb : Tracks block block')
    (hc : Tracks cleanup cleanup') : Tracks (guarded block cleanup) (guarded block' cleanup') := by
  intro e e' h
  unfold guarded
  rcases (hb e e' h).cases with ⟨_, e₁, e₁', ho, ho', hends⟩ | ⟨stop, e₁, e₁', ho, ho', hends⟩ <;>
    rw [ho, ho']
  · exact hc _ _ hends
  · rcases stop with payload | _ | _ | _
    · dsimp only
      rcases (hc _ _ (hends.unwound true)).cases with
        ⟨_, e₂, e₂', hd, hd', hclean⟩ | ⟨stop, e₂, e₂', hd, hd', hclean⟩ <;> rw [hd, hd']
      · refine ⟨rfl, ?_⟩
        rw [hends.unwinding_eq]
        exact hclean.unwound _
      · rcases stop with _ | _ | _ | _
        · exact tracks_bind (tracks_note _ _) (fun _ => tracks_throw .killed) _ _ hclean
        all_goals exact ⟨rfl, hclean⟩
    all_goals exact ⟨rfl, hends⟩

/-- Blocks end in the same way, or the first one has come to a test that it attempts. -/
def Relieved (o o' : EStateM.Result Stop Engine Unit) : Prop :=
  Alike Twins o o' ∨ ∃ e₁ e₁', Twins e₁ e₁' ∧
    o = .error (.unwound (.violation .alreadyActive)) e₁ ∧ o' = .ok () e₁'

/-- What is made of the way in which a block ends where unwinding ends. -/
def bounded (back : Engine → Engine) :
    EStateM.Result Stop Engine Unit → EStateM.Result Stop Engine (Option Payload)
  | .ok _ e => .ok none (back e)
  | .error (.unwound payload) e => .ok (some payload) (back e)
  | .error stop e => .error stop e

/-- Trace what a block has unwound with. -/
def tell (start : String) : Option Payload → Act Unit
  | none => pure ()
  | some payload => trace (start ++ payload.message)

theorem tracks_tell (start : String) (payload payload' : Option Payload) :
    Tracks (tell start payload) (tell start payload') := by
  intro e e' h
  rcases payload with - | payload <;> rcases payload' with - | payload'
  · exact ⟨rfl, h⟩
  · exact ⟨rfl, h.noted _ _⟩
  · exact ⟨rfl, h.noted _ _⟩
  · exact ⟨rfl, h.noted _ _⟩

/-- Where unwinding ends, the difference between the blocks ends, too. -/
theorem Relieved.alike {o o' : EStateM.Result Stop Engine Unit} (h : Relieved o o')
    {back back' : Engine → Engine} (hback : ∀ e₁ e₁', Twins e₁ e₁' → Twins (back e₁) (back' e₁'))
    {x x' : Act (Option Payload)} (hx : x e = bounded back o) (hx' : x' e' = bounded back' o')
    (start : String) : Alike Twins ((x >>= tell start) e) ((x' >>= tell start) e') := by
  have hends : ∀ {payload payload' e₁ e₁'}, x e = .ok payload (back e₁) →
      x' e' = .ok payload' (back' e₁') → Twins e₁ e₁' →
      Alike Twins ((x >>= tell start) e) ((x' >>= tell start) e') := by
    intro payload payload' e₁ e₁' hok hok' htwins
    rw [bind_of_ok hok, bind_of_ok hok']
    exact tracks_tell start payload payload' _ _ (hback _ _ htwins)
  rcases h with h | ⟨e₁, e₁', htwins, rfl, rfl⟩
  · rcases h.cases with ⟨_, e₁, e₁', rfl, rfl, htwins⟩ | ⟨stop, e₁, e₁', rfl, rfl, htwins⟩
    · exact hends hx hx' htwins
    · rcases stop with payload | _ | _ | _
      · exact hends hx hx' htwins
      all_goals
        rw [bind_of_error hx, bind_of_error hx']
        exact ⟨rfl, htwins⟩
  · exact hends hx hx' htwins

variable {block block' : Act Unit} (hb : ∀ e e', Twins e e' → Relieved (block e) (block' e'))

include hb

theorem tracks_catching (start : String) :
    Tracks (catching block >>= tell start) (catching block' >>= tell start) := by
  intro e e' h
  have hback : ∀ e₁ e₁', Twins e₁ e₁' → Twins (id e₁) (id e₁') := fun _ _ h => h
  exact (hb e e' h).alike hback rfl rfl start

theorem tracks_onThread (start : String) :
    Tracks (onThread block >>= tell start) (onThread block' >>= tell start) :=
  fun _ _ h => (hb _ _ h.spawned).alike (fun _ _ => h.resumed) rfl rfl start

end Tracks

/-! ### Scripts -/

section Scripts

variable {n : Nat}

theorem performWithin_append (n : Nat) (script rest : Script) :
    performWithin n (script ++ rest) =
      performWithin n script >>= fun _ => performWithin n rest := by
  rcases n with - | n
  · rfl
  · induction script with
    | nil => rfl
    | cons a script ih =>
      rw [List.cons_append, performWithin_cons, performWithin_cons, ih, bind_assoc]

/-- While a test is running, all others are refused. -/
theorem tracks_execute (body body' : Act Unit) : Tracks (execute body) (execute body') := by
  intro e e' h
  have hactive : e'.isActive = true := by
    obtain ⟨hactive, chain, journal, -, rfl⟩ := h
    exact hactive
  rw [execute_of_isActive h.1, execute_of_isActive hactive]
  exact ⟨rfl, h.noted _ _⟩

/-- A block that is cut short of a test it attempts. -/
theorem relieved_of_curtails
    (hsub : ∀ {s s' : Script}, Script.Spares s s' → Tracks (performWithin n s) (performWithin n s'))
    {run run' : Script} (h : Script.Curtails run run') (e e' : Engine) (htwins : Twins e e') :
    Relieved (performWithin n run e) (performWithin n run' e') := by
  cases h with
  | whole h => exact .inl (hsub h e e' htwins)
  | @cut run _ inner rest h =>
    rw [performWithin_append]
    rcases (hsub h e e' htwins).cases with
      ⟨_, e₁, e₁', ho, ho', hends⟩ | ⟨stop, e₁, e₁', ho, ho', hends⟩
    · rw [bind_of_ok ho, ho']
      rcases n with - | n
      · nomatch ho
      · have hattempt : performWithin (n + 1) (.execute inner :: rest) e₁ =
            .error (.unwound (.violation .alreadyActive)) (complaining .alreadyActive e₁) := by
          rw [performWithin_cons]
          exact bind_of_error (bind_of_error (execute_of_isActive hends.1))
        exact .inr ⟨_, e₁', hends.noted _ e₁'.journal, hattempt, rfl⟩
    · rw [bind_of_error ho, ho']
      exact .inl ⟨rfl, hends⟩

theorem tracks_act
    (hsub : ∀ {s s' : Script}, Script.Spares s s' → Tracks (performWithin n s) (performWithin n s'))
    {a a' : Action} (h : Action.Spares a a') :
    Tracks (act (performWithin n) a) (act (performWithin n) a') := by
  have hthread : ∀ {run run'}, Script.Curtails run run' →
      Tracks (act (performWithin n) (.thread run)) (act (performWithin n) (.thread run')) :=
    fun h => tracks_onThread (relieved_of_curtails hsub h) _
  have hcatch : ∀ {run run'}, Script.Curtails run run' →
      Tracks (act (performWithin n) (.catch run)) (act (performWithin n) (.catch run')) :=
    fun h => tracks_catching (relieved_of_curtails hsub h) _
  have hexecute : ∀ run run',
      Tracks (act (performWithin n) (.execute run)) (act (performWithin n) (.execute run')) :=
    fun run run' => tracks_bind (tracks_execute _ _) fun _ => tracks_trace _ _
  have hpush : ∀ {label rules rules'}, Rule.Spares rules rules' →
      Tracks (act (performWithin n) (.pushHook ⟨label, rules⟩))
        (act (performWithin n) (.pushHook ⟨label, rules'⟩)) :=
    fun h e e' htwins => ⟨rfl, htwins.enlist (.rules h) true⟩
  have hwith : ∀ {label rules rules' run run'}, Rule.Spares rules rules' → Script.Spares run run' →
      Tracks (act (performWithin n) (.withHook ⟨label, rules⟩ run))
        (act (performWithin n) (.withHook ⟨label, rules'⟩ run')) := by
    intro label rules rules' run run' hrules hrun
    simp only [act]
    exact tracks_withHook fun e e' htwins => hsub hrun _ _ (htwins.enlist (.rules hrules) true)
  have hlet : ∀ {label rules rules' run run'}, Rule.Spares rules rules' → Script.Spares run run' →
      Tracks (act (performWithin n) (.letHook ⟨label, rules⟩ run))
        (act (performWithin n) (.letHook ⟨label, rules'⟩ run')) :=
    fun hrules hrun => tracks_letHook (.rules hrules) (hsub hrun)
  have hchoose : ∀ {q run run' otherwise otherwise'}, Script.Spares run run' →
      Script.Spares otherwise otherwise' →
      Tracks (act (performWithin n) (.choose q run otherwise))
        (act (performWithin n) (.choose q run' otherwise')) := by
    intro q run run' otherwise otherwise' hrun hotherwise e e' htwins
    rw [act_choose, act_choose, htwins.holds_eq q]
    split
    · exact hsub hrun e e' htwins
    · exact hsub hotherwise e e' htwins
  cases h with
  | thread h => exact hthread h
  | guarded hrun hdrop => exact tracks_guarded (hsub hrun) (hsub hdrop)
  | caught h => exact hcatch h
  | execute h => exact hexecute _ _
  | pushHook h => exact hpush h
  | withHook hrules hrun => exact hwith hrules hrun
  | letHook hrules hrun => exact hlet hrules hrun
  | choose hrun hotherwise => exact hchoose hrun hotherwise
  | refl =>
    have hsame : ∀ s, Tracks (performWithin n s) (performWithin n s) := fun s =>
      hsub (Script.spares_refl s)
    have htrace : ∀ text text', Tracks (trace text) (trace text') := tracks_trace
    rcases a with text | c | p | ⟨handle, count⟩ | handle | handle | ⟨file, line, message⟩ | v |
      message | payload | d | event | run | ⟨run, onDrop⟩ | run | run | ⟨q, run, otherwise⟩ | h |
      index | ⟨h, run⟩ | ⟨h, run⟩ | index | d | ⟨level, message⟩ | ⟨verbosity, colours⟩ | - | - |
      - | - | - | name
    · exact htrace _ _
    · exact tracks_check c
    · exact tracks_require p
    · refine tracks_bind (tracks_collect handle) fun seen => ?_
      rcases seen with - | seen
      · exact htrace _ _
      · exact tracks_ite (tracks_pure ()) (tracks_failAt _ _ _)
    · refine tracks_bind (tracks_collect handle) fun seen => ?_
      rcases seen with - | seen
      · exact htrace _ _
      · exact htrace _ _
    · refine tracks_get_bind fun e _ _ htwins => ?_
      dsimp only
      rcases e.counters[handle]? with - | seen
      · exact htrace _ _ _ _ htwins
      · exact htrace _ _ _ _ htwins
    · exact tracks_failAt file line message
    · exact tracks_raise v
    · exact tracks_violate _
    · exact tracks_unwind payload
    · exact tracks_dispatch hsub d
    · exact tracks_log hsub event
    · exact hthread (.whole (Script.spares_refl _))
    · exact tracks_guarded (hsame run) (hsame onDrop)
    · exact hcatch (.whole (Script.spares_refl _))
    · exact hexecute _ _
    · exact hchoose (Script.spares_refl _) (Script.spares_refl _)
    · exact hpush (Rule.spares_refl _)
    · exact tracks_get_bind fun _ _ _ h => tracks_popNamed _ _ _ h
    · exact hwith (Rule.spares_refl _) (Script.spares_refl _)
    · exact hlet (Rule.spares_refl _) (Script.spares_refl _)
    · exact tracks_get_bind fun _ _ _ h => tracks_popNamed _ _ _ h
    · exact tracks_bind (tracks_defaultAnswer d) fun _ => htrace _ _
    · exact tracks_bailOut level message
    · rintro e _ ⟨hactive, chain, journal, hchain, rfl⟩
      exact ⟨rfl, hactive, chain, journal, hchain, rfl⟩
    · exact tracks_get_bind fun _ _ _ h => htrace _ _ _ _ h
    · exact tracks_get_bind fun _ _ _ h => htrace _ _ _ _ h
    · exact tracks_get_bind fun _ _ _ h => htrace _ _ _ _ h
    · exact tracks_get_bind fun _ _ _ h => htrace _ _ _ _ h
    · exact tracks_intercept
    · exact htrace _ _

/-- A script and one that is spared tests are in lockstep. -/
theorem tracks_performWithin (n : Nat) {script script' : Script} (h : Script.Spares script script') :
    Tracks (performWithin n script) (performWithin n script') := by
  induction n generalizing script script' with
  | zero => exact tracks_throw _
  | succ n ih =>
    induction script generalizing script' with
    | nil =>
      cases h
      exact tracks_pure ()
    | cons a script ihs =>
      cases h with
      | cons ha h => exact tracks_bind (tracks_act ih ha) fun _ => ihs h

end Scripts

/-! ### Tests -/

/-- If bodies are in lockstep, the tests end with the same verdict. -/
theorem alike_execute {body body' : Act Unit} {e : Engine} (h : Tracks body body')
    (hidle : e.context = none) : Alike Resembles (execute body e) (execute body' e) := by
  have hleave : ∀ {e₁ e₁'}, Twins e₁ e₁' → e₁'.pending = e₁.pending ∧ Resembles e₁.leave e₁'.leave := by
    rintro e₁ _ ⟨-, chain, journal, hchain, rfl⟩
    exact ⟨rfl, chain, _, hchain, rfl⟩
  have hbody := h e.entered e.entered ⟨rfl, resembles_refl _⟩
  rw [execute_of_idle hidle, execute_of_idle hidle]
  rcases hbody.cases with ⟨_, e₁, e₁', ho, ho', htwins⟩ | ⟨stop, e₁, e₁', ho, ho', htwins⟩ <;>
    rw [ho, ho'] <;> obtain ⟨hpending, hends⟩ := hleave htwins
  · exact ⟨by rw [hpending], hends⟩
  · rcases stop with payload | _ | _ | _
    · unfold concluded
      dsimp only
      rw [hpending]
      rcases verdictOn e₁.pending payload with - | v
      · exact ⟨rfl, hends⟩
      · exact ⟨rfl, hends⟩
    all_goals exact ⟨rfl, htwins.2⟩

end Engine

end TestEngine
