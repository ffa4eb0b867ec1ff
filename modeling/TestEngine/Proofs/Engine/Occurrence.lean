/-
TestEngine/Proofs/Engine/Occurrence.lean

What happens in the course of a script.  An action is carried out somewhere inside a
script (`Occurs`): among the actions of the script itself, or in a script that one of
these holds, be it the work of a thread, a guarded block, its clean-up, or what a hook
runs when it is asked about a diagnostic (`Enters`, `Asks`).  A test within a test does not
count, since none is ever started while one runs (`execute_of_active`).

Two things are known of such an action.  A relation that is respected also relates the
state before the script to the one in which the action starts, if it survives the start
of a thread and of a clean-up (`Occurs.relates`).  And once an outcome is recorded for the
test that runs, it is there when the script ends, whatever the scripts around the action do
about it (`Occurs.lands_decided`).
-/
import TestEngine.Proofs.Engine.Outcome

namespace TestEngine

namespace Engine

/-! ### Nested scripts -/

/-- The diagnostic that the action has the hooks in the chain asked about, if it does so in
this state. -/
def emission? (e : Engine) : Action → Option Diagnostic
  | .emit d => some d
  | .event event => if e.subscriber == .chain then some event.diagnostic else none
  | _ => none

/-- The state in which the script of a rule starts. -/
def ruling (i : Installed) (label : Option String) (d : Diagnostic) (e : Engine) : Engine :=
  match label with
  | none => asking i d e
  | some label =>
    { asking i d e with
      journal := .traced ("hook " ++ label ++ ": " ++ d.plain) :: (asking i d e).journal }

/-- While hooks are asked about a diagnostic in order, the script of a rule starts. -/
inductive Asks (sub : Script → Act Unit) (d : Diagnostic) :
    List Installed → Engine → Script → Engine → Prop
  | here {i : Installed} {hook : RuleHook Action} {rule : Rule Action} {is : List Installed}
      {e : Engine} (hhook : i.hook = .rules hook)
      (hrule : hook.rules.find? (·.isMatch d) = some rule) :
      Asks sub d (i :: is) e rule.run (ruling i hook.label d e)
  | later {i : Installed} {is : List Installed} {e e₁ e₂ : Engine} {s : Script}
      (hi : askHook sub d i.hook (asking i d e) = .ok .proceed e₁) (h : Asks sub d is e₁ s e₂) :
      Asks sub d (i :: is) e s e₂

/-- While the action is carried out, a script nested in it starts. -/
inductive Enters (sub : Script → Act Unit) : Action → Engine → Script → Engine → Prop
  | thread {run : Script} {e : Engine} : Enters sub (.thread run) e run e.spawned
  | block {run onDrop : Script} {e : Engine} : Enters sub (.guarded run onDrop) e run e
  | cleanup {run onDrop : Script} {e e₁ : Engine} (h : sub run e = .ok () e₁) :
      Enters sub (.guarded run onDrop) e onDrop e₁
  | unwinding {run onDrop : Script} {e e₁ : Engine} {payload : Payload}
      (h : sub run e = .error (.unwound payload) e₁) :
      Enters sub (.guarded run onDrop) e onDrop { e₁ with unwinding := true }
  | caught {run : Script} {e : Engine} : Enters sub (.catch run) e run e
  | hooked {h : RuleHook Action} {run : Script} {e : Engine} :
      Enters sub (.withHook h run) e run (enlist true (.rules h) e)
  | bound {h : RuleHook Action} {run : Script} {e : Engine} :
      Enters sub (.letHook h run) e run (binding (.rules h) e)
  | chosen {q : Query} {run otherwise : Script} {e : Engine} :
      Enters sub (.choose q run otherwise) e (if e.holds q then run else otherwise) e
  | asked {a : Action} {e e₁ : Engine} {d : Diagnostic} {s : Script} (hd : emission? e a = some d)
      (h : Asks sub d e.chain e s e₁) : Enters sub a e s e₁

/-- In the course of a script that is nested at most `n` deep, the action starts in the last
state, with scripts of depth `m` left to it. -/
inductive Occurs : Nat → Script → Engine → Nat → Action → Engine → Prop
  | here {n : Nat} {a : Action} {script : Script} {e : Engine} : Occurs (n + 1) (a :: script) e n a e
  | after {n m : Nat} {a b : Action} {script : Script} {e e₁ e₂ : Engine}
      (ha : act (performWithin n) a e = .ok () e₁) (h : Occurs (n + 1) script e₁ m b e₂) :
      Occurs (n + 1) (a :: script) e m b e₂
  | inside {n m : Nat} {a b : Action} {script s : Script} {e e₁ e₂ : Engine}
      (ha : Enters (performWithin n) a e s e₁) (h : Occurs n s e₁ m b e₂) :
      Occurs (n + 1) (a :: script) e m b e₂

/-- A hook made of rules traces the question, if it has a label, and looks for a rule. -/
theorem askHook_of_rules {sub : Script → Act Unit} {d : Diagnostic} {i : Installed}
    {hook : RuleHook Action} (hhook : i.hook = .rules hook) (e : Engine) :
    askHook sub d i.hook (asking i d e) =
      (match hook.rules.find? (·.isMatch d) with
        | none => pure .proceed
        | some rule => do
          sub rule.run
          pure rule.answer : Act Answer) (ruling i hook.label d e) := by
  have hannounce : announce hook.label d (asking i d e) = .ok () (ruling i hook.label d e) := by
    rcases hook.label with - | label <;> rfl
  rw [hhook]
  exact bind_of_ok hannounce

/-- The first rule that matches is carried out. -/
theorem askHook_of_rule {sub : Script → Act Unit} {d : Diagnostic} {i : Installed}
    {hook : RuleHook Action} {rule : Rule Action} (hhook : i.hook = .rules hook)
    (hrule : hook.rules.find? (·.isMatch d) = some rule) (e : Engine) :
    askHook sub d i.hook (asking i d e) =
      (sub rule.run >>= fun _ => pure rule.answer) (ruling i hook.label d e) := by
  rw [askHook_of_rules hhook, hrule]

/-! ### The action's state -/

theorem performWithin_cons (n : Nat) (a : Action) (script : Script) :
    performWithin (n + 1) (a :: script) =
      act (performWithin n) a >>= fun _ => performWithin (n + 1) script := rfl

/-- The relation survives the start of a thread and of a clean-up, and the naming of a hook. -/
structure Deepens (R : Engine → Engine → Prop) : Prop where
  spawned : ∀ e, R e e.spawned
  unwinding : ∀ e, R e { e with unwinding := true }
  bound : ∀ e h, R e (binding h e)

theorem deepens_firstRecorded : Deepens FirstRecorded :=
  ⟨fun e => (FirstRecorded.refl e).congr rfl rfl rfl rfl,
    fun e => (FirstRecorded.refl e).congr rfl rfl rfl rfl,
    fun e h => firstRecorded_binding h e⟩

section Relates

variable {P : Entry → Prop} {R : Engine → Engine → Prop} (hR : Respected (fun _ => True) P R)
  (hP : ∀ {x : Entry}, x.Quiet → P x) {sub : Script → Act Unit}
  (hsub : ∀ script, Script.Within (fun _ => True) script → Keeps (fun _ => True) R (sub script))

include hR hP

theorem relates_ruling {i : Installed} {hook : RuleHook Action} (hhook : i.hook = .rules hook)
    (d : Diagnostic) {e₀ e : Engine} (hi : i ∈ e₀.chain) (he : R e₀ e) :
    R e₀ (ruling i hook.label d e) := by
  have hasked : R e₀ (asking i d e) := by
    have hconsulted := hR.asked d hi he
    rw [consulted, hhook] at hconsulted
    exact hconsulted
  rcases hook.label with - | label
  · exact hasked
  · exact hR.trans hasked (hR.noted _ (hP trivial))

include hsub

theorem Asks.relates {d : Diagnostic} {is : List Installed} {e₀ e e₁ : Engine} {s : Script}
    (h : Asks sub d is e s e₁) (his : ∀ i ∈ is, i ∈ e₀.chain) (he : R e₀ e) : R e₀ e₁ := by
  induction h with
  | here hhook _ => exact relates_ruling hR hP hhook d (his _ (List.mem_cons_self ..)) he
  | @later i is e e₁ e₂ s hi _ ih =>
    have hask := lands_askHook hR hP hsub d e₀.within_all (his i (List.mem_cons_self ..))
      ⟨e.within_all, he⟩
    rw [hi] at hask
    exact ih (fun j hj => his j (List.mem_cons_of_mem i hj)) hask.2

theorem Enters.relates (hdeep : Deepens R) {a : Action} {e e₁ : Engine} {s : Script}
    (h : Enters sub a e s e₁) : R e e₁ := by
  have hlands : ∀ script e, Lands (R e) (sub script e) := fun script e =>
    (hsub script script.within_all).lands e
  cases h with
  | thread => exact hdeep.spawned e
  | block => exact hR.refl e
  | cleanup h =>
    rename_i run
    have hrun := hlands run e
    rw [h] at hrun
    exact hrun
  | unwinding h =>
    rename_i run _ _
    have hrun := hlands run e
    rw [h] at hrun
    exact hR.trans hrun (hdeep.unwinding _)
  | caught => exact hR.refl e
  | hooked =>
    rename_i hook
    exact hR.installed e true (Hook.rules hook).within_all trivial
  | bound => exact hdeep.bound e _
  | chosen => exact hR.refl e
  | asked _ h => exact h.relates hR hP hsub (fun i hi => hi) (hR.refl e)

omit hsub in
/-- A relation that is respected relates the state before a script to the one in which an
action in it starts. -/
theorem Occurs.relates (hdeep : Deepens R) {n m : Nat} {script : Script} {a : Action}
    {e e₁ : Engine} (h : Occurs n script e m a e₁) : R e e₁ := by
  induction h with
  | here => exact hR.refl _
  | @after n m a b script e e₁ e₂ ha _ ih =>
    exact hR.trans ((keeps_actWithin hR hP n a).of_ended (.inl ⟨_, ha⟩)) ih
  | @inside n m a b script s e e₁ e₂ ha _ ih =>
    have hsub : ∀ script, Script.Within (fun _ => True) script →
        Keeps (fun _ => True) R (performWithin n script) := fun _ => keeps_performWithin hR hP n
    exact hR.trans (ha.relates hR hP hsub hdeep) ih

end Relates

/-! ### Recorded outcomes last -/

/-- A test with an outcome is running. -/
def Decided (owner : Nat) (v : Verdict) (e : Engine) : Prop := e.context = some ⟨owner, some v⟩

section Decided

variable {owner : Nat} {v : Verdict}

/-- What happens while a test runs leaves its outcome as it is. -/
theorem respected_decided (A : Action → Prop) (P : Entry → Prop) (owner : Nat) (v : Verdict) :
    Respected A P fun e e' => Decided owner v e → Decided owner v e' where
  refl _ h := h
  trans h h' hd := h' (h hd)
  noted _ _ _ h := h
  printed _ _ h := h
  installed _ named _ _ _ h := by rcases named with _ | _ <;> exact h
  popped _ _ _ _ _ h := h
  released {_ _ named _ _ _} _ h _ _ hd := h (by rcases named with _ | _ <;> exact hd)
  discarded {_ _ named _} _ h hd := h (by rcases named with _ | _ <;> exact hd)
  bound _ _ h hd := h hd
  recorded _ c w _ hc hd := by
    have hrunning : c = ⟨owner, some v⟩ := Option.some.inj (hc.symm.trans hd)
    rw [hrunning]
    rfl
  tested hidle _ hd := by
    rw [Decided, hidle] at hd
    exact absurd hd (by simp)
  threaded h hd := h hd
  cleaned h hd := h hd
  asked _ _ h hd := h hd
  collected _ _ _ _ h := h
  configured _ _ _ _ h := h
  intercepted _ h := h

variable {e : Engine} {sub : Script → Act Unit}

/-- The two actions that have hooks asked do nothing else. -/
theorem act_of_emission {a : Action} {d : Diagnostic} (h : emission? e a = some d) :
    act sub a e = dispatch sub d e := by
  unfold emission? at h
  split at h
  · cases h
    rfl
  · split at h
    · rename_i hchain
      cases h
      show log sub _ e = _
      unfold log
      rw [bind_of_ok (get_eq_ok.mpr ⟨rfl, rfl⟩), if_pos hchain]
    · exact absurd h (by simp)
  · exact absurd h (by simp)

theorem lands_of_decided {α : Type} {act : Act α}
    (h : Keeps (fun _ => True) (fun e e' => Decided owner v e → Decided owner v e') act)
    (hd : Decided owner v e) : Lands (Decided owner v) (act e) :=
  (h.lands e).mono fun _ he => he hd

theorem lands_decided_release (id : HookId) (hd : Decided owner v e) :
    Lands (Decided owner v) (release id e) := by
  have hR := respected_decided (fun _ => True) (fun _ => True) owner v
  unfold release
  rw [bind_of_ok (get_eq_ok.mpr ⟨rfl, rfl⟩)]
  rcases e.unwinding with - | -
  · have hpop : Lands (Leads (fun _ => True) (fun e e' => Decided owner v e → Decided owner v e') e)
        (pop id e) := lands_pop hR (fun _ => trivial) e.within_all fun _ _ _ _ h => h
    exact hpop.mono fun _ h => h.2 hd
  · exact hd

/-- What comes after a sequence has got its outcome does not change it. -/
theorem lands_decided_bind {α β : Type} {x : Act α} {f : α → Act β}
    (hx : Lands (Decided owner v) (x e))
    (hf : ∀ a, Keeps (fun _ => True) (fun e e' => Decided owner v e → Decided owner v e') (f a)) :
    Lands (Decided owner v) ((x >>= f) e) := by
  rcases hxe : x e with ⟨a, e₁⟩ | ⟨stop, e₁⟩ <;> rw [hxe] at hx
  · rw [bind_of_ok hxe]
    exact lands_of_decided (hf a) hx
  · rw [bind_of_error hxe]
    exact hx.of_error

/-- The guard of a hook leaves the outcome alone. -/
theorem lands_decided_withHook {α : Type} {h : Hook} {block : HookId → Act α}
    (hb : Lands (Decided owner v) (block e.nextHook (install h e).2)) :
    Lands (Decided owner v) (withHook h block e) := by
  rw [withHook_eq]
  rcases ho : block e.nextHook (install h e).2 with ⟨a, e₁⟩ | ⟨_ | _ | _ | _, e₁⟩ <;> rw [ho] at hb
  · show Lands (Decided owner v) ((release e.nextHook >>= fun _ => pure a) e₁)
    have hR := respected_decided (fun _ => True) (fun _ => True) owner v
    exact lands_decided_bind (lands_decided_release _ hb) fun _ => keeps_pure hR _
  · exact hb
  all_goals trivial

/-- The end of a block that has a name for a hook leaves the outcome alone. -/
theorem lands_decided_letHook {α : Type} {h : Hook} {block : Act α}
    (hb : Lands (Decided owner v) (block (binding h e))) :
    Lands (Decided owner v) (letHook h block e) := by
  rw [letHook_eq]
  rcases ho : block (binding h e) with ⟨a, e₁⟩ | ⟨_ | _ | _ | _, e₁⟩ <;> rw [ho] at hb
  · exact hb
  · exact hb
  all_goals trivial

/-- A script that is chosen is carried out. -/
theorem act_choose (q : Query) (run otherwise : Script) :
    act sub (.choose q run otherwise) e = sub (if e.holds q then run else otherwise) e := by
  show (if e.holds q then sub run else sub otherwise) e = _
  split <;> rfl

variable (hsub : ∀ script, Script.Within (fun _ => True) script →
  Keeps (fun _ => True) (fun e e' => Decided owner v e → Decided owner v e') (sub script))

include hsub

omit hsub in
/-- To ask hooks, whichever they are, leaves the outcome as it is. -/
theorem keeps_askRest (hsub : ∀ script, Script.Within (fun _ => True) script →
    Keeps (fun _ => True) (fun e e' => Decided owner v e → Decided owner v e') (sub script))
    (d : Diagnostic) (is : List Installed) :
    Keeps (fun _ => True) (fun e e' => Decided owner v e → Decided owner v e') (askAll sub d is) := by
  have hR := respected_decided (fun _ => True) (fun _ => True) owner v
  intro e hw
  -- which hooks are in the chain does not matter to the outcome
  exact lands_askAll hR (fun _ => trivial) hsub d (Engine.within_all { e with chain := is })
    (fun i hi => hi) ⟨hw, fun hd => hd⟩

/-- An outcome that the script of a rule records is there when all hooks have been asked. -/
theorem Asks.lands_decided {d : Diagnostic} {is : List Installed} {e₁ : Engine} {s : Script}
    (h : Asks sub d is e s e₁) (hs : Lands (Decided owner v) (sub s e₁)) :
    Lands (Decided owner v) (askAll sub d is e) := by
  have hR := respected_decided (fun _ => True) (fun _ => True) owner v
  induction h with
  | @here i hook rule is e hhook hrule =>
    have hasked : Lands (Decided owner v) (askHook sub d i.hook (asking i d e)) := by
      rw [askHook_of_rule hhook hrule]
      exact lands_decided_bind hs fun _ => keeps_pure hR _
    refine lands_decided_bind (x := askHook sub d i.hook) (e := asking i d e) hasked fun answer => ?_
    rcases answer with _ | _ | _ | _ | _
    · exact keeps_askRest hsub d is
    all_goals exact keeps_pure hR _
  | @later i is e e₁ e₂ s hi _ ih =>
    have hask : askAll sub d (i :: is) e = askAll sub d is e₁ :=
      bind_of_ok (x := askHook sub d i.hook) hi
    rw [hask]
    exact ih hs

/-- An outcome that a nested script records is there when the action ends. -/
theorem Enters.lands_decided {a : Action} {e₁ : Engine} {s : Script} (h : Enters sub a e s e₁)
    (hs : Lands (Decided owner v) (sub s e₁)) : Lands (Decided owner v) (act sub a e) := by
  have hR := respected_decided (fun _ => True) (fun _ => True) owner v
  have htrace : ∀ text, Keeps (fun _ => True)
      (fun e e' => Decided owner v e → Decided owner v e') (trace text) :=
    keeps_trace hR fun _ => trivial
  cases h with
  | thread =>
    have hthread : Lands (Decided owner v) (onThread (sub s) e) := by
      rw [onThread_eq]
      rcases ho : sub s e.spawned with ⟨_, e₂⟩ | ⟨_ | _ | _ | _, e₂⟩ <;> rw [ho] at hs
      · exact hs
      · exact hs
      all_goals trivial
    refine lands_decided_bind hthread fun payload => ?_
    rcases payload with - | payload
    · exact keeps_pure hR ()
    · exact htrace _
  | block =>
    rename_i onDrop
    have hclean := hsub onDrop onDrop.within_all
    show Lands (Decided owner v) (guarded (sub s) (sub onDrop) e)
    unfold guarded
    rcases ho : sub s e with ⟨_, e₂⟩ | ⟨_ | _ | _ | _, e₂⟩ <;> rw [ho] at hs
    · exact lands_of_decided hclean hs
    · have hcleaned := lands_of_decided hclean (e := { e₂ with unwinding := true }) hs
      rcases hd : sub onDrop { e₂ with unwinding := true } with ⟨_, e₃⟩ | ⟨_ | _ | _ | _, e₃⟩ <;>
        rw [hd] at hcleaned <;> simp only [hd]
      · exact hcleaned
      all_goals trivial
    all_goals trivial
  | cleanup h =>
    rename_i run
    show Lands (Decided owner v) (guarded (sub run) (sub s) e)
    unfold guarded
    rw [h]
    exact hs
  | unwinding h =>
    rename_i run e₂ _
    show Lands (Decided owner v) (guarded (sub run) (sub s) e)
    unfold guarded
    rw [h]
    dsimp only
    rcases hd : sub s { e₂ with unwinding := true } with ⟨_, e₃⟩ | ⟨_ | _ | _ | _, e₃⟩ <;>
      rw [hd] at hs
    · exact hs
    all_goals trivial
  | caught =>
    have hcatch : Lands (Decided owner v) (catching (sub s) e) := by
      unfold catching
      rcases ho : sub s e with ⟨_, e₂⟩ | ⟨_ | _ | _ | _, e₂⟩ <;> rw [ho] at hs
      · exact hs
      · exact hs
      all_goals trivial
    refine lands_decided_bind hcatch fun payload => ?_
    rcases payload with - | payload
    · exact keeps_pure hR ()
    · exact htrace _
  | hooked =>
    simp only [act]
    exact lands_decided_withHook hs
  | bound => exact lands_decided_letHook hs
  | chosen =>
    rw [act_choose]
    exact hs
  | asked hd h =>
    rename_i d
    rw [act_of_emission hd]
    refine lands_decided_bind (x := askAll sub d e.chain) (h.lands_decided hsub hs) fun answer => ?_
    have hend : ∀ answer, Keeps (fun _ => True)
        (fun e e' => Decided owner v e → Decided owner v e') (do
          note (.decided d answer)
          carryOut d answer) := fun answer =>
      keeps_bind hR (keeps_note hR trivial) fun _ => keeps_carryOut hR d answer
    rcases answer with _ | _ | _ | _ | _
    · exact keeps_bind hR (keeps_defaultAnswer hR d) hend
    all_goals exact keeps_bind hR (keeps_pure hR _) hend

omit hsub in
/-- An outcome that an action in a script records is there when the script ends. -/
theorem Occurs.lands_decided {n m : Nat} {script : Script} {a : Action} {e e₁ : Engine}
    (h : Occurs n script e m a e₁) (ha : Lands (Decided owner v) (act (performWithin m) a e₁)) :
    Lands (Decided owner v) (performWithin n script e) := by
  have hR := respected_decided (fun _ => True) (fun _ => True) owner v
  have hperform : ∀ n script, Keeps (fun _ => True)
      (fun e e' => Decided owner v e → Decided owner v e') (performWithin n script) :=
    fun n script => keeps_performWithin hR (fun _ => trivial) n script.within_all
  induction h with
  | here =>
    rw [performWithin_cons]
    exact lands_decided_bind ha fun _ => hperform _ _
  | after hok _ ih =>
    rw [performWithin_cons, bind_of_ok hok]
    exact ih ha
  | inside henter _ ih =>
    rw [performWithin_cons]
    have hact := henter.lands_decided (fun script _ => hperform _ script) (ih ha)
    exact lands_decided_bind hact fun _ => hperform _ _

end Decided

end Engine

end TestEngine
