/-
TestEngine/Proofs/Engine/Trail.lean

What changes the chain of hooks.  An edit is the chain before and after one change; the actions of
a script that push a hook, pop one, or guard one are the only ones that edit it (`Edits`), wherever
in the course of the script they are carried out (`Undertakes`).

The edits of a script form a trail from the chain before it to the chain after it: each starts from
the chain as the one before it has left it, and there are no others (`trails_performWithin`).  So
nothing that scripts do besides, be it to ask hooks, to run tests, threads or clean-ups, or to
unwind through any of these, changes the chain or undoes a change.
-/
import TestEngine.Proofs.Engine.Inert

namespace TestEngine

/-- Neither does the action touch the chain of hooks itself, nor can a script start in it. -/
def Action.isBare : Action → Bool
  | .emit _ => false
  | .event _ => false
  | .thread _ => false
  | .guarded .. => false
  | .catch _ => false
  | .execute _ => false
  | .choose .. => false
  | .pushHook _ => false
  | .popHook _ => false
  | .withHook .. => false
  | .letHook .. => false
  | .popLocal _ => false
  | _ => true

namespace Engine

/-! ### What a script undertakes -/

/-- While the action is carried out, a script nested in it starts, possibly as a test. -/
inductive Opens (sub : Script → Act Unit) : Action → Engine → Script → Engine → Prop
  | enters {a : Action} {s : Script} {e e₁ : Engine} (h : Enters sub a e s e₁) : Opens sub a e s e₁
  | tests {run : Script} {e : Engine} (hidle : e.context = none) :
      Opens sub (.execute run) e run e.entered

/-- In the course of a script that is nested at most `n` deep, and of the tests it runs, the action
starts in the last state, with scripts of depth `m` left to it. -/
inductive Undertakes : Nat → Script → Engine → Nat → Action → Engine → Prop
  | here {n : Nat} {a : Action} {script : Script} {e : Engine} :
      Undertakes (n + 1) (a :: script) e n a e
  | after {n m : Nat} {a b : Action} {script : Script} {e e₁ e₂ : Engine}
      (ha : act (performWithin n) a e = .ok () e₁) (h : Undertakes (n + 1) script e₁ m b e₂) :
      Undertakes (n + 1) (a :: script) e m b e₂
  | inside {n m : Nat} {a b : Action} {script s : Script} {e e₁ e₂ : Engine}
      (ha : Opens (performWithin n) a e s e₁) (h : Undertakes n s e₁ m b e₂) :
      Undertakes (n + 1) (a :: script) e m b e₂

/-! ### Edits -/

/-- A change of the chain: the chain before it, and the chain after it. -/
abbrev Edit := List Installed × List Installed

/-- The action, started in the state `e`, edits the chain itself: it pushes a hook or pops one, or
installs one for a block and removes it at the end of the block. -/
inductive Edits (sub : Script → Act Unit) : Action → Engine → Edit → Prop
  | pushed {h : RuleHook Action} {e : Engine} :
      Edits sub (.pushHook h) e (e.chain, ⟨e.nextHook, .rules h⟩ :: e.chain)
  | popped {index : Nat} {i : Installed} {older : List Installed} {e : Engine}
      (hid : e.pushed[index]? = some i.id) (hc : e.chain = i :: older) :
      Edits sub (.popHook index) e (e.chain, older)
  | installed {h : RuleHook Action} {run : Script} {e : Engine} :
      Edits sub (.withHook h run) e (e.chain, ⟨e.nextHook, .rules h⟩ :: e.chain)
  | released {h : RuleHook Action} {run : Script} {e e₁ e₂ : Engine}
      (hend : sub run (enlist true (.rules h) e) = .ok () e₁)
      (hrelease : release e.nextHook e₁ = .ok () e₂) :
      Edits sub (.withHook h run) e (e₁.chain, e₂.chain)
  | dropped {h : RuleHook Action} {run : Script} {e e₁ : Engine} {payload : Payload}
      (hend : sub run (enlist true (.rules h) e) = .error (.unwound payload) e₁) :
      Edits sub (.withHook h run) e (e₁.chain, (discard e.nextHook e₁).chain)
  | bound {h : RuleHook Action} {run : Script} {e : Engine} :
      Edits sub (.letHook h run) e (e.chain, ⟨e.nextHook, .rules h⟩ :: e.chain)
  | poppedLocal {index : Nat} {i : Installed} {older : List Installed} {e : Engine}
      (hid : e.own[index]? = some i.id) (hc : e.chain = i :: older) :
      Edits sub (.popLocal index) e (e.chain, older)

/-- The script edits the chain: an action in it does. -/
def Edited (n : Nat) (script : Script) (e : Engine) (p : Edit) : Prop :=
  ∃ m a e₁, Undertakes n script e m a e₁ ∧ Edits (performWithin m) a e₁ p

/-- The action edits the chain, itself or in a script nested in it. -/
def Amends (n : Nat) (a : Action) (e : Engine) (p : Edit) : Prop :=
  Edits (performWithin n) a e p ∨ ∃ s e₁, Opens (performWithin n) a e s e₁ ∧ Edited n s e₁ p

/-- The rule of a hook that is about the diagnostic edits the chain. -/
def HookEdits (n : Nat) (d : Diagnostic) (i : Installed) (e : Engine) (p : Edit) : Prop :=
  ∃ hook rule, i.hook = .rules hook ∧ hook.rules.find? (·.isMatch d) = some rule ∧
    Edited n rule.run (ruling i hook.label d e) p

/-- A rule of one of the hooks that are asked about the diagnostic, in order, edits the chain. -/
def AskedEdits (n : Nat) (d : Diagnostic) (is : List Installed) (e : Engine) (p : Edit) : Prop :=
  ∃ s e₁, Asks (performWithin n) d is e s e₁ ∧ Edited n s e₁ p

section Edited

variable {n : Nat} {a : Action} {script : Script} {e e₁ : Engine} {p : Edit}

theorem not_edited_nil : ¬ Edited (n + 1) [] e p := by
  rintro ⟨m, a, e₁, h, -⟩
  nomatch h

/-- The edits of a script are those of its first action, and then those of the others. -/
theorem edited_cons : Edited (n + 1) (a :: script) e p ↔
    Amends n a e p ∨ ∃ e₁, act (performWithin n) a e = .ok () e₁ ∧ Edited (n + 1) script e₁ p := by
  constructor
  · rintro ⟨m, b, e₂, h, hp⟩
    cases h with
    | here => exact .inl (.inl hp)
    | after ha h => exact .inr ⟨_, ha, m, b, e₂, h, hp⟩
    | inside ha h => exact .inl (.inr ⟨_, _, ha, m, b, e₂, h, hp⟩)
  · rintro ((hp | ⟨s, e₁, ha, m, b, e₂, h, hp⟩) | ⟨e₁, ha, m, b, e₂, h, hp⟩)
    · exact ⟨n, a, e, .here, hp⟩
    · exact ⟨m, b, e₂, .inside ha h, hp⟩
    · exact ⟨m, b, e₂, .after ha h, hp⟩

end Edited

/-! ### Trails -/

/-- The edits lead from the first chain to the last, each starting where the one before ends. -/
def Linked : List Installed → List Edit → List Installed → Prop
  | c, [], c' => c' = c
  | c, p :: trail, c' => p.1 = c ∧ Linked p.2 trail c'

theorem Linked.append {c c' c'' : List Installed} {trail trail' : List Edit}
    (h : Linked c trail c') (h' : Linked c' trail' c'') : Linked c (trail ++ trail') c'' := by
  induction trail generalizing c with
  | nil =>
    obtain rfl : c' = c := h
    exact h'
  | cons p trail ih => exact ⟨h.1, ih h.2⟩

/-- The chain after an effect is reached by the edits `E`, in some order, and by all of them. -/
def Trails {α : Type} (E : Edit → Prop) (e : Engine) (o : EStateM.Result Stop Engine α) : Prop :=
  Lands (fun e' => ∃ trail, Linked e.chain trail e'.chain ∧ ∀ p, p ∈ trail ↔ E p) o

section Trails

variable {α β : Type} {E E' F : Edit → Prop} {e e₁ : Engine}

theorem Trails.congr {o : EStateM.Result Stop Engine α} (h : Trails E e o)
    (hE : ∀ p, E' p ↔ E p) : Trails E' e o :=
  h.mono fun _ ⟨trail, hlinked, hmem⟩ => ⟨trail, hlinked, fun p => (hmem p).trans (hE p).symm⟩

/-- Only the chain matters from which the trail starts. -/
theorem Trails.of_chain {o : EStateM.Result Stop Engine α} (h : Trails E e₁ o)
    (hchain : e₁.chain = e.chain) : Trails E e o := by
  unfold Trails
  rw [← hchain]
  exact h

theorem trails_none {o : EStateM.Result Stop Engine α} (h : Lands (fun e' => e'.chain = e.chain) o)
    (hE : ∀ p, ¬ E p) : Trails E e o :=
  h.mono fun _ hchain => ⟨[], hchain, fun p => by simp [hE p]⟩

theorem Inert.trails {act : Act α} (h : Inert act) (e : Engine) (hE : ∀ p, ¬ E p) :
    Trails E e (act e) :=
  trails_none (h e) hE

/-- One edit leads from its first chain to its second. -/
theorem trails_single {o : EStateM.Result Stop Engine α} {c : List Installed}
    (h : Lands (fun e' => e'.chain = c) o) (hE : ∀ p, E p ↔ p = (e.chain, c)) : Trails E e o :=
  h.mono fun _ hchain => ⟨[(e.chain, c)], ⟨rfl, hchain⟩, fun p => by
    rw [List.mem_singleton, hE p]⟩

/-- After one trail, another. -/
theorem Trails.extend {o : EStateM.Result Stop Engine α} {trail : List Edit} {e₀ : Engine}
    (hfirst : Linked e₀.chain trail e.chain) (hmem : ∀ p, p ∈ trail ↔ F p) (h : Trails E e o) :
    Trails (fun p => F p ∨ E p) e₀ o := by
  refine h.mono fun e' ⟨trail', hlinked, hmem'⟩ => ⟨trail ++ trail', hfirst.append hlinked, ?_⟩
  intro p
  rw [List.mem_append, hmem p, hmem' p]

/-- The trail of a sequence. -/
theorem Trails.bind {x : Act α} {f : α → Act β} {E' : α → Engine → Edit → Prop}
    (hx : Trails E e (x e)) (hf : ∀ a e₁, x e = .ok a e₁ → Trails (E' a e₁) e₁ (f a e₁)) :
    Trails (fun p => E p ∨ ∃ a e₁, x e = .ok a e₁ ∧ E' a e₁ p) e ((x >>= f) e) := by
  rcases hxe : x e with ⟨a, e₁⟩ | ⟨stop, e₁⟩
  · rw [bind_of_ok hxe]
    rw [hxe] at hx
    obtain ⟨trail, hlinked, hmem⟩ := hx
    refine ((hf a e₁ hxe).extend hlinked hmem).congr fun p => or_congr_right ?_
    refine ⟨fun ⟨b, e₂, hb, hp⟩ => ?_, fun hp => ⟨a, e₁, rfl, hp⟩⟩
    cases hb
    exact hp
  · rw [bind_of_error hxe]
    rw [hxe] at hx
    refine (Trails.congr hx fun p => ?_).of_error
    simp

/-- What comes after may leave the chain alone. -/
theorem Trails.bind_inert {x : Act α} {f : α → Act β} (hx : Trails E e (x e))
    (hf : ∀ a, Inert (f a)) : Trails E e ((x >>= f) e) := by
  refine (hx.bind fun a e₁ _ => (hf a).trails e₁ fun p => not_false).congr fun p => ?_
  simp

/-- What is told about the end of a block edits nothing. -/
theorem Trails.traceEnd {block : Act (Option Payload)} (h : Trails E e (block e)) (start : String) :
    Trails E e ((do
      match ← block with
      | none => pure ()
      | some payload => trace (start ++ payload.message)) e) := by
  refine h.bind_inert fun payload => ?_
  rcases payload with - | payload
  · exact inert_pure ()
  · exact inert_trace _

theorem trails_onThread {block : Act Unit} (h : Trails E e.spawned (block e.spawned)) :
    Trails E e (onThread block e) := by
  rw [onThread_eq]
  rcases ho : block e.spawned with ⟨_, e₁⟩ | ⟨_ | _ | _ | _, e₁⟩ <;> rw [ho] at h
  · exact h
  · exact h
  all_goals trivial

theorem trails_catching {block : Act Unit} (h : Trails E e (block e)) :
    Trails E e (catching block e) := by
  unfold catching
  rcases ho : block e with ⟨_, e₁⟩ | ⟨_ | _ | _ | _, e₁⟩ <;> rw [ho] at h
  · exact h
  · exact h
  all_goals trivial

theorem trails_execute {body : Act Unit} (hidle : e.context = none)
    (h : Trails E e.entered (body e.entered)) : Trails E e (execute body e) := by
  rw [execute_of_idle hidle]
  rcases ho : body e.entered with ⟨_, e₁⟩ | ⟨payload | _ | _ | _, e₁⟩ <;> rw [ho] at h
  · exact h
  · rcases hv : verdictOn e₁.pending payload with - | v <;> simp only [concluded, hv]
    · exact h
    · exact h
  all_goals trivial

theorem trails_guarded {block cleanup : Act Unit} {F : Engine → Edit → Prop}
    (hb : Trails E e (block e)) (hc : ∀ e₁, Trails (F e₁) e₁ (cleanup e₁)) :
    Trails (fun p => E p ∨ (∃ e₁, block e = .ok () e₁ ∧ F e₁ p) ∨
      ∃ payload e₁, block e = .error (.unwound payload) e₁ ∧ F { e₁ with unwinding := true } p) e
      (guarded block cleanup e) := by
  unfold guarded
  rcases ho : block e with ⟨_, e₁⟩ | ⟨payload | _ | _ | _, e₁⟩ <;> rw [ho] at hb
  · obtain ⟨trail, hlinked, hmem⟩ := hb
    exact ((hc e₁).extend hlinked hmem).congr fun p => by simp
  · obtain ⟨trail, hlinked, hmem⟩ := hb
    -- the clean-up finds the thread unwinding, and may not unwind itself
    have hclean : Trails _ e _ := Trails.extend hlinked hmem (hc { e₁ with unwinding := true })
    dsimp only
    rcases hd : cleanup { e₁ with unwinding := true } with ⟨_, e₂⟩ | ⟨_ | _ | _ | _, e₂⟩ <;>
      rw [hd] at hclean
    · have hend : Trails _ e (.error (.unwound payload) { e₂ with unwinding := e.unwinding } :
          EStateM.Result Stop Engine Unit) := hclean
      refine hend.congr fun p => or_congr_right ⟨?_, fun hp => .inr ⟨payload, e₁, rfl, hp⟩⟩
      rintro (⟨e₃, hok, -⟩ | ⟨payload', e₃, hunwound, hp⟩)
      · nomatch hok
      · cases hunwound
        exact hp
    all_goals trivial
  all_goals trivial

end Trails

/-! ### Asking and dispatching -/

section Asking

variable {n : Nat} {d : Diagnostic} {e : Engine}

/-- The edits of the first hook, if it is one of rules, and then those of the others, which are
asked only if it lets the diagnostic pass. -/
theorem askedEdits_cons {i : Installed} {is : List Installed} {p : Edit} :
    AskedEdits n d (i :: is) e p ↔ HookEdits n d i e p ∨
      ∃ e₁, askHook (performWithin n) d i.hook (asking i d e) = .ok .proceed e₁ ∧
        AskedEdits n d is e₁ p := by
  constructor
  · rintro ⟨s, e₁, h, hp⟩
    cases h with
    | here hhook hrule => exact .inl ⟨_, _, hhook, hrule, hp⟩
    | later hi h => exact .inr ⟨_, hi, s, e₁, h, hp⟩
  · rintro (⟨hook, rule, hhook, hrule, hp⟩ | ⟨e₁, hi, s, e₂, h, hp⟩)
    · exact ⟨_, _, .here hhook hrule, hp⟩
    · exact ⟨s, e₂, .later hi h, hp⟩

variable (hsub : ∀ script e, Trails (Edited n script e) e (performWithin n script e))

include hsub

/-- Only the rules of a hook edit the chain. -/
theorem trails_askHook (d : Diagnostic) (i : Installed) (e : Engine) :
    Trails (HookEdits n d i e) e (askHook (performWithin n) d i.hook (asking i d e)) := by
  obtain ⟨id, hook⟩ := i
  have hrules : ∀ {p}, HookEdits n d ⟨id, hook⟩ e p → ∃ rules, hook = .rules rules := by
    rintro p ⟨rules, _, hhook, -⟩
    exact ⟨rules, hhook⟩
  rcases hook with policies | expectations | hook
  · refine (inert_pure _).trails (asking _ d e) fun p hp => ?_
    obtain ⟨rules, hhook⟩ := hrules hp
    cases hhook
  · have hinert : Inert (askHook (performWithin n) d (.expecting expectations)) := by
      intro e₁
      rcases hx : expectations.find? (·.isMatch d) with - | x <;> simp only [askHook, hx]
      · exact inert_pure _ e₁
      · exact inert_pure _ (crediting x.counter e₁)
    refine hinert.trails (asking _ d e) fun p hp => ?_
    obtain ⟨rules, hhook⟩ := hrules hp
    cases hhook
  · have hchain : (ruling ⟨id, .rules hook⟩ hook.label d e).chain = e.chain := by
      rcases hook.label with - | label <;> rfl
    rcases hrule : hook.rules.find? (·.isMatch d) with - | rule
    · rw [askHook_of_rules rfl, hrule]
      refine ((inert_pure _).trails _ ?_).of_chain hchain
      rintro p ⟨_, _, hhook, hsome, -⟩
      cases hhook
      rw [hrule] at hsome
      cases hsome
    · rw [askHook_of_rule rfl hrule]
      have hrun := (hsub rule.run (ruling ⟨id, .rules hook⟩ hook.label d e)).bind_inert
        fun _ => inert_pure rule.answer
      refine (hrun.of_chain hchain).congr fun p => ⟨?_, fun hp => ⟨hook, rule, rfl, hrule, hp⟩⟩
      rintro ⟨_, _, hhook, hsome, hp⟩
      cases hhook
      rw [hrule] at hsome
      cases hsome
      exact hp

omit hsub in
/-- The older hooks are asked only if the newer one lets the diagnostic pass. -/
theorem trails_askRest {is : List Installed} (hall : Trails (AskedEdits n d is e) e
    (askAll (performWithin n) d is e)) (a : Answer) :
    Trails (fun p => a = .proceed ∧ AskedEdits n d is e p) e ((match a with
      | .proceed => askAll (performWithin n) d is
      | a => pure a : Act Answer) e) := by
  rcases a with _ | _ | _ | _ | _
  · exact hall.congr fun p => and_iff_right rfl
  all_goals
    refine (inert_pure _).trails e ?_
    rintro p ⟨hpass, -⟩
    cases hpass

theorem trails_askAll (d : Diagnostic) (is : List Installed) (e : Engine) :
    Trails (AskedEdits n d is e) e (askAll (performWithin n) d is e) := by
  induction is generalizing e with
  | nil =>
    refine (inert_pure _).trails e ?_
    rintro p ⟨_, _, h, -⟩
    cases h
  | cons i is ih =>
    have hask := (trails_askHook hsub d i e).of_chain (e := asking i d e) rfl
    have hboth := hask.bind fun a e₁ _ => trails_askRest (ih e₁) a
    refine (hboth.of_chain (e := e) rfl).congr fun p => ?_
    rw [askedEdits_cons]
    refine or_congr_right ⟨?_, ?_⟩
    · rintro ⟨e₁, hi, hp⟩
      exact ⟨.proceed, e₁, hi, rfl, hp⟩
    · rintro ⟨_, e₁, hi, rfl, hp⟩
      exact ⟨e₁, hi, hp⟩

/-- Dispatching a diagnostic edits the chain only in the rules of the hooks that are asked. -/
theorem trails_dispatch (d : Diagnostic) (e : Engine) :
    Trails (AskedEdits n d e.chain e) e (dispatch (performWithin n) d e) := by
  refine Trails.bind_inert (x := askAll (performWithin n) d e.chain)
    (trails_askAll hsub d e.chain e) fun answer => ?_
  have hend : ∀ a, Inert (do note (.decided d a); carryOut d a) := fun a =>
    inert_bind (inert_note _) fun _ => inert_carryOut d a
  rcases answer with _ | _ | _ | _ | _
  · exact inert_bind (inert_defaultAnswer d) hend
  all_goals exact inert_bind (inert_pure _) hend

end Asking

/-! ### Actions -/

section Actions

variable {n : Nat} {e : Engine} {p : Edit}

theorem not_amends_of_isBare {a : Action} (ha : a.isBare = true) : ¬ Amends n a e p := by
  rintro (hp | ⟨s, e₁, hopens, -⟩)
  · cases hp <;> nomatch ha
  · rcases hopens with henters | _
    · cases henters with
      | asked hd _ =>
        unfold emission? at hd
        split at hd
        · nomatch ha
        · nomatch ha
        · exact absurd hd (by simp)
      | _ => nomatch ha
    · nomatch ha

/-- An action that has hooks asked opens the scripts of their rules, and nothing else. -/
theorem amends_of_emission {a : Action} {d : Diagnostic} (hd : emission? e a = some d) :
    Amends n a e p ↔ AskedEdits n d e.chain e p := by
  constructor
  · rintro (hp | ⟨s, e₁, hopens | _, hp⟩)
    · cases hp <;> nomatch hd
    · cases hopens with
      | asked hd' h =>
        rw [hd] at hd'
        cases hd'
        exact ⟨s, e₁, h, hp⟩
      | _ => nomatch hd
    · nomatch hd
  · rintro ⟨s, e₁, h, hp⟩
    exact .inr ⟨s, e₁, .enters (.asked hd h), hp⟩

/-- An event that no hook receives does nothing. -/
theorem not_amends_of_event {event : LogEvent} (hd : emission? e (.event event) = none) :
    ¬ Amends n (.event event) e p := by
  rintro (hp | ⟨s, e₁, hopens | _, -⟩)
  · nomatch hp
  · cases hopens with
    | asked hd' =>
      rw [hd] at hd'
      nomatch hd'

theorem amends_thread {run : Script} :
    Amends n (.thread run) e p ↔ Edited n run e.spawned p := by
  constructor
  · rintro (hp | ⟨s, e₁, hopens | _, hp⟩)
    · nomatch hp
    · cases hopens with
      | thread => exact hp
      | asked hd => nomatch hd
  · exact fun hp => .inr ⟨run, _, .enters .thread, hp⟩

theorem amends_catch {run : Script} : Amends n (.catch run) e p ↔ Edited n run e p := by
  constructor
  · rintro (hp | ⟨s, e₁, hopens | _, hp⟩)
    · nomatch hp
    · cases hopens with
      | caught => exact hp
      | asked hd => nomatch hd
  · exact fun hp => .inr ⟨run, _, .enters .caught, hp⟩

theorem amends_execute {run : Script} :
    Amends n (.execute run) e p ↔ e.context = none ∧ Edited n run e.entered p := by
  constructor
  · rintro (hp | ⟨s, e₁, hopens | hidle, hp⟩)
    · nomatch hp
    · cases hopens with
      | asked hd => nomatch hd
    · exact ⟨hidle, hp⟩
  · exact fun ⟨hidle, hp⟩ => .inr ⟨run, _, .tests hidle, hp⟩

theorem amends_guarded {run onDrop : Script} : Amends n (.guarded run onDrop) e p ↔
    Edited n run e p ∨
      (∃ e₁, performWithin n run e = .ok () e₁ ∧ Edited n onDrop e₁ p) ∨
      ∃ payload e₁, performWithin n run e = .error (.unwound payload) e₁ ∧
        Edited n onDrop { e₁ with unwinding := true } p := by
  constructor
  · rintro (hp | ⟨s, e₁, hopens | _, hp⟩)
    · nomatch hp
    · cases hopens with
      | block => exact .inl hp
      | cleanup h => exact .inr (.inl ⟨_, h, hp⟩)
      | unwinding h => exact .inr (.inr ⟨_, _, h, hp⟩)
      | asked hd => nomatch hd
  · rintro (hp | ⟨e₁, h, hp⟩ | ⟨payload, e₁, h, hp⟩)
    · exact .inr ⟨run, _, .enters .block, hp⟩
    · exact .inr ⟨onDrop, _, .enters (.cleanup h), hp⟩
    · exact .inr ⟨onDrop, _, .enters (.unwinding h), hp⟩

theorem amends_withHook {h : RuleHook Action} {run : Script} : Amends n (.withHook h run) e p ↔
    Edits (performWithin n) (.withHook h run) e p ∨ Edited n run (enlist true (.rules h) e) p := by
  refine or_congr_right ⟨?_, fun hp => ⟨run, _, .enters .hooked, hp⟩⟩
  rintro ⟨s, e₁, hopens | _, hp⟩
  cases hopens with
  | hooked => exact hp
  | asked hd => nomatch hd

theorem amends_pushHook {h : RuleHook Action} :
    Amends n (.pushHook h) e p ↔ p = (e.chain, ⟨e.nextHook, .rules h⟩ :: e.chain) := by
  constructor
  · rintro (hp | ⟨s, e₁, hopens | _, -⟩)
    · cases hp
      rfl
    · cases hopens with
      | asked hd => nomatch hd
  · rintro rfl
    exact .inl .pushed

theorem amends_popHook {index : Nat} : Amends n (.popHook index) e p ↔
    ∃ i older, e.pushed[index]? = some i.id ∧ e.chain = i :: older ∧ p = (e.chain, older) := by
  constructor
  · rintro (hp | ⟨s, e₁, hopens | _, -⟩)
    · cases hp with
      | popped hid hc => exact ⟨_, _, hid, hc, rfl⟩
    · cases hopens with
      | asked hd => nomatch hd
  · rintro ⟨i, older, hid, hc, rfl⟩
    exact .inl (.popped hid hc)

theorem amends_popLocal {index : Nat} : Amends n (.popLocal index) e p ↔
    ∃ i older, e.own[index]? = some i.id ∧ e.chain = i :: older ∧ p = (e.chain, older) := by
  constructor
  · rintro (hp | ⟨s, e₁, hopens | _, -⟩)
    · cases hp with
      | poppedLocal hid hc => exact ⟨_, _, hid, hc, rfl⟩
    · cases hopens with
      | asked hd => nomatch hd
  · rintro ⟨i, older, hid, hc, rfl⟩
    exact .inl (.poppedLocal hid hc)

theorem amends_letHook {h : RuleHook Action} {run : Script} : Amends n (.letHook h run) e p ↔
    p = (e.chain, ⟨e.nextHook, .rules h⟩ :: e.chain) ∨ Edited n run (binding (.rules h) e) p := by
  constructor
  · rintro (hp | ⟨s, e₁, hopens | _, hp⟩)
    · cases hp
      exact .inl rfl
    · cases hopens with
      | bound => exact .inr hp
      | asked hd => nomatch hd
  · rintro (rfl | hp)
    · exact .inl .bound
    · exact .inr ⟨run, _, .enters .bound, hp⟩

theorem amends_choose {q : Query} {run otherwise : Script} :
    Amends n (.choose q run otherwise) e p ↔
      Edited n (if e.holds q then run else otherwise) e p := by
  constructor
  · rintro (hp | ⟨s, e₁, hopens | _, hp⟩)
    · nomatch hp
    · cases hopens with
      | chosen => exact hp
      | asked hd => nomatch hd
  · exact fun hp => .inr ⟨_, e, .enters .chosen, hp⟩

/-! ### The trail of an action -/

variable {sub : Script → Act Unit}

/-- The newest hook is removed if it is the one that is named. -/
theorem trails_pop (id : HookId) (e : Engine) :
    Trails (fun p => ∃ i older, id = i.id ∧ e.chain = i :: older ∧ p = (e.chain, older)) e
      (pop id e) := by
  rcases pop_cases id e with ⟨i, older, hc, hid, hpop⟩ | ⟨hnone, v, hpop⟩ <;> rw [hpop]
  · refine trails_single (c := older) rfl fun p => ⟨?_, ?_⟩
    · rintro ⟨_, _, -, hcons, rfl⟩
      cases hc.symm.trans hcons
      rfl
    · rintro rfl
      exact ⟨i, older, hid.symm, hc, rfl⟩
  · refine (inert_violate v).trails e ?_
    rintro p ⟨i, older, hid, hc, -⟩
    exact hnone i older hc hid.symm

/-- If a script can name no such hook, nothing is removed. -/
theorem trails_popNamed (name : Option HookId) (e : Engine) :
    Trails (fun p => ∃ i older, name = some i.id ∧ e.chain = i :: older ∧ p = (e.chain, older)) e
      (popNamed name e) := by
  rcases name with - | id
  · exact (inert_trace _).trails e fun p ⟨i, older, hnone, _⟩ => nomatch hnone
  · refine (trails_pop id e).congr fun p => ?_
    simp only [Option.some.injEq]

/-- A guard that cannot end leaves the chain as it is. -/
theorem chain_of_release_error {id : HookId} {stop : Stop} {e₁ : Engine}
    (h : release id e = .error stop e₁) : e₁.chain = e.chain := by
  unfold release at h
  rw [bind_of_ok (get_eq_ok.mpr ⟨rfl, rfl⟩)] at h
  rcases hu : e.unwinding with - | - <;> rw [hu] at h
  · rcases pop_cases id e with ⟨i, older, -, -, hpop⟩ | ⟨-, v, hpop⟩
    · cases hpop.symm.trans h
    · cases hpop.symm.trans h
      rfl
  · cases h

/-- The end of a guard edits the chain, if it can end. -/
theorem trails_release (id : HookId) (e : Engine) :
    Trails (fun p => ∃ e₁, release id e = .ok () e₁ ∧ p = (e.chain, e₁.chain)) e
      (release id e) := by
  rcases hr : release id e with ⟨_, e₁⟩ | ⟨payload | _ | _ | _, e₁⟩
  · exact trails_single (c := e₁.chain) rfl fun p => by simp
  · exact trails_none (chain_of_release_error hr) fun p ⟨_, hok, _⟩ => nomatch hok
  all_goals trivial

/-- A block under a hook: the hook is installed, the block follows, and the hook is removed. -/
theorem trails_withHook {h : Hook} {block : HookId → Act Unit} {E : Edit → Prop}
    (hblock : Trails E (install h e).2 (block e.nextHook (install h e).2)) :
    Trails (fun p => (p = (e.chain, ⟨e.nextHook, h⟩ :: e.chain) ∨
      (∃ e₁ e₂, block e.nextHook (install h e).2 = .ok () e₁ ∧
        release e.nextHook e₁ = .ok () e₂ ∧ p = (e₁.chain, e₂.chain)) ∨
      ∃ payload e₁, block e.nextHook (install h e).2 = .error (.unwound payload) e₁ ∧
        p = (e₁.chain, (discard e.nextHook e₁).chain)) ∨ E p) e (withHook h block e) := by
  have hinstalled : Linked e.chain [(e.chain, ⟨e.nextHook, h⟩ :: e.chain)] (install h e).2.chain :=
    ⟨rfl, rfl⟩
  have hboth := Trails.extend hinstalled (fun p => List.mem_singleton) hblock
  rw [withHook_eq]
  rcases ho : block e.nextHook (install h e).2 with ⟨_, e₁⟩ | ⟨payload | _ | _ | _, e₁⟩ <;>
    rw [ho] at hboth
  · obtain ⟨trail, hlinked, hmem⟩ := hboth
    have hend := (trails_release e.nextHook e₁).bind_inert fun _ => inert_pure ()
    refine (Trails.extend hlinked hmem hend).congr fun p => ?_
    rw [or_right_comm]
    refine or_congr_right ⟨?_, ?_⟩
    · rintro (⟨_, e₂, hok, hrelease, hp⟩ | ⟨_, _, hunwound, -⟩)
      · cases hok
        exact ⟨e₂, hrelease, hp⟩
      · nomatch hunwound
    · exact fun ⟨e₂, hrelease, hp⟩ => .inl ⟨e₁, e₂, rfl, hrelease, hp⟩
  · obtain ⟨trail, hlinked, hmem⟩ := hboth
    have hend : Trails (fun p => p = (e₁.chain, (discard e.nextHook e₁).chain)) e₁
        (.error (.unwound payload) (discard e.nextHook e₁) : EStateM.Result Stop Engine Unit) :=
      trails_single (c := (discard e.nextHook e₁).chain) rfl fun p => Iff.rfl
    refine (Trails.extend hlinked hmem hend).congr fun p => ?_
    rw [or_right_comm]
    refine or_congr_right ⟨?_, ?_⟩
    · rintro (⟨_, _, hok, -⟩ | ⟨_, _, hunwound, hp⟩)
      · nomatch hok
      · cases hunwound
        exact hp
    · exact fun hp => .inr ⟨payload, e₁, rfl, hp⟩
  all_goals trivial

/-- A block that has a name for a hook: the hook is installed, and the block follows. -/
theorem trails_letHook {h : Hook} {block : Act Unit} {E : Edit → Prop}
    (hblock : Trails E (binding h e) (block (binding h e))) :
    Trails (fun p => p = (e.chain, ⟨e.nextHook, h⟩ :: e.chain) ∨ E p) e (letHook h block e) := by
  have hinstalled : Linked e.chain [(e.chain, ⟨e.nextHook, h⟩ :: e.chain)] (binding h e).chain :=
    ⟨rfl, rfl⟩
  have hboth := Trails.extend hinstalled (fun p => List.mem_singleton) hblock
  rw [letHook_eq]
  rcases ho : block (binding h e) with ⟨_, e₁⟩ | ⟨_ | _ | _ | _, e₁⟩ <;> rw [ho] at hboth
  · exact hboth
  · exact hboth
  all_goals trivial

theorem edits_withHook {h : RuleHook Action} {run : Script} : Edits sub (.withHook h run) e p ↔
    p = (e.chain, ⟨e.nextHook, .rules h⟩ :: e.chain) ∨
      (∃ e₁ e₂, sub run (enlist true (.rules h) e) = .ok () e₁ ∧
        release e.nextHook e₁ = .ok () e₂ ∧ p = (e₁.chain, e₂.chain)) ∨
      ∃ payload e₁, sub run (enlist true (.rules h) e) = .error (.unwound payload) e₁ ∧
        p = (e₁.chain, (discard e.nextHook e₁).chain) := by
  constructor
  · intro hp
    cases hp with
    | installed => exact .inl rfl
    | released hend hrelease => exact .inr (.inl ⟨_, _, hend, hrelease, rfl⟩)
    | dropped hend => exact .inr (.inr ⟨_, _, hend, rfl⟩)
  · rintro (rfl | ⟨e₁, e₂, hend, hrelease, rfl⟩ | ⟨payload, e₁, hend, rfl⟩)
    · exact .installed
    · exact .released hend hrelease
    · exact .dropped hend

section Nested

variable (hsub : ∀ script e, Trails (Edited n script e) e (performWithin n script e))

include hsub

/-- An event is put to the hooks if they receive it, and otherwise does nothing. -/
theorem trails_event (event : LogEvent) (e : Engine) :
    Trails (Amends n (.event event) e) e (act (performWithin n) (.event event) e) := by
  rcases hd : emission? e (.event event) with - | d
  · have hunseen : ¬ (e.subscriber == .chain) = true := by
      intro hchain
      simp only [emission?, hchain, if_true] at hd
      cases hd
    have hnothing : act (performWithin n) (.event event) e = .ok () e := by
      rw [act, log, bind_of_ok (get_eq_ok.mpr ⟨rfl, rfl⟩), if_neg hunseen]
      rfl
    rw [hnothing]
    exact trails_none rfl fun p => not_amends_of_event hd
  · rw [act_of_emission hd]
    exact (trails_dispatch hsub d e).congr fun p => amends_of_emission hd

/-- A test edits the chain only in its body. -/
theorem trails_test (run : Script) (e : Engine) :
    Trails (Amends n (.execute run) e) e (act (performWithin n) (.execute run) e) := by
  refine Trails.bind_inert (x := execute (performWithin n run)) ?_ fun v => inert_trace _
  rcases hc : e.context with - | c
  · refine (trails_execute hc (hsub run e.entered)).congr fun p => ?_
    rw [amends_execute, and_iff_right hc]
  · have hviolates : Lands (fun e' => e'.chain = e.chain) (execute (performWithin n run) e) := by
      rw [execute_of_active hc]
      exact inert_violate _ e
    refine trails_none hviolates fun p hp => ?_
    obtain ⟨hidle, -⟩ := amends_execute.mp hp
    rw [hc] at hidle
    cases hidle

/-- A hook that is installed for a block. -/
theorem trails_hooked (h : RuleHook Action) (run : Script) (e : Engine) :
    Trails (Amends n (.withHook h run) e) e (act (performWithin n) (.withHook h run) e) := by
  -- the hook is given its name first, which is no edit
  let block : HookId → Act Unit := fun id => do
    modify fun e => { e with pushed := e.pushed ++ [id] }
    performWithin n run
  have hblock : Trails (Edited n run (enlist true (.rules h) e)) (install (.rules h) e).2
      (block e.nextHook (install (.rules h) e).2) :=
    (hsub run (enlist true (.rules h) e)).of_chain rfl
  refine (trails_withHook hblock).congr fun p => ?_
  rw [amends_withHook, edits_withHook]
  rfl

/-- The edits of one action form a trail if those of the scripts nested in it do. -/
theorem trails_act (a : Action) (e : Engine) :
    Trails (Amends n a e) e (act (performWithin n) a e) := by
  have hbare : ∀ {b : Action}, Inert (act (performWithin n) b) → b.isBare = true →
      Trails (Amends n b e) e (act (performWithin n) b e) :=
    fun hinert hb => hinert.trails e fun p => not_amends_of_isBare hb
  rcases a with text | c | p | ⟨handle, count⟩ | handle | handle | ⟨file, line, message⟩ | v |
    message | payload | d | event | run | ⟨run, onDrop⟩ | run | run | ⟨q, run, otherwise⟩ | h |
    index | ⟨h, run⟩ | ⟨h, run⟩ | index | d | ⟨level, message⟩ | ⟨verbosity, colours⟩ | - | - | - |
    - | - | name
  · exact hbare (inert_trace _) rfl
  · exact hbare (inert_check c) rfl
  · exact hbare (inert_require p) rfl
  · exact hbare (inert_collected handle fun seen => inert_ite (inert_pure ()) (inert_failAt _ _ _))
      rfl
  · exact hbare (inert_collected handle fun seen => inert_trace _) rfl
  · refine hbare (inert_get_bind fun e => ?_) rfl
    rcases e.counters[handle]? with - | seen
    · exact inert_trace _ e
    · exact inert_trace _ e
  · exact hbare (inert_failAt _ _ _) rfl
  · exact hbare (inert_raise v) rfl
  · exact hbare (inert_violate _) rfl
  · exact hbare (inert_unwind _) rfl
  · exact (trails_dispatch hsub d e).congr fun p => amends_of_emission rfl
  · exact trails_event hsub event e
  · exact ((trails_onThread (hsub run e.spawned)).traceEnd _).congr fun p => amends_thread
  · exact (trails_guarded (hsub run e) (hsub onDrop)).congr fun p => amends_guarded
  · exact ((trails_catching (hsub run e)).traceEnd _).congr fun p => amends_catch
  · exact trails_test hsub run e
  · rw [act_choose]
    exact (hsub _ e).congr fun p => amends_choose
  · exact trails_single (c := ⟨e.nextHook, .rules h⟩ :: e.chain) rfl fun p => amends_pushHook
  · exact (trails_popNamed e.pushed[index]? e).congr fun p => amends_popHook
  · exact trails_hooked hsub h run e
  · exact (trails_letHook (hsub run (binding (.rules h) e))).congr fun p => amends_letHook
  · exact (trails_popNamed e.own[index]? e).congr fun p => amends_popLocal
  · exact hbare (inert_bind (inert_defaultAnswer d) fun _ => inert_trace _) rfl
  · exact hbare (inert_bailOut _ _) rfl
  · exact hbare (fun _ => rfl) rfl
  · exact hbare (inert_get_bind fun e => inert_trace _ e) rfl
  · exact hbare (inert_get_bind fun e => inert_trace _ e) rfl
  · exact hbare (inert_get_bind fun e => inert_trace _ e) rfl
  · exact hbare (inert_get_bind fun e => inert_trace _ e) rfl
  · exact hbare inert_intercept rfl
  · exact hbare (inert_trace _) rfl

end Nested

/-- The edits of a script, however it nests, lead from the chain before it to the chain after it. -/
theorem trails_performWithin (n : Nat) (script : Script) (e : Engine) :
    Trails (Edited n script e) e (performWithin n script e) := by
  -- nested scripts are less deep, and what is left of a script is as deep as the whole
  induction n generalizing script e with
  | zero => trivial
  | succ n ih =>
    induction script generalizing e with
    | nil => exact (inert_pure ()).trails e fun p => not_edited_nil
    | cons a script ihs =>
      rw [performWithin_cons]
      refine ((trails_act ih a e).bind fun _ e₁ _ => ihs e₁).congr fun p => ?_
      rw [edited_cons]
      exact or_congr_right ⟨fun h => ⟨(), h⟩, fun ⟨_, h⟩ => h⟩

end Actions

end Engine

end TestEngine
