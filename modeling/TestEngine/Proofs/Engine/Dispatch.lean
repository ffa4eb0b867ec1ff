/-
TestEngine/Proofs/Engine/Dispatch.lean

How a diagnostic is put to the hooks, when the hooks are programs that change the chain while it is
walked.  A dispatch walks the chain as it is when it begins: it asks the hooks newest first, up to
the first that decides or unwinds, and each in the state in which the one before it has let the
diagnostic pass (`Walk`).  Then the last answer given is carried out, the default hook being asked
for one just if all others let the diagnostic pass (`Concludes`).

That the walk goes by a snapshot is all that re-entrance takes: a hook that is popped meanwhile is
asked as any other, and one that is pushed is not there to be asked.  The chain afterwards is as
the last hook asked has left it, so the pushes and pops in the scripts of the hooks, in their order,
are all that has changed it (`Dispatched`).  The same holds of what these scripts emit, at whatever
depth, with the chain as it is then (`dispatched_within`).
-/
import TestEngine.Proofs.Engine.Trail

namespace TestEngine

namespace Engine

/-! ### Walking the chain -/

/-- One hook is asked: the state before the question, and how the asking ends. -/
structure Consultation where
  hook : Installed
  before : Engine
  outcome : EStateM.Result Stop Engine Answer

/-- What asking the hooks in order comes to: what asking the last one comes to. -/
def lastOutcome (e : Engine) (asked : List Consultation) : EStateM.Result Stop Engine Answer :=
  asked.getLast?.elim (.ok .proceed e) Consultation.outcome

/-- Of the hooks `is`, those in the list are asked about the diagnostic, and no others. -/
structure Walk (n : Nat) (d : Diagnostic) (is : List Installed) (e : Engine)
    (asked : List Consultation) : Prop where
  /-- They are asked in order, starting with the newest. -/
  snapshot : asked.map Consultation.hook <+: is
  first : ∀ c, asked[0]? = some c → c.before = e
  /-- Each hook but the first is asked as soon as the one before it lets the diagnostic pass. -/
  passed : ∀ k c c', asked[k]? = some c → asked[k + 1]? = some c' →
    c.outcome = .ok .proceed c'.before
  /-- It is noted that the hook is asked, and then the hook is asked. -/
  handled : ∀ c ∈ asked, c.outcome =
    askHook (performWithin n) d c.hook.hook (asking c.hook d c.before)
  /-- If all hooks asked let the diagnostic pass, there are no others. -/
  complete : (∀ c ∈ asked, ∃ e₁, c.outcome = .ok .proceed e₁) → asked.map Consultation.hook = is

section Walk

variable {n : Nat} {d : Diagnostic} {i : Installed} {is : List Installed} {e e₁ : Engine}
  {asked : List Consultation}

theorem lastOutcome_cons (c : Consultation) (asked : List Consultation) (e : Engine) :
    lastOutcome e (c :: asked) = asked.getLast?.elim c.outcome Consultation.outcome := by
  rw [lastOutcome, List.getLast?_cons]
  rcases asked.getLast? with - | c' <;> rfl

/-- A hook that lets the diagnostic pass, and the walk through the others. -/
theorem Walk.cons (h : askHook (performWithin n) d i.hook (asking i d e) = .ok .proceed e₁)
    (hwalk : Walk n d is e₁ asked) :
    Walk n d (i :: is) e (⟨i, e, .ok .proceed e₁⟩ :: asked) where
  snapshot := List.cons_prefix_cons.mpr ⟨rfl, hwalk.snapshot⟩
  first c hc := by
    cases hc
    rfl
  passed k c c' hc hc' := by
    rcases k with - | k
    · cases hc
      rw [hwalk.first c' hc']
    · exact hwalk.passed k c c' hc hc'
  handled := List.forall_mem_cons.mpr ⟨h.symm, hwalk.handled⟩
  complete hall := by
    rw [List.map_cons, hwalk.complete (List.forall_mem_cons.mp hall).2]

/-- A hook that does not let the diagnostic pass is the last that is asked. -/
theorem walk_single {o : EStateM.Result Stop Engine Answer}
    (h : askHook (performWithin n) d i.hook (asking i d e) = o) (ho : ∀ e₁, o ≠ .ok .proceed e₁) :
    Walk n d (i :: is) e [⟨i, e, o⟩] where
  snapshot := ⟨is, rfl⟩
  first c hc := by
    cases hc
    rfl
  passed k c c' hc hc' := by
    rcases k with - | k <;> nomatch hc'
  handled c hc := by
    rw [List.mem_singleton.mp hc, h]
  complete hall := by
    obtain ⟨e₁, hpass⟩ := hall _ (List.mem_singleton_self _)
    exact absurd hpass (ho e₁)

/-- Asking the hooks in order is a walk. -/
theorem exists_walk (n : Nat) (d : Diagnostic) (is : List Installed) (e : Engine) :
    ∃ asked, Walk n d is e asked ∧ askAll (performWithin n) d is e = lastOutcome e asked := by
  -- the list stays what it was at the beginning, whatever the hooks do to the chain of the state
  induction is generalizing e with
  | nil =>
    exact ⟨[], ⟨List.prefix_refl [], by simp, by simp, by simp, fun _ => rfl⟩, rfl⟩
  | cons i is ih =>
    rw [askAll_cons]
    rcases h : askHook (performWithin n) d i.hook (asking i d e) with ⟨a, e₁⟩ | ⟨stop, e₁⟩
    · by_cases ha : a = .proceed
      · subst ha
        obtain ⟨asked, hwalk, hall⟩ := ih e₁
        exact ⟨_, hwalk.cons h, by rw [lastOutcome_cons]; exact hall⟩
      · refine ⟨_, walk_single h fun e₂ hpass => ?_, ?_⟩
        · cases hpass
          exact ha rfl
        · rcases a with _ | _ | _ | _ | _
          · exact absurd rfl ha
          all_goals rfl
    · exact ⟨_, walk_single h (fun e₂ hpass => nomatch hpass), rfl⟩

end Walk

/-! ### Dispatching -/

/-- What follows when the hooks have been asked.  A hook that unwinds ends the dispatch; otherwise
the last answer is noted and carried out, and the default hook gives it if the others do not. -/
inductive Concludes (d : Diagnostic) :
    EStateM.Result Stop Engine Answer → EStateM.Result Stop Engine Unit → Prop
  | stopped {stop : Stop} {e : Engine} : Concludes d (.error stop e) (.error stop e)
  | answered {a : Answer} {e : Engine} (ha : a ≠ .proceed) :
      Concludes d (.ok a e) (carryOut d a (deciding d a e))
  | unanswered {a : Answer} {e e₁ : Engine} (h : defaultAnswer d e = .ok a e₁) :
      Concludes d (.ok .proceed e) (carryOut d a (deciding d a e₁))

/-- How a diagnostic is dispatched, in which the hooks in the list are asked. -/
structure Dispatched (n : Nat) (d : Diagnostic) (e : Engine) (asked : List Consultation)
    (o : EStateM.Result Stop Engine Unit) : Prop where
  /-- The hooks asked are those in the chain when the dispatch begins. -/
  walk : Walk n d e.chain e asked
  concludes : Concludes d (lastOutcome e asked) o
  /-- Each hook edits the chain in the script of its rule, if at all. -/
  edits : ∀ c ∈ asked, Trails (HookEdits n d c.hook c.before) c.before c.outcome
  /-- What is done when the hooks have been asked leaves the chain as it is. -/
  chain : Lands (fun e' => e'.chain = (endOf (lastOutcome e asked)).chain) o
  /-- So all in all the chain is changed by the edits in the scripts of the hooks asked. -/
  trail : Trails (AskedEdits n d e.chain e) e o

section Dispatched

variable {n : Nat} {d : Diagnostic} {e e₁ : Engine} {a : Answer}

/-- The end of a dispatch, from what asking the hooks has come to. -/
theorem concludes_dispatch {o : EStateM.Result Stop Engine Answer}
    (h : askAll (performWithin n) d e.chain e = o) :
    Concludes d o (dispatch (performWithin n) d e) := by
  rcases o with ⟨a, e₁⟩ | ⟨stop, e₁⟩
  · by_cases ha : a = .proceed
    · subst ha
      obtain ⟨a, journal, hdefault⟩ := defaultAnswer_eq_ok d e₁
      rw [dispatch_of_unanswered h, bind_of_ok hdefault]
      exact .unanswered hdefault
    · rw [dispatch_of_answered h ha]
      exact .answered ha
  · rw [dispatch_of_error h]
    exact .stopped

theorem Concludes.chain {o : EStateM.Result Stop Engine Answer}
    {o' : EStateM.Result Stop Engine Unit} (h : Concludes d o o') :
    Lands (fun e' => e'.chain = (endOf o).chain) o' := by
  cases h with
  | @stopped stop e => rcases stop with _ | _ | _ | _ <;> trivial
  | answered _ => exact inert_carryOut d _ _
  | @unanswered a e e₁ h =>
    obtain ⟨b, journal, hdefault⟩ := defaultAnswer_eq_ok d e
    rw [h] at hdefault
    cases hdefault
    exact inert_carryOut d a _

theorem exists_dispatched (n : Nat) (d : Diagnostic) (e : Engine) :
    ∃ asked, Dispatched n d e asked (dispatch (performWithin n) d e) := by
  obtain ⟨asked, hwalk, hall⟩ := exists_walk n d e.chain e
  have hconcludes := concludes_dispatch hall
  refine ⟨asked, hwalk, hconcludes, fun c hc => ?_, hconcludes.chain,
    trails_dispatch (trails_performWithin n) d e⟩
  rw [hwalk.handled c hc]
  exact trails_askHook (trails_performWithin n) d c.hook c.before

end Dispatched

/-- So every diagnostic is dispatched in every state, and so is what an action emits, wherever a
script carries it out, with the chain as it is then. -/
theorem dispatched_within (n : Nat) (d : Diagnostic) (e : Engine) :
    (∃ asked, Dispatched n d e asked (dispatch (performWithin n) d e)) ∧
      ∀ m a e₁ d', emission? e₁ a = some d' →
        ∃ asked, Dispatched m d' e₁ asked (act (performWithin m) a e₁) := by
  refine ⟨exists_dispatched n d e, fun m a e₁ d' hemits => ?_⟩
  rw [act_of_emission hemits]
  exact exists_dispatched m d' e₁

/-- A hook that pops itself and the one below it, pushes another, and logs to that one: the one
below is asked all the same, and the new one only about what is logged then. -/
example :
    let late : RuleHook Action := ⟨none, []⟩
    let older : RuleHook Action := ⟨none, []⟩
    let newer : RuleHook Action := ⟨none, [⟨some "net", none, none,
      [.popHook 1, .popHook 0, .pushHook late, .emit ⟨"disk", .message, "full", false⟩], .proceed⟩]⟩
    let e := endOf (perform [.pushHook older, .pushHook newer,
      .emit ⟨"net", .message, "lost", false⟩] .initial)
    askedSince .initial e = [2, 3, 1] ∧ e.chain.map Installed.id = [3] := by
  decide +kernel

end Engine

end TestEngine
