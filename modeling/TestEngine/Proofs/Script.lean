/-
TestEngine/Proofs/Script.lean

Which actions a script is made of.  Actions hold scripts of their own, and so do the
hooks that they push, so an action can stand in a script at any depth (`Script.Has`).
A script is *within* a class of actions if it has no others; a hook is if the scripts of
its rules are.  What a script does to the engine can then be bounded by its class.
-/
import TestEngine.Engine.Basic

namespace TestEngine

/-- The scripts of the rules of a hook. -/
def RuleHook.scripts (h : RuleHook Action) : List Script := h.rules.map Rule.run

/-- The scripts that stand right in an action. -/
def Action.scripts : Action → List Script
  | .thread run => [run]
  | .guarded run onDrop => [run, onDrop]
  | .catch run => [run]
  | .execute run => [run]
  | .choose _ run otherwise => [run, otherwise]
  | .pushHook h => h.scripts
  | .withHook h run => run :: h.scripts
  | .letHook h run => run :: h.scripts
  | _ => []

namespace Script

/-- The action stands in the script, or in a script that one of its actions holds. -/
inductive Has : Script → Action → Prop
  | here {script : Script} {a : Action} (h : a ∈ script) : Has script a
  | inside {script s : Script} {a b : Action} (hb : b ∈ script) (hs : s ∈ b.scripts)
      (h : Has s a) : Has script a

/-- All actions of the script, at any depth, are in the class `A`. -/
def Within (A : Action → Prop) (script : Script) : Prop := ∀ a, Has script a → A a

@[simp] theorem has_nil (a : Action) : ¬ Has [] a := by
  intro h
  cases h with
  | here h => nomatch h
  | inside hb _ _ => nomatch hb

@[simp] theorem has_cons {a b : Action} {script : Script} :
    Has (b :: script) a ↔ a = b ∨ (∃ s ∈ b.scripts, Has s a) ∨ Has script a := by
  constructor
  · intro h
    cases h with
    | here h =>
      rcases List.mem_cons.mp h with rfl | h
      · exact .inl rfl
      · exact .inr (.inr (.here h))
    | inside hb hs h =>
      rcases List.mem_cons.mp hb with rfl | hb
      · exact .inr (.inl ⟨_, hs, h⟩)
      · exact .inr (.inr (.inside hb hs h))
  · rintro (rfl | ⟨s, hs, h⟩ | h)
    · exact .here (List.mem_cons_self ..)
    · exact .inside (List.mem_cons_self ..) hs h
    · cases h with
      | here h => exact .here (List.mem_cons_of_mem _ h)
      | inside hb hs h => exact .inside (List.mem_cons_of_mem _ hb) hs h

end Script

/-- The scripts that the hook runs are within a class of actions. -/
def Hook.Within (A : Action → Prop) : Hook → Prop
  | .failIfLogged _ => True
  | .expecting _ => True
  | .rules h => ∀ s ∈ h.scripts, Script.Within A s

/-- What the hooks in the chain run is within a class of actions. -/
def Engine.Within (A : Action → Prop) (e : Engine) : Prop := ∀ i ∈ e.chain, i.hook.Within A

/-- Every script is within the class of all actions. -/
theorem Script.within_all (script : Script) : Script.Within (fun _ => True) script :=
  fun _ _ => trivial

theorem Hook.within_all (h : Hook) : h.Within fun _ => True := by
  rcases h with _ | _ | hook
  · trivial
  · trivial
  · exact fun s _ => Script.within_all s

theorem Engine.within_all (e : Engine) : e.Within fun _ => True := fun i _ => i.hook.within_all

end TestEngine
