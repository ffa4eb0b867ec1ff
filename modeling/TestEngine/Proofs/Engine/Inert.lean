/-
TestEngine/Proofs/Engine/Inert.lean

Effects that leave the chain of hooks alone.  Only few effects of the engine change the chain; all
that records, counts, checks, prints or gives up does not (`Inert`), and neither does what is done
about a diagnostic when the hooks have been asked.
-/
import TestEngine.Proofs.Engine.Classify

namespace TestEngine

namespace Engine

/-- The effect leaves the chain of hooks as it is. -/
def Inert {α : Type} (act : Act α) : Prop :=
  ∀ e, Lands (fun e' => e'.chain = e.chain) (act e)

section Inert

variable {α β : Type}

theorem inert_pure (a : α) : Inert (pure a) := fun _ => rfl

theorem inert_bind {x : Act α} {f : α → Act β} (hx : Inert x) (hf : ∀ a, Inert (f a)) :
    Inert (x >>= f) := by
  intro e
  have hfirst := hx e
  rcases hxe : x e with ⟨a, e₁⟩ | ⟨stop, e₁⟩ <;> rw [hxe] at hfirst
  · rw [bind_of_ok hxe]
    exact (hf a e₁).mono fun _ h => h.trans hfirst
  · rw [bind_of_error hxe]
    exact hfirst.of_error

theorem inert_ite {c : Prop} [Decidable c] {x y : Act α} (hx : Inert x) (hy : Inert y) :
    Inert (if c then x else y) :=
  fun e => lands_ite (hx e) (hy e)

/-- The part of an effect after reading the state may make use of the state read. -/
theorem inert_get_bind {f : Engine → Act α}
    (hf : ∀ e, Lands (fun e' => e'.chain = e.chain) (f e e)) : Inert (get >>= f) := hf

theorem inert_note (x : Entry) : Inert (note x) := fun _ => rfl

theorem inert_unwind (payload : Payload) : Inert (unwind payload : Act α) := fun _ => rfl

theorem inert_violate (v : Violation) : Inert (violate v : Act α) :=
  inert_bind (inert_note _) fun _ => inert_unwind _

theorem inert_printDiagnostic (text : String) : Inert (printDiagnostic text) := fun _ => rfl

theorem inert_trace (text : String) : Inert (trace text) := inert_note _

theorem inert_collect (counter : Nat) : Inert (collect counter) := by
  refine inert_get_bind fun e => ?_
  rcases e.counters[counter]? with - | amount
  · exact inert_pure none e
  · rfl

/-- What is done with the number of a counter, if there is one. -/
theorem inert_collected (handle : Nat) {f : Nat → Act Unit} (hf : ∀ seen, Inert (f seen)) :
    Inert (do
      match ← collect handle with
      | none => trace "no such handle"
      | some seen => f seen) := by
  refine inert_bind (inert_collect handle) fun seen => ?_
  rcases seen with - | seen
  · exact inert_trace _
  · exact hf seen

theorem inert_record (v : Verdict) : Inert (record v) := by
  intro e
  rcases hc : e.context with - | c
  · rw [record_of_idle hc]
    rfl
  · rw [record_of_active hc]
    rfl

theorem inert_raise (v : Verdict) : Inert (raise v : Act α) := by
  refine inert_bind (inert_record v) fun owner => ?_
  rcases owner with - | owner
  · exact inert_violate _
  · exact inert_unwind _

theorem inert_request (v : Verdict) : Inert (request v) := by
  refine inert_bind (inert_record v) fun owner => ?_
  rcases owner with - | owner
  · exact inert_pure _
  · exact inert_get_bind fun e => inert_ite (inert_unwind _) (inert_pure _) e

theorem inert_failAt (file : String) (line : Nat) (message : String) :
    Inert (failAt file line message : Act α) := by
  refine inert_get_bind fun e => ?_
  rcases e.debug.fatalAsserts with - | -
  · exact inert_raise _ e
  · trivial

theorem inert_check (c : Check) : Inert (check c) := by
  unfold check
  rcases c.failure? with - | message
  · exact inert_pure ()
  · exact inert_failAt _ _ _

theorem inert_require (p : Prerequisite) : Inert (require p) := by
  refine inert_get_bind fun e => ?_
  rcases p.refusal? e.flags with - | message
  · exact inert_pure () e
  · exact inert_raise _ e

theorem inert_bailOut (level : Option Level) (message : String) :
    Inert (bailOut level message : Act α) :=
  (keeps_bailOut (R := fun e e' => e'.chain = e.chain) level message).lands

theorem inert_defaultAnswer (d : Diagnostic) : Inert (defaultAnswer d) := by
  intro e
  obtain ⟨a, journal, hanswer⟩ := defaultAnswer_eq_ok d e
  rw [hanswer]
  exact rfl

theorem inert_noteSuppressed (d : Diagnostic) : Inert (noteSuppressed d) :=
  inert_get_bind fun e => lands_ite (inert_printDiagnostic _ e) (inert_pure _ e)

theorem inert_carryOut (d : Diagnostic) (a : Answer) : Inert (carryOut d a) := by
  rcases a with _ | _ | _ | message | _
  · exact inert_pure _
  · exact inert_pure _
  · exact inert_noteSuppressed d
  · exact inert_bind (inert_request _) fun _ => inert_ite (inert_bailOut _ _) (inert_pure _)
  · exact inert_bailOut _ _

theorem inert_intercept : Inert intercept := by
  refine inert_get_bind fun e => ?_
  rcases e.subscriber with _ | _ | _
  · rfl
  · exact inert_violate _ e
  · rfl

end Inert

end Engine

end TestEngine
