/-
TestEngine/Proofs/Engine/Extent.lean

The extent of a test.  `Visits` follows a script through all that it does, down into the
scripts nested in it, and counts the test bodies around each state that it comes to.  A body
is entered where no test is running, and in its course one is, whatever the body does; so the
count is one if a test is running and zero if none is (`Visits.count_eq`).

That is because no effect makes a difference to whether a test is running (`respected_isActive`):
what enters a context also leaves it, and the attempt to enter a second one changes nothing but
the journal.
-/
import TestEngine.Proofs.Engine.Occurrence

namespace TestEngine

namespace Engine

variable {e e' e₁ : Engine}

/-! ### Tests begin and end -/

/-- No effect makes a difference to whether a test is running. -/
theorem respected_isActive (A : Action → Prop) (P : Entry → Prop) :
    Respected A P fun e e' => e'.isActive = e.isActive where
  refl _ := rfl
  trans h h' := h'.trans h
  noted _ _ _ := rfl
  printed _ _ := rfl
  installed _ named _ _ _ := by rcases named with _ | _ <;> rfl
  popped _ _ _ _ _ := rfl
  released {_ _ named _ _ _} _ h _ _ := by rcases named with _ | _ <;> exact h
  discarded {_ _ named _} _ h := by rcases named with _ | _ <;> exact h
  bound _ _ h := h
  recorded _ _ _ _ hc := by
    rw [isActive, isActive, hc]
    rfl
  tested hidle _ := by
    rw [isActive, isActive, hidle]
    rfl
  threaded h := h
  cleaned h := h
  asked _ _ h := h
  collected _ _ _ _ := rfl
  configured _ _ _ _ := rfl
  intercepted _ := rfl

theorem deepens_isActive : Deepens fun e e' => e'.isActive = e.isActive :=
  ⟨fun _ => rfl, fun _ => rfl, fun _ _ => rfl⟩

theorem idle_of_isActive (h : e'.isActive = e.isActive) (hidle : e.context = none) :
    e'.context = none := by
  unfold isActive at h
  rw [hidle] at h
  exact Option.not_isSome_iff_eq_none.mp (by rw [h]; simp)

/-- The context of a test is gone when the test has ended, in whatever way. -/
theorem lands_concluded (o : EStateM.Result Stop Engine Unit) :
    Lands (fun e' => e'.context = none) (concluded o) := by
  rcases o with ⟨_, e₁⟩ | ⟨payload | _ | _ | _, e₁⟩
  · rfl
  · rcases hv : verdictOn e₁.pending payload with - | v
    · simp only [concluded, hv]
      rfl
    · simp only [concluded, hv]
      rfl
  all_goals trivial

theorem idle_of_ended {body : Act Unit} (hidle : e.context = none)
    (hend : Ended (execute body) e e') : e'.context = none := by
  have hlands := lands_concluded (body e.entered)
  rw [← execute_of_idle hidle] at hlands
  exact Lands.of_ended hlands hend

/-- The state after a violation is reported. -/
def complaining (v : Violation) (e : Engine) : Engine :=
  { e with journal := .complained ("ERROR: contract violation: " ++ v.message) :: e.journal }

/-- A test within a test is refused, and nothing but the journal shows it. -/
theorem execute_of_isActive {body : Act Unit} (h : e.isActive = true) : execute body e =
    .error (.unwound (.violation .alreadyActive)) (complaining .alreadyActive e) := by
  obtain ⟨c, hc⟩ := Option.isSome_iff_exists.mp h
  exact execute_of_active hc

/-! ### Bodies around a state -/

/-- In the course of a script that is nested at most `n` deep, the engine comes to the last
state, with `k` test bodies around it that are carried out just then. -/
inductive Visits : Nat → Script → Engine → Nat → Engine → Prop
  | start {n : Nat} {script : Script} {e : Engine} : Visits n script e 0 e
  | ended {n : Nat} {a : Action} {script : Script} {e e₁ : Engine}
      (ha : Ended (act (performWithin n) a) e e₁) : Visits (n + 1) (a :: script) e 0 e₁
  | after {n k : Nat} {a : Action} {script : Script} {e e₁ e₂ : Engine}
      (ha : act (performWithin n) a e = .ok () e₁) (h : Visits (n + 1) script e₁ k e₂) :
      Visits (n + 1) (a :: script) e k e₂
  | inside {n k : Nat} {a : Action} {script s : Script} {e e₁ e₂ : Engine}
      (ha : Enters (performWithin n) a e s e₁) (h : Visits n s e₁ k e₂) :
      Visits (n + 1) (a :: script) e k e₂
  | tested {n k : Nat} {run script : Script} {e e₁ e₂ : Engine} (henter : enter e = .ok () e₁)
      (h : Visits n run e₁ k e₂) : Visits (n + 1) (.execute run :: script) e (k + 1) e₂

/-- A context is entered if there is none, and it has no outcome. -/
theorem enter_eq_ok : enter e = .ok () e₁ ↔ e.context = none ∧ e₁ = e.entered := by
  rcases hc : e.context with - | c
  · rw [enter_of_idle hc]
    constructor
    · rintro ⟨⟩
      exact ⟨rfl, rfl⟩
    · rintro ⟨-, rfl⟩
      rfl
  · constructor
    · intro h
      rcases e with ⟨_, _, context⟩
      subst hc
      nomatch h
    · rintro ⟨hidle, -⟩
      nomatch hidle

/-- Where a test is entered, there is one body more. -/
theorem toNat_isActive_entered (hidle : e.context = none) (k : Nat) :
    e.entered.isActive.toNat + k = e.isActive.toNat + (k + 1) := by
  have hnone : e.isActive = false := congrArg Option.isSome hidle
  rw [hnone]
  show 1 + k = 0 + (k + 1)
  omega

/-- The tests running in two states of a script differ by the bodies between them. -/
theorem Visits.count_eq {n k : Nat} {script : Script} (h : Visits n script e k e₁) :
    e₁.isActive.toNat = e.isActive.toNat + k := by
  have hact : ∀ {n a e e₁}, Ended (act (performWithin n) a) e e₁ → e₁.isActive = e.isActive := by
    intro n a e e₁ hend
    have hR := respected_isActive (fun _ => True) fun _ => True
    exact (keeps_actWithin hR (fun _ => trivial) n a).of_ended hend
  induction h with
  | start => rfl
  | ended ha => rw [hact ha, Nat.add_zero]
  | after ha _ ih => rw [ih, hact (.inl ⟨_, ha⟩)]
  | @inside n k a script s e e₁ e₂ ha _ ih =>
    have hR := respected_isActive (fun _ => True) fun _ => True
    have hsame : e₁.isActive = e.isActive := ha.relates hR (fun _ => trivial)
      (fun s _ => keeps_performWithin hR (fun _ => trivial) n s.within_all) deepens_isActive
    rw [ih, hsame]
  | tested henter _ ih =>
    obtain ⟨hidle, rfl⟩ := enter_eq_ok.mp henter
    exact ih.trans (toNat_isActive_entered hidle _)

/-- A relation that is respected, and survives the start of a thread, of a clean-up and of a test,
relates the state before a script to all that the script comes to. -/
theorem Visits.relates {P : Entry → Prop} {R : Engine → Engine → Prop}
    (hR : Respected (fun _ => True) P R) (hP : ∀ {x : Entry}, x.Quiet → P x)
    (hdeep : Deepens R) (henters : ∀ e : Engine, R e e.entered) {n k : Nat} {script : Script}
    (h : Visits n script e k e₁) : R e e₁ := by
  have hact : ∀ {n a e e₁}, Ended (act (performWithin n) a) e e₁ → R e e₁ :=
    fun hend => (keeps_actWithin hR hP _ _).of_ended hend
  induction h with
  | start => exact hR.refl _
  | ended ha => exact hact ha
  | after ha _ ih => exact hR.trans (hact (.inl ⟨_, ha⟩)) ih
  | @inside n k a script s e e₁ e₂ ha _ ih =>
    have hsub : ∀ script, Script.Within (fun _ => True) script →
        Keeps (fun _ => True) R (performWithin n script) := fun _ => keeps_performWithin hR hP n
    exact hR.trans (ha.relates hR hP hsub hdeep) ih
  | tested henter _ ih =>
    obtain ⟨-, rfl⟩ := enter_eq_ok.mp henter
    exact hR.trans (henters _) ih

end Engine

end TestEngine
