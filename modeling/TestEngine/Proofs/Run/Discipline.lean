/-
TestEngine/Proofs/Run/Discipline.lean

The discipline of contexts.  What a process does is a sequence of operations: scripts, tests and
whole runs.  Each of them comes to many states, with bodies of tests around some
(`Operation.Visits`), and however it ends, if only the process goes on, the next one starts where
no test is running.

So at every point of such a sequence (`Disciplined`): a test is running exactly in the course of
one body; every body starts without an outcome and leaves no context behind; and an attempt to
start a second test is refused, with the context as it was, so that a body which catches the
violation ends like one which is spared the attempt.
-/
import TestEngine.Proofs.Engine.Spared
import TestEngine.Proofs.Run.Turn

namespace TestEngine

open Engine

/-! ### Operations -/

/-- What a process does at a time: it carries out a script or a test, or runs a tree. -/
inductive Operation
  | script (script : Script)
  | test (script : Script)
  | suite (mode : Mode) (t : Tree) (root : ObjectId)

namespace Operation

/-- The effect of an operation. -/
def act : Operation → Engine.Act Unit
  | .script s => perform s
  | .test s => do let _ ← execute (perform s)
  | .suite mode t root => do let _ ← run mode t root

/-- The operations are carried out in order, and the process goes on after each. -/
inductive Performed : List Operation → Engine → Engine → Prop
  | nil {e : Engine} : Performed [] e e
  | cons {op : Operation} {ops : List Operation} {e e₁ e₂ : Engine} (hop : Ended op.act e e₁)
      (h : Performed ops e₁ e₂) : Performed (op :: ops) e e₂

end Operation

/-! ### States of an operation -/

/-- In the course of an errand the engine comes to the last state, with `k` test bodies around
it. -/
inductive Errand.Visits : Errand → Engine → Nat → Engine → Prop
  | due {x : Errand} {e : Engine} : Errand.Visits x e 0 e
  | asked {event : LogEvent} {s : Script} {k : Nat} {e e₁ e₂ : Engine}
      (hask : Enters perform (.event event) e s e₁) (h : Engine.Visits depthLimit s e₁ k e₂) :
      Errand.Visits (.message event) e k e₂
  | unit {case : ObjectId} {unit k : Nat} {script : Script} {e e₁ : Engine}
      (hidle : e.context = none) (h : Engine.Visits depthLimit script (begun case unit e) k e₁) :
      Errand.Visits (.unit case unit script) e (k + 1) e₁
  | teardown {case : ObjectId} {k : Nat} {script : Script} {e e₁ : Engine}
      (h : Engine.Visits depthLimit script (tearing case e) k e₁) :
      Errand.Visits (.teardown case script) e k e₁

/-- In the course of an operation the engine comes to the last state, with `k` test bodies around
it. -/
inductive Operation.Visits : Operation → Engine → Nat → Engine → Prop
  | start {op : Operation} {e : Engine} : Operation.Visits op e 0 e
  | script {script : Script} {k : Nat} {e e₁ : Engine}
      (h : Engine.Visits depthLimit script e k e₁) : Operation.Visits (.script script) e k e₁
  | test {script : Script} {k : Nat} {e e₁ e₂ : Engine} (henter : enter e = .ok () e₁)
      (h : Engine.Visits depthLimit script e₁ k e₂) : Operation.Visits (.test script) e (k + 1) e₂
  | suite {mode : Mode} {t : Tree} {root : ObjectId} {x : Errand} {k : Nat} {e e₁ e₂ e₃ : Engine}
      (hlist : mode.listOnly = false) (hprepare : prepare mode e = .ok () e₁)
      (hsends : Run.Sends mode root (Run.start t (Run.announced t root e₁)) x e₂)
      (h : x.Visits e₂ k e₃) : Operation.Visits (.suite mode t root) e k e₃

variable {op : Operation} {ops : List Operation} {x : Errand} {k : Nat} {e e₁ e' : Engine}

theorem Errand.Visits.count_eq (h : x.Visits e k e₁) :
    e₁.isActive.toNat = e.isActive.toNat + k := by
  cases h with
  | due => rfl
  | asked hask h =>
    have hR := respected_isActive (fun _ => True) fun _ => True
    have hsame := hask.relates hR (fun _ => trivial)
      (fun s _ => keeps_perform hR (fun _ => trivial) s.within_all) deepens_isActive
    rw [h.count_eq, hsame]
  | unit hidle h => exact h.count_eq.trans (toNat_isActive_entered hidle _)
  | teardown h => exact h.count_eq

/-- The tests running in two states of an operation differ by the bodies between them. -/
theorem Operation.Visits.count_eq (h : op.Visits e k e₁) :
    e₁.isActive.toNat = e.isActive.toNat + k := by
  cases h with
  | start => rfl
  | script h => exact h.count_eq
  | test henter h =>
    obtain ⟨hidle, rfl⟩ := enter_eq_ok.mp henter
    exact h.count_eq.trans (toNat_isActive_entered hidle _)
  | @suite mode t root x k e e₂ e₃ e₁ hlist hprepare hsends h =>
    have hR := respected_isActive (fun _ => True) fun _ => True
    have hprepared : e₂.isActive = e.isActive :=
      (keeps_prepare hR (fun _ => trivial) fun _ => rfl).of_ended (.inl ⟨_, hprepare⟩)
    have hsent : e₃.isActive = e₂.isActive := hsends.relates hR fun _ => trivial
    rw [h.count_eq, hsent, hprepared]

/-- A relation that is respected, and does not depend on the settings of a run, relates the states
before and after an operation. -/
theorem Operation.keeps_act {P : Entry → Prop} {R : Engine → Engine → Prop}
    (hR : Respected (fun _ => True) P R) (hP : ∀ {x : Entry}, x.Alone → P x)
    (hmode : ∀ (mode : Mode) (e : Engine), R e
      { e with console := ⟨mode.verbosity, mode.colours⟩, flags := mode.flags })
    (op : Operation) : Keeps (fun _ => True) R op.act := by
  have hscript : ∀ script : Script, Keeps (fun _ => True) R (perform script) := fun script =>
    keeps_script hR (fun h => hP h.alone) script.within_all
  cases op with
  | script script => exact hscript script
  | test script =>
    exact keeps_bind hR (keeps_execute hR (fun h => hP h.plain.alone) (hscript script)) fun _ =>
      keeps_pure hR ()
  | suite mode t root =>
    exact keeps_bind hR (keeps_run hR hP (hmode mode) t.within_all root) fun _ => keeps_pure hR ()

/-- An operation makes no difference to whether a test is running. -/
theorem Operation.isActive_eq (h : Ended op.act e e') : e'.isActive = e.isActive := by
  have hR := respected_isActive (fun _ => True) fun _ => True
  exact (op.keeps_act hR (fun _ => trivial) fun _ _ => rfl).of_ended h

theorem Operation.Performed.isActive_eq (h : Performed ops e e') : e'.isActive = e.isActive := by
  induction h with
  | nil => rfl
  | cons hop _ ih => rw [ih, Operation.isActive_eq hop]

/-! ### The discipline -/

/-- The discipline of contexts, at a point where the process is between two operations. -/
structure Disciplined (e : Engine) : Prop where
  /-- No test is running. -/
  idle : e.context = none
  /-- In the course of the next operation, a test is running just if there is a body around, and
  there never are two. -/
  extent : ∀ op k e₁, Operation.Visits op e k e₁ → k ≤ 1 ∧ (e₁.isActive = true ↔ k = 1)
  /-- Outside of bodies, the body of a test is carried out on the current thread and starts without
  an outcome, and however the test ends, no test is running then. -/
  entered : ∀ op e₁, Operation.Visits op e 0 e₁ → ∀ body : Engine.Act Unit,
    execute body e₁ = concluded (body e₁.entered) ∧
      e₁.entered.context = some ⟨e₁.thread, none⟩ ∧
        ∀ e₂, Ended (execute body) e₁ e₂ → e₂.context = none
  /-- Inside of a body, a test is refused, and the context is left as it is. -/
  refused : ∀ op e₁, Operation.Visits op e 1 e₁ → ∀ body : Engine.Act Unit,
    execute body e₁ =
        .error (.unwound (.violation .alreadyActive)) (complaining .alreadyActive e₁) ∧
      (complaining .alreadyActive e₁).context = e₁.context
  /-- A test and a unit of a case end as if their body, and the hooks that it pushes, had not made
  the attempts whose violation they catch. -/
  spared : ∀ op e₁, Operation.Visits op e 0 e₁ → ∀ script script', Script.Spares script script' →
    Alike Resembles (execute (perform script) e₁) (execute (perform script') e₁) ∧
      ∀ case unit, Alike Resembles (runUnit case unit script e₁) (runUnit case unit script' e₁)

/-- Whatever a process has done since no test was running, it keeps the discipline. -/
theorem disciplined_of_performed (ops : List Operation) (e e' : Engine) (hidle : e.context = none)
    (h : Operation.Performed ops e e') : Disciplined e' := by
  have hidle' : e'.context = none := idle_of_isActive h.isActive_eq hidle
  have hnone : e'.isActive = false := congrArg Option.isSome hidle'
  have hcount : ∀ {op k e₁}, Operation.Visits op e' k e₁ → e₁.isActive.toNat = k := by
    intro op k e₁ hvisits
    have hcount := hvisits.count_eq
    rw [hnone] at hcount
    exact hcount.trans (Nat.zero_add k)
  have hout : ∀ {op e₁}, Operation.Visits op e' 0 e₁ → e₁.context = none := by
    intro op e₁ hvisits
    have hnone₁ : e₁.isActive = false := Bool.toNat_eq_zero.mp (hcount hvisits)
    exact idle_of_isActive (hnone₁.trans hnone.symm) hidle'
  refine ⟨hidle', fun op k e₁ hvisits => ?_, fun op e₁ hvisits body => ?_,
    fun op e₁ hvisits body => ?_, fun op e₁ hvisits script script' hspares => ?_⟩
  · rw [← hcount hvisits]
    rcases e₁.isActive with - | -
    · exact ⟨Nat.zero_le 1, by simp⟩
    · exact ⟨Nat.le_refl 1, by simp⟩
  · exact ⟨execute_of_idle (hout hvisits), rfl, fun e₂ => idle_of_ended (hout hvisits)⟩
  · have hactive : e₁.isActive = true := Bool.toNat_eq_one.mp (hcount hvisits)
    exact ⟨execute_of_isActive hactive, rfl⟩
  · have htracks := tracks_performWithin depthLimit hspares
    refine ⟨alike_execute htracks (hout hvisits), fun case unit => ?_⟩
    exact alike_execute (tracks_bind (tracks_note _ _) fun _ => htracks) (hout hvisits)

/-- A test that attempts another one and catches the violation, and then fails. -/
def attempting : Script := [.catch [.execute []], .raise (.fail "late")]

/-- The same test without the attempt. -/
def unattempting : Script := [.catch [], .raise (.fail "late")]

/-- The state after the first of them. -/
def attempted : Engine := endOf ((Operation.test attempting).act .initial)

/-- No test is running when it has ended; when it is carried out again, its attempt is refused again,
and it ends with the verdict of the other. -/
theorem disciplined_of_attempting :
    attempted.context = none ∧
      execute (perform []) attempted.entered =
        .error (.unwound (.violation .alreadyActive)) (complaining .alreadyActive attempted.entered) ∧
      valueOf (execute (perform attempting) attempted) =
        valueOf (execute (perform unattempting) attempted) := by
  have hdisciplined := disciplined_of_performed [.test attempting] .initial attempted rfl
    (.cons (.inl ⟨(), eq_ok_endOf (by decide +kernel)⟩) .nil)
  have hspares : Script.Spares attempting unattempting :=
    .cons (.caught (.cut .nil)) (.cons (.refl _) .nil)
  have henter : enter attempted = .ok () attempted.entered := enter_of_idle hdisciplined.idle
  refine ⟨hdisciplined.idle, ?_, ?_⟩
  · exact (hdisciplined.refused (.test attempting) _ (.test henter .start) _).1
  · exact (hdisciplined.spared (.test attempting) _ .start _ _ hspares).1.valueOf_eq

end TestEngine
