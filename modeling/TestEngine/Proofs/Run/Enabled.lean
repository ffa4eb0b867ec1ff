/-
TestEngine/Proofs/Run/Enabled.lean

From mode arguments to skips.  The mode arguments fall into three groups, on performance tests, on
slow tests and on tests of undefined behaviour.  The last argument of a group counts, whatever
stands between (`Options.mode_eq`).  The flags of a mode say the same, one bit for each setting
(`Mode.has_flags_eq`).

A runner that is created publishes the flags of its mode, and they stay what they are until another
one is created: no script, no test and no run changes them (`Onward.flags_eq`).  So in a body, a
prerequisite skips just if it asks for a flag that the arguments have left out
(`enables_of_options`).
-/
import Mathlib.Data.List.Induction
import TestEngine.Proofs.Run.Aborted
import TestEngine.Proofs.Run.Discipline
import TestEngine.Proofs.Run.Settings

namespace TestEngine

/-! ### Modes of arguments -/

namespace CommandLine

/-- The argument is about slow tests. -/
def ModeArg.isPace : ModeArg → Bool
  | .slow => true
  | .thorough => true
  | .quick => true
  | _ => false

/-- The argument is about tests of undefined behaviour. -/
def ModeArg.isDefinedness : ModeArg → Bool
  | .undefined => true
  | .noUndefined => true
  | _ => false

/-- Each group of arguments changes a setting of its own, and the last one of a group counts. -/
theorem foldl_apply (modes : List ModeArg) (m : Mode) :
    let pace := (modes.filter ModeArg.isPace).getLast?
    let definedness := (modes.filter ModeArg.isDefinedness).getLast?
    modes.foldl ModeArg.apply m =
      { m with
        perf := m.perf || modes.contains .perf
        thorough := (pace.map (· != .quick)).getD m.thorough
        undefined := (definedness.map (· == .undefined)).getD m.undefined } := by
  induction modes using List.reverseRecOn with
  | nil => simp
  | append_singleton modes a ih =>
    rw [List.foldl_append, ih, List.filter_append, List.filter_append, List.getLast?_append,
      List.getLast?_append]
    cases a <;> simp [ModeArg.apply, ModeArg.isPace, ModeArg.isDefinedness]

/-- The mode arguments decide on three settings, and on nothing else. -/
theorem Options.mode_eq (o : Options) (terminal : Bool) :
    let pace := (o.modes.filter ModeArg.isPace).getLast?
    let definedness := (o.modes.filter ModeArg.isDefinedness).getLast?
    o.mode terminal =
      { ({ o with modes := [] } : Options).mode terminal with
        perf := o.modes.contains .perf
        thorough := (pace.map (· != .quick)).getD false
        undefined := (definedness.map (· == .undefined)).getD true } :=
  foldl_apply o.modes _

end CommandLine

namespace Engine

/-! ### After a runner is created -/

/-- Without another runner being created, the process goes on to the last state: it carries out
scripts and tests, has trees run, and makes handles. -/
inductive Onward : Engine → Engine → Prop
  | here {e : Engine} : Onward e e
  | script {script : Script} {e e₁ e₂ : Engine} (hend : Ended (perform script) e e₁)
      (h : Onward e₁ e₂) : Onward e e₂
  | test {script : Script} {e e₁ e₂ : Engine} (hend : Ended (execute (perform script)) e e₁)
      (h : Onward e₁ e₂) : Onward e e₂
  | suite {mode : Mode} {t : Tree} {root : ObjectId} {e e₁ e₂ : Engine}
      (hend : Ended (runSuite mode t root) e e₁) (h : Onward e₁ e₂) : Onward e e₂
  | counter {e e₁ : Engine} (h : Onward (newCounter e).2 e₁) : Onward e e₁

/-- Without another runner being created, the process comes into a body and, in its course, to the
last state. -/
inductive Inside : Engine → Engine → Prop
  | script {script : Script} {k : Nat} {e e₁ : Engine} (h : Visits depthLimit script e (k + 1) e₁) :
      Inside e e₁
  | test {script : Script} {k : Nat} {e e₁ e₂ : Engine} (henter : enter e = .ok () e₁)
      (h : Visits depthLimit script e₁ k e₂) : Inside e e₂
  | suite {mode : Mode} {t : Tree} {root : ObjectId} {x : Errand} {k : Nat} {e e₁ e₂ : Engine}
      (hlist : mode.listOnly = false)
      (hsends : Run.Sends mode root (Run.start t (Run.announced t root e)) x e₁)
      (h : x.Visits e₁ (k + 1) e₂) : Inside e e₂

variable {e e₁ : Engine}

theorem deepens_flags : Deepens fun e e' => e'.flags = e.flags :=
  ⟨fun _ => rfl, fun _ => rfl, fun _ _ => rfl⟩

/-- No script changes the flags, wherever it has come to. -/
theorem Visits.flags_eq {n k : Nat} {script : Script} (h : Visits n script e k e₁) :
    e₁.flags = e.flags :=
  h.relates (respected_flags (fun _ => True) fun _ => True) (fun _ => trivial) deepens_flags
    fun _ => rfl

/-- A runner publishes the flags of its mode. -/
theorem flags_of_prepare {mode : Mode} (h : prepare mode e = .ok () e₁) :
    e₁.flags = mode.flags := by
  unfold prepare at h
  obtain ⟨_, e', -, hset⟩ := bind_eq_ok.mp h
  rw [← modify_eq_ok.mp hset]

theorem Onward.flags_eq (h : Onward e e₁) : e₁.flags = e.flags := by
  have hR := respected_flags (fun _ => True) fun _ => True
  have hscript : ∀ script : Script, Keeps (fun _ => True) _ (perform script) := fun script =>
    keeps_perform hR (fun _ => trivial) script.within_all
  induction h with
  | here => rfl
  | script hend _ ih => exact ih.trans ((hscript _).of_ended hend)
  | @test script _ _ _ hend _ ih =>
    have htest := keeps_execute hR (fun _ => trivial) (hscript script)
    exact ih.trans (htest.of_ended hend)
  | @suite mode t root _ _ _ hend _ ih =>
    have hsuite := keeps_runSuite hR (fun _ => trivial) mode t.within_all root
    exact ih.trans (hsuite.of_ended hend)
  | counter _ ih => exact ih

theorem Inside.flags_eq (h : Inside e e₁) : e₁.flags = e.flags := by
  have hR := respected_flags (fun _ => True) fun _ => True
  cases h with
  | script h => exact h.flags_eq
  | test henter h =>
    obtain ⟨-, rfl⟩ := enter_eq_ok.mp henter
    exact h.flags_eq
  | suite hlist hsends h =>
    have hsent := hsends.relates hR fun _ => trivial
    refine Eq.trans ?_ hsent
    cases h with
    | asked hask h =>
      have hasked := hask.relates hR (fun _ => trivial)
        (fun s _ => keeps_perform hR (fun _ => trivial) s.within_all) deepens_flags
      exact h.flags_eq.trans hasked
    | unit hidle h => exact h.flags_eq
    | teardown h => exact h.flags_eq

theorem Inside.isActive (h : Inside e e₁) : e₁.isActive = true := by
  have hpos : 0 < e₁.isActive.toNat := by
    cases h with
    | script h =>
      have hcount := h.count_eq
      omega
    | test henter h =>
      obtain ⟨-, rfl⟩ := enter_eq_ok.mp henter
      have hcount := h.count_eq
      have hentered : e.entered.isActive.toNat = 1 := rfl
      omega
    | suite hlist hsends h =>
      have hcount := h.count_eq
      omega
  exact Bool.toNat_eq_one.mp (Nat.le_antisymm (Bool.toNat_le _) hpos)

/-! ### Prerequisites -/

/-- In this state, the prerequisite ends the running test with a skip. -/
def Skips (e : Engine) (p : Prerequisite) (message : String) : Prop :=
  ∃ c, e.context = some c ∧
    require p e = .error (.unwound .abortSignal) (recording (.skip message) c e)

/-- A prerequisite about flags skips if the flags in force lack some of them. -/
theorem require_flags {c : Context} (hc : e.context = some c) (required : ModeFlags)
    (message : Option String) :
    require (.flags required message) e =
      if e.flags.contains required then .ok () e
      else
        let message := message.getD ("missing prerequisite flags: " ++ required.text)
        .error (.unwound .abortSignal) (recording (.skip message) c e) := by
  unfold require
  rw [bind_of_ok (get_eq_ok.mpr ⟨rfl, rfl⟩)]
  rcases hflags : e.flags.contains required with - | -
  · simp only [Prerequisite.refusal?, hflags]
    exact raise_of_active hc _
  · simp only [Prerequisite.refusal?, hflags]
    rfl

/-- It skips or lets the test go on, and that depends on single flags. -/
theorem skips_flags_iff (hactive : e.isActive = true) (required : ModeFlags)
    (message : Option String) :
    (Skips e (.flags required message)
        (message.getD ("missing prerequisite flags: " ++ required.text)) ↔
      ∃ f, required.has f = true ∧ e.flags.has f = false) ∧
    (require (.flags required message) e = .ok () e ↔
      ¬ ∃ f, required.has f = true ∧ e.flags.has f = false) := by
  obtain ⟨c, hc⟩ := Option.isSome_iff_exists.mp hactive
  have hrequire := require_flags hc required message
  have hcontains : e.flags.contains required = true ↔
      ¬ ∃ f, required.has f = true ∧ e.flags.has f = false := by
    rw [ModeFlags.contains_iff]
    simp
  rw [← hcontains, ← not_not (a := ∃ f, _), ← hcontains]
  unfold Skips
  rw [hrequire]
  by_cases h : e.flags.contains required = true
  · simp [h]
  · simp [h, hc]

end Engine

open Engine

/-- What the mode arguments of a command line enable. -/
structure CommandLine.Options.Enables (o : CommandLine.Options) (terminal : Bool) : Prop where
  /-- Performance tests are enabled if that is asked for anywhere, -/
  perf : (o.mode terminal).perf = true ↔ .perf ∈ o.modes
  /-- slow tests if the last argument about them does not ask for quick ones, -/
  thorough : (o.mode terminal).thorough = true ↔
    ∃ a, (o.modes.filter ModeArg.isPace).getLast? = some a ∧ a ≠ .quick
  /-- and tests of undefined behaviour unless the last argument about them forbids them. -/
  undefined : (o.mode terminal).undefined = false ↔
    (o.modes.filter ModeArg.isDefinedness).getLast? = some .noUndefined
  /-- So it does not matter how the arguments about different classes of tests are mixed. -/
  mixed : ∀ modes : List ModeArg,
    modes.filter (· = .perf) = o.modes.filter (· = .perf) →
    modes.filter ModeArg.isPace = o.modes.filter ModeArg.isPace →
    modes.filter ModeArg.isDefinedness = o.modes.filter ModeArg.isDefinedness →
    ({ o with modes } : Options).mode terminal = o.mode terminal
  /-- The flags say what the mode does; -/
  flags : ∀ f, (o.mode terminal).flags.has f = (o.mode terminal).enables f
  /-- one of these two is set, -/
  pace : (o.mode terminal).flags.has .quick = !(o.mode terminal).flags.has .thorough
  /-- and at most one of these two. -/
  verbosity :
    ¬ ((o.mode terminal).flags.has .verbose = true ∧ (o.mode terminal).flags.has .quiet = true)
  /-- When a runner has been created with the mode, and no other since, then anywhere inside a body
  a prerequisite skips just if it requires a flag that is not set, and otherwise nothing happens. -/
  skips : ∀ {e e₁ e₂ e₃ : Engine}, prepare (o.mode terminal) e = .ok () e₁ → Onward e₁ e₂ →
    Inside e₂ e₃ → ∀ (required : ModeFlags) (message : Option String),
      let missing := ∃ f, required.has f = true ∧ (o.mode terminal).flags.has f = false
      (Skips e₃ (.flags required message)
        (message.getD ("missing prerequisite flags: " ++ required.text)) ↔ missing) ∧
      (require (.flags required message) e₃ = .ok () e₃ ↔ ¬ missing)

/-- Whatever the mode arguments are, and in whatever order, they enable what the last ones of their
groups say. -/
theorem CommandLine.enables_of_options (o : Options) (terminal : Bool) : o.Enables terminal where
  perf := by
    rw [o.mode_eq]
    simp
  thorough := by
    rw [o.mode_eq]
    rcases (o.modes.filter ModeArg.isPace).getLast? with - | a
    · simp
    · simp
  undefined := by
    rw [o.mode_eq]
    rcases hlast : (o.modes.filter ModeArg.isDefinedness).getLast? with - | a
    · simp
    · have ha : a.isDefinedness = true := (List.mem_filter.mp (List.mem_of_getLast? hlast)).2
      cases a with
      | undefined | noUndefined => simp
      | perf | slow | thorough | quick => exact absurd ha Bool.false_ne_true
  mixed modes hperf hpace hdefinedness := by
    have hcontains : modes.contains .perf = o.modes.contains .perf := by
      have hmem : ∀ as : List ModeArg,
          as.contains .perf = (as.filter (· = .perf)).contains .perf := by
        intro as
        simp
      rw [hmem, hperf, ← hmem]
    rw [Options.mode_eq, hcontains, hpace, hdefinedness, o.mode_eq]
  flags := (o.mode terminal).has_flags_eq
  pace := by
    rw [Mode.has_flags_eq, Mode.has_flags_eq]
    rfl
  verbosity := by
    rw [Mode.has_flags_eq, Mode.has_flags_eq]
    rintro ⟨hverbose, hquiet⟩
    exact absurd ((eq_of_beq hverbose).symm.trans (eq_of_beq hquiet)) (by decide)
  skips hcreated honward hinside required message := by
    have hflags := hinside.flags_eq.trans (honward.flags_eq.trans (flags_of_prepare hcreated))
    rw [← hflags]
    exact skips_flags_iff hinside.isActive required message

/-- Slow tests are asked for and then quick ones, with performance tests in between: on a thread of
a test, the prerequisite of slow tests skips, and that of performance tests does not. -/
theorem CommandLine.enables_of_interleaved :
    let o : Options := { Options.none with modes := [.slow, .perf, .quick] }
    let e := (endOf (prepare (o.mode false) .initial)).entered.spawned
    (o.mode false).thorough = false ∧ Skips e .thorough "thorough tests disabled" ∧
      require .perf e = .ok () e := by
  intro o e
  have henables := enables_of_options o false
  have hcreated : prepare (o.mode false) .initial =
      .ok () (endOf (prepare (o.mode false) .initial)) := eq_ok_endOf (by decide)
  have hvisits : Visits depthLimit [.thread []]
      (endOf (prepare (o.mode false) .initial)).entered 0 e := .inside .thread .start
  have hinside : Inside (endOf (prepare (o.mode false) .initial)) e :=
    .test (enter_of_idle rfl) hvisits
  have hthorough := henables.skips hcreated .here hinside (.single .thorough)
    (some "thorough tests disabled")
  have hperf := henables.skips hcreated .here hinside (.single .perf)
    (some "performance tests disabled")
  refine ⟨rfl, hthorough.1.mpr ⟨.thorough, rfl, by decide⟩, hperf.2.mpr ?_⟩
  rintro ⟨f, hrequired, hmissing⟩
  cases f with
  | perf => exact absurd hmissing (by decide)
  | thorough | quick | undefined | verbose | quiet => exact absurd hrequired (by decide)

end TestEngine
