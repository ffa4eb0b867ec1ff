/-
TestEngine/Proofs/Run/Settings.lean

Output settings do not change outcomes.  Two modes that differ in the verbosity and the colours
only (`Mode.DiffersInOutput`) set up engines that differ in the console and the flags, and so their
runs stay abreast, unless a script asks for the one or the other (`Action.Discreet`): a script can
find out whether the run is verbose or quiet from the flags, and from the console, which is set to
what the mode says.  The runs end in the same way, with the same summary, and print the same lines
of the report (`unmoved_of_run`).

The diagnostics that are printed are another matter: these differ.  But with the same colours, a
run at a higher verbosity prints all that a run at a lower one does, in the same order.
-/
import Mathlib.Data.List.Induction
import TestEngine.Proofs.Run.Abreast

namespace TestEngine

/-! ### Flags -/

theorem ModeFlag.exists_rank : ∀ i < 6, ∃ f : ModeFlag, f.rank = i
  | 0, _ => ⟨.perf, rfl⟩
  | 1, _ => ⟨.thorough, rfl⟩
  | 2, _ => ⟨.quick, rfl⟩
  | 3, _ => ⟨.undefined, rfl⟩
  | 4, _ => ⟨.verbose, rfl⟩
  | 5, _ => ⟨.quiet, rfl⟩

namespace ModeFlags

variable {a b : ModeFlags} {f g : ModeFlag}

theorem has_union : (a.union b).has f = (a.has f || b.has f) := BitVec.getLsbD_or

theorem has_single : (single f).has g = decide (g = f) := by
  cases f <;> cases g <;> rfl

/-- One set of flags contains another if it has all its flags. -/
theorem contains_iff : a.contains b = true ↔ ∀ f, b.has f = true → a.has f = true := by
  unfold contains has
  rw [beq_iff_eq]
  constructor
  · intro h f hf
    have hbit := congrArg (·.getLsbD f.rank) h
    simpa [hf] using hbit
  · intro h
    apply BitVec.eq_of_getLsbD_eq
    intro i hi
    obtain ⟨f, rfl⟩ := ModeFlag.exists_rank i hi
    rw [BitVec.getLsbD_and]
    rcases hb : b.bits.getLsbD f.rank with - | -
    · rw [Bool.and_false]
    · rw [h f hb, Bool.and_true]

/-- A set of flags has those that it is made of. -/
theorem has_ofList (fs : List ModeFlag) (f : ModeFlag) :
    (ofList fs).has f = fs.contains f := by
  induction fs using List.reverseRecOn with
  | nil => cases f <;> rfl
  | append_singleton fs g ih =>
    unfold ofList at ih ⊢
    rw [List.foldl_append]
    show (union _ (single g)).has f = _
    rw [has_union, has_single, ih]
    simp

end ModeFlags

/-- The flag tells the verbosity. -/
def ModeFlag.OfVerbosity (f : ModeFlag) : Prop := f = .verbose ∨ f = .quiet

namespace Mode

/-- The modes differ in the verbosity and in the colours at most. -/
def DiffersInOutput (m m' : Mode) : Prop :=
  m' = { m with verbosity := m'.verbosity, colours := m'.colours }

variable {m m' : Mode}

theorem DiffersInOutput.symm (h : m.DiffersInOutput m') : m'.DiffersInOutput m := by
  unfold DiffersInOutput at *
  rw [h]

theorem DiffersInOutput.agrees (h : m.DiffersInOutput m') : m.Agrees m' := by
  unfold DiffersInOutput at h
  rw [h]
  exact ⟨rfl, rfl, rfl⟩

/-- The mode has the setting that the flag stands for. -/
def enables (m : Mode) : ModeFlag → Bool
  | .perf => m.perf
  | .thorough => m.thorough
  | .quick => !m.thorough
  | .undefined => m.undefined
  | .verbose => m.verbosity == .verbose
  | .quiet => m.verbosity == .quiet

theorem has_flags_eq (m : Mode) (f : ModeFlag) : m.flags.has f = m.enables f := by
  unfold flags
  rw [ModeFlags.has_ofList]
  -- the list depends on four settings, which have few values
  rcases m with ⟨perf, thorough, undefined, verbosity⟩
  cases f with
  | perf | thorough | quick | undefined | verbose | quiet =>
    cases perf <;> cases thorough <;> cases undefined <;> cases verbosity <;> rfl

/-- All other flags are those of normal verbosity. -/
theorem has_flags {f : ModeFlag} (hf : ¬ f.OfVerbosity) (m : Mode) :
    m.flags.has f = { m with verbosity := .normal }.flags.has f := by
  rw [has_flags_eq, has_flags_eq]
  cases f with
  | verbose => exact absurd (.inl rfl) hf
  | quiet => exact absurd (.inr rfl) hf
  | perf | thorough | quick | undefined => rfl

theorem DiffersInOutput.has_flags (h : m.DiffersInOutput m') {f : ModeFlag}
    (hf : ¬ f.OfVerbosity) : m'.flags.has f = m.flags.has f := by
  unfold DiffersInOutput at h
  rw [Mode.has_flags hf m', Mode.has_flags hf m, h]
  rfl

end Mode

namespace Action

/-- The action does not ask for flags that tell the verbosity. -/
def Reserved (a : Action) : Prop :=
  ∀ required, a.flags? = some required → ∀ f : ModeFlag, f.OfVerbosity → required.has f = false

/-- The action asks neither for such flags nor for the settings of the console. -/
structure Discreet (a : Action) : Prop where
  reserved : a.Reserved
  console : ¬ a.Reads .console

end Action

/-- The flags that such an action asks for are in force in both modes, or in none. -/
theorem Mode.DiffersInOutput.contains_eq {m m' : Mode} (h : m.DiffersInOutput m') {a : Action}
    (ha : a.Reserved) {required : ModeFlags} (hrequired : a.flags? = some required) :
    m'.flags.contains required = m.flags.contains required := by
  rw [Bool.eq_iff_iff, ModeFlags.contains_iff, ModeFlags.contains_iff]
  refine forall_congr' fun f => imp_congr_right fun hf => ?_
  rw [h.has_flags fun hv => absurd (ha required hrequired f hv) (by simp [hf])]

namespace Engine

variable {mode mode' : Mode} {t : Tree} {e : Engine}

/-! ### Two settings -/

/-- The engine set up for two modes; all resources are shared but the console, which differs. -/
def Pairing.settings (e : Engine) (mode mode' : Mode) (sees : Channel → Bool) : Pairing where
  start := e.prepared mode
  start' := e.prepared mode'
  reads := fun x => x ≠ .console
  writes := fun _ => True
  sees := sees

section Settings

variable {sees : Channel → Bool} (hmodes : mode.DiffersInOutput mode')

include hmodes

theorem Pairing.allows_settings {script : Script} (hs : Script.Within Action.Discreet script) :
    Script.Within (Pairing.settings e mode mode' sees).Allows script := by
  refine fun a ha => ⟨?_, fun _ _ => trivial, fun required hrequired => ?_⟩
  · rintro x hx rfl
    exact (hs a ha).console hx
  · exact hmodes.contains_eq (hs a ha).reserved hrequired

theorem Pairing.permitted_settings (ht : t.Within Action.Discreet) :
    t.Permitted (Pairing.settings e mode mode' sees) := fun c data hdata =>
  ⟨fun s hs => allows_settings hmodes (ht c data hdata s hs), fun _ _ => trivial⟩

theorem Pairing.admits_settings {h : Hook} (hh : h.Within Action.Discreet) :
    (Pairing.settings e mode mode' sees).Admits h := by
  rcases h with policies | expectations | hook
  · trivial
  · exact fun _ _ => trivial
  · exact fun s hs => allows_settings hmodes (hh s hs)

/-- The two runs end in the same way, and in engines that are kin. -/
theorem alike_of_settings (sees : Channel → Bool) (root : ObjectId)
    (ht : t.Within Action.Discreet) (he : e.Within Action.Discreet)
    (hconsole : sees .diagnostic = true → mode'.colours = mode.colours ∧
      mode.verbosity.rank ≤ mode'.verbosity.rank) :
    Alike (Pairing.settings e mode mode' sees).Kin (runSuite mode t root (e.prepared mode))
      (runSuite mode' t root (e.prepared mode')) := by
  refine couples_runSuite hmodes.agrees (Pairing.permitted_settings hmodes ht) root _ _ ?_
  refine Pairing.kin_settings (k := .settings e mode mode' sees) rfl
    (fun i hi => Pairing.admits_settings hmodes (he i hi)) (fun hsees => ?_)
    fun hx => absurd rfl hx
  exact ⟨(hconsole hsees).1, (hconsole hsees).2⟩

/-- What is looked at of the output of the first run is in that of the second one. -/
theorem seen_of_settings (sees : Channel → Bool) (root : ObjectId)
    (ht : t.Within Action.Discreet) (he : e.Within Action.Discreet)
    (hhears : e.subscriber ≠ .foreign)
    (hconsole : sees .diagnostic = true → mode'.colours = mode.colours ∧
      mode.verbosity.rank ≤ mode'.verbosity.rank) :
    ((since e (endOf (run mode t root e))).filterMap (Entry.seen? sees)).Sublist
      ((since e (endOf (run mode' t root e))).filterMap (Entry.seen? sees)) := by
  rw [run_of_hears hhears, run_of_hears hhears]
  rcases (alike_of_settings hmodes sees root ht he hconsole).cases with
    ⟨_, _, _, ho, ho', hends⟩ | ⟨_, _, _, ho, ho', hends⟩ <;> rw [ho, ho']
  · exact hends.echoes.since
  · exact hends.echoes.since

end Settings

theorem seen?_report : Entry.seen? (· == .report) = Entry.reportText? := by
  funext x
  rcases x with ⟨_ | _, _⟩ | _ | _ | _ | _ | _ | _ | _ | _ | _ | _ | _ | _ | _ | _ | _ <;> rfl

/-- What the second setting makes of a run. -/
structure Unmoved (mode mode' : Mode) (e : Engine) (o o' : EStateM.Result Stop Engine Summary) :
    Prop where
  /-- One run returns if the other one does, and with the same summary; -/
  value : valueOf o' = valueOf o
  /-- if it does not, it ends in the same way. -/
  stop : stopOf o' = stopOf o
  /-- The lines of the report are the same, -/
  report : reportTextsSince e (endOf o') = reportTextsSince e (endOf o)
  /-- and the louder of two runs in the same colours prints all that the other one does. -/
  printed : mode'.colours = mode.colours → mode.verbosity.rank ≤ mode'.verbosity.rank →
    (printedSince e (endOf o)).Sublist (printedSince e (endOf o'))

/-- Output settings do not change outcomes: whatever the state from which two runs start, if the
modes differ in the verbosity and the colours only, and neither the tree nor the hooks ask for the
verbosity, be it by the flags or by the console, then the runs end in the same way and report the
same. -/
theorem unmoved_of_run (mode mode' : Mode) (t : Tree) (root : ObjectId) (e : Engine)
    (hmodes : mode.DiffersInOutput mode') (ht : t.Within Action.Discreet)
    (he : e.Within Action.Discreet) :
    Unmoved mode mode' e (run mode t root e) (run mode' t root e) := by
  by_cases hhears : e.subscriber = .foreign
  · -- neither of the runs begins
    rw [run_of_foreign hhears, run_of_foreign hhears]
    exact ⟨rfl, rfl, rfl, fun _ _ => .refl _⟩
  · -- each run reports all that the other one does, and so both report the same
    have hends := alike_of_settings hmodes (· == .report) root ht he fun hsees => nomatch hsees
    have hreport := seen_of_settings hmodes (· == .report) root ht he hhears fun hsees =>
      nomatch hsees
    have hreport' := seen_of_settings hmodes.symm (· == .report) root ht he hhears fun hsees =>
      nomatch hsees
    have hprinted : mode'.colours = mode.colours → mode.verbosity.rank ≤ mode'.verbosity.rank → _ :=
      fun hcolours hrank => seen_of_settings hmodes (fun _ => true) root ht he hhears fun _ =>
        ⟨hcolours, hrank⟩
    rw [seen?_report] at hreport hreport'
    rw [seen?_all] at hprinted
    refine ⟨?_, ?_, hreport'.antisymm hreport, hprinted⟩
    all_goals
      rw [run_of_hears hhears, run_of_hears hhears]
      rcases hends.cases with ⟨_, _, _, ho, ho', -⟩ | ⟨_, _, _, ho, ho', -⟩ <;> rw [ho, ho'] <;> rfl

/-- A case that fails because of what it logs, and one that is skipped. -/
def chattyCalls : List Tree.Call :=
  [.suite "s",
    .addCase 0 "a" [.emit ⟨"net", .message, "up", false⟩, .emit ⟨"net", .warning, "down", false⟩],
    .addCase 0 "b" [.require .thorough]]

theorem discreet_chatty : (Tree.ofCalls chattyCalls).Within Action.Discreet := by
  have hemit : ∀ d, (Action.emit d).Discreet := fun d => ⟨fun _ h => (nomatch h), not_false⟩
  intro id data hdata s hs a ha
  have hmem : data ∈ [.plain [.emit ⟨"net", .message, "up", false⟩,
      .emit ⟨"net", .warning, "down", false⟩], .plain [.require .thorough]] := Tree.mem_cases hdata
  rcases hmem with - | ⟨-, - | ⟨-, ⟨⟩⟩⟩
  · obtain rfl := List.mem_singleton.mp hs
    simp only [Script.has_cons, Action.scripts, Script.has_nil, List.not_mem_nil, false_and,
      exists_false, or_false, false_or] at ha
    rcases ha with rfl | rfl
    · exact hemit _
    · exact hemit _
  · obtain rfl := List.mem_singleton.mp hs
    simp only [Script.has_cons, Action.scripts, Script.has_nil, List.not_mem_nil, false_and,
      exists_false, or_false] at ha
    obtain rfl := ha
    refine ⟨fun required hrequired f hf => ?_, not_false⟩
    cases hrequired
    rcases hf with rfl | rfl
    · rfl
    · rfl

/-- A quiet run and a verbose one fail with the same message, only that the verbose one has more
to say. -/
theorem unmoved_of_chatty :
    let quiet := { Mode.default with verbosity := .quiet }
    let verbose := { Mode.default with verbosity := .verbose }
    let o := run quiet (Tree.ofCalls chattyCalls) 0 .initial
    let o' := run verbose (Tree.ofCalls chattyCalls) 0 .initial
    Unmoved quiet verbose .initial o o' ∧
      printedSince .initial (endOf o) = ["1..2",
        "not ok 1 /s/a # FAIL Unexpected message: WARNING: (net) down",
        "ok 2 /s/b # SKIP thorough tests disabled"] ∧
      printedSince .initial (endOf o') = ["1..2", "# INFO: (tapline) >>> /s/a",
        "# MESSAGE: (net) up", "not ok 1 /s/a # FAIL Unexpected message: WARNING: (net) down",
        "# INFO: (tapline) <<< /s/a", "# INFO: (tapline) >>> /s/b",
        "ok 2 /s/b # SKIP thorough tests disabled", "# INFO: (tapline) <<< /s/b"] :=
  ⟨unmoved_of_run _ _ _ 0 .initial rfl discreet_chatty (fun _ hi => nomatch hi),
    by decide +kernel, by decide +kernel⟩

/-- A case that fails if the console is quiet. -/
def peekingCalls : List Tree.Call :=
  [.suite "s", .addCase 0 "a" [.choose (.console .quiet false) [.raise (.fail "quiet")] []]]

theorem reserved_peeking : (Tree.ofCalls peekingCalls).Within Action.Reserved := by
  intro id data hdata s hs a ha
  have hmem : data ∈ [.plain [.choose (.console .quiet false) [.raise (.fail "quiet")] []]] :=
    Tree.mem_cases hdata
  obtain rfl := List.mem_singleton.mp hmem
  obtain rfl := List.mem_singleton.mp hs
  simp only [Script.has_cons, Action.scripts, List.mem_cons, List.not_mem_nil, or_false,
    exists_eq_or_imp, false_and, exists_const, Script.has_nil, or_self, ↓existsAndEq,
    and_false] at ha
  rcases ha with rfl | rfl
  · simp [Action.Reserved, Action.flags?]
  · simp [Action.Reserved, Action.flags?]

/-- The console tells what the flags would: a run without any query of flags fails if it is quiet, and
passes otherwise. -/
theorem moved_of_peeking :
    let quiet := { Mode.default with verbosity := .quiet }
    let t := Tree.ofCalls peekingCalls
    let verdicts := fun mode => (valueOf (run mode t 0 .initial)).map fun s => s.results.map Prod.snd
    quiet.DiffersInOutput .default ∧ t.Within Action.Reserved ∧
      Engine.initial.Within Action.Reserved ∧ verdicts quiet = some [.fail "quiet"] ∧
      verdicts .default = some [.pass] :=
  ⟨rfl, reserved_peeking, fun _ hi => (nomatch hi), by decide +kernel, by decide +kernel⟩

end Engine

end TestEngine
