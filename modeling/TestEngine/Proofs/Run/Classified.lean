/-
TestEngine/Proofs/Run/Classified.lean

The three classes of diagnostics that a case can emit, for every emission in every run
(`classified_of_emission`): what an expectation of the case matches; what its policies and
those of its ancestors forbid, unless it is fatal; and the rest, which the hooks below decide.
-/
import TestEngine.Proofs.Run.Emission

namespace TestEngine

/-- The diagnostic fails a case that does not expect it: it is a critical or a warning, or a
policy of the case or of an ancestor names its domain and level. -/
def Tree.Forbids (t : Tree) (case : ObjectId) (d : Diagnostic) : Prop :=
  d.level = .critical ∨ d.level = .warning ∨
    ∃ a p, t.Over case a ∧ p ∈ t.policies a ∧ p.isMatch d = true

/-- A state that differs from `e` in one counter, which is one more, and in the journal. -/
def Engine.Counted (counter : Nat) (e e' : Engine) : Prop :=
  e' = { e with counters := e.counters.modify counter (· + 1), journal := e'.journal }

namespace Run

open Engine

variable {mode : Mode} {t : Tree}

/-- What becomes of a diagnostic that a case emits. -/
structure Classified (m : Emission mode t) : Prop where
  /-- If expectations of the case match, the first of them counts the diagnostic, and that is
  all: the body goes on, nothing is recorded for it, and no other hook is asked. -/
  expected : ∀ x, (t.expectations m.case).find? (·.isMatch m.diagnostic) = some x →
    ∃ e', m.outcome = .ok () e' ∧ Counted x.counter m.state e' ∧
      outcomesSince m.state e' = [] ∧ askedSince m.state e' = [m.inner]
  /-- Otherwise, if it is not fatal but forbidden, the body is unwound, a failure is recorded as
  the only outcome, and the unit ends with it.  The hooks below are not asked. -/
  forbidden : (t.expectations m.case).find? (·.isMatch m.diagnostic) = none →
    m.diagnostic.fatal = false → t.Forbids m.case m.diagnostic →
    ∃ e', m.outcome = .error (.unwound .abortSignal) e' ∧
      outcomesSince m.state e' = [.fail ("Unexpected message: " ++ m.diagnostic.plain)] ∧
      askedSince m.state e' = [m.inner, m.outer] ∧
      EndsWith (.fail ("Unexpected message: " ++ m.diagnostic.plain)) m.unitOutcome
  /-- Otherwise the hooks below are asked, newest first, and the first answer that is not to
  proceed is carried out, or that of the default hook if there is none. -/
  passed : (t.expectations m.case).find? (·.isMatch m.diagnostic) = none →
    m.diagnostic.fatal = true ∨ ¬ t.Forbids m.case m.diagnostic →
    let asked := passing m.outer m.inner m.diagnostic m.state
    (∀ a e', Answered (performWithin m.depth) m.diagnostic m.opened.chain asked a e' →
      a ≠ .proceed → m.outcome = carryOut m.diagnostic a (deciding m.diagnostic a e')) ∧
    (∀ e', Answered (performWithin m.depth) m.diagnostic m.opened.chain asked .proceed e' →
      m.outcome = (do
        let a ← defaultAnswer m.diagnostic
        note (.decided m.diagnostic a)
        carryOut m.diagnostic a) e') ∧
    ∀ stop e', askAll (performWithin m.depth) m.diagnostic m.opened.chain asked = .error stop e' →
      m.outcome = .error stop e'

namespace Emission

variable (m : Emission mode t)

/-- What the action records is the outcome of the unit. -/
theorem endsWith (owner : Nat) {v : Verdict} (h : Lands (Decided owner v) m.outcome) :
    EndsWith v m.unitOutcome := by
  rw [unitOutcome, runUnit_of_idle m.idle]
  exact endsWith_of_decided (m.occurs.lands_decided h)

/-- The policies of the hook above are those of the case and of its ancestors. -/
theorem forbids_iff (hforest : t.Forest) {d : Diagnostic} :
    t.Forbids m.case d ↔ d.level = .critical ∨ d.level = .warning ∨
      ∃ p ∈ t.inheritedPolicies m.case, p.isMatch d = true := by
  refine or_congr_right (or_congr_right ?_)
  constructor
  · rintro ⟨a, p, hover, hp, hmatch⟩
    exact ⟨p, (hforest.mem_inheritedPolicies m.isSome_node?).mpr ⟨a, hover, hp⟩, hmatch⟩
  · rintro ⟨p, hp, hmatch⟩
    obtain ⟨a, hover, hp⟩ := (hforest.mem_inheritedPolicies m.isSome_node?).mp hp
    exact ⟨a, p, hover, hp, hmatch⟩

/-- What is neither expected nor forbidden, or is fatal, is put to the hooks below. -/
theorem askAll_eq (hforest : t.Forest)
    (hx : (t.expectations m.case).find? (·.isMatch m.diagnostic) = none)
    (hallowed : m.diagnostic.fatal = true ∨ ¬ t.Forbids m.case m.diagnostic) :
    askAll (performWithin m.depth) m.diagnostic m.state.chain m.state =
      askAll (performWithin m.depth) m.diagnostic m.opened.chain
        (passing m.outer m.inner m.diagnostic m.state) := by
  refine askAll_passed m.bracketed hx (hallowed.imp_right fun hnot => ?_)
  rw [m.forbids_iff hforest] at hnot
  push Not at hnot
  obtain ⟨hcritical, hwarning, hpolicies⟩ := hnot
  exact ⟨hcritical, hwarning, fun p hp => by simpa using hpolicies p hp⟩

end Emission

/-- Every diagnostic that a case emits on a thread that does not unwind is in one of the three
classes. -/
theorem classified_of_emission (calls : List Tree.Call) (mode : Mode)
    (m : Emission mode (Tree.ofCalls calls)) (hcalm : m.state.unwinding = false) :
    Classified m := by
  have hforest := (Tree.sound_ofCalls calls).forest
  refine ⟨fun x hx => ?_, fun hx hfatal hforbids => ?_, fun hx hallowed => ?_⟩
  · rw [m.outcome_eq]
    obtain ⟨e', hok, hcounted, hasked, houtcomes⟩ := dispatch_expected m.bracketed hx
    exact ⟨e', hok, hcounted, houtcomes, hasked⟩
  · have hforbidden := (m.forbids_iff hforest).mp hforbids
    obtain ⟨e', hunwound, hdecided, hasked, houtcomes⟩ :=
      dispatch_forbidden m.bracketed (performWithin m.depth) hx hfatal hforbidden
    have hout : m.outcome = .error (.unwound .abortSignal) e' := by
      rw [m.outcome_eq, hunwound, hcalm]
      rfl
    refine ⟨e', hout, houtcomes, hasked, m.endsWith m.state.thread ?_⟩
    rw [hout]
    exact hdecided
  · have hall := m.askAll_eq hforest hx hallowed
    refine ⟨fun a e' hanswer ha => ?_, fun e' hanswer => ?_, fun stop e' herror => ?_⟩
    · rw [m.outcome_eq]
      exact dispatch_of_answered (hall.trans (askAll_eq_ok.mpr hanswer)) ha
    · rw [m.outcome_eq]
      exact dispatch_of_unanswered (hall.trans (askAll_eq_ok.mpr hanswer))
    · rw [m.outcome_eq]
      exact dispatch_of_error (hall.trans herror)

/-- A message of a kind that a suite may not allow its cases to log. -/
def lostPacket : Diagnostic := .new "net" .message "packet lost"

/-- A suite that does not, and a case that emits one and catches whatever comes of it. -/
def policedCalls : List Tree.Call :=
  [.suite "s", .addCase 0 "a" [.catch [.emit lostPacket]],
    .failIfLogged 0 ⟨"net", .single .message⟩]

/-- A process in which a hook has been pushed that would ignore everything. -/
def lenientEngine : Engine :=
  endOf (perform [.pushHook ⟨none, [⟨none, none, none, [], .ignore⟩]⟩] .initial)

theorem reached_lenientEngine : lenientEngine.Reached :=
  .performed (e := Engine.initial) _ (.initial .none .none)
    (.inl ⟨(), eq_ok_endOf (by decide +kernel)⟩)

/-- The message of this case, in a run of the suite under that hook. -/
def lostPacketEmission : Emission .default (Tree.ofCalls policedCalls) where
  root := 0
  engine := lenientEngine
  settled := []
  run := start (Tree.ofCalls policedCalls) (announced (Tree.ofCalls policedCalls) 0 lenientEngine)
  case := 1
  data := .new (.simple [.catch [.emit lostPacket]]) none
  body := .simple [.catch [.emit lostPacket]]
  opened := announced (Tree.ofCalls policedCalls) 0 lenientEngine
  unit := 0
  script := [.catch [.emit lostPacket]]
  start := bracketing 1 [⟨"net", .single .message⟩] []
    (announced (Tree.ofCalls policedCalls) 0 lenientEngine)
  depth := 998
  action := .emit lostPacket
  diagnostic := lostPacket
  state := begun 1 0 (bracketing 1 [⟨"net", .single .message⟩] []
    (announced (Tree.ofCalls policedCalls) 0 lenientEngine))
  reached := reached_lenientEngine
  progress := .refl _
  isCase := rfl
  hasBody := rfl
  selected := rfl
  opens := rfl
  starts := .simple
  idle := rfl
  occurs := .inside .caught .here
  emits := rfl
  onThread := rfl
  undecided := by decide +kernel
  unpushed := by decide +kernel

/-- The message fails the case, although the case catches the unwinding and the hook below would
have ignored it. -/
theorem classified_of_lostPacket :
    (∃ e', lostPacketEmission.outcome = .error (.unwound .abortSignal) e') ∧
      EndsWith (.fail "Unexpected message: MESSAGE: (net) packet lost")
        lostPacketEmission.unitOutcome := by
  have hclassified := classified_of_emission policedCalls .default lostPacketEmission rfl
  have hforbids : (Tree.ofCalls policedCalls).Forbids 1 lostPacket := by
    refine .inr (.inr ⟨0, ⟨"net", .single .message⟩, ?_, ?_, by decide⟩)
    · exact Relation.ReflTransGen.single (by decide +kernel)
    · decide +kernel
  obtain ⟨e', hunwound, -, -, hends⟩ := hclassified.forbidden rfl rfl hforbids
  have hmessage : "Unexpected message: " ++ lostPacket.plain =
      "Unexpected message: MESSAGE: (net) packet lost" := by decide +kernel
  rw [← hmessage]
  exact ⟨⟨e', hunwound⟩, hends⟩

end Run

end TestEngine
