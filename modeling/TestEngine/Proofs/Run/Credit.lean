/-
TestEngine/Proofs/Run/Credit.lean

Who is credited in a run.  The hooks that credit counters are those with the expectations of the
cases, and each of them stands in the chain for as long as its case runs.  So if no such hook is in
the chain when a run begins, there is none when it has returned, and what a counter has been
credited with meanwhile are the questions to the hooks of cases that expected the diagnostic on
this counter (`count_of_ledger`).

A hook of a case is only asked in a unit of the case: what is logged between the units and around
the case, and what teardowns log, finds no such hook, or is not logged at all (`InUnits`).

A registry changes in the course of a run, since every case that runs adds its hook to it.  What is
proved of each stretch is therefore that it takes a registry that is right before to one that is
right after (`Ledger`), and such stretches may follow one another (`Charged.trans`).
-/
import TestEngine.Proofs.Engine.Registry
import TestEngine.Proofs.Run.Bracket
import TestEngine.Proofs.Run.Handle

namespace TestEngine

/-! ### Units in the journal -/

/-- The entry says that a unit has been started, a test left, or a teardown begun. -/
def Entry.isBoundary : Entry → Bool
  | .unitStarted .. => true
  | .left => true
  | .tearingDown .. => true
  | _ => false

theorem Entry.Quiet.not_isBoundary {x : Entry} (h : x.Quiet) : x.isBoundary = false := by
  rcases x with _ | _ | _ | _ | _ | _ | _ | _ | _ | _ | _ | _ | _ | _ | _ | _
  all_goals first
    | rfl
    | exact False.elim h

/-- The case whose unit is being carried out after the entry, from the one before it. -/
def Entry.turn (case : Option ObjectId) : Entry → Option ObjectId
  | .unitStarted started _ => some started
  | .left => none
  | .tearingDown .. => none
  | _ => case

/-- The case whose unit is being carried out when these entries have been noted, the oldest
first. -/
def unitAfter (entries : List Entry) : Option ObjectId := entries.foldl Entry.turn none

theorem turn_of_not_isBoundary {x : Entry} (hx : x.isBoundary = false) (case : Option ObjectId) :
    x.turn case = case := by
  rcases x with _ | _ | _ | _ | _ | _ | _ | _ | _ | _ | _ | _ | _ | _ | _ | _
  all_goals first
    | rfl
    | nomatch hx

theorem turn_of_isBoundary {x : Entry} (hx : x.isBoundary = true) (case case' : Option ObjectId) :
    x.turn case = x.turn case' := by
  rcases x with _ | _ | _ | _ | _ | _ | _ | _ | _ | _ | _ | _ | _ | _ | _ | _
  all_goals first
    | rfl
    | nomatch hx

theorem foldl_turn_of_not_isBoundary {entries : List Entry}
    (h : ∀ x ∈ entries, x.isBoundary = false) (case : Option ObjectId) :
    entries.foldl Entry.turn case = case := by
  induction entries with
  | nil => rfl
  | cons x entries ih =>
    rw [List.foldl_cons, turn_of_not_isBoundary (h x (List.mem_cons_self ..))]
    exact ih fun y hy => h y (List.mem_cons_of_mem x hy)

/-- What has been noted before a unit was started does not matter. -/
theorem foldl_turn_of_unitAfter {entries : List Entry} {case : ObjectId}
    (h : unitAfter entries = some case) (before : Option ObjectId) :
    entries.foldl Entry.turn before = some case := by
  unfold unitAfter at h
  induction entries with
  | nil => nomatch h
  | cons x entries ih =>
    rw [List.foldl_cons] at h ⊢
    rcases hx : x.isBoundary with - | -
    · rw [turn_of_not_isBoundary hx] at h ⊢
      exact ih h
    · rw [turn_of_isBoundary hx before none]
      exact h

/-- Every credit is noted in a unit of a case, which the counter may be credited for. -/
def InUnits (Q : ObjectId → Nat → Prop) (entries : List Entry) : Prop :=
  ∀ pre counter post, entries = pre ++ .credited counter :: post →
    ∃ case, unitAfter pre = some case ∧ Q case counter

namespace InUnits

variable {Q : ObjectId → Nat → Prop} {xs ys : List Entry}

theorem of_not_mem (h : ∀ counter, .credited counter ∉ xs) : InUnits Q xs := by
  rintro pre counter post rfl
  exact absurd (List.mem_append_right pre (List.mem_cons_self ..)) (h counter)

theorem mono {Q' : ObjectId → Nat → Prop} (hQ : ∀ case counter, Q case counter → Q' case counter)
    (h : InUnits Q xs) : InUnits Q' xs := by
  intro pre counter post heq
  obtain ⟨case, hcase, hq⟩ := h pre counter post heq
  exact ⟨case, hcase, hQ case counter hq⟩

theorem append (h : InUnits Q xs) (h' : InUnits Q ys) : InUnits Q (xs ++ ys) := by
  intro pre counter post heq
  have hlater : ∀ between, ys = between ++ .credited counter :: post →
      ∃ case, unitAfter (xs ++ between) = some case ∧ Q case counter := by
    intro between hys
    obtain ⟨case, hcase, hq⟩ := h' between counter post hys
    refine ⟨case, ?_, hq⟩
    unfold unitAfter
    rw [List.foldl_append]
    exact foldl_turn_of_unitAfter hcase _
  -- the credit is in the second list, or in the first, or just between them
  rcases List.append_eq_append_iff.mp heq with ⟨between, rfl, hys⟩ | ⟨rest, rfl, hpost⟩
  · exact hlater between hys
  · rcases rest with - | ⟨x, rest⟩
    · have hnow := hlater [] hpost.symm
      rwa [List.append_nil, List.append_nil] at hnow
    · obtain ⟨rfl, -⟩ := List.cons.inj hpost
      exact h pre counter rest rfl

/-- A unit, which neither another unit nor a teardown interrupts. -/
theorem unit {case : ObjectId} (number : Nat) (hxs : ∀ x ∈ xs, x.isBoundary = false)
    (hq : ∀ counter, .credited counter ∈ xs → Q case counter) :
    InUnits Q (.entered :: .unitStarted case number :: xs ++ [.left]) := by
  refine append (fun pre counter post heq => ?_) (of_not_mem (by simp))
  rcases pre with - | ⟨x, - | ⟨y, pre⟩⟩
  · nomatch heq
  · nomatch (List.cons.inj heq).2
  · simp only [List.cons_append, List.cons.injEq] at heq
    obtain ⟨rfl, rfl, rfl⟩ := heq
    refine ⟨case, ?_, hq counter (by simp)⟩
    exact foldl_turn_of_not_isBoundary (fun x hx => hxs x (List.mem_append_left _ hx)) (some case)

end InUnits

namespace Engine

variable {reg reg' : Registry} {e e' e₁ e₂ e₃ : Engine} {new new' : List Entry}
  {case : ObjectId} {path : Path} {t : Tree}

theorem eq_of_journal (h : e'.journal = new.reverse ++ e.journal)
    (h' : e'.journal = new'.reverse ++ e.journal) : new = new' :=
  (since_eq h).symm.trans (since_eq h')

/-! ### Units -/

/-- While a test runs, no unit is started, no test is left, and no teardown begun. -/
def Unbroken (e e' : Engine) : Prop :=
  e'.isActive = e.isActive ∧ ∃ new : List Entry, e'.journal = new.reverse ++ e.journal ∧
    (e.isActive = true → ∀ x ∈ new, x.isBoundary = false)

namespace Unbroken

theorem congr (h : Unbroken e e') (hjournal : e₁.journal = e.journal)
    (hactive : e₁.isActive = e.isActive) (hjournal' : e₂.journal = e'.journal)
    (hactive' : e₂.isActive = e'.isActive) : Unbroken e₁ e₂ := by
  unfold Unbroken
  rw [hjournal, hactive, hjournal', hactive']
  exact h

theorem refl (e : Engine) : Unbroken e e := ⟨rfl, [], rfl, by simp⟩

theorem trans (h : Unbroken e₁ e₂) (h' : Unbroken e₂ e₃) : Unbroken e₁ e₃ := by
  obtain ⟨hactive, new, hnew, hunbroken⟩ := h
  obtain ⟨hactive', new', hnew', hunbroken'⟩ := h'
  refine ⟨hactive'.trans hactive, new ++ new', ?_, fun hrunning x hx => ?_⟩
  · exact journal_append hnew hnew'
  · rcases List.mem_append.mp hx with hx | hx
    · exact hunbroken hrunning x hx
    · exact hunbroken' (hactive.trans hrunning) x hx

theorem note {x : Entry} (hx : x.isBoundary = false) (e : Engine) :
    Unbroken e { e with journal := x :: e.journal } :=
  ⟨rfl, [x], rfl, fun _ y hy => by rw [List.mem_singleton.mp hy]; exact hx⟩

theorem consulted (i : Installed) (d : Diagnostic) (e : Engine) : Unbroken e (consulted i d e) := by
  have hasked : Unbroken e (asking i d e) := note rfl e
  rcases hc : i.hook.counter? d with - | counter
  · exact hasked.congr rfl rfl (by simp [Engine.consulted, asking, hc]) rfl
  · exact (hasked.trans (note (x := .credited counter) rfl _)).congr rfl rfl
      (by simp [Engine.consulted, asking, hc]) rfl

theorem enlist (named : Bool) (h : Hook) (e : Engine) : Unbroken e (enlist named h e) := by
  rcases named with _ | _ <;> exact (refl e).congr rfl rfl rfl rfl

theorem binding (h : Hook) (e : Engine) : Unbroken e (binding h e) :=
  (refl e).congr rfl rfl rfl rfl

end Unbroken

theorem respected_unbroken (A : Action → Prop) :
    Respected A (fun x => x.isBoundary = false) Unbroken where
  refl := Unbroken.refl
  trans h h' := h.trans h'
  noted e _ hx := .note hx e
  printed e _ := .note rfl e
  installed e named h _ _ := .enlist named h e
  popped e _ _ _ _ := (Unbroken.refl e).congr rfl rfl rfl rfl
  released _ h _ _ := ((Unbroken.enlist _ _ _).trans h).congr rfl rfl rfl rfl
  discarded _ h := ((Unbroken.enlist _ _ _).trans h).congr rfl rfl rfl rfl
  bound _ _ h := ((Unbroken.binding _ _).trans h).congr rfl rfl rfl rfl
  recorded e c v _ hc := by
    refine (Unbroken.note (x := .recorded v) rfl e).congr rfl rfl rfl ?_
    show true = e.context.isSome
    rw [hc]
    rfl
  tested {e e'} hidle h := by
    -- outside of tests nothing is claimed
    obtain ⟨-, new, hnew, -⟩ := h
    have hnone : e.isActive = false := congrArg Option.isSome hidle
    refine ⟨hnone.symm, .entered :: new ++ [.left], ?_, fun hrunning => ?_⟩
    · show .left :: e'.journal = _
      rw [hnew]
      simp [entered]
    · exact absurd (hnone.symm.trans hrunning) Bool.false_ne_true
  threaded h := h.congr rfl rfl rfl rfl
  cleaned h := h.congr rfl rfl rfl rfl
  asked d _ h := h.trans (.consulted _ d _)
  collected e counter amount _ :=
    (Unbroken.note (x := .collected counter amount) rfl e).congr rfl rfl rfl rfl
  configured e _ _ _ := (Unbroken.refl e).congr rfl rfl rfl rfl
  intercepted e := (Unbroken.refl e).congr rfl rfl rfl rfl

/-- A credit is the answer to a question that is registered for the counter. -/
theorem Booked.exists_of_credited (h : Booked reg e e' new) {counter : Nat}
    (hmem : .credited counter ∈ new) : ∃ id d, reg id d = some counter := by
  have hcount : 0 < new.countP (Entry.isFor reg counter) := by
    rw [← h.credits]
    exact List.count_pos_iff.mpr hmem
  obtain ⟨x, -, hx⟩ := List.countP_pos_iff.mp hcount
  rcases x with _ | _ | _ | _ | _ | _ | _ | ⟨id, d⟩ | _ | _ | _ | _ | _ | _ | _ | _
  case asked => exact ⟨id, d, by simpa [Entry.isFor] using hx⟩
  all_goals exact absurd hx Bool.false_ne_true

/-- The credits that have been noted are in units. -/
def Credits (Q : ObjectId → Nat → Prop) (e e' : Engine) : Prop :=
  ∃ new : List Entry, e'.journal = new.reverse ++ e.journal ∧ InUnits Q new

variable {Q : ObjectId → Nat → Prop}

theorem Credits.trans (h : Credits Q e₁ e₂) (h' : Credits Q e₂ e₃) : Credits Q e₁ e₃ := by
  obtain ⟨new, hnew, hin⟩ := h
  obtain ⟨new', hnew', hin'⟩ := h'
  refine ⟨new ++ new', ?_, hin.append hin'⟩
  exact journal_append hnew hnew'

theorem Credits.refl (e : Engine) : Credits Q e e := ⟨[], rfl, .of_not_mem (by simp)⟩

/-- A unit of a case, when the hooks in the chain credit no counters but those of the case. -/
theorem credits_of_runUnit {unit : Nat} {script : Script} {v : Verdict} (hreg : Registered reg e)
    (hq : ∀ id d counter, reg id d = some counter → Q case counter)
    (h : runUnit case unit script e = .ok v e') : Credits Q e e' := by
  obtain ⟨hidle, hend⟩ := execute_eq_ok h
  let e₁ : Engine := begun case unit e
  have hunbroken : Lands (Unbroken e₁) (perform script e₁) :=
    (keeps_perform (respected_unbroken _) Entry.Quiet.not_isBoundary script.within_all).lands e₁
  have hbooks : Lands (Books reg e₁) (perform script e₁) :=
    (keeps_perform (respected_books _ reg) Entry.Quiet.plain script.within_all).lands e₁
  obtain ⟨e₂, ⟨⟨-, new, hnew, hinside⟩, hbooked⟩, rfl⟩ :=
    lands_of_concluded hend (hunbroken.and hbooks)
  obtain ⟨new', hbooked, -⟩ := hbooked (hreg.congr rfl rfl)
  obtain rfl : new = new' := eq_of_journal hnew hbooked.journal
  refine ⟨.entered :: .unitStarted case unit :: new ++ [.left], ?_,
    .unit unit (hinside rfl) fun counter hmem => ?_⟩
  · show .left :: e₂.journal = _
    rw [hnew]
    simp [e₁, begun, entered]
  · obtain ⟨id, d, hcounter⟩ := hbooked.exists_of_credited hmem
    exact hq id d counter hcounter

theorem credits_of_report {number : Nat} {v : Verdict} {u : Unit}
    (h : report case number path v e = .ok u e') : Credits Q e e' := by
  cases h
  exact ⟨[.printed .report (Tap.result number path v), .reported case path v], rfl,
    .of_not_mem (by simp)⟩

theorem registered_of_keeps {α : Type} {act : Act α} {a : α}
    (hkeeps : Keeps (fun _ => True) (Books reg) act) (hreg : Registered reg e)
    (h : act e = .ok a e') : Registered reg e' := by
  obtain ⟨_, hbooked, -⟩ := hkeeps.of_ended (.inl ⟨a, h⟩) hreg
  exact hbooked.registered

theorem credits_of_runSubunits {number unit : Nat} {failed : Bool}
    {units : List (String × Script)} {ls : List (String × Line)} (hreg : Registered reg e)
    (hq : ∀ id d counter, reg id d = some counter → Q case counter)
    (h : runSubunits case path number unit failed units e = .ok ls e') : Credits Q e e' := by
  induction units generalizing number unit failed e ls with
  | nil =>
    obtain ⟨-, rfl⟩ := pure_eq_ok.mp h
    exact .refl e
  | cons u units ih =>
    obtain ⟨tag, script⟩ := u
    rw [runSubunits_cons] at h
    simp only [bind_eq_ok, subpath_eq_ok, pure_eq_ok] at h
    obtain ⟨v, e₁, hrun, p, _, ⟨-, rfl, rfl⟩, _, e₂, hreport, others, e₃, hrest, rfl, rfl⟩ := h
    -- after a failure the unit does not run, and nothing is credited
    have hunit : Credits Q e e₁ ∧ Registered reg e₁ := by
      rcases failed with _ | _
      · have hkeeps := keeps_runUnit (respected_books _ reg) id case unit script.within_all
        exact ⟨credits_of_runUnit hreg hq hrun, registered_of_keeps hkeeps hreg hrun⟩
      · obtain ⟨-, rfl⟩ := pure_eq_ok.mp hrun
        exact ⟨.refl e, hreg⟩
    have hreg₂ : Registered reg e₂ := by
      cases hreport
      exact hunit.2.congr rfl rfl
    exact (hunit.1.trans (credits_of_report hreport)).trans (ih hreg₂ hrest)

theorem credits_of_runBody {number : Nat} {body : Body} {outcome : Verdict × List Line}
    (hreg : Registered reg e) (hq : ∀ id d counter, reg id d = some counter → Q case counter)
    (h : runBody case path number body e = .ok outcome e') : Credits Q e e' := by
  rcases body with script | units
  · simp only [runBody, bind_eq_ok, pure_eq_ok] at h
    obtain ⟨v, e₁, hrun, _, _, hreport, rfl, rfl⟩ := h
    exact (credits_of_runUnit hreg hq hrun).trans (credits_of_report hreport)
  · simp only [runBody, bind_eq_ok, pure_eq_ok] at h
    obtain ⟨ls, _, hrun, rfl, rfl⟩ := h
    exact credits_of_runSubunits hreg hq hrun

/-! ### Hooks that are gone -/

/-- A guard takes hooks away, its own among them. -/
theorem sublist_of_release {id : HookId} {u : Unit} (h : release id e = .ok u e') :
    ∃ chain : List Installed, chain.Sublist e.chain ∧ e' = { e with chain := chain } := by
  rcases release_eq_ok.mp h with ⟨-, rfl⟩ | ⟨-, newest, older, hc, -, rfl⟩
  · exact ⟨_, List.filter_sublist, rfl⟩
  · exact ⟨older, hc ▸ List.sublist_cons_self newest older, rfl⟩

theorem release_of_dropped {α : Type} {id : HookId} {o : EStateM.Result Stop Engine α} {a : α}
    (h : dropped id o = .ok a e') : ∃ e₁ u, o = .ok a e₁ ∧ release id e₁ = .ok u e' := by
  rcases o with ⟨b, e₁⟩ | ⟨stop, e₁⟩
  · have h : (release id >>= fun _ => pure b) e₁ = .ok a e' := h
    obtain ⟨u, e₂, hrelease, hpure⟩ := bind_eq_ok.mp h
    obtain ⟨rfl, rfl⟩ := pure_eq_ok.mp hpure
    exact ⟨e₁, u, rfl, hrelease⟩
  · rcases stop with _ | _ | _ | _ <;> nomatch h

/-- When the guards of a case have let it pass, the hook with the expectations is gone. -/
theorem chain_of_dropped {number : Nat} {policies : List Policy} {expectations : List Expectation}
    {body : Body} {outcome : Verdict × List Line} (hfresh : e.Fresh)
    (h : bracket case path number policies expectations body e = .ok outcome e') :
    ∃ e₁ chain, runBody case path number body (bracketing case policies expectations e) =
        .ok outcome e₁ ∧ chain.Sublist e₁.chain ∧ e' = { e₁ with chain := chain } ∧
      e.nextHook + 1 ∉ chain.map Installed.id := by
  rw [bracket_eq] at h
  obtain ⟨e₂, _, hinner, houter⟩ := release_of_dropped h
  obtain ⟨e₁, _, hbody, hinner⟩ := release_of_dropped hinner
  obtain ⟨chain₂, hsub₂, rfl⟩ := sublist_of_release hinner
  obtain ⟨chain, hsub, rfl⟩ := sublist_of_release houter
  refine ⟨e₁, chain, hbody, hsub.trans hsub₂, rfl, fun hmem => ?_⟩
  -- its number was given once, and its guard has taken it away
  have hhooks : Rehooked (bracketing case policies expectations e) e₁ :=
    (advances_runBody hbody).1.hooks
  have hinstalled : (bracketing case policies expectations e).standing (e.nextHook + 1) = 1 := by
    have hpoliced : (install (.failIfLogged policies) e).2.Fresh :=
      (advances_install (.failIfLogged policies) e).hooks.fresh hfresh
    have hstanding := standing_install (.expecting expectations) (install (.failIfLogged policies) e).2
    rw [hpoliced _ (Nat.le_refl _)] at hstanding
    exact hstanding
  have hbefore : e₁.standing (e.nextHook + 1) ≤ 1 := by
    have hle := hhooks.standing (e.nextHook + 1)
    rwa [hinstalled, if_neg fun hnew => Nat.not_succ_le_self _ hnew.1] at hle
  have hgone := (advances_release hinner).2
  have hnone : ({ e₁ with chain := chain₂ } : Engine).standing (e.nextHook + 1) = 0 := by omega
  exact not_mem_chain_of_standing hnone ((hsub.map Installed.id).subset hmem)

end Engine

/-! ### Matches -/

namespace Tree

/-- The counter is that of an expectation of the case. -/
def Expects (t : Tree) (case : ObjectId) (counter : Nat) : Prop :=
  ∃ x ∈ t.expectations case, x.counter = counter

/-- According to these entries, the hook is that of the expectations of a case, and the first of
them that matches the diagnostic has this counter. -/
def answersTo (t : Tree) (entries : List Entry) (counter : Nat) (id : HookId) (d : Diagnostic) :
    Bool :=
  entries.any fun x => match x with
    | .bracketed case _ inner => inner == id &&
        ((t.expectations case).find? (·.isMatch d)).map Expectation.counter == some counter
    | _ => false

/-- How many diagnostics have come to the expectations of a case, according to these entries, of
which the first that matches has this counter. -/
def matchedIn (t : Tree) (counter : Nat) (entries : List Entry) : Nat :=
  entries.countP fun x => match x with
    | .asked id d => t.answersTo entries counter id d
    | _ => false

theorem answersTo_iff {t : Tree} {entries : List Entry} {counter : Nat} {id : HookId}
    {d : Diagnostic} : t.answersTo entries counter id d = true ↔ ∃ case outer,
      .bracketed case outer id ∈ entries ∧
        (Hook.expecting (t.expectations case)).counter? d = some counter := by
  unfold answersTo
  rw [List.any_eq_true]
  constructor
  · rintro ⟨x, hx, hanswers⟩
    rcases x with _ | _ | _ | _ | _ | _ | _ | _ | _ | _ | _ | ⟨case, outer, inner⟩ | _ | _ | _ | _
    case bracketed =>
      rw [Bool.and_eq_true, beq_iff_eq, beq_iff_eq] at hanswers
      obtain ⟨rfl, hcounter⟩ := hanswers
      exact ⟨case, outer, hx, hcounter⟩
    all_goals nomatch hanswers
  · rintro ⟨case, outer, hmem, hcounter⟩
    refine ⟨_, hmem, ?_⟩
    rw [Bool.and_eq_true, beq_iff_eq, beq_iff_eq]
    exact ⟨rfl, hcounter⟩

end Tree

/-! ### Charges -/

namespace Engine

variable {reg reg' reg₁ reg₂ reg₃ : Registry} {e e' e₁ e₂ e₃ : Engine} {new new' : List Entry}
  {case : ObjectId} {path : Path} {number : Nat} {t : Tree} {mode : Mode} {root : ObjectId}

/-- While these entries were noted, counters were credited by the hooks of cases of the tree only,
and each of them in the units of its case; these hooks are registered now, and none is left. -/
structure Charged (t : Tree) (reg reg' : Registry) (e e' : Engine) (new : List Entry) : Prop where
  booked : Booked reg' e e' new
  clear : Registered .none e'
  same : ∀ id d, id < e.nextHook → reg' id d = reg id d
  bracketed : ∀ case outer inner, .bracketed case outer inner ∈ new → inner < e'.nextHook ∧
    ∀ d, reg' inner d = (Hook.expecting (t.expectations case)).counter? d
  covered : ∀ id d counter, e.nextHook ≤ id → reg' id d = some counter →
    ∃ case outer, .bracketed case outer id ∈ new
  placed : InUnits t.Expects new

/-- What is registered later makes no difference to questions to hooks that there are. -/
theorem countP_isFor_congr {counter : Nat} (hgiven : ∀ id d, .asked id d ∈ new → id < e.nextHook)
    (hsame : ∀ id d, id < e.nextHook → reg' id d = reg id d) :
    new.countP (Entry.isFor reg' counter) = new.countP (Entry.isFor reg counter) := by
  refine List.countP_congr fun x hx => ?_
  rcases x with _ | _ | _ | _ | _ | _ | _ | ⟨id, d⟩ | _ | _ | _ | _ | _ | _ | _ | _
  case asked => simp only [Entry.isFor, hsame id d (hgiven id d hx)]
  all_goals exact Iff.rfl

theorem Charged.trans (h : Charged t reg₁ reg₂ e₁ e₂ new) (h' : Charged t reg₂ reg₃ e₂ e₃ new') :
    Charged t reg₁ reg₃ e₁ e₃ (new ++ new') := by
  -- the second stretch registers only numbers that are not given in the first
  have hnext := h.booked.nextHook
  have hnext' := h'.booked.nextHook
  refine ⟨⟨?_, h'.booked.registered, Nat.le_trans hnext hnext', fun id d hmem => ?_,
    fun counter => ?_⟩, h'.clear, fun id d hid => ?_, fun case outer inner hmem => ?_,
    fun id d counter hid hcounter => ?_, h.placed.append h'.placed⟩
  · exact journal_append h.booked.journal h'.booked.journal
  · rcases List.mem_append.mp hmem with hmem | hmem
    · exact Nat.lt_of_lt_of_le (h.booked.given id d hmem) hnext'
    · exact h'.booked.given id d hmem
  · rw [List.count_append, List.countP_append, h.booked.credits, h'.booked.credits,
      countP_isFor_congr h.booked.given h'.same]
  · rw [h'.same id d (Nat.lt_of_lt_of_le hid hnext), h.same id d hid]
  · rcases List.mem_append.mp hmem with hmem | hmem
    · obtain ⟨hlt, hcounter⟩ := h.bracketed case outer inner hmem
      refine ⟨Nat.lt_of_lt_of_le hlt hnext', fun d => ?_⟩
      rw [h'.same inner d hlt, hcounter]
    · exact h'.bracketed case outer inner hmem
  · rcases Nat.lt_or_ge id e₂.nextHook with hold | hnew
    · rw [h'.same id d hold] at hcounter
      obtain ⟨case, outer, hmem⟩ := h.covered id d counter hid hcounter
      exact ⟨case, outer, List.mem_append_left _ hmem⟩
    · obtain ⟨case, outer, hmem⟩ := h'.covered id d counter hnew hcounter
      exact ⟨case, outer, List.mem_append_right _ hmem⟩

/-- Without hooks of cases in the chain, nothing is credited, and so it stays when none is
installed. -/
theorem charged_of_books (t : Tree) (h : ∀ reg, Books reg e e') (hreg : Registered reg e)
    (hclear : Registered .none e) : ∃ new, Charged t reg reg e e' new := by
  -- the empty registry is right about the chain too, so there are no credits to account for
  obtain ⟨new, hbooked, hnew⟩ := h reg hreg
  obtain ⟨new', hnone, -⟩ := h .none hclear
  obtain rfl : new = new' := eq_of_journal hbooked.journal hnone.journal
  refine ⟨new, hbooked, hnone.registered, fun _ _ _ => rfl, fun case outer inner hmem => ?_,
    fun id d counter hid hcounter => ?_, .of_not_mem fun counter hmem => ?_⟩
  · exact absurd rfl (hnew _ hmem case outer inner)
  · rw [hreg.fresh id d hid] at hcounter
    nomatch hcounter
  · obtain ⟨_, _, hcounter⟩ := hnone.exists_of_credited hmem
    nomatch hcounter

/-- A question is registered for a counter just if the hook is that of a case which expects the
diagnostic on it. -/
theorem Charged.answersTo_iff (h : Charged t .none reg e e' new) {counter : Nat} {id : HookId}
    {d : Diagnostic} : t.answersTo new counter id d = true ↔ reg id d = some counter := by
  rw [Tree.answersTo_iff]
  constructor
  · rintro ⟨case, outer, hmem, hcounter⟩
    rw [(h.bracketed case outer id hmem).2 d, hcounter]
  · intro hcounter
    rcases Nat.lt_or_ge id e.nextHook with hold | hnew
    · nomatch (h.same id d hold).symm.trans hcounter
    · obtain ⟨case, outer, hmem⟩ := h.covered id d counter hnew hcounter
      refine ⟨case, outer, hmem, ?_⟩
      rw [← (h.bracketed case outer id hmem).2 d, hcounter]

/-- What a counter has been credited with are the diagnostics that were matched for it. -/
theorem Charged.count_eq (h : Charged t .none reg e e' new) (counter : Nat) :
    new.count (.credited counter) = t.matchedIn counter new := by
  rw [h.booked.credits]
  refine List.countP_congr fun x _ => ?_
  rcases x with _ | _ | _ | _ | _ | _ | _ | ⟨id, d⟩ | _ | _ | _ | _ | _ | _ | _ | _
  case asked =>
    rw [Entry.isFor, beq_iff_eq]
    exact h.answersTo_iff.symm
  all_goals exact Iff.rfl

/-- If there are no hooks of cases in the chain, what is credited meanwhile is charged to the cases
of the tree, whatever has been registered before. -/
def Ledger (t : Tree) (e e' : Engine) : Prop :=
  ∀ reg, Registered reg e → Registered .none e → ∃ reg' new, Charged t reg reg' e e' new

namespace Ledger

theorem of_books (h : ∀ reg, Books reg e e') : Ledger t e e' := fun reg hreg hclear =>
  ⟨reg, charged_of_books t h hreg hclear⟩

/-- What keeps the books of any registry has installed no hooks of cases. -/
theorem of_keeps {α : Type} {act : Act α} {a : α}
    (hkeeps : ∀ reg, Keeps (fun _ => True) (Books reg) act) (h : act e = .ok a e') :
    Ledger t e e' :=
  .of_books fun reg => (hkeeps reg).of_ended (.inl ⟨a, h⟩)

theorem refl (e : Engine) : Ledger t e e := .of_books fun _ => .refl e

theorem trans (h : Ledger t e₁ e₂) (h' : Ledger t e₂ e₃) : Ledger t e₁ e₃ := by
  intro reg hreg hclear
  obtain ⟨reg₂, new, hcharged⟩ := h reg hreg hclear
  obtain ⟨reg₃, new', hcharged'⟩ := h' reg₂ hcharged.booked.registered hcharged.clear
  exact ⟨reg₃, new ++ new', hcharged.trans hcharged'⟩

end Ledger

/-! ### Cases -/

theorem Registered.fresh_chain (h : Registered reg e) : e.Fresh := by
  refine fun id hid => List.count_eq_zero.mpr fun hmem => ?_
  obtain ⟨i, hi, rfl⟩ := List.mem_map.mp hmem
  exact Nat.not_lt.mpr hid (h.chain i hi).1

theorem Registered.bracketing (h : Registered reg e) (case : ObjectId) (policies : List Policy)
    (expectations : List Expectation) :
    Registered (reg.assign (e.nextHook + 1) (.expecting expectations))
      (bracketing case policies expectations e) := by
  have houter : Registered reg (Engine.enlist false (.failIfLogged policies) e) :=
    h.enlist_of_none false fun _ => rfl
  exact (houter.enlist false (.expecting expectations)).congr rfl rfl

/-- A case that runs, under its two hooks. -/
theorem ledger_of_bracket {policies : List Policy} {expectations : List Expectation} {body : Body}
    {outcome : Verdict × List Line} (hcase : t.expectations case = expectations)
    (h : bracket case path number policies expectations body e = .ok outcome e') :
    Ledger t e e' := by
  intro reg hreg hclear
  obtain ⟨e₁, chain, hbody, hsub, rfl, hgone⟩ := chain_of_dropped hreg.fresh_chain h
  let inner : HookId := e.nextHook + 1
  let own : Registry := .assign .none inner (.expecting expectations)
  let all : Registry := reg.assign inner (.expecting expectations)
  have hown : Registered own (bracketing case policies expectations e) := hclear.bracketing _ _ _
  have hall : Registered all (bracketing case policies expectations e) := hreg.bracketing _ _ _
  have hkeeps := fun reg => keeps_runBody (respected_books (fun _ => True) reg) id case path number
    fun s (_ : s ∈ body.scripts) => s.within_all
  obtain ⟨new, hbooked, hnew⟩ := (hkeeps all).of_ended (.inl ⟨outcome, hbody⟩) hall
  have hown₁ : Registered own e₁ := registered_of_keeps (hkeeps own) hown hbody
  have hother : ∀ id, id ≠ inner → ∀ d, own id d = none := fun id hne d =>
    Registry.assign_of_ne _ hne _ d
  have hcounter? : ∀ d, all inner d = (Hook.expecting (t.expectations case)).counter? d := by
    intro d
    rw [hcase]
    exact reg.assign_same _ _ d
  -- the chain credits no counters but those of the case
  obtain ⟨_, hcredits, hplaced⟩ : Credits t.Expects (bracketing case policies expectations e) e₁ := by
    refine credits_of_runBody hown (fun id d counter hcounter => ?_) hbody
    by_cases hid : id = inner
    · subst hid
      obtain ⟨x, hx, hsame⟩ :=
        Option.map_eq_some_iff.mp ((Registry.assign_same _ _ _ d).symm.trans hcounter)
      exact ⟨x, hcase ▸ List.mem_of_find?_eq_some hx, hsame⟩
    · rw [hother id hid d] at hcounter
      nomatch hcounter
  obtain rfl := eq_of_journal hcredits hbooked.journal
  have hnext : inner < e₁.nextHook := Nat.lt_of_lt_of_le (Nat.lt_succ_self _) hbooked.nextHook
  have hinstalled : Booked all e (bracketing case policies expectations e)
      [.bracketed case e.nextHook inner] := by
    refine ⟨rfl, hall, ?_, by simp, fun counter => rfl⟩
    exact Nat.le_succ_of_le (Nat.le_succ _)
  -- the guards have taken its hook away, which stays registered
  refine ⟨all, _, (hinstalled.trans hbooked).sublist hsub, ⟨fun i hi => ?_, fun _ _ _ => rfl⟩,
    fun id d hid => ?_, fun c outer id hmem => ?_, fun id d counter hid hcounter => ?_,
    .append (.of_not_mem (by simp)) hplaced⟩
  · obtain ⟨hlt, hcounter⟩ := hown₁.chain i (hsub.subset hi)
    refine ⟨hlt, fun d => ?_⟩
    have hother' : i.id ≠ inner := fun hid => hgone (List.mem_map.mpr ⟨i, hi, hid⟩)
    exact (hcounter d).trans (hother i.id hother' d)
  · exact reg.assign_of_ne (Nat.ne_of_lt (Nat.lt_succ_of_lt hid)) _ d
  · rcases List.mem_cons.mp hmem with heq | hmem
    · cases heq
      exact ⟨hnext, hcounter?⟩
    · exact absurd rfl (hnew _ hmem c outer id)
  · by_cases hid' : id = inner
    · subst hid'
      exact ⟨case, e.nextHook, List.mem_cons_self ..⟩
    · have hnone : all id d = none := (reg.assign_of_ne hid' _ d).trans (hreg.fresh id d hid)
      nomatch hnone.symm.trans hcounter

theorem ledger_of_log {event : LogEvent} {u : Unit} (h : log perform event e = .ok u e') :
    Ledger t e e' :=
  .of_keeps (fun reg => keeps_event (respected_books _ reg) id event) h

theorem ledger_of_runCase {policies : List Policy} {expectations : List Expectation} {body : Body}
    {outcome : Verdict × List Line} (hcase : t.expectations case = expectations)
    (h : runCase case path number policies expectations body e = .ok outcome e') :
    Ledger t e e' := by
  rw [runCase_eq] at h
  obtain ⟨_, e₁, hopen, h⟩ := bind_eq_ok.mp h
  obtain ⟨_, e₂, hbracket, h⟩ := bind_eq_ok.mp h
  obtain ⟨_, e₃, hclose, h⟩ := bind_eq_ok.mp h
  obtain ⟨-, rfl⟩ := pure_eq_ok.mp h
  exact (ledger_of_log hopen).trans ((ledger_of_bracket hcase hbracket).trans (ledger_of_log hclose))

end Engine

namespace Run

open Engine

variable {mode : Mode} {t : Tree} {case root : ObjectId} {data : CaseData} {number : Nat}
  {blocked : Option Verdict} {v : Verdict} {lines : List Line} {r r' : Run} {e e' : Engine}

theorem ledger_of_settling {t' : Tree} (hcase : t.expectations case = data.expectations)
    (h : settling mode t' case data number blocked e = .ok (v, lines) e') : Ledger t e e' := by
  have hreporting : ∀ w, reporting t' case number w e = .ok (v, lines) e' → Ledger t e e' := by
    intro w h
    obtain ⟨_, e₁, hok, h⟩ := bind_eq_ok.mp h
    obtain ⟨-, rfl⟩ := pure_eq_ok.mp h
    exact .of_keeps (fun reg => keeps_reportUnrun (respected_books _ reg) id _ _ _ _ _) hok
  rcases blocked with - | w
  · rcases hselected : mode.excluded (t'.path case) with - | -
    · simp only [settling, hselected, Bool.false_eq_true, if_false] at h
      rcases hbody : data.body with - | body <;> rw [hbody] at h
      · exact absurd h Engine.violate_eq_ok
      · exact ledger_of_runCase hcase h
    · simp only [settling, hselected, if_true] at h
      exact hreporting _ h
  · exact hreporting w h

theorem ledger_of_cleaning {teardown : Option Script} {u : Unit}
    (h : cleaning case teardown e = .ok u e') : Ledger t e e' := by
  rcases teardown with - | script
  · obtain ⟨-, rfl⟩ := pure_eq_ok.mp h
    exact .refl e
  · have hnoted : Ledger t e (tearing case e) :=
      .of_books fun reg =>
        .note_plain (x := .tearingDown case e.isActive (e.chain.map Installed.id)) trivial e
    have hscript : perform script (tearing case e) = .ok u e' := h
    exact hnoted.trans (.of_keeps (fun reg => keeps_script (respected_books _ reg) id
      script.within_all) hscript)

theorem ledger_ending (mode : Mode) (t' : Tree) (case : ObjectId) (v : Verdict) (e : Engine) :
    Ledger t e (ending mode t' case v e) := by
  have hresolved : ∀ reg, Books reg e { e with journal := .resolved case v :: e.journal } :=
    fun reg => .note_plain (x := .resolved ..) trivial e
  unfold ending
  split
  · exact .of_books fun reg => (hresolved reg).trans (.note_plain (x := .printed .report _) trivial _)
  · exact .of_books hresolved

theorem ledger_of_finish (hstatic : r.tree.static = t.static)
    (h : finish mode case blocked r = .ok v r') :
    r'.tree.static = t.static ∧ Ledger t r.engine r'.engine := by
  obtain ⟨data, lines, e, hcase, -, hhandle, rfl⟩ := finish_iff_handle.mp h
  obtain ⟨e₁, e₂, hsettling, hcleaning, rfl⟩ := handle_eq_ok.mp hhandle
  have hexpectations : t.expectations case = data.expectations := by
    rw [← Tree.expectations_eq_of_static hstatic]
    unfold Tree.expectations
    rw [hcase]
  refine ⟨?_, ?_⟩
  · refine Eq.trans ?_ hstatic
    apply Tree.static_updateCase
    exact fun _ => rfl
  · exact (ledger_of_settling hexpectations hsettling).trans
      ((ledger_of_cleaning hcleaning).trans (ledger_ending mode r.tree case v e₂))

theorem ledger_of_suite {u : Unit} (h : suite mode root (start t e) = .ok u r) :
    Ledger t e r.engine := by
  rcases hlist : mode.listOnly with - | -
  · rw [suite_eq hlist (isSome_node?_of_suite h)] at h
    have hplan : Ledger t e (announced t root e) :=
      .of_books fun reg => .note_plain (x := .printed .report _) trivial e
    -- cases lose their scripts in the course of the run, but not their expectations
    refine (invariant_of_resolveEach (Q := fun r => r.tree.static = t.static ∧ Ledger t e r.engine)
      (fun hr _ => hr) (fun hr hok => ?_) h ⟨rfl, hplan⟩).2
    obtain ⟨hstatic, hledger⟩ := ledger_of_finish hr.1 hok
    exact ⟨hstatic, hr.2.trans hledger⟩
  · have hlisting : listEach (t.leaves root) (start t e) = .ok u r := by
      obtain ⟨n, hn⟩ := Option.isSome_iff_exists.mp (isSome_node?_of_suite h)
      unfold suite at h
      rw [get_bind_eq_ok] at h
      simp only [show (start t e).tree.node? root = some n from hn, hlist, if_true] at h
      exact h
    have hkeeps := fun reg =>
      keeps_listEach (respected_books (fun _ => True) reg) id (t.leaves root)
    exact .of_books fun reg => (hkeeps reg).of_ok hlisting

/-- What is credited in a run that returns is charged to the cases of the tree. -/
theorem ledger_of_run {s : Summary} (h : Engine.run mode t root e = .ok s e') : Ledger t e e' := by
  obtain ⟨_, e₁, hprepare, hsuite⟩ := bind_eq_ok.mp h
  obtain ⟨r, hrun, -, rfl⟩ := runSuite_eq_ok.mp hsuite
  have hprepared : Ledger t e e₁ := by
    refine .of_keeps (fun reg => keeps_prepare (respected_books _ reg) Entry.Quiet.plain ?_) hprepare
    exact fun e => (Books.refl e).congr rfl rfl rfl rfl rfl rfl
  exact hprepared.trans (ledger_of_suite hrun)

/-- The credits of a run that starts without hooks of cases in the chain. -/
structure Credited (t : Tree) (e e' : Engine) : Prop where
  /-- When the run has returned, there are none either. -/
  clear : Registered .none e'
  /-- Each credit is noted in a unit of a case that has an expectation with the counter, -/
  placed : InUnits t.Expects (since e e')
  /-- and on each counter there are as many as diagnostics that were matched for it. -/
  credits : ∀ counter, (since e e').count (.credited counter) = t.matchedIn counter (since e e')

theorem count_of_ledger (hclear : Registered .none e) (h : Ledger t e e') : Credited t e e' := by
  obtain ⟨reg, new, hcharged⟩ := h .none hclear hclear
  refine ⟨hcharged.clear, ?_, ?_⟩ <;> rw [since_eq hcharged.booked.journal]
  · exact hcharged.placed
  · exact hcharged.count_eq

end Run

end TestEngine
