/-
TestEngine/Proofs/Engine/Classify.lean

How the hooks in the chain classify a diagnostic.  They are asked newest first up to the
first that decides (`Answered`), and its answer is carried out; the default hook answers if
none does.

While a case runs, its expectations stand on top of the chain and its policies right below
them (`Bracketed`).  So there are three classes: what is expected is counted and dropped
(`dispatch_expected`), what the policies forbid fails the test (`dispatch_forbidden`), and the
rest is left to the hooks below (`askAll_passed`).  Neither of the first two depends on
what stands below, and nothing there is asked.
-/
import TestEngine.Proofs.Engine.Occurrence

namespace TestEngine

/-- The hook that is asked, if the entry says so. -/
def Entry.asked? : Entry → Option HookId
  | .asked id _ => some id
  | _ => none

namespace Engine

/-- The hooks asked since the state `e`, in order. -/
def askedSince (e e' : Engine) : List HookId := (since e e').filterMap Entry.asked?

/-! ### Asking -/

/-- Of the hooks, asked in order, the first that decides gives the answer `a`; if none
decides, the answer is to proceed. -/
inductive Answered (sub : Script → Act Unit) (d : Diagnostic) :
    List Installed → Engine → Answer → Engine → Prop
  | none {e : Engine} : Answered sub d [] e .proceed e
  | decides {i : Installed} {is : List Installed} {e e₁ : Engine} {a : Answer}
      (h : askHook sub d i.hook (asking i d e) = .ok a e₁) (ha : a ≠ .proceed) :
      Answered sub d (i :: is) e a e₁
  | passes {i : Installed} {is : List Installed} {e e₁ e₂ : Engine} {a : Answer}
      (h : askHook sub d i.hook (asking i d e) = .ok .proceed e₁) (hrest : Answered sub d is e₁ a e₂) :
      Answered sub d (i :: is) e a e₂

variable {sub : Script → Act Unit} {d : Diagnostic} {e e₁ : Engine} {a : Answer}

/-- What asking the first hook comes to. -/
theorem askAll_cons (i : Installed) (is : List Installed) (e : Engine) :
    askAll sub d (i :: is) e = match askHook sub d i.hook (asking i d e) with
      | .ok .proceed e₁ => askAll sub d is e₁
      | .ok a e₁ => .ok a e₁
      | .error stop e₁ => .error stop e₁ := by
  have hnoted : note (.asked i.id d) e = .ok () (asking i d e) := rfl
  refine (bind_of_ok hnoted).trans ?_
  rcases h : askHook sub d i.hook (asking i d e) with ⟨a, e₁⟩ | ⟨stop, e₁⟩
  · refine (bind_of_ok h).trans ?_
    rcases a with _ | _ | _ | _ | _ <;> rfl
  · exact bind_of_error h

theorem askAll_eq_ok {is : List Installed} :
    askAll sub d is e = .ok a e₁ ↔ Answered sub d is e a e₁ := by
  constructor
  · intro h
    induction is generalizing e with
    | nil =>
      obtain ⟨rfl, rfl⟩ := pure_eq_ok.mp h
      exact .none
    | cons i is ih =>
      rw [askAll_cons] at h
      rcases ho : askHook sub d i.hook (asking i d e) with ⟨b, e₂⟩ | ⟨stop, e₂⟩ <;> rw [ho] at h
      · rcases b with _ | _ | _ | _ | _
        · exact .passes ho (ih h)
        all_goals
          cases h
          exact .decides ho (by simp)
      · exact absurd h (by simp)
  · intro h
    induction h with
    | none => rfl
    | @decides i is e e₁ a h ha =>
      rw [askAll_cons, h]
      rcases a with _ | _ | _ | _ | _
      · exact absurd rfl ha
      all_goals rfl
    | @passes i is e e₁ e₂ a h _ ih =>
      rw [askAll_cons, h]
      exact ih

/-! ### Carrying out -/

/-- The state after it is noted what is to be done. -/
def deciding (d : Diagnostic) (a : Answer) (e : Engine) : Engine :=
  { e with journal := .decided d a :: e.journal }

/-- The default hook gives an answer in any case, and does no more than to note what it prints. -/
theorem defaultAnswer_eq_ok (d : Diagnostic) (e : Engine) :
    ∃ a journal, defaultAnswer d e = .ok a { e with journal := journal } := by
  unfold defaultAnswer
  rw [bind_of_ok (get_eq_ok.mpr ⟨rfl, rfl⟩)]
  split
  · exact ⟨_, _, rfl⟩
  · split
    · exact ⟨_, _, rfl⟩
    · exact ⟨_, _, rfl⟩

theorem dispatch_of_answered (h : askAll sub d e.chain e = .ok a e₁) (ha : a ≠ .proceed) :
    dispatch sub d e = carryOut d a (deciding d a e₁) := by
  refine (bind_of_ok (x := askAll sub d e.chain) h).trans ?_
  rcases a with _ | _ | _ | _ | _
  · exact absurd rfl ha
  all_goals rfl

theorem dispatch_of_unanswered (h : askAll sub d e.chain e = .ok .proceed e₁) :
    dispatch sub d e = (do
      let a ← defaultAnswer d
      note (.decided d a)
      carryOut d a) e₁ :=
  bind_of_ok (x := askAll sub d e.chain) h

theorem dispatch_of_error {stop : Stop} (h : askAll sub d e.chain e = .error stop e₁) :
    dispatch sub d e = .error stop e₁ :=
  bind_of_error (x := askAll sub d e.chain) h

/-- A hook's request ends the body only on the thread of the test, and not while that thread
unwinds; the outcome is recorded in any case. -/
theorem request_of_active {c : Context} (hc : e.context = some c) (v : Verdict) :
    request v e = if c.owner == e.thread && !e.unwinding then
        .error (.unwound .abortSignal) (recording v c e)
      else .ok true (recording v c e) := by
  refine (bind_of_ok (record_of_active hc v)).trans ?_
  dsimp only
  rw [bind_of_ok (get_eq_ok.mpr ⟨rfl, rfl⟩), show (recording v c e).unwinding = e.unwinding from rfl]
  split <;> rfl

/-- To abort fails the test that runs, and ends its body where that is possible. -/
theorem carryOut_abort {c : Context} (hc : e.context = some c) (message : String) :
    carryOut d (.abort message) e = if c.owner == e.thread && !e.unwinding then
        .error (.unwound .abortSignal) (recording (.fail message) c e)
      else .ok () (recording (.fail message) c e) := by
  have hrequest := request_of_active hc (.fail message)
  split at hrequest <;> rename_i hend
  · rw [if_pos hend]
    exact bind_of_error hrequest
  · rw [if_neg hend]
    exact bind_of_ok hrequest

/-- The state after a suppressed diagnostic has been mentioned, which only a verbose console
does. -/
def suppressing (d : Diagnostic) (e : Engine) : Engine :=
  if e.console.verbosity == .verbose then
    printing (.new engineDomain .info ("Suppressed message: " ++ d.format e.console.colours)) e
  else e

theorem carryOut_suppress (d : Diagnostic) (e : Engine) :
    carryOut d .suppress e = .ok () (suppressing d e) := by
  show noteSuppressed d e = _
  unfold noteSuppressed suppressing
  rw [bind_of_ok (get_eq_ok.mpr ⟨rfl, rfl⟩)]
  dsimp only
  split <;> rfl

/-! ### Under the hooks of a case -/

/-- The two hooks of a case stand on top of the chain, and a test without an outcome is running,
on the thread that runs now. -/
structure Bracketed (outer inner : HookId) (policies : List Policy)
    (expectations : List Expectation) (older : List Installed) (e : Engine) : Prop where
  chain : e.chain = ⟨inner, .expecting expectations⟩ :: ⟨outer, .failIfLogged policies⟩ :: older
  context : e.context = some ⟨e.thread, none⟩

section Bracketed

variable {outer inner : HookId} {policies : List Policy} {expectations : List Expectation}
  {older : List Installed} (h : Bracketed outer inner policies expectations older e)

include h

/-- An expected diagnostic is counted for the first expectation that matches it, and dropped.
Only the hook with the expectations is asked, and nothing but one counter is changed. -/
theorem dispatch_expected {x : Expectation}
    (hx : expectations.find? (·.isMatch d) = some x) : ∃ e', dispatch sub d e = .ok () e' ∧
      e' = { e with counters := e.counters.modify x.counter (· + 1), journal := e'.journal } ∧
      askedSince e e' = [inner] ∧ outcomesSince e e' = [] := by
  let i : Installed := ⟨inner, .expecting expectations⟩
  let e₁ : Engine := crediting x.counter (asking i d e)
  have hask : askHook sub d i.hook (asking i d e) = .ok .suppress e₁ := by
    simp only [i, askHook, hx]
    rfl
  have hanswer : askAll sub d e.chain e = .ok .suppress e₁ := by
    rw [h.chain]
    exact askAll_eq_ok.mpr (.decides hask (by simp))
  refine ⟨_, (dispatch_of_answered hanswer (by simp)).trans (carryOut_suppress d _), ?_⟩
  -- what has been noted: the question, the count, the decision, and a line if that is asked for
  have hnew : ∃ new : List Entry,
      (suppressing d (deciding d .suppress e₁)).journal = new.reverse ++ e.journal ∧
      new.filterMap Entry.asked? = [inner] ∧ new.filterMap Entry.outcome? = [] := by
    unfold suppressing
    split
    · exact ⟨[.asked inner d, .credited x.counter, .decided d .suppress, .printed .diagnostic _],
        rfl, rfl, rfl⟩
    · exact ⟨[.asked inner d, .credited x.counter, .decided d .suppress], rfl, rfl, rfl⟩
  obtain ⟨new, hjournal, hasked, houtcomes⟩ := hnew
  refine ⟨?_, ?_, ?_⟩
  · unfold suppressing
    split <;> rfl
  · rw [askedSince, since_eq hjournal, hasked]
  · rw [outcomesSince, since_eq hjournal, houtcomes]

omit h in
theorem policyAnswer_of_forbidden (hfatal : d.fatal = false)
    (hforbidden : d.level = .critical ∨ d.level = .warning ∨ ∃ p ∈ policies, p.isMatch d = true) :
    policyAnswer policies d = .abort ("Unexpected message: " ++ d.plain) := by
  unfold policyAnswer
  rw [if_neg (by simp [hfatal]), if_pos]
  rcases hforbidden with hlevel | hlevel | hpolicy
  · simp [hlevel]
  · simp [hlevel]
  · simp [List.any_eq_true.mpr hpolicy]

omit h in
theorem policyAnswer_of_allowed (hallowed : d.fatal = true ∨
      d.level ≠ .critical ∧ d.level ≠ .warning ∧ ∀ p ∈ policies, p.isMatch d = false) :
    policyAnswer policies d = .proceed := by
  unfold policyAnswer
  rcases hallowed with hfatal | ⟨hcritical, hwarning, hpolicy⟩
  · rw [if_pos hfatal]
  · have hany : policies.any (·.isMatch d) = false := List.any_eq_false.mpr fun p hp => by
      simp [hpolicy p hp]
    rw [if_neg (c := (_ || _) = true) (by simp [hany, hcritical, hwarning])]
    split <;> rfl

/-- The state in which the hooks below those of the case are asked. -/
def passing (outer inner : HookId) (d : Diagnostic) (e : Engine) : Engine :=
  { e with journal := .asked outer d :: .asked inner d :: e.journal }

/-- What nobody expects is put to the hook with the policies. -/
theorem askAll_of_unexpected (hx : expectations.find? (·.isMatch d) = none) :
    askAll sub d e.chain e = match policyAnswer policies d with
      | .proceed => askAll sub d older (passing outer inner d e)
      | a => .ok a (passing outer inner d e) := by
  have hinner : askHook sub d (.expecting expectations)
      (asking ⟨inner, .expecting expectations⟩ d e) =
        .ok .proceed (asking ⟨inner, .expecting expectations⟩ d e) := by
    simp only [askHook, hx]
    rfl
  rw [h.chain, askAll_cons]
  dsimp only
  rw [hinner]
  dsimp only
  rw [askAll_cons]
  have houter : ∀ e₁, askHook sub d (.failIfLogged policies) e₁ =
      .ok (policyAnswer policies d) e₁ := fun _ => rfl
  dsimp only
  rw [houter]
  rcases policyAnswer policies d with _ | _ | _ | _ | _ <;> rfl

/-- A forbidden diagnostic that is not fatal fails the test and ends its body, unless the thread
unwinds already. -/
theorem dispatch_forbidden (sub : Script → Act Unit)
    (hx : expectations.find? (·.isMatch d) = none)
    (hfatal : d.fatal = false)
    (hforbidden : d.level = .critical ∨ d.level = .warning ∨ ∃ p ∈ policies, p.isMatch d = true) :
    ∃ e', dispatch sub d e =
        (if e.unwinding then .ok () e' else .error (.unwound .abortSignal) e') ∧
      Decided e.thread (.fail ("Unexpected message: " ++ d.plain)) e' ∧
      askedSince e e' = [inner, outer] ∧
      outcomesSince e e' = [.fail ("Unexpected message: " ++ d.plain)] := by
  let message : String := "Unexpected message: " ++ d.plain
  let e₁ : Engine := deciding d (.abort message) (passing outer inner d e)
  have hanswer : askAll sub d e.chain e = .ok (.abort message) (passing outer inner d e) := by
    rw [askAll_of_unexpected h hx, policyAnswer_of_forbidden hfatal hforbidden]
  have habort : dispatch sub d e = if e.unwinding then .ok () (recording (.fail message) ⟨e.thread, none⟩ e₁)
      else .error (.unwound .abortSignal) (recording (.fail message) ⟨e.thread, none⟩ e₁) := by
    rw [dispatch_of_answered hanswer (by simp), carryOut_abort (e := e₁) h.context]
    show (if e.thread == e.thread && !e.unwinding then _ else _) = _
    rcases e.unwinding with - | - <;> simp
  refine ⟨_, habort, rfl, ?_⟩
  have hjournal : (recording (.fail message) ⟨e.thread, none⟩ e₁).journal =
      [.asked inner d, .asked outer d, .decided d (.abort message),
        .recorded (.fail message)].reverse ++ e.journal := rfl
  constructor
  · rw [askedSince, since_eq hjournal]
    rfl
  · rw [outcomesSince, since_eq hjournal]
    rfl

/-- All other diagnostics are left to the hooks below, which are asked as if the two of the
case were not there. -/
theorem askAll_passed (hx : expectations.find? (·.isMatch d) = none)
    (hallowed : d.fatal = true ∨
      d.level ≠ .critical ∧ d.level ≠ .warning ∧ ∀ p ∈ policies, p.isMatch d = false) :
    askAll sub d e.chain e = askAll sub d older (passing outer inner d e) := by
  rw [askAll_of_unexpected h hx, policyAnswer_of_allowed hallowed]

end Bracketed

end Engine

end TestEngine
