/-
TestEngine/Proofs/Run/Ledger.lean

The books of a process.  A process makes handles, carries out scripts and tests, and runs trees
whose cases expect diagnostics on the counters of the handles; scripts may read the counters at any
time.  A `History` is such a sequence, in which all runs return, with what was noted in each
operation.

At its end the books are exact (`exact_of_history`): on each counter there is what has been matched
for it since it was made, less what has been read from it.  What has been matched are the
diagnostics that have come to the expectations of a case of which the first that matches has the
counter, and no others: none outside of runs, in teardowns, or in the units of cases that do not
expect anything on this counter.
-/
import TestEngine.Proofs.Engine.Ledger
import TestEngine.Proofs.Run.Credit
import TestEngine.Proofs.Run.Discipline

namespace TestEngine

open Engine

theorem Entry.Alone.uncounted {x : Entry} (h : x.Alone) : x.Uncounted := by
  rcases x with _ | _ | _ | _ | _ | _ | _ | _ | _ | _ | _ | _ | _ | _ | _ | _
  all_goals trivial

/-! ### Operations -/

namespace Operation

variable {op : Operation} {e e' : Engine} {case : ObjectId} {counter : Nat}

/-- The tree that is run, if one is. -/
def tree? : Operation → Option Tree
  | .suite _ t _ => some t
  | _ => none

/-- The counter is that of an expectation of the case, which is run. -/
def Expects (op : Operation) (case : ObjectId) (counter : Nat) : Prop :=
  ∃ t, op.tree? = some t ∧ t.Expects case counter

/-- How many diagnostics have come to expectations in the operation, according to these entries, of
which the first that matches has this counter. -/
def matchedIn (op : Operation) (counter : Nat) (entries : List Entry) : Nat :=
  op.tree?.elim 0 fun t => t.matchedIn counter entries

/-- Whatever is expected in the operation has a counter, since a handle is made before it is
attached to a case. -/
def Backed (op : Operation) (e : Engine) : Prop :=
  ∀ case counter, op.Expects case counter → (e.counters[counter]?).isSome = true

/-- It is enough to look at the objects of a tree that is run. -/
theorem backed_of_lt {mode : Mode} {t : Tree} {root : ObjectId}
    (h : ∀ case < t.size, ∀ x ∈ t.expectations case, x.counter < e.counters.length) :
    (Operation.suite mode t root).Backed e := by
  rintro case counter ⟨_, ⟨⟩, x, hx, rfl⟩
  have hcase : case < t.size := by
    refine Nat.lt_of_not_le fun hsize => ?_
    have hnone : t.node? case = none := Array.getElem?_eq_none hsize
    unfold Tree.expectations Tree.case? at hx
    rw [hnone] at hx
    nomatch hx
  rw [List.getElem?_eq_getElem (h case hcase x hx)]
  rfl

theorem backed_of_tree?_eq_none (hnone : op.tree? = none) : op.Backed e := by
  rintro case counter ⟨t, ht, -⟩
  nomatch hnone.symm.trans ht

/-- The process goes on after the operation, and if it was a run, it has returned. -/
def Returns (op : Operation) (e e' : Engine) : Prop :=
  Ended op.act e e' ∧ (op.tree?.isSome = true → op.act e = .ok () e')

theorem returns_of_ok (h : op.act e = .ok () e') : op.Returns e e' := ⟨.inl ⟨(), h⟩, fun _ => h⟩

theorem Returns.balanced (h : op.Returns e e') : Balanced e e' := by
  have hkeeps := op.keeps_act (respected_balanced _) Entry.Alone.uncounted fun mode e =>
    (Balanced.refl e).congr rfl rfl rfl rfl
  exact hkeeps.of_ended h.1

/-- What is credited in an operation, before which there are no hooks of cases in the chain. -/
structure Credited (op : Operation) (e e' : Engine) : Prop where
  clear : Registered .none e'
  placed : InUnits op.Expects (since e e')
  credits : ∀ counter, (since e e').count (.credited counter) = op.matchedIn counter (since e e')

theorem credited_of_books (hnone : op.tree? = none) (hclear : Registered .none e)
    (h : Books .none e e') : op.Credited e e' := by
  obtain ⟨new, hbooked, -⟩ := h hclear
  have huncredited : ∀ counter, .credited counter ∉ new := by
    intro counter hmem
    obtain ⟨_, _, hcounter⟩ := hbooked.exists_of_credited hmem
    nomatch hcounter
  refine ⟨hbooked.registered, ?_, fun counter => ?_⟩ <;> rw [since_eq hbooked.journal]
  · exact .of_not_mem huncredited
  · rw [List.count_eq_zero.mpr (huncredited counter), matchedIn, hnone]
    rfl

theorem Returns.credited (hclear : Registered .none e) (h : op.Returns e e') :
    op.Credited e e' := by
  have hR := respected_books (fun _ => True) .none
  rcases op with script | script | ⟨mode, t, root⟩
  · exact credited_of_books rfl hclear ((keeps_script hR id script.within_all).of_ended h.1)
  · have hkeeps := keeps_bind hR (keeps_execute hR Entry.Quiet.plain
      (keeps_script hR id script.within_all)) fun _ => keeps_pure hR ()
    exact credited_of_books rfl hclear (hkeeps.of_ended h.1)
  · obtain ⟨s, _, hrun, hpure⟩ := bind_eq_ok.mp (h.2 rfl)
    obtain ⟨-, rfl⟩ := pure_eq_ok.mp hpure
    obtain ⟨hclear', hplaced, hcredits⟩ := Run.count_of_ledger hclear (Run.ledger_of_run hrun)
    exact ⟨hclear', hplaced.mono fun _ _ hexpects => ⟨t, rfl, hexpects⟩, hcredits⟩

/-- What is not expected is not matched. -/
theorem Credited.matchedIn_eq_zero (h : op.Credited e e')
    (hcounter : ∀ case, ¬ op.Expects case counter) :
    op.matchedIn counter (since e e') = 0 := by
  rw [← h.credits]
  refine List.count_eq_zero.mpr fun hmem => ?_
  obtain ⟨pre, post, heq⟩ := List.append_of_mem hmem
  obtain ⟨case, -, hexpects⟩ := h.placed pre counter post heq
  exact hcounter case hexpects

end Operation

/-! ### Histories -/

/-- The operations that a process has carried out, with what was noted in each. -/
abbrev Log := List (Operation × List Entry)

/-- Between the two states, handles are made, and operations are carried out which return. -/
inductive History : Log → Engine → Engine → Prop
  | nil {e : Engine} : History [] e e
  | handle {log : Log} {e e' : Engine} (h : History log (newCounter e).2 e') : History log e e'
  | operation {op : Operation} {log : Log} {e e₁ e' : Engine} (hbacked : op.Backed e)
      (hop : op.Returns e e₁) (h : History log e₁ e') : History ((op, since e e₁) :: log) e e'

namespace Log

/-- All that has been read from the counter. -/
def drawn (counter : Nat) (log : Log) : Nat :=
  log.foldr (fun x n => drawnIn counter x.2 + n) 0

/-- All that has been matched for the counter. -/
def matched (counter : Nat) (log : Log) : Nat :=
  log.foldr (fun x n => x.1.matchedIn counter x.2 + n) 0

end Log

variable {log : Log} {e e' : Engine}

/-- There are no hooks of cases where there are no hooks at all. -/
theorem registered_of_nil (hchain : e.chain = []) : Registered .none e := by
  refine ⟨fun i hi => ?_, fun _ _ _ => rfl⟩
  rw [hchain] at hi
  nomatch hi

theorem registered_newCounter {reg : Registry} (h : Registered reg e) :
    Registered reg (newCounter e).2 := h.congr rfl rfl

/-- A new counter starts with nothing. -/
theorem getD_newCounter (counter : Nat) :
    ((newCounter e).2.counters[counter]?).getD 0 = (e.counters[counter]?).getD 0 := by
  show ((e.counters ++ [0])[counter]?).getD 0 = _
  rw [List.getElem?_append]
  split
  · rfl
  · rename_i hge
    rw [List.getElem?_eq_none (Nat.le_of_not_lt hge)]
    rcases counter - e.counters.length with _ | _ <;> rfl

/-- In an operation, a counter changes by what is matched for it and what is read from it. -/
theorem Operation.getD_eq {op : Operation} (hclear : Registered .none e) (hbacked : op.Backed e)
    (h : op.Returns e e') (counter : Nat) :
    drawnIn counter (since e e') + (e'.counters[counter]?).getD 0 =
      (e.counters[counter]?).getD 0 + op.matchedIn counter (since e e') := by
  have hcredited := h.credited hclear
  obtain ⟨new, hnew, hbalance, habsent⟩ := h.balanced
  rcases hn : e.counters[counter]? with - | n
  · -- there is no such counter, and nothing is expected on it
    have hnone : ∀ case, ¬ op.Expects case counter := by
      intro case hexpects
      have hsome := hbacked case counter hexpects
      rw [hn] at hsome
      nomatch hsome
    rw [hcredited.matchedIn_eq_zero hnone, since_eq hnew, (habsent counter hn).1,
      (habsent counter hn).2]
    rfl
  · obtain ⟨n', hn', heq⟩ := hbalance counter n hn
    rw [← hcredited.credits, since_eq hnew, hn']
    exact heq

theorem History.clear (h : History log e e') (hclear : Registered .none e) : Registered .none e' := by
  induction h with
  | nil => exact hclear
  | handle _ ih => exact ih (registered_newCounter hclear)
  | operation _ hop _ ih => exact ih (hop.credited hclear).clear

theorem History.getD_eq (h : History log e e') (hclear : Registered .none e) (counter : Nat) :
    log.drawn counter + (e'.counters[counter]?).getD 0 =
      (e.counters[counter]?).getD 0 + log.matched counter := by
  -- no hook of a case is left between operations, so each of them balances by itself
  induction h with
  | nil => simp [Log.drawn, Log.matched]
  | handle _ ih => rw [ih (registered_newCounter hclear), getD_newCounter]
  | operation hbacked hop _ ih =>
    have hstep := Operation.getD_eq hclear hbacked hop counter
    have hrest := ih (hop.credited hclear).clear
    simp only [Log.drawn, Log.matched, List.foldr_cons] at hrest ⊢
    omega

theorem History.credited (h : History log e e') (hclear : Registered .none e) :
    ∀ x ∈ log, InUnits x.1.Expects x.2 ∧
      ∀ counter, x.2.count (.credited counter) = x.1.matchedIn counter x.2 := by
  induction h with
  | nil => simp
  | handle _ ih => exact ih (registered_newCounter hclear)
  | operation _ hop _ ih =>
    have hcredited := hop.credited hclear
    intro x hx
    rcases List.mem_cons.mp hx with rfl | hx
    · exact ⟨hcredited.placed, hcredited.credits⟩
    · exact ih hcredited.clear x hx

/-! ### Exact books -/

/-- The books are exact, at the end of a history. -/
structure Exact (log : Log) (e e' : Engine) : Prop where
  /-- What has been read from a counter, and what is on it, is what has been matched for it, besides
  what was on it at the beginning if there was one. -/
  balance : ∀ counter n, e'.counters[counter]? = some n →
    log.drawn counter + n = (e.counters[counter]?).getD 0 + log.matched counter
  /-- In each operation, a counter has been credited as often as diagnostics were matched for it,
  and only in units of cases that have an expectation with the counter. -/
  credited : ∀ op entries, (op, entries) ∈ log → InUnits op.Expects entries ∧
    ∀ counter, entries.count (.credited counter) = op.matchedIn counter entries
  /-- A diagnostic, wherever it is logged, increases one counter at most, and that by one, besides
  what the scripts do that hooks carry out when they are asked about it. -/
  single : ∀ sub d (e₁ e₂ : Engine), Ended (dispatch sub d) e₁ e₂ →
    ∃ e₃, Apart sub d e₁.chain e₁ e₃ ∧
      (e₂.counters = e₃.counters ∨ CreditedBy d e₁.chain e₃ e₂)
  /-- Who counts is told what is on the counter, which is reset, and this is noted; -/
  counts : ∀ sub counter n (e₁ : Engine), e₁.counters[counter]? = some n →
    act sub (.count counter) e₁ =
      trace ("count " ++ toString n) (collecting counter n e₁)
  /-- who peeks is told the same, and nothing is reset; -/
  peeks : ∀ sub counter n (e₁ : Engine), e₁.counters[counter]? = some n →
    act sub (.peek counter) e₁ = trace ("peek " ++ toString n) e₁
  /-- and a check of the count reads and resets the counter, whether it holds or fails. -/
  checks : ∀ sub counter n count (e₁ e₂ : Engine), e₁.counters[counter]? = some n →
    Ended (act sub (.checkExpected counter count)) e₁ e₂ →
      e₂.counters = e₁.counters.set counter 0 ∧
        (collecting counter n e₁).journal <:+ e₂.journal ∧
          (n ≠ count → act sub (.checkExpected counter count) e₁ ≠ .ok () e₂)

/-- The books of a process that starts without hooks of cases in the chain are exact, whatever
handles are attached to which cases and whenever scripts read them. -/
theorem exact_of_history (log : Log) (e e' : Engine) (hclear : Registered .none e)
    (h : History log e e') : Exact log e e' := by
  refine ⟨fun counter n hn => ?_, fun op entries hmem => ?_, fun sub d e₁ e₂ hend => ?_,
    fun sub counter n e₁ hn => act_count hn, fun sub counter n e₁ hn => act_peek hn,
    fun sub counter n count e₁ e₂ hn hend => checkExpected_ends hn hend⟩
  · have hbalance := h.getD_eq hclear counter
    rwa [hn] at hbalance
  · exact h.credited hclear _ hmem
  · exact countsOnce_of_dispatch hend

/-- A diagnostic of the domain that the cases below are about. -/
def netMessage (level : Level) : Diagnostic := .new "net" level "packet lost"

/-- An expectation of such diagnostics, of all levels or of one, on the counter. -/
def netExpectation (levels : LevelSet) (counter : Nat) : Expectation :=
  ⟨"net", levels, ⟨"", .empty⟩, counter⟩

/-- Two cases that share a handle, the first of which has it behind another one, with which it
overlaps; this case fails a check of its count, and has a teardown that logs what it expects. -/
def overlappingCalls : List Tree.Call :=
  [.suite "s",
    .case "a" [.emit (netMessage .message), .emit (netMessage .warning), .emit (netMessage .info),
      .checkExpected 1 5] (some [.emit (netMessage .info)]),
    .attach 0 1, .addExpectation 1 (netExpectation (.single .warning) 0),
    .addExpectation 1 (netExpectation .all 1), .addExpectation 1 (netExpectation .all 0),
    .addCase 0 "b" [.emit (netMessage .critical)], .addExpectation 2 (netExpectation .all 1)]

/-- A run of them, and a script that logs and counts. -/
def overlappingRun : Operation := .suite .default (.ofCalls overlappingCalls) 0

def countingScript : Operation := .script [.emit (netMessage .info), .count 0]

/-- The process has two handles, -/
def handled : Engine := (newCounter (newCounter .initial).2).2

/-- runs the cases, -/
def overlapped : Engine := endOf (overlappingRun.act handled)

/-- and then the script. -/
def counted : Engine := endOf (countingScript.act overlapped)

/-- Two messages that the check has read and one that is left are the three that were matched on the
second counter; the warning that the script has read is the one that was matched on the first. -/
theorem exact_of_overlapping :
    let log : Log := [(overlappingRun, since handled overlapped),
      (countingScript, since overlapped counted)]
    log.drawn 1 + 1 = log.matched 1 ∧ log.drawn 0 + 0 = log.matched 0 ∧
      log.matched 1 = 3 ∧ log.matched 0 = 1 := by
  intro log
  have hclear : Registered .none Engine.initial := registered_of_nil rfl
  have hhistory : History log .initial counted := by
    have hrun : overlappingRun.Returns handled overlapped :=
      Operation.returns_of_ok (eq_ok_endOf (by decide +kernel))
    have hscript : countingScript.Returns overlapped counted :=
      Operation.returns_of_ok (eq_ok_endOf (by decide +kernel))
    have hbacked : overlappingRun.Backed handled := Operation.backed_of_lt (by decide +kernel)
    exact .handle (.handle (.operation hbacked hrun
      (.operation (Operation.backed_of_tree?_eq_none rfl) hscript .nil)))
  have hexact := exact_of_history log .initial counted hclear hhistory
  refine ⟨?_, ?_, by decide +kernel, by decide +kernel⟩
  · exact (hexact.balance 1 1 (by decide +kernel)).trans (Nat.zero_add _)
  · exact (hexact.balance 0 0 (by decide +kernel)).trans (Nat.zero_add _)

end TestEngine
