/-
TestEngine/Proofs/Engine/Ledger.lean

The books of the counters.  A counter goes up by one when a hook is asked about a diagnostic that
it expects, and is reset when it is read; both is noted.  So what has been read from a counter,
and what is on it, add up to what was on it and what has been credited to it (`Balanced`).

A diagnostic is credited once at most: a hook that credits a counter answers for good, so no
other hook is asked (`countsOnce_of_dispatch`).
-/
import TestEngine.Proofs.Engine.Classify

namespace TestEngine

/-! ### Entries about counters -/

/-- What has been read from the counter, if the entry says so. -/
def Entry.drawn (counter : Nat) : Entry → Nat
  | .collected read amount => if read = counter then amount else 0
  | _ => 0

/-- All that has been read from the counter. -/
def drawnIn (counter : Nat) (entries : List Entry) : Nat :=
  entries.foldr (fun x n => x.drawn counter + n) 0

theorem drawnIn_append (counter : Nat) (xs ys : List Entry) :
    drawnIn counter (xs ++ ys) = drawnIn counter xs + drawnIn counter ys := by
  induction xs with
  | nil => exact (Nat.zero_add _).symm
  | cons x xs ih =>
    show x.drawn counter + drawnIn counter (xs ++ ys) = x.drawn counter + drawnIn counter xs + _
    rw [ih, Nat.add_assoc]

/-- The entry is not about a counter. -/
def Entry.Uncounted : Entry → Prop
  | .credited _ => False
  | .collected .. => False
  | _ => True

theorem Entry.Uncounted.count_credited {x : Entry} (hx : x.Uncounted) (counter : Nat) :
    [x].count (.credited counter) = 0 := by
  rw [List.count_singleton]
  refine if_neg fun heq => ?_
  rw [beq_iff_eq.mp heq] at hx
  exact hx

theorem Entry.Uncounted.drawnIn_eq {x : Entry} (hx : x.Uncounted) (counter : Nat) :
    drawnIn counter [x] = 0 := by
  rcases x with _ | _ | _ | _ | _ | _ | _ | _ | _ | _ | _ | _ | _ | _ | _ | _
  all_goals first
    | rfl
    | exact False.elim hx

namespace Engine

variable {e e' e₁ e₂ e₃ : Engine}

/-! ### The balance -/

/-- What has been read from a counter meanwhile, with what is on it now, is what was on it and
what has been credited to it meanwhile; and no counter has been added, or read that there is not. -/
def Balanced (e e' : Engine) : Prop :=
  ∃ new : List Entry, e'.journal = new.reverse ++ e.journal ∧
    (∀ counter n, e.counters[counter]? = some n → ∃ n', e'.counters[counter]? = some n' ∧
      drawnIn counter new + n' = n + new.count (.credited counter)) ∧
    ∀ counter, e.counters[counter]? = none →
      e'.counters[counter]? = none ∧ drawnIn counter new = 0

namespace Balanced

/-- Nothing but what is noted and the counters matters. -/
theorem congr (h : Balanced e e') (hjournal : e₁.journal = e.journal)
    (hcounters : e₁.counters = e.counters) (hjournal' : e₂.journal = e'.journal)
    (hcounters' : e₂.counters = e'.counters) : Balanced e₁ e₂ := by
  unfold Balanced
  rw [hjournal, hcounters, hjournal', hcounters']
  exact h

theorem refl (e : Engine) : Balanced e e :=
  ⟨[], rfl, fun _ n hn => ⟨n, hn, by simp [drawnIn]⟩, fun _ hnone => ⟨hnone, rfl⟩⟩

theorem trans (h : Balanced e₁ e₂) (h' : Balanced e₂ e₃) : Balanced e₁ e₃ := by
  obtain ⟨new, hnew, hbalance, habsent⟩ := h
  obtain ⟨new', hnew', hbalance', habsent'⟩ := h'
  refine ⟨new ++ new', ?_, fun counter n hn => ?_, fun counter hnone => ?_⟩
  · exact journal_append hnew hnew'
  · obtain ⟨n₂, hn₂, heq⟩ := hbalance counter n hn
    obtain ⟨n₃, hn₃, heq'⟩ := hbalance' counter n₂ hn₂
    refine ⟨n₃, hn₃, ?_⟩
    rw [drawnIn_append, List.count_append]
    omega
  · obtain ⟨hnone₂, hdrawn⟩ := habsent counter hnone
    obtain ⟨hnone₃, hdrawn'⟩ := habsent' counter hnone₂
    exact ⟨hnone₃, by rw [drawnIn_append, hdrawn, hdrawn']⟩

theorem note {x : Entry} (hx : x.Uncounted) (e : Engine) :
    Balanced e { e with journal := x :: e.journal } := by
  refine ⟨[x], rfl, fun counter n hn => ⟨n, hn, ?_⟩, fun counter hnone => ⟨hnone, ?_⟩⟩
  · rw [hx.drawnIn_eq, hx.count_credited]
    omega
  · exact hx.drawnIn_eq counter

theorem credit (counter : Nat) (e : Engine) : Balanced e (crediting counter e) := by
  have hread : ∀ other, drawnIn other [.credited counter] = 0 := fun _ => rfl
  have hcounters : (crediting counter e).counters = e.counters.modify counter (· + 1) := rfl
  refine ⟨[.credited counter], rfl, fun other n hn => ?_, fun other hnone => ⟨?_, hread other⟩⟩
  · rw [hread, hcounters, List.getElem?_modify, hn]
    by_cases hsame : counter = other
    · exact ⟨n + 1, by simp [hsame], by simp [hsame]⟩
    · exact ⟨n, by simp [hsame], by simp [hsame]⟩
  · rw [hcounters, List.getElem?_modify, hnone]
    rfl

theorem collect {counter amount : Nat} (h : e.counters[counter]? = some amount) :
    Balanced e (collecting counter amount e) := by
  have hcounters : (collecting counter amount e).counters = e.counters.set counter 0 := rfl
  have hother : ∀ other, counter ≠ other →
      (e.counters.set counter 0)[other]? = e.counters[other]? ∧
        drawnIn other [.collected counter amount] = 0 := fun other hne =>
    ⟨List.getElem?_set_ne hne, by simp [drawnIn, Entry.drawn, hne]⟩
  refine ⟨[.collected counter amount], rfl, fun other n hn => ?_, fun other hnone => ?_⟩
  · have hcredits : [Entry.collected counter amount].count (.credited other) = 0 := rfl
    rw [hcounters, hcredits]
    by_cases hsame : counter = other
    · subst hsame
      obtain rfl : n = amount := Option.some.inj (hn.symm.trans h)
      obtain ⟨hlt, -⟩ := List.getElem?_eq_some_iff.mp h
      exact ⟨0, by simp [hlt], by simp [drawnIn, Entry.drawn]⟩
    · obtain ⟨hcount, hdrawn⟩ := hother other hsame
      exact ⟨n, hcount.trans hn, by rw [hdrawn]; omega⟩
  · have hne : counter ≠ other := by
      rintro rfl
      nomatch h.symm.trans hnone
    obtain ⟨hcount, hdrawn⟩ := hother other hne
    exact ⟨hcount.trans hnone, hdrawn⟩

theorem consulted (i : Installed) (d : Diagnostic) (e : Engine) : Balanced e (consulted i d e) := by
  have hasked : Balanced e (asking i d e) := note (x := .asked i.id d) trivial e
  rcases hc : i.hook.counter? d with - | counter
  · exact hasked.congr rfl rfl (by simp [Engine.consulted, asking, hc])
      (by simp [Engine.consulted, asking, hc])
  · exact (hasked.trans (credit counter _)).congr rfl rfl
      (by simp [Engine.consulted, crediting, asking, hc])
      (by simp [Engine.consulted, crediting, asking, hc])

end Balanced

theorem balanced_enlist (named : Bool) (h : Hook) (e : Engine) : Balanced e (enlist named h e) := by
  rcases named with _ | _ <;> exact (Balanced.refl e).congr rfl rfl rfl rfl

theorem balanced_binding (h : Hook) (e : Engine) : Balanced e (binding h e) :=
  (Balanced.refl e).congr rfl rfl rfl rfl

theorem respected_balanced (A : Action → Prop) : Respected A Entry.Uncounted Balanced where
  refl := Balanced.refl
  trans h h' := h.trans h'
  noted e _ hx := .note hx e
  printed e d := .note (x := .printed .diagnostic _) trivial e
  installed _ _ _ _ _ := balanced_enlist _ _ _
  popped e _ _ _ _ := (Balanced.refl e).congr rfl rfl rfl rfl
  released _ h _ _ := ((balanced_enlist _ _ _).trans h).congr rfl rfl rfl rfl
  discarded _ h := ((balanced_enlist _ _ _).trans h).congr rfl rfl rfl rfl
  bound _ _ h := ((balanced_binding _ _).trans h).congr rfl rfl rfl rfl
  recorded e _ v _ _ := (Balanced.note (x := .recorded v) trivial e).congr rfl rfl rfl rfl
  tested {e e'} _ h := by
    have hentered := Balanced.note (x := .entered) trivial e
    have hleft := Balanced.note (x := .left) trivial e'
    exact ((hentered.trans (h.congr rfl rfl rfl rfl)).trans hleft).congr rfl rfl rfl rfl
  threaded h := h.congr rfl rfl rfl rfl
  cleaned h := h.congr rfl rfl rfl rfl
  asked d _ h := h.trans (.consulted _ d _)
  collected _ _ _ h := .collect h
  configured e _ _ _ := (Balanced.refl e).congr rfl rfl rfl rfl
  intercepted e := (Balanced.refl e).congr rfl rfl rfl rfl

/-! ### Reading a counter -/

variable {sub : Script → Act Unit} {counter amount : Nat}

theorem collect_of_some (h : e.counters[counter]? = some amount) :
    collect counter e = .ok (some amount) (collecting counter amount e) := by
  unfold collect
  rw [bind_of_ok (get_eq_ok.mpr ⟨rfl, rfl⟩)]
  simp only [h]
  rfl

/-- To count is to read the counter, which is reset. -/
theorem act_count (h : e.counters[counter]? = some amount) :
    act sub (.count counter) e =
      trace ("count " ++ toString amount) (collecting counter amount e) :=
  bind_of_ok (collect_of_some h)

/-- To peek leaves the counter as it is. -/
theorem act_peek (h : e.counters[counter]? = some amount) :
    act sub (.peek counter) e = trace ("peek " ++ toString amount) e := by
  refine (bind_of_ok (get_eq_ok.mpr ⟨rfl, rfl⟩)).trans ?_
  simp only [h]

/-- To check a count is to read the counter, which is reset whether the check holds or not. -/
theorem act_checkExpected (h : e.counters[counter]? = some amount) (count : Nat) :
    act sub (.checkExpected counter count) e =
      (if amount = count then pure ()
        else failAt "" 0 ("expected " ++ toString count ++ " matching message(s), saw " ++
          toString amount)) (collecting counter amount e) :=
  bind_of_ok (collect_of_some h)

/-- To fail leaves the counters alone, and adds to the journal. -/
theorem failAt_ends {file message : String} {line : Nat}
    (h : Ended (failAt file line message : Act Unit) e e') :
    e'.counters = e.counters ∧ e.journal <:+ e'.journal := by
  have hlands : Lands (fun e' => e'.counters = e.counters ∧ e.journal <:+ e'.journal)
      ((failAt file line message : Act Unit) e) := by
    unfold failAt
    rw [bind_of_ok (get_eq_ok.mpr ⟨rfl, rfl⟩)]
    rcases e.debug.fatalAsserts with - | -
    · rcases hc : e.context with - | c
      · have hraise : (raise (.fail message) : Act Unit) e = (violate .notActive : Act Unit) e :=
          bind_of_ok (record_of_idle hc _)
        simp only [Bool.false_eq_true, if_false]
        rw [hraise]
        exact ⟨rfl, List.suffix_cons _ _⟩
      · have hraise : (raise (.fail message) : Act Unit) e =
            .error (.unwound .abortSignal) (recording (.fail message) c e) :=
          bind_of_ok (record_of_active hc _)
        simp only [Bool.false_eq_true, if_false]
        rw [hraise]
        exact ⟨rfl, List.suffix_cons _ _⟩
    · trivial
  exact Lands.of_ended hlands h

/-- A check of a counter that ends, in whatever way, has read and reset it; and one that fails does
not return. -/
theorem checkExpected_ends {count : Nat} (h : e.counters[counter]? = some amount)
    (hend : Ended (act sub (.checkExpected counter count)) e e') :
    e'.counters = e.counters.set counter 0 ∧
      (collecting counter amount e).journal <:+ e'.journal ∧
        (amount ≠ count → act sub (.checkExpected counter count) e ≠ .ok () e') := by
  unfold Ended at hend
  rw [act_checkExpected h count] at hend ⊢
  by_cases hsame : amount = count
  · rw [if_pos hsame] at hend
    rcases hend with ⟨_, hok⟩ | ⟨_, hstop⟩
    · obtain ⟨-, rfl⟩ := pure_eq_ok.mp hok
      exact ⟨rfl, List.suffix_refl _, fun hne => absurd hsame hne⟩
    · nomatch hstop
  · rw [if_neg hsame] at hend ⊢
    obtain ⟨hcounters, hjournal⟩ := failAt_ends hend
    refine ⟨hcounters, hjournal, fun _ hok => ?_⟩
    unfold failAt at hok
    rw [get_bind_eq_ok] at hok
    split at hok
    · obtain ⟨_, _, -, hkilled⟩ := bind_eq_ok.mp hok
      nomatch hkilled
    · obtain ⟨owner, _, -, hraised⟩ := bind_eq_ok.mp hok
      rcases owner with - | owner
      · exact violate_eq_ok hraised
      · nomatch hraised

/-! ### One diagnostic -/

/-- From one state to the other, no counter is changed, unless by scripts that the hooks carry out
when they are asked about the diagnostic. -/
inductive Apart (sub : Script → Act Unit) (d : Diagnostic) (is : List Installed) :
    Engine → Engine → Prop
  | same {e e' : Engine} (h : e'.counters = e.counters) : Apart sub d is e e'
  | ran {i : Installed} {hook : RuleHook Action} {rule : Rule Action} {e e' : Engine} (hi : i ∈ is)
      (hhook : i.hook = .rules hook) (hrule : hook.rules.find? (·.isMatch d) = some rule)
      (h : Ended (sub rule.run) e e') : Apart sub d is e e'
  | trans {e₁ e₂ e₃ : Engine} (h : Apart sub d is e₁ e₂) (h' : Apart sub d is e₂ e₃) :
      Apart sub d is e₁ e₃

/-- One of the hooks has credited the diagnostic to its counter, which went up by one. -/
def CreditedBy (d : Diagnostic) (is : List Installed) (e e' : Engine) : Prop :=
  ∃ i ∈ is, ∃ counter, i.hook.counter? d = some counter ∧
    e'.counters = e.counters.modify counter (· + 1)

/-- When hooks have been asked, the diagnostic may have been credited if the answer is to suppress
it, and nothing has been counted since then. -/
def Tallies (sub : Script → Act Unit) (d : Diagnostic) (is : List Installed) (e : Engine) :
    EStateM.Result Stop Engine Answer → Prop
  | .ok a e' => Apart sub d is e e' ∨
    a = .suppress ∧ ∃ e₁, Apart sub d is e e₁ ∧ CreditedBy d is e₁ e'
  | .error (.unwound _) e' => Apart sub d is e e'
  | .error _ _ => True

variable {d : Diagnostic} {is js : List Installed} {i : Installed}

/-- What comes before has its own scripts. -/
theorem Tallies.of_apart {o : EStateM.Result Stop Engine Answer} (h : Apart sub d is e e₁)
    (ho : Tallies sub d is e₁ o) : Tallies sub d is e o := by
  rcases o with ⟨a, e'⟩ | ⟨_ | _ | _ | _, e'⟩
  · rcases ho with happart | ⟨ha, e₂, happart, hcredited⟩
    · exact .inl (h.trans happart)
    · exact .inr ⟨ha, e₂, h.trans happart, hcredited⟩
  · exact h.trans ho
  all_goals trivial

/-- A hook that is asked credits the diagnostic and suppresses it, or else leaves the counters to
its script. -/
theorem tallies_askHook (hi : i ∈ is) (e : Engine) :
    Tallies sub d is e (askHook sub d i.hook (asking i d e)) := by
  have hasked : Apart sub d is e (asking i d e) := .same rfl
  rcases hhook : i.hook with policies | expectations | hook
  · exact .of_apart hasked (Or.inl (.same rfl))
  · rcases hx : expectations.find? (·.isMatch d) with - | x
    · simp only [askHook, hx]
      exact .of_apart hasked (Or.inl (.same rfl))
    · have hcounter : i.hook.counter? d = some x.counter := by
        simp only [hhook, Hook.counter?, hx]
        rfl
      simp only [askHook, hx]
      exact .of_apart hasked (Or.inr ⟨rfl, asking i d e, .same rfl, i, hi, x.counter, hcounter, rfl⟩)
  · have hruling : (ruling i hook.label d e).counters = e.counters := by
      rcases hook.label with - | label <;> rfl
    rw [← hhook]
    rcases hrule : hook.rules.find? (·.isMatch d) with - | rule
    · rw [askHook_of_rules hhook, hrule]
      exact .of_apart (.same hruling) (Or.inl (.same rfl))
    · rw [askHook_of_rule hhook hrule]
      refine .of_apart (.same hruling) ?_
      rcases hrun : sub rule.run (ruling i hook.label d e) with ⟨_, e₂⟩ | ⟨payload | _ | _ | _, e₂⟩
      · rw [bind_of_ok hrun]
        exact Or.inl (.ran hi hhook hrule (.inl ⟨_, hrun⟩))
      · rw [bind_of_error hrun]
        exact Apart.ran hi hhook hrule (.inr ⟨payload, hrun⟩)
      all_goals
        rw [bind_of_error hrun]
        trivial

/-- When hooks have been asked, one has credited the diagnostic at most, and then it was the last
to be asked. -/
theorem tallies_askAll (hjs : ∀ i ∈ js, i ∈ is) (e : Engine) :
    Tallies sub d is e (askAll sub d js e) := by
  induction js generalizing e with
  | nil => exact Or.inl (.same rfl)
  | cons i js ih =>
    have hfirst : Tallies sub d is e (askHook sub d i.hook (asking i d e)) :=
      tallies_askHook (hjs i (List.mem_cons_self ..)) e
    rw [askAll_cons]
    -- the others are asked only if this one proceeds, and then it has credited nothing
    rcases ho : askHook sub d i.hook (asking i d e) with ⟨answer, e₁⟩ | ⟨stop, e₁⟩ <;>
      rw [ho] at hfirst
    · rcases answer with _ | _ | _ | _ | _
      · rcases hfirst with happart | ⟨hsuppress, -⟩
        · exact .of_apart happart (ih (fun j hj => hjs j (List.mem_cons_of_mem i hj)) e₁)
        · nomatch hsuppress
      all_goals exact hfirst
    · rcases stop with _ | _ | _ | _
      · exact hfirst
      all_goals trivial

/-- Carrying out an answer leaves the counters alone. -/
theorem counters_of_carryOut {a : Answer} (h : Ended (carryOut d a) e e') :
    e'.counters = e.counters := by
  have hbailOut : ∀ level message e, Lands (fun e' => e'.counters = e.counters)
      ((bailOut level message : Act Unit) e) := by
    intro level message e
    unfold bailOut
    rw [bind_of_ok (x := print (Tap.bailOut (some message))) rfl,
      bind_of_ok (get_eq_ok.mpr ⟨rfl, rfl⟩)]
    split <;> trivial
  have hlands : Lands (fun e' => e'.counters = e.counters) (carryOut d a e) := by
    rcases a with _ | _ | _ | message | _
    · rfl
    · rfl
    · rw [carryOut_suppress]
      unfold suppressing
      split <;> rfl
    · rcases hc : e.context with - | c
      · have hrequest : request (.fail message) e = .ok false e := bind_of_ok (record_of_idle hc _)
        have hcarry : carryOut d (.abort message) e =
            (bailOut (some d.level) d.plain : Act Unit) e := bind_of_ok hrequest
        rw [hcarry]
        exact hbailOut _ _ _
      · rw [carryOut_abort hc]
        split <;> rfl
    · exact hbailOut _ _ _
  exact Lands.of_ended hlands h

/-- Whatever the hooks in the chain are, a diagnostic increases one counter at most, and that by one,
apart from what the scripts do that they carry out. -/
theorem countsOnce_of_dispatch (h : Ended (dispatch sub d) e e') : ∃ e₁, Apart sub d e.chain e e₁ ∧
    (e'.counters = e₁.counters ∨ CreditedBy d e.chain e₁ e') := by
  have htallies : Tallies sub d e.chain e (askAll sub d e.chain e) :=
    tallies_askAll (fun i hi => hi) e
  rcases hask : askAll sub d e.chain e with ⟨a, e₁⟩ | ⟨stop, e₁⟩ <;> rw [hask] at htallies
  · -- what follows the answer of the hooks leaves the counters alone
    have hrest : e'.counters = e₁.counters := by
      by_cases hproceed : a = .proceed
      · subst hproceed
        unfold Ended at h
        rw [dispatch_of_unanswered hask] at h
        obtain ⟨b, journal, hanswer⟩ := defaultAnswer_eq_ok d e₁
        rw [bind_of_ok hanswer] at h
        exact counters_of_carryOut (e := deciding d b { e₁ with journal := journal }) h
      · unfold Ended at h
        rw [dispatch_of_answered hask hproceed] at h
        exact counters_of_carryOut (e := deciding d a e₁) h
    rcases htallies with happart | ⟨-, e₂, happart, i, hi, counter, hcounter, hcredited⟩
    · exact ⟨e₁, happart, .inl hrest⟩
    · exact ⟨e₂, happart, .inr ⟨i, hi, counter, hcounter, hrest.trans hcredited⟩⟩
  · unfold Ended at h
    rw [dispatch_of_error hask] at h
    rcases h with ⟨_, hok⟩ | ⟨payload, hstop⟩
    · nomatch hok
    · cases hstop
      exact ⟨e', htallies, .inl rfl⟩

end Engine

end TestEngine
