/-
TestEngine/Proofs/Run/Subunits.lean

The subunits of a complex case.  They run in order, each as a test of its own, up to and
including the first that fails; those after it are reported as failed all the same, so each tag
has its line.  The result of the case is read off the lines.

`Played` says this in terms of the lines alone: the first failure among them (`firstFailure`)
separates the subunits that have run, each under its own verdict, from those that were passed
over.  `runSubunits` keeps two accounts while it goes, whether a subunit has failed and what has
been reported; `settles_runSubunits` relates both to the units behind, by induction on those
ahead.  A body that ends the process ends all this with it, and nothing else does as long as no
body violates a contract (`plays_of_units`).
-/
import TestEngine.Proofs.Run.Aborted
import TestEngine.Proofs.Run.Behaved
import TestEngine.Proofs.Run.Timeline

namespace TestEngine

namespace Engine

variable {case : ObjectId} {path : Path} {number unit : Nat} {units : List (String × Script)}
  {e e' : Engine}

/-! ### The first failure -/

/-- The number of the first result that is a failure; without one, how many results there are. -/
def firstFailure (results : List Verdict) : Nat := results.findIdx Verdict.isFail

theorem firstFailure_cons_of_fail {v : Verdict} (hv : v.isFail = true) (results : List Verdict) :
    firstFailure (v :: results) = 0 := by
  rw [firstFailure, List.findIdx_cons, hv]
  rfl

theorem firstFailure_cons_of_not_fail {v : Verdict} (hv : v.isFail = false)
    (results : List Verdict) : firstFailure (v :: results) = firstFailure results + 1 := by
  rw [firstFailure, List.findIdx_cons, hv]
  rfl

/-- The units that are started are those up to the first failure. -/
theorem unitOf?_reportSteps (case : ObjectId) (number unit : Nat) (lines : List Line) :
    (reportSteps case number unit false lines).filterMap (Entry.unitOf? case) =
      List.range' unit (min lines.length (firstFailure (lines.map Prod.snd) + 1)) := by
  induction lines generalizing number unit with
  | nil => rfl
  | cons line lines ih =>
    have hhead : (unitSteps case number unit (!false) line).filterMap (Entry.unitOf? case) =
        [unit] := by
      simp [unitSteps, Entry.unitOf?]
    rw [reportSteps, List.filterMap_append, hhead, Bool.false_or, List.map_cons, List.length_cons]
    rcases hline : line.2.isFail with - | -
    · rw [ih, firstFailure_cons_of_not_fail hline, Nat.succ_min_succ, List.range'_succ]
      rfl
    · obtain ⟨count, -, hzero, hunits⟩ :=
        units_of_reportSteps case (number + 1) (unit + 1) true lines
      rw [hunits, hzero rfl, firstFailure_cons_of_fail hline, Nat.min_eq_right (by omega)]
      rfl

/-! ### Subunits -/

/-- The body of the unit violates a contract. -/
def Violates (case : ObjectId) (k : Nat) (script : Script) (e : Engine) : Prop :=
  ∃ v e', perform script (begun case k e) = .error (.unwound (.violation v)) e'

/-- A body that ends with another unwinding violates no contract. -/
theorem not_violates_of_unwound {k : Nat} {a : Action} {script : Script} (payload : Payload)
    (h : act (performWithin 999) a (begun case k e) = .error (.unwound payload) e')
    (hpayload : ∀ v, payload ≠ .violation v) : ¬ Violates case k (a :: script) e := by
  rintro ⟨v, e₁, hends⟩
  have hstop : perform (a :: script) (begun case k e) = .error (.unwound payload) e' :=
    bind_of_error h
  rw [hstop] at hends
  cases hends
  exact hpayload v rfl

/-- A test whose body violates no contract has a verdict, or the process ends in its body. -/
theorem error_of_concluded {o : EStateM.Result Stop Engine Unit} {stop : Stop}
    (h : concluded o = .error stop e') (ho : ∀ v e₁, o ≠ .error (.unwound (.violation v)) e₁) :
    o = .error stop e' ∧ ∀ payload, stop ≠ .unwound payload := by
  rcases o with ⟨_, e₁⟩ | ⟨payload | _ | _ | _, e₁⟩
  · cases h
  · obtain ⟨w, hw⟩ := exists_verdictOn e₁.pending fun v hv => ho v e₁ (hv ▸ rfl)
    simp only [concluded, hw] at h
    cases h
  all_goals
    cases h
    exact ⟨rfl, by simp⟩

/-- Of the units listed, numbered from `unit` on, those up to the first failure have run as
tests, each when it was reached, and the results are theirs; the others have not. -/
structure Own (case : ObjectId) (path : Path) (number unit : Nat) (units : List (String × Script))
    (e : Engine) (results : List Verdict) : Prop where
  ran : ∀ k w, results[k]? = some w → k ≤ firstFailure results →
    ∃ tag script e₁ e₂, units[k]? = some (tag, script) ∧
      Begins case path number unit units e (unit + k) script e₁ ∧
      runUnit case (unit + k) script e₁ = .ok w e₂
  passedOver : ∀ k w, results[k]? = some w → firstFailure results < k →
    w = .fail "previous subunit failed"

/-- The process ends in the body of one of the units, without unwinding. -/
def EndsIn (case : ObjectId) (path : Path) (number unit : Nat) (units : List (String × Script))
    (e : Engine) (stop : Stop) : Prop :=
  ∃ k script e₁ e₂, Begins case path number unit units e k script e₁ ∧
    perform script (begun case k e₁) = .error stop e₂ ∧ ∀ payload, stop ≠ .unwound payload

/-- One unit after another: when its line is reported, the others follow. -/
theorem runSubunits_step (failed : Bool) (unit : Nat) (script : Script)
    (units : List (String × Script)) {tag : String} {v : Verdict} {e₁ e₂ : Engine}
    (htag : isElement tag = true)
    (hrun : (if failed then pure (.fail "previous subunit failed") else runUnit case unit script :
      Act Verdict) e = .ok v e₁)
    (hreport : report case number ⟨path.elements ++ [tag]⟩ v e₁ = .ok () e₂) :
    runSubunits case path number unit failed ((tag, script) :: units) e =
      (do
        let others ← runSubunits case path (number + 1) (unit + 1) (failed || v.isFail) units
        pure ((tag, (⟨path.elements ++ [tag]⟩ : Path), v) :: others)) e₂ := by
  rw [runSubunits_cons, bind_of_ok hrun, bind_of_ok (subpath_eq_ok.mpr ⟨htag, rfl, rfl⟩),
    bind_of_ok hreport]

/-- The unit that is reached is one of those listed. -/
theorem Begins.mem {k : Nat} {script : Script}
    (h : Begins case path number unit units e k script e') : ∃ tag, (tag, script) ∈ units := by
  induction h with
  | here => exact ⟨_, List.mem_cons_self ..⟩
  | later _ _ _ _ ih => exact ih.imp fun _ => List.mem_cons_of_mem _

/-- Once a unit has failed, the others are only reported. -/
theorem runSubunits_of_failed (case : ObjectId) (path : Path) (number unit : Nat) (e : Engine)
    (htags : ∀ u ∈ units, isElement u.1 = true) :
    ∃ ls e', runSubunits case path number unit true units e = .ok ls e' ∧
      ∀ v ∈ ls.map fun l => l.2.2, v = .fail "previous subunit failed" := by
  induction units generalizing number unit e with
  | nil => exact ⟨[], e, rfl, by simp⟩
  | cons u units ih =>
    obtain ⟨tag, script⟩ := u
    obtain ⟨htag, htags⟩ := List.forall_mem_cons.mp htags
    obtain ⟨e₁, hreport⟩ : ∃ e₁, report case number ⟨path.elements ++ [tag]⟩
      (.fail "previous subunit failed") e = .ok () e₁ := ⟨_, rfl⟩
    obtain ⟨ls, e', hrest, hall⟩ := ih (number + 1) (unit + 1) e₁ htags
    have hstep := runSubunits_step true unit script units htag (pure_eq_ok.mpr ⟨rfl, rfl⟩) hreport
    exact ⟨_, e', hstep.trans (bind_of_ok hrest), List.forall_mem_cons.mpr ⟨rfl, hall⟩⟩

/-- Units that violate no contract come to results of their own, or the process ends in one. -/
def Settles (case : ObjectId) (path : Path) (number unit : Nat) (units : List (String × Script))
    (e : Engine) : EStateM.Result Stop Engine (List (String × Line)) → Prop
  | .ok ls _ => Own case path number unit units e (ls.map fun l => l.2.2)
  | .error stop _ => EndsIn case path number unit units e stop

section Cons

variable {tag : String} {script : Script} {v : Verdict} {e₁ e₂ : Engine} {results : List Verdict}
  (hrun : runUnit case unit script e = .ok v e₁)

include hrun

/-- A unit that fails is the last to run. -/
theorem own_cons_of_fail (hv : v.isFail = true)
    (hrest : ∀ w ∈ results, w = .fail "previous subunit failed") :
    Own case path number unit ((tag, script) :: units) e (v :: results) := by
  refine ⟨fun k w hw hk => ?_, fun k w hw hk => ?_⟩
  · rw [firstFailure_cons_of_fail hv] at hk
    obtain rfl := Nat.le_zero.mp hk
    cases hw
    exact ⟨tag, script, e, e₁, rfl, .here, hrun⟩
  · rcases k with - | k
    · exact absurd hk (Nat.not_lt_zero _)
    · exact hrest w (List.mem_of_getElem? hw)

/-- After a unit that does not fail, those behind it come to what they come to on their own. -/
theorem own_cons_of_not_fail (hv : v.isFail = false) (hreport :
      (do let p ← subpath path tag; report case number p v) e₁ = .ok () e₂)
    (hrest : Own case path (number + 1) (unit + 1) units e₂ results) :
    Own case path number unit ((tag, script) :: units) e (v :: results) := by
  refine ⟨fun k w hw hk => ?_, fun k w hw hk => ?_⟩
  · rcases k with - | k
    · cases hw
      exact ⟨tag, script, e, e₁, rfl, .here, hrun⟩
    · rw [firstFailure_cons_of_not_fail hv] at hk
      obtain ⟨tag', s, e₃, e₄, hunit, hbegins, hrun'⟩ :=
        hrest.ran k w hw (Nat.le_of_succ_le_succ hk)
      rw [Nat.add_right_comm, Nat.add_assoc] at hbegins hrun'
      exact ⟨tag', s, e₃, e₄, hunit, .later hrun hv hreport hbegins, hrun'⟩
  · rw [firstFailure_cons_of_not_fail hv] at hk
    rcases k with - | k
    · exact absurd hk (Nat.not_lt_zero _)
    · exact hrest.passedOver k w hw (Nat.lt_of_succ_lt_succ hk)

end Cons

theorem settles_runSubunits (hidle : e.context = none)
    (htags : ∀ u ∈ units, isElement u.1 = true)
    (hclean : ∀ k script e₁, Begins case path number unit units e k script e₁ →
      ¬ Violates case k script e₁) :
    Settles case path number unit units e (runSubunits case path number unit false units e) := by
  -- the units ahead start as they do behind this one, so what is known of those starts is kept
  induction units generalizing number unit e with
  | nil => exact ⟨fun k w hw => absurd hw (by simp), fun k w hw => absurd hw (by simp)⟩
  | cons u units ih =>
    obtain ⟨tag, script⟩ := u
    obtain ⟨htag, htags⟩ := List.forall_mem_cons.mp htags
    rcases hrun : runUnit case unit script e with ⟨v, e₁⟩ | ⟨stop, e₁⟩
    · obtain ⟨e₂, hreport⟩ : ∃ e₂, report case number ⟨path.elements ++ [tag]⟩ v e₁ = .ok () e₂ :=
        ⟨_, rfl⟩
      have hstep := runSubunits_step false unit script units htag hrun hreport
      rw [hstep, Bool.false_or]
      rcases hv : v.isFail with - | -
      · have hline : (do let p ← subpath path tag; report case number p v) e₁ = .ok () e₂ :=
          (bind_of_ok (subpath_eq_ok.mpr ⟨htag, rfl, rfl⟩)).trans hreport
        have hidle₂ : e₂.context = none :=
          idle_of_isActive ((advances_runUnit hrun).trans (advances_report hreport)).active hidle
        have hrest := ih hidle₂ htags fun k s e₃ hs => hclean k s e₃ (.later hrun hv hline hs)
        rcases ho : runSubunits case path (number + 1) (unit + 1) false units e₂ with
          ⟨ls, e₃⟩ | ⟨stop, e₃⟩
        all_goals rw [ho] at hrest
        · rw [bind_of_ok ho]
          exact own_cons_of_not_fail hrun hv hline hrest
        · rw [bind_of_error ho]
          obtain ⟨k, s, e₄, e₅, hs, hstop⟩ := hrest
          exact ⟨k, s, e₄, e₅, .later hrun hv hline hs, hstop⟩
      · obtain ⟨ls, e₃, hrest, hall⟩ :=
          runSubunits_of_failed case path (number + 1) (unit + 1) e₂ htags
        rw [bind_of_ok hrest]
        exact own_cons_of_fail hrun hv hall
    · have hstop : runSubunits case path number unit false ((tag, script) :: units) e =
          .error stop e₁ := by
        rw [runSubunits_cons]
        exact bind_of_error hrun
      rw [hstop]
      rw [runUnit_of_idle hidle] at hrun
      obtain ⟨hbody, hends⟩ := error_of_concluded hrun fun v e₂ hv =>
        hclean unit script e .here ⟨v, e₂, hv⟩
      exact ⟨unit, script, e, e₁, .here, hbody, hends⟩

/-! ### The result of the case -/

section Coalesce

variable {ls : List (String × Line)} {results : List Verdict}
  (hresults : ls.map (fun l => l.2.2) = results)

include hresults

theorem find?_isFail_eq : ls.find? (fun l => l.2.2.isFail) = ls[firstFailure results]? := by
  rw [List.find?_eq_getElem?_findIdx, ← hresults, firstFailure, List.findIdx_map]
  rfl

theorem coalesce_of_fail {tag : String} (h : (ls.map Prod.fst)[firstFailure results]? = some tag) :
    coalesce ls = .fail ("subunit " ++ tag ++ " failed") := by
  rw [List.getElem?_map, ← find?_isFail_eq hresults] at h
  obtain ⟨l, hl, rfl⟩ := Option.map_eq_some_iff.mp h
  simp only [coalesce, hl]

theorem coalesce_of_not_fail (h : ∀ w ∈ results, w.isFail = false) :
    coalesce ls = if results.all (fun w => w.kind == .skip) then .skip "all subunits skipped"
      else .pass := by
  have hnone : ls.find? (fun l => l.2.2.isFail) = none := by
    refine List.find?_eq_none.mpr fun l hl hfail => ?_
    rw [h _ (hresults ▸ List.mem_map_of_mem hl)] at hfail
    nomatch hfail
  simp only [coalesce, hnone, ← hresults, List.all_map]
  rfl

end Coalesce

/-! ### Played -/

/-- How a complex case has run. -/
structure Played (case : ObjectId) (path : Path) (number : Nat) (units : List (String × Script))
    (e : Engine) (v : Verdict) (lines : List Line) (e' : Engine) : Prop where
  /-- There is one line for each tag, in order, under the path of the subunit. -/
  paths : lines.map Prod.fst = units.map fun u => ⟨path.elements ++ [u.1]⟩
  /-- These lines are reported, each once, and nothing else is. -/
  reported : reportsSince e e' = lines.map fun line => (case, line)
  printed : reportTextsSince e e' = resultTexts number lines
  /-- The subunits that run are those up to the first failure, in order. -/
  started : (stepsSince e e').filterMap (Entry.unitOf? case) =
    List.range (min units.length (firstFailure (lines.map Prod.snd) + 1))
  /-- Those have the verdicts of their bodies, and the others are failures. -/
  own : Own case path number 0 units e (lines.map Prod.snd)
  /-- The first failure, if there is one, is the failure of the case. -/
  failed : ∀ tag, (units.map Prod.fst)[firstFailure (lines.map Prod.snd)]? = some tag →
    v = .fail ("subunit " ++ tag ++ " failed")
  skipped : (∀ w ∈ lines.map Prod.snd, w.kind = .skip) → v = .skip "all subunits skipped"
  passed : (∀ w ∈ lines.map Prod.snd, w.isFail = false) →
    (∃ w ∈ lines.map Prod.snd, w.kind ≠ .skip) → v = .pass

/-- A complex case is played, or the process ends in the body of one of its subunits. -/
inductive Plays (case : ObjectId) (path : Path) (number : Nat) (units : List (String × Script))
    (e : Engine) : EStateM.Result Stop Engine (Verdict × List Line) → Prop
  | played {v : Verdict} {lines : List Line} {e' : Engine}
      (h : Played case path number units e v lines e') :
      Plays case path number units e (.ok (v, lines) e')
  | ended {stop : Stop} {e' : Engine} (h : EndsIn case path number 0 units e stop) :
      Plays case path number units e (.error stop e')

theorem Own.played {ls : List (String × Line)}
    (hown : Own case path number 0 units e (ls.map fun l => l.2.2))
    (h : runSubunits case path number 0 false units e = .ok ls e') :
    Played case path number units e (coalesce ls) (ls.map Prod.snd) e' := by
  obtain ⟨hsteps, htags, hpaths⟩ := advances_runSubunits h
  have hresults : ls.map (fun l => l.2.2) = (ls.map Prod.snd).map Prod.snd := by
    rw [List.map_map]
    rfl
  have hcount : (ls.map Prod.snd).length = units.length := by
    rw [List.length_map, ← List.length_map Prod.fst, htags, List.length_map]
  rw [hresults] at hown
  refine ⟨?_, ?_, ?_, ?_, hown, fun tag htag => ?_, fun hskip => ?_, fun hnone ⟨w, hw, hne⟩ => ?_⟩
  · rw [List.map_map]
    exact hpaths.trans (List.map_map ..)
  · rw [reportsSince_eq, hsteps.stepsSince_eq, reportSteps_filterMap_report?]
  · rw [reportTextsSince_eq, hsteps.stepsSince_eq, reportSteps_filterMap_reportText?]
  · rw [hsteps.stepsSince_eq, unitOf?_reportSteps, hcount, List.range_eq_range']
  · exact coalesce_of_fail hresults (htags ▸ htag)
  · rw [coalesce_of_not_fail hresults fun w hw => by rw [Verdict.isFail, hskip w hw]; rfl, if_pos]
    exact List.all_eq_true.mpr fun w hw => beq_iff_eq.mpr (hskip w hw)
  · rw [coalesce_of_not_fail hresults hnone, if_neg]
    exact fun hall => hne (beq_iff_eq.mp (List.all_eq_true.mp hall w hw))

/-- Subunits that violate no contract are run up to and including the first that fails, and each
is reported, unless the process ends in the body of one.  As in every run, no test is active when
they start, for each is a test of its own, and the tags are elements of paths. -/
theorem plays_of_units (case : ObjectId) (path : Path) (number : Nat)
    (units : List (String × Script)) (e : Engine) (hidle : e.context = none)
    (htags : ∀ u ∈ units, isElement u.1 = true)
    (hclean : ∀ k script e₁, Begins case path number 0 units e k script e₁ →
      ¬ Violates case k script e₁) :
    Plays case path number units e (runBody case path number (.complex units) e) := by
  have hsettles := settles_runSubunits hidle htags hclean
  rcases ho : runSubunits case path number 0 false units e with ⟨ls, e'⟩ | ⟨stop, e'⟩
  all_goals rw [ho] at hsettles
  · have hbody : runBody case path number (.complex units) e =
        .ok (coalesce ls, ls.map Prod.snd) e' := bind_of_ok ho
    rw [hbody]
    exact .played (Own.played hsettles ho)
  · have hbody : runBody case path number (.complex units) e = .error stop e' := bind_of_error ho
    rw [hbody]
    exact .ended hsettles

/-- Subunits of which one is skipped, one passes early, one panics, and one comes too late. -/
def medley : List (String × Script) :=
  [("arrange", [.raise (.skip "no fixture")]),
    ("act", [.raise ⟨.pass, some "early"⟩, .panic .nonText]),
    ("assert", [.panic (.text "broken"), .trace "unreached"]), ("clean", [.trace "never"])]

/-- A pass is no failure and a skip alone is none either, but a panic fails what comes after it. -/
theorem plays_of_medley :
    Engine.initial.context = none ∧ (∀ u ∈ medley, isElement u.1 = true) ∧
      (∀ k script e₁, Begins 7 ⟨["case"]⟩ 1 0 medley .initial k script e₁ →
        ¬ Violates 7 k script e₁) ∧
      Plays 7 ⟨["case"]⟩ 1 medley .initial (runBody 7 ⟨["case"]⟩ 1 (.complex medley) .initial) ∧
      valueOf (runBody 7 ⟨["case"]⟩ 1 (.complex medley) .initial) =
        some (.fail "subunit assert failed",
          [(⟨["case", "arrange"]⟩, .skip "no fixture"), (⟨["case", "act"]⟩, ⟨.pass, some "early"⟩),
            (⟨["case", "assert"]⟩, .fail "panicked: broken"),
            (⟨["case", "clean"]⟩, .fail "previous subunit failed")]) := by
  have hidle : Engine.initial.context = none := rfl
  have htags : ∀ u ∈ medley, isElement u.1 = true := by decide +kernel
  have hclean : ∀ k script e₁, Begins 7 ⟨["case"]⟩ 1 0 medley .initial k script e₁ →
      ¬ Violates 7 k script e₁ := by
    intro k script e₁ hbegins
    obtain ⟨tag, hmem⟩ := hbegins.mem
    simp only [medley, List.mem_cons, List.not_mem_nil, or_false, Prod.mk.injEq] at hmem
    rcases hmem with ⟨-, rfl⟩ | ⟨-, rfl⟩ | ⟨-, rfl⟩ | ⟨-, rfl⟩
    · exact not_violates_of_unwound .abortSignal (raise_of_active rfl _) (by simp)
    · exact not_violates_of_unwound .abortSignal (raise_of_active rfl _) (by simp)
    · exact not_violates_of_unwound (.text "broken") rfl (by simp)
    · rintro ⟨v, e₂, hends⟩
      have hreturns : perform [.trace "never"] (begun 7 k e₁) = .ok () _ := rfl
      nomatch hreturns.symm.trans hends
  have hplays := plays_of_units 7 ⟨["case"]⟩ 1 medley .initial hidle htags hclean
  exact ⟨hidle, htags, hclean, hplays, by decide +kernel⟩

end Engine

end TestEngine
