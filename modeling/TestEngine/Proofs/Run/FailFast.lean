/-
TestEngine/Proofs/Run/FailFast.lean

What fail-fast does.  Of two runs from the same state, one with fail-fast and one without, both do
the same up to the end of the first case that fails (`InStep`).  There the run with fail-fast prints
the line of its bail-out, and it does nothing after that (`Stopped`), whatever the scheduler was
about to do for other cases.  So it is a prefix of the other one (`truncates_of_run`).
-/
import TestEngine.Proofs.Run.Order
import TestEngine.Proofs.Run.Simulation
import TestEngine.Proofs.Run.Stream
import TestEngine.Proofs.Run.Timeline

namespace TestEngine

/-- Does the entry say that a case failed? -/
def Entry.isFailure : Entry → Bool
  | .resolved _ v => v.isFail
  | _ => false

theorem Entry.isStep_of_isFailure {x : Entry} (h : x.isFailure = true) : x.isStep = true := by
  rcases x with _ | _ | _ | _ | _ | _ | _ | _ | _ | _ | _ | _ | _ | _ | _ | _
  all_goals first
    | rfl
    | exact absurd h (by simp [Entry.isFailure])

/-- Where a list is split at its first failure, there is one way to do it. -/
theorem eq_of_first_failure {before before' after after' : List Entry} {x x' : Entry}
    (h : before ++ x :: after = before' ++ x' :: after')
    (hbefore : ∀ y ∈ before, y.isFailure = false) (hx : x.isFailure = true)
    (hbefore' : ∀ y ∈ before', y.isFailure = false) (hx' : x'.isFailure = true) :
    before = before' ∧ x = x' ∧ after = after' := by
  induction before generalizing before' with
  | nil =>
    rcases before' with - | ⟨y, before'⟩
    · obtain ⟨rfl, rfl⟩ := List.cons.inj h
      exact ⟨rfl, rfl, rfl⟩
    · obtain ⟨rfl, -⟩ := List.cons.inj h
      exact absurd (hbefore' x (List.mem_cons_self ..)) (by rw [hx]; simp)
  | cons y before ih =>
    rcases before' with - | ⟨y', before'⟩
    · obtain ⟨rfl, -⟩ := List.cons.inj h
      exact absurd (hbefore y (List.mem_cons_self ..)) (by rw [hx']; simp)
    · obtain ⟨rfl, htail⟩ := List.cons.inj h
      obtain ⟨rfl, hrest⟩ := ih htail (fun z hz => hbefore z (List.mem_cons_of_mem _ hz))
        fun z hz => hbefore' z (List.mem_cons_of_mem _ hz)
      exact ⟨rfl, hrest⟩

namespace Engine

variable {e e' e₁ e₂ : Engine}

theorem since_append (h : e.journal <:+ e₁.journal) (h' : e₁.journal <:+ e₂.journal) :
    since e e₂ = since e e₁ ++ since e₁ e₂ := by
  obtain ⟨new, hnew⟩ := h
  obtain ⟨new', hnew'⟩ := h'
  have hfirst : e₁.journal = new.reverse.reverse ++ e.journal := by
    rw [List.reverse_reverse, hnew]
  have hsecond : e₂.journal = new'.reverse.reverse ++ e₁.journal := by
    rw [List.reverse_reverse, hnew']
  rw [since_eq hfirst, since_eq hsecond, since_eq (journal_append hfirst hsecond)]

theorem since_of_cons {x : Entry} (h : e.journal <:+ e₁.journal)
    (hnext : e₂.journal = x :: e₁.journal) : since e e₂ = since e e₁ ++ [x] := by
  rw [since_append h (hnext ▸ List.suffix_cons x e₁.journal)]
  exact congrArg _ (since_eq hnext)

theorem reportsSince_append (h : e.journal <:+ e₁.journal) (h' : e₁.journal <:+ e₂.journal) :
    reportsSince e e₂ = reportsSince e e₁ ++ reportsSince e₁ e₂ := by
  unfold reportsSince
  rw [since_append h h', List.filterMap_append]

theorem journal_eq_since (h : e.journal <:+ e₁.journal) :
    e₁.journal = (since e e₁).reverse ++ e.journal := by
  obtain ⟨new, hnew⟩ := h
  have hfirst : e₁.journal = new.reverse.reverse ++ e.journal := by
    rw [List.reverse_reverse, hnew]
  rw [since_eq hfirst]
  exact hfirst

end Engine

namespace Run

open Engine

variable {mode : Mode} {t : Tree} {case : ObjectId} {blocked : Option Verdict} {v : Verdict}
  {r r' r₁ : Run} {e : Engine}

/-! ### One case in both runs -/

/-- Two runs of the tree, begun in the state `e` of the engine, are the same so far, and no case has
failed. -/
structure InStep (t : Tree) (e : Engine) (r r' : Run) : Prop where
  same : r' = r
  goes : r.isOver = false
  static : r.tree.static = t.static
  untouched : ∀ c, r.tree.result? c = none → r.tree.case? c = t.case? c
  later : e.journal <:+ r.engine.journal
  calm : ∀ x ∈ since e r.engine, x.isFailure = false
  results : r.summary.results = (reportsSince e r.engine).map Prod.snd

/-- The second run has been ended because this case failed, after these entries; the first one has
noted the same up to there. -/
structure StoppedAt (t : Tree) (e : Engine) (case : ObjectId) (v : Verdict) (before : List Entry)
    (r r' : Run) : Prop where
  failed : v.isFail = true
  calm : ∀ x ∈ before, x.isFailure = false
  earlier : .resolved case v :: (before.reverse ++ e.journal) <:+ r.engine.journal
  journal : r'.engine.journal = .printed .report (Tap.bailOut (some (grievance t case))) ::
    .resolved case v :: (before.reverse ++ e.journal)
  bailOut : r'.summary.bailOut = some (grievance t case)
  results : r'.summary.results = (before.filterMap Entry.report?).map Prod.snd
  torn : ∀ script, t.teardown? case = some script → ∃ e₁ e₂,
    perform script (tearing case e₁) = .ok () e₂ ∧ since e e₂ = before

/-- The second run has been ended by the first failure. -/
def Stopped (t : Tree) (e : Engine) (r r' : Run) : Prop :=
  ∃ case v before, StoppedAt t e case v before r r'

theorem isFailure_of_mem_reports {s : Settlement} {x : Entry} (h : x ∈ s.reports ++ s.cleanups) :
    x.isFailure = false := by
  unfold Settlement.reports Settlement.cleanups at h
  rcases List.mem_append.mp h with h | h
  · rcases List.mem_append.mp h with h | h
    · obtain ⟨_, -, rfl⟩ := List.mem_map.mp h
      rfl
    · rcases cases_of_mem_reportSteps h with ⟨_, rfl⟩ | ⟨_, rfl⟩ | ⟨_, _, rfl⟩ <;> rfl
  · obtain ⟨_, -, rfl⟩ := List.mem_map.mp h
    rfl

/-- Nothing that is noted for a case before its result is stored says that a case failed. -/
theorem calm_of_settled {s : Settlement} {r₂ : Run} (hsteps : Advances s.steps r.engine r'.engine)
    (hbail : s.bail = none) (hon : r.engine.journal <:+ r₂.engine.journal)
    (hlast : r'.engine.journal = .resolved s.case s.verdict :: r₂.engine.journal) :
    ∀ x ∈ since r.engine r₂.engine, x.isFailure = false := by
  have hfilter : (since r.engine r₂.engine).filter Entry.isStep = s.reports ++ s.cleanups := by
    have hall := hsteps.stepsSince_eq
    unfold stepsSince Settlement.steps Settlement.conclusion at hall
    rw [since_of_cons hon hlast, List.filter_append, hbail] at hall
    exact List.append_cancel_right hall
  intro x hx
  rcases hfailure : x.isFailure with - | -
  · rfl
  · have hmem : x ∈ s.reports ++ s.cleanups :=
      hfilter ▸ List.mem_filter.mpr ⟨hx, Entry.isStep_of_isFailure hfailure⟩
    exact hfailure.symm.trans (isFailure_of_mem_reports hmem)

/-- A run without fail-fast, begun in the state `e` of the engine, has finished a case after these
entries, none of which says that a case failed. -/
structure FinishedAt (t : Tree) (e : Engine) (case : ObjectId) (v : Verdict) (before : List Entry)
    (r : Run) : Prop where
  goes : r.isOver = false
  static : r.tree.static = t.static
  untouched : ∀ c, r.tree.result? c = none → r.tree.case? c = t.case? c
  calm : ∀ x ∈ before, x.isFailure = false
  journal : r.engine.journal = .resolved case v :: (before.reverse ++ e.journal)
  results : r.summary.results = (before.filterMap Entry.report?).map Prod.snd
  torn : ∀ script, t.teardown? case = some script → ∃ e₁ e₂,
    perform script (tearing case e₁) = .ok () e₂ ∧ since e e₂ = before

theorem finishedAt_of_finish (hfast : mode.failFast = false) (h : InStep t e r r)
    (hok : finish mode case blocked r = .ok v r₁) : ∃ before, FinishedAt t e case v before r₁ := by
  obtain ⟨r₂, r₃, t', hsettle, htear, hset, hr₁⟩ := finish_eq_ok.mp hok
  have hstays : bailsOut mode v = false := by
    rw [bailsOut, hfast, Bool.and_false]
  rw [hstays] at hr₁
  have hlast : r₁.engine.journal = .resolved case v :: r₃.engine.journal := by
    rw [← hr₁]
    rfl
  obtain ⟨s, rfl, rfl, hs⟩ := concluded_of_finish hok
  have hbail : s.bail = none := by
    have hnone := hs.bail.trans hstays
    rcases hb : s.bail with - | message
    · rfl
    · rw [hb] at hnone
      cases hnone
  -- what is noted until the result is stored, and then the result
  have hsettled : r.engine.journal <:+ r₂.engine.journal :=
    (keeps_settle (respected_journal _ fun _ => True) (fun _ => trivial) mode s.case blocked).of_ok
      hsettle
  have hcleaned : r₂.engine.journal <:+ r₃.engine.journal :=
    (keeps_tearDown (respected_journal _ fun _ => True) (fun _ => trivial) s.case).of_ok htear
  have hon := hsettled.trans hcleaned
  have hnew : since e r₁.engine = since e r₃.engine ++ [.resolved s.case s.verdict] :=
    since_of_cons (h.later.trans hon) hlast
  refine ⟨since e r₃.engine, ?_, hs.rework.static.trans h.static, fun c hc => ?_, fun x hx => ?_,
    ?_, ?_, fun script hscript => ?_⟩
  · rw [hs.isOver_eq, h.goes, hbail]
    rfl
  · have hne : c ≠ s.case := by
      rintro rfl
      rw [hs.result] at hc
      cases hc
    rw [Tree.result?, hs.rework.others hne] at hc
    rw [hs.rework.others hne]
    exact h.untouched c hc
  · rw [since_append h.later hon] at hx
    rcases List.mem_append.mp hx with hx | hx
    · exact h.calm x hx
    · exact calm_of_settled hs.steps hbail hon hlast x hx
  · rw [← journal_eq_since (h.later.trans hon)]
    exact hlast
  · have hlines : reportsSince r.engine r₁.engine = s.lines.map fun line => (s.case, line) := by
      rw [reportsSince_eq, hs.steps.stepsSince_eq, s.filterMap_report?]
    have hbefore : (since e r₃.engine).filterMap Entry.report? = reportsSince e r₁.engine := by
      rw [reportsSince, hnew, List.filterMap_append]
      exact (List.append_nil _).symm
    rw [hbefore, reportsSince_append h.later hs.steps.journal_suffix, hlines, List.map_append,
      List.map_map, hs.results, h.results]
    exact congrArg _ (List.map_id _).symm
  · -- until now the case has had the teardown that it was declared with
    obtain ⟨data, hdata, hdeclared⟩ := Option.bind_eq_some_iff.mp hscript
    rw [← h.untouched s.case hs.unresolved] at hdata
    obtain ⟨c, e₂, hc, hcleaning, rfl⟩ := tearDown_eq_ok.mp htear
    obtain ⟨c', hc', hsame⟩ := (teardown_of_settle hsettle).mpr ⟨data, hdata, hdeclared⟩
    cases hc.symm.trans hc'
    rw [hsame] at hcleaning
    exact ⟨r₂.engine, e₂, hcleaning, rfl⟩

/-- A case that did not fail leaves the two runs the same. -/
theorem FinishedAt.inStep {before : List Entry} (h : FinishedAt t e case v before r)
    (hv : v.isFail = false) : InStep t e r r := by
  have hnew : since e r.engine = before ++ [.resolved case v] :=
    since_eq (by rw [h.journal, List.reverse_append]; rfl)
  refine ⟨rfl, h.goes, h.static, h.untouched, ?_, fun x hx => ?_, ?_⟩
  · rw [h.journal]
    exact (List.suffix_append _ _).trans (List.suffix_cons _ _)
  · rw [hnew] at hx
    rcases List.mem_append.mp hx with hx | hx
    · exact h.calm x hx
    · rw [List.mem_singleton.mp hx]
      exact hv
  · rw [h.results, reportsSince, hnew, List.filterMap_append]
    exact congrArg _ (List.append_nil _).symm

/-- One that failed ends the run with fail-fast. -/
theorem FinishedAt.stopped {before : List Entry} (h : FinishedAt t e case v before r)
    (hv : v.isFail = true) : Stopped t e r (r.bailing case) := by
  have hgrievance : grievance r.tree case = grievance t case := by
    rw [grievance, grievance, Tree.path_eq_of_static h.static]
  refine ⟨case, v, before, hv, h.calm, ?_, ?_, congrArg some hgrievance, h.results, h.torn⟩
  · exact h.journal ▸ List.suffix_refl _
  · rw [← hgrievance, ← h.journal]
    rfl

/-- Finishing a case, the two runs stay the same, unless it fails: then fail-fast ends the run. -/
theorem follows_finish (hfast : mode.failFast = false) (case : ObjectId)
    (blocked : Option Verdict) : Follows (InStep t e) (Stopped t e) id (finish mode case blocked)
      (finish { mode with failFast := true } case blocked) := by
  intro r r' v r₁ h hok
  obtain rfl := h.same
  obtain ⟨before, hbefore⟩ := finishedAt_of_finish hfast h hok
  have hfinish : finish { mode with failFast := true } case blocked r' =
      .ok v (if v.isFail then r₁.bailing case else r₁) := by
    obtain ⟨r₂, r₃, t', hsettle, htear, hset, hr₁⟩ := finish_eq_ok.mp hok
    have hstays : bailsOut mode v = false := by
      rw [bailsOut, hfast, Bool.and_false]
    rw [hstays] at hr₁
    refine finish_eq_ok.mpr ⟨r₂, r₃, t', hsettle, htear, hset, ?_⟩
    rw [← hr₁, show bailsOut { mode with failFast := true } v = v.isFail from Bool.and_true _]
    rfl
  rcases hv : v.isFail with - | -
  · rw [hv] at hfinish
    exact .inl ⟨r₁, hfinish, hbefore.inStep hv⟩
  · rw [hv] at hfinish
    exact .inr ⟨v, _, hfinish, hbefore.stopped hv⟩

theorem simulation_of_failFast (hfast : mode.failFast = false) (t : Tree) (e : Engine) :
    Simulation mode { mode with failFast := true } (InStep t e) (Stopped t e) where
  tree h := by rw [h.same]
  resolving h := by rw [h.same]
  isOver h := by rw [h.same]
  resume h ids := ⟨by rw [h.same], h.goes, h.static, h.untouched, h.later, h.calm, h.results⟩
  finish case blocked := follows_finish hfast case blocked
  ended := by
    rintro r r' ⟨case, v, before, h⟩
    rw [isOver, h.bailOut]
    rfl
  left := by
    rintro r r' r₁ ⟨case, v, before, h⟩ hon ids
    exact ⟨case, v, before, h.failed, h.calm, h.earlier.trans hon, h.journal, h.bailOut, h.results,
      h.torn⟩

/-! ### The last line of a case -/

/-- In the steps of a case, its reports and its teardown come before its result. -/
theorem eq_of_resolved_mem {s : Settlement} {front back : List Entry}
    (h : s.steps = front ++ .resolved case v :: back) :
    s.case = case ∧ front = s.reports ++ s.cleanups ∧
      back = s.bail.toList.map fun message => .printed .report (Tap.bailOut (some message)) := by
  have hreports : .resolved case v ∉ s.reports ++ s.cleanups := by
    intro hmem
    unfold Settlement.reports Settlement.cleanups at hmem
    rcases List.mem_append.mp hmem with hmem | hmem
    · rcases List.mem_append.mp hmem with hmem | hmem
      · simp at hmem
      · rcases cases_of_mem_reportSteps hmem with ⟨_, hx⟩ | ⟨_, hx⟩ | ⟨_, _, hx⟩ <;> nomatch hx
    · simp at hmem
  have hsteps : (s.reports ++ s.cleanups) ++ (s.conclusion ++ []) =
      front ++ .resolved case v :: back := by
    rw [List.append_nil]
    exact h
  obtain ⟨pre, post, hconclusion, rfl, rfl⟩ := exists_split_of_append hsteps hreports (by simp)
  unfold Settlement.conclusion at hconclusion
  rcases pre with - | ⟨y, pre⟩
  · obtain ⟨hx, hback⟩ := List.cons.inj hconclusion
    obtain ⟨rfl, -⟩ := Entry.resolved.inj hx
    exact ⟨rfl, List.append_nil _, by rw [List.append_nil, hback]⟩
  · obtain ⟨-, hback⟩ := List.cons.inj hconclusion
    have hmem : .resolved case v ∈ s.bail.toList.map
        fun message => Entry.printed .report (Tap.bailOut (some message)) := by
      rw [hback]
      simp
    simp at hmem

theorem filterMap_report?_filter (entries : List Entry) :
    (entries.filter Entry.isStep).filterMap Entry.report? = entries.filterMap Entry.report? := by
  rw [List.filterMap_filter]
  refine List.filterMap_congr fun x _ => ?_
  rcases x with ⟨_ | _, _⟩ | _ | _ | _ | _ | _ | _ | _ | _ | _ | _ | _ | _ | _ | _ | _ <;> rfl

/-- Where the result of a case is stored, the last line that was reported is one of the case, and no
line of it is reported later. -/
theorem lastLine_of_progress {ss : List Settlement} {root : ObjectId} {before after : List Entry}
    (ht : t.Sound) (h : Progress mode (start t (announced t root e)) ss r)
    (hsplit : since e r.engine = before ++ .resolved case v :: after) :
    (∃ line, (before.filterMap Entry.report?).getLast? = some (case, line)) ∧
      ∀ x ∈ after.filterMap Entry.report?, x.1 ≠ case := by
  have hsteps := (advances_suite h).stepsSince_eq
  rw [stepsSince, hsplit, List.filter_append, List.filter_cons_of_pos rfl] at hsteps
  rw [← filterMap_report?_filter before, ← filterMap_report?_filter after]
  rcases hfirst : before.filter Entry.isStep with - | ⟨plan, front⟩ <;> rw [hfirst] at hsteps
  · nomatch (List.cons.inj hsteps).1
  · obtain ⟨rfl, hrest⟩ := List.cons.inj hsteps
    obtain ⟨pre, s, post, own, back, rfl, hs, rfl, hafter⟩ := exists_of_flatMap_eq hrest.symm
    obtain ⟨rfl, rfl, rfl⟩ := eq_of_resolved_mem hs
    have hnone : (s.bail.toList.map fun message => Entry.printed .report
        (Tap.bailOut (some message))).filterMap Entry.report? = [] := by
      rcases s.bail with - | message <;> rfl
    have hown : (s.reports ++ s.cleanups).filterMap Entry.report? =
        s.lines.map fun line => (s.case, line) := by
      have hall := s.filterMap_report?
      rw [hs, List.filterMap_append] at hall
      rw [List.filterMap_cons_none (by rfl), hnone, List.append_nil] at hall
      exact hall
    have hlines : s.lines ≠ [] := by
      have hlength := congrArg List.length (lines_of_settled ht h s (by simp))
      have hcase := isSome_case?_of_settled h s.case (by simp)
      rw [List.length_map, Tree.length_reportPaths hcase] at hlength
      exact List.ne_nil_of_length_pos (hlength ▸ Tree.leafCount_pos hcase)
    constructor
    · obtain ⟨init, line, hinit⟩ := List.eq_nil_or_concat s.lines |>.resolve_left hlines
      refine ⟨line, ?_⟩
      rw [List.filterMap_cons_none (by rfl), List.filterMap_append, hown, hinit,
        List.concat_eq_append, List.map_append, ← List.append_assoc]
      exact List.getLast?_concat
    · intro x hx hcase
      rw [hafter, List.filterMap_append, hnone, List.nil_append, reports_of_steps] at hx
      obtain ⟨s', hs', hline⟩ := List.mem_flatMap.mp hx
      obtain ⟨line, -, rfl⟩ := List.mem_map.mp hline
      have hnodup := h.nodup
      rw [List.map_append, List.map_cons] at hnodup
      have hother := (List.nodup_cons.mp (List.nodup_append.mp hnodup).2.1).1
      exact hother (List.mem_map.mpr ⟨s', hs', hcase⟩)

/-! ### Whole runs -/

/-- What a run with fail-fast makes of one without, of which it is given that the first case to fail
is `case`, and what has been noted before its result is stored and after it. -/
structure Cut (t : Tree) (e : Engine) (case : ObjectId) (v : Verdict) (before after : List Entry)
    (s s' : Summary) (e₁ e₁' : Engine) : Prop where
  /-- Nothing comes after the result of the case but the line of the bail-out, -/
  journal : since e e₁' =
    before ++ [.resolved case v, .printed .report (Tap.bailOut (some (grievance t case)))]
  /-- and its output is that of the other run up to there, followed by this line. -/
  output : printedSince e e₁ = before.filterMap Entry.text? ++ after.filterMap Entry.text? ∧
    printedSince e e₁' =
      before.filterMap Entry.text? ++ [Tap.bailOut (some (grievance t case))]
  bailOut : s'.bailOut = some (grievance t case)
  /-- Its results are those of the other run up to there, -/
  results : s'.results = (before.filterMap Entry.report?).map Prod.snd ∧
    s.results = s'.results ++ (after.filterMap Entry.report?).map Prod.snd
  /-- which is up to the last line of the case. -/
  last : (∃ line, (before.filterMap Entry.report?).getLast? = some (case, line)) ∧
    ∀ x ∈ after.filterMap Entry.report?, x.1 ≠ case
  /-- If the case has a teardown, this is where the teardown has ended. -/
  teardown : ∀ script, t.teardown? case = some script → ∃ e₂ e₃,
    perform script (tearing case e₂) = .ok () e₃ ∧ since e e₃ = before

/-- A run with fail-fast, from `e` to `e₁'`, does the same as one without, from `e` to `e₁`, up to
the end of the first case that fails, and nothing after that. -/
structure Truncates (t : Tree) (e : Engine) (s s' : Summary) (e₁ e₁' : Engine) : Prop where
  same : (∀ x ∈ since e e₁, x.isFailure = false) → s' = s ∧ e₁' = e₁
  cut : ∀ before case v after, since e e₁ = before ++ .resolved case v :: after →
    v.isFail = true → (∀ x ∈ before, x.isFailure = false) →
      Cut t e case v before after s s' e₁ e₁'

theorem truncates_of_same {s : Summary} {e₁ : Engine} (h : ∀ x ∈ since e e₁, x.isFailure = false) :
    Truncates t e s s e₁ e₁ := by
  refine ⟨fun _ => ⟨rfl, rfl⟩, fun before case v after hsplit hv _ => ?_⟩
  have hcalm := h (.resolved case v) (by rw [hsplit]; simp)
  exact absurd (hv.symm.trans hcalm) (by simp)

theorem truncates_of_stopped {ss : List Settlement} {root : ObjectId} (ht : t.Sound)
    (hprogress : Progress mode (start t (announced t root e)) ss r) (h : Stopped t e r r') :
    Truncates t e r.summary r'.summary r.engine r'.engine := by
  obtain ⟨case, v, before, h⟩ := h
  obtain ⟨rest, hrest⟩ := h.earlier
  have hfull : since e r.engine = before ++ .resolved case v :: rest.reverse := by
    refine since_eq ?_
    rw [← hrest]
    simp
  refine ⟨fun hcalm => ?_, fun before' case' v' after hsplit hv hbefore => ?_⟩
  · have hnone := hcalm (.resolved case v) (by rw [hfull]; simp)
    exact absurd (h.failed.symm.trans hnone) (by simp)
  · obtain ⟨rfl, hx, rfl⟩ := eq_of_first_failure (hfull.symm.trans hsplit) h.calm h.failed hbefore hv
    obtain ⟨rfl, rfl⟩ := Entry.resolved.inj hx
    have hjournal : since e r'.engine = before ++
        [.resolved case v, .printed .report (Tap.bailOut (some (grievance t case)))] := by
      refine since_eq ?_
      rw [h.journal]
      simp
    refine ⟨hjournal, ⟨?_, ?_⟩, h.bailOut, ⟨h.results, ?_⟩, lastLine_of_progress ht hprogress hfull,
      h.torn⟩
    · rw [printedSince, hfull, List.filterMap_append, List.filterMap_cons_none (by rfl)]
    · rw [printedSince, hjournal, List.filterMap_append]
      rfl
    · have hreports := reports_of_suite hprogress
      rw [reportsSince, hfull, List.filterMap_append, List.filterMap_cons_none (by rfl)] at hreports
      rw [h.results, ← List.map_append, hreports, hprogress.results, List.map_flatMap]
      exact List.flatMap_congr fun s _ => by
        rw [List.map_map]
        exact (List.map_id _).symm

theorem isSome_node?_of_suite {root : ObjectId} {u : Unit}
    (h : suite mode root (start t e) = .ok u r) : (t.node? root).isSome = true := by
  unfold suite at h
  rw [get_bind_eq_ok] at h
  rcases hn : t.node? root with - | n
  · rw [show (start t e).tree.node? root = none from hn] at h
    exact absurd h violate_eq_ok
  · rfl

/-- In a run that lists its cases none is resolved, and fail-fast makes no difference. -/
theorem suite_of_listing {root : ObjectId} {u : Unit} (ht : t.Sound) (hlist : mode.listOnly = true)
    (h : suite mode root (start t e) = .ok u r) :
    suite { mode with failFast := true } root (start t e) = .ok () r ∧
      ∀ x ∈ since e r.engine, x.isFailure = false := by
  have hroot := isSome_node?_of_suite h
  have hlisted : ∀ mode : Mode, mode.listOnly = true → suite mode root (start t e) =
      .ok () (listed ((t.listing root).map Path.render) (start t e)) :=
    fun _ hlist => suite_listing ht hroot hlist e
  cases h.symm.trans (hlisted mode hlist)
  refine ⟨hlisted { mode with failFast := true } hlist, fun x hx => ?_⟩
  rw [since_listed] at hx
  obtain ⟨text, -, rfl⟩ := List.mem_map.mp hx
  rfl

/-- Only what has been noted before the run matters. -/
theorem Truncates.congr {s s' : Summary} {e₀ e₁ e₁' : Engine} (h : Truncates t e₀ s s' e₁ e₁')
    (hjournal : e.journal = e₀.journal) : Truncates t e s s' e₁ e₁' := by
  have hsince : since e = since e₀ := by
    funext e'
    rw [since, since, hjournal]
  refine ⟨fun hcalm => h.same (hsince ▸ hcalm), fun before case v after hsplit hv hbefore => ?_⟩
  obtain ⟨hnoted, houtput, hbail, hresults, hlast, htorn⟩ :=
    h.cut before case v after (hsince ▸ hsplit) hv hbefore
  refine ⟨hsince ▸ hnoted, ?_, hbail, hresults, hlast, hsince ▸ htorn⟩
  rw [printedSince, printedSince, hsince]
  exact houtput

theorem truncates_of_suite {root : ObjectId} {u : Unit} (ht : t.Sound)
    (hfast : mode.failFast = false) (h : suite mode root (start t e) = .ok u r) :
    ∃ r', suite { mode with failFast := true } root (start t e) = .ok () r' ∧
      Truncates t e r.summary r'.summary r.engine r'.engine := by
  rcases Bool.eq_false_or_eq_true mode.listOnly with hlist | hlist
  · obtain ⟨hsame, hcalm⟩ := suite_of_listing ht hlist h
    exact ⟨r, hsame, truncates_of_same hcalm⟩
  · obtain ⟨hroot, ss, hprogress, -, -⟩ := suite_spec hlist h
    have heach : ∀ mode : Mode, mode.listOnly = false → suite mode root (start t e) =
        resolveEach mode (t.leaves root) (start t (announced t root e)) :=
      fun _ hlist => suite_eq hlist hroot
    rw [heach mode hlist] at h
    rw [heach { mode with failFast := true } hlist]
    have hplan : since e (announced t root e) =
        [.printed .report (Tap.plan (planned t (t.leaves root)))] := since_eq rfl
    have hstart : InStep t e (start t (announced t root e)) (start t (announced t root e)) := by
      refine ⟨rfl, rfl, rfl, fun _ _ => rfl, List.suffix_cons _ _, fun x hx => ?_, ?_⟩
      · rw [show since e (start t (announced t root e)).engine = _ from hplan] at hx
        rw [List.mem_singleton.mp hx]
        rfl
      · rw [reportsSince, show since e (start t (announced t root e)).engine = _ from hplan]
        rfl
    have hsim := simulation_of_failFast hfast t e
    rcases hsim.follows_resolveEach _ hstart h with ⟨r', hok, hstep⟩ | ⟨_, r', hok, hstopped⟩
    · obtain rfl := hstep.same
      exact ⟨r', hok, truncates_of_same hstep.calm⟩
    · exact ⟨r', hok, truncates_of_stopped ht hprogress hstopped⟩

/-- If a run without fail-fast returns, the run with fail-fast from the same state returns too, and
truncates it. -/
theorem truncates_of_run (calls : List Tree.Call) (mode : Mode) (root : ObjectId)
    (e e₁ : Engine) (s : Summary)
    (h : Engine.run { mode with failFast := false } (Tree.ofCalls calls) root e = .ok s e₁) :
    ∃ s' e₁', Engine.run { mode with failFast := true } (Tree.ofCalls calls) root e = .ok s' e₁' ∧
      Truncates (Tree.ofCalls calls) e s s' e₁ e₁' := by
  have hsound := Tree.sound_ofCalls calls
  generalize Tree.ofCalls calls = t at *
  obtain ⟨_, e₀, hprepare, hrun⟩ := bind_eq_ok.mp h
  obtain ⟨-, hjournal, -⟩ := prepare_eq_ok hprepare
  obtain ⟨r, hsuite, rfl, rfl⟩ := runSuite_eq_ok.mp hrun
  obtain ⟨r', hsuite', htruncates⟩ := truncates_of_suite hsound rfl hsuite
  refine ⟨r'.summary, r'.engine, ?_, ?_⟩
  · have hsame : prepare { mode with failFast := true } e = .ok () e₀ := hprepare
    exact (bind_of_ok hsame).trans (runSuite_eq_ok.mpr ⟨r', hsuite', rfl, rfl⟩)
  · exact htruncates.congr hjournal.symm

/-- A suite with a case that waits for another one, whose first subunit fails and whose teardown
logs a message. -/
def abandonedCalls : List Tree.Call :=
  [.suite "s", .addCase 0 "a" [],
    .addComplexCase 0 "b" [("x", [.raise (.fail "broken")]), ("y", [])]
      (some [.emit ⟨"net", .message, "down", false⟩]),
    .addCase 0 "c" [], .addDependency 1 2]

/-- The run of it that stops at the first failure has the two results of the failed case only, and
neither those of the case that waits for it nor those of the third one. -/
theorem truncates_of_abandoned :
    let o := Engine.run { Mode.default with failFast := false } (Tree.ofCalls abandonedCalls) 0
      .initial
    let texts := ["1..4", "not ok 1 /s/b/x # FAIL broken",
      "not ok 2 /s/b/y # FAIL previous subunit failed", "# MESSAGE: (net) down"]
    ∃ s s' e₁', o = .ok s (endOf o) ∧ s.results.length = 4 ∧
      Engine.run { Mode.default with failFast := true } (Tree.ofCalls abandonedCalls) 0 .initial =
        .ok s' e₁' ∧
      Truncates (Tree.ofCalls abandonedCalls) .initial s s' (endOf o) e₁' ∧
      s'.results.length = 2 ∧ s'.bailOut = some "/s/b failed" ∧
      printedSince .initial e₁' = texts ++ ["Bail out! /s/b failed"] := by
  intro o texts
  obtain ⟨s, hs⟩ := Option.isSome_iff_exists.mp (show (valueOf o).isSome = true by decide +kernel)
  have hrun : o = .ok s (endOf o) := eq_ok_of_valueOf hs
  obtain ⟨s', e₁', hrun', htruncates⟩ :=
    truncates_of_run abandonedCalls .default 0 .initial (endOf o) s hrun
  let entries := since .initial (endOf o)
  let n := entries.findIdx Entry.isFailure
  have hcut := htruncates.cut (entries.take n) 2 (.fail "subunit x failed") (entries.drop (n + 1))
    (by decide +kernel) rfl (by decide +kernel)
  have hfew : ((entries.take n).filterMap Entry.report?).length = 2 := by decide +kernel
  have hmore : ((entries.drop (n + 1)).filterMap Entry.report?).length = 2 := by decide +kernel
  have htexts : (entries.take n).filterMap Entry.text? = texts := by decide +kernel
  have hlength : s'.results.length = 2 := by
    rw [hcut.results.1, List.length_map, hfew]
  refine ⟨s, s', e₁', hrun, ?_, hrun', htruncates, hlength, ?_, ?_⟩
  · rw [hcut.results.2, List.length_append, List.length_map, hlength, hmore]
  · rw [hcut.bailOut]
    decide +kernel
  · rw [hcut.output.2, htexts]
    decide +kernel

end Run

end TestEngine
