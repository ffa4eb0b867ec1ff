/-
TestEngine/Proofs/Run/Tally.lean

The verdict of a run.  Its summary counts the results that it holds by their kinds
(`Summary.Tallied`), and its exit code tells whether there is a failure among them.

Lines and cases are not the same thing: a complex case reports a line for each subunit, and what
ends a run under fail-fast is the result of a case, not a line.  But a case fails just if one of
its lines says so, whether it ran or not (`Concluded.isFail_iff`); so a run is ended early just if
a failure was reported under fail-fast, and then all failures are lines of the last case that was
settled (`accounted_of_suite`).
-/
import TestEngine.Proofs.Run.Handle

namespace TestEngine

/-! ### Counts -/

namespace Summary

/-- The counts are the numbers of results of each kind. -/
structure Tallied (s : Summary) : Prop where
  passed : s.passed = s.results.countP fun line => line.2.isPass
  skipped : s.skipped = s.results.countP fun line => line.2.kind == .skip
  failed : s.failed = s.results.countP fun line => line.2.isFail

theorem tallied_empty : empty.Tallied := ⟨rfl, rfl, rfl⟩

variable {s : Summary}

namespace Tallied

theorem add (h : s.Tallied) (path : Path) (v : Verdict) : (s.add path v).Tallied := by
  have hpassed := h.passed
  have hskipped := h.skipped
  have hfailed := h.failed
  rcases v with ⟨_ | _ | _, message⟩
  all_goals
    constructor <;>
      simp [Summary.add, Verdict.isPass, Verdict.isFail, List.countP_append] at * <;> assumption

theorem addAll (h : s.Tallied) (lines : List (Path × Verdict)) : (s.addAll lines).Tallied := by
  induction lines generalizing s with
  | nil => exact h
  | cons line lines ih => exact ih (h.add line.1 line.2)

/-- The message of a bail-out is not counted. -/
theorem bailing (h : s.Tallied) (bailOut : Option String) :
    Tallied { s with bailOut := bailOut } :=
  ⟨h.passed, h.skipped, h.failed⟩

/-- Every result is of one kind. -/
theorem total_eq (h : s.Tallied) : s.total = s.results.length := by
  unfold total
  rw [h.passed, h.skipped, h.failed]
  induction s.results with
  | nil => rfl
  | cons line lines ih =>
    rcases line with ⟨path, ⟨_ | _ | _, message⟩⟩
    all_goals
      simp [Verdict.isPass, Verdict.isFail] at ih ⊢
      omega

theorem failed_pos_iff (h : s.Tallied) :
    0 < s.failed ↔ ∃ line ∈ s.results, line.2.isFail = true := by
  rw [h.failed, List.countP_pos_iff]

theorem exitCode_eq (h : s.Tallied) {failFast : Bool}
    (hbail : s.bailOut.isSome = true ↔ failFast = true ∧ 0 < s.failed) :
    s.exitCode = if s.results.any (fun line => line.2.isFail) then if failFast then 99 else 1
      else 0 := by
  have hany : s.results.any (fun line => line.2.isFail) = true ↔ 0 < s.failed := by
    rw [h.failed_pos_iff, List.any_eq_true]
  unfold exitCode hasFailures
  by_cases hfailed : 0 < s.failed
  · rw [if_pos (hany.mpr hfailed)]
    rcases failFast with _ | _
    · rw [if_neg (by simp [hbail])]
      simp [hfailed]
    · rw [if_pos (hbail.mpr ⟨rfl, hfailed⟩)]
      rfl
  · rw [if_neg (c := s.results.any _ = true) (by rw [hany]; exact hfailed),
      if_neg (by rw [hbail]; exact fun h => hfailed h.2)]
    simp [hfailed]

end Tallied

end Summary

namespace Run

open Engine

variable {mode : Mode} {t : Tree} {case : ObjectId} {blocked : Option Verdict} {v : Verdict}
  {r r' : Run} {s : Settlement} {ss : List Settlement} {e : Engine}

theorem tallied_of_finish (hr : r.summary.Tallied) (h : finish mode case blocked r = .ok v r') :
    r'.summary.Tallied := by
  obtain ⟨_, lines, e, -, -, -, rfl⟩ := finish_iff_handle.mp h
  show Summary.Tallied (if _ then _ else _)
  split
  · exact (hr.addAll lines).bailing _
  · exact hr.addAll lines

/-! ### Cases and their lines -/

/-- A case fails just if one of its lines says so. -/
theorem Concluded.isFail_iff (h : Concluded mode blocked s r r') :
    s.verdict.isFail = true ↔ ∃ line ∈ s.lines, line.2.isFail = true := by
  -- a case that does not run reports its result under each of its paths
  have hunrun : ∀ paths : List Path, paths ≠ [] → s.lines = paths.map (fun p => (p, s.verdict)) →
      (s.verdict.isFail = true ↔ ∃ line ∈ s.lines, line.2.isFail = true) := by
    intro paths hne hlines
    obtain ⟨p, hp⟩ := List.exists_mem_of_ne_nil paths hne
    rw [hlines]
    constructor
    · exact fun hfail => ⟨(p, s.verdict), List.mem_map_of_mem hp, hfail⟩
    · rintro ⟨line, hline, hfail⟩
      obtain ⟨q, -, rfl⟩ := List.mem_map.mp hline
      exact hfail
  rcases h.grounds with ⟨-, -, hlines⟩ | ⟨-, -, -, -, hlines⟩ | ⟨-, -, -, -, -, hrun, -, -⟩
  · exact hunrun _ (Path.reports_ne_nil _ _) hlines
  · exact hunrun _ (Path.reports_ne_nil _ _) hlines
  · exact (advances_runBody hrun).2.isFail_iff

theorem Progress.isFail_iff (h : Progress mode r ss r') (hs : s ∈ ss) :
    s.verdict.isFail = true ↔ ∃ line ∈ s.lines, line.2.isFail = true := by
  obtain ⟨r₁, r₂, m⟩ := h.moment hs
  exact m.settles.concluded.isFail_iff

/-! ### The end of a run -/

/-- A run that goes on is ended early just if a case fails under fail-fast. -/
theorem Progress.isOver_iff (h : Progress mode r ss r') (hgoes : r.isOver = false) :
    r'.isOver = true ↔ mode.failFast = true ∧ ∃ s ∈ ss, s.verdict.isFail = true := by
  induction h with
  | idle r ids =>
    rw [show (Run.isOver { r with resolving := ids }) = r.isOver from rfl, hgoes]
    simp
  | @step r r₁ r' s ss hs hss ih =>
    have hover := hs.concluded.isOver_eq
    rw [hgoes, Bool.false_or, hs.concluded.bail, bailsOut] at hover
    rcases hend : r₁.isOver with - | -
    · rw [ih hend]
      rw [hend] at hover
      refine and_congr_right fun hfast => ?_
      rw [hfast, Bool.and_true] at hover
      simp [← hover]
    · obtain ⟨rfl, hsummary, -⟩ := hss.eq_nil_of_isOver hend
      obtain ⟨hfail, hfast⟩ := Bool.and_eq_true_iff.mp (hover.symm.trans hend)
      have hstays : r'.isOver = true := by
        rw [Run.isOver, hsummary]
        exact hend
      simp [hstays, hfail, hfast]

/-- Under fail-fast one case fails at most. -/
theorem Progress.eq_of_isFail (h : Progress mode r ss r') (hfast : mode.failFast = true)
    {s s' : Settlement} (hs : s ∈ ss) (hs' : s' ∈ ss) (hfail : s.verdict.isFail = true)
    (hfail' : s'.verdict.isFail = true) : s = s' := by
  induction h with
  | idle => exact absurd hs (by simp)
  | @step r r₁ r' first ss hfirst hss ih =>
    -- nothing is settled after the first case that fails
    have hlast : first.verdict.isFail = true → ss = [] := fun hfail => by
      have hover := hfirst.concluded.isOver_eq
      rw [hfirst.concluded.bail, bailsOut, hfail, hfast, Bool.and_self, Bool.or_true] at hover
      exact (hss.eq_nil_of_isOver hover).1
    rcases List.mem_cons.mp hs with rfl | hlater
    · rw [hlast hfail] at hs'
      exact (List.mem_singleton.mp hs').symm
    · rcases List.mem_cons.mp hs' with rfl | hlater'
      · rw [hlast hfail'] at hlater
        exact absurd hlater (by simp)
      · exact ih hlater hlater'

/-! ### Results in the tree -/

/-- Behind an outcome that is a failure stands the result of a case. -/
theorem exists_result_of_outcome {d : ObjectId} (h : (t.outcome d).isFail = true) :
    ∃ l v, t.result? l = some v ∧ v.isFail = true := by
  unfold Tree.outcome at h
  split at h
  · rcases hflaw : t.firstFlaw (t.leaves d) with - | v <;> rw [hflaw] at h
    · exact absurd h (by decide)
    · obtain ⟨l, -, hl⟩ := List.mem_filterMap.mp (List.mem_of_find?_eq_some hflaw)
      exact ⟨l, v, hl, h⟩
  · rcases hresult : t.result? d with - | v <;> rw [hresult] at h
    · exact absurd h (by decide)
    · exact ⟨d, v, hresult, h⟩

/-! ### Whole runs -/

/-- The summary of a run, begun in the state `e` of the engine, accounts for all that it has
reported. -/
structure Accounted (mode : Mode) (e : Engine) (r : Run) : Prop where
  /-- The results are the reported lines, and the counts those of each kind. -/
  results : r.summary.results = (reportsSince e r.engine).map Prod.snd
  tallied : r.summary.Tallied
  total : r.summary.total = r.summary.results.length
  bailsOut_iff : r.summary.bailOut.isSome = true ↔
    mode.failFast = true ∧ mode.listOnly = false ∧ 0 < r.summary.failed
  succeeds_iff : r.summary.exitCode = 0 ↔
    ∀ x ∈ reportsSince e r.engine, x.2.2.isFail = false
  /-- A line that is a failure decides the exit code, be it that of a subunit. -/
  exitCode_of_failure : ∀ x ∈ reportsSince e r.engine, x.2.2.isFail = true →
    r.summary.exitCode = if mode.failFast then 99 else 1
  /-- So does the stored result of a case, -/
  exitCode_of_result : ∀ c v, r.tree.result? c = some v → v.isFail = true → r.summary.exitCode ≠ 0
  /-- and the outcome of whatever a case is blocked by. -/
  exitCode_of_outcome : ∀ d, (r.tree.outcome d).isFail = true → r.summary.exitCode ≠ 0
  /-- Under fail-fast, all failures are lines of one case. -/
  single : mode.failFast = true → ∀ x ∈ reportsSince e r.engine, ∀ y ∈ reportsSince e r.engine,
    x.2.2.isFail = true → y.2.2.isFail = true → x.1 = y.1

/-- What is said about the reported lines follows from what is known of the cases. -/
theorem accounted_of_counts (hresults : r.summary.results = (reportsSince e r.engine).map Prod.snd)
    (htallied : r.summary.Tallied)
    (hbails : r.summary.bailOut.isSome = true ↔ mode.failFast = true ∧ 0 < r.summary.failed)
    (hlisted : mode.listOnly = true → r.summary.results = [])
    (hstored : ∀ c v, r.tree.result? c = some v → v.isFail = true →
      ∃ x ∈ reportsSince e r.engine, x.2.2.isFail = true)
    (hsingle : mode.failFast = true → ∀ x ∈ reportsSince e r.engine,
      ∀ y ∈ reportsSince e r.engine, x.2.2.isFail = true → y.2.2.isFail = true → x.1 = y.1) :
    Accounted mode e r := by
  have hany : r.summary.results.any (fun line => line.2.isFail) = true ↔
      ∃ x ∈ reportsSince e r.engine, x.2.2.isFail = true := by
    rw [hresults, List.any_map, List.any_eq_true]
    rfl
  have hcode := htallied.exitCode_eq hbails
  have hfailure : ∀ x ∈ reportsSince e r.engine, x.2.2.isFail = true →
      r.summary.exitCode = if mode.failFast then 99 else 1 := by
    intro x hx hfail
    rw [hcode, if_pos (hany.mpr ⟨x, hx, hfail⟩)]
  have hnonzero : ∀ c v, r.tree.result? c = some v → v.isFail = true → r.summary.exitCode ≠ 0 := by
    intro c v hv hfail
    obtain ⟨x, hx, hxfail⟩ := hstored c v hv hfail
    rw [hfailure x hx hxfail]
    split <;> simp
  refine ⟨hresults, htallied, htallied.total_eq, ?_, ⟨fun hzero x hx => ?_, fun hnone => ?_⟩,
    hfailure, hnonzero, fun d hd => ?_, hsingle⟩
  · rw [hbails]
    refine and_congr_right fun _ => ⟨fun hfailed => ⟨?_, hfailed⟩, fun h => h.2⟩
    rcases hlist : mode.listOnly with - | -
    · rfl
    · obtain ⟨line, hline, -⟩ := htallied.failed_pos_iff.mp hfailed
      rw [hlisted hlist] at hline
      exact absurd hline (by simp)
  · rcases hfail : x.2.2.isFail with - | -
    · rfl
    · rw [hfailure x hx hfail] at hzero
      split at hzero <;> exact absurd hzero (by simp)
  · rw [hcode, if_neg]
    rw [hany]
    rintro ⟨x, hx, hfail⟩
    rw [hnone x hx] at hfail
    exact absurd hfail (by simp)
  · obtain ⟨l, v, hv, hfail⟩ := exists_result_of_outcome hd
    exact hnonzero l v hv hfail

theorem tallied_of_suite {root : ObjectId} (hlist : mode.listOnly = false)
    (h : suite mode root (start t e) = .ok () r) : r.summary.Tallied := by
  rw [suite_eq hlist (isSome_node?_of_suite h)] at h
  exact invariant_of_resolveEach (Q := fun r => r.summary.Tallied) (fun hr _ => hr)
    (fun hr hok => tallied_of_finish hr hok) h Summary.tallied_empty

/-- The summary of a run that returns accounts for all that it reported. -/
theorem accounted_of_suite (calls : List Tree.Call) (mode : Mode) (root : ObjectId) (e : Engine)
    (r : Run) (h : suite mode root (start (Tree.ofCalls calls) e) = .ok () r) :
    Accounted mode e r := by
  have hsound := Tree.sound_ofCalls calls
  generalize Tree.ofCalls calls = t at *
  rcases hlist : mode.listOnly with - | -
  · obtain ⟨-, ss, hprogress, -, -⟩ := suite_spec hlist h
    have hreports := reports_of_suite hprogress
    have htallied := tallied_of_suite hlist h
    have hlines : ∀ x, x ∈ reportsSince e r.engine ↔ ∃ s ∈ ss, x.1 = s.case ∧ x.2 ∈ s.lines := by
      intro x
      rw [hreports]
      simp only [List.mem_flatMap, List.mem_map]
      constructor
      · rintro ⟨s, hs, line, hline, rfl⟩
        exact ⟨s, hs, rfl, hline⟩
      · rintro ⟨s, hs, hcase, hline⟩
        exact ⟨s, hs, x.2, hline, by rw [← hcase]⟩
    have hresults : r.summary.results = (reportsSince e r.engine).map Prod.snd := by
      rw [hreports, List.map_flatMap, hprogress.results]
      refine List.flatMap_congr fun s _ => ?_
      rw [List.map_map]
      exact (List.map_id _).symm
    have hfailing : (∃ s ∈ ss, s.verdict.isFail = true) ↔
        ∃ line ∈ r.summary.results, line.2.isFail = true := by
      rw [show r.summary.results = ss.flatMap Settlement.lines from hprogress.results]
      simp only [List.mem_flatMap]
      constructor
      · rintro ⟨s, hs, hfail⟩
        obtain ⟨line, hline, hfail⟩ := (hprogress.isFail_iff hs).mp hfail
        exact ⟨line, ⟨s, hs, hline⟩, hfail⟩
      · rintro ⟨line, ⟨s, hs, hline⟩, hfail⟩
        exact ⟨s, hs, (hprogress.isFail_iff hs).mpr ⟨line, hline, hfail⟩⟩
    refine accounted_of_counts hresults htallied ?_ (by simp [hlist]) ?_ ?_
    · rw [htallied.failed_pos_iff, ← hfailing]
      exact hprogress.isOver_iff rfl
    · intro c v hv hfail
      obtain ⟨s, hs, rfl⟩ := hprogress.mem_of_result? (hsound.result?_eq_none c) (by simp [hv])
      cases (hprogress.result?_of_mem hs).symm.trans hv
      obtain ⟨line, hline, hfail⟩ := (hprogress.isFail_iff hs).mp hfail
      exact ⟨(s.case, line), (hlines _).mpr ⟨s, hs, rfl, hline⟩, hfail⟩
    · intro hfast x hx y hy hfail hfail'
      obtain ⟨s, hs, hcase, hline⟩ := (hlines x).mp hx
      obtain ⟨s', hs', hcase', hline'⟩ := (hlines y).mp hy
      have hsame := hprogress.eq_of_isFail hfast hs hs' ((hprogress.isFail_iff hs).mpr ⟨_, hline, hfail⟩)
        ((hprogress.isFail_iff hs').mpr ⟨_, hline', hfail'⟩)
      rw [hcase, hcase', hsame]
  · have hroot := isSome_node?_of_suite h
    rw [suite_listing hsound hroot hlist e] at h
    cases h
    have hreports : reportsSince e (listed ((t.listing root).map Path.render) (start t e)).engine = [] := by
      rw [reportsSince, since_listed]
      simp [Entry.report?]
    refine accounted_of_counts ?_ Summary.tallied_empty ?_ (fun _ => rfl) (fun c v hv _ => ?_) ?_
    · rw [hreports]
      rfl
    · simp [listed, start, Summary.empty]
    · exact absurd ((hsound.result?_eq_none c).symm.trans hv) (by simp)
    · intro _ x hx
      rw [hreports] at hx
      exact absurd hx (by simp)

/-- A suite with a complex case, of which one subunit fails, and a case that depends on it. -/
def flawedCalls : List Tree.Call :=
  [.suite "s", .addComplexCase 0 "c" [("x", []), ("y", [.raise (.fail "broken")]), ("z", [])] none,
    .addCase 0 "a" [], .addDependency 2 1, .addCase 0 "b" []]

/-- Two subunits and the blocked case fail; with fail-fast, the run ends after the complex case. -/
theorem accounted_of_flawed :
    let o := suite .default 0 (start (Tree.ofCalls flawedCalls) .initial)
    let o' := suite { Mode.default with failFast := true } 0
      (start (Tree.ofCalls flawedCalls) .initial)
    o = .ok () (endOf o) ∧ Accounted .default .initial (endOf o) ∧
      (endOf o).summary.failed = 3 ∧ (endOf o).summary.exitCode = 1 ∧
      o' = .ok () (endOf o') ∧
      Accounted { Mode.default with failFast := true } .initial (endOf o') ∧
      (endOf o').summary.failed = 2 ∧ (endOf o').summary.exitCode = 99 := by
  intro o o'
  have hrun : o = .ok () (endOf o) := eq_ok_endOf (by decide +kernel)
  have hrun' : o' = .ok () (endOf o') := eq_ok_endOf (by decide +kernel)
  exact ⟨hrun, accounted_of_suite flawedCalls .default 0 .initial (endOf o) hrun,
    by decide +kernel, by decide +kernel, hrun',
    accounted_of_suite flawedCalls _ 0 .initial (endOf o') hrun', by decide +kernel,
    by decide +kernel⟩

end Run

end TestEngine
