/-
TestEngine/Proofs/Run/Report.lean

What a run reports.  Each settled case contributes the lines for its paths
(`reportPaths`), printed under successive numbers, and the summary takes up the same
lines in the same order; so the plan and the printed lines of a run can be computed from
the list of the settled cases (`reports_of_suite`, `reportTexts_of_suite`).
-/
import TestEngine.Proofs.Run.Start

namespace TestEngine

/-! ### Reports in a journal -/

/-- The reported line of a case, if the entry is one. -/
def Entry.report? : Entry → Option (ObjectId × Engine.Line)
  | .reported case path v => some (case, path, v)
  | _ => none

/-- The text of a line of the report, if the entry is one. -/
def Entry.reportText? : Entry → Option String
  | .printed .report text => some text
  | _ => none

namespace Engine

/-- The lines reported since a state of the engine, each with its case. -/
def reportsSince (e e' : Engine) : List (ObjectId × Line) := (since e e').filterMap Entry.report?

/-- The lines of the report that were printed since a state of the engine. -/
def reportTextsSince (e e' : Engine) : List String := (since e e').filterMap Entry.reportText?

/-- The texts of result lines, numbered from `number` on. -/
def resultTexts (number : Nat) : List Line → List String
  | [] => []
  | line :: lines => Tap.result number line.1 line.2 :: resultTexts (number + 1) lines

/-- What is read off the steps only is read off the entries that are steps. -/
theorem filterMap_since {α : Type} {f : Entry → Option α} {e e' : Engine}
    (hf : ∀ x, x.isStep = false → f x = none) :
    (since e e').filterMap f = (stepsSince e e').filterMap f := by
  unfold stepsSince
  rw [List.filterMap_filter]
  refine List.filterMap_congr fun x _ => ?_
  rcases hx : x.isStep with - | -
  · exact hf x hx
  · rfl

theorem reportsSince_eq {e e' : Engine} :
    reportsSince e e' = (stepsSince e e').filterMap Entry.report? := by
  refine filterMap_since fun x hx => ?_
  rcases x with ⟨channel, _⟩ | _ | _ | _ | _ | _ | _ | _ | _ | _ | _ | _ | _ | _ | _ | _
  all_goals first
    | rfl
    | exact absurd hx (by simp [Entry.isStep])

theorem reportTextsSince_eq {e e' : Engine} :
    reportTextsSince e e' = (stepsSince e e').filterMap Entry.reportText? := by
  refine filterMap_since fun x hx => ?_
  rcases x with ⟨channel, _⟩ | _ | _ | _ | _ | _ | _ | _ | _ | _ | _ | _ | _ | _ | _ | _
  · rcases channel with _ | _
    · exact absurd hx (by simp [Entry.isStep])
    · rfl
  all_goals rfl

theorem resultTexts_append (number : Nat) (lines lines' : List Line) :
    resultTexts number (lines ++ lines') =
      resultTexts number lines ++ resultTexts (number + lines.length) lines' := by
  induction lines generalizing number with
  | nil => rfl
  | cons line lines ih =>
    rw [List.cons_append, resultTexts, resultTexts, ih, List.cons_append, List.length_cons,
      Nat.add_assoc, Nat.add_comm 1]

theorem getLast?_resultTexts (number : Nat) (lines : List Line) :
    (resultTexts number lines).getLast? =
      lines.getLast?.map fun line => Tap.result (number + lines.length - 1) line.1 line.2 := by
  induction lines generalizing number with
  | nil => rfl
  | cons line lines ih =>
    rcases lines with - | ⟨next, lines⟩
    · rfl
    · rw [resultTexts, resultTexts, List.getLast?_cons_cons, List.getLast?_cons_cons, ← resultTexts,
        ih]
      rw [List.length_cons (a := line), Nat.add_right_comm, Nat.add_assoc]

/-! ### Reports of a case -/

theorem reportSteps_filterMap_report? (case : ObjectId) (number unit : Nat) (failed : Bool)
    (lines : List Line) :
    (reportSteps case number unit failed lines).filterMap Entry.report? =
      lines.map fun line => (case, line) := by
  induction lines generalizing number unit failed with
  | nil => rfl
  | cons line lines ih =>
    unfold reportSteps unitSteps
    rw [List.filterMap_append, ih]
    rcases failed with _ | _ <;> rfl

theorem reportSteps_filterMap_reportText? (case : ObjectId) (number unit : Nat) (failed : Bool)
    (lines : List Line) :
    (reportSteps case number unit failed lines).filterMap Entry.reportText? =
      resultTexts number lines := by
  induction lines generalizing number unit failed with
  | nil => rfl
  | cons line lines ih =>
    unfold reportSteps unitSteps
    rw [List.filterMap_append, ih]
    rcases failed with _ | _ <;> rfl

end Engine

namespace Settlement

theorem filterMap_report? (s : Settlement) :
    s.steps.filterMap Entry.report? = s.lines.map fun line => (s.case, line) := by
  unfold steps reports cleanups conclusion
  rcases s.hooks with - | hooks <;> rcases s.cleanup with - | cleanup <;>
    rcases s.bail with - | message <;>
    simp [List.filterMap_cons, Engine.reportSteps_filterMap_report?, Entry.report?]

theorem filterMap_reportText? (s : Settlement) :
    s.steps.filterMap Entry.reportText? = Engine.resultTexts s.number s.lines ++
      s.bail.toList.map fun message => Tap.bailOut (some message) := by
  unfold steps reports cleanups conclusion
  rcases s.hooks with - | hooks <;> rcases s.cleanup with - | cleanup <;>
    rcases s.bail with - | message <;>
    simp [List.filterMap_cons, Engine.reportSteps_filterMap_reportText?, Entry.reportText?]

end Settlement

namespace Run

variable {mode : Mode} {r r' : Run} {ss : List Settlement}

theorem reports_of_steps (ss : List Settlement) :
    (ss.flatMap Settlement.steps).filterMap Entry.report? =
      ss.flatMap fun s => s.lines.map fun line => (s.case, line) := by
  rw [List.filterMap_flatMap]
  exact congrArg (fun f => List.flatMap f ss) (funext Settlement.filterMap_report?)

/-- Nothing is settled in a run that is over. -/
theorem Progress.eq_nil_of_isOver (h : Progress mode r ss r') (hover : r.isOver = true) :
    ss = [] ∧ r'.summary = r.summary ∧ r'.engine = r.engine := by
  cases h with
  | idle => exact ⟨rfl, rfl, rfl⟩
  | step hs _ =>
    rw [hs.goesOn] at hover
    exact absurd hover (by simp)

/-- What is settled prints its numbered lines, and in the end the line of the bail-out. -/
theorem reportTexts_of_progress (h : Progress mode r ss r') (hgoes : r.summary.bailOut = none) :
    (ss.flatMap Settlement.steps).filterMap Entry.reportText? =
      Engine.resultTexts (r.reported + 1) (ss.flatMap Settlement.lines) ++
        r'.summary.bailOut.toList.map fun message => Tap.bailOut (some message) := by
  induction h with
  | idle r ids =>
    rw [hgoes]
    rfl
  | @step r r₁ r' s ss hs hss ih =>
    have hsteps : s.steps.filterMap Entry.reportText? =
        Engine.resultTexts (r.reported + 1) s.lines ++
          s.bail.toList.map fun message => Tap.bailOut (some message) := by
      rw [Settlement.filterMap_reportText?, hs.concluded.number]
    have hout : r₁.summary.bailOut = s.bail.or none := hgoes ▸ hs.concluded.bailOut
    rw [List.flatMap_cons, List.flatMap_cons, List.filterMap_append, hsteps]
    rcases hbail : s.bail with - | message <;> rw [hbail] at hout
    · rw [ih hout, hs.concluded.reported, Engine.resultTexts_append]
      simp [Nat.add_right_comm]
    · -- nothing comes after a bail-out
      obtain ⟨rfl, hsummary, -⟩ := hss.eq_nil_of_isOver (by rw [isOver, hout]; rfl)
      rw [hsummary, hout]
      simp

/-- A bail-out comes from fail-fast and names a settled case, and its line is the last entry. -/
theorem bailOut_of_progress (h : Progress mode r ss r') (hgoes : r.summary.bailOut = none)
    {message : String} (hmessage : r'.summary.bailOut = some message) :
    mode.failFast = true ∧
      (∃ s ∈ ss, message = (r.tree.path s.case).render ++ " failed") ∧
      r'.engine.journal.head? = some (.printed .report (Tap.bailOut (some message))) := by
  induction h with
  | idle r ids =>
    rw [hgoes] at hmessage
    exact absurd hmessage (by simp)
  | @step r r₁ r' s ss hs hss ih =>
    have hout : r₁.summary.bailOut = s.bail.or none := hgoes ▸ hs.concluded.bailOut
    rcases hbail : s.bail with - | last <;> rw [hbail] at hout
    · obtain ⟨hfast, ⟨s', hs', hnames⟩, hlast⟩ := ih hout hmessage
      refine ⟨hfast, ⟨s', List.mem_cons_of_mem s hs', ?_⟩, hlast⟩
      rw [hnames, Tree.path_eq_of_static hs.concluded.rework.static]
    · obtain ⟨rfl, hsummary, hengine⟩ := hss.eq_nil_of_isOver (by rw [isOver, hout]; rfl)
      have hsame : last = message := by
        rw [hsummary, hout] at hmessage
        exact Option.some.inj hmessage
      subst hsame
      obtain ⟨hnames, hlast⟩ := hs.concluded.bailed last hbail
      have hfast : bailsOut mode s.verdict = true := by
        rw [← hs.concluded.bail, hbail]
        rfl
      rw [hengine]
      exact ⟨(Bool.and_eq_true_iff.mp hfast).2, ⟨s, List.mem_cons_self .., hnames⟩, hlast⟩

end Run

/-! ### The paths of a case -/

namespace Tree

/-- The paths under which a case reports. -/
def reportPaths (t : Tree) (case : ObjectId) : List Path := (t.path case).reports (t.tags case)

/-- The paths of all the cases at or below an object. -/
def listing (t : Tree) (root : ObjectId) : List Path := (t.leaves root).flatMap t.reportPaths

theorem length_reportPaths {t : Tree} {case : ObjectId} (h : (t.case? case).isSome = true) :
    (t.reportPaths case).length = t.leafCount case := by
  unfold reportPaths tags leafCount
  rcases hc : t.case? case with - | c
  · rw [hc] at h
    exact absurd h (by simp)
  · rcases htags : c.tags with - | ⟨tag, tags⟩ <;> simp [Path.reports, CaseData.leafCount, htags]

theorem leafCount_pos {t : Tree} {case : ObjectId} (h : (t.case? case).isSome = true) :
    0 < t.leafCount case := by
  unfold leafCount
  rcases hc : t.case? case with - | c
  · rw [hc] at h
    exact absurd h (by simp)
  · exact Nat.lt_of_lt_of_le Nat.one_pos (Nat.le_max_right _ _)

/-- The plan for several cases counts the paths under which they report. -/
theorem length_flatMap_reportPaths {t : Tree} {cases : List ObjectId}
    (h : ∀ c ∈ cases, (t.case? c).isSome = true) :
    (cases.flatMap t.reportPaths).length = Run.planned t cases := by
  induction cases with
  | nil => rfl
  | cons c cases ih =>
    rw [List.flatMap_cons, List.length_append, length_reportPaths (h c (List.mem_cons_self ..)),
      ih fun c' hc' => h c' (List.mem_cons_of_mem _ hc')]
    rfl

theorem length_listing {t : Tree} (h : t.Forest) (root : ObjectId) :
    (t.listing root).length = Run.planned t (t.leaves root) :=
  length_flatMap_reportPaths fun _ hl => (h.mem_leaves.mp hl).1

end Tree

namespace Run

variable {mode : Mode} {t : Tree} {r r' : Run} {s : Settlement} {ss : List Settlement}

/-- A case that is settled reports under its paths, whether it runs or not. -/
theorem paths_of_settled (h : Progress mode r ss r') (hs : s ∈ ss) (ht : t.Extends r.tree)
    (hunrun : ∀ {c}, r.tree.case? s.case = some c → c.Unrun) :
    s.lines.map Prod.fst = t.reportPaths s.case := by
  obtain ⟨r₁, r₂, m⟩ := h.moment hs
  have hext := ht.trans m.earlier
  have hpath : r₁.tree.path s.case = t.path s.case := Tree.path_eq_of_static hext.static _
  have htags : r₁.tree.tags s.case = t.tags s.case := Tree.tags_eq_of_static hext.static _
  unfold Tree.reportPaths
  rw [← hpath, ← htags]
  rcases m.settles.concluded.grounds with ⟨-, -, hlines⟩ | ⟨-, -, -, -, hlines⟩ |
    ⟨-, -, -, hcase, hbody, hrun, -, -⟩
  · rw [hlines, List.map_map]
    exact List.map_id _
  · rw [hlines, List.map_map]
    exact List.map_id _
  · obtain ⟨body, hbody', hfits, hne⟩ := (hunrun (m.untouched ▸ hcase)).body
    cases hbody.symm.trans hbody'
    rw [(Engine.advances_runBody hrun).2.paths hne, hfits, Tree.tags, hcase]

/-- Every settled case has reported under its paths. -/
theorem lines_of_settled {e : Engine} (h : t.Sound) (hprogress : Progress mode (start t e) ss r) :
    ∀ s ∈ ss, s.lines.map Prod.fst = t.reportPaths s.case :=
  fun _ hs => paths_of_settled hprogress hs (Tree.Extends.refl t) h.unrun

/-- The results of a run are those of the settled cases, in order. -/
theorem paths_of_results {e : Engine} (h : t.Sound) (hprogress : Progress mode (start t e) ss r) :
    r.summary.results.map Prod.fst = (ss.map Settlement.case).flatMap t.reportPaths := by
  have hresults : r.summary.results = ss.flatMap Settlement.lines := hprogress.results
  rw [hresults, List.map_flatMap, List.flatMap_map]
  exact List.flatMap_congr (lines_of_settled h hprogress)

/-- A settled case is a case. -/
theorem isSome_case?_of_settled {e : Engine} (hprogress : Progress mode (start t e) ss r) :
    ∀ c ∈ ss.map Settlement.case, (t.case? c).isSome = true := by
  intro c hc
  obtain ⟨s, hs, rfl⟩ := List.mem_map.mp hc
  obtain ⟨r₁, r₂, m⟩ := hprogress.moment hs
  obtain ⟨data, hdata, -⟩ := m.settles.concluded.cleanup
  rw [m.untouched] at hdata
  exact Option.isSome_iff_exists.mpr ⟨data, hdata⟩

/-- A run reports the lines of what it settles. -/
theorem reports_of_suite {root : ObjectId} {e : Engine}
    (h : Progress mode (start t (announced t root e)) ss r) :
    Engine.reportsSince e r.engine =
      ss.flatMap fun s => s.lines.map fun line => (s.case, line) := by
  rw [Engine.reportsSince_eq, (advances_suite h).stepsSince_eq]
  exact reports_of_steps ss

/-- Without fail-fast, a run prints its plan and the numbered results of its summary. -/
theorem reportTexts_of_suite {root : ObjectId} {e : Engine}
    (h : Progress mode (start t (announced t root e)) ss r) (hmode : mode.failFast = false) :
    Engine.reportTextsSince e r.engine =
      Tap.plan (planned t (t.leaves root)) :: Engine.resultTexts 1 r.summary.results := by
  have hnone : r.summary.bailOut = none := by
    have hover : r.isOver = false := h.isOver_eq hmode
    exact Option.isNone_iff_eq_none.mp (by simpa [isOver] using hover)
  have htexts := reportTexts_of_progress h rfl
  rw [hnone, Option.toList_none, List.map_nil, List.append_nil] at htexts
  rw [Engine.reportTextsSince_eq, (advances_suite h).stepsSince_eq, h.results]
  exact congrArg (_ :: ·) htexts

end Run

end TestEngine
