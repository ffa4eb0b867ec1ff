/-
TestEngine/Proofs/Run/Case.lean

What it means that a case has been run, or reported unrun, and an answer was given.

`reportSteps` are the steps of the units of a case: each unit that runs is started, and
then its line is printed and reported; after a failure no unit is started any more.  A
case that does not run reports as if a failure had come before its first unit, so that
one list describes both ways (`advances_runBody`, `advances_reportUnrun`).

A run case first notes its two hooks, and they are gone from the chain when it ends, so
long as numbers that have not been given yet do not stand in the chain (`Engine.Fresh`).
-/
import TestEngine.Proofs.Engine.Advance

namespace TestEngine

/-- The paths under which a case reports: its own, or one for each of its tags. -/
def Path.reports (p : Path) : List String → List Path
  | [] => [p]
  | tag :: tags => (tag :: tags).map fun tag => ⟨p.elements ++ [tag]⟩

theorem Path.reports_ne_nil (p : Path) (tags : List String) : p.reports tags ≠ [] := by
  rcases tags with - | ⟨tag, tags⟩ <;> simp [Path.reports]

namespace Engine

variable {e e' : Engine} {case : ObjectId} {path : Path}

/-! ### Fresh numbers -/

/-- No hook stands in the chain under a number that has not been given yet. -/
def Fresh (e : Engine) : Prop := ∀ id, e.nextHook ≤ id → e.standing id = 0

theorem Rehooked.fresh (h : Rehooked e e') (hf : e.Fresh) : e'.Fresh := by
  intro id hid
  have hs := h.standing id
  rw [hf id (Nat.le_trans h.nextHook hid), if_neg fun hc => Nat.not_lt.mpr hid hc.2] at hs
  exact Nat.le_zero.mp hs

/-- Every hook in the chain, and every hook that scripts can name, was given its number. -/
structure Numbered (e : Engine) : Prop where
  fresh : e.Fresh
  named : ∀ id ∈ e.names, id < e.nextHook

theorem Rehooked.numbered (h : Rehooked e e') (hn : e.Numbered) : e'.Numbered := by
  refine ⟨h.fresh hn.fresh, fun id hid => ?_⟩
  rcases h.named id hid with hid | ⟨-, hlt⟩
  · exact Nat.lt_of_lt_of_le (hn.named id hid) h.nextHook
  · exact hlt

theorem Numbered.lt_nextHook (hn : e.Numbered) {i : Installed} (hi : i ∈ e.chain) :
    i.id < e.nextHook := by
  refine Nat.lt_of_not_le fun hle => ?_
  exact List.count_eq_zero.mp (hn.fresh i.id hle) (List.mem_map_of_mem hi)

/-- A hook that has been removed does not come back. -/
theorem Rehooked.absent (h : Rehooked e e') {id : HookId} (hid : id < e.nextHook)
    (ha : e.standing id = 0) : e'.standing id = 0 := by
  have hs := h.standing id
  rw [ha, if_neg fun hc => Nat.not_le.mpr hid hc.1] at hs
  exact Nat.le_zero.mp hs

theorem not_mem_chain_of_standing {id : HookId} (h : e.standing id = 0) :
    id ∉ e.chain.map Installed.id :=
  List.count_eq_zero.mp h

/-! ### Guarded hooks -/

theorem advances_install (h : Hook) (e : Engine) : Advances [] e (install h e).2 :=
  advances_enlist false h e

theorem standing_install (h : Hook) (e : Engine) :
    (install h e).2.standing e.nextHook = e.standing e.nextHook + 1 := by
  show List.count e.nextHook (e.nextHook :: e.chain.map Installed.id) = _
  rw [List.count_cons_self]
  rfl

theorem advances_release {id : HookId} {u : Unit} (h : release id e = .ok u e') :
    Advances [] e e' ∧ e'.standing id ≤ e.standing id - 1 := by
  rcases release_eq_ok.mp h with ⟨-, rfl⟩ | ⟨-, newest, older, hc, hid, rfl⟩
  · refine ⟨advances_of_rehooked (rehooked_discard id e) rfl rfl, ?_⟩
    -- an unwinding thread discards the hook wherever it stands
    have hnone : (discard id e).standing id = 0 := by
      refine List.count_eq_zero.mpr fun hmem => ?_
      obtain ⟨i, hi, hid⟩ := List.mem_map.mp hmem
      simpa [hid] using (List.mem_filter.mp hi).2
    omega
  · refine ⟨advances_of_rehooked (rehooked_pop hc) rfl rfl, ?_⟩
    unfold standing
    rw [hc, List.map_cons, hid, List.count_cons_self]
    exact Nat.le_refl _

/-- A block under a hook takes its own steps, and afterwards the hook is gone. -/
theorem advances_withHook {α : Type} {h : Hook} {block : HookId → Act α} {a : α}
    (hok : withHook h block e = .ok a e') :
    ∃ e₁, block e.nextHook (install h e).2 = .ok a e₁ ∧ Advances [] e₁ e' ∧
      ∀ steps, Advances steps (install h e).2 e₁ → Advances steps e e' ∧
        e.nextHook < e'.nextHook ∧ (e.standing e.nextHook = 0 → e'.standing e.nextHook = 0) := by
  rw [withHook_eq] at hok
  rcases hb : block e.nextHook (install h e).2 with ⟨b, e₁⟩ | ⟨_ | _ | _ | _, e₁⟩ <;>
    rw [hb] at hok
  · have hok : (release e.nextHook >>= fun _ => pure b) e₁ = .ok a e' := hok
    simp only [bind_eq_ok, pure_eq_ok] at hok
    obtain ⟨_, e₂, hrelease, rfl, hend⟩ := hok
    rw [hend] at hrelease
    obtain ⟨hend, hless⟩ := advances_release hrelease
    refine ⟨e₁, rfl, hend, fun steps hsteps => ?_⟩
    have hall := ((advances_install h e).trans hsteps).trans hend
    rw [List.nil_append, List.append_nil] at hall
    have hnext : e.nextHook < e'.nextHook :=
      Nat.lt_of_lt_of_le (Nat.lt_succ_self _) (hsteps.trans hend).hooks.nextHook
    refine ⟨hall, hnext, fun hzero => ?_⟩
    -- the block cannot have installed a hook under this number again
    have hbody := hsteps.hooks.standing e.nextHook
    rw [standing_install, hzero, if_neg fun hc => Nat.not_succ_le_self _ hc.1] at hbody
    omega
  all_goals exact absurd hok (by simp)

/-! ### Units -/

/-- The steps of one unit: it is started if it runs, and its line is reported. -/
def unitSteps (case : ObjectId) (number unit : Nat) (started : Bool) (line : Line) : List Entry :=
  (if started then [.unitStarted case unit] else []) ++
    [.printed .report (Tap.result number line.1 line.2), .reported case line.1 line.2]

/-- The steps of the units from number `unit` on; `failed` tells whether one before them
has failed, or the case does not run at all. -/
def reportSteps (case : ObjectId) (number unit : Nat) (failed : Bool) : List Line → List Entry
  | [] => []
  | line :: lines =>
    unitSteps case number unit (!failed) line ++
      reportSteps case (number + 1) (unit + 1) (failed || line.2.isFail) lines

/-- Only a case that runs starts its units, and its own ones only. -/
theorem started_of_mem_reportSteps {case' : ObjectId} {number first unit : Nat} {failed : Bool}
    {lines : List Line} (h : .unitStarted case unit ∈ reportSteps case' number first failed lines) :
    case' = case ∧ failed = false := by
  induction lines generalizing number first failed with
  | nil => exact absurd h (by simp [reportSteps])
  | cons line lines ih =>
    unfold reportSteps at h
    rcases List.mem_append.mp h with h | h
    · rcases failed with _ | _
      · simp only [unitSteps, Bool.not_false, if_true] at h
        have hcase : case = case' ∧ unit = first := by simpa using h
        exact ⟨hcase.1.symm, rfl⟩
      · exact absurd h (by simp [unitSteps])
    · obtain ⟨hcase, hfailed⟩ := ih h
      exact ⟨hcase, (Bool.or_eq_false_iff.mp hfailed).1⟩

theorem advances_report {number : Nat} {v : Verdict} {u : Unit}
    (h : report case number path v e = .ok u e') :
    Advances [.printed .report (Tap.result number path v), .reported case path v] e e' := by
  unfold report print at h
  simp only [bind_eq_ok, note_eq_ok] at h
  obtain ⟨_, e₁, hprint, hreport⟩ := h
  rw [← hreport, ← hprint]
  exact (advances_note_step rfl e).trans (advances_note_step rfl _)

theorem subpath_eq_ok {tag : String} {p : Path} :
    subpath path tag e = .ok p e' ↔
      isElement tag = true ∧ ⟨path.elements ++ [tag]⟩ = p ∧ e = e' := by
  unfold subpath Path.push
  by_cases htag : isElement tag = true
  · simp [htag, pure_eq_ok]
  · simp [htag, violate_eq_ok]

/-- A test ends with a verdict only if none was running. -/
theorem execute_eq_ok {body : Act Unit} {v : Verdict} (h : execute body e = .ok v e') :
    e.context = none ∧ concluded (body e.entered) = .ok v e' := by
  rcases hc : e.context with - | c
  · rw [execute_of_idle hc] at h
    exact ⟨rfl, h⟩
  · rw [execute_of_active hc] at h
    exact absurd h violate_eq_ok

/-- Whatever holds of the state in which a body ends is a matter of that state, left. -/
theorem lands_of_concluded {Q : Engine → Prop} {o : EStateM.Result Stop Engine Unit} {v : Verdict}
    (h : concluded o = .ok v e') (ho : Lands Q o) : ∃ e₁, Q e₁ ∧ e' = e₁.leave := by
  rcases o with ⟨_, e₁⟩ | ⟨payload | _ | _ | _, e₁⟩
  · cases h
    exact ⟨e₁, ho, rfl⟩
  · simp only [concluded] at h
    split at h
    · cases h
      exact ⟨e₁, ho, rfl⟩
    · exact absurd h (by simp)
  all_goals exact absurd h (by simp [concluded])

theorem advances_runUnit {unit : Nat} {script : Script} {v : Verdict}
    (h : runUnit case unit script e = .ok v e') : Advances [.unitStarted case unit] e e' := by
  obtain ⟨hidle, hend⟩ := execute_eq_ok h
  -- the test is entered, the unit is noted, and then the script runs
  let e₁ : Engine := { e.entered with journal := .unitStarted case unit :: e.entered.journal }
  obtain ⟨e₂, hbody, rfl⟩ := lands_of_concluded hend (lands_advances_perform script e₁)
  obtain ⟨new, hnew, hsteps⟩ := hbody.noted
  refine ⟨⟨.entered :: .unitStarted case unit :: new ++ [.left], ?_, ?_⟩, ?_,
    hbody.hooks.congr rfl rfl rfl rfl rfl rfl⟩
  · show .left :: e₂.journal = _
    rw [hnew]
    simp [e₁, entered]
  · rw [List.filter_append, List.filter_cons_of_neg (by simp [Entry.isStep]),
      List.filter_cons_of_pos rfl, hsteps]
    rfl
  · show false = e.context.isSome
    rw [hidle]
    rfl

/-! ### Bodies -/

theorem runSubunits_cons (number unit : Nat) (failed : Bool) (tag : String) (script : Script)
    (units : List (String × Script)) :
    runSubunits case path number unit failed ((tag, script) :: units) =
      (if failed then pure (.fail "previous subunit failed") else runUnit case unit script) >>=
        (fun v => do
          let p ← subpath path tag
          report case number p v
          let others ← runSubunits case path (number + 1) (unit + 1) (failed || v.isFail) units
          pure ((tag, p, v) :: others)) := by
  rcases failed with _ | _ <;> rfl

theorem advances_runSubunits {number unit : Nat} {failed : Bool} {units : List (String × Script)}
    {ls : List (String × Line)} (h : runSubunits case path number unit failed units e = .ok ls e') :
    Advances (reportSteps case number unit failed (ls.map Prod.snd)) e e' ∧
      ls.map Prod.fst = units.map Prod.fst ∧
      ls.map (fun l => l.2.1) = (units.map Prod.fst).map fun tag => ⟨path.elements ++ [tag]⟩ := by
  induction units generalizing number unit failed e ls with
  | nil =>
    unfold runSubunits at h
    obtain ⟨rfl, rfl⟩ := pure_eq_ok.mp h
    exact ⟨Advances.refl e, rfl, rfl⟩
  | cons u units ih =>
    obtain ⟨tag, script⟩ := u
    rw [runSubunits_cons] at h
    simp only [bind_eq_ok, subpath_eq_ok, pure_eq_ok] at h
    obtain ⟨v, e₁, hrun, p, e₂, ⟨-, rfl, rfl⟩, _, e₃, hreport, others, e₄, hrest, rfl, rfl⟩ := h
    obtain ⟨hsteps, htags, hpaths⟩ := ih hrest
    refine ⟨?_, ?_, ?_⟩
    · have hunit : Advances (if !failed then [.unitStarted case unit] else []) e e₁ := by
        rcases failed with _ | _
        · exact advances_runUnit hrun
        · obtain ⟨-, rfl⟩ := pure_eq_ok.mp hrun
          exact Advances.refl e
      exact (hunit.trans (advances_report hreport)).trans hsteps
    · rw [List.map_cons, List.map_cons, htags]
    · rw [List.map_cons, List.map_cons, List.map_cons, hpaths]

/-- A complex case fails just if one of its subunits does. -/
theorem coalesce_isFail {units : List (String × Line)} :
    (coalesce units).isFail = true ↔ ∃ u ∈ units, u.2.2.isFail = true := by
  unfold coalesce
  rcases hu : units.find? (fun u => u.2.2.isFail) with - | u
  · have hnone := List.find?_eq_none.mp hu
    refine ⟨fun h => ?_, fun ⟨u, hmem, hfail⟩ => absurd hfail (hnone u hmem)⟩
    simp only [hu] at h
    split at h <;> exact absurd h (by decide)
  · have hfail := List.find?_some (p := fun u : String × Line => u.2.2.isFail) hu
    simp only [hu]
    exact ⟨fun _ => ⟨u, List.mem_of_find?_eq_some hu, hfail⟩, fun _ => rfl⟩

/-- Where the result of a body comes from. -/
structure Produced (path : Path) (body : Body) (v : Verdict) (lines : List Line) : Prop where
  simple : ∀ script, body = .simple script → lines = [(path, v)]
  complex : ∀ units, body = .complex units → ∃ ls : List (String × Line),
    ls.map Prod.fst = units.map Prod.fst ∧ ls.map Prod.snd = lines ∧ v = coalesce ls
  paths : body ≠ .complex [] → lines.map Prod.fst = path.reports body.tags

/-- A body fails just if one of its lines says so. -/
theorem Produced.isFail_iff {body : Body} {v : Verdict} {lines : List Line}
    (h : Produced path body v lines) : v.isFail = true ↔ ∃ line ∈ lines, line.2.isFail = true := by
  rcases body with script | units
  · rw [h.simple script rfl]
    simp
  · obtain ⟨ls, -, hlines, rfl⟩ := h.complex units rfl
    rw [coalesce_isFail, ← hlines]
    constructor
    · rintro ⟨u, hu, hfail⟩
      exact ⟨u.2, List.mem_map_of_mem hu, hfail⟩
    · rintro ⟨line, hline, hfail⟩
      obtain ⟨u, hu, rfl⟩ := List.mem_map.mp hline
      exact ⟨u, hu, hfail⟩

theorem advances_runBody {number : Nat} {body : Body} {v : Verdict} {lines : List Line}
    (h : runBody case path number body e = .ok (v, lines) e') :
    Advances (reportSteps case number 0 false lines) e e' ∧ Produced path body v lines := by
  rcases body with script | units
  · simp only [runBody, bind_eq_ok, pure_eq_ok] at h
    obtain ⟨w, e₁, hrun, _, e₂, hreport, hpair, rfl⟩ := h
    cases hpair
    refine ⟨(advances_runUnit hrun).trans (advances_report hreport), fun _ _ => rfl, ?_, ?_⟩
    · intro units hunits
      exact absurd hunits (by simp)
    · intro _
      rfl
  · simp only [runBody, bind_eq_ok, pure_eq_ok] at h
    obtain ⟨ls, e₁, hrun, hpair, rfl⟩ := h
    cases hpair
    obtain ⟨hsteps, htags, hpaths⟩ := advances_runSubunits hrun
    refine ⟨hsteps, ?_, ?_, ?_⟩
    · intro script hscript
      exact absurd hscript (by simp)
    · intro units' hunits
      cases hunits
      exact ⟨ls, htags, rfl, rfl⟩
    · intro hne
      rw [List.map_map]
      refine Eq.trans hpaths ?_
      rcases units with - | ⟨u, units⟩
      · exact absurd rfl hne
      · rfl

/-- A run case: its two hooks, its units, and its result. -/
theorem advances_runCase {number : Nat} {policies : List Policy} {expectations : List Expectation}
    {body : Body} {v : Verdict} {lines : List Line}
    (h : runCase case path number policies expectations body e = .ok (v, lines) e') :
    ∃ outer inner e₁ e₂,
      Advances (.bracketed case outer inner :: reportSteps case number 0 false lines) e e' ∧
      (e.Fresh → e'.standing outer = 0 ∧ e'.standing inner = 0) ∧
      runBody case path number body e₁ = .ok (v, lines) e₂ ∧
      e.journal <:+ e₁.journal ∧ e₂.journal <:+ e'.journal := by
  unfold runCase at h
  simp only [bind_eq_ok, pure_eq_ok] at h
  obtain ⟨_, e₁, hbefore, outcome, e₆, hrun, _, e₇, hafter, rfl, rfl⟩ := h
  -- the policies stand outside, the expectations inside
  obtain ⟨e₅, hinner, hend₅, houter⟩ := advances_withHook hrun
  obtain ⟨e₄, hbody, hend₄, hinner'⟩ := advances_withHook hinner
  simp only [bind_eq_ok, note_eq_ok] at hbody
  obtain ⟨_, e₃, hnote, hbody⟩ := hbody
  let e₂ : Engine := (install (.failIfLogged policies) e₁).2
  have hbracket : Advances [.bracketed case e₁.nextHook e₂.nextHook]
      (install (.expecting expectations) e₂).2 e₃ := by
    rw [← hnote]
    exact advances_note_step rfl _
  have hunits := (advances_runBody hbody).1
  obtain ⟨hin, hnextin, hgonein⟩ := hinner' _ (hbracket.trans hunits)
  obtain ⟨hout, hnextout, hgoneout⟩ := houter _ hin
  have hlog := advances_log hbefore
  have hlog' := advances_log hafter
  have hall := (hlog.trans hout).trans hlog'
  rw [List.nil_append, List.append_nil] at hall
  have hstart := ((hlog.trans (advances_install (.failIfLogged policies) e₁)).trans
    (advances_install (.expecting expectations) e₂)).trans hbracket
  refine ⟨e₁.nextHook, e₂.nextHook, e₃, e₄, hall, fun hfresh => ?_, hbody, hstart.journal_suffix,
    ((hend₄.trans hend₅).trans hlog').journal_suffix⟩
  have hfresh₁ := hlog.hooks.fresh hfresh
  have hfresh₂ : e₂.Fresh := (advances_install (.failIfLogged policies) e₁).hooks.fresh hfresh₁
  refine ⟨hlog'.hooks.absent hnextout (hgoneout (hfresh₁ _ (Nat.le_refl _))), ?_⟩
  exact (hend₅.trans hlog').hooks.absent hnextin (hgonein (hfresh₂ _ (Nat.le_refl _)))

/-! ### Cases that do not run -/

theorem advances_reportSubunits {number : Nat} {v : Verdict} {tags : List String}
    {lines : List Line} (unit : Nat) (h : reportSubunits case path number v tags e = .ok lines e') :
    Advances (reportSteps case number unit true lines) e e' ∧
      lines = (tags.map fun tag => ⟨path.elements ++ [tag]⟩).map fun p => (p, v) := by
  induction tags generalizing number unit e lines with
  | nil =>
    unfold reportSubunits at h
    obtain ⟨rfl, rfl⟩ := pure_eq_ok.mp h
    exact ⟨Advances.refl e, rfl⟩
  | cons tag tags ih =>
    unfold reportSubunits at h
    simp only [bind_eq_ok, subpath_eq_ok, pure_eq_ok] at h
    obtain ⟨p, e₁, ⟨-, rfl, rfl⟩, _, e₂, hreport, others, e₃, hrest, rfl, rfl⟩ := h
    obtain ⟨hsteps, rfl⟩ := ih (unit + 1) hrest
    exact ⟨(advances_report hreport).trans hsteps, rfl⟩

/-- An unrun case reports the same result under all its paths. -/
theorem advances_reportUnrun {number : Nat} {v : Verdict} {tags : List String} {lines : List Line}
    (h : reportUnrun case path number tags v e = .ok lines e') :
    Advances (reportSteps case number 0 true lines) e e' ∧
      lines = (path.reports tags).map fun p => (p, v) := by
  unfold reportUnrun at h
  rcases tags with - | ⟨tag, tags⟩
  · simp only [List.isEmpty_nil, if_true, bind_eq_ok, pure_eq_ok] at h
    obtain ⟨_, e₁, hreport, rfl, rfl⟩ := h
    exact ⟨advances_report hreport, rfl⟩
  · exact advances_reportSubunits 0 h

end Engine

end TestEngine
