/-
TestEngine/Proofs/Run/Handle.lean

Finishing a case as an effect on the engine.  To the engine a case is its data and a few views of
the tree: it is run or reported unrun (`settling`), it is cleaned up (`cleaning`), and its result
is noted.  All this together is `handle`.  What else finishing does to a run is bookkeeping, and
depends only on the result and on the lines that `handle` gives (`finish_iff_handle`).
-/
import TestEngine.Proofs.Run.FailFast

namespace TestEngine

namespace Run

open Engine

variable {mode : Mode} {t : Tree} {case : ObjectId} {data : CaseData} {number : Nat}
  {blocked : Option Verdict} {v : Verdict} {r r₁ : Run}

/-! ### The parts -/

/-- Report a case that does not run. -/
def reporting (t : Tree) (case : ObjectId) (number : Nat) (v : Verdict) :
    Engine.Act (Verdict × List Line) := do
  let lines ← reportUnrun case (t.path case) number (t.tags case) v
  pure (v, lines)

/-- What settling a case does to the engine; gives the result and the lines. -/
def settling (mode : Mode) (t : Tree) (case : ObjectId) (data : CaseData) (number : Nat) :
    Option Verdict → Engine.Act (Verdict × List Line)
  | some v => reporting t case number v
  | none =>
    if mode.excluded (t.path case) then reporting t case number (.skip "excluded by selection")
    else match data.body with
      | none => Engine.violate (.bodyConsumed (t.path case))
      | some body =>
        runCase case (t.path case) number (t.inheritedPolicies case) data.expectations body

/-- What finishing a case does to the engine. -/
def handle (mode : Mode) (t : Tree) (case : ObjectId) (data : CaseData) (number : Nat)
    (blocked : Option Verdict) : Engine.Act (Verdict × List Line) := do
  let outcome ← settling mode t case data number blocked
  cleaning case data.teardown
  Engine.note (.resolved case outcome.1)
  if bailsOut mode outcome.1 then
    Engine.print (Tap.bailOut (some (grievance t case)))
  pure outcome

/-- The run when a case has been finished, which has left the engine in this state. -/
def finished (mode : Mode) (case : ObjectId) (v : Verdict) (lines : List Line) (e : Engine)
    (r : Run) : Run where
  tree := r.tree.updateCase case fun c =>
    { c with
      body := none
      teardown := none
      result := some v }
  engine := e
  summary :=
    if bailsOut mode v then
      { r.summary.addAll lines with bailOut := some (grievance r.tree case) }
    else r.summary.addAll lines
  reported := r.reported + lines.length
  resolving := r.resolving.drop 1

/-! ### Settling -/

/-- The run in which a case is settled: the body is gone if it runs. -/
def spent (mode : Mode) (case : ObjectId) (blocked : Option Verdict) (r : Run) : Run :=
  match blocked with
  | some _ => r
  | none => if mode.excluded (r.tree.path case) then r else r.taken case

/-- Settling a case is an effect on the engine, and then its lines are taken into the summary. -/
theorem settle_eq (hcase : r.tree.case? case = some data) :
    settle mode case blocked r =
      (onEngine (settling mode r.tree case data (r.reported + 1) blocked) >>= fun outcome =>
        addLines outcome.2 >>= fun _ => pure outcome.1) (r.spent mode case blocked) := by
  have hunrun : ∀ w, (onEngine (reportUnrun case (r.tree.path case) (r.reported + 1)
      (r.tree.tags case) w) >>= fun lines => addLines lines >>= fun _ => pure w) r =
        (onEngine (reporting r.tree case (r.reported + 1) w) >>= fun outcome =>
          addLines outcome.2 >>= fun _ => pure outcome.1) r := by
    intro w
    unfold reporting
    rw [onEngine_bind, bind_assoc]
    rfl
  rcases blocked with - | w
  · rcases hselected : mode.excluded (r.tree.path case) with - | -
    · simp only [settling, spent, hselected, Bool.false_eq_true, if_false]
      rcases hbody : data.body with - | body
      · have htake : onTree (Tree.takeBody case) r = .ok none (r.taken case) :=
          onTree_eq_ok.mpr ⟨_, Tree.takeBody_eq_ok.mpr ⟨data, hcase, hbody, rfl⟩, rfl⟩
        refine (bind_of_ok (get_eq_ok.mpr ⟨rfl, rfl⟩)).trans ?_
        simp only [hselected, Bool.false_eq_true, if_false]
        exact bind_of_ok htake
      · exact settle_of_selected hcase hbody hselected
    · simp only [settling, spent, hselected, if_true]
      rw [settle_of_withheld (.excluded hselected)]
      exact hunrun _
  · rw [settle_of_withheld .blocked]
    exact hunrun w

theorem settle_eq_ok (hcase : r.tree.case? case = some data) :
    settle mode case blocked r = .ok v r₁ ↔ ∃ lines e,
      settling mode r.tree case data (r.reported + 1) blocked r.engine = .ok (v, lines) e ∧
        (r.spent mode case blocked).summed (r.spent mode case blocked).tree e lines = r₁ := by
  have hengine : (r.spent mode case blocked).engine = r.engine := by
    unfold spent
    split
    · rfl
    · split <;> rfl
  rw [settle_eq hcase]
  simp only [bind_eq_ok, onEngine_eq_ok, addLines_eq_ok, pure_eq_ok, hengine]
  constructor
  · rintro ⟨⟨w, lines⟩, _, ⟨e, hok, rfl⟩, _, _, rfl, rfl, rfl⟩
    exact ⟨lines, e, hok, rfl⟩
  · rintro ⟨lines, e, hok, rfl⟩
    exact ⟨(v, lines), _, ⟨e, hok, rfl⟩, (), _, rfl, rfl, rfl⟩

/-- The run when a case has been settled: what the clean-up is going to make of the tree does not
depend on whether the body has run. -/
structure Settled (case : ObjectId) (data : CaseData) (lines : List Line) (e : Engine)
    (r r₁ : Run) : Prop where
  case? : ∃ c, r₁.tree.case? case = some c ∧ c.teardown = data.teardown
  tree : (r₁.stripped case).tree = (r.stripped case).tree
  engine : r₁.engine = e
  summary : r₁.summary = r.summary.addAll lines
  reported : r₁.reported = r.reported + lines.length
  resolving : r₁.resolving = r.resolving

theorem settled_of_spent (mode : Mode) (blocked : Option Verdict)
    (hcase : r.tree.case? case = some data) (lines : List Line) (e : Engine) :
    Settled case data lines e r
      ((r.spent mode case blocked).summed (r.spent mode case blocked).tree e lines) := by
  have hspent : r.spent mode case blocked = r ∨ r.spent mode case blocked = r.taken case := by
    unfold spent
    split
    · exact .inl rfl
    · split
      · exact .inl rfl
      · exact .inr rfl
  rcases hspent with h | h <;> rw [h]
  · exact ⟨⟨data, hcase, rfl⟩, rfl, rfl, rfl, rfl, rfl⟩
  · refine ⟨⟨{ data with body := none }, ?_, rfl⟩, ?_, rfl, rfl, rfl, rfl⟩
    · show (r.tree.updateCase case _).case? case = _
      rw [Tree.case?_updateCase, if_pos rfl, hcase]
      rfl
    · unfold taken stripped summed
      rw [Tree.updateCase_updateCase]
      rfl

/-- The engine when the result of a case has been stored. -/
def ending (mode : Mode) (t : Tree) (case : ObjectId) (v : Verdict) (e : Engine) : Engine :=
  if bailsOut mode v then
    { e with journal := .printed .report (Tap.bailOut (some (grievance t case))) ::
        .resolved case v :: e.journal }
  else { e with journal := .resolved case v :: e.journal }

theorem handle_eq_ok {lines : List Line} {e e' : Engine} :
    handle mode t case data number blocked e = .ok (v, lines) e' ↔ ∃ e₁ e₂,
      settling mode t case data number blocked e = .ok (v, lines) e₁ ∧
        cleaning case data.teardown e₁ = .ok () e₂ ∧ ending mode t case v e₂ = e' := by
  have hrest : ∀ (outcome : Verdict × List Line) e₂, (do
      Engine.note (.resolved case outcome.1)
      if bailsOut mode outcome.1 then
        Engine.print (Tap.bailOut (some (grievance t case)))
      pure outcome : Engine.Act (Verdict × List Line)) e₂ =
        .ok outcome (ending mode t case outcome.1 e₂) := by
    intro outcome e₂
    unfold ending
    split <;> rfl
  constructor
  · intro h
    obtain ⟨outcome, e₁, hsettling, h⟩ := bind_eq_ok.mp h
    obtain ⟨_, e₂, hcleaning, h⟩ := bind_eq_ok.mp h
    cases (hrest outcome e₂).symm.trans h
    exact ⟨e₁, e₂, hsettling, hcleaning, rfl⟩
  · rintro ⟨e₁, e₂, hsettling, hcleaning, rfl⟩
    exact (bind_of_ok hsettling).trans ((bind_of_ok hcleaning).trans (hrest (v, lines) e₂))

/-! ### Finishing -/

theorem concluded_eq (r : Run) (t : Tree) :
    (if bailsOut mode v then (r.concluding case v t).bailing case else r.concluding case v t) =
      { tree := t
        engine := ending mode t case v r.engine
        summary := if bailsOut mode v then
          { r.summary with bailOut := some (grievance t case) } else r.summary
        reported := r.reported
        resolving := r.resolving.drop 1 } := by
  unfold ending
  split <;> rfl

/-- The bookkeeping for a case that has been settled and cleaned up. -/
theorem Settled.finished_eq {lines : List Line} {e₁ : Engine} (h : Settled case data lines e₁ r r₁)
    (e : Engine) :
    let r₂ : Run := { r₁.stripped case with engine := e }
    let t := r₂.tree.updateCase case fun c => { c with result := some v }
    (if bailsOut mode v then (r₂.concluding case v t).bailing case else r₂.concluding case v t) =
      r.finished mode case v lines (ending mode r.tree case v e) := by
  have htree : (r₁.stripped case).tree.updateCase case (fun c => { c with result := some v }) =
      (r.finished mode case v lines e).tree := by
    rw [h.tree]
    exact Tree.updateCase_updateCase _ _ _ _
  have hstatic : (r.finished mode case v lines e).tree.static = r.tree.static := by
    apply Tree.static_updateCase
    exact fun _ => rfl
  have hgrievance : grievance (r.finished mode case v lines e).tree case = grievance r.tree case := by
    rw [grievance, grievance, Tree.path_eq_of_static hstatic]
  intro r₂ t
  have hsummary : r₂.summary = r.summary.addAll lines := h.summary
  have hreported : r₂.reported = r.reported + lines.length := h.reported
  have hresolving : r₂.resolving = r.resolving := h.resolving
  rw [concluded_eq, show t = _ from htree, hsummary, hreported, hresolving]
  unfold ending
  rw [hgrievance]
  rfl

/-- Finishing a case is an effect on the engine, and the bookkeeping of `finished`. -/
theorem finish_iff_handle : finish mode case blocked r = .ok v r₁ ↔ ∃ data lines e,
    r.tree.case? case = some data ∧ data.result = none ∧
      handle mode r.tree case data (r.reported + 1) blocked r.engine = .ok (v, lines) e ∧
        r.finished mode case v lines e = r₁ := by
  have hstripped : ∀ {data lines e₁ r₂} (e₂ : Engine), r.tree.case? case = some data →
      Settled case data lines e₁ r r₂ → ({ r₂.stripped case with engine := e₂ } : Run).tree.case? case =
        some { data with
          body := none
          teardown := none } := by
    intro data lines e₁ r₂ e₂ hcase h
    show (r₂.stripped case).tree.case? case = _
    rw [h.tree]
    show (r.tree.updateCase case _).case? case = _
    rw [Tree.case?_updateCase, if_pos rfl, hcase]
    rfl
  constructor
  · intro h
    obtain ⟨s, rfl, -, hs⟩ := concluded_of_finish h
    obtain ⟨data, hcase, -⟩ := hs.cleanup
    obtain ⟨r₂, r₃, t, hsettle, htear, hset, rfl⟩ := finish_eq_ok.mp h
    obtain ⟨lines, e₁, hsettling, rfl⟩ := (settle_eq_ok hcase).mp hsettle
    have hsettled := settled_of_spent mode blocked hcase lines e₁
    generalize (r.spent mode s.case blocked).summed _ e₁ lines = r₂ at htear hsettled
    obtain ⟨c, e₂, hc, hcleaning, rfl⟩ := tearDown_eq_ok.mp htear
    obtain ⟨_, hc', hteardown⟩ := hsettled.case?
    cases hc.symm.trans hc'
    obtain ⟨c', hc', hnone, rfl⟩ := Tree.setResult_eq_ok.mp hset
    cases (hstripped e₂ hcase hsettled).symm.trans hc'
    rw [hteardown, hsettled.engine] at hcleaning
    exact ⟨data, lines, _, hcase, hnone, handle_eq_ok.mpr ⟨e₁, e₂, hsettling, hcleaning, rfl⟩,
      (hsettled.finished_eq e₂).symm⟩
  · rintro ⟨data, lines, e, hcase, hnone, hhandle, rfl⟩
    obtain ⟨e₁, e₂, hsettling, hcleaning, rfl⟩ := handle_eq_ok.mp hhandle
    have hsettle := (settle_eq_ok hcase).mpr ⟨lines, e₁, hsettling, rfl⟩
    have hsettled := settled_of_spent mode blocked hcase lines e₁
    generalize (r.spent mode case blocked).summed _ e₁ lines = r₂ at hsettle hsettled
    obtain ⟨c, hc, hteardown⟩ := hsettled.case?
    have htear : tearDown case r₂ = .ok () { r₂.stripped case with engine := e₂ } := by
      rw [← hteardown, ← hsettled.engine] at hcleaning
      exact tearDown_eq_ok.mpr ⟨c, e₂, hc, hcleaning, rfl⟩
    exact finish_eq_ok.mpr ⟨r₂, _, _, hsettle, htear,
      Tree.setResult_eq_ok.mpr ⟨_, hstripped e₂ hcase hsettled, hnone, rfl⟩, hsettled.finished_eq e₂⟩

end Run

end TestEngine
