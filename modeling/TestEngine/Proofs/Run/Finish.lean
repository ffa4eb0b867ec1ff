/-
TestEngine/Proofs/Run/Finish.lean

What it takes to finish a case, part by part.  The case is settled: its body is run, or the case is
reported unrun (`settle_cases`).  Its scripts are taken out of the tree, and the teardown is carried
out (`tearDown_eq_ok`).  Then its result is stored, which may end the run (`conclude_eq_ok`).

All that is proved of a case that is finished rests on these equations.
-/
import TestEngine.Proofs.Effect
import TestEngine.Proofs.Tree.View

namespace TestEngine

/-- The state in which a teardown starts. -/
def Engine.tearing (case : ObjectId) (e : Engine) : Engine :=
  { e with journal := .tearingDown case e.isActive (e.chain.map Installed.id) :: e.journal }

namespace Run

variable {mode : Mode} {case : ObjectId} {blocked : Option Verdict} {data : CaseData} {v : Verdict}
  {r r' : Run}

/-! ### Settling -/

/-- The lines of a case are taken into the summary. -/
def summed (r : Run) (t : Tree) (e : Engine) (lines : List Engine.Line) : Run :=
  { r with
    tree := t
    engine := e
    summary := r.summary.addAll lines
    reported := r.reported + lines.length }

/-- The state in which the body of a case runs, which is gone from the tree. -/
def taken (case : ObjectId) (r : Run) : Run :=
  { r with tree := r.tree.updateCase case fun c => { c with body := none } }

/-- A case at this path does not run, because it is blocked or left out by the selection, and has
this verdict instead. -/
inductive Withheld (mode : Mode) (path : Path) : Option Verdict → Verdict → Prop
  | blocked {v : Verdict} : Withheld mode path (some v) v
  | excluded (hexcluded : mode.excluded path = true) :
      Withheld mode path none (.skip "excluded by selection")

/-- A case that does not run is reported unrun. -/
theorem settle_of_withheld (h : Withheld mode (r.tree.path case) blocked v) :
    settle mode case blocked r = (onEngine (Engine.reportUnrun case (r.tree.path case)
      (r.reported + 1) (r.tree.tags case) v) >>= fun lines => addLines lines >>= fun _ => pure v) r := by
  refine (bind_of_ok (get_eq_ok.mpr ⟨rfl, rfl⟩)).trans ?_
  rcases h with - | hexcluded
  · rfl
  · simp only [hexcluded, if_true]

/-- A case that is neither blocked nor left out runs its body. -/
theorem settle_of_selected {body : Body} (hcase : r.tree.case? case = some data)
    (hbody : data.body = some body) (hselected : mode.excluded (r.tree.path case) = false) :
    settle mode case none r =
      (onEngine (Engine.runCase case (r.tree.path case) (r.reported + 1)
          (r.tree.inheritedPolicies case) data.expectations body) >>= fun outcome =>
        addLines outcome.2 >>= fun _ => pure outcome.1) (r.taken case) := by
  have htake : onTree (Tree.takeBody case) r = .ok (some body) (r.taken case) :=
    onTree_eq_ok.mpr ⟨_, Tree.takeBody_eq_ok.mpr ⟨data, hcase, hbody, rfl⟩, rfl⟩
  refine (bind_of_ok (get_eq_ok.mpr ⟨rfl, rfl⟩)).trans ?_
  simp only [hselected, hcase, Bool.false_eq_true, if_false]
  exact bind_of_ok htake

/-- A case is settled in one of two ways. -/
theorem settle_cases (h : settle mode case blocked r = .ok v r') :
    (∃ lines e, Withheld mode (r.tree.path case) blocked v ∧
      Engine.reportUnrun case (r.tree.path case) (r.reported + 1) (r.tree.tags case) v r.engine =
        .ok lines e ∧ r.summed r.tree e lines = r') ∨
    ∃ data body lines e, blocked = none ∧ mode.excluded (r.tree.path case) = false ∧
      r.tree.case? case = some data ∧ data.body = some body ∧
        Engine.runCase case (r.tree.path case) (r.reported + 1) (r.tree.inheritedPolicies case)
          data.expectations body r.engine = .ok (v, lines) e ∧
            r.summed (r.taken case).tree e lines = r' := by
  have hwithheld : ∀ {w}, Withheld mode (r.tree.path case) blocked w →
      ∃ lines e, Withheld mode (r.tree.path case) blocked v ∧
        Engine.reportUnrun case (r.tree.path case) (r.reported + 1) (r.tree.tags case) v r.engine =
          .ok lines e ∧ r.summed r.tree e lines = r' := by
    intro w hw
    rw [settle_of_withheld hw] at h
    simp only [bind_eq_ok, onEngine_eq_ok, addLines_eq_ok, pure_eq_ok] at h
    obtain ⟨lines, _, ⟨e, hlines, rfl⟩, _, _, rfl, rfl, rfl⟩ := h
    exact ⟨lines, e, hw, hlines, rfl⟩
  rcases blocked with - | w
  · rcases hmode : mode.excluded (r.tree.path case) with - | -
    · -- as it returns, there is a case, and it has its body still
      have htaken := h
      unfold settle at htaken
      simp only [get_bind_eq_ok] at htaken
      simp only [hmode, Bool.false_eq_true, if_false, bind_eq_ok, onTree_eq_ok] at htaken
      obtain ⟨taken, _, ⟨t, htake, rfl⟩, hrun⟩ := htaken
      obtain ⟨data, hcase, hbody, rfl⟩ := Tree.takeBody_eq_ok.mp htake
      rcases taken with - | body
      · exact absurd hrun violate_eq_ok
      · rw [settle_of_selected hcase hbody hmode] at h
        simp only [bind_eq_ok, onEngine_eq_ok, addLines_eq_ok, pure_eq_ok] at h
        obtain ⟨⟨w, lines⟩, _, ⟨e, hok, rfl⟩, _, _, rfl, rfl, rfl⟩ := h
        exact .inr ⟨data, body, lines, e, rfl, rfl, hcase, hbody, hok, rfl⟩
    · exact .inl (hwithheld (.excluded hmode))
  · exact .inl (hwithheld .blocked)

/-! ### Cleaning up -/

/-- What the teardown of a case does to the engine, if there is one. -/
def cleaning (case : ObjectId) : Option Script → Engine.Act Unit
  | none => pure ()
  | some script => do
    let e ← get
    Engine.note (.tearingDown case e.isActive (e.chain.map Installed.id))
    Engine.perform script

/-- The run without the scripts of a case. -/
def stripped (case : ObjectId) (r : Run) : Run :=
  { r with tree := r.tree.updateCase case fun c =>
      { c with
        body := none
        teardown := none } }

/-- The teardown is an effect on the engine, after which both scripts of the case are gone. -/
theorem tearDown_eq (hcase : r.tree.case? case = some data) :
    tearDown case r = onEngine (cleaning case data.teardown) (r.stripped case) := by
  have hbody : onTree (Tree.takeBody case) r = .ok data.body (r.taken case) :=
    onTree_eq_ok.mpr ⟨_, Tree.takeBody_eq_ok.mpr ⟨data, hcase, rfl, rfl⟩, rfl⟩
  -- the body is dropped first, which leaves the teardown of the case where it was
  have hcase₁ : (r.taken case).tree.case? case = some { data with body := none } := by
    show (r.tree.updateCase case _).case? case = _
    rw [Tree.case?_updateCase, if_pos rfl, hcase]
    rfl
  have hteardown : onTree (Tree.takeTeardown case) (r.taken case) =
      .ok data.teardown (r.stripped case) := by
    refine onTree_eq_ok.mpr ⟨_, Tree.takeTeardown_eq_ok.mpr ⟨_, hcase₁, rfl, rfl⟩, ?_⟩
    unfold taken stripped
    rw [Tree.updateCase_updateCase]
    rfl
  unfold tearDown
  rw [bind_of_ok hbody, bind_of_ok hteardown]
  rcases data.teardown with - | script
  · rfl
  · rfl

theorem tearDown_eq_ok : tearDown case r = .ok () r' ↔ ∃ data e, r.tree.case? case = some data ∧
    cleaning case data.teardown r.engine = .ok () e ∧
      { r.stripped case with engine := e } = r' := by
  constructor
  · intro h
    obtain ⟨_, _, htake, -⟩ := bind_eq_ok.mp h
    obtain ⟨_, htake, -⟩ := onTree_eq_ok.mp htake
    obtain ⟨data, hcase, -⟩ := Tree.takeBody_eq_ok.mp htake
    rw [tearDown_eq hcase] at h
    obtain ⟨e, hcleaning, hr'⟩ := onEngine_eq_ok.mp h
    exact ⟨data, e, hcase, hcleaning, hr'⟩
  · rintro ⟨data, e, hcase, hcleaning, hr'⟩
    rw [tearDown_eq hcase]
    exact onEngine_eq_ok.mpr ⟨e, hcleaning, hr'⟩

/-! ### Storing the result -/

/-- Does a case with this verdict end the run? -/
def bailsOut (mode : Mode) (v : Verdict) : Bool := v.isFail && mode.failFast

/-- The result of a case has been stored. -/
def concluding (case : ObjectId) (v : Verdict) (t : Tree) (r : Run) : Run :=
  { r with
    tree := t
    engine := { r.engine with journal := .resolved case v :: r.engine.journal }
    resolving := r.resolving.drop 1 }

/-- What a run says that is ended because a case failed. -/
def grievance (t : Tree) (case : ObjectId) : String := (t.path case).render ++ " failed"

/-- The run is ended because a case failed. -/
def bailing (case : ObjectId) (r : Run) : Run :=
  { r with
    engine := { r.engine with
      journal := .printed .report (Tap.bailOut (some (grievance r.tree case))) :: r.engine.journal }
    summary := { r.summary with bailOut := some (grievance r.tree case) } }

theorem conclude_eq_ok {u : Unit} : conclude mode case v r = .ok u r' ↔
    ∃ t, Tree.setResult case v r.tree = .ok () t ∧
      (if bailsOut mode v then (r.concluding case v t).bailing case else r.concluding case v t) =
        r' := by
  -- once the result is stored, nothing is left that could fail
  have hrest : ∀ t, (if v.isFail && mode.failFast then do
        let message := ((← get).tree.path case).render ++ " failed"
        onEngine (Engine.print (Tap.bailOut (some message)))
        modify fun r => { r with summary := { r.summary with bailOut := some message } }
      else pure () : Act Unit) (r.concluding case v t) = .ok () (if bailsOut mode v then
        (r.concluding case v t).bailing case else r.concluding case v t) := by
    intro t
    unfold bailsOut
    split <;> rfl
  rcases hset : Tree.setResult case v r.tree with ⟨u', t⟩ | ⟨fault, t⟩
  · have hstep : conclude mode case v r = _ := (bind_of_ok (onTree_eq_ok.mpr ⟨t, hset, rfl⟩)).trans
      (hrest t)
    rw [hstep]
    simp
  · have hno : ¬ conclude mode case v r = .ok u r' := by
      intro h
      obtain ⟨_, _, htree, -⟩ := bind_eq_ok.mp h
      obtain ⟨_, hok, -⟩ := onTree_eq_ok.mp htree
      rw [hset] at hok
      nomatch hok
    simp [hno]

/-! ### The whole -/

theorem finish_eq_ok : finish mode case blocked r = .ok v r' ↔
    ∃ r₁ r₂ t, settle mode case blocked r = .ok v r₁ ∧ tearDown case r₁ = .ok () r₂ ∧
      Tree.setResult case v r₂.tree = .ok () t ∧
      (if bailsOut mode v then (r₂.concluding case v t).bailing case
        else r₂.concluding case v t) = r' := by
  unfold finish
  simp only [bind_eq_ok, pure_eq_ok, conclude_eq_ok]
  grind

end Run

end TestEngine
