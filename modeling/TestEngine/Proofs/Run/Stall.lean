/-
TestEngine/Proofs/Run/Stall.lean

Why a case stops.  `Explained` says of an effect that it ends as described or stops for a reason.
Whatever the scripts do, only two kinds of things stop a case while it is finished (`Stalls`):

* an errand stops, that is, a script or a message does not come to its end;
* the body has come to its end, but has left other hooks than those that it was started with, so
  that the guards of the case do not find theirs.

The parts of a case are explained one by one, in the order in which they are put together
(`explained_finish`): all that the scheduler itself does for a case is carried out.
-/
import TestEngine.Proofs.Run.Bracket
import TestEngine.Proofs.Run.Listing

namespace TestEngine

open Engine

/-! ### Explanations -/

section Explained

variable {σ α β : Type} {s : σ} {B B' : Stop → Prop} {Q : α → σ → Prop} {Q' : β → σ → Prop}

/-- An effect ends with a value and in a state as described, or it stops for a reason. -/
def Explained (B : Stop → Prop) (Q : α → σ → Prop) : EStateM.Result Stop σ α → Prop
  | .ok a s => Q a s
  | .error stop _ => B stop

theorem Explained.mono {o : EStateM.Result Stop σ α} {Q₁ : α → σ → Prop} (h : Explained B Q o)
    (hb : ∀ stop, B stop → B' stop) (hq : ∀ a s, Q a s → Q₁ a s) : Explained B' Q₁ o := by
  rcases o with ⟨a, s⟩ | ⟨stop, s⟩
  · exact hq a s h
  · exact hb stop h

theorem explained_bind {x : EStateM Stop σ α} {f : α → EStateM Stop σ β}
    (hx : Explained B Q (x s)) (hf : ∀ a s₁, x s = .ok a s₁ → Q a s₁ → Explained B Q' (f a s₁)) :
    Explained B Q' ((x >>= f) s) := by
  rcases ho : x s with ⟨a, s₁⟩ | ⟨stop, s₁⟩ <;> rw [ho] at hx
  · rw [bind_of_ok ho]
    exact hf a s₁ ho hx
  · rw [bind_of_error ho]
    exact hx

/-- An effect of which only the stops matter. -/
theorem explained_of_error {x : EStateM Stop σ α} (h : ∀ stop s₁, x s = .error stop s₁ → B stop) :
    Explained B (fun _ _ => True) (x s) := by
  rcases ho : x s with ⟨a, s₁⟩ | ⟨stop, s₁⟩
  · exact trivial
  · exact h stop s₁ ho

theorem explained_of_ok {o : EStateM.Result Stop σ α} {a : α} (h : o = .ok a s) (hq : Q a s) :
    Explained B Q o := by
  rw [h]
  exact hq

end Explained

/-! ### Errands that stop -/

/-- The errand is not carried out to its end, and stops like this. -/
def Errand.Stops (e : Engine) (stop : Stop) : Errand → Prop
  | .message event => ∃ e', log perform event e = .error stop e'
  | .unit case k script => ∃ e', runUnit case k script e = .error stop e'
  | .teardown case script => ∃ e', perform script (tearing case e) = .error stop e'

namespace Engine

variable {case : ObjectId} {path : Path} {number unit : Nat} {policies : List Policy}
  {expectations : List Expectation} {body : Body} {B : Stop → Prop} {e : Engine}

/-! ### Reports and bodies -/

theorem report_eq (case : ObjectId) (number : Nat) (path : Path) (v : Verdict) (e : Engine) :
    report case number path v e = .ok () { e with
      journal := .reported case path v :: .printed .report (Tap.result number path v) :: e.journal } :=
  rfl

section Reports

variable {Q : Engine → Prop} (hjournal : ∀ {e} journal, Q e → Q { e with journal := journal })

include hjournal

theorem explained_report (v : Verdict) (h : Q e) :
    Explained B (fun _ => Q) (report case number path v e) :=
  explained_of_ok (report_eq case number path v e) (hjournal _ h)

/-- With tags that are elements of paths, subunits are reported. -/
theorem explained_reportSubunits {tags : List String} (htags : ∀ tag ∈ tags, isElement tag = true)
    (v : Verdict) (h : Q e) :
    Explained B (fun _ => Q) (reportSubunits case path number v tags e) := by
  induction tags generalizing number e with
  | nil => exact h
  | cons tag tags ih =>
    obtain ⟨htag, htags⟩ := List.forall_mem_cons.mp htags
    unfold reportSubunits
    rw [bind_of_ok (subpath_eq_ok.mpr ⟨htag, rfl, rfl⟩), bind_of_ok (report_eq _ _ _ _ _)]
    exact explained_bind (ih htags (hjournal _ h)) fun _ _ _ h => h

theorem explained_reportUnrun {tags : List String} (htags : ∀ tag ∈ tags, isElement tag = true)
    (v : Verdict) (h : Q e) :
    Explained B (fun _ => Q) (reportUnrun case path number tags v e) := by
  unfold reportUnrun
  split
  · exact explained_bind (explained_report hjournal v h) fun _ _ _ h => h
  · exact explained_reportSubunits hjournal htags v h

/-- Apart from its units, nothing stops a complex body. -/
theorem explained_runSubunits {failed : Bool} {units : List (String × Script)}
    (htags : ∀ u ∈ units, isElement u.1 = true) (h : Q e)
    (hunits : failed = false → ∀ k script e₁, Begins case path number unit units e k script e₁ →
      Q e₁ → Explained B (fun _ => Q) (runUnit case k script e₁)) :
    Explained B (fun _ => Q) (runSubunits case path number unit failed units e) := by
  induction units generalizing number unit failed e with
  | nil => exact h
  | cons u units ih =>
    obtain ⟨tag, script⟩ := u
    obtain ⟨htag, htags⟩ := List.forall_mem_cons.mp htags
    rw [runSubunits_cons]
    refine explained_bind (Q := fun _ => Q) ?_ fun v e₁ hrun h₁ => ?_
    · rcases failed with _ | _
      · exact hunits rfl _ _ _ .here h
      · exact h
    · have hpath : subpath path tag e₁ = .ok ⟨path.elements ++ [tag]⟩ e₁ :=
        subpath_eq_ok.mpr ⟨htag, rfl, rfl⟩
      have hreport := report_eq case number ⟨path.elements ++ [tag]⟩ v e₁
      rw [bind_of_ok hpath, bind_of_ok hreport]
      refine explained_bind (ih htags (hjournal _ h₁) fun hpassed k s e₃ hs => ?_) fun _ _ _ h => h
      -- the units after this one are started only if neither it nor one before it has failed
      obtain ⟨rfl, hv⟩ := Bool.or_eq_false_iff.mp hpassed
      exact hunits rfl k s e₃ (.later hrun hv ((bind_of_ok hpath).trans hreport) hs)

theorem explained_runBody (htags : ∀ tag ∈ body.tags, isElement tag = true) (h : Q e)
    (hunits : ∀ k script e₁, Starts case path number body e k script e₁ →
      Q e₁ → Explained B (fun _ => Q) (runUnit case k script e₁)) :
    Explained B (fun _ => Q) (runBody case path number body e) := by
  rcases body with script | units
  · refine explained_bind (hunits _ _ _ .simple h) fun v e₁ _ h₁ => ?_
    exact explained_bind (explained_report hjournal v h₁) fun _ _ _ h => h
  · refine explained_bind (explained_runSubunits hjournal ?_ h ?_) fun _ _ _ h => h
    · exact fun u hu => htags u.1 (List.mem_map_of_mem hu)
    · exact fun _ k script e₁ hs => hunits k script e₁ (.complex hs)

end Reports

/-! ### Guards -/

/-- What guards report. -/
def OfGuard (v : Violation) : Prop := v = .popEmpty ∨ v = .popOutOfOrder

/-- The guard of a hook removes it, or finds that it is not on top, and reports that. -/
theorem dropped_cases {α : Type} (id : HookId) (a : α) (e : Engine) :
    (∃ e₁, dropped id (.ok a e) = .ok a e₁ ∧ e₁.unwinding = e.unwinding ∧
      (e.unwinding = false → ∃ i, i.id = id ∧ e.chain = i :: e₁.chain)) ∨
    (e.unwinding = false ∧ (∀ i older, e.chain = i :: older → i.id ≠ id) ∧
      ∃ v e₁, OfGuard v ∧ dropped id (.ok a e) = .error (.unwound (.violation v)) e₁) := by
  rcases hu : e.unwinding with - | -
  · rcases hc : e.chain with - | ⟨i, older⟩
    · have hrelease : release id e = (violate .popEmpty : Act PUnit) e := by
        unfold release pop
        rw [bind_of_ok (get_eq_ok.mpr ⟨rfl, rfl⟩), if_neg (by rw [hu]; simp),
          bind_of_ok (get_eq_ok.mpr ⟨rfl, rfl⟩)]
        simp only [hc]
      exact .inr ⟨rfl, (fun _ _ h => nomatch h), .popEmpty, _, .inl rfl, bind_of_error hrelease⟩
    · by_cases hid : i.id = id
      · exact .inl ⟨_, dropped_of_newest hu hc hid, hu, fun _ => ⟨i, hid, rfl⟩⟩
      · obtain ⟨e₁, herror, -⟩ := dropped_of_covered (a := a) hu hc hid
        refine .inr ⟨rfl, ?_, .popOutOfOrder, e₁, .inr rfl, herror⟩
        rintro j others h
        cases h
        exact hid
  · have hrelease : release id e = .ok ⟨⟩ (discard id e) := by
      unfold release
      rw [bind_of_ok (get_eq_ok.mpr ⟨rfl, rfl⟩), if_pos hu]
      rfl
    exact .inl ⟨discard id e, bind_of_ok hrelease, hu, fun hcalm => nomatch hcalm⟩

theorem dropped_error (α : Type) (id : HookId) (stop : Stop) (e : Engine) :
    ∃ e₁, dropped id (.error stop e : EStateM.Result Stop Engine α) = .error stop e₁ := by
  rcases stop with _ | _ | _ | _ <;> exact ⟨_, rfl⟩

/-- A body comes to its end with other hooks in the chain than it was started with. -/
def Disturbs (case : ObjectId) (path : Path) (number : Nat) (policies : List Policy)
    (expectations : List Expectation) (body : Body) (e : Engine) : Prop :=
  ∃ outcome e₁, runBody case path number body (bracketing case policies expectations e) =
    .ok outcome e₁ ∧ e₁.chain ≠ (bracketing case policies expectations e).chain

/-- Guards report nothing unless the body has left something or has taken something away. -/
theorem explained_bracket
    (hbody : Explained B (fun _ _ => True)
      (runBody case path number body (bracketing case policies expectations e)))
    (hdisturbs : Disturbs case path number policies expectations body e →
      ∀ v, OfGuard v → B (.unwound (.violation v))) :
    Explained B (fun _ _ => True) (bracket case path number policies expectations body e) := by
  rw [bracket_eq]
  rcases hrun : runBody case path number body (bracketing case policies expectations e) with
    ⟨outcome, e₁⟩ | ⟨stop, e₁⟩ <;> rw [hrun] at hbody
  · -- the guard of the expectations ends first, and then that of the policies
    rcases dropped_cases (e.nextHook + 1) outcome e₁ with
      ⟨e₂, hinner, hsame, hnewest⟩ | ⟨-, hcovered, v, e₂, hv, hinner⟩
    · rw [hinner]
      rcases dropped_cases e.nextHook outcome e₂ with
        ⟨e₃, houter, -⟩ | ⟨hcalm, hcovered, v, e₃, hv, houter⟩
      · exact explained_of_ok houter trivial
      · rw [houter]
        refine hdisturbs ⟨outcome, e₁, hrun, fun hchain => ?_⟩ v hv
        obtain ⟨i, -, hi⟩ := hnewest (hsame ▸ hcalm)
        obtain ⟨-, hrest⟩ := List.cons.inj (hi.symm.trans hchain)
        exact hcovered _ _ hrest rfl
    · obtain ⟨e₃, houter⟩ := dropped_error (Verdict × List Line) e.nextHook
        (.unwound (.violation v)) e₂
      rw [hinner, houter]
      exact hdisturbs ⟨outcome, e₁, hrun, fun hchain => hcovered _ _ hchain rfl⟩ v hv
  · obtain ⟨e₂, hinner⟩ := dropped_error (Verdict × List Line) (e.nextHook + 1) stop e₁
    obtain ⟨e₃, houter⟩ := dropped_error (Verdict × List Line) e.nextHook stop e₂
    rw [hinner, houter]
    exact hbody

/-! ### Cases that run -/

/-- While a case is run, this stops it: an errand, or what its body has left. -/
inductive Stalls (case : ObjectId) (path : Path) (number : Nat) (policies : List Policy)
    (expectations : List Expectation) (body : Body) (e : Engine) : Stop → Prop
  | errand {x : Errand} {e₁ : Engine} {stop : Stop}
      (hdue : Due case path number policies expectations body e x e₁) (hstop : x.Stops e₁ stop) :
      Stalls case path number policies expectations body e stop
  | guard {e₁ : Engine} {v : Violation} (hopen : log perform (opening path) e = .ok () e₁)
      (hdisturbs : Disturbs case path number policies expectations body e₁) (hv : OfGuard v) :
      Stalls case path number policies expectations body e (.unwound (.violation v))

theorem explained_runCase (htags : ∀ tag ∈ body.tags, isElement tag = true) :
    Explained (Stalls case path number policies expectations body e) (fun _ _ => True)
      (runCase case path number policies expectations body e) := by
  have herrand : ∀ {x e₁}, Due case path number policies expectations body e x e₁ →
      ∀ stop, x.Stops e₁ stop → Stalls case path number policies expectations body e stop :=
    fun hdue _ hstop => .errand hdue hstop
  rw [runCase_eq]
  refine explained_bind (Q := fun _ _ => True) ?_ fun _ e₁ hopen _ => ?_
  · exact explained_of_error fun stop e₁ herror => herrand .opening stop ⟨e₁, herror⟩
  · refine explained_bind (explained_bracket ?_ ?_) fun outcome e₂ hrun _ => ?_
    · refine explained_runBody (Q := fun _ => True) (fun _ h => h) htags trivial ?_
      exact fun k script e₂ hs _ => explained_of_error fun stop e₃ herror =>
        herrand (.unit hopen hs) stop ⟨e₃, herror⟩
    · exact fun hdisturbs v hv => .guard hopen hdisturbs hv
    · refine explained_bind (Q := fun _ _ => True) ?_ fun _ _ _ _ => trivial
      exact explained_of_error fun stop e₃ herror => herrand (.closing hopen hrun) stop ⟨e₃, herror⟩

end Engine

namespace Run

variable {mode : Mode} {case : ObjectId} {blocked : Option Verdict} {data : CaseData} {v : Verdict}
  {α : Type} {B : Stop → Prop} {r r₁ r₂ : Run}

theorem explained_onEngine {act : Engine.Act α}
    (h : Explained B (fun _ _ => True) (act r.engine)) :
    Explained B (fun _ _ => True) (onEngine act r) := by
  unfold onEngine
  rcases ho : act r.engine with ⟨a, e⟩ | ⟨stop, e⟩ <;> rw [ho] at h <;> exact h

/-! ### Cases -/

/-- While a case is finished, this stops it: an errand, or what its body has left. -/
inductive Stalls (mode : Mode) (case : ObjectId) : Option Verdict → Run → Stop → Prop
  | errand {blocked : Option Verdict} {r : Run} {x : Errand} {e : Engine} {stop : Stop}
      (hdue : Due mode case blocked r x e) (hstop : x.Stops e stop) :
      Stalls mode case blocked r stop
  | guard {data : CaseData} {body : Body} {r : Run} {e : Engine} {v : Violation}
      (hselected : mode.excluded (r.tree.path case) = false)
      (hcase : r.tree.case? case = some data) (hbody : data.body = some body)
      (hopen : log perform (opening (r.tree.path case)) r.engine = .ok () e)
      (hdisturbs : Disturbs case (r.tree.path case) (r.reported + 1)
        (r.tree.inheritedPolicies case) data.expectations body e) (hv : OfGuard v) :
      Stalls mode case none r (.unwound (.violation v))

theorem explained_settle (hcase : r.tree.case? case = some data) (hunrun : data.Unrun) :
    Explained (Stalls mode case blocked r) (fun _ _ => True) (settle mode case blocked r) := by
  have htags : ∀ tag ∈ r.tree.tags case, isElement tag = true := by
    rw [Tree.tags, hcase]
    exact hunrun.isElement
  have hreported : ∀ {v}, Withheld mode (r.tree.path case) blocked v →
      Explained (Stalls mode case blocked r) (fun _ _ => True) (settle mode case blocked r) := by
    intro v hwithheld
    rw [settle_of_withheld hwithheld]
    refine explained_bind (explained_onEngine ?_) fun _ _ _ _ => trivial
    exact explained_reportUnrun (Q := fun _ => True) (fun _ h => h) htags v trivial
  rcases blocked with - | v
  · rcases hmode : mode.excluded (r.tree.path case) with - | -
    · obtain ⟨body, hbody, hfits, -⟩ := hunrun.body
      rw [settle_of_selected hcase hbody hmode]
      refine explained_bind (explained_onEngine ?_) fun _ _ _ _ => trivial
      refine (Engine.explained_runCase (hfits ▸ hunrun.isElement)).mono ?_ fun _ _ => id
      rintro stop (⟨hdue, hstop⟩ | ⟨hopen, hdisturbs, hv⟩)
      · exact .errand (.body hmode hcase hbody hdue) hstop
      · exact .guard hmode hcase hbody hopen hdisturbs hv
    · exact hreported (.excluded hmode)
  · exact hreported .blocked

/-! ### Cleaning up -/

theorem explained_tearDown (hcase : r.tree.case? case = some data)
    (hteardown : ∀ script, data.teardown = some script →
      ∀ stop, (Errand.teardown case script).Stops r.engine stop → B stop) :
    Explained B (fun _ _ => True) (tearDown case r) := by
  rw [tearDown_eq hcase]
  refine explained_onEngine ?_
  rcases hscript : data.teardown with - | script
  · exact trivial
  · exact explained_of_error fun stop e herror => hteardown script hscript stop ⟨e, herror⟩

/-- Whatever a case and its teardown have done, there is no result yet. -/
theorem setResult_of_tearDown (hnone : r.tree.result? case = none)
    (hsettle : settle mode case blocked r = .ok v r₁) (htear : tearDown case r₁ = .ok () r₂)
    (w : Verdict) : ∃ t, Tree.setResult case w r₂.tree = .ok () t := by
  obtain ⟨number, lines, hooks, htreated⟩ := treated_of_settle hsettle
  obtain ⟨cleanup, hclean⟩ := cleanedUp_of_tearDown htear
  have hnone₂ : r₂.tree.result? case = none := by
    rw [hclean.result, (htreated none none).result]
    exact hnone
  obtain ⟨data₁, hcase₁, -⟩ := hclean.teardown
  obtain ⟨data₂, hcase₂⟩ : ∃ data₂, r₂.tree.case? case = some data₂ := by
    refine Option.isSome_iff_exists.mp ?_
    rw [Tree.isSome_case?_eq_of_static hclean.rework.static, hcase₁]
    rfl
  rw [Tree.result?_of_case? hcase₂] at hnone₂
  exact ⟨_, Tree.setResult_eq_ok.mpr ⟨data₂, hcase₂, hnone₂, rfl⟩⟩

/-- What the scheduler itself does for a case is done. -/
theorem explained_finish (hcase : r.tree.case? case = some data) (hunrun : data.Unrun) :
    Explained (Stalls mode case blocked r) (fun _ _ => True) (finish mode case blocked r) := by
  have hnone : r.tree.result? case = none := (Tree.result?_of_case? hcase).trans hunrun.result
  refine explained_bind (explained_settle hcase hunrun) fun v r₁ hsettle _ => ?_
  obtain ⟨data₁, hcase₁, -⟩ := (teardown_of_settle hsettle).mpr ⟨data, hcase, rfl⟩
  refine explained_bind (Q := fun _ _ => True) ?_ fun _ r₂ htear _ => ?_
  · exact explained_tearDown hcase₁ fun script hscript stop =>
      .errand (.teardown hsettle hcase₁ hscript)
  · obtain ⟨t, hset⟩ := setResult_of_tearDown hnone hsettle htear v
    refine explained_bind (Q := fun _ _ => True) ?_ fun _ _ _ _ => trivial
    exact explained_of_ok ((conclude_eq_ok (u := ())).mpr ⟨t, hset, rfl⟩) trivial

end Run

end TestEngine
