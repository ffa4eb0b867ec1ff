/-
TestEngine/Proofs/Run/Behaved.lean

Errands that behave.  An errand of a run behaves if it is carried out and leaves the hooks as it
has found them: messages and teardowns return, and units return or unwind, but not with a
violation.  If all errands that are due while a case is finished behave, nothing stalls the case
(`not_stalls_of_behaves`).
-/
import TestEngine.Proofs.Engine.Extent
import TestEngine.Proofs.Run.Stall

namespace TestEngine

open Engine

/-- The errand is carried out, and leaves the hooks as they are. -/
def Errand.Behaves (e : Engine) : Errand → Prop
  | .message event => ∃ e', log perform event e = .ok () e' ∧ e'.chain = e.chain
  | .unit case k script => ∃ e', e'.chain = e.chain ∧
      (perform script (begun case k e) = .ok () e' ∨
        ∃ payload, (∀ v, payload ≠ .violation v) ∧
          perform script (begun case k e) = .error (.unwound payload) e')
  | .teardown case script => ∃ e', perform script (tearing case e) = .ok () e' ∧ e'.chain = e.chain

namespace Engine

variable {case : ObjectId} {path : Path} {number unit : Nat} {policies : List Policy}
  {expectations : List Expectation} {body : Body} {script : Script} {stop : Stop} {e : Engine}

theorem exists_verdictOn (recorded : Option Verdict) {payload : Payload}
    (h : ∀ v, payload ≠ .violation v) : ∃ w, verdictOn recorded payload = some w := by
  rcases payload with _ | s | _ | v
  · exact ⟨_, rfl⟩
  · exact ⟨_, rfl⟩
  · exact ⟨_, rfl⟩
  · exact absurd rfl (h v)

/-- A unit that behaves leaves the hooks as they are, and no test running. -/
theorem explained_runUnit (hidle : e.context = none)
    (h : (Errand.unit case unit script).Behaves e) :
    Explained (fun _ => False) (fun _ e' => e'.chain = e.chain ∧ e'.context = none)
      (runUnit case unit script e) := by
  obtain ⟨e', hchain, hok | ⟨payload, hpayload, hunwound⟩⟩ := h
  · have hrun : runUnit case unit script e = .ok (e'.pending.getD .pass) e'.leave := by
      rw [runUnit_of_idle hidle, hok]
      rfl
    exact explained_of_ok hrun ⟨hchain, rfl⟩
  · obtain ⟨w, hw⟩ := exists_verdictOn e'.pending hpayload
    have hrun : runUnit case unit script e = .ok w e'.leave := by
      rw [runUnit_of_idle hidle, hunwound]
      simp only [concluded, hw]
    exact explained_of_ok hrun ⟨hchain, rfl⟩

theorem not_stops_of_behaves {x : Errand} (hidle : e.context = none) (h : x.Behaves e) :
    ¬ x.Stops e stop := by
  rintro hstop
  rcases x with event | ⟨case, k, script⟩ | ⟨case, script⟩
  · obtain ⟨e₁, hok, -⟩ := h
    obtain ⟨e₂, herror⟩ := hstop
    nomatch hok.symm.trans herror
  · obtain ⟨e₂, herror⟩ := hstop
    have hreturns := explained_runUnit hidle h
    rwa [herror] at hreturns
  · obtain ⟨e₁, hok, -⟩ := h
    obtain ⟨e₂, herror⟩ := hstop
    nomatch hok.symm.trans herror

/-- If its units behave, a body leaves the hooks as they are. -/
theorem not_disturbs_of_behaves (hidle : e.context = none)
    (htags : ∀ tag ∈ body.tags, isElement tag = true)
    (h : ∀ k script e₁,
      Starts case path number body (bracketing case policies expectations e) k script e₁ →
        (Errand.unit case k script).Behaves e₁) :
    ¬ Disturbs case path number policies expectations body e := by
  rintro ⟨outcome, e₁, hrun, hchanged⟩
  let e₀ := bracketing case policies expectations e
  have hkept : Explained (fun _ => False)
      (fun _ (e₁ : Engine) => e₁.chain = e₀.chain ∧ e₁.context = none)
      (runBody case path number body e₀) := by
    refine explained_runBody (fun _ h => h) htags ⟨rfl, hidle⟩ fun k script e₁ hs hq => ?_
    refine (explained_runUnit hq.2 (h k script e₁ hs)).mono (fun _ => id) fun _ _ hq' => ?_
    exact ⟨hq'.1.trans hq.1, hq'.2⟩
  rw [hrun] at hkept
  exact hchanged hkept.1

end Engine

namespace Run

variable {mode : Mode} {case : ObjectId} {blocked : Option Verdict} {data : CaseData} {stop : Stop}
  {r : Run}

/-- If no test is running and all its errands behave, nothing stalls a case that has not run. -/
theorem not_stalls_of_behaves (hidle : r.engine.context = none)
    (hcase : r.tree.case? case = some data) (hunrun : data.Unrun)
    (h : ∀ x e, Due mode case blocked r x e → x.Behaves e) : ¬ Stalls mode case blocked r stop := by
  have hidle' : ∀ {e : Engine}, e.isActive = r.engine.isActive → e.context = none := fun hsame =>
    idle_of_isActive hsame hidle
  rintro (⟨hdue, hstop⟩ | ⟨hselected, hcase', hbody, hopen, hdisturbs, -⟩)
  · have hactive := hdue.relates (respected_isActive _ fun _ => True) fun _ => trivial
    exact not_stops_of_behaves (hidle' hactive) (h _ _ hdue) hstop
  · cases hcase.symm.trans hcase'
    obtain ⟨body, hbody', hfits, -⟩ := hunrun.body
    cases hbody'.symm.trans hbody
    refine not_disturbs_of_behaves (hidle' (advances_log hopen).active)
      (hfits ▸ hunrun.isElement) (fun k script e₁ hs => ?_) hdisturbs
    exact h _ _ (.body hselected hcase hbody (.unit hopen hs))

end Run

end TestEngine
