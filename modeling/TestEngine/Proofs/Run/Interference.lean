/-
TestEngine/Proofs/Run/Interference.lean

Cases do not interfere.  Two runs start in the same state, with trees that differ in one case only.
Without fail-fast they finish the same cases in the same order, and each case finds the engine at
rest and without hooks, whatever those before it have done (`Between`).  What it makes of that
depends on its data and on what it reads, and on the results of the cases that it waits for.  So a
case that does not wait for the one that differs reports the same lines in both runs
(`linesOf_of_runs`), if no case reads what another one writes, and if the teardowns leave the hooks
as they find them.

The console is a case of its own, since its settings last from one case to the next.  A case may
change them and others may ask for them, as long as the one that differs, and those that wait for
it, do not change what others ask for (`Unobtrusive`).

Nothing has to be asked of the bodies' hooks: a run in which a body leaves a hook does not return,
and a hook that a body pushes and pops again, by its local name, is of no concern to other cases.
-/
import TestEngine.Proofs.Run.Series

namespace TestEngine

open Relation

/-- No case makes use of what another one changes, be it a counter or the hooks that have been pushed
for all to name. -/
def Tree.Separate (t : Tree) : Prop :=
  ∀ c d, c ≠ d → ∀ x, x ≠ .console → t.CaseWrites c x → ¬ t.CaseReads d x

/-! ### Hooks between cases -/

namespace Engine

variable {mode : Mode} {t : Tree} {case : ObjectId} {path : Path} {number : Nat} {data : CaseData}
  {policies : List Policy} {expectations : List Expectation} {body : Body}
  {blocked : Option Verdict} {outcome : Verdict × List Line} {e e' : Engine}

/-- Where there are no hooks, a message that is not fatal brings none. -/
theorem chain_of_log {event : LogEvent} {u : Unit} (hchain : e.chain = [])
    (hfatal : event.diagnostic.fatal = false) (h : log perform event e = .ok u e') :
    e'.chain = [] := by
  unfold log at h
  rw [get_bind_eq_ok] at h
  split at h
  · have hnone : askAll perform event.diagnostic e.chain e = .ok .proceed e := by
      rw [hchain]
      rfl
    rw [dispatch_of_unanswered hnone] at h
    obtain ⟨answer, e₁, hanswer, h⟩ := bind_eq_ok.mp h
    have hignored : answer = .ignore ∧ e₁.chain = e.chain := by
      unfold defaultAnswer at hanswer
      simp only [get_bind_eq_ok, hfatal, Bool.false_eq_true, if_false] at hanswer
      split at hanswer
      · cases hanswer
        exact ⟨rfl, rfl⟩
      · cases hanswer
        exact ⟨rfl, rfl⟩
    obtain ⟨rfl, hsame⟩ := hignored
    cases h
    exact hsame.trans hchain
  · cases h
    exact hchain

/-- The guards of a case restore the chain, if they let it pass. -/
theorem chain_of_bracket (hnumbered : e.Numbered) (hcalm : e.unwinding = false)
    (h : bracket case path number policies expectations body e = .ok outcome e') :
    e'.chain = e.chain := by
  have hscripts : ∀ s ∈ body.scripts, Script.Within (fun _ => True) s := fun s _ => s.within_all
  rw [bracket_eq] at h
  rcases hbody : runBody case path number body (bracketing case policies expectations e) with
    ⟨a, e₁⟩ | ⟨stop, e₁⟩
  · have hatop : Atop ⟨e.nextHook + 1, .expecting expectations⟩ (policed policies e) e₁ := by
      have hR := respected_atop (fun _ => True) (fun _ => True)
        (i := ⟨e.nextHook + 1, .expecting expectations⟩) (hnumbered.lt_of_mem_policed policies)
      exact (keeps_runBody hR (fun _ => trivial) case path number hscripts).of_ended
        (.inl ⟨a, hbody⟩) (hnumbered.atop_bracketing _ _ _)
    have hcalm₁ : e₁.unwinding = false := by
      have hR := respected_restored (fun _ => True) fun _ => True
      exact ((keeps_runBody hR (fun _ => trivial) case path number hscripts).of_ended
        (.inl ⟨a, hbody⟩)).2.trans hcalm
    obtain ⟨newer, hchain, hnewer⟩ := hatop.chain
    rcases newer with - | ⟨j, newer⟩
    · have hinner : dropped (e.nextHook + 1) (.ok a e₁) =
          .ok a { e₁ with chain := policed policies e } := dropped_of_newest hcalm₁ hchain rfl
      have houter : dropped e.nextHook (.ok a { e₁ with chain := policed policies e }) =
          .ok a { e₁ with chain := e.chain } := dropped_of_newest hcalm₁ rfl rfl
      rw [hbody, hinner, houter] at h
      cases h
      rfl
    · -- what the body has left is found by the guard of the expectations
      have hcovered : j.id ≠ e.nextHook + 1 := Nat.ne_of_gt (hnewer j (List.mem_cons_self ..))
      obtain ⟨e₂, hinner, -⟩ := dropped_of_covered (a := a) hcalm₁ hchain hcovered
      rw [hbody, hinner] at h
      nomatch h
  · rw [hbody] at h
    rcases stop with _ | _ | _ | _ <;> nomatch h

theorem chain_of_runCase (hrest : AtRest e) (hchain : e.chain = [])
    (h : runCase case path number policies expectations body e = .ok outcome e') :
    e'.chain = [] := by
  rw [runCase_eq] at h
  obtain ⟨_, e₁, hopen, h⟩ := bind_eq_ok.mp h
  obtain ⟨_, e₂, hbracket, h⟩ := bind_eq_ok.mp h
  obtain ⟨_, e₃, hclose, h⟩ := bind_eq_ok.mp h
  obtain ⟨-, rfl⟩ := pure_eq_ok.mp h
  have hopened : AtRest e₁ := hrest.of_respected fun hR =>
    (keeps_event hR (fun _ => trivial) _).of_ended (.inl ⟨_, hopen⟩)
  have hchain₁ := chain_of_log hchain rfl hopen
  have hchain₂ := chain_of_bracket hopened.numbered hopened.calm hbracket
  exact chain_of_log (hchain₂.trans hchain₁) rfl hclose

end Engine

namespace Run

open Engine

variable {mode : Mode} {t t' : Tree} {a c case root : ObjectId} {data : CaseData} {number : Nat}
  {blocked : Option Verdict} {v : Verdict} {lines : List Line} {r r' r₁ r₁' : Run}
  {e e' : Engine} {order done : List ObjectId}

theorem chain_of_settling (hrest : AtRest e) (hchain : e.chain = [])
    (htags : ∀ tag ∈ t.tags case, isElement tag = true)
    (h : settling mode t case data number blocked e = .ok (v, lines) e') : e'.chain = [] := by
  have hreporting : ∀ w, reporting t case number w e = .ok (v, lines) e' → e'.chain = [] := by
    intro w h
    obtain ⟨_, e₁, hok, h⟩ := bind_eq_ok.mp h
    obtain ⟨-, rfl⟩ := pure_eq_ok.mp h
    have hkept : Explained (fun _ => False) (fun _ (e₁ : Engine) => e₁.chain = [])
        (reportUnrun case (t.path case) number (t.tags case) w e) :=
      explained_reportUnrun (fun _ h => h) htags w hchain
    rwa [hok] at hkept
  rcases blocked with - | w
  · rcases hselected : mode.excluded (t.path case) with - | -
    · simp only [settling, hselected, Bool.false_eq_true, if_false] at h
      rcases hbody : data.body with - | body <;> rw [hbody] at h
      · exact absurd h Engine.violate_eq_ok
      · exact chain_of_runCase hrest hchain h
    · simp only [settling, hselected, if_true] at h
      exact hreporting _ h
  · exact hreporting w h

/-- A case is finished without hooks, if its teardown leaves none. -/
theorem chain_of_finish (hrest : AtRest r.engine) (hchain : r.engine.chain = [])
    (htags : ∀ tag ∈ r.tree.tags case, isElement tag = true)
    (htidy : ∀ script e, Due mode case blocked r (.teardown case script) e →
      (Errand.teardown case script).Behaves e)
    (h : finish mode case blocked r = .ok v r₁) : r₁.engine.chain = [] := by
  obtain ⟨data, lines, e, hcase, -, hhandle, rfl⟩ := finish_iff_handle.mp h
  obtain ⟨e₁, e₂, hsettling, hcleaning, rfl⟩ := handle_eq_ok.mp hhandle
  have hchain₁ : e₁.chain = [] := chain_of_settling hrest hchain htags hsettling
  have hchain₂ : e₂.chain = [] := by
    rcases hteardown : data.teardown with - | script
    · rw [hteardown] at hcleaning
      obtain ⟨-, rfl⟩ := pure_eq_ok.mp hcleaning
      exact hchain₁
    · have hsettle := (settle_eq_ok hcase).mpr ⟨lines, e₁, hsettling, rfl⟩
      have hsettled := settled_of_spent mode blocked hcase lines e₁
      obtain ⟨c, hc, hsame⟩ := hsettled.case?
      have hdue := Due.teardown hsettle hc (hsame.trans hteardown)
      obtain ⟨e₃, hperform, hkept⟩ := htidy script _ hdue
      rw [hteardown] at hcleaning
      cases hperform.symm.trans (show perform script (tearing case e₁) = .ok () e₂ from hcleaning)
      exact hkept.trans hchain₁
  show (ending mode r.tree case v e₂).chain = []
  unfold ending
  split
  · exact hchain₂
  · exact hchain₂

/-! ### One run -/

/-- A run of the tree from the state `e` of the engine is between two cases, when those of `done`
have been finished: the engine is at rest and without hooks, and nothing has changed but what
belongs to these cases. -/
structure Between (t : Tree) (e : Engine) (done : List ObjectId) (r : Run) : Prop where
  static : r.tree.static = t.static
  pending : ∀ c, c ∉ done → r.tree.case? c = t.case? c
  rest : AtRest r.engine
  chain : r.engine.chain = []
  flags : r.engine.flags = e.flags
  steady : Steady e r.engine
  subscriber : r.engine.subscriber = .chain
  untouched : ∀ x, (∀ d ∈ done, ¬ t.CaseWrites d x) → x.Same e r.engine

/-- Finishing a case changes nothing but what belongs to the case. -/
theorem Between.same_of_finish {x : Resource} (h : Between t e done r) (hnew : c ∉ done)
    (hx : ¬ t.CaseWrites c x) (hfinish : finish mode c blocked r = .ok v r₁) :
    x.Same r.engine r₁.engine := by
  have hkin := Pairing.kin_itself (r.tree.CaseWrites c) h.rest
    fun _ ⟨i, hi, _⟩ => absurd hi (by simp [h.chain])
  obtain ⟨_, e, _, rfl, -, hends⟩ := finish_of_kin rfl rfl rfl rfl
    (fun data hdata => Pairing.permits_itself fun _ hw => ⟨data, hdata, hw⟩) (fun _ => rfl) hkin
    hfinish
  refine (hends.untouched x ?_).1
  rintro ⟨data, hdata, hw⟩
  exact hx ⟨data, h.pending _ hnew ▸ hdata, hw⟩

theorem Between.step (ht : t.Sound) (h : Between t e done r) (hnew : c ∉ done)
    (htidy : ∀ script e, Due mode c blocked r (.teardown c script) e →
      (Errand.teardown c script).Behaves e)
    (hfinish : finish mode c blocked r = .ok v r₁) : Between t e (done ++ [c]) r₁ := by
  obtain ⟨s, rfl, -, hs⟩ := concluded_of_finish hfinish
  have hall : ∀ {R : Engine → Engine → Prop}, Respected (fun _ => True) (fun _ => True) R →
      R r.engine r₁.engine := fun hR =>
    (keeps_finish hR (fun _ => trivial) mode s.case blocked).of_ok hfinish
  have hsteady : Steady r.engine r₁.engine := hall (respected_steady _ _)
  have htags : ∀ tag ∈ r.tree.tags s.case, isElement tag = true := by
    obtain ⟨data, hdata, -⟩ := hs.cleanup
    rw [Tree.tags, hdata]
    exact (ht.unrun (h.pending _ hnew ▸ hdata)).isElement
  refine
    { static := hs.rework.static.trans h.static
      pending := fun c hc => ?_
      rest := h.rest.of_respected hall
      chain := chain_of_finish h.rest h.chain htags htidy hfinish
      flags := (hall (respected_flags _ _)).trans h.flags
      steady := (respected_steady (fun _ => True) fun _ => True).trans h.steady hsteady
      subscriber := hsteady.subscriber h.subscriber
      untouched := fun x hx => ?_ }
  · rw [List.mem_append, List.mem_singleton, not_or] at hc
    exact (hs.rework.others hc.2).trans (h.pending c hc.1)
  · refine (h.untouched x fun d hd => hx d (List.mem_append_left _ hd)).trans ?_
    exact h.same_of_finish hnew (hx s.case (by simp)) hfinish

/-- The cases are finished in this order, and their teardowns leave the hooks as they find them. -/
def Tidy (mode : Mode) (r : Run) (order : List ObjectId) : Prop :=
  ∀ before c after, order = before ++ c :: after → ∀ r₁, Course mode r before r₁ →
    ∀ script e, Due mode c (blockadeOf r₁.tree c) r₁ (.teardown c script) e →
      (Errand.teardown c script).Behaves e

theorem Tidy.head (h : Tidy mode r (c :: order)) (ids : List ObjectId) {script : Script}
    (hdue : Due mode c (blockadeOf r.tree c) { r with resolving := ids } (.teardown c script) e) :
    (Errand.teardown c script).Behaves e :=
  h [] c order rfl _ (.idle r ids) script e hdue

/-! ### Two runs -/

/-- The case is not `a`, and does not wait for `a`, be it through others. -/
def Apart (t : Tree) (a c : ObjectId) : Prop := c ≠ a ∧ ¬ TransGen t.Awaits c a

theorem Apart.of_awaits {p : ObjectId} (h : Apart t a c) (hp : t.Awaits c p) : Apart t a p := by
  refine ⟨?_, fun hwaits => h.2 (.head hp hwaits)⟩
  rintro rfl
  exact h.2 (.single hp)

/-- A case that does not wait for `a` asks for the settings of the console. -/
def Watched (t : Tree) (a : ObjectId) : Prop := ∃ c, Apart t a c ∧ t.CaseReads c .console

/-- Where there is such a case, these settings are left alone by `a`, in both trees, and by the cases
that wait for `a`. -/
def Unobtrusive (t t' : Tree) (a : ObjectId) : Prop :=
  Watched t a → ∀ d, ¬ Apart t a d → ¬ t.CaseWrites d .console ∧ ¬ t'.CaseWrites d .console

/-- Two runs from the state `e` of the engine, of trees that differ in the case `a`, are between the
same cases, and the results are the same as far as `a` does not matter.  So is the console, if it
matters. -/
structure Beside (t t' : Tree) (a : ObjectId) (e : Engine) (done : List ObjectId) (r r' : Run) :
    Prop where
  first : Between t e done r
  second : Between t' e done r'
  results : ∀ c, Apart t a c → r'.tree.result? c = r.tree.result? c
  console : Watched t a → r'.engine.console = r.engine.console

theorem Between.resume (h : Between t e done r) (ids : List ObjectId) :
    Between t e done { r with resolving := ids } :=
  ⟨h.static, h.pending, h.rest, h.chain, h.flags, h.steady, h.subscriber, h.untouched⟩

theorem settles_of_step {ids : List ObjectId} (hgoes : r.isOver = false)
    (hdecided : ∀ d ∈ r.tree.dependencies c, r.tree.Decided d ∧ r.tree.Sibling c d)
    (hfinish : finish mode c (blockadeOf r.tree c) { r with resolving := ids } = .ok v r₁) :
    ∃ s, s.case = c ∧ s.verdict = v ∧ Settles mode s { r with resolving := ids } r₁ := by
  obtain ⟨s, rfl, rfl, hs⟩ := concluded_of_finish hfinish
  exact ⟨s, rfl, rfl, hgoes, fun d hd => (hdecided d hd).1, fun d hd => (hdecided d hd).2, hs⟩

theorem results_finished (mode : Mode) (case : ObjectId) (v : Verdict) (lines : List Line)
    (e : Engine) (r : Run) :
    (r.finished mode case v lines e).summary.results = r.summary.results ++ lines := by
  unfold finished
  dsimp only
  split <;> exact Summary.results_addAll _ _

section Copies

variable (ht : t.Sound) (ht' : t'.Sound) (hcopy : t.Reworks a t') (hseparate : t.Separate)
  (hseparate' : t'.Separate) (hshow : Unobtrusive t t' a)

include hcopy in
theorem Beside.static (h : Beside t t' a e done r r') : r'.tree.static = r.tree.static :=
  h.second.static.trans (hcopy.static.trans h.first.static.symm)

include ht hcopy in
/-- A case that does not wait for `a` is blocked in both runs, or in none. -/
theorem Beside.blockadeOf_eq (h : Beside t t' a e done r r') (hc : Apart t a c)
    (hsiblings : ∀ d ∈ r.tree.dependencies c, r.tree.Sibling c d) :
    blockadeOf r'.tree c = blockadeOf r.tree c := by
  refine blockadeOf_congr (h.static hcopy) fun d hd l hl => h.results l (hc.of_awaits ⟨d, ?_, ?_⟩)
  · rwa [Tree.dependencies_eq_of_static h.first.static] at hd
  · have hname : (t.name? d).isSome = true := by
      rw [← Tree.name?_eq_of_static h.first.static]
      exact (hsiblings d hd).1
    rw [← Tree.awaited_eq_leaves ht.forest hname]
    unfold Tree.awaited at hl ⊢
    rwa [Tree.kind?_eq_of_static h.first.static, Tree.leaves_eq_of_static h.first.static] at hl

include hcopy hseparate hseparate' in
/-- A case that does not wait for `a` is finished in the same way in both runs. -/
theorem Beside.lines_eq {v' : Verdict} (h : Beside t t' a e done r r') (hc : Apart t a c)
    (hnew : c ∉ done) (hfinish : finish mode c blocked r = .ok v r₁)
    (hfinish' : finish mode c blocked r' = .ok v' r₁') : v' = v ∧
      (∃ lines, r₁.summary.results = r.summary.results ++ lines ∧
        r₁'.summary.results = r'.summary.results ++ lines) ∧
      (Watched t a → r₁'.engine.console = r₁.engine.console) := by
  have hcase : r'.tree.case? c = r.tree.case? c := by
    rw [h.first.pending c hnew, h.second.pending c hnew, hcopy.others hc.1]
  let k : Pairing :=
    { start := r.engine
      start' := r'.engine
      reads := fun x => t.CaseReads c x ∨ x = .console ∧ Watched t a
      writes := fun _ => True
      sees := fun _ => false }
  have hsame : ∀ x, k.reads x → x.Same r.engine r'.engine := by
    intro x hx
    by_cases hset : x = .console
    · -- the console is the same if this case asks for it, or another one that is apart from `a`
      subst hset
      exact h.console (hx.elim (fun hreads => ⟨c, hc, hreads⟩) And.right)
    · obtain ⟨data, hdata, hx⟩ := hx.resolve_right fun h => hset h.1
      have hother : ∀ d ∈ done, d ≠ c := fun d hd hdc => hnew (hdc ▸ hd)
      have hfirst := h.first.untouched x fun d hd hw =>
        hseparate d c (hother d hd) x hset hw ⟨data, hdata, hx⟩
      have hsecond := h.second.untouched x fun d hd hw =>
        hseparate' d c (hother d hd) x hset hw ⟨data, (hcopy.others hc.1).trans hdata, hx⟩
      exact hfirst.symm.trans hsecond
  have hkin : k.Kin r.engine r'.engine :=
    Pairing.kin_start h.first.rest h.second.rest (h.second.chain.trans h.first.chain.symm)
      (fun i hi => absurd hi (by simp [k, h.first.chain])) (fun hsees => nomatch hsees)
      ⟨h.second.steady.debug.trans h.first.steady.debug.symm,
        h.second.subscriber.trans h.first.subscriber.symm,
        h.second.steady.thread.trans h.first.steady.thread.symm⟩ hsame
  have hpermits : ∀ data, r.tree.case? c = some data → k.Permits data := fun data hdata =>
    Pairing.permits_of_uses (h.second.flags.trans h.first.flags.symm)
      (fun x hx => .inl ⟨data, h.first.pending c hnew ▸ hdata, hx⟩) fun _ _ => trivial
  obtain ⟨lines, e₁, e₁', rfl, hok, hends⟩ := finish_of_kin (k := k) rfl rfl (h.static hcopy) hcase
    hpermits (fun hsees => nomatch hsees) hkin hfinish
  cases hok.symm.trans hfinish'
  exact ⟨rfl, ⟨lines, results_finished .., results_finished ..⟩,
    fun hwatched => hends.settings (.inr ⟨rfl, hwatched⟩)⟩

/-- The same case has been settled in both runs, and has the same lines if it does not wait for
`a`. -/
def Matched (t : Tree) (a : ObjectId) (s s' : Settlement) : Prop :=
  s'.case = s.case ∧ (Apart t a s.case → s'.lines = s.lines)

include ht ht' hcopy hseparate hseparate' hshow

/-- Both runs finish the same case, and are beside each other again. -/
theorem Beside.step {s s' : Settlement} (h : Beside t t' a e done r r') (hcase : s'.case = s.case)
    (hnew : s.case ∉ done)
    (htidy : ∀ script e, Due mode s.case (blockadeOf r.tree s.case) r (.teardown s.case script) e →
      (Errand.teardown s.case script).Behaves e)
    (htidy' : ∀ script e, Due mode s.case (blockadeOf r'.tree s.case) r'
      (.teardown s.case script) e → (Errand.teardown s.case script).Behaves e)
    (hs : Settles mode s r r₁) (hs' : Settles mode s' r' r₁')
    (hfinish : finish mode s.case (blockadeOf r.tree s.case) r = .ok s.verdict r₁)
    (hfinish' : finish mode s.case (blockadeOf r'.tree s.case) r' = .ok s'.verdict r₁') :
    Matched t a s s' ∧ Beside t t' a e (done ++ [s.case]) r₁ r₁' := by
  have hsame : Apart t a s.case → s'.verdict = s.verdict ∧ s'.lines = s.lines ∧
      (Watched t a → r₁'.engine.console = r₁.engine.console) := by
    intro hc
    rw [h.blockadeOf_eq ht hcopy hc hs.siblings] at hfinish'
    obtain ⟨hv, ⟨lines, hlines, hlines'⟩, hconsole⟩ :=
      h.lines_eq hcopy hseparate hseparate' hc hnew hfinish hfinish'
    rw [hs.concluded.results] at hlines
    rw [hs'.concluded.results] at hlines'
    exact ⟨hv, (List.append_cancel_left hlines').trans (List.append_cancel_left hlines).symm,
      hconsole⟩
  refine ⟨⟨hcase, fun hc => (hsame hc).2.1⟩, h.first.step ht hnew htidy hfinish,
    h.second.step ht' hnew htidy' hfinish', fun c hc => ?_, fun hwatched => ?_⟩
  · by_cases hthis : c = s.case
    · subst hthis
      rw [hs.concluded.result, ← (hsame hc).1, ← hs'.concluded.result, hcase]
    · have hother : c ≠ s'.case := hcase ▸ hthis
      rw [Tree.result?, Tree.result?, hs.concluded.rework.others hthis,
        hs'.concluded.rework.others hother]
      exact h.results c hc
  · by_cases hc : Apart t a s.case
    · exact (hsame hc).2.2 hwatched
    · -- a case for which `a` matters leaves the console alone, in each of the runs
      obtain ⟨hwrites, hwrites'⟩ := hshow hwatched s.case hc
      have hkept : r₁.engine.console = r.engine.console :=
        h.first.same_of_finish hnew hwrites hfinish
      have hkept' : r₁'.engine.console = r'.engine.console :=
        h.second.same_of_finish hnew hwrites' hfinish'
      exact hkept'.trans ((h.console hwatched).trans hkept.symm)

/-- Two runs that finish the same cases settle them in matching ways. -/
theorem matched_of_courses (h : Beside t t' a e done r r') (hnodup : (done ++ order).Nodup)
    (hcourse : Course mode r order r₁) (hcourse' : Course mode r' order r₁')
    (htidy : Tidy mode r order) (htidy' : Tidy mode r' order) : ∃ ss ss',
      Progress mode r ss r₁ ∧ Progress mode r' ss' r₁' ∧ List.Forall₂ (Matched t a) ss ss' := by
  induction hcourse generalizing done r' with
  | idle r ids =>
    cases hcourse' with
    | idle _ ids' => exact ⟨[], [], .idle r ids, .idle r' ids', .nil⟩
  | @step r r₂ r₁ c cases v ids hgoes hdecided hfinish hrest ih =>
    cases hcourse' with
    | @step _ r₂' _ _ _ v' ids' hgoes' hdecided' hfinish' hrest' =>
      obtain ⟨s, rfl, rfl, hs⟩ := settles_of_step hgoes hdecided hfinish
      obtain ⟨s', hcase, rfl, hs'⟩ := settles_of_step hgoes' hdecided' hfinish'
      have hnew : s.case ∉ done := fun hmem =>
        (List.nodup_append.mp hnodup).2.2 _ hmem _ (List.mem_cons_self ..) rfl
      have hresumed : Beside t t' a e done { r with resolving := ids } { r' with resolving := ids' } :=
        ⟨h.first.resume ids, h.second.resume ids', h.results, h.console⟩
      obtain ⟨hmatched, hnext⟩ := hresumed.step ht ht' hcopy hseparate hseparate' hshow hcase hnew
        (fun script e hdue => htidy.head ids hdue) (fun script e hdue => htidy'.head ids' hdue)
        hs hs' hfinish hfinish'
      obtain ⟨ss, ss', hprogress, hprogress', hall⟩ := ih hnext (by simpa using hnodup) hrest'
        (fun before c after heq r₃ hbefore => htidy (_ :: before) c after (congrArg _ heq) r₃
          (.step ids hgoes hdecided hfinish hbefore))
        (fun before c after heq r₃ hbefore => htidy' (_ :: before) c after (congrArg _ heq) r₃
          (.step ids' hgoes' hdecided' hfinish' hbefore))
      exact ⟨s :: ss, s' :: ss', (Progress.step hs hprogress).resume,
        (Progress.step hs' hprogress').resume, .cons hmatched hall⟩

end Copies

/-! ### Reports -/

/-- The lines that a case has reported since a state of the engine. -/
def linesOf (c : ObjectId) (e e' : Engine) : List Line :=
  ((reportsSince e e').filter fun x => x.1 = c).map Prod.snd

theorem linesOf_of_progress {ss : List Settlement}
    (h : Progress mode (start t (announced t root e)) ss r) :
    linesOf c e r.engine = (ss.filter fun s => s.case = c).flatMap Settlement.lines := by
  unfold linesOf
  rw [reports_of_suite h]
  clear h
  induction ss with
  | nil => rfl
  | cons s ss ih =>
    rw [List.flatMap_cons, List.filter_append, List.map_append, ih]
    by_cases hthis : s.case = c
    · simp [hthis, List.filter_map, Function.comp_def]
    · simp [hthis, List.filter_map, Function.comp_def]

theorem flatMap_lines_of_matched {ss ss' : List Settlement}
    (h : List.Forall₂ (Matched t a) ss ss') (hc : Apart t a c) :
    (ss'.filter fun s => s.case = c).flatMap Settlement.lines =
      (ss.filter fun s => s.case = c).flatMap Settlement.lines := by
  induction h with
  | nil => rfl
  | @cons s s' ss ss' hmatched _ ih =>
    obtain ⟨hcase, hlines⟩ := hmatched
    by_cases hthis : s.case = c
    · simp [hthis, hcase, hlines (hthis ▸ hc), ih]
    · simp [hthis, hcase, ih]

/-- The teardowns in the run of a tree leave the hooks as they find them. -/
def CleansUp (mode : Mode) (t : Tree) (root : ObjectId) (e : Engine) : Prop :=
  ∀ order, t.PostOrder [] (t.leaves root) order → Tidy mode (start t (announced t root e)) order

/-- It is enough that the teardowns do so wherever they are carried out. -/
theorem cleansUp_of_scripts (h : ∀ c data script, t.case? c = some data →
    data.teardown = some script → ∀ e₁, (Errand.teardown c script).Behaves e₁) :
    CleansUp mode t root e := by
  intro order hpost before c after heq r₁ hcourse script e₁ hdue
  generalize blockadeOf r₁.tree c = blocked at hdue
  cases hdue with
  | body _ _ _ h => nomatch h
  | teardown hsettle hcase hscript =>
    obtain ⟨ss, hprogress, rfl⟩ := hcourse.progress
    have hnew : c ∉ ss.map Settlement.case := by
      have hnodup := hpost.nodup.1
      rw [heq] at hnodup
      exact fun hmem => (List.nodup_append.mp hnodup).2.2 c hmem c (List.mem_cons_self ..) rfl
    obtain ⟨data, hdata, hteardown⟩ := (teardown_of_settle hsettle).mp ⟨_, hcase, hscript⟩
    rw [hprogress.case?_of_not_mem hnew] at hdata
    exact h c data script hdata hteardown _

/-- A run of a built tree starts between two cases. -/
theorem between_start (he : e.Reached) (hchain : e.chain = []) :
    Between t (e.prepared mode) [] (start t (announced t root (e.prepared mode))) := by
  have hprepared := he.atRest.prepared mode
  have hrest : AtRest (announced t root (e.prepared mode)) :=
    ⟨hprepared.idle, hprepared.calm, hprepared.own,
      ⟨hprepared.numbered.fresh, hprepared.numbered.named⟩, hprepared.thread⟩
  exact ⟨rfl, fun _ _ => rfl, hrest, hchain, rfl, ⟨rfl, Nat.le_refl _, rfl, fun h => h⟩, rfl,
    fun x _ => .refl x _⟩

/-- Cases do not interfere.  In a run of a tree and a run of a copy that differs in the case `a`,
a case that is not `a` and does not wait for `a` reports the same lines, if the settings of the
console that such cases ask for are left alone by `a` and by those that wait for `a`. -/
theorem linesOf_of_runs (calls calls' : List Tree.Call) (mode : Mode) (root a : ObjectId)
    (e e₁ e₁' : Engine) (s s' : Summary) (hlist : mode.listOnly = false)
    (hfast : mode.failFast = false) (he : e.Reached) (hchain : e.chain = [])
    (hcopy : (Tree.ofCalls calls).Reworks a (Tree.ofCalls calls'))
    (hseparate : (Tree.ofCalls calls).Separate) (hseparate' : (Tree.ofCalls calls').Separate)
    (hshow : Unobtrusive (Tree.ofCalls calls) (Tree.ofCalls calls') a)
    (hclean : CleansUp mode (Tree.ofCalls calls) root (e.prepared mode))
    (hclean' : CleansUp mode (Tree.ofCalls calls') root (e.prepared mode))
    (h : Engine.run mode (Tree.ofCalls calls) root e = .ok s e₁)
    (h' : Engine.run mode (Tree.ofCalls calls') root e = .ok s' e₁')
    (c : ObjectId) (hc : Apart (Tree.ofCalls calls) a c) : linesOf c e e₁' = linesOf c e e₁ := by
  have ht := Tree.sound_ofCalls calls
  have ht' := Tree.sound_ofCalls calls'
  generalize Tree.ofCalls calls = t at *
  generalize Tree.ofCalls calls' = t' at *
  obtain ⟨r, hsuite, -, rfl⟩ := runSuite_eq_ok.mp (run_iff.mp h).2
  obtain ⟨r', hsuite', -, rfl⟩ := runSuite_eq_ok.mp (run_iff.mp h').2
  obtain ⟨order, hpost, hcourse⟩ := course_of_suite ht hlist hfast hsuite
  obtain ⟨order', hpost', hcourse'⟩ := course_of_suite ht' hlist hfast hsuite'
  -- both runs finish the same cases
  have hsame : t'.PostOrder [] (t'.leaves root) order := by
    rw [Tree.leaves_eq_of_static hcopy.static]
    exact hpost.of_static hcopy.static
  obtain rfl : order' = order := hsame.unique hpost'
  have hbeside : Beside t t' a (e.prepared mode) [] (start t (announced t root (e.prepared mode)))
      (start t' (announced t' root (e.prepared mode))) := by
    refine ⟨between_start he hchain, between_start he hchain, fun x _ => ?_, fun _ => rfl⟩
    exact (ht'.result?_eq_none x).trans (ht.result?_eq_none x).symm
  obtain ⟨ss, ss', hprogress, hprogress', hall⟩ := matched_of_courses ht ht' hcopy hseparate
    hseparate' hshow hbeside hpost.nodup.1 hcourse hcourse' (hclean _ hpost) (hclean' _ hpost')
  have hlines := linesOf_of_progress (c := c) hprogress
  have hlines' := linesOf_of_progress (c := c) hprogress'
  exact hlines'.trans ((flatMap_lines_of_matched hall hc).trans hlines.symm)

/-- A suite with a case that runs this body, one that runs another body, one that waits for the
first, and one that waits for the second and fails if the console is not quiet. -/
def crowdedCalls (body other : Script) : List Tree.Call :=
  [.suite "s", .addCase 0 "a" body, .addCase 0 "b" other, .addCase 0 "c" [],
    .addComplexCase 0 "d"
      [("x", [.choose (.console .quiet false) [] [.raise (.fail "loud")]]),
        ("y", [.raise (.skip "later")])] (some [.trace "bye"]),
    .addDependency 3 1, .addDependency 4 2]

/-- The tree that these calls build. -/
def crowded (body other : Script) : Tree where
  nodes :=
    #[⟨"s", none, none, [], .suite [1, 2, 3, 4]⟩,
      ⟨"a", some 0, none, [], .case (.plain body)⟩,
      ⟨"b", some 0, none, [], .case (.plain other)⟩,
      ⟨"c", some 0, none, [], .case { CaseData.plain [] with dependencies := [1] }⟩,
      ⟨"d", some 0, none, [], .case
        { CaseData.new
            (.complex [("x", [.choose (.console .quiet false) [] [.raise (.fail "loud")]]),
              ("y", [.raise (.skip "later")])])
            (some [.trace "bye"]) with dependencies := [2] }⟩]

section Crowded

variable {body body' other : Script} {x : Resource}

theorem reworks_crowded (body body' other : Script) :
    (crowded body other).Reworks 1 (crowded body' other) := by
  refine ⟨?_, fun {c} hc => ?_⟩
  · simp [crowded, Tree.static, Tree.map, Node.static, Node.staticKind, CaseData.static,
      CaseData.plain, CaseData.new, Body.tags]
  · rcases c with - | - | - | c
    · rfl
    · exact absurd rfl hc
    · rfl
    · rfl

/-- Only the first two of its cases read anything but the console. -/
theorem reads_of_crowded (hx : x ≠ .console) (h : (crowded body other).CaseReads c x) :
    c = 1 ∧ Script.Reads body x ∨ c = 2 ∧ Script.Reads other x := by
  rcases c with - | - | - | - | - | c <;>
    simp [crowded, Tree.CaseReads, Tree.case?, Tree.node?, Node.case?, CaseData.Reads,
      CaseData.plain, CaseData.new, CaseData.scripts, Body.scripts, Action.scripts,
      Action.Reads] at h
  · exact .inl ⟨rfl, h⟩
  · exact .inr ⟨rfl, h⟩
  · exact absurd h hx

theorem writes_of_crowded (h : (crowded body other).CaseWrites c x) :
    c = 1 ∧ Script.Writes body x ∨ c = 2 ∧ Script.Writes other x := by
  rcases c with - | - | - | - | - | c <;>
    simp [crowded, Tree.CaseWrites, Tree.case?, Tree.node?, Node.case?, CaseData.Writes,
      CaseData.plain, CaseData.new, CaseData.scripts, Body.scripts, Hook.Writes, Action.scripts,
      Action.Writes] at h
  · exact .inl ⟨rfl, h⟩
  · exact .inr ⟨rfl, h⟩

theorem separate_crowded (hbody : ∀ x, Script.Writes body x → ¬ Script.Reads other x)
    (hother : ∀ x, Script.Writes other x → ¬ Script.Reads body x) :
    (crowded body other).Separate := by
  intro c d hcd x hx hwrites hreads
  rcases writes_of_crowded hwrites with ⟨rfl, hw⟩ | ⟨rfl, hw⟩ <;>
    rcases reads_of_crowded hx hreads with ⟨rfl, hr⟩ | ⟨rfl, hr⟩
  · exact hcd rfl
  · exact hbody x hw hr
  · exact hother x hw hr
  · exact hcd rfl

theorem cleansUp_crowded (body other : Script) : CleansUp mode (crowded body other) root e := by
  refine cleansUp_of_scripts fun c data script hcase hscript e₁ => ?_
  have hdata := Tree.mem_cases hcase
  simp [crowded, Node.case?] at hdata
  rcases hdata with rfl | rfl | rfl | rfl
  · cases hscript
  · cases hscript
  · cases hscript
  · cases hscript
    exact ⟨_, rfl, rfl⟩

theorem apart_crowded_two : Apart (crowded body other) 1 2 := by
  refine ⟨by decide, fun hwaits => ?_⟩
  obtain ⟨p, ⟨d, hd, -⟩, -⟩ := TransGen.head'_iff.mp hwaits
  nomatch hd

/-- The second case may set the console as it likes, and the last one, which asks for it, does not
wait for the first. -/
theorem unobtrusive_crowded (hbody : ¬ Script.Writes body .console)
    (hbody' : ¬ Script.Writes body' .console) :
    Unobtrusive (crowded body other) (crowded body' other) 1 := by
  intro _ d hd
  constructor
  · intro hwrites
    rcases writes_of_crowded hwrites with ⟨rfl, hw⟩ | ⟨rfl, -⟩
    · exact hbody hw
    · exact hd apart_crowded_two
  · intro hwrites
    rcases writes_of_crowded hwrites with ⟨rfl, hw⟩ | ⟨rfl, -⟩
    · exact hbody' hw
    · exact hd apart_crowded_two

end Crowded

theorem apart_crowded (other : Script) : Apart (crowded [] other) 1 4 := by
  refine ⟨by decide, fun hwaits => ?_⟩
  obtain ⟨p, ⟨d, hd, hp⟩, hrest⟩ := TransGen.head'_iff.mp hwaits
  obtain rfl : d = 2 := List.mem_singleton.mp hd
  have hleaves : (crowded [] other).leaves 2 = [2] := rfl
  obtain rfl : p = 2 := List.mem_singleton.mp (hleaves ▸ hp)
  obtain h | ⟨_, ⟨d, hd, -⟩, -⟩ := hrest.cases_head
  · nomatch h
  · nomatch hd

/-- A body that does much, pops the hook that it has pushed, and panics in the end. -/
def rowdy : Script :=
  [.count 0, .thread [.emit ⟨"net", .critical, "lost", false⟩], .catch [.raise (.fail "broken")],
    .letHook ⟨none, []⟩ [.popLocal 0], .withHook ⟨none, []⟩ [.panic .nonText]]

/-- A body that has a hook of its own, keeps its own count, and makes the console quiet. -/
def modest : Script :=
  [.letHook ⟨none, []⟩ [.emit ⟨"net", .message, "up", false⟩, .popLocal 0], .count 1,
    .configure .quiet false]

/-- A process with two counters. -/
def counting : Engine := (newCounter (newCounter .initial).2).2

theorem uses_of_rowdy (x : Resource) :
    (Script.Writes rowdy x → x = .counter 0 ∨ x = .names) ∧
      (Script.Reads rowdy x → x = .counter 0) := by
  constructor
  · intro hx
    simp [rowdy, Action.scripts, Action.Writes, RuleHook.scripts] at hx
    exact hx
  · intro hx
    simpa [rowdy, Action.scripts, Action.Reads, RuleHook.scripts] using hx

theorem uses_of_modest (x : Resource) :
    (Script.Writes modest x → x = .counter 1 ∨ x = .console) ∧
      (Script.Reads modest x → x = .counter 1) := by
  constructor
  · intro hx
    simpa [modest, Action.scripts, Action.Writes, RuleHook.scripts] using hx
  · intro hx
    simpa [modest, Action.scripts, Action.Reads, RuleHook.scripts] using hx

/-- The last case does not notice it, but the one before does, which waits for this body. -/
theorem linesOf_of_rowdy :
    let o := Engine.run .default (Tree.ofCalls (crowdedCalls [] modest)) 0 counting
    let o' := Engine.run .default (Tree.ofCalls (crowdedCalls rowdy modest)) 0 counting
    ∃ s s', o = .ok s (endOf o) ∧ o' = .ok s' (endOf o') ∧
      linesOf 4 counting (endOf o') = linesOf 4 counting (endOf o) ∧
      linesOf 3 counting (endOf o') ≠ linesOf 3 counting (endOf o) := by
  intro o o'
  obtain ⟨s, hs⟩ := Option.isSome_iff_exists.mp (show (valueOf o).isSome = true by decide +kernel)
  obtain ⟨s', hs'⟩ := Option.isSome_iff_exists.mp (show (valueOf o').isSome = true by decide +kernel)
  have hrun : Engine.run .default (Tree.ofCalls (crowdedCalls [] modest)) 0 counting =
      .ok s (endOf o) := eq_ok_of_valueOf hs
  have hrun' : Engine.run .default (Tree.ofCalls (crowdedCalls rowdy modest)) 0 counting =
      .ok s' (endOf o') := eq_ok_of_valueOf hs'
  have htree : Tree.ofCalls (crowdedCalls [] modest) = crowded [] modest := rfl
  have htree' : Tree.ofCalls (crowdedCalls rowdy modest) = crowded rowdy modest := rfl
  have hreached : counting.Reached := .counted (.counted (.initial _ _))
  refine ⟨s, s', hrun, hrun', linesOf_of_runs (crowdedCalls [] modest) (crowdedCalls rowdy modest)
    .default 0 1 counting (endOf o) (endOf o') s s' rfl rfl hreached rfl ?_ ?_ ?_ ?_ ?_ ?_ hrun hrun'
    4 ?_, by decide +kernel⟩
  · rw [htree, htree']
    exact reworks_crowded [] rowdy modest
  · rw [htree]
    exact separate_crowded (by simp) (by simp)
  · rw [htree']
    refine separate_crowded (fun x hw hr => ?_) fun x hw hr => ?_
    · obtain rfl := (uses_of_modest x).2 hr
      simpa using (uses_of_rowdy _).1 hw
    · obtain rfl := (uses_of_rowdy x).2 hr
      simpa using (uses_of_modest _).1 hw
  · rw [htree, htree']
    refine unobtrusive_crowded (by simp) fun hw => ?_
    simpa using (uses_of_rowdy _).1 hw
  · rw [htree]
    exact cleansUp_crowded [] modest
  · rw [htree']
    exact cleansUp_crowded rowdy modest
  · rw [htree]
    exact apart_crowded modest

/-- A body that makes the console quiet is noticed by the last case, which does not wait for it, even
though the two share nothing else. -/
theorem linesOf_of_configured :
    let t := Tree.ofCalls (crowdedCalls [] [])
    let t' := Tree.ofCalls (crowdedCalls [.configure .quiet false] [])
    let e := Engine.initial
    let o := Engine.run .default t 0 e
    let o' := Engine.run .default t' 0 e
    e.Reached ∧ e.chain = [] ∧ t.Reworks 1 t' ∧ t.Separate ∧ t'.Separate ∧
      CleansUp .default t 0 (e.prepared .default) ∧ CleansUp .default t' 0 (e.prepared .default) ∧
      (valueOf o).isSome = true ∧ (valueOf o').isSome = true ∧ Apart t 1 4 ∧
      (linesOf 4 e (endOf o)).map Prod.snd = [.fail "loud", .fail "previous subunit failed"] ∧
      (linesOf 4 e (endOf o')).map Prod.snd = [.pass, .skip "later"] := by
  intro t t' e o o'
  have htree : t = crowded [] [] := rfl
  have htree' : t' = crowded [.configure .quiet false] [] := rfl
  have hseparate' : t'.Separate := by
    rw [htree']
    exact separate_crowded (by simp) (by simp)
  refine ⟨.initial .none .none, rfl, ?_, ?_, hseparate', ?_, ?_, by decide +kernel,
    by decide +kernel, ?_, by decide +kernel, by decide +kernel⟩
  · rw [htree, htree']
    exact reworks_crowded [] _ []
  · rw [htree]
    exact separate_crowded (by simp) (by simp)
  · rw [htree]
    exact cleansUp_crowded [] []
  · rw [htree']
    exact cleansUp_crowded _ []
  · rw [htree]
    exact apart_crowded []

end Run

end TestEngine
