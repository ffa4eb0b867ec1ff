/-
TestEngine/Proofs/Run/Turn.lean

Places in a run.  The scheduler works down lists: the cases below the root, the dependencies
of a case, the cases of a suite that one waits for.  `Among` and `Reaches` say how far it has
come in such a list, and `Turn` follows them down to a case whose dependencies have been
resolved, so that it is its turn to be finished.  Nothing is said of how the run ends.

From every place the run goes on with what stands there and then with a rest that makes no
difference to scripts (`Resumes`).  So if it stops there, the whole run does, and if it goes
on, the rest of the run keeps every relation that is respected.

What a run has scripts do are its errands (`Errand`): its own messages, which hooks are asked
about, the units of its cases, and their teardowns.
-/
import TestEngine.Proofs.Run.Emission

namespace TestEngine

/-! ### Errands -/

/-- What a run has scripts do. -/
inductive Errand
  | message (event : LogEvent)
  | unit (case : ObjectId) (k : Nat) (script : Script)
  | teardown (case : ObjectId) (script : Script)

namespace Engine

/-- The message before the body of a case. -/
def opening (path : Path) : LogEvent := .ofMessage .debug engineDomain (">>> " ++ path.render)

/-- The message after the body of a case. -/
def closing (path : Path) : LogEvent := .ofMessage .debug engineDomain ("<<< " ++ path.render)

theorem runCase_eq (case : ObjectId) (path : Path) (number : Nat) (policies : List Policy)
    (expectations : List Expectation) (body : Body) :
    runCase case path number policies expectations body =
      log perform (opening path) >>= fun _ =>
        bracket case path number policies expectations body >>= fun outcome =>
          log perform (closing path) >>= fun _ => pure outcome := rfl

/-- While a case is run, an errand is due in the last state. -/
inductive Due (case : ObjectId) (path : Path) (number : Nat) (policies : List Policy)
    (expectations : List Expectation) (body : Body) : Engine → Errand → Engine → Prop
  | opening {e : Engine} :
      Due case path number policies expectations body e (.message (opening path)) e
  | unit {e e₁ e₂ : Engine} {k : Nat} {script : Script}
      (hopen : log perform (Engine.opening path) e = .ok () e₁)
      (h : Starts case path number body (bracketing case policies expectations e₁) k script e₂) :
      Due case path number policies expectations body e (.unit case k script) e₂
  | closing {e e₁ e₂ : Engine} {outcome : Verdict × List Line}
      (hopen : log perform (Engine.opening path) e = .ok () e₁)
      (hrun : bracket case path number policies expectations body e₁ = .ok outcome e₂) :
      Due case path number policies expectations body e (.message (closing path)) e₂

end Engine

namespace Run

/-! ### Lists -/

/-- Cases are resolved in order, and it is the turn of one of them in the last state. -/
inductive Among (resolve : ObjectId → Act Verdict) : List ObjectId → Run → ObjectId → Run → Prop
  | here {leaf : ObjectId} {leaves : List ObjectId} {r : Run} :
      Among resolve (leaf :: leaves) r leaf r
  | later {leaf l : ObjectId} {leaves : List ObjectId} {r r₁ r' : Run} {v : Verdict}
      (hleaf : resolve leaf r = .ok v r₁) (hgoes : r₁.isOver = false)
      (h : Among resolve leaves r₁ l r') : Among resolve (leaf :: leaves) r l r'

/-- The dependencies of a case are resolved in order, and the scheduler comes to one of them in
the last state. -/
inductive Reaches (resolve : ObjectId → Act Verdict) (case : ObjectId) :
    List ObjectId → Run → ObjectId → Run → Prop
  | here {d : ObjectId} {dependencies : List ObjectId} {r : Run} :
      Reaches resolve case (d :: dependencies) r d r
  | later {d x : ObjectId} {dependencies : List ObjectId} {r r₁ r' : Run} {v : Verdict}
      (hsibling : r.tree.Sibling case d) (hd : resolveDependency resolve d r = .ok v r₁)
      (hgoes : r₁.isOver = false) (h : Reaches resolve case dependencies r₁ x r') :
      Reaches resolve case (d :: dependencies) r x r'

/-! ### Turns -/

/-- While a case is being resolved, no deeper than the bound allows, it is the turn of a case in
the last state: its dependencies are resolved, and it is to be finished. -/
inductive Turn (mode : Mode) : Nat → ObjectId → Run → ObjectId → Option Verdict → Run → Prop
  | own {bound : Nat} {case : ObjectId} {r r' : Run} {state : Prerequisites}
      (hnone : r.tree.result? case = none) (hfirst : r.resolving.contains case = false)
      (hready : resolveAll (resolveWithin mode bound) case .met (r.tree.dependencies case)
        (r.opened case) = .ok state r')
      (hgoes : ∀ v, state ≠ .over v) : Turn mode (bound + 1) case r case state.blockade r'
  | nested {bound : Nat} {case d l c : ObjectId} {r r₁ r₂ r' : Run} {blocked : Option Verdict}
      (hnone : r.tree.result? case = none) (hfirst : r.resolving.contains case = false)
      (hd : Reaches (resolveWithin mode bound) case (r.tree.dependencies case) (r.opened case) d r₁)
      (hsibling : r₁.tree.Sibling case d)
      (hl : Among (resolveWithin mode bound) (r₁.tree.awaited d) r₁ l r₂)
      (h : Turn mode bound l r₂ c blocked r') : Turn mode (bound + 1) case r c blocked r'

/-- While a case is being resolved, no deeper than the bound allows, the scheduler is asked for a
case in the last state, and may go as deep as the second bound allows. -/
inductive Meets (mode : Mode) : Nat → ObjectId → Run → Nat → ObjectId → Run → Prop
  | here {bound : Nat} {case : ObjectId} {r : Run} : Meets mode bound case r bound case r
  | nested {bound bound' : Nat} {case d l c : ObjectId} {r r₁ r₂ r' : Run}
      (hnone : r.tree.result? case = none) (hfirst : r.resolving.contains case = false)
      (hd : Reaches (resolveWithin mode bound) case (r.tree.dependencies case) (r.opened case) d r₁)
      (hsibling : r₁.tree.Sibling case d)
      (hl : Among (resolveWithin mode bound) (r₁.tree.awaited d) r₁ l r₂)
      (h : Meets mode bound l r₂ bound' c r') : Meets mode (bound + 1) case r bound' c r'

/-- When it is the turn of a case, the scheduler has been asked for it, and has resolved what it
depends on. -/
theorem Turn.meets {mode : Mode} {bound : Nat} {case c : ObjectId} {blocked : Option Verdict}
    {r r' : Run} (h : Turn mode bound case r c blocked r') : ∃ bound' r₁ state,
      Meets mode bound case r (bound' + 1) c r₁ ∧ r₁.tree.result? c = none ∧
        r₁.resolving.contains c = false ∧
          resolveAll (resolveWithin mode bound') c .met (r₁.tree.dependencies c) (r₁.opened c) =
            .ok state r' ∧ (∀ v, state ≠ .over v) ∧ state.blockade = blocked := by
  induction h with
  | own hnone hfirst hready hgoes => exact ⟨_, _, _, .here, hnone, hfirst, hready, hgoes, rfl⟩
  | nested hnone hfirst hd hsibling hl _ ih =>
    obtain ⟨bound', r₁, state, hmeets, h⟩ := ih
    exact ⟨bound', r₁, state, .nested hnone hfirst hd hsibling hl hmeets, h⟩

/-- In a run that has printed its plan it is the turn of a case in the last state. -/
def Comes (mode : Mode) (root : ObjectId) (r : Run) (c : ObjectId) (blocked : Option Verdict)
    (r' : Run) : Prop :=
  ∃ l r₁, Among (resolve mode) (r.tree.leaves root) r l r₁ ∧
    Turn mode (r₁.tree.size + 1) l r₁ c blocked r'

/-- While a case is finished, an errand is due in the last state. -/
inductive Due (mode : Mode) (case : ObjectId) : Option Verdict → Run → Errand → Engine → Prop
  | body {c : CaseData} {body : Body} {r : Run} {x : Errand} {e : Engine}
      (hselected : mode.excluded (r.tree.path case) = false) (hcase : r.tree.case? case = some c)
      (hbody : c.body = some body)
      (h : Engine.Due case (r.tree.path case) (r.reported + 1) (r.tree.inheritedPolicies case)
        c.expectations body r.engine x e) : Due mode case none r x e
  | teardown {blocked : Option Verdict} {v : Verdict} {c : CaseData} {script : Script} {r r₁ : Run}
      (hsettle : settle mode case blocked r = .ok v r₁) (hcase : r₁.tree.case? case = some c)
      (hscript : c.teardown = some script) :
      Due mode case blocked r (.teardown case script) r₁.engine

/-- In a run that has printed its plan an errand is due in the last state. -/
def Sends (mode : Mode) (root : ObjectId) (r : Run) (x : Errand) (e : Engine) : Prop :=
  ∃ c blocked r', Comes mode root r c blocked r' ∧ Due mode c blocked r' x e

/-! ### The rest of a run -/

section Resumes

variable {α β γ : Type} {r r₁ r₂ r' : Run}

/-- What comes next keeps every relation that is respected. -/
structure Tame (k : α → Act β) : Prop where
  keeps : ∀ {P : Entry → Prop} {R : Engine → Engine → Prop}, Engine.Respected (fun _ => True) P R →
    (∀ {x : Entry}, x.Alone → P x) → ∀ a, Keeps (fun _ => True) R (k a)

/-- An effect comes to another one, in the last state, and then goes on. -/
def Resumes (x : Act α) (r : Run) (y : Act β) (r' : Run) : Prop :=
  ∃ k : β → Act α, Tame k ∧ x r = (y >>= k) r'

theorem tame_pure : Tame (pure : α → Act α) := ⟨fun hR _ a => keeps_pure hR a⟩

theorem Tame.bind {k : α → Act β} {k' : β → Act γ} (h : Tame k) (h' : Tame k') :
    Tame fun a => k a >>= k' :=
  ⟨fun hR hP a => keeps_bind hR (h.keeps hR hP a) (h'.keeps hR hP)⟩

namespace Resumes

theorem of_eq {x y : Act α} (h : x r = y r') : Resumes x r y r' := by
  refine ⟨pure, tame_pure, ?_⟩
  rw [bind_pure]
  exact h

theorem of_bind {x : Act α} {y : Act β} {k : β → Act α} (hk : Tame k) (h : x r = (y >>= k) r') :
    Resumes x r y r' :=
  ⟨k, hk, h⟩

theorem trans {x : Act α} {y : Act β} {z : Act γ} (h : Resumes x r y r₁) (h' : Resumes y r₁ z r₂) :
    Resumes x r z r₂ := by
  obtain ⟨k, hk, hx⟩ := h
  obtain ⟨k', hk', hy⟩ := h'
  refine ⟨fun c => k' c >>= k, hk'.bind hk, ?_⟩
  rw [hx, bind_congr_of_eq hy, bind_assoc]

/-- If the effect stops there, that is the end. -/
theorem eq_error {x : Act α} {y : Act β} (h : Resumes x r y r₁) {stop : Stop}
    (hy : y r₁ = .error stop r') : x r = .error stop r' := by
  obtain ⟨k, -, hx⟩ := h
  rw [hx, bind_of_error hy]

/-- If it goes on, the rest keeps what is respected. -/
theorem lands {x : Act α} {y : Act β} (h : Resumes x r y r₁) {P : Entry → Prop}
    {R : Engine → Engine → Prop} (hR : Engine.Respected (fun _ => True) P R)
    (hP : ∀ {x : Entry}, x.Alone → P x) {b : β} (hy : y r₁ = .ok b r') :
    Lands (fun r'' => R r'.engine r''.engine) (x r) := by
  obtain ⟨k, hk, hx⟩ := h
  rw [hx, bind_of_ok hy]
  refine (hk.keeps hR hP b r' ⟨r'.engine.within_all, r'.tree.within_all⟩).mono fun _ h => ?_
  exact h.2

end Resumes

end Resumes

/-! ### Going on from a place -/

section Scheduler

variable {mode : Mode} {resolve : ObjectId → Act Verdict} {case c d l : ObjectId}
  {leaves dependencies : List ObjectId} {blocked : Option Verdict} {r r₁ r' : Run}

theorem tame_resolveWithin (mode : Mode) (bound : Nat) : Tame (resolveWithin mode bound) :=
  ⟨fun hR hP => keeps_resolveWithin hR hP mode bound⟩

theorem Among.resolveLeaves (htame : Tame resolve) (h : Among resolve leaves r l r')
    (outcome : Verdict) : Resumes (resolveLeaves resolve outcome leaves) r (resolve l) r' := by
  induction h generalizing outcome with
  | here =>
    refine .of_bind ⟨fun hR hP v => ?_⟩ rfl
    exact keeps_get_bind fun r =>
      keeps_ite (keeps_pure hR v) (keeps_resolveLeaves hR (htame.keeps hR hP) _ _) r
  | later hleaf hgoes _ ih =>
    exact .trans (.of_eq ((bind_of_ok hleaf).trans (get_bind_of_goes hgoes))) (ih _)

theorem Among.mem (h : Among resolve leaves r l r') : l ∈ leaves := by
  induction h with
  | here => exact List.mem_cons_self ..
  | later _ _ _ ih => exact List.mem_cons_of_mem _ ih

/-- In a list of one, only that one is come to. -/
theorem Among.of_singleton (h : Among resolve [c] r l r') : l = c ∧ r' = r := by
  rcases h with _ | ⟨_, _, h⟩
  · exact ⟨rfl, rfl⟩
  · nomatch h

theorem Among.resolveDependency (htame : Tame resolve)
    (h : Among resolve (r.tree.awaited d) r l r') :
    Resumes (resolveDependency resolve d) r (resolve l) r' := by
  have heq := @resolveDependency_eq resolve d r
  unfold Tree.awaited at h
  split at h
  · rename_i hsuite
    rw [if_pos hsuite] at heq
    exact .trans (.of_eq heq) (h.resolveLeaves htame .pass)
  · rename_i hsuite
    rw [if_neg hsuite] at heq
    obtain ⟨rfl, rfl⟩ := h.of_singleton
    exact .of_eq heq

theorem Reaches.mem (h : Reaches resolve case dependencies r d r') : d ∈ dependencies := by
  induction h with
  | here => exact List.mem_cons_self ..
  | later _ _ _ _ ih => exact List.mem_cons_of_mem _ ih

theorem Reaches.of_singleton (h : Reaches resolve case [c] r d r') : d = c ∧ r' = r := by
  rcases h with _ | ⟨_, _, _, h⟩
  · exact ⟨rfl, rfl⟩
  · nomatch h

/-- Up to the dependency that is reached, nothing is left to be done. -/
theorem Reaches.resolveAll_eq (h : Reaches resolve case dependencies r d r')
    (state : Prerequisites) : ∃ state' others,
      resolveAll resolve case state dependencies r =
        resolveAll resolve case state' (d :: others) r' := by
  induction h generalizing state with
  | here => exact ⟨state, _, rfl⟩
  | later hsibling hd hgoes _ ih =>
    rw [resolveAll_of_sibling hsibling, bind_of_ok hd, get_bind_of_goes hgoes]
    exact ih _

theorem Meets.resumes {bound bound' : Nat} (h : Meets mode bound case r bound' c r') :
    Resumes (resolveWithin mode bound case) r (resolveWithin mode bound' c) r' := by
  induction h with
  | here => exact .of_eq rfl
  | @nested bound bound' case d l c r r₁ r₂ r' hnone hfirst hd hsibling hl _ ih =>
    have htame := tame_resolveWithin mode bound
    obtain ⟨state, others, hreached⟩ := hd.resolveAll_eq .met
    have hcase : Resumes (resolveWithin mode (bound + 1) case) r
        (resolveAll (resolveWithin mode bound) case .met (r.tree.dependencies case))
        (r.opened case) := by
      exact .of_bind ⟨fun hR hP => keeps_followUp hR hP mode case⟩
        (resolveWithin_of_first hnone hfirst)
    have hdependency : Resumes (resolveAll (resolveWithin mode bound) case state (d :: others)) r₁
        (resolveDependency (resolveWithin mode bound) d) r₁ := by
      refine .of_bind ⟨fun hR hP v => ?_⟩ (resolveAll_of_sibling hsibling state)
      exact keeps_get_bind fun r =>
        keeps_ite (keeps_pure hR _) (keeps_resolveAll hR hP (htame.keeps hR hP) _ _ _) r
    exact hcase.trans (.trans (.of_eq hreached)
      (hdependency.trans ((hl.resolveDependency htame).trans ih)))

theorem Turn.resumes {bound : Nat} (h : Turn mode bound case r c blocked r') :
    Resumes (resolveWithin mode bound case) r (finish mode c blocked) r' := by
  obtain ⟨bound', r₁, state, hmeets, hnone, hfirst, hready, hgoes, rfl⟩ := h.meets
  refine hmeets.resumes.trans (.of_eq ((resolveWithin_of_first hnone hfirst).trans ?_))
  rw [bind_of_ok hready, followUp_of_goes hgoes]

theorem Among.resolveEach (hgoes : r.isOver = false) (h : Among (Run.resolve mode) leaves r l r') :
    Resumes (resolveEach mode leaves) r (Run.resolve mode l) r' := by
  induction h with
  | here => exact .of_bind ⟨fun hR hP _ => keeps_resolveEach hR hP mode _⟩ (resolveEach_of_goes hgoes)
  | later hleaf hnext _ ih =>
    exact .trans (.of_eq ((resolveEach_of_goes hgoes).trans (bind_of_ok hleaf))) (ih hnext)

/-- Whatever is to come in a run, it goes on with the case whose turn it is. -/
theorem Comes.resumes {root : ObjectId} (hgoes : r.isOver = false)
    (h : Comes mode root r c blocked r') :
    Resumes (resolveEach mode (r.tree.leaves root)) r (finish mode c blocked) r' := by
  obtain ⟨l, r₁, hl, hturn⟩ := h
  exact (hl.resolveEach hgoes).trans (.trans (.of_eq rfl) hturn.resumes)

theorem suite_eq {t : Tree} {root : ObjectId} {e : Engine} (hmode : mode.listOnly = false)
    (hroot : (t.node? root).isSome = true) :
    suite mode root (start t e) = resolveEach mode (t.leaves root) (start t (announced t root e)) := by
  obtain ⟨n, hn⟩ := Option.isSome_iff_exists.mp hroot
  refine (bind_of_ok (get_eq_ok.mpr ⟨rfl, rfl⟩)).trans ?_
  have hn' : (start t e).tree.node? root = some n := hn
  simp only [hn', hmode]
  rfl

end Scheduler

end Run

/-! ### Up to a place -/

section Relates

variable {P : Entry → Prop} {R : Engine → Engine → Prop}
  (hR : Engine.Respected (fun _ => True) P R) (hP : ∀ {x : Entry}, x.Alone → P x)

include hR hP

namespace Engine

variable {case : ObjectId} {path : Path} {number : Nat} {policies : List Policy}
  {expectations : List Expectation} {body : Body} {x : Errand} {e e' : Engine}

theorem relates_bracketing (case : ObjectId) (policies : List Policy)
    (expectations : List Expectation) (e : Engine) :
    R e (bracketing case policies expectations e) := by
  have hcase : ∃ case outer inner, P (.bracketed case outer inner) :=
    ⟨case, case, case, hP trivial⟩
  have houter : R e (install (.failIfLogged policies) e).2 := hR.installed e false trivial hcase
  have hinner := hR.installed (install (.failIfLogged policies) e).2 false
    (h := .expecting expectations) trivial hcase
  exact hR.trans houter (hR.trans hinner (hR.noted _ (hP trivial)))

theorem Due.relates (h : Due case path number policies expectations body e x e') : R e e' := by
  cases h with
  | opening => exact hR.refl e
  | unit hopen h =>
    have hlogged := (keeps_event hR (fun h => hP h.alone) _).of_ended (.inl ⟨_, hopen⟩)
    exact hR.trans hlogged (hR.trans (relates_bracketing hR hP _ _ _ _) (h.relates hR hP))
  | closing hopen hrun =>
    have hlogged := (keeps_event hR (fun h => hP h.alone) _).of_ended (.inl ⟨_, hopen⟩)
    have hkeeps := keeps_bracket hR hP case path number policies expectations
      fun s (_ : s ∈ body.scripts) => s.within_all
    exact hR.trans hlogged (hkeeps.of_ended (.inl ⟨_, hrun⟩))

end Engine

namespace Run

variable {mode : Mode} {resolve : ObjectId → Act Verdict} {case c d l root : ObjectId}
  {leaves dependencies : List ObjectId} {blocked : Option Verdict} {x : Errand} {r r' : Run}

omit hR hP in
theorem Keeps.of_ok {α : Type} {act : Act α} (h : Keeps (fun _ => True) R act) {a : α}
    (hok : act r = .ok a r') : R r.engine r'.engine := by
  have hlands := h r ⟨r.engine.within_all, r.tree.within_all⟩
  rw [hok] at hlands
  exact hlands.2

omit hP in
theorem Among.relates (hresolve : ∀ case, Keeps (fun _ => True) R (resolve case))
    (h : Among resolve leaves r l r') : R r.engine r'.engine := by
  induction h with
  | here => exact hR.refl _
  | later hleaf _ _ ih => exact hR.trans ((hresolve _).of_ok hleaf) ih

omit hP in
theorem Reaches.relates (hresolve : ∀ case, Keeps (fun _ => True) R (resolve case))
    (h : Reaches resolve case dependencies r d r') : R r.engine r'.engine := by
  induction h with
  | here => exact hR.refl _
  | later _ hd _ _ ih => exact hR.trans ((keeps_resolveDependency hR hresolve _).of_ok hd) ih

theorem Meets.relates {bound bound' : Nat} (h : Meets mode bound case r bound' c r') :
    R r.engine r'.engine := by
  induction h with
  | here => exact hR.refl _
  | @nested bound _ case _ _ _ r r₁ _ _ _ _ hd _ hl _ ih =>
    have hresolve : ∀ case, Keeps (fun _ => True) R (resolveWithin mode bound case) :=
      keeps_resolveWithin hR hP mode bound
    have hopened : R (r.opened case).engine r₁.engine := hd.relates hR hresolve
    exact hR.trans hopened (hR.trans (hl.relates hR hresolve) ih)

theorem Turn.relates {bound : Nat} (h : Turn mode bound case r c blocked r') :
    R r.engine r'.engine := by
  obtain ⟨bound', r₁, state, hmeets, -, -, hready, -, -⟩ := h.meets
  have hopened : R (r₁.opened c).engine r'.engine :=
    (keeps_resolveAll hR hP (keeps_resolveWithin hR hP mode bound') c .met _).of_ok hready
  exact hR.trans (hmeets.relates hR hP) hopened

theorem Comes.relates (h : Comes mode root r c blocked r') : R r.engine r'.engine := by
  obtain ⟨l, r₁, hl, hturn⟩ := h
  exact hR.trans (hl.relates hR (keeps_resolve hR hP mode)) (hturn.relates hR hP)

theorem Due.relates {e : Engine} (h : Due mode c blocked r x e) : R r.engine e := by
  cases h with
  | body _ _ _ h => exact h.relates hR hP
  | teardown hsettle _ _ => exact (keeps_settle hR hP mode c blocked).of_ok hsettle

theorem Sends.relates {e : Engine} (h : Sends mode root r x e) : R r.engine e := by
  obtain ⟨c, blocked, r', hcomes, hdue⟩ := h
  exact hR.trans (hcomes.relates hR hP) (hdue.relates hR hP)

end Run

end Relates

end TestEngine
