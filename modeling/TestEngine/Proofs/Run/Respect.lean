/-
TestEngine/Proofs/Run/Respect.lean

What runs cannot do.  A run notes entries that scripts do not, but to the engine it does
nothing else than they: a relation between engine states that is respected, relates the
state before a whole run to the one after it, unless the process has ended
(`Engine.keeps_run`).  As for scripts, all that is carried out may be kept within a class
of actions: the bodies and teardowns of the tree, and the hooks in the chain.
-/
import TestEngine.Proofs.Engine.Respect
import TestEngine.Proofs.Run.Schedule

namespace TestEngine

/-- What a run may note without any other change. -/
def Entry.Alone : Entry → Prop
  | .printed .diagnostic _ => False
  | .entered => False
  | .left => False
  | .recorded _ => False
  | .credited _ => False
  | .collected .. => False
  | _ => True

theorem Entry.Plain.alone {x : Entry} (h : x.Plain) : x.Alone := by
  rcases x with channel | _ | _ | _ | _ | _ | _ | _ | _ | _ | _ | _ | _ | _ | _ | _
  · rcases channel with _ | _
    · trivial
    · exact h
  all_goals trivial

/-! ### Scripts of a tree -/

/-- The scripts of a body. -/
def Body.scripts : Body → List Script
  | .simple script => [script]
  | .complex units => units.map Prod.snd

/-- The scripts of a case: those of its body, and its teardown. -/
def CaseData.scripts (c : CaseData) : List Script :=
  (c.body.elim [] Body.scripts) ++ c.teardown.toList

namespace Tree

/-- All that the cases of a tree run is within a class of actions. -/
def Within (A : Action → Prop) (t : Tree) : Prop :=
  ∀ id c, t.case? id = some c → ∀ s ∈ c.scripts, Script.Within A s

variable {A : Action → Prop} {t : Tree}

theorem within_all (t : Tree) : t.Within fun _ => True := fun _ _ _ s _ => s.within_all

/-- A case may lose scripts. -/
theorem within_updateCase {f : CaseData → CaseData} (hf : ∀ c, (f c).scripts ⊆ c.scripts)
    (ht : t.Within A) (case : ObjectId) : (t.updateCase case f).Within A := by
  intro id c hc s hs
  rw [case?_updateCase] at hc
  by_cases hid : id = case
  · rw [if_pos hid] at hc
    obtain ⟨c', hc', rfl⟩ := Option.map_eq_some_iff.mp hc
    exact ht id c' hc' s (hf c' hs)
  · rw [if_neg hid] at hc
    exact ht id c hc s hs

/-- The operation leaves all scripts within a class of actions. -/
def Retains {α : Type} (A : Action → Prop) (build : Build α) : Prop :=
  ∀ t : Tree, t.Within A → (endOf (build t)).Within A

/-- To look a case up changes nothing. -/
theorem endOf_getCase (id : ObjectId) (t : Tree) : endOf (getCase id t) = t := by
  unfold getCase getNode
  rcases hn : t.node? id with - | ⟨_, _, _, _, _ | _⟩ <;>
    simp [bind_of_ok (get_eq_ok.mpr ⟨rfl, rfl⟩), hn, violate] <;> rfl

/-- An operation on the data of a case that may lose scripts of it. -/
theorem retains_getCase_bind {α : Type} {id : ObjectId} {f : CaseData → Build α}
    (hf : ∀ c, Retains A (f c)) : Retains A (getCase id >>= f) := by
  intro t ht
  have hget := endOf_getCase id t
  rcases hc : getCase id t with ⟨c, t'⟩ | ⟨fault, t'⟩ <;> rw [hc] at hget
  · rw [bind_of_ok hc, show t' = t from hget]
    exact hf c t ht
  · rw [bind_of_error hc, show t' = t from hget]
    exact ht

theorem retains_takeBody (id : ObjectId) : Retains A (takeBody id) := by
  refine retains_getCase_bind fun c t ht => ?_
  refine within_updateCase (fun c => ?_) ht id
  exact List.subset_append_right _ _

theorem retains_takeTeardown (id : ObjectId) : Retains A (takeTeardown id) := by
  refine retains_getCase_bind fun c t ht => ?_
  refine within_updateCase (fun c => ?_) ht id
  exact List.append_subset.mpr ⟨List.subset_append_left _ _, List.nil_subset _⟩

theorem retains_setResult (id : ObjectId) (v : Verdict) : Retains A (setResult id v) := by
  refine retains_getCase_bind fun c t ht => ?_
  rcases hr : c.result with - | w
  · refine within_updateCase (fun c => ?_) ht id
    exact List.Subset.refl _
  · exact ht

end Tree

namespace Engine

/-- Run a body under the hooks of its case. -/
def bracket (case : ObjectId) (path : Path) (number : Nat) (policies : List Policy)
    (expectations : List Expectation) (body : Body) : Act (Verdict × List Line) :=
  withHook (.failIfLogged policies) fun outer =>
    withHook (.expecting expectations) fun inner => do
      note (.bracketed case outer inner)
      runBody case path number body

section Keeps

variable {A : Action → Prop} {P : Entry → Prop} {R : Engine → Engine → Prop}
  (hR : Respected A P R) (hP : ∀ {x : Entry}, x.Plain → P x)

include hR hP

/-! ### Cases -/

theorem keeps_script {script : Script} (hs : Script.Within A script) : Keeps A R (perform script) :=
  keeps_perform hR (fun h => hP h.plain) hs

theorem keeps_event (event : LogEvent) : Keeps A R (log perform event) :=
  keeps_log hR (fun h => hP h.plain) (fun _ => keeps_script hR hP) event

theorem keeps_violation {α : Type} (v : Violation) : Keeps A R (violate v : Act α) :=
  keeps_violate hR (fun h => hP h.plain) v

theorem keeps_print (text : String) : Keeps A R (print text) := keeps_note hR (hP trivial)

theorem keeps_report (case : ObjectId) (number : Nat) (path : Path) (v : Verdict) :
    Keeps A R (report case number path v) :=
  keeps_bind hR (keeps_print hR hP _) fun _ => keeps_note hR (hP trivial)

theorem keeps_subpath (path : Path) (tag : String) : Keeps A R (subpath path tag) := by
  unfold subpath
  split
  · exact keeps_pure hR _
  · exact keeps_violation hR hP _

theorem keeps_runUnit (case : ObjectId) (unit : Nat) {script : Script}
    (hs : Script.Within A script) : Keeps A R (runUnit case unit script) :=
  keeps_execute hR (fun h => hP h.plain) <|
    keeps_bind hR (keeps_note hR (hP trivial)) fun _ => keeps_script hR hP hs

theorem keeps_runSubunits (case : ObjectId) (path : Path) (number unit : Nat) (failed : Bool)
    {units : List (String × Script)} (hs : ∀ u ∈ units, Script.Within A u.2) :
    Keeps A R (runSubunits case path number unit failed units) := by
  induction units generalizing number unit failed with
  | nil => exact keeps_pure hR _
  | cons u units ih =>
    have hrest : ∀ v, Keeps A R (do
        let p ← subpath path u.1
        report case number p v
        let others ← runSubunits case path (number + 1) (unit + 1) (failed || v.isFail) units
        pure ((u.1, p, v) :: others)) := fun v =>
      keeps_bind hR (keeps_subpath hR hP _ _) fun p =>
        keeps_bind hR (keeps_report hR hP _ _ _ _) fun _ =>
          keeps_bind hR (ih _ _ _ fun w hw => hs w (List.mem_cons_of_mem u hw)) fun _ =>
            keeps_pure hR _
    rcases failed with _ | _
    · exact keeps_bind hR (keeps_runUnit hR hP case unit (hs u (List.mem_cons_self ..))) hrest
    · exact keeps_bind hR (keeps_pure hR _) hrest

theorem keeps_runBody (case : ObjectId) (path : Path) (number : Nat) {body : Body}
    (hs : ∀ s ∈ body.scripts, Script.Within A s) :
    Keeps A R (runBody case path number body) := by
  rcases body with script | units
  · exact keeps_bind hR (keeps_runUnit hR hP case 0 (hs script (List.mem_singleton_self _)))
      fun v => keeps_bind hR (keeps_report hR hP _ _ _ _) fun _ => keeps_pure hR _
  · have hunits := keeps_runSubunits hR hP case path number 0 false fun u hu =>
      hs u.2 (List.mem_map_of_mem hu)
    exact keeps_bind hR hunits fun _ => keeps_pure hR _

/-! ### Cases that do not run -/

theorem keeps_reportSubunits (case : ObjectId) (path : Path) (number : Nat) (v : Verdict)
    (tags : List String) : Keeps A R (reportSubunits case path number v tags) := by
  induction tags generalizing number with
  | nil => exact keeps_pure hR _
  | cons tag tags ih =>
    exact keeps_bind hR (keeps_subpath hR hP _ _) fun p =>
      keeps_bind hR (keeps_report hR hP _ _ _ _) fun _ =>
        keeps_bind hR (ih _) fun _ => keeps_pure hR _

theorem keeps_reportUnrun (case : ObjectId) (path : Path) (number : Nat) (tags : List String)
    (v : Verdict) : Keeps A R (reportUnrun case path number tags v) :=
  keeps_ite (keeps_bind hR (keeps_report hR hP _ _ _ _) fun _ => keeps_pure hR _)
    (keeps_reportSubunits hR hP _ _ _ _ _)

end Keeps

/-! ### The hooks of a case -/

section Keeps

variable {A : Action → Prop} {P : Entry → Prop} {R : Engine → Engine → Prop}
  (hR : Respected A P R) (hP : ∀ {x : Entry}, x.Alone → P x)

include hR hP

theorem keeps_bracket (case : ObjectId) (path : Path) (number : Nat) (policies : List Policy)
    (expectations : List Expectation) {body : Body}
    (hs : ∀ s ∈ body.scripts, Script.Within A s) :
    Keeps A R (bracket case path number policies expectations body) := by
  -- the two hooks of a case run no scripts
  have houter : (Hook.failIfLogged policies).Within A := trivial
  have hinner : (Hook.expecting expectations).Within A := trivial
  have hcase : ∃ case outer inner, P (.bracketed case outer inner) :=
    ⟨case, case, case, hP trivial⟩
  refine keeps_withHook hR (fun h => hP h.plain.alone) false houter hcase fun e hw => ?_
  refine keeps_withHook hR (fun h => hP h.plain.alone) false hinner hcase (fun e' hw' => ?_) _
    (within_enlist hw houter false)
  have hbody : Keeps A R (do
      note (.bracketed case e.nextHook e'.nextHook)
      runBody case path number body) :=
    keeps_bind hR (keeps_note hR (hP trivial)) fun _ =>
      keeps_runBody hR (fun h => hP h.alone) _ _ _ hs
  exact hbody _ (within_enlist hw' hinner false)

theorem keeps_runCase (case : ObjectId) (path : Path) (number : Nat) (policies : List Policy)
    (expectations : List Expectation) {body : Body}
    (hs : ∀ s ∈ body.scripts, Script.Within A s) :
    Keeps A R (runCase case path number policies expectations body) :=
  keeps_bind hR (keeps_event hR (fun h => hP h.alone) _) fun _ =>
    keeps_bind hR (keeps_bracket hR hP case path number policies expectations hs) fun outcome =>
      keeps_bind hR (keeps_event hR (fun h => hP h.alone) _) fun _ => keeps_pure hR outcome

end Keeps

end Engine

namespace Run

/-! ### Effects on a run -/

/-- What the run carries out is within a class of actions. -/
def Within (A : Action → Prop) (r : Run) : Prop := r.engine.Within A ∧ r.tree.Within A

/-- What an effect on a run may lead to. -/
def Leads (A : Action → Prop) (R : Engine → Engine → Prop) (r r' : Run) : Prop :=
  r'.Within A ∧ R r.engine r'.engine

/-- `R` relates the engine before an effect on a run to the one after it, as long as the
process goes on, and all that is left to run stays within `A`. -/
def Keeps {α : Type} (A : Action → Prop) (R : Engine → Engine → Prop) (act : Act α) : Prop :=
  ∀ r, r.Within A → Lands (Leads A R r) (act r)

section Keeps

variable {α β : Type} {A : Action → Prop} {P : Entry → Prop} {R : Engine → Engine → Prop}

theorem keeps_get_bind {f : Run → Act α} (hf : ∀ r, r.Within A → Lands (Leads A R r) (f r r)) :
    Keeps A R (get >>= f) := hf

theorem keeps_onEngine {act : Engine.Act α} (h : Engine.Keeps A R act) :
    Keeps A R (onEngine act) := by
  intro r hw
  have hact := h r.engine hw.1
  unfold onEngine
  rcases ho : act r.engine with ⟨a, e⟩ | ⟨_ | _ | _ | _, e⟩ <;> rw [ho] at hact
  · exact ⟨⟨hact.1, hw.2⟩, hact.2⟩
  · exact ⟨⟨hact.1, hw.2⟩, hact.2⟩
  all_goals trivial

theorem keeps_ite {c : Prop} [Decidable c] {x y : Act α} (hx : Keeps A R x) (hy : Keeps A R y) :
    Keeps A R (if c then x else y) := by
  split
  · exact hx
  · exact hy

variable (hR : Engine.Respected A P R)

include hR

theorem keeps_pure (a : α) : Keeps A R (pure a) := fun r hw => ⟨hw, hR.refl r.engine⟩

theorem leads_trans {r₁ r₂ r₃ : Run} (h : Leads A R r₁ r₂) (h' : Leads A R r₂ r₃) :
    Leads A R r₁ r₃ :=
  ⟨h'.1, hR.trans h.2 h'.2⟩

theorem keeps_bind {x : Act α} {f : α → Act β} (hx : Keeps A R x) (hf : ∀ a, Keeps A R (f a)) :
    Keeps A R (x >>= f) := by
  intro r hw
  have h := hx r hw
  rcases hxr : x r with ⟨a, r₁⟩ | ⟨stop, r₁⟩ <;> rw [hxr] at h
  · rw [bind_of_ok hxr]
    exact (hf a r₁ h.1).mono fun _ => leads_trans hR h
  · rw [bind_of_error hxr]
    exact h.of_error

/-- Only parts other than the engine and the tree are changed. -/
theorem keeps_modify {f : Run → Run} (hengine : ∀ r, (f r).engine = r.engine)
    (htree : ∀ r, (f r).tree = r.tree) : Keeps A R (modify f) := by
  intro r hw
  have hleads : Leads A R r (f r) := by
    unfold Leads Within
    rw [hengine, htree]
    exact ⟨hw, hR.refl _⟩
  exact hleads

end Keeps

/-! ### Listing -/

section Listing

variable {A : Action → Prop} {P : Entry → Prop} {R : Engine → Engine → Prop}
  (hR : Engine.Respected A P R) (hP : ∀ {x : Entry}, x.Plain → P x)

include hR hP

theorem keeps_listTags (path : Path) (tags : List String) : Keeps A R (listTags path tags) := by
  induction tags with
  | nil => exact keeps_pure hR ()
  | cons tag tags ih =>
    exact keeps_bind hR (keeps_onEngine (Engine.keeps_subpath hR hP path tag)) fun p =>
      keeps_bind hR (keeps_onEngine (Engine.keeps_print hR hP _)) fun _ => ih

theorem keeps_list (leaf : ObjectId) : Keeps A R (list leaf) := by
  refine keeps_get_bind fun r hw => ?_
  rcases r.tree.tags leaf with - | ⟨tag, tags⟩
  · exact keeps_onEngine (Engine.keeps_print hR hP _) r hw
  · exact keeps_listTags hR hP _ (tag :: tags) r hw

theorem keeps_listEach (leaves : List ObjectId) : Keeps A R (listEach leaves) := by
  induction leaves with
  | nil => exact keeps_pure hR ()
  | cons leaf leaves ih => exact keeps_bind hR (keeps_list hR hP leaf) fun _ => ih

end Listing

section Scheduler

variable {α β : Type} {A : Action → Prop} {P : Entry → Prop} {R : Engine → Engine → Prop}
  (hR : Engine.Respected A P R) (hP : ∀ {x : Entry}, x.Alone → P x)

include hR hP

theorem keeps_violate (v : Violation) : Keeps A R (violate v : Act α) :=
  keeps_onEngine (Engine.keeps_violation hR (fun h => hP h.alone) v)

theorem keeps_onTree {build : Tree.Build α} (hb : Tree.Retains A build) :
    Keeps A R (onTree build) := by
  intro r hw
  have ht := hb r.tree hw.2
  unfold onTree
  rcases ho : build r.tree with ⟨a, t⟩ | ⟨_ | _, t⟩ <;> rw [ho] at ht
  · exact ⟨⟨hw.1, ht⟩, hR.refl r.engine⟩
  · exact keeps_violate hR hP _ { r with tree := t } ⟨hw.1, ht⟩
  · exact keeps_violate hR hP _ { r with tree := t } ⟨hw.1, ht⟩

/-- What is done with what an operation gives may make use of how it came about. -/
theorem lands_onTree_bind {build : Tree.Build α} (hb : Tree.Retains A build) {f : α → Act β}
    {r : Run} (hw : r.Within A) (hf : ∀ a t, build r.tree = .ok a t → Keeps A R (f a)) :
    Lands (Leads A R r) ((onTree build >>= f) r) := by
  have hkeeps := keeps_onTree hR hP hb r hw
  rcases ho : onTree build r with ⟨a, r₁⟩ | ⟨stop, r₁⟩ <;> rw [ho] at hkeeps
  · obtain ⟨t, hbuild, -⟩ := onTree_eq_ok.mp ho
    rw [bind_of_ok ho]
    exact (hf a t hbuild r₁ hkeeps.1).mono fun _ => leads_trans hR hkeeps
  · rw [bind_of_error ho]
    exact hkeeps.of_error

omit hP in
theorem keeps_addLines (lines : List Engine.Line) : Keeps A R (addLines lines) :=
  keeps_modify hR (fun _ => rfl) fun _ => rfl

/-! ### Prerequisites -/

section Resolver

variable {resolve : ObjectId → Act Verdict} (hresolve : ∀ case, Keeps A R (resolve case))

include hresolve

omit hP in
theorem keeps_resolveLeaves (outcome : Verdict) (leaves : List ObjectId) :
    Keeps A R (resolveLeaves resolve outcome leaves) := by
  induction leaves generalizing outcome with
  | nil => exact keeps_pure hR _
  | cons leaf leaves ih =>
    exact keeps_bind hR (hresolve leaf) fun v => keeps_get_bind fun r =>
      keeps_ite (keeps_pure hR v) (ih _) r

omit hP in
theorem keeps_resolveDependency (dependency : ObjectId) :
    Keeps A R (resolveDependency resolve dependency) :=
  keeps_get_bind fun r =>
    keeps_ite (keeps_resolveLeaves hR hresolve _ _) (hresolve dependency) r

theorem keeps_resolveAll (case : ObjectId) (state : Prerequisites) (dependencies : List ObjectId) :
    Keeps A R (resolveAll resolve case state dependencies) := by
  induction dependencies generalizing state with
  | nil => exact keeps_pure hR _
  | cons dependency others ih =>
    intro r hw
    by_cases hsibling : r.tree.Sibling case dependency
    · rw [resolveAll_of_sibling hsibling]
      exact keeps_bind hR (keeps_resolveDependency hR hresolve dependency)
        (fun v => keeps_get_bind fun r => keeps_ite (keeps_pure hR _) (ih _) r) r hw
    · rw [resolveAll_of_stranger hsibling]
      exact keeps_violate hR hP _ r hw

end Resolver

/-! ### Cases -/

theorem keeps_settle (mode : Mode) (case : ObjectId) (blocked : Option Verdict) :
    Keeps A R (settle mode case blocked) := by
  refine keeps_get_bind fun r hw => ?_
  have hunrun : ∀ v : Verdict, Keeps A R (do
      addLines (← onEngine (Engine.reportUnrun case (r.tree.path case) (r.reported + 1)
        (r.tree.tags case) v))
      pure v) := fun v =>
    keeps_bind hR (keeps_onEngine (Engine.keeps_reportUnrun hR (fun h => hP h.alone) _ _ _ _ v))
      fun lines =>
      keeps_bind hR (keeps_addLines hR lines) fun _ => keeps_pure hR v
  rcases blocked with - | v
  · dsimp only
    split
    · exact hunrun _ r hw
    · refine lands_onTree_bind hR hP (Tree.retains_takeBody case) hw fun taken t htake => ?_
      rcases taken with - | body
      · exact keeps_violate hR hP _
      · obtain ⟨c, hc, hbody, -⟩ := Tree.takeBody_eq_ok.mp htake
        have hs : ∀ s ∈ body.scripts, Script.Within A s := fun s hs =>
          hw.2 case c hc s (List.mem_append_left _ (by rw [hbody]; exact hs))
        exact keeps_bind hR (keeps_onEngine (Engine.keeps_runCase hR hP _ _ _ _ _ hs))
          fun outcome => keeps_bind hR (keeps_addLines hR outcome.2) fun _ =>
            keeps_pure hR outcome.1
  · exact hunrun v r hw

theorem keeps_tearDown (case : ObjectId) : Keeps A R (tearDown case) := by
  refine keeps_bind hR (keeps_onTree hR hP (Tree.retains_takeBody case)) fun _ r hw => ?_
  refine lands_onTree_bind hR hP (Tree.retains_takeTeardown case) hw fun taken t htake => ?_
  rcases taken with - | script
  · exact keeps_pure hR ()
  · obtain ⟨c, hc, hscript, -⟩ := Tree.takeTeardown_eq_ok.mp htake
    have hs : Script.Within A script :=
      hw.2 case c hc script (List.mem_append_right _ (by rw [hscript]; exact List.mem_singleton_self _))
    refine keeps_onEngine (Engine.keeps_get_bind fun e hw => ?_)
    have hnoted : Engine.Keeps A R (do
        Engine.note (.tearingDown case e.isActive (e.chain.map Installed.id))
        Engine.perform script) :=
      Engine.keeps_bind hR (Engine.keeps_note hR (hP trivial)) fun _ =>
        Engine.keeps_script hR (fun h => hP h.alone) hs
    exact hnoted e hw

theorem keeps_conclude (mode : Mode) (case : ObjectId) (v : Verdict) :
    Keeps A R (conclude mode case v) := by
  refine keeps_bind hR (keeps_onTree hR hP (Tree.retains_setResult case v)) fun _ =>
    keeps_bind hR (keeps_onEngine (Engine.keeps_note hR (hP trivial))) fun _ =>
      keeps_bind hR (keeps_modify hR (fun _ => rfl) fun _ => rfl) fun _ =>
        keeps_ite ?_ (keeps_pure hR ())
  exact keeps_get_bind fun r =>
    keeps_bind hR (keeps_onEngine (Engine.keeps_print hR (fun h => hP h.alone) _))
      (fun _ => keeps_modify hR (fun _ => rfl) fun _ => rfl) r

theorem keeps_finish (mode : Mode) (case : ObjectId) (blocked : Option Verdict) :
    Keeps A R (finish mode case blocked) :=
  keeps_bind hR (keeps_settle hR hP mode case blocked) fun v =>
    keeps_bind hR (keeps_tearDown hR hP case) fun _ =>
      keeps_bind hR (keeps_conclude hR hP mode case v) fun _ => keeps_pure hR v

theorem keeps_followUp (mode : Mode) (case : ObjectId) (state : Prerequisites) :
    Keeps A R (followUp mode case state) := by
  rcases state with v | v | -
  · exact keeps_bind hR (keeps_modify hR (fun _ => rfl) fun _ => rfl) fun _ => keeps_pure hR v
  · exact keeps_finish hR hP mode case (some v)
  · exact keeps_finish hR hP mode case none

theorem keeps_resolveWithin (mode : Mode) (bound : Nat) (case : ObjectId) :
    Keeps A R (resolveWithin mode bound case) := by
  induction bound generalizing case with
  | zero => exact fun r _ => trivial
  | succ bound ih =>
    intro r hw
    rcases hresult : r.tree.result? case with - | v
    · rcases hfirst : r.resolving.contains case with - | -
      · rw [resolveWithin_of_first hresult hfirst]
        exact keeps_bind hR (keeps_resolveAll hR hP ih case .met _) (keeps_followUp hR hP mode case)
          (r.opened case) hw
      · rw [resolveWithin_of_circular hresult hfirst]
        exact keeps_violate hR hP _ r hw
    · rw [resolveWithin_of_resolved hresult]
      exact ⟨hw, hR.refl r.engine⟩

theorem keeps_resolve (mode : Mode) (case : ObjectId) : Keeps A R (resolve mode case) :=
  keeps_get_bind fun r => keeps_resolveWithin hR hP mode _ case r

/-! ### Whole runs -/

theorem keeps_resolveEach (mode : Mode) (leaves : List ObjectId) :
    Keeps A R (resolveEach mode leaves) := by
  induction leaves with
  | nil => exact keeps_pure hR ()
  | cons leaf leaves ih =>
    have hrest : Keeps A R (do
        let _ ← resolve mode leaf
        resolveEach mode leaves) :=
      keeps_bind hR (keeps_resolve hR hP mode leaf) fun _ => ih
    exact keeps_get_bind fun r => keeps_ite (keeps_pure hR ()) hrest r

theorem keeps_suite (mode : Mode) (root : ObjectId) : Keeps A R (suite mode root) := by
  refine keeps_get_bind fun r hw => ?_
  rcases r.tree.node? root with - | n
  · exact keeps_violate hR hP _ r hw
  · have hrun : Keeps A R (do
        onEngine (Engine.print (Tap.plan (planned r.tree (r.tree.leaves root))))
        resolveEach mode (r.tree.leaves root)) :=
      keeps_bind hR (keeps_onEngine (Engine.keeps_print hR (fun h => hP h.alone) _)) fun _ =>
        keeps_resolveEach hR hP mode _
    exact keeps_ite (keeps_listEach hR (fun h => hP h.alone) _) hrun r hw

end Scheduler

end Run

namespace Engine

variable {A : Action → Prop} {P : Entry → Prop} {R : Engine → Engine → Prop}
  (hR : Respected A P R) (hP : ∀ {x : Entry}, x.Alone → P x)

/-- Before a run, the console and the flags are set as the mode says. -/
theorem keeps_prepare (hR : Respected A P R) (hP : ∀ {x : Entry}, x.Quiet → P x) {mode : Mode}
    (hmode : ∀ e : Engine, R e
      { e with console := ⟨mode.verbosity, mode.colours⟩, flags := mode.flags }) :
    Keeps A R (prepare mode) :=
  keeps_bind hR (keeps_intercept hR hP) fun _ e hw => ⟨hw, hmode e⟩

include hR hP

theorem keeps_runSuite (mode : Mode) {t : Tree} (ht : t.Within A) (root : ObjectId) :
    Keeps A R (runSuite mode t root) := by
  intro e hw
  have hsuite := Run.keeps_suite hR hP mode root ⟨t, e, .empty, 0, []⟩ ⟨hw, ht⟩
  unfold runSuite
  rcases ho : Run.suite mode root ⟨t, e, .empty, 0, []⟩ with
    ⟨_, r⟩ | ⟨_ | _ | _ | _, r⟩ <;> rw [ho] at hsuite
  · exact ⟨hsuite.1.1, hsuite.2⟩
  · exact ⟨hsuite.1.1, hsuite.2⟩
  all_goals trivial

/-- A relation that is respected relates the states before and after a whole run. -/
theorem keeps_run {mode : Mode}
    (hmode : ∀ e : Engine, R e
      { e with console := ⟨mode.verbosity, mode.colours⟩, flags := mode.flags })
    {t : Tree} (ht : t.Within A) (root : ObjectId) : Keeps A R (run mode t root) :=
  keeps_bind hR (keeps_prepare hR (fun h => hP h.plain.alone) hmode) fun _ =>
    keeps_runSuite hR hP mode ht root

end Engine

end TestEngine
