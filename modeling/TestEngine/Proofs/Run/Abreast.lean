/-
TestEngine/Proofs/Run/Abreast.lean

Whole runs in two engines that are kin.  Two runs of the same tree are abreast (`Abreast`) if they
differ in the engine only, and all that the tree holds keeps to the resources of the pairing.  The
scheduler looks at the tree, at the summary and at the cases being resolved, and what it has the
engine do ends in the same way in both; so runs stay abreast, and end in the same way, whether they
return or not (`parallel_suite`, `couples_runSuite`).

Of the two modes it matters only that they select the same paths, list or run, and stop at failures
or do not (`Mode.Agrees`).
-/
import TestEngine.Proofs.Run.Kin

namespace TestEngine

open Engine

/-- The modes let the same cases run. -/
structure Mode.Agrees (m m' : Mode) : Prop where
  excluded : m'.excluded = m.excluded
  failFast : m'.failFast = m.failFast
  listOnly : m'.listOnly = m.listOnly

theorem Mode.Agrees.refl (m : Mode) : m.Agrees m := ⟨rfl, rfl, rfl⟩

/-! ### Trees -/

namespace Tree

variable {k : Pairing} {t : Tree} {α : Type}

/-- The cases of the tree keep to the resources of the pairing. -/
def Permitted (k : Pairing) (t : Tree) : Prop :=
  ∀ c data, t.case? c = some data → k.Permits data

theorem permitted_updateCase {f : CaseData → CaseData} (hf : ∀ data, k.Permits data → k.Permits (f data))
    (ht : t.Permitted k) (case : ObjectId) : (t.updateCase case f).Permitted k := by
  intro c data hdata
  rw [case?_updateCase] at hdata
  split at hdata
  · obtain ⟨old, hold, rfl⟩ := Option.map_eq_some_iff.mp hdata
    exact hf old (ht c old hold)
  · exact ht c data hdata

/-- The operation leaves cases that keep to the resources of the pairing. -/
def Complies (k : Pairing) (build : Build α) : Prop :=
  ∀ t : Tree, t.Permitted k → (endOf (build t)).Permitted k

theorem complies_getCase_bind {id : ObjectId} {f : CaseData → Build α}
    (hf : ∀ c, Complies k (f c)) : Complies k (getCase id >>= f) := by
  intro t ht
  have hget := endOf_getCase id t
  rcases hc : getCase id t with ⟨c, t'⟩ | ⟨fault, t'⟩ <;> rw [hc] at hget
  · rw [bind_of_ok hc, show t' = t from hget]
    exact hf c t ht
  · rw [bind_of_error hc, show t' = t from hget]
    exact ht

theorem complies_takeBody (id : ObjectId) : Complies k (takeBody id) := by
  refine complies_getCase_bind fun c t ht => permitted_updateCase (fun data hdata => ?_) ht id
  exact ⟨fun s hs => hdata.scripts s (List.mem_append_right _ hs), hdata.expectations⟩

theorem complies_takeTeardown (id : ObjectId) : Complies k (takeTeardown id) := by
  refine complies_getCase_bind fun c t ht => permitted_updateCase (fun data hdata => ?_) ht id
  refine ⟨fun s hs => hdata.scripts s ?_, hdata.expectations⟩
  rcases List.mem_append.mp hs with hbody | hnone
  · exact List.mem_append_left _ hbody
  · nomatch hnone

theorem complies_setResult (id : ObjectId) (v : Verdict) : Complies k (setResult id v) := by
  refine complies_getCase_bind fun c t ht => ?_
  rcases c.result with - | w
  · exact permitted_updateCase (f := fun c => { c with result := some v })
      (fun data hdata => ⟨hdata.scripts, hdata.expectations⟩) ht id
  · exact ht

end Tree

namespace Run

variable {α β : Type} {k : Pairing} {mode mode' : Mode} {r r' : Run}

/-! ### Runs abreast -/

/-- Two runs that differ in the engine only, in engines that are kin. -/
structure Abreast (k : Pairing) (r r' : Run) : Prop where
  tree : r'.tree = r.tree
  summary : r'.summary = r.summary
  reported : r'.reported = r.reported
  resolving : r'.resolving = r.resolving
  engine : k.Kin r.engine r'.engine
  permitted : r.tree.Permitted k

/-- Both end with the same value, or with the same stop, and abreast. -/
inductive Ends (k : Pairing) : EStateM.Result Stop Run α → EStateM.Result Stop Run α → Prop
  | ok (a : α) {r r' : Run} (h : Abreast k r r') : Ends k (.ok a r) (.ok a r')
  | error (stop : Stop) {r r' : Run} (h : Abreast k r r') : Ends k (.error stop r) (.error stop r')

/-- The two effects end in the same way in runs that are abreast, and leave them so. -/
def Parallel (k : Pairing) (x x' : Act α) : Prop := ∀ r r', Abreast k r r' → Ends k (x r) (x' r')

theorem Abreast.isOver_eq (h : Abreast k r r') : r'.isOver = r.isOver := by
  unfold isOver
  rw [h.summary]

/-! ### Sequences -/

theorem Ends.bind {x x' : Act α} {f f' : α → Act β} (hx : Ends k (x r) (x' r'))
    (hf : ∀ a r₁ r₁', x r = .ok a r₁ → Abreast k r₁ r₁' → Ends k (f a r₁) (f' a r₁')) :
    Ends k ((x >>= f) r) ((x' >>= f') r') := by
  generalize ho : x r = o, ho' : x' r' = o' at hx
  cases hx with
  | ok a h =>
    rw [bind_of_ok ho, bind_of_ok ho']
    exact hf a _ _ ho h
  | error stop h =>
    rw [bind_of_error ho, bind_of_error ho']
    exact .error stop h

theorem parallel_bind {x x' : Act α} {f f' : α → Act β} (hx : Parallel k x x')
    (hf : ∀ a, Parallel k (f a) (f' a)) : Parallel k (x >>= f) (x' >>= f') :=
  fun r r' h => (hx r r' h).bind fun a r₁ r₁' _ => hf a r₁ r₁'

theorem parallel_pure (a : α) : Parallel k (pure a) (pure a) := fun _ _ => .ok a

theorem parallel_get_bind {f f' : Run → Act α}
    (hf : ∀ r r', Abreast k r r' → Ends k (f r r) (f' r' r')) :
    Parallel k (get >>= f) (get >>= f') :=
  hf

theorem parallel_ite {c : Prop} [Decidable c] {x x' y y' : Act α} (hx : Parallel k x x')
    (hy : Parallel k y y') : Parallel k (if c then x else y) (if c then x' else y') := by
  split
  · exact hx
  · exact hy

/-- Both runs look whether they are over. -/
theorem parallel_isOver {x x' y y' : Act α} (hx : Parallel k x x') (hy : Parallel k y y') :
    Parallel k ((get : Act Run) >>= fun r => if r.isOver then x else y)
      ((get : Act Run) >>= fun r => if r.isOver then x' else y') := by
  refine parallel_get_bind fun r r' h => ?_
  rw [h.isOver_eq]
  exact parallel_ite hx hy r r' h

theorem parallel_modify {f : Run → Run} (hf : ∀ r r', Abreast k r r' → Abreast k (f r) (f r')) :
    Parallel k (modify f) (modify f) :=
  fun r r' h => .ok () (hf r r' h)

theorem parallel_addLines (lines : List Line) : Parallel k (addLines lines) (addLines lines) := by
  refine parallel_modify fun r r' h => ?_
  exact { h with
    summary := congrArg (Summary.addAll · lines) h.summary
    reported := congrArg (· + lines.length) h.reported }

/-- The case being resolved is done with. -/
theorem parallel_drop : Parallel k (modify fun r => { r with resolving := r.resolving.drop 1 })
    (modify fun r => { r with resolving := r.resolving.drop 1 }) :=
  parallel_modify fun _ _ h => { h with resolving := congrArg (List.drop 1) h.resolving }

theorem parallel_onEngine {act act' : Engine.Act α} (hact : k.Couples act act') :
    Parallel k (onEngine act) (onEngine act') := by
  intro r r' h
  unfold onEngine
  rcases (hact _ _ h.engine).cases with
    ⟨a, e, e', ho, ho', hends⟩ | ⟨stop, e, e', ho, ho', hends⟩ <;> rw [ho, ho']
  · exact .ok a { h with engine := hends }
  · exact .error stop { h with engine := hends }

theorem parallel_violate (v : Violation) : Parallel k (violate v : Act α) (violate v) :=
  parallel_onEngine (couples_violate v)

theorem parallel_print (text : String) :
    Parallel k (onEngine (Engine.print text)) (onEngine (Engine.print text)) :=
  parallel_onEngine (couples_note rfl)

theorem parallel_onTree {build : Tree.Build α} (hbuild : Tree.Complies k build) :
    Parallel k (onTree build) (onTree build) := by
  intro r r' h
  have hleft := hbuild r.tree h.permitted
  unfold onTree
  rw [h.tree]
  rcases ho : build r.tree with ⟨a, t⟩ | ⟨_ | _, t⟩ <;> rw [ho] at hleft
  · exact .ok a { h with tree := rfl, permitted := hleft }
  · exact parallel_violate _ _ _ { h with tree := rfl, permitted := hleft }
  · exact parallel_violate _ _ _ { h with tree := rfl, permitted := hleft }

/-! ### Prerequisites -/

section Resolver

variable {resolve resolve' : ObjectId → Act Verdict}
  (hresolve : ∀ case, Parallel k (resolve case) (resolve' case))

include hresolve

theorem parallel_resolveLeaves (outcome : Verdict) (leaves : List ObjectId) :
    Parallel k (resolveLeaves resolve outcome leaves) (resolveLeaves resolve' outcome leaves) := by
  induction leaves generalizing outcome with
  | nil => exact parallel_pure outcome
  | cons leaf leaves ih =>
    exact parallel_bind (hresolve leaf) fun v => parallel_isOver (parallel_pure v) (ih _)

theorem parallel_resolveDependency (d : ObjectId) :
    Parallel k (resolveDependency resolve d) (resolveDependency resolve' d) := by
  refine parallel_get_bind fun r r' h => ?_
  rw [h.tree]
  exact parallel_ite (parallel_resolveLeaves hresolve _ _) (hresolve d) r r' h

theorem parallel_resolveAll (case : ObjectId) (state : Prerequisites)
    (dependencies : List ObjectId) : Parallel k (resolveAll resolve case state dependencies)
      (resolveAll resolve' case state dependencies) := by
  induction dependencies generalizing state with
  | nil => exact parallel_pure state
  | cons d dependencies ih =>
    refine parallel_get_bind fun r r' h => ?_
    rw [h.tree]
    dsimp only
    rcases r.tree.node? d with - | n
    · exact parallel_violate _ r r' h
    · refine parallel_ite (parallel_violate _) ?_ r r' h
      exact parallel_bind (parallel_resolveDependency hresolve d) fun v =>
        parallel_isOver (parallel_pure _) (ih _)

end Resolver

/-! ### Cases -/

section Scheduler

variable (hmodes : mode.Agrees mode')

include hmodes

theorem parallel_settle (case : ObjectId) (blocked : Option Verdict) :
    Parallel k (settle mode case blocked) (settle mode' case blocked) := by
  refine parallel_get_bind fun r r' h => ?_
  rw [h.tree, h.reported, hmodes.excluded]
  have hunrun : ∀ v : Verdict, Parallel k
      (onEngine (reportUnrun case (r.tree.path case) (r.reported + 1) (r.tree.tags case) v) >>=
        fun lines => addLines lines >>= fun _ => pure v)
      (onEngine (reportUnrun case (r.tree.path case) (r.reported + 1) (r.tree.tags case) v) >>=
        fun lines => addLines lines >>= fun _ => pure v) := fun v =>
    parallel_bind (parallel_onEngine (couples_reportUnrun (fun _ => rfl) v _)) fun lines =>
      parallel_bind (parallel_addLines lines) fun _ => parallel_pure v
  rcases blocked with - | v
  · dsimp only
    split
    · exact hunrun _ r r' h
    · -- the body that is taken is one of the tree, and so are the expectations
      refine (parallel_onTree (Tree.complies_takeBody case) r r' h).bind
        fun taken r₁ r₁' htake h₁ => ?_
      rcases taken with - | body
      · exact parallel_violate _ r₁ r₁' h₁
      · obtain ⟨t, htaken, -⟩ := onTree_eq_ok.mp htake
        obtain ⟨data, hdata, hbody, -⟩ := Tree.takeBody_eq_ok.mp htaken
        have hpermits := h.permitted case data hdata
        have hscripts : ∀ s ∈ body.scripts, Script.Within k.Allows s := fun s hs =>
          hpermits.scripts s (List.mem_append_left _ (by rw [hbody]; exact hs))
        rw [hdata]
        refine parallel_bind (parallel_onEngine ?_) (fun outcome => ?_) r₁ r₁' h₁
        · exact couples_runCase (fun _ => rfl) hscripts hpermits.expectations
        · exact parallel_bind (parallel_addLines outcome.2) fun _ => parallel_pure outcome.1
  · exact hunrun v r r' h

omit hmodes in
theorem parallel_tearDown (case : ObjectId) : Parallel k (tearDown case) (tearDown case) := by
  refine parallel_bind (parallel_onTree (Tree.complies_takeBody case)) fun _ r r' h => ?_
  -- as with bodies, what is taken has been declared
  refine (parallel_onTree (Tree.complies_takeTeardown case) r r' h).bind
    fun taken r₁ r₁' htake h₁ => ?_
  rcases taken with - | script
  · exact parallel_pure () r₁ r₁' h₁
  · obtain ⟨t, htaken, -⟩ := onTree_eq_ok.mp htake
    obtain ⟨data, hdata, hteardown, -⟩ := Tree.takeTeardown_eq_ok.mp htaken
    have hscript : ∀ s ∈ (some script).toList, Script.Within k.Allows s := fun s hs =>
      (h.permitted case data hdata).scripts s (List.mem_append_right _ (by rw [hteardown]; exact hs))
    exact parallel_onEngine (couples_cleaning hscript) r₁ r₁' h₁

theorem parallel_conclude (case : ObjectId) (v : Verdict) :
    Parallel k (conclude mode case v) (conclude mode' case v) := by
  unfold conclude
  rw [hmodes.failFast]
  refine parallel_bind (parallel_onTree (Tree.complies_setResult case v)) fun _ =>
    parallel_bind (parallel_onEngine (couples_note rfl)) fun _ =>
      parallel_bind parallel_drop fun _ => parallel_ite ?_ (parallel_pure ())
  -- both name the same case when they bail out
  refine parallel_get_bind fun r r' h => ?_
  rw [h.tree]
  refine parallel_bind (parallel_print _) (fun _ => parallel_modify fun r r' h => ?_) r r' h
  exact { h with summary := by rw [h.summary] }

theorem parallel_finish (case : ObjectId) (blocked : Option Verdict) :
    Parallel k (finish mode case blocked) (finish mode' case blocked) :=
  parallel_bind (parallel_settle hmodes case blocked) fun v =>
    parallel_bind (parallel_tearDown case) fun _ =>
      parallel_bind (parallel_conclude hmodes case v) fun _ => parallel_pure v

theorem parallel_followUp (case : ObjectId) (state : Prerequisites) :
    Parallel k (followUp mode case state) (followUp mode' case state) := by
  rcases state with v | v | -
  · exact parallel_bind parallel_drop fun _ => parallel_pure v
  · exact parallel_finish hmodes case (some v)
  · exact parallel_finish hmodes case none

theorem parallel_resolveWithin (bound : Nat) (case : ObjectId) :
    Parallel k (resolveWithin mode bound case) (resolveWithin mode' bound case) := by
  induction bound generalizing case with
  | zero => exact fun r r' h => .error .tooDeep h
  | succ bound ih =>
    -- the two runs know the same results and are in the middle of the same cases, and so go the
    -- same way
    intro r r' h
    rcases hresult : r.tree.result? case with - | v
    · have hresult' : r'.tree.result? case = none := h.tree ▸ hresult
      rcases hfirst : r.resolving.contains case with - | -
      · rw [resolveWithin_of_first hresult hfirst,
          resolveWithin_of_first hresult' (h.resolving ▸ hfirst), h.tree]
        have hopened : Abreast k (r.opened case) (r'.opened case) :=
          { h with resolving := congrArg (case :: ·) h.resolving }
        exact parallel_bind (parallel_resolveAll ih case .met _) (parallel_followUp hmodes case)
          _ _ hopened
      · rw [resolveWithin_of_circular hresult hfirst,
          resolveWithin_of_circular hresult' (h.resolving ▸ hfirst), h.tree]
        exact parallel_violate _ r r' h
    · rw [resolveWithin_of_resolved hresult, resolveWithin_of_resolved (h.tree ▸ hresult)]
      exact .ok v h

theorem parallel_resolve (case : ObjectId) :
    Parallel k (resolve mode case) (resolve mode' case) := by
  refine parallel_get_bind fun r r' h => ?_
  rw [h.tree]
  exact parallel_resolveWithin hmodes _ case r r' h

/-! ### Whole runs -/

theorem parallel_resolveEach (leaves : List ObjectId) :
    Parallel k (resolveEach mode leaves) (resolveEach mode' leaves) := by
  induction leaves with
  | nil => exact parallel_pure ()
  | cons leaf leaves ih =>
    exact parallel_isOver (parallel_pure ()) <|
      parallel_bind (parallel_resolve hmodes leaf) fun _ => ih

omit hmodes in
theorem parallel_listTags (path : Path) (tags : List String) :
    Parallel k (listTags path tags) (listTags path tags) := by
  induction tags with
  | nil => exact parallel_pure ()
  | cons tag tags ih =>
    exact parallel_bind (parallel_onEngine (couples_subpath tag)) fun p =>
      parallel_bind (parallel_print _) fun _ => ih

omit hmodes in
theorem parallel_listEach (leaves : List ObjectId) :
    Parallel k (listEach leaves) (listEach leaves) := by
  induction leaves with
  | nil => exact parallel_pure ()
  | cons leaf leaves ih =>
    refine parallel_bind (parallel_get_bind fun r r' h => ?_) fun _ => ih
    rw [h.tree]
    rcases r.tree.tags leaf with - | ⟨tag, tags⟩
    · exact parallel_print _ r r' h
    · exact parallel_listTags _ (tag :: tags) r r' h

theorem parallel_suite (root : ObjectId) : Parallel k (suite mode root) (suite mode' root) := by
  refine parallel_get_bind fun r r' h => ?_
  rw [h.tree, hmodes.listOnly]
  rcases r.tree.node? root with - | n
  · exact parallel_violate _ r r' h
  · have hrun := parallel_bind (parallel_print (k := k) (Tap.plan (planned r.tree (r.tree.leaves root))))
      fun _ => parallel_resolveEach hmodes (r.tree.leaves root)
    exact parallel_ite (parallel_listEach _) hrun r r' h

end Scheduler

end Run

namespace Engine

variable {k : Pairing} {mode mode' : Mode} {t : Tree} {root : ObjectId} {e e' : Engine} {s : Summary}

/-- A tree is run in the same way in both engines. -/
theorem couples_runSuite (hmodes : mode.Agrees mode') (ht : t.Permitted k) (root : ObjectId) :
    k.Couples (runSuite mode t root) (runSuite mode' t root) := by
  intro e e' h
  have hsuite := Run.parallel_suite hmodes root (Run.start t e) (Run.start t e')
    ⟨rfl, rfl, rfl, rfl, h, ht⟩
  unfold runSuite
  unfold Run.start at hsuite
  generalize Run.suite mode root _ = o, Run.suite mode' root _ = o' at hsuite
  cases hsuite with
  | ok _ hends => exact ⟨hends.summary, hends.engine⟩
  | error stop hends => exact ⟨rfl, hends.engine⟩

/-! ### From the start -/

/-- The engine set up for a run. -/
def prepared (mode : Mode) (e : Engine) : Engine :=
  { e with
    subscriber := .chain
    console := ⟨mode.verbosity, mode.colours⟩
    flags := mode.flags }

/-- A process whose events go elsewhere cannot run tests. -/
theorem run_of_foreign (h : e.subscriber = .foreign) :
    run mode t root e = violate .foreignSubscriber e := by
  have hintercept : intercept e = violate .foreignSubscriber e := by
    refine (bind_of_ok (get_eq_ok.mpr ⟨rfl, rfl⟩)).trans ?_
    rw [h]
  have hprepare : prepare mode e = violate .foreignSubscriber e := by
    unfold prepare
    exact (bind_of_error hintercept)
  exact bind_of_error hprepare

/-- Any other sets the engine up and runs the tree. -/
theorem run_of_hears (h : e.subscriber ≠ .foreign) :
    run mode t root e = runSuite mode t root (e.prepared mode) := by
  have hintercept : intercept e = .ok () { e with subscriber := .chain } := by
    refine (bind_of_ok (get_eq_ok.mpr ⟨rfl, rfl⟩)).trans ?_
    rcases hs : e.subscriber with _ | _ | _
    · rfl
    · exact absurd hs h
    · have hsame : { e with subscriber := .chain } = e := by rw [← hs]
      rw [hsame]
      rfl
  have hprepare : prepare mode e = .ok () (e.prepared mode) := by
    unfold prepare
    exact bind_of_ok hintercept
  exact bind_of_ok hprepare

theorem run_iff : run mode t root e = .ok s e' ↔
    e.subscriber ≠ .foreign ∧ runSuite mode t root (e.prepared mode) = .ok s e' := by
  by_cases h : e.subscriber = .foreign
  · rw [run_of_foreign h]
    simp [h, violate_eq_ok]
  · rw [run_of_hears h]
    simp [h]

/-! ### Texts -/

/-- What has been printed in the first engine has been printed in the second one. -/
theorem Pairing.Echoes.since (h : k.Echoes e e') :
    ((since k.start e).filterMap (Entry.seen? k.sees)).Sublist
      ((since k.start' e').filterMap (Entry.seen? k.sees)) := by
  obtain ⟨new, new', hnew, hnew', hsub⟩ := h
  -- journals begin with what is newest, texts are told from the oldest on
  have hfirst : e.journal = new.reverse.reverse ++ k.start.journal := by
    rw [List.reverse_reverse, hnew]
  have hsecond : e'.journal = new'.reverse.reverse ++ k.start'.journal := by
    rw [List.reverse_reverse, hnew']
  rw [since_eq hfirst, since_eq hsecond, List.filterMap_reverse, List.filterMap_reverse]
  exact hsub.reverse

theorem seen?_all : Entry.seen? (fun _ => true) = Entry.text? := by
  funext x
  cases x <;> rfl

end Engine

end TestEngine
