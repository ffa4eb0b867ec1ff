/-
TestEngine/Proofs/Run/Assertions.lean

The assertions of the scheduler never fail.  It takes for granted

* that a case has a body until it is run, and no result until it is finished;
* that what it resolves is a case;
* that the names of objects and the tags of subunits are elements of paths.

Nothing that scripts do can change that (`assured_of_calls`).  Whenever a case starts being
resolved, the cases being resolved are different and none of them has been tried (`Pending`); so
when it is the turn of a case, all that is asked of the tree and of its path is granted
(`Granted`).  If a run stops all the same, it does so because a script stops, or because the graph
of dependencies, the root or the hooks are not as they should be.
-/
import TestEngine.Proofs.Run.Halt

namespace TestEngine

/-- What the assertions of the scheduler raise: a result is stored twice, a body is missing,
something is no case, an element is refused by a path. -/
def Violation.IsInternal : Violation → Prop
  | .resolvedTwice => True
  | .bodyConsumed _ => True
  | .tree _ => True
  | .invalidElement _ => True
  | _ => False

/-! ### Paths -/

namespace Tree

variable {t t' : Tree}

/-- Every path is put together from names that are accepted, and accepts the tags of its case. -/
structure Spelled (t : Tree) : Prop where
  top : ∀ {id name}, t.name? id = some name → t.parent? id = none →
    Path.ofElement name = .ok (t.path id)
  nested : ∀ {id p name}, t.name? id = some name → t.parent? id = some p →
    (t.path p).push name = .ok (t.path id)
  tagged : ∀ {id tag}, tag ∈ t.tags id → ∃ p, (t.path id).push tag = .ok p

theorem push_of_isElement {p p' : Path} {element : String} (h : isElement element = true)
    (hp : p'.elements = p.elements ++ [element]) : p.push element = .ok p' := by
  unfold Path.push
  rw [if_pos h, ← hp]

theorem Sound.spelled (h : t.Sound) : t.Spelled where
  top hn hp := push_of_isElement (h.forest.isElement hn) (h.forest.path_of_top hp hn)
  nested hn hp := push_of_isElement (h.forest.isElement hn) (h.forest.path_of_parent hp hn)
  tagged htag := ⟨_, push_of_isElement (Run.isElement_of_mem_tags h htag) rfl⟩

/-- Paths and tags stay as they are in a run. -/
theorem Spelled.of_static (h : t.Spelled) (hstatic : t'.static = t.static) : t'.Spelled where
  top {id name} hn hp := by
    rw [name?_eq_of_static hstatic] at hn
    rw [parent?_eq_of_static hstatic] at hp
    rw [path_eq_of_static hstatic]
    exact h.top hn hp
  nested {id p name} hn hp := by
    rw [name?_eq_of_static hstatic] at hn
    rw [parent?_eq_of_static hstatic] at hp
    rw [path_eq_of_static hstatic, path_eq_of_static hstatic]
    exact h.nested hn hp
  tagged {id tag} htag := by
    rw [tags_eq_of_static hstatic] at htag
    rw [path_eq_of_static hstatic]
    exact h.tagged htag

end Tree

namespace Run

variable {mode : Mode} {t : Tree} {root case c : ObjectId} {e : Engine} {bound : Nat}
  {blocked : Option Verdict} {data : CaseData} {stop : Stop} {r r' : Run}

/-! ### What is asked of the tree -/

/-- In a run that has printed its plan a case starts being resolved, which leads to the last
state. -/
def Opens (mode : Mode) (root : ObjectId) (r : Run) (c : ObjectId) (r' : Run) : Prop :=
  ∃ l r₁ bound r₂, Among (resolve mode) (r.tree.leaves root) r l r₁ ∧
    Meets mode (r₁.tree.size + 1) l r₁ (bound + 1) c r₂ ∧ r₂.tree.result? c = none ∧
      r₂.resolving.contains c = false ∧ r' = r₂.opened c

/-- From there the run goes on with the dependencies of the case. -/
theorem Opens.resumes (hgoes : r.isOver = false) (h : Opens mode root r c r') : ∃ bound,
    Resumes (resolveEach mode (r.tree.leaves root)) r
      (resolveAll (resolveWithin mode bound) c .met (r'.tree.dependencies c) >>= followUp mode c)
      r' := by
  obtain ⟨l, r₁, bound, r₂, hl, hmeets, hnone, hfirst, rfl⟩ := h
  have hresolve : Resumes (resolve mode l) r₁ (resolveWithin mode (bound + 1) c) r₂ :=
    .trans (.of_eq rfl) hmeets.resumes
  exact ⟨bound, (hl.resolveEach hgoes).trans
    (hresolve.trans (.of_eq (resolveWithin_of_first hnone hfirst)))⟩

/-- The cases being resolved are different, and each has its body still, and no result yet. -/
structure Pending (r : Run) : Prop where
  nodup : r.resolving.Nodup
  untried : ∀ x ∈ r.resolving, ∃ data, r.tree.case? x = some data ∧ data.result = none ∧
    data.body.isSome = true

/-- When it is the turn of a case, all that is asked of the tree for it is granted. -/
structure Granted (mode : Mode) (case : ObjectId) (blocked : Option Verdict) (r : Run) : Prop where
  pending : Pending r
  spelled : r.tree.Spelled
  /-- The body is there, it has the tags of the case, and the case can be asked for its
  expectations after that. -/
  body : ∃ body data, Tree.takeBody case r.tree = .ok (some body) (r.taken case).tree ∧
    body.tags = r.tree.tags case ∧
      Tree.getCase case (r.taken case).tree = .ok data (r.taken case).tree
  /-- Whatever the body has done, both scripts can be taken out of the case. -/
  dropped : ∀ {v r₁}, settle mode case blocked r = .ok v r₁ → ∃ body script t₂ t₃,
    Tree.takeBody case r₁.tree = .ok body t₂ ∧ Tree.takeTeardown case t₂ = .ok script t₃
  /-- Whatever the teardown has done, the result can be stored. -/
  stored : ∀ {v r₁ r₂}, settle mode case blocked r = .ok v r₁ → tearDown case r₁ = .ok () r₂ →
    ∃ t, Tree.setResult case v r₂.tree = .ok () t

theorem Ongoing.pending (ht : t.Sound) (h : Ongoing mode t e r)
    (hcases : ∀ x ∈ r.resolving, (t.case? x).isSome = true) : Pending r := by
  refine ⟨h.nodup, fun x hx => ?_⟩
  -- it has no result, so nothing has touched it since the run began
  obtain ⟨data, hdata, hunrun⟩ := h.unrun ht (h.unresolved x hx) (hcases x hx)
  obtain ⟨body, hbody, -⟩ := hunrun.body
  refine ⟨data, hdata, hunrun.result, ?_⟩
  rw [hbody]
  rfl

theorem pending_of_opens (ht : t.Sound)
    (h : Opens mode root (start t (announced t root e)) c r) : Pending r := by
  obtain ⟨l, r₁, bound, r₂, hl, hmeets, hnone, hfirst, rfl⟩ := h
  have hplace := (standing_of_among ht hl).meets ht hmeets
  exact (hplace.opened hnone hfirst).pending ht hplace.cases

/-- The scripts can be taken out of a case whatever has been taken out before. -/
theorem taken_of_case? (hcase : r.tree.case? case = some data) : ∃ body script t₁ t₂,
    Tree.takeBody case r.tree = .ok body t₁ ∧ Tree.takeTeardown case t₁ = .ok script t₂ := by
  obtain ⟨t₁, htake⟩ : ∃ t₁, Tree.takeBody case r.tree = .ok data.body t₁ :=
    ⟨_, Tree.takeBody_eq_ok.mpr ⟨data, hcase, rfl, rfl⟩⟩
  obtain ⟨_, -, -, -, hcase₁⟩ := Tree.takeBody_spec htake
  exact ⟨_, _, t₁, _, htake, Tree.takeTeardown_eq_ok.mpr ⟨_, hcase₁, rfl, rfl⟩⟩

theorem granted_of_unrun (hpending : Pending r) (hspelled : r.tree.Spelled)
    (hcase : r.tree.case? case = some data) (hunrun : data.Unrun) :
    Granted mode case blocked r := by
  obtain ⟨body, hbody, hfits, -⟩ := hunrun.body
  have htake : Tree.takeBody case r.tree = .ok (some body) (r.taken case).tree :=
    Tree.takeBody_eq_ok.mpr ⟨data, hcase, hbody, rfl⟩
  obtain ⟨_, -, -, -, hcase₁⟩ := Tree.takeBody_spec htake
  refine ⟨hpending, hspelled, ⟨body, _, htake, ?_, Tree.getCase_eq_ok.mpr ⟨hcase₁, rfl⟩⟩,
    fun hsettle => ?_, fun hsettle htear => ?_⟩
  · rw [hfits, Tree.tags, hcase]
  · -- it is still a case when its body has run, and that is all that taking its scripts needs
    obtain ⟨data₁, hcase₁, -⟩ := (teardown_of_settle hsettle).mpr ⟨data, hcase, rfl⟩
    exact taken_of_case? hcase₁
  · have hnone : r.tree.result? case = none := (Tree.result?_of_case? hcase).trans hunrun.result
    exact setResult_of_tearDown hnone hsettle htear _

theorem granted_of_comes (ht : t.Sound)
    (h : Comes mode root (start t (announced t root e)) c blocked r) : Granted mode c blocked r := by
  obtain ⟨l, r₁, hl, hturn⟩ := h
  -- the case is one of those being resolved, so that it is as untouched as they are
  obtain ⟨hplace, hmem, hcases⟩ := (standing_of_among ht hl).turn ht hturn
  obtain ⟨data, hdata, hunrun⟩ := hplace.unrun ht (hplace.unresolved c hmem) (hcases c hmem)
  exact granted_of_unrun (hplace.pending ht hcases) (ht.spelled.of_static hplace.extends.static)
    hdata hunrun

/-! ### Why runs stop -/

theorem Stalls.cases (h : Stalls mode case blocked r stop) :
    (∃ x e, Due mode case blocked r x e ∧ x.Stops e stop) ∨
      ∃ v, stop = .unwound (.violation v) ∧ ¬ v.IsInternal := by
  rcases h with ⟨hdue, hstop⟩ | ⟨-, -, -, -, -, rfl | rfl⟩
  · exact .inl ⟨_, _, hdue, hstop⟩
  · exact .inr ⟨_, rfl, id⟩
  · exact .inr ⟨_, rfl, id⟩

theorem not_isInternal_objection (t : Tree) (case d : ObjectId) :
    ¬ (t.objection case d).IsInternal := by
  unfold Tree.objection
  split <;> exact id

theorem Halted.cases (h : Halted mode t root e stop) :
    (∃ x e₁, Sends mode root (start t (announced t root e)) x e₁ ∧ x.Stops e₁ stop) ∨
      ∃ v, stop = .unwound (.violation v) ∧ ¬ v.IsInternal := by
  rcases h with - | ⟨hl, - | - | ⟨hturn, hstalls⟩⟩
  · exact .inr ⟨_, rfl, id⟩
  · exact .inr ⟨_, rfl, id⟩
  · exact .inr ⟨_, rfl, not_isInternal_objection _ _ _⟩
  · refine hstalls.cases.imp_left ?_
    rintro ⟨x, e₁, hdue, hstop⟩
    exact ⟨x, e₁, ⟨_, _, _, ⟨_, _, hl, hturn⟩, hdue⟩, hstop⟩

/-! ### Whole runs -/

/-- The assertions of the scheduler hold in a run. -/
structure Assured (mode : Mode) (t : Tree) (root : ObjectId) (e : Engine) : Prop where
  spelled : t.Spelled
  opened : ∀ {c r}, Opens mode root (start t (announced t root e)) c r → Pending r
  granted : ∀ {c blocked r}, Comes mode root (start t (announced t root e)) c blocked r →
    Granted mode c blocked r
  /-- If the run stops, then it is a script that does, or else no assertion has been violated. -/
  stopped : ∀ {stop e'}, Engine.runSuite mode t root e = .error stop e' →
    (∃ x e₁, Sends mode root (start t (announced t root e)) x e₁ ∧ x.Stops e₁ stop) ∨
      ∃ v, stop = .unwound (.violation v) ∧ ¬ v.IsInternal

/-- In no run, of no tree that can be built, does an assertion of the scheduler fail. -/
theorem assured_of_calls (calls : List Tree.Call) (mode : Mode) (root : ObjectId) (e : Engine) :
    Assured mode (Tree.ofCalls calls) root e := by
  have ht := Tree.sound_ofCalls calls
  generalize Tree.ofCalls calls = t at *
  refine ⟨ht.spelled, pending_of_opens ht, granted_of_comes ht, fun hstop => ?_⟩
  -- it stops while its cases are resolved or listed, and why it may do so has been explained
  obtain ⟨r, hsuite, -⟩ := runSuite_eq_error.mp hstop
  have hexplained := explained_suite ht mode root e
  rw [hsuite] at hexplained
  exact hexplained.cases

end Run

end TestEngine
