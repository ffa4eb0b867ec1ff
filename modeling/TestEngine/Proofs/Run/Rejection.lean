/-
TestEngine/Proofs/Run/Rejection.lean

A run ends on every graph of dependencies, and it rejects exactly those that are ill-formed
(`rejects_iff_illFormed`).  A graph is ill-formed if one of the cases that are involved in the
run depends on something that is no sibling of it, or on itself, be it through other cases.

The cases being resolved are a path in the graph that leads to the case whose turn it is: each
waits for the next one (`awaits_of_meets`).  So meeting one of them again closes a cycle, and this
and a dependency that is no sibling are the only reasons for which a run stops if all errands
behave (`illFormed_of_halts`).  Conversely, the cases that a run has resolved are closed under
waiting, and what a case waits for was resolved before it was, so a run that returns has met no
reason.
-/
import TestEngine.Proofs.Run.Behaved
import TestEngine.Proofs.Run.Halt

namespace TestEngine

open Relation

/-! ### Graphs -/

namespace Tree

variable {t : Tree} {root c l : ObjectId}

/-- The case depends on the other one, or on a suite that the other one is in. -/
def Awaits (t : Tree) (c l : ObjectId) : Prop := ∃ d ∈ t.dependencies c, l ∈ t.leaves d

/-- The case is at or below the root, or one of those depends on it, be it through others. -/
def Involved (t : Tree) (root c : ObjectId) : Prop :=
  ∃ l ∈ t.leaves root, ReflTransGen t.Awaits l c

/-- A case is involved that depends on something that is no sibling of it, or on itself. -/
def IllFormed (t : Tree) (root : ObjectId) : Prop :=
  ∃ c, t.Involved root c ∧ ((∃ d ∈ t.dependencies c, ¬ t.Sibling c d) ∨ TransGen t.Awaits c c)

end Tree

namespace Run

variable {mode : Mode} {t : Tree} {root case : ObjectId} {e : Engine} {r r' : Run}

/-! ### Runs that return -/

/-- Of what a run has resolved, all that is awaited has been resolved. -/
theorem resolved_of_awaits {ss : List Settlement} (h : t.Sound)
    (hprogress : Progress mode (start t e) ss r) {c l : ObjectId}
    (hc : (r.tree.result? c).isSome = true) (hl : t.Awaits c l) :
    (r.tree.result? l).isSome = true := by
  obtain ⟨s, hs, rfl⟩ := hprogress.mem_of_result? (h.result?_eq_none c) hc
  obtain ⟨r₁, r₂, m⟩ := hprogress.moment hs
  obtain ⟨d, hd, hleaf⟩ := hl
  exact m.later.isSome_result? (m.isSome_result? h.forest hd hleaf)

theorem resolved_of_path {ss : List Settlement} (h : t.Sound)
    (hprogress : Progress mode (start t e) ss r) {c l : ObjectId}
    (hc : (r.tree.result? c).isSome = true) (hl : ReflTransGen t.Awaits c l) :
    (r.tree.result? l).isSome = true := by
  induction hl with
  | refl => exact hc
  | tail _ hstep ih => exact resolved_of_awaits h hprogress ih hstep

/-- A run that has resolved all cases asked for has met nothing that is ill-formed. -/
theorem not_illFormed_of_resolved {ss : List Settlement} (h : t.Sound)
    (hprogress : Progress mode (start t e) ss r)
    (hleaves : ∀ l ∈ t.leaves root, (r.tree.result? l).isSome = true) : ¬ t.IllFormed root := by
  rintro ⟨c, ⟨l, hl, hpath⟩, hbad⟩
  have hc := resolved_of_path h hprogress (hleaves l hl) hpath
  obtain ⟨s, hs, rfl⟩ := hprogress.mem_of_result? (h.result?_eq_none c) hc
  obtain ⟨r₁, r₂, m⟩ := hprogress.moment hs
  rcases hbad with ⟨d, hd, hstranger⟩ | hcycle
  · exact hstranger (m.earlier.sibling.mp (m.settles.siblings d (m.dependencies ▸ hd)))
  · -- when the case was settled, all on the cycle had been resolved, the case among them
    obtain ⟨l₁, ⟨d, hd, hleaf⟩, hback⟩ := TransGen.head'_iff.mp hcycle
    obtain ⟨_, hbefore⟩ := m.before
    have hfirst := m.isSome_result? h.forest hd hleaf
    have hself := resolved_of_path h hbefore hfirst hback
    rw [m.settles.concluded.unresolved] at hself
    exact absurd hself (by simp)

/-! ### Runs that stop -/

section Judged

variable {α : Type} {V : Prop} {Q : α → Run → Prop}

/-- An effect ends with a value and in a state as described, or with a violation, and then `V`
holds. -/
def Judged (V : Prop) (Q : α → Run → Prop) : EStateM.Result Stop Run α → Prop
  | .ok a r => Q a r
  | .error (.unwound (.violation _)) _ => V
  | .error _ _ => False

theorem Judged.violated {stop : Stop} (h : Judged V Q (.error stop r)) :
    ∃ v, stop = .unwound (.violation v) ∧ V := by
  rcases stop with payload | _ | _ | _
  · rcases payload with _ | _ | _ | v
    · exact h.elim
    · exact h.elim
    · exact h.elim
    · exact ⟨v, rfl, h⟩
  all_goals exact h.elim

end Judged

section Resolve

variable {bound bound' : Nat} {c : ObjectId} (ht : t.Sound)

include ht

/-- The scheduler has come to a case along a path in the graph. -/
theorem awaits_of_meets (h : Standing mode t e bound case r) (hinvolved : t.Involved root case)
    (hpath : ∀ x ∈ r.resolving, TransGen t.Awaits x case)
    (hmeets : Meets mode bound case r bound' c r') :
    t.Involved root c ∧ ∀ x ∈ r'.resolving, TransGen t.Awaits x c := by
  induction hmeets with
  | here => exact ⟨hinvolved, hpath⟩
  | @nested _ _ case d l _ _ _ _ _ hnone hfirst hd hsibling hl _ ih =>
    obtain ⟨⟨-, hresolving⟩, hdependency, hleaf⟩ := h.reached ht hnone hfirst hd hsibling hl
    have hawaits : t.Awaits case l := ⟨d, hdependency, hleaf⟩
    obtain ⟨leaf, hleaf, hto⟩ := hinvolved
    refine ih (h.below ht hnone hfirst hd hsibling hl) ⟨leaf, hleaf, hto.tail hawaits⟩ fun x hx => ?_
    rw [hresolving] at hx
    rcases List.mem_cons.mp hx with rfl | hx
    · exact .single hawaits
    · exact (hpath x hx).tail hawaits

/-- If all errands behave, only an ill-formed graph stops the scheduler. -/
theorem illFormed_of_halts {stop : Stop} (hidle : e.context = none)
    (h : Standing mode t e bound case r) (hinvolved : t.Involved root case)
    (hpath : ∀ x ∈ r.resolving, TransGen t.Awaits x case)
    (herrands : ∀ c blocked r', Turn mode bound case r c blocked r' →
      ∀ x e₁, Due mode c blocked r' x e₁ → x.Behaves e₁)
    (hhalts : Halts mode bound case r stop) :
    ∃ v, stop = .unwound (.violation v) ∧ t.IllFormed root := by
  cases hhalts with
  | @circular _ c _ hmeets hnone hagain =>
    -- the case is met again while it is being resolved
    obtain ⟨hc, hback⟩ := awaits_of_meets ht h hinvolved hpath hmeets
    exact ⟨_, rfl, c, hc, .inr (hback c (by simpa using hagain))⟩
  | @stranger bound' c d _ _ hmeets hnone hfirst hd hstranger =>
    have hplace := h.meets ht hmeets
    have hspec : Resolves mode (resolveWithin mode bound') := resolveWithin_spec mode bound'
    have hstays := hd.stays hspec reserved_of_resolveWithin (hplace.opened hnone hfirst)
    refine ⟨_, rfl, c, (awaits_of_meets ht h hinvolved hpath hmeets).1, .inl ⟨d, ?_, ?_⟩⟩
    · rw [← Tree.dependencies_eq_of_static hplace.extends.static]
      exact hd.mem
    · exact fun hsibling => hstranger (hstays.1.extends.sibling.mpr hsibling)
  | @stalled c blocked r' _ hturn hstalls =>
    obtain ⟨hplace, hmem, hcases⟩ := h.turn ht hturn
    obtain ⟨data, hdata, hunrun⟩ := hplace.unrun ht (hplace.unresolved c hmem) (hcases c hmem)
    have hbehaves := herrands c blocked r' hturn
    exact absurd hstalls (not_stalls_of_behaves (hplace.idle hidle) hdata hunrun hbehaves)

variable (hfast : mode.failFast = false) (hidle : e.context = none)

include hfast hidle

theorem judged_resolveEach {leaves : List ObjectId} (h : Ongoing mode t e r)
    (hleaves : ∀ l ∈ leaves, l ∈ t.leaves root) (hnone : r.resolving = [])
    (herrands : ∀ l r₁, Among (resolve mode) leaves r l r₁ → ∀ c blocked r',
      Turn mode (r₁.tree.size + 1) l r₁ c blocked r' →
        ∀ x e₁, Due mode c blocked r' x e₁ → x.Behaves e₁) :
    Judged (t.IllFormed root) (fun _ => Stays mode t e r) (resolveEach mode leaves r) := by
  have hexplained : Explained (fun stop => ∃ v, stop = .unwound (.violation v) ∧ t.IllFormed root)
      (fun _ _ => True) (resolveEach mode leaves r) := by
    refine explained_resolveEach fun l r₁ hl => ?_
    have hplace := h.standing hnone (fun l hl => (ht.forest.mem_leaves.mp (hleaves l hl)).1) hl
    have hnone₁ : r₁.resolving = [] := (hl.reserved reserved_of_resolveWithin).resolving.trans hnone
    refine (explained_resolveWithin ht hplace).mono (fun stop => ?_) fun _ _ => id
    refine illFormed_of_halts ht hidle hplace ⟨l, hleaves l hl.mem, .refl⟩ ?_ (herrands l r₁ hl)
    rw [hnone₁]
    exact fun x hx => nomatch hx
  rcases ho : resolveEach mode leaves r with ⟨u, r'⟩ | ⟨stop, r'⟩
  · obtain ⟨ss, hprogress, -⟩ := resolveEach_spec ho
    exact h.stays ((hprogress.isOver_eq hfast).trans h.goes) hprogress (reserved_of_resolveEach ho)
  · rw [ho] at hexplained
    obtain ⟨v, rfl, hill⟩ := hexplained
    exact hill

end Resolve

/-! ### Whole runs -/

/-- If all errands of a run behave, the run ends: with a violation if the graph is ill-formed, and
with a summary otherwise. -/
theorem rejects_iff_illFormed (calls : List Tree.Call) (mode : Mode) (root : ObjectId) (e : Engine)
    (hlist : mode.listOnly = false) (hfast : mode.failFast = false)
    (hroot : ((Tree.ofCalls calls).node? root).isSome = true) (hidle : e.context = none)
    (herrands : ∀ x e₁, Sends mode root (start (Tree.ofCalls calls)
      (announced (Tree.ofCalls calls) root e)) x e₁ → x.Behaves e₁) :
    ((∃ v e', Engine.runSuite mode (Tree.ofCalls calls) root e =
        .error (.unwound (.violation v)) e') ↔ (Tree.ofCalls calls).IllFormed root) ∧
      (¬ (Tree.ofCalls calls).IllFormed root →
        ∃ s e', Engine.runSuite mode (Tree.ofCalls calls) root e = .ok s e') := by
  have ht := Tree.sound_ofCalls calls
  generalize Tree.ofCalls calls = t at *
  have hstart : Ongoing mode t (announced t root e) (start t (announced t root e)) :=
    ⟨rfl, ⟨[], .refl _⟩, List.nodup_nil, fun x hx => nomatch hx⟩
  have hjudged : Judged (t.IllFormed root)
      (fun _ => Stays mode t (announced t root e) (start t (announced t root e)))
      (suite mode root (start t e)) := by
    rw [suite_eq hlist hroot]
    refine judged_resolveEach (e := announced t root e) ht hfast hidle hstart (fun _ hl => hl) rfl ?_
    exact fun l r₁ hl c blocked r' hturn x e₁ hdue =>
      herrands x e₁ ⟨c, blocked, r', ⟨l, r₁, hl, hturn⟩, hdue⟩
  rcases hrun : suite mode root (start t e) with ⟨u, r⟩ | ⟨stop, r⟩
  · have hreturns := runSuite_eq_ok.mpr ⟨r, hrun, rfl, rfl⟩
    obtain ⟨-, ss, hprogress, hresolved, -⟩ := suite_spec hlist hrun
    have hover : r.isOver = false := hprogress.isOver_eq hfast
    have hwell := not_illFormed_of_resolved ht hprogress (hresolved hover)
    refine ⟨⟨?_, fun hill => absurd hill hwell⟩, fun _ => ⟨_, _, hreturns⟩⟩
    rintro ⟨v, e', hviolates⟩
    exact absurd (hreturns.symm.trans hviolates) (by simp)
  · rw [hrun] at hjudged
    obtain ⟨v, rfl, hill⟩ := hjudged.violated
    refine ⟨⟨fun _ => hill, fun _ => ⟨v, r.engine, ?_⟩⟩, fun hwell => absurd hill hwell⟩
    exact runSuite_eq_error.mpr ⟨r, hrun, rfl⟩

/-- Two cases of a suite, the first of which depends on the second, and perhaps the other way
round. -/
def pairedCalls (cyclic : Bool) : List Tree.Call :=
  [.suite "s", .addCase 0 "a" [], .addCase 0 "b" [], .addDependency 1 2] ++
    if cyclic then [.addDependency 2 1] else []

/-- The run of the first of them, when its plan is printed. -/
def pairedStart (cyclic : Bool) : Run :=
  start (Tree.ofCalls (pairedCalls cyclic)) (announced (Tree.ofCalls (pairedCalls cyclic)) 1 .initial)

/-- The case does nothing, expects nothing and has no teardown. -/
def isPlain : CaseData → Bool
  | ⟨_, some (.simple []), none, _, [], _⟩ => true
  | _ => false

theorem plain_of_isPlain {c : CaseData} (h : isPlain c = true) :
    c.body = some (.simple []) ∧ c.expectations = [] ∧ c.teardown = none := by
  unfold isPlain at h
  split at h
  · exact ⟨rfl, rfl, rfl⟩
  · nomatch h

/-- Where nobody receives what is logged, the errands of such a case behave. -/
theorem behaves_of_isPlain {blocked : Option Verdict} {x : Errand}
    (hplain : (r.tree.case? case).all isPlain = true) (hunheard : r.engine.subscriber = .none)
    (hclosed : (endOf (Engine.bracket case (r.tree.path case) (r.reported + 1)
      (r.tree.inheritedPolicies case) [] (.simple []) r.engine)).subscriber = .none)
    (h : Due mode case blocked r x e) : x.Behaves e := by
  have hlog : ∀ event {e : Engine}, e.subscriber = .none → Engine.log Engine.perform event e = .ok () e := by
    intro event e he
    refine (bind_of_ok (get_eq_ok.mpr ⟨rfl, rfl⟩)).trans ?_
    rw [he]
    rfl
  have hdata : ∀ c, r.tree.case? case = some c → isPlain c = true := fun c hc => by
    rwa [hc] at hplain
  cases h with
  | body _ hc hbody h =>
    obtain ⟨hsimple, hexpectations, -⟩ := plain_of_isPlain (hdata _ hc)
    cases hsimple.symm.trans hbody
    rw [hexpectations] at h
    cases h with
    | opening => exact ⟨_, hlog _ hunheard, rfl⟩
    | unit _ h =>
      cases h
      exact ⟨Engine.begun case _ _, rfl, .inl rfl⟩
    | closing hopen hrun =>
      cases (hlog _ hunheard).symm.trans hopen
      rw [hrun] at hclosed
      exact ⟨_, hlog _ hclosed, rfl⟩
  | teardown hsettle hc hscript =>
    obtain ⟨c, hc, hsome⟩ := (teardown_of_settle hsettle).mp ⟨_, hc, hscript⟩
    obtain ⟨-, -, hnone⟩ := plain_of_isPlain (hdata _ hc)
    nomatch hnone.symm.trans hsome

/-- It is the turn of the first case, or the scheduler is at the second one because of it. -/
theorem turn_of_paired {cyclic : Bool} {c : ObjectId} {blocked : Option Verdict}
    (h : Comes .default 1 (pairedStart cyclic) c blocked r) :
    (c = 1 ∧ ∃ state, resolveAll (resolveWithin .default 3) 1 .met [2]
      ((pairedStart cyclic).opened 1) = .ok state r) ∨
      Turn .default 3 2 ((pairedStart cyclic).opened 1) c blocked r := by
  obtain ⟨l, r₁, hl, hturn⟩ := h
  have hleaves : (pairedStart cyclic).tree.leaves 1 = [1] := by rcases cyclic <;> decide +kernel
  have hdependencies : (pairedStart cyclic).tree.dependencies 1 = [2] := by
    rcases cyclic <;> decide +kernel
  have hawaited : (pairedStart cyclic).tree.awaited 2 = [2] := by rcases cyclic <;> decide +kernel
  rw [hleaves] at hl
  obtain ⟨rfl, rfl⟩ := hl.of_singleton
  have hsize : (pairedStart cyclic).tree.size = 3 := by rcases cyclic <;> rfl
  rw [hsize] at hturn
  rcases hturn with ⟨-, -, hready, -⟩ | ⟨-, -, hd, -, hl, hturn⟩
  · rw [hdependencies] at hready
    exact .inl ⟨rfl, _, hready⟩
  · rw [hdependencies] at hd
    obtain ⟨rfl, rfl⟩ := hd.of_singleton
    rw [show ((pairedStart cyclic).opened 1).tree = (pairedStart cyclic).tree from rfl, hawaited] at hl
    obtain ⟨rfl, rfl⟩ := hl.of_singleton
    exact .inr hturn

/-- If they depend on each other, it is the turn of neither. -/
theorem not_comes_of_cyclic {c : ObjectId} {blocked : Option Verdict} :
    ¬ Comes .default 1 (pairedStart true) c blocked r := by
  intro h
  rcases turn_of_paired h with ⟨-, state, hready⟩ | hturn
  · exact absurd (isOk_of_eq hready) (by decide +kernel)
  · have hdependencies : ((pairedStart true).opened 1).tree.dependencies 2 = [1] := by decide +kernel
    have hawaited : ((pairedStart true).opened 1).tree.awaited 1 = [1] := by decide +kernel
    rcases hturn with ⟨-, -, hready, -⟩ | ⟨-, -, hd, -, hl, hturn⟩
    · exact absurd (isOk_of_eq hready) (by decide +kernel)
    · rw [hdependencies] at hd
      obtain ⟨rfl, rfl⟩ := hd.of_singleton
      rw [show (((pairedStart true).opened 1).opened 2).tree.awaited 1 = [1] from hawaited] at hl
      obtain ⟨rfl, rfl⟩ := hl.of_singleton
      have hagain : (((pairedStart true).opened 1).opened 2).resolving.contains 1 = true := rfl
      rcases hturn with ⟨-, hfirst, -, -⟩ | ⟨-, hfirst, -, -, -, -⟩
      all_goals exact absurd (hagain.symm.trans hfirst) (by simp)

/-- If they do not, each has its turn. -/
theorem behaves_of_acyclic {x : Errand} (h : Sends .default 1 (pairedStart false) x e) :
    x.Behaves e := by
  obtain ⟨c, blocked, r', hcomes, hdue⟩ := h
  rcases turn_of_paired hcomes with ⟨rfl, state, hready⟩ | hturn
  · obtain rfl : endOf _ = r' := congrArg endOf hready
    exact behaves_of_isPlain (by decide +kernel) (by decide +kernel) (by decide +kernel) hdue
  · have hdependencies : ((pairedStart false).opened 1).tree.dependencies 2 = [] := by decide +kernel
    rcases hturn with ⟨-, -, hready, -⟩ | ⟨-, -, hd, -, -, -⟩
    · obtain rfl : endOf _ = r' := congrArg endOf hready
      exact behaves_of_isPlain (by decide +kernel) (by decide +kernel) (by decide +kernel) hdue
    · rw [hdependencies] at hd
      nomatch hd

/-- The run returns if the graph is well-formed, and ends with a violation if it is not. -/
theorem rejects_of_paired :
    ¬ (Tree.ofCalls (pairedCalls false)).IllFormed 1 ∧
      ∃ v e', Engine.runSuite .default (Tree.ofCalls (pairedCalls true)) 1 .initial =
        .error (.unwound (.violation v)) e' := by
  have hwell := rejects_iff_illFormed (pairedCalls false) .default 1 .initial rfl rfl
    (by decide +kernel) rfl fun x e₁ => behaves_of_acyclic
  have hill := rejects_iff_illFormed (pairedCalls true) .default 1 .initial rfl rfl
    (by decide +kernel) rfl fun x e₁ ⟨_, _, _, hcomes, _⟩ => absurd hcomes not_comes_of_cyclic
  constructor
  · intro hbad
    obtain ⟨v, e', hviolates⟩ := hwell.1.mpr hbad
    exact absurd (not_isOk_of_eq hviolates) (by decide +kernel)
  · -- each case awaits the other one, so the first awaits itself
    have hawaits : (Tree.ofCalls (pairedCalls true)).Awaits 1 2 :=
      ⟨2, by decide +kernel, by decide +kernel⟩
    have hback : (Tree.ofCalls (pairedCalls true)).Awaits 2 1 :=
      ⟨1, by decide +kernel, by decide +kernel⟩
    exact hill.1.mpr ⟨1, ⟨1, by decide +kernel, .refl⟩, .inr (.tail (.single hawaits) hback)⟩

end Run

end TestEngine
