/-
TestEngine/Proofs/Effect.lean

How an effect that gives a value came to give it.  Every effect of the engine and of
a run is a function from a state to a value and a new state, or to an error and a new
state; the lemmas here take the equation `act s = .ok a s'` apart along the structure
of `act`, so that the proofs about runs that return read as a sequence of steps.

* `bind_eq_ok` splits a sequence into its two parts;
* the lemmas below it say what the primitive effects do;
* `Engine.pop_cases`, `Engine.release_eq_ok` say how hooks leave the chain;
* `Run.onEngine_eq_ok`, `Run.onTree_eq_ok` go down to the engine and to the tree.
-/
import TestEngine.Run.Resolve

namespace TestEngine

/-! ### Ends -/

section End

variable {ε σ α : Type}

/-- The state in which an effect ends, with a value or without one. -/
def endOf : EStateM.Result ε σ α → σ
  | .ok _ s => s
  | .error _ s => s

/-- Does an effect end with a value? -/
def isOk : EStateM.Result ε σ α → Bool
  | .ok .. => true
  | .error .. => false

/-- The value with which an effect ends, if it ends with one. -/
def valueOf : EStateM.Result ε σ α → Option α
  | .ok a _ => some a
  | .error .. => none

/-- The error with which an effect ends, if it ends with one. -/
def stopOf : EStateM.Result ε σ α → Option ε
  | .ok .. => none
  | .error stop _ => some stop

theorem isOk_of_eq {o : EStateM.Result ε σ α} {a : α} {s : σ} (h : o = .ok a s) : isOk o = true := by
  rw [h]
  rfl

theorem not_isOk_of_eq {o : EStateM.Result ε σ α} {stop : ε} {s : σ} (h : o = .error stop s) :
    isOk o = false := by
  rw [h]
  rfl

theorem eq_error_of_stopOf {o : EStateM.Result ε σ α} {stop : ε} (h : stopOf o = some stop) :
    o = .error stop (endOf o) := by
  rcases o with ⟨a, s⟩ | ⟨e, s⟩
  · exact absurd h (by simp [stopOf])
  · obtain rfl : e = stop := Option.some.inj h
    rfl

theorem eq_ok_endOf {o : EStateM.Result ε σ Unit} (h : isOk o = true) : o = .ok () (endOf o) := by
  rcases o with ⟨_, s⟩ | ⟨e, s⟩
  · rfl
  · exact absurd h (by simp [isOk])

theorem eq_ok_of_valueOf {o : EStateM.Result ε σ α} {a : α} (h : valueOf o = some a) :
    o = .ok a (endOf o) := by
  rcases o with ⟨b, s⟩ | ⟨e, s⟩
  · obtain rfl : b = a := Option.some.inj h
    rfl
  · exact absurd h (by simp [valueOf])

end End

/-! ### Sequences and primitive effects -/

section Primitive

variable {ε σ α β : Type} {s s' : σ}

theorem bind_of_ok {x : EStateM ε σ α} {f : α → EStateM ε σ β} {a : α} (h : x s = .ok a s') :
    (x >>= f) s = f a s' := by
  show EStateM.bind x f s = _
  simp only [EStateM.bind, h]

theorem bind_of_error {x : EStateM ε σ α} {f : α → EStateM ε σ β} {stop : ε}
    (h : x s = .error stop s') : (x >>= f) s = .error stop s' := by
  show EStateM.bind x f s = _
  simp only [EStateM.bind, h]

/-- What an effect leads to depends on the way it ends only. -/
theorem bind_congr_of_eq {x y : EStateM ε σ α} {f : α → EStateM ε σ β} (h : x s = y s') :
    (x >>= f) s = (y >>= f) s' := by
  rcases hx : x s with ⟨a, s₁⟩ | ⟨stop, s₁⟩
  · rw [bind_of_ok hx, bind_of_ok (h.symm.trans hx)]
  · rw [bind_of_error hx, bind_of_error (h.symm.trans hx)]

theorem bind_eq_ok {x : EStateM ε σ α} {f : α → EStateM ε σ β} {b : β} :
    (x >>= f) s = .ok b s' ↔ ∃ a s₁, x s = .ok a s₁ ∧ f a s₁ = .ok b s' := by
  rcases h : x s with ⟨a, s₁⟩ | ⟨stop, s₁⟩
  · simp [bind_of_ok h, and_assoc]
  · simp [bind_of_error h]

theorem pure_eq_ok {a b : α} : (pure a : EStateM ε σ α) s = .ok b s' ↔ a = b ∧ s = s' := by
  show EStateM.Result.ok a s = _ ↔ _
  simp

theorem get_eq_ok {a : σ} : (get : EStateM ε σ σ) s = .ok a s' ↔ s = a ∧ s = s' := by
  show EStateM.Result.ok s s = _ ↔ _
  simp

/-- An effect that reads the state first. -/
theorem get_bind_eq_ok {f : σ → EStateM ε σ β} {b : β} :
    (get >>= f) s = .ok b s' ↔ f s s = .ok b s' :=
  Iff.rfl

theorem set_eq_ok {t : σ} {u : PUnit} : (set t : EStateM ε σ PUnit) s = .ok u s' ↔ t = s' := by
  show EStateM.Result.ok PUnit.unit t = _ ↔ _
  simp

theorem modify_eq_ok {f : σ → σ} {u : PUnit} :
    (modify f : EStateM ε σ PUnit) s = .ok u s' ↔ f s = s' := by
  show EStateM.Result.ok PUnit.unit (f s) = _ ↔ _
  simp

theorem throw_eq_ok {e : ε} {a : α} : ¬ (throw e : EStateM ε σ α) s = .ok a s' := by
  show ¬ EStateM.Result.error e s = _
  simp

end Primitive

/-! ### Effects on the engine -/

namespace Engine

theorem note_eq_ok {e e' : Engine} {x : Entry} {u : Unit} :
    note x e = .ok u e' ↔ { e with journal := x :: e.journal } = e' :=
  modify_eq_ok

theorem violate_eq_ok {α : Type} {v : Violation} {e e' : Engine} {a : α} :
    ¬ violate v e = .ok a e' := by
  unfold violate unwind
  simp [bind_eq_ok, throw_eq_ok]

/-- The newest hook can be popped, and to pop any other is a violation. -/
theorem pop_cases (id : HookId) (e : Engine) :
    (∃ i older, e.chain = i :: older ∧ i.id = id ∧ pop id e = .ok () { e with chain := older }) ∨
      ((∀ i older, e.chain = i :: older → i.id ≠ id) ∧ ∃ v, pop id e = violate v e) := by
  unfold pop
  rw [bind_of_ok (get_eq_ok.mpr ⟨rfl, rfl⟩)]
  rcases hc : e.chain with - | ⟨newest, older⟩
  · exact .inr ⟨by simp, _, rfl⟩
  · by_cases hid : newest.id = id
    · simp only [hid, if_true]
      exact .inl ⟨newest, older, rfl, hid, rfl⟩
    · simp only [hid, if_false]
      refine .inr ⟨?_, _, rfl⟩
      rintro i older h
      cases h
      exact hid

/-- The guard of a hook ends by discarding the hook if its thread is unwinding, and else by popping
it. -/
theorem release_eq_ok {id : HookId} {e e' : Engine} {u : Unit} : release id e = .ok u e' ↔
    (e.unwinding = true ∧ discard id e = e') ∨
      (e.unwinding = false ∧
        ∃ i older, e.chain = i :: older ∧ i.id = id ∧ { e with chain := older } = e') := by
  unfold release
  rw [get_bind_eq_ok]
  by_cases hu : e.unwinding = true
  · simp [hu, modify_eq_ok]
  · rw [if_neg hu, or_iff_right fun h => hu h.1, and_iff_right (Bool.eq_false_iff.mpr hu)]
    rcases pop_cases id e with ⟨i, older, hc, hid, hpop⟩ | ⟨hnone, v, hpop⟩ <;> rw [hpop]
    · constructor
      · intro h
        cases h
        exact ⟨i, older, hc, hid, rfl⟩
      · rintro ⟨i', older', hc', -, rfl⟩
        cases hc.symm.trans hc'
        rfl
    · refine iff_of_false violate_eq_ok ?_
      rintro ⟨i, older, hc, hid, -⟩
      exact hnone i older hc hid

end Engine

/-! ### Effects on a run -/

namespace Run

variable {α : Type} {r r' : Run}

theorem onEngine_eq_ok {act : Engine.Act α} {a : α} :
    onEngine act r = .ok a r' ↔ ∃ e, act r.engine = .ok a e ∧ { r with engine := e } = r' := by
  unfold onEngine
  rcases act r.engine with ⟨b, e⟩ | ⟨stop, e⟩ <;> simp [and_assoc]

theorem onEngine_bind {β : Type} (x : Engine.Act α) (f : α → Engine.Act β) :
    onEngine (x >>= f) = onEngine x >>= fun a => onEngine (f a) := by
  funext r
  rcases hx : x r.engine with ⟨a, e⟩ | ⟨stop, e⟩
  · have hok : onEngine x r = .ok a { r with engine := e } := by
      unfold onEngine
      rw [hx]
    rw [bind_of_ok hok]
    unfold onEngine
    rw [bind_of_ok hx]
  · have herror : onEngine x r = .error stop { r with engine := e } := by
      unfold onEngine
      rw [hx]
    rw [bind_of_error herror]
    unfold onEngine
    rw [bind_of_error hx]

theorem violate_eq_ok {v : Violation} {a : α} : ¬ violate v r = .ok a r' := by
  unfold violate
  simp [onEngine_eq_ok, Engine.violate_eq_ok]

theorem onTree_eq_ok {build : Tree.Build α} {a : α} :
    onTree build r = .ok a r' ↔ ∃ t, build r.tree = .ok a t ∧ { r with tree := t } = r' := by
  unfold onTree
  rcases build r.tree with ⟨b, t⟩ | ⟨_ | _, t⟩ <;> simp [and_assoc, violate_eq_ok]

theorem addLines_eq_ok {lines : List Engine.Line} {u : Unit} :
    addLines lines r = .ok u r' ↔
      { r with summary := r.summary.addAll lines, reported := r.reported + lines.length } = r' :=
  modify_eq_ok

end Run

/-! ### Operations on the tree -/

namespace Tree

variable {t t' : Tree} {id : ObjectId}

theorem fail_eq_ok {α : Type} {e : TreeError} {a : α} : ¬ fail e t = .ok a t' := throw_eq_ok

theorem getCase_eq_ok {c : CaseData} : getCase id t = .ok c t' ↔ t.case? id = some c ∧ t = t' := by
  unfold getCase getNode case?
  simp only [bind_eq_ok, get_eq_ok, and_assoc, exists_and_left, exists_eq_left']
  rcases hn : t.node? id with - | n
  · simp [violate, throw_eq_ok]
  · rcases hk : n.kind with children | data
    · simp [pure_eq_ok, and_assoc, hk, fail_eq_ok, Node.case?]
    · simp [pure_eq_ok, and_assoc, hk, Node.case?]

theorem takeBody_eq_ok {b : Option Body} :
    takeBody id t = .ok b t' ↔ ∃ c, t.case? id = some c ∧ c.body = b ∧
      t.updateCase id (fun c => { c with body := none }) = t' := by
  unfold takeBody
  simp only [bind_eq_ok, getCase_eq_ok, modify_eq_ok, pure_eq_ok]
  grind

theorem takeTeardown_eq_ok {s : Option Script} :
    takeTeardown id t = .ok s t' ↔ ∃ c, t.case? id = some c ∧ c.teardown = s ∧
      t.updateCase id (fun c => { c with teardown := none }) = t' := by
  unfold takeTeardown
  simp only [bind_eq_ok, getCase_eq_ok, modify_eq_ok, pure_eq_ok]
  grind

theorem setResult_eq_ok {v : Verdict} {u : Unit} :
    setResult id v t = .ok u t' ↔ ∃ c, t.case? id = some c ∧ c.result = none ∧
      t.updateCase id (fun c => { c with result := some v }) = t' := by
  unfold setResult
  simp only [bind_eq_ok, getCase_eq_ok, and_assoc, exists_and_left, exists_eq_left']
  refine exists_congr fun c => and_congr_right fun _ => ?_
  rcases hr : c.result with - | w
  · simp [modify_eq_ok]
  · simp [bind_eq_ok, violate, throw_eq_ok]

end Tree

end TestEngine
