/-
TestEngine/Proofs/Path/Prefix.lean

The order of paths.  One path begins another if its elements begin the other's.  Of the paths
that a history has made, this can be told from their texts as well: the text of the one is that of
the other, or begins it right before a `/` (`PrefixOrder.textual_iff`).  A text that ends within an
element of another does not count, and no element holds a `/`, so no more is needed.

To begin one another orders the paths of a history, and those that begin the same path stand in a
row (`prefixOrder_of_calls`).
-/
import TestEngine.Proofs.Path.Registers

namespace TestEngine

namespace PathRegisters

/-- Asked whether the path in register `i` starts with the one in register `j`, the registers say
yes. -/
def Starts (r : PathRegisters) (i j : Nat) : Prop := (r.apply (.startsWith i j)).1 = .truth true

/-- Asked whether the paths in two registers are equal, the registers say yes. -/
def Equal (r : PathRegisters) (i j : Nat) : Prop := (r.apply (.equal i j)).1 = .truth true

/-- The paths in the registers, in the order of which begins which. -/
structure PrefixOrder (r : PathRegisters) : Prop where
  /-- The order is that of the texts, cut before a `/`. -/
  textual_iff : ∀ {i j s t}, (r.write i).1 = some s → (r.write j).1 = some t →
    (r.Starts i j ↔ s = t ∨ ∃ rest, s = t ++ "/" ++ rest)
  refl : ∀ {i p}, r.elements[i]? = some p → r.Starts i i
  trans : ∀ {i j k}, r.Starts i j → r.Starts j k → r.Starts i k
  antisymm : ∀ {i j}, r.Starts i j → r.Starts j i → r.Equal i j
  /-- Of two paths that begin the same one, one begins the other. -/
  comparable : ∀ {i j k}, r.Starts i j → r.Starts i k → r.Starts j k ∨ r.Starts k j

variable {r : PathRegisters} {i j : Nat} {p q : List String}

theorem starts_iff_of_elements (hp : r.elements[i]? = some p) (hq : r.elements[j]? = some q) :
    r.Starts i j ↔ q <+: p := by
  obtain ⟨cell, hcell, rfl⟩ := getElem?_elements.mp hp
  obtain ⟨cell', hcell', rfl⟩ := getElem?_elements.mp hq
  have hanswer : r.apply (.startsWith i j) = (.truth (cell.path.startsWith cell'.path), r) := by
    simp [apply, withCell, hcell, hcell']
  rw [Starts, hanswer, Outcome.truth.injEq, Path.startsWith_iff]

/-- Only about registers that there are is there an answer. -/
theorem starts_iff : r.Starts i j ↔
    ∃ p q, r.elements[i]? = some p ∧ r.elements[j]? = some q ∧ q <+: p := by
  constructor
  · intro h
    rcases next_cases r (.step (.startsWith i j)) with ⟨-, heffect⟩ | ⟨hrefused, -, -⟩
    · generalize (r.next (.step (.startsWith i j))).elements = es at heffect
      cases heffect with
      | startsWith hp hq => exact ⟨_, _, hp, hq, (starts_iff_of_elements hp hq).mp h⟩
    · have hanswered : r.refuses (.step (.startsWith i j)) = false := congrArg Outcome.isFailure h
      exact absurd (hrefused.symm.trans hanswered) (by simp)
  · rintro ⟨p, q, hp, hq, hprefix⟩
    exact (starts_iff_of_elements hp hq).mpr hprefix

/-- Whatever has been done with paths, they are ordered by which begins which, and the texts show
it. -/
theorem prefixOrder_of_calls (calls : List Call) : PrefixOrder (after calls) := by
  have hsound := sound_after calls
  refine ⟨?_, ?_, ?_, ?_, ?_⟩
  · intro i j s t hs ht
    obtain ⟨p, hp, rfl⟩ := hsound.exists_of_write hs
    obtain ⟨q, hq, rfl⟩ := hsound.exists_of_write ht
    rw [starts_iff_of_elements hp hq]
    exact Path.prefix_iff_render (p := ⟨p⟩) (q := ⟨q⟩)
      (hsound.valid p (List.mem_of_getElem? hp)) (hsound.valid q (List.mem_of_getElem? hq))
  · intro i p hp
    exact (starts_iff_of_elements hp hp).mpr List.prefix_rfl
  · intro i j k hij hjk
    obtain ⟨p, q, hp, hq, hqp⟩ := starts_iff.mp hij
    obtain ⟨q', t, hq', ht, htq⟩ := starts_iff.mp hjk
    cases hq.symm.trans hq'
    exact starts_iff.mpr ⟨p, t, hp, ht, htq.trans hqp⟩
  · intro i j hij hji
    obtain ⟨p, q, hp, hq, hqp⟩ := starts_iff.mp hij
    have hpq : p <+: q := (starts_iff_of_elements hq hp).mp hji
    have hsame : p = q := hpq.eq_of_length (Nat.le_antisymm hpq.length_le hqp.length_le)
    rw [Equal, apply_equal hp hq, decide_eq_true hsame]
  · intro i j k hij hik
    obtain ⟨p, q, hp, hq, hqp⟩ := starts_iff.mp hij
    obtain ⟨p', t, hp', ht, htp⟩ := starts_iff.mp hik
    cases hp.symm.trans hp'
    rcases List.prefix_or_prefix_of_prefix hqp htp with hqt | htq
    · exact .inr ((starts_iff_of_elements ht hq).mpr hqt)
    · exact .inl ((starts_iff_of_elements hq ht).mpr htq)

end PathRegisters

end TestEngine
