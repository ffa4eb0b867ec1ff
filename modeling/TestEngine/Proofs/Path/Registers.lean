/-
TestEngine/Proofs/Path/Registers.lean

Histories of paths.  Paths are made and changed in registers, and each remembers the text
that it was last written as.  A history is a list of calls (`PathRegisters.Call`): steps, which
write nothing of their own accord, and writings in between, wherever they are asked for.

What a call makes of the paths is said by `Call.Effect`, over plain lists of elements and without
texts.  A call that has an effect has just that one, and any other is refused and changes nothing
(`next_cases`).  As for the texts, after a call every register is an old one, or an old one that
has now been written, or has no text at all (`mem_cells_next`).  So whenever a path is written,
the text is that of its elements as they are (`faithful_of_calls`), and so is every text that a
run shows (`text_eq_of_run`).
-/
import TestEngine.Path.Registers
import TestEngine.Proofs.Path.Reading

namespace TestEngine

namespace PathRegisters

/-! ### Histories -/

/-- A call to the registers: a step, or to write a register. -/
inductive Call
  | step (s : Step)
  | write (reg : Nat)

/-- Has the step failed? -/
def Outcome.isFailure : Outcome → Bool
  | .register _ => false
  | .truth _ => false
  | .malformed _ => true
  | .invalidElement _ => true
  | .noSuchRegister => true

/-- Is the call refused? -/
def refuses (r : PathRegisters) : Call → Bool
  | .step s => (r.apply s).1.isFailure
  | .write reg => (r.write reg).1.isNone

/-- The registers after a call. -/
def next (r : PathRegisters) : Call → PathRegisters
  | .step s => (r.apply s).2
  | .write reg => (r.write reg).2

/-- The registers after a history, in which there were none at first. -/
def after (calls : List Call) : PathRegisters := calls.foldl next empty

theorem after_append (calls more : List Call) :
    after (calls ++ more) = more.foldl next (after calls) := List.foldl_append

theorem after_concat (calls : List Call) (c : Call) : after (calls ++ [c]) = (after calls).next c :=
  after_append calls [c]

/-- The elements of the paths, register by register. -/
def elements (r : PathRegisters) : List (List String) := r.cells.map fun c => c.path.elements

/-- The register whose path the call changes, if it changes one. -/
def Call.target? : Call → Option Nat
  | .step (.push reg _) => some reg
  | .step (.prepend reg _) => some reg
  | .step (.appendPath reg _) => some reg
  | .step (.prependPath reg _) => some reg
  | _ => none

/-- What a call makes of the elements `es` of the paths. -/
inductive Call.Effect (es : List (List String)) : Call → List (List String) → Prop
  | new : Effect es (.step .new) (es ++ [[]])
  | ofElement {e : String} (he : isElement e = true) :
      Effect es (.step (.ofElement e)) (es ++ [[e]])
  | parse {p : List String} {s : String} (hs : Path.Spells p s) :
      Effect es (.step (.parse s)) (es ++ [p])
  | clone {reg : Nat} {p : List String} (hp : es[reg]? = some p) :
      Effect es (.step (.clone reg)) (es ++ [p])
  | join {reg : Nat} {p : List String} {e : String} (hp : es[reg]? = some p)
      (he : isElement e = true) : Effect es (.step (.join reg e)) (es ++ [p ++ [e]])
  | push {reg : Nat} {p : List String} {e : String} (hp : es[reg]? = some p)
      (he : isElement e = true) : Effect es (.step (.push reg e)) (es.set reg (p ++ [e]))
  | prepend {reg : Nat} {p : List String} {e : String} (hp : es[reg]? = some p)
      (he : isElement e = true) : Effect es (.step (.prepend reg e)) (es.set reg (e :: p))
  | appendPath {reg other : Nat} {p q : List String} (hp : es[reg]? = some p)
      (hq : es[other]? = some q) : Effect es (.step (.appendPath reg other)) (es.set reg (p ++ q))
  | prependPath {reg other : Nat} {p q : List String} (hp : es[reg]? = some p)
      (hq : es[other]? = some q) : Effect es (.step (.prependPath reg other)) (es.set reg (q ++ p))
  | startsWith {reg other : Nat} {p q : List String} (hp : es[reg]? = some p)
      (hq : es[other]? = some q) : Effect es (.step (.startsWith reg other)) es
  | equal {reg other : Nat} {p q : List String} (hp : es[reg]? = some p)
      (hq : es[other]? = some q) : Effect es (.step (.equal reg other)) es
  | write {reg : Nat} {p : List String} (hp : es[reg]? = some p) : Effect es (.write reg) es

/-! ### One call -/

variable {r : PathRegisters} {c : Call} {es es' : List (List String)} {p : List String}

theorem getElem?_elements {reg : Nat} :
    r.elements[reg]? = some p ↔ ∃ cell, r.cells[reg]? = some cell ∧ cell.path.elements = p := by
  rw [elements, List.getElem?_map, Option.map_eq_some_iff]

theorem getElem?_elements_eq_none {reg : Nat} (h : r.cells[reg]? = none) :
    r.elements[reg]? = none := by
  rw [elements, List.getElem?_map, h]
  rfl

/-- What a step comes to: a register is made, or its path is replaced, or a question answered, or
the step is refused. -/
inductive Comes (r : PathRegisters) (s : Step) : Outcome × PathRegisters → Prop
  | made {cell : PathCell} (hcell : cell ∈ r.cells ∨ cell = .ofPath cell.path)
      (h : (Call.step s).Effect r.elements (r.elements ++ [cell.path.elements])) :
      Comes r s (r.create cell)
  | changed {reg : Nat} {path : Path}
      (h : (Call.step s).Effect r.elements (r.elements.set reg path.elements)) :
      Comes r s (r.assign reg path)
  | answered (holds : Bool) (h : (Call.step s).Effect r.elements r.elements) :
      Comes r s (.truth holds, r)
  | refused {o : Outcome} (hfail : o.isFailure = true)
      (h : ∀ es, ¬ (Call.step s).Effect r.elements es) : Comes r s (o, r)

/-- The registers that the step reads. -/
def Step.reads : Step → List Nat
  | .new | .ofElement _ | .parse _ => []
  | .clone reg | .join reg _ | .push reg _ | .prepend reg _ => [reg]
  | .appendPath reg other | .prependPath reg other => [reg, other]
  | .startsWith reg other | .equal reg other => [reg, other]

/-- The element that the step adds to a path, or makes one of. -/
def Step.element? : Step → Option String
  | .ofElement e | .join _ e | .push _ e | .prepend _ e => some e
  | _ => none

section Comes

variable {s : Step}

/-- A step that reads a register which there is not has no effect. -/
theorem Call.Effect.reads (h : (Call.step s).Effect es es') :
    ∀ reg ∈ s.reads, es[reg]? ≠ none := by
  have hone : ∀ {reg : Nat} {p}, es[reg]? = some p → ∀ i ∈ [reg], es[i]? ≠ none := by
    intro reg p hp i hi
    rw [List.mem_singleton.mp hi, hp]
    exact Option.some_ne_none p
  have htwo : ∀ {reg other : Nat} {p q}, es[reg]? = some p → es[other]? = some q →
      ∀ i ∈ [reg, other], es[i]? ≠ none := fun hp hq =>
    List.forall_mem_cons.mpr ⟨hone hp _ (List.mem_singleton_self _), hone hq⟩
  cases h with
  | new | ofElement | parse => exact fun _ hreg => nomatch hreg
  | clone hp | join hp _ | push hp _ | prepend hp _ => exact hone hp
  | appendPath hp hq | prependPath hp hq | startsWith hp hq | equal hp hq => exact htwo hp hq

/-- Neither has a step that adds what is no element. -/
theorem Call.Effect.element (h : (Call.step s).Effect es es') :
    ∀ e, s.element? = some e → isElement e = true := by
  -- the effects that add an element are those with a condition on it
  intro e he
  cases h <;> cases he <;> assumption

theorem comes_withCell {reg : Nat} {k : PathCell → Outcome × PathRegisters}
    (hreg : reg ∈ s.reads)
    (hk : ∀ cell, r.elements[reg]? = some cell.path.elements → cell ∈ r.cells →
      Comes r s (k cell)) : Comes r s (r.withCell reg k) := by
  unfold withCell
  rcases hcell : r.cells[reg]? with - | cell
  · exact .refused rfl fun es h => h.reads reg hreg (getElem?_elements_eq_none hcell)
  · exact hk cell (getElem?_elements.mpr ⟨cell, hcell, rfl⟩) (List.mem_of_getElem? hcell)

theorem comes_accepting {e : String} {changed : Path} {k : Path → Outcome × PathRegisters}
    (helement : s.element? = some e) (hk : isElement e = true → Comes r s (k changed)) :
    Comes r s (r.accepting (if isElement e then .ok changed else .error ⟨e⟩) k) := by
  by_cases he : isElement e = true
  · rw [if_pos he]
    exact hk he
  · rw [if_neg he]
    exact .refused rfl fun es h => he (h.element e helement)

/-- Steps that read two registers. -/
theorem comes_withCells {reg other : Nat} {k : PathCell → PathCell → Outcome × PathRegisters}
    (hreads : s.reads = [reg, other])
    (hk : ∀ c d : PathCell, r.elements[reg]? = some c.path.elements →
      r.elements[other]? = some d.path.elements → Comes r s (k c d)) :
    Comes r s (r.withCell reg fun c => r.withCell other fun d => k c d) :=
  comes_withCell (by simp [hreads]) fun c hp _ =>
    comes_withCell (by simp [hreads]) fun d hq _ => hk c d hp hq

/-- Steps that add an element to the path in a register. -/
theorem comes_withElement {reg : Nat} {e : String} {changed : PathCell → Path}
    {k : Path → Outcome × PathRegisters} (hreads : s.reads = [reg])
    (helement : s.element? = some e)
    (hk : ∀ c : PathCell, r.elements[reg]? = some c.path.elements → isElement e = true →
      Comes r s (k (changed c))) :
    Comes r s (r.withCell reg fun c =>
      r.accepting (if isElement e then .ok (changed c) else .error ⟨e⟩) k) :=
  comes_withCell (by simp [hreads]) fun c hp _ => comes_accepting helement (hk c hp)

theorem comes_apply (r : PathRegisters) (s : Step) : Comes r s (r.apply s) := by
  cases s with
  | new => exact .made (.inr rfl) .new
  | ofElement e => exact comes_accepting rfl fun he => .made (.inr rfl) (.ofElement he)
  | parse input =>
    rcases hread : Path.parse input with bad | ⟨p⟩
    · simp only [apply, hread]
      refine .refused rfl fun es h => ?_
      cases h with
      | parse hs => exact absurd (hread.symm.trans (Path.parse_of_spells hs)) (by simp)
    · simp only [apply, hread]
      exact .made (.inr rfl) (.parse (Path.spells_of_parse hread))
  | clone reg =>
    exact comes_withCell (List.mem_singleton_self _)
      fun _ hp hcell => .made (.inl hcell) (.clone hp)
  | join reg e => exact comes_withElement rfl rfl fun _ hp he => .made (.inr rfl) (.join hp he)
  | push reg e => exact comes_withElement rfl rfl fun _ hp he => .changed (.push hp he)
  | prepend reg e => exact comes_withElement rfl rfl fun _ hp he => .changed (.prepend hp he)
  | appendPath reg other => exact comes_withCells rfl fun _ _ hp hq => .changed (.appendPath hp hq)
  | prependPath reg other =>
    exact comes_withCells rfl fun _ _ hp hq => .changed (.prependPath hp hq)
  | startsWith reg other =>
    exact comes_withCells rfl fun _ _ hp hq => .answered _ (.startsWith hp hq)
  | equal reg other => exact comes_withCells rfl fun _ _ hp hq => .answered _ (.equal hp hq)

end Comes

/-- A call has at most one effect. -/
theorem Call.Effect.unique {es₁ es₂ : List (List String)} (h : c.Effect es es₁)
    (h' : c.Effect es es₂) : es₁ = es₂ := by
  cases h with
  | new => cases h' with
    | new => rfl
  | ofElement _ => cases h' with
    | ofElement _ => rfl
  | parse hs => cases h' with
    | parse hs' => cases (Path.parse_of_spells hs).symm.trans (Path.parse_of_spells hs'); rfl
  | clone hp => cases h' with
    | clone hp' => cases hp.symm.trans hp'; rfl
  | join hp _ => cases h' with
    | join hp' _ => cases hp.symm.trans hp'; rfl
  | push hp _ => cases h' with
    | push hp' _ => cases hp.symm.trans hp'; rfl
  | prepend hp _ => cases h' with
    | prepend hp' _ => cases hp.symm.trans hp'; rfl
  | appendPath hp hq => cases h' with
    | appendPath hp' hq' => cases hp.symm.trans hp'; cases hq.symm.trans hq'; rfl
  | prependPath hp hq => cases h' with
    | prependPath hp' hq' => cases hp.symm.trans hp'; cases hq.symm.trans hq'; rfl
  | startsWith _ _ => cases h' with
    | startsWith _ _ => rfl
  | equal _ _ => cases h' with
    | equal _ _ => rfl
  | write _ => cases h' with
    | write _ => rfl

theorem elements_create (cell : PathCell) :
    (r.create cell).2.elements = r.elements ++ [cell.path.elements] := by
  simp [create, elements]

theorem elements_assign (reg : Nat) (path : Path) :
    (r.assign reg path).2.elements = r.elements.set reg path.elements := by
  simp [assign, elements, List.map_set, PathCell.ofPath]

/-- Writing leaves the paths alone. -/
theorem elements_written {reg : Nat} {cell : PathCell} (hcell : r.cells[reg]? = some cell) :
    elements ⟨r.cells.set reg cell.written⟩ = r.elements := by
  have hsame : r.elements.set reg cell.path.elements = r.elements := by
    have hp : r.elements[reg]? = some cell.path.elements := getElem?_elements.mpr ⟨cell, hcell, rfl⟩
    obtain ⟨hlt, hget⟩ := List.getElem?_eq_some_iff.mp hp
    rw [← hget, List.set_getElem_self]
  rw [← hsame]
  simp [elements, List.map_set, PathCell.written]

/-- A call comes to its effect, or else it is refused and changes nothing. -/
theorem next_cases (r : PathRegisters) (c : Call) :
    (r.refuses c = false ∧ c.Effect r.elements (r.next c).elements) ∨
      (r.refuses c = true ∧ (∀ es, ¬ c.Effect r.elements es) ∧ r.next c = r) := by
  cases c with
  | step s =>
    show ((r.apply s).1.isFailure = false ∧
        (Call.step s).Effect r.elements (r.apply s).2.elements) ∨
      ((r.apply s).1.isFailure = true ∧ (∀ es, ¬ (Call.step s).Effect r.elements es) ∧
        (r.apply s).2 = r)
    have hcomes := comes_apply r s
    generalize r.apply s = result at hcomes ⊢
    cases hcomes with
    | made _ h =>
      rw [← elements_create] at h
      exact .inl ⟨rfl, h⟩
    | changed h =>
      rw [← elements_assign] at h
      exact .inl ⟨rfl, h⟩
    | answered _ h => exact .inl ⟨rfl, h⟩
    | refused hfail h => exact .inr ⟨hfail, h, rfl⟩
  | write reg =>
    rcases hcell : r.cells[reg]? with - | cell
    · refine .inr ⟨by simp [refuses, write, hcell], fun es h => ?_, by simp [next, write, hcell]⟩
      cases h with
      | write hp => exact absurd ((getElem?_elements_eq_none hcell).symm.trans hp) (by simp)
    · have hnext : r.next (.write reg) = ⟨r.cells.set reg cell.written⟩ := by
        simp [next, write, hcell]
      refine .inl ⟨by simp [refuses, write, hcell], ?_⟩
      rw [hnext, elements_written hcell]
      exact .write (getElem?_elements.mpr ⟨cell, hcell, rfl⟩)

/-- An effect on the path of one register is none on those of the others. -/
theorem Call.Effect.getElem? (h : c.Effect es es') {reg : Nat} (hreg : c.target? ≠ some reg)
    (hp : es[reg]? = some p) : es'[reg]? = some p := by
  have hmade : ∀ q, (es ++ [q])[reg]? = some p := by
    intro q
    rw [List.getElem?_append_left (List.getElem?_eq_some_iff.mp hp).1]
    exact hp
  have hchanged : ∀ {i : Nat} q, some i ≠ some reg → (es.set i q)[reg]? = some p := by
    intro i q hne
    rw [List.getElem?_set_ne fun heq => hne (congrArg some heq)]
    exact hp
  cases h with
  | new | ofElement | parse | clone | join => exact hmade _
  | push | prepend | appendPath | prependPath => exact hchanged _ hreg
  | startsWith | equal | write => exact hp

/-- Effects keep elements valid. -/
theorem Call.Effect.valid (h : c.Effect es es') (hes : ∀ p ∈ es, ∀ e ∈ p, isElement e = true) :
    ∀ p ∈ es', ∀ e ∈ p, isElement e = true := by
  have hget : ∀ {reg : Nat} {p}, es[reg]? = some p → ∀ e ∈ p, isElement e = true := fun hp =>
    hes _ (List.mem_of_getElem? hp)
  have hmade : ∀ q : List String, (∀ e ∈ q, isElement e = true) →
      ∀ p ∈ es ++ [q], ∀ e ∈ p, isElement e = true := by
    intro q hq p hp
    rcases List.mem_append.mp hp with hp | hp
    · exact hes p hp
    · rw [List.mem_singleton.mp hp]
      exact hq
  have hchanged : ∀ (i : Nat) (q : List String), (∀ e ∈ q, isElement e = true) →
      ∀ p ∈ es.set i q, ∀ e ∈ p, isElement e = true := by
    intro i q hq p hp
    rcases List.mem_or_eq_of_mem_set hp with hp | rfl
    · exact hes p hp
    · exact hq
  have hjoined : ∀ {p q : List String}, (∀ e ∈ p, isElement e = true) →
      (∀ e ∈ q, isElement e = true) → ∀ e ∈ p ++ q, isElement e = true := by
    intro p q hp hq e he
    rcases List.mem_append.mp he with he | he
    · exact hp e he
    · exact hq e he
  cases h with
  | new => exact hmade _ (by simp)
  | ofElement he => exact hmade _ (by simpa using he)
  | parse hs => exact hmade _ hs.valid
  | clone hp => exact hmade _ (hget hp)
  | join hp he => exact hmade _ (hjoined (hget hp) (by simpa using he))
  | push hp he => exact hchanged _ _ (hjoined (hget hp) (by simpa using he))
  | prepend hp he => exact hchanged _ _ (List.forall_mem_cons.mpr ⟨he, hget hp⟩)
  | appendPath hp hq => exact hchanged _ _ (hjoined (hget hp) (hget hq))
  | prependPath hp hq => exact hchanged _ _ (hjoined (hget hq) (hget hp))
  | startsWith | equal | write => exact hes

/-- After a call each register is an old one, or an old one that has been written, or it has no
text. -/
theorem mem_cells_next {cell : PathCell} (h : cell ∈ (r.next c).cells) :
    cell ∈ r.cells ∨ (∃ old ∈ r.cells, cell = old.written) ∨ cell = .ofPath cell.path := by
  cases c with
  | step s =>
    have hcell : cell ∈ (r.apply s).2.cells := h
    have hcomes := comes_apply r s
    generalize r.apply s = result at hcomes hcell
    cases hcomes with
    | made hmade _ =>
      rcases List.mem_append.mp hcell with hcell | hcell
      · exact .inl hcell
      · rw [List.mem_singleton.mp hcell]
        rcases hmade with hold | hnew
        · exact .inl hold
        · exact .inr (.inr hnew)
    | changed _ =>
      rcases List.mem_or_eq_of_mem_set hcell with hcell | rfl
      · exact .inl hcell
      · exact .inr (.inr rfl)
    | answered _ _ | refused _ _ => exact .inl hcell
  | write reg =>
    rcases hreg : r.cells[reg]? with - | old
    · exact .inl (by simpa [next, write, hreg] using h)
    · have hcell : cell ∈ r.cells.set reg old.written := by simpa [next, write, hreg] using h
      rcases List.mem_or_eq_of_mem_set hcell with hcell | rfl
      · exact .inl hcell
      · exact .inr (.inl ⟨old, List.mem_of_getElem? hreg, rfl⟩)

/-! ### A whole history -/

/-- All elements are valid, and what the registers remember is how their paths are written. -/
structure Sound (r : PathRegisters) : Prop where
  valid : ∀ p ∈ r.elements, ∀ e ∈ p, isElement e = true
  holds : ∀ cell ∈ r.cells, cell.Holds cell.path

theorem sound_empty : Sound empty := ⟨fun _ hp => (nomatch hp), fun _ hcell => (nomatch hcell)⟩

theorem Sound.next (h : r.Sound) (c : Call) : (r.next c).Sound := by
  refine ⟨?_, fun cell hcell => ?_⟩
  · rcases next_cases r c with ⟨-, heffect⟩ | ⟨-, -, hsame⟩
    · exact heffect.valid h.valid
    · rw [hsame]
      exact h.valid
  · rcases mem_cells_next hcell with hcell | ⟨old, hold, rfl⟩ | hnew
    · exact h.holds cell hcell
    · exact (h.holds old hold).written
    · rw [hnew]
      exact PathCell.holds_ofPath _

theorem Sound.foldl (h : r.Sound) (calls : List Call) :
    (calls.foldl PathRegisters.next r).Sound := by
  induction calls generalizing r with
  | nil => exact h
  | cons c calls ih => exact ih (h.next c)

theorem sound_after (calls : List Call) : (after calls).Sound := sound_empty.foldl calls

/-- A path stays as it is while calls change others. -/
theorem getElem?_foldl {reg : Nat} (hp : r.elements[reg]? = some p) {calls : List Call}
    (hcalls : ∀ c ∈ calls, c.target? ≠ some reg) :
    (calls.foldl next r).elements[reg]? = some p := by
  induction calls generalizing r with
  | nil => exact hp
  | cons c calls ih =>
    refine ih ?_ fun d hd => hcalls d (List.mem_cons_of_mem c hd)
    rcases next_cases r c with ⟨-, heffect⟩ | ⟨-, -, hsame⟩
    · exact heffect.getElem? (hcalls c (List.mem_cons_self ..)) hp
    · rw [hsame]
      exact hp

/-- A path that is written gives its text as it is now. -/
theorem Sound.write_eq (h : r.Sound) {reg : Nat} (hp : r.elements[reg]? = some p) :
    (r.write reg).1 = some (Path.render ⟨p⟩) := by
  obtain ⟨cell, hcell, rfl⟩ := getElem?_elements.mp hp
  have htext : cell.render = cell.path.render :=
    (h.holds cell (List.mem_of_getElem? hcell)).render_eq
  simp [write, hcell, htext]

/-- A text that is written is that of a path. -/
theorem Sound.exists_of_write (h : r.Sound) {reg : Nat} {text : String}
    (hwrite : (r.write reg).1 = some text) :
    ∃ p, r.elements[reg]? = some p ∧ Path.render ⟨p⟩ = text := by
  rcases hcell : r.cells[reg]? with - | cell
  · exact absurd hwrite (by simp [write, hcell])
  · have hp : r.elements[reg]? = some cell.path.elements := getElem?_elements.mpr ⟨cell, hcell, rfl⟩
    exact ⟨_, hp, Option.some.inj ((h.write_eq hp).symm.trans hwrite)⟩

/-- What is answered to the question whether two paths are equal. -/
theorem apply_equal {i j : Nat} {q : List String} (hp : r.elements[i]? = some p)
    (hq : r.elements[j]? = some q) : (r.apply (.equal i j)).1 = .truth (decide (p = q)) := by
  obtain ⟨cell, hcell, rfl⟩ := getElem?_elements.mp hp
  obtain ⟨cell', hcell', rfl⟩ := getElem?_elements.mp hq
  have hpaths : (cell.path == cell'.path) = decide (cell.path.elements = cell'.path.elements) := by
    rw [Bool.eq_iff_iff, beq_iff_eq, decide_eq_true_iff, Path.mk.injEq]
  simp [apply, withCell, hcell, hcell', hpaths]

/-- The paths of a history, as they are at its end and as they go on from there. -/
structure Faithful (calls : List Call) : Prop where
  /-- All elements are valid. -/
  valid : ∀ p ∈ (after calls).elements, ∀ e ∈ p, isElement e = true
  /-- A path is written as its elements are now, with `/` before each. -/
  written : ∀ {reg p}, (after calls).elements[reg]? = some p →
    ((after calls).write reg).1 = some (String.join (p.map ("/" ++ ·)))
  /-- A call that can be carried out comes to its effect, -/
  effect : ∀ {c es}, c.Effect (after calls).elements es →
    (after calls).refuses c = false ∧ (after (calls ++ [c])).elements = es
  /-- and any other is refused and changes nothing. -/
  refused : ∀ {c}, (∀ es, ¬ c.Effect (after calls).elements es) →
    (after calls).refuses c = true ∧ after (calls ++ [c]) = after calls
  /-- A path stays as it is while others are changed, wherever they have come from. -/
  undisturbed : ∀ {reg p more}, (after calls).elements[reg]? = some p →
    (∀ c ∈ more, c.target? ≠ some reg) → (after (calls ++ more)).elements[reg]? = some p
  /-- Paths are equal just if they are written alike. -/
  equal_iff : ∀ {i j s t}, ((after calls).write i).1 = some s → ((after calls).write j).1 = some t →
    (((after calls).apply (.equal i j)).1 = .truth true ↔ s = t)
  /-- What a path with elements is written as is read as that path. -/
  readBack : ∀ {reg p s}, (after calls).elements[reg]? = some p → p ≠ [] →
    ((after calls).write reg).1 = some s → Path.parse s = .ok ⟨p⟩

/-- Whatever is done with paths, what each remembers is never stale and never another's. -/
theorem faithful_of_calls (calls : List Call) : Faithful calls := by
  have hsound := sound_after calls
  have hvalid : ∀ {reg p}, (after calls).elements[reg]? = some p → ∀ e ∈ p, isElement e = true :=
    fun hp => hsound.valid _ (List.mem_of_getElem? hp)
  refine ⟨hsound.valid, ?_, ?_, ?_, ?_, ?_, ?_⟩
  · intro reg p hp
    rw [hsound.write_eq hp]
    exact congrArg some (Path.render_eq ⟨p⟩)
  · intro c es h
    rw [after_concat]
    rcases next_cases (after calls) c with ⟨hdone, heffect⟩ | ⟨-, hnone, -⟩
    · exact ⟨hdone, heffect.unique h⟩
    · exact absurd h (hnone es)
  · intro c h
    rw [after_concat]
    rcases next_cases (after calls) c with ⟨-, heffect⟩ | ⟨hrefused, -, hsame⟩
    · exact absurd heffect (h _)
    · exact ⟨hrefused, hsame⟩
  · intro reg p more hp hmore
    rw [after_append]
    exact getElem?_foldl hp hmore
  · intro i j s t hs ht
    obtain ⟨p, hp, rfl⟩ := hsound.exists_of_write hs
    obtain ⟨q, hq, rfl⟩ := hsound.exists_of_write ht
    -- paths are compared by their elements, which can be told from the text
    rw [apply_equal hp hq, Outcome.truth.injEq, decide_eq_true_iff]
    constructor
    · rintro rfl
      rfl
    · intro h
      exact congrArg Path.elements (Path.render_inj (hvalid hp) (hvalid hq) h)
  · intro reg p s hp hne hs
    obtain rfl : Path.render ⟨p⟩ = s := Option.some.inj ((hsound.write_eq hp).symm.trans hs)
    exact Path.parse_render ⟨hne, hvalid hp⟩

/-! ### Steps that show -/

theorem shown_eq (r : PathRegisters) (reg : Nat) : (r.shown reg).2 = (r.write reg).2 := by
  rcases hcell : r.cells[reg]? with - | cell <;> simp [shown, write, hcell]

/-- To show a register is to write it. -/
theorem step_eq (r : PathRegisters) (s : Step) :
    ∃ calls : List Call, (r.step s).2 = calls.foldl next r := by
  have hnext : r.next (.step s) = (r.apply s).2 := rfl
  rcases happly : r.apply s with ⟨reg | holds | bad | bad | -, r'⟩ <;> rw [happly] at hnext
  · refine ⟨[.step s, .write reg], ?_⟩
    simp only [step, happly, List.foldl_cons, List.foldl_nil, hnext]
    exact shown_eq r' reg
  all_goals exact ⟨[.step s], by simp only [step, happly, List.foldl_cons, List.foldl_nil, hnext]⟩

theorem Sound.step (h : r.Sound) (s : Step) : (r.step s).2.Sound := by
  obtain ⟨calls, hcalls⟩ := step_eq r s
  rw [hcalls]
  exact h.foldl calls

theorem Sound.text_eq_of_step (h : r.Sound) {s : Step} {reg : Nat} {path : Path} {text : String}
    (hreply : (r.step s).1 = .cell reg path text) : text = path.render := by
  have hsound : ((r.apply s).2).Sound := h.next (.step s)
  rcases happly : r.apply s with ⟨reg' | holds | bad | bad | -, r'⟩ <;>
    simp only [PathRegisters.step, happly] at hreply hsound
  · rcases hcell : r'.cells[reg']? with - | cell
    · exact absurd hreply (by simp [shown, hcell])
    · simp only [shown, PathRegisters.write, hcell, Reply.cell.injEq] at hreply
      obtain ⟨-, rfl, rfl⟩ := hreply
      exact (hsound.holds cell (List.mem_of_getElem? hcell)).render_eq
  all_goals exact absurd hreply (by simp)

/-- Whenever a run shows a register, the text is that of the path shown with it. -/
theorem text_eq_of_run (steps : List Step) {reg : Nat} {path : Path} {text : String}
    (h : .cell reg path text ∈ (empty.run steps).1) : text = path.render := by
  have hrun : ∀ (steps : List Step) (r : PathRegisters), r.Sound →
      .cell reg path text ∈ (r.run steps).1 → text = path.render := by
    intro steps
    induction steps with
    | nil => exact fun r _ hmem => absurd hmem (by simp [run])
    | cons s steps ih =>
      intro r hr hmem
      rcases List.mem_cons.mp hmem with hfirst | hlater
      · exact hr.text_eq_of_step hfirst.symm
      · exact ih _ (hr.step s) hlater
  exact hrun steps empty sound_empty h

end PathRegisters

end TestEngine
