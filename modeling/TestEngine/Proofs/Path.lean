/-
TestEngine/Proofs/Path.lean

The written form of a path determines the path, as long as its elements are valid: a
`/` stands before each element and in none of them.  Reading the written form gives the path
back (`parse_render`).  A path begins another just if its written form does, up to an end or a
`/` (`prefix_iff_render`).
-/
import TestEngine.Path.Cell
import TestEngine.Proofs.Text.Lines

namespace TestEngine

open Text

theorem chars_of_isElement {s : String} (h : isElement s = true) :
    s.toList ≠ [] ∧ ∀ c ∈ s.toList, c ≠ '/' ∧ isBlank c = false := by
  simpa [isElement] using h

theorem slash_not_mem_of_isElement {s : String} (h : isElement s = true) : '/' ∉ s.toList :=
  fun hmem => ((chars_of_isElement h).2 '/' hmem).1 rfl

namespace Path

/-- The written form, element by element. -/
theorem render_eq (p : Path) : p.render = String.join (p.elements.map ("/" ++ ·)) := by
  have hchars : ∀ es : List String, renderChars es = (es.map ("/" ++ ·)).flatMap String.toList := by
    intro es
    induction es with
    | nil => rfl
    | cons e es ih => simp [renderChars, ih]
  apply String.toList_inj.mp
  rw [toList_render, hchars, String.toList_join]

/-- The written form of further elements is empty or starts with `/`. -/
theorem renderChars_eq_nil_or_cons (es : List String) :
    renderChars es = [] ∨ ∃ cs, renderChars es = '/' :: cs := by
  rcases es with - | ⟨e, es⟩
  · exact .inl rfl
  · exact .inr ⟨_, rfl⟩

/-- A text up to the first `/` is determined by what it starts. -/
theorem append_inj_of_slash {xs ys us vs : List Char} (hx : '/' ∉ xs) (hy : '/' ∉ ys)
    (hu : us = [] ∨ ∃ cs, us = '/' :: cs) (hv : vs = [] ∨ ∃ cs, vs = '/' :: cs)
    (h : xs ++ us = ys ++ vs) : xs = ys ∧ us = vs := by
  induction xs generalizing ys with
  | nil =>
    rcases ys with - | ⟨y, ys⟩
    · exact ⟨rfl, h⟩
    · rcases hu with rfl | ⟨cs, rfl⟩
      · exact absurd h (by simp)
      · rw [List.nil_append, List.cons_append] at h
        cases h
        exact absurd (List.mem_cons_self ..) hy
  | cons x xs ih =>
    rcases ys with - | ⟨y, ys⟩
    · rcases hv with rfl | ⟨cs, rfl⟩
      · exact absurd h (by simp)
      · rw [List.nil_append, List.cons_append] at h
        cases h
        exact absurd (List.mem_cons_self ..) hx
    · rw [List.cons_append, List.cons_append] at h
      obtain ⟨hhead, htail⟩ := List.cons.inj h
      obtain ⟨hrest, hend⟩ := ih (fun hm => hx (List.mem_cons_of_mem _ hm))
        (fun hm => hy (List.mem_cons_of_mem _ hm)) htail
      exact ⟨by rw [hhead, hrest], hend⟩

theorem renderChars_inj {es fs : List String} (he : ∀ e ∈ es, isElement e = true)
    (hf : ∀ f ∈ fs, isElement f = true) (h : renderChars es = renderChars fs) : es = fs := by
  induction es generalizing fs with
  | nil =>
    rcases fs with - | ⟨f, fs⟩
    · rfl
    · exact absurd h (by simp [renderChars])
  | cons e es ih =>
    rcases fs with - | ⟨f, fs⟩
    · exact absurd h (by simp [renderChars])
    · have hchars := (List.cons.inj h).2
      obtain ⟨hhead, hrest⟩ := append_inj_of_slash
        (slash_not_mem_of_isElement (he e (List.mem_cons_self ..)))
        (slash_not_mem_of_isElement (hf f (List.mem_cons_self ..)))
        (renderChars_eq_nil_or_cons es) (renderChars_eq_nil_or_cons fs) hchars
      rw [String.toList_inj.mp hhead, ih (fun x hx => he x (List.mem_cons_of_mem _ hx))
        (fun x hx => hf x (List.mem_cons_of_mem _ hx)) hrest]

/-- Paths of valid elements with the same written form are the same. -/
theorem render_inj {p q : Path} (hp : ∀ e ∈ p.elements, isElement e = true)
    (hq : ∀ e ∈ q.elements, isElement e = true) (h : p.render = q.render) : p = q := by
  have hchars : renderChars p.elements = renderChars q.elements := by
    rw [← toList_render, ← toList_render, h]
  exact congrArg Path.mk (renderChars_inj hp hq hchars)

/-! ### Reading the written form -/

/-- An element has no flaw, and what follows it does not come right after a `/`. -/
theorem scan_element {cs : List Char} (rest : List Char) (hne : cs ≠ [])
    (hcs : ∀ c ∈ cs, c ≠ '/' ∧ isBlank c = false) (offset : Nat) (afterSlash : Bool) :
    ∃ offset', scan offset afterSlash (cs ++ rest) = scan offset' false rest := by
  induction cs generalizing offset afterSlash with
  | nil => exact absurd rfl hne
  | cons c cs ih =>
    obtain ⟨hslash, hblank⟩ := hcs c (List.mem_cons_self ..)
    have hstep : scan offset afterSlash (c :: (cs ++ rest)) =
        scan (offset + c.utf8Size) false (cs ++ rest) := by
      rw [scan, if_neg (by simp [hblank]), if_neg (by simp [hslash]), beq_eq_false_iff_ne.mpr hslash]
    rw [List.cons_append, hstep]
    rcases cs with - | ⟨d, cs⟩
    · exact ⟨_, rfl⟩
    · exact ih (by simp) (fun c' hc' => hcs c' (List.mem_cons_of_mem c hc')) _ _

theorem scan_renderChars {es : List String} (h : ∀ e ∈ es, isElement e = true) (offset : Nat) :
    scan offset false (renderChars es) = none := by
  induction es generalizing offset with
  | nil => rfl
  | cons e es ih =>
    obtain ⟨hne, hcs⟩ := chars_of_isElement (h e (List.mem_cons_self ..))
    obtain ⟨offset', hscan⟩ := scan_element (renderChars es) hne hcs
      (offset + '/'.utf8Size) true
    have hslash : scan offset false ('/' :: (e.toList ++ renderChars es)) =
        scan (offset + '/'.utf8Size) true (e.toList ++ renderChars es) := rfl
    rw [renderChars, hslash, hscan]
    exact ih (fun x hx => h x (List.mem_cons_of_mem e hx)) offset'

theorem splitWhere_renderChars {e : String} {es : List String}
    (h : ∀ x ∈ e :: es, isElement x = true) :
    splitWhere (· == '/') (e.toList ++ renderChars es) = (e :: es).map String.toList := by
  have hsingle : ∀ x ∈ e :: es, splitWhere (· == '/') x.toList = [x.toList] := by
    intro x hx
    refine splitWhere_eq_singleton fun c hc => ?_
    simpa using ((chars_of_isElement (h x hx)).2 c hc).1
  induction es generalizing e with
  | nil =>
    rw [renderChars, List.append_nil]
    exact hsingle e (List.mem_cons_self ..)
  | cons next es ih =>
    rw [renderChars, splitWhere_append_cons _ _ rfl, hsingle e (List.mem_cons_self ..),
      ih (fun x hx => h x (List.mem_cons_of_mem e hx))
        fun x hx => hsingle x (List.mem_cons_of_mem e hx)]
    rfl

/-- A path that can be read: it has elements, and all of them are valid. -/
structure Proper (p : Path) : Prop where
  nonempty : p.elements ≠ []
  valid : ∀ e ∈ p.elements, isElement e = true

/-- The written form of a proper path is read as that path. -/
theorem parse_render {p : Path} (h : p.Proper) : parse p.render = .ok p := by
  obtain ⟨hne, hp⟩ := h
  obtain ⟨elements⟩ := p
  rcases elements with - | ⟨e, es⟩
  · exact absurd rfl hne
  · have hscan : scan 1 true (e.toList ++ renderChars es) = none := by
      obtain ⟨hne, hcs⟩ := chars_of_isElement (hp e (List.mem_cons_self ..))
      obtain ⟨offset, hscan⟩ := scan_element (renderChars es) hne hcs 1 true
      rw [hscan]
      exact scan_renderChars (fun x hx => hp x (List.mem_cons_of_mem e hx)) offset
    have hread : (splitWhere (· == '/') (e.toList ++ renderChars es)).map String.ofList =
        e :: es := by
      rw [splitWhere_renderChars hp, List.map_map]
      simp
    unfold parse
    rw [toList_render, renderChars]
    simp only [hscan, hread]

/-! ### Beginnings -/

theorem startsWith_iff {p q : Path} : p.startsWith q = true ↔ q.elements <+: p.elements :=
  List.isPrefixOf_iff_prefix

theorem renderChars_append (es fs : List String) :
    renderChars (es ++ fs) = renderChars es ++ renderChars fs := by
  induction es with
  | nil => rfl
  | cons e es ih => simp [renderChars, ih]

/-- Of two lists of elements, one begins the other just if so do their written forms, up to an end
or a `/`.  Without the `/`, the written form could end within an element of the other. -/
theorem prefix_iff_renderChars {es fs : List String} (he : ∀ e ∈ es, isElement e = true)
    (hf : ∀ f ∈ fs, isElement f = true) : fs <+: es ↔
      renderChars es = renderChars fs ∨ ∃ rest, renderChars es = renderChars fs ++ '/' :: rest := by
  constructor
  · rintro ⟨more, rfl⟩
    rw [renderChars_append]
    rcases renderChars_eq_nil_or_cons more with hnil | ⟨rest, hrest⟩
    · rw [hnil, List.append_nil]
      exact .inl rfl
    · rw [hrest]
      exact .inr ⟨rest, rfl⟩
  · rintro (hsame | ⟨rest, hrest⟩)
    · obtain rfl := renderChars_inj he hf hsame
      exact List.prefix_rfl
    · induction fs generalizing es with
      | nil => exact List.nil_prefix
      | cons f fs ih =>
        rcases es with - | ⟨e, es⟩
        · exact absurd hrest (by simp [renderChars])
        · -- the first element of both ends at the next `/`
          have htail : renderChars fs ++ '/' :: rest = [] ∨
              ∃ cs, renderChars fs ++ '/' :: rest = '/' :: cs := by
            rcases renderChars_eq_nil_or_cons fs with hnil | ⟨cs, hcs⟩
            · exact .inr ⟨rest, by rw [hnil, List.nil_append]⟩
            · exact .inr ⟨cs ++ '/' :: rest, by rw [hcs, List.cons_append]⟩
          have hchars : e.toList ++ renderChars es =
              f.toList ++ (renderChars fs ++ '/' :: rest) := by
            simpa [renderChars] using hrest
          obtain ⟨hhead, hmore⟩ := append_inj_of_slash
            (slash_not_mem_of_isElement (he e (List.mem_cons_self ..)))
            (slash_not_mem_of_isElement (hf f (List.mem_cons_self ..)))
            (renderChars_eq_nil_or_cons es) htail hchars
          rw [String.toList_inj.mp hhead]
          exact List.prefix_cons_inj f |>.mpr (ih (fun x hx => he x (List.mem_cons_of_mem _ hx))
            (fun x hx => hf x (List.mem_cons_of_mem _ hx)) hmore)

/-- The elements of one path begin those of another just if its text begins that of the other, up to
an end or a `/`. -/
theorem prefix_iff_render {p q : Path} (hp : ∀ e ∈ p.elements, isElement e = true)
    (hq : ∀ e ∈ q.elements, isElement e = true) : q.elements <+: p.elements ↔
      p.render = q.render ∨ ∃ rest, p.render = q.render ++ "/" ++ rest := by
  rw [prefix_iff_renderChars hp hq, ← toList_render, ← toList_render, String.toList_inj]
  refine or_congr_right ⟨?_, ?_⟩
  · rintro ⟨rest, hrest⟩
    refine ⟨String.ofList rest, String.toList_inj.mp ?_⟩
    simpa using hrest
  · rintro ⟨rest, hrest⟩
    refine ⟨rest.toList, ?_⟩
    rw [hrest]
    simp

end Path

/-! ### Remembered texts -/

namespace PathCell

/-- The cell holds the path, and if it holds a text, that is the path as it is written. -/
structure Holds (c : PathCell) (p : Path) : Prop where
  path : c.path = p
  text : ∀ s, c.text = some s → s = p.render

variable {c : PathCell} {p : Path}

theorem holds_ofPath (p : Path) : (ofPath p).Holds p :=
  ⟨rfl, fun _ hs => absurd hs (by simp [ofPath])⟩

theorem Holds.render_eq (h : c.Holds p) : c.render = p.render := by
  unfold render
  rcases hs : c.text with - | s
  · rw [← h.path]
    rfl
  · exact h.text s hs

theorem Holds.written (h : c.Holds p) : c.written.Holds p := by
  refine ⟨h.path, fun s hs => ?_⟩
  cases hs
  exact h.render_eq

end PathCell

end TestEngine
