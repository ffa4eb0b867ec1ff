/-
TestEngine/Proofs/Run/Reached.lean

The states of the engine that a process can be in.  A process starts with no hooks and
no counters; it carries out scripts, tests and whole runs, in any order, and goes on if
they unwind.  In all these states the numbers of hooks that have not been given yet are
not in use (`Reached.numbered`), and the process is at rest (`Reached.atRest`).
-/
import TestEngine.Proofs.Engine.Extent
import TestEngine.Proofs.Run.Case
import TestEngine.Proofs.Run.Respect

namespace TestEngine

namespace Engine

/-- A state in which a process can be between its effects. -/
inductive Reached : Engine → Prop
  | initial (debug : DebugFlags) (subscriber : Subscriber) :
      Reached { Engine.initial with debug, subscriber }
  | performed {e e' : Engine} (script : Script) (h : Reached e)
      (hend : Ended (perform script) e e') : Reached e'
  | executed {e e' : Engine} (script : Script) (h : Reached e)
      (hend : Ended (execute (perform script)) e e') : Reached e'
  | prepared {e e' : Engine} (mode : Mode) (h : Reached e) (hend : Ended (prepare mode) e e') :
      Reached e'
  | ran {e e' : Engine} (mode : Mode) (t : Tree) (root : ObjectId) (h : Reached e)
      (hend : Ended (run mode t root) e e') : Reached e'
  | started {e : Engine} (h : Reached e) : Reached { e with hasRun := true }
  | counted {e : Engine} (h : Reached e) : Reached (newCounter e).2
  | cleared {e : Engine} (h : Reached e) : Reached { e with journal := [] }

/-- What a process does relates its states by every relation that is respected, if a new mode
does and what happens between its effects. -/
theorem Reached.induction {P : Entry → Prop} {R : Engine → Engine → Prop}
    (hR : Respected (fun _ => True) P R) (hP : ∀ {x : Entry}, x.Alone → P x)
    (hmode : ∀ (mode : Mode) (e : Engine), R e
      { e with console := ⟨mode.verbosity, mode.colours⟩, flags := mode.flags })
    {Q : Engine → Prop} (hQ : ∀ {e e'}, R e e' → Q e → Q e')
    (hinitial : ∀ debug subscriber, Q { Engine.initial with debug, subscriber })
    (hstarted : ∀ e, Q e → Q { e with hasRun := true })
    (hcounted : ∀ e, Q e → Q (newCounter e).2)
    (hcleared : ∀ e : Engine, Q e → Q { e with journal := [] }) {e : Engine} (h : Reached e) :
    Q e := by
  have hquiet : ∀ {x : Entry}, x.Quiet → P x := fun hx => hP hx.plain.alone
  induction h with
  | initial debug subscriber => exact hinitial debug subscriber
  | performed script _ hend ih =>
    exact hQ ((keeps_perform hR hquiet script.within_all).of_ended hend) ih
  | executed script _ hend ih =>
    have hscript := keeps_perform hR hquiet script.within_all
    exact hQ ((keeps_execute hR hquiet hscript).of_ended hend) ih
  | prepared mode _ hend ih => exact hQ ((keeps_prepare hR hquiet (hmode mode)).of_ended hend) ih
  | ran mode t root _ hend ih =>
    exact hQ ((keeps_run hR hP (hmode mode) t.within_all root).of_ended hend) ih
  | started _ ih => exact hstarted _ ih
  | counted _ ih => exact hcounted _ ih
  | cleared _ ih => exact hcleared _ ih

theorem Reached.numbered {e : Engine} (h : Reached e) : e.Numbered := by
  refine h.induction (respected_rehooked (fun _ => True) fun _ => True) (fun _ => trivial)
    (fun _ e => (rehooked_refl e).congr rfl rfl rfl rfl rfl rfl) (fun hr he => hr.numbered he)
    (fun _ _ => ⟨fun _ _ => rfl, fun _ hid => absurd hid (by simp [names, Engine.initial])⟩)
    (fun _ he => ⟨he.fresh, he.named⟩) (fun _ he => ⟨he.fresh, he.named⟩)
    fun _ he => ⟨he.fresh, he.named⟩

theorem Reached.fresh {e : Engine} (h : Reached e) : e.Fresh := h.numbered.fresh

/-- Between its effects a process cleans nothing up. -/
theorem Reached.unwinding {e : Engine} (h : Reached e) : e.unwinding = false := by
  refine h.induction (respected_restored (fun _ => True) fun _ => True) (fun _ => trivial)
    (fun _ _ => ⟨rfl, rfl⟩) (fun hr he => hr.2.trans he) (fun _ _ => rfl) (fun _ he => he)
    (fun _ he => he) fun _ he => he

/-! ### Rest -/

/-- The number of the current thread, how the process was set up, and who receives events. -/
structure Steady (e e' : Engine) : Prop where
  thread : e'.thread = e.thread
  nextThread : e.nextThread ≤ e'.nextThread
  debug : e'.debug = e.debug
  subscriber : e.subscriber = .chain → e'.subscriber = .chain

theorem respected_steady (A : Action → Prop) (P : Entry → Prop) : Respected A P Steady where
  refl _ := ⟨rfl, Nat.le_refl _, rfl, fun h => h⟩
  trans h h' := ⟨h'.thread.trans h.thread, Nat.le_trans h.nextThread h'.nextThread,
    h'.debug.trans h.debug, fun hs => h'.subscriber (h.subscriber hs)⟩
  noted _ _ _ := ⟨rfl, Nat.le_refl _, rfl, fun h => h⟩
  printed _ _ := ⟨rfl, Nat.le_refl _, rfl, fun h => h⟩
  installed _ named _ _ _ := by rcases named with _ | _ <;> exact ⟨rfl, Nat.le_refl _, rfl, fun h => h⟩
  popped _ _ _ _ _ := ⟨rfl, Nat.le_refl _, rfl, fun h => h⟩
  released {_ _ named _ _ _} _ h _ _ := by
    rcases named with _ | _ <;> exact ⟨h.thread, h.nextThread, h.debug, h.subscriber⟩
  discarded {_ _ named _} _ h := by
    rcases named with _ | _ <;> exact ⟨h.thread, h.nextThread, h.debug, h.subscriber⟩
  bound _ _ h := ⟨h.thread, h.nextThread, h.debug, h.subscriber⟩
  recorded _ _ _ _ _ := ⟨rfl, Nat.le_refl _, rfl, fun h => h⟩
  tested _ h := ⟨h.thread, h.nextThread, h.debug, h.subscriber⟩
  threaded h := ⟨rfl, Nat.le_of_succ_le h.nextThread, h.debug, h.subscriber⟩
  cleaned h := ⟨h.thread, h.nextThread, h.debug, h.subscriber⟩
  asked _ _ h := ⟨h.thread, h.nextThread, h.debug, h.subscriber⟩
  collected _ _ _ _ := ⟨rfl, Nat.le_refl _, rfl, fun h => h⟩
  configured _ _ _ _ := ⟨rfl, Nat.le_refl _, rfl, fun h => h⟩
  intercepted _ := ⟨rfl, Nat.le_refl _, rfl, fun _ => rfl⟩

/-- Only a new mode changes the flags. -/
theorem respected_flags (A : Action → Prop) (P : Entry → Prop) :
    Respected A P fun e e' => e'.flags = e.flags where
  refl _ := rfl
  trans h h' := h'.trans h
  noted _ _ _ := rfl
  printed _ _ := rfl
  installed _ named _ _ _ := by rcases named with _ | _ <;> rfl
  popped _ _ _ _ _ := rfl
  released {_ _ named _ _ _} _ h _ _ := by rcases named with _ | _ <;> exact h
  discarded {_ _ named _} _ h := by rcases named with _ | _ <;> exact h
  bound _ _ h := h
  recorded _ _ _ _ _ := rfl
  tested _ h := h
  threaded h := h
  cleaned h := h
  asked _ _ h := h
  collected _ _ _ _ := rfl
  configured _ _ _ _ := rfl
  intercepted _ := rfl

/-- A block takes back the names that it has given to hooks, so an effect leaves those that there
were. -/
theorem respected_own (A : Action → Prop) (P : Entry → Prop) :
    Respected A P fun e e' => e'.own = e.own where
  refl _ := rfl
  trans h h' := h'.trans h
  noted _ _ _ := rfl
  printed _ _ := rfl
  installed _ named _ _ _ := by rcases named with _ | _ <;> rfl
  popped _ _ _ _ _ := rfl
  released {_ _ named _ _ _} _ h _ _ := by rcases named with _ | _ <;> exact h
  discarded {_ _ named _} _ h := by rcases named with _ | _ <;> exact h
  bound _ _ _ := rfl
  recorded _ _ _ _ _ := rfl
  tested _ h := h
  threaded h := h
  cleaned h := h
  asked _ _ h := h
  collected _ _ _ _ := rfl
  configured _ _ _ _ := rfl
  intercepted _ := rfl

/-- No test is running, nothing is cleaned up, no block has a name for a hook, and the numbers that
have not been given yet are not in use. -/
structure AtRest (e : Engine) : Prop where
  idle : e.context = none
  calm : e.unwinding = false
  own : e.own = []
  numbered : e.Numbered
  thread : e.thread < e.nextThread

theorem Reached.idle {e : Engine} (h : Reached e) : e.context = none := by
  refine h.induction (respected_isActive (fun _ => True) fun _ => True) (fun _ => trivial)
    (fun _ _ => rfl) idle_of_isActive (fun _ _ => rfl) (fun _ he => he) (fun _ he => he)
    fun _ he => he

/-- A process does all its effects on its first thread. -/
theorem Reached.thread {e : Engine} (h : Reached e) : e.thread = 0 ∧ 0 < e.nextThread := by
  refine h.induction (Q := fun e => e.thread = 0 ∧ 0 < e.nextThread)
    (respected_steady (fun _ => True) fun _ => True) (fun _ => trivial)
    (fun _ _ => ⟨rfl, Nat.le_refl _, rfl, fun h => h⟩)
    (fun hr he => ⟨hr.thread.trans he.1, Nat.lt_of_lt_of_le he.2 hr.nextThread⟩)
    (fun _ _ => ⟨rfl, Nat.one_pos⟩) (fun _ he => he) (fun _ he => he) fun _ he => he

/-- Between its effects a process carries out no block. -/
theorem Reached.own {e : Engine} (h : Reached e) : e.own = [] := by
  refine h.induction (respected_own (fun _ => True) fun _ => True) (fun _ => trivial)
    (fun _ _ => rfl) (fun hr he => hr.trans he) (fun _ _ => rfl) (fun _ he => he) (fun _ he => he)
    fun _ he => he

theorem Reached.atRest {e : Engine} (h : Reached e) : AtRest e := by
  obtain ⟨hthread, hnext⟩ := h.thread
  exact ⟨h.idle, h.unwinding, h.own, h.numbered, hthread ▸ hnext⟩

/-- What every effect keeps is kept when the engine gets from one state to the other: then it is
left at rest. -/
theorem AtRest.of_respected {e e' : Engine} (h : AtRest e)
    (hall : ∀ {R : Engine → Engine → Prop}, Respected (fun _ => True) (fun _ => True) R → R e e') :
    AtRest e' := by
  have hactive : e'.isActive = e.isActive := hall (respected_isActive _ _)
  have hrestored : Restored e e' := hall (respected_restored _ _)
  have hhooks : Rehooked e e' := hall (respected_rehooked _ _)
  have hsteady : Steady e e' := hall (respected_steady _ _)
  have hown : e'.own = e.own := hall (respected_own _ _)
  exact ⟨idle_of_isActive hactive h.idle, hrestored.2.trans h.calm, hown.trans h.own,
    hhooks.numbered h.numbered,
    hsteady.thread ▸ Nat.lt_of_lt_of_le h.thread hsteady.nextThread⟩

end Engine

end TestEngine
