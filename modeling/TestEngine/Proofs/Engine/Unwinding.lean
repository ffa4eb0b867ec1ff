/-
TestEngine/Proofs/Engine/Unwinding.lean

The way of an unwinding out of a script.  What unwinds at an action leaves the blocks around
that action one by one, the innermost first, and passes their frames: a guarded block has a
clean-up to carry out, a block under a hook has that hook to remove, and a block that has a name
for a hook has that name to take back (`unwindThrough`).  It passes through nothing else, so no
later action of the script is carried out (`Spine.performWithin_eq`).

A spine leads from a script to an action in it through blocks that an unwinding leaves
(`Spine`): neither the work of a thread nor a block that catches is among them, nor a clean-up
while its block unwinds.  Of an action that is carried out on the thread of the script, while
that thread does not unwind, nothing but a block that catches can lie between
(`Occurs.reaches`).
-/
import TestEngine.Proofs.Engine.Classify

namespace TestEngine

namespace Engine

/-! ### Frames -/

/-- What an unwinding passes: the clean-up of a guarded block, in which scripts may be nested
`depth` deep, the guard of a hook, or the end of a block with a name for a hook, which leaves the
script with the names that it had before. -/
inductive Frame
  | cleanup (depth : Nat) (script : Script)
  | hook (id : HookId)
  | names (own : List HookId)
  deriving Inhabited

/-- Unwind through the frames, the first of them being the innermost. -/
def unwindThrough (payload : Payload) : List Frame → Act Unit
  | [] => unwind payload
  | .hook id :: frames => fun e => unwindThrough payload frames (discard id e)
  | .names own :: frames => fun e => unwindThrough payload frames { e with own := own }
  | .cleanup depth script :: frames => fun e =>
    match performWithin depth script { e with unwinding := true } with
    | .ok _ e' => unwindThrough payload frames { e' with unwinding := e.unwinding }
    | .error (.unwound _) e' => (note (.perished lastWords) *> throw .killed) e'
    | .error stop e' => .error stop e'

variable {payload : Payload} {e e' : Engine}

theorem unwindThrough_cleanup (depth : Nat) (script : Script) (frames : List Frame) (e : Engine) :
    unwindThrough payload (.cleanup depth script :: frames) e =
      match performWithin depth script { e with unwinding := true } with
      | .ok _ e' => unwindThrough payload frames { e' with unwinding := e.unwinding }
      | .error (.unwound _) e' => (note (.perished lastWords) *> throw .killed) e'
      | .error stop e' => .error stop e' := rfl

/-- An unwinding goes on as it was, unless the process ends. -/
theorem unwindThrough_ends (payload : Payload) (frames : List Frame) (e : Engine) :
    ∃ stop e', unwindThrough payload frames e = .error stop e' ∧
      ∀ p, stop = .unwound p → p = payload := by
  induction frames generalizing e with
  | nil => exact ⟨_, e, rfl, fun p hp => (Stop.unwound.inj hp).symm⟩
  | cons frame frames ih =>
    rcases frame with ⟨depth, script⟩ | id | own
    · rw [unwindThrough_cleanup]
      rcases performWithin depth script { e with unwinding := true } with
        ⟨_, e₁⟩ | ⟨_ | status | _ | _, e₁⟩
      · exact ih _
      · exact ⟨.killed, _, rfl, fun _ hp => by nomatch hp⟩
      · exact ⟨.exited status, _, rfl, fun _ hp => by nomatch hp⟩
      · exact ⟨.killed, _, rfl, fun _ hp => by nomatch hp⟩
      · exact ⟨.tooDeep, _, rfl, fun _ hp => by nomatch hp⟩
    · exact ih _
    · exact ih _

/-- What comes after some frames is reached if the process goes on. -/
theorem unwindThrough_append (frames outer : List Frame) (e : Engine) :
    unwindThrough payload (frames ++ outer) e = match unwindThrough payload frames e with
      | .error (.unwound _) e' => unwindThrough payload outer e'
      | o => o := by
  induction frames generalizing e with
  | nil => rfl
  | cons frame frames ih =>
    rcases frame with ⟨depth, script⟩ | id | own
    · rw [List.cons_append, unwindThrough_cleanup, unwindThrough_cleanup]
      rcases performWithin depth script { e with unwinding := true } with
        ⟨_, e₁⟩ | ⟨_ | _ | _ | _, e₁⟩
      · exact ih _
      all_goals rfl
    · exact ih _
    · exact ih _

/-! ### Spines -/

/-- While the action is carried out, a script nested in it starts on the same thread.  If that
unwinds, so does the action, through these frames. -/
inductive Passes (n : Nat) : Action → Engine → Script → Engine → List Frame → Prop
  | block {run onDrop : Script} {e : Engine} :
      Passes n (.guarded run onDrop) e run e [.cleanup n onDrop]
  | cleanup {run onDrop : Script} {e e₁ : Engine} (h : performWithin n run e = .ok () e₁) :
      Passes n (.guarded run onDrop) e onDrop e₁ []
  | hooked {h : RuleHook Action} {run : Script} {e : Engine} :
      Passes n (.withHook h run) e run (enlist true (.rules h) e) [.hook e.nextHook]
  | bound {h : RuleHook Action} {run : Script} {e : Engine} :
      Passes n (.letHook h run) e run (binding (.rules h) e) [.names e.own]
  | chosen {q : Query} {run otherwise : Script} {e : Engine} :
      Passes n (.choose q run otherwise) e (if e.holds q then run else otherwise) e []
  | asked {a : Action} {e e₁ : Engine} {d : Diagnostic} {s : Script} (hd : emission? e a = some d)
      (h : Asks (performWithin n) d e.chain e s e₁) : Passes n a e s e₁ []

/-- In the course of a script that is nested at most `n` deep, the action starts in the last
state, with scripts of depth `m` left to it, and what unwinds there leaves the script through
these frames. -/
inductive Spine : Nat → Script → Engine → Nat → Action → Engine → List Frame → Prop
  | here {n : Nat} {a : Action} {script : Script} {e : Engine} :
      Spine (n + 1) (a :: script) e n a e []
  | after {n m : Nat} {a b : Action} {script : Script} {e e₁ e₂ : Engine} {frames : List Frame}
      (ha : act (performWithin n) a e = .ok () e₁) (h : Spine (n + 1) script e₁ m b e₂ frames) :
      Spine (n + 1) (a :: script) e m b e₂ frames
  | inside {n m : Nat} {a b : Action} {script s : Script} {e e₁ e₂ : Engine}
      {frames outer : List Frame} (ha : Passes n a e s e₁ outer)
      (h : Spine n s e₁ m b e₂ frames) :
      Spine (n + 1) (a :: script) e m b e₂ (frames ++ outer)

variable {n m : Nat} {script : Script} {a b : Action} {e₁ e₂ : Engine} {frames : List Frame}

theorem Passes.enters {s : Script} (h : Passes n a e s e₁ frames) :
    Enters (performWithin n) a e s e₁ := by
  cases h with
  | block => exact .block
  | cleanup h => exact .cleanup h
  | hooked => exact .hooked
  | bound => exact .bound
  | chosen => exact .chosen
  | asked hd h => exact .asked hd h

theorem Passes.restored {s : Script} (h : Passes n a e s e₁ frames) : Restored e e₁ := by
  have hR := respected_restored (fun _ => True) fun _ => True
  have hperform : ∀ script, Keeps (fun _ => True) Restored (performWithin n script) :=
    fun script => keeps_performWithin hR (fun _ => trivial) n script.within_all
  cases h with
  | block => exact hR.refl _
  | cleanup h => exact (hperform _).of_ended (.inl ⟨_, h⟩)
  | hooked => exact hR.installed _ true (Hook.within_all _) trivial
  | bound => exact ⟨rfl, rfl⟩
  | chosen => exact hR.refl _
  | asked _ h =>
    exact h.relates hR (fun _ => trivial) (fun s _ => hperform s) (fun _ hi => hi) (hR.refl _)

theorem restored_of_act (h : act (performWithin n) a e = .ok () e₁) : Restored e e₁ :=
  (keeps_actWithin (respected_restored _ fun _ => True) (fun _ => trivial) n a).of_ended
    (.inl ⟨_, h⟩)

/-- Nothing on a spine changes the thread, or whether it unwinds. -/
theorem Spine.restored (h : Spine n script e m a e₁ frames) : Restored e e₁ := by
  induction h with
  | here => exact ⟨rfl, rfl⟩
  | after ha _ ih => exact ⟨ih.1.trans (restored_of_act ha).1, ih.2.trans (restored_of_act ha).2⟩
  | inside ha _ ih => exact ⟨ih.1.trans ha.restored.1, ih.2.trans ha.restored.2⟩

/-! ### The way out -/

/-- If the script of a rule stops, so does the asking of hooks. -/
theorem Asks.askAll_of_error {sub : Script → Act Unit} {d : Diagnostic} {is : List Installed}
    {s : Script} {stop : Stop} (h : Asks sub d is e s e₁) (hs : sub s e₁ = .error stop e₂) :
    askAll sub d is e = .error stop e₂ := by
  induction h with
  | @here i hook rule is e hhook hrule =>
    have hask : askHook sub d i.hook (asking i d e) = .error stop e₂ := by
      rw [askHook_of_rule hhook hrule]
      exact bind_of_error hs
    rw [askAll_cons, hask]
  | later hi _ ih =>
    rw [askAll_cons, hi]
    exact ih hs

/-- A nested script that unwinds takes the action with it. -/
theorem Passes.act_eq {s : Script} {outer : List Frame} (h : Passes n a e s e₁ outer)
    (hs : performWithin n s e₁ = unwindThrough payload frames e₂) :
    act (performWithin n) a e = unwindThrough payload (frames ++ outer) e₂ := by
  obtain ⟨stop, e₃, hstop, hpayload⟩ := unwindThrough_ends payload frames e₂
  rw [unwindThrough_append]
  rw [hstop] at hs ⊢
  cases h with
  | block =>
    rename_i onDrop
    show guarded (performWithin n s) (performWithin n onDrop) e = _
    unfold guarded
    rw [hs]
    rcases stop with p | _ | _ | _
    · rw [hpayload p rfl]
      rfl
    all_goals rfl
  | cleanup hrun =>
    rename_i run
    show guarded (performWithin n run) (performWithin n s) e = _
    unfold guarded
    rw [hrun]
    dsimp only
    rw [hs]
    rcases stop with p | _ | _ | _
    · rw [hpayload p rfl]
      rfl
    all_goals rfl
  | hooked =>
    rename_i hook
    simp only [act]
    rw [withHook_eq]
    have hblock : (do
        modify fun e' : Engine => { e' with pushed := e'.pushed ++ [e.nextHook] }
        performWithin n s) (install (.rules hook) e).2 = .error stop e₃ := hs
    rw [hblock]
    rcases stop with p | _ | _ | _
    · rw [hpayload p rfl]
      rfl
    all_goals rfl
  | bound =>
    simp only [act]
    rw [letHook_eq, hs]
    rcases stop with p | _ | _ | _
    · rw [hpayload p rfl]
      rfl
    all_goals rfl
  | chosen =>
    rw [act_choose, hs]
    rcases stop with p | _ | _ | _
    · rw [hpayload p rfl]
      rfl
    all_goals rfl
  | asked hd h =>
    rw [act_of_emission hd, dispatch_of_error (h.askAll_of_error hs)]
    rcases stop with p | _ | _ | _
    · rw [hpayload p rfl]
      rfl
    all_goals rfl

/-- What unwinds at an action leaves the script through the frames of the spine, and nothing else
happens on the way. -/
theorem Spine.performWithin_eq (h : Spine n script e m a e₁ frames)
    (ha : act (performWithin m) a e₁ = .error (.unwound payload) e₂) :
    performWithin n script e = unwindThrough payload frames e₂ := by
  induction h with
  | here =>
    rw [performWithin_cons]
    exact bind_of_error ha
  | after hok _ ih =>
    rw [performWithin_cons, bind_of_ok hok]
    exact ih ha
  | @inside n m a b script s e e₁ e₂ frames outer hpass _ ih =>
    have hact := hpass.act_eq (ih ha)
    obtain ⟨stop, e₃, hstop, -⟩ := unwindThrough_ends payload (frames ++ outer) _
    rw [performWithin_cons, hstop]
    exact bind_of_error (hact.trans hstop)

/-! ### The thread of a script -/

/-- The same thread runs, which unwinds if it did before, or else a thread that has been started
since. -/
structure Threaded (e e' : Engine) : Prop where
  nextThread : e.nextThread ≤ e'.nextThread
  thread : e'.thread = e.thread ∧ (e.unwinding = true → e'.unwinding = true) ∨
    e.nextThread ≤ e'.thread

namespace Threaded

/-- Nothing but the threads and whether they unwind matters. -/
theorem same (hnext : e'.nextThread = e.nextThread) (hthread : e'.thread = e.thread)
    (hunwinding : e'.unwinding = e.unwinding) : Threaded e e' :=
  ⟨Nat.le_of_eq hnext.symm, .inl ⟨hthread, fun h => hunwinding.trans h⟩⟩

theorem refl (e : Engine) : Threaded e e := same rfl rfl rfl

theorem trans {e₃ : Engine} (h : Threaded e₁ e₂) (h' : Threaded e₂ e₃) : Threaded e₁ e₃ := by
  refine ⟨Nat.le_trans h.nextThread h'.nextThread, ?_⟩
  rcases h'.thread with ⟨hsame, hunwinds⟩ | hnew
  · rw [hsame]
    rcases h.thread with ⟨hsame', hunwinds'⟩ | hnew'
    · exact .inl ⟨hsame', fun hu => hunwinds (hunwinds' hu)⟩
    · exact .inr hnew'
  · exact .inr (Nat.le_trans h.nextThread hnew)

theorem enlist (named : Bool) (h : Hook) (e : Engine) : Threaded e (enlist named h e) := by
  rcases named with _ | _ <;> exact same rfl rfl rfl

theorem binding (h : Hook) (e : Engine) : Threaded e (binding h e) := same rfl rfl rfl

theorem spawned (e : Engine) : Threaded e e.spawned := ⟨Nat.le_succ _, .inr (Nat.le_refl _)⟩

theorem thread_lt (h : Threaded e e') (hsame : e'.thread = e.thread)
    (hthread : e.thread < e.nextThread) : e'.thread < e'.nextThread := by
  rw [hsame]
  exact Nat.lt_of_lt_of_le hthread h.nextThread

/-- A thread that was running is not one that is started later. -/
theorem unwinding_of_thread_eq (h : Threaded e e') (hthread : e.thread < e.nextThread)
    (hsame : e'.thread = e.thread) (hunwinding : e.unwinding = true) : e'.unwinding = true := by
  rcases h.thread with ⟨-, hunwinds⟩ | hnew
  · exact hunwinds hunwinding
  · exact absurd (hsame ▸ hnew) (Nat.not_le.mpr hthread)

end Threaded

theorem respected_threaded (A : Action → Prop) (P : Entry → Prop) : Respected A P Threaded where
  refl := Threaded.refl
  trans h h' := h.trans h'
  noted _ _ _ := .same rfl rfl rfl
  printed _ _ := .same rfl rfl rfl
  installed e named h _ _ := .enlist named h e
  popped _ _ _ _ _ := .same rfl rfl rfl
  released _ h _ _ := ((Threaded.enlist _ _ _).trans h).trans (.same rfl rfl rfl)
  discarded _ h := ((Threaded.enlist _ _ _).trans h).trans (.same rfl rfl rfl)
  bound _ _ h := ((Threaded.binding _ _).trans h).trans (.same rfl rfl rfl)
  recorded _ _ _ _ _ := .same rfl rfl rfl
  tested {e _} _ h :=
    have hentered : Threaded e e.entered := .same rfl rfl rfl
    (hentered.trans h).trans (.same rfl rfl rfl)
  threaded h := ⟨Nat.le_trans (Nat.le_succ _) h.nextThread, .inl ⟨rfl, id⟩⟩
  cleaned h := ⟨h.nextThread, h.thread.imp (fun h => ⟨h.1, id⟩) id⟩
  asked _ _ h := h.trans (.same rfl rfl rfl)
  collected _ _ _ _ := .same rfl rfl rfl
  configured _ _ _ _ := .same rfl rfl rfl
  intercepted _ := .same rfl rfl rfl

theorem deepens_threaded : Deepens Threaded :=
  ⟨Threaded.spawned, fun _ => ⟨Nat.le_refl _, .inl ⟨rfl, fun _ => rfl⟩⟩,
    fun e h => Threaded.binding h e⟩

theorem Occurs.threaded (h : Occurs n script e m a e₁) : Threaded e e₁ :=
  h.relates (respected_threaded _ fun _ => True) (fun _ => trivial) deepens_threaded

theorem Enters.threaded {s : Script} (h : Enters (performWithin n) a e s e₁) : Threaded e e₁ := by
  have hR := respected_threaded (fun _ => True) fun _ => True
  exact h.relates hR (fun _ => trivial)
    (fun s _ => keeps_performWithin hR (fun _ => trivial) n s.within_all) deepens_threaded

/-- The action lies on a spine of the script, or on one of a block in the script that catches what
unwinds. -/
def Reaches (n : Nat) (script : Script) (e : Engine) (m : Nat) (a : Action) (e₁ : Engine) : Prop :=
  (∃ frames, Spine n script e m a e₁ frames) ∨
    ∃ k run e₀ frames, Occurs n script e k (.catch run) e₀ ∧ Spine k run e₀ m a e₁ frames

theorem Reaches.after (ha : act (performWithin n) a e = .ok () e₁)
    (h : Reaches (n + 1) script e₁ m b e₂) : Reaches (n + 1) (a :: script) e m b e₂ := by
  rcases h with ⟨frames, h⟩ | ⟨k, run, e₀, frames, hcatch, h⟩
  · exact .inl ⟨frames, .after ha h⟩
  · exact .inr ⟨k, run, e₀, frames, .after ha hcatch, h⟩

theorem Reaches.inside {s : Script} {outer : List Frame} (ha : Passes n a e s e₁ outer)
    (h : Reaches n s e₁ m b e₂) : Reaches (n + 1) (a :: script) e m b e₂ := by
  rcases h with ⟨frames, h⟩ | ⟨k, run, e₀, frames, hcatch, h⟩
  · exact .inl ⟨_, .inside ha h⟩
  · exact .inr ⟨k, run, e₀, frames, .inside ha.enters hcatch, h⟩

theorem Reaches.caught {run : Script} (h : Reaches n run e m b e₂) :
    Reaches (n + 1) (.catch run :: script) e m b e₂ := by
  rcases h with ⟨frames, h⟩ | ⟨k, run', e₀, frames, hcatch, h⟩
  · exact .inr ⟨n, run, e, frames, .here, h⟩
  · exact .inr ⟨k, run', e₀, frames, .inside .caught hcatch, h⟩

/-- On the thread of the script, while it does not unwind, every action lies on a spine, of the
script or of a block that catches. -/
theorem Occurs.reaches (h : Occurs n script e m a e₁) (hthread : e.thread < e.nextThread)
    (hsame : e₁.thread = e.thread) (hcalm : e₁.unwinding = false) :
    Reaches n script e m a e₁ := by
  induction h with
  | here => exact .inl ⟨[], .here⟩
  | after ha _ ih =>
    have hrestored := restored_of_act ha
    have hnext := (keeps_actWithin (respected_threaded _ fun _ => True) (fun _ => trivial) _
      _).of_ended (.inl ⟨_, ha⟩)
    have hthread' := hnext.thread_lt hrestored.1 hthread
    exact (ih hthread' (hsame.trans hrestored.1.symm) hcalm).after ha
  | @inside n m a b script s e e₁ e₂ ha h ih =>
    have hpass : ∀ {outer}, Passes n a e s e₁ outer → Reaches (n + 1) (a :: script) e m b e₂ := by
      intro outer hp
      have hrestored := hp.restored
      have hthread' := ha.threaded.thread_lt hrestored.1 hthread
      exact .inside hp (ih hthread' (hsame.trans hrestored.1.symm) hcalm)
    cases ha with
    | thread =>
      -- a thread that has been started later is not that of the script
      rcases h.threaded.thread with ⟨hthread', -⟩ | hnew
      · exact absurd (hsame.symm.trans hthread') (Nat.ne_of_lt hthread)
      · exact absurd hthread (Nat.not_lt.mpr (hsame ▸ Nat.le_of_succ_le hnew))
    | block => exact hpass .block
    | cleanup hrun => exact hpass (.cleanup hrun)
    | @unwinding run onDrop e e₁ payload hrun =>
      have hrestored : Restored e e₁ := (keeps_performWithin (respected_restored _ fun _ => True)
        (fun _ => trivial) n run.within_all).of_ended (.inr ⟨_, hrun⟩)
      have hnext : Threaded e e₁ := (keeps_performWithin (respected_threaded _ fun _ => True)
        (fun _ => trivial) n run.within_all).of_ended (.inr ⟨_, hrun⟩)
      have hunwinds := h.threaded.unwinding_of_thread_eq (hnext.thread_lt hrestored.1 hthread)
        (hsame.trans hrestored.1.symm) rfl
      rw [hcalm] at hunwinds
      exact absurd hunwinds (by simp)
    | caught => exact (ih hthread hsame hcalm).caught
    | hooked => exact hpass .hooked
    | bound => exact hpass .bound
    | chosen => exact hpass .chosen
    | asked hd h => exact hpass (.asked hd h)

end Engine

end TestEngine
