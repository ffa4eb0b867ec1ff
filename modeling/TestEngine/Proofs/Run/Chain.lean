/-
TestEngine/Proofs/Run/Chain.lean

Histories of the chain of hooks.  A history is a list of calls (`Engine.HookCall`): a hook is
pushed, with a guard or without one; the hook of a number is popped; the guard of a hook is
dropped, on a thread that may be unwinding.  Between such calls, anything else may become of the
engine, and all that a process ever does is a history (`Reached.exists_history`).

What calls answer is logged: which hooks have been added, and which numbers removed.  Hooks leave
the chain from the top, and wherever a guard stands that an unwinding thread drops.  Neither way
knows of the other, and yet the chain is at every point of a history what the log says: the hooks
that were added and not removed since, in order (`reverse_chain_after`).

Code in which all hooks have guards leaves the chain as it was, whether it returns or unwinds
(`Nested.restores`).
-/
import Mathlib.Data.List.Induction
import Mathlib.Data.List.Nodup
import TestEngine.Proofs.Run.Reached

namespace TestEngine

namespace Engine

/-! ### Histories -/

/-- A call to the chain: a hook is pushed, whether a guard is made for it or not, a hook is popped,
or the guard of a hook is dropped.  In between, the engine becomes another, but for the chain and
the number of the next hook. -/
inductive HookCall
  | push (h : Hook)
  | pop (id : HookId)
  | drop (id : HookId)
  | aside (other : Engine)

/-- What is logged of the calls. -/
inductive HookEvent
  | added (i : Installed)
  | removed (id : HookId)

namespace HookCall

/-- The effect of a call, which answers the number of a hook that it has pushed. -/
def act : HookCall → Act (Option HookId)
  | .push h => do
    let id ← Engine.push h
    pure (some id)
  | .pop id => do
    Engine.pop id
    pure none
  | .drop id => do
    release id
    pure none
  | .aside other => do
    modify fun e => { other with chain := e.chain, nextHook := e.nextHook }
    pure none

/-- The state after a call, however it ends. -/
def next (c : HookCall) (e : Engine) : Engine := endOf (c.act e)

/-- What is logged of a call.  To pop a hook, or to drop its guard, counts if the call returns. -/
def event? (c : HookCall) (e : Engine) : Option HookEvent :=
  match c, c.act e with
  | .push h, .ok (some id) _ => some (.added ⟨id, h⟩)
  | .pop id, .ok .. => some (.removed id)
  | .drop id, .ok .. => some (.removed id)
  | _, _ => none

end HookCall

/-- The state after a history that starts in the state `e`. -/
def afterwards (e : Engine) (calls : List HookCall) : Engine := calls.foldl (fun e c => c.next e) e

/-- The log of a history that starts in the state `e`, oldest entry first. -/
def loggedFrom : Engine → List HookCall → List HookEvent
  | _, [] => []
  | e, c :: calls => (c.event? e).toList ++ loggedFrom (c.next e) calls

/-- The state after a history in which no hook was there at first. -/
def after (calls : List HookCall) : Engine := afterwards .initial calls

/-- The log of such a history. -/
def logged (calls : List HookCall) : List HookEvent := loggedFrom .initial calls

/-- Does the event remove the hook of this number? -/
def HookEvent.removes (id : HookId) : HookEvent → Bool
  | .added _ => false
  | .removed id' => id' == id

/-- The hooks that were added and not removed since, in the order in which they were added. -/
def remaining : List HookEvent → List Installed
  | [] => []
  | .added i :: later =>
    if later.any (·.removes i.id) then remaining later else i :: remaining later
  | .removed _ :: later => remaining later

variable {e e' e₁ e₂ : Engine} {calls : List HookCall}

theorem afterwards_append (e : Engine) (calls more : List HookCall) :
    afterwards e (calls ++ more) = afterwards (afterwards e calls) more := List.foldl_append

theorem after_concat (calls : List HookCall) (c : HookCall) :
    after (calls ++ [c]) = c.next (after calls) := afterwards_append .initial calls [c]

theorem logged_concat (calls : List HookCall) (c : HookCall) :
    logged (calls ++ [c]) = logged calls ++ (c.event? (after calls)).toList := by
  have hfrom : ∀ e, loggedFrom e (calls ++ [c]) =
      loggedFrom e calls ++ (c.event? (afterwards e calls)).toList := by
    induction calls with
    | nil => exact fun e => List.append_nil _
    | cons c' calls ih =>
      intro e
      rw [List.cons_append, loggedFrom, loggedFrom, ih, List.append_assoc]
      rfl
  exact hfrom .initial

/-! ### What remains of a log -/

theorem remaining_append_added (log : List HookEvent) (i : Installed) :
    remaining (log ++ [.added i]) = remaining log ++ [i] := by
  induction log with
  | nil => rfl
  | cons event log ih =>
    rcases event with j | id
    · have hany : (log ++ [HookEvent.added i]).any (·.removes j.id) = log.any (·.removes j.id) := by
        simp [HookEvent.removes]
      rw [List.cons_append, remaining, remaining, hany, ih]
      split
      · rfl
      · rfl
    · exact ih

theorem remaining_append_removed (log : List HookEvent) (id : HookId) :
    remaining (log ++ [.removed id]) = (remaining log).filter fun i => i.id != id := by
  induction log with
  | nil => rfl
  | cons event log ih =>
    rcases event with j | id'
    · have hany : (log ++ [HookEvent.removed id]).any (·.removes j.id) =
          (log.any (·.removes j.id) || id == j.id) := by
        simp [HookEvent.removes]
      rw [List.cons_append, remaining, remaining, hany, ih]
      rcases log.any (·.removes j.id) with - | -
      · by_cases hid : id = j.id
        · simp [hid]
        · simp [hid, Ne.symm hid]
      · simp
    · exact ih

/-! ### What a call does -/

/-- How a call changes the chain, and what is logged of that: a hook is added on top, the topmost
one is removed, or the hook of some number wherever it stands, or nothing happens. -/
inductive Changes (e : Engine) : Option HookEvent → Engine → Prop
  | added (h : Hook) : Changes e (some (.added ⟨e.nextHook, h⟩)) (install h e).2
  | popped {i : Installed} {older : List Installed} (hc : e.chain = i :: older) :
      Changes e (some (.removed i.id)) { e with chain := older }
  | discarded (id : HookId) : Changes e (some (.removed id)) (discard id e)
  | nothing {e' : Engine} (hchain : e'.chain = e.chain) (hnext : e'.nextHook = e.nextHook) :
      Changes e none e'

/-- Popping is refused without a change of the chain. -/
theorem changes_pop (id : HookId) (e : Engine) :
    Changes e ((HookCall.pop id).event? e) ((HookCall.pop id).next e) := by
  have hact : (HookCall.pop id).act e = (pop id >>= fun _ => pure none) e := rfl
  unfold HookCall.next HookCall.event?
  rcases pop_cases id e with ⟨i, older, hc, rfl, hpop⟩ | ⟨-, v, hpop⟩
  · rw [hact, bind_of_ok hpop]
    exact .popped hc
  · have hviolate : pop id e = .error (.unwound (.violation v)) (endOf (pop id e)) := by
      rw [hpop]
      rfl
    rw [hact, bind_of_error hviolate, hpop]
    exact .nothing rfl rfl

/-- What a guard does depends on whether the thread is unwinding. -/
theorem release_eq (id : HookId) (e : Engine) :
    release id e = if e.unwinding then .ok () (discard id e) else pop id e := by
  unfold release
  rw [bind_of_ok (get_eq_ok.mpr ⟨rfl, rfl⟩)]
  split
  · rfl
  · rfl

theorem changes_call (c : HookCall) (e : Engine) : Changes e (c.event? e) (c.next e) := by
  cases c with
  | push h => exact .added h
  | pop id => exact changes_pop id e
  | drop id =>
    rcases hu : e.unwinding with - | -
    · -- the guard does what popping does
      have hrelease : release id e = pop id e := by rw [release_eq, hu]; rfl
      have hact : (HookCall.drop id).act e = (HookCall.pop id).act e := bind_congr_of_eq hrelease
      have hevent : (HookCall.drop id).event? e = (HookCall.pop id).event? e := by
        unfold HookCall.event?
        rw [hact]
        rcases (HookCall.pop id).act e with _ | _ <;> rfl
      unfold HookCall.next
      rw [hevent, hact]
      exact changes_pop id e
    · have hrelease : release id e = .ok () (discard id e) := by rw [release_eq, hu]; rfl
      have hact : (HookCall.drop id).act e = .ok none (discard id e) := bind_of_ok hrelease
      unfold HookCall.next HookCall.event?
      rw [hact]
      exact .discarded id
  | aside other => exact .nothing rfl rfl

/-! ### The order of the chain -/

/-- Newer hooks have greater numbers, and no hook has a number that has not been given yet. -/
structure Ascending (e : Engine) : Prop where
  newer : e.chain.Pairwise fun i j => j.id < i.id
  given : ∀ i ∈ e.chain, i.id < e.nextHook

namespace Ascending

theorem congr (h : Ascending e) (hchain : e'.chain = e.chain) (hnext : e.nextHook ≤ e'.nextHook) :
    Ascending e' :=
  ⟨hchain ▸ h.newer, fun i hi => Nat.lt_of_lt_of_le (h.given i (hchain ▸ hi)) hnext⟩

theorem install (h : Ascending e) (hook : Hook) : Ascending (install hook e).2 := by
  refine ⟨List.pairwise_cons.mpr ⟨h.given, h.newer⟩, fun i hi => ?_⟩
  rcases List.mem_cons.mp hi with rfl | hi
  · exact Nat.lt_succ_self _
  · exact Nat.lt_succ_of_lt (h.given i hi)

/-- Fewer hooks. -/
theorem sublist (h : Ascending e) {chain : List Installed} (hsub : chain.Sublist e.chain) :
    Ascending { e with chain := chain } :=
  ⟨h.newer.sublist hsub, fun i hi => h.given i (hsub.subset hi)⟩

theorem changed (h : Ascending e) {event : Option HookEvent} (hc : Changes e event e') :
    Ascending e' := by
  cases hc with
  | added hook => exact h.install hook
  | @popped i older hc => exact h.sublist (hc ▸ List.sublist_cons_self i older)
  | discarded id => exact h.sublist List.filter_sublist
  | nothing hchain hnext => exact h.congr hchain (Nat.le_of_eq hnext.symm)

theorem nodup (h : Ascending e) : (e.chain.map Installed.id).Nodup := by
  refine List.pairwise_map.mpr (h.newer.imp fun hlt => ?_)
  exact (Nat.ne_of_lt hlt).symm

/-- The hooks above and below one have other numbers. -/
theorem filter_eq (h : Ascending e) {newer older : List Installed} {i : Installed}
    (hc : e.chain = newer ++ i :: older) :
    e.chain.filter (fun j => j.id != i.id) = newer ++ older := by
  have hpairs := h.newer
  rw [hc, List.pairwise_append, List.pairwise_cons] at hpairs
  obtain ⟨-, ⟨holder, -⟩, hnewer⟩ := hpairs
  have hstay : ∀ {js : List Installed}, (∀ j ∈ js, j.id ≠ i.id) →
      js.filter (fun j => j.id != i.id) = js := fun hne =>
    List.filter_eq_self.mpr fun j hj => by simpa using hne j hj
  rw [hc, List.filter_append, List.filter_cons, if_neg (by simp),
    hstay fun j hj => (Nat.ne_of_lt (hnewer j hj i (List.mem_cons_self ..))).symm,
    hstay fun j hj => Nat.ne_of_lt (holder j hj)]

/-- To discard a hook takes it out of the chain and no other. -/
theorem discard_eq (h : Ascending e) {newer older : List Installed} {i : Installed}
    (hc : e.chain = newer ++ i :: older) : discard i.id e = { e with chain := newer ++ older } :=
  congrArg (fun chain => { e with chain := chain }) (h.filter_eq hc)

theorem discard_newest (h : Ascending e) {i : Installed} {older : List Installed}
    (hc : e.chain = i :: older) : discard i.id e = { e with chain := older } :=
  h.discard_eq (show e.chain = [] ++ i :: older from hc)

/-- The guard of the newest hook removes it, whether the thread is unwinding or not. -/
theorem release_newest (h : Ascending e) {i : Installed} {older : List Installed}
    (hc : e.chain = i :: older) : release i.id e = .ok () { e with chain := older } := by
  rw [release_eq]
  split
  · rw [h.discard_newest hc]
  · rcases pop_cases i.id e with ⟨j, rest, hc', -, hpop⟩ | ⟨hnot, -⟩
    · cases hc.symm.trans hc'
      exact hpop
    · exact absurd rfl (hnot i older hc)

end Ascending

theorem ascending_after (calls : List HookCall) : Ascending (after calls) := by
  induction calls using List.reverseRecOn with
  | nil => exact ⟨List.Pairwise.nil, fun i hi => nomatch hi⟩
  | append_singleton calls c ih =>
    rw [after_concat]
    exact ih.changed (changes_call c _)

/-- A change that is logged brings the chain to what remains of the log. -/
theorem Changes.reverse_chain (h : Ascending e) {event : Option HookEvent} (hc : Changes e event e')
    {log : List HookEvent} (hlog : e.chain.reverse = remaining log) :
    e'.chain.reverse = remaining (log ++ event.toList) := by
  cases hc with
  | added hook =>
    show (⟨e.nextHook, hook⟩ :: e.chain).reverse = remaining (log ++ [_])
    rw [remaining_append_added, ← hlog, List.reverse_cons]
  | @popped i older hc =>
    have holder : older = e.chain.filter fun j => j.id != i.id :=
      (congrArg Engine.chain (h.discard_newest hc)).symm
    show older.reverse = remaining (log ++ [_])
    rw [remaining_append_removed, ← hlog, List.filter_reverse, ← holder]
  | discarded id =>
    show (e.chain.filter _).reverse = remaining (log ++ [_])
    rw [remaining_append_removed, ← hlog, List.filter_reverse]
  | nothing hchain _ =>
    rw [hchain, hlog]
    exact congrArg remaining (List.append_nil log).symm

/-- The chain holds the hooks that were added and not removed since, the newest in front. -/
theorem reverse_chain_after (calls : List HookCall) :
    (after calls).chain.reverse = remaining (logged calls) := by
  induction calls using List.reverseRecOn with
  | nil => rfl
  | append_singleton calls c ih =>
    rw [after_concat, logged_concat]
    exact (changes_call c _).reverse_chain (ascending_after calls) ih

/-! ### Nested guards -/

/-- Code in which hooks come into the chain with guards only, and guards are properly nested.  Such
code may unwind, catch what unwinds, and clean up. -/
inductive Nested : {α : Type} → Act α → Prop
  | plain {α : Type} {code : Act α} (h : ∀ e,
      Lands (fun e' => e'.chain = e.chain ∧ e.nextHook ≤ e'.nextHook) (code e)) : Nested code
  | seq {α β : Type} {first : Act α} {rest : α → Act β} (hfirst : Nested first)
      (hrest : ∀ a, Nested (rest a)) : Nested (first >>= rest)
  | guard {α : Type} (h : Hook) {block : HookId → Act α} (hblock : ∀ id, Nested (block id)) :
      Nested (withHook h block)
  | caught {block : Act Unit} (hblock : Nested block) : Nested (catching block)
  | cleaned {block cleanup : Act Unit} (hblock : Nested block) (hcleanup : Nested cleanup) :
      Nested (guarded block cleanup)

/-- The chain is as before, and numbers have been given in order. -/
def Intact (e e' : Engine) : Prop := e'.chain = e.chain ∧ e.nextHook ≤ e'.nextHook

theorem Intact.trans (h : Intact e e₁) (h' : Intact e₁ e₂) : Intact e e₂ :=
  ⟨h'.1.trans h.1, Nat.le_trans h.2 h'.2⟩

theorem Intact.ascending (h : Intact e e') (he : Ascending e) : Ascending e' := he.congr h.1 h.2

section Nested

variable {α : Type}

/-- A guard ends as its block does, and removes the hook. -/
theorem withHook_of_intact (he : Ascending e) (h : Hook) {block : HookId → Act α}
    (hblock : Lands (Intact (install h e).2) (block e.nextHook (install h e).2)) :
    Lands (Intact e) (withHook h block e) ∧
      valueOf (withHook h block e) = valueOf (block e.nextHook (install h e).2) ∧
      stopOf (withHook h block e) = stopOf (block e.nextHook (install h e).2) := by
  have hremoved : ∀ {e₁}, Intact (install h e).2 e₁ →
      Intact e { e₁ with chain := e.chain } := fun hin => ⟨rfl, Nat.le_of_succ_le hin.2⟩
  rw [withHook_eq]
  rcases ho : block e.nextHook (install h e).2 with ⟨a, e₁⟩ | ⟨_ | _ | _ | _, e₁⟩ <;>
    rw [ho] at hblock
  · have hrelease : release e.nextHook e₁ = .ok () { e₁ with chain := e.chain } :=
      (hblock.ascending (he.install h)).release_newest hblock.1
    have hend : (release e.nextHook >>= fun _ => pure a) e₁ = .ok a { e₁ with chain := e.chain } :=
      bind_of_ok hrelease
    show Lands (Intact e) ((release e.nextHook >>= fun _ => pure a) e₁) ∧
      valueOf ((release e.nextHook >>= fun _ => pure a) e₁) = _ ∧
      stopOf ((release e.nextHook >>= fun _ => pure a) e₁) = _
    rw [hend]
    exact ⟨hremoved hblock, rfl, rfl⟩
  · have hdiscard : discard e.nextHook e₁ = { e₁ with chain := e.chain } :=
      (hblock.ascending (he.install h)).discard_newest hblock.1
    simp only [hdiscard]
    exact ⟨hremoved hblock, rfl, rfl⟩
  all_goals exact ⟨trivial, rfl, rfl⟩

/-- Nested guards restore the chain, whether the code between them returns or unwinds. -/
theorem Nested.restores {code : Act α} (h : Nested code) (he : Ascending e) :
    Lands (Intact e) (code e) := by
  induction h generalizing e with
  | plain h => exact h e
  | @seq α β first rest _ _ ihfirst ihrest =>
    have hfirst := ihfirst he
    rcases ho : first e with ⟨a, e₁⟩ | ⟨stop, e₁⟩ <;> rw [ho] at hfirst
    · rw [bind_of_ok ho]
      exact (ihrest a (hfirst.ascending he)).mono fun _ h => hfirst.trans h
    · rw [bind_of_error ho]
      exact hfirst.of_error
  | guard h _ ih => exact (withHook_of_intact he h (ih _ (he.install h))).1
  | @caught block _ ih =>
    have hblock := ih he
    unfold catching
    rcases ho : block e with ⟨a, e₁⟩ | ⟨_ | _ | _ | _, e₁⟩ <;> rw [ho] at hblock
    · exact hblock
    · exact hblock
    all_goals trivial
  | @cleaned block cleanup _ _ ihblock ihcleanup =>
    have hblock := ihblock he
    unfold guarded
    rcases ho : block e with ⟨a, e₁⟩ | ⟨_ | _ | _ | _, e₁⟩ <;> rw [ho] at hblock
    · exact (ihcleanup (hblock.ascending he)).mono fun _ h => hblock.trans h
    · have hclean := ihcleanup (e := { e₁ with unwinding := true })
        ((hblock.ascending he).congr rfl (Nat.le_refl _))
      rcases hd : cleanup { e₁ with unwinding := true } with ⟨b, e₂⟩ | ⟨_ | _ | _ | _, e₂⟩ <;>
        rw [hd] at hclean <;> simp only [hd]
      · have hrestored : Intact e₁ { e₂ with unwinding := e₁.unwinding } := hclean
        exact hblock.trans hrestored
      all_goals trivial
    all_goals trivial

end Nested

/-! ### The chain at a point of a history -/

/-- The chain at the end of a history is a stack of the hooks that remain. -/
structure Stacked (calls : List HookCall) : Prop where
  /-- From the bottom to the top, the chain is the list of the hooks that were pushed and not
  removed since, in the order in which they were pushed, -/
  chain : (after calls).chain.reverse = remaining (logged calls)
  /-- and no two of them have the same number. -/
  distinct : ((remaining (logged calls)).map Installed.id).Nodup
  /-- A hook can be popped just if it is the one of them that was pushed last, -/
  pop_iff : ∀ id, isOk (pop id (after calls)) = true ↔
    (remaining (logged calls)).getLast?.map Installed.id = some id
  /-- and then it is removed and no other; -/
  popped : ∀ id, isOk (pop id (after calls)) = true →
    remaining (logged (calls ++ [.pop id])) = (remaining (logged calls)).dropLast
  /-- otherwise a violation says whether there was any hook, and the chain stays as it is. -/
  refused : ∀ id, isOk (pop id (after calls)) = false → ∃ v e,
    pop id (after calls) = .error (.unwound (.violation v)) e ∧ e.chain = (after calls).chain ∧
      v.message = if (after calls).chain = [] then "log hook popped with no hooks installed"
        else "log hook popped out of order"
  /-- The guard of a hook pops it, -/
  dropped : (after calls).unwinding = false → ∀ id, release id (after calls) = pop id (after calls)
  /-- but on a thread that is unwinding it removes its hook wherever that stands, and no other, -/
  discarded : (after calls).unwinding = true → ∀ newer i older,
    (after calls).chain = newer ++ i :: older →
      release i.id (after calls) = .ok () { after calls with chain := newer ++ older }
  /-- and does nothing if its hook is gone. -/
  gone : (after calls).unwinding = true → ∀ id, id ∉ (after calls).chain.map Installed.id →
    release id (after calls) = .ok () (after calls)
  /-- So code with nested guards restores the chain, whether it returns or unwinds, -/
  nested : ∀ {α : Type} {code : Act α}, Nested code →
    Lands (fun e => e.chain = (after calls).chain) (code (after calls))
  /-- and what it returns or unwinds with is not due to its guards. -/
  guarded : ∀ {α : Type} (h : Hook) {block : HookId → Act α}, (∀ id, Nested (block id)) →
    let e := after calls
    valueOf (withHook h block e) = valueOf (block e.nextHook (install h e).2) ∧
      stopOf (withHook h block e) = stopOf (block e.nextHook (install h e).2)

/-- A hook can be popped just if it is the newest one. -/
theorem isOk_pop_iff {id : HookId} :
    isOk (pop id e) = true ↔ e.chain.head?.map Installed.id = some id := by
  rcases pop_cases id e with ⟨i, older, hc, rfl, hpop⟩ | ⟨hnot, v, hpop⟩ <;> rw [hpop]
  · simp [hc, isOk]
  · refine iff_of_false Bool.false_ne_true fun hhead => ?_
    rcases hc : e.chain with - | ⟨i, older⟩ <;> rw [hc] at hhead
    · exact absurd hhead (by simp)
    · exact hnot i older hc (Option.some.inj hhead)

/-- To pop any other is a violation. -/
theorem pop_of_not_isOk {id : HookId} (h : isOk (pop id e) = false) :
    pop id e = violate (if e.chain = [] then .popEmpty else .popOutOfOrder) e := by
  unfold pop at h ⊢
  rw [bind_of_ok (get_eq_ok.mpr ⟨rfl, rfl⟩)] at h ⊢
  rcases hc : e.chain with - | ⟨newest, older⟩ <;> rw [hc] at h
  · rfl
  · by_cases hid : newest.id = id
    · simp only [hid, if_true] at h
      exact nomatch h
    · simp only [hid, if_false, reduceCtorEq]

/-- Whatever calls are made, in whatever order, the chain stays a stack. -/
theorem stacked_of_calls (calls : List HookCall) : Stacked calls where
  chain := reverse_chain_after calls
  distinct := by
    rw [← reverse_chain_after, List.map_reverse]
    exact List.nodup_reverse.mpr (ascending_after calls).nodup
  pop_iff id := by rw [isOk_pop_iff, ← reverse_chain_after, List.getLast?_reverse]
  popped id h := by
    rcases pop_cases id (after calls) with ⟨i, older, hc, rfl, hpop⟩ | ⟨-, v, hpop⟩
    · have hnext : (HookCall.pop i.id).next (after calls) = { after calls with chain := older } :=
        congrArg endOf (bind_of_ok hpop)
      rw [← reverse_chain_after, ← reverse_chain_after, after_concat, hnext, hc]
      show older.reverse = (i :: older).reverse.dropLast
      rw [List.reverse_cons, List.dropLast_concat]
    · rw [hpop] at h
      exact nomatch h
  refused id h := by
    refine ⟨_, _, pop_of_not_isOk h, rfl, ?_⟩
    split
    · rfl
    · rfl
  dropped hu id := by
    rw [release_eq, hu]
    rfl
  discarded hu newer i older hc := by
    rw [release_eq, hu, (ascending_after calls).discard_eq hc]
    rfl
  gone hu id hid := by
    have hdiscard : discard id (after calls) = after calls := by
      have hstay : (after calls).chain.filter (fun i => i.id != id) = (after calls).chain :=
        List.filter_eq_self.mpr fun i hi =>
          bne_iff_ne.mpr fun heq => hid (List.mem_map.mpr ⟨i, hi, heq⟩)
      exact congrArg (fun chain => { after calls with chain := chain }) hstay
    rw [release_eq, hu, hdiscard]
    rfl
  nested h := (h.restores (ascending_after calls)).mono fun _ h => h.1
  guarded h block hblock := by
    have hinner := ((ascending_after calls).install h)
    exact (withHook_of_intact (ascending_after calls) h ((hblock _).restores hinner)).2

/-- An unwinding thread takes the lower of two hooks away, and then its guard finds nothing. -/
example :
    let calls := [.push (.expecting []), .push (.expecting []),
      .aside { Engine.initial with unwinding := true }, .drop 1, .drop 1]
    (after calls).chain.map Installed.id = [2] ∧ isOk (pop 1 (after calls)) = false := by decide

/-! ### The histories of a process -/

/-- The state `e'` comes after a history that starts in the state `e`. -/
def Later (e e' : Engine) : Prop := ∃ calls, afterwards e calls = e'

namespace Later

theorem refl (e : Engine) : Later e e := ⟨[], rfl⟩

theorem trans (h : Later e e₁) (h' : Later e₁ e₂) : Later e e₂ := by
  obtain ⟨calls, rfl⟩ := h
  obtain ⟨more, rfl⟩ := h'
  exact ⟨calls ++ more, afterwards_append e calls more⟩

theorem call (c : HookCall) (e : Engine) : Later e (c.next e) := ⟨[c], rfl⟩

/-- All but the chain and the next number may change aside. -/
theorem of_eq (hchain : e'.chain = e.chain) (hnext : e'.nextHook = e.nextHook) : Later e e' := by
  have hnext' : (HookCall.aside e').next e = e' := by
    show { e' with chain := e.chain, nextHook := e.nextHook } = e'
    rw [← hchain, ← hnext]
  exact ⟨[.aside e'], hnext'⟩

/-- So only the chains and the next numbers of its ends matter to a history. -/
theorem congr (h : Later e₁ e₂) (hchain : e₁.chain = e.chain) (hnext : e₁.nextHook = e.nextHook)
    (hchain' : e'.chain = e₂.chain) (hnext' : e'.nextHook = e₂.nextHook) : Later e e' :=
  ((of_eq hchain hnext).trans h).trans (of_eq hchain' hnext')

theorem enlist (named : Bool) (h : Hook) (e : Engine) : Later e (enlist named h e) :=
  (call (.push h) e).trans (by rcases named with _ | _ <;> exact of_eq rfl rfl)

theorem binding (h : Hook) (e : Engine) : Later e (binding h e) :=
  (call (.push h) e).trans (of_eq rfl rfl)

/-- The newest hook is popped. -/
theorem popped {i : Installed} {older : List Installed} (hc : e.chain = i :: older) :
    Later e { e with chain := older } := by
  rcases pop_cases i.id e with ⟨j, rest, hc', -, hpop⟩ | ⟨hnot, -⟩
  · cases hc.symm.trans hc'
    have hnext : (HookCall.pop i.id).next e = { e with chain := older } :=
      congrArg endOf (bind_of_ok hpop)
    exact ⟨[.pop i.id], hnext⟩
  · exact absurd rfl (hnot i older hc)

/-- The guard of a hook is dropped by an unwinding thread. -/
theorem discarded (id : HookId) (e : Engine) : Later e (discard id e) := by
  have hcalm : Later e { e with unwinding := true } := of_eq rfl rfl
  have hnext : (HookCall.drop id).next { e with unwinding := true } =
      discard id { e with unwinding := true } := rfl
  have hdrop := call (.drop id) { e with unwinding := true }
  exact hcalm.trans ((hnext ▸ hdrop).trans (of_eq rfl rfl))

end Later

theorem respected_later (A : Action → Prop) (P : Entry → Prop) : Respected A P Later where
  refl := .refl
  trans h h' := h.trans h'
  noted _ _ _ := .of_eq rfl rfl
  printed _ _ := .of_eq rfl rfl
  installed e named h _ _ := .enlist named h e
  popped _ _ _ hc _ := .popped hc
  released _ h hc _ := ((Later.enlist _ _ _).trans h).trans (.popped hc)
  discarded _ h := ((Later.enlist _ _ _).trans h).trans (.discarded _ _)
  bound _ _ h := ((Later.binding _ _).trans h).trans (.of_eq rfl rfl)
  recorded _ _ _ _ _ := .of_eq rfl rfl
  tested _ h := h.congr rfl rfl rfl rfl
  threaded h := h.congr rfl rfl rfl rfl
  cleaned h := h.congr rfl rfl rfl rfl
  asked _ _ h := h.trans (.of_eq rfl rfl)
  collected _ _ _ _ := .of_eq rfl rfl
  configured _ _ _ _ := .of_eq rfl rfl
  intercepted _ := .of_eq rfl rfl

/-- Whatever a process has done is a history. -/
theorem Reached.exists_history (h : Reached e) : ∃ calls, after calls = e := by
  show Later .initial e
  refine h.induction (respected_later (fun _ => True) fun _ => True) (fun _ => trivial)
    (fun _ _ => .of_eq rfl rfl) (fun hr he => he.trans hr) (fun _ _ => .of_eq rfl rfl)
    (fun _ he => he.trans (.of_eq rfl rfl)) (fun _ he => he.trans (.of_eq rfl rfl))
    fun _ he => he.trans (.of_eq rfl rfl)

end Engine

end TestEngine
