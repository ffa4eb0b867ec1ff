/-
TestEngine/Engine/Chain.lean

The chain of hooks as a stack.  `pop` removes a hook only if it is the newest one
and is a violation otherwise; `discard` removes it wherever it stands.  A guarded
hook (`withHook`) is popped when its block ends, and discarded instead while the
thread is unwinding, so that cleaning up cannot fail.

A hook can have a name that only one block knows (`letHook`).  At the end of the block it
is the name that goes; the hook stays, unless the block has popped it.
-/
import TestEngine.Engine.Basic

namespace TestEngine

namespace Engine

/-- The state with one more hook, and its number. -/
def install (h : Hook) (e : Engine) : HookId × Engine :=
  (e.nextHook, { e with chain := ⟨e.nextHook, h⟩ :: e.chain, nextHook := e.nextHook + 1 })

/-- Add a hook, and give its number. -/
def push (h : Hook) : Act HookId := modifyGet (install h)

/-- Remove the newest hook, which has to be the one with this number. -/
def pop (id : HookId) : Act Unit := do
  let e ← get
  match e.chain with
  | [] => violate .popEmpty
  | newest :: older =>
    if newest.id = id then set { e with chain := older } else violate .popOutOfOrder

/-- The state without the hook of this number. -/
def discard (id : HookId) (e : Engine) : Engine :=
  { e with chain := e.chain.filter fun i => i.id != id }

/-- End the guard of a hook. -/
def release (id : HookId) : Act Unit := do
  if (← get).unwinding then modify (discard id) else pop id

/-- Carry out a block with a hook in the chain, which its guard removes at the end.
If the process ends, no guard runs. -/
def withHook {α : Type} (h : Hook) (block : HookId → Act α) : Act α := fun e =>
  let (id, e) := install h e
  match block id e with
  | .ok a e => (release id *> pure a) e
  -- the thread is unwinding here, so the guard may not fail
  | .error (.unwound payload) e => .error (.unwound payload) (discard id e)
  | .error stop e => .error stop e

/-- Push a hook, and carry out a block that has a name for it. -/
def letHook {α : Type} (h : Hook) (block : Act α) : Act α := fun e =>
  let (id, pushed) := install h e
  -- the names that there were before are those that there are afterwards
  let back (e' : Engine) : Engine := { e' with own := e.own }
  match block { pushed with own := id :: e.own } with
  | .ok a e' => .ok a (back e')
  | .error (.unwound payload) e' => .error (.unwound payload) (back e')
  | .error stop e' => .error stop e'

/-- The number of hooks in the chain. -/
def depth (e : Engine) : Nat := e.chain.length

end Engine

end TestEngine
