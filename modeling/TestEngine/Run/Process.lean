/-
TestEngine/Run/Process.lean

How a process runs a tree: once, in the mode that its command line describes, and
with the exit status of the summary.
-/
import TestEngine.CommandLine
import TestEngine.Run.Resolve

namespace TestEngine

namespace Engine

/-- What a test program says of itself when asked for its version. -/
def versionText : String := "tapline 0.1.0"

/-- Run a tree in a given mode and give the exit status.  A process does that once. -/
def runOnce (mode : Mode) (tree : Tree) (root : ObjectId) : Act Nat := do
  if (← get).hasRun then violate .ranTwice
  modify fun e => { e with hasRun := true }
  let summary ← run mode tree root
  pure summary.exitCode

/-- The mode that a command line describes, for output that goes to no terminal.  A
wrong command line ends the process, as do requests for information. -/
def modeOf (args : List String) : Act Mode :=
  match CommandLine.parse args with
  | .ok options => pure (options.mode false)
  | .error .help => throw (.exited 0)
  | .error .version => do
    print versionText
    throw (.exited 0)
  | .error _ => throw (.exited 2)

/-- Run a tree as the command line says and give the exit status. -/
def runArgs (args : List String) (tree : Tree) (root : ObjectId) : Act Nat := do
  -- a wrong command line ends the process even where a second run would be refused
  let mode ← modeOf args
  runOnce mode tree root

/-- Run a tree as the command line says and end the process. -/
def runMain {α : Type} (args : List String) (tree : Tree) (root : ObjectId) : Act α := do
  let status ← runArgs args tree root
  throw (.exited status)

end Engine

end TestEngine
