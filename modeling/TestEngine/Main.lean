/-
TestEngine/Main.lean

The demonstration program: runs the suite `demo` as the command line says.
-/
import TestEngine.Demo

open TestEngine

def main (args : List String) : IO UInt32 := do
  let debug ← IO.getEnv "TAPLINE_DEBUG"
  let result := Program.run ⟨args, debug, .none⟩ Demo.steps
  IO.print result.stdout
  IO.eprint result.stderr
  return UInt32.ofNat (result.status.getD 134)
