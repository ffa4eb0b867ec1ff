/-
TestEngine/Path/Registers.lean

A file of numbered path registers.  A register remembers the text that its path
was last written as, so that writing it again costs nothing; every change of the
path forgets that text.  Operations name registers by their number, and those
that make a new path add a register at the end.

`apply` carries out one operation and writes nothing; `step` also shows the register
that the operation was about, which writes it.
-/
import TestEngine.Path.Cell

namespace TestEngine

/-- The registers, in the order of their creation. -/
structure PathRegisters where
  cells : List PathCell
  deriving Repr

namespace PathRegisters

/-- What can be asked of the registers. -/
inductive Step
  | new
  | ofElement (element : String)
  | parse (input : String)
  | clone (reg : Nat)
  | join (reg : Nat) (element : String)
  | push (reg : Nat) (element : String)
  | prepend (reg : Nat) (element : String)
  | appendPath (reg other : Nat)
  | prependPath (reg other : Nat)
  | startsWith (reg other : Nat)
  | equal (reg other : Nat)
  deriving Repr

/-- What a step comes to: the register that it has made or changed, an answer, or the
reason why it has failed. -/
inductive Outcome
  | register (reg : Nat)
  | truth (holds : Bool)
  | malformed (error : Path.ParseError)
  | invalidElement (error : Path.InvalidElement)
  | noSuchRegister
  deriving DecidableEq, Repr

/-- What a step answers. -/
inductive Reply
  | cell (reg : Nat) (path : Path) (text : String)
  | truth (step : Step) (holds : Bool)
  | malformed (error : Path.ParseError)
  | invalidElement (error : Path.InvalidElement)
  | noSuchRegister
  deriving Repr

def empty : PathRegisters := ⟨[]⟩

/-! ### Writing -/

/-- Write register `reg`, if there is one; it remembers the text. -/
def write (r : PathRegisters) (reg : Nat) : Option String × PathRegisters :=
  match r.cells[reg]? with
  | some c => (some c.render, ⟨r.cells.set reg c.written⟩)
  | none => (none, r)

/-- Show register `reg`, which writes it. -/
def shown (r : PathRegisters) (reg : Nat) : Reply × PathRegisters :=
  match r.cells[reg]?, r.write reg with
  | some c, (some text, r) => (.cell reg c.path text, r)
  | _, _ => (.noSuchRegister, r)

/-! ### Steps -/

/-- Add a register. -/
def create (r : PathRegisters) (c : PathCell) : Outcome × PathRegisters :=
  (.register r.cells.length, ⟨r.cells ++ [c]⟩)

/-- Give register `reg` another path. -/
def assign (r : PathRegisters) (reg : Nat) (p : Path) : Outcome × PathRegisters :=
  (.register reg, ⟨r.cells.set reg (.ofPath p)⟩)

/-- Go on with what register `reg` holds, if there is one. -/
def withCell (r : PathRegisters) (reg : Nat) (k : PathCell → Outcome × PathRegisters) :
    Outcome × PathRegisters :=
  match r.cells[reg]? with
  | some c => k c
  | none => (.noSuchRegister, r)

/-- Go on with a changed path, unless the element is not valid. -/
def accepting (r : PathRegisters) (changed : Except Path.InvalidElement Path)
    (k : Path → Outcome × PathRegisters) : Outcome × PathRegisters :=
  match changed with
  | .ok p => k p
  | .error bad => (.invalidElement bad, r)

/-- Carry out one step.  A step that fails leaves the registers as they are. -/
def apply (r : PathRegisters) : Step → Outcome × PathRegisters
  | .new => r.create (.ofPath .empty)
  | .ofElement e => r.accepting (Path.ofElement e) fun p => r.create (.ofPath p)
  | .parse input =>
    match Path.parse input with
    | .ok p => r.create (.ofPath p)
    | .error bad => (.malformed bad, r)
  | .clone reg => r.withCell reg fun c => r.create c
  | .join reg e => r.withCell reg fun c => r.accepting (c.path.push e) fun p => r.create (.ofPath p)
  | .push reg e => r.withCell reg fun c => r.accepting (c.path.push e) fun p => r.assign reg p
  | .prepend reg e => r.withCell reg fun c => r.accepting (c.path.prepend e) fun p => r.assign reg p
  | .appendPath reg other =>
    r.withCell reg fun c => r.withCell other fun d => r.assign reg (c.path.append d.path)
  | .prependPath reg other =>
    r.withCell reg fun c => r.withCell other fun d => r.assign reg (d.path.append c.path)
  | .startsWith reg other =>
    r.withCell reg fun c => r.withCell other fun d => (.truth (c.path.startsWith d.path), r)
  | .equal reg other =>
    r.withCell reg fun c => r.withCell other fun d => (.truth (c.path == d.path), r)

/-- Carry out one step and show the register that it has made or changed. -/
def step (r : PathRegisters) (s : Step) : Reply × PathRegisters :=
  match r.apply s with
  | (.register reg, r) => r.shown reg
  | (.truth holds, r) => (.truth s holds, r)
  | (.malformed bad, r) => (.malformed bad, r)
  | (.invalidElement bad, r) => (.invalidElement bad, r)
  | (.noSuchRegister, r) => (.noSuchRegister, r)

/-- Carry out the steps in order. -/
def run : PathRegisters → List Step → List Reply × PathRegisters
  | r, [] => ([], r)
  | r, s :: steps =>
    let (reply, r) := r.step s
    let (replies, r) := r.run steps
    (reply :: replies, r)

end PathRegisters

end TestEngine
