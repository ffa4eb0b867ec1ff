/-
TestEngine/Level.lean

Severity levels of diagnostics, from `error`, the most severe, to `debug`, and
sets of them.  A set is kept as one bit per level.  Events of the logging façade
have five levels of their own (`EventLevel`); `Level.ofEvent` maps them.
-/
import TestEngine.Text.Ansi

namespace TestEngine

/-! ### Levels -/

/-- The levels, in declared order. -/
inductive Level
  | error
  | critical
  | warning
  | message
  | info
  | debug
  deriving DecidableEq, Repr, Inhabited

/-- The levels of logged events. -/
inductive EventLevel
  | error
  | warn
  | info
  | debug
  | trace
  deriving DecidableEq, Repr

namespace Level

/-- Every level, in declared order. -/
def all : List Level := [.error, .critical, .warning, .message, .info, .debug]

theorem mem_all (l : Level) : l ∈ all := by
  cases l <;> simp [all]

/-- The position of a level in declared order. -/
def rank : Level → Nat
  | .error => 0
  | .critical => 1
  | .warning => 2
  | .message => 3
  | .info => 4
  | .debug => 5

/-- The name that outputs show. -/
def label : Level → String
  | .error => "ERROR"
  | .critical => "CRITICAL"
  | .warning => "WARNING"
  | .message => "MESSAGE"
  | .info => "INFO"
  | .debug => "DEBUG"

def colour : Level → Text.Colour
  | .error => .red
  | .critical => .magenta
  | .warning => .yellow
  | .message => .green
  | .info => .blue
  | .debug => .cyan

/-- The level of a logged event: an error counts as `error` only if it is
fatal, and as `critical` otherwise. -/
def ofEvent (level : EventLevel) (fatal : Bool) : Level :=
  match level with
  | .error => if fatal then .error else .critical
  | .warn => .warning
  | .info => .message
  | .debug => .info
  | .trace => .debug

/-- The levels after `l` in declared order. -/
def following (l : Level) : List Level :=
  all.filter fun m => l.rank < m.rank

end Level

/-! ### Sets of levels -/

/-- A set of levels, one bit for each. -/
structure LevelSet where
  bits : BitVec 6
  deriving DecidableEq, Repr

namespace LevelSet

/-- The empty set. -/
def none : LevelSet := ⟨0⟩

/-- The set of all levels. -/
def all : LevelSet := ⟨0b111111⟩

/-- The set of one level. -/
def single (l : Level) : LevelSet := ⟨1#6 <<< l.rank⟩

def union (a b : LevelSet) : LevelSet := ⟨a.bits ||| b.bits⟩

/-- Is the level in the set? -/
def contains (a : LevelSet) (l : Level) : Bool := a.bits.getLsbD l.rank

/-- Do the sets have a level in common? -/
def intersects (a b : LevelSet) : Bool := a.bits &&& b.bits != 0

def isEmpty (a : LevelSet) : Bool := a.bits == 0

/-- The set of the listed levels. -/
def ofList (ls : List Level) : LevelSet :=
  ls.foldl (fun a l => a.union (single l)) none

/-- The levels of the set, in declared order. -/
def toList (a : LevelSet) : List Level := Level.all.filter a.contains

end LevelSet

end TestEngine
