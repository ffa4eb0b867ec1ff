/-
TestEngine/Mode.lean

What a run is started with.  A `Mode` says which classes of tests run, how much
is printed, which paths are selected, and whether the run only lists its tests
or stops at the first failure.  The classes and the verbosity are also published
as a set of `ModeFlags`, which test bodies can ask for.
-/
import TestEngine.Path

namespace TestEngine

/-! ### Flags -/

/-- A single mode flag. -/
inductive ModeFlag
  | perf
  | thorough
  | quick
  | undefined
  | verbose
  | quiet
  deriving DecidableEq, Repr

namespace ModeFlag

/-- The flags in the order of their bits. -/
def all : List ModeFlag := [.perf, .thorough, .quick, .undefined, .verbose, .quiet]

/-- The bit of a flag. -/
def rank : ModeFlag → Nat
  | .perf => 0
  | .thorough => 1
  | .quick => 2
  | .undefined => 3
  | .verbose => 4
  | .quiet => 5

def name : ModeFlag → String
  | .perf => "perf"
  | .thorough => "thorough"
  | .quick => "quick"
  | .undefined => "undefined"
  | .verbose => "verbose"
  | .quiet => "quiet"

/-- The flag of a name; `slow` is another name for `thorough`. -/
def ofName? (s : String) : Option ModeFlag :=
  if s == "slow" then some .thorough else all.find? fun f => f.name == s

end ModeFlag

/-- A set of mode flags, one bit for each. -/
structure ModeFlags where
  bits : BitVec 6
  deriving DecidableEq, Repr

namespace ModeFlags

def none : ModeFlags := ⟨0⟩

def single (f : ModeFlag) : ModeFlags := ⟨1#6 <<< f.rank⟩

def union (a b : ModeFlags) : ModeFlags := ⟨a.bits ||| b.bits⟩

/-- The set of the listed flags. -/
def ofList (fs : List ModeFlag) : ModeFlags :=
  fs.foldl (fun a f => a.union (single f)) none

/-- Is the flag in the set? -/
def has (a : ModeFlags) (f : ModeFlag) : Bool := a.bits.getLsbD f.rank

/-- Are all flags of `b` in `a`? -/
def contains (a b : ModeFlags) : Bool := a.bits &&& b.bits == b.bits

/-- The names of the flags with bars between them, or `none`. -/
def text (a : ModeFlags) : String :=
  match ModeFlag.all.filter a.has with
  | [] => "none"
  | fs => String.intercalate "|" (fs.map ModeFlag.name)

/-- The flags in force before any run. -/
def default : ModeFlags := ofList [.quick, .undefined]

end ModeFlags

/-! ### Modes -/

/-- How much of what is logged gets printed. -/
inductive Verbosity
  | quiet
  | normal
  | verbose
  deriving DecidableEq, Repr, Inhabited

def Verbosity.label : Verbosity → String
  | .quiet => "Quiet"
  | .normal => "Normal"
  | .verbose => "Verbose"

/-- What a run is started with. -/
structure Mode where
  perf : Bool
  thorough : Bool
  undefined : Bool
  verbosity : Verbosity
  listOnly : Bool
  failFast : Bool
  includes : List Path
  excludes : List Path
  colours : Bool
  deriving DecidableEq, Repr

namespace Mode

/-- Everything but slow and performance tests, at normal verbosity. -/
def default : Mode where
  perf := false
  thorough := false
  undefined := true
  verbosity := .normal
  listOnly := false
  failFast := false
  includes := []
  excludes := []
  colours := false

/-- The published flags: one of `thorough` and `quick`, and at most one of
`verbose` and `quiet`. -/
def flags (m : Mode) : ModeFlags :=
  ModeFlags.ofList <|
    (if m.thorough then [.thorough] else [.quick]) ++ (if m.perf then [.perf] else []) ++
      (if m.undefined then [.undefined] else []) ++
      match m.verbosity with
      | .quiet => [.quiet]
      | .verbose => [.verbose]
      | .normal => []

/-- Is a test at this path left out?  It is if paths to run are given and none
of them leads to it, or if a path to skip does. -/
def excluded (m : Mode) (path : Path) : Bool :=
  let allowed := m.includes.isEmpty || m.includes.any path.startsWith
  !allowed || m.excludes.any path.startsWith

/-- Read the paths of a selection in order; the first malformed one is the error. -/
def parsePaths : List String → Except Path.ParseError (List Path)
  | [] => .ok []
  | s :: ss =>
    match Path.parse s with
    | .error e => .error e
    | .ok p =>
      match parsePaths ss with
      | .error e => .error e
      | .ok ps => .ok (p :: ps)

/-- The mode with a selection given as texts, those to run read first. -/
def select (m : Mode) (includes excludes : List String) : Except Path.ParseError Mode :=
  match parsePaths includes with
  | .error e => .error e
  | .ok is =>
    match parsePaths excludes with
    | .error e => .error e
    | .ok es => .ok { m with includes := is, excludes := es }

end Mode

/-! ### Debugging aids -/

/-- Which failures end the process on the spot. -/
structure DebugFlags where
  fatalAsserts : Bool
  fatalWarnings : Bool
  fatalCriticals : Bool
  deriving DecidableEq, Repr

namespace DebugFlags

def none : DebugFlags := ⟨false, false, false⟩

/-- The flags with the named one set too; an unknown name sets none. -/
def add (d : DebugFlags) (name : String) : DebugFlags :=
  if name == "fatal-asserts" then { d with fatalAsserts := true }
  else if name == "fatal-warnings" then { d with fatalWarnings := true }
  else if name == "fatal-criticals" then { d with fatalCriticals := true }
  else if name == "all" then ⟨true, true, true⟩
  else d

/-- Read a list of names with `,`, `:` or a space between any two. -/
def parse (list : String) : DebugFlags :=
  let names := Text.splitWhere (fun c => c == ',' || c == ':' || c == ' ') list.toList
  (names.map fun name => String.ofList (Text.trim name)).foldl add none

end DebugFlags

end TestEngine
