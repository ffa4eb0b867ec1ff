/-
TestEngine/CommandLine.lean

The command line of a test program.

    -p PATH, --path PATH      run only tests at or below PATH (repeatable)
    -s PATH, --skip PATH      leave out tests at or below PATH (repeatable)
    -m MODE, --mode MODE      turn a class of tests on or off (repeatable)
    -v, --verbose   -q, --quiet   -l, --list   --fail-fast
    --color auto|always|never
    -h, --help   -V, --version

A value stands in the next argument, after `=`, or right after a short option.
Arguments are read from left to right.  A value is checked only when the next
option takes effect or the arguments end, so an unknown argument is reported
before a bad value in front of it.  An option that takes one value, and a switch,
may be given once; `-v` and `-q` exclude each other, which is checked last.
-/
import TestEngine.Mode

namespace TestEngine

namespace CommandLine

/-! ### Arguments -/

/-- Why a command line is not carried out; `help` and `version` are requests. -/
inductive UsageError
  | unknownArgument
  | missingValue
  | unknownValue
  | malformedPath
  | conflict
  | needlessValue
  | help
  | version
  deriving DecidableEq, Repr

/-- Arguments without a value. -/
inductive Switch
  | verbose
  | quiet
  | list
  | failFast
  | help
  | version
  deriving DecidableEq, Repr

/-- Arguments with a value. -/
inductive Setting
  | path
  | skip
  | mode
  | colour
  deriving DecidableEq, Repr

/-- A value of `--mode`. -/
inductive ModeArg
  | perf
  | slow
  | thorough
  | quick
  | undefined
  | noUndefined
  deriving DecidableEq, Repr

/-- A value of `--color`. -/
inductive ColourArg
  | auto
  | always
  | never
  deriving DecidableEq, Repr

/-- What an argument's name stands for. -/
inductive Argument
  | switch (s : Switch)
  | setting (s : Setting)

def Argument.ofLong? (name : String) : Option Argument :=
  match name with
  | "path" => some (.setting .path)
  | "skip" => some (.setting .skip)
  | "mode" => some (.setting .mode)
  | "color" => some (.setting .colour)
  | "verbose" => some (.switch .verbose)
  | "quiet" => some (.switch .quiet)
  | "list" => some (.switch .list)
  | "fail-fast" => some (.switch .failFast)
  | "help" => some (.switch .help)
  | "version" => some (.switch .version)
  | _ => none

def Argument.ofShort? (c : Char) : Option Argument :=
  match c with
  | 'p' => some (.setting .path)
  | 's' => some (.setting .skip)
  | 'm' => some (.setting .mode)
  | 'v' => some (.switch .verbose)
  | 'q' => some (.switch .quiet)
  | 'l' => some (.switch .list)
  | 'h' => some (.switch .help)
  | 'V' => some (.switch .version)
  | _ => none

def ModeArg.ofName? (name : String) : Option ModeArg :=
  match name with
  | "perf" => some .perf
  | "slow" => some .slow
  | "thorough" => some .thorough
  | "quick" => some .quick
  | "undefined" => some .undefined
  | "no-undefined" => some .noUndefined
  | _ => none

def ColourArg.ofName? (name : String) : Option ColourArg :=
  match name with
  | "auto" => some .auto
  | "always" => some .always
  | "never" => some .never
  | _ => none

/-! ### Options -/

/-- What a command line asks for. -/
structure Options where
  includes : List Path
  excludes : List Path
  modes : List ModeArg
  verbose : Bool
  quiet : Bool
  list : Bool
  failFast : Bool
  colour : Option ColourArg
  deriving DecidableEq, Repr

namespace Options

def none : Options := ⟨[], [], [], false, false, false, false, .none⟩

/-- Turn a switch on, which may be done once. -/
def turnOn (o : Options) (s : Switch) : Except UsageError Options :=
  match s with
  | .verbose => if o.verbose then .error .conflict else .ok { o with verbose := true }
  | .quiet => if o.quiet then .error .conflict else .ok { o with quiet := true }
  | .list => if o.list then .error .conflict else .ok { o with list := true }
  | .failFast => if o.failFast then .error .conflict else .ok { o with failFast := true }
  | .help => .error .help
  | .version => .error .version

/-- Give a setting one more value. -/
def give (o : Options) (s : Setting) (value : String) : Except UsageError Options :=
  match s with
  | .path =>
    match Path.parse value with
    | .ok p => .ok { o with includes := o.includes ++ [p] }
    | .error _ => .error .malformedPath
  | .skip =>
    match Path.parse value with
    | .ok p => .ok { o with excludes := o.excludes ++ [p] }
    | .error _ => .error .malformedPath
  | .mode =>
    match ModeArg.ofName? value with
    | some m => .ok { o with modes := o.modes ++ [m] }
    | Option.none => .error .unknownValue
  | .colour =>
    if o.colour.isSome then .error .conflict
    else
      match ColourArg.ofName? value with
      | some c => .ok { o with colour := some c }
      | Option.none => .error .unknownValue

end Options

/-! ### Reading -/

/-- The options so far, and the setting that has been named last with its value,
if that has been read. -/
structure Reading where
  options : Options
  pending : Option (Setting × Option String)

namespace Reading

/-- Let the pending setting take effect. -/
def settle (r : Reading) : Except UsageError Options :=
  match r.pending with
  | none => .ok r.options
  | some (_, none) => .error .missingValue
  | some (s, some value) => r.options.give s value

/-- Read a switch. -/
def turnOn (r : Reading) (s : Switch) : Except UsageError Reading :=
  match r.settle with
  | .error e => .error e
  | .ok o =>
    match o.turnOn s with
    | .error e => .error e
    | .ok o => .ok ⟨o, none⟩

/-- Read a setting, with its value or without. -/
def name (r : Reading) (s : Setting) (value : Option String) : Except UsageError Reading :=
  match r.settle with
  | .error e => .error e
  | .ok o =>
    match value with
    | none => .ok ⟨o, some (s, none)⟩
    | some value =>
      match o.give s value with
      | .error e => .error e
      | .ok o => .ok ⟨o, none⟩

/-- Read what follows `--` in a long argument. -/
def long (r : Reading) (cs : List Char) : Except UsageError Reading :=
  let name := String.ofList (cs.takeWhile (· != '='))
  let value := match cs.dropWhile (· != '=') with
    | [] => none
    | _ :: value => some (String.ofList value)
  match Argument.ofLong? name, value with
  | none, _ => .error .unknownArgument
  | some (.setting s), value => r.name s value
  | some (.switch _), some _ => .error .needlessValue
  | some (.switch s), none => r.turnOn s

/-- Read the letters of a short argument.  The text after the letter of a setting
is its value, less one `=` at the front. -/
def short (r : Reading) : List Char → Except UsageError Reading
  | [] => .ok r
  | c :: cs =>
    match Argument.ofShort? c with
    | none => .error .unknownArgument
    | some (.setting s) =>
      match cs with
      | [] => r.name s none
      | '=' :: value => r.name s (some (String.ofList value))
      | value => r.name s (some (String.ofList value))
    | some (.switch s) =>
      match r.turnOn s with
      | .error e => .error e
      | .ok r => r.short cs

/-- Read an argument that names nothing: the value of the pending setting. -/
def plain (r : Reading) (arg : String) : Except UsageError Reading :=
  match r.pending with
  | some (s, none) => .ok { r with pending := some (s, some arg) }
  | _ => .error .unknownArgument

/-- The options when the arguments have ended. -/
def finish (r : Reading) : Except UsageError Options :=
  match r.settle with
  | .error e => .error e
  | .ok o => if o.verbose && o.quiet then .error .conflict else .ok o

/-- Read the arguments.  Nothing may follow `--`. -/
def run (r : Reading) : List String → Except UsageError Options
  | [] => r.finish
  | arg :: args =>
    let next : Except UsageError Reading :=
      match arg.toList with
      | '-' :: '-' :: cs => r.long cs
      | '-' :: c :: cs => r.short (c :: cs)
      | _ => r.plain arg
    -- after `--` come plain arguments only, of which there are none
    if arg == "--" then (if args.isEmpty then r.finish else .error .unknownArgument)
    else
      match next with
      | .error e => .error e
      | .ok r => r.run args

end Reading

/-- The options that the arguments stand for. -/
def parse (args : List String) : Except UsageError Options :=
  Reading.run ⟨.none, none⟩ args

/-! ### The mode of a run -/

/-- What a mode argument changes. -/
def ModeArg.apply (m : Mode) : ModeArg → Mode
  | .perf => { m with perf := true }
  | .slow => { m with thorough := true }
  | .thorough => { m with thorough := true }
  | .quick => { m with thorough := false }
  | .undefined => { m with undefined := true }
  | .noUndefined => { m with undefined := false }

/-- The mode that the options describe; the mode arguments take effect in order.
`terminal` tells whether the output goes to one, which decides on colours unless
the options do. -/
def Options.mode (o : Options) (terminal : Bool) : Mode :=
  let base : Mode :=
    { Mode.default with
      listOnly := o.list
      failFast := o.failFast
      includes := o.includes
      excludes := o.excludes
      verbosity := if o.verbose then .verbose else if o.quiet then .quiet else .normal
      colours := match o.colour with
        | some .always => true
        | some .never => false
        | _ => terminal }
  o.modes.foldl ModeArg.apply base

end CommandLine

end TestEngine
