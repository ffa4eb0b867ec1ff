/-
TestEngine/Engine/Dispatch.lean

What happens to a diagnostic.

The hooks that are in the chain when a dispatch begins are asked, newest first,
until one answers anything but `proceed`; if none does, the default hook answers,
and then the last answer is carried out.  Hooks made of rules run scripts, so
dispatching takes the interpreter of scripts as an argument.

Logged events become diagnostics once the chain has been made the receiver of
events (`intercept`).
-/
import TestEngine.Engine.Chain
import TestEngine.Engine.Context

namespace TestEngine

namespace Engine

/-! ### The end of the process -/

/-- Does a bail-out at this level kill the process instead of ending it? -/
def isTrap (debug : DebugFlags) : Option Level → Bool
  | some .warning => debug.fatalWarnings
  | some .critical => debug.fatalCriticals
  | _ => false

/-- Print a bail-out line and end the process. -/
def bailOut {α : Type} (level : Option Level) (message : String) : Act α := do
  print (Tap.bailOut (some message))
  if isTrap (← get).debug level then throw .killed else throw (.exited 99)

/-! ### Hooks -/

/-- Is a diagnostic of this level printed? -/
def isPrinted (verbosity : Verbosity) : Level → Bool
  | .error => true
  | .critical => true
  | .warning => true
  | .message => verbosity != .quiet
  | .info => verbosity == .verbose
  | .debug => verbosity == .verbose

/-- The default hook: a fatal diagnostic aborts the running test, or bails out if
there is none; any other is printed if the verbosity allows. -/
def defaultAnswer (d : Diagnostic) : Act Answer := do
  let e ← get
  if d.fatal then
    pure (if e.isActive then .abort d.plain else .bailOut)
  else
    if isPrinted e.console.verbosity d.level then
      printDiagnostic (d.format e.console.colours)
    pure .ignore

/-- The answer of a fail-if-logged hook: warnings, criticals and what a policy names
abort the test; fatal diagnostics are left to the hooks below. -/
def policyAnswer (policies : List Policy) (d : Diagnostic) : Answer :=
  if d.fatal then .proceed
  else if policies.any (·.isMatch d) || d.level == .critical || d.level == .warning then
    .abort ("Unexpected message: " ++ d.plain)
  else .proceed

/-- Trace what a hook is asked about, if it has a label. -/
def announce (label : Option String) (d : Diagnostic) : Act Unit :=
  match label with
  | none => pure ()
  | some label => trace ("hook " ++ label ++ ": " ++ d.plain)

/-- Ask one hook. -/
def askHook (perform : Script → Act Unit) (d : Diagnostic) : Hook → Act Answer
  | .failIfLogged policies => pure (policyAnswer policies d)
  | .expecting expectations =>
    match expectations.find? (·.isMatch d) with
    | none => pure .proceed
    | some expectation => do
      credit expectation.counter
      pure .suppress
  | .rules hook => do
    announce hook.label d
    match hook.rules.find? (·.isMatch d) with
    | none => pure .proceed
    | some rule => do
      perform rule.run
      pure rule.answer

/-- Ask the hooks in order up to the first that decides. -/
def askAll (perform : Script → Act Unit) (d : Diagnostic) : List Installed → Act Answer
  | [] => pure .proceed
  | i :: is => do
    note (.asked i.id d)
    match ← askHook perform d i.hook with
    | .proceed => askAll perform d is
    | answer => pure answer

/-! ### Dispatching -/

/-- Tell, if the console is verbose, that a diagnostic has been suppressed. -/
def noteSuppressed (d : Diagnostic) : Act Unit := do
  let console := (← get).console
  if console.verbosity == .verbose then
    let text := "Suppressed message: " ++ d.format console.colours
    printDiagnostic ((Diagnostic.new engineDomain .info text).format console.colours)

/-- Carry out an answer. -/
def carryOut (d : Diagnostic) : Answer → Act Unit
  | .proceed => pure ()
  | .ignore => pure ()
  | .suppress => noteSuppressed d
  | .abort message => do
    if !(← request (.fail message)) then bailOut (some d.level) d.plain
  | .bailOut => bailOut (some d.level) d.plain

/-- Dispatch a diagnostic. -/
def dispatch (perform : Script → Act Unit) (d : Diagnostic) : Act Unit := do
  let e ← get
  -- hooks that push or pop others change nothing for this diagnostic
  let answer ← match ← askAll perform d e.chain with
    | .proceed => defaultAnswer d
    | answer => pure answer
  note (.decided d answer)
  carryOut d answer

/-! ### Events -/

/-- Make the chain of hooks the receiver of logged events. -/
def intercept : Act Unit := do
  let e ← get
  match e.subscriber with
  | .none => set { e with subscriber := .chain }
  | .chain => pure ()
  | .foreign => violate .foreignSubscriber

/-- Log an event. -/
def log (perform : Script → Act Unit) (event : LogEvent) : Act Unit := do
  if (← get).subscriber == .chain then dispatch perform event.diagnostic

end Engine

end TestEngine
