import ReferencePages.CommandLine.Invocation
import ReferencePages.CommandLine.Help
import ReferencePages.Pipeline
/-!
One run of the command line: what it prints, where it logs, and with which status it ends.
-/

namespace ReferencePages.CommandLine

/-- The status of a run and what it prints. -/
structure Outcome where
  status : Nat
  output : Text
  errors : Text
  deriving DecidableEq, Repr

/-- An entry of the log as it is printed. -/
def consoleLine (e : LogEntry) : Text :=
  "[" ++ Page.command ++ "] " ++ e.level.name ++ " " ++ e.text ++ "\n"

/-- The entries of the log from a number on that reach a level, as they are printed. -/
def consoleLines (threshold : LogLevel) (start : Nat) (log : List LogEntry) : Text :=
  ((log.drop start).filter fun e => e.level.reaches threshold).flatMap consoleLine

/-- Starts the log file, which keeps what it holds already. -/
def startLogFile (p : Path) : Program Unit := do
  Program.makeDirectories p.parent
  let target := Path.resolve (← get).directory p
  Program.changeFiles fun s => s.tree.touch s.mask s.directory target
  modify fun s => { s with logFile := some target.parts }

/-- Sets the level of the log, and its file if there is one. -/
def startLog (i : Invocation) : Program LogLevel := do
  let threshold : LogLevel := if i.verbose then .debug else .info
  modify fun s => { s with threshold, logFile := none, scratch := Scratch.new }
  match i.logFile with
  | some file => startLogFile (Path.ofText file)
  | none => pure ()
  return threshold

/-- What a failed run prints after its log. -/
def failureText (command : Command) : Failure → Text
  | .configuration fault => "ERROR: " ++ fault.remediation ++ "\n"
  | failure =>
    (Scope.command command).callName ++ " failed: " ++ failure.message ++
      "\nRun with --verbose for more details.\n"

/-- The path as seen from a directory, if it lies below it. -/
def relativeTo (directory : Place) (p : Path) : Text :=
  ((Path.below? { anchor := .root, parts := directory } p).getD p).toText

/-- The line that reports a page. -/
def resultLine (directory : Place) (r : PageResult) : Text :=
  r.kind.name ++ ": wrote " ++ relativeTo directory r.path ++ " (" ++ Text.ofNat r.count ++
    " entities)\n"

/-- Makes the pages of a command and removes the scratch directory, whether they could be made or
not. -/
def makePages (i : Invocation) (threshold : LogLevel) (start : Nat) (config : Config) :
    Program Outcome := do
  let result ← Program.attempt (Pipeline.runAll config (i.command.kinds.map PageKind.name))
  let s ← get
  Scratch.cleanup
  let cleaned := consoleLines threshold s.log.length (← get).log
  let shown := consoleLines threshold start s.log
  match result with
  | .ok results =>
    return { status := 0, output := results.flatMap (resultLine s.directory)
             errors := shown ++ cleaned }
  | .error failure =>
    return { status := 1, output := [], errors := shown ++ failureText i.command failure ++ cleaned }

/-- Runs a command. Only a log file that cannot be started makes it fail. -/
def runCommand (i : Invocation) : Program Outcome := do
  let threshold ← startLog i
  let start := (← get).log.length
  match ← Program.attempt (Pipeline.configure (Path.ofText i.root) none) with
  | .error failure =>
    let shown := consoleLines threshold start (← get).log
    return { status := 1, output := [], errors := shown ++ failureText i.command failure }
  | .ok config => makePages i threshold start config

/-- Runs a command line. -/
def run (arguments : List Text) : Program Outcome :=
  match Request.ofArguments arguments with
  | .run i => runCommand i
  | .help scope => return { status := 0, output := help scope, errors := [] }
  | .refuse scope fault =>
    return { status := 2, output := []
             errors := usage scope ++ scope.callName ++ ": error: " ++ fault.message ++ "\n" }

end ReferencePages.CommandLine
