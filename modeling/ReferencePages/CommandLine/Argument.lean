import ReferencePages.Recipe.Draft
import ReferencePages.Text.Lines
import ReferencePages.Text.Digit
import ReferencePages.Text.Quoted
/-!
Single arguments of a command line. An argument is a switch, a plain word, or the separator after which
every argument is plain. A long switch may be cut short as long as no other begins the same, and short
switches may share one hyphen.
-/

namespace ReferencePages.CommandLine

/-- What a switch asks for. -/
inductive Choice
  | help | verbose | root | logFile
  deriving DecidableEq, Repr

/-- A switch with its spellings. -/
structure Switch where
  choice : Choice
  spellings : List Text
  takesValue : Bool
  deriving DecidableEq, Repr

/-- The name of a switch in messages. -/
def Switch.name (s : Switch) : Text := Text.joinWith "/" s.spellings

/-- What is run: one kind of page, or all that are made where none is named. -/
inductive Command
  | page (kind : PageKind)
  | all
  deriving DecidableEq, Repr

namespace Command

/-- The word for a command. -/
def name : Command → Text
  | page kind => kind.name
  | all => "all"

/-- The commands in the order in which they are listed. -/
def every : List Command := PageKind.all.map page ++ [all]

/-- The command with a given name. -/
def ofName? (name : Text) : Option Command := every.find? (·.name = name)

/-- The kinds of pages that a command makes. -/
def kinds : Command → List PageKind
  | page kind => [kind]
  | all => PageKind.standard

end Command

/-- Where an argument stands: before the command or after it. -/
inductive Scope
  | program
  | command (c : Command)
  deriving DecidableEq, Repr

namespace Scope

/-- The words by which a scope calls itself. -/
def callName : Scope → Text
  | program => Page.command
  | command c => Page.command ++ " " ++ c.name

/-- The switch that asks for help. -/
def helpSwitch : Switch := { choice := .help, spellings := ["-h", "--help"], takesValue := false }

/-- The switch that shows more of the log. -/
def verboseSwitch : Switch :=
  { choice := .verbose, spellings := ["-v", "--verbose"], takesValue := false }

/-- The switch that names the root. -/
def rootSwitch : Switch := { choice := .root, spellings := ["--root"], takesValue := true }

/-- The switch that names the log file. -/
def logFileSwitch : Switch := { choice := .logFile, spellings := ["--log-file"], takesValue := true }

/-- The switches of a scope. -/
def switches : Scope → List Switch
  | program => [helpSwitch, verboseSwitch, rootSwitch, logFileSwitch]
  | command _ => [helpSwitch, verboseSwitch]

/-- Each spelling with its switch. -/
def spellings (scope : Scope) : List (Text × Switch) :=
  scope.switches.flatMap fun s => s.spellings.map (·, s)

/-- The switch with a given spelling. -/
def find? (scope : Scope) (spelling : Text) : Option Switch := Dictionary.get? spelling scope.spellings

end Scope

/-- Why a command line is refused. -/
inductive UsageFault
  | ambiguous (argument : Text) (candidates : List Text)
  | valueMissing (switch : Switch)
  | valueRefused (switch : Switch) (value : Text)
  | commandMissing
  | commandUnknown (name : Text)
  | unrecognized (arguments : List Text)
  deriving DecidableEq, Repr

/-- The fault in words. -/
def UsageFault.message : UsageFault → Text
  | ambiguous argument candidates =>
    "ambiguous option: " ++ argument ++ " could match " ++ Text.joinWith ", " candidates
  | valueMissing s => "argument " ++ s.name ++ ": expected one argument"
  | valueRefused s value =>
    "argument " ++ s.name ++ ": ignored explicit argument " ++ Text.quoted value
  | commandMissing => "the following arguments are required: command"
  | commandUnknown name =>
    "argument command: invalid choice: " ++ Text.quoted name ++ " (choose from " ++
      Text.joinWith ", " (Command.every.map fun c => Text.quoted c.name) ++ ")"
  | unrecognized arguments => "unrecognized arguments: " ++ Text.joinWith " " arguments

/-- What stands behind a switch in the same argument: a value behind an equals sign, or characters that
follow a short switch directly. -/
inductive Attached
  | equals (value : Text)
  | joined (rest : Text)
  deriving DecidableEq, Repr

/-- What an argument reads as. A switch comes with what is attached to it. -/
inductive Reading
  | plain
  | separator
  | switch (s : Switch) (attached : Option Attached)
  | unknownSwitch
  deriving DecidableEq, Repr

namespace Reading

/-- The switches that a long argument may be short for, its value after an equals sign. -/
def longCandidates (scope : Scope) (argument : Text) : List (Text × Reading) :=
  let (start, value) := Text.cutAt '=' argument
  (scope.spellings.filter fun (spelling, _) => Text.startsWith start spelling).map
    fun (spelling, s) => (spelling, switch s (value.map .equals))

/-- The switches that begin an argument with one hyphen, what follows being attached. -/
def shortCandidates (scope : Scope) (argument : Text) : List (Text × Reading) :=
  (scope.spellings.filter fun (spelling, _) => spelling = argument.take 2).map
    fun (spelling, s) => (spelling, switch s (some (.joined (argument.drop 2))))

/-- The switches that an argument may mean when it is no spelling itself. -/
def candidates (scope : Scope) (argument : Text) : List (Text × Reading) :=
  if Text.startsWith "--" argument then longCandidates scope argument
  else shortCandidates scope argument

/-- Whether an argument is a negative number, with or without a point. -/
def isNegativeNumber (argument : Text) : Bool :=
  match Text.wholeLine? argument with
  | some ('-' :: number) =>
    match Text.cutAt '.' number with
    | (whole, none) => !whole.isEmpty && whole.all Text.isDecimalDigit
    | (whole, some fraction) =>
      whole.all Text.isDecimalDigit && !fraction.isEmpty && fraction.all Text.isDecimalDigit
  | _ => false

/-- What an argument means whose candidates are known. Without a candidate, a number and an argument
with a space in it are plain. -/
def choose (argument : Text) : List (Text × Reading) → Except UsageFault Reading
  | [(_, reading)] => .ok reading
  | [] =>
    if isNegativeNumber argument || argument.elem ' ' then .ok plain else .ok unknownSwitch
  | found => .error (.ambiguous argument (found.map (·.1)))

/-- The switch whose spelling stands before an equals sign. -/
def exactWithValue? (scope : Scope) (argument : Text) : Option Reading :=
  match Text.cutAt '=' argument with
  | (spelling, some value) => (scope.find? spelling).map fun s => switch s (some (.equals value))
  | _ => none

/-- What one argument reads as before the separator. -/
def ofArgument (scope : Scope) (argument : Text) : Except UsageFault Reading :=
  match argument with
  | '-' :: rest =>
    match scope.find? argument with
    | some s => .ok (switch s none)
    | none =>
      if rest.isEmpty then .ok plain
      else
        match exactWithValue? scope argument with
        | some reading => .ok reading
        | none => choose argument (candidates scope argument)
  | _ => .ok plain

/-- Each argument with what it reads as. -/
def ofArguments (scope : Scope) : List Text → Except UsageFault (List (Text × Reading))
  | [] => .ok []
  | argument :: arguments =>
    if argument = "--" then .ok ((argument, separator) :: arguments.map (·, plain))
    else
      match ofArgument scope argument with
      | .error fault => .error fault
      | .ok reading => (ofArguments scope arguments).map ((argument, reading) :: ·)

end Reading
end ReferencePages.CommandLine
