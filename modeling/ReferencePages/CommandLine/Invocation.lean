import ReferencePages.CommandLine.Argument
/-!
Reading a command line as a whole: switches before the command, the command, and switches after it. What
is asked for counts in the order of the arguments, so help wins over a fault that comes later.
-/

namespace ReferencePages.CommandLine

/-- What the switches say, and the arguments that nothing accepts. -/
structure Settings where
  verbose : Bool
  root : Text
  logFile : Option Text
  extras : List Text
  deriving DecidableEq, Repr

/-- The settings without any switch. -/
def Settings.standard : Settings := { verbose := false, root := ".", logFile := none, extras := [] }

/-- Why reading ends early: help is asked for, or a fault. -/
inductive Stop
  | help
  | fault (f : UsageFault)
  deriving DecidableEq, Repr

/-- A switch with its value. A switch that takes a value and has none waits for the next argument. -/
structure Use where
  switch : Switch
  value : Option Text
  deriving DecidableEq, Repr

/-- Whether the value is still to come. -/
def Use.isOpen (u : Use) : Bool := u.switch.takesValue && u.value.isNone

/-- The switches that an argument uses, and what is left of it that nothing accepts. -/
structure Uses where
  switches : List Use
  extra : Option Text
  deriving DecidableEq, Repr

/-- A switch in front of others. -/
def Uses.add (s : Switch) (us : Uses) : Uses :=
  { us with switches := { switch := s, value := none } :: us.switches }

/-- The switches that share one hyphen: the first one, and those of the characters after it up to one
that is no switch. None of them takes a value, so neither a hyphen nor an equals sign may follow. -/
def cluster (scope : Scope) (s : Switch) : Text → Except UsageFault Uses
  | [] => .ok { switches := [{ switch := s, value := none }], extra := none }
  | c :: rest =>
    if c = '-' then .error (.valueRefused s (c :: rest))
    else
      match scope.find? ['-', c], rest with
      | none, _ => .ok { switches := [{ switch := s, value := none }], extra := some ('-' :: c :: rest) }
      | some next, '=' :: value => .error (.valueRefused next value)
      | some next, _ => (cluster scope next rest).map (Uses.add s)

/-- The switches of one argument. -/
def uses (scope : Scope) (s : Switch) : Option Attached → Except UsageFault Uses
  | none => .ok { switches := [{ switch := s, value := none }], extra := none }
  | some (.equals value) =>
    if s.takesValue then .ok { switches := [{ switch := s, value := some value }], extra := none }
    else .error (.valueRefused s value)
  | some (.joined rest) =>
    if s.takesValue then .ok { switches := [{ switch := s, value := some rest }], extra := none }
    else cluster scope s rest

namespace Settings

/-- The settings after one switch. -/
def apply (settings : Settings) (u : Use) : Except Stop Settings :=
  match u.switch.choice with
  | .help => .error .help
  | .verbose => .ok { settings with verbose := true }
  | .root => .ok { settings with root := u.value.getD [] }
  | .logFile => .ok { settings with logFile := u.value }

/-- The settings after several switches. -/
def applyAll : List Use → Settings → Except Stop Settings
  | [], settings => .ok settings
  | u :: us, settings =>
    match settings.apply u with
    | .error stop => .error stop
    | .ok settings => applyAll us settings

/-- The settings with one more argument that nothing accepts. -/
def addExtra (settings : Settings) (argument : Text) : Settings :=
  { settings with extras := settings.extras ++ [argument] }

end Settings

/-- The uses with the value that the last one waits for. -/
def closeLast (value : Text) (us : List Use) : List Use :=
  us.map fun u => if u.isOpen then { u with value := some value } else u

/-- Reads the arguments of a scope. Before the command, the first plain argument names it, and what
follows is returned unread; after the command, nothing accepts plain arguments. -/
def readScope (scope : Scope) : List (Text × Reading) → Settings →
    Except Stop (Settings × Option (Text × List Text))
  | [], settings => .ok (settings, none)
  | (argument, .plain) :: rest, settings =>
    if scope = .program then .ok (settings, some (argument, rest.map (·.1)))
    else readScope scope rest (settings.addExtra argument)
  | (argument, .separator) :: rest, settings =>
    if scope = .program && !rest.isEmpty then .ok (settings, some (argument, rest.map (·.1)))
    else readScope scope rest (settings.addExtra argument)
  | (argument, .unknownSwitch) :: rest, settings =>
    readScope scope rest (settings.addExtra argument)
  | (_, .switch s attached) :: rest, settings =>
    match uses scope s attached with
    | .error fault => .error (.fault fault)
    | .ok us =>
      let settings := us.extra.elim settings settings.addExtra
      match us.switches.find? Use.isOpen with
      | none =>
        match settings.applyAll us.switches with
        | .error stop => .error stop
        | .ok settings => readScope scope rest settings
      | some u =>
        match rest with
        | (value, .plain) :: rest =>
          match settings.applyAll (closeLast value us.switches) with
          | .error stop => .error stop
          | .ok settings => readScope scope rest settings
        | _ => .error (.fault (.valueMissing u.switch))

/-- A command with its settings. -/
structure Invocation where
  command : Command
  verbose : Bool
  root : Text
  logFile : Option Text
  deriving DecidableEq, Repr

/-- What a command line asks for. -/
inductive Request
  | run (i : Invocation)
  | help (scope : Scope)
  | refuse (scope : Scope) (fault : UsageFault)
  deriving DecidableEq, Repr

namespace Request

/-- The request of a scope that reading ended in. -/
def ofStop (scope : Scope) : Stop → Request
  | .help => help scope
  | .fault f => refuse scope f

/-- The request of settings that are complete. -/
def ofSettings (command : Command) (settings : Settings) : Request :=
  if settings.extras.isEmpty then
    run { command, verbose := settings.verbose, root := settings.root, logFile := settings.logFile }
  else refuse .program (.unrecognized settings.extras)

/-- The request of the arguments after a command. -/
def ofCommand (command : Command) (arguments : List Text) (settings : Settings) : Request :=
  match Reading.ofArguments (.command command) arguments with
  | .error fault => refuse (.command command) fault
  | .ok readings =>
    match readScope (.command command) readings settings with
    | .error stop => ofStop (.command command) stop
    | .ok (settings, _) => ofSettings command settings

/-- The request of a command line. -/
def ofArguments (arguments : List Text) : Request :=
  match Reading.ofArguments .program arguments with
  | .error fault => refuse .program fault
  | .ok readings =>
    match readScope .program readings .standard with
    | .error stop => ofStop .program stop
    | .ok (_, none) => refuse .program .commandMissing
    | .ok (settings, some (name, arguments)) =>
      match Command.ofName? name with
      | none => refuse .program (.commandUnknown name)
      | some command => ofCommand command arguments settings

end Request
end ReferencePages.CommandLine
