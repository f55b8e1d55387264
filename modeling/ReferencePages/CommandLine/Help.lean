import ReferencePages.CommandLine.Argument
/-!
The texts that explain the command line: how it is called, and what its switches and commands do.
-/

namespace ReferencePages.CommandLine

/-- The commands as the call shows them. -/
def commandChoice : Text :=
  "\x7b" ++ Text.joinWith "," (Command.every.map Command.name) ++ "\x7d"

/-- How a scope is called. -/
def usage : Scope → Text
  | .program =>
    "usage: refgen [-h] [-v] [--root ROOT] [--log-file LOG_FILE]\n              " ++
      commandChoice ++ "\n              ...\n"
  | .command c => "usage: " ++ (Scope.command c).callName ++ " [-h] [-v]\n"

/-- What a command does, in the lines in which help shows it. -/
def Command.description : Command → List Text
  | page .schema => ["Generate the database ER diagram and table reference."]
  | page .stateMachines => ["Generate task and step state machine diagrams."]
  | page .crates => ["Generate the workspace crate dependency graph."]
  | page .errors => ["Generate the error troubleshooting guide (AI-assisted", "when available)."]
  | page .configuration =>
    ["Generate the configuration operational guide (AI-", "assisted when available)."]
  | page .decisions =>
    ["Generate the decision record summary table (AI-", "assisted when available)."]
  | all => ["Run the default pipeline (db-schema, state-machines,", "crate-deps)."]

/-- A switch with its value, as help shows it. -/
def Switch.shown (s : Switch) : Text :=
  Text.joinWith ", " (s.spellings.map fun spelling =>
    match s.choice with
    | .root => spelling ++ (" ROOT" : Text)
    | .logFile => spelling ++ (" LOG_FILE" : Text)
    | _ => spelling)

/-- What a switch does, in the lines in which help shows it. -/
def Switch.description (s : Switch) : List Text :=
  match s.choice with
  | .help => ["show this help message and exit"]
  | .verbose => ["Increase log verbosity for troubleshooting."]
  | .root => ["Docs repository root holding .env and .refgen.yml", "(defaults to current directory)."]
  | .logFile => ["Also write logs to this file."]

/-- An entry of help: a term, and its description in a column of its own. -/
def entry (column indentation : Nat) (term : Text) (description : List Text) : Text :=
  let start := List.replicate indentation ' ' ++ term
  let padding := List.replicate (column - start.length) ' '
  start ++ padding ++
    Text.joinWith ('\n' :: List.replicate column ' ') description ++ "\n"

/-- The entries of the switches of a scope. -/
def switchEntries (column : Nat) (scope : Scope) : Text :=
  "options:\n" ++ (scope.switches.flatMap fun s => entry column 2 s.shown s.description)

/-- The help for a scope. -/
def help (scope : Scope) : Text :=
  match scope with
  | .program =>
    usage scope ++ "\nGenerate reference documentation from a source checkout.\n\n" ++
      "positional arguments:\n  " ++ commandChoice ++ "\n" ++
      (Command.every.flatMap fun c => entry 24 4 c.name c.description) ++ "\n" ++
      switchEntries 24 scope
  | .command _ => usage scope ++ "\n" ++ switchEntries 17 scope

end ReferencePages.CommandLine
