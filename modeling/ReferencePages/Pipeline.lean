import ReferencePages.Recipe.Schema
import ReferencePages.Recipe.StateMachines
import ReferencePages.Recipe.Crates
import ReferencePages.Recipe.Errors
import ReferencePages.Recipe.Configuration
import ReferencePages.Recipe.Decisions
import ReferencePages.Config.Loader
import ReferencePages.Output
/-!
Making pages: what a page needs is checked, the page is composed, and only then is it written. Several
pages are made one after the other up to the first that fails; pages made before it stay.
-/

namespace ReferencePages

/-- What became of a page. -/
structure PageResult where
  kind : PageKind
  path : Path
  count : Nat
  mode : SummarySource
  fallbacks : Nat
  deriving DecidableEq, Repr

namespace Pipeline

/-- The recipe of a kind of page. -/
def recipe (w : Workshop) : PageKind → Recipe
  | .schema => Recipe.schema w.config
  | .stateMachines => Recipe.stateMachines w.config
  | .crates => Recipe.crates w.config
  | .errors => Recipe.errors w
  | .configuration => Recipe.configuration w
  | .decisions => Recipe.decisions w

/-- Where summaries come from, in words. -/
def modeLabel (mode : SummarySource) (fallbacks : Int) : Text :=
  match mode with
  | .deterministic => "deterministic mode"
  | .ai =>
    if fallbacks = 0 then "AI-assisted mode"
    else
      let noun : Text := if fallbacks = 1 then "fallback" else "fallbacks"
      "AI-assisted mode, " ++ Text.ofInt fallbacks ++ " deterministic " ++ noun

/-- The page of a draft, which says at its end where its summaries come from. -/
def finish (draft : Draft) : Page :=
  let label := modeLabel draft.summarizer.mode draft.summarizer.fallbacks
  { draft.page with
    sourceDescription := draft.page.sourceDescription ++ " (" ++ label ++ ")" }

/-- Says in the log where a page is read from. -/
def logSources (kind : PageKind) (paths : List Path) : Program Unit :=
  paths.forM fun p => Program.log .info kind.logger ("  Source: " ++ p.toText)

/-- The source tree of the settings. -/
def sourceTree (config : Config) : SourceTree :=
  { root := config.sourceDirectory, variableName := Config.sourceVariable }

/-- The draft of a page. -/
def draft (w : Workshop) (kind : PageKind) : Program Draft := do
  Program.log .info kind.logger ("Generating " ++ Text.lowerCase kind.title ++ "...")
  let r := recipe w kind
  let sources ← (sourceTree w.config).resolve r.files r.directories
  logSources kind (sources.files.map (·.2) ++ sources.directories.map (·.2))
  r.compose sources

/-- Makes one page. -/
def make (w : Workshop) (kind : PageKind) : Program PageResult := do
  Program.log .debug "orchestrator" ("Running generator " ++ kind.name)
  let draft ← draft w kind
  let path ← OutputWriter.write { directory := w.config.outputDirectory } kind.fileName (finish draft)
  Program.log .info kind.logger
    (kind.title ++ " generated (" ++ Text.ofNat draft.count ++ " entities).")
  return { kind, path, count := draft.count, mode := draft.summarizer.mode
           fallbacks := draft.summarizer.fallbacks }

/-- The kind of page with a name, or a failure for a name that no page has. -/
def kindOf (name : Text) : Except Failure PageKind :=
  match PageKind.ofName? name with
  | some kind => .ok kind
  | none => .error (.unknownGenerator name)

/-- Makes the page with a name. -/
def run (w : Workshop) (name : Text) : Program PageResult := do
  make w (← Program.ofExcept id (kindOf name))

/-- Makes the pages with the names, in order, up to the first that fails. -/
def runAll (w : Workshop) : List Text → Program (List PageResult)
  | [] => return []
  | name :: names => do
    let result ← run w name
    return result :: (← runAll w names)

/-- The settings for a root. Without an environment of its own, the run takes that of the process and
adds the variables of the root's environment file to it. -/
def configure (root : Path) (environment : Option (Dictionary Text)) : Program Config := do
  let root ← Program.resolve root
  match environment with
  | some environment => Config.load root environment
  | none =>
    let _ ← Config.loadEnvironment root
    Config.load root (← get).environment

end Pipeline
end ReferencePages
