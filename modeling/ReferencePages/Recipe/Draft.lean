import ReferencePages.Config
import ReferencePages.Page
import ReferencePages.Prompt
import ReferencePages.Sources
/-!
The kinds of pages, and what it takes to make one: a recipe says what a page needs of the source tree
and how the page is composed of it. A draft is a page that is composed but not written.
-/

namespace ReferencePages

/-- The kinds of pages. -/
inductive PageKind
  | schema | stateMachines | crates | errors | configuration | decisions
  deriving DecidableEq, Repr

namespace PageKind

/-- The name under which a page is asked for. -/
def name : PageKind → Text
  | schema => "db-schema"
  | stateMachines => "state-machines"
  | crates => "crate-deps"
  | errors => "error-guide"
  | configuration => "config-guide"
  | decisions => "adr-summary"

/-- The file that holds the page. -/
def fileName : PageKind → Text
  | schema => "database-schema.md"
  | stateMachines => "state-machine-diagrams.md"
  | crates => "crate-dependency-graph.md"
  | errors => "error-troubleshooting-guide.md"
  | configuration => "config-operational-guide.md"
  | decisions => "adr-summary.md"

/-- The title of the page. -/
def title : PageKind → Text
  | schema => "Database Schema"
  | stateMachines => "State Machine Diagrams"
  | crates => "Crate Dependency Graph"
  | errors => "Error Troubleshooting Guide"
  | configuration => "Configuration Operational Guide"
  | decisions => "Architectural Decision Records"

/-- What the page says that it is generated from. -/
def origin : PageKind → Text
  | schema => "SQL migration analysis"
  | stateMachines => "Rust source analysis"
  | crates => "`Cargo.toml` workspace analysis"
  | errors => "Rust error definitions"
  | configuration => "Rust configuration source"
  | decisions => "architectural decision records"

/-- How long the model may take for one summary of the page, unless the settings say otherwise. -/
def requestTimeout : PageKind → Binary64
  | errors | configuration => Binary64.ofInt 120
  | _ => Binary64.ofInt 60

/-- All kinds in the order in which they are listed. -/
def all : List PageKind := [schema, stateMachines, crates, errors, configuration, decisions]

/-- The kind with a given name. -/
def ofName? (name : Text) : Option PageKind := all.find? (·.name = name)

/-- The pages that are made where none is named. No model is asked for them. -/
def standard : List PageKind := [schema, stateMachines, crates]

/-- The part of the program that makes the page, as the log names it. -/
def logger (kind : PageKind) : Text := "generators." ++ kind.name

/-- A page of this kind. -/
def page (kind : PageKind) (description intro : Text) (blocks : List Text)
    (modeNote : Option Text) : Page :=
  { title := kind.title, generator := kind.name, origin := kind.origin
    sourceDescription := description, intro, blocks, modeNote }

end PageKind

/-- What the pages of a run are made with: the settings, a runner that is used in place of one made from
the settings, and a maker of prompts in place of the usual one. -/
structure Workshop where
  config : Config
  runner : Option Runner := none
  prompts : Option Prompt.Builder := none
  deriving DecidableEq, Repr

instance : Coe Config Workshop := ⟨fun config => { config }⟩

/-- A page with the number of things that it covers and the summarizer as it was left. -/
structure Draft where
  page : Page
  count : Nat
  summarizer : Summarizer
  deriving DecidableEq, Repr

/-- What a page needs of the source tree, by the names under which it asks for it, and how the page is
composed of what is found. -/
structure Recipe where
  files : Dictionary Text
  directories : Dictionary Text
  compose : Sources → Program Draft

namespace Recipe

/-- A draft of a page for which no summarizer is needed. -/
def plain (page : Page) (count : Nat) : Draft :=
  { page, count, summarizer := Summarizer.deterministic }

/-- The name of the source tree in pages. -/
def sourceLabel (config : Config) : Text :=
  match config.sourceDirectory.name with
  | [] => "source"
  | name => name

/-- A path as seen from the source tree, or the path itself where it lies elsewhere. -/
def relativeSource (config : Config) (p : Path) : Text :=
  ((config.sourceDirectory.below? p).getD p).toText

/-- The maker of prompts. -/
def prompts (w : Workshop) : Prompt.Builder :=
  w.prompts.getD { directory := none, projectName := w.config.projectName }

/-- The summarizer of one page. Its exchanges are recorded. -/
def startSummarizer (w : Workshop) (kind : PageKind) : Program Summarizer :=
  Summarizer.build w.config.endpoint
    { timeout := kind.requestTimeout, label := kind.name, transcribes := true, runner := w.runner }

/-- The notice that goes with a page: one for summaries of a model, another for prepared texts. -/
def noteFor (s : Summarizer) (ofModel : Text → Text) (prepared : Text) : Text :=
  match s.modelName? with
  | some model => ofModel model
  | none => prepared

/-- Says in the log that one of several summaries is under way, if a model makes them. -/
def logProgress (s : Summarizer) (kind : PageKind) (index total : Nat) (message : Text) :
    Program Unit :=
  if s.mode = .ai then
    Program.log .info kind.logger
      ("[" ++ Text.ofNat index ++ "/" ++ Text.ofNat total ++ "] " ++ message)
  else return

/-- How things of one sort are summarized: what the log says of a thing, the prompt and the request for
it, and what the page says of it with the text of its summary. -/
structure Round (ι β : Type) where
  message : ι → Text
  prompt : ι → Program Text
  request : ι → Text → SummaryRequest
  result : ι → Text → β

/-- Summarizes things one after the other, where `index` is the number of the first one. -/
def summarizeEach {ι β : Type} (kind : PageKind) (total : Nat) (r : Round ι β) :
    List ι → (index : Nat) → Summarizer → Program (List β × Summarizer)
  | [], _, s => return ([], s)
  | x :: xs, index, s => do
    logProgress s kind index total (r.message x)
    let prompt ← r.prompt x
    let (summary, s) ← s.summarize (r.request x prompt)
    let (results, s) ← summarizeEach kind total r xs (index + 1) s
    return (r.result x summary.text :: results, s)

end Recipe
end ReferencePages
