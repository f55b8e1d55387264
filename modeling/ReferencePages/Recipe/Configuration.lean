import ReferencePages.Recipe.Draft
import ReferencePages.MarkdownTable
/-!
The operational guide: a section for each part of the configuration.
-/

namespace ReferencePages.Recipe

/-- The text that stands for a section without a model. -/
def structTable (structs : List ConfigStruct) : Text :=
  if structs.isEmpty then "No configuration structs found in this section."
  else MarkdownTable.structs structs

/-- What is asked about a section. -/
def sectionRequest (s : ConfigSection) (prompt : Text) : SummaryRequest :=
  { subject := s.title ++ " configuration", prompt, fallback := structTable s.structs,
    deterministicLimit := none, aiLimit := none, flatten := false, collapse := true }

/-- The blocks of one section with the text about it. -/
def sectionBlocks (part : ConfigSection) (text : Text) : List Text :=
  ["## " ++ part.title ++ " Configuration", text, "---"]

/-- How sections are summarized. -/
def sectionRound (w : Workshop) : Round ConfigSection (List Text) where
  message part := "Generating " ++ Text.lowerCase part.title ++ " config guide..."
  prompt part := Prompt.configGuide (prompts w) part.title part.source
  request := sectionRequest
  result := sectionBlocks

/-- The number of structures of each section. -/
def sectionCounts (parts : List ConfigSection) : Text :=
  Text.joinWith ", " (parts.map fun part =>
    Text.ofNat part.structs.length ++ " " ++ Text.lowerCase part.title)

/-- What the guide says about itself at its beginning. -/
def configurationIntro (config : Config) (parts : List ConfigSection) : Text :=
  "This guide provides operational tuning advice for the " ++ config.projectName ++
    " configuration. Settings are grouped by context: " ++
    Text.joinWith ", " (parts.map fun part => "**" ++ part.title ++ "**") ++ "."

/-- The notice about summaries of a model. -/
def configurationModelNote (model : Text) : Text :=
  "> Operational guidance generated with Ollama (`" ++ model ++
    "`). Set `SKIP_LLM=true` for deterministic output."

/-- The notice about prepared texts. -/
def configurationPlainNote : Text :=
  "> Struct summaries extracted deterministically from doc comments."

/-- The operational guide. -/
def configuration (w : Workshop) : Recipe where
  files := [("config", w.config.configGuide.file)]
  directories := []
  compose sources := do
    let config := w.config
    let file := sources.file "config"
    let parts ← Program.ofExcept
      (fun missing => Failure.configuration (.markerMissing missing.marker (some file)))
      (ConfigSection.extract (← Program.readSource file) config.configGuide.sections)
    Program.log .info PageKind.configuration.logger ("  Found structs: " ++ sectionCounts parts)
    let s ← startSummarizer w .configuration
    let (blocks, s) ← summarizeEach .configuration parts.length (sectionRound w) parts 1 s
    let note := noteFor s configurationModelNote configurationPlainNote
    let page := PageKind.configuration.page (sourceLabel config ++ " configuration source")
      (configurationIntro config parts) blocks.flatten (some note)
    return { page, count := (parts.flatMap (·.structs)).length, summarizer := s }

end ReferencePages.Recipe
