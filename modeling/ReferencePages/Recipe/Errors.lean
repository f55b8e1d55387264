import ReferencePages.Recipe.Draft
import ReferencePages.MarkdownTable
/-!
The troubleshooting guide: a section for each enumeration of errors.
-/

namespace ReferencePages.Recipe

/-- The text of an enumeration as the model sees it, its documentation in front. -/
def enumDefinition (e : ErrorEnum) : Text :=
  if e.docSummary.isEmpty then e.body else "/// " ++ e.docSummary ++ "\n" ++ e.body

/-- The text that stands for an enumeration without a model. -/
def enumTable (e : ErrorEnum) : Text :=
  if e.variants.isEmpty then "No annotated variants found." else MarkdownTable.variants e.variants

/-- The blocks of one enumeration with the text about it. -/
def enumBlocks (e : ErrorEnum) (text : Text) : List Text :=
  let heading : Text := "### " ++ e.name
  let summary := if e.docSummary.isEmpty then [] else [e.docSummary]
  heading :: summary ++ [text, "---"]

/-- What is asked about an enumeration. -/
def enumRequest (e : ErrorEnum) (prompt : Text) : SummaryRequest :=
  { subject := e.name, prompt, fallback := enumTable e, deterministicLimit := none, aiLimit := none,
    flatten := false, collapse := true }

/-- How enumerations are summarized. -/
def enumRound (w : Workshop) : Round ErrorEnum (List Text) where
  message e :=
    "Generating guide for " ++ e.name ++ " (" ++ Text.ofNat e.variants.length ++ " variants)..."
  prompt e := Prompt.errorGuide (prompts w) e.name (enumDefinition e)
  request := enumRequest
  result := enumBlocks

/-- What the guide says about itself at its beginning. -/
def errorsIntro (config : Config) : Text :=
  "This guide lists the errors raised by the " ++ config.projectName ++
    " workflow orchestration system, grouped by the enum that declares them and ordered as they " ++
    "appear in the source. When troubleshooting, start with the most specific error type and work " ++
    "outward."

/-- The notice about summaries of a model. -/
def errorsModelNote (model : Text) : Text :=
  "> Troubleshooting guidance generated with Ollama (`" ++ model ++
    "`). Set `SKIP_LLM=true` for deterministic output."

/-- The notice about prepared texts. -/
def errorsPlainNote : Text :=
  "> Error messages extracted deterministically from `#[error(...)]` annotations."

/-- The page of a file with errors. -/
def errorsPage (config : Config) (blocks : List Text) (note : Option Text) : Page :=
  PageKind.errors.page (sourceLabel config ++ " error definitions") (errorsIntro config) blocks note

/-- The troubleshooting guide. -/
def errors (w : Workshop) : Recipe where
  files := [("errors", w.config.errors.file)]
  directories := []
  compose sources := do
    let config := w.config
    let file := sources.file "errors"
    let enums := ErrorEnum.extract config.errors.boundary (← Program.readSource file)
    Program.log .info PageKind.errors.logger
      ("  Found " ++ Text.ofNat enums.length ++ " error enums")
    if enums.isEmpty then
      let line : Text := "No error enums found in `" ++ relativeSource config file ++ "`."
      return plain (errorsPage config [line] none) 0
    else
      let s ← startSummarizer w .errors
      let (blocks, s) ← summarizeEach .errors enums.length (enumRound w) enums 1 s
      let note := noteFor s errorsModelNote errorsPlainNote
      return { page := errorsPage config blocks.flatten (some note), count := enums.length
               summarizer := s }

end ReferencePages.Recipe
