import ReferencePages.Recipe.Draft
import ReferencePages.DecisionRecord.Directory
import ReferencePages.MarkdownTable
/-!
The page of decision records: one row for each record of a directory.
-/

namespace ReferencePages.Recipe

/-- The length at which the sentence of a record is cut. -/
def sentenceLimit : Int := 120

/-- The length at which a summary of a record is cut. -/
def summaryLimit : Int := 200

/-- What is asked about a record. -/
def recordRequest (r : DecisionRecord) (prompt : Text) : SummaryRequest :=
  { subject := r.title, prompt, fallback := r.decisionLine, deterministicLimit := some sentenceLimit,
    aiLimit := some summaryLimit, flatten := true, collapse := false }

/-- How records are summarized. -/
def recordRound (w : Workshop) : Round DecisionRecord DecisionRecord where
  message r := "Summarizing: " ++ r.title ++ "..."
  prompt r := Prompt.decision (prompts w) r.title r.excerpt
  request := recordRequest
  result r text := { r with summary := text }

/-- What the page says about the records at its beginning. -/
def decisionsIntro (config : Config) : Text :=
  "This page summarizes the Architectural Decision Records (ADRs) from the " ++
    config.projectName ++ " project.\n" ++
    "Each ADR documents a significant design decision, its context, and consequences."

/-- The notice about summaries of a model. -/
def decisionsModelNote (model : Text) : Text :=
  "> Summaries generated with Ollama (`" ++ model ++
    "`). Set `SKIP_LLM=true` for deterministic summaries."

/-- The notice about prepared texts. -/
def decisionsPlainNote : Text := "> Summaries extracted deterministically from Decision sections."

/-- The page with given blocks. -/
def decisionsPage (config : Config) (blocks : List Text) (note : Option Text) : Page :=
  PageKind.decisions.page (sourceLabel config ++ " ADR files") (decisionsIntro config) blocks note

/-- The page of decision records. -/
def decisions (w : Workshop) : Recipe where
  files := []
  directories := [("decisions", w.config.decisions.directory)]
  compose sources := do
    let config := w.config
    let directory := sources.directory "decisions"
    let records ← DecisionRecord.readDirectory directory config.decisions.pattern
    Program.log .info PageKind.decisions.logger
      ("  Found " ++ Text.ofNat records.length ++ " decision records")
    if records.isEmpty then
      let line : Text := "No decision records found in `" ++ relativeSource config directory ++ "`."
      return plain (decisionsPage config [line] none) 0
    else
      let s ← startSummarizer w .decisions
      let (records, s) ← summarizeEach .decisions records.length (recordRound w) records 1 s
      let note := noteFor s decisionsModelNote decisionsPlainNote
      let table := MarkdownTable.decisionRecords records config.decisions.linkStart
      return { page := decisionsPage config [table] (some note), count := records.length
               summarizer := s }

end ReferencePages.Recipe
