import ReferencePages.Endpoint.Runner
import ReferencePages.Scratch
import ReferencePages.Excerpt
/-!
Summaries of single entities. A summarizer asks the model where one is available and takes the text
that the caller has prepared otherwise; a failure for one entity concerns that entity alone.
-/

namespace ReferencePages

/-- Where a summary comes from. -/
inductive SummarySource
  | deterministic
  | ai
  deriving DecidableEq, Repr

/-- A summary and where it comes from. -/
structure Summary where
  text : Text
  source : SummarySource
  deriving DecidableEq, Repr

/-- What is to be summarized: the question to the model, the text that stands in for an answer, the
limits on both, and how an answer is folded. -/
structure SummaryRequest where
  subject : Text
  prompt : Text
  fallback : Text
  deterministicLimit : Option Int
  aiLimit : Option Int
  flatten : Bool
  collapse : Bool
  deriving DecidableEq, Repr

/-- Settings of the endpoint. -/
structure EndpointSettings where
  model : Text
  baseUrl : Text
  skip : Bool
  probeTimeout : Binary64
  requestTimeout : Option Binary64
  deriving DecidableEq, Repr

namespace SummaryRequest

/-- The prepared text, cut to its limit. -/
def deterministic (request : SummaryRequest) : Summary :=
  { text := Excerpt.truncate request.fallback request.deterministicLimit, source := .deterministic }

/-- An answer without blanks at its ends, folded as the request says. -/
def fold (request : SummaryRequest) (answer : Text) : Text :=
  let text := Text.trim answer
  if request.flatten then Excerpt.flattenLine text
  else if request.collapse then Excerpt.collapseSpaces text
  else text

/-- The summary that an answer gives; an answer that is empty when folded gives none. -/
def ofAnswer (request : SummaryRequest) (answer : Text) : Except ExchangeFault Summary :=
  match request.fold answer with
  | [] => .error (Runner.refusal ("Empty summary for " ++ request.subject))
  | text => .ok { text := Excerpt.truncate text request.aiLimit, source := .ai }

end SummaryRequest

/-- A model that summarizes: the runner, how long it may take, the label of its transcripts, and
whether transcripts are kept. -/
structure ModelSummarizer where
  runner : Runner
  timeout : Binary64
  label : Text
  transcribes : Bool
  deriving DecidableEq, Repr

namespace ModelSummarizer

/-- The file name of one side of an exchange. -/
def transcriptName (m : ModelSummarizer) (index : Nat) (side : Text) : Text :=
  m.label ++ "-" ++ Text.ofNat index ++ "-" ++ side ++ ".json"

/-- Writes the request to the scratch directory and returns its number, if transcripts are kept. -/
def recordRequest (m : ModelSummarizer) (request : SummaryRequest) : Program (Option Nat) := do
  if !m.transcribes then return none
  else
    let index ← Scratch.nextIndex m.label
    let _ ← Scratch.writeJson (m.transcriptName index "request")
      (.object [("model", .string m.runner.model), ("subject", .string request.subject),
        ("prompt", .string request.prompt)])
    return some index

/-- Writes what came of a request to the scratch directory, if transcripts are kept. -/
def recordResponse (m : ModelSummarizer) (index : Option Nat) (key value : Text) :
    Program Unit := do
  match index with
  | none => return
  | some i =>
    let _ ← Scratch.writeJson (m.transcriptName i "response") (.object [(key, .string value)])

/-- What the transcript says of a fault: a refusal in words, any other fault with its name. -/
def transcribed : ExchangeFault → Text
  | .unavailable values => (ExchangeFault.unavailable values).message
  | fault => fault.display

/-- The reason that a fault gives for falling back. -/
def reasonOf : ExchangeFault → Text
  | .unavailable values => (ExchangeFault.unavailable values).message
  | fault => fault.name ++ ": " ++ fault.message

/-- Writes what came of a request to the scratch directory: the answer, or what went wrong. -/
def recordReply (m : ModelSummarizer) (index : Option Nat) : Except ExchangeFault Text → Program Unit
  | .error fault => m.recordResponse index "error" (transcribed fault)
  | .ok answer => m.recordResponse index "response" answer

/-- Asks the model for a summary. Every fault of the answer is a reason to fall back. -/
def summarize (m : ModelSummarizer) (request : SummaryRequest) : Program (Except Text Summary) := do
  let index ← m.recordRequest request
  let reply ← m.runner.ask request.prompt (some m.timeout)
  m.recordReply index reply
  return (reply.bind request.ofAnswer).mapError reasonOf

end ModelSummarizer

/-- A summarizer with an optional model, and the number of times it has fallen back. -/
structure Summarizer where
  model? : Option ModelSummarizer
  fallbacks : Nat
  deriving DecidableEq, Repr

namespace Summarizer

/-- A summarizer without a model. -/
def deterministic : Summarizer := { model? := none, fallbacks := 0 }

/-- Where the summaries come from unless the model fails. -/
def mode (s : Summarizer) : SummarySource := if s.model?.isSome then .ai else .deterministic

/-- The name of the model, if there is one. -/
def modelName? (s : Summarizer) : Option Text := s.model?.map (·.runner.model)

/-- The summary of one entity, and the summarizer with its count. -/
def summarize (s : Summarizer) (request : SummaryRequest) : Program (Summary × Summarizer) := do
  match s.model? with
  | none => return (request.deterministic, s)
  | some m =>
    match ← m.summarize request with
    | .ok summary => return (summary, s)
    | .error reason =>
      Program.log .warning "summarizer"
        ("AI summary failed for " ++ request.subject ++ " (" ++ reason ++
          "); using deterministic text")
      return (request.deterministic, { s with fallbacks := s.fallbacks + 1 })

/-- What a runner is made from and how it is used in one run. -/
structure Usage where
  timeout : Binary64
  label : Text
  transcribes : Bool
  /-- A runner that is used in place of one made from the settings. -/
  runner : Option Runner
  deriving DecidableEq, Repr

/-- The runner of the settings; nothing, with a warning, if the endpoint is refused. -/
def runnerOf (settings : EndpointSettings) : Program (Option Runner) := do
  match Runner.new settings.model settings.baseUrl settings.probeTimeout with
  | .ok runner => return some runner
  | .error (.exchange fault) =>
    Program.log .warning "summarizer" (fault.message ++ "; using deterministic summaries")
    return none
  | .error failure => throw failure

/-- The runner of one run: the one that is given, or else that of the settings. -/
def runnerFor (settings : EndpointSettings) (usage : Usage) : Program (Option Runner) :=
  match usage.runner with
  | some runner => return some runner
  | none => runnerOf settings

/-- Chooses the summarizer of one run. Where the settings skip the model, no runner is made and nothing
is sent; otherwise the endpoint has to answer first. -/
def build (settings : EndpointSettings) (usage : Usage) : Program Summarizer := do
  if settings.skip then
    Program.log .info "summarizer" "Using deterministic summaries (SKIP_LLM is set)"
    return deterministic
  else
    match ← runnerFor settings usage with
    | none => return deterministic
    | some runner =>
      if ← runner.probe then
        Program.log .info "summarizer"
          ("Ollama detected (model: " ++ runner.model ++ "); using AI-assisted summaries")
        let timeout := (settings.requestTimeout.filter Binary64.isNonzero).getD usage.timeout
        return { fallbacks := 0
                 model? := some { runner, timeout, label := usage.label
                                  transcribes := usage.transcribes } }
      else
        Program.log .info "summarizer"
          ("Ollama not reachable at " ++ runner.baseUrl ++ "; using deterministic summaries")
        return deterministic

end Summarizer
end ReferencePages
