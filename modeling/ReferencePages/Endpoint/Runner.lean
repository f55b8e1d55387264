import ReferencePages.Session
import ReferencePages.Json.Printer
import ReferencePages.Json.Reader
/-!
The runner of a local model. It refuses endpoints on other machines, asks whether the endpoint answers,
and puts questions to it. Faults of the transport become a refusal to summarize with a reason; other
faults stay what they are.
-/

namespace ReferencePages

/-- A runner: the model that it asks for, the address of its endpoint, and how long it waits for a sign
of life. A rehearsed runner takes its answers from the rehearsal instead of the endpoint. -/
structure Runner where
  model : Text
  baseUrl : Text
  probeTimeout : Binary64
  rehearsed : Bool
  deriving DecidableEq, Repr

namespace Runner

/-- How long a runner waits for a sign of life where nothing else is said. -/
def standardProbeTimeout : Binary64 := Binary64.ofInt 2

/-- How long a runner waits for an answer where nothing else is said. -/
def standardTimeout : Binary64 := Binary64.ofInt 60

/-- A refusal to summarize, with a reason. -/
def refusal (reason : Text) : ExchangeFault := .unavailable [.string reason]

/-- The address without slashes at its end, if its host is the local machine. -/
def localUrl (url : Text) : Except Failure Text := do
  let address := Text.trimEndWhile (· == '/') url
  match Url.host? address with
  | .error fault => .error (.url fault)
  | .ok none => .ok address
  | .ok (some host) =>
    if Url.isLocalHost host then .ok address
    else
      .error (.exchange (refusal ("Remote endpoint '" ++ url ++
        "' is not permitted. Point OLLAMA_HOST at a local server.")))

/-- A runner for an endpoint on the local machine. -/
def new (model url : Text) (probeTimeout : Binary64) : Except Failure Runner :=
  (localUrl url).map fun baseUrl => { model, baseUrl, probeTimeout, rehearsed := false }

/-- The fault of an exchange for which no outcome is prepared. -/
def refused : ExchangeFault := .plain .unreachable [.string "connection refused"]

/-- Sends a request and takes the next outcome. -/
def send (request : SentRequest) : Program Outcome := do
  let s ← get
  let (outcome, outcomes) := match s.endpoint.outcomes with
    | [] => (.error refused, [])
    | o :: os => (o, os)
  set { s with endpoint := { outcomes, sent := s.endpoint.sent ++ [request] } }
  return outcome

/-- The request that asks for a sign of life. -/
def probeRequest (r : Runner) : Except Url.Fault SentRequest :=
  (Url.requested (r.baseUrl ++ "/api/tags")).map fun url =>
    { method := "GET", url, data := none, contentType := none, timeout := r.probeTimeout }

/-- Whether the endpoint answers. -/
def probe (r : Runner) : Program Bool := do
  if r.rehearsed then
    modify fun s => { s with rehearsal := { s.rehearsal with probes := s.rehearsal.probes + 1 } }
    return (← get).rehearsal.available
  else
    match r.probeRequest with
    | .error _ => return false
    | .ok request =>
      match ← send request with
      | .ok _ => return true
      | .error fault => if fault.isOfTransport then return false else throw (.exchange fault)

/-- Where a question goes. -/
def generateAddress (q : Question) : Text := q.baseUrl ++ "/api/generate"

/-- What is sent with a question. -/
def questionData (q : Question) : Text :=
  Json.render (.object
    [("model", .string q.model), ("prompt", .string q.prompt), ("stream", .bool false)])

/-- The request that puts a question. -/
def questionRequest (q : Question) : Except Url.Fault SentRequest :=
  (Url.requested (generateAddress q)).map fun url =>
    { method := "POST", url, data := some (questionData q), contentType := some "application/json",
      timeout := q.timeout }

/-- The refusal for an address that cannot be requested. -/
def badAddress (q : Question) (reason : Text) : ExchangeFault :=
  refusal ("Invalid Ollama endpoint " ++ generateAddress q ++ ": " ++ reason)

/-- The refusal for an answer with a status that is not a success: its text, or else the reason that
came with the status. -/
def badStatus (code reason : Json) (body : Bytes) : ExchangeFault :=
  let detail := Text.trim (Utf8.decodeDropping body)
  refusal ("Ollama request failed with status " ++ Json.toText code ++ ": " ++
    (if detail.isEmpty then Json.toText reason else detail))

/-- What a fault of the exchange means for the question. -/
def explain (q : Question) (fault : ExchangeFault) : ExchangeFault :=
  match fault with
  | .status code reason body => badStatus code reason body
  | .incomplete .. => refusal ("Ollama returned a malformed HTTP response: " ++ fault.display)
  | .unavailable _ => fault
  | .plain family values =>
    if fault.isTimeout then
      refusal ("Ollama request timed out after " ++ q.timeout.toWholeText ++ "s")
    else if family.isSystem then refusal ("Ollama request failed: " ++ fault.message)
    else
      match family with
      | .unreachable =>
        refusal ("Ollama request failed: " ++ match values with
          | v :: _ => Json.toText v
          | [] => [])
      | .protocol | .statusLine | .badAddress =>
        refusal ("Ollama returned a malformed HTTP response: " ++ fault.display)
      | .value | .overflow => badAddress q fault.message
      | _ => fault

/-- The answer in a value that the endpoint sent, empty if it holds none. -/
def contentOf (payload : Json) : Text :=
  match payload.get? "response" with
  | some (.string s) => Text.trim s
  | _ => []

/-- The fault of an answer whose values are nested too deep. -/
def tooDeep (kind : Text) : ExchangeFault :=
  .plain .depth
    [.string (depthMessage ++ " while decoding a JSON " ++ kind ++ " from a unicode string")]

/-- The answer in the bytes that the endpoint sent. -/
def readAnswer (body : Bytes) : Except ExchangeFault Text :=
  match Utf8.decode body with
  | .error _ => .error (refusal "Ollama returned invalid JSON")
  | .ok s =>
    match Json.read s with
    | .error .malformed => .error (refusal "Ollama returned invalid JSON")
    | .error (.numberTooLong digits) =>
      .error (.plain .value [.string (numberLimitMessage digits)])
    | .error .arrayTooDeep => .error (tooDeep "array")
    | .error .objectTooDeep => .error (tooDeep "object")
    | .ok payload =>
      match contentOf payload with
      | [] => .error (refusal "Ollama returned an empty response")
      | content => .ok content

/-- Puts a question to the endpoint. -/
def askEndpoint (q : Question) : Program (Except ExchangeFault Text) := do
  match questionRequest q with
  | .error fault => return .error (badAddress q fault.message)
  | .ok request =>
    match ← send request with
    | .error fault => return .error (explain q fault)
    | .ok body => return readAnswer body

/-- The fault of a rehearsal that has no answer left. -/
def exhausted : ExchangeFault := .plain .exhausted [.string "pop from empty list"]

/-- Takes the next answer of the rehearsal. -/
def askRehearsal (q : Question) : Program (Except ExchangeFault Text) := do
  let s ← get
  let (answer, answers) := match s.rehearsal.answers with
    | [] => (.error exhausted, [])
    | a :: as => (a, as)
  set { s with rehearsal := { s.rehearsal with answers, asked := s.rehearsal.asked ++ [q] } }
  return answer

/-- The question that a runner puts. A timeout that is absent or zero is replaced by the standard one. -/
def question (r : Runner) (prompt : Text) (timeout : Option Binary64) : Question :=
  { prompt, model := r.model, baseUrl := r.baseUrl
    timeout := (timeout.filter Binary64.isNonzero).getD standardTimeout }

/-- Puts a question to the rehearsal or to the endpoint. -/
def ask (r : Runner) (prompt : Text) (timeout : Option Binary64) :
    Program (Except ExchangeFault Text) :=
  if r.rehearsed then askRehearsal (r.question prompt timeout)
  else askEndpoint (r.question prompt timeout)

end Runner
end ReferencePages
