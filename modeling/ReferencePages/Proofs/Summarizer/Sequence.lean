import ReferencePages.Summarizer
import ReferencePages.Proofs.Endpoint.Reply
/-!
Requests that one summarizer handles in a row. The summary of a request comes from the answer to that
request alone, and the summarizer counts how often there was none.
-/

namespace ReferencePages

/-- The summary that comes of a reply: the answer as it is folded, unless nothing is left of it. -/
def SummaryRequest.given (request : SummaryRequest) : Except ExchangeFault Text → Summary
  | .error _ => request.deterministic
  | .ok answer =>
    if request.fold answer = [] then request.deterministic
    else { text := Excerpt.truncate (request.fold answer) request.aiLimit, source := .ai }

theorem SummaryRequest.given_deterministic {request : SummaryRequest}
    {reply : Except ExchangeFault Text} {reason : Text}
    (refused : (reply.bind request.ofAnswer).mapError ModelSummarizer.reasonOf = .error reason) :
    request.given reply = request.deterministic := by
  cases reply with
  | error fault => rfl
  | ok answer =>
    rw [given]
    split
    · rfl
    · rename_i text
      unfold Except.bind ofAnswer at refused
      dsimp only at refused
      split at refused
      · exact absurd ‹_› text
      · cases refused

theorem SummaryRequest.given_ai {request : SummaryRequest} {reply : Except ExchangeFault Text}
    {summary : Summary}
    (accepted : (reply.bind request.ofAnswer).mapError ModelSummarizer.reasonOf = .ok summary) :
    request.given reply = summary ∧ summary.source = .ai := by
  cases reply with
  | error fault => cases accepted
  | ok answer =>
    unfold Except.bind ofAnswer at accepted
    dsimp only at accepted
    split at accepted
    · cases accepted
    · rename_i text
      cases accepted
      rw [given, if_neg text]
      exact ⟨rfl, rfl⟩

/-! ### Exchanges and transcripts -/

namespace Scratch

theorem ensurePath_exchanges : Program.Moves Program.SameExchanges ensurePath := by
  intro s
  unfold ensurePath
  rw [Program.outcome_bind, Program.outcome_get]
  dsimp only
  split
  · exact ⟨rfl, rfl⟩
  · split
    · exact ⟨rfl, rfl⟩
    · rw [Program.outcome_bind, Program.outcome_set]
      dsimp only
      rw [Program.outcome_bind, Program.outcome_log]
      exact Program.SameExchanges.record _ _ _ _

theorem nextIndex_exchanges (label : Text) : Program.Moves Program.SameExchanges (nextIndex label) :=
  fun _ => ⟨rfl, rfl⟩

theorem write_exchanges (p : Path) (contents : Bytes) :
    Program.Moves Program.SameExchanges (Program.write p contents) := by
  intro s
  unfold Program.write Program.changeFiles
  rw [Program.outcome_bind, Program.outcome_get]
  dsimp only
  cases s.tree.write s.mask s.directory p contents <;> exact ⟨rfl, rfl⟩

theorem writeJson_exchanges (name : Text) (value : Json) :
    Program.Moves Program.SameExchanges (writeJson name value) :=
  ensurePath_exchanges.bind fun _ => (write_exchanges _ _).bind fun _ => .pure _

end Scratch

namespace ModelSummarizer

theorem recordRequest_exchanges (m : ModelSummarizer) (request : SummaryRequest) :
    Program.Moves Program.SameExchanges (m.recordRequest request) := by
  unfold recordRequest
  split
  · exact .pure _
  · exact (Scratch.nextIndex_exchanges _).bind fun _ => (Scratch.writeJson_exchanges _ _).bind fun _ =>
      .pure _

theorem recordReply_exchanges (m : ModelSummarizer) (index : Option Nat)
    (reply : Except ExchangeFault Text) : Program.Moves Program.SameExchanges (m.recordReply index reply) := by
  have recorded (key value : Text) :
      Program.Moves Program.SameExchanges (m.recordResponse index key value) := by
    unfold recordResponse
    split
    · exact .pure _
    · exact (Scratch.writeJson_exchanges _ _).bind fun _ => .pure _
  unfold recordReply
  split
  · exact recorded _ _
  · exact recorded _ _

/-- Whether the transcript of a request can be written: the request before the question is put, and
afterwards what came of it. -/
def writesTranscript (m : ModelSummarizer) (request : SummaryRequest) (s : Session) : Bool :=
  match (m.recordRequest request).outcome s with
  | (.error _, _) => false
  | (.ok index, t) =>
    match (m.runner.ask request.prompt (some m.timeout)).outcome t with
    | (.error _, _) => true
    | (.ok reply, u) => ((m.recordReply index reply).outcome u).1.isOk

/-- The reply to a request, where as many questions as the number says come before it. -/
def reply (m : ModelSummarizer) (s : Session) (number : Nat) (request : SummaryRequest) :
    Except ExchangeFault Text :=
  m.runner.reply s number (m.runner.question request.prompt (some m.timeout))

/-- The state after a question, in which the replies to come have moved up by one. -/
def Advances (m : ModelSummarizer) (s t : Session) : Prop :=
  ∀ number request, m.reply t number request = m.reply s (number + 1) request

theorem summarize_outcome {m : ModelSummarizer} {request : SummaryRequest} {s : Session}
    (transcript : m.writesTranscript request s = true) :
    ∃ t, (m.summarize request).outcome s =
        (.ok (((m.reply s 0 request).bind request.ofAnswer).mapError reasonOf), t) ∧
      m.Advances s t := by
  unfold writesTranscript at transcript
  unfold summarize
  cases requested : (m.recordRequest request).outcome s with
  | mk result s₁ =>
    have before := (m.recordRequest_exchanges request).reached requested
    rw [requested] at transcript
    cases result with
    | error failure => cases transcript
    | ok index =>
      obtain ⟨endpoint, rehearsal, asked, moved⟩ :=
        m.runner.ask_outcome request.prompt (some m.timeout) s₁
      have replied : m.runner.reply s₁ 0 (m.runner.question request.prompt (some m.timeout)) =
          m.reply s 0 request := Runner.reply_congr _ _ _ before.1 before.2
      rw [replied] at asked
      dsimp only at transcript
      rw [asked] at transcript
      dsimp only at transcript
      rw [Program.outcome_bind_ok requested, Program.outcome_bind_ok asked]
      cases recorded : (m.recordReply index (m.reply s 0 request)).outcome
          { s₁ with endpoint, rehearsal } with
      | mk done s₂ =>
        have after := (m.recordReply_exchanges index _).reached recorded
        rw [recorded] at transcript
        cases done with
        | error failure => cases transcript
        | ok _ =>
          rw [Program.outcome_bind_ok recorded]
          refine ⟨s₂, rfl, fun number request' => ?_⟩
          calc m.reply s₂ number request'
              = m.reply { s₁ with endpoint, rehearsal } number request' :=
                Runner.reply_congr _ _ _ after.1 after.2
            _ = m.reply s₁ (number + 1) request' := moved number _ rfl
            _ = m.reply s (number + 1) request' := Runner.reply_congr _ _ _ before.1 before.2

end ModelSummarizer

namespace Summarizer

/-- A summarizer that asks a model and has fallen back so many times. -/
def around (m : ModelSummarizer) (fallbacks : Nat) : Summarizer := { model? := some m, fallbacks }

/-- The summaries of requests that one summarizer handles in a row. -/
def summarizeAll : List SummaryRequest → Summarizer → Program (List Summary × Summarizer)
  | [], summarizer => return ([], summarizer)
  | request :: requests, summarizer => do
    let (summary, summarizer) ← summarizer.summarize request
    let (summaries, summarizer) ← summarizeAll requests summarizer
    return (summary :: summaries, summarizer)

/-- Whether the transcripts of requests in a row can be written. -/
def writesTranscripts (m : ModelSummarizer) : List SummaryRequest → Session → Bool
  | [], _ => true
  | request :: requests, s =>
    m.writesTranscript request s &&
      writesTranscripts m requests (((around m 0).summarize request).outcome s).2

/-- How many of the summaries are deterministic. -/
def deterministicCount (summaries : List Summary) : Nat :=
  summaries.countP (·.source = .deterministic)

/-- A request is summarized by its own reply, and a fallback is counted. -/
theorem summarize_outcome {m : ModelSummarizer} {request : SummaryRequest} {s : Session}
    (transcript : m.writesTranscript request s = true) (fallbacks : Nat) :
    ((around m fallbacks).summarize request).outcome s =
        (.ok (request.given (m.reply s 0 request),
            around m (fallbacks + deterministicCount [request.given (m.reply s 0 request)])),
          (((around m 0).summarize request).outcome s).2) ∧
      m.Advances s (((around m 0).summarize request).outcome s).2 := by
  obtain ⟨t, asked, advances⟩ := ModelSummarizer.summarize_outcome transcript
  unfold summarize around
  dsimp only
  rw [Program.outcome_bind_ok asked, Program.outcome_bind_ok asked]
  cases outcome : ((m.reply s 0 request).bind request.ofAnswer).mapError ModelSummarizer.reasonOf with
  | error reason =>
    rw [SummaryRequest.given_deterministic outcome]
    refine ⟨rfl, fun number request' => ?_⟩
    rw [← advances number request']
    exact Runner.reply_congr _ _ _ (Program.SameExchanges.record t _ _ _).1 (Program.SameExchanges.record t _ _ _).2
  | ok summary =>
    obtain ⟨givenEq, ai⟩ := SummaryRequest.given_ai outcome
    rw [givenEq]
    have uncounted : deterministicCount [summary] = 0 := by
      rw [deterministicCount, List.countP_singleton, ai]
      rfl
    rw [uncounted]
    exact ⟨rfl, advances⟩

theorem summarizeAll_outcome {m : ModelSummarizer} {requests : List SummaryRequest} {s : Session}
    (transcripts : writesTranscripts m requests s = true) (fallbacks : Nat) :
    ∃ summaries t, (summarizeAll requests (around m fallbacks)).outcome s =
        (.ok (summaries, around m (fallbacks + deterministicCount summaries)), t) ∧
      ∀ i : Nat, summaries[i]? =
        requests[i]?.map fun request : SummaryRequest => request.given (m.reply s i request) := by
  induction requests generalizing s fallbacks with
  | nil => exact ⟨[], s, rfl, fun i => rfl⟩
  | cons request requests ih =>
    rw [writesTranscripts, Bool.and_eq_true] at transcripts
    obtain ⟨first, advances⟩ := summarize_outcome transcripts.1 fallbacks
    obtain ⟨summaries, t, rest, results⟩ :=
      ih transcripts.2 (fallbacks + deterministicCount [request.given (m.reply s 0 request)])
    refine ⟨request.given (m.reply s 0 request) :: summaries, t, ?_, ?_⟩
    · rw [summarizeAll, Program.outcome_bind_ok first]
      dsimp only
      rw [Program.outcome_bind_ok rest, Program.outcome_pure]
      have count : fallbacks + deterministicCount (request.given (m.reply s 0 request) :: summaries) =
          fallbacks + deterministicCount [request.given (m.reply s 0 request)] +
            deterministicCount summaries := by
        simp only [deterministicCount, List.countP_cons, List.countP_nil]
        omega
      rw [count]
    · intro i
      cases i with
      | zero => rfl
      | succ i =>
        rw [List.getElem?_cons_succ, List.getElem?_cons_succ, results i]
        exact congrArg (requests[i]?.map ·) (funext fun other =>
          congrArg other.given (advances i other))

theorem writesTranscripts_take {m : ModelSummarizer} {requests : List SummaryRequest} {s : Session}
    (transcripts : writesTranscripts m requests s = true) (k : Nat) :
    writesTranscripts m (requests.take k) s = true := by
  induction requests generalizing s k with
  | nil => rw [List.take_nil]; rfl
  | cons request requests ih =>
    cases k with
    | zero => rfl
    | succ k =>
      rw [writesTranscripts, Bool.and_eq_true] at transcripts
      rw [List.take_succ_cons, writesTranscripts, Bool.and_eq_true]
      exact ⟨transcripts.1, ih transcripts.2 k⟩

/-- A request that is to be folded into one line. -/
def lineRequest (subject : Text) : SummaryRequest :=
  { subject, prompt := "What is " ++ subject ++ "?", fallback := "A table of rows."
    deterministicLimit := some 10, aiLimit := some 20, flatten := true, collapse := false }

/-- A model that keeps transcripts and takes its answers from the rehearsal. -/
def rehearsedModel : ModelSummarizer :=
  { runner := { model := "small", baseUrl := "http://localhost", probeTimeout := .zero, rehearsed := true }
    timeout := .zero, label := "tables", transcribes := true }

/-- An answer, a blank answer, a fault, and no answer at all. -/
def rehearsedSession : Session :=
  { Session.new { entries := [(["tmp"], .directory)] } [] with
    rehearsal :=
      { available := true
        answers := [.ok " Rows of\n|orders ", .ok " \n ", .error (.plain (.other "KeyFault") [])]
        asked := [], probes := 0 } }

def rehearsedRequests : List SummaryRequest :=
  [lineRequest "orders", lineRequest "items", lineRequest "users", lineRequest "roles"]

end Summarizer
end ReferencePages
