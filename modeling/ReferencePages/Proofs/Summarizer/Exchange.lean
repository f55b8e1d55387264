import ReferencePages.Proofs.Summarizer.Sequence
import ReferencePages.Proofs.Endpoint.Exchange
/-!
Requests of one summarizer to an endpoint. A request is sent once or, where its transcript cannot be begun,
not at all, and nothing that the endpoint does to it ends the run.
-/

namespace ReferencePages

open Program (SameExchanges)

/-- Whether a run fails on a file. -/
def Failure.IsOfFile (failure : Failure) : Prop := ∃ error, failure = .file error

namespace Scratch

theorem ensurePath_error {failure : Failure} {s t : Session}
    (run : ensurePath.outcome s = (.error failure, t)) : failure.IsOfFile := by
  unfold ensurePath at run
  rw [Program.outcome_bind, Program.outcome_get] at run
  dsimp only at run
  split at run
  · cases run
  · split at run
    · cases run
      exact ⟨_, rfl⟩
    · rw [Program.outcome_bind, Program.outcome_set] at run
      dsimp only at run
      rw [Program.outcome_bind, Program.outcome_log] at run
      cases run

theorem writeJson_error {name : Text} {value : Json} {failure : Failure} {s t : Session}
    (run : (writeJson name value).outcome s = (.error failure, t)) : failure.IsOfFile := by
  rcases Program.outcome_bind_eq_error run with unmade | ⟨p, u, _, rest⟩
  · exact ensurePath_error unmade
  · rcases Program.outcome_bind_eq_error rest with unwritten | ⟨_, _, _, last⟩
    · unfold Program.write Program.changeFiles at unwritten
      rw [Program.outcome_bind, Program.outcome_get] at unwritten
      dsimp only at unwritten
      cases changed : u.tree.write u.mask u.directory (p.child name)
          (Utf8.encode (Json.renderIndented 0 value)) with
      | ok tree =>
        rw [changed] at unwritten
        cases unwritten
      | error e =>
        rw [changed] at unwritten
        cases unwritten
        exact ⟨e, rfl⟩
    · cases last

end Scratch

namespace ModelSummarizer

variable {m : ModelSummarizer} {generate : Text} {request : SummaryRequest} {s t : Session}

theorem recordRequest_error {failure : Failure}
    (run : (m.recordRequest request).outcome s = (.error failure, t)) : failure.IsOfFile := by
  unfold recordRequest at run
  split at run
  · cases run
  · rcases Program.outcome_bind_eq_error run with counted | ⟨index, u, _, rest⟩
    · cases counted
    · rcases Program.outcome_bind_eq_error rest with unwritten | ⟨_, _, _, last⟩
      · exact Scratch.writeJson_error unwritten
      · cases last

theorem recordReply_error {index : Option Nat} {reply : Except ExchangeFault Text} {failure : Failure}
    (run : (m.recordReply index reply).outcome s = (.error failure, t)) : failure.IsOfFile := by
  have recorded {key value : Text} (run : (m.recordResponse index key value).outcome s =
      (.error failure, t)) : failure.IsOfFile := by
    unfold recordResponse at run
    split at run
    · cases run
    · rcases Program.outcome_bind_eq_error run with unwritten | ⟨_, _, _, last⟩
      · exact Scratch.writeJson_error unwritten
      · cases last
  cases reply <;> exact recorded run

/-- The request that a model puts to its endpoint. -/
def post (m : ModelSummarizer) (generate : Text) (request : SummaryRequest) : SentRequest :=
  Runner.postTo generate (m.runner.question request.prompt (some m.timeout))

/-- A model with an endpoint that takes questions at an address. -/
structure Reaches (m : ModelSummarizer) (generate : Text) : Prop where
  asksEndpoint : m.runner.rehearsed = false
  requested : Url.requested (m.runner.baseUrl ++ "/api/generate") = .ok generate

theorem reply_of_sends (reaches : m.Reaches generate) {posts : List SentRequest}
    (sends : Sends posts s t) (number : Nat) (request : SummaryRequest) :
    m.reply t number request = m.reply s (posts.length + number) request :=
  Runner.reply_of_sends reaches.asksEndpoint sends number _

/-- A model asks once, and what it makes of the reply is the reply's alone. -/
theorem summarize_eq_ok (reaches : m.Reaches generate) {answer : Except Text Summary}
    (run : (m.summarize request).outcome s = (.ok answer, t)) :
    Sends [m.post generate request] s t ∧
      answer = ((m.reply s 0 request).bind request.ofAnswer).mapError reasonOf := by
  obtain ⟨index, u, begun, asking⟩ := Program.outcome_bind_eq_ok run
  have before := (m.recordRequest_exchanges request).reached begun
  obtain ⟨v, asked, sends⟩ := Runner.ask_sends reaches.asksEndpoint reaches.requested request.prompt
    (some m.timeout) u
  rw [Program.outcome_bind_ok asked] at asking
  obtain ⟨_, x, recorded, last⟩ := Program.outcome_bind_eq_ok asking
  have after := (m.recordReply_exchanges index _).reached recorded
  have replied : m.runner.reply u 0 (m.runner.question request.prompt (some m.timeout)) =
      m.reply s 0 request := Runner.reply_congr _ _ _ before.1 before.2
  rw [replied] at last
  cases last
  exact ⟨(sends.before before).after after, rfl⟩

theorem summarize_eq_error (reaches : m.Reaches generate) {failure : Failure}
    (run : (m.summarize request).outcome s = (.error failure, t)) :
    failure.IsOfFile ∧ (Sends [] s t ∨ Sends [m.post generate request] s t) := by
  rcases Program.outcome_bind_eq_error run with unbegun | ⟨index, u, begun, asking⟩
  · exact ⟨recordRequest_error unbegun, .inl (.of_same ((m.recordRequest_exchanges request).reached unbegun))⟩
  · have before := (m.recordRequest_exchanges request).reached begun
    obtain ⟨v, asked, sends⟩ := Runner.ask_sends reaches.asksEndpoint reaches.requested request.prompt
      (some m.timeout) u
    rw [Program.outcome_bind_ok asked] at asking
    rcases Program.outcome_bind_eq_error asking with unrecorded | ⟨_, _, _, last⟩
    · have after := (m.recordReply_exchanges index _).reached unrecorded
      exact ⟨recordReply_error unrecorded, .inr ((sends.before before).after after)⟩
    · cases last

end ModelSummarizer

namespace Summarizer

/-- A summarizer whose model, if it has one, has an endpoint that takes questions at an address. -/
def Reaches (z : Summarizer) (generate : Text) : Prop := ∀ m, z.model? = some m → m.Reaches generate

/-- What a summarizer sends for one request. -/
def posts (z : Summarizer) (generate : Text) (request : SummaryRequest) : List SentRequest :=
  (z.model?.map fun m => m.post generate request).toList

/-- The summary of a request, where as many requests as the number says come before it. -/
def summary (z : Summarizer) (s : Session) (number : Nat) (request : SummaryRequest) : Summary :=
  match z.model? with
  | none => request.deterministic
  | some m => request.given (m.reply s number request)

/-- The summarizer after it has made summaries. Without a model there is nothing to fall back from. -/
def counting (z : Summarizer) (summaries : List Summary) : Summarizer :=
  { z with fallbacks :=
    z.fallbacks + if z.model?.isSome then deterministicCount summaries else 0 }

theorem counting_append (z : Summarizer) (summaries more : List Summary) :
    (z.counting summaries).counting more = z.counting (summaries ++ more) := by
  unfold counting deterministicCount
  dsimp only
  rw [List.countP_append]
  split <;> simp only [Nat.add_assoc, Nat.add_zero]

theorem counting_nil (z : Summarizer) : z.counting [] = z := by
  unfold counting
  split <;> rfl

variable {z : Summarizer} {generate : Text} {request : SummaryRequest} {s t : Session}

theorem flatMap_posts {m : ModelSummarizer} (model : z.model? = some m) (requests : List SummaryRequest) :
    requests.flatMap (z.posts generate) = requests.map (m.post generate) := by
  have each : z.posts generate = fun request => [m.post generate request] := by
    funext request
    rw [posts, model]
    rfl
  rw [each, List.map_eq_flatMap]

/-- What comes before moves the summaries up as well. -/
theorem summary_of_sends (reaches : z.Reaches generate) {requests : List SummaryRequest}
    (sends : Sends (requests.flatMap (z.posts generate)) s t) (number : Nat) (request : SummaryRequest) :
    z.summary t number request = z.summary s (requests.length + number) request := by
  unfold summary
  cases model : z.model? with
  | none => rfl
  | some m =>
    have size : (requests.flatMap (z.posts generate)).length = requests.length := by
      rw [flatMap_posts model, List.length_map]
    dsimp only
    rw [ModelSummarizer.reply_of_sends (reaches m model) sends, size]

/-- The summary is that of this very request, and a summary that no model has made is counted. -/
theorem summarize_eq_ok (reaches : z.Reaches generate) {answer : Summary} {after : Summarizer}
    (run : (z.summarize request).outcome s = (.ok (answer, after), t)) :
    Sends (z.posts generate request) s t ∧ answer = z.summary s 0 request ∧
      after = z.counting [answer] := by
  obtain ⟨model?, fallbacks⟩ := z
  cases model? with
  | none =>
    cases run
    exact ⟨.of_same (Program.Steady.refl s), rfl, rfl⟩
  | some m =>
    obtain ⟨reply, u, asked, rest⟩ := Program.outcome_bind_eq_ok run
    obtain ⟨sends, replyEq⟩ := ModelSummarizer.summarize_eq_ok (reaches m rfl) asked
    cases reply with
    | ok answered =>
      cases rest
      obtain ⟨given, ai⟩ := SummaryRequest.given_ai replyEq.symm
      have uncounted : deterministicCount [answer] = 0 := by
        rw [deterministicCount, List.countP_singleton, ai]
        rfl
      refine ⟨sends, given.symm, ?_⟩
      rw [counting, uncounted]
      rfl
    | error reason =>
      rw [Program.outcome_bind, Program.outcome_log] at rest
      cases rest
      exact ⟨sends.after (SameExchanges.record _ _ _ _),
        (SummaryRequest.given_deterministic replyEq.symm).symm, rfl⟩

/-- Nothing that an endpoint does ends a run: a request that fails has failed on its transcript. -/
theorem summarize_eq_error (reaches : z.Reaches generate) {failure : Failure}
    (run : (z.summarize request).outcome s = (.error failure, t)) :
    failure.IsOfFile ∧ (Sends [] s t ∨ Sends (z.posts generate request) s t) := by
  obtain ⟨model?, fallbacks⟩ := z
  cases model? with
  | none => cases run
  | some m =>
    rcases Program.outcome_bind_eq_error run with failed | ⟨reply, u, _, rest⟩
    · exact ModelSummarizer.summarize_eq_error (reaches m rfl) failed
    · cases reply with
      | ok answer => cases rest
      | error reason =>
        rw [Program.outcome_bind, Program.outcome_log] at rest
        cases rest

end Summarizer
end ReferencePages
