import ReferencePages.Proofs.Endpoint.Reply
import ReferencePages.Proofs.Url.Path
/-!
Exchanges in a row. Each request that is sent takes the first of the outcomes to come, so that what a
question is answered can be told from the number of requests before it.
-/

namespace ReferencePages

open Program (SameExchanges)

/-- Between two states these requests have been sent, each for one of the outcomes to come. -/
structure Sends (requests : List SentRequest) (s t : Session) : Prop where
  sent : t.endpoint.sent = s.endpoint.sent ++ requests
  outcomes : t.endpoint.outcomes = s.endpoint.outcomes.drop requests.length

namespace Sends

variable {requests more : List SentRequest} {s t u : Session}

theorem of_same (same : SameExchanges s t) : Sends [] s t := by
  refine ⟨?_, ?_⟩
  · rw [same.1, List.append_nil]
  · rw [same.1]
    rfl

theorem trans (first : Sends requests s t) (second : Sends more t u) : Sends (requests ++ more) s u := by
  refine ⟨?_, ?_⟩
  · rw [second.sent, first.sent, List.append_assoc]
  · rw [second.outcomes, first.outcomes, List.drop_drop, List.length_append]

theorem before (same : SameExchanges s t) (sends : Sends requests t u) : Sends requests s u :=
  (of_same same).trans sends

theorem after (sends : Sends requests s t) (same : SameExchanges t u) : Sends requests s u := by
  have both := sends.trans (of_same same)
  rwa [List.append_nil] at both

end Sends

namespace Runner

theorem send_sends (request : SentRequest) (s : Session) :
    Sends [request] s ((send request).outcome s).2 := by
  rw [send_outcome]
  exact ⟨rfl, List.drop_one.symm⟩

/-- Requests that have been sent move the replies up, one for each of them. -/
theorem reply_of_sends {r : Runner} (asksEndpoint : r.rehearsed = false) {requests : List SentRequest}
    {s t : Session} (sends : Sends requests s t) (number : Nat) (q : Question) :
    r.reply t number q = r.reply s (requests.length + number) q := by
  have unrehearsed : ¬ r.rehearsed = true := by simp [asksEndpoint]
  rw [reply, reply, if_neg unrehearsed, if_neg unrehearsed, sends.outcomes, List.getElem?_drop]

/-- The outcome of the next request. -/
def nextOutcome (s : Session) : Outcome := s.endpoint.outcomes[0]?.getD (.error refused)

theorem nextOutcome_congr {s t : Session} (same : SameExchanges s t) : nextOutcome t = nextOutcome s := by
  rw [nextOutcome, nextOutcome, same.1]

/-- A script in which nothing but the transport fails, and what it gives when it is used up. -/
theorem nextOutcome_transport {s : Session} (transport : ∀ fault, Except.error fault ∈ s.endpoint.outcomes →
    fault.isOfTransport = true) (fault : ExchangeFault) (next : nextOutcome s = .error fault) :
    fault.isOfTransport = true := by
  unfold nextOutcome at next
  cases first : s.endpoint.outcomes[0]? with
  | none =>
    rw [first] at next
    cases next
    rfl
  | some outcome =>
    rw [first] at next
    cases next
    exact transport fault (List.mem_of_getElem? first)

/-- The request for a sign of life at an address. -/
def probeTo (r : Runner) (url : Text) : SentRequest :=
  { method := "GET", url, data := none, contentType := none, timeout := r.probeTimeout }

/-- The request that puts a question at an address. -/
def postTo (url : Text) (q : Question) : SentRequest :=
  { method := "POST", url, data := some (questionData q), contentType := some "application/json"
    timeout := q.timeout }

theorem questionRequest_eq {q : Question} {url : Text}
    (requested : Url.requested (q.baseUrl ++ "/api/generate") = .ok url) :
    questionRequest q = .ok (postTo url q) := by
  rw [questionRequest, generateAddress, requested]
  rfl

/-- An endpoint that can be asked for a sign of life can be asked questions. -/
theorem exists_generate {base tags : Text} (requested : Url.requested (base ++ "/api/tags") = .ok tags) :
    ∃ generate, Url.requested (base ++ "/api/generate") = .ok generate := by
  have names : Url.IsLastName "tags" ∧ Url.IsLastName "generate" := by decide
  have address (name : Text) : base ++ ("/api".toList ++ '/' :: name) = (base ++ "/api") ++ '/' :: name :=
    (List.append_assoc ..).symm
  have both : (Url.requested (base ++ "/api/generate")).isOk = true := by
    have same := Url.requested_isOk_append names.1 names.2 (base ++ "/api")
    rw [← address, ← address] at same
    have accepted : (Url.requested (base ++ "/api/tags")).isOk = true := by rw [requested]; rfl
    exact same.symm.trans accepted
  cases result : Url.requested (base ++ "/api/generate") with
  | ok generate => exact ⟨generate, rfl⟩
  | error fault =>
    rw [result] at both
    cases both

/-- A probe sends one request. It finds out whether the endpoint answers, and a fault of the transport is
as good as silence. -/
theorem probe_sends {r : Runner} (asksEndpoint : r.rehearsed = false) {tags : Text}
    (requested : Url.requested (r.baseUrl ++ "/api/tags") = .ok tags) {s : Session}
    (transport : ∀ fault, nextOutcome s = .error fault → fault.isOfTransport = true) :
    ∃ t, r.probe.outcome s = (.ok (nextOutcome s).isOk, t) ∧ Sends [r.probeTo tags] s t := by
  have request : r.probeRequest = .ok (r.probeTo tags) := by
    rw [probeRequest, requested]
    rfl
  refine ⟨((send (r.probeTo tags)).outcome s).2, ?_, send_sends _ s⟩
  unfold probe
  rw [if_neg (by simp [asksEndpoint]), request]
  dsimp only
  rw [Program.outcome_bind, send_outcome]
  dsimp only
  rw [← nextOutcome]
  cases outcome : nextOutcome s with
  | ok body => rfl
  | error fault =>
    dsimp only
    rw [if_pos (transport fault outcome)]
    rfl

/-- A question sends one request and gets the first of the answers to come. -/
theorem ask_sends {r : Runner} (asksEndpoint : r.rehearsed = false) {generate : Text}
    (requested : Url.requested (r.baseUrl ++ "/api/generate") = .ok generate) (prompt : Text)
    (timeout : Option Binary64) (s : Session) :
    ∃ t, (r.ask prompt timeout).outcome s = (.ok (r.reply s 0 (r.question prompt timeout)), t) ∧
      Sends [postTo generate (r.question prompt timeout)] s t := by
  have request : questionRequest (r.question prompt timeout) =
      .ok (postTo generate (r.question prompt timeout)) := questionRequest_eq requested
  have unrehearsed : ¬ r.rehearsed = true := by simp [asksEndpoint]
  refine ⟨((send (postTo generate (r.question prompt timeout))).outcome s).2, ?_, send_sends _ s⟩
  rw [ask, if_neg unrehearsed, askEndpoint, reply, if_neg unrehearsed, request]
  dsimp only
  rw [Program.outcome_bind, send_outcome]
  dsimp only
  cases s.endpoint.outcomes[0]?.getD (.error refused) <;> rfl

end Runner
end ReferencePages
