import ReferencePages.Endpoint.Runner
import ReferencePages.Proofs.Program.Outcome
/-!
What a runner answers. Its answers are given by the outcomes to come, the first question by the first
outcome and so on, and a question changes nothing but the exchanges.
-/

namespace ReferencePages.Runner

/-- The answer to a question, where as many questions as the number says come before it. Outcomes that
are not there are refusals; an address that cannot be requested takes no outcome. -/
def reply (r : Runner) (s : Session) (number : Nat) (q : Question) : Except ExchangeFault Text :=
  if r.rehearsed then s.rehearsal.answers[number]?.getD (.error exhausted)
  else
    match questionRequest q with
    | .error fault => .error (badAddress q fault.message)
    | .ok _ =>
      match s.endpoint.outcomes[number]?.getD (.error refused) with
      | .error fault => .error (explain q fault)
      | .ok body => readAnswer body

/-- The answers depend on the outcomes to come alone. -/
theorem reply_congr {s t : Session} (r : Runner) (number : Nat) (q : Question)
    (endpoint : t.endpoint = s.endpoint) (rehearsal : t.rehearsal = s.rehearsal) :
    r.reply t number q = r.reply s number q := by
  rw [reply, reply, endpoint, rehearsal]

/-- Questions to one address can all be requested, or none. -/
theorem questionRequest_isOk {q q' : Question} (same : q'.baseUrl = q.baseUrl) :
    (questionRequest q').isOk = (questionRequest q).isOk := by
  unfold questionRequest generateAddress
  rw [same]
  cases Url.requested (q.baseUrl ++ "/api/generate") <;> rfl

theorem send_outcome (request : SentRequest) (s : Session) :
    (send request).outcome s =
      (.ok (s.endpoint.outcomes[0]?.getD (.error refused)),
        { s with endpoint :=
          { outcomes := s.endpoint.outcomes.tail, sent := s.endpoint.sent ++ [request] } }) := by
  unfold send
  rw [Program.outcome_bind, Program.outcome_get]
  dsimp only
  cases s.endpoint.outcomes <;> rfl

/-- A question gets the first of the answers to come, and the next question the next. -/
theorem ask_outcome (r : Runner) (prompt : Text) (timeout : Option Binary64) (s : Session) :
    ∃ endpoint rehearsal,
      (r.ask prompt timeout).outcome s =
        (.ok (r.reply s 0 (r.question prompt timeout)), { s with endpoint, rehearsal }) ∧
      ∀ number q, q.baseUrl = r.baseUrl →
        r.reply { s with endpoint, rehearsal } number q = r.reply s (number + 1) q := by
  by_cases rehearsed : r.rehearsed = true
  · refine ⟨s.endpoint, { s.rehearsal with
      answers := s.rehearsal.answers.tail
      asked := s.rehearsal.asked ++ [r.question prompt timeout] }, ?_, ?_⟩
    · rw [ask, if_pos rehearsed, askRehearsal, Program.outcome_bind, Program.outcome_get, reply,
        if_pos rehearsed]
      dsimp only
      cases s.rehearsal.answers <;> rfl
    · intro number q _
      rw [reply, reply, if_pos rehearsed, if_pos rehearsed]
      dsimp only
      rw [List.getElem?_tail]
  · rw [ask, if_neg rehearsed, askEndpoint]
    cases requested : questionRequest (r.question prompt timeout) with
    | error fault =>
      refine ⟨s.endpoint, s.rehearsal, ?_, ?_⟩
      · rw [reply, if_neg rehearsed, requested]
        rfl
      · intro number q address
        have none : (questionRequest q).isOk = false := by
          rw [questionRequest_isOk (q := r.question prompt timeout) address, requested]
          rfl
        rw [reply, reply, if_neg rehearsed, if_neg rehearsed]
        cases other : questionRequest q with
        | error fault' => rfl
        | ok request =>
          rw [other] at none
          cases none
    | ok request =>
      refine ⟨{ outcomes := s.endpoint.outcomes.tail, sent := s.endpoint.sent ++ [request] },
        s.rehearsal, ?_, ?_⟩
      · dsimp only
        rw [Program.outcome_bind, send_outcome, reply, if_neg rehearsed, requested]
        dsimp only
        cases s.endpoint.outcomes[0]?.getD (.error refused) <;> rfl
      · intro number q _
        rw [reply, reply, if_neg rehearsed, if_neg rehearsed]
        dsimp only
        rw [List.getElem?_tail]

end ReferencePages.Runner
