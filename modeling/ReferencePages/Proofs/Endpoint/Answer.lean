import ReferencePages.Proofs.Endpoint.Exchange
import ReferencePages.Proofs.Text.Trim
import ReferencePages.Proofs.Utf8.Decode
/-!
Answers that are accepted. A question is answered where the endpoint sends an object whose response is a text with
something in it, and the answer is that text without the blanks at its ends. Else it is refused with a reason, as long
as the endpoint sends no value beyond the limits of the reader.
-/

namespace ReferencePages

namespace Json

/-- A whole number of more digits than the limit is not read. -/
theorem read_ones {n : Nat} (long : digitLimit < n) : read (List.replicate n '1') = .error (.numberTooLong n) := by
  obtain ⟨m, rfl⟩ : ∃ m, n = m + 1 := ⟨n - 1, by omega⟩
  have digits : ('1' :: List.replicate m '1').takeWhile Char.isDigit = '1' :: List.replicate m '1' := by
    rw [← List.replicate_succ, List.takeWhile_replicate]
    rfl
  have number : readNumber ('1' :: List.replicate m '1') = .error (.numberTooLong (m + 1)) := by
    simp [readNumber, digits, readFraction, readExponent, long]
  have value (fuel room : Nat) : readValue (fuel + 1) room ('1' :: List.replicate m '1') =
      .error (.numberTooLong (m + 1)) := by
    have start : skipSpace ('1' :: List.replicate m '1') = '1' :: List.replicate m '1' := rfl
    have word : readWord? ('1' :: List.replicate m '1') = none := rfl
    simp [readValue, start, word, number]
  rw [read, List.replicate_succ, value]
  rfl

end Json

namespace Runner

/-- The bytes of a text that is read as an object, with a response in which this is what there is but for blanks at
its ends. -/
def Holds (body : Bytes) (answer : Text) : Prop :=
  ∃ s members response, body = Utf8.encode s ∧ Json.read s = .ok (.object members) ∧
    Dictionary.get? "response" members = some (.string response) ∧ Text.isAllBlank response = false ∧
    answer = Text.trim response

/-- The bytes of a text with a number or a nesting beyond the limits of the reader. -/
def Exceeds (body : Bytes) : Prop :=
  ∃ s fault, body = Utf8.encode s ∧ Json.read s = .error fault ∧ fault ≠ .malformed

variable {body : Bytes} {answer : Text}

/-- What is found in a value is the text of an object's response, if there is any. -/
theorem contentOf_eq_iff {payload : Json} (filled : answer ≠ []) :
    contentOf payload = answer ↔ ∃ members response, payload = .object members ∧
      Dictionary.get? "response" members = some (.string response) ∧ answer = Text.trim response := by
  constructor
  · intro found
    unfold contentOf at found
    split at found
    · rename_i response member
      cases payload with
      | object members => exact ⟨members, response, rfl, member, found.symm⟩
      | _ => cases member
    · exact absurd found.symm filled
  · rintro ⟨members, response, rfl, member, rfl⟩
    rw [contentOf, Json.get?, member]

theorem isAllBlank_eq_false_iff {s : Text} : Text.isAllBlank s = false ↔ Text.trim s ≠ [] := by
  rw [ne_eq, Text.trim_eq_nil_iff, Bool.not_eq_true]

theorem Holds.ne_nil (holds : Holds body answer) : answer ≠ [] := by
  obtain ⟨_, _, _, _, _, _, filled, rfl⟩ := holds
  exact isAllBlank_eq_false_iff.mp filled

/-- The answer in a body, told from what the body decodes to and what that is read as. -/
theorem readAnswer_encode (s : Text) : readAnswer (Utf8.encode s) =
    match Json.read s with
    | .error .malformed => .error (refusal "Ollama returned invalid JSON")
    | .error (.numberTooLong digits) => .error (.plain .value [.string (numberLimitMessage digits)])
    | .error .arrayTooDeep => .error (tooDeep "array")
    | .error .objectTooDeep => .error (tooDeep "object")
    | .ok payload =>
      if contentOf payload = [] then .error (refusal "Ollama returned an empty response")
      else .ok (contentOf payload) := by
  rw [readAnswer, Utf8.decode_eq_ok_iff.mpr rfl]
  dsimp only
  cases Json.read s with
  | error fault => cases fault <;> rfl
  | ok payload =>
    dsimp only
    cases contentOf payload <;> rfl

theorem readAnswer_undecoded {fault : Utf8.DecodeError} (undecoded : Utf8.decode body = .error fault) :
    readAnswer body = .error (refusal "Ollama returned invalid JSON") := by
  rw [readAnswer, undecoded]

theorem readAnswer_eq_ok_iff : readAnswer body = .ok answer ↔ Holds body answer := by
  constructor
  · intro accepted
    cases decoded : Utf8.decode body with
    | error fault =>
      rw [readAnswer_undecoded decoded] at accepted
      cases accepted
    | ok s =>
      obtain rfl := Utf8.decode_eq_ok_iff.mp decoded
      rw [readAnswer_encode] at accepted
      cases read : Json.read s with
      | error fault =>
        rw [read] at accepted
        cases fault <;> cases accepted
      | ok payload =>
        rw [read] at accepted
        dsimp only at accepted
        split at accepted
        · cases accepted
        · rename_i filled
          obtain rfl := Except.ok.inj accepted
          obtain ⟨members, response, rfl, member, same⟩ := (contentOf_eq_iff filled).mp rfl
          exact ⟨s, members, response, rfl, read, member, isAllBlank_eq_false_iff.mpr (same ▸ filled), same⟩
  · intro holds
    have filled := holds.ne_nil
    obtain ⟨s, members, response, rfl, read, member, _, same⟩ := holds
    have content : contentOf (.object members) = answer :=
      (contentOf_eq_iff filled).mpr ⟨members, response, rfl, member, same⟩
    rw [readAnswer_encode, read]
    dsimp only
    rw [content, if_neg filled]

/-- What is not accepted is refused with a reason, but for what exceeds the limits of the reader. -/
theorem readAnswer_eq_error {fault : ExchangeFault} (unread : readAnswer body = .error fault) :
    (∃ reason, fault = refusal reason) ↔ ¬ Exceeds body := by
  constructor
  · rintro ⟨reason, rfl⟩ ⟨s, fault, rfl, read, beyond⟩
    rw [readAnswer_encode, read] at unread
    cases fault with
    | malformed => exact beyond rfl
    | _ => cases unread
  · intro within
    cases decoded : Utf8.decode body with
    | error fault =>
      rw [readAnswer_undecoded decoded] at unread
      exact ⟨_, (Except.error.inj unread).symm⟩
    | ok s =>
      obtain rfl := Utf8.decode_eq_ok_iff.mp decoded
      rw [readAnswer_encode] at unread
      cases read : Json.read s with
      | error fault =>
        obtain rfl : fault = .malformed := by
          by_contra beyond
          exact within ⟨s, fault, rfl, read, beyond⟩
        rw [read] at unread
        exact ⟨_, (Except.error.inj unread).symm⟩
      | ok payload =>
        rw [read] at unread
        dsimp only at unread
        split at unread
        · exact ⟨_, (Except.error.inj unread).symm⟩
        · cases unread

/-- A fault of the transport becomes a refusal with a reason. -/
theorem explain_transport {fault : ExchangeFault} (transport : fault.isOfTransport = true) (q : Question) :
    ∃ reason, explain q fault = refusal reason := by
  cases fault with
  | status code reason body => exact ⟨_, rfl⟩
  | incomplete received missing => exact ⟨_, rfl⟩
  | unavailable values => cases transport
  | plain family values =>
    unfold explain
    dsimp only
    split
    · exact ⟨_, rfl⟩
    · split
      · exact ⟨_, rfl⟩
      · rename_i other
        cases family with
        | timeout | system | connectionReset | disconnected => exact absurd rfl other
        | unreachable | protocol | statusLine | badAddress | value | overflow => exact ⟨_, rfl⟩
        | runtime | depth | missingKey | wrongType | exhausted | other name => cases transport

/-- Whether questions can be requested at the address of an endpoint. -/
def IsRequestable (r : Runner) : Prop := ∃ url, Url.requested (r.baseUrl ++ "/api/generate") = .ok url

section

variable {r : Runner} {s : Session} {q : Question}

theorem reply_of_unrequestable (asksEndpoint : r.rehearsed = false) (same : q.baseUrl = r.baseUrl)
    (none : ¬ r.IsRequestable) : ∃ reason, r.reply s 0 q = .error (badAddress q reason) := by
  cases requested : Url.requested (q.baseUrl ++ "/api/generate") with
  | ok url => exact absurd ⟨url, same ▸ requested⟩ none
  | error fault =>
    have unsent : questionRequest q = .error fault := by
      rw [questionRequest, generateAddress, requested]
      rfl
    exact ⟨fault.message, by rw [reply, if_neg (by simp [asksEndpoint]), unsent]⟩

/-- A question at an address that can be requested gets what is made of the next outcome. -/
theorem reply_of_requestable (asksEndpoint : r.rehearsed = false) (same : q.baseUrl = r.baseUrl)
    (requestable : r.IsRequestable) :
    r.reply s 0 q = match nextOutcome s with
      | .error fault => .error (explain q fault)
      | .ok body => readAnswer body := by
  obtain ⟨url, requested⟩ := requestable
  rw [reply, if_neg (by simp [asksEndpoint]), questionRequest_eq (same ▸ requested)]
  rfl

end

/-- A runner for the endpoint that a local model has where nothing else is said. -/
def standard : Runner :=
  { model := "m", baseUrl := "http://localhost:11434", probeTimeout := standardProbeTimeout, rehearsed := false }

/-- A process whose first question is answered with these bytes. -/
def answering (body : Bytes) : Session :=
  { Session.new { entries := [] } [] with endpoint := { outcomes := [.ok body], sent := [] } }

theorem standard_isRequestable : standard.IsRequestable := ⟨"http://localhost:11434/api/generate", by decide +kernel⟩

/-- An object with two responses. -/
def twice : Text := "\x7b\"response\": 1, \"response\": \"\\u00a0caf\\u00e9\\n\"\x7d"

end Runner
end ReferencePages
