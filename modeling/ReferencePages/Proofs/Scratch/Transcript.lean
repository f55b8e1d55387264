import ReferencePages.Proofs.Scratch.Files
import ReferencePages.Proofs.Summarizer.Sequence
/-!
Transcripts of calls in a row. Models with labels of their own share one scratch directory. The name of a
file in it says under which label the call was made, which one under that label it was, and which side of the
exchange the file holds, so that no call takes the file of another.
-/

namespace ReferencePages

open FileTree (takes)
open Scratch (Filled Ready Serves contentsOf nextPath)

namespace ModelSummarizer

/-- The name of a transcript tells the label, the number and the side, whatever the label is. -/
theorem transcriptName_inj {m m' : ModelSummarizer} {k k' : Nat} {side side' : Text} (plain : '-' ∉ side)
    (plain' : '-' ∉ side') (same : m.transcriptName k side = m'.transcriptName k' side') :
    m.label = m'.label ∧ k = k' ∧ side = side' := by
  have parted (m : ModelSummarizer) (k : Nat) (side : Text) :
      m.transcriptName k side = ((m.label ++ '-' :: Text.ofNat k) ++ '-' :: side) ++ ".json" := by
    unfold transcriptName
    simp [List.append_assoc]
  have digits (k : Nat) : '-' ∉ Text.ofNat k := Text.not_mem_ofNat (by decide) k
  rw [parted, parted] at same
  obtain ⟨front, sides⟩ := Text.append_cons_inj plain plain' (List.append_cancel_right same)
  obtain ⟨labels, numbers⟩ := Text.append_cons_inj (digits k) (digits k') front
  exact ⟨labels, Text.ofNat_injective numbers, sides⟩

/-- A model asks its runner and gets the first of the replies to come. -/
theorem asks (m : ModelSummarizer) (request : SummaryRequest) (s : Session) :
    ∃ endpoint rehearsal, (m.runner.ask request.prompt (some m.timeout)).outcome s =
      (.ok (m.reply s 0 request), { s with endpoint, rehearsal }) := by
  obtain ⟨endpoint, rehearsal, put, _⟩ := m.runner.ask_outcome request.prompt (some m.timeout) s
  exact ⟨endpoint, rehearsal, put⟩

end ModelSummarizer

/-! ### Calls in a row -/

/-- A call of a model for a summary. -/
structure Call where
  model : ModelSummarizer
  request : SummaryRequest
  deriving DecidableEq, Repr

namespace Call

/-- A call that keeps its transcript under a label that can stand in a file name: one without slashes and
without null characters. -/
structure IsPlain (call : Call) : Prop where
  transcribes : call.model.transcribes = true
  noSlash : '/' ∉ call.model.label
  noNull : '\x00' ∉ call.model.label

/-- What a call comes to in a state. -/
def outcome (call : Call) (s : Session) : Except Failure (Except Text Summary) × Session :=
  (call.model.summarize call.request).outcome s

/-- The state after calls that are made one after the other. -/
def after (calls : List Call) (s : Session) : Session := calls.foldl (fun s call => (call.outcome s).2) s

/-- The number of a call among those with its label, counted from one, where others have come before it. -/
def number (earlier : List Call) (call : Call) : Nat :=
  earlier.countP (·.model.label = call.model.label) + 1

/-- The name of the file with the request of a call. -/
def requestName (earlier : List Call) (call : Call) : Text :=
  call.model.transcriptName (number earlier call) "request"

/-- The name of the file with what came of the request. -/
def responseName (earlier : List Call) (call : Call) : Text :=
  call.model.transcriptName (number earlier call) "response"

/-- What is kept of a request: the model, what it is about, and the prompt. -/
def asked (call : Call) : Json :=
  .object [("model", .string call.model.runner.model), ("subject", .string call.request.subject),
    ("prompt", .string call.request.prompt)]

/-- What is kept of a reply: the answer as it came, or else the fault. -/
def replied : Except ExchangeFault Text → Json
  | .ok answer => .object [("response", .string answer)]
  | .error fault => .object [("error", .string (ModelSummarizer.transcribed fault))]

/-- The files that a call writes after others, over a state in which the first of them is made: its request,
and the reply that its runner gives it. A name that the system does not take ends the call. -/
inductive Writes (s : Session) (earlier : List Call) (call : Call) : Text → Json → Prop
  | request (taken : takes (nextPath s) (requestName earlier call) = true) :
    Writes s earlier call (requestName earlier call) call.asked
  | response {reply : Except ExchangeFault Text}
    (before : takes (nextPath s) (requestName earlier call) = true)
    (taken : takes (nextPath s) (responseName earlier call) = true)
    (given : ((call.model.runner.ask call.request.prompt (some call.model.timeout)).outcome
      (after earlier s)).1 = .ok reply) :
    Writes s earlier call (responseName earlier call) (replied reply)

/-- The files that calls have written. -/
def Written (s : Session) (calls : List Call) (name : Text) (contents : Bytes) : Prop :=
  ∃ earlier call later value, calls = earlier ++ call :: later ∧ Writes s earlier call name value ∧
    contents = contentsOf value

section Step

variable {s t : Session} {place : Place} {calls : List Call} {call : Call}

/-- The state after calls, as far as the scratch directory goes: it holds what they have written, and the numbers
go on behind them. -/
structure Progress (s : Session) (place : Place) (calls : List Call) (t : Session) : Prop where
  serves : Serves s place (Written s calls) t
  counted : ∀ label : Text,
    (t.scratch.counters.get? label).getD 0 = calls.countP (·.model.label = label)

theorem written_concat {name : Text} {contents : Bytes} : Written s (calls ++ [call]) name contents ↔
    Written s calls name contents ∨ ∃ value, Writes s calls call name value ∧ contents = contentsOf value := by
  constructor
  · rintro ⟨earlier, other, later, value, split, writes, rfl⟩
    rcases List.eq_nil_or_concat later with rfl | ⟨later, last, rfl⟩
    · obtain ⟨rfl, rfl⟩ := List.append_inj' split rfl |>.imp_right List.singleton_inj.mp
      exact .inr ⟨value, writes, rfl⟩
    · have parted : calls ++ [call] = (earlier ++ other :: later) ++ [last] := by
        rw [split, List.concat_eq_append, List.append_assoc]
        rfl
      exact .inl ⟨earlier, other, later, value, List.append_inj_left' parted rfl, writes, rfl⟩
  · rintro (⟨earlier, other, later, value, rfl, written⟩ | ⟨value, written⟩)
    · exact ⟨earlier, other, later ++ [call], value, by simp, written⟩
    · exact ⟨calls, call, [], value, rfl, written⟩

/-- A call has a higher number than those with its label before it. -/
theorem number_lt {earlier between : List Call} {other : Call} (label : other.model.label = call.model.label) :
    number earlier other < number (earlier ++ other :: between) call := by
  unfold number
  rw [label, List.countP_append, List.countP_cons_of_pos (by simpa using label)]
  omega

theorem name_of_writes {earlier : List Call} {name : Text} {value : Json}
    (writes : Writes s earlier call name value) :
    ∃ side : Text, '-' ∉ side ∧ name = call.model.transcriptName (number earlier call) side := by
  cases writes with
  | request _ => exact ⟨"request", by decide, rfl⟩
  | response _ _ _ => exact ⟨"response", by decide, rfl⟩

theorem writes_cases {earlier : List Call} {name : Text} {value : Json}
    (writes : Writes s earlier call name value) :
    (name = requestName earlier call ∧ value = call.asked) ∨
      (name = responseName earlier call ∧ ∃ reply,
        ((call.model.runner.ask call.request.prompt (some call.model.timeout)).outcome
          (after earlier s)).1 = .ok reply ∧ value = replied reply) := by
  cases writes with
  | request _ => exact .inl ⟨rfl, rfl⟩
  | response _ _ given => exact .inr ⟨rfl, _, given, rfl⟩

theorem responseName_ne (earlier : List Call) (call : Call) :
    responseName earlier call ≠ requestName earlier call := by
  intro same
  have sides := (ModelSummarizer.transcriptName_inj (by decide) (by decide) same).2.2
  exact absurd sides (by decide)

/-- Nothing has been written under a name that a later call uses. -/
theorem not_written {side : Text} (plain : '-' ∉ side) (contents : Bytes) :
    ¬ Written s calls (call.model.transcriptName (number calls call) side) contents := by
  rintro ⟨earlier, other, later, value, rfl, writes, _⟩
  obtain ⟨side', plain', named⟩ := name_of_writes writes
  obtain ⟨label, numbers, _⟩ := ModelSummarizer.transcriptName_inj plain plain' named
  exact absurd numbers.symm (Nat.ne_of_lt (number_lt label.symm))

/-- The number of a label that has been counted up goes up by one, and that of no other. -/
theorem counted_concat {counters : Dictionary Nat}
    (counted : ∀ label : Text, (counters.get? label).getD 0 = calls.countP (·.model.label = label))
    (label : Text) : ((counters.set call.model.label (number calls call)).get? label).getD 0 =
      (calls ++ [call]).countP (·.model.label = label) := by
  rw [List.countP_append, List.countP_singleton]
  by_cases same : label = call.model.label
  · subst same
    rw [Dictionary.get?_set_self]
    simp [number]
  · rw [Dictionary.get?_set_of_ne same, counted label]
    simp [Ne.symm same]

/-- The request is written first, under the next number of the label. -/
theorem recordRequest_outcome (ready : Ready s place) (plain : call.IsPlain)
    (progress : Progress s place calls t) :
    ∃ u, (call.model.recordRequest call.request).outcome t =
        (if takes (nextPath s) (requestName calls call) then .ok (some (number calls call))
          else .error (Scratch.tooLong ((nextPath s).child (requestName calls call))), u) ∧
      u.scratch.counters = t.scratch.counters.set call.model.label (number calls call) ∧
      Filled s place (fun name contents => Written s calls name contents ∨
        (takes (nextPath s) (requestName calls call) = true ∧ name = requestName calls call ∧
          contents = contentsOf call.asked)) u := by
  have isName : IsName (requestName calls call) :=
    (ModelSummarizer.transcriptName_isName plain.noSlash (number calls call) "request" (by decide)).1
  obtain ⟨u, written, counters, filled⟩ := (progress.serves.numbered
    (t.scratch.counters.set call.model.label (number calls call))).writeJson ready isName
      (not_written (by decide)) call.asked
  have counted : (Scratch.nextIndex call.model.label).outcome t = (.ok (number calls call),
      Scratch.numbered t (t.scratch.counters.set call.model.label (number calls call))) := by
    rw [number, ← progress.counted]
    rfl
  have recorded : (call.model.recordRequest call.request).outcome t =
      (Scratch.writeJson (requestName calls call) call.asked >>=
        fun _ => pure (some (number calls call))).outcome
          (Scratch.numbered t (t.scratch.counters.set call.model.label (number calls call))) := by
    unfold ModelSummarizer.recordRequest
    rw [plain.transcribes, Bool.not_true, if_neg Bool.false_ne_true, Program.outcome_bind_ok counted]
    rfl
  refine ⟨u, ?_, counters, filled⟩
  rw [recorded, Program.outcome_bind, written]
  cases takes (nextPath s) (requestName calls call) <;> rfl

/-- What came of the request is written next, under the same number. -/
theorem recordReply_outcome (ready : Ready s place) (plain : call.IsPlain) {held : Text → Bytes → Prop}
    (filled : Filled s place held t) (fresh : ∀ contents, ¬ held (responseName calls call) contents)
    (reply : Except ExchangeFault Text) :
    ∃ u, (call.model.recordReply (some (number calls call)) reply).outcome t =
        (if takes (nextPath s) (responseName calls call) then .ok ()
          else .error (Scratch.tooLong ((nextPath s).child (responseName calls call))), u) ∧
      u.scratch.counters = t.scratch.counters ∧
      Filled s place (fun name contents => held name contents ∨
        (takes (nextPath s) (responseName calls call) = true ∧ name = responseName calls call ∧
          contents = contentsOf (replied reply))) u := by
  have isName : IsName (responseName calls call) :=
    (ModelSummarizer.transcriptName_isName plain.noSlash (number calls call) "response" (by decide)).1
  have serves : Serves s place held t := .inr filled
  obtain ⟨u, written, counters, added⟩ := serves.writeJson ready isName fresh (replied reply)
  refine ⟨u, ?_, counters, added⟩
  have recorded : (call.model.recordReply (some (number calls call)) reply).outcome t =
      ((Scratch.writeJson (responseName calls call) (replied reply)) >>= fun _ => pure ()).outcome t := by
    cases reply <;> rfl
  rw [recorded, Program.outcome_bind, written]
  cases takes (nextPath s) (responseName calls call) <;> rfl

theorem after_concat (calls : List Call) (call : Call) (s : Session) :
    after (calls ++ [call]) s = (call.outcome (after calls s)).2 := by
  rw [after, List.foldl_append]
  rfl

/-- The files that a call adds, where this is the reply to it. -/
theorem written_concat_iff {reply : Except ExchangeFault Text}
    (given : ((call.model.runner.ask call.request.prompt (some call.model.timeout)).outcome
      (after calls s)).1 = .ok reply) (name : Text) (contents : Bytes) :
    Written s (calls ++ [call]) name contents ↔
      (Written s calls name contents ∨ (takes (nextPath s) (requestName calls call) = true ∧
        name = requestName calls call ∧ contents = contentsOf call.asked)) ∨
      (takes (nextPath s) (requestName calls call) = true ∧
        takes (nextPath s) (responseName calls call) = true ∧
        name = responseName calls call ∧ contents = contentsOf (replied reply)) := by
  rw [written_concat]
  constructor
  · rintro (before | ⟨value, writes, rfl⟩)
    · exact .inl (.inl before)
    · cases writes with
      | request taken => exact .inl (.inr ⟨taken, rfl, rfl⟩)
      | response before taken given' =>
        cases given.symm.trans given'
        exact .inr ⟨before, taken, rfl, rfl⟩
  · rintro ((before | ⟨taken, rfl, rfl⟩) | ⟨before, taken, rfl, rfl⟩)
    · exact .inl before
    · exact .inr ⟨_, .request taken, rfl⟩
    · exact .inr ⟨_, .response before taken given, rfl⟩

/-- Whether the system takes the names of both files of a call. -/
def fits (s : Session) (earlier : List Call) (call : Call) : Bool :=
  takes (nextPath s) (requestName earlier call) && takes (nextPath s) (responseName earlier call)

/-- A call adds both sides of its exchange, and fails where a name is too long. -/
theorem outcome_step (ready : Ready s place) (plain : call.IsPlain)
    (progress : Progress s place calls (after calls s)) :
    Filled s place (Written s (calls ++ [call])) (after (calls ++ [call]) s) ∧
      (∀ label : Text, ((after (calls ++ [call]) s).scratch.counters.get? label).getD 0 =
        (calls ++ [call]).countP (·.model.label = label)) ∧
      (call.outcome (after calls s)).1.isOk = fits s calls call := by
  obtain ⟨u, requested, counters, filled⟩ := recordRequest_outcome ready plain progress
  have same := (call.model.recordRequest_exchanges call.request).reached requested
  obtain ⟨endpoint, rehearsal, put⟩ := call.model.asks call.request u
  have given : ((call.model.runner.ask call.request.prompt (some call.model.timeout)).outcome
      (after calls s)).1 = .ok (call.model.reply u 0 call.request) := by
    obtain ⟨_, _, put'⟩ := call.model.asks call.request (after calls s)
    rw [put']
    exact congrArg Except.ok (Runner.reply_congr _ _ _ same.1 same.2).symm
  have files := written_concat_iff given
  have counted {v : Session}
      (kept : v.scratch.counters = (after calls s).scratch.counters.set call.model.label (number calls call))
      (label : Text) : (v.scratch.counters.get? label).getD 0 =
        (calls ++ [call]).countP (·.model.label = label) := by
    rw [kept]
    exact counted_concat progress.counted label
  rw [after_concat]
  unfold outcome ModelSummarizer.summarize
  rw [Program.outcome_bind, requested]
  cases taken : takes (nextPath s) (requestName calls call) with
  | false =>
    refine ⟨filled.congr fun name contents => ?_, counted counters, by rw [fits, taken]; rfl⟩
    rw [files]
    simp [taken]
  | true =>
    have fresh (contents : Bytes) : ¬ (Written s calls (responseName calls call) contents ∨
        (takes (nextPath s) (requestName calls call) = true ∧
          responseName calls call = requestName calls call ∧ contents = contentsOf call.asked)) := by
      rintro (before | ⟨_, same, _⟩)
      · exact not_written (by decide) contents before
      · exact responseName_ne calls call same
    obtain ⟨v, recorded, counters', added⟩ := recordReply_outcome ready plain
      (filled.exchange endpoint rehearsal) fresh (call.model.reply u 0 call.request)
    rw [if_pos rfl]
    dsimp only
    rw [Program.outcome_bind_ok put, Program.outcome_bind, recorded]
    have holds : Filled s place (Written s (calls ++ [call])) v := by
      refine added.congr fun name contents => ?_
      rw [files]
      simp [taken]
    rw [fits, taken]
    cases takes (nextPath s) (responseName calls call) <;>
      exact ⟨holds, counted (counters'.trans counters), rfl⟩

theorem progress (ready : Ready s place) {calls : List Call} (plain : ∀ call ∈ calls, call.IsPlain) :
    Progress s place calls (after calls s) := by
  induction calls using List.reverseRecOn with
  | nil =>
    refine ⟨.inl ⟨s.scratch.counters, rfl, ?_⟩, fun label => ?_⟩
    · rintro name contents ⟨earlier, call, later, value, split, _⟩
      simp at split
    · rw [after, List.foldl_nil, ready.unnumbered]
      rfl
  | append_singleton calls call ih =>
    have before := ih fun other member => plain other (List.mem_append_left _ member)
    obtain ⟨filled, counted, _⟩ := outcome_step ready (plain call (by simp)) before
    exact ⟨.inr filled, counted⟩

/-- A call writes one thing under one name. -/
theorem value_unique {earlier : List Call} {name : Text} {value value' : Json}
    (writes : Writes s earlier call name value) (writes' : Writes s earlier call name value') :
    value = value' := by
  rcases writes_cases writes with ⟨named, rfl⟩ | ⟨named, reply, given, rfl⟩ <;>
    rcases writes_cases writes' with ⟨named', rfl⟩ | ⟨named', reply', given', rfl⟩
  · rfl
  · exact absurd (named'.symm.trans named) (responseName_ne earlier call)
  · exact absurd (named.symm.trans named') (responseName_ne earlier call)
  · rw [Except.ok.inj (given.symm.trans given')]

/-- A name that is used twice is used by one call, for one side of its exchange. -/
theorem writes_unique {earlier earlier' later later' : List Call} {call call' : Call} {name : Text}
    {value value' : Json} (same : earlier ++ call :: later = earlier' ++ call' :: later')
    (writes : Writes s earlier call name value) (writes' : Writes s earlier' call' name value') :
    earlier = earlier' ∧ call = call' ∧ value = value' := by
  obtain ⟨side, plain, named⟩ := name_of_writes writes
  obtain ⟨side', plain', named'⟩ := name_of_writes writes'
  obtain ⟨label, numbers, _⟩ := ModelSummarizer.transcriptName_inj plain plain' (named.symm.trans named')
  -- of two calls at different points, the later one has the higher number
  rcases List.append_eq_append_iff.mp same with ⟨between, rfl, rest⟩ | ⟨between, rfl, rest⟩
  · cases between with
    | nil =>
      cases rest
      rw [List.append_nil] at writes' ⊢
      exact ⟨rfl, rfl, value_unique writes writes'⟩
    | cons other between =>
      cases rest
      exact absurd numbers (Nat.ne_of_lt (number_lt label))
  · cases between with
    | nil =>
      cases rest
      rw [List.append_nil] at writes ⊢
      exact ⟨rfl, rfl, value_unique writes writes'⟩
    | cons other between =>
      cases rest
      exact absurd numbers.symm (Nat.ne_of_lt (number_lt label.symm))

end Step

/-! ### The transcripts of all calls -/

/-- What calls leave in the scratch directory that the first of them makes at a place. -/
structure Transcribed (s : Session) (place : Place) (calls : List Call) : Prop where
  /-- The first call makes the directory. -/
  made : calls ≠ [] → (after calls s).scratch.path = some (nextPath s) ∧
    (after calls s).tree.locate s.directory (nextPath s) = .ok place ∧
    (after calls s).tree.lookup place = some .directory
  /-- There are the files that the calls have written, and nothing else. -/
  files : ∀ name names node, (after calls s).tree.lookup (place ++ name :: names) = some node ↔
    names = [] ∧ ∃ contents, Written s calls name contents ∧
      node = .file (FileTree.newFileMode s.mask) contents
  /-- A call whose names fit has both of its files. -/
  both : ∀ {earlier call later}, calls = earlier ++ call :: later → fits s earlier call = true →
    ∃ reply, Writes s earlier call (requestName earlier call) call.asked ∧
      Writes s earlier call (responseName earlier call) (replied reply)
  /-- No name is used twice. -/
  distinct : ∀ {earlier call later earlier' call' later' name value value'},
    calls = earlier ++ call :: later → calls = earlier' ++ call' :: later' →
      Writes s earlier call name value → Writes s earlier' call' name value' →
        earlier = earlier' ∧ call = call' ∧ value = value'
  /-- What has been written stays as it is, whatever calls follow. -/
  kept : ∀ {more : List Call}, (∀ call ∈ more, call.IsPlain) → ∀ name node,
    (after calls s).tree.lookup (place ++ [name]) = some node →
      (after (calls ++ more) s).tree.lookup (place ++ [name]) = some node
  /-- A call fails where its names do not fit, and nowhere else. -/
  outcomes : ∀ {earlier call later}, calls = earlier ++ call :: later →
    (call.outcome (after earlier s)).1.isOk = fits s earlier call

theorem files_iff {s : Session} {place : Place} {calls : List Call} (ready : Ready s place)
    (plain : ∀ call ∈ calls, call.IsPlain) (name : Text) (names : List Text) (node : Node) :
    (after calls s).tree.lookup (place ++ name :: names) = some node ↔
      names = [] ∧ ∃ contents, Written s calls name contents ∧
        node = .file (FileTree.newFileMode s.mask) contents := by
  rcases (progress ready plain).serves with ⟨counters, same, none⟩ | filled
  · have free : (after calls s).tree.lookup (place ++ name :: names) = Option.none := by
      rw [same]
      exact ready.free _
    rw [free]
    constructor
    · intro found
      cases found
    · rintro ⟨_, contents, written, _⟩
      exact absurd written (none name contents)
  · exact filled.files name names node

/-- The model that takes its answers from the rehearsal, with another label. -/
def rehearsed (label subject : Text) : Call :=
  { model := { Summarizer.rehearsedModel with label }, request := Summarizer.lineRequest subject }

/-- Calls under labels of which one is the beginning of the other. -/
def sharedCalls : List Call :=
  [rehearsed "tables" "orders", rehearsed "tables-1" "items", rehearsed "tables" "users",
    rehearsed "tables-1" "roles"]

def sharedPlace : Place := ["tmp", "refgen-00000000"]

theorem ready_rehearsed : Ready Summarizer.rehearsedSession sharedPlace where
  sound := by decide +kernel
  unmade := rfl
  unnumbered := rfl
  room := by rfl
  logs := by
    rintro file ⟨⟩

example : ((after sharedCalls Summarizer.rehearsedSession).tree.children sharedPlace).map Prod.fst =
    (["tables-1-request.json", "tables-1-response.json", "tables-1-1-request.json",
      "tables-1-1-response.json", "tables-2-request.json", "tables-2-response.json",
      "tables-1-2-request.json", "tables-1-2-response.json"] : List Text) := by decide +kernel

/-- A label that leaves no room in a file name for the rest of it. -/
def longCall : Call := rehearsed (List.replicate 300 'x') "orders"

end Call
end ReferencePages
