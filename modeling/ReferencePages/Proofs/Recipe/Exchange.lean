import ReferencePages.Proofs.Summarizer.Exchange
import ReferencePages.Proofs.Summarizer.Footprint
import ReferencePages.Proofs.Recipe.Reads
import Mathlib.Data.List.Forall2
/-!
The conversation about the things of one page. The endpoint is asked for a sign of life, and if it gives
one, it is asked about each thing in turn.
-/

namespace ReferencePages

open Program (Reads SameExchanges Steady)

/-- Reading sends nothing and leaves nothing but entries in the log. -/
theorem Program.Reads.quiet {α : Type} {sources : Path → Prop} {p : Program α} (reads : Reads sources p)
    {s t : Session} {result : Except Failure α} (run : p.outcome s = (result, t)) :
    SameExchanges s t ∧ Footprint s t :=
  ⟨(reads.moves SameExchanges.record).reached run, (reads.moves Footprint.record).reached run⟩

/-! ### Things in a row -/

namespace Recipe

variable {ι β : Type} {sources : Path → Prop}

/-- A request is about a thing: it carries the prompt that is made of it in a state of the run. -/
def Round.Asks (r : Round ι β) (s : Session) (x : ι) (request : SummaryRequest) : Prop :=
  ∃ u prompt, Footprint s u ∧ ((r.prompt x).outcome u).1 = .ok prompt ∧ request = r.request x prompt

/-- A round breaks off since there is no prompt for one of the things, or since a transcript cannot be
written. -/
def Round.Breaks (r : Round ι β) (s : Session) (xs : List ι) (failure : Failure) : Prop :=
  (∃ x ∈ xs, ∃ u, Footprint s u ∧ ((r.prompt x).outcome u).1 = .error failure) ∨ failure.IsOfFile

theorem Round.Asks.earlier {r : Round ι β} {s t : Session} {x : ι} {request : SummaryRequest}
    (footprint : Footprint s t) (asks : r.Asks t x request) : r.Asks s x request := by
  obtain ⟨u, prompt, later, made, requestEq⟩ := asks
  exact ⟨u, prompt, Steady.trans footprint later, made, requestEq⟩

theorem Round.Breaks.earlier {r : Round ι β} {s t : Session} {xs more : List ι} {failure : Failure}
    (footprint : Footprint s t) (within : xs ⊆ more) (breaks : r.Breaks t xs failure) :
    r.Breaks s more failure := by
  rcases breaks with ⟨x, member, u, later, unmade⟩ | file
  · exact .inl ⟨x, within member, u, Steady.trans footprint later, unmade⟩
  · exact .inr file

variable {r : Round ι β} {kind : PageKind} {total : Nat} {generate : Text}

/-- Up to the request about a thing, a round only reads. -/
theorem prompt_reads (reads : ∀ x, Reads sources (r.prompt x)) (z : Summarizer) (index : Nat) (x : ι) :
    Reads sources (do logProgress z kind index total (r.message x); r.prompt x) :=
  .bind (logProgress_reads z kind index total _) fun _ => reads x

/-- A round over at least one thing: its prompt is made, it is summarized, and the others follow. -/
theorem summarizeEach_cons (x : ι) (xs : List ι) (index : Nat) (z : Summarizer) :
    summarizeEach kind total r (x :: xs) index z =
      (do logProgress z kind index total (r.message x); r.prompt x) >>= fun prompt =>
        z.summarize (r.request x prompt) >>= fun (answer, z') =>
          summarizeEach kind total r xs (index + 1) z' >>= fun (results, z'') =>
            pure (r.result x answer.text :: results, z'') := by
  rw [summarizeEach, bind_assoc]

theorem prompt_reached {z : Summarizer} {index : Nat} {x : ι} {s u : Session} {result : Except Failure Text}
    (run : (do logProgress z kind index total (r.message x); r.prompt x : Program Text).outcome s =
      (result, u)) : ∃ v, Footprint s v ∧ (r.prompt x).outcome v = (result, u) := by
  by_cases assisted : z.mode = .ai
  · rw [logProgress, if_pos assisted] at run
    exact ⟨_, Footprint.record _ _ _ _, run⟩
  · rw [logProgress, if_neg assisted] at run
    exact ⟨s, Steady.refl s, run⟩

/-- What the request after the next is answered is the second of the answers to come. -/
theorem summaries_cons {z : Summarizer} (reaches : z.Reaches generate) {request : SummaryRequest}
    {s t : Session} (sends : Sends (z.posts generate request) s t) (requests : List SummaryRequest) :
    (request :: requests).mapIdx (z.summary s) = z.summary s 0 request :: requests.mapIdx (z.summary t) := by
  have single : Sends ([request].flatMap (z.posts generate)) s t := by rwa [List.flatMap_singleton]
  have moved : (fun i => z.summary s (i + 1)) = z.summary t := by
    funext number other
    rw [Summarizer.summary_of_sends reaches single number other, List.length_singleton, Nat.add_comm]
  rw [List.mapIdx_cons, moved]

/-- A round that is through has made one request about each thing and has sent each of them once. -/
theorem summarizeEach_eq_ok (reads : ∀ x, Reads sources (r.prompt x)) {z : Summarizer}
    (reaches : z.Reaches generate) (label : z.HasPlainLabel) {xs : List ι} {index : Nat} {s t : Session}
    {results : List β} {after : Summarizer}
    (run : (summarizeEach kind total r xs index z).outcome s = (.ok (results, after), t)) :
    ∃ requests, List.Forall₂ (r.Asks s) xs requests ∧ Sends (requests.flatMap (z.posts generate)) s t ∧
      results = List.zipWith (fun x summary => r.result x summary.text) xs (requests.mapIdx (z.summary s)) ∧
      after = z.counting (requests.mapIdx (z.summary s)) := by
  -- Things come one by one. What is left of the script after the first belongs to the rest, which starts in
  -- the session and with the counter that the first has left.
  induction xs generalizing index z s results with
  | nil =>
    cases run
    exact ⟨[], .nil, .of_same (Steady.refl _), rfl, (Summarizer.counting_nil _).symm⟩
  | cons x xs ih =>
    rw [summarizeEach_cons] at run
    obtain ⟨prompt, u, prompted, run₁⟩ := Program.outcome_bind_eq_ok run
    obtain ⟨⟨answer, z'⟩, v, asked, run₂⟩ := Program.outcome_bind_eq_ok run₁
    obtain ⟨⟨rest, z''⟩, y, later, last⟩ := Program.outcome_bind_eq_ok run₂
    cases last
    obtain ⟨same, print⟩ := (prompt_reads reads z index x).quiet prompted
    have printLater : Footprint u v := (Summarizer.summarize_moves label _).reached asked
    obtain ⟨sends, answerEq, rfl⟩ := Summarizer.summarize_eq_ok reaches asked
    obtain ⟨requests, asks, sendsLater, resultsEq, counted⟩ :=
      ih (z := z.counting [answer]) reaches label later
    have sendsHere := sends.before same
    have summaries := summaries_cons reaches sendsHere requests
    have first : answer = z.summary s 0 (r.request x prompt) := by
      have unsent : Sends ([].flatMap (z.posts generate)) s u := .of_same same
      rw [answerEq]
      exact Summarizer.summary_of_sends reaches unsent 0 _
    refine ⟨r.request x prompt :: requests, .cons ?_ ?_, ?_, ?_, ?_⟩
    · obtain ⟨before, printBefore, made⟩ := prompt_reached prompted
      exact ⟨before, prompt, printBefore, by rw [made], rfl⟩
    · exact asks.imp fun other request asked => asked.earlier (Steady.trans print printLater)
    · rw [List.flatMap_cons]
      exact sendsHere.trans sendsLater
    · rw [summaries, List.zipWith_cons_cons, ← first, resultsEq]
      rfl
    · rw [summaries, counted, Summarizer.counting_append, ← first]
      rfl

/-- A round that breaks off has made requests about the first things and has sent each of them once. -/
theorem summarizeEach_eq_error (reads : ∀ x, Reads sources (r.prompt x)) {z : Summarizer}
    (reaches : z.Reaches generate) (label : z.HasPlainLabel) {xs : List ι} {index : Nat} {s t : Session}
    {failure : Failure} (run : (summarizeEach kind total r xs index z).outcome s = (.error failure, t)) :
    ∃ k requests, List.Forall₂ (r.Asks s) (xs.take k) requests ∧
      Sends (requests.flatMap (z.posts generate)) s t ∧ r.Breaks s xs failure := by
  induction xs generalizing index z s with
  | nil => cases run
  | cons x xs ih =>
    rw [summarizeEach_cons] at run
    have reading : Reads sources (do logProgress z kind index total (r.message x); r.prompt x) :=
      prompt_reads reads z index x
    -- The round stops at the prompt of the first thing, at its request, or at a later thing.
    rcases Program.outcome_bind_eq_error run with unmade | ⟨prompt, u, prompted, run₁⟩
    · obtain ⟨same, -⟩ := reading.quiet unmade
      obtain ⟨before, printBefore, failed⟩ := prompt_reached unmade
      exact ⟨0, [], .nil, .of_same same,
        .inl ⟨x, List.mem_cons_self .., before, printBefore, by rw [failed]⟩⟩
    · obtain ⟨same, print⟩ := reading.quiet prompted
      have asksHere : r.Asks s x (r.request x prompt) := by
        obtain ⟨before, printBefore, made⟩ := prompt_reached prompted
        exact ⟨before, prompt, printBefore, by rw [made], rfl⟩
      rcases Program.outcome_bind_eq_error run₁ with failed | ⟨⟨answer, z'⟩, v, asked, run₂⟩
      · obtain ⟨file, unsent | sends⟩ := Summarizer.summarize_eq_error reaches failed
        · exact ⟨0, [], .nil, unsent.before same, .inr file⟩
        · refine ⟨1, [r.request x prompt], .cons asksHere .nil, ?_, .inr file⟩
          rw [List.flatMap_singleton]
          exact sends.before same
      · have printLater : Footprint u v := (Summarizer.summarize_moves label _).reached asked
        obtain ⟨sends, _, rfl⟩ := Summarizer.summarize_eq_ok reaches asked
        rcases Program.outcome_bind_eq_error run₂ with failed | ⟨_, _, _, last⟩
        · obtain ⟨k, requests, asks, sendsLater, breaks⟩ := ih (z := z.counting [answer]) reaches label failed
          have sofar : Footprint s v := Steady.trans print printLater
          refine ⟨k + 1, r.request x prompt :: requests, .cons asksHere ?_, ?_,
            breaks.earlier sofar (List.subset_cons_self ..)⟩
          · exact asks.imp fun other request asked => asked.earlier sofar
          · rw [List.flatMap_cons]
            exact (sends.before same).trans sendsLater
        · cases last

end Recipe

/-! ### The sign of life -/

namespace Workshop

/-- The address of the settings as the runner uses it. -/
def address (w : Workshop) : Text := Text.trimEndWhile (· == '/') w.config.endpoint.baseUrl

/-- The model is wanted, no runner takes the place of one made from the settings, and their address is one
that can be requested. It names the local machine or no machine at all. -/
structure IsLocal (w : Workshop) : Prop where
  unskipped : w.config.endpoint.skip = false
  noRunner : w.runner = none
  host : ∃ host?, Url.host? w.address = .ok host? ∧ ∀ host ∈ host?, Url.isLocalHost host = true
  accepted : (Url.requested (w.address ++ "/api/tags")).isOk = true

/-- The model of the settings, and how it is asked for a kind of page. -/
def model (w : Workshop) (kind : PageKind) : ModelSummarizer where
  runner :=
    { model := w.config.endpoint.model, baseUrl := w.address, probeTimeout := w.config.endpoint.probeTimeout
      rehearsed := false }
  timeout := (w.config.endpoint.requestTimeout.filter Binary64.isNonzero).getD kind.requestTimeout
  label := kind.name
  transcribes := true

/-- The summarizer of one page: the model of the settings, if there is a sign of life. -/
def summarizer (w : Workshop) (kind : PageKind) (s : Session) : Summarizer :=
  if (Runner.nextOutcome s).isOk then Summarizer.around (w.model kind) 0 else Summarizer.deterministic

variable {w : Workshop} {kind : PageKind} {generate : Text}

theorem summarizer_reaches (requested : Url.requested (w.address ++ "/api/generate") = .ok generate)
    (kind : PageKind) (s : Session) : (w.summarizer kind s).Reaches generate := by
  intro m model
  unfold summarizer at model
  split at model
  · cases model
    exact ⟨rfl, requested⟩
  · cases model

theorem summarizer_label (w : Workshop) (kind : PageKind) (s : Session) :
    (w.summarizer kind s).HasPlainLabel := by
  intro m model
  unfold summarizer at model
  split at model
  · cases model
    exact kind.slash_not_mem_name
  · cases model

theorem new_runner (isLocal : w.IsLocal) (kind : PageKind) :
    Runner.new w.config.endpoint.model w.config.endpoint.baseUrl w.config.endpoint.probeTimeout =
      .ok (w.model kind).runner := by
  obtain ⟨host?, named, localHost⟩ := isLocal.host
  have kept : Runner.localUrl w.config.endpoint.baseUrl = .ok w.address := by
    unfold Runner.localUrl
    rw [address] at named ⊢
    dsimp only
    rw [named]
    cases host? with
    | none => rfl
    | some host => exact if_pos (localHost host rfl)
  rw [Runner.new, kept]
  rfl

end Workshop

namespace Recipe

variable {w : Workshop} {kind : PageKind} {tags : Text} {s : Session}

theorem startSummarizer_sends (kind : PageKind) (isLocal : w.IsLocal)
    (requested : Url.requested (w.address ++ "/api/tags") = .ok tags)
    (transport : ∀ fault, Runner.nextOutcome s = .error fault → fault.isOfTransport = true) :
    ∃ t, (startSummarizer w kind).outcome s = (.ok (w.summarizer kind s), t) ∧
      Sends [(w.model kind).runner.probeTo tags] s t := by
  obtain ⟨t, probed, sends⟩ :=
    Runner.probe_sends (r := (w.model kind).runner) rfl requested transport
  have runner : (Summarizer.runnerFor w.config.endpoint
      { timeout := kind.requestTimeout, label := kind.name, transcribes := true, runner := w.runner }).outcome s =
        (.ok (some (w.model kind).runner), s) := by
    unfold Summarizer.runnerFor Summarizer.runnerOf
    rw [isLocal.noRunner]
    dsimp only
    rw [Workshop.new_runner isLocal kind]
    rfl
  have unskipped : ¬ w.config.endpoint.skip = true := by simp [isLocal.unskipped]
  unfold startSummarizer Summarizer.build
  rw [if_neg unskipped, Program.outcome_bind_ok runner]
  dsimp only
  rw [Program.outcome_bind_ok probed]
  cases answers : (Runner.nextOutcome s).isOk with
  | true =>
    rw [if_pos rfl, Program.outcome_bind, Program.outcome_log, Workshop.summarizer, if_pos answers]
    exact ⟨_, rfl, sends.after (SameExchanges.record t _ _ _)⟩
  | false =>
    rw [if_neg Bool.false_ne_true, Program.outcome_bind, Program.outcome_log, Workshop.summarizer,
      if_neg (by simp [answers])]
    exact ⟨_, rfl, sends.after (SameExchanges.record t _ _ _)⟩

/-! ### The whole conversation -/

variable {ι β : Type} {sources : Path → Prop} {r : Round ι β} {generate : Text} {xs : List ι}
  {draft : List β → Summarizer → Draft} {t : Session}

/-- The part of a recipe that needs a summarizer: it is chosen, and things are summarized by it. -/
def cover (w : Workshop) (kind : PageKind) (r : Round ι β) (xs : List ι)
    (draft : List β → Summarizer → Draft) : Program Draft := do
  let z ← startSummarizer w kind
  let (results, z) ← summarizeEach kind xs.length r xs 1 z
  return draft results z

/-- The requests for the things of a page: one for a sign of life, and then those of the summarizer. -/
def conversation (w : Workshop) (kind : PageKind) (tags generate : Text) (s : Session)
    (requests : List SummaryRequest) : List SentRequest :=
  (w.model kind).runner.probeTo tags :: requests.flatMap ((w.summarizer kind s).posts generate)

/-- The summaries of requests after the sign of life. -/
def summaries (w : Workshop) (kind : PageKind) (s : Session) (requests : List SummaryRequest) :
    List Summary :=
  requests.mapIdx fun number => (w.summarizer kind s).summary s (number + 1)

theorem summaries_eq {probe : SentRequest} {requests : List SummaryRequest}
    (reaches : (w.summarizer kind s).Reaches generate) (sends : Sends [probe] s t) :
    requests.mapIdx ((w.summarizer kind s).summary t) = summaries w kind s requests := by
  refine congrArg (requests.mapIdx ·) (funext fun number => funext fun request => ?_)
  unfold Summarizer.summary
  cases model : (w.summarizer kind s).model? with
  | none => rfl
  | some m =>
    dsimp only
    rw [ModelSummarizer.reply_of_sends (reaches m model) sends, List.length_singleton, Nat.add_comm]

variable (isLocal : w.IsLocal) (tagsAt : Url.requested (w.address ++ "/api/tags") = .ok tags)
  (generateAt : Url.requested (w.address ++ "/api/generate") = .ok generate)
  (transport : ∀ fault, Runner.nextOutcome s = .error fault → fault.isOfTransport = true)
  (reads : ∀ x, Reads sources (r.prompt x))

include isLocal tagsAt generateAt transport reads

theorem cover_eq_ok {d : Draft} (run : (cover w kind r xs draft).outcome s = (.ok d, t)) :
    ∃ requests, List.Forall₂ (r.Asks s) xs requests ∧
      Sends (conversation w kind tags generate s requests) s t ∧
      d = draft (List.zipWith (fun x summary => r.result x summary.text) xs (summaries w kind s requests))
        ((w.summarizer kind s).counting (summaries w kind s requests)) := by
  obtain ⟨u, started, probed⟩ := startSummarizer_sends kind isLocal tagsAt transport
  have print : Footprint s u := (Summarizer.build_moves _ _).reached started
  have reaches := Workshop.summarizer_reaches generateAt kind s
  rw [cover, Program.outcome_bind_ok started] at run
  obtain ⟨⟨results, after⟩, v, summarized, last⟩ := Program.outcome_bind_eq_ok run
  cases last
  obtain ⟨requests, asks, sends, resultsEq, counted⟩ :=
    summarizeEach_eq_ok reads reaches (w.summarizer_label kind s) summarized
  have moved := @summaries_eq w kind s generate u _ requests reaches probed
  rw [moved] at resultsEq counted
  exact ⟨requests, asks.imp fun x request asked => asked.earlier print, probed.trans sends,
    by rw [resultsEq, counted]⟩

theorem cover_eq_error {failure : Failure} (run : (cover w kind r xs draft).outcome s = (.error failure, t)) :
    ∃ k requests, List.Forall₂ (r.Asks s) (xs.take k) requests ∧
      Sends (conversation w kind tags generate s requests) s t ∧ r.Breaks s xs failure := by
  obtain ⟨u, started, probed⟩ := startSummarizer_sends kind isLocal tagsAt transport
  have print : Footprint s u := (Summarizer.build_moves _ _).reached started
  have reaches := Workshop.summarizer_reaches generateAt kind s
  rw [cover, Program.outcome_bind_ok started] at run
  rcases Program.outcome_bind_eq_error run with broken | ⟨_, _, _, last⟩
  · obtain ⟨k, requests, asks, sends, breaks⟩ :=
      summarizeEach_eq_error reads reaches (w.summarizer_label kind s) broken
    exact ⟨k, requests, asks.imp fun x request asked => asked.earlier print, probed.trans sends,
      breaks.earlier print (List.Subset.refl _)⟩
  · cases last

end Recipe
end ReferencePages
