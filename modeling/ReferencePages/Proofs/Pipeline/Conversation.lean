import ReferencePages.Proofs.Recipe.Entity
import ReferencePages.Proofs.Pipeline.Failure
import ReferencePages.Proofs.Pipeline.Offline
import ReferencePages.Proofs.Output.Atomic
import ReferencePages.Proofs.Page.Footer
import ReferencePages.Proofs.Text.Number
/-!
Runs for one page with summaries. What is sent, what the page says of each thing, and what its footer says
of the summaries all follow from what the endpoint answers.
-/

namespace ReferencePages

open Program (Reads SameExchanges Steady)

namespace Pipeline

/-! ### The things of a run -/

/-- The beginning of a run: the sources of the page are found. -/
def prepare (w : Workshop) (kind : PageKind) : Program Sources := do
  Program.log .debug "orchestrator" ("Running generator " ++ kind.name)
  Program.log .info kind.logger ("Generating " ++ Text.lowerCase kind.title ++ "...")
  let sources ← (sourceTree w.config).resolve (recipe w kind).files (recipe w kind).directories
  logSources kind (sources.files.map (·.2) ++ sources.directories.map (·.2))
  return sources

/-- The things that a run finds in the sources of its page. -/
def survey (w : Workshop) (kind : PageKind) : Program (List Entity) := do
  Recipe.entities w kind (← prepare w kind)

/-- The end of a run: its page is written. -/
def publish (w : Workshop) (kind : PageKind) (draft : Draft) : Program PageResult := do
  let path ← OutputWriter.write { directory := w.config.outputDirectory } kind.fileName (finish draft)
  Program.log .info kind.logger
    (kind.title ++ " generated (" ++ Text.ofNat draft.count ++ " entities).")
  return { kind, path, count := draft.count, mode := draft.summarizer.mode
           fallbacks := draft.summarizer.fallbacks }

theorem make_eq (w : Workshop) (kind : PageKind) :
    make w kind = prepare w kind >>= (recipe w kind).compose >>= publish w kind := by
  unfold make draft prepare
  simp only [bind_assoc, pure_bind]
  rfl

variable {w : Workshop} {kind : PageKind} {s t : Session}

theorem prepare_reads (w : Workshop) (kind : PageKind) : Reads w.IsSource (prepare w kind) :=
  .bind (.log _ _ _) fun _ => .bind (.log _ _ _) fun _ => .bind (SourceTree.resolve_reads _ _ _) fun _ =>
    .bind (logSources_reads _ _) fun _ => .pure _

theorem prepare_resolves {sources : Sources} (run : (prepare w kind).outcome s = (.ok sources, t)) :
    w.Resolves kind sources := by
  obtain ⟨_, _, _, run₁⟩ := Program.outcome_bind_eq_ok run
  obtain ⟨_, u, _, run₂⟩ := Program.outcome_bind_eq_ok run₁
  obtain ⟨found, v, resolved, run₃⟩ := Program.outcome_bind_eq_ok run₂
  obtain ⟨_, _, _, last⟩ := Program.outcome_bind_eq_ok run₃
  cases last
  exact ⟨u, v, resolved⟩

theorem survey_reads (w : Workshop) (kind : PageKind) : Reads w.IsSource (survey w kind) :=
  .bind_of (prepare_reads w kind) fun _ _ _ run => Recipe.entities_reads (prepare_resolves run)

/-- A page is settled by the things that are found for it. -/
theorem compose_survey {tags generate : Text} (asksModel : kind ∉ PageKind.standard) (isLocal : w.IsLocal)
    (tagsAt : Url.requested (w.address ++ "/api/tags") = .ok tags)
    (generateAt : Url.requested (w.address ++ "/api/generate") = .ok generate)
    (transport : ∀ fault, Runner.nextOutcome s = .error fault → fault.isOfTransport = true)
    {result : Except Failure Draft}
    (run : (prepare w kind >>= (recipe w kind).compose).outcome s = (result, t)) :
    (∃ failure, result = .error failure ∧ (survey w kind).outcome s = (.error failure, t)) ∨
    ∃ found u, (survey w kind).outcome s = (.ok found, u) ∧
      Recipe.Settles w kind tags generate s found result t := by
  unfold survey
  cases prepared : (prepare w kind).outcome s with
  | mk found u =>
    obtain ⟨same, print⟩ := (prepare_reads w kind).quiet prepared
    cases found with
    | error failure =>
      rw [Program.outcome_bind, prepared] at run ⊢
      cases run
      exact .inl ⟨failure, rfl, rfl⟩
    | ok sources =>
      rw [← Runner.nextOutcome_congr same] at transport
      rw [Program.outcome_bind_ok prepared] at run ⊢
      rcases Recipe.compose_settles asksModel isLocal tagsAt generateAt transport
        (prepare_resolves prepared) run with ⟨failure, failed, unread⟩ | ⟨found, v, read, settles⟩
      · exact .inl ⟨failure, failed, unread⟩
      · exact .inr ⟨found, v, read, settles.earlier same print⟩

/-! ### The page of a run -/

/-- What a footer says of summaries when a model has been asked and has fallen short so many times. -/
def assistedLabel : Nat → Text
  | 0 => "AI-assisted mode"
  | 1 => "AI-assisted mode, 1 deterministic fallback"
  | n => "AI-assisted mode, " ++ Text.ofNat n ++ " deterministic fallbacks"

theorem modeLabel_ai (fallbacks : Nat) : modeLabel .ai fallbacks = assistedLabel fallbacks := by
  match fallbacks with
  | 0 => rfl
  | 1 => rfl
  | n + 2 =>
    have several : ¬ ((n + 2 : Nat) : Int) = 0 := by omega
    have plural : ¬ ((n + 2 : Nat) : Int) = 1 := by omega
    unfold modeLabel
    dsimp only
    rw [if_neg several, if_neg plural, List.append_assoc]
    rfl

/-- What a footer says stands in one line. -/
theorem modeLabel_line (mode : SummarySource) (fallbacks : Nat) :
    '\r' ∉ modeLabel mode fallbacks ∧ '\n' ∉ modeLabel mode fallbacks := by
  cases mode with
  | deterministic =>
    have single : '\r' ∉ "deterministic mode".toList ∧ '\n' ∉ "deterministic mode".toList := by decide
    exact single
  | ai =>
    rw [modeLabel_ai]
    match fallbacks with
    | 0 => exact ⟨by decide, by decide⟩
    | 1 => exact ⟨by decide, by decide⟩
    | n + 2 =>
      have label : assistedLabel (n + 2) =
          "AI-assisted mode, " ++ Text.ofNat (n + 2) ++ " deterministic fallbacks" := rfl
      have single {c : Char} (other : c.isDigit = false) (before : c ∉ "AI-assisted mode, ".toList)
          (after : c ∉ " deterministic fallbacks".toList) : c ∉ assistedLabel (n + 2) := by
        rw [label, List.mem_append, List.mem_append, not_or, not_or]
        exact ⟨⟨before, Text.not_mem_ofNat other _⟩, after⟩
      exact ⟨single rfl (by decide) (by decide), single rfl (by decide) (by decide)⟩

/-- A page stands in its place, and the last thing that it says is where its summaries come from. -/
def Publishes (w : Workshop) (kind : PageKind) (s t : Session) (page : Page) (label : Text) : Prop :=
  ∃ mode above, t.tree.fileAt (pagePlace w s.directory kind) = some (mode, Utf8.encode page.render) ∧
    page.render = above ++ " (" ++ label ++ ")*\n"

theorem finish_render (d : Draft) : ∃ above, (finish d).render =
    above ++ " (" ++ modeLabel d.summarizer.mode d.summarizer.fallbacks ++ ")*\n" := by
  obtain ⟨carriage, feed⟩ := modeLabel_line d.summarizer.mode d.summarizer.fallbacks
  have ending : (finish d).sourceDescription = d.page.sourceDescription ++
      (" (" ++ modeLabel d.summarizer.mode d.summarizer.fallbacks ++ ")") := by
    rw [← List.append_assoc, ← List.append_assoc]
    rfl
  generalize modeLabel d.summarizer.mode d.summarizer.fallbacks = label at carriage feed ending ⊢
  obtain ⟨above, rendered⟩ := Page.render_footer ending
    (by simp [carriage]) (by simp [feed])
  refine ⟨above, ?_⟩
  rw [rendered]
  simp

theorem publish_eq_ok {d : Draft} {result : PageResult}
    (run : (publish w kind d).outcome s = (.ok result, t)) :
    Publishes w kind s t (finish d) (modeLabel d.summarizer.mode d.summarizer.fallbacks) ∧
      SameExchanges s t ∧ result.mode = d.summarizer.mode ∧ result.fallbacks = d.summarizer.fallbacks := by
  obtain ⟨p, u, wrote, rest⟩ := Program.outcome_bind_eq_ok run
  rw [Program.outcome_bind, Program.outcome_log] at rest
  cases rest
  obtain ⟨above, rendered⟩ := finish_render d
  obtain ⟨mode, page⟩ : ∃ mode, u.tree.fileAt (pagePlace w s.directory kind) =
      some (mode, Utf8.encode (finish d).render) := ⟨_, OutputWriter.writeText_ok_page wrote⟩
  obtain ⟨_, v, written, uEq⟩ := OutputWriter.writeText_ok wrote
  obtain ⟨tree, interruptions, vEq⟩ := written.rest
  have apart : u.logFile ≠ some (pagePlace w s.directory kind) := by
    obtain ⟨_, _, recorded, _⟩ := Program.record_eq v .info "output"
      ("Output: " ++ (w.config.outputDirectory.child kind.fileName).toText)
    rw [uEq, recorded]
    exact written.logFile_ne
  have same : SameExchanges s u := by
    rw [uEq]
    refine Steady.trans ?_ (SameExchanges.record _ _ _ _)
    rw [vEq]
    exact ⟨rfl, rfl⟩
  refine ⟨⟨mode, above, ?_, rendered⟩, Steady.trans same (SameExchanges.record _ _ _ _), rfl, rfl⟩
  rw [FileTree.fileAt_congr (Program.lookup_record_of_ne apart ..)]
  exact page

theorem publish_eq_error {d : Draft} {failure : Failure}
    (run : (publish w kind d).outcome s = (.error failure, t)) :
    SameExchanges s t ∧ ((OutputWriter.write { directory := w.config.outputDirectory } kind.fileName
      (finish d)).outcome s).1 = .error failure := by
  rcases Program.outcome_bind_eq_error run with unwritten | ⟨_, _, _, last⟩
  · obtain ⟨tree, interruptions, tEq, _⟩ := OutputWriter.writeText_error unwritten
    rw [tEq]
    exact ⟨⟨rfl, rfl⟩, by rw [unwritten]⟩
  · rw [Program.outcome_bind, Program.outcome_log] at last
    cases last

/-! ### The conversation of a run -/

/-- What comes of a run that has found things for its page. -/
inductive Conversation (w : Workshop) (kind : PageKind) (tags generate : Text) (s : Session)
    (found : List Entity) : Except Failure PageResult → Session → Prop
  /-- There is nothing to ask about, and nothing is sent. -/
  | unneeded {result : PageResult} {t : Session} {page : Page} (nothing : ¬ Recipe.Converses kind found)
    (sent : t.endpoint.sent = s.endpoint.sent) (mode : result.mode = .deterministic)
    (fallbacks : result.fallbacks = 0) (published : Publishes w kind s t page "deterministic mode") :
    Conversation w kind tags generate s found (.ok result) t
  /-- The endpoint gives no sign of life, and nothing else is sent. -/
  | silent {result : PageResult} {t : Session} {page : Page} (wanted : Recipe.Converses kind found)
    (sign : (Runner.nextOutcome s).isOk = false) {requests : List SummaryRequest}
    (asks : List.Forall₂ ((Recipe.entityRound w).Asks s) found requests)
    (sent : t.endpoint.sent = s.endpoint.sent ++ [(w.model kind).runner.probeTo tags])
    (mode : result.mode = .deterministic) (fallbacks : result.fallbacks = 0)
    (blocks : page.blocks = Recipe.entityBlocks w kind found (requests.map (·.deterministic.text)))
    (published : Publishes w kind s t page "deterministic mode") :
    Conversation w kind tags generate s found (.ok result) t
  /-- The endpoint is asked about every thing once, and what it does to one request is between this request
  and its thing. -/
  | answered {result : PageResult} {t : Session} {page : Page} (wanted : Recipe.Converses kind found)
    (sign : (Runner.nextOutcome s).isOk = true) {requests : List SummaryRequest}
    (asks : List.Forall₂ ((Recipe.entityRound w).Asks s) found requests)
    (sent : t.endpoint.sent = s.endpoint.sent ++
      (w.model kind).runner.probeTo tags :: requests.map ((w.model kind).post generate))
    {summaries : List Summary}
    (given : summaries = requests.mapIdx fun number request =>
      request.given ((w.model kind).reply s (number + 1) request))
    (mode : result.mode = .ai) (fallbacks : result.fallbacks = Summarizer.deterministicCount summaries)
    (blocks : page.blocks = Recipe.entityBlocks w kind found (summaries.map (·.text)))
    (published : Publishes w kind s t page (assistedLabel (Summarizer.deterministicCount summaries))) :
    Conversation w kind tags generate s found (.ok result) t
  /-- The conversation stops. Until then it has gone the same way. -/
  | stopped {failure : Failure} {t : Session} {k : Nat} (wanted : Recipe.Converses kind found)
    {requests : List SummaryRequest}
    (asks : List.Forall₂ ((Recipe.entityRound w).Asks s) (found.take k) requests)
    (sent : t.endpoint.sent = s.endpoint.sent ++ Recipe.conversation w kind tags generate s requests)
    (reason : Recipe.Stops w s found failure) :
    Conversation w kind tags generate s found (.error failure) t
  /-- The page cannot be written, after the whole conversation. -/
  | unwritten {failure : Failure} {t : Session}
    (sent : ¬ Recipe.Converses kind found ∧ t.endpoint.sent = s.endpoint.sent ∨
      Recipe.Converses kind found ∧ ∃ requests,
        List.Forall₂ ((Recipe.entityRound w).Asks s) found requests ∧
          t.endpoint.sent = s.endpoint.sent ++ Recipe.conversation w kind tags generate s requests)
    {u : Session} (later : Footprint s u) {page : Page}
    (reason : ((OutputWriter.write { directory := w.config.outputDirectory } kind.fileName page).outcome u).1 =
      .error failure) :
    Conversation w kind tags generate s found (.error failure) t

section Sign

variable {tags generate : Text} (requests : List SummaryRequest)

theorem summarizer_silent (sign : (Runner.nextOutcome s).isOk = false) :
    w.summarizer kind s = Summarizer.deterministic := if_neg (by simp [sign])

theorem summarizer_answered (sign : (Runner.nextOutcome s).isOk = true) :
    w.summarizer kind s = Summarizer.around (w.model kind) 0 := if_pos sign

theorem conversation_silent (sign : (Runner.nextOutcome s).isOk = false) :
    Recipe.conversation w kind tags generate s requests = [(w.model kind).runner.probeTo tags] := by
  have nothing : requests.flatMap (Summarizer.deterministic.posts generate) = [] :=
    List.flatMap_eq_nil_iff.mpr fun _ _ => rfl
  rw [Recipe.conversation, summarizer_silent sign, nothing]

theorem summaries_silent (sign : (Runner.nextOutcome s).isOk = false) :
    Recipe.summaries w kind s requests = requests.map (·.deterministic) := by
  rw [Recipe.summaries, summarizer_silent sign]
  exact List.mapIdx_eq_iff.mpr fun _ => List.getElem?_map

theorem conversation_answered (sign : (Runner.nextOutcome s).isOk = true) :
    Recipe.conversation w kind tags generate s requests =
      (w.model kind).runner.probeTo tags :: requests.map ((w.model kind).post generate) := by
  rw [Recipe.conversation, summarizer_answered sign, Summarizer.flatMap_posts rfl]

theorem summaries_answered (sign : (Runner.nextOutcome s).isOk = true) :
    Recipe.summaries w kind s requests = requests.mapIdx fun number request =>
      request.given ((w.model kind).reply s (number + 1) request) := by
  rw [Recipe.summaries, summarizer_answered sign]
  rfl

end Sign

/-- What the page says of its summaries follows from the summarizer that has made them. -/
theorem conversation_of_settles {tags generate : Text} {found : List Entity} {d : Draft} {u : Session}
    (settles : Recipe.Settles w kind tags generate s found (.ok d) u) (print : Footprint s u)
    {result : Except Failure PageResult} (run : (publish w kind d).outcome u = (result, t)) :
    Conversation w kind tags generate s found result t := by
  cases result with
  | error failure =>
    obtain ⟨same, unwritten⟩ := publish_eq_error run
    cases settles with
    | unneeded nothing silence plain =>
      have sent := (silence.after same).sent
      rw [List.append_nil] at sent
      exact .unwritten (.inl ⟨nothing, sent⟩) print unwritten
    | @covered d u wanted requests asks sends counted blocks =>
      exact .unwritten (.inr ⟨wanted, requests, asks, (sends.after same).sent⟩) print unwritten
  | ok result =>
    obtain ⟨publishedLater, same, mode, fallbacks⟩ := publish_eq_ok run
    have published : Publishes w kind s t (finish d)
        (modeLabel d.summarizer.mode d.summarizer.fallbacks) := by
      have place : pagePlace w u.directory kind = pagePlace w s.directory kind := by rw [print.directory]
      rwa [Publishes, place] at publishedLater
    cases settles with
    | unneeded nothing silence plain =>
      have sent := (silence.after same).sent
      rw [List.append_nil] at sent
      rw [plain] at mode fallbacks published
      exact .unneeded nothing sent mode fallbacks published
    | @covered d u wanted requests asks sends counted blocks =>
      have sent := (sends.after same).sent
      rw [counted] at mode fallbacks published
      cases sign : (Runner.nextOutcome s).isOk with
      | false =>
        rw [conversation_silent _ sign] at sent
        rw [summarizer_silent sign] at mode fallbacks published
        rw [summaries_silent _ sign, List.map_map] at blocks
        have said : (finish d).blocks = _ := blocks
        exact .silent wanted sign asks sent mode fallbacks said published
      | true =>
        rw [conversation_answered _ sign] at sent
        rw [summarizer_answered sign] at mode fallbacks published
        have count : (Summarizer.counting (Summarizer.around (w.model kind) 0)
            (Recipe.summaries w kind s requests)).fallbacks =
              Summarizer.deterministicCount (Recipe.summaries w kind s requests) := Nat.zero_add _
        have assisted : ((Summarizer.around (w.model kind) 0).counting (Recipe.summaries w kind s requests)).mode =
            .ai := rfl
        rw [count] at fallbacks published
        rw [assisted] at mode published
        rw [modeLabel_ai] at published
        have said : (finish d).blocks = _ := blocks
        exact .answered wanted sign asks sent (summaries_answered _ sign) mode fallbacks said published

theorem prepare_compose_footprint (w : Workshop) (kind : PageKind) :
    Program.Moves Footprint (prepare w kind >>= (recipe w kind).compose) :=
  ((prepare_reads w kind).moves Footprint.record).bind_of fun _ _ _ run =>
    compose_moves (prepare_resolves run)

/-- The run for a page of a kind that asks a model, with an endpoint on the local machine that may answer
anything and fail in any way in which the transport can fail. Where the things of the page cannot be read,
nothing is sent. Otherwise the conversation is about the things that are found. -/
theorem run_conversation {w : Workshop} {kind : PageKind} {s t : Session} {result : Except Failure PageResult}
    (asksModel : kind ∉ PageKind.standard) (isLocal : w.IsLocal)
    (transport : ∀ fault, Except.error fault ∈ s.endpoint.outcomes → fault.isOfTransport = true)
    (made : (run w kind.name).outcome s = (result, t)) :
    ∃ tags generate, Url.requested (w.address ++ "/api/tags") = .ok tags ∧
      Url.requested (w.address ++ "/api/generate") = .ok generate ∧
      ((∃ failure, (survey w kind).outcome s = (.error failure, t) ∧ result = .error failure ∧
          t.endpoint.sent = s.endpoint.sent) ∨
        ∃ found u, (survey w kind).outcome s = (.ok found, u) ∧
          Conversation w kind tags generate s found result t) := by
  obtain ⟨tags, tagsAt⟩ : ∃ tags, Url.requested (w.address ++ "/api/tags") = .ok tags := by
    have accepted := isLocal.accepted
    cases requested : Url.requested (w.address ++ "/api/tags") with
    | ok tags => exact ⟨tags, rfl⟩
    | error fault =>
      rw [requested] at accepted
      cases accepted
  obtain ⟨generate, generateAt⟩ := Runner.exists_generate tagsAt
  refine ⟨tags, generate, tagsAt, generateAt, ?_⟩
  have runs : (run w kind.name).outcome s = (make w kind).outcome s := by cases kind <;> rfl
  have next := Runner.nextOutcome_transport transport
  rw [runs, make_eq] at made
  cases composed : (prepare w kind >>= (recipe w kind).compose).outcome s with
  | mk drafted u =>
    have print := (prepare_compose_footprint w kind).reached composed
    have settled := compose_survey asksModel isLocal tagsAt generateAt next composed
    cases drafted with
    | error failure =>
      rw [Program.outcome_bind, composed] at made
      cases made
      rcases settled with ⟨failure, failed, unread⟩ | ⟨found, v, read, settles⟩
      · cases failed
        obtain ⟨same, -⟩ := (survey_reads w kind).quiet unread
        exact .inl ⟨failure, unread, rfl, by rw [same.1]⟩
      · cases settles with
        | broken wanted asks sends breaks =>
          exact .inr ⟨found, v, read, .stopped wanted asks sends.sent (Recipe.stops_of_breaks breaks)⟩
    | ok d =>
      rw [Program.outcome_bind_ok composed] at made
      rcases settled with ⟨failure, failed, _⟩ | ⟨found, v, read, settles⟩
      · cases failed
      · exact .inr ⟨found, v, read, conversation_of_settles settles print made⟩

/-- Two enumerations of errors, and an endpoint that takes too long over the first of them. -/
def slowSession : Session :=
  { Session.new
      { entries :=
          [(["tmp"], .directory), (["source"], .directory), (["source", "tasker-shared"], .directory),
           (["source", "tasker-shared", "src"], .directory),
           (["source", "tasker-shared", "src", "errors.rs"],
             .file 0o644 (Utf8.encode ("pub enum TaskError \x7b #[error(\"gone\")] Gone \x7d\n" ++
               "pub enum StepError \x7b #[error(\"late\")] Late \x7d")))] }
      [] with
    endpoint :=
      { outcomes := [.ok (Utf8.encode "\x7b\x7d"), .error (.plain .timeout []),
          .ok (Utf8.encode "\x7b\"response\": \"Wait longer.\"\x7d")]
        sent := [] } }

def localModel : Workshop := modelAt "http://localhost:11434/"

theorem run_conversation_slow :
    PageKind.errors ∉ PageKind.standard ∧ localModel.IsLocal ∧
      (∀ fault, Except.error fault ∈ slowSession.endpoint.outcomes → fault.isOfTransport = true) ∧
      ∃ result t, (run localModel PageKind.errors.name).outcome slowSession = (.ok result, t) ∧
        result.fallbacks = 1 ∧
        ∃ tags generate, Url.requested (localModel.address ++ "/api/tags") = .ok tags ∧
          Url.requested (localModel.address ++ "/api/generate") = .ok generate ∧
          ((∃ failure, (survey localModel .errors).outcome slowSession = (.error failure, t) ∧
              Except.ok result = Except.error failure ∧ t.endpoint.sent = slowSession.endpoint.sent) ∨
            ∃ found u, (survey localModel .errors).outcome slowSession = (.ok found, u) ∧
              Conversation localModel .errors tags generate slowSession found (.ok result) t) := by
  have asksModel : PageKind.errors ∉ PageKind.standard := by decide
  have isLocal : localModel.IsLocal :=
    { unskipped := rfl, noRunner := rfl, accepted := by decide +kernel
      host := ⟨some "localhost", by decide +kernel, by rintro host ⟨⟩; decide +kernel⟩ }
  have transport : ∀ fault, Except.error fault ∈ slowSession.endpoint.outcomes →
      fault.isOfTransport = true := by
    intro fault member
    rcases List.mem_cons.mp member with sign | later
    · cases sign
    · rcases List.mem_cons.mp later with slow | last
      · cases slow
        rfl
      · cases List.mem_singleton.mp last
  have counted : (((run localModel PageKind.errors.name).outcome slowSession).1.toOption.map
      (·.fallbacks)) = some 1 := by decide +kernel
  refine ⟨asksModel, isLocal, transport, ?_⟩
  cases made : (run localModel PageKind.errors.name).outcome slowSession with
  | mk outcome t =>
    rw [made] at counted
    cases outcome with
    | error failure => cases counted
    | ok result =>
      exact ⟨result, t, rfl, Option.some.inj counted, run_conversation asksModel isLocal transport made⟩

end Pipeline
end ReferencePages
