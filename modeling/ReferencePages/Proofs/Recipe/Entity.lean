import ReferencePages.Proofs.Recipe.Exchange
import ReferencePages.Proofs.Prompt.Template
/-!
The things that a page with summaries covers. The three recipes that ask a model read different things, and
are then one and the same recipe.
-/

namespace ReferencePages

open Program (Reads SameExchanges Steady)

/-- One of the things that a page with summaries covers. -/
inductive Entity
  | enum (e : ErrorEnum)
  | part (p : ConfigSection)
  | record (r : DecisionRecord)

namespace Entity

/-- The blocks of a thing with the text about it. Records have none of their own. -/
def blocks : Entity → Text → List Text
  | enum e, text => Recipe.enumBlocks e text
  | part p, text => Recipe.sectionBlocks p text
  | record _, _ => []

/-- A record with its summary. -/
def summarized? : Entity → Text → Option DecisionRecord
  | record r, text => some { r with summary := text }
  | _, _ => none

end Entity

namespace Recipe

/-- How things are summarized. -/
def entityRound (w : Workshop) : Round Entity (List Text) where
  message
    | .enum e => (enumRound w).message e
    | .part p => (sectionRound w).message p
    | .record r => (recordRound w).message r
  prompt
    | .enum e => (enumRound w).prompt e
    | .part p => (sectionRound w).prompt p
    | .record r => (recordRound w).prompt r
  request
    | .enum e => enumRequest e
    | .part p => sectionRequest p
    | .record r => recordRequest r
  result := Entity.blocks

/-- The enumerations of the troubleshooting guide. -/
def readEnums (w : Workshop) (sources : Sources) : Program (List ErrorEnum) := do
  return ErrorEnum.extract w.config.errors.boundary (← Program.readSource (sources.file "errors"))

/-- The sections of the operational guide. -/
def readParts (w : Workshop) (sources : Sources) : Program (List ConfigSection) := do
  Program.ofExcept
    (fun missing => Failure.configuration (.markerMissing missing.marker (some (sources.file "config"))))
    (ConfigSection.extract (← Program.readSource (sources.file "config")) w.config.configGuide.sections)

/-- The records of the page of decisions. -/
def readRecords (w : Workshop) (sources : Sources) : Program (List DecisionRecord) :=
  DecisionRecord.readDirectory (sources.directory "decisions") w.config.decisions.pattern

/-- The things that a page covers, in the order of the sources. -/
def entities (w : Workshop) (kind : PageKind) (sources : Sources) : Program (List Entity) :=
  match kind with
  | .errors => do return (← readEnums w sources).map .enum
  | .configuration => do return (← readParts w sources).map .part
  | .decisions => do return (← readRecords w sources).map .record
  | _ => return []

/-- The blocks of a page about things, each with the text of its summary. -/
def entityBlocks (w : Workshop) (kind : PageKind) (entities : List Entity) (texts : List Text) : List Text :=
  match kind with
  | .decisions =>
    [MarkdownTable.decisionRecords ((List.zipWith Entity.summarized? entities texts).filterMap id)
      w.config.decisions.linkStart]
  | _ => (List.zipWith Entity.blocks entities texts).flatten

/-- Whether there is anything to ask a model about. The guide to the configuration asks for a sign of life
in any case. -/
def Converses (kind : PageKind) (entities : List Entity) : Prop :=
  entities ≠ [] ∨ kind = .configuration

/-- What comes of composing a page about things. Where there is nothing to ask, nothing is sent. Otherwise the
conversation is had about all things and the page says of each of them what its own summary says, or the
composition breaks off and the conversation has been had about the first things. -/
inductive Settles (w : Workshop) (kind : PageKind) (tags generate : Text) (s : Session)
    (entities : List Entity) : Except Failure Draft → Session → Prop
  | unneeded {d : Draft} {t : Session} (nothing : ¬ Converses kind entities) (silence : Sends [] s t)
    (plain : d.summarizer = Summarizer.deterministic) : Settles w kind tags generate s entities (.ok d) t
  | covered {d : Draft} {t : Session} (wanted : Converses kind entities) {requests : List SummaryRequest}
    (asks : List.Forall₂ ((entityRound w).Asks s) entities requests)
    (sends : Sends (conversation w kind tags generate s requests) s t)
    (counted : d.summarizer = (w.summarizer kind s).counting (summaries w kind s requests))
    (blocks : d.page.blocks = entityBlocks w kind entities ((summaries w kind s requests).map (·.text))) :
    Settles w kind tags generate s entities (.ok d) t
  | broken {failure : Failure} {t : Session} (wanted : Converses kind entities) {k : Nat}
    {requests : List SummaryRequest}
    (asks : List.Forall₂ ((entityRound w).Asks s) (entities.take k) requests)
    (sends : Sends (conversation w kind tags generate s requests) s t)
    (breaks : (entityRound w).Breaks s entities failure) :
    Settles w kind tags generate s entities (.error failure) t

variable {w : Workshop} {kind : PageKind} {tags generate : Text} {s u t : Session} {entities : List Entity}

theorem summarizer_congr (same : SameExchanges s u) : w.summarizer kind u = w.summarizer kind s := by
  rw [Workshop.summarizer, Workshop.summarizer, Runner.nextOutcome_congr same]

theorem conversation_congr (same : SameExchanges s u) (requests : List SummaryRequest) :
    conversation w kind tags generate u requests = conversation w kind tags generate s requests := by
  rw [conversation, conversation, summarizer_congr same]

theorem summaries_congr (same : SameExchanges s u) (requests : List SummaryRequest) :
    summaries w kind u requests = summaries w kind s requests := by
  have replied (z : Summarizer) (number : Nat) : z.summary u number = z.summary s number := by
    funext request
    unfold Summarizer.summary
    split
    · rfl
    · exact congrArg request.given (Runner.reply_congr _ _ _ same.1 same.2)
  rw [summaries, summaries, summarizer_congr same]
  simp only [replied]

theorem Settles.earlier {result : Except Failure Draft} (same : SameExchanges s u) (print : Footprint s u)
    (settles : Settles w kind tags generate u entities result t) :
    Settles w kind tags generate s entities result t := by
  have before {xs : List Entity} {requests : List SummaryRequest}
      (asks : List.Forall₂ ((entityRound w).Asks u) xs requests) :
      List.Forall₂ ((entityRound w).Asks s) xs requests :=
    asks.imp fun x request asked => asked.earlier print
  cases settles with
  | unneeded nothing silence plain => exact .unneeded nothing (silence.before same) plain
  | covered wanted asks sends counted blocks =>
    rw [summaries_congr same] at counted blocks
    rw [summarizer_congr same] at counted
    rw [conversation_congr same] at sends
    exact .covered wanted (before asks) (sends.before same) counted blocks
  | broken wanted asks sends breaks =>
    rw [conversation_congr same] at sends
    exact .broken wanted (before asks) (sends.before same) (breaks.earlier print (List.Subset.refl _))

/-! ### The prompts of the program's own templates -/

/-- With the templates that come with the program, there is a prompt for everything, the same in every
state. -/
theorem exists_prompt (builtIn : (prompts w).directory = none) (x : Entity) :
    ∃ prompt, ∀ u, ((entityRound w).prompt x).outcome u = (.ok prompt, u) := by
  cases x with
  | enum e => exact Prompt.exists_errorGuide builtIn e.name (enumDefinition e)
  | part p => exact Prompt.exists_configGuide builtIn _ _
  | record r => exact Prompt.exists_decision builtIn r.title r.excerpt

/-- The request about a thing carries the prompt that the thing has in every state. -/
theorem asks_builtIn (builtIn : (prompts w).directory = none) {x : Entity} {request : SummaryRequest}
    (asks : (entityRound w).Asks s x request) (u : Session) :
    ((entityRound w).prompt x).outcome u = (.ok request.prompt, u) := by
  obtain ⟨prompt, comes⟩ := exists_prompt builtIn x
  obtain ⟨v, other, _, made, rfl⟩ := asks
  rw [comes] at made
  cases made
  rw [comes]
  cases x <;> rfl

/-- A conversation stops since a transcript cannot be written, or since templates that do not come with the
program make no prompt of a thing. -/
def Stops (w : Workshop) (s : Session) (entities : List Entity) (failure : Failure) : Prop :=
  failure.IsOfFile ∨ (prompts w).directory ≠ none ∧
    ∃ x ∈ entities, ∃ u, Footprint s u ∧ (((entityRound w).prompt x).outcome u).1 = .error failure

theorem stops_of_breaks {failure : Failure} (breaks : (entityRound w).Breaks s entities failure) :
    Stops w s entities failure := by
  rcases breaks with ⟨x, member, u, print, unmade⟩ | file
  · refine .inr ⟨fun builtIn => ?_, x, member, u, print, unmade⟩
    obtain ⟨prompt, comes⟩ := exists_prompt builtIn x
    rw [comes] at unmade
    cases unmade
  · exact .inl file

/-! ### One recipe for the three kinds -/

theorem filterMap_summarized (records : List DecisionRecord) (summaries : List Summary) :
    (List.zipWith Entity.summarized? (records.map .record) (summaries.map (·.text))).filterMap id =
      List.zipWith (fun record summary => { record with summary := summary.text }) records summaries := by
  have each : (fun (r : DecisionRecord) (summary : Summary) => Entity.summarized? (.record r) summary.text) =
      fun r summary => some { r with summary := summary.text } := rfl
  rw [List.zipWith_map, each, ← List.map_zipWith, List.filterMap_map]
  exact List.filterMap_some

variable {ι β : Type} {P : Path → Prop} {r : Round ι β} {xs : List ι} {draft : List β → Summarizer → Draft}
  {f : ι → Entity}

/-- A recipe that summarizes its things in a round of its own summarizes them as things. -/
structure Covers (w : Workshop) (kind : PageKind) (r : Round ι β) (f : ι → Entity) (xs : List ι)
    (draft : List β → Summarizer → Draft) : Prop where
  reads : ∀ x, Reads w.IsSource (r.prompt x)
  prompt : ∀ x, r.prompt x = (entityRound w).prompt (f x)
  request : ∀ x, r.request x = (entityRound w).request (f x)
  summarizer : ∀ results z, (draft results z).summarizer = z
  blocks : ∀ (summaries : List Summary) z,
    (draft (List.zipWith (fun x summary => r.result x summary.text) xs summaries) z).page.blocks =
      entityBlocks w kind (xs.map f) (summaries.map (·.text))

namespace Covers

variable (covers : Covers w kind r f xs draft)

include covers

theorem asks (s : Session) (x : ι) (request : SummaryRequest) (asked : r.Asks s x request) :
    (entityRound w).Asks s (f x) request := by
  unfold Round.Asks at asked ⊢
  rwa [covers.prompt, covers.request] at asked

theorem breaks {s : Session} {failure : Failure} (broken : r.Breaks s xs failure) :
    (entityRound w).Breaks s (xs.map f) failure := by
  rcases broken with ⟨x, member, u, print, unmade⟩ | file
  · rw [covers.prompt] at unmade
    exact .inl ⟨f x, List.mem_map_of_mem member, u, print, unmade⟩
  · exact .inr file

variable (isLocal : w.IsLocal) (tagsAt : Url.requested (w.address ++ "/api/tags") = .ok tags)
  (generateAt : Url.requested (w.address ++ "/api/generate") = .ok generate)
  (transport : ∀ fault, Runner.nextOutcome s = .error fault → fault.isOfTransport = true)
  (wanted : Converses kind (xs.map f))

include isLocal tagsAt generateAt transport wanted

theorem settles {result : Except Failure Draft} (run : (cover w kind r xs draft).outcome s = (result, t)) :
    Settles w kind tags generate s (xs.map f) result t := by
  cases result with
  | ok d =>
    obtain ⟨requests, asks, sends, rfl⟩ :=
      cover_eq_ok isLocal tagsAt generateAt transport covers.reads run
    refine .covered wanted ?_ sends (covers.summarizer _ _) (covers.blocks _ _)
    rw [List.forall₂_map_left_iff]
    exact asks.imp (covers.asks s)
  | error failure =>
    obtain ⟨k, requests, asks, sends, broken⟩ :=
      cover_eq_error isLocal tagsAt generateAt transport covers.reads run
    refine .broken wanted (k := k) ?_ sends (covers.breaks broken)
    rw [← List.map_take, List.forall₂_map_left_iff]
    exact asks.imp (covers.asks s)

end Covers

/-- The troubleshooting guide about enumerations. -/
def errorsDraft (w : Workshop) (enums : List ErrorEnum) (blocks : List (List Text)) (z : Summarizer) : Draft where
  page := errorsPage w.config blocks.flatten (some (noteFor z errorsModelNote errorsPlainNote))
  count := enums.length
  summarizer := z

/-- The operational guide about sections. -/
def configurationDraft (w : Workshop) (parts : List ConfigSection) (blocks : List (List Text))
    (z : Summarizer) : Draft where
  page := PageKind.configuration.page (sourceLabel w.config ++ " configuration source")
    (configurationIntro w.config parts) blocks.flatten
    (some (noteFor z configurationModelNote configurationPlainNote))
  count := (parts.flatMap (·.structs)).length
  summarizer := z

/-- The page about records with their summaries. -/
def decisionsDraft (w : Workshop) (records : List DecisionRecord) (z : Summarizer) : Draft where
  page := decisionsPage w.config [MarkdownTable.decisionRecords records w.config.decisions.linkStart]
    (some (noteFor z decisionsModelNote decisionsPlainNote))
  count := records.length
  summarizer := z

theorem covers_errors (w : Workshop) (enums : List ErrorEnum) :
    Covers w .errors (enumRound w) .enum enums (errorsDraft w enums) where
  reads := enumRound_reads w
  prompt _ := rfl
  request _ := rfl
  summarizer _ _ := rfl
  blocks summaries z := by
    change (List.zipWith _ enums summaries).flatten = (List.zipWith Entity.blocks _ _).flatten
    rw [List.zipWith_map]
    rfl

theorem covers_configuration (w : Workshop) (parts : List ConfigSection) :
    Covers w .configuration (sectionRound w) .part parts (configurationDraft w parts) where
  reads := sectionRound_reads w
  prompt _ := rfl
  request _ := rfl
  summarizer _ _ := rfl
  blocks summaries z := by
    change (List.zipWith _ parts summaries).flatten = (List.zipWith Entity.blocks _ _).flatten
    rw [List.zipWith_map]
    rfl

theorem covers_decisions (w : Workshop) (records : List DecisionRecord) :
    Covers w .decisions (recordRound w) .record records (decisionsDraft w) where
  reads := recordRound_reads w
  prompt _ := rfl
  request _ := rfl
  summarizer _ _ := rfl
  blocks summaries z := by
    rw [entityBlocks, filterMap_summarized]
    rfl

/-- Where something has been read, what comes of the rest settles the page about it. -/
theorem settles_of_read {read : Program (List ι)} {rest : List ι → Program Draft}
    (reading : Reads w.IsSource read)
    (transport : ∀ fault, Runner.nextOutcome s = .error fault → fault.isOfTransport = true)
    (each : ∀ xs u result t,
      (∀ fault, Runner.nextOutcome u = .error fault → fault.isOfTransport = true) →
        (rest xs).outcome u = (result, t) → Settles w kind tags generate u (xs.map f) result t)
    {result : Except Failure Draft} (run : (read >>= rest).outcome s = (result, t)) :
    (∃ failure, result = .error failure ∧
      (do return (← read).map f : Program (List Entity)).outcome s = (.error failure, t)) ∨
    ∃ entities u, (do return (← read).map f : Program (List Entity)).outcome s = (.ok entities, u) ∧
      Settles w kind tags generate s entities result t := by
  cases first : read.outcome s with
  | mk found u =>
    obtain ⟨same, print⟩ := reading.quiet first
    cases found with
    | error failure =>
      rw [Program.outcome_bind, first] at run
      rw [Program.outcome_bind, first]
      cases run
      exact .inl ⟨failure, rfl, rfl⟩
    | ok xs =>
      rw [Program.outcome_bind_ok first] at run
      rw [Program.outcome_bind_ok first]
      rw [← Runner.nextOutcome_congr same] at transport
      exact .inr ⟨xs.map f, u, rfl, (each xs u result t transport run).earlier same print⟩

section Settled

variable (covers : Covers w kind r f xs draft) (isLocal : w.IsLocal)
  (tagsAt : Url.requested (w.address ++ "/api/tags") = .ok tags)
  (generateAt : Url.requested (w.address ++ "/api/generate") = .ok generate)
  (transport : ∀ fault, Runner.nextOutcome s = .error fault → fault.isOfTransport = true)
  {level : LogLevel} {logger text : Text} {result : Except Failure Draft}

include covers isLocal tagsAt generateAt transport

/-- What is found is logged, and then the page is settled about it. -/
theorem Covers.settles_logged (wanted : Converses kind (xs.map f))
    (run : (do Program.log level logger text; cover w kind r xs draft : Program Draft).outcome s = (result, t)) :
    Settles w kind tags generate s (xs.map f) result t := by
  have same := SameExchanges.record s level logger text
  have print := Footprint.record s level logger text
  rw [Program.outcome_bind, Program.outcome_log] at run
  rw [← Runner.nextOutcome_congr same] at transport
  exact (covers.settles isLocal tagsAt generateAt transport wanted run).earlier same print

/-- Where nothing is found, there may be a page about that. -/
theorem Covers.settles_unless {empty : Draft} (plain : empty.summarizer = Summarizer.deterministic)
    (other : kind ≠ .configuration)
    (run : (do
        Program.log level logger text
        if xs.isEmpty then return empty else cover w kind r xs draft : Program Draft).outcome s = (result, t)) :
    Settles w kind tags generate s (xs.map f) result t := by
  cases xs with
  | nil =>
    rw [Program.outcome_bind, Program.outcome_log] at run
    cases run
    have nothing : ¬ Converses kind ([].map f) := fun wanted => wanted.elim (fun some => some rfl) other
    exact .unneeded nothing (.of_same (SameExchanges.record s level logger text)) plain
  | cons x xs =>
    have wanted : Converses kind ((x :: xs).map f) := .inl (List.cons_ne_nil _ _)
    exact covers.settles_logged isLocal tagsAt generateAt transport wanted run

end Settled

/-! The three recipes, each as what it reads and what follows. -/

def errorsRest (w : Workshop) (sources : Sources) (enums : List ErrorEnum) : Program Draft := do
  Program.log .info PageKind.errors.logger ("  Found " ++ Text.ofNat enums.length ++ " error enums")
  if enums.isEmpty then
    let line : Text := "No error enums found in `" ++ relativeSource w.config (sources.file "errors") ++ "`."
    return plain (errorsPage w.config [line] none) 0
  else cover w .errors (enumRound w) enums (errorsDraft w enums)

def configurationRest (w : Workshop) (parts : List ConfigSection) : Program Draft := do
  Program.log .info PageKind.configuration.logger ("  Found structs: " ++ sectionCounts parts)
  cover w .configuration (sectionRound w) parts (configurationDraft w parts)

def decisionsRest (w : Workshop) (sources : Sources) (records : List DecisionRecord) : Program Draft := do
  Program.log .info PageKind.decisions.logger ("  Found " ++ Text.ofNat records.length ++ " decision records")
  if records.isEmpty then
    let line : Text := "No decision records found in `" ++
      relativeSource w.config (sources.directory "decisions") ++ "`."
    return plain (decisionsPage w.config [line] none) 0
  else cover w .decisions (recordRound w) records (decisionsDraft w)

theorem compose_errors (w : Workshop) (sources : Sources) :
    (errors w).compose sources = readEnums w sources >>= errorsRest w sources := by
  rw [readEnums, bind_assoc]
  rfl

theorem compose_configuration (w : Workshop) (sources : Sources) :
    (configuration w).compose sources = readParts w sources >>= configurationRest w := by
  rw [readParts, bind_assoc]
  rfl

theorem compose_decisions (w : Workshop) (sources : Sources) :
    (decisions w).compose sources = readRecords w sources >>= decisionsRest w sources := rfl

theorem readEnums_reads {sources : Sources} (resolves : w.Resolves .errors sources) :
    Reads w.IsSource (readEnums w sources) :=
  .bind (readErrors_reads resolves) fun _ => .pure _

theorem readParts_reads {sources : Sources} (resolves : w.Resolves .configuration sources) :
    Reads w.IsSource (readParts w sources) :=
  .bind (readConfiguration_reads resolves) fun _ => .ofExcept _ _

/-- What a page covers is read. -/
theorem entities_reads {sources : Sources} (resolves : w.Resolves kind sources) :
    Reads w.IsSource (Recipe.entities w kind sources) := by
  cases kind with
  | schema => exact .pure _
  | stateMachines => exact .pure _
  | crates => exact .pure _
  | errors => exact .bind (readEnums_reads resolves) fun _ => .pure _
  | configuration => exact .bind (readParts_reads resolves) fun _ => .pure _
  | decisions => exact .bind (readDecisions_reads resolves) fun _ => .pure _

/-- A page of one of the three kinds is settled by the things that are read for it. -/
theorem compose_settles (asksModel : kind ∉ PageKind.standard) (isLocal : w.IsLocal)
    (tagsAt : Url.requested (w.address ++ "/api/tags") = .ok tags)
    (generateAt : Url.requested (w.address ++ "/api/generate") = .ok generate)
    (transport : ∀ fault, Runner.nextOutcome s = .error fault → fault.isOfTransport = true)
    {sources : Sources} (resolves : w.Resolves kind sources) {result : Except Failure Draft}
    (run : ((Pipeline.recipe w kind).compose sources).outcome s = (result, t)) :
    (∃ failure, result = .error failure ∧
      (Recipe.entities w kind sources).outcome s = (.error failure, t)) ∨
    ∃ found u, (Recipe.entities w kind sources).outcome s = (.ok found, u) ∧
      Settles w kind tags generate s found result t := by
  cases kind with
  | schema => exact (asksModel (by decide)).elim
  | stateMachines => exact (asksModel (by decide)).elim
  | crates => exact (asksModel (by decide)).elim
  | errors =>
    have run' : (readEnums w sources >>= errorsRest w sources).outcome s = (result, t) :=
      compose_errors w sources ▸ run
    exact settles_of_read (readEnums_reads resolves) transport (fun enums u result t transport run =>
      (covers_errors w enums).settles_unless isLocal tagsAt generateAt transport rfl nofun run) run'
  | configuration =>
    have run' : (readParts w sources >>= configurationRest w).outcome s = (result, t) :=
      compose_configuration w sources ▸ run
    exact settles_of_read (readParts_reads resolves) transport (fun parts u result t transport run =>
      (covers_configuration w parts).settles_logged isLocal tagsAt generateAt transport (.inr rfl) run) run'
  | decisions =>
    have run' : (readRecords w sources >>= decisionsRest w sources).outcome s = (result, t) :=
      compose_decisions w sources ▸ run
    exact settles_of_read (readDecisions_reads resolves) transport (fun records u result t transport run =>
      (covers_decisions w records).settles_unless isLocal tagsAt generateAt transport rfl nofun run) run'

end Recipe
end ReferencePages
