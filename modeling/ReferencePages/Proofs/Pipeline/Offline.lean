import ReferencePages.Proofs.Recipe.Reads
import ReferencePages.Proofs.Output.Agree
/-!
Pages that are made without a model. Nothing is sent for them, and no setting of the model, no runner and
no answer that an endpoint might give shows in them.
-/

namespace ReferencePages

open Program (Agree AgreeOn Alike Reads SameExchanges SameFiles)

/-- The address of the settings names a host, which is not the local machine, and no runner takes the
place of one made from the settings. -/
def Workshop.IsRemote (w : Workshop) : Prop :=
  w.config.endpoint.skip = false ∧ w.runner = none ∧
    ∃ host, Url.host? (Text.trimEndWhile (· == '/') w.config.endpoint.baseUrl) = .ok (some host) ∧
      Url.isLocalHost host = false

/-- The settings skip the model or point to another machine. -/
def Workshop.IsOffline (w : Workshop) : Prop := w.config.endpoint.skip = true ∨ w.IsRemote

/-- Why a model on another machine is not asked. -/
def Workshop.remoteRefusal (w : Workshop) : ExchangeFault :=
  Runner.refusal ("Remote endpoint '" ++ w.config.endpoint.baseUrl ++
    "' is not permitted. Point OLLAMA_HOST at a local server.")

/-- Says in the log why no model is asked: this is wanted, or another machine is refused. -/
def Workshop.logOffline (w : Workshop) : Program Unit :=
  if w.config.endpoint.skip then
    Program.log .info "summarizer" "Using deterministic summaries (SKIP_LLM is set)"
  else
    Program.log .warning "summarizer" (w.remoteRefusal.message ++ "; using deterministic summaries")

/-- Two ways of making pages that both go without a model, and say so in the same way or may say it in
`unequal` ways. -/
structure Workshop.BothOffline (w w' : Workshop) (unequal : Prop) : Prop where
  left : w.IsOffline
  right : w'.IsOffline
  skip : w'.config.endpoint.skip = w.config.endpoint.skip
  quoted : w.config.endpoint.skip = true ∨
    w'.config.endpoint.baseUrl = w.config.endpoint.baseUrl ∨ unequal

variable {w w' : Workshop} {unequal : Prop} {sources : Path → Prop}

theorem Workshop.BothOffline.log_agree (both : w.BothOffline w' unequal) :
    Agree unequal sources w.logOffline w'.logOffline := by
  unfold logOffline
  rw [both.skip]
  split
  · exact .log (.inl rfl)
  · rename_i unskipped
    rcases both.quoted with skip | address | differs
    · exact absurd skip unskipped
    · exact .log (.inl (by rw [remoteRefusal, remoteRefusal, address]))
    · exact .log (.inr differs)

namespace Recipe

/-- Offline, a summarizer without a model is chosen, with one entry in the log and nothing else. -/
theorem startSummarizer_offline (offline : w.IsOffline) (kind : PageKind) :
    startSummarizer w kind = (do w.logOffline; return Summarizer.deterministic) := by
  unfold startSummarizer Summarizer.build Workshop.logOffline
  rcases offline with skip | ⟨unskipped, noRunner, host, named, remote⟩
  · rw [if_pos skip, if_pos skip]
  · rw [if_neg (by simp [unskipped]), if_neg (by simp [unskipped]), noRunner]
    have refused : Runner.new w.config.endpoint.model w.config.endpoint.baseUrl
        w.config.endpoint.probeTimeout = .error (.exchange w.remoteRefusal) := by
      unfold Runner.new Runner.localUrl
      dsimp only
      rw [named]
      dsimp only
      rw [if_neg (by simp [remote])]
      rfl
    unfold Summarizer.runnerFor Summarizer.runnerOf
    dsimp only
    rw [refused]
    dsimp only
    rw [bind_assoc]
    rfl

theorem startSummarizer_agree {α : Type} (both : w.BothOffline w' unequal) (kind : PageKind)
    {next : Summarizer → Program α} (rest : Reads sources (next Summarizer.deterministic)) :
    Agree unequal sources (startSummarizer w kind >>= next) (startSummarizer w' kind >>= next) := by
  rw [startSummarizer_offline both.left, startSummarizer_offline both.right, bind_assoc, bind_assoc]
  exact both.log_agree.bind fun _ => rest.agree

/-- State machines are read without a look at the settings of the model. -/
theorem readMachines_endpoint (config : Config) (endpoint : EndpointSettings) (sources : Sources)
    (machines : List StateMachine) :
    readMachines { config with endpoint } sources machines = readMachines config sources machines := by
  induction machines with
  | nil => rfl
  | cons machine machines ih =>
    rw [readMachines, readMachines, ih]
    rfl

end Recipe

/-- Two ways of making pages that differ in the settings of the model and in the runner alone. -/
structure Workshop.SamePages (w w' : Workshop) : Prop where
  config : ∃ endpoint, w'.config = { w.config with endpoint }
  prompts : w'.prompts = w.prompts

namespace Pipeline

/-- A name of a page that no model is asked for, or of no page. -/
def AsksNoModel (name : Text) : Prop := ∀ kind, PageKind.ofName? name = some kind → kind ∈ PageKind.standard

theorem compose_agree (same : w.SamePages w') {kind : PageKind}
    (offline : kind ∈ PageKind.standard ∨ w.BothOffline w' unequal) {sources : Sources}
    (resolves : w.Resolves kind sources) :
    Agree unequal w.IsSource ((recipe w kind).compose sources) ((recipe w' kind).compose sources) := by
  obtain ⟨config, runner, prompts⟩ := w
  obtain ⟨config', runner', prompts'⟩ := w'
  obtain ⟨⟨endpoint, configEq⟩, promptsEq⟩ := same
  dsimp only at configEq promptsEq
  subst configEq promptsEq
  -- only settings of the model are different, and no recipe looks at them but to start a summarizer
  cases kind with
  | schema => exact (Recipe.schema_reads resolves).agree
  | stateMachines =>
    refine AgreeOn.bind ?_ fun _ => .pure _
    dsimp only
    rw [Recipe.readMachines_endpoint config endpoint]
    exact (Recipe.readMachines_reads resolves (List.Subset.refl _)).agree
  | crates => exact (Recipe.crates_reads resolves).agree
  | errors =>
    have both := offline.resolve_left (by decide)
    refine (Recipe.readErrors_reads resolves).agree.bind fun text => (Agree.log (.inl rfl)).bind fun _ => ?_
    dsimp only
    split
    · exact .pure _
    · exact Recipe.startSummarizer_agree both _
        (.bind (Recipe.summarizeEach_deterministic_reads (Recipe.enumRound_reads _) _ _ _ _)
          fun _ => .pure _)
  | configuration =>
    have both := offline.resolve_left (by decide)
    refine (Recipe.readConfiguration_reads resolves).agree.bind fun text =>
      (Reads.ofExcept _ _).agree.bind fun parts => (Agree.log (.inl rfl)).bind fun _ => ?_
    exact Recipe.startSummarizer_agree both _
      (.bind (Recipe.summarizeEach_deterministic_reads (Recipe.sectionRound_reads _) _ _ _ _)
        fun _ => .pure _)
  | decisions =>
    have both := offline.resolve_left (by decide)
    refine (Recipe.readDecisions_reads resolves).agree.bind fun records =>
      (Agree.log (.inl rfl)).bind fun _ => ?_
    dsimp only
    split
    · exact .pure _
    · exact Recipe.startSummarizer_agree both _
        (.bind (Recipe.summarizeEach_deterministic_reads (Recipe.recordRound_reads _) _ _ _ _)
          fun _ => .pure _)

theorem requirements_eq (same : w.SamePages w') (kind : PageKind) :
    (recipe w' kind).files = (recipe w kind).files ∧
      (recipe w' kind).directories = (recipe w kind).directories := by
  obtain ⟨config, runner, prompts⟩ := w
  obtain ⟨config', runner', prompts'⟩ := w'
  obtain ⟨⟨endpoint, configEq⟩, _⟩ := same
  dsimp only at configEq
  subst configEq
  cases kind <;> exact ⟨rfl, rfl⟩

theorem draft_agree (same : w.SamePages w') {kind : PageKind}
    (offline : kind ∈ PageKind.standard ∨ w.BothOffline w' unequal) :
    Agree unequal w.IsSource (draft w kind) (draft w' kind) := by
  obtain ⟨endpoint, configEq⟩ := same.config
  obtain ⟨files, directories⟩ := requirements_eq same kind
  have tree : sourceTree w'.config = sourceTree w.config := by
    rw [configEq]
    rfl
  unfold draft
  dsimp only
  rw [files, directories, tree]
  exact (Agree.log (.inl rfl)).bind fun _ =>
    (SourceTree.resolve_reads _ _ _).agree.bind_of fun s sources t found =>
      (logSources_reads _ _).agree.bind fun _ => compose_agree same offline ⟨s, t, found⟩

theorem make_agree (same : w.SamePages w') {kind : PageKind}
    (offline : kind ∈ PageKind.standard ∨ w.BothOffline w' unequal) :
    Agree unequal w.IsSource (make w kind) (make w' kind) := by
  obtain ⟨endpoint, configEq⟩ := same.config
  have output : w'.config.outputDirectory = w.config.outputDirectory := by rw [configEq]
  unfold make
  rw [output]
  exact (Agree.log (.inl rfl)).bind fun _ => (draft_agree same offline).bind fun _ =>
    (OutputWriter.writeText_agree _ _ _).bind fun _ => (Agree.log (.inl rfl)).bind fun _ => .pure _

theorem run_agree (same : w.SamePages w') {name : Text}
    (offline : AsksNoModel name ∨ w.BothOffline w' unequal) :
    Agree unequal w.IsSource (run w name) (run w' name) := by
  unfold run kindOf
  cases known : PageKind.ofName? name with
  | none =>
    have refused : Agree unequal w.IsSource (throw (.unknownGenerator name) : Program PageResult)
        (throw (.unknownGenerator name)) := AgreeOn.throw _
    exact refused
  | some kind =>
    have made : Agree unequal w.IsSource (make w kind) (make w' kind) :=
      make_agree same (offline.imp_left fun structural => structural kind known)
    exact made

/-- Pages in a row agree if each of them does. -/
theorem runAll_agree (same : w.SamePages w') {names : List Text}
    (offline : (∀ name ∈ names, AsksNoModel name) ∨ w.BothOffline w' unequal) :
    Agree unequal w.IsSource (runAll w names) (runAll w' names) := by
  induction names with
  | nil => exact AgreeOn.pure _
  | cons name names ih =>
    have first : AsksNoModel name ∨ w.BothOffline w' unequal :=
      offline.imp_left fun structural => structural name (List.mem_cons_self ..)
    have rest := ih (offline.imp_left fun structural other member =>
      structural other (List.mem_cons_of_mem _ member))
    exact (run_agree same first).bind fun _ => rest.bind fun _ => .pure _

/-- No path at which files are read for pages leads to the log file. -/
def LogApart (w : Workshop) (s : Session) : Prop :=
  ∀ place, s.logFile = some place → ∀ p, w.IsSource p → FileTree.destination s.directory p ≠ place

/-- A log file is apart from what is read if it is none of the files that pages ask for, and if its name is
neither that of a manifest nor one that decision records may have. -/
theorem logApart_of_name {w : Workshop} {s : Session} (above : Place) {name : Text} {form : NamePattern}
    (kept : s.logFile = some (above ++ [name]))
    (files : ∀ kind, ∀ entry ∈ (recipe w kind).files,
      FileTree.destination s.directory (w.config.sourceDirectory.child entry.2) ≠ above ++ [name])
    (pattern : Glob.ofText w.config.decisions.pattern = .ok [.pattern form])
    (record : form.matchesName name = false) (forward : form.matchesName ".." = false)
    (manifest : name ≠ WorkspaceGraph.manifestName) (builtIn : (Recipe.prompts w).directory = none) :
    LogApart w s := by
  intro place there p source
  obtain rfl : above ++ [name] = place := Option.some.inj (kept.symm.trans there)
  have named {last : Text} (ending : p.parts.getLast? = some last) (up : last ≠ "..")
      (leads : FileTree.destination s.directory p = above ++ [name]) : last = name := by
    have names : (FileTree.destination s.directory p).getLast? = some last :=
      FileTree.getLast?_destination ending up
    rw [leads, List.getLast?_concat] at names
    exact (Option.some.inj names).symm
  intro leads
  cases source with
  | file needed => exact files _ _ needed leads
  | record search member =>
    obtain ⟨file, parts, fits⟩ := Glob.paths_name pattern search member
    have up : file ≠ ".." := by
      intro same
      rw [same, forward] at fits
      cases fits
    rw [named (by rw [parts, List.getLast?_concat]) up leads, record] at fits
    cases fits
  | manifest member =>
    have ending : ((w.config.sourceDirectory.child member).child
        WorkspaceGraph.manifestName).parts.getLast? = some WorkspaceGraph.manifestName :=
      List.getLast?_concat
    exact manifest (named ending (by decide) leads).symm
  | template within =>
    rw [builtIn] at within
    cases within

/-- Pages for which no model is asked, be it that they need none, that the settings skip the model, or
that the address of the model is on another machine. Two runs that differ in the settings of the model, in
the runner and in what the endpoint will say then come to the same results and the same files, apart from
the log file, and neither of them sends anything or asks the runner. The log quotes an address that is
refused, so that with different addresses pages must not be read from the log file. -/
theorem runAll_offline {w w' : Workshop} {s t : Session} (names : List Text)
    (same : w.SamePages w') (exchanges : ∃ endpoint rehearsal, t = { s with endpoint, rehearsal })
    (offline : (∀ name ∈ names, AsksNoModel name) ∨
      (w.config.endpoint.skip = true ∧ w'.config.endpoint.skip = true) ∨
      (w.IsRemote ∧ w'.IsRemote ∧
        (w'.config.endpoint.baseUrl = w.config.endpoint.baseUrl ∨ LogApart w s))) :
    SameExchanges s ((runAll w names).outcome s).2 ∧
      SameExchanges t ((runAll w' names).outcome t).2 ∧
      ((runAll w' names).outcome t).1 = ((runAll w names).outcome s).1 ∧
      SameFiles ((runAll w names).outcome s).2 ((runAll w' names).outcome t).2 := by
  obtain ⟨endpoint, rehearsal, rfl⟩ := exchanges
  rcases offline with structural | ⟨skip, skip'⟩ | ⟨remote, remote', quoted⟩
  · have agree : Agree False w.IsSource (runAll w names) (runAll w' names) :=
        runAll_agree same (.inl structural)
    exact agree.same_files nofun endpoint rehearsal
  · have agree : Agree False w.IsSource (runAll w names) (runAll w' names) :=
        runAll_agree same (.inr ⟨.inl skip, .inl skip', skip'.trans skip.symm, .inl skip⟩)
    exact agree.same_files nofun endpoint rehearsal
  · have unskipped := remote'.1.trans remote.1.symm
    rcases quoted with address | apart
    · have agree : Agree False w.IsSource (runAll w names) (runAll w' names) :=
        runAll_agree same (.inr ⟨.inr remote, .inr remote', unskipped, .inr (.inl address)⟩)
      exact agree.same_files nofun endpoint rehearsal
    · have agree : Agree True w.IsSource (runAll w names) (runAll w' names) :=
        runAll_agree same (.inr ⟨.inr remote, .inr remote', unskipped, .inr (.inr trivial)⟩)
      exact agree.same_files (fun _ => apart) endpoint rehearsal

/-- The usual settings with a model at an address. -/
def modelAt (url : Text) : Workshop :=
  let standard := Config.standard (Path.ofText "/docs") (Path.ofText "/source") (Path.ofText "/docs/out")
  { config := { standard with endpoint := { standard.endpoint with baseUrl := url } } }

theorem modelAt_samePages (url other : Text) : (modelAt url).SamePages (modelAt other) :=
  ⟨⟨_, rfl⟩, rfl⟩

/-- The beginning of a run with a log file, over a source file with one enumeration of errors. -/
def errorsSession : Session :=
  { Session.new
      { entries :=
          [(["source"], .directory), (["source", "tasker-shared"], .directory),
           (["source", "tasker-shared", "src"], .directory),
           (["source", "tasker-shared", "src", "errors.rs"],
             .file 0o644 (Utf8.encode "pub enum TaskError \x7b #[error(\"gone\")] Gone \x7d")),
           (["refgen.log"], .file 0o644 [])] }
      [] with
    logFile := some ["refgen.log"] }

/-- The same beginning with an endpoint that has something to say. -/
def answeringSession : Session :=
  { errorsSession with endpoint := { outcomes := [.ok (Utf8.encode "\x7b\x7d")], sent := [] } }

/-- Two addresses on other machines. -/
def firstRemote : Workshop := modelAt "http://one.example"

def secondRemote : Workshop := modelAt "http://two.example:80"

theorem runAll_offline_remote :
    firstRemote.SamePages secondRemote ∧ firstRemote.IsRemote ∧ secondRemote.IsRemote ∧
      LogApart firstRemote errorsSession ∧
      SameExchanges errorsSession ((runAll firstRemote ["error-guide", "none"]).outcome errorsSession).2 ∧
      SameExchanges answeringSession
        ((runAll secondRemote ["error-guide", "none"]).outcome answeringSession).2 ∧
      ((runAll secondRemote ["error-guide", "none"]).outcome answeringSession).1 =
        ((runAll firstRemote ["error-guide", "none"]).outcome errorsSession).1 ∧
      SameFiles ((runAll firstRemote ["error-guide", "none"]).outcome errorsSession).2
        ((runAll secondRemote ["error-guide", "none"]).outcome answeringSession).2 := by
  have same : firstRemote.SamePages secondRemote := modelAt_samePages _ _
  have first : firstRemote.IsRemote := ⟨rfl, rfl, "one.example", by decide +kernel, by decide +kernel⟩
  have second : secondRemote.IsRemote := ⟨rfl, rfl, "two.example", by decide +kernel, by decide +kernel⟩
  have pattern : Glob.ofText firstRemote.config.decisions.pattern =
      .ok [.pattern (NamePattern.ofText 9 "adr-*.md")] := rfl
  have builtIn : (Recipe.prompts firstRemote).directory = none := rfl
  have kept : errorsSession.logFile = some ([] ++ [("refgen.log" : Text)]) := rfl
  have apart : LogApart firstRemote errorsSession := by
    refine logApart_of_name [] kept ?_ pattern ?_ ?_ ?_ builtIn
    · intro kind
      cases kind <;> decide +kernel
    · decide +kernel
    · decide +kernel
    · decide +kernel
  exact ⟨same, first, second, apart, runAll_offline ["error-guide", "none"] same ⟨_, _, rfl⟩
    (.inr (.inr ⟨first, second, .inr apart⟩))⟩

end Pipeline
end ReferencePages
