import ReferencePages.Proofs.Recipe.Repeat
import ReferencePages.Proofs.Workspace.Repeat
import ReferencePages.Proofs.Output.Again
import ReferencePages.Proofs.Pipeline.Failure
import ReferencePages.Proofs.Pipeline.Offline
/-!
Pages that are made again. A page that is none of the files it is read from comes out as it was, and every
file stays as the first run left it, as long as that run has not opened a way that was closed before.
-/

namespace ReferencePages

open FileTree (AddsNoDirectory Grown destination isPathTooLong)
open Program (Later Logged Reads Repeats SameFiles exists_of_outcome_ok)

variable {w : Workshop} {kind : PageKind} {hidden : Place → Prop} {s t : Session}

namespace Workshop

/-- The texts that tell where a page looks for files that it does not ask for by name: the pattern of decision
records, and the entries of a workspace. -/
inductive Follows (w : Workshop) (s : Session) : PageKind → Text → Prop
  | records : Follows w s .decisions w.config.decisions.pattern
  | member {entry : Text} (listed : WorkspaceGraph.Lists s w.config.sourceDirectory entry) :
    Follows w s .crates entry

/-- The paths that a page asks for by name, and those that its patterns find. -/
inductive Consults (w : Workshop) (s : Session) : PageKind → Path → Prop
  | file {kind : PageKind} {key relative : Text}
      (needed : (key, relative) ∈ (Pipeline.recipe w kind).files) :
    Consults w s kind (w.config.sourceDirectory.child relative)
  | record {found : List Path} {p : Path}
      (search : Glob.paths s.tree s.directory
        (w.config.sourceDirectory.child w.config.decisions.directory) w.config.decisions.pattern = .ok found)
      (member : p ∈ found) : Consults w s .decisions p
  | manifest {entry : Text} {found : List Path} {p : Path}
      (listed : WorkspaceGraph.Lists s w.config.sourceDirectory entry) (pattern : Glob.isPattern entry = true)
      (search : Glob.paths s.tree s.directory w.config.sourceDirectory entry = .ok found)
      (member : p ∈ found) : Consults w s .crates (p.child WorkspaceGraph.manifestName)

end Workshop

namespace Pipeline

/-! ### What is to be seen -/

/-- The places that change when a page is made: that of the page and the log file. -/
def Changes (w : Workshop) (kind : PageKind) (s : Session) (place : Place) : Prop :=
  place = pagePlace w s.directory kind ∨ s.logFile = some place

theorem not_changes (apart : LogApart w s) {p : Path} (source : w.IsSource p)
    (unread : destination s.directory p ≠ pagePlace w s.directory kind) :
    ¬ Changes w kind s (destination s.directory p) := by
  rintro (page | log)
  · exact unread page
  · exact apart _ log p source rfl

/-- A path with another name at its end does not lead to the page. -/
theorem ne_pagePlace {directory : Place} {p : Path} {name : Text} (ending : p.parts.getLast? = some name)
    (forward : name ≠ "..") (other : name ≠ kind.fileName) :
    destination directory p ≠ pagePlace w directory kind := by
  intro same
  have last : (destination directory p).getLast? = some name :=
    FileTree.getLast?_destination ending forward
  rw [same, pagePlace_eq, List.getLast?_concat] at last
  exact other (Option.some.inj last).symm

theorem manifestName_ne_fileName (kind : PageKind) : WorkspaceGraph.manifestName ≠ kind.fileName := by
  cases kind <;> decide

theorem manifest_ne_pagePlace (directory : Place) (p : Path) :
    destination directory (p.child WorkspaceGraph.manifestName) ≠ pagePlace w directory kind := by
  refine ne_pagePlace ?_ WorkspaceGraph.isName_manifestName.noDots (manifestName_ne_fileName kind)
  rw [WorkspaceGraph.manifest_child, List.getLast?_concat]

theorem manifest_not_changes (apart : LogApart w s) (member : Text) : ¬ Changes w kind s
    (destination s.directory (WorkspaceGraph.memberManifest w.config.sourceDirectory member)) :=
  not_changes apart (.manifest member) (manifest_ne_pagePlace _ _)

theorem rootManifest_seen (apart : LogApart w s) (kind : PageKind) :
    w.IsSource (w.config.sourceDirectory.child WorkspaceGraph.manifestName) ∧
      ¬ Changes w kind s
        (destination s.directory (w.config.sourceDirectory.child WorkspaceGraph.manifestName)) := by
  have needed : (("manifest" : Text), WorkspaceGraph.manifestName) ∈ (recipe w .crates).files :=
    List.mem_cons_self ..
  exact ⟨.file needed, not_changes apart (.file needed) (manifest_ne_pagePlace _ _)⟩

/-! ### Drafts -/

/-- A template with another name than the page is filled in again. -/
theorem render_repeats (later : Later w.IsSource (Changes w kind s) s t) (apart : LogApart w s)
    {name : Text} (isName : IsName name) (other : name ≠ kind.fileName) (context : Dictionary Json) :
    Repeats w.IsSource s t (Prompt.render (Recipe.prompts w) name context) := by
  refine Prompt.render_repeats later (fun directory within => .template within name) ?_ context
  intro directory within
  refine not_changes apart (.template within name) (ne_pagePlace ?_ isName.noDots other)
  rw [Path.partsOf_of_name isName, List.getLast?_concat]

theorem startSummarizer_repeats {α : Type} {sources : Path → Prop} (later : Later sources hidden s t)
    (offline : w.IsOffline) {next : Summarizer → Program α}
    (rest : Repeats sources s t (next Summarizer.deterministic)) :
    Repeats sources s t (Recipe.startSummarizer w kind >>= next) := by
  have said : Repeats sources s t w.logOffline := by
    unfold Workshop.logOffline
    split
    · exact .log _ _ _
    · exact .log _ _ _
  rw [Recipe.startSummarizer_offline offline, bind_assoc]
  exact .bind later said fun _ => rest

/-- A file that a page asks for by name is read again. -/
theorem readSource_repeats (later : Later w.IsSource (Changes w kind s) s t) (apart : LogApart w s)
    {sources : Sources} (resolves : w.Resolves kind sources) {key : Text}
    (listed : key ∈ (recipe w kind).files.map Prod.fst)
    (unread : ∀ p, w.Consults t kind p → destination t.directory p ≠ pagePlace w t.directory kind) :
    Repeats w.IsSource s t (Program.readSource (sources.file key)) := by
  refine .readSource later (resolves.file listed) (not_changes apart (resolves.file listed) ?_)
  obtain ⟨u, v, run⟩ := resolves
  obtain ⟨relative, needed, value⟩ := (SourceTree.resolve_ok run).2.1 key listed
  rw [value, ← later.directory]
  exact unread _ (.file needed)

theorem readMachines_repeats (later : Later w.IsSource (Changes w .stateMachines s) s t)
    (apart : LogApart w s) {sources : Sources} (resolves : w.Resolves .stateMachines sources)
    (unread : ∀ p, w.Consults t .stateMachines p →
      destination t.directory p ≠ pagePlace w t.directory .stateMachines)
    {machines : List StateMachine} (within : machines ⊆ w.config.stateMachines) :
    Repeats w.IsSource s t (Recipe.readMachines w.config sources machines) := by
  induction machines with
  | nil => exact .pure _
  | cons machine machines ih =>
    obtain ⟨known, rest⟩ := List.cons_subset.mp within
    have listed : machine.key ∈ (recipe w .stateMachines).files.map Prod.fst :=
      Dictionary.mem_keys_ofList (List.mem_map.mpr
        ⟨(machine.key, machine.file), List.mem_map.mpr ⟨machine, known, rfl⟩, rfl⟩)
    exact .bind later (readSource_repeats later apart resolves listed unread) fun _ =>
      .bind later (.log _ _ _) fun _ => .bind later (ih rest) fun _ => .pure _

/-- What a manifest lists is listed later. -/
theorem lists_later (later : Later w.IsSource (Changes w kind s) s t) (apart : LogApart w s)
    {entry : Text} (listed : WorkspaceGraph.Lists s w.config.sourceDirectory entry) :
    WorkspaceGraph.Lists t w.config.sourceDirectory entry := by
  obtain ⟨manifest, entries, result, counted, member⟩ := listed
  obtain ⟨source, seen⟩ := rootManifest_seen apart kind
  have again := WorkspaceGraph.readManifest_repeats later source seen
    (WorkspaceGraph.exists_of_readManifest result)
  exact ⟨manifest, entries, again.carries _ result, counted, member⟩

theorem graph_repeats (later : Later w.IsSource (Changes w .crates s) s t) (apart : LogApart w s)
    (there : s.tree.isDirectory s.directory w.config.sourceDirectory = true)
    (short : ∀ p, w.Consults t .crates p → isPathTooLong p = false)
    (leads : AddsNoDirectory s.tree t.tree ∨ ∀ text, w.Follows s .crates text → Glob.IsOnward text) :
    Repeats w.IsSource s t (WorkspaceGraph.read w.config.crates w.config.sourceDirectory) := by
  obtain ⟨source, seen⟩ := rootManifest_seen apart .crates
  exact WorkspaceGraph.read_repeats later (fun member => .manifest member) source there seen
    (manifest_not_changes apart)
    (leads.imp_right fun leads entry listed => leads entry (.member listed))
    (fun entry listed pattern found search p member =>
      short _ (.manifest (lists_later later apart listed) pattern search member)) _

theorem records_repeats (later : Later w.IsSource (Changes w .decisions s) s t) (apart : LogApart w s)
    (there : s.tree.isDirectory s.directory
      (w.config.sourceDirectory.child w.config.decisions.directory) = true)
    (unread : ∀ p, w.Consults t .decisions p →
      destination t.directory p ≠ pagePlace w t.directory .decisions)
    (short : ∀ p, w.Consults t .decisions p → isPathTooLong p = false)
    (leads : AddsNoDirectory s.tree t.tree ∨ ∀ text, w.Follows s .decisions text → Glob.IsOnward text) :
    Repeats w.IsSource s t (DecisionRecord.readDirectory
      (w.config.sourceDirectory.child w.config.decisions.directory) w.config.decisions.pattern) := by
  refine DecisionRecord.readDirectory_repeats later
    (fun u d found search p member => .record search member) there
    (leads.imp_right fun leads => leads _ .records) ?_
  intro found search p member
  have consulted : w.Consults t .decisions p := .record search member
  have unread := unread p consulted
  rw [later.directory] at unread ⊢
  exact ⟨short p consulted, not_changes apart (.record search member) unread⟩

/-- A page is composed again of what has been found. -/
theorem compose_repeats (later : Later w.IsSource (Changes w kind s) s t) (apart : LogApart w s)
    (offline : w.IsOffline)
    (unread : ∀ p, w.Consults t kind p → destination t.directory p ≠ pagePlace w t.directory kind)
    (short : ∀ p, w.Consults t kind p → isPathTooLong p = false)
    (leads : AddsNoDirectory s.tree t.tree ∨ ∀ text, w.Follows s kind text → Glob.IsOnward text)
    {sources : Sources} (found : (((sourceTree w.config).resolve (recipe w kind).files
      (recipe w kind).directories).outcome s).1 = .ok sources) :
    Repeats w.IsSource s t ((recipe w kind).compose sources) := by
  have resolves : w.Resolves kind sources := ⟨s, exists_of_outcome_ok found⟩
  obtain ⟨root, directories⟩ := SourceTree.resolve_directories found
  cases kind with
  | schema =>
    have tables := readSource_repeats later apart resolves (List.mem_cons_self ..) unread
    have constraints := readSource_repeats later apart resolves
      (List.mem_cons_of_mem _ (List.mem_cons_self ..)) unread
    exact .bind later tables fun _ => .bind later constraints fun _ => .bind later (.log _ _ _) fun _ =>
      .pure _
  | stateMachines =>
    exact .bind later (readMachines_repeats later apart resolves unread (List.Subset.refl _)) fun _ =>
      .pure _
  | crates =>
    have graph : Repeats w.IsSource s t (WorkspaceGraph.read w.config.crates sources.root) := by
      rw [resolves.root]
      exact graph_repeats later apart root short leads
    exact .bind later graph fun _ => .bind later (.log _ _ _) fun _ => .pure _
  | errors =>
    refine .bind later (readSource_repeats later apart resolves (List.mem_cons_self ..) unread) fun text =>
      .bind later (.log _ _ _) fun _ => ?_
    dsimp only
    split
    · exact .pure _
    · have isName : IsName "error_guide.j2" := ⟨by decide, by decide, by decide, by decide⟩
      have prompts (e : ErrorEnum) : Repeats w.IsSource s t ((Recipe.enumRound w).prompt e) := by
        unfold Recipe.enumRound Prompt.errorGuide
        dsimp only
        exact render_repeats later apart isName (by decide) _
      exact startSummarizer_repeats later offline
        (.bind later (Recipe.summarizeEach_deterministic_repeats later prompts _ _ _ _) fun _ => .pure _)
  | configuration =>
    refine .bind later (readSource_repeats later apart resolves (List.mem_cons_self ..) unread) fun text =>
      .bind later (.ofExcept _ _) fun parts => .bind later (.log _ _ _) fun _ => ?_
    have isName : IsName "config_guide.j2" := ⟨by decide, by decide, by decide, by decide⟩
    have prompts (part : ConfigSection) : Repeats w.IsSource s t ((Recipe.sectionRound w).prompt part) := by
      unfold Recipe.sectionRound Prompt.configGuide
      dsimp only
      exact render_repeats later apart isName (by decide) _
    exact startSummarizer_repeats later offline
      (.bind later (Recipe.summarizeEach_deterministic_repeats later prompts _ _ _ _) fun _ => .pure _)
  | decisions =>
    have records : Repeats w.IsSource s t
        (DecisionRecord.readDirectory (sources.directory "decisions") w.config.decisions.pattern) := by
      have needed : (("decisions" : Text), w.config.decisions.directory) ∈ (recipe w .decisions).directories :=
        List.mem_cons_self ..
      have there := directories _ needed
      rw [resolves.records]
      exact records_repeats later apart there unread short leads
    refine .bind later records fun records => .bind later (.log _ _ _) fun _ => ?_
    dsimp only
    split
    · exact .pure _
    · have isName : IsName "adr_summary.j2" := ⟨by decide, by decide, by decide, by decide⟩
      have prompts (r : DecisionRecord) : Repeats w.IsSource s t ((Recipe.recordRound w).prompt r) := by
        unfold Recipe.recordRound Prompt.decision
        dsimp only
        exact render_repeats later apart isName (by decide) _
      exact startSummarizer_repeats later offline
        (.bind later (Recipe.summarizeEach_deterministic_repeats later prompts _ _ _ _) fun _ => .pure _)

/-- Without a model a page is composed by reading. -/
theorem compose_reads (offline : w.IsOffline) {sources : Sources} (resolves : w.Resolves kind sources) :
    Reads w.IsSource ((recipe w kind).compose sources) := by
  have started {α : Type} {next : Summarizer → Program α}
      (rest : Reads w.IsSource (next Summarizer.deterministic)) :
      Reads w.IsSource (Recipe.startSummarizer w kind >>= next) := by
    rw [Recipe.startSummarizer_offline offline, bind_assoc]
    refine .bind ?_ fun _ => rest
    unfold Workshop.logOffline
    split
    · exact .log _ _ _
    · exact .log _ _ _
  cases kind with
  | schema => exact Recipe.schema_reads resolves
  | stateMachines => exact Recipe.stateMachines_reads resolves
  | crates => exact Recipe.crates_reads resolves
  | errors =>
    refine .bind (Recipe.readErrors_reads resolves) fun text => .bind (.log _ _ _) fun _ => ?_
    dsimp only
    split
    · exact .pure _
    · exact started (.bind (Recipe.summarizeEach_deterministic_reads (Recipe.enumRound_reads _) _ _ _ _)
        fun _ => .pure _)
  | configuration =>
    refine .bind (Recipe.readConfiguration_reads resolves) fun text => .bind (.ofExcept _ _) fun parts =>
      .bind (.log _ _ _) fun _ => ?_
    exact started (.bind (Recipe.summarizeEach_deterministic_reads (Recipe.sectionRound_reads _) _ _ _ _)
      fun _ => .pure _)
  | decisions =>
    refine .bind (Recipe.readDecisions_reads resolves) fun records => .bind (.log _ _ _) fun _ => ?_
    dsimp only
    split
    · exact .pure _
    · exact started (.bind (Recipe.summarizeEach_deterministic_reads (Recipe.recordRound_reads _) _ _ _ _)
        fun _ => .pure _)

theorem draft_reads (offline : w.IsOffline) (kind : PageKind) : Reads w.IsSource (draft w kind) :=
  .bind (.log _ _ _) fun _ => .bind_of (SourceTree.resolve_reads _ _ _) fun u _ v found =>
    .bind (logSources_reads _ _) fun _ => compose_reads offline ⟨u, v, found⟩

/-- A draft is made again. -/
theorem draft_repeats (later : Later w.IsSource (Changes w kind s) s t) (apart : LogApart w s)
    (offline : w.IsOffline)
    (unread : ∀ p, w.Consults t kind p → destination t.directory p ≠ pagePlace w t.directory kind)
    (short : ∀ p, w.Consults t kind p → isPathTooLong p = false)
    (leads : AddsNoDirectory s.tree t.tree ∨ ∀ text, w.Follows s kind text → Glob.IsOnward text) :
    Repeats w.IsSource s t (draft w kind) := by
  have logged (paths : List Path) : Repeats w.IsSource s t (logSources kind paths) :=
    .forM later (fun _ => .log _ _ _) paths
  refine .bind later (.log _ _ _) fun _ => .bind_of later (SourceTree.resolve_repeats later _ _ _) ?_ ?_
  · exact fun u _ v found => .bind (logSources_reads _ _) fun _ => compose_reads offline ⟨u, v, found⟩
  · exact fun _ found => (Repeats.bind later (logged _) fun _ =>
      compose_repeats later apart offline unread short leads found).carries

/-! ### Pages -/

/-- The writer of pages. -/
def writer (w : Workshop) : OutputWriter := { directory := w.config.outputDirectory }

/-- What is said of a page that has been made of a draft. -/
def resultOf (w : Workshop) (kind : PageKind) (draft : Draft) : PageResult :=
  { kind, path := w.config.outputDirectory.child kind.fileName, count := draft.count
    mode := draft.summarizer.mode, fallbacks := draft.summarizer.fallbacks }

/-- A page that is made is written between entries in the log. -/
theorem make_ok_settled (offline : w.IsOffline) (sound : s.tree.IsSound)
    (clean : w.config.outputDirectory.IsClean) (apart : LogApart w s) {result : PageResult}
    (run : (make w kind).outcome s = (.ok result, t)) :
    ∃ d before after, ((draft w kind).outcome s).1 = .ok d ∧ result = resultOf w kind d ∧
      Logged s before ∧ (writer w).Settled kind.fileName (finish d).render before after ∧
      Logged after t := by
  unfold make at run
  obtain ⟨_, started, first, run⟩ := Program.outcome_bind_eq_ok run
  obtain ⟨d, before, drafted, run⟩ := Program.outcome_bind_eq_ok run
  obtain ⟨p, written, writing, run⟩ := Program.outcome_bind_eq_ok run
  obtain ⟨_, ended, last, run⟩ := Program.outcome_bind_eq_ok run
  rw [Program.outcome_log] at first last
  cases first
  cases last
  cases run
  have reads := draft_reads offline kind
  have begun := Logged.record s .debug "orchestrator" ("Running generator " ++ kind.name)
  have made := reads.logged (Program.record s .debug "orchestrator" ("Running generator " ++ kind.name))
  rw [drafted] at made
  have same := reads.outcome_logged apart begun
  rw [drafted] at same
  have logged : Logged s before := Program.Steady.trans begun made
  obtain ⟨rfl, after, settled, rfl⟩ :=
    OutputWriter.writeText_ok_settled (fileName_isName kind) clean (logged.isSound sound) writing
  exact ⟨d, before, after, same.symm, rfl, logged, settled,
    Program.Steady.trans (Logged.record after _ _ _) (Logged.record _ _ _ _)⟩

/-- A page that has been made lets the tree grow, and nothing but the page and the log file is changed. -/
theorem later_of_settled (sound : s.tree.IsSound) (apart : LogApart w s) {before after : Session}
    {content : Text} (logged : Logged s before)
    (settled : (writer w).Settled kind.fileName content before after) (loggedAfter : Logged after t) :
    Later w.IsSource (Changes w kind s) s t := by
  obtain ⟨directory, unreadable, logFile, _⟩ := logged.fields
  obtain ⟨directory', unreadable', logFile', _⟩ := loggedAfter.fields
  have grown := settled.grown
  have soundAfter := settled.sound
  obtain ⟨tree, afterEq⟩ := settled.changed
  have kept {place : Place} (log : after.logFile = some place) : s.logFile = some place := by
    rw [afterEq, logFile] at log
    dsimp only at log
    split at log
    · cases log
    · exact log
  have here : t.directory = s.directory := by rw [directory', afterEq, ← directory]
  refine ⟨here, by rw [unreadable', afterEq, ← unreadable], sound, loggedAfter.isSound soundAfter, ?_,
    apart, ?_⟩
  · have first : Grown (Changes w kind s) s.tree before.tree := logged.grown fun place log => .inr log
    have second : Grown (Changes w kind s) before.tree after.tree :=
      grown.mono fun place page => .inl (directory ▸ page)
    have third : Grown (Changes w kind s) after.tree t.tree :=
      loggedAfter.grown fun place log => .inr (kept log)
    exact (first.trans second).trans third
  · intro place log p source
    rw [here]
    exact apart place (kept (logFile' ▸ log)) p source

/-- A page is made of a draft again without a change to the files, where it stands already. -/
theorem make_stands (offline : w.IsOffline) (apart : LogApart w t) {d : Draft}
    (drafted : ((draft w kind).outcome t).1 = .ok d)
    (stands : OutputWriter.Stands (w.config.outputDirectory.child kind.fileName)
      (Utf8.encode (finish d).render) t)
    (permitted : ∀ interruption? ∈ t.interruptions, interruption? = none) :
    ∃ u, (make w kind).outcome t = (.ok (resultOf w kind d), u) ∧ SameFiles t u := by
  have reads := draft_reads offline kind
  have begun := Logged.record t .debug "orchestrator" ("Running generator " ++ kind.name)
  have same := reads.outcome_logged apart begun
  rw [drafted] at same
  obtain ⟨before, run⟩ := exists_of_outcome_ok same
  have made := reads.logged (Program.record t .debug "orchestrator" ("Running generator " ++ kind.name))
  rw [run] at made
  have logged : Logged t before := Program.Steady.trans begun made
  have standsBefore : OutputWriter.Stands ((writer w).directory.child kind.fileName)
      (Utf8.encode (finish d).render) before := stands.logged logged
  have written := OutputWriter.writeText_stands standsBefore (logged.fields.2.2.2 ▸ permitted)
  have tailed : SameFiles before { before with interruptions := before.interruptions.tail } :=
    ⟨rfl, fun _ _ => rfl⟩
  refine ⟨_, ?_, ((logged.sameFiles.trans tailed).trans (Logged.record _ .info "output" ("Output: " ++
    ((writer w).directory.child kind.fileName).toText)).sameFiles).trans (Logged.record _ .info kind.logger
      (kind.title ++ " generated (" ++ Text.ofNat d.count ++ " entities).")).sameFiles⟩
  unfold make
  rw [Program.outcome_bind_ok (Program.outcome_log ..), Program.outcome_bind_ok run]
  refine (Program.outcome_bind_ok written).trans ?_
  rw [Program.outcome_bind_ok (Program.outcome_log ..)]
  rfl

/-- Making a page again comes to the same result and leaves every file but the log file as it is, contents
and permission bits: with no model asked, and the page none of the files that it is read from. The first run
may have made directories, and must not have opened a way by it: either there was a directory for the pages
before, or what is searched and followed leads onward, by names that are not too long. -/
theorem make_again {result : PageResult} (skip : w.config.endpoint.skip = true)
    (sound : s.tree.IsSound) (clean : w.config.outputDirectory.IsClean) (apart : LogApart w s)
    (permitted : ∀ interruption? ∈ s.interruptions, interruption? = none)
    (run : (make w kind).outcome s = (.ok result, t))
    (unread : ∀ p, w.Consults t kind p → destination t.directory p ≠ pagePlace w t.directory kind)
    (short : ∀ p, w.Consults t kind p → isPathTooLong p = false)
    (leads : s.tree.isDirectory s.directory w.config.outputDirectory = true ∨
      ∀ text, w.Follows s kind text → Glob.IsOnward text) :
    ∃ u, (make w kind).outcome t = (.ok result, u) ∧ SameFiles t u := by
  obtain ⟨d, before, after, drafted, rfl, logged, settled, loggedAfter⟩ :=
    make_ok_settled (.inl skip) sound clean apart run
  have later := later_of_settled sound apart logged settled loggedAfter
  have onward : AddsNoDirectory s.tree t.tree ∨ ∀ text, w.Follows s kind text → Glob.IsOnward text := by
    refine leads.imp_left fun there => ?_
    have grown : Grown (fun _ => True) s.tree before.tree := logged.grown fun _ _ => trivial
    have grownAfter : Grown (fun _ => True) after.tree t.tree := loggedAfter.grown fun _ _ => trivial
    have thereBefore : before.tree.isDirectory before.directory w.config.outputDirectory = true := by
      rw [logged.fields.1]
      exact grown.isDirectory there
    have second := settled.unmade thereBefore
    exact (logged.addsNoDirectory.trans second settled.grown).trans loggedAfter.addsNoDirectory grownAfter
  have again := (draft_repeats later apart (.inl skip) unread short onward).carries d drafted
  refine make_stands (.inl skip) later.apartLater again (settled.stands.logged loggedAfter) ?_
  obtain ⟨tree, afterEq⟩ := settled.changed
  rw [loggedAfter.fields.2.2.2, afterEq, logged.fields.2.2.2]
  exact fun interruption? member => permitted interruption? (List.mem_of_mem_tail member)

/-- Settings that skip the model, with the pages below the source tree. -/
def skippingWorkshop : Workshop :=
  let standard := Config.standard (Path.ofText "/") (Path.ofText "/src") (Path.ofText "/src/pages")
  { config := { standard with endpoint := { standard.endpoint with skip := true } } }

/-- A source tree with one decision record and no directory for pages. -/
def recordSession : Session :=
  Session.new
    { entries :=
        [(["src"], .directory), (["src", "docs"], .directory), (["src", "docs", "decisions"], .directory),
         (["src", "docs", "decisions", "adr-7.md"],
           .file 0o644 (Utf8.encode "# Use queues\n## Decision\nWe use queues.\n"))] }
    []

theorem make_again_record : ∃ result t, (make skippingWorkshop .decisions).outcome recordSession =
    (.ok result, t) ∧ (∃ place, t.tree.lookup place ≠ recordSession.tree.lookup place) ∧
      ∃ u, (make skippingWorkshop .decisions).outcome t = (.ok result, u) ∧ SameFiles t u := by
  have made : ((make skippingWorkshop .decisions).outcome recordSession).1.isOk = true := by
    decide +kernel
  have new : ((make skippingWorkshop .decisions).outcome recordSession).2.tree.lookup ["src", "pages"] ≠
      recordSession.tree.lookup ["src", "pages"] := by decide +kernel
  have fine : (Glob.paths ((make skippingWorkshop .decisions).outcome recordSession).2.tree
      ((make skippingWorkshop .decisions).outcome recordSession).2.directory
      (skippingWorkshop.config.sourceDirectory.child skippingWorkshop.config.decisions.directory)
      skippingWorkshop.config.decisions.pattern).toOption.all (fun found => found.all fun p =>
        !isPathTooLong p && decide
          (destination ((make skippingWorkshop .decisions).outcome recordSession).2.directory p ≠
            pagePlace skippingWorkshop
              ((make skippingWorkshop .decisions).outcome recordSession).2.directory .decisions)) = true := by
    decide +kernel
  cases run : (make skippingWorkshop .decisions).outcome recordSession with
  | mk outcome t =>
    rw [run] at made new fine
    cases outcome with
    | error failure => cases made
    | ok result =>
      have consulted {p : Path} (consults : skippingWorkshop.Consults t .decisions p) :
          isPathTooLong p = false ∧
            destination t.directory p ≠ pagePlace skippingWorkshop t.directory .decisions := by
        cases consults with
        | file needed => cases needed
        | record search member =>
          rw [search] at fine
          simpa using List.all_eq_true.mp fine p member
      have sound : recordSession.tree.IsSound := by decide +kernel
      have clean : skippingWorkshop.config.outputDirectory.IsClean := by decide +kernel
      have apart : LogApart skippingWorkshop recordSession := fun place kept => by cases kept
      have permitted : ∀ interruption? ∈ recordSession.interruptions, interruption? = none :=
        fun interruption? member => by cases member
      have leads : ∀ text, skippingWorkshop.Follows recordSession .decisions text → Glob.IsOnward text := by
        rintro text ⟨⟩
        decide +kernel
      exact ⟨result, t, rfl, ⟨_, new⟩, make_again rfl sound clean apart permitted run
        (fun p consults => (consulted consults).2) (fun p consults => (consulted consults).1) (.inr leads)⟩

/-- A workspace with a member that is reached through the directory of pages, which is not there yet. -/
def detourSession : Session :=
  Session.new
    { entries :=
        [(["src"], .directory),
         (["src", "Cargo.toml"], .file 0o644 (Utf8.encode "[workspace]\nmembers = [\"pages/../core\"]\n")),
         (["src", "core"], .directory),
         (["src", "core", "Cargo.toml"], .file 0o644 (Utf8.encode "[package]\nname = \"core\"\n"))] }
    []

/-- The first page makes the directory that leads to the member, so that the second page names it. -/
theorem make_twice_detour : skippingWorkshop.config.endpoint.skip = true ∧ detourSession.tree.IsSound ∧
    ∃ result t, (make skippingWorkshop .crates).outcome detourSession = (.ok result, t) ∧
      (∀ p, skippingWorkshop.Consults t .crates p →
        destination t.directory p ≠ pagePlace skippingWorkshop t.directory .crates) ∧
      ∃ u, (make skippingWorkshop .crates).outcome t = (.ok result, u) ∧ ¬ SameFiles t u := by
  have made : ((make skippingWorkshop .crates).outcome detourSession).1.isOk = true := by
    decide +kernel
  have again : ((make skippingWorkshop .crates).outcome
      ((make skippingWorkshop .crates).outcome detourSession).2).1.toOption =
        ((make skippingWorkshop .crates).outcome detourSession).1.toOption := by decide +kernel
  have other : (((make skippingWorkshop .crates).outcome
      ((make skippingWorkshop .crates).outcome detourSession).2).2.tree.fileAt
        (pagePlace skippingWorkshop [] .crates)).map (fun file => file.2.length) ≠
      (((make skippingWorkshop .crates).outcome detourSession).2.tree.fileAt
        (pagePlace skippingWorkshop [] .crates)).map fun file => file.2.length := by decide +kernel
  have unlogged : ((make skippingWorkshop .crates).outcome detourSession).2.logFile = none := by
    decide +kernel
  cases run : (make skippingWorkshop .crates).outcome detourSession with
  | mk outcome t =>
    rw [run] at made again other unlogged
    cases outcome with
    | error failure => cases made
    | ok result =>
      cases rerun : (make skippingWorkshop .crates).outcome t with
      | mk outcome' u =>
        rw [rerun] at again other
        cases outcome' with
        | error failure => cases again
        | ok result' =>
          cases again
          refine ⟨rfl, by decide +kernel, result, t, rfl, ?_, u, rerun, fun same => other ?_⟩
          · rintro p (needed | _ | _)
            · cases List.mem_singleton.mp needed
              exact manifest_ne_pagePlace _ _
            · exact manifest_ne_pagePlace _ _
          · have page := same.2 (pagePlace skippingWorkshop [] .crates) (by rw [unlogged]; exact nofun)
            rw [FileTree.fileAt_congr page]

end Pipeline
end ReferencePages
