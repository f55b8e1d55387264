import ReferencePages.Proofs.Program.Reads
import ReferencePages.Pipeline
/-!
What a page is made of is read. Sources, prompts, records and the workspace are read, three kinds of
pages are composed by reading alone, and so are the others while no model is asked.
-/

namespace ReferencePages

open Program (Reads)

/-- The paths at which files are read for pages: those that a kind of page asks for, decision records that
the pattern of the settings finds in some tree, manifests of members of the workspace, and templates. -/
inductive Workshop.IsSource (w : Workshop) : Path → Prop
  | file {kind : PageKind} {key relative : Text} (needed : (key, relative) ∈ (Pipeline.recipe w kind).files) :
    IsSource w (w.config.sourceDirectory.child relative)
  | record {t : FileTree} {directory : Place} {found : List Path} {p : Path}
      (search : Glob.paths t directory (w.config.sourceDirectory.child w.config.decisions.directory)
        w.config.decisions.pattern = .ok found) (member : p ∈ found) : IsSource w p
  | manifest (member : Text) :
    IsSource w ((w.config.sourceDirectory.child member).child WorkspaceGraph.manifestName)
  | template {directory : Path} (within : (Recipe.prompts w).directory = some directory) (name : Text) :
    IsSource w { directory with parts := directory.parts ++ Path.partsOf name }

theorem PageKind.slash_not_mem_name (kind : PageKind) : '/' ∉ kind.name := by
  cases kind <;> decide

namespace Dictionary

variable {α : Type}

theorem mem_keys_set {key other : Text} {value : α} {d : Dictionary α} :
    other ∈ (set key value d).map Prod.fst ↔ other = key ∨ other ∈ d.map Prod.fst := by
  induction d with
  | nil => simp [set]
  | cons entry rest ih =>
    obtain ⟨k, v⟩ := entry
    by_cases here : k = key
    · subst here
      simp [set]
    · simp only [set, if_neg here, List.map_cons, List.mem_cons, ih]
      exact or_left_comm

/-- Every key of the pairs is a key of their dictionary. -/
theorem mem_keys_ofList {pairs : List (Text × α)} {key : Text} (listed : key ∈ pairs.map Prod.fst) :
    key ∈ (ofList pairs).map Prod.fst := by
  have folded (d : Dictionary α) (somewhere : key ∈ d.map Prod.fst ∨ key ∈ pairs.map Prod.fst) :
      key ∈ (pairs.foldl (fun d pair => set pair.1 pair.2 d) d).map Prod.fst := by
    clear listed
    induction pairs generalizing d with
    | nil => exact somewhere.resolve_right List.not_mem_nil
    | cons pair rest ih =>
      obtain ⟨k, v⟩ := pair
      apply ih
      rw [mem_keys_set]
      rcases somewhere with before | listed
      · exact .inl (.inr before)
      · rcases List.mem_cons.mp listed with here | later
        · exact .inl (.inl here)
        · exact .inr later
  exact folded [] (.inr listed)

end Dictionary

namespace SourceTree

variable {sources : Path → Prop}

theorem requireFile_reads (tree : SourceTree) (relative : Text) :
    Reads sources (tree.requireFile relative) := by
  unfold requireFile
  refine .bind (.isFile _) fun there => ?_
  split
  · exact .throw _
  · refine .bind (.isReadable _) fun readable => ?_
    split
    · exact .throw _
    · exact .pure _

theorem requireDirectory_reads (tree : SourceTree) (relative : Text) :
    Reads sources (tree.requireDirectory relative) := by
  unfold requireDirectory
  refine .bind (.isDirectory _) fun there => ?_
  split
  · exact .throw _
  · exact .pure _

theorem requireAll_reads {require : Text → Program Path}
    (each : ∀ relative, Reads sources (require relative)) (wanted : List (Text × Text))
    (found : Dictionary Path) : Reads sources (requireAll require wanted found) := by
  induction wanted generalizing found with
  | nil => exact .pure _
  | cons entry rest ih => exact .bind (each _) fun p => ih _

theorem resolve_reads (tree : SourceTree) (files directories : List (Text × Text)) :
    Reads sources (tree.resolve files directories) := by
  unfold resolve
  refine .bind (.isDirectory _) fun there => ?_
  split
  · exact .throw _
  · exact .bind (requireAll_reads tree.requireFile_reads _ _) fun _ =>
      .bind (requireAll_reads tree.requireDirectory_reads _ _) fun _ =>
        .bind (.log _ _ _) fun _ => .pure _

theorem requireFile_ok {tree : SourceTree} {relative : Text} {p : Path} {s t : Session}
    (run : (tree.requireFile relative).outcome s = (.ok p, t)) : p = tree.root.child relative := by
  unfold requireFile at run
  obtain ⟨there, _, _, rest⟩ := Program.outcome_bind_eq_ok run
  split at rest
  · cases rest
  · obtain ⟨readable, _, _, last⟩ := Program.outcome_bind_eq_ok rest
    split at last
    · cases last
    · exact (Except.ok.inj (Prod.mk.inj last).1).symm

theorem requireDirectory_ok {tree : SourceTree} {relative : Text} {p : Path} {s t : Session}
    (run : (tree.requireDirectory relative).outcome s = (.ok p, t)) : p = tree.root.child relative := by
  unfold requireDirectory at run
  obtain ⟨there, _, _, rest⟩ := Program.outcome_bind_eq_ok run
  split at rest
  · cases rest
  · exact (Except.ok.inj (Prod.mk.inj rest).1).symm

/-- Every key that is asked for stands for a path that is asked for under it. -/
theorem requireAll_ok {require : Text → Program Path} {root : Path}
    (each : ∀ relative s p t, (require relative).outcome s = (.ok p, t) → p = root.child relative)
    {wanted : List (Text × Text)} {found all : Dictionary Path} {s t : Session}
    (run : (requireAll require wanted found).outcome s = (.ok all, t)) (key : Text) :
    (∃ relative, (key, relative) ∈ wanted ∧ all.get? key = some (root.child relative)) ∨
      (key ∉ wanted.map Prod.fst ∧ all.get? key = found.get? key) := by
  induction wanted generalizing found s with
  | nil =>
    cases run
    exact .inr ⟨List.not_mem_nil, rfl⟩
  | cons entry rest ih =>
    obtain ⟨k, relative⟩ := entry
    obtain ⟨p, u, first, later⟩ := Program.outcome_bind_eq_ok run
    rcases ih later with ⟨relative', member, value⟩ | ⟨fresh, value⟩
    · exact .inl ⟨relative', List.mem_cons_of_mem _ member, value⟩
    · by_cases same : key = k
      · subst same
        rw [Dictionary.get?_set_self, each _ _ _ _ first] at value
        exact .inl ⟨relative, List.mem_cons_self .., value⟩
      · rw [Dictionary.get?_set_of_ne same] at value
        exact .inr ⟨by simpa [same] using fresh, value⟩

/-- What is asked for is found below the root. -/
theorem resolve_ok {tree : SourceTree} {files directories : List (Text × Text)} {sources : Sources}
    {s t : Session} (run : (tree.resolve files directories).outcome s = (.ok sources, t)) :
    sources.root = tree.root ∧
      (∀ key ∈ files.map Prod.fst, ∃ relative, (key, relative) ∈ files ∧
        sources.file key = tree.root.child relative) ∧
      ∀ key ∈ directories.map Prod.fst, ∃ relative, (key, relative) ∈ directories ∧
        sources.directory key = tree.root.child relative := by
  unfold resolve at run
  obtain ⟨there, _, _, rest⟩ := Program.outcome_bind_eq_ok run
  split at rest
  · cases rest
  · obtain ⟨found, _, foundFiles, rest⟩ := Program.outcome_bind_eq_ok rest
    obtain ⟨foundDirectories, _, foundBelow, rest⟩ := Program.outcome_bind_eq_ok rest
    obtain ⟨_, _, _, last⟩ := Program.outcome_bind_eq_ok rest
    cases last
    refine ⟨rfl, ?_, ?_⟩
    · intro key listed
      rcases requireAll_ok (fun _ _ _ _ => requireFile_ok) foundFiles key with
        ⟨relative, member, value⟩ | ⟨fresh, _⟩
      · exact ⟨relative, member, by simp [Sources.file, value]⟩
      · exact absurd listed fresh
    · intro key listed
      rcases requireAll_ok (fun _ _ _ _ => requireDirectory_ok) foundBelow key with
        ⟨relative, member, value⟩ | ⟨fresh, _⟩
      · exact ⟨relative, member, by simp [Sources.directory, value]⟩
      · exact absurd listed fresh

end SourceTree

/-- Sources as they are found for a kind of page. -/
def Workshop.Resolves (w : Workshop) (kind : PageKind) (sources : Sources) : Prop :=
  ∃ s t, ((Pipeline.sourceTree w.config).resolve (Pipeline.recipe w kind).files
    (Pipeline.recipe w kind).directories).outcome s = (.ok sources, t)

namespace Workshop.Resolves

variable {w : Workshop} {kind : PageKind} {sources : Sources}

theorem root (resolves : w.Resolves kind sources) : sources.root = w.config.sourceDirectory := by
  obtain ⟨s, t, run⟩ := resolves
  exact (SourceTree.resolve_ok run).1

theorem file (resolves : w.Resolves kind sources) {key : Text}
    (listed : key ∈ (Pipeline.recipe w kind).files.map Prod.fst) : w.IsSource (sources.file key) := by
  obtain ⟨s, t, run⟩ := resolves
  obtain ⟨relative, needed, value⟩ := (SourceTree.resolve_ok run).2.1 key listed
  rw [value]
  exact .file needed

theorem records (resolves : w.Resolves .decisions sources) :
    sources.directory "decisions" = w.config.sourceDirectory.child w.config.decisions.directory := by
  obtain ⟨s, t, run⟩ := resolves
  obtain ⟨relative, needed, value⟩ := (SourceTree.resolve_ok run).2.2 "decisions" (List.mem_cons_self ..)
  rw [value]
  cases List.mem_singleton.mp needed
  rfl

end Workshop.Resolves

namespace Prompt

variable {sources : Path → Prop}

theorem template_reads {b : Builder} {name : Text}
    (source : ∀ directory, b.directory = some directory →
      sources { directory with parts := directory.parts ++ Path.partsOf name }) :
    Reads sources (template b name) := by
  unfold template
  dsimp only
  split
  · exact .ofExcept _ _
  · rename_i directory within
    refine .bind (.asks fun place t u d same => same.isFile_eq d _) fun there => ?_
    split
    · exact .throw _
    · exact .bind (.readText (source directory within)) fun _ => .pure _

theorem render_reads {b : Builder} {name : Text}
    (source : ∀ directory, b.directory = some directory →
      sources { directory with parts := directory.parts ++ Path.partsOf name })
    (context : Dictionary Json) : Reads sources (render b name context) := by
  unfold render
  split
  · exact .throw _
  · refine .bind (template_reads source) fun t => ?_
    split
    · exact .throw _
    · exact .bind (.ofExcept _ _) fun _ => .pure _

end Prompt

namespace DecisionRecord

theorem readDirectory_reads {sources : Path → Prop} {directory : Path} {pattern : Text}
    (source : ∀ t d found, Glob.paths t d directory pattern = .ok found → ∀ p ∈ found, sources p) :
    Reads sources (readDirectory directory pattern) := by
  unfold readDirectory
  refine .bind_of (.asks fun place t u d same => same.paths_eq d _ _) ?_
  rintro s searched t asked
  cases asked
  refine .bind_of (.ofExcept _ _) ?_
  rintro u found v search
  refine .bind_of (.filterM Reads.isFile _) ?_
  rintro x files y kept
  refine .mapM fun p member => .bind (.readSource ?_) fun _ => .pure _
  have listed : p ∈ found := Program.mem_of_filterM kept ((List.mergeSort_perm _ _).mem_iff.mp member)
  exact source _ _ _ (Program.ofExcept_eq_ok search) p listed

end DecisionRecord

namespace WorkspaceGraph

variable {sources : Path → Prop}

theorem expandEntry_reads (root : Path) (entry : Text) : Reads sources (expandEntry root entry) := by
  unfold expandEntry
  split
  · exact .bind (.asks fun place t u d same => same.paths_eq d _ _) fun _ => .bind (.ofExcept _ _) fun _ =>
      .bind (.filterM (fun _ => .isFile _) _) fun _ => .pure _
  · exact .pure _

theorem memberPaths_reads (root : Path) (manifest : Dictionary Toml) :
    Reads sources (memberPaths root manifest) := by
  unfold memberPaths
  split
  · split
    · exact .pure _
    · exact .bind (.ofExcept _ _) fun _ => .bind (.mapM fun _ _ => expandEntry_reads root _) fun _ =>
        .pure _
  · exact .pure _

theorem readManifest_reads {p : Path} (source : sources p) : Reads sources (readManifest p) := by
  unfold readManifest
  refine .bind (.contents source) fun found => ?_
  split
  · exact .pure _
  · refine .bind (.ofExcept _ _) fun text => ?_
    split
    · exact .pure _
    · exact .pure _
    · exact .throw _
    · exact .throw _

theorem describeMember_reads {root : Path} {member : Text}
    (source : sources ((root.child member).child manifestName)) (index : Nat) :
    Reads sources (describeMember root member index) := by
  unfold describeMember
  refine .bind (.isFile _) fun there => ?_
  split
  · refine .bind (readManifest_reads source) fun found => ?_
    split
    · exact .pure _
    · exact .bind (.log _ _ _) fun _ => .pure _
  · exact .bind (.log _ _ _) fun _ => .pure _

theorem readMembers_reads {root : Path}
    (source : ∀ member, sources ((root.child member).child manifestName)) (settings : CrateSettings)
    (members : List Text) (index : Nat) : Reads sources (readMembers settings root members index) := by
  induction members generalizing index with
  | nil => exact .pure _
  | cons member members ih =>
    exact .bind (describeMember_reads (source member) index) fun _ => .bind (ih _) fun _ => .pure _

theorem read_reads {root : Path} (first : sources (root.child manifestName))
    (source : ∀ member, sources ((root.child member).child manifestName)) (settings : CrateSettings) :
    Reads sources (read settings root) := by
  unfold read
  refine .bind (readManifest_reads first) fun found => ?_
  split
  · exact .bind (memberPaths_reads root _) fun _ => .bind (readMembers_reads source settings _ _) fun _ =>
      .pure _
  · split
    · exact .throw _
    · exact .throw _
  · exact .throw _

end WorkspaceGraph

namespace Recipe

variable {w : Workshop} {sources : Sources}

theorem readMachines_reads (resolves : w.Resolves .stateMachines sources) {machines : List StateMachine}
    (within : machines ⊆ w.config.stateMachines) :
    Reads w.IsSource (readMachines w.config sources machines) := by
  induction machines with
  | nil => exact .pure _
  | cons machine machines ih =>
    obtain ⟨known, rest⟩ := List.cons_subset.mp within
    have listed : machine.key ∈ (Pipeline.recipe w .stateMachines).files.map Prod.fst :=
      Dictionary.mem_keys_ofList (List.mem_map.mpr
        ⟨(machine.key, machine.file), List.mem_map.mpr ⟨machine, known, rfl⟩, rfl⟩)
    exact .bind (.readSource (resolves.file listed)) fun _ => .bind (.log _ _ _) fun _ =>
      .bind (ih rest) fun _ => .pure _

theorem schema_reads (resolves : w.Resolves .schema sources) :
    Reads w.IsSource ((schema w.config).compose sources) :=
  .bind (.readSource (resolves.file (List.mem_cons_self ..))) fun _ =>
    .bind (.readSource (resolves.file (List.mem_cons_of_mem _ (List.mem_cons_self ..)))) fun _ =>
      .bind (.log _ _ _) fun _ => .pure _

theorem stateMachines_reads (resolves : w.Resolves .stateMachines sources) :
    Reads w.IsSource ((stateMachines w.config).compose sources) :=
  .bind (readMachines_reads resolves (List.Subset.refl _)) fun _ => .pure _

theorem crates_reads (resolves : w.Resolves .crates sources) :
    Reads w.IsSource ((crates w.config).compose sources) := by
  have graph : Reads w.IsSource (WorkspaceGraph.read w.config.crates sources.root) := by
    rw [resolves.root]
    exact WorkspaceGraph.read_reads
      (.file (show (("manifest" : Text), WorkspaceGraph.manifestName) ∈
        (Pipeline.recipe w .crates).files from List.mem_cons_self ..)) (fun member => .manifest member) _
  exact .bind graph fun _ => .bind (.log _ _ _) fun _ => .pure _

theorem readErrors_reads (resolves : w.Resolves .errors sources) :
    Reads w.IsSource (Program.readSource (sources.file "errors")) :=
  .readSource (resolves.file (List.mem_cons_self ..))

theorem readConfiguration_reads (resolves : w.Resolves .configuration sources) :
    Reads w.IsSource (Program.readSource (sources.file "config")) :=
  .readSource (resolves.file (List.mem_cons_self ..))

theorem readDecisions_reads (resolves : w.Resolves .decisions sources) :
    Reads w.IsSource
      (DecisionRecord.readDirectory (sources.directory "decisions") w.config.decisions.pattern) := by
  rw [resolves.records]
  exact DecisionRecord.readDirectory_reads fun t d found search p member => .record search member

theorem logProgress_reads {P : Path → Prop} (s : Summarizer) (kind : PageKind) (index total : Nat)
    (message : Text) : Reads P (logProgress s kind index total message) := by
  unfold logProgress
  split
  · exact .log _ _ _
  · exact .pure _

theorem enumRound_reads (w : Workshop) (e : ErrorEnum) :
    Reads w.IsSource ((enumRound w).prompt e) := by
  unfold enumRound Prompt.errorGuide
  dsimp only
  exact Prompt.render_reads (fun directory within => .template within _) _

theorem sectionRound_reads (w : Workshop) (part : ConfigSection) :
    Reads w.IsSource ((sectionRound w).prompt part) := by
  unfold sectionRound Prompt.configGuide
  dsimp only
  exact Prompt.render_reads (fun directory within => .template within _) _

theorem recordRound_reads (w : Workshop) (r : DecisionRecord) :
    Reads w.IsSource ((recordRound w).prompt r) := by
  unfold recordRound Prompt.decision
  dsimp only
  exact Prompt.render_reads (fun directory within => .template within _) _

variable {ι β : Type}

/-- Things are summarized by reading as long as no model is asked. -/
theorem summarizeEach_deterministic_reads {P : Path → Prop} {r : Round ι β}
    (prompts : ∀ x, Reads P (r.prompt x)) (kind : PageKind) (total : Nat) (xs : List ι) (index : Nat) :
    Reads P (summarizeEach kind total r xs index Summarizer.deterministic) := by
  induction xs generalizing index with
  | nil => exact .pure _
  | cons x xs ih =>
    refine .bind (logProgress_reads _ _ _ _ _) fun _ => .bind (prompts x) fun prompt => ?_
    have answered : Summarizer.deterministic.summarize (r.request x prompt) =
        pure ((r.request x prompt).deterministic, Summarizer.deterministic) := rfl
    rw [answered, pure_bind]
    exact .bind (ih _) fun _ => .pure _

end Recipe

namespace Pipeline

theorem logSources_reads {P : Path → Prop} (kind : PageKind) (paths : List Path) :
    Reads P (logSources kind paths) :=
  .forM (fun _ => .log _ _ _) paths

end Pipeline
end ReferencePages
