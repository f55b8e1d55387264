import ReferencePages.Proofs.Recipe.Reads
import ReferencePages.Proofs.Glob.Repeat
/-!
What a page is made of is read again. Files and directories that were found are found again, and a search
for files by a pattern comes to the same files.
-/

namespace ReferencePages

open FileTree (AddsNoDirectory Grown destination)
open Program (Carries Later Reads Repeats)

variable {sources : Path → Prop} {hidden : Place → Prop} {s t : Session}

namespace SourceTree

theorem requireFile_repeats (later : Later sources hidden s t) (tree : SourceTree) (relative : Text) :
    Repeats sources s t (tree.requireFile relative) := by
  unfold requireFile
  exact .bind_true later (.isFile _) later.isFile rfl
    (.bind_true later (.isReadable _) later.isReadable rfl (.pure _))

theorem requireDirectory_repeats (later : Later sources hidden s t) (tree : SourceTree)
    (relative : Text) : Repeats sources s t (tree.requireDirectory relative) := by
  unfold requireDirectory
  exact .bind_true later (.isDirectory _) later.isDirectory rfl (.pure _)

theorem requireAll_repeats (later : Later sources hidden s t) {require : Text → Program Path}
    (each : ∀ relative, Repeats sources s t (require relative)) (wanted : List (Text × Text))
    (found : Dictionary Path) : Repeats sources s t (requireAll require wanted found) := by
  induction wanted generalizing found with
  | nil => exact .pure _
  | cons entry rest ih => exact .bind later (each _) fun p => ih _

/-- What a page needs is found again. -/
theorem resolve_repeats (later : Later sources hidden s t) (tree : SourceTree)
    (files directories : List (Text × Text)) :
    Repeats sources s t (tree.resolve files directories) := by
  unfold resolve
  refine .bind_true later (.isDirectory _) later.isDirectory rfl ?_
  exact .bind later (requireAll_repeats later (requireFile_repeats later tree) _ _) fun _ =>
    .bind later (requireAll_repeats later (requireDirectory_repeats later tree) _ _) fun _ =>
      .bind later (.log _ _ _) fun _ => .pure _

theorem requireAll_each {require : Text → Program Path}
    (reads : ∀ relative, Reads sources (require relative)) (apart : Program.Unlogged sources s)
    {wanted : List (Text × Text)} {found all : Dictionary Path}
    (result : ((requireAll require wanted found).outcome s).1 = .ok all) :
    ∀ entry ∈ wanted, ∃ p, ((require entry.2).outcome s).1 = .ok p := by
  induction wanted generalizing found with
  | nil => exact nofun
  | cons first rest ih =>
    obtain ⟨p, before, after⟩ := (reads first.2).bind_eq_ok
      (fun _ p _ _ => requireAll_reads reads rest (found.set first.1 p)) apart result
    exact List.forall_mem_cons.mpr ⟨⟨p, before⟩, ih after⟩

/-- Where everything is found, the root and the directories are there. -/
theorem resolve_directories {tree : SourceTree} {files directories : List (Text × Text)}
    {found : Sources} (result : ((tree.resolve files directories).outcome s).1 = .ok found) :
    s.tree.isDirectory s.directory tree.root = true ∧
      ∀ entry ∈ directories, s.tree.isDirectory s.directory (tree.root.child entry.2) = true := by
  have apart : Program.Unlogged (fun _ => False) s := fun _ _ _ => False.elim
  have known {p : Path} {answer : Bool} (asked : ((Program.isDirectory p).outcome s).1 = .ok answer) :
      answer = s.tree.isDirectory s.directory p := by
    obtain ⟨u, run⟩ := Program.exists_of_outcome_ok asked
    exact (Program.isDirectory_eq_ok.mp run).2.1
  have required {relative : Text} {p : Path}
      (asked : ((tree.requireDirectory relative).outcome s).1 = .ok p) :
      s.tree.isDirectory s.directory (tree.root.child relative) = true := by
    obtain ⟨u, run⟩ := Program.exists_of_outcome_ok asked
    obtain ⟨there, v, before, after⟩ := Program.outcome_bind_eq_ok run
    rw [← known (by rw [before])]
    cases there with
    | true => rfl
    | false => cases after
  obtain ⟨u, run⟩ := Program.exists_of_outcome_ok result
  unfold resolve at run
  obtain ⟨there, v, asked, rest⟩ := Program.outcome_bind_eq_ok run
  obtain ⟨rfl, root, _⟩ := Program.isDirectory_eq_ok.mp asked
  cases there with
  | false => cases rest
  | true =>
    refine ⟨root.symm, fun entry member => ?_⟩
    obtain ⟨_, x, before, rest⟩ := Program.outcome_bind_eq_ok rest
    obtain ⟨_, y, after, _⟩ := Program.outcome_bind_eq_ok rest
    have first : Reads (fun _ => False) (requireAll tree.requireFile files []) :=
      requireAll_reads tree.requireFile_reads _ _
    have second : Reads (fun _ => False) (requireAll tree.requireDirectory directories []) :=
      requireAll_reads tree.requireDirectory_reads _ _
    have logged := first.logged v
    rw [before] at logged
    have here := second.outcome_logged apart logged
    rw [after] at here
    obtain ⟨p, asked⟩ := requireAll_each tree.requireDirectory_reads apart here.symm entry member
    exact required asked

end SourceTree

namespace Prompt

variable {b : Builder} {name : Text}

/-- A template that was found is read again. -/
theorem template_repeats (later : Later sources hidden s t)
    (source : ∀ directory, b.directory = some directory →
      sources { directory with parts := directory.parts ++ Path.partsOf name })
    (seen : ∀ directory, b.directory = some directory →
      ¬ hidden (destination s.directory { directory with parts := directory.parts ++ Path.partsOf name })) :
    Repeats sources s t (template b name) := by
  unfold template
  dsimp only
  split
  · exact .ofExcept _ _
  · rename_i directory within
    refine .bind_true later (.asks fun place t u d same => same.isFile_eq d _) ?_
      (if_pos (Bool.or_true _)) ?_
    · rw [Program.outcome_asks, Program.outcome_asks, later.directory]
      exact fun found => congrArg Except.ok (later.grown.isFile (Except.ok.inj found))
    · split
      · exact .throw _
      · exact .bind later (.readText later (source directory within) (seen directory within))
          fun _ => .pure _

theorem render_repeats (later : Later sources hidden s t)
    (source : ∀ directory, b.directory = some directory →
      sources { directory with parts := directory.parts ++ Path.partsOf name })
    (seen : ∀ directory, b.directory = some directory →
      ¬ hidden (destination s.directory { directory with parts := directory.parts ++ Path.partsOf name }))
    (context : Dictionary Json) : Repeats sources s t (render b name context) := by
  unfold render
  split
  · exact .throw _
  · refine .bind later (template_repeats later source seen) fun t => ?_
    split
    · exact .throw _
    · exact .bind later (.ofExcept _ _) fun _ => .pure _

end Prompt

namespace DecisionRecord

theorem readDirectory_eq (directory : Path) (pattern : Text) : readDirectory directory pattern =
    Glob.searchFiles directory pattern id >>= fun files => (sortPaths files).mapM readFile := by
  unfold readDirectory Glob.searchFiles
  simp only [bind_assoc]
  rfl

/-- The records of a directory are read again. -/
theorem readDirectory_repeats (later : Later sources hidden s t) {directory : Path} {pattern : Text}
    (source : ∀ u d found, Glob.paths u d directory pattern = .ok found → ∀ p ∈ found, sources p)
    (there : s.tree.isDirectory s.directory directory = true)
    (leads : AddsNoDirectory s.tree t.tree ∨ Glob.IsOnward pattern)
    (seen : ∀ found, Glob.paths t.tree t.directory directory pattern = .ok found → ∀ p ∈ found,
      FileTree.isPathTooLong p = false ∧ ¬ hidden (destination t.directory p)) :
    Repeats sources s t (readDirectory directory pattern) := by
  have itself (p : Path) : id p = { p with parts := p.parts ++ [] } := by rw [List.append_nil]; rfl
  have down : FileTree.LeadsDown [] := fun _ member => absurd member List.not_mem_nil
  have search : Repeats sources s t (Glob.searchFiles directory pattern id) :=
    Glob.searchFiles_repeats later itself down there leads seen
  rw [readDirectory_eq]
  refine .bind_of later search ?_ ?_
  · intro u files v run
    refine .mapM fun p member => .bind (.readSource ?_) fun _ => .pure _
    obtain ⟨_, found, searched, within⟩ :=
      Glob.mem_of_searchFiles run ((List.mergeSort_perm _ _).mem_iff.mp member)
    exact source _ _ _ searched p within
  · intro files result
    obtain ⟨u, run⟩ := Program.exists_of_outcome_ok (search.carries files result)
    have each : ∀ p ∈ sortPaths files, Repeats sources s t (readFile p) := by
      intro p member
      obtain ⟨_, found, searched, within⟩ :=
        Glob.mem_of_searchFiles run ((List.mergeSort_perm _ _).mem_iff.mp member)
      obtain ⟨_, shown⟩ := seen found searched p within
      rw [later.directory] at shown
      exact .bind later (.readSource later (source _ _ _ searched p within) shown) fun _ => .pure _
    exact (Repeats.mapM later each).carries

end DecisionRecord

namespace Recipe

theorem logProgress_repeats (summarizer : Summarizer) (kind : PageKind) (index total : Nat)
    (message : Text) : Repeats sources s t (logProgress summarizer kind index total message) := by
  unfold logProgress
  split
  · exact .log _ _ _
  · exact .pure _

variable {ι β : Type}

/-- Summaries without a model are made again if the prompts are. -/
theorem summarizeEach_deterministic_repeats (later : Later sources hidden s t) {r : Round ι β}
    (prompts : ∀ x, Repeats sources s t (r.prompt x)) (kind : PageKind) (total : Nat) (xs : List ι)
    (index : Nat) :
    Repeats sources s t (summarizeEach kind total r xs index Summarizer.deterministic) := by
  induction xs generalizing index with
  | nil => exact .pure _
  | cons x xs ih =>
    refine .bind later (logProgress_repeats _ _ _ _ _) fun _ =>
      .bind later (prompts x) fun prompt => ?_
    have answered : Summarizer.deterministic.summarize (r.request x prompt) =
        pure ((r.request x prompt).deterministic, Summarizer.deterministic) := rfl
    rw [answered, pure_bind]
    exact .bind later (ih _) fun _ => .pure _

end Recipe
end ReferencePages
