import ReferencePages.Proofs.Glob.Found
import ReferencePages.Proofs.Program.Repeat
/-!
Searches for files, once and again later. A pattern may find more when the tree has grown, but what is new
among it is no file, so that the same files are kept.
-/

namespace ReferencePages.Glob

open FileTree (AddsNoDirectory Grown LeadsDown destination)
open Program (Later Reads Repeats)

variable {sources : Path → Prop} {hidden : Place → Prop} {s t : Session}

/-- What a pattern finds below a directory, as far as a file is there that is `asked` about for it. -/
def searchFiles (directory : Path) (pattern : Text) (asked : Path → Path) : Program (List Path) := do
  let found ← Program.ofExcept id (← Program.asks fun t d => Glob.paths t d directory pattern)
  found.filterM fun p => Program.isFile (asked p)

theorem filterAuxM_isFile_eq_ok {asked : Path → Path} {paths found reversed : List Path} {u : Session} :
    (List.filterAuxM (fun p => Program.isFile (asked p)) paths found).outcome s = (.ok reversed, u) ↔
      u = s ∧ (∀ p ∈ paths, s.tree.locate s.directory (asked p) ≠ .error .nameTooLong) ∧
        reversed = (paths.filter fun p => s.tree.isFile s.directory (asked p)).reverse ++ found := by
  induction paths generalizing found with
  | nil =>
    constructor
    · rintro ⟨⟩
      exact ⟨rfl, nofun, rfl⟩
    · rintro ⟨rfl, _, rfl⟩
      rfl
  | cons p paths ih =>
    have kept (answer : Bool) (known : answer = s.tree.isFile s.directory (asked p)) :
        ((p :: paths).filter fun p => s.tree.isFile s.directory (asked p)).reverse ++ found =
          (paths.filter fun p => s.tree.isFile s.directory (asked p)).reverse ++
            (if answer then p :: found else found) := by
      rw [List.filter_cons, ← known]
      cases answer <;> simp
    constructor
    · intro run
      obtain ⟨answer, v, first, rest⟩ := Program.outcome_bind_eq_ok run
      obtain ⟨rfl, known, fine⟩ := Program.isFile_eq_ok.mp first
      have later : (List.filterAuxM (fun p => Program.isFile (asked p)) paths
          (if answer then p :: found else found)).outcome v = (.ok reversed, u) := by
        cases answer <;> exact rest
      obtain ⟨same, all, collected⟩ := ih.mp later
      refine ⟨same, ?_, by rw [kept answer known, collected]⟩
      intro other member
      rcases List.mem_cons.mp member with rfl | behind
      · exact fine
      · exact all other behind
    · rintro ⟨rfl, all, rfl⟩
      have first : (Program.isFile (asked p)).outcome u =
          (.ok (u.tree.isFile u.directory (asked p)), u) :=
        Program.isFile_eq_ok.mpr ⟨rfl, rfl, all p (List.mem_cons_self ..)⟩
      have later := (@ih (if u.tree.isFile u.directory (asked p) then p :: found else found)).mpr
        ⟨rfl, fun other member => all other (List.mem_cons_of_mem _ member), kept _ rfl⟩
      refine (Program.outcome_bind_ok first).trans ?_
      cases answer : u.tree.isFile u.directory (asked p) with
      | true =>
        rw [answer] at later
        exact later
      | false =>
        rw [answer] at later
        exact later

/-- Questions about files keep those of the paths for which a file is there. -/
theorem filterM_isFile_eq_ok {asked : Path → Path} {paths kept : List Path} {u : Session} :
    (paths.filterM fun p => Program.isFile (asked p)).outcome s = (.ok kept, u) ↔
      u = s ∧ (∀ p ∈ paths, s.tree.locate s.directory (asked p) ≠ .error .nameTooLong) ∧
        kept = paths.filter fun p => s.tree.isFile s.directory (asked p) := by
  constructor
  · intro run
    obtain ⟨reversed, v, first, last⟩ := Program.outcome_bind_eq_ok run
    cases last
    obtain ⟨same, all, rfl⟩ := filterAuxM_isFile_eq_ok.mp first
    exact ⟨same, all, by simp⟩
  · rintro ⟨rfl, all, rfl⟩
    refine (Program.outcome_bind_ok (filterAuxM_isFile_eq_ok.mpr ⟨rfl, all, rfl⟩)).trans ?_
    rw [List.append_nil, List.reverse_reverse]
    rfl

theorem searchFiles_eq_ok {directory : Path} {pattern : Text} {asked : Path → Path} {kept : List Path}
    {u : Session} :
    (searchFiles directory pattern asked).outcome s = (.ok kept, u) ↔
      u = s ∧ ∃ found, paths s.tree s.directory directory pattern = .ok found ∧
        (∀ p ∈ found, s.tree.locate s.directory (asked p) ≠ .error .nameTooLong) ∧
        kept = found.filter fun p => s.tree.isFile s.directory (asked p) := by
  unfold searchFiles
  rw [Program.outcome_bind, Program.outcome_asks]
  dsimp only
  constructor
  · intro run
    obtain ⟨found, v, first, rest⟩ := Program.outcome_bind_eq_ok run
    have search := Program.ofExcept_eq_ok first
    rw [search] at first
    cases first
    obtain ⟨same, all, collected⟩ := filterM_isFile_eq_ok.mp rest
    exact ⟨same, found, search, all, collected⟩
  · rintro ⟨rfl, found, search, all, rfl⟩
    rw [search]
    exact filterM_isFile_eq_ok.mpr ⟨rfl, all, rfl⟩

/-- What a search for files comes to was found. -/
theorem mem_of_searchFiles {directory : Path} {pattern : Text} {asked : Path → Path} {kept : List Path}
    {u : Session} (run : (searchFiles directory pattern asked).outcome s = (.ok kept, u)) {p : Path}
    (member : p ∈ kept) : s.tree.isFile s.directory (asked p) = true ∧
      ∃ found, paths s.tree s.directory directory pattern = .ok found ∧ p ∈ found := by
  obtain ⟨_, found, search, _, rfl⟩ := searchFiles_eq_ok.mp run
  obtain ⟨within, file⟩ := List.mem_filter.mp member
  exact ⟨file, found, search, within⟩

/-- A search comes again to the same files. What is new that the pattern finds, and what is asked about
below it, is no file that is to be seen. -/
theorem searchFiles_repeats (later : Later sources hidden s t) {directory : Path} {pattern : Text}
    {asked : Path → Path} {below : List Text}
    (asks : ∀ p, asked p = { p with parts := p.parts ++ below }) (down : LeadsDown below)
    (there : s.tree.isDirectory s.directory directory = true)
    (leads : AddsNoDirectory s.tree t.tree ∨ IsOnward pattern)
    (seen : ∀ found, paths t.tree t.directory directory pattern = .ok found → ∀ p ∈ found,
      FileTree.isPathTooLong (asked p) = false ∧ ¬ hidden (destination t.directory (asked p))) :
    Repeats sources s t (searchFiles directory pattern asked) := by
  constructor
  · exact .bind (.asks fun place t u d same => same.paths_eq d _ _) fun _ => .bind (.ofExcept _ _) fun _ =>
      .filterM (fun _ => .isFile _) _
  intro kept result
  obtain ⟨u, run⟩ := Program.exists_of_outcome_ok result
  obtain ⟨_, found, search, fine, rfl⟩ := searchFiles_eq_ok.mp run
  obtain ⟨place, located, stands⟩ := FileTree.isDirectory_iff.mp there
  obtain ⟨more, again, rfl⟩ :=
    paths_extends later.grown later.sound later.soundLater located stands leads search
  have onward : FileTree.LeadsOnward below := fun part member =>
    down part ((List.dropWhile_sublist _).mem member)
  have each (p : Path) (member : p ∈ more) :
      t.tree.locate s.directory (asked p) ≠ .error .nameTooLong ∧
        t.tree.isFile s.directory (asked p) = (s.tree.isFile s.directory (asked p) &&
          (s.tree.lookup (destination s.directory p)).isSome) := by
    rw [later.directory] at seen
    obtain ⟨short, seen⟩ := seen more again p member
    obtain ⟨_, _, _, walked, _⟩ := mem_paths later.soundLater again member
    cases old : (s.tree.lookup (destination s.directory p)).isSome with
    | true =>
      have listed : p ∈ more.filter fun q =>
          (s.tree.lookup (destination s.directory q)).isSome := List.mem_filter.mpr ⟨member, old⟩
      obtain ⟨_, _, _, walkedBefore, _⟩ := mem_paths later.sound search listed
      rw [Bool.and_true]
      have parts : (asked p).parts = p.parts ++ below := by rw [asks]
      have start : FileTree.start s.directory (asked p) = FileTree.start s.directory p := by
        rw [asks]
        rfl
      rw [← start] at walkedBefore
      exact later.grown.isFile_eq later.sound parts walkedBefore old (.inr onward) (fine p listed) seen
    | false =>
      rw [Option.isSome_eq_false_iff, Option.isNone_iff_eq_none] at old
      rw [Bool.and_false]
      refine later.grown.isFile_of_new short ?_ seen
      unfold FileTree.EndsAmongNew
      rw [asks]
      have behind := FileTree.walk_append below walked
      have new := later.sound.walk_new (u := t.tree) old (.inr down)
      rcases new with ⟨last, ends, new⟩ | ⟨fault, stops, other⟩
      · exact .inl ⟨last, behind.trans ends, new⟩
      · exact .inr ⟨fault, behind.trans stops, other⟩
  have run' : (searchFiles directory pattern asked).outcome t =
      (.ok (more.filter fun p => t.tree.isFile t.directory (asked p)), t) := by
    refine searchFiles_eq_ok.mpr ⟨rfl, more, ?_, ?_, rfl⟩
    · rw [later.directory, again]
    · rw [later.directory]
      exact fun p member => (each p member).1
  rw [run', later.directory, List.filter_filter]
  exact congrArg Except.ok (List.filter_congr fun p member => (each p member).2)

end ReferencePages.Glob
