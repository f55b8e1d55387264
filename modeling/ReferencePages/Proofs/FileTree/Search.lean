import ReferencePages.Proofs.FileTree.Contents
import ReferencePages.Glob
/-!
Patterns in trees that differ in the contents of one file. A pattern is about names and directories, and
finds the same paths in both.
-/

namespace ReferencePages

namespace FileTree.SameBut

variable {place : Place} {t u : FileTree}

theorem children_map_eq (same : SameBut place t u) (above : Place) {β : Type} {f : Text × Node → β}
    (blind : ∀ name mode old new, f (name, .file mode new) = f (name, .file mode old)) :
    (u.children above).map f = (t.children above).map f := by
  unfold children
  rw [List.map_filterMap, List.map_filterMap]
  apply same.filterMap_eq
  intro p mode old new
  dsimp only
  cases p.getLast? with
  | none => rfl
  | some name =>
    dsimp only
    split
    · exact congrArg some (blind name mode old new)
    · rfl

theorem directoriesBelow_eq (same : SameBut place t u) (fuel : Nat) (above : Place) :
    Glob.directoriesBelow u fuel above = Glob.directoriesBelow t fuel above := by
  induction fuel generalizing above with
  | zero => rfl
  | succ fuel ih =>
    rw [Glob.directoriesBelow, Glob.directoriesBelow, List.flatMap_def, List.flatMap_def]
    simp only [ih]
    exact congrArg (fun found => [] :: List.flatten found)
      (same.children_map_eq above fun _ _ _ _ => rfl)

theorem select_eq (same : SameBut place t u) (parts : List GlobPart) (above : Place) :
    Glob.select u parts above = Glob.select t parts above := by
  induction parts generalizing above with
  | nil => rfl
  | cons part parts ih =>
    cases part with
    | endSlash => rfl
    | above =>
      rw [Glob.select, Glob.select, ih]
    | name s =>
      rw [Glob.select, Glob.select, ih]
      rcases same.lookup_cases (above ++ [s]) with equal | ⟨mode, old, new, before, after⟩
      · rw [equal]
      · rw [before, after]
        simp
    | pattern p =>
      rw [Glob.select, Glob.select]
      simp only [ih]
      refine congrArg Glob.Selection.all (same.children_map_eq above ?_)
      intro name mode old new
      simp
    | directories =>
      have size : u.entries.length = t.entries.length := by
        simpa using congrArg List.length (same.map_eq id)
      rw [Glob.select, Glob.select, size, same.directoriesBelow_eq]
      simp only [ih]

theorem paths_eq (same : SameBut place t u) (directory : Place) (p : Path) (pattern : Text) :
    Glob.paths u directory p pattern = Glob.paths t directory p pattern := by
  have there (found : Place) : u.isDirectoryAt found = t.isDirectoryAt found := by
    unfold isDirectoryAt
    rcases same.lookup_cases found with equal | ⟨mode, old, new, before, after⟩
    · rw [equal]
    · rw [before, after]
      rfl
  unfold Glob.paths
  simp only [same.locate_eq, there, same.select_eq]

end FileTree.SameBut

namespace Glob

theorem mem_all {found : List Selection} {paths : List (List Text)} (all : Selection.all found = .ok paths)
    {names : List Text} (member : names ∈ paths) : ∃ part, Except.ok part ∈ found ∧ names ∈ part := by
  induction found generalizing paths with
  | nil =>
    cases all
    cases member
  | cons first rest ih =>
    unfold Selection.all at all ih
    rw [List.mapM_cons] at all
    cases first with
    | error path => cases all
    | ok part =>
      cases collected : rest.mapM id with
      | error path =>
        rw [collected] at all
        cases all
      | ok parts =>
        rw [collected] at all ih
        cases all
        rcases List.mem_append.mp member with here | later
        · exact ⟨part, List.mem_cons_self .., here⟩
        · obtain ⟨part, listed, within⟩ := ih rfl later
          exact ⟨part, List.mem_cons_of_mem _ listed, within⟩

theorem select_name {t : FileTree} {form : NamePattern} {place : Place} {found : List (List Text)}
    (selected : select t [.pattern form] place = .ok found) {names : List Text} (member : names ∈ found) :
    ∃ name, names = [name] ∧ form.matchesName name = true := by
  rw [select] at selected
  obtain ⟨part, listed, within⟩ := mem_all selected member
  obtain ⟨⟨name, node⟩, _, value⟩ := List.mem_map.mp listed
  dsimp only at value
  split at value
  · rename_i fits
    cases value
    exact ⟨name, by simpa using within, (Bool.and_eq_true_iff.mp fits).2⟩
  · cases value
    cases within

/-- A pattern for one name finds files in the directory whose names have its form. -/
theorem paths_name {t : FileTree} {directory : Place} {p : Path} {pattern : Text} {form : NamePattern}
    {found : List Path} (single : ofText pattern = .ok [.pattern form])
    (search : paths t directory p pattern = .ok found) {file : Path} (member : file ∈ found) :
    ∃ name, file.parts = p.parts ++ [name] ∧ form.matchesName name = true := by
  unfold paths at search
  rw [single] at search
  dsimp only [bind, Except.bind] at search
  split at search
  · cases search
  · cases search
    cases member
  · split at search
    · split at search
      · rename_i selected
        cases search
        obtain ⟨names, listed, rfl⟩ := List.mem_map.mp member
        obtain ⟨name, rfl, fits⟩ := select_name selected listed
        exact ⟨name, rfl, fits⟩
      · cases search
    · cases search
      cases member

end Glob
end ReferencePages
