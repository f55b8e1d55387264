import ReferencePages.Proofs.Summarizer.Work
import ReferencePages.Proofs.Program.Repeat
import ReferencePages.Proofs.FileTree.Directories
/-!
The scratch directory while a run goes on. Once it is made it stands where its path leads, whatever is
written elsewhere, until it is removed with all that it holds.
-/

namespace ReferencePages

open Program (Logged Moves Steady)

/-! ### What the log leaves alone -/

namespace Program

variable {s t : Session}

theorem Logged.keepsDirectories (logged : Logged s t) : s.tree.KeepsDirectories t.tree := by
  have grown : FileTree.Grown (fun _ => True) s.tree t.tree := logged.grown fun _ _ => trivial
  exact fun _ there => grown.directory there

theorem Logged.lookup_eq_none (logged : Logged s t) {place : Place} (free : s.tree.lookup place = none) :
    t.tree.lookup place = none := by
  obtain ⟨tree, log, rfl, rfl | ⟨file, _, same⟩⟩ := logged
  · exact free
  · rcases same.lookup_cases place with equal | ⟨_, _, _, there, _⟩
    · rw [equal, free]
    · rw [free] at there
      cases there

end Program

/-! ### Making the scratch directory -/

namespace Scratch

/-- The path of the scratch directory that is made next. -/
def nextPath (s : Session) : Path :=
  let (above, start) := parentAndStart s.scratchParent s.scratch.nameStart
  s.tree.freshPath above start []

/-- The place of the scratch directory that is made next, unless none can be made. -/
def nextPlace (s : Session) : Except FileFault Place :=
  let (above, start) := parentAndStart s.scratchParent s.scratch.nameStart
  s.tree.locateFresh s.directory above start []

/-- The state in which the scratch directory has been made. -/
def making (s : Session) (place : Place) : Session :=
  { s with
    tree := s.tree.set place .directory
    scratch := { s.scratch with path := some (nextPath s) } }

/-- A scratch directory that has been made is used again; otherwise one is made, unless that is refused. -/
theorem ensurePath_outcome (s : Session) : ensurePath.outcome s =
    match s.scratch.path, nextPlace s with
    | some p, _ => (.ok p, s)
    | none, .error fault =>
      (.error (.file { fault, path := (nextPath s).toText, target := none }), s)
    | none, .ok place =>
      (.ok (nextPath s), Program.record (making s place) .debug "workspace"
        ("Scratch workspace at " ++ (nextPath s).toText)) := by
  unfold ensurePath
  rw [Program.outcome_bind, Program.outcome_get]
  dsimp only
  cases made : s.scratch.path with
  | some p => rfl
  | none =>
    dsimp only
    cases located : nextPlace s with
    | error fault =>
      unfold nextPlace at located
      dsimp only at located
      rw [located]
      rfl
    | ok place =>
      unfold nextPlace at located
      dsimp only at located
      rw [located]
      rfl

/-- The scratch directory, if it has been made, stands where its path leads. -/
def Stands (s : Session) : Prop :=
  ∀ p, s.scratch.path = some p → ∃ place, place ≠ [] ∧ s.tree.locate s.directory p = .ok place ∧
    s.tree.lookup place = some .directory

theorem stands_of_unmade {s : Session} (unmade : s.scratch.path = none) : Stands s := by
  intro p made
  rw [unmade] at made
  cases made

/-- A step that costs no directory, and after which the scratch directory stands if it stood before. -/
structure Upholds (s t : Session) : Prop where
  directory : t.directory = s.directory
  directories : s.tree.KeepsDirectories t.tree
  stands : Stands s → Stands t

namespace Upholds

instance : Steady Upholds where
  refl s := ⟨rfl, .refl s.tree, id⟩
  trans first second := ⟨second.directory.trans first.directory,
    first.directories.trans second.directories, second.stands ∘ first.stands⟩

/-- Where the path of the scratch directory stays, it is enough that the directories do. -/
theorem of_path {s t : Session} (directory : t.directory = s.directory)
    (path : t.scratch.path = s.scratch.path) (keeps : s.tree.KeepsDirectories t.tree) : Upholds s t := by
  refine ⟨directory, keeps, fun stands p made => ?_⟩
  obtain ⟨place, below, located, there⟩ := stands p (path ▸ made)
  rw [directory]
  exact ⟨place, below, keeps.locate_ok located there, keeps place there⟩

theorem of_tree {s : Session} {tree : FileTree} (keeps : s.tree.KeepsDirectories tree) :
    Upholds s { s with tree } := of_path rfl rfl keeps

theorem of_logged {s t : Session} (logged : Logged s t) : Upholds s t := by
  have keeps := logged.keepsDirectories
  obtain ⟨tree, log, rfl, _⟩ := logged
  exact of_path rfl rfl keeps

theorem record (s : Session) (level : LogLevel) (logger text : Text) :
    Upholds s (Program.record s level logger text) := of_logged (.record s level logger text)

end Upholds

theorem making_upholds {s : Session} {place : Place} (located : nextPlace s = .ok place) :
    Upholds s (making s place) := by
  have fresh : (s.tree.set place .directory).locate s.directory (nextPath s) = .ok place :=
    FileTree.locate_set_fresh located
  have below : place ≠ [] := by
    rw [(FileTree.locateFresh_eq_ok located).1]
    simp
  refine ⟨rfl, .of_set below (.inl rfl), fun _ p made => ?_⟩
  cases made
  exact ⟨place, below, fresh, FileTree.lookup_set_self below _ _⟩

theorem ensurePath_upholds : Moves Upholds ensurePath := by
  intro s
  rw [ensurePath_outcome]
  split
  · exact Steady.refl s
  · exact Steady.refl s
  · exact Steady.trans (making_upholds ‹_›) (Upholds.record _ _ _ _)

theorem write_upholds (p : Path) (contents : Bytes) : Moves Upholds (Program.write p contents) := by
  intro s
  unfold Program.write Program.changeFiles
  rw [Program.outcome_bind, Program.outcome_get]
  dsimp only
  cases written : s.tree.write s.mask s.directory p contents with
  | error e => exact Steady.refl s
  | ok tree => exact .of_tree (.of_write written)

instance : AdmitsWork Upholds where
  record := Upholds.record
  exchange _ _ _ := .of_path rfl rfl (.refl _)
  nextIndex _ _ := .of_path rfl rfl (.refl _)
  writeJson _ _ _ := ensurePath_upholds.bind fun _ => (write_upholds _ _).bind fun _ => .pure _

/-! ### Removing the scratch directory -/

/-- When the scratch directory has been removed, nothing is left at its place and below it. -/
structure Removed (s t : Session) : Prop where
  path : t.scratch.path = none
  gone : ∀ p, s.scratch.path = some p → ∃ place, place ≠ [] ∧ s.tree.locate s.directory p = .ok place ∧
    s.tree.lookup place = some .directory ∧ ∀ names, t.tree.lookup (place ++ names) = none

theorem cleanup_removed {s : Session} (stands : Stands s) :
    ∃ t, cleanup.outcome s = (.ok ⟨⟩, t) ∧ Removed s t := by
  unfold cleanup
  rw [Program.outcome_bind, Program.outcome_get]
  dsimp only
  cases made : s.scratch.path with
  | none =>
    refine ⟨s, rfl, made, fun p made' => ?_⟩
    rw [made] at made'
    cases made'
  | some p =>
    obtain ⟨place, below, located, there⟩ := stands p made
    dsimp only
    rw [located, Program.outcome_bind, Program.outcome_set]
    dsimp only
    rw [Program.outcome_bind, Program.outcome_log]
    dsimp only
    rw [Program.outcome_modify]
    refine ⟨_, rfl, rfl, fun q made' => ?_⟩
    cases made.symm.trans made'
    refine ⟨place, below, located, there, fun names => ?_⟩
    exact (Logged.record _ _ _ _).lookup_eq_none (FileTree.lookup_eraseBelow below s.tree names)

end Scratch
end ReferencePages
