import ReferencePages.Proofs.Summarizer.Work
/-!
What work on a page leaves behind before the page is written: entries in the log file, and the scratch
directory with transcripts. No page is among them.
-/

namespace ReferencePages

open Program (Moves Steady)

/-- A place in the scratch directory, or the directory itself. -/
def InScratch (s : Session) (place : Place) : Prop :=
  ∃ p, s.scratch.path = some p ∧ FileTree.destination s.directory p <+: place

theorem InScratch.mono {s t : Session} {place : Place} (within : InScratch s place)
    (directory : t.directory = s.directory)
    (scratch : ∀ p, s.scratch.path = some p → t.scratch.path = some p) : InScratch t place := by
  obtain ⟨p, made, below⟩ := within
  exact ⟨p, scratch p made, directory ▸ below⟩

/-- A state that differs from an earlier one, as far as files are concerned, in the log file and in the
scratch directory alone, and at no place of a page. -/
structure Footprint (s t : Session) : Prop where
  directory : t.directory = s.directory
  logFile : t.logFile = s.logFile
  scratch : ∀ p, s.scratch.path = some p → t.scratch.path = some p
  others : ∀ place, s.logFile ≠ some place → ¬ InScratch t place →
    t.tree.lookup place = s.tree.lookup place
  pages : ∀ (above : Place) name, IsPageName name → s.logFile ≠ some (above ++ [name]) →
    t.tree.lookup (above ++ [name]) = s.tree.lookup (above ++ [name])

namespace Footprint

instance : Steady Footprint where
  refl s := ⟨rfl, rfl, fun _ made => made, fun _ _ _ => rfl, fun _ _ _ _ => rfl⟩
  trans := by
    intro s t u first second
    have later (place : Place) (apart : s.logFile ≠ some place) : t.logFile ≠ some place := by
      rw [first.logFile]
      exact apart
    refine ⟨second.directory.trans first.directory, second.logFile.trans first.logFile,
      fun p made => second.scratch p (first.scratch p made), ?_, ?_⟩
    · intro place apart outside
      have outsideBefore : ¬ InScratch t place := fun within =>
        outside (within.mono second.directory second.scratch)
      rw [second.others place (later place apart) outside, first.others place apart outsideBefore]
    · intro above name page apart
      rw [second.pages above name page (later _ apart), first.pages above name page apart]

/-- A state with the same files shows no trace of anything. -/
theorem of_tree_eq {s t : Session} (tree : t.tree = s.tree) (directory : t.directory = s.directory)
    (logFile : t.logFile = s.logFile) (scratch : t.scratch.path = s.scratch.path) : Footprint s t :=
  ⟨directory, logFile, fun _ made => scratch.trans made, fun _ _ _ => by rw [tree],
    fun _ _ _ _ => by rw [tree]⟩

theorem record (s : Session) (level : LogLevel) (logger text : Text) :
    Footprint s (Program.record s level logger text) := by
  obtain ⟨tree, log, recorded, kept⟩ := Program.record_eq s level logger text
  rw [recorded]
  exact ⟨rfl, rfl, fun _ made => made, fun place apart _ => kept place apart,
    fun above name _ apart => kept _ apart⟩

/-- A change at one place of the scratch directory, which has not the name of a page. -/
theorem of_scratch {s t : Session} {above : Place} {name : Text} (directory : t.directory = s.directory)
    (logFile : t.logFile = s.logFile) (scratch : ∀ p, s.scratch.path = some p → t.scratch.path = some p)
    (within : InScratch t (above ++ [name])) (noPage : ¬ IsPageName name)
    (others : ∀ place, place ≠ above ++ [name] → t.tree.lookup place = s.tree.lookup place) :
    Footprint s t := by
  refine ⟨directory, logFile, scratch, ?_, ?_⟩
  · intro place _ outside
    exact others place fun same => outside (same ▸ within)
  · intro otherAbove other page _
    apply others
    intro same
    have names : other = name := (List.append_inj' same rfl).2 |> List.singleton_inj.mp
    exact noPage (names ▸ page)

end Footprint

namespace Scratch

/-- A fresh name without an end of its own ends with a zero. -/
theorem getLast?_freshName (t : FileTree) (first : Text) :
    (t.freshName first []).getLast? = some '0' := by
  obtain ⟨n, positive, fresh⟩ := t.freshName_form first []
  rw [fresh, List.append_nil, List.getLast?_append, List.getLast?_replicate,
    if_neg (Nat.ne_of_gt positive)]
  rfl

theorem destination_freshPath (t : FileTree) (directory : Place) (above : Path) (first : Text) :
    FileTree.destination directory (t.freshPath above first []) =
      FileTree.destination directory above ++ [t.freshName first []] := by
  have forward : t.freshName first [] ≠ ".." := by
    intro dots
    have ending := getLast?_freshName t first
    rw [dots] at ending
    exact absurd ending (by decide)
  rw [FileTree.freshPath, FileTree.destination, List.foldl_append, List.foldl_cons, List.foldl_nil,
    FileTree.onward, if_neg forward]
  rfl

/-- The scratch directory is there when its path is asked for, and its name is not that of a page. -/
theorem ensurePath_footprint (s : Session) :
    Footprint s (ensurePath.outcome s).2 ∧
      ∀ p, (ensurePath.outcome s).1 = .ok p → (ensurePath.outcome s).2.scratch.path = some p := by
  unfold ensurePath
  rw [Program.outcome_bind, Program.outcome_get]
  dsimp only
  split
  · rename_i p made
    refine ⟨Steady.refl s, ?_⟩
    rintro q same
    cases same
    exact made
  · rename_i unmade
    split
    · exact ⟨Steady.refl s, nofun⟩
    · rename_i place located
      rw [Program.outcome_bind, Program.outcome_set]
      dsimp only
      rw [Program.outcome_bind, Program.outcome_log]
      dsimp only
      rw [Program.outcome_pure]
      generalize (parentAndStart s.scratchParent s.scratch.nameStart).1 = above at located ⊢
      generalize (parentAndStart s.scratchParent s.scratch.nameStart).2 = first at located ⊢
      obtain ⟨form, free⟩ := FileTree.locateFresh_eq_ok located
      have noPage : ¬ IsPageName (s.tree.freshName first []) := by
        intro page
        have ending := page.getLast?
        rw [getLast?_freshName] at ending
        exact absurd ending (by decide)
      have made : Footprint s
          { s with
            tree := s.tree.set place .directory
            scratch := { s.scratch with path := some (s.tree.freshPath above first []) } } := by
        have others (other : Place)
            (ne : other ≠ FileTree.destination s.directory above ++ [s.tree.freshName first []]) :
            (s.tree.set place .directory).lookup other = s.tree.lookup other :=
          FileTree.lookup_set_of_ne (form ▸ ne) s.tree _
        refine Footprint.of_scratch rfl rfl ?_ ⟨_, rfl, ?_⟩ noPage others
        · intro p before
          rw [unmade] at before
          cases before
        · refine ⟨[], ?_⟩
          rw [List.append_nil, destination_freshPath]
      refine ⟨Steady.trans made (Footprint.record _ _ _ _), ?_⟩
      intro p same
      cases same
      exact (Footprint.record _ _ _ _).scratch _ rfl

theorem nextIndex_footprint (label : Text) : Moves Footprint (nextIndex label) :=
  fun _ => Footprint.of_tree_eq rfl rfl rfl rfl

/-- A file of the scratch directory that is written is no page. -/
theorem write_footprint {name : Text} (isName : IsName name) (noPage : ¬ IsPageName name) {p : Path}
    {s : Session} (made : s.scratch.path = some p) (contents : Bytes) :
    Footprint s ((Program.write (p.child name) contents).outcome s).2 := by
  unfold Program.write Program.changeFiles
  rw [Program.outcome_bind, Program.outcome_get]
  dsimp only
  cases written : s.tree.write s.mask s.directory (p.child name) contents with
  | error e => exact Steady.refl s
  | ok tree =>
    have kept (place : Place) (ne : place ≠ FileTree.destination s.directory p ++ [name]) :
        tree.lookup place = s.tree.lookup place := by
      unfold FileTree.write at written
      split at written
      · cases written
      · rename_i there located
        have leads := FileTree.locateNew_destination located
        rw [FileTree.destination_child isName] at leads
        split at written
        · cases written
        · cases written
          exact FileTree.lookup_set_of_ne (leads ▸ ne) _ _
        · cases written
          exact FileTree.lookup_set_of_ne (leads ▸ ne) _ _
    exact Footprint.of_scratch rfl rfl (fun _ before => before) ⟨p, made, List.prefix_append _ _⟩
      noPage kept

theorem writeJson_footprint {name : Text} (isName : IsName name) (noPage : ¬ IsPageName name)
    (value : Json) : Moves Footprint (writeJson name value) := by
  intro s
  obtain ⟨before, ensured⟩ := ensurePath_footprint s
  unfold writeJson
  rw [Program.outcome_bind]
  cases run : ensurePath.outcome s with
  | mk result t =>
    rw [run] at before ensured
    cases result with
    | error failure => exact before
    | ok p =>
      have after := write_footprint isName noPage (ensured p rfl)
        (Utf8.encode (Json.renderIndented 0 value))
      dsimp only at before after ⊢
      rw [Program.outcome_bind]
      cases run' : (Program.write (p.child name) (Utf8.encode (Json.renderIndented 0 value))).outcome t with
      | mk result' u =>
        rw [run'] at after
        cases result' <;> exact Steady.trans before after

end Scratch

instance : AdmitsWork Footprint where
  record := Footprint.record
  exchange _ _ _ := .of_tree_eq rfl rfl rfl rfl
  nextIndex := Scratch.nextIndex_footprint
  writeJson isName noPage := Scratch.writeJson_footprint isName noPage

end ReferencePages
