import ReferencePages.Proofs.FileTree.Made
import ReferencePages.Proofs.Output.Write
import ReferencePages.Proofs.Path.Name
import ReferencePages.Proofs.Program.Repeat
/-!
Writing a page a second time. A write that succeeds leaves a page that stands with room beside it; writing
the same page again then succeeds, and the tree is the same node for node.
-/

namespace ReferencePages.OutputWriter

open FileTree (AddsNoDirectory Grown IsSound destination isPathTooLong isTooLong)

/-- A page with given contents that stands in its place, where there is room beside it for a temporary
file. -/
structure Stands (target : Path) (contents : Bytes) (s : Session) : Prop where
  room : ∃ temporary,
    s.tree.locateFresh s.directory target.parent (temporaryStart target) temporaryEnd = .ok temporary
  located : s.tree.locate s.directory target = .ok (destination s.directory target)
  filled : ∃ mode, s.tree.lookup (destination s.directory target) = some (.file mode contents)
  logFile : s.logFile ≠ some (destination s.directory target)

/-- Entries in the log do not touch a page that stands. -/
theorem Stands.logged {target : Path} {contents : Bytes} {s t : Session} (stands : Stands target contents s)
    (logged : Program.Logged s t) : Stands target contents t := by
  obtain ⟨⟨temporary, fresh⟩, located, ⟨mode, filled⟩, logFile⟩ := stands
  obtain ⟨tree, log, rfl, rfl | ⟨place, kept, same⟩⟩ := logged
  · exact ⟨⟨temporary, fresh⟩, located, ⟨mode, filled⟩, logFile⟩
  · have apart : destination s.directory target ≠ place := by
      rintro rfl
      exact logFile kept
    exact ⟨⟨temporary, (same.locateFresh_eq ..).trans fresh⟩, (same.locate_eq ..).trans located,
      ⟨mode, (same.lookup_eq apart).trans filled⟩, logFile⟩

/-! ### What a write leaves -/

theorem makeTemporary_located {target : Path} {interruption? : Option Interruption} {temporary : Place}
    {s t : Session} (run : (makeTemporary target interruption?).outcome s = (.ok temporary, t)) :
    s.tree.locateFresh s.directory target.parent (temporaryStart target) temporaryEnd =
      .ok temporary := by
  unfold makeTemporary at run
  obtain ⟨_, u, reached, later⟩ := Program.outcome_bind_eq_ok run
  have same : u = s := by rw [← Program.reach_outcome .temporary interruption? s, reached]
  rw [same, Program.outcome_bind, Program.outcome_get] at later
  dsimp only at later
  split at later
  · cases later
  · rename_i place located
    rw [located]
    exact congrArg Except.ok (Except.ok.inj (Prod.mk.inj later).1)

/-- The temporary file is all that is changed before the page is put in its place. -/
theorem prepare_tree {target : Path} {temporary : Place} {contents : Bytes}
    {interruption? : Option Interruption} {s t : Session} (below : temporary ≠ [])
    (run : (prepare target temporary contents interruption?).outcome s = (.ok ⟨⟩, t)) :
    ∃ mode, t = { s with tree := s.tree.set temporary (.file mode contents) } := by
  obtain ⟨mode, _, rfl⟩ := prepare_steps run
  refine ⟨mode, ?_⟩
  rw [FileTree.setMode, FileTree.lookup_set_self below]
  dsimp only
  rw [FileTree.set_set_self]

/-- The page takes its place, and the tree is otherwise as it was before there was a temporary file. -/
theorem fill_tree {target : Path} {temporary : Place} {contents : Bytes}
    {interruption? : Option Interruption} {s t : Session} {tree : FileTree} (below : temporary ≠ [])
    (free : tree.lookup temporary = none) (started : s.tree = tree.set temporary (.file 0o600 []))
    (run : (fill target temporary contents interruption?).outcome s = (.ok ⟨⟩, t)) :
    ∃ place mode, (tree.set temporary (.file mode contents)).locateNew s.directory target = .ok place ∧
      (tree.set temporary (.file mode contents)).lookup place ≠ some .directory ∧
      t = { s with
        tree := tree.set place (.file mode contents)
        logFile := if s.logFile = some place then none else s.logFile } := by
  unfold fill at run
  obtain ⟨_, u, prepared, rest₁⟩ := Program.outcome_bind_eq_ok run
  obtain ⟨_, v, reached, last⟩ := Program.outcome_bind_eq_ok rest₁
  have same : v = u := by rw [← Program.reach_outcome .replacing interruption? u, reached]
  rw [same] at last
  obtain ⟨mode, uEq⟩ := prepare_tree below prepared
  rw [started, FileTree.set_set_self] at uEq
  subst uEq
  obtain ⟨place, node, located, page, filled, tEq⟩ := putInPlace_ok last
  dsimp only at located page filled tEq
  rw [FileTree.lookup_set_self below] at filled
  cases filled
  refine ⟨place, mode, located, page, ?_⟩
  rw [tEq, FileTree.erase_set_of_free below free]

/-- A directory that the path of pages leads to has room for a page and for its temporary file. -/
structure HasRoom (t : FileTree) (directory : Place) (w : OutputWriter) (fileName : Text) (above : Place) :
    Prop where
  located : t.locate directory w.directory = .ok above
  isDirectory : t.lookup above = some .directory
  fresh : ∃ temporary, t.locateFresh directory w.directory (temporaryStart (w.directory.child fileName))
    temporaryEnd = .ok temporary
  short : isPathTooLong (w.directory.child fileName) = false
  shortName : isTooLong fileName = false
  page : t.lookup (above ++ [fileName]) ≠ some .directory

/-- A write that succeeds puts the page where there is room for it once its directories are made. -/
theorem writeText_ok_room {w : OutputWriter} {fileName content : Text} (isName : IsName fileName)
    {p : Path} {s t : Session} (run : (w.writeText fileName content).outcome s = (.ok p, t)) :
    p = w.directory.child fileName ∧ ∃ above mode,
      HasRoom (s.tree.makeDirectories s.directory w.directory).1 s.directory w fileName above ∧
      t = Program.record { s with
        tree := (s.tree.makeDirectories s.directory w.directory).1.set (above ++ [fileName])
          (.file mode (Utf8.encode content))
        interruptions := s.interruptions.tail
        logFile := if s.logFile = some (above ++ [fileName]) then none else s.logFile } .info "output"
          ("Output: " ++ (w.directory.child fileName).toText) := by
  have parent := Path.parent_child isName w.directory
  obtain ⟨path, u, temporary, v, x, made, filledUp, filling, tEq⟩ := writeText_steps run
  rw [Program.makeDirectories_outcome, parent] at made
  dsimp only at made
  have uEq := (Prod.mk.inj made).2.symm
  generalize (s.tree.makeDirectories s.directory w.directory).1 = tree at uEq ⊢
  have located := makeTemporary_located filledUp
  obtain ⟨vEq, free, below, apart⟩ := makeTemporary_ok filledUp
  rw [parent] at located
  subst uEq
  dsimp only at located vEq free apart
  subst vEq
  obtain ⟨place, mode, placed, page, xEq⟩ := fill_tree below free rfl filling
  dsimp only at placed page xEq
  obtain ⟨_, _, above, found, directory, _⟩ := FileTree.locateFresh_iff.mp located
  have withTemporary : Grown (fun _ => True) tree (tree.set temporary (.file mode (Utf8.encode content))) :=
    .of_set below (.inr ⟨trivial, by simp [free], by simp⟩)
  rw [FileTree.locateNew_name isName (withTemporary.locate_ok found) (withTemporary.directory directory)]
    at placed
  split at placed
  · rename_i takes
    obtain ⟨short, shortName⟩ : isPathTooLong (w.directory.child fileName) = false ∧
        isTooLong fileName = false := by
      simpa [FileTree.takes] using takes
    cases placed
    rw [FileTree.destination_child isName, ← FileTree.locate_destination found] at apart
    rw [FileTree.lookup_set_of_ne apart] at page
    exact ⟨path, above, mode, ⟨found, directory, ⟨temporary, located⟩, short, shortName, page⟩,
      by rw [tEq, xEq]⟩
  · cases placed

namespace HasRoom

variable {t : FileTree} {directory above : Place} {w : OutputWriter} {fileName : Text}

theorem destination_eq (room : HasRoom t directory w fileName above) (isName : IsName fileName) :
    destination directory (w.directory.child fileName) = above ++ [fileName] := by
  rw [FileTree.destination_child isName, FileTree.locate_destination room.located]

theorem isSound_set (room : HasRoom t directory w fileName above) (isName : IsName fileName)
    (sound : t.IsSound) (mode : Nat) (contents : Bytes) :
    (t.set (above ++ [fileName]) (.file mode contents)).IsSound :=
  sound.set room.isDirectory isName room.shortName (.inr room.page)

theorem grown_set (room : HasRoom t directory w fileName above) (isName : IsName fileName) (mode : Nat)
    (contents : Bytes) : Grown (· = w.placeOf directory fileName) t
      (t.set (above ++ [fileName]) (.file mode contents)) :=
  .of_set (by simp) (.inr ⟨(room.destination_eq isName).symm, room.page, by simp⟩)

/-- There is room for a temporary file beside the page. -/
theorem fresh_set (room : HasRoom t directory w fileName above) (isName : IsName fileName) (mode : Nat)
    (contents : Bytes) : ∃ temporary, (t.set (above ++ [fileName]) (.file mode contents)).locateFresh
      directory w.directory (temporaryStart (w.directory.child fileName)) temporaryEnd = .ok temporary := by
  have named : (w.directory.child fileName).name = fileName := by
    rw [Path.child_of_name isName, Path.name, List.getLast?_concat, Option.getD_some]
  have shorter : fileName.length <
      (temporaryStart (w.directory.child fileName) ++ FileTree.freshPart ++ temporaryEnd).length := by
    rw [temporaryStart, named]
    simp only [List.length_append]
    have one : ("." : Text).length = 1 := rfl
    omega
  obtain ⟨temporary, fresh⟩ := room.fresh
  obtain ⟨short, shortName, here, located, there, _⟩ := FileTree.locateFresh_iff.mp fresh
  have grown := room.grown_set isName mode contents
  have same := FileTree.freshName_set t above (.file mode contents) shorter
  rw [FileTree.freshPath, ← same] at short
  rw [← same] at shortName
  exact ⟨_, FileTree.locateFresh_iff.mpr
    ⟨short, shortName, here, grown.locate_ok located, grown.directory there, rfl⟩⟩

/-- The path of the page leads to it. -/
theorem locate_set (room : HasRoom t directory w fileName above) (isName : IsName fileName)
    (sound : t.IsSound) (mode : Nat) (contents : Bytes) :
    (t.set (above ++ [fileName]) (.file mode contents)).locate directory (w.directory.child fileName) =
      .ok (above ++ [fileName]) := by
  have found := (room.grown_set isName mode contents).locate_ok room.located
  have walked := FileTree.walk_append [fileName] (FileTree.walk_of_locate found)
  have last := (room.isSound_set isName sound mode contents).walk_name
    (by rw [FileTree.lookup_set_self (by simp)]; rfl)
  rw [FileTree.locate, room.short, if_neg Bool.false_ne_true, Path.child_of_name isName]
  exact walked.trans last

end HasRoom

/-- A page has been written, and a sound tree has grown by it. -/
structure Settled (w : OutputWriter) (fileName content : Text) (s t : Session) : Prop where
  stands : Stands (w.directory.child fileName) (Utf8.encode content) t
  sound : t.tree.IsSound
  grown : Grown (· = w.placeOf s.directory fileName) s.tree t.tree
  /-- No directory is made where there was one for the page. -/
  unmade : s.tree.isDirectory s.directory w.directory = true → AddsNoDirectory s.tree t.tree
  changed : ∃ tree, t = { s with
    tree, interruptions := s.interruptions.tail
    logFile := if s.logFile = some (w.placeOf s.directory fileName) then none else s.logFile }

/-- A write that succeeds lets a sound tree grow by its page, and the page stands. -/
theorem writeText_ok_settled {w : OutputWriter} {fileName content : Text} (isName : IsName fileName)
    (clean : w.directory.IsClean) {p : Path} {s t : Session} (sound : s.tree.IsSound)
    (run : (w.writeText fileName content).outcome s = (.ok p, t)) :
    p = w.directory.child fileName ∧ ∃ u, Settled w fileName content s u ∧
      t = Program.record u .info "output" ("Output: " ++ (w.directory.child fileName).toText) := by
  obtain ⟨path, above, mode, room, tEq⟩ := writeText_ok_room isName run
  have made : (s.tree.makeDirectories s.directory w.directory).1.IsSound ∧
      Grown (· = w.placeOf s.directory fileName) s.tree
        (s.tree.makeDirectories s.directory w.directory).1 := sound.makeDirectories s.directory clean
  have unmade (there : s.tree.isDirectory s.directory w.directory = true) :
      (s.tree.makeDirectories s.directory w.directory).1 = s.tree := by
    obtain ⟨place, located, directory⟩ := FileTree.isDirectory_iff.mp there
    rw [FileTree.makeDirectories_of_directory located directory]
  obtain ⟨soundMade, grown⟩ := made
  generalize (s.tree.makeDirectories s.directory w.directory).1 = tree at room tEq soundMade grown unmade
  have leads := room.destination_eq isName
  refine ⟨path, _, ⟨⟨?_, ?_, ?_, ?_⟩, ?_, ?_, ?_, ?_⟩, tEq⟩
  · rw [Path.parent_child isName]
    exact room.fresh_set isName _ _
  · rw [leads]
    exact room.locate_set isName soundMade _ _
  · rw [leads]
    exact ⟨mode, FileTree.lookup_set_self (by simp) tree _⟩
  · rw [leads]
    dsimp only
    split
    · simp
    · assumption
  · exact room.isSound_set isName soundMade _ _
  · exact grown.trans (room.grown_set isName _ _)
  · intro there other none
    dsimp only
    rw [unmade there]
    by_cases same : other = above ++ [fileName]
    · rw [same, FileTree.lookup_set_self (by simp)]
      simp
    · rw [FileTree.lookup_set_of_ne same, none]
      simp
  · exact ⟨_, by rw [← leads]; rfl⟩

/-! ### Writing again -/

/-- The permission bits of a page that is found are read off it. -/
theorem modeFor_found {target : Path} {s : Session} {place : Place} {mode : Nat} {contents : Bytes}
    (located : s.tree.locate s.directory target = .ok place)
    (filled : s.tree.lookup place = some (.file mode contents)) :
    (modeFor target).outcome s = (.ok mode, s) := by
  have found : (Program.node? target).outcome s = (.ok (some (.file mode contents)), s) := by
    rw [Program.node?_outcome, located]
    dsimp only
    rw [filled]
  unfold modeFor
  rw [Program.outcome_bind_ok found]
  rfl

/-- A page that has the contents already is filled again without a change to the tree. -/
theorem fill_again {target : Path} {temporary place : Place} {contents : Bytes} {mode : Nat}
    {s : Session} {tree : FileTree} (below : temporary ≠ []) (free : tree.lookup temporary = none)
    (started : s.tree = tree.set temporary (.file 0o600 []))
    (located : tree.locate s.directory target = .ok place)
    (filled : tree.lookup place = some (.file mode contents)) (logFile : s.logFile ≠ some place) :
    (fill target temporary contents none).outcome s = (.ok ⟨⟩, { s with tree }) := by
  have apart : place ≠ temporary := by
    rintro rfl
    rw [free] at filled
    cases filled
  have withTemporary (node : Node) (file : node ≠ .directory) :
      Grown (fun _ => True) tree (tree.set temporary node) :=
    .of_set below (.inr ⟨trivial, by simp [free], file⟩)
  have there (node : Node) : (tree.set temporary node).lookup place = some (.file mode contents) := by
    rw [FileTree.lookup_set_of_ne apart, filled]
  have unhindered (stage : WriteStage) (u : Session) :
      (Program.reach stage none).outcome u = (.ok ⟨⟩, u) := rfl
  have prepared : (prepare target temporary contents none).outcome s =
      (.ok ⟨⟩, { s with tree := tree.set temporary (.file mode contents) }) := by
    have written : (modify fun s => { s with tree := s.tree.set temporary (.file 0o600 contents) } :
        Program PUnit).outcome s = (.ok ⟨⟩, { s with tree := tree.set temporary (.file 0o600 contents) }) := by
      rw [Program.outcome_modify, started, FileTree.set_set_self]
    have read : (modeFor target).outcome { s with tree := tree.set temporary (.file 0o600 contents) } =
        (.ok mode, { s with tree := tree.set temporary (.file 0o600 contents) }) :=
      modeFor_found ((withTemporary (.file 0o600 contents) (by simp)).locate_ok located) (there _)
    unfold prepare
    rw [Program.outcome_bind_ok (unhindered _ _), Program.outcome_bind_ok written,
      Program.outcome_bind_ok (unhindered _ _), Program.outcome_bind_ok read,
      Program.outcome_bind_ok (unhindered _ _), Program.outcome_modify]
    dsimp only
    rw [FileTree.setMode, FileTree.lookup_set_self below]
    dsimp only
    rw [FileTree.set_set_self]
  have placed : (putInPlace target temporary).outcome
      { s with tree := tree.set temporary (.file mode contents) } = (.ok ⟨⟩, { s with tree }) := by
    have leads := FileTree.locateNew_of_locate
      ((withTemporary (.file mode contents) (by simp)).locate_ok located)
    unfold putInPlace
    rw [Program.outcome_bind, Program.outcome_get]
    dsimp only
    rw [leads]
    dsimp only
    unfold replace
    rw [FileTree.lookup_set_self below, there]
    dsimp only
    rw [FileTree.erase_set_of_free below free,
      FileTree.set_of_lookup (FileTree.ne_root_of_file filled) filled, if_neg logFile]
    rfl
  unfold fill
  rw [Program.outcome_bind_ok prepared]
  exact placed

/-- A page that stands is written again without a change to the tree. -/
theorem writeText_stands {w : OutputWriter} {fileName content : Text} {s : Session}
    (stands : Stands (w.directory.child fileName) (Utf8.encode content) s)
    (free : ∀ interruption? ∈ s.interruptions, interruption? = none) :
    (w.writeText fileName content).outcome s =
      (.ok (w.directory.child fileName),
        Program.record { s with interruptions := s.interruptions.tail } .info "output"
          ("Output: " ++ (w.directory.child fileName).toText)) := by
  obtain ⟨⟨temporary, fresh⟩, located, ⟨mode, filled⟩, logFile⟩ := stands
  unfold writeText
  generalize w.directory.child fileName = target at fresh located filled logFile ⊢
  have noInterruption : s.interruptions.head?.join = none := by
    cases first : s.interruptions.head? with
    | none => rfl
    | some interruption? => rw [free interruption? (List.mem_of_head? first)]; rfl
  have begun := Program.nextInterruption_eq s
  rw [noInterruption] at begun
  obtain ⟨_, _, above, found, directory, temporaryEq⟩ := FileTree.locateFresh_iff.mp fresh
  have made : (Program.makeDirectories target.parent).outcome
      { s with interruptions := s.interruptions.tail } =
        (.ok ⟨⟩, { s with interruptions := s.interruptions.tail }) := by
    rw [Program.makeDirectories_outcome]
    dsimp only
    rw [FileTree.makeDirectories_of_directory found directory]
  have temporaryMade : (makeTemporary target none).outcome
      { s with interruptions := s.interruptions.tail } =
        (.ok temporary,
          { s with interruptions := s.interruptions.tail,
                   tree := s.tree.set temporary (.file 0o600 []) }) := by
    unfold makeTemporary
    rw [Program.outcome_bind_ok (show (Program.reach .temporary none).outcome _ = (.ok ⟨⟩, _) from rfl),
      Program.outcome_bind, Program.outcome_get]
    dsimp only
    rw [fresh]
    rfl
  have unlisted : s.tree.lookup temporary = none := by
    rw [temporaryEq]
    exact s.tree.lookup_freshName above _ _
  have filledAgain := fill_again (s := { s with
    interruptions := s.interruptions.tail, tree := s.tree.set temporary (.file 0o600 []) })
    (by rw [temporaryEq]; simp) unlisted rfl located filled logFile
  dsimp only
  rw [Program.outcome_bind_ok begun, Program.outcome_bind_ok made, Program.outcome_bind_ok temporaryMade,
    Program.outcome_bind, Program.outcome_attempt, filledAgain]
  rfl

end ReferencePages.OutputWriter
