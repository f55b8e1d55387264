import ReferencePages.Proofs.FileTree.Sound
/-!
Trees that have grown. What stood in a tree still stands in a later one, files at certain places may have
come or have changed, and besides there are new directories. Paths that could be followed lead where they
led; a path that goes down through new directories alone stays among what is new.
-/

namespace ReferencePages.FileTree

/-! ### Grown trees -/

/-- The places of a tree, each with whether a directory stands there. -/
def shape (t : FileTree) : List (Place × Bool) :=
  t.entries.map fun entry => (entry.1, decide (entry.2 = .directory))

/-- A tree that has grown: what is listed anew is listed behind what was, and everything stands as it
stood, but for new directories and for files at `hidden` places. -/
structure Grown (hidden : Place → Prop) (t u : FileTree) : Prop where
  listed : ∃ added, u.shape = t.shape ++ added
  places : ∀ place, u.lookup place = t.lookup place ∨
    (t.lookup place = none ∧ u.lookup place = some .directory) ∨
    (hidden place ∧ t.lookup place ≠ some .directory ∧ (u.fileAt place).isSome)

theorem lookup_of_isSome_fileAt {t : FileTree} {place : Place} (file : (t.fileAt place).isSome) :
    ∃ mode contents, t.lookup place = some (.file mode contents) := by
  unfold fileAt at file
  split at file
  · exact ⟨_, _, ‹_›⟩
  · cases file

namespace Grown

variable {hidden : Place → Prop} {t u v : FileTree}

theorem refl (hidden : Place → Prop) (t : FileTree) : Grown hidden t t :=
  ⟨⟨[], (List.append_nil _).symm⟩, fun _ => .inl rfl⟩

theorem trans (first : Grown hidden t u) (second : Grown hidden u v) : Grown hidden t v := by
  constructor
  · obtain ⟨added, shapes⟩ := first.listed
    obtain ⟨more, shapes'⟩ := second.listed
    exact ⟨added ++ more, by rw [shapes', shapes, List.append_assoc]⟩
  · intro place
    rcases second.places place with same | ⟨free, made⟩ | ⟨hides, page, file⟩
    · rw [same, fileAt_congr same]
      exact first.places place
    · refine .inr (.inl ⟨?_, made⟩)
      rcases first.places place with same | ⟨_, made'⟩ | ⟨_, _, file'⟩
      · rw [← same, free]
      · rw [free] at made'
        cases made'
      · obtain ⟨mode, contents, found⟩ := lookup_of_isSome_fileAt file'
        rw [free] at found
        cases found
    · refine .inr (.inr ⟨hides, ?_, file⟩)
      rcases first.places place with same | ⟨_, made⟩ | ⟨_, page', _⟩
      · rwa [← same]
      · exact absurd made page
      · exact page'

theorem mono {more : Place → Prop} (grown : Grown hidden t u)
    (within : ∀ place, hidden place → more place) : Grown more t u :=
  ⟨grown.listed, fun place => (grown.places place).imp_right fun rest =>
    rest.imp_right (And.imp_left (within place))⟩

/-- A directory stays one. -/
theorem directory (grown : Grown hidden t u) {place : Place}
    (there : t.lookup place = some .directory) : u.lookup place = some .directory := by
  rcases grown.places place with same | ⟨free, _⟩ | ⟨_, page, _⟩
  · rw [same, there]
  · rw [there] at free
    cases free
  · exact absurd there page

theorem isSome (grown : Grown hidden t u) {place : Place} (there : (t.lookup place).isSome) :
    (u.lookup place).isSome := by
  rcases grown.places place with same | ⟨_, made⟩ | ⟨_, _, file⟩
  · rwa [same]
  · rw [made]
    rfl
  · obtain ⟨mode, contents, found⟩ := lookup_of_isSome_fileAt file
    rw [found]
    rfl

/-- A file stays a file. -/
theorem file (grown : Grown hidden t u) {place : Place} {mode : Nat} {contents : Bytes}
    (there : t.lookup place = some (.file mode contents)) :
    ∃ mode' contents', u.lookup place = some (.file mode' contents') := by
  rcases grown.places place with same | ⟨free, _⟩ | ⟨_, _, file⟩
  · exact ⟨mode, contents, same.trans there⟩
  · rw [there] at free
    cases free
  · exact lookup_of_isSome_fileAt file

/-- What is a directory and was there was a directory. -/
theorem directory_of_isSome (grown : Grown hidden t u) {place : Place}
    (found : u.lookup place = some .directory) (old : (t.lookup place).isSome) :
    t.lookup place = some .directory := by
  obtain ⟨node, before⟩ := Option.isSome_iff_exists.mp old
  cases node with
  | directory => exact before
  | file mode contents =>
    obtain ⟨mode', contents', file⟩ := grown.file before
    rw [found] at file
    cases file

/-- At a place that is not hidden, nothing is new but directories. -/
theorem visible (grown : Grown hidden t u) {place : Place} (seen : ¬ hidden place) :
    u.lookup place = t.lookup place ∨
      (t.lookup place = none ∧ u.lookup place = some .directory) := by
  rcases grown.places place with same | made | ⟨hides, _⟩
  · exact .inl same
  · exact .inr made
  · exact absurd hides seen

/-! ### Changes that let a tree grow -/

theorem of_sameBut {place : Place} (same : SameBut place t u) (hides : hidden place) :
    Grown hidden t u := by
  constructor
  · refine ⟨[], ?_⟩
    have shapes : u.entries.filterMap (fun entry => some (entry.1, decide (entry.2 = Node.directory))) =
        t.entries.filterMap _ := same.filterMap_eq fun p mode old new => by simp
    simpa only [shape, List.filterMap_eq_map', List.append_nil] using shapes
  · intro other
    rcases same.lookup_cases other with equal | ⟨mode, old, new, before, after⟩
    · exact .inl equal
    · by_cases here : other = place
      · refine .inr (.inr ⟨here ▸ hides, by simp [before], ?_⟩)
        rw [fileAt, after]
        rfl
      · exact .inl (same.lookup_eq here)

/-- A directory comes where nothing was, or a hidden file comes or changes. -/
theorem of_set {place : Place} {node : Node} (below : place ≠ [])
    (change : (t.lookup place = none ∧ node = .directory) ∨
      (hidden place ∧ t.lookup place ≠ some .directory ∧ node ≠ .directory)) :
    Grown hidden t (t.set place node) := by
  constructor
  · cases found : t.lookup place with
    | none =>
      refine ⟨[(place, decide (node = .directory))], ?_⟩
      rw [lookup, if_neg below] at found
      rw [shape, FileTree.set, replaceAt_of_find?_eq_none node found, List.map_append]
      rfl
    | some old =>
      refine ⟨[], ?_⟩
      rw [List.append_nil]
      rcases change with ⟨free, _⟩ | ⟨_, page, file⟩
      · rw [found] at free
        cases free
      · have listed := found
        rw [lookup, if_neg below] at listed
        have old_file : old ≠ .directory := fun same => page (same ▸ found)
        have gathered : (replaceAt place node t.entries).filterMap
            (fun entry => some (entry.1, decide (entry.2 = Node.directory))) = t.entries.filterMap _ :=
          filterMap_replaceAt listed (by simp [file, old_file])
        simpa only [shape, FileTree.set, List.filterMap_eq_map'] using gathered
  · intro other
    by_cases here : other = place
    · subst here
      rw [fileAt, lookup_set_self below]
      rcases change with ⟨free, rfl⟩ | ⟨hides, page, file⟩
      · exact .inr (.inl ⟨free, rfl⟩)
      · refine .inr (.inr ⟨hides, page, ?_⟩)
        cases node with
        | directory => exact absurd rfl file
        | file mode contents => rfl
    · exact .inl (lookup_set_of_ne here t node)

end Grown

/-! ### Paths in grown trees -/

/-- Nothing that is new is a directory. -/
def AddsNoDirectory (t u : FileTree) : Prop :=
  ∀ place, t.lookup place = none → u.lookup place ≠ some .directory

/-- Names that lead downwards, none of which is too long. -/
def LeadsDown (parts : List Text) : Prop := ∀ part ∈ parts, part ≠ ".." ∧ isTooLong part = false

/-- Parts of a path that leads downwards once it has led upwards. -/
def LeadsOnward (parts : List Text) : Prop :=
  LeadsDown (parts.dropWhile fun part => decide (part = ".."))

theorem LeadsOnward.tail {part : Text} {parts : List Text} (onward : LeadsOnward (part :: parts)) :
    LeadsOnward parts := by
  unfold LeadsOnward at onward
  rw [List.dropWhile_cons] at onward
  split at onward
  · exact onward
  · intro other member
    exact onward other (List.mem_cons_of_mem _ ((List.dropWhile_sublist _).mem member))

theorem LeadsOnward.down {part : Text} {parts : List Text} (onward : LeadsOnward (part :: parts))
    (forward : part ≠ "..") : LeadsDown (part :: parts) := by
  unfold LeadsOnward at onward
  rwa [List.dropWhile_cons_of_neg (by simpa using forward)] at onward

theorem SameBut.addsNoDirectory {place : Place} {t u : FileTree} (same : SameBut place t u) :
    AddsNoDirectory t u := by
  intro other none made
  rcases same.lookup_cases other with equal | ⟨mode, old, new, before, after⟩
  · rw [equal, none] at made
    cases made
  · rw [after] at made
    cases made

theorem AddsNoDirectory.trans {hidden : Place → Prop} {t u v : FileTree} (first : AddsNoDirectory t u)
    (second : AddsNoDirectory u v) (grown : Grown hidden u v) : AddsNoDirectory t v := by
  intro place none made
  cases between : u.lookup place with
  | none => exact second place between made
  | some node => exact first place none (grown.directory_of_isSome made (by rw [between]; rfl))

section Grown

variable {hidden : Place → Prop} {t u : FileTree}

/-- A path that leads somewhere leads there still. -/
theorem Grown.walk_ok (grown : Grown hidden t u) {here place : Place} {parts : List Text}
    (walked : t.walk here parts = .ok place) : u.walk here parts = .ok place := by
  induction parts generalizing here with
  | nil => exact walked
  | cons part parts ih =>
    rw [walk] at walked ⊢
    split at walked
    · cases walked
    · cases walked
    · rw [grown.directory ‹_›]
      dsimp only
      split at walked
      · rw [if_pos ‹_›]
        exact ih walked
      · rw [if_neg ‹_›]
        split at walked
        · cases walked
        · rw [if_neg ‹_›]
          split at walked
          · cases walked
          · rename_i there
            have still : ¬ (u.lookup (here ++ [part])).isNone := by
              rw [Bool.not_eq_true, Option.isNone_eq_false_iff] at there ⊢
              exact grown.isSome there
            rw [if_neg still]
            exact ih walked

theorem Grown.locate_ok (grown : Grown hidden t u) {directory place : Place} {p : Path}
    (located : t.locate directory p = .ok place) : u.locate directory p = .ok place := by
  unfold locate at located ⊢
  split at located
  · cases located
  · rw [if_neg ‹_›]
    exact grown.walk_ok located

/-- A file that a path leads to. -/
theorem isFile_iff {t : FileTree} {directory : Place} {p : Path} :
    t.isFile directory p = true ↔ ∃ place mode contents, t.locate directory p = .ok place ∧
      t.lookup place = some (.file mode contents) := by
  unfold isFile node?
  constructor
  · intro file
    cases located : t.locate directory p with
    | error fault =>
      rw [located] at file
      cases file
    | ok place =>
      rw [located] at file
      dsimp only at file
      split at file
      · exact ⟨place, _, _, rfl, ‹_›⟩
      · cases file
  · rintro ⟨place, mode, contents, located, found⟩
    rw [located]
    dsimp only
    rw [found]

theorem read_of_isFile {t : FileTree} {directory : Place} {p : Path}
    (file : t.isFile directory p = true) : ∃ contents, t.read directory p = .ok contents := by
  obtain ⟨place, mode, contents, located, found⟩ := isFile_iff.mp file
  refine ⟨contents, ?_⟩
  rw [FileTree.read, located]
  dsimp only
  rw [found]

/-- A directory that a path leads to. -/
theorem isDirectory_iff {t : FileTree} {directory : Place} {p : Path} :
    t.isDirectory directory p = true ↔
      ∃ place, t.locate directory p = .ok place ∧ t.lookup place = some .directory := by
  unfold isDirectory node?
  cases t.locate directory p with
  | error fault => exact ⟨nofun, nofun⟩
  | ok place => simp

theorem Grown.isFile (grown : Grown hidden t u) {directory : Place} {p : Path}
    (file : t.isFile directory p = true) : u.isFile directory p = true := by
  obtain ⟨place, mode, contents, located, found⟩ := isFile_iff.mp file
  obtain ⟨mode', contents', found'⟩ := grown.file found
  exact isFile_iff.mpr ⟨place, mode', contents', grown.locate_ok located, found'⟩

theorem Grown.isDirectory (grown : Grown hidden t u) {directory : Place} {p : Path}
    (there : t.isDirectory directory p = true) : u.isDirectory directory p = true := by
  obtain ⟨place, located, found⟩ := isDirectory_iff.mp there
  exact isDirectory_iff.mpr ⟨place, grown.locate_ok located, grown.directory found⟩

/-- A file that is not hidden is read again. -/
theorem Grown.read_ok (grown : Grown hidden t u) {directory : Place} {p : Path} {contents : Bytes}
    (seen : ¬ hidden (destination directory p)) (read : t.read directory p = .ok contents) :
    u.read directory p = .ok contents := by
  unfold FileTree.read at read ⊢
  cases located : t.locate directory p with
  | error fault =>
    rw [located] at read
    cases read
  | ok place =>
    rw [located] at read
    rw [grown.locate_ok located]
    rw [← locate_destination located] at seen
    dsimp only at read ⊢
    rcases grown.visible seen with same | ⟨free, _⟩
    · rw [same, read]
    · rw [free] at read
      cases read

/-- What following a path comes to where it has come to something new or to nothing. -/
def EndsAmongNew (t u : FileTree) (here : Place) (parts : List Text) : Prop :=
  (∃ place, u.walk here parts = .ok place ∧ t.lookup place = none) ∨
    ∃ fault, u.walk here parts = .error fault ∧ fault ≠ .nameTooLong

/-- From what is new, names lead to what is new. -/
theorem IsSound.walk_new (sound : t.IsSound) {here : Place} (new : t.lookup here = none)
    {parts : List Text} (onward : AddsNoDirectory t u ∨ LeadsDown parts) :
    EndsAmongNew t u here parts := by
  induction parts generalizing here with
  | nil => exact .inl ⟨here, rfl, new⟩
  | cons part parts ih =>
    unfold EndsAmongNew
    rw [walk]
    split
    · exact .inr ⟨_, rfl, by decide⟩
    · exact .inr ⟨_, rfl, by decide⟩
    · rename_i made
      have down : LeadsDown (part :: parts) := onward.resolve_left fun none => none here new made
      obtain ⟨forward, short⟩ := down part (List.mem_cons_self ..)
      rw [if_neg forward, short, if_neg Bool.false_ne_true]
      split
      · exact .inr ⟨_, rfl, by decide⟩
      · exact ih (sound.eq_none_of_append [part] new)
          (.inr fun other member => down other (List.mem_cons_of_mem _ member))

/-- A path that led nowhere leads to what is new at most. -/
theorem Grown.walk_error (grown : Grown hidden t u) (sound : t.IsSound) {here : Place}
    (there : (t.lookup here).isSome) {parts : List Text}
    (onward : AddsNoDirectory t u ∨ LeadsOnward parts) {fault : FileFault}
    (stopped : t.walk here parts = .error fault) (short : fault ≠ .nameTooLong) :
    EndsAmongNew t u here parts := by
  induction parts generalizing here with
  | nil => cases stopped
  | cons part parts ih =>
    have rest : AddsNoDirectory t u ∨ LeadsOnward parts := onward.imp_right LeadsOnward.tail
    rw [walk] at stopped
    split at stopped
    · rename_i free
      rw [free] at there
      cases there
    · rename_i found
      obtain ⟨mode, contents, file⟩ := grown.file found
      unfold EndsAmongNew
      rw [walk, file]
      exact .inr ⟨_, rfl, by decide⟩
    · rename_i found
      unfold EndsAmongNew
      rw [walk, grown.directory found]
      dsimp only
      split at stopped
      · rw [if_pos ‹_›]
        exact ih (by rw [sound.lookup_dropLast there]; rfl) rest stopped
      · rename_i forward
        rw [if_neg forward]
        split at stopped
        · cases stopped
          exact absurd rfl short
        · rw [if_neg ‹_›]
          split at stopped
          · rename_i free
            rw [Option.isNone_iff_eq_none] at free
            split
            · exact .inr ⟨_, rfl, by decide⟩
            · exact sound.walk_new free (onward.imp_right fun leads other member =>
                leads.down forward other (List.mem_cons_of_mem _ member))
          · rename_i found
            rw [Bool.not_eq_true, Option.isNone_eq_false_iff] at found
            have still : ¬ (u.lookup (here ++ [part])).isNone := by
              rw [Bool.not_eq_true, Option.isNone_eq_false_iff]
              exact grown.isSome found
            rw [if_neg still]
            exact ih found rest stopped

/-- What is new and to be seen is no file, and it is found or missing. -/
theorem Grown.isFile_of_new (grown : Grown hidden t u) {directory : Place} {p : Path}
    (short : isPathTooLong p = false) (new : EndsAmongNew t u (start directory p) p.parts)
    (seen : ¬ hidden (destination directory p)) :
    u.locate directory p ≠ .error .nameTooLong ∧ u.isFile directory p = false := by
  have walked : u.locate directory p = u.walk (start directory p) p.parts := by
    rw [locate, short, if_neg Bool.false_ne_true]
  unfold FileTree.isFile node?
  rw [walked]
  rcases new with ⟨place, leads, none⟩ | ⟨fault, stopped, other⟩
  · rw [leads]
    refine ⟨nofun, ?_⟩
    rw [destination, ← walk_destination leads] at seen
    dsimp only
    rcases grown.visible seen with same | ⟨_, made⟩
    · rw [same, none]
    · rw [made]
  · rw [stopped]
    exact ⟨fun same => other (Except.error.inj same), rfl⟩

/-- Whether a path leads to a file that is to be seen has the same answer in a tree that has grown, if the
path leads onward from something that was there. -/
theorem Grown.isFile_eq (grown : Grown hidden t u) (sound : t.IsSound) {directory here : Place}
    {p : Path} {first rest : List Text} (parts : p.parts = first ++ rest)
    (walked : t.walk (start directory p) first = .ok here) (there : (t.lookup here).isSome)
    (onward : AddsNoDirectory t u ∨ LeadsOnward rest)
    (fine : t.locate directory p ≠ .error .nameTooLong) (seen : ¬ hidden (destination directory p)) :
    u.locate directory p ≠ .error .nameTooLong ∧
      u.isFile directory p = t.isFile directory p := by
  cases located : t.locate directory p with
  | ok place =>
    have again := grown.locate_ok located
    rw [again]
    refine ⟨nofun, ?_⟩
    unfold FileTree.isFile node?
    rw [located, again]
    rw [← locate_destination located] at seen
    dsimp only
    rcases grown.visible seen with same | ⟨none, made⟩
    · rw [same]
    · rw [none, made]
  | error fault =>
    have other : fault ≠ .nameTooLong := by
      rintro rfl
      exact fine located
    have short : isPathTooLong p = false := by
      unfold locate at located
      split at located
      · cases located
        exact absurd rfl other
      · rename_i short
        simpa using short
    have stopped : t.walk here rest = .error fault := by
      rw [locate, short, if_neg Bool.false_ne_true, parts, walk_append rest walked] at located
      exact located
    have new : EndsAmongNew t u (start directory p) p.parts := by
      unfold EndsAmongNew
      rw [parts, walk_append rest (grown.walk_ok walked)]
      exact grown.walk_error sound there onward stopped other
    have before : t.isFile directory p = false := by
      unfold FileTree.isFile node?
      rw [located]
    rw [before]
    exact grown.isFile_of_new short new seen

/-- A path that is seen from a directory leads to a file as it did, if it leads onward. -/
theorem Grown.isFile_join_eq (grown : Grown hidden t u) (sound : t.IsSound) {directory : Place}
    {p q : Path} (there : t.isDirectory directory p = true)
    (onward : AddsNoDirectory t u ∨ LeadsOnward q.parts)
    (fine : t.locate directory (p.join q) ≠ .error .nameTooLong)
    (seen : ¬ hidden (destination directory (p.join q))) :
    u.locate directory (p.join q) ≠ .error .nameTooLong ∧
      u.isFile directory (p.join q) = t.isFile directory (p.join q) := by
  cases absolute : q.isAbsolute with
  | true =>
    rw [Path.join, if_pos absolute] at fine seen ⊢
    have walked : t.walk (start directory q) [] = .ok [] := congrArg Except.ok (if_pos absolute)
    exact grown.isFile_eq sound rfl walked (by rw [lookup_root]; rfl) onward fine seen
  | false =>
    rw [Path.join, if_neg (by rw [absolute]; exact Bool.false_ne_true)] at fine seen ⊢
    obtain ⟨place, located, found⟩ := isDirectory_iff.mp there
    exact grown.isFile_eq sound rfl (walk_of_locate located) (by rw [found]; rfl) onward fine seen

end Grown
end ReferencePages.FileTree
