import ReferencePages.Proofs.FileTree.Grown
/-!
What lets a tree grow. Directories are made in directories, so that the tree stays sound; where a directory
is there already, making it changes nothing. A file with a short name takes no fresh name away.
-/

namespace ReferencePages.FileTree

variable {hidden : Place → Prop} {t u : FileTree}

/-! ### Directories -/

/-- A place that may be new has something at it, or it lies in a directory under a name that leads there. -/
theorem IsSound.locateNew_cases (sound : t.IsSound) {directory place : Place} {p : Path}
    (clean : p.IsClean) (nonempty : p.parts ≠ []) (located : t.locateNew directory p = .ok place) :
    (t.lookup place).isSome ∨ ∃ (above : Place) (name : Text), place = above ++ [name] ∧
      t.lookup above = some .directory ∧ IsName name ∧ isTooLong name = false := by
  unfold locateNew at located
  split at located
  · exact absurd (List.getLast?_eq_none_iff.mp ‹_›) nonempty
  · rename_i last ending
    have part : Path.IsPart last := clean last (List.mem_of_getLast? ending)
    split at located
    · unfold locate at located
      split at located
      · cases located
      · exact .inl (sound.walk_stands located nonempty)
    · split at located
      · cases located
      · split at located
        · cases located
        · rename_i above walked
          split at located
          · rename_i directory
            split at located
            · cases located
            · rename_i short
              cases located
              exact .inr ⟨above, last, rfl, directory, part.isName ‹_›, by simpa using short⟩
          · cases located
          · cases located

theorem IsSound.makeDirectory (sound : t.IsSound) {made : FileTree} {directory : Place} {p : Path}
    (clean : p.IsClean) (some : p.parts ≠ []) (run : t.makeDirectory directory p = .ok made) :
    made.IsSound ∧ Grown hidden t made := by
  unfold FileTree.makeDirectory at run
  split at run
  · cases run
  · rename_i place located
    split at run
    · cases run
    · rename_i free
      cases run
      rcases sound.locateNew_cases clean some located with
        there | ⟨above, name, rfl, directory, isName, short⟩
      · exact absurd there free
      · rw [Bool.not_eq_true, Option.isSome_eq_false_iff, Option.isNone_iff_eq_none] at free
        exact ⟨sound.set directory isName short (.inl rfl), .of_set (by simp) (.inl ⟨free, rfl⟩)⟩

/-- Making the directories of a path, whether it succeeds or not, keeps a tree sound and lets it grow. -/
theorem IsSound.makeAll (sound : t.IsSound) (directory : Place) (anchor : Anchor)
    {reversed : List Text} (clean : ∀ part ∈ reversed, Path.IsPart part) :
    (FileTree.makeAll directory anchor t reversed).1.IsSound ∧
      Grown hidden t (FileTree.makeAll directory anchor t reversed).1 := by
  induction reversed generalizing t with
  | nil => exact ⟨sound, .refl hidden t⟩
  | cons last above ih =>
    have some : (last :: above).reverse ≠ [] := by simp
    have whole : Path.IsClean { anchor, parts := (last :: above).reverse } :=
      fun part member => clean part (List.mem_reverse.mp member)
    have higher := ih sound fun part member => clean part (List.mem_cons_of_mem _ member)
    rw [FileTree.makeAll]
    split
    · exact sound.makeDirectory whole some ‹_›
    · split
      · rename_i run
        rw [run] at higher
        exact higher
      · rename_i run
        rw [run] at higher
        obtain ⟨sound', grown⟩ := higher
        split
        · obtain ⟨sound'', grown'⟩ := sound'.makeDirectory whole some ‹_›
          exact ⟨sound'', grown.trans grown'⟩
        · exact ⟨sound', grown⟩
        · exact ⟨sound', grown⟩
    · exact ⟨sound, .refl hidden t⟩

theorem IsSound.makeDirectories (sound : t.IsSound) (directory : Place) {p : Path} (clean : p.IsClean) :
    (t.makeDirectories directory p).1.IsSound ∧ Grown hidden t (t.makeDirectories directory p).1 :=
  sound.makeAll directory p.anchor fun part member => clean part (List.mem_reverse.mp member)

theorem walk_append_eq_ok {parts more : List Text} {here place : Place}
    (walked : t.walk here (parts ++ more) = .ok place) :
    ∃ above, t.walk here parts = .ok above ∧ t.walk above more = .ok place := by
  cases first : t.walk here parts with
  | ok above => exact ⟨above, rfl, by rw [← walk_append more first, walked]⟩
  | error fault =>
    have stopped : t.walk here (parts ++ more) = .error fault := by
      clear walked
      induction parts generalizing here with
      | nil => cases first
      | cons part parts ih =>
        rw [walk] at first
        rw [List.cons_append, walk]
        split at first
        · exact first
        · exact first
        · split at first
          · rw [if_pos ‹_›]
            exact ih first
          · rw [if_neg ‹_›]
            split at first
            · rw [if_pos ‹_›, first]
            · rw [if_neg ‹_›]
              split at first
              · rw [if_pos ‹_›, first]
              · rw [if_neg ‹_›]
                exact ih first
    rw [stopped] at walked
    cases walked

/-- A path that leads to something leads there also as one that may be new. -/
theorem locateNew_of_locate {directory place : Place} {p : Path}
    (located : t.locate directory p = .ok place) : t.locateNew directory p = .ok place := by
  unfold locateNew
  cases ending : p.parts.getLast? with
  | none =>
    unfold locate at located
    rw [List.getLast?_eq_none_iff.mp ending] at located
    split at located
    · cases located
    · exact located
  | some last =>
    dsimp only
    split
    · exact located
    · rename_i forward
      obtain ⟨parts, split_parts⟩ := List.getLast?_eq_some_iff.mp ending
      unfold locate at located
      split at located
      · cases located
      · rw [split_parts] at located
        obtain ⟨above, walked, further⟩ := walk_append_eq_ok located
        rw [if_neg ‹_›, split_parts, List.dropLast_concat, walked]
        rw [walk] at further
        dsimp only
        split at further
        · cases further
        · cases further
        · rename_i directory
          rw [directory]
          dsimp only
          split at further
          · exact absurd ‹_› forward
          · split at further
            · cases further
            · rw [if_neg ‹_›]
              split at further
              · cases further
              · exact further

/-- A directory that is there is not made again. -/
theorem makeDirectories_of_directory {directory place : Place} {p : Path}
    (located : t.locate directory p = .ok place) (there : t.lookup place = some .directory) :
    t.makeDirectories directory p = (t, none) := by
  have known : t.isDirectory directory p = true := by
    unfold isDirectory node?
    rw [located]
    exact decide_eq_true there
  have found (fault : FileFault) : t.unlessDirectory directory p fault = none := by
    unfold unlessDirectory
    rw [if_pos known]
  obtain ⟨anchor, parts⟩ := p
  unfold FileTree.makeDirectories
  cases reversed : parts.reverse with
  | nil =>
    rw [List.reverse_eq_nil_iff] at reversed
    subst reversed
    exact Prod.ext rfl (found _)
  | cons last above =>
    obtain rfl : parts = (last :: above).reverse := List.reverse_eq_iff.mp reversed
    have again : t.makeDirectory directory { anchor, parts := (last :: above).reverse } =
        .error .alreadyThere := by
      unfold FileTree.makeDirectory
      rw [locateNew_of_locate located]
      dsimp only
      rw [if_pos (by rw [there]; rfl)]
    rw [FileTree.makeAll, again]
    exact Prod.ext rfl (found _)

/-- Whether the system takes a name in a directory: neither the name nor the path with it is too long. -/
def takes (p : Path) (name : Text) : Bool := !isPathTooLong (p.child name) && !isTooLong name

/-- A name leads to a place in a directory, whatever stands there, unless it is too long. -/
theorem locateNew_name {directory place : Place} {p : Path} {name : Text}
    (isName : IsName name) (here : t.locate directory p = .ok place)
    (there : t.lookup place = some .directory) : t.locateNew directory (p.child name) =
      if takes p name then .ok (place ++ [name]) else .error .nameTooLong := by
  have walked : t.walk (start directory (p.child name)) p.parts = .ok place := by
    rw [Path.child_of_name isName]
    exact walk_of_locate here
  unfold locateNew takes
  have parts : (p.child name).parts = p.parts ++ [name] := by rw [Path.child_of_name isName]
  rw [parts, List.getLast?_concat, List.dropLast_concat]
  dsimp only
  rw [if_neg isName.noDots]
  cases isPathTooLong (p.child name) with
  | true => rfl
  | false =>
    rw [if_neg Bool.false_ne_true, walked]
    dsimp only
    rw [there]
    cases isTooLong name <;> rfl

/-! ### Files -/

/-- A node is put where it stands already. -/
theorem set_of_lookup {place : Place} {node : Node} (below : place ≠ [])
    (there : t.lookup place = some node) : t.set place node = t := by
  rw [lookup, if_neg below] at there
  have kept {entries : List (Place × Node)} (listed : find? place entries = some node) :
      replaceAt place node entries = entries := by
    induction entries with
    | nil => cases listed
    | cons entry rest ih =>
      obtain ⟨p, n⟩ := entry
      rw [find?] at listed
      split at listed
      · rename_i same
        cases listed
        rw [replaceAt, if_pos same, same]
      · rw [replaceAt, if_neg ‹_›, ih listed]
  exact congrArg FileTree.mk (kept there)

/-- What was put where nothing was can be taken away again. -/
theorem erase_set_of_free {place : Place} (below : place ≠ []) (free : t.lookup place = none)
    (node : Node) : (t.set place node).erase place = t := by
  rw [erase_set_self]
  refine congrArg FileTree.mk (List.filter_eq_self.mpr fun entry member => decide_eq_true ?_)
  rintro rfl
  rw [lookup, if_neg below] at free
  have listed := List.mem_map_of_mem (f := Prod.fst) member
  have same := places_replaceAt entry.1 node t.entries
  rw [replaceAt_of_find?_eq_none node free, if_pos listed, List.map_append] at same
  simpa using congrArg List.length same

theorem longestName_eq (t : FileTree) : t.longestName =
    ((t.entries.map Prod.fst).map fun p => (p.getLast?.getD []).length).foldl max 0 := by
  rw [longestName, List.map_map]
  rfl

/-- Fresh names hang on the places of a tree alone. -/
theorem freshName_eq (t : FileTree) (first last : Text) : t.freshName first last =
    if (t.entries.map Prod.fst).any fun p => p.getLast? = some (first ++ freshPart ++ last) then
      first ++ List.replicate (t.longestName + 1) '0' ++ last
    else first ++ freshPart ++ last := by
  rw [List.any_map]
  rfl

/-- A node with a name that is shorter than fresh names takes no fresh name away. -/
theorem freshName_set (t : FileTree) (above : Place) {name first last : Text} (node : Node)
    (shorter : name.length < (first ++ freshPart ++ last).length) :
    (t.set (above ++ [name]) node).freshName first last = t.freshName first last := by
  have places := places_replaceAt (above ++ [name]) node t.entries
  rw [freshName_eq, freshName_eq, longestName_eq, longestName_eq, FileTree.set, places]
  split
  · rfl
  · have other : ¬ (above ++ [name]).getLast? = some (first ++ freshPart ++ last) := by
      rw [List.getLast?_concat]
      rintro ⟨⟩
      omega
    rw [List.any_append, List.any_cons, List.any_nil, decide_eq_false other, Bool.or_false,
      Bool.or_false]
    split
    · rename_i found
      obtain ⟨place, listed, named⟩ := List.any_eq_true.mp found
      obtain ⟨entry, member, rfl⟩ := List.mem_map.mp listed
      have bound := length_le_longestName member (of_decide_eq_true named)
      rw [longestName_eq] at bound
      rw [List.map_append, List.foldl_append, List.map_cons, List.map_nil, List.foldl_cons,
        List.foldl_nil, List.getLast?_concat, Option.getD_some, Nat.max_eq_left (by omega)]
    · rfl

/-- A fresh name is found in the directory that the path leads to, unless it is too long. -/
theorem locateFresh_iff {directory place : Place} {above : Path} {first last : Text} :
    t.locateFresh directory above first last = .ok place ↔
      isPathTooLong (t.freshPath above first last) = false ∧
        isTooLong (t.freshName first last) = false ∧
        ∃ here, t.locate directory above = .ok here ∧ t.lookup here = some .directory ∧
          place = here ++ [t.freshName first last] := by
  unfold locateFresh
  constructor
  · intro located
    split at located
    · cases located
    · rename_i short
      split at located
      · cases located
      · rename_i here found
        split at located
        · rename_i directory
          split at located
          · cases located
          · rename_i shortName
            cases located
            exact ⟨by simpa using short, by simpa using shortName, here, found, directory, rfl⟩
        · cases located
        · cases located
  · rintro ⟨short, shortName, here, found, directory, rfl⟩
    rw [short, if_neg Bool.false_ne_true, found]
    dsimp only
    rw [directory]
    dsimp only
    rw [shortName, if_neg Bool.false_ne_true]

end ReferencePages.FileTree
