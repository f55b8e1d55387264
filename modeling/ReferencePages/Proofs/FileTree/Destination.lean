import ReferencePages.Proofs.FileTree.Lookup
/-!
Where paths lead. A path that can be followed leads to a place that is read off the path alone, whatever
the tree holds; making directories adds directories at such places and nothing else.
-/

namespace ReferencePages.FileTree

/-- The place that one part of a path leads to from a place. -/
def onward (above : Place) (part : Text) : Place :=
  if part = ".." then above.dropLast else above ++ [part]

/-- The place that a path leads to where every part of it can be followed. -/
def destination (directory : Place) (p : Path) : Place := p.parts.foldl onward (start directory p)

theorem walk_destination {t : FileTree} {parts : List Text} {here place : Place}
    (walked : t.walk here parts = .ok place) : place = parts.foldl onward here := by
  induction parts generalizing here with
  | nil =>
    cases walked
    rfl
  | cons part parts ih =>
    rw [walk] at walked
    split at walked
    · cases walked
    · cases walked
    · rw [List.foldl_cons, onward]
      split at walked
      · rw [if_pos ‹_›]
        exact ih walked
      · rw [if_neg ‹_›]
        split at walked
        · cases walked
        · split at walked
          · cases walked
          · exact ih walked

theorem locate_destination {t : FileTree} {directory : Place} {p : Path} {place : Place}
    (located : t.locate directory p = .ok place) : place = destination directory p := by
  unfold locate at located
  split at located
  · cases located
  · exact walk_destination located

/-- The path without its last part leads to the place above, unless the last part leads upwards itself. -/
theorem destination_of_getLast? {directory : Place} {p : Path} {last : Text}
    (ending : p.parts.getLast? = some last) :
    destination directory p = onward (destination directory p.parent) last := by
  obtain ⟨above, split⟩ := List.getLast?_eq_some_iff.mp ending
  simp only [destination, Path.parent, split, List.dropLast_concat, List.foldl_append]
  rfl

theorem getLast?_destination {directory : Place} {p : Path} {last : Text}
    (ending : p.parts.getLast? = some last) (forward : last ≠ "..") :
    (destination directory p).getLast? = some last := by
  rw [destination_of_getLast? ending, onward, if_neg forward, List.getLast?_concat]

theorem locateNew_destination {t : FileTree} {directory : Place} {p : Path} {place : Place}
    (located : t.locateNew directory p = .ok place) : place = destination directory p := by
  unfold locateNew at located
  split at located
  · rename_i none
    cases located
    simp [destination, List.getLast?_eq_none_iff.mp none]
  · rename_i last ending
    split at located
    · exact locate_destination located
    · rename_i forward
      rw [destination_of_getLast? ending, onward, if_neg forward]
      split at located
      · cases located
      · split at located
        · cases located
        · rename_i above walked
          have higher : above = destination directory p.parent := walk_destination walked
          split at located
          · split at located
            · cases located
            · cases located
              rw [higher]
          · cases located
          · cases located

/-- A node with a fresh name is made in the directory that the path leads to, where nothing has its
name. -/
theorem locateFresh_eq_ok {t : FileTree} {directory : Place} {above : Path} {first last : Text}
    {place : Place} (located : t.locateFresh directory above first last = .ok place) :
    place = destination directory above ++ [t.freshName first last] ∧ t.lookup place = none := by
  unfold locateFresh at located
  split at located
  · cases located
  · split at located
    · cases located
    · rename_i higher found
      split at located
      · split at located
        · cases located
        · cases located
          exact ⟨by rw [locate_destination found], t.lookup_freshName higher first last⟩
      · cases located
      · cases located

/-- Two trees that have directories at the same places and files at the same places. -/
def SameShape (t u : FileTree) : Prop :=
  ∀ place, (t.lookup place).map (· = .directory) = (u.lookup place).map (· = .directory)

theorem SameShape.cases {t u : FileTree} (same : SameShape t u) (place : Place) :
    (t.lookup place = none ∧ u.lookup place = none) ∨
      (t.lookup place = some .directory ∧ u.lookup place = some .directory) ∨
      ∃ mode contents mode' contents', t.lookup place = some (.file mode contents) ∧
        u.lookup place = some (.file mode' contents') := by
  have kinds := same place
  cases first : t.lookup place with
  | none =>
    rw [first] at kinds
    exact .inl ⟨rfl, Option.map_eq_none_iff.mp kinds.symm⟩
  | some node =>
    rw [first] at kinds
    obtain ⟨other, second, kind⟩ := Option.map_eq_some_iff.mp kinds.symm
    cases node with
    | directory =>
      have directory : other = .directory := by simpa using kind
      exact .inr (.inl ⟨rfl, second.trans (congrArg some directory)⟩)
    | file mode contents =>
      cases other with
      | directory => simp at kind
      | file mode' contents' => exact .inr (.inr ⟨_, _, _, _, rfl, second⟩)

/-- Paths lead to the same places in trees of the same shape. -/
theorem SameShape.walk_eq {t u : FileTree} (same : SameShape t u) (here : Place) (parts : List Text) :
    t.walk here parts = u.walk here parts := by
  induction parts generalizing here with
  | nil => rfl
  | cons part parts ih =>
    have there : (t.lookup (here ++ [part])).isNone = (u.lookup (here ++ [part])).isNone := by
      rcases same.cases (here ++ [part]) with ⟨first, second⟩ | ⟨first, second⟩ |
        ⟨_, _, _, _, first, second⟩
      all_goals simp [first, second]
    rw [walk, walk, there, ih, ih]
    rcases same.cases here with ⟨first, second⟩ | ⟨first, second⟩ | ⟨_, _, _, _, first, second⟩
    all_goals rw [first, second]

theorem SameShape.locateNew_eq {t u : FileTree} (same : SameShape t u) (directory : Place) (p : Path) :
    t.locateNew directory p = u.locateNew directory p := by
  unfold locateNew locate
  simp only [same.walk_eq]
  split
  · rfl
  · split
    · rfl
    · split
      · rfl
      · split
        · rfl
        · rename_i above _
          rcases same.cases above with ⟨first, second⟩ | ⟨first, second⟩ | ⟨_, _, _, _, first, second⟩
          all_goals rw [first, second]

/-- A path is followed one part of it after the other. -/
theorem walk_append {t : FileTree} {parts : List Text} {here above : Place} (more : List Text)
    (walked : t.walk here parts = .ok above) : t.walk here (parts ++ more) = t.walk above more := by
  induction parts generalizing here with
  | nil =>
    cases walked
    rfl
  | cons first parts ih =>
    rw [walk] at walked
    rw [List.cons_append, walk]
    split at walked
    · cases walked
    · cases walked
    · split at walked
      · rw [if_pos ‹_›]
        exact ih walked
      · rw [if_neg ‹_›]
        split at walked
        · cases walked
        · rw [if_neg ‹_›]
          split at walked
          · cases walked
          · rw [if_neg ‹_›]
            exact ih walked

/-- A place that may be new is found, or nothing stands there. A path that is too long to be asked about
does not tell. -/
theorem locate_of_locateNew {t : FileTree} {directory : Place} {p : Path} {place : Place}
    (located : t.locateNew directory p = .ok place) :
    t.locate directory p = .error .nameTooLong ∨ t.locate directory p = .ok place ∨
      (t.lookup place = none ∧ t.locate directory p = .error .notFound) := by
  unfold locate
  split
  · exact .inl rfl
  · rename_i short
    right
    unfold locateNew at located
    split at located
    · rename_i none
      cases located
      rw [List.getLast?_eq_none_iff.mp none]
      exact .inl rfl
    · rename_i last ending
      obtain ⟨parts, split_parts⟩ := List.getLast?_eq_some_iff.mp ending
      split at located
      · unfold locate at located
        rw [if_neg short] at located
        exact .inl located
      · rename_i forward
        rw [split_parts, List.dropLast_concat] at located
        split at located
        · cases located
        · rename_i above walked
          split at located
          · rename_i above_directory
            split at located
            · cases located
            · cases located
              rw [split_parts, walk_append [last] walked, walk, above_directory]
              dsimp only
              rw [if_neg forward, if_neg ‹_›]
              split
              · rename_i free
                exact .inr ⟨by simpa using free, rfl⟩
              · exact .inl rfl
          · cases located
          · cases located

/-! ### Made directories -/

/-- A place that a beginning of a path leads to. -/
def OnTheWay (directory : Place) (p : Path) (place : Place) : Prop :=
  ∃ parts, parts <+: p.parts ∧ place = destination directory { p with parts }

/-- A tree that differs from an earlier one by directories on the way along a path, where nothing was
before. -/
def GainsDirectories (directory : Place) (p : Path) (t grown : FileTree) : Prop :=
  ∀ place, grown.lookup place = t.lookup place ∨
    (t.lookup place = none ∧ grown.lookup place = some .directory ∧ OnTheWay directory p place)

theorem GainsDirectories.refl (directory : Place) (p : Path) (t : FileTree) :
    GainsDirectories directory p t t := fun _ => .inl rfl

theorem GainsDirectories.trans {directory : Place} {p : Path} {t u v : FileTree}
    (first : GainsDirectories directory p t u) (second : GainsDirectories directory p u v) :
    GainsDirectories directory p t v := by
  intro place
  rcases first place with same | ⟨free, made, way⟩
  · rcases second place with again | ⟨free, made, way⟩
    · exact .inl (again.trans same)
    · exact .inr ⟨same.symm.trans free, made, way⟩
  · rcases second place with again | ⟨free', _, _⟩
    · exact .inr ⟨free, again.trans made, way⟩
    · rw [made] at free'
      cases free'

theorem GainsDirectories.mono {directory : Place} {p q : Path} {t u : FileTree}
    (gains : GainsDirectories directory p t u) (anchor : p.anchor = q.anchor)
    (shorter : p.parts <+: q.parts) : GainsDirectories directory q t u := by
  intro place
  rcases gains place with same | ⟨free, made, parts, within, leads⟩
  · exact .inl same
  · refine .inr ⟨free, made, parts, within.trans shorter, ?_⟩
    rw [leads, anchor]

/-- Files stay as they are while directories are made. -/
theorem GainsDirectories.fileAt_eq {directory : Place} {p : Path} {t u : FileTree}
    (gains : GainsDirectories directory p t u) (place : Place) : u.fileAt place = t.fileAt place := by
  rcases gains place with same | ⟨free, made, _⟩
  · exact fileAt_congr same
  · rw [fileAt, fileAt, free, made]

theorem makeDirectory_gains {t made : FileTree} {directory : Place} {p : Path}
    (run : t.makeDirectory directory p = .ok made) : GainsDirectories directory p t made := by
  unfold makeDirectory at run
  split at run
  · cases run
  · rename_i place located
    split at run
    · cases run
    · rename_i free
      cases run
      have nothing : t.lookup place = none := by simpa using free
      have below : place ≠ [] := by
        intro root
        rw [root, lookup_root] at nothing
        cases nothing
      intro other
      by_cases same : other = place
      · subst same
        exact .inr ⟨nothing, lookup_set_self below t _, p.parts, List.prefix_rfl,
          locateNew_destination located⟩
      · exact .inl (lookup_set_of_ne same t _)

theorem makeAll_gains (directory : Place) (anchor : Anchor) (reversed : List Text) (t : FileTree) :
    GainsDirectories directory { anchor, parts := reversed.reverse } t
      (makeAll directory anchor t reversed).1 := by
  induction reversed generalizing t with
  | nil => exact GainsDirectories.refl directory _ t
  | cons last above ih =>
    have shorter : above.reverse <+: (last :: above).reverse := by simp
    have higher : GainsDirectories directory { anchor, parts := (last :: above).reverse } t
        (makeAll directory anchor t above).1 := (ih t).mono rfl shorter
    rw [makeAll]
    split
    · exact makeDirectory_gains ‹_›
    · split
      · rename_i run
        rw [run] at higher
        exact higher
      · rename_i run
        rw [run] at higher
        split
        · exact higher.trans (makeDirectory_gains ‹_›)
        · exact higher
        · exact higher
    · exact GainsDirectories.refl directory _ t

/-- Making the directories of a path, whether it succeeds or not, changes nothing but that directories
come to be on the way. -/
theorem makeDirectories_gains (t : FileTree) (directory : Place) (p : Path) :
    GainsDirectories directory p t (t.makeDirectories directory p).1 := by
  have gains := makeAll_gains directory p.anchor p.parts.reverse t
  rwa [List.reverse_reverse] at gains

end ReferencePages.FileTree
