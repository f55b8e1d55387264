import ReferencePages.Proofs.FileTree.Made
/-!
Directories that stay. A path that leads to a directory leads there for as long as no directory is lost. A
directory under a fresh name is found at its path, until its place is erased with all that lies below it.
-/

namespace ReferencePages.FileTree

variable {t u v : FileTree}

/-- Every directory of a tree is a directory of another. -/
def KeepsDirectories (t u : FileTree) : Prop :=
  ∀ place, t.lookup place = some .directory → u.lookup place = some .directory

namespace KeepsDirectories

theorem refl (t : FileTree) : KeepsDirectories t t := fun _ there => there

theorem trans (first : KeepsDirectories t u) (second : KeepsDirectories u v) : KeepsDirectories t v :=
  fun place there => second place (first place there)

theorem of_set {place : Place} {node : Node} (below : place ≠ [])
    (kept : node = .directory ∨ t.lookup place ≠ some .directory) :
    KeepsDirectories t (t.set place node) := fun _ there => lookup_set_directory below kept there

theorem of_gains {directory : Place} {p : Path} (gains : GainsDirectories directory p t u) :
    KeepsDirectories t u := by
  intro place there
  rcases gains place with same | ⟨_, made, _⟩
  · rw [same, there]
  · exact made

/-- A file that is written takes the place of no directory. -/
theorem of_write {mask : Nat} {directory : Place} {p : Path} {contents : Bytes}
    (written : t.write mask directory p contents = .ok u) : KeepsDirectories t u := by
  unfold write at written
  split at written
  · cases written
  · rename_i place _
    have below (page : t.lookup place ≠ some .directory) : place ≠ [] := by
      rintro rfl
      exact page t.lookup_root
    split at written
    · cases written
    · rename_i found
      have page : t.lookup place ≠ some .directory := by simp [found]
      cases written
      exact .of_set (below page) (.inr page)
    · rename_i free
      have page : t.lookup place ≠ some .directory := by simp [free]
      cases written
      exact .of_set (below page) (.inr page)

/-- A path that leads to a directory leads there still. -/
theorem walk_ok (keeps : KeepsDirectories t u) {here place : Place} {parts : List Text}
    (walked : t.walk here parts = .ok place) (there : t.lookup place = some .directory) :
    u.walk here parts = .ok place := by
  induction parts generalizing here with
  | nil => exact walked
  | cons part parts ih =>
    rw [walk] at walked ⊢
    split at walked
    · cases walked
    · cases walked
    · rw [keeps here ‹_›]
      dsimp only
      split at walked
      · rw [if_pos ‹_›]
        exact ih walked
      · rw [if_neg ‹_›]
        split at walked
        · cases walked
        · rw [if_neg ‹_›]
          split at walked
          · cases walked
          · -- the part leads through a directory, or it is the end of the path
            have through : t.lookup (here ++ [part]) = some .directory := by
              cases parts with
              | nil =>
                cases walked
                exact there
              | cons next rest =>
                rw [walk] at walked
                split at walked
                · cases walked
                · cases walked
                · assumption
            rw [keeps _ through]
            exact ih walked

theorem locate_ok (keeps : KeepsDirectories t u) {directory place : Place} {p : Path}
    (located : t.locate directory p = .ok place) (there : t.lookup place = some .directory) :
    u.locate directory p = .ok place := by
  unfold locate at located ⊢
  split at located
  · cases located
  · rw [if_neg ‹_›]
    exact keeps.walk_ok located there

end KeepsDirectories

/-! ### Fresh directories -/

theorem freshName_ne_dots (t : FileTree) (first last : Text) : t.freshName first last ≠ ".." := by
  intro dots
  obtain ⟨n, positive, form⟩ := t.freshName_form first last
  have zero : '0' ∈ t.freshName first last := by
    rw [form]
    simp [Nat.ne_of_gt positive]
  rw [dots] at zero
  exact absurd zero (by decide)

/-- A directory that has been made under a fresh name is found at its path. -/
theorem locate_set_fresh {directory place : Place} {above : Path} {first last : Text}
    (located : t.locateFresh directory above first last = .ok place) :
    (t.set place .directory).locate directory (t.freshPath above first last) = .ok place := by
  obtain ⟨short, shortName, here, found, there, rfl⟩ := locateFresh_iff.mp located
  have keeps : KeepsDirectories t (t.set (here ++ [t.freshName first last]) .directory) :=
    .of_set (by simp) (.inl rfl)
  have walked := keeps.walk_ok (walk_of_locate found) there
  have made := lookup_set_self (by simp : here ++ [t.freshName first last] ≠ []) t .directory
  rw [locate, short, if_neg Bool.false_ne_true, freshPath]
  refine (walk_append _ walked).trans ?_
  rw [walk, keeps here there]
  dsimp only
  rw [if_neg (t.freshName_ne_dots first last), shortName, if_neg Bool.false_ne_true, made]
  rfl

/-! ### What is erased -/

theorem lookup_eraseBelow {place : Place} (below : place ≠ []) (t : FileTree) (names : List Text) :
    (t.eraseBelow place).lookup (place ++ names) = none := by
  rw [lookup, if_neg (by simp [below])]
  apply find?_eq_none
  intro entry member same
  have kept := (List.mem_filter.mp member).2
  rw [same, List.isPrefixOf_iff_prefix.mpr (List.prefix_append place names)] at kept
  cases kept

end ReferencePages.FileTree
