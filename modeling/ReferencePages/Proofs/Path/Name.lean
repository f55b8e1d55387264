import ReferencePages.Proofs.FileTree.Destination
import ReferencePages.Proofs.Text.Search
/-!
Single names. A text without slashes that is no dot names a node directly below the place that a path
leads to.
-/

namespace ReferencePages

/-- A text that is one part of a path and leads downwards. -/
structure IsName (s : Text) : Prop where
  noSlash : '/' ∉ s
  nonempty : s ≠ []
  noDot : s ≠ "."
  noDots : s ≠ ".."

theorem isName_iff {s : Text} : IsName s ↔ '/' ∉ s ∧ s ≠ [] ∧ s ≠ "." ∧ s ≠ ".." := by
  constructor
  · exact fun isName => ⟨isName.noSlash, isName.nonempty, isName.noDot, isName.noDots⟩
  · rintro ⟨noSlash, nonempty, noDot, noDots⟩
    exact ⟨noSlash, nonempty, noDot, noDots⟩

instance (s : Text) : Decidable (IsName s) := decidable_of_iff' _ isName_iff

theorem Path.partsOf_of_name {s : Text} (name : IsName s) : Path.partsOf s = [s] := by
  rw [partsOf, Text.splitOnChar_of_not_mem name.noSlash]
  have kept : (!s.isEmpty && decide (s ≠ ".")) = true := by
    rw [Bool.and_eq_true, Bool.not_eq_true', List.isEmpty_eq_false_iff, decide_eq_true_iff]
    exact ⟨name.nonempty, name.noDot⟩
  rw [List.filter_cons, kept]
  rfl

theorem Path.anchorOf_of_name {s : Text} (name : IsName s) : Path.anchorOf s = .relative := by
  cases s with
  | nil => rfl
  | cons c s =>
    obtain ⟨ne, _⟩ := not_or.mp (mt List.mem_cons.mpr name.noSlash)
    have first : (c == '/') = false := beq_eq_false_iff_ne.mpr (Ne.symm ne)
    rw [anchorOf, List.takeWhile_cons, first]
    rfl

theorem Path.child_of_name {s : Text} (name : IsName s) (p : Path) :
    p.child s = { p with parts := p.parts ++ [s] } := by
  rw [child, ofText, Path.anchorOf_of_name name, Path.partsOf_of_name name]
  rfl

theorem Path.parent_child {s : Text} (name : IsName s) (p : Path) : (p.child s).parent = p := by
  rw [Path.child_of_name name, parent, List.dropLast_concat]

theorem FileTree.destination_child {s : Text} (name : IsName s) (directory : Place) (p : Path) :
    destination directory (p.child s) = destination directory p ++ [s] := by
  rw [Path.child_of_name name, destination, List.foldl_append, List.foldl_cons, List.foldl_nil,
    onward, if_neg name.noDots]
  rfl

end ReferencePages
