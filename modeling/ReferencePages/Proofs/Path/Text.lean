import ReferencePages.Proofs.Path.Name
import ReferencePages.Proofs.Text.Join
import ReferencePages.Proofs.Text.Trim
/-!
Texts of paths. The text of a relative path is read back as that path, and slashes at the end of a text add
no part to it.
-/

namespace ReferencePages

namespace Path

/-- A part as the text of a path can have it: not empty, without slashes, and not a single dot. -/
def IsPart (part : Text) : Prop := '/' ∉ part ∧ part ≠ [] ∧ part ≠ "."

/-- A path with parts as the text of a path can have them. -/
def IsClean (p : Path) : Prop := ∀ part ∈ p.parts, IsPart part

instance (part : Text) : Decidable (IsPart part) :=
  inferInstanceAs (Decidable ('/' ∉ part ∧ part ≠ [] ∧ part ≠ "."))

instance (p : Path) : Decidable p.IsClean :=
  inferInstanceAs (Decidable (∀ part ∈ p.parts, IsPart part))

theorem isPart_above : IsPart ".." := ⟨by decide, by decide, by decide⟩

theorem IsPart.isName {part : Text} (clean : IsPart part) (forward : part ≠ "..") : IsName part :=
  ⟨clean.1, clean.2.1, clean.2.2, forward⟩

/-- The text of a relative path is read back as the path. -/
theorem ofText_toText {parts : List Text} (clean : ∀ part ∈ parts, IsPart part) :
    ofText (toText { anchor := .relative, parts }) = { anchor := .relative, parts } := by
  cases parts with
  | nil => rfl
  | cons first rest =>
    obtain ⟨noSlash, nonempty, _⟩ := clean first (List.mem_cons_self ..)
    have text : toText { anchor := .relative, parts := first :: rest } =
        Text.joinWith ['/'] (first :: rest) := rfl
    have read : partsOf (Text.joinWith ['/'] (first :: rest)) = first :: rest := by
      rw [partsOf, Text.splitOnChar_joinWith fun piece member => (clean piece member).1,
        List.filter_eq_self]
      intro part member
      obtain ⟨_, some, noDot⟩ := clean part member
      rw [Bool.and_eq_true, Bool.not_eq_true', List.isEmpty_eq_false_iff, decide_eq_true_iff]
      exact ⟨some, noDot⟩
    have anchor : anchorOf (Text.joinWith ['/'] (first :: rest)) = .relative := by
      obtain ⟨c, name, rfl⟩ := List.exists_cons_of_ne_nil nonempty
      have ne : (c == '/') = false := by
        rw [beq_eq_false_iff_ne]
        rintro rfl
        exact noSlash (List.mem_cons_self ..)
      cases rest with
      | nil => rw [Text.joinWith, List.intercalate_singleton, anchorOf, List.takeWhile_cons, ne]; rfl
      | cons second rest =>
        rw [Text.joinWith, List.intercalate_cons_cons, List.append_assoc, List.cons_append, anchorOf,
          List.takeWhile_cons, ne]
        rfl
    rw [ofText, text, read, anchor]

theorem partsOf_append_slash (a b : Text) : partsOf (a ++ '/' :: b) = partsOf a ++ partsOf b := by
  rw [partsOf, Text.splitOnChar_append_cons, List.filter_append]
  rfl

/-- Slashes at the end of a text add nothing to its parts. -/
theorem partsOf_trimEnd (s : Text) : partsOf (Text.trimEndWhile (· == '/') s) = partsOf s := by
  obtain ⟨gap, split, slashes, _⟩ := @Text.trimEndWhile_split (· == '/') s
  have added (a gap : Text) (slashes : ∀ c ∈ gap, (c == '/') = true) :
      partsOf (a ++ gap) = partsOf a := by
    induction gap generalizing a with
    | nil => rw [List.append_nil]
    | cons c gap ih =>
      obtain rfl : c = '/' := beq_iff_eq.mp (slashes c (List.mem_cons_self ..))
      have rest := ih [] fun d member => slashes d (List.mem_cons_of_mem _ member)
      rw [partsOf_append_slash, ← List.nil_append gap, rest]
      exact List.append_nil _
  conv_rhs => rw [split]
  exact (added _ gap slashes).symm

/-- A path below another one, as it is seen from there and put into text, is found from there again. -/
theorem child_below (root : Path) {names : List Text} (clean : ∀ part ∈ names, IsPart part) :
    root.child (((root.below? { root with parts := root.parts ++ names }).getD
      { root with parts := root.parts ++ names }).toText) = { root with parts := root.parts ++ names } := by
  have below : root.below? { root with parts := root.parts ++ names } =
      some { anchor := .relative, parts := names } := by
    rw [below?, List.drop_left]
    exact if_pos (by simp)
  rw [below, Option.getD_some, child, ofText_toText clean]
  rfl

end Path

theorem IsName.isPart {s : Text} (isName : IsName s) : Path.IsPart s :=
  ⟨isName.noSlash, isName.nonempty, isName.noDot⟩

end ReferencePages
