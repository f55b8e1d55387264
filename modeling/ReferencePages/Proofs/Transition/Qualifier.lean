import ReferencePages.Transition
import ReferencePages.Proofs.Text.Infix
import ReferencePages.Proofs.Text.Scan
import Mathlib.Data.List.Find
/-!
Qualifiers in the lines of a match block. What stands between two signs that belong to no qualifier is
cleaned by itself: a name is left alone, and a name after a qualifier is left alone once the qualifier is
dropped.
-/

namespace ReferencePages.Transition

/-- Qualifiers that are recognized wherever they stand before a name: each begins like a name and has none of
the signs of an arm in it, and with its colons none begins another. -/
structure AreQualifiers (qualifiers : List Text) : Prop where
  start : ∀ q ∈ qualifiers, ∃ c s, q = c :: s ∧ Text.isNameStart c = true
  plain : ∀ q ∈ qualifiers, ∀ c ∈ q, Text.isBlank c = false ∧ c ∉ ['(', ')', '|', ',']
  state : ∀ q ∈ qualifiers, ¬ ("from_state".toList : Text) <:+: q
  distinct : ∀ q ∈ qualifiers, ∀ r ∈ qualifiers, q ++ [':', ':'] <+: r ++ [':', ':'] → q = r

variable {qualifiers : List Text}

/-- A character that no qualifier can hold, with its colons or without them. -/
def Separates (qualifiers : List Text) (d : Char) : Prop := ∀ q ∈ qualifiers, d ∉ q ++ [':', ':']

theorem AreQualifiers.separates (are : AreQualifiers qualifiers) {d : Char}
    (sign : Text.isBlank d = true ∨ d ∈ ['(', ')', '|', ',']) : Separates qualifiers d := by
  intro q member held
  rcases List.mem_append.mp held with inside | colon
  · obtain ⟨filled, unsigned⟩ := are.plain q member d inside
    rcases sign with blank | sign
    · rw [filled] at blank
      cases blank
    · exact unsigned sign
  · simp only [List.mem_cons, List.not_mem_nil, or_false, or_self] at colon
    subst colon
    revert sign
    decide

/-- What is looked for at the edge of a word. -/
def qualifierAt? (qualifiers : List Text) (before : Option Char) : Text → Option Text
  | [] => none
  | c :: s => if isWordEdge before c then
      qualifiers.find? fun q => Text.startsWith (q ++ [':', ':']) (c :: s) else none

theorem dropQualifiers_none {before : Option Char} {c : Char} {s : Text}
    (absent : qualifierAt? qualifiers before (c :: s) = none) :
    dropQualifiers qualifiers before 0 (c :: s) = c :: dropQualifiers qualifiers (some c) 0 s := by
  rw [dropQualifiers]
  split
  · rename_i q found
    have clash : some q = none := found.symm.trans absent
    cases clash
  · rfl

theorem dropQualifiers_some {before : Option Char} {c : Char} {s q : Text}
    (found : qualifierAt? qualifiers before (c :: s) = some q) :
    dropQualifiers qualifiers before 0 (c :: s) =
      dropQualifiers qualifiers (some c) (q.length + 1) s := by
  rw [dropQualifiers]
  split
  · rename_i r other
    have same : some r = some q := other.symm.trans found
    cases same
    rfl
  · rename_i other
    have clash : none = some q := other.symm.trans found
    cases clash

theorem qualifierAt?_eq_some {before : Option Char} {s q : Text}
    (found : qualifierAt? qualifiers before s = some q) : q ∈ qualifiers ∧ q ++ [':', ':'] <+: s := by
  cases s with
  | nil => cases found
  | cons c s =>
    rw [qualifierAt?] at found
    split at found
    · have start := List.find?_some found
      exact ⟨List.mem_of_find?_eq_some found, Text.startsWith_iff.mp start⟩
    · cases found

theorem qualifierAt?_eq_none {before : Option Char} {s : Text}
    (absent : ∀ q ∈ qualifiers, ¬ q ++ [':', ':'] <+: s) : qualifierAt? qualifiers before s = none := by
  cases found : qualifierAt? qualifiers before s with
  | none => rfl
  | some q =>
    obtain ⟨member, start⟩ := qualifierAt?_eq_some found
    exact absurd start (absent q member)

/-- What follows a separator has no part in what is found before it. -/
theorem qualifierAt?_append {d : Char} (separates : Separates qualifiers d) (before : Option Char) (c : Char)
    (s rest : Text) :
    qualifierAt? qualifiers before (c :: s ++ d :: rest) = qualifierAt? qualifiers before (c :: s) := by
  have same : ∀ q ∈ qualifiers, Text.startsWith (q ++ [':', ':']) (c :: (s ++ d :: rest)) =
      Text.startsWith (q ++ [':', ':']) (c :: s) := by
    intro q member
    rw [Bool.eq_iff_iff, Text.startsWith_iff, Text.startsWith_iff, ← List.cons_append,
      Text.prefix_append_cons (separates q member)]
  rw [List.cons_append, qualifierAt?, qualifierAt?, List.find?_congr same]

/-- A separator divides a line into parts that are cleaned one by one. -/
theorem dropQualifiers_append {d : Char} (separates : Separates qualifiers d) (s rest : Text)
    (before : Option Char) {skipped : Nat} (inside : skipped ≤ s.length) :
    dropQualifiers qualifiers before skipped (s ++ d :: rest) =
      dropQualifiers qualifiers before skipped s ++ d :: dropQualifiers qualifiers (some d) 0 rest := by
  induction s generalizing before skipped with
  | nil =>
    obtain rfl := Nat.le_zero.mp inside
    have absent : qualifierAt? qualifiers before (d :: rest) = none := by
      refine qualifierAt?_eq_none fun q member start => ?_
      have none := (Text.prefix_append_cons (separates q member) [] rest).mp start
      exact List.append_ne_nil_of_right_ne_nil q (List.cons_ne_nil _ _) (List.prefix_nil.mp none)
    rw [List.nil_append, dropQualifiers_none absent]
    rfl
  | cons c s ih =>
    cases skipped with
    | succ skipped =>
      rw [List.cons_append, dropQualifiers, dropQualifiers, ih _ (Nat.le_of_succ_le_succ inside)]
    | zero =>
      have same := qualifierAt?_append separates before c s rest
      cases found : qualifierAt? qualifiers before (c :: s) with
      | none =>
        rw [found] at same
        rw [List.cons_append] at same ⊢
        rw [dropQualifiers_none found, dropQualifiers_none same, ih _ (Nat.zero_le _), List.cons_append]
      | some q =>
        have fits : q.length + 1 ≤ s.length := by
          have long := (qualifierAt?_eq_some found).2.length_le
          rw [List.length_append, List.length_cons] at long
          exact Nat.le_of_succ_le_succ long
        rw [found] at same
        rw [List.cons_append] at same ⊢
        rw [dropQualifiers_some found, dropQualifiers_some same, ih _ fits]

/-- A text without qualifiers is left alone. -/
theorem dropQualifiers_of_absent {s : Text} (absent : ∀ q ∈ qualifiers, ¬ q ++ [':', ':'] <:+: s)
    (before : Option Char) : dropQualifiers qualifiers before 0 s = s := by
  induction s generalizing before with
  | nil => rfl
  | cons c s ih =>
    have here : qualifierAt? qualifiers before (c :: s) = none :=
      qualifierAt?_eq_none fun q member start => absent q member start.isInfix
    have later := ih fun q member within => absent q member (List.infix_cons_iff.mpr (.inr within))
    rw [dropQualifiers_none here, later]

theorem dropQualifiers_of_no_colon {s : Text} (colonless : ':' ∉ s) (before : Option Char) :
    dropQualifiers qualifiers before 0 s = s := by
  refine dropQualifiers_of_absent (fun q _ within => colonless (within.subset ?_)) before
  simp

/-- Cleaning a line brings no new characters into it. -/
theorem mem_of_mem_dropQualifiers {s : Text} {before : Option Char} {skipped : Nat} {c : Char}
    (member : c ∈ dropQualifiers qualifiers before skipped s) : c ∈ s := by
  induction s generalizing before skipped with
  | nil => exact member
  | cons d s ih =>
    cases skipped with
    | succ skipped => exact List.mem_cons_of_mem _ (ih member)
    | zero =>
      cases found : qualifierAt? qualifiers before (d :: s) with
      | none =>
        rw [dropQualifiers_none found] at member
        rcases List.mem_cons.mp member with rfl | later
        · exact List.mem_cons_self ..
        · exact List.mem_cons_of_mem _ (ih later)
      | some q =>
        rw [dropQualifiers_some found] at member
        exact List.mem_cons_of_mem _ (ih member)

theorem dropQualifiers_skip (s : Text) {t u : Text}
    (rest : ∀ before, dropQualifiers qualifiers before 0 t = u) (before : Option Char) :
    dropQualifiers qualifiers before s.length (s ++ t) = u := by
  induction s generalizing before with
  | nil => exact rest before
  | cons c s ih => exact ih (some c)

/-- No other qualifier begins where one stands before a name. -/
theorem AreQualifiers.unique (are : AreQualifiers qualifiers) {q r name : Text} (known : q ∈ qualifiers)
    (other : r ∈ qualifiers) (start : r ++ [':', ':'] <+: q ++ [':', ':'] ++ name) :
    r = q := by
  rcases List.prefix_or_prefix_of_prefix start (List.prefix_append (q ++ [':', ':']) name) with shorter | longer
  · exact are.distinct r other q known shorter
  · exact (are.distinct q known r other longer).symm

/-- A qualifier is dropped from a name that it stands before. -/
theorem AreQualifiers.dropQualifiers_name (are : AreQualifiers qualifiers) {q name : Text}
    (known : q ∈ qualifiers) (colonless : ':' ∉ name) {before : Option Char}
    (edge : before.any Text.isWordChar = false) :
    dropQualifiers qualifiers before 0 (q ++ [':', ':'] ++ name) = name := by
  obtain ⟨c, s, rfl, letter⟩ := are.start q known
  have first : isWordEdge before c = true := by
    rw [isWordEdge, edge, (Text.isNameChar_of_isNameStart letter).isWordChar]
    rfl
  have found : qualifierAt? qualifiers before (c :: (s ++ [':', ':'] ++ name)) = some (c :: s) := by
    rw [qualifierAt?, if_pos first]
    have some : (qualifiers.find? fun q =>
        Text.startsWith (q ++ [':', ':']) (c :: (s ++ [':', ':'] ++ name))).isSome = true := by
      rw [List.find?_isSome]
      exact ⟨c :: s, known, Text.startsWith_iff.mpr (List.prefix_append (c :: s ++ [':', ':']) name)⟩
    obtain ⟨r, found⟩ := Option.isSome_iff_exists.mp some
    have start := List.find?_some found
    rw [found, are.unique known (List.mem_of_find?_eq_some found) (Text.startsWith_iff.mp start)]
  have length : (c :: s).length + 1 = (s ++ [':', ':']).length := by
    rw [List.length_cons, List.length_append]
    rfl
  rw [List.cons_append, List.cons_append, dropQualifiers_some found, length]
  exact dropQualifiers_skip _ (dropQualifiers_of_no_colon colonless) _

/-! ### Parts of a line -/

theorem dropQualifiers_of_edge {before : Option Char} (edge : before.any Text.isWordChar = false) (s : Text) :
    dropQualifiers qualifiers before 0 s = dropQualifiers qualifiers none 0 s := by
  cases s with
  | nil => rfl
  | cons c s =>
    have same : qualifierAt? qualifiers before (c :: s) = qualifierAt? qualifiers none (c :: s) := by
      rw [qualifierAt?, qualifierAt?, isWordEdge, isWordEdge, edge]
      rfl
    cases found : qualifierAt? qualifiers none (c :: s) with
    | none => rw [dropQualifiers_none found, dropQualifiers_none (same.trans found)]
    | some q => rw [dropQualifiers_some found, dropQualifiers_some (same.trans found)]

/-- A part of a line once its qualifiers are dropped. -/
def unqualified (qualifiers : List Text) (s : Text) : Text := dropQualifiers qualifiers none 0 s

theorem AreQualifiers.unqualified_append (are : AreQualifiers qualifiers) {d : Char}
    (sign : Text.isBlank d = true ∨ d ∈ ['(', ')', '|', ',']) (s rest : Text) :
    unqualified qualifiers (s ++ d :: rest) = unqualified qualifiers s ++ d :: unqualified qualifiers rest := by
  have nonword : Text.isWordChar d = false := by
    rcases sign with blank | sign
    · exact Text.isWordChar_of_isBlank blank
    · revert d
      decide
  have edge := @dropQualifiers_of_edge qualifiers (some d) nonword rest
  rw [unqualified, dropQualifiers_append (are.separates sign) s rest none (Nat.zero_le _), edge]
  rfl

theorem AreQualifiers.unqualified_cons (are : AreQualifiers qualifiers) {d : Char}
    (sign : Text.isBlank d = true ∨ d ∈ ['(', ')', '|', ',']) (rest : Text) :
    unqualified qualifiers (d :: rest) = d :: unqualified qualifiers rest :=
  are.unqualified_append sign [] rest

theorem AreQualifiers.unqualified_margin (are : AreQualifiers qualifiers) {margin : Text}
    (blank : ∀ c ∈ margin, Text.isBlank c = true) (rest : Text) :
    unqualified qualifiers (margin ++ rest) = margin ++ unqualified qualifiers rest := by
  induction margin with
  | nil => rfl
  | cons c margin ih =>
    have later := ih fun d member => blank d (List.mem_cons_of_mem _ member)
    rw [List.cons_append, are.unqualified_cons (.inl (blank c (List.mem_cons_self ..))), later, List.cons_append]

theorem unqualified_of_no_colon {s : Text} (colonless : ':' ∉ s) : unqualified qualifiers s = s :=
  dropQualifiers_of_no_colon colonless none

theorem mem_of_mem_unqualified {s : Text} {c : Char} (member : c ∈ unqualified qualifiers s) : c ∈ s :=
  mem_of_mem_dropQualifiers member

/-- A name as it is written, possibly after a qualifier. -/
structure WrittenName where
  qualifier : Option Text
  name : Text

/-- The name with its qualifier. -/
def WrittenName.text (n : WrittenName) : Text :=
  match n.qualifier with
  | some q => q ++ "::" ++ n.name
  | none => n.name

theorem AreQualifiers.unqualified_name (are : AreQualifiers qualifiers) {n : WrittenName}
    (known : ∀ q ∈ n.qualifier, q ∈ qualifiers) (colonless : ':' ∉ n.name) :
    unqualified qualifiers n.text = n.name := by
  unfold WrittenName.text
  cases qualifier : n.qualifier with
  | none => exact unqualified_of_no_colon colonless
  | some q => exact are.dropQualifiers_name (known q qualifier) colonless rfl

end ReferencePages.Transition
