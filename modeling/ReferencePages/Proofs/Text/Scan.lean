import ReferencePages.Text.Scan
import ReferencePages.Proofs.Text.Search
import ReferencePages.Proofs.Text.Trim
/-!
Identifiers and keywords as the readers of declarations meet them. An identifier is a letter of ASCII or an
underscore, then letters, digits and underscores: its characters are word characters and no blanks, so that
the readers of names read it as a whole. Keywords are read with the blanks after them.
-/

namespace ReferencePages.Text

/-- A letter or digit of ASCII, or the underscore. -/
def IsNameChar (c : Char) : Prop := c = '_' ∨ c.isAlphanum = true

instance : DecidablePred IsNameChar := fun c => inferInstanceAs (Decidable (c = '_' ∨ c.isAlphanum = true))

theorem IsNameChar.isWordChar {c : Char} (name : IsNameChar c) : isWordChar c = true := by
  rcases name with rfl | alphanumeric
  · rfl
  · simp [Text.isWordChar, isAlphanumeric, alphanumeric]

theorem toNat_of_isAlphanum {c : Char} (alphanumeric : c.isAlphanum = true) :
    48 ≤ c.toNat ∧ c.toNat ≤ 57 ∨ 65 ≤ c.toNat ∧ c.toNat ≤ 90 ∨ 97 ≤ c.toNat ∧ c.toNat ≤ 122 := by
  delta Char.isAlphanum Char.isAlpha Char.isUpper Char.isLower Char.isDigit at alphanumeric
  simp only [Bool.or_eq_true, Bool.and_eq_true, decide_eq_true_eq, ge_iff_le,
    UInt32.le_iff_toNat_le] at alphanumeric
  have value : c.toNat = c.val.toNat := rfl
  rw [value]
  rcases alphanumeric with (⟨low, high⟩ | ⟨low, high⟩) | ⟨low, high⟩
  · exact .inr (.inl ⟨low, high⟩)
  · exact .inr (.inr ⟨low, high⟩)
  · exact .inl ⟨low, high⟩

theorem IsNameChar.isBlank {c : Char} (name : IsNameChar c) : isBlank c = false := by
  rcases name with rfl | alphanumeric
  · rfl
  · have range := toNat_of_isAlphanum alphanumeric
    simp only [Text.isBlank, Bool.or_eq_false_iff, Bool.and_eq_false_iff, decide_eq_false_iff_not,
      beq_eq_false_iff_ne]
    omega

theorem isWordChar_of_isBlank {c : Char} (blank : isBlank c = true) : isWordChar c = false := by
  -- The blanks are few enough to look at each of them.
  obtain ⟨n, few, rfl⟩ : ∃ n ∈ [9, 10, 11, 12, 13, 28, 29, 30, 31, 32, 0x85, 0xa0, 0x1680, 0x2000, 0x2001,
      0x2002, 0x2003, 0x2004, 0x2005, 0x2006, 0x2007, 0x2008, 0x2009, 0x200a, 0x2028, 0x2029, 0x202f,
      0x205f, 0x3000], c = Char.ofNat n := by
    refine ⟨c.toNat, ?_, (Char.ofNat_toNat c).symm⟩
    simp only [Text.isBlank, Bool.or_eq_true, Bool.and_eq_true, decide_eq_true_eq, beq_iff_eq] at blank
    simp only [List.mem_cons, List.not_mem_nil, or_false]
    omega
  clear blank
  revert n
  decide +kernel

theorem isNameChar_of_isNameStart {c : Char} (start : isNameStart c = true) : IsNameChar c := by
  simp only [isNameStart, Bool.or_eq_true, beq_iff_eq] at start
  rcases start with underscore | alpha
  · exact .inl underscore
  · exact .inr (by simp [Char.isAlphanum, alpha])

/-- A letter of ASCII or an underscore, then letters, digits and underscores. -/
def IsIdentifier : Text → Prop
  | [] => False
  | c :: s => isNameStart c = true ∧ ∀ d ∈ s, IsNameChar d

instance : DecidablePred IsIdentifier
  | [] => inferInstanceAs (Decidable False)
  | c :: s => inferInstanceAs (Decidable (isNameStart c = true ∧ ∀ d ∈ s, IsNameChar d))

namespace IsIdentifier

variable {name : Text}

theorem cons (identifier : IsIdentifier name) :
    ∃ c s, name = c :: s ∧ isNameStart c = true ∧ ∀ d ∈ s, IsNameChar d := by
  cases name with
  | nil => exact identifier.elim
  | cons c s => exact ⟨c, s, rfl, identifier⟩

theorem isNameChar (identifier : IsIdentifier name) : ∀ c ∈ name, IsNameChar c := by
  obtain ⟨c, s, rfl, start, rest⟩ := identifier.cons
  intro d member
  rcases List.mem_cons.mp member with rfl | later
  · exact isNameChar_of_isNameStart start
  · exact rest d later

theorem ne_nil (identifier : IsIdentifier name) : name ≠ [] := by
  obtain ⟨c, s, rfl, _⟩ := identifier.cons
  exact List.cons_ne_nil c s

theorem not_mem (identifier : IsIdentifier name) {c : Char} (other : ¬ IsNameChar c) : c ∉ name :=
  fun member => other (identifier.isNameChar c member)

/-- An identifier is read up to the first character that is no word character. -/
theorem name?_append (identifier : IsIdentifier name) {c : Char} (rest : Text)
    (stop : isWordChar c = false) : name? (name ++ c :: rest) = some (name, c :: rest) := by
  obtain ⟨a, s, rfl, start, chars⟩ := identifier.cons
  have word : ∀ d ∈ s, isWordChar d = true := fun d member => (chars d member).isWordChar
  rw [List.cons_append, name?, if_pos start, List.takeWhile_append_of_pos word,
    List.dropWhile_append_of_pos word, List.takeWhile_cons_of_neg (by simp [stop]),
    List.dropWhile_cons_of_neg (by simp [stop]), List.append_nil]

theorem quotableName?_append (identifier : IsIdentifier name) {c : Char} (rest : Text)
    (stop : isWordChar c = false) (unquoted : c ≠ '"') :
    quotableName? (name ++ c :: rest) = some (name, c :: rest) := by
  have first : skip ['"'] (name ++ c :: rest) = name ++ c :: rest := by
    obtain ⟨a, s, rfl, start, _⟩ := identifier.cons
    have plain : '"' ≠ a := by
      rintro rfl
      cases start
    simp [skip, after?, plain]
  have last : skip ['"'] (c :: rest) = c :: rest := by simp [skip, after?, Ne.symm unquoted]
  rw [quotableName?, first, identifier.name?_append rest stop, Option.map_some]
  dsimp only
  rw [last]

end IsIdentifier

/-- Keywords with one blank after each are read, up to what follows them. -/
theorem afterKeywords?_append {words : List Text}
    (plain : ∀ word ∈ words, word.head?.any (!isBlank ·) = true) {rest : Text}
    (filled : ∀ c ∈ rest.head?, isBlank c = false) :
    afterKeywords? words (words.flatMap (· ++ [' ']) ++ rest) = some rest := by
  induction words with
  | nil => rfl
  | cons word words ih =>
    have later := ih fun other member => plain other (List.mem_cons_of_mem _ member)
    have next : ∀ c ∈ (words.flatMap (· ++ [' ']) ++ rest).head?, isBlank c = false := by
      cases words with
      | nil => exact filled
      | cons w words =>
        intro c first
        have letter := plain w (List.mem_cons_of_mem _ (List.mem_cons_self ..))
        cases w with
        | nil => cases letter
        | cons d w =>
          cases first
          simpa using letter
    rw [List.flatMap_cons, List.append_assoc, List.append_assoc, List.singleton_append, afterKeywords?,
      after?_append, Option.bind_some, afterBlanks?, if_pos (by decide), Option.bind_some]
    cases split : words.flatMap (· ++ [' ']) ++ rest with
    | nil =>
      rw [split] at later
      exact later
    | cons c s =>
      rw [split] at later next
      rw [trimStart_cons s (next c rfl)]
      exact later

theorem withoutKeywords {word s : Text} (absent : ¬ word <+: s) (words : List Text) :
    withOrWithout (afterKeywords? (word :: words)) s = [s] := by
  rw [withOrWithout, afterKeywords?, after?_eq_none absent]
  rfl

end ReferencePages.Text
