import ReferencePages.Proofs.Text.Search
/-!
Texts in pieces. A text is split at a character and joined again, and pieces without the character that joins
them are found again.
-/

namespace ReferencePages.Text

theorem splitOnChar_ne_nil (sep : Char) (s : Text) : splitOnChar sep s ≠ [] := by
  cases s with
  | nil => exact List.cons_ne_nil _ _
  | cons c s =>
    rw [splitOnChar]
    split
    · exact List.cons_ne_nil _ _
    · split
      · exact List.cons_ne_nil _ _
      · exact List.cons_ne_nil _ _

/-- A text is split before and behind a separator. -/
theorem splitOnChar_append_cons (sep : Char) (a b : Text) :
    splitOnChar sep (a ++ sep :: b) = splitOnChar sep a ++ splitOnChar sep b := by
  induction a with
  | nil => exact if_pos rfl
  | cons c a ih =>
    rw [List.cons_append, splitOnChar, splitOnChar, ih]
    split
    · rfl
    · cases pieces : splitOnChar sep a with
      | nil => exact absurd pieces (splitOnChar_ne_nil sep a)
      | cons piece pieces => rfl

/-- Pieces are free of the separator. -/
theorem not_mem_of_mem_splitOnChar {sep : Char} {s piece : Text} (member : piece ∈ splitOnChar sep s) :
    sep ∉ piece := by
  induction s generalizing piece with
  | nil => simp_all [splitOnChar]
  | cons c s ih =>
    rw [splitOnChar] at member
    split at member
    · rcases List.mem_cons.mp member with rfl | later
      · exact List.not_mem_nil
      · exact ih later
    · rename_i other
      split at member
      · rw [List.mem_singleton.mp member, List.mem_singleton]
        exact Ne.symm other
      · rename_i first rest pieces
        rcases List.mem_cons.mp member with rfl | later
        · rw [List.mem_cons, not_or]
          exact ⟨Ne.symm other, ih (pieces ▸ List.mem_cons_self ..)⟩
        · exact ih (pieces ▸ List.mem_cons_of_mem _ later)

/-- Pieces consist of characters of the text. -/
theorem mem_of_mem_splitOnChar {sep c : Char} {s piece : Text} (member : piece ∈ splitOnChar sep s)
    (within : c ∈ piece) : c ∈ s := by
  induction s generalizing piece with
  | nil =>
    cases List.mem_singleton.mp member
    cases within
  | cons d s ih =>
    rw [splitOnChar] at member
    split at member
    · rcases List.mem_cons.mp member with rfl | later
      · cases within
      · exact List.mem_cons_of_mem _ (ih later within)
    · split at member
      · rw [List.mem_singleton.mp member, List.mem_singleton] at within
        rw [within]
        exact List.mem_cons_self ..
      · rename_i first rest pieces
        rcases List.mem_cons.mp member with rfl | later
        · rcases List.mem_cons.mp within with rfl | inner
          · exact List.mem_cons_self ..
          · exact List.mem_cons_of_mem _ (ih (pieces ▸ List.mem_cons_self ..) inner)
        · exact List.mem_cons_of_mem _ (ih (pieces ▸ List.mem_cons_of_mem _ later) within)

/-- Pieces that are joined are split again. -/
theorem splitOnChar_joinWith {sep : Char} {first : Text} {rest : List Text}
    (absent : ∀ piece ∈ first :: rest, sep ∉ piece) :
    splitOnChar sep (joinWith [sep] (first :: rest)) = first :: rest := by
  induction rest generalizing first with
  | nil =>
    rw [joinWith, List.intercalate_singleton]
    exact splitOnChar_of_not_mem (absent first (List.mem_cons_self ..))
  | cons second rest ih =>
    have later := ih fun piece member => absent piece (List.mem_cons_of_mem _ member)
    rw [joinWith] at later
    rw [joinWith, List.intercalate_cons_cons, List.append_assoc, List.singleton_append,
      splitOnChar_append _ (absent first (List.mem_cons_self ..)), later]

/-- Pieces are joined one after the other. -/
theorem joinWith_cons {sep : Text} {rest : List Text} (some : rest ≠ []) (part : Text) :
    joinWith sep (part :: rest) = part ++ sep ++ joinWith sep rest :=
  List.intercalate_cons_of_ne_nil some

/-- Pieces that are joined again make up the text that was split. -/
theorem joinWith_splitOnChar (sep : Char) (s : Text) : joinWith [sep] (splitOnChar sep s) = s := by
  induction s with
  | nil => rfl
  | cons c s ih =>
    rw [splitOnChar]
    split
    · rename_i same
      rw [joinWith_cons (splitOnChar_ne_nil sep s), ih, same]
      rfl
    · obtain ⟨piece, pieces, split⟩ := List.exists_cons_of_ne_nil (splitOnChar_ne_nil sep s)
      rw [split] at ih ⊢
      dsimp only
      cases pieces with
      | nil =>
        rw [joinWith, List.intercalate_singleton] at ih ⊢
        rw [ih]
      | cons next pieces =>
        rw [joinWith_cons (List.cons_ne_nil _ _)] at ih ⊢
        rw [← ih]
        rfl

/-- Every piece stands in what is joined. -/
theorem infix_joinWith {sep piece : Text} {pieces : List Text} (member : piece ∈ pieces) :
    piece <:+: joinWith sep pieces := by
  induction pieces with
  | nil => cases member
  | cons first pieces ih =>
    by_cases last : pieces = []
    · rw [last] at member ⊢
      obtain rfl := List.mem_singleton.mp member
      exact ⟨[], [], by rw [joinWith, List.intercalate_singleton, List.nil_append, List.append_nil]⟩
    · rw [joinWith_cons last]
      rcases List.mem_cons.mp member with rfl | later
      · exact ⟨[], sep ++ joinWith sep pieces, by rw [List.nil_append, List.append_assoc]⟩
      · exact (ih later).trans (List.suffix_append _ _).isInfix

theorem mem_joinWith {sep : Text} {pieces : List Text} {c : Char} (member : c ∈ joinWith sep pieces) :
    c ∈ sep ∨ ∃ piece ∈ pieces, c ∈ piece := by
  induction pieces with
  | nil => cases member
  | cons piece pieces ih =>
    by_cases last : pieces = []
    · rw [last, joinWith, List.intercalate_singleton] at member
      exact .inr ⟨piece, List.mem_cons_self .., member⟩
    · rw [joinWith_cons last, List.append_assoc] at member
      rcases List.mem_append.mp member with here | rest
      · exact .inr ⟨piece, List.mem_cons_self .., here⟩
      · rcases List.mem_append.mp rest with between | behind
        · exact .inl between
        · rcases ih behind with between | ⟨other, within, inside⟩
          · exact .inl between
          · exact .inr ⟨other, List.mem_cons_of_mem _ within, inside⟩

end ReferencePages.Text
