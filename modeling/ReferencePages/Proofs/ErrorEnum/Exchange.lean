import ReferencePages.Proofs.ErrorEnum.Written
/-!
One line in place of another with the same balance of braces. If neither says anything outside of an
enumeration, the scan goes on in the same way: what it finds differs in one enumeration at most, the one that
takes the line.
-/

namespace ReferencePages

/-! ### The variants of a body -/

namespace Variant

/-- What stands above an announcement is read whatever is announced. -/
theorem ofLines_announced (pending : Option Text) (above : List Text) :
    ∃ found, ∀ line message below, announced? line = some message →
      ofLines pending (above ++ line :: below) = found ++ ofLines (some message) below := by
  induction above generalizing pending with
  | nil =>
    refine ⟨[], fun line message below announced => ?_⟩
    simp only [List.nil_append, ofLines, announced]
  | cons first above ih =>
    cases announced : announced? first with
    | some message =>
      obtain ⟨found, reads⟩ := ih (some message)
      refine ⟨found, fun line message' below here => ?_⟩
      simp only [List.cons_append, ofLines, announced]
      exact reads line message' below here
    | none =>
      cases declared : declared? first with
      | none =>
        obtain ⟨found, reads⟩ := ih pending
        refine ⟨found, fun line message below here => ?_⟩
        rw [List.cons_append, ofLines_of_silent ⟨announced, declared⟩]
        exact reads line message below here
      | some name =>
        cases pending with
        | none =>
          obtain ⟨found, reads⟩ := ih none
          refine ⟨found, fun line message below here => ?_⟩
          simp only [List.cons_append, ofLines, announced, declared]
          exact reads line message below here
        | some waiting =>
          obtain ⟨found, reads⟩ := ih none
          refine ⟨{ name, message := waiting } :: found, fun line message below here => ?_⟩
          simp only [List.cons_append, ofLines, announced, declared, reads line message below here]

end Variant

namespace ErrorEnum

/-- Two enumerations that differ in their texts and in the message of one variant at most. -/
structure SameButMessage (variant message message' : Text) (e e' : ErrorEnum) : Prop where
  name : e.name = e'.name
  docSummary : e.docSummary = e'.docSummary
  variants : e.variants = e'.variants ∨ ∃ a b,
    e.variants = a ++ ⟨variant, message⟩ :: b ∧ e'.variants = a ++ ⟨variant, message'⟩ :: b

/-- Results that differ in one enumeration at most, and there in its text and the message of one variant. -/
def Reworded (variant message message' : Text) (found found' : List ErrorEnum) : Prop :=
  found = found' ∨ ∃ first last e e',
    found = first ++ e :: last ∧ found' = first ++ e' :: last ∧ SameButMessage variant message message' e e'

/-- Such results have equally many enumerations, each with equally many variants. -/
theorem Reworded.counts {variant message message' : Text} {found found' : List ErrorEnum}
    (reworded : Reworded variant message message' found found') :
    found.map (·.variants.length) = found'.map (·.variants.length) := by
  rcases reworded with rfl | ⟨first, last, e, e', rfl, rfl, same⟩
  · rfl
  · have count : e.variants.length = e'.variants.length := by
      rcases same.variants with variants | ⟨a, b, variants, variants'⟩
      · rw [variants]
      · rw [variants, variants', List.length_append, List.length_append]
        rfl
    rw [List.map_append, List.map_append, List.map_cons, List.map_cons, count]

/-! ### One line for another -/

theorem step_undeclared {line : Text} (undeclared : declared? line = none) (docs : List Text) :
    ∃ docs', Scan.step (.outside docs) line = (.outside docs', none) := by
  unfold Scan.step
  rw [undeclared]
  cases docComment? line <;> exact ⟨_, rfl⟩

/-- Results that differ in one enumeration, where a line stands for another. The lines around it are of those
that stand around the two. -/
def Exchanged (line line' : Text) (before after : List Text) (found found' : List ErrorEnum) : Prop :=
  ∃ first last name docs opening above below, above <:+ before ∧ below <+: after ∧
    found = first ++ (Unfinished.start name docs opening).closedAfter (above ++ line :: below) :: last ∧
    found' = first ++ (Unfinished.start name docs opening).closedAfter (above ++ line' :: below) :: last

theorem Exchanged.cons {line line' : Text} {before after : List Text} {found found' : List ErrorEnum}
    (exchanged : Exchanged line line' before after found found') (e : ErrorEnum) :
    Exchanged line line' before after (e :: found) (e :: found') := by
  obtain ⟨first, last, name, docs, opening, above, below, within, start, rfl, rfl⟩ := exchanged
  exact ⟨e :: first, last, name, docs, opening, above, below, within, start, rfl, rfl⟩

theorem Exchanged.mono {line line' : Text} {before before' after : List Text} {found found' : List ErrorEnum}
    (exchanged : Exchanged line line' before after found found') (more : before <:+ before') :
    Exchanged line line' before' after found found' := by
  obtain ⟨first, last, name, docs, opening, above, below, within, rest⟩ := exchanged
  exact ⟨first, last, name, docs, opening, above, below, within.trans more, rest⟩

section Exchange

variable {line line' : Text} (balance : braceBalance line = braceBalance line')
  (kept : ∀ docs, Scan.step (.outside docs) line = (.outside docs, none))
  (kept' : ∀ docs, Scan.step (.outside docs) line' = (.outside docs, none))

include balance kept kept' in
/-- Where two lines have the same balance and say nothing outside, one is passed over like the other, or both
fall into the same enumeration. -/
theorem ofLines_exchange (after : List Text) {before : List Text}
    (opens : ∀ l ∈ before, (declared? l).isSome = true → '{' ∈ l) (docs : List Text) :
    ofLines (.outside docs) (before ++ line :: after) = ofLines (.outside docs) (before ++ line' :: after) ∨
      Exchanged line line' before after (ofLines (.outside docs) (before ++ line :: after))
        (ofLines (.outside docs) (before ++ line' :: after)) := by
  induction left : before.length using Nat.strong_induction_on generalizing before docs with
  | _ left' ih =>
  cases before with
  | nil =>
    rw [List.nil_append, List.nil_append, ofLines_step (kept docs), ofLines_step (kept' docs)]
    exact .inl rfl
  | cons l before =>
    have inner : ∀ other ∈ before, (declared? other).isSome = true → '{' ∈ other := fun other member =>
      opens other (List.mem_cons_of_mem _ member)
    rw [List.length_cons] at left
    cases declared : declared? l with
    | none =>
      obtain ⟨docs', step⟩ := step_undeclared declared docs
      rw [List.cons_append, List.cons_append, ofLines_step step, ofLines_step step]
      exact (ih before.length (by omega) inner docs' rfl).imp_right fun exchanged =>
        exchanged.mono (List.suffix_cons l before)
    | some name =>
      have opened := opens l (List.mem_cons_self ..) (by rw [declared]; rfl)
      obtain ⟨n, length⟩ := exists_bodyLength_cons 0 l (before ++ line :: after)
      have balances : (l :: (before ++ line :: after)).map braceBalance =
          (l :: (before ++ line' :: after)).map braceBalance := by simp [balance]
      have length' := (bodyLength_congr balances).symm.trans length
      have found := ofLines_declaring declared opened length docs
      have found' := ofLines_declaring declared opened length' docs
      rw [List.cons_append, List.cons_append, found, found']
      rcases Nat.lt_or_ge before.length n with beyond | within
      · -- The declaration takes the line.
        obtain ⟨k, rfl⟩ := Nat.exists_eq_add_of_lt beyond
        have taken (x : Text) : (before ++ x :: after).take (before.length + k + 1) = before ++ x :: after.take k := by
          rw [Nat.add_assoc, List.take_length_add_append, List.take_succ_cons]
        have dropped (x : Text) : (before ++ x :: after).drop (before.length + k + 1) = after.drop k := by
          rw [Nat.add_assoc, List.drop_length_add_append, List.drop_succ_cons]
        rw [taken, taken, dropped, dropped]
        exact .inr ⟨[], _, name, docs, l, before, after.take k, List.suffix_cons l before, List.take_prefix k after,
          rfl, rfl⟩
      · have shorter : (before.drop n).length < left' := by
          rw [List.length_drop]
          omega
        have rest : ∀ other ∈ before.drop n, (declared? other).isSome = true → '{' ∈ other := fun other member =>
          inner other (List.mem_of_mem_drop member)
        rw [List.take_append_of_le_length within, List.take_append_of_le_length within,
          List.drop_append_of_le_length within, List.drop_append_of_le_length within]
        rcases ih _ shorter rest [] rfl with same | exchanged
        · exact .inl (by rw [same])
        · exact .inr ((exchanged.mono ((List.drop_suffix n before).trans (List.suffix_cons l before))).cons _)

/-- A boundary that starts neither of two lines stands in front of both or behind both. -/
theorem beforeBoundary_exchange {boundary : Text} (free : boundary ≠ [] → ¬ boundary <+: line)
    (free' : boundary ≠ [] → ¬ boundary <+: line') (before after : List Text) :
    beforeBoundary boundary (before ++ line :: after) = beforeBoundary boundary (before ++ line' :: after) ∨
      ∃ part, part <+: after ∧ beforeBoundary boundary (before ++ line :: after) = before ++ line :: part ∧
        beforeBoundary boundary (before ++ line' :: after) = before ++ line' :: part := by
  by_cases none : boundary = []
  · subst none
    exact .inr ⟨after, List.prefix_rfl, rfl, rfl⟩
  · have isEmpty : ¬ boundary.isEmpty = true := fun empty => none (List.isEmpty_iff.mp empty)
    have goes : (!Text.startsWith boundary line) = true := by
      rw [Bool.not_eq_true', Bool.eq_false_iff, ne_eq, Text.startsWith_iff]
      exact free none
    have goes' : (!Text.startsWith boundary line') = true := by
      rw [Bool.not_eq_true', Bool.eq_false_iff, ne_eq, Text.startsWith_iff]
      exact free' none
    rw [beforeBoundary, beforeBoundary, if_neg isEmpty, if_neg isEmpty, List.takeWhile_append,
      List.takeWhile_append]
    split
    · refine .inr ⟨after.takeWhile fun l => !Text.startsWith boundary l, List.takeWhile_prefix _, ?_, ?_⟩
      · simp only [List.takeWhile_cons, goes, if_true]
      · simp only [List.takeWhile_cons, goes', if_true]
    · exact .inl rfl

end Exchange

end ErrorEnum
end ReferencePages
