import ReferencePages.Proofs.Text.Search
import Mathlib.Data.List.Infix
/-!
Where a word can stand in a text. A word without a certain character stands on one side of every place where
that character is, which is how a line of signs and names is taken apart.
-/

namespace ReferencePages.Text

variable {w : Text} {d : Char}

theorem prefix_append_cons (absent : d ∉ w) (a b : Text) : w <+: a ++ d :: b ↔ w <+: a := by
  constructor
  · intro start
    induction w generalizing a with
    | nil => exact List.nil_prefix
    | cons x w ih =>
      rw [List.mem_cons, not_or] at absent
      cases a with
      | nil =>
        rw [List.nil_append, List.cons_prefix_cons] at start
        exact absurd start.1.symm absent.1
      | cons c a =>
        rw [List.cons_append, List.cons_prefix_cons] at start
        exact List.cons_prefix_cons.mpr ⟨start.1, ih absent.2 a start.2⟩
  · intro start
    exact start.trans (List.prefix_append _ _)

/-- A word without a certain character stands before it or after it. -/
theorem infix_append_cons (absent : d ∉ w) (a b : Text) :
    w <:+: a ++ d :: b ↔ w <:+: a ∨ w <:+: b := by
  induction a with
  | nil =>
    have start := prefix_append_cons absent [] b
    rw [List.nil_append] at start
    rw [List.nil_append, List.infix_cons_iff, start, List.infix_nil, List.prefix_nil]
  | cons c a ih =>
    have start := prefix_append_cons absent (c :: a) b
    rw [List.cons_append] at start
    rw [List.cons_append, List.infix_cons_iff, start, ih, List.infix_cons_iff, or_assoc]

theorem infix_concat_of_not_mem (absent : d ∉ w) (filled : w ≠ []) (a : Text) :
    w <:+: a ++ [d] ↔ w <:+: a := by
  rw [infix_append_cons absent, List.infix_nil, or_iff_left filled]

/-- A word that does not begin with a character stands after it. -/
theorem infix_cons_of_head {x : Char} {w : Text} (other : x ≠ d) (b : Text) :
    x :: w <:+: d :: b ↔ x :: w <:+: b := by
  rw [List.infix_cons_iff, List.cons_prefix_cons, or_iff_right fun start => other start.1]

/-- A word stands behind every part that does not hold its first character. -/
theorem infix_append_of_head {a : Text} (absent : ∀ c ∈ w.head?, c ∉ a) (b : Text) :
    w <:+: a ++ b ↔ w <:+: b := by
  cases w with
  | nil => exact iff_of_true List.nil_infix List.nil_infix
  | cons x w =>
    have first := absent x rfl
    induction a with
    | nil => exact Iff.rfl
    | cons c a ih =>
      rw [List.mem_cons, not_or] at first
      rw [List.cons_append, infix_cons_of_head first.1]
      refine ih (fun d same => ?_) first.2
      cases same
      exact first.2

/-- A word that does not end with a character stands before it. -/
theorem infix_concat_of_last {x : Char} {w : Text} (other : x ≠ d) (a : Text) :
    w ++ [x] <:+: a ++ [d] ↔ w ++ [x] <:+: a := by
  rw [List.infix_concat_iff, or_iff_right]
  intro last
  rw [← List.reverse_prefix, List.reverse_append, List.reverse_append, List.reverse_singleton,
    List.reverse_singleton, List.singleton_append, List.singleton_append, List.cons_prefix_cons] at last
  exact other last.1

/-- A word stands before every part that does not hold its last character. -/
theorem infix_append_of_last {b : Text} (absent : ∀ c ∈ w.getLast?, c ∉ b) (a : Text) :
    w <:+: a ++ b ↔ w <:+: a := by
  have first : ∀ c ∈ w.reverse.head?, c ∉ b.reverse := by
    intro c head
    rw [List.head?_reverse] at head
    rw [List.mem_reverse]
    exact absent c head
  rw [← List.reverse_infix, List.reverse_append, infix_append_of_head first, List.reverse_infix]

theorem head?_of_prefix {s t : Text} (begins : s <+: t) : ∀ c ∈ s.head?, c ∈ t.head? := by
  obtain ⟨rest, rfl⟩ := begins
  cases s with
  | nil => exact nofun
  | cons d s => exact fun c head => head

/-- A text is cut at a word that does not begin anywhere before. -/
theorem splitAtFirst?_append {a b : Text} (word : Text)
    (before : ∀ x y, a = x ++ y → y ≠ [] → ¬ word <+: y ++ (word ++ b)) :
    splitAtFirst? word (a ++ (word ++ b)) = some (a, b) := by
  induction a with
  | nil =>
    rw [List.nil_append]
    cases text : word ++ b with
    | nil =>
      obtain ⟨rfl, rfl⟩ := List.append_eq_nil_iff.mp text
      rfl
    | cons c s =>
      have read := after?_append word b
      rw [text] at read
      rw [splitAtFirst?, read]
  | cons c a ih =>
    have unread := before [] (c :: a) rfl (List.cons_ne_nil c a)
    have later := ih fun x y split kept => before (c :: x) y (by rw [split, List.cons_append]) kept
    rw [List.cons_append] at unread ⊢
    rw [splitAtFirst?, after?_eq_none unread, later, Option.map_some]

theorem splitAtFirst?_eq_none {word s : Text} (absent : ¬ word <:+: s) : splitAtFirst? word s = none := by
  rw [← splitAtFirst?_isSome, Bool.not_eq_true, Option.isSome_eq_false_iff, Option.isNone_iff_eq_none] at absent
  exact absent

/-- A text that is cut at a word is cut where the word first begins. -/
theorem splitAtFirst?_eq_some {word s a b : Text} (cut : splitAtFirst? word s = some (a, b)) :
    s = a ++ (word ++ b) ∧ ∀ x y, a = x ++ y → y ≠ [] → ¬ word <+: y ++ (word ++ b) := by
  have here {s : Text} (read : after? word s = some b) : s = [] ++ (word ++ b) ∧
      ∀ x y : Text, [] = x ++ y → y ≠ [] → ¬ word <+: y ++ (word ++ b) :=
    ⟨by rw [List.nil_append, ← after?_eq_some, read], fun x y split filled =>
      absurd (List.append_eq_nil_iff.mp split.symm).2 filled⟩
  induction s generalizing a with
  | nil =>
    obtain ⟨rest, read, same⟩ := Option.map_eq_some_iff.mp cut
    cases same
    exact here read
  | cons c s ih =>
    rw [splitAtFirst?] at cut
    split at cut
    · rename_i rest read
      cases cut
      exact here read
    · rename_i unread
      obtain ⟨⟨before, behind⟩, later, same⟩ := Option.map_eq_some_iff.mp cut
      cases same
      obtain ⟨rfl, free⟩ := ih later
      refine ⟨rfl, fun x y split filled => ?_⟩
      cases x with
      | nil =>
        rw [List.nil_append] at split
        subst split
        rintro ⟨rest, whole⟩
        rw [← List.cons_append, ← whole, after?_append] at unread
        cases unread
      | cons d x => exact free x y (List.cons.inj split).2 filled

/-- A word does not even begin in front of the place where it first begins. -/
theorem not_infix_of_splitAtFirst? {w s a b : Text} {z : Char} (cut : splitAtFirst? (w ++ [z]) s = some (a, b)) :
    ¬ w ++ [z] <:+: a ++ w := by
  obtain ⟨rfl, free⟩ := splitAtFirst?_eq_some cut
  rintro ⟨x, y, whole⟩
  have shorter : x.length < a.length := by
    have size := congrArg List.length whole
    simp only [List.length_append, List.length_singleton] at size
    omega
  -- The word would begin before that place, behind `x`.
  rw [List.append_assoc] at whole
  obtain ⟨rest, rfl⟩ := List.prefix_of_prefix_length_le ⟨_, whole⟩ (List.prefix_append a w) shorter.le
  rw [List.append_assoc x rest, List.append_cancel_left_eq] at whole
  refine free x rest rfl (fun empty => ?_) ?_
  · rw [empty, List.append_nil] at shorter
    exact lt_irrefl _ shorter
  · refine List.IsPrefix.trans ⟨y, whole⟩ ?_
    rw [List.append_assoc]
    exact (List.prefix_append_right_inj rest).mpr (List.prefix_append w _)

end ReferencePages.Text
