import ReferencePages.Transition
import ReferencePages.Proofs.Text.Infix
import ReferencePages.Proofs.Text.Trim
/-!
Where a guard is read. A guard begins after the word `if` between two blanks, so that a text without this word
has no guard, and the first place where it stands decides.
-/

namespace ReferencePages.Transition

/-- Whether the word `if` stands between two blanks. -/
def ContainsIf (s : Text) : Prop :=
  ∃ a b, Text.isBlank a = true ∧ Text.isBlank b = true ∧ [a, 'i', 'f', b] <:+: s

theorem ContainsIf.mono {s t : Text} (loose : ContainsIf s) (within : s <:+: t) : ContainsIf t := by
  obtain ⟨a, b, before, after, found⟩ := loose
  exact ⟨a, b, before, after, found.trans within⟩

/-- A sign divides the places where the word can stand. -/
theorem containsIf_append_cons {d : Char} (filled : Text.isBlank d = false) (other : d ∉ ['i', 'f'])
    (s t : Text) : ContainsIf (s ++ d :: t) ↔ ContainsIf s ∨ ContainsIf t := by
  have absent : ∀ a b, Text.isBlank a = true → Text.isBlank b = true → d ∉ [a, 'i', 'f', b] := by
    rintro a b before after held
    simp only [List.mem_cons, List.not_mem_nil, or_false] at other held
    rcases held with rfl | rfl | rfl | rfl
    · rw [filled] at before
      cases before
    · exact other (.inl rfl)
    · exact other (.inr rfl)
    · rw [filled] at after
      cases after
  constructor
  · rintro ⟨a, b, before, after, found⟩
    rcases (Text.infix_append_cons (absent a b before after) s t).mp found with first | second
    · exact .inl ⟨a, b, before, after, first⟩
    · exact .inr ⟨a, b, before, after, second⟩
  · rintro (first | second)
    · exact first.mono (List.prefix_append _ _).isInfix
    · exact second.mono ⟨s ++ [d], [], by simp⟩

/-- A word of its own stands between its blanks and nowhere else. -/
theorem eq_if_of_containsIf {s : Text} (filled : ∀ c ∈ s, Text.isBlank c = false)
    (loose : ContainsIf (' ' :: (s ++ [' ']))) : s = ['i', 'f'] := by
  have never : ∀ c ∈ s, Text.isBlank c ≠ true := by
    intro c member blank
    rw [filled c member] at blank
    cases blank
  have late : ∀ a b, Text.isBlank a = true → ¬ [a, 'i', 'f', b] <:+: s ++ [' '] := by
    intro a b before found
    rw [List.infix_concat_iff] at found
    rcases found with last | inside
    · obtain ⟨x, split⟩ := last
      have parts : x ++ [a, 'i', 'f'] ++ [b] = s ++ [' '] := by rw [← split]; simp
      have inner := (List.append_inj' parts rfl).1
      exact never a (inner ▸ List.mem_append_right _ (List.mem_cons_self ..)) before
    · exact never a (inside.subset (List.mem_cons_self ..)) before
  obtain ⟨a, b, before, after, found⟩ := loose
  rcases List.infix_cons_iff.mp found with first | later
  · obtain ⟨_, start⟩ := List.cons_prefix_cons.mp first
    rcases s with - | ⟨c, - | ⟨d, s⟩⟩
    · simp at start
    · simp at start
    · rw [List.cons_append, List.cons_append, List.cons_prefix_cons, List.cons_prefix_cons] at start
      obtain ⟨rfl, rfl, last⟩ := start
      cases s with
      | nil => rfl
      | cons e s =>
        rw [List.cons_append, List.cons_prefix_cons] at last
        exact absurd after (last.1 ▸ never e (by simp))
  · exact absurd later (late a b before)

theorem not_containsIf_word {s : Text} (filled : ∀ c ∈ s, Text.isBlank c = false) (other : s ≠ ['i', 'f']) :
    ¬ ContainsIf (' ' :: (s ++ [' '])) := fun loose => other (eq_if_of_containsIf filled loose)

/-- Nothing is read where the word does not begin. -/
theorem readGuard_eq_none {s : Text}
    (absent : ∀ a b, Text.isBlank a = true → Text.isBlank b = true → ¬ [a, 'i', 'f', b] <+: s) :
    readGuard s = none := by
  cases s with
  | nil => rfl
  | cons a s =>
    rw [readGuard]
    split
    · rename_i before
      cases read : Text.after? "if" s with
      | none => rfl
      | some rest =>
        have split : s = 'i' :: 'f' :: rest := Text.after?_eq_some.mp read
        cases rest with
        | nil => rfl
        | cons b rest =>
          have filled : ¬ Text.isBlank b = true := fun after =>
            absent a b before after ⟨rest, by rw [split]; rfl⟩
          rw [Option.bind_some, List.takeWhile_cons_of_neg filled]
          rfl
    · rfl

/-- A text in which the word does not stand has no guard. -/
theorem findRead?_readGuard_eq_none {s : Text} (absent : ¬ ContainsIf s) :
    Text.findRead? readGuard s = none := by
  refine Text.findRead?_eq_none ?_
  rintro x y rfl
  exact readGuard_eq_none fun a b before after start =>
    absent ⟨a, b, before, after, start.isInfix.trans (List.suffix_append _ _).isInfix⟩

/-! ### The text before an arrow -/

theorem untilArrow?_eq_none {c : Char} {s : Text} (absent : ¬ ['=', '>'] <:+: s) :
    untilArrow? (c :: s) = none := by
  have unarrowed : ¬ Text.startsWith "=>" (Text.trimStart s) = true := fun starts =>
    absent ((Text.startsWith_iff.mp starts).isInfix.trans (List.dropWhile_suffix _).isInfix)
  rw [untilArrow?, if_neg unarrowed]
  split
  · rfl
  · cases s with
    | nil => rfl
    | cons d s =>
      have later := untilArrow?_eq_none (c := d) fun within => absent (List.infix_cons_iff.mpr (.inr within))
      rw [later, Option.map_none]

/-- What stands before the first arrow is read without the blanks before the arrow. -/
theorem untilArrow?_append {s : Text} {z : Char} (filled : Text.isBlank z = false)
    (absent : ¬ ['=', '>'] <:+: s ++ [z]) (single : '\n' ∉ s) {gap : Text}
    (blank : ∀ c ∈ gap, Text.isBlank c = true) (tail : Text) :
    untilArrow? (s ++ z :: (gap ++ ' ' :: '=' :: '>' :: tail)) = some (s ++ [z]) := by
  induction s with
  | nil =>
    have same : z ≠ '\n' := by
      rintro rfl
      cases filled
    have arrow : Text.trimStart (gap ++ ' ' :: '=' :: '>' :: tail) = '=' :: '>' :: tail := by
      rw [Text.trimStart_append blank]
      rfl
    rw [List.nil_append, untilArrow?, if_neg same, arrow]
    rfl
  | cons c s ih =>
    rw [List.mem_cons, not_or] at single
    have within : s ++ [z] <:+: c :: s ++ [z] := (List.suffix_append [c] (s ++ [z])).isInfix
    have later := ih (fun found => absent (found.trans within)) single.2
    have kept : Text.trimStart (s ++ [z]) ≠ [] := by
      intro none
      have blank := List.dropWhile_eq_nil_iff.mp none z (by simp)
      rw [filled] at blank
      cases blank
    have unarrowed : ¬ Text.startsWith "=>"
        (Text.trimStart (s ++ z :: (gap ++ ' ' :: '=' :: '>' :: tail))) = true := by
      have split : s ++ z :: (gap ++ ' ' :: '=' :: '>' :: tail) =
          (s ++ [z]) ++ (gap ++ ' ' :: '=' :: '>' :: tail) := by simp
      rw [split, Text.trimStart_append_of_filled kept, Text.startsWith_iff]
      obtain ⟨d, rest, first, isBlank⟩ : ∃ d rest, gap ++ ' ' :: '=' :: '>' :: tail = d :: rest ∧
          Text.isBlank d = true := by
        cases gap with
        | nil => exact ⟨_, _, rfl, rfl⟩
        | cons d gap => exact ⟨d, _, rfl, blank d (List.mem_cons_self ..)⟩
      have sign : d ∉ ['=', '>'] := by
        intro held
        simp only [List.mem_cons, List.not_mem_nil, or_false] at held
        rcases held with rfl | rfl <;> cases isBlank
      rw [first]
      intro starts
      have start := (Text.prefix_append_cons sign _ _).mp starts
      exact absent ((start.isInfix.trans (List.dropWhile_suffix _).isInfix).trans within)
    rw [List.cons_append, untilArrow?, if_neg (Ne.symm single.1), if_neg unarrowed, later]
    rfl

theorem afterSomeBlanks?_append (c : Char) (margin : Text) {rest found : Text}
    (read : untilArrow? rest = some found) :
    afterSomeBlanks? (c :: margin ++ rest) (margin.length + 1) = some found := by
  have dropped : (c :: margin ++ rest).drop (margin.length + 1) = rest := List.drop_left' rfl
  rw [afterSomeBlanks?, dropped, read, Option.some_or]

theorem takeWhile_isBlank_append {margin : Text} (blank : ∀ c ∈ margin, Text.isBlank c = true) {c : Char}
    (filled : Text.isBlank c = false) (rest : Text) :
    (margin ++ c :: rest).takeWhile Text.isBlank = margin := by
  rw [List.takeWhile_append_of_pos blank, List.takeWhile_cons_of_neg (by simp [filled]), List.append_nil]

/-- A blank guard is read: one of the blanks is given back to stand before the arrow. -/
theorem afterSomeBlanks?_blank {guard tail : Text} (blank : ∀ c ∈ guard, Text.isBlank c = true)
    (last : ¬ ['=', '>'] <:+: tail) :
    afterSomeBlanks? (' ' :: (guard ++ ' ' :: '=' :: '>' :: tail))
      ((' ' :: (guard ++ ' ' :: '=' :: '>' :: tail)).takeWhile Text.isBlank).length = some [' '] := by
  have split : ' ' :: (guard ++ ' ' :: '=' :: '>' :: tail) = (' ' :: guard ++ [' ']) ++ '=' :: '>' :: tail := by
    simp
  have margin : ∀ c ∈ ' ' :: guard ++ [' '], Text.isBlank c = true := by
    intro c member
    simp only [List.mem_append, List.mem_cons, List.not_mem_nil, or_false] at member
    rcases member with (rfl | inside) | rfl
    · rfl
    · exact blank c inside
    · rfl
  have unread : untilArrow? ('=' :: '>' :: tail) = none := by
    refine untilArrow?_eq_none fun within => last ?_
    rwa [Text.infix_cons_of_head (by decide)] at within
  have back : untilArrow? (' ' :: '=' :: '>' :: tail) = some [' '] := rfl
  have dropped : ((' ' :: guard ++ [' ']) ++ '=' :: '>' :: tail).drop (guard.length + 2) = '=' :: '>' :: tail :=
    List.drop_left' (by simp)
  have fewer := afterSomeBlanks?_append ' ' guard back
  rw [split, takeWhile_isBlank_append margin rfl]
  have length : (' ' :: guard ++ [' ']).length = guard.length + 2 := by simp
  rw [length, afterSomeBlanks?, dropped, unread, Option.none_or, ← fewer]
  simp

/-- The guard is read without the blanks around it, up to the first arrow after it. -/
theorem readGuard_condition {guard tail : Text} (arrowless : ¬ ['=', '>'] <:+: guard)
    (single : '\n' ∉ guard) (last : ¬ ['=', '>'] <:+: tail) :
    readGuard (' ' :: 'i' :: 'f' :: ' ' :: (guard ++ ' ' :: '=' :: '>' :: tail)) =
      some (Text.trim guard) := by
  have opened : readGuard (' ' :: 'i' :: 'f' :: ' ' :: (guard ++ ' ' :: '=' :: '>' :: tail)) =
      (afterSomeBlanks? (' ' :: (guard ++ ' ' :: '=' :: '>' :: tail))
        ((' ' :: (guard ++ ' ' :: '=' :: '>' :: tail)).takeWhile Text.isBlank).length).map Text.trim := rfl
  rw [opened]
  obtain ⟨margin, split, blank, start⟩ := Text.trimStart_split guard
  obtain ⟨gap, rest, gapBlank, none | ⟨body, z, kept, filled⟩⟩ :=
    @Text.trimEndWhile_split Text.isBlank (Text.trimStart guard)
  · have allBlank : ∀ c ∈ guard, Text.isBlank c = true := by
      intro c member
      rw [split, rest, none, List.nil_append] at member
      rcases List.mem_append.mp member with inside | inside
      · exact blank c inside
      · exact gapBlank c inside
    have trimmed : Text.trim guard = [] := none
    rw [afterSomeBlanks?_blank allBlank last, trimmed]
    rfl
  · have trimmed : Text.trim guard = body ++ [z] := kept
    rw [kept] at rest
    have within : body ++ [z] <:+: guard := by
      rw [split, rest]
      exact ⟨margin, gap, by simp⟩
    have read := untilArrow?_append filled (fun found => arrowless (found.trans within))
      (fun member => single (within.subset (List.mem_append_left _ member))) gapBlank tail
    have ends : ∀ c ∈ (body ++ [z]).head?, Text.isBlank c = false := by
      rw [rest] at start
      cases body with
      | nil =>
        rintro c ⟨⟩
        exact filled
      | cons c body => exact start
    obtain ⟨c, more, first, letter⟩ : ∃ c more,
        body ++ z :: (gap ++ ' ' :: '=' :: '>' :: tail) = c :: more ∧ Text.isBlank c = false := by
      cases body with
      | nil => exact ⟨z, _, rfl, filled⟩
      | cons c body => exact ⟨c, _, rfl, ends c rfl⟩
    have parts : ' ' :: (guard ++ ' ' :: '=' :: '>' :: tail) =
        ' ' :: margin ++ (body ++ z :: (gap ++ ' ' :: '=' :: '>' :: tail)) := by
      rw [split, rest]
      simp
    have marginBlank : ∀ c ∈ ' ' :: margin, Text.isBlank c = true := List.forall_mem_cons.mpr ⟨rfl, blank⟩
    have count : ((' ' :: margin ++ (body ++ z :: (gap ++ ' ' :: '=' :: '>' :: tail))).takeWhile
        Text.isBlank).length = margin.length + 1 := by
      rw [first, takeWhile_isBlank_append marginBlank letter, List.length_cons]
    have kept : Text.trim (body ++ [z]) = body ++ [z] := @Text.trim_append [] nofun body z ends filled
    rw [parts, count, afterSomeBlanks?_append ' ' margin read, Option.map_some, trimmed, kept]

end ReferencePages.Transition
