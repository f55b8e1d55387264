import ReferencePages.DecisionRecord
import ReferencePages.Proofs.Text.Phrase
import Mathlib.Order.Nat
/-!
The line that states a decision. The scan goes with a flag from the first heading of a decision on and stops at the
first line that says something. Which line this is hangs on places alone: on the first heading of a decision, and on
the first line behind it that is neither such a heading nor blank nor a separator.
-/

namespace ReferencePages.DecisionRecord

open Text (IsGap IsFilled)

/-! ### Headings -/

/-- The two signs of a heading, blanks, and a text that begins with one of the words. -/
def Heads (words : List Text) (line : Text) : Prop :=
  ∃ gap word rest, IsGap gap ∧ word ∈ words ∧ line = "##" ++ (gap ++ (word ++ rest))

/-- Whether no word begins with a blank. -/
def AreFilled (words : List Text) : Prop := ∀ word ∈ words, ∃ c s, word = c :: s ∧ Text.isBlank c = false

theorem Heads.read {words : List Text} (filled : AreFilled words) {line : Text} (heads : Heads words line) :
    ∃ title, (Text.after? "##" line).bind Text.afterBlanks? = some title ∧ ∃ word ∈ words, word <+: title := by
  obtain ⟨gap, word, rest, isGap, member, rfl⟩ := heads
  have visible : IsFilled (word ++ rest) := by
    obtain ⟨c, s, rfl, letter⟩ := filled word member
    rintro d ⟨⟩
    exact letter
  refine ⟨word ++ rest, ?_, word, member, List.prefix_append word rest⟩
  rw [Text.after?_append, Option.bind_some]
  exact Text.afterBlanks?_eq_some.mpr ⟨gap, isGap, rfl, visible⟩

theorem isHeadingOf_iff {words : List Text} (filled : AreFilled words) {line : Text} :
    isHeadingOf words line = true ↔ Heads words line := by
  constructor
  · intro heads
    unfold isHeadingOf at heads
    split at heads
    · cases heads
    · rename_i rest read
      obtain ⟨behind, marked, blanks⟩ := Option.bind_eq_some_iff.mp read
      obtain rfl := Text.after?_eq_some.mp marked
      obtain ⟨gap, isGap, rfl, _⟩ := Text.afterBlanks?_eq_some.mp blanks
      obtain ⟨word, member, start⟩ := List.any_eq_true.mp heads
      obtain ⟨more, rfl⟩ := Text.startsWith_iff.mp start
      exact ⟨gap, word, more, isGap, member, rfl⟩
  · intro heads
    obtain ⟨title, read, word, member, start⟩ := heads.read filled
    rw [isHeadingOf, read]
    exact List.any_eq_true.mpr ⟨word, member, Text.startsWith_iff.mpr start⟩

/-- The words that a heading of a decision begins with. -/
def decisionWords : List Text := ["Decision", "decision"]

theorem areFilled_decisionWords : AreFilled decisionWords :=
  List.forall_mem_cons.mpr ⟨⟨_, _, rfl, rfl⟩, List.forall_mem_singleton.mpr ⟨_, _, rfl, rfl⟩⟩

theorem isDecisionHeading_iff {line : Text} : isDecisionHeading line = true ↔ Heads decisionWords line :=
  isHeadingOf_iff areFilled_decisionWords

theorem isSubheading_iff {line : Text} : isSubheading line = true ↔ ("##" : Text) <+: line := Text.startsWith_iff

theorem Heads.isSubheading {words : List Text} {line : Text} (heads : Heads words line) : isSubheading line = true := by
  obtain ⟨gap, word, rest, _, _, rfl⟩ := heads
  exact isSubheading_iff.mpr (List.prefix_append _ _)

/-! ### The first line -/

/-- The first of some lines that has a property, and its place. -/
structure IsFirst (p : Text → Prop) (ls : List Text) (i : Nat) (line : Text) : Prop where
  here : ls[i]? = some line
  holds : p line
  before : ∀ k < i, ∀ other ∈ ls[k]?, ¬ p other

theorem IsFirst.unique {p : Text → Prop} {ls : List Text} {i j : Nat} {a b : Text} (first : IsFirst p ls i a)
    (other : IsFirst p ls j b) : i = j ∧ a = b := by
  rcases Nat.lt_trichotomy i j with less | rfl | more
  · exact absurd first.holds (other.before i less a first.here)
  · exact ⟨rfl, Option.some.inj (first.here.symm.trans other.here)⟩
  · exact absurd other.holds (first.before j more b other.here)

theorem exists_first (p : Text → Prop) (ls : List Text) :
    (∃ i line, IsFirst p ls i line) ∨ ∀ line ∈ ls, ¬ p line := by
  classical
  by_cases some : ∃ i : Nat, ∃ line ∈ ls[i]?, p line
  · obtain ⟨line, here, holds⟩ := Nat.find_spec some
    exact .inl ⟨Nat.find some, line, here, holds, fun k before other there found =>
      Nat.find_min some before ⟨other, there, found⟩⟩
  · refine .inr fun line member holds => some ?_
    obtain ⟨i, there⟩ := List.mem_iff_getElem?.mp member
    exact ⟨i, line, there, holds⟩

/-! ### The scan -/

/-- A line that can state the decision: it is neither a heading of a decision nor blank nor a separator. -/
def IsStatement (line : Text) : Prop :=
  ¬ Heads decisionWords line ∧ Text.isAllBlank line = false ∧ ¬ ("---" : Text) <+: Text.trim line

/-- Every other heading stops the scan as a line that states the decision would. -/
theorem isStatement_of_isSubheading {line : Text} (heading : isSubheading line = true) (other : ¬ Heads decisionWords line) :
    IsStatement line := by
  obtain ⟨rest, rfl⟩ := isSubheading_iff.mp heading
  refine ⟨other, rfl, fun separates => ?_⟩
  obtain ⟨margin, gap, split, blank, _⟩ := Text.trim_split ("##" ++ rest)
  obtain ⟨more, trimmed⟩ := separates
  rw [← trimmed] at split
  cases margin with
  | nil => exact absurd (List.cons.inj split).1 (by decide)
  | cons c margin =>
    have sign := blank c (List.mem_cons_self ..)
    rw [← (List.cons.inj split).1] at sign
    exact absurd sign (by decide)

theorem decisionLineOf_passed {line : Text} (passed : ¬ IsStatement line) (ls : List Text) :
    decisionLineOf true (line :: ls) = decisionLineOf true ls := by
  by_cases heads : Heads decisionWords line
  · rw [decisionLineOf, if_pos (isDecisionHeading_iff.mpr heads)]
  · have plain : isSubheading line = false := Bool.eq_false_iff.mpr fun heading =>
      passed (isStatement_of_isSubheading heading heads)
    have skipped : ((Text.trim line).isEmpty || Text.startsWith "---" (Text.trim line)) = true := by
      rw [Bool.or_eq_true, List.isEmpty_iff, Text.trim_eq_nil_iff, Text.startsWith_iff]
      by_contra said
      rw [not_or, Bool.not_eq_true] at said
      exact passed ⟨heads, said⟩
    rw [decisionLineOf, if_neg (mt isDecisionHeading_iff.mp heads), plain]
    dsimp only
    rw [if_pos skipped]
    rfl

theorem decisionLineOf_statement {line : Text} (statement : IsStatement line) (ls : List Text) :
    decisionLineOf true (line :: ls) = if isSubheading line then [] else Text.trim line := by
  obtain ⟨other, filled, said⟩ := statement
  have kept : ((Text.trim line).isEmpty || Text.startsWith "---" (Text.trim line)) = false := by
    rw [Bool.or_eq_false_iff, List.isEmpty_eq_false_iff, ne_eq, Text.trim_eq_nil_iff, filled, Bool.eq_false_iff, ne_eq,
      Text.startsWith_iff]
    exact ⟨Bool.false_ne_true, said⟩
  rw [decisionLineOf, if_neg (mt isDecisionHeading_iff.mp other)]
  dsimp only
  rw [kept]
  rfl

/-- Behind a heading of a decision the first line that says something is returned, unless it is another heading. -/
theorem IsFirst.decisionLineOf_true {ls : List Text} {j : Nat} {line : Text} (first : IsFirst IsStatement ls j line) :
    decisionLineOf true ls = if isSubheading line then [] else Text.trim line := by
  induction ls generalizing j with
  | nil => cases first.here
  | cons next ls ih =>
    cases j with
    | zero =>
      cases first.here
      exact decisionLineOf_statement first.holds ls
    | succ j =>
      rw [decisionLineOf_passed (first.before 0 (Nat.succ_pos j) next rfl)]
      exact ih ⟨first.here, first.holds, fun k before => first.before (k + 1) (Nat.succ_lt_succ before)⟩

theorem decisionLineOf_true_nil {ls : List Text} (silent : ∀ line ∈ ls, ¬ IsStatement line) : decisionLineOf true ls = [] := by
  induction ls with
  | nil => rfl
  | cons line ls ih =>
    obtain ⟨here, later⟩ := List.forall_mem_cons.mp silent
    rw [decisionLineOf_passed here, ih later]

theorem decisionLineOf_unheaded {line : Text} (other : ¬ Heads decisionWords line) (ls : List Text) :
    decisionLineOf false (line :: ls) = decisionLineOf false ls := by
  rw [decisionLineOf, if_neg (mt isDecisionHeading_iff.mp other)]
  rfl

theorem IsFirst.decisionLineOf_false {ls : List Text} {i : Nat} {heading : Text}
    (first : IsFirst (Heads decisionWords) ls i heading) :
    decisionLineOf false ls = decisionLineOf true (ls.drop (i + 1)) := by
  induction ls generalizing i with
  | nil => cases first.here
  | cons next ls ih =>
    cases i with
    | zero =>
      cases first.here
      rw [decisionLineOf, if_pos (isDecisionHeading_iff.mpr first.holds)]
      rfl
    | succ i =>
      rw [decisionLineOf_unheaded (first.before 0 (Nat.succ_pos i) next rfl), List.drop_succ_cons]
      exact ih ⟨first.here, first.holds, fun k before => first.before (k + 1) (Nat.succ_lt_succ before)⟩

theorem decisionLineOf_false_nil {ls : List Text} (none : ∀ line ∈ ls, ¬ Heads decisionWords line) :
    decisionLineOf false ls = [] := by
  induction ls with
  | nil => rfl
  | cons line ls ih =>
    obtain ⟨here, later⟩ := List.forall_mem_cons.mp none
    rw [decisionLineOf_unheaded here, ih later]

/-! ### Places -/

/-- The decision is stated in line `j`: it is the first line that says something behind the first heading of a
decision, in line `i`, and neither it nor a line in between is another heading. -/
structure Stands (ls : List Text) (i j : Nat) (line : Text) : Prop where
  heading : ∃ heading, IsFirst (Heads decisionWords) ls i heading
  behind : i < j
  here : ls[j]? = some line
  statement : IsStatement line
  next : ∀ k, i < k → k < j → ∀ other ∈ ls[k]?, ¬ IsStatement other
  within : ∀ k, i < k → k ≤ j → ∀ other ∈ ls[k]?, ("##" : Text) <+: other → Heads decisionWords other

theorem Stands.first {ls : List Text} {i j : Nat} {line : Text} (stands : Stands ls i j line) :
    IsFirst IsStatement (ls.drop (i + 1)) (j - (i + 1)) line where
  here := by
    have behind := stands.behind
    rw [List.getElem?_drop, Nat.add_sub_cancel' behind]
    exact stands.here
  holds := stands.statement
  before k before other there := by
    rw [List.getElem?_drop] at there
    exact stands.next (i + 1 + k) (by omega) (by omega) other there

theorem IsFirst.stands {ls : List Text} {i n : Nat} {heading line : Text}
    (first : IsFirst (Heads decisionWords) ls i heading) (next : IsFirst IsStatement (ls.drop (i + 1)) n line)
    (plain : isSubheading line = false) : Stands ls i (i + 1 + n) line := by
  have here := next.here
  have between : ∀ k, i < k → k < i + 1 + n → ∀ other ∈ ls[k]?, ¬ IsStatement other := by
    intro k after before other there
    refine next.before (k - (i + 1)) (by omega) other ?_
    rwa [List.getElem?_drop, Nat.add_sub_cancel' after]
  rw [List.getElem?_drop] at here
  refine ⟨⟨heading, first⟩, by omega, here, next.holds, between, fun k after upTo other there subheading => ?_⟩
  by_contra unheaded
  rcases Nat.lt_or_eq_of_le upTo with before | rfl
  · exact between k after before other there (isStatement_of_isSubheading (isSubheading_iff.mpr subheading) unheaded)
  · cases here.symm.trans there
    rw [isSubheading_iff.mpr subheading] at plain
    cases plain

/-- Of the lines of a record the one that states the decision is returned without the blanks around it, and nothing
if there is no such line. -/
theorem decisionLine_stands (ls : List Text) :
    (∃ i j line, Stands ls i j line ∧ decisionLineOf false ls = Text.trim line) ∨
      (¬ ∃ i j line, Stands ls i j line) ∧ decisionLineOf false ls = [] := by
  rcases exists_first (Heads decisionWords) ls with ⟨i, heading, first⟩ | none
  · have same {i' j line} (stands : Stands ls i' j line) : i' = i := by
      obtain ⟨_, first'⟩ := stands.heading
      exact (first'.unique first).1
    rcases exists_first IsStatement (ls.drop (i + 1)) with ⟨n, line, next⟩ | silent
    · have read := first.decisionLineOf_false.trans next.decisionLineOf_true
      cases plain : isSubheading line with
      | false =>
        rw [plain] at read
        exact .inl ⟨i, i + 1 + n, line, first.stands next plain, read⟩
      | true =>
        rw [plain] at read
        refine .inr ⟨fun ⟨i', j, line', stands⟩ => ?_, read⟩
        obtain rfl := same stands
        obtain ⟨_, rfl⟩ := stands.first.unique next
        exact stands.statement.1 (stands.within j stands.behind (Nat.le_refl j) line' stands.here (isSubheading_iff.mp plain))
    · refine .inr ⟨fun ⟨i', j, line, stands⟩ => ?_, first.decisionLineOf_false.trans (decisionLineOf_true_nil silent)⟩
      obtain rfl := same stands
      exact silent line (List.mem_of_getElem? stands.first.here) stands.statement
  · refine .inr ⟨fun ⟨i, j, line, stands⟩ => ?_, decisionLineOf_false_nil none⟩
    obtain ⟨heading, first⟩ := stands.heading
    exact none heading (List.mem_of_getElem? first.here) first.holds

end ReferencePages.DecisionRecord
