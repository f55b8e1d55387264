import ReferencePages.Proofs.DecisionRecord.Decision
import ReferencePages.Proofs.Text.Join
import ReferencePages.Proofs.Text.Lines
/-!
The line that states a decision beside the excerpt of its record. Both scans look for headings, and each has words of
its own: a heading that begins with a small letter begins a decision, but no section of the excerpt. So the line
stands in the excerpt where the nearest heading above it begins with a capital letter.
-/

namespace ReferencePages.DecisionRecord

/-! ### Sections of the excerpt -/

/-- The words that a heading of a section worth summarizing begins with. -/
def excerptWords : List Text := ["Context", "Decision"]

theorem areFilled_excerptWords : AreFilled excerptWords :=
  List.forall_mem_cons.mpr ⟨⟨_, _, rfl, rfl⟩, List.forall_mem_singleton.mpr ⟨_, _, rfl, rfl⟩⟩

theorem isExcerptHeading_iff {line : Text} : isExcerptHeading line = true ↔ Heads excerptWords line :=
  isHeadingOf_iff areFilled_excerptWords

/-- What is taken from some lines does not hang on the lines behind them. -/
theorem exists_excerptLines_append (inSection : Bool) (ls : List Text) :
    ∃ after, ∀ rest, excerptLines inSection (ls ++ rest) = excerptLines inSection ls ++ excerptLines after rest := by
  induction ls generalizing inSection with
  | nil => exact ⟨inSection, fun rest => rfl⟩
  | cons line ls ih =>
    simp only [List.cons_append, excerptLines]
    split
    · exact ih true
    · split
      · exact ih false
      · split
        · exact ih false
        · obtain ⟨after, taken⟩ := ih true
          exact ⟨after, fun rest => congrArg (line :: ·) (taken rest)⟩

theorem excerptLines_heading {heading : Text} (heads : Heads excerptWords heading) (inSection : Bool) (rest : List Text) :
    excerptLines inSection (heading :: rest) = excerptLines true rest := by
  rw [excerptLines, if_pos (isExcerptHeading_iff.mpr heads)]

theorem excerptLines_subheading {heading : Text} (subheading : isSubheading heading = true)
    (other : ¬ Heads excerptWords heading) (inSection : Bool) (rest : List Text) :
    excerptLines inSection (heading :: rest) = excerptLines false rest := by
  rw [excerptLines, if_neg (mt isExcerptHeading_iff.mp other)]
  cases inSection with
  | false => rfl
  | true =>
    rw [subheading]
    rfl

/-- Between headings all lines are taken, or none. -/
theorem excerptLines_between {ls : List Text} (plain : ∀ line ∈ ls, isSubheading line = false) (inSection : Bool)
    (rest : List Text) :
    excerptLines inSection (ls ++ rest) = (if inSection then ls else []) ++ excerptLines inSection rest := by
  induction ls with
  | nil => cases inSection <;> rfl
  | cons line ls ih =>
    obtain ⟨here, later⟩ := List.forall_mem_cons.mp plain
    have unheaded : ¬ isExcerptHeading line = true := fun heading => by
      rw [(isExcerptHeading_iff.mp heading).isSubheading] at here
      cases here
    rw [List.cons_append, excerptLines, if_neg unheaded, here]
    cases inSection with
    | false => exact ih later
    | true => exact congrArg (line :: ·) (ih later)

/-! ### The nearest heading -/

/-- The last of some lines that has a property. -/
theorem exists_last {p : Text → Prop} {ls : List Text} (some : ∃ line ∈ ls, p line) :
    ∃ before line after, ls = before ++ line :: after ∧ p line ∧ ∀ other ∈ after, ¬ p other := by
  induction ls with
  | nil =>
    obtain ⟨line, member, _⟩ := some
    cases member
  | cons first ls ih =>
    by_cases later : ∃ line ∈ ls, p line
    · obtain ⟨before, line, after, rfl, holds, none⟩ := ih later
      exact ⟨first :: before, line, after, rfl, holds, none⟩
    · obtain ⟨line, member, holds⟩ := some
      rcases List.mem_cons.mp member with rfl | inside
      · exact ⟨[], line, ls, rfl, holds, fun other within found => later ⟨other, within, found⟩⟩
      · exact absurd ⟨line, inside, holds⟩ later

/-- The line that states a decision below the nearest heading of a decision. No other heading is in between. -/
structure Under (ls before : List Text) (heading : Text) (between : List Text) (line : Text) (after : List Text) :
    Prop where
  whole : ls = before ++ heading :: (between ++ line :: after)
  heads : Heads decisionWords heading
  plain : ∀ other ∈ between ++ [line], isSubheading other = false
  statement : IsStatement line

/-- The first line with a property is not behind another one with it. -/
theorem IsFirst.le_length {p : Text → Prop} {ls before after : List Text} {i : Nat} {line other : Text}
    (first : IsFirst p ls i line) (whole : ls = before ++ other :: after) (holds : p other) : i ≤ before.length := by
  by_contra less
  refine first.before before.length (by omega) other ?_ holds
  rw [whole, List.getElem?_append_right (Nat.le_refl _), Nat.sub_self]
  rfl

theorem Stands.under {ls : List Text} {i j : Nat} {line : Text} (stands : Stands ls i j line) :
    ∃ before heading between, Under ls before heading between line (ls.drop (j + 1)) := by
  obtain ⟨first, isFirst⟩ := stands.heading
  have inside : first ∈ ls.take j := by
    refine List.mem_of_getElem? (i := i) ?_
    rw [List.getElem?_take_of_lt stands.behind]
    exact isFirst.here
  obtain ⟨before, heading, between, split, heads, none⟩ := exists_last ⟨first, inside, isFirst.holds⟩
  have whole : ls = before ++ heading :: (between ++ line :: ls.drop (j + 1)) := by
    obtain ⟨within, rfl⟩ := List.getElem?_eq_some_iff.mp stands.here
    rw [← List.cons_append, ← List.append_assoc, ← split, List.getElem_cons_drop, List.take_append_drop]
  -- The first heading is not behind the nearest one, so that a line in between is behind the first.
  have reach := isFirst.le_length whole heads
  refine ⟨before, heading, between, whole, heads, fun other member => ?_, stands.statement⟩
  rw [Bool.eq_false_iff]
  intro subheading
  rcases List.mem_append.mp member with within | last
  · obtain ⟨m, there⟩ := List.mem_iff_getElem?.mp within
    have place : (ls.take j)[before.length + (m + 1)]? = some other := by
      rw [split, List.getElem?_append_right (Nat.le_add_right _ _), Nat.add_sub_cancel_left, List.getElem?_cons_succ,
        there]
    have upTo : before.length + (m + 1) < j :=
      (List.getElem?_eq_some_iff.mp place).1.trans_le (List.length_take_le ..)
    rw [List.getElem?_take_of_lt upTo] at place
    exact stands.next _ (by omega) upTo other place (isStatement_of_isSubheading subheading (none other within))
  · obtain rfl := List.mem_singleton.mp last
    exact stands.statement.1 (stands.within j stands.behind (Nat.le_refl j) other stands.here
      (isSubheading_iff.mp subheading))

/-! ### Capital and small letters -/

/-- A heading of a decision begins with a capital letter or with a small one. -/
theorem Heads.capital_or_small {heading : Text} (heads : Heads decisionWords heading) :
    Heads ["Decision"] heading ∨ Heads ["decision"] heading := by
  obtain ⟨gap, word, rest, isGap, member, split⟩ := heads
  rcases List.mem_cons.mp member with same | other
  · exact .inl ⟨gap, word, rest, isGap, List.mem_singleton.mpr same, split⟩
  · exact .inr ⟨gap, word, rest, isGap, other, split⟩

/-- With a capital letter it begins a section of the excerpt as well. -/
theorem Heads.excerpt {heading : Text} (capital : Heads ["Decision"] heading) : Heads excerptWords heading := by
  obtain ⟨gap, word, rest, isGap, member, split⟩ := capital
  exact ⟨gap, word, rest, isGap, List.mem_cons_of_mem _ member, split⟩

theorem areFilled_small : AreFilled ["decision"] := List.forall_mem_singleton.mpr ⟨_, _, rfl, rfl⟩

theorem Heads.not_excerpt {heading : Text} (small : Heads ["decision"] heading) : ¬ Heads excerptWords heading := by
  intro excerpt
  obtain ⟨title, read, word, member, start⟩ := small.read areFilled_small
  obtain ⟨title', read', word', member', start'⟩ := excerpt.read areFilled_excerptWords
  obtain rfl : title = title' := Option.some.inj (read.symm.trans read')
  obtain rfl := List.mem_singleton.mp member
  have apart : ∀ w ∈ excerptWords, w.head? ≠ some 'd' ∧ w ≠ [] := by decide
  obtain ⟨rest, rfl⟩ := start
  obtain ⟨rest', split⟩ := start'
  obtain ⟨other, some⟩ := apart word' member'
  cases word' with
  | nil => exact some rfl
  | cons c s => exact other (congrArg Option.some (List.cons.inj split).1)

namespace Under

variable {ls before between after : List Text} {heading line : Text}

theorem mem_excerptLines (under : Under ls before heading between line after) (capital : Heads ["Decision"] heading) :
    line ∈ excerptLines false ls := by
  obtain ⟨inSection, taken⟩ := exists_excerptLines_append false before
  rw [under.whole, taken, excerptLines_heading capital.excerpt, List.append_cons, excerptLines_between under.plain]
  simp

/-- The section below a heading with a small letter is left out up to the line that states the decision. -/
theorem excerptLines_small (under : Under ls before heading between line after) (small : Heads ["decision"] heading) :
    excerptLines false ls = excerptLines false before ++ excerptLines false after := by
  obtain ⟨inSection, taken⟩ := exists_excerptLines_append false before
  rw [under.whole, taken, excerptLines_subheading small.isSubheading small.not_excerpt, List.append_cons,
    excerptLines_between under.plain]
  rfl

end Under

/-- Every line of the sections stands in the excerpt without the blanks around it. -/
theorem trim_infix_excerptOf {ls : List Text} {line : Text} (member : line ∈ excerptLines false ls) :
    Text.trim line <:+: excerptOf ls := by
  obtain ⟨_, _, _, _, _, first, last⟩ := Text.trim_split line
  exact Text.infix_trim first last ((Text.trim_infix line).trans (Text.infix_joinWith member))

/-- The line that states a decision stands below a nearest heading of a decision. If this heading begins with a capital
letter, the line stands in the excerpt without the blanks around it, and in one of its lines if it is a line itself.
If it begins with a small letter, the excerpt has nothing of the section up to this line. -/
theorem decisionLine_quoted {ls : List Text} (some : decisionLineOf false ls ≠ []) :
    ∃ before heading between line after, Under ls before heading between line after ∧
      decisionLineOf false ls = Text.trim line ∧
      (Heads ["Decision"] heading ∧ decisionLineOf false ls <:+: excerptOf ls ∧
          (Text.IsLine line → ∃ shown ∈ Text.lines (excerptOf ls), decisionLineOf false ls <:+: shown) ∨
        Heads ["decision"] heading ∧ excerptLines false ls = excerptLines false before ++ excerptLines false after) := by
  obtain ⟨i, j, line, stands, read⟩ := (decisionLine_stands ls).resolve_right fun none => some none.2
  obtain ⟨before, heading, between, under⟩ := stands.under
  refine ⟨before, heading, between, line, _, under, read, ?_⟩
  rcases under.heads.capital_or_small with capital | small
  · have within := trim_infix_excerptOf (under.mem_excerptLines capital)
    rw [read] at some ⊢
    refine .inl ⟨capital, within, fun single => ?_⟩
    have single' : Text.IsLine (Text.trim line) := fun c member => single c ((Text.trim_infix line).subset member)
    exact Text.exists_line_of_infix single' some within
  · exact .inr ⟨small, under.excerptLines_small small⟩

/-- A record with one decision in two sections. -/
def queueRecord : List Text :=
  ["# Queues", "", "## Context", "Calls get lost.", "## Decision", "---", "", "  Use queues.  ", "## Consequences",
    "More messages."]

theorem decisionLine_quoted_queues :
    decisionLineOf false queueRecord ≠ [] ∧
      ∃ shown ∈ Text.lines (excerptOf queueRecord), ("Use queues." : Text) <:+: shown := by
  have some : decisionLineOf false queueRecord ≠ [] := by decide +kernel
  have said : decisionLineOf false queueRecord = "Use queues." := by decide +kernel
  obtain ⟨before, heading, between, line, after, under, _, ⟨_, _, shown⟩ | ⟨small, _⟩⟩ := decisionLine_quoted some
  · have single : ∀ line ∈ queueRecord, Text.IsLine line := by decide +kernel
    rw [said] at shown
    exact ⟨some, shown (single line (under.whole ▸ by simp))⟩
  · have capital : ∀ line ∈ queueRecord, isHeadingOf ["decision"] line = false := by decide +kernel
    have heads := (isHeadingOf_iff areFilled_small).mpr small
    rw [capital heading (under.whole ▸ by simp)] at heads
    cases heads

/-- Below a heading with a small letter a decision is stated, and nothing of it stands in the excerpt. -/
theorem small_heading_unquoted :
    decisionLineOf false ["## decision", "Use queues."] = ("Use queues." : Text) ∧
      excerptOf ["## decision", "Use queues."] = [] := by
  decide +kernel

end ReferencePages.DecisionRecord
