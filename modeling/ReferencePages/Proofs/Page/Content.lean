import ReferencePages.Proofs.Page.Footer
import ReferencePages.Proofs.Path.Text
/-!
What there is in a text: its lines that are not blank, without the blanks at their ends. Texts that are joined by line
feeds have the lines of each, and blanks at the ends of a text are at most blanks at the ends of its lines.
-/

namespace ReferencePages

namespace Text

theorem unifyNewlines_append_of_not_mem {x : Text} (carriage : '\r' ∉ x) (y : Text) :
    unifyNewlines (x ++ y) = x ++ unifyNewlines y := by
  induction x with
  | nil => rfl
  | cons c x ih =>
    rw [List.mem_cons, not_or] at carriage
    rw [List.cons_append, unifyNewlines, ih carriage.2, if_neg (Ne.symm carriage.1), List.cons_append]
    exact fun rest same _ => carriage.1 same.symm

/-- Line endings before a line feed are unified by themselves, except that a carriage return right before it
belongs to it. -/
theorem unifyNewlines_append_feed (x y : Text) :
    ∃ w, (unifyNewlines x = w ∨ unifyNewlines x = w ++ ['\n']) ∧
      unifyNewlines (x ++ '\n' :: y) = w ++ '\n' :: unifyNewlines y := by
  induction x using unifyNewlines.induct with
  | case1 => exact ⟨[], .inl rfl, by simp [unifyNewlines]⟩
  | case2 s ih =>
    obtain ⟨w, before, joined⟩ := ih
    refine ⟨'\n' :: w, ?_, ?_⟩
    · rcases before with same | ended
      · exact .inl (by rw [unifyNewlines, same])
      · exact .inr (by rw [unifyNewlines, ended, List.cons_append])
    · rw [List.cons_append, List.cons_append, unifyNewlines, joined, List.cons_append]
  | case3 c s other ih =>
    by_cases last : c = '\r' ∧ s = []
    · -- the carriage return and the line feed are one ending
      obtain ⟨rfl, rfl⟩ := last
      exact ⟨[], .inr rfl, rfl⟩
    · obtain ⟨w, before, joined⟩ := ih
      have single : ∀ rest, c = '\r' → s ++ '\n' :: y = '\n' :: rest → False := by
        intro rest carriage split
        cases s with
        | nil => exact last ⟨carriage, rfl⟩
        | cons d s => exact other s carriage (by rw [(List.cons.inj split).1])
      refine ⟨(if c = '\r' then '\n' else c) :: w, ?_, ?_⟩
      · rw [unifyNewlines]
        · rcases before with same | ended
          · exact .inl (by rw [same])
          · exact .inr (by rw [ended, List.cons_append])
        · exact other
      · rw [List.cons_append, unifyNewlines, joined, List.cons_append]
        exact single

theorem unifyNewlines_feed (s : Text) : unifyNewlines ('\n' :: s) = '\n' :: unifyNewlines s := by
  rw [unifyNewlines, if_neg (by decide)]
  exact fun _ carriage _ => absurd carriage (by decide)

theorem unifyNewlines_concat_carriage (s : Text) : unifyNewlines (s ++ ['\r']) = unifyNewlines s ++ ['\n'] := by
  induction s using unifyNewlines.induct with
  | case1 => rfl
  | case2 s ih => rw [List.cons_append, List.cons_append, unifyNewlines, unifyNewlines, ih, List.cons_append]
  | case3 c s other ih =>
    rw [List.cons_append, unifyNewlines, unifyNewlines, ih, List.cons_append]
    · exact other
    · intro rest carriage split
      cases s with
      | nil => simp at split
      | cons d s => exact other s carriage (by rw [(List.cons.inj split).1])

theorem carriage_not_mem_unifyNewlines (s : Text) : '\r' ∉ unifyNewlines s := by
  induction s using unifyNewlines.induct with
  | case1 => exact List.not_mem_nil
  | case2 s ih =>
    rw [unifyNewlines, List.mem_cons, not_or]
    exact ⟨by decide, ih⟩
  | case3 c s other ih =>
    rw [unifyNewlines, List.mem_cons, not_or]
    · refine ⟨fun same => ?_, ih⟩
      split at same
      · cases same
      · exact absurd same.symm ‹_›
    · exact other

end Text

namespace Page

open Text (trimEnd trimStart unifyNewlines splitOnChar isBlank)

/-- The lines that are not empty. -/
def filledLines (ls : List Text) : List Text := ls.filter (!·.isEmpty)

theorem filledLines_append (ls more : List Text) :
    filledLines (ls ++ more) = filledLines ls ++ filledLines more := List.filter_append ..

/-- The lines of a text that are not blank, without the blanks at their ends. -/
def content (text : Text) : List Text := filledLines ((splitOnChar '\n' (unifyNewlines text)).map trimEnd)

theorem content_nil : content [] = [] := rfl

theorem content_of_lines {s : Text} {ls : List Text} (split : splitOnChar '\n' (unifyNewlines s) = ls) :
    content s = filledLines (ls.map trimEnd) := by
  rw [content, split]

theorem content_unifyNewlines (s : Text) : content (unifyNewlines s) = content s :=
  content_of_lines (by rw [Text.unifyNewlines_of_not_mem (Text.carriage_not_mem_unifyNewlines s)])

/-- A line feed at the end has no part in it. -/
theorem content_of_ended {s w : Text} (ended : unifyNewlines s = w ∨ unifyNewlines s = w ++ ['\n']) :
    content s = filledLines ((splitOnChar '\n' w).map trimEnd) := by
  rcases ended with same | feed
  · exact content_of_lines (by rw [same])
  · have empty : splitOnChar '\n' [] = [[]] := rfl
    rw [content, feed, Text.splitOnChar_append_cons, empty, List.map_append, filledLines_append]
    exact List.append_nil _

/-- The lines before a line feed are those of the text before it. -/
theorem content_append_feed (x y : Text) : content (x ++ '\n' :: y) = content x ++ content y := by
  obtain ⟨w, before, joined⟩ := Text.unifyNewlines_append_feed x y
  rw [content, joined, Text.splitOnChar_append_cons, List.map_append, filledLines_append, content_of_ended before,
    content]

theorem content_joinWith (parts : List Text) : content (Text.joinWith "\n\n" parts) = parts.flatMap content := by
  induction parts with
  | nil => rfl
  | cons part parts ih =>
    by_cases none : parts = []
    · subst none
      rw [Text.joinWith, List.intercalate_singleton, List.flatMap_singleton]
    · have apart (s : Text) : content (part ++ "\n\n" ++ s) = content part ++ content s := by
        rw [List.append_assoc]
        exact (content_append_feed part ('\n' :: s)).trans (congrArg _ (content_append_feed [] s))
      rw [Text.joinWith_cons none, apart, ih, List.flatMap_cons]

/-! ### Blanks at the ends -/

/-- A character in front of a text that ends no line stands in front of its first line. -/
theorem content_cons {c : Char} (feed : c ≠ '\n') (carriage : c ≠ '\r') (s : Text) :
    ∃ first rest, content s = filledLines (trimEnd first :: rest) ∧
      content (c :: s) = filledLines (trimEnd (c :: first) :: rest) := by
  obtain ⟨first, rest, split⟩ := List.exists_cons_of_ne_nil (Text.splitOnChar_ne_nil '\n' (unifyNewlines s))
  have more : splitOnChar '\n' (unifyNewlines (c :: s)) = (c :: first) :: rest := by
    rw [unifyNewlines, if_neg carriage, splitOnChar, if_neg feed, split]
    exact fun _ same _ => carriage same
  exact ⟨first, rest.map trimEnd, content_of_lines split, content_of_lines more⟩

/-- A blank in front is at most a blank in front of the first line that is not blank. -/
theorem content_blank {c : Char} (blank : isBlank c = true) (s : Text) :
    (content (c :: s)).modifyHead trimStart = (content s).modifyHead trimStart := by
  by_cases feed : c = '\n'
  · subst feed
    exact congrArg _ (content_append_feed [] s)
  · by_cases carriage : c = '\r'
    · subst carriage
      -- It takes a line feed behind it with it, which would end an empty line.
      have ended : ∃ t, content t = content s ∧ unifyNewlines ('\r' :: s) = '\n' :: unifyNewlines t := by
        cases s with
        | nil => exact ⟨[], rfl, rfl⟩
        | cons d s =>
          by_cases pair : d = '\n'
          · subst pair
            exact ⟨s, (content_append_feed [] s).symm, by rw [unifyNewlines]⟩
          · refine ⟨d :: s, rfl, ?_⟩
            rw [unifyNewlines, if_pos rfl]
            exact fun _ _ split => pair (List.cons.inj split).1
      obtain ⟨t, same, unified⟩ := ended
      rw [← content_unifyNewlines, unified, ← same, ← content_unifyNewlines t]
      exact congrArg _ (content_append_feed [] _)
    · obtain ⟨first, rest, lines, more⟩ := content_cons feed carriage s
      rw [lines, more]
      cases line : trimEnd first with
      | nil =>
        have empty : trimEnd (c :: first) = [] := by
          rw [trimEnd] at line ⊢
          rw [Text.trimEndWhile, line]
          exact if_pos blank
        rw [empty]
      | cons d body =>
        have kept : trimEnd (c :: first) = c :: d :: body := by
          rw [trimEnd] at line ⊢
          rw [Text.trimEndWhile, line]
        rw [kept]
        simp [filledLines, trimStart, blank]

theorem content_margin {margin : Text} (blank : ∀ c ∈ margin, isBlank c = true) (s : Text) :
    (content (margin ++ s)).modifyHead trimStart = (content s).modifyHead trimStart := by
  induction margin with
  | nil => rfl
  | cons c margin ih =>
    obtain ⟨here, later⟩ := List.forall_mem_cons.mp blank
    rw [List.cons_append, content_blank here, ih later]

/-- Blanks behind a text are blanks at the ends of its lines. -/
theorem content_concat {c : Char} (blank : isBlank c = true) (s : Text) : content (s ++ [c]) = content s := by
  by_cases feed : c = '\n'
  · subst feed
    rw [content_append_feed, content_nil, List.append_nil]
  · by_cases carriage : c = '\r'
    · subst carriage
      rw [← content_unifyNewlines, Text.unifyNewlines_concat_carriage, content_append_feed, content_nil,
        List.append_nil, content_unifyNewlines]
    · obtain ⟨pieces, last, split⟩ := Text.splitOnChar_concat '\n' (unifyNewlines s)
      have whole := split [] List.not_mem_nil
      rw [List.append_nil, List.append_nil] at whole
      have more : splitOnChar '\n' (unifyNewlines (s ++ [c])) = pieces ++ [last ++ [c]] := by
        rw [Text.unifyNewlines_append (by simpa using Ne.symm carriage) (by simpa using Ne.symm feed)]
        exact split [c] (by simpa using Ne.symm feed)
      have cut : trimEnd (last ++ [c]) = trimEnd last :=
        Text.trimEndWhile_append_of_all (fun d member => List.mem_singleton.mp member ▸ blank) last
      rw [content_of_lines whole, content_of_lines more, List.map_append, List.map_append, List.map_singleton, cut,
        List.map_singleton]

theorem content_gap {gap : Text} (blank : ∀ c ∈ gap, isBlank c = true) (s : Text) : content (s ++ gap) = content s := by
  induction gap generalizing s with
  | nil => rw [List.append_nil]
  | cons c gap ih =>
    obtain ⟨here, later⟩ := List.forall_mem_cons.mp blank
    rw [← List.singleton_append, ← List.append_assoc, ih later, content_concat here]

theorem content_of_filled {s : Text} (starts : ∀ c ∈ s.head?, isBlank c = false) :
    (content s).modifyHead trimStart = content s := by
  cases s with
  | nil => rfl
  | cons c s =>
    have filled := starts c rfl
    have feed : c ≠ '\n' := by
      rintro rfl
      cases filled
    have carriage : c ≠ '\r' := by
      rintro rfl
      cases filled
    obtain ⟨first, rest, _, lines⟩ := content_cons feed carriage s
    obtain ⟨body, cut⟩ : ∃ body, trimEnd (c :: first) = c :: body := by
      rw [trimEnd, Text.trimEndWhile]
      split
      · exact ⟨[], by simp [filled]⟩
      · exact ⟨_, rfl⟩
    rw [lines, cut]
    simp [filledLines, Text.trimStart_cons body filled]

/-- Of a text without the blanks at its ends, the first line that is not blank begins with something else. -/
theorem content_trim (s : Text) : content (Text.trim s) = (content s).modifyHead trimStart := by
  obtain ⟨margin, front, blank, starts⟩ := Text.trimStart_split s
  obtain ⟨gap, behind, blankToo, _⟩ := @Text.trimEndWhile_split isBlank (trimStart s)
  have cut : content (Text.trim s) = content (trimStart s) := by
    conv_rhs => rw [behind]
    exact (content_gap blankToo _).symm
  rw [cut, ← content_of_filled starts]
  conv_rhs => rw [front]
  exact (content_margin blank _).symm

/-- Line feeds at the ends of a text are no lines with something in them. -/
theorem content_trimFeeds (s : Text) : content (Text.trimWhile (· == '\n') s) = content s := by
  have front (s : Text) : content (s.dropWhile (· == '\n')) = content s := by
    induction s with
    | nil => rfl
    | cons c s ih =>
      by_cases feed : c = '\n'
      · subst feed
        rw [List.dropWhile_cons_of_pos (by decide), ih]
        exact (content_append_feed [] s).symm
      · rw [List.dropWhile_cons_of_neg (by simpa using feed)]
  obtain ⟨gap, behind, feeds, _⟩ := @Text.trimEndWhile_split (· == '\n') (s.dropWhile (· == '\n'))
  have blank : ∀ c ∈ gap, isBlank c = true := by
    intro c member
    obtain rfl := beq_iff_eq.mp (feeds c member)
    rfl
  rw [← front s, Text.trimWhile]
  conv_rhs => rw [behind]
  exact (content_gap blank _).symm

end Page
end ReferencePages
