import ReferencePages.Proofs.Page.Fence
/-!
The normal form of pages. It is reached in one step, and the texts that are in it are those that end with one
line feed behind a line that is not blank, that have line feeds alone to end lines, no blanks at the ends of
lines, and no two blank lines in a row outside of fences; a line feed alone is in it too.
-/

namespace ReferencePages

namespace Text

/-- Lines with an empty line behind them are the lines ended. -/
theorem unlines_ended {ls : List Text} (some : ls ≠ []) (single : ∀ line ∈ ls, '\n' ∉ line) :
    unlines (ls ++ [[]]) = unlines ls ++ "\n" := by
  rw [← splitOnChar_unlines_feed some single]
  exact joinWith_splitOnChar '\n' _

/-- Nothing is cut from the texts that do not end in a blank. -/
theorem trimEnd_eq_self_iff {s : Text} : trimEnd s = s ↔ ∀ c ∈ s.getLast?, isBlank c = false := by
  constructor
  · intro kept c last
    obtain ⟨gap, _, _, none | ⟨body, z, some, filled⟩⟩ := @trimEndWhile_split isBlank s
    · rw [trimEnd] at kept
      rw [← kept, none] at last
      cases last
    · rw [trimEnd] at kept
      rw [← kept, some, List.getLast?_concat] at last
      cases last
      exact filled
  · intro filled
    rcases List.eq_nil_or_concat s with rfl | ⟨body, z, rfl⟩
    · rfl
    · rw [List.concat_eq_append] at filled ⊢
      exact trimEndWhile_concat body (filled z List.getLast?_concat)

theorem trimEnd_trimEnd (s : Text) : trimEnd (trimEnd s) = trimEnd s := by
  rw [trimEnd_eq_self_iff]
  intro c last
  obtain ⟨gap, _, _, none | ⟨body, z, some, filled⟩⟩ := @trimEndWhile_split isBlank s
  · rw [trimEnd, none] at last
    cases last
  · rw [trimEnd, some, List.getLast?_concat] at last
    cases last
    exact filled

/-- Of the lines that do not end in a blank, the empty one alone is blank. -/
theorem eq_nil_of_isAllBlank {line : Text} (clean : ∀ c ∈ line.getLast?, isBlank c = false)
    (blank : isAllBlank line = true) : line = [] := by
  rcases List.eq_nil_or_concat line with rfl | ⟨body, z, rfl⟩
  · rfl
  · rw [List.concat_eq_append] at clean blank
    have last := List.all_eq_true.mp blank z (by simp)
    rw [clean z List.getLast?_concat] at last
    cases last

end Text

namespace Page

open Text (trimEnd unifyNewlines splitOnChar unlines isBlank isAllBlank)

/-! ### Lines and the fences above them -/

/-- Whether what follows certain lines is within a fence. Each fence among the lines leads into a fence or out
of it. -/
def within (inFence : Bool) (above : List Text) : Bool :=
  if Even (above.countP isFence) then inFence else !inFence

theorem within_cons (inFence : Bool) (line : Text) (above : List Text) :
    within inFence (line :: above) = within (if isFence line then !inFence else inFence) above := by
  unfold within
  cases fence : isFence line with
  | true =>
    rw [List.countP_cons_of_pos fence]
    simp only [Nat.even_add_one, if_true, Bool.not_not]
    by_cases even : Even (above.countP isFence) <;> simp [even]
  | false =>
    rw [List.countP_cons_of_neg (by simp [fence])]
    simp

/-- Lines of which no two empty ones follow each other outside of fences. -/
def IsSpaced (inFence : Bool) (ls : List Text) : Prop :=
  ∀ above below, ls = above ++ [] :: [] :: below → within inFence above = true

theorem isSpaced_nil (inFence : Bool) : IsSpaced inFence [] := by
  intro above below split
  simp at split

theorem isSpaced_cons {inFence : Bool} {line : Text} {ls : List Text} :
    IsSpaced inFence (line :: ls) ↔ (line = [] → ls.head? = some [] → inFence = true) ∧
      IsSpaced (if isFence line then !inFence else inFence) ls := by
  constructor
  · intro spaced
    refine ⟨?_, fun above below split => ?_⟩
    · rintro rfl next
      obtain ⟨below, rfl⟩ := List.head?_eq_some_iff.mp next
      exact spaced [] below rfl
    · rw [← within_cons]
      exact spaced (line :: above) below (by rw [split]; rfl)
  · rintro ⟨first, rest⟩ above below split
    cases above with
    | nil =>
      obtain ⟨rfl, rfl⟩ := List.cons.inj split
      exact first rfl rfl
    | cons other above =>
      obtain ⟨rfl, rfl⟩ := List.cons.inj split
      rw [within_cons]
      exact rest above below rfl

theorem IsSpaced.of_append {inFence : Bool} {ls gap : List Text} (spaced : IsSpaced inFence (ls ++ gap)) :
    IsSpaced inFence ls := by
  intro above below split
  exact spaced above (below ++ gap) (by simp [split])

theorem ne_nil_of_isFence {line : Text} (fence : isFence line = true) : line ≠ [] := by
  rintro rfl
  rw [isFence_nil] at fence
  cases fence

/-- Lines in order are spaced. After a blank line outside of fences they do not begin with another one. -/
theorem isSpaced_tidy (inFence afterBlank : Bool) (ls : List Text) :
    IsSpaced inFence (tidy inFence afterBlank ls) ∧
      (afterBlank = true → inFence = false → (tidy inFence afterBlank ls).head? ≠ some []) := by
  induction ls generalizing inFence afterBlank with
  | nil => exact ⟨isSpaced_nil inFence, fun _ _ first => Option.some_ne_none _ first.symm⟩
  | cons line ls ih =>
    rw [tidy]
    split
    · rename_i fence
      have filled := ne_nil_of_isFence fence
      refine ⟨isSpaced_cons.mpr ⟨fun empty => absurd empty filled, ?_⟩, fun _ _ first => ?_⟩
      · rw [if_pos fence]
        exact (ih (!inFence) false).1
      · exact filled (Option.some.inj first)
    · rename_i plain
      split
      · rename_i blank
        have outside : inFence = false := by simpa using (Bool.and_eq_true_iff.mp blank).1
        subst outside
        obtain ⟨spaced, apart⟩ := ih false true
        split
        · exact ⟨spaced, fun _ => apart rfl⟩
        · refine ⟨isSpaced_cons.mpr ⟨fun _ next => absurd next (apart rfl rfl), ?_⟩,
            fun after => absurd after ‹_›⟩
          rw [isFence_nil]
          exact spaced
      · rename_i kept
        refine ⟨isSpaced_cons.mpr ⟨fun empty _ => ?_, ?_⟩, fun _ outside first => ?_⟩
        · simpa [empty] using kept
        · rw [if_neg plain]
          exact (ih inFence false).1
        · simp [outside, Option.some.inj first] at kept

/-- Lines that are clean and spaced are in order. -/
theorem tidy_eq_self {inFence afterBlank : Bool} {ls : List Text} (clean : ∀ line ∈ ls, trimEnd line = line)
    (spaced : IsSpaced inFence ls) (apart : afterBlank = true → inFence = false → ls.head? ≠ some []) :
    tidy inFence afterBlank ls = ls := by
  induction ls generalizing inFence afterBlank with
  | nil => rfl
  | cons line ls ih =>
    have later := fun other member => clean other (List.mem_cons_of_mem line member)
    obtain ⟨first, rest⟩ := isSpaced_cons.mp spaced
    rw [tidy, clean line (List.mem_cons_self ..)]
    split
    · rename_i fence
      rw [if_pos fence] at rest
      rw [ih later rest fun after => absurd after Bool.false_ne_true]
    · rename_i plain
      rw [if_neg plain] at rest
      split
      · rename_i blank
        obtain ⟨outside, empty⟩ : inFence = false ∧ line = [] := by simpa using blank
        subst outside
        subst empty
        have notAfter : afterBlank = false := Bool.eq_false_iff.mpr fun after => apart after rfl rfl
        rw [notAfter, if_neg Bool.false_ne_true,
          ih later rest fun _ _ next => absurd (first rfl next) Bool.false_ne_true]
      · rw [ih later rest fun after => absurd after Bool.false_ne_true]

/-! ### The end of the lines -/

/-- What is dropped at the end is empty, and what is left does not end with an empty line. -/
theorem dropEmptyEnd_split (ls : List Text) :
    ∃ gap, ls = dropEmptyEnd ls ++ gap ∧ (∀ line ∈ gap, line = []) ∧
      ∀ last ∈ (dropEmptyEnd ls).getLast?, last ≠ [] := by
  induction ls with
  | nil =>
    exact ⟨[], rfl, fun _ member => absurd member List.not_mem_nil,
      fun _ none => (Option.not_mem_none _ none).elim⟩
  | cons line ls ih =>
    obtain ⟨gap, split, empty, ends⟩ := ih
    rw [dropEmptyEnd]
    split
    · rename_i none
      rw [none, List.nil_append] at split
      split
      · rename_i blank
        refine ⟨line :: gap, by rw [split]; rfl, ?_, fun _ none => (Option.not_mem_none _ none).elim⟩
        exact List.forall_mem_cons.mpr ⟨List.isEmpty_iff.mp blank, empty⟩
      · rename_i filled
        refine ⟨gap, by rw [split]; rfl, empty, ?_⟩
        rintro last final rfl
        rw [Option.mem_def, List.getLast?_singleton] at final
        exact filled (List.isEmpty_iff.mpr (Option.some.inj final))
    · rename_i some
      refine ⟨gap, by rw [List.cons_append, ← split], empty, ?_⟩
      rwa [List.getLast?_cons_of_ne_nil some]

/-! ### The normal form -/

/-- A text in normal form. -/
structure IsNormal (text : Text) : Prop where
  /-- It ends with one line feed, and the line before that is not blank. -/
  ended : ∃ above last, splitOnChar '\n' text = above ++ [last, []] ∧ isAllBlank last = false
  carriage : '\r' ∉ text
  /-- No line ends in a blank. -/
  clean : ∀ line ∈ splitOnChar '\n' text, ∀ c ∈ line.getLast?, isBlank c = false
  /-- Where two blank lines follow each other, a fence is open, so that the fences above them are odd in
  number. -/
  spaced : ∀ above first second below, splitOnChar '\n' text = above ++ first :: second :: below →
    isAllBlank first = true → isAllBlank second = true → ¬ Even (above.countP isFence)

theorem within_eq_true {above : List Text} : within false above = true ↔ ¬ Even (above.countP isFence) := by
  unfold within
  split <;> simp [*]

/-- Ended lines are in normal form where they are clean and spaced and the last one is not empty. -/
theorem isNormal_of_lines {above : List Text} {last : Text} (filled : last ≠ [])
    (clean : ∀ line ∈ above ++ [last],
      '\n' ∉ line ∧ '\r' ∉ line ∧ ∀ c ∈ line.getLast?, isBlank c = false)
    (spaced : IsSpaced false (above ++ [last])) : IsNormal (unlines (above ++ [last]) ++ "\n") := by
  have some : above ++ [last] ≠ [] := by simp
  have lines := Text.splitOnChar_unlines_feed some fun line member => (clean line member).1
  have ending : ∀ line ∈ above ++ [last] ++ [[]], ∀ c ∈ line.getLast?, isBlank c = false := by
    intro line member
    rcases List.mem_append.mp member with within | empty
    · exact (clean line within).2.2
    · rw [List.mem_singleton.mp empty]
      exact fun _ none => (Option.not_mem_none _ none).elim
  refine ⟨⟨above, last, ?_, ?_⟩, fun carriage => ?_, ?_, ?_⟩
  · rw [lines, List.append_assoc]
    rfl
  · refine Bool.eq_false_iff.mpr fun blank => filled (Text.eq_nil_of_isAllBlank ?_ blank)
    exact (clean last (List.mem_append_right _ (List.mem_singleton_self last))).2.2
  · have other : '\r' ≠ '\n' := by decide
    obtain ⟨line, member, inside⟩ := Text.exists_mem_splitOnChar other carriage
    rw [lines] at member
    rcases List.mem_append.mp member with within | empty
    · exact (clean line within).2.1 inside
    · rw [List.mem_singleton.mp empty] at inside
      cases inside
  · rw [lines]
    exact ending
  · intro before first second below split firstBlank secondBlank
    rw [lines] at split
    rw [split] at ending
    obtain rfl := Text.eq_nil_of_isAllBlank (ending first (by simp)) firstBlank
    obtain rfl := Text.eq_nil_of_isAllBlank (ending second (by simp)) secondBlank
    rw [← within_eq_true]
    -- the line after the last line feed has a line before it that is not empty
    rcases List.eq_nil_or_concat below with rfl | ⟨rest, final, rfl⟩
    · have same : above ++ [last] = before ++ [[]] := by
        have regrouped : (above ++ [last]) ++ [[]] = (before ++ [[]]) ++ [[]] := by simp [split]
        exact (List.append_inj' regrouped rfl).1
      exact absurd (List.append_singleton_inj.mp same).2 filled
    · refine spaced before rest ?_
      have regrouped : (above ++ [last]) ++ [[]] = (before ++ [] :: [] :: rest) ++ [final] := by
        simp [split]
      exact (List.append_inj' regrouped rfl).1

/-- A text in normal form is its own normal form. -/
theorem IsNormal.normalize_eq {text : Text} (normal : IsNormal text) : normalize text = text := by
  obtain ⟨⟨above, last, lines, filled⟩, carriage, clean, spaced⟩ := normal
  have some : last ≠ [] := by
    rintro rfl
    cases filled
  have kept : tidy false false (above ++ [last, []]) = above ++ [last, []] := by
    refine tidy_eq_self (fun line member => ?_) (fun before below split => ?_) fun after =>
      absurd after Bool.false_ne_true
    · exact Text.trimEnd_eq_self_iff.mpr (clean line (lines ▸ member))
    · rw [within_eq_true]
      exact spaced before [] [] below (lines.trans split) rfl rfl
  have dropped : dropEmptyEnd (above ++ [last, []]) = above ++ [last] := dropEmptyEnd_append some above [[]]
  have single : ∀ line ∈ above ++ [last], '\n' ∉ line := by
    intro line member
    refine Text.not_mem_of_mem_splitOnChar (s := text) ?_
    rw [lines]
    rcases List.mem_append.mp member with within | same
    · exact List.mem_append_left _ within
    · exact List.mem_append_right _ (List.mem_cons.mpr (.inl (List.mem_singleton.mp same)))
  rw [normalize, Text.unifyNewlines_of_not_mem carriage, lines, kept, dropped,
    ← Text.unlines_ended (by simp) single, List.append_assoc]
  exact (congrArg unlines lines).symm.trans (Text.joinWith_splitOnChar '\n' text)

/-- No line ending is left in a line. -/
theorem single_of_mem_lines {text line : Text} (member : line ∈ splitOnChar '\n' (unifyNewlines text)) :
    '\n' ∉ trimEnd line ∧ '\r' ∉ trimEnd line := by
  obtain ⟨gap, cut, _⟩ := @Text.trimEndWhile_split isBlank line
  refine ⟨fun feed => ?_, fun carriage => ?_⟩
  · exact Text.not_mem_of_mem_splitOnChar member (cut ▸ List.mem_append_left _ feed)
  · exact Text.carriage_not_mem_unifyNewlines text
      (Text.mem_of_mem_splitOnChar member (cut ▸ List.mem_append_left _ carriage))

/-- The normal form of a text is in normal form, or nothing is left but a line feed. -/
theorem normalize_isNormal (text : Text) : normalize text = "\n" ∨ IsNormal (normalize text) := by
  obtain ⟨gap, split, _, ends⟩ :=
    dropEmptyEnd_split (tidy false false (splitOnChar '\n' (unifyNewlines text)))
  have spaced := (isSpaced_tidy false false (splitOnChar '\n' (unifyNewlines text))).1
  rw [split] at spaced
  have clean (line : Text)
      (member : line ∈ dropEmptyEnd (tidy false false (splitOnChar '\n' (unifyNewlines text)))) :
      '\n' ∉ line ∧ '\r' ∉ line ∧ ∀ c ∈ line.getLast?, isBlank c = false := by
    obtain ⟨whole, within, rfl⟩ := mem_tidy (mem_dropEmptyEnd member)
    obtain ⟨feed, carriage⟩ := single_of_mem_lines within
    exact ⟨feed, carriage, Text.trimEnd_eq_self_iff.mp (Text.trimEnd_trimEnd whole)⟩
  unfold normalize
  dsimp only
  generalize dropEmptyEnd (tidy false false (splitOnChar '\n' (unifyNewlines text))) = kept at ends spaced clean ⊢
  rcases List.eq_nil_or_concat kept with rfl | ⟨above, last, rfl⟩
  · exact .inl rfl
  · rw [List.concat_eq_append] at ends spaced clean ⊢
    exact .inr (isNormal_of_lines (ends last List.getLast?_concat) clean spaced.of_append)

theorem normalize_feed : normalize "\n" = "\n" := rfl

/-- The normal form of a text is its own normal form. The texts that are their own normal form are the line feed
and the texts that end with one line feed behind a line that is not blank and have no carriage return, no line
that ends in a blank, and no two blank lines in a row outside of fences. -/
theorem normalize_fixed (text : Text) :
    normalize (normalize text) = normalize text ∧ (normalize text = text ↔ text = "\n" ∨ IsNormal text) := by
  have fixed (text : Text) (form : text = "\n" ∨ IsNormal text) : normalize text = text := by
    rcases form with rfl | normal
    · exact normalize_feed
    · exact normal.normalize_eq
  refine ⟨fixed _ (normalize_isNormal text), fun same => ?_, fixed text⟩
  rw [← same]
  exact normalize_isNormal text

end Page
end ReferencePages
