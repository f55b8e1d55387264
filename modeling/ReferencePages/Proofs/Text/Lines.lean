import ReferencePages.Text.Lines
import ReferencePages.Proofs.Text.Search
/-!
Lines that are written one after the other, each with a line feed after it, are the lines of the text. Joined lines have
none behind the last, and are read again up to an empty one there.
-/

namespace ReferencePages.Text

/-- Whether a text can stand in one line. -/
def IsLine (s : Text) : Prop := ∀ c ∈ s, isLineEnd c = false

instance : DecidablePred IsLine := fun s => inferInstanceAs (Decidable (∀ c ∈ s, isLineEnd c = false))

theorem lines_cons {c : Char} (kept : isLineEnd c = false) {s l : Text} {ls : List Text}
    (rest : lines s = l :: ls) : lines (c :: s) = (c :: l) :: ls := by
  have other : c ≠ '\r' := by
    rintro rfl
    cases kept
  rw [lines, if_neg (by rw [kept]; exact Bool.false_ne_true), rest]
  exact fun _ carriage _ => other carriage

theorem lines_append {line : Text} (single : IsLine line) (s : Text) :
    lines (line ++ '\n' :: s) = line :: lines s := by
  induction line with
  | nil =>
    have ends : isLineEnd '\n' = true := rfl
    rw [List.nil_append, lines, if_pos ends]
    nofun
  | cons c line ih =>
    have rest := ih fun d member => single d (List.mem_cons_of_mem _ member)
    rw [List.cons_append, lines_cons (single c (List.mem_cons_self ..)) rest]

/-- Lines are divided at every line ending. -/
theorem isLine_of_mem_lines {s line : Text} (member : line ∈ lines s) : IsLine line := by
  induction s using lines.induct generalizing line with
  | case1 => cases member
  | case2 s ih =>
    rcases List.mem_cons.mp member with rfl | later
    · exact nofun
    · exact ih later
  | case3 c s other ends ih =>
    rw [lines, if_pos ends] at member
    · rcases List.mem_cons.mp member with rfl | later
      · exact nofun
      · exact ih later
    · exact other
  | case4 c s other kept none ih =>
    rw [lines, if_neg kept, none] at member
    · obtain rfl := List.mem_singleton.mp member
      intro d inside
      obtain rfl := List.mem_singleton.mp inside
      exact Bool.eq_false_iff.mpr kept
    · exact other
  | case5 c s other kept l ls rest ih =>
    rw [lines, if_neg kept, rest] at member
    · rw [rest] at ih
      rcases List.mem_cons.mp member with rfl | later
      · intro d inside
        rcases List.mem_cons.mp inside with rfl | inner
        · exact Bool.eq_false_iff.mpr kept
        · exact ih (List.mem_cons_self ..) d inner
      · exact ih (List.mem_cons_of_mem _ later)
    · exact other

theorem lines_of_isLine {line : Text} (single : IsLine line) (filled : line ≠ []) : lines line = [line] := by
  induction line with
  | nil => exact absurd rfl filled
  | cons c line ih =>
    have kept := single c (List.mem_cons_self ..)
    have inside : IsLine line := fun d member => single d (List.mem_cons_of_mem _ member)
    cases line with
    | nil =>
      rw [lines, if_neg (by rw [kept]; exact Bool.false_ne_true)]
      · rfl
      · nofun
    | cons d line => exact lines_cons kept (ih inside (List.cons_ne_nil d line))

theorem unlines_singleton (line : Text) : unlines [line] = line := by
  rw [unlines, joinWith, List.intercalate_singleton]

theorem unlines_cons {ls : List Text} (some : ls ≠ []) (line : Text) :
    unlines (line :: ls) = line ++ '\n' :: unlines ls :=
  (List.intercalate_cons_of_ne_nil some).trans (List.append_assoc ..)

/-- One more line stands behind one more line feed. -/
theorem unlines_concat {ls : List Text} (some : ls ≠ []) (last : Text) :
    unlines (ls ++ [last]) = unlines ls ++ '\n' :: last := by
  induction ls with
  | nil => exact absurd rfl some
  | cons line ls ih =>
    cases ls with
    | nil =>
      rw [List.singleton_append, unlines_cons (List.cons_ne_nil last []), unlines_singleton, unlines_singleton]
    | cons next ls =>
      have later := ih (List.cons_ne_nil next ls)
      rw [List.cons_append, unlines_cons (List.append_ne_nil_of_left_ne_nil (List.cons_ne_nil next ls) _), later,
        unlines_cons (List.cons_ne_nil next ls), List.append_assoc, List.cons_append]

/-- Joined lines are read again, up to an empty line at the end. -/
theorem lines_unlines {ls : List Text} (single : ∀ line ∈ ls, IsLine line) :
    ∃ left, ls = lines (unlines ls) ++ left ∧ ∀ line ∈ left, line = [] := by
  induction ls with
  | nil => exact ⟨[], rfl, nofun⟩
  | cons line ls ih =>
    have here := single line (List.mem_cons_self ..)
    cases ls with
    | nil =>
      rw [unlines_singleton]
      by_cases empty : line = []
      · subst empty
        exact ⟨[[]], rfl, fun other member => List.mem_singleton.mp member⟩
      · refine ⟨[], ?_, nofun⟩
        rw [lines_of_isLine here empty, List.append_nil]
    | cons next ls =>
      obtain ⟨left, split, empty⟩ := ih fun other member => single other (List.mem_cons_of_mem _ member)
      refine ⟨left, ?_, empty⟩
      rw [unlines_cons (List.cons_ne_nil next ls), lines_append here, List.cons_append, ← split]

/-- Terminated lines are read as they are written. -/
theorem lines_terminated {ls : List Text} (single : ∀ line ∈ ls, IsLine line) :
    lines (ls.flatMap (· ++ ['\n'])) = ls := by
  induction ls with
  | nil => rfl
  | cons line ls ih =>
    have rest := ih fun other member => single other (List.mem_cons_of_mem _ member)
    rw [List.flatMap_cons, List.append_assoc, List.singleton_append,
      lines_append (single line (List.mem_cons_self ..)), rest]

/-- Terminated lines are joined with an empty line at the end. -/
theorem terminated_eq_unlines (ls : List Text) : ls.flatMap (· ++ ['\n']) = unlines (ls ++ [[]]) := by
  induction ls with
  | nil => rfl
  | cons line ls ih =>
    have behind : ls ++ [[]] ≠ [] := List.append_ne_nil_of_right_ne_nil _ (List.cons_ne_nil _ _)
    rw [List.flatMap_cons, ih, List.cons_append, unlines_cons behind, List.append_assoc, List.singleton_append]

/-- An empty line at the end of joined lines is not read. -/
theorem lines_unlines_concat {ls : List Text} (single : ∀ line ∈ ls, IsLine line) :
    lines (unlines (ls ++ [[]])) = ls := by
  rw [← terminated_eq_unlines, lines_terminated single]

/-- All joined lines are read again if the last of them is not empty. -/
theorem lines_unlines_of_last {ls : List Text} (single : ∀ line ∈ ls, IsLine line) (filled : ls.getLast? ≠ some []) :
    lines (unlines ls) = ls := by
  obtain ⟨left, split, empty⟩ := lines_unlines single
  cases last : left.getLast? with
  | none =>
    rw [List.getLast?_eq_none_iff.mp last, List.append_nil] at split
    exact split.symm
  | some line =>
    have inside := List.mem_of_getLast? last
    rw [split, List.getLast?_append, last, empty line inside] at filled
    exact absurd rfl filled

/-! ### What stands in a line -/

theorem wholeLine?_of_not_mem {s : Text} (single : '\n' ∉ s) : wholeLine? s = some s := by
  have all : ∀ c ∈ s, (c != '\n') = true := fun c member => bne_iff_ne.mpr fun same => single (same ▸ member)
  rw [wholeLine?, List.span_eq_takeWhile_dropWhile, List.takeWhile_eq_self_iff.mpr all,
    List.dropWhile_eq_nil_iff.mpr all]

/-- The start of a text is the start of its first line, as far as no line ends in it. -/
theorem lines_append_of_isLine {word : Text} (single : IsLine word) (some : word ≠ []) (rest : Text) :
    ∃ l ls, lines (word ++ rest) = (word ++ l) :: ls := by
  induction word with
  | nil => exact absurd rfl some
  | cons c word ih =>
    have kept := single c (List.mem_cons_self ..)
    by_cases last : word = []
    · cases behind : lines rest with
      | nil =>
        refine ⟨[], [], ?_⟩
        rw [last, List.singleton_append, lines, if_neg (by rw [kept]; exact Bool.false_ne_true), behind]
        · rfl
        · rintro _ rfl _
          cases kept
      | cons l ls =>
        refine ⟨l, ls, ?_⟩
        rw [last, List.singleton_append, lines_cons kept behind, List.singleton_append]
    · obtain ⟨l, ls, behind⟩ := ih (fun d member => single d (List.mem_cons_of_mem _ member)) last
      exact ⟨l, ls, lines_cons kept behind⟩

/-- One more character in front of a text changes at most the first line, and that at its start. -/
theorem exists_line_cons {s line : Text} (member : line ∈ lines s) (c : Char) :
    ∃ whole ∈ lines (c :: s), line <:+ whole := by
  by_cases ends : isLineEnd c = true
  · refine ⟨line, ?_, List.suffix_rfl⟩
    by_cases pair : c = '\r' ∧ ∃ t, s = '\n' :: t
    · obtain ⟨rfl, t, rfl⟩ := pair
      exact member
    · rw [lines, if_pos ends]
      · exact List.mem_cons_of_mem _ member
      · exact fun t carriage feed => pair ⟨carriage, t, feed⟩
  · have kept : isLineEnd c = false := Bool.eq_false_iff.mpr ends
    cases behind : lines s with
    | nil =>
      rw [behind] at member
      cases member
    | cons l ls =>
      rw [behind] at member
      rw [lines_cons kept behind]
      rcases List.mem_cons.mp member with rfl | later
      · exact ⟨c :: line, List.mem_cons_self .., List.suffix_cons c line⟩
      · exact ⟨line, List.mem_cons_of_mem _ later, List.suffix_rfl⟩

/-- A word in which no line ends stands in one line of every text that it stands in. -/
theorem exists_line_of_infix {word s : Text} (single : IsLine word) (some : word ≠ []) (within : word <:+: s) :
    ∃ line ∈ lines s, word <:+: line := by
  obtain ⟨a, b, rfl⟩ := within
  rw [List.append_assoc]
  induction a with
  | nil =>
    obtain ⟨l, ls, first⟩ := lines_append_of_isLine single some b
    exact ⟨word ++ l, by rw [List.nil_append, first]; exact List.mem_cons_self .., (List.prefix_append word l).isInfix⟩
  | cons c a ih =>
    obtain ⟨line, member, found⟩ := ih
    obtain ⟨whole, member', ends⟩ := exists_line_cons member c
    exact ⟨whole, member', found.trans ends.isInfix⟩

end ReferencePages.Text
