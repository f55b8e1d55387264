import ReferencePages.Proofs.Page.Normal
/-!
What the normal form keeps of a text. Of the lines of the text without the blanks at their ends it leaves out
blank ones alone: those at the very end, and outside of fences all but one of those in a row.
-/

namespace ReferencePages.Page

open Text (trimEnd unifyNewlines splitOnChar unlines)

/-- What is kept of lines that do not end in blanks, so that a blank line is an empty one. -/
structure IsKept (ls kept : List Text) : Prop where
  /-- Lines are left out, and nothing else is done to them. -/
  sublist : kept.Sublist ls
  /-- The lines that are not blank are all kept. -/
  filled : filledLines kept = filledLines ls
  /-- Behind an opening fence every line is kept, blank ones included, up to the closing fence. Where it is not
  closed, that holds up to any line that is not blank. -/
  fenced : ∀ above opening inner next below, ls = above ++ opening :: (inner ++ next :: below) →
    Even (above.countP isFence) → isFence opening = true → (∀ line ∈ inner, isFence line = false) →
    next ≠ [] →
    ∃ above' below', kept = above' ++ opening :: (inner ++ next :: below') ∧
      filledLines above' = filledLines above ∧ filledLines below' = filledLines below
  /-- Blank lines in a row outside of fences, up to a line that is not blank, are kept as one. -/
  spaced : ∀ above run next below, ls = above ++ (run ++ next :: below) →
    Even (above.countP isFence) → (∀ last ∈ above.getLast?, last ≠ []) → run ≠ [] →
    (∀ line ∈ run, line = []) → next ≠ [] →
    ∃ above' below', kept = above' ++ [] :: next :: below' ∧ above'.getLast? = above.getLast? ∧
      filledLines above' = filledLines above ∧ filledLines below' = filledLines below
  /-- Blank lines at the very end are not kept. -/
  ended : ∀ last ∈ kept.getLast?, last ≠ []

/-! ### Lines that are left out -/

theorem filledLines_of_empty {ls : List Text} (empty : ∀ line ∈ ls, line = []) : filledLines ls = [] := by
  refine List.filter_eq_nil_iff.mpr fun line member => ?_
  rw [empty line member]
  exact Bool.false_ne_true

theorem filledLines_dropEmptyEnd (ls : List Text) : filledLines (dropEmptyEnd ls) = filledLines ls := by
  obtain ⟨gap, split, empty, _⟩ := dropEmptyEnd_split ls
  conv_rhs => rw [split]
  rw [filledLines_append, filledLines_of_empty empty, List.append_nil]

/-- The scan leaves lines out that are blank, and cuts the blanks at the ends of the others. -/
theorem tidy_keeps (inFence afterBlank : Bool) (ls : List Text) :
    (tidy inFence afterBlank ls).Sublist (ls.map trimEnd) ∧
      filledLines (tidy inFence afterBlank ls) = filledLines (ls.map trimEnd) := by
  induction ls generalizing inFence afterBlank with
  | nil => exact ⟨.slnil, rfl⟩
  | cons line ls ih =>
    have kept (f b : Bool) : (trimEnd line :: tidy f b ls).Sublist ((line :: ls).map trimEnd) ∧
        filledLines (trimEnd line :: tidy f b ls) = filledLines ((line :: ls).map trimEnd) := by
      obtain ⟨sublist, filled⟩ := ih f b
      refine ⟨sublist.cons_cons _, ?_⟩
      unfold filledLines at filled ⊢
      rw [List.map_cons, List.filter_cons, List.filter_cons, filled]
    rw [tidy]
    split
    · exact kept _ _
    · split
      · rename_i blank
        have empty : trimEnd line = [] := by simpa using (Bool.and_eq_true_iff.mp blank).2
        split
        · obtain ⟨sublist, filled⟩ := ih inFence true
          rw [List.map_cons, empty]
          exact ⟨sublist.cons _, filled⟩
        · rw [← empty]
          exact kept _ _
      · exact kept _ _

theorem tidy_map_trimEnd (inFence afterBlank : Bool) (ls : List Text) :
    tidy inFence afterBlank (ls.map trimEnd) = tidy inFence afterBlank ls := by
  induction ls generalizing inFence afterBlank with
  | nil => rfl
  | cons line ls ih => simp only [List.map_cons, tidy, Text.trimEnd_trimEnd, ih]

/-! ### Lines among others -/

theorem within_append (inFence : Bool) (above more : List Text) :
    within inFence (above ++ more) = within (within inFence above) more := by
  induction above generalizing inFence with
  | nil => rfl
  | cons line above ih => rw [List.cons_append, within_cons, ih, ← within_cons]

/-- A line that is not blank is kept, and what follows it does not follow a blank line. -/
theorem tidy_cons_of_filled {line : Text} (clean : trimEnd line = line) (filled : line ≠ []) (inFence afterBlank : Bool)
    (rest : List Text) : tidy inFence afterBlank (line :: rest) = line :: tidy (within inFence [line]) false rest := by
  cases fence : isFence line with
  | true =>
    rw [tidy_fence fence, clean, within_cons, if_pos fence]
    rfl
  | false =>
    rw [tidy_filled fence (by rwa [clean]), clean, within_cons, fence]
    rfl

/-- Blank lines after a blank line outside of fences are left out. -/
theorem tidy_run {run : List Text} (empty : ∀ line ∈ run, line = []) (rest : List Text) :
    tidy false true (run ++ rest) = tidy false true rest := by
  induction run with
  | nil => rfl
  | cons line run ih =>
    obtain ⟨rfl, later⟩ := List.forall_mem_cons.mp empty
    exact ih later

/-- Lines that do not end with a blank one are put in order by themselves. -/
theorem tidy_append_of_filled {above : List Text} (clean : ∀ line ∈ above, trimEnd line = line)
    (ends : ∀ last ∈ above.getLast?, last ≠ []) :
    (tidy false false above).getLast? = above.getLast? ∧
      ∀ rest, tidy false false (above ++ rest) =
        tidy false false above ++ tidy (within false above) false rest := by
  rcases List.eq_nil_or_concat above with rfl | ⟨before, line, rfl⟩
  · exact ⟨rfl, fun rest => rfl⟩
  · rw [List.concat_eq_append] at clean ends ⊢
    have filled := ends line List.getLast?_concat
    have kept := clean line (List.mem_append_right _ (List.mem_singleton_self line))
    obtain ⟨b, scanned⟩ := tidy_append false false before
    have whole (rest : List Text) : tidy false false (before ++ line :: rest) =
        tidy false false before ++ line :: tidy (within false (before ++ [line])) false rest := by
      rw [scanned, within_append]
      exact congrArg _ (tidy_cons_of_filled kept filled _ b rest)
    have alone := whole []
    rw [tidy] at alone
    refine ⟨by rw [alone, List.getLast?_concat, List.getLast?_concat], fun rest => ?_⟩
    rw [alone, List.append_assoc, List.singleton_append, whole, List.append_assoc]
    rfl

/-- The lines in order without the empty ones at the end are those to be kept. -/
theorem isKept_of_clean {ls : List Text} (clean : ∀ line ∈ ls, trimEnd line = line) :
    IsKept ls (dropEmptyEnd (tidy false false ls)) := by
  have same {part : List Text} (member : ∀ line ∈ part, line ∈ ls) : part.map trimEnd = part := by
    conv_rhs => rw [← List.map_id part]
    exact List.map_congr_left fun line within => clean line (member line within)
  have counted (f b : Bool) {part : List Text} (member : ∀ line ∈ part, line ∈ ls) :
      filledLines (tidy f b part) = filledLines part := by
    rw [(tidy_keeps f b part).2, same member]
  obtain ⟨gap, split, _, ends⟩ := dropEmptyEnd_split (tidy false false ls)
  refine ⟨?_, ?_, ?_, ?_, ends⟩
  · have sublist := (tidy_keeps false false ls).1
    rw [same fun line member => member] at sublist
    refine List.Sublist.trans ?_ sublist
    conv_rhs => rw [split]
    exact List.sublist_append_left _ _
  · rw [filledLines_dropEmptyEnd, counted false false fun line member => member]
  · rintro above opening inner next below rfl outside opens plain filled
    obtain ⟨b, scanned⟩ := tidy_append false false above
    rw [if_pos outside] at scanned
    have inside := stay_within plain fun line member => clean line (by simp [member])
    refine ⟨tidy false false above, dropEmptyEnd (tidy (within true [next]) false below), ?_,
      counted _ _ fun line member => by simp [member], ?_⟩
    · rw [scanned, tidy_fence opens, clean opening (by simp), Bool.not_false, inside,
        tidy_cons_of_filled (clean next (by simp)) filled, ← List.cons_append, ← List.append_assoc,
        dropEmptyEnd_append filled, List.append_assoc, List.cons_append]
    · rw [filledLines_dropEmptyEnd, counted _ _ fun line member => by simp [member]]
  · rintro above run next below rfl outside endsFilled some empty filled
    obtain ⟨last, scanned⟩ :=
      tidy_append_of_filled (fun line member => clean line (by simp [member])) endsFilled
    obtain ⟨line, run, rfl⟩ := List.exists_cons_of_ne_nil some
    obtain ⟨rfl, others⟩ := List.forall_mem_cons.mp empty
    have squeezed : tidy false false ([] :: run ++ next :: below) =
        [] :: next :: tidy (within false [next]) false below := by
      rw [← tidy_cons_of_filled (clean next (by simp)) filled false true below, ← tidy_run others]
      rfl
    have out : within false above = false := if_pos outside
    refine ⟨tidy false false above, dropEmptyEnd (tidy (within false [next]) false below), ?_, last,
      counted _ _ fun line member => by simp [member], ?_⟩
    · rw [scanned, out, squeezed, ← List.singleton_append, ← List.append_assoc, dropEmptyEnd_append filled,
        List.append_assoc, List.singleton_append]
    · rw [filledLines_dropEmptyEnd, counted _ _ fun line member => by simp [member]]

/-- The normal form keeps every line that is not blank, in order, and every line between a fence and the one
that closes it. Of blank lines in a row elsewhere it keeps one, and none at the very end. -/
theorem normalize_keeps (text : Text) :
    ∃ kept, normalize text = unlines kept ++ "\n" ∧
      IsKept ((splitOnChar '\n' (unifyNewlines text)).map trimEnd) kept := by
  refine ⟨_, rfl, ?_⟩
  rw [← tidy_map_trimEnd]
  refine isKept_of_clean fun line member => ?_
  obtain ⟨whole, _, rfl⟩ := List.mem_map.mp member
  exact Text.trimEnd_trimEnd whole

end ReferencePages.Page
