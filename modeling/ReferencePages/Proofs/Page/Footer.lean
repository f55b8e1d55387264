import ReferencePages.Page
import ReferencePages.Proofs.Text.Search
import ReferencePages.Proofs.Text.Trim
/-!
The end of a page. The normal form keeps the end of the last line, so that a page ends with what its
footer says last.
-/

namespace ReferencePages

namespace Text

theorem unifyNewlines_of_not_mem {y : Text} (carriage : '\r' ∉ y) : unifyNewlines y = y := by
  induction y with
  | nil => rfl
  | cons c y ih =>
    rw [List.mem_cons, not_or] at carriage
    rw [unifyNewlines, ih carriage.2, if_neg (Ne.symm carriage.1)]
    exact fun rest same _ => carriage.1 same.symm

theorem unifyNewlines_append {y : Text} (carriage : '\r' ∉ y) (feed : '\n' ∉ y) (x : Text) :
    unifyNewlines (x ++ y) = unifyNewlines x ++ y := by
  induction x using unifyNewlines.induct with
  | case1 => exact unifyNewlines_of_not_mem carriage
  | case2 s ih => exact congrArg ('\n' :: ·) ih
  | case3 c s other ih =>
    have single : ∀ rest, c = '\r' → s ++ y = '\n' :: rest → False := by
      intro rest same split
      cases s with
      | nil =>
        rw [List.nil_append] at split
        exact feed (split ▸ List.mem_cons_self ..)
      | cons d s => exact other s same (by rw [(List.cons.inj split).1])
    rw [List.cons_append, unifyNewlines, unifyNewlines, ih, List.cons_append]
    · exact other
    · exact single

/-- What stands behind the last separator stands in the last piece. -/
theorem splitOnChar_concat (sep : Char) (x : Text) :
    ∃ pieces last, ∀ y : Text, sep ∉ y → splitOnChar sep (x ++ y) = pieces ++ [last ++ y] := by
  induction x with
  | nil => exact ⟨[], [], fun y absent => splitOnChar_of_not_mem absent⟩
  | cons c x ih =>
    obtain ⟨pieces, last, split⟩ := ih
    by_cases same : c = sep
    · refine ⟨[] :: pieces, last, fun y absent => ?_⟩
      rw [List.cons_append, splitOnChar, if_pos same, split y absent, List.cons_append]
    · cases pieces with
      | nil =>
        refine ⟨[], c :: last, fun y absent => ?_⟩
        rw [List.cons_append, splitOnChar, if_neg same, split y absent]
        rfl
      | cons piece pieces =>
        refine ⟨(c :: piece) :: pieces, last, fun y absent => ?_⟩
        rw [List.cons_append, splitOnChar, if_neg same, split y absent]
        rfl

/-- Joined pieces end with the last of them. -/
theorem joinWith_concat (sep : Text) (pieces : List Text) (last : Text) :
    ∃ above, joinWith sep (pieces ++ [last]) = above ++ last := by
  induction pieces with
  | nil => exact ⟨[], List.intercalate_singleton⟩
  | cons piece pieces ih =>
    obtain ⟨above, joined⟩ := ih
    have later : pieces ++ [last] ≠ [] := List.append_ne_nil_of_right_ne_nil _ (List.cons_ne_nil _ _)
    have first : joinWith sep (piece :: (pieces ++ [last])) = piece ++ sep ++ joinWith sep (pieces ++ [last]) :=
      List.intercalate_cons_of_ne_nil later
    exact ⟨piece ++ sep ++ above, by rw [List.cons_append, first, joined, List.append_assoc _ above]⟩

end Text

namespace Page

theorem tidy_concat {line : Text} (kept : Text.trimEnd line = line) (filled : line ≠ []) (inFence afterBlank : Bool)
    (ls : List Text) : ∃ before, tidy inFence afterBlank (ls ++ [line]) = before ++ [line] := by
  induction ls generalizing inFence afterBlank with
  | nil =>
    refine ⟨[], ?_⟩
    have notEmpty : (!inFence && line.isEmpty) = false := by simp [filled]
    rw [List.nil_append, tidy, kept, notEmpty]
    split <;> rfl
  | cons l ls ih =>
    rw [List.cons_append, tidy]
    split
    · obtain ⟨before, rest⟩ := ih (!inFence) false
      exact ⟨_ :: before, by rw [rest]; rfl⟩
    · split
      · obtain ⟨before, rest⟩ := ih inFence true
        split
        · exact ⟨before, rest⟩
        · exact ⟨[] :: before, by rw [rest]; rfl⟩
      · obtain ⟨before, rest⟩ := ih inFence false
        exact ⟨_ :: before, by rw [rest]; rfl⟩

theorem dropEmptyEnd_concat {line : Text} (filled : line ≠ []) (ls : List Text) :
    dropEmptyEnd (ls ++ [line]) = ls ++ [line] := by
  induction ls with
  | nil => exact if_neg (by simp [filled])
  | cons l ls ih =>
    have later : ls ++ [line] ≠ [] := List.append_ne_nil_of_right_ne_nil _ (List.cons_ne_nil _ _)
    rw [List.cons_append, dropEmptyEnd, ih]
    split
    · rename_i none
      exact absurd none later
    · rfl

/-- The normal form ends with the end of the last line. -/
theorem normalize_append {z : Char} (filled : Text.isBlank z = false) {y : Text} (carriage : '\r' ∉ y ++ [z])
    (feed : '\n' ∉ y ++ [z]) (x : Text) :
    ∃ above, normalize (x ++ (y ++ [z])) = above ++ (y ++ [z]) ++ "\n" := by
  obtain ⟨pieces, last, split⟩ := Text.splitOnChar_concat '\n' (Text.unifyNewlines x)
  have ends : last ++ (y ++ [z]) = (last ++ y) ++ [z] := (List.append_assoc ..).symm
  have kept : Text.trimEnd (last ++ (y ++ [z])) = last ++ (y ++ [z]) := by
    rw [ends]
    exact Text.trimEndWhile_concat _ filled
  have some : last ++ (y ++ [z]) ≠ [] := by simp
  obtain ⟨before, tidied⟩ := tidy_concat kept some false false pieces
  obtain ⟨above, joined⟩ := Text.joinWith_concat ['\n'] before (last ++ (y ++ [z]))
  refine ⟨above ++ last, ?_⟩
  rw [normalize, Text.unifyNewlines_append carriage feed, split _ feed, tidied, dropEmptyEnd_concat some,
    Text.unlines, joined, ← List.append_assoc above last]

/-- A page ends with what is said last of its sources. -/
theorem render_footer {p : Page} {start label : Text} (ending : p.sourceDescription = start ++ label)
    (carriage : '\r' ∉ label) (feed : '\n' ∉ label) :
    ∃ above, p.render = above ++ (label ++ ['*']) ++ "\n" := by
  have regroup (a : Text) : a ++ (start ++ label) ++ ['*'] = a ++ start ++ (label ++ ['*']) := by
    simp only [List.append_assoc]
  obtain ⟨front, footer⟩ : ∃ front, p.footer = front ++ (label ++ ['*']) := by
    have star : "*".toList = ['*'] := rfl
    unfold Page.footer
    rw [ending, star, regroup]
    exact ⟨_, rfl⟩
  have noCarriage : '\r' ∉ label ++ ['*'] := by simp [carriage]
  have noFeed : '\n' ∉ label ++ ['*'] := by simp [feed]
  obtain ⟨above, joined⟩ := Text.joinWith_concat "\n\n"
    (p.banner :: (if p.intro.isEmpty then [] else [Text.trim p.intro]) ++
      p.blocks.map (Text.trimWhile (· == '\n')) ++ (p.modeNote.filter (!·.isEmpty)).toList) p.footer
  obtain ⟨text, normal⟩ := normalize_append (z := '*') rfl noCarriage noFeed (above ++ front)
  refine ⟨text, ?_⟩
  rw [render, joined, footer, ← List.append_assoc above, normal]

end Page
end ReferencePages
