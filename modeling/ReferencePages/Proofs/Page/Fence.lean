import ReferencePages.Proofs.Page.Content
import Mathlib.Algebra.Group.Nat.Even
import Mathlib.Algebra.GroupWithZero.Nat
import Mathlib.Algebra.BigOperators.Group.List.Basic
import Mathlib.Data.List.Infix
/-!
Fences on a page. The normal form of a page follows its fences from line to line, and takes blank lines away
outside of them alone. A block between two fences stays as it is where the fences before it are closed, and
lines without two blank ones in a row stay as they are anywhere.
-/

namespace ReferencePages

namespace Text

/-- A character other than the separator stands in one of the pieces. -/
theorem exists_mem_splitOnChar {sep c : Char} (other : c ≠ sep) {s : Text} (member : c ∈ s) :
    ∃ piece ∈ splitOnChar sep s, c ∈ piece := by
  obtain ⟨before, behind, rfl⟩ := List.append_of_mem member
  obtain ⟨first, rest, split⟩ := List.exists_cons_of_ne_nil (splitOnChar_ne_nil sep behind)
  have here : splitOnChar sep (c :: behind) = (c :: first) :: rest := by
    rw [splitOnChar, if_neg other, split]
  clear member
  induction before with
  | nil => exact ⟨c :: first, by rw [List.nil_append, here]; exact List.mem_cons_self .., List.mem_cons_self ..⟩
  | cons d before ih =>
    obtain ⟨piece, member, within⟩ := ih
    rw [List.cons_append, splitOnChar]
    split
    · exact ⟨piece, List.mem_cons_of_mem _ member, within⟩
    · split
      · rename_i none
        exact absurd none (splitOnChar_ne_nil _ _)
      · rename_i first rest split
        rw [split] at member
        rcases List.mem_cons.mp member with rfl | later
        · exact ⟨d :: piece, List.mem_cons_self .., List.mem_cons_of_mem _ within⟩
        · exact ⟨piece, List.mem_cons_of_mem _ later, within⟩

/-- Joined lines with one more line feed at the end have an empty line behind them. -/
theorem splitOnChar_unlines_feed {ls : List Text} (some : ls ≠ []) (single : ∀ line ∈ ls, '\n' ∉ line) :
    splitOnChar '\n' (unlines ls ++ "\n") = ls ++ [[]] := by
  obtain ⟨first, rest, rfl⟩ := List.exists_cons_of_ne_nil some
  have split : splitOnChar '\n' (unlines (first :: rest)) = first :: rest := splitOnChar_joinWith single
  have feed : ("\n" : Text) = '\n' :: [] := rfl
  rw [feed, splitOnChar_append_cons, split]
  rfl

/-- A text that neither begins nor ends with an empty line has no line feeds at its ends. -/
theorem trimFeeds_of_lines {s : Text} (starts : ∀ first ∈ (splitOnChar '\n' s).head?, first ≠ [])
    (ends : ∀ last ∈ (splitOnChar '\n' s).getLast?, last ≠ []) : trimWhile (· == '\n') s = s := by
  have front : s.dropWhile (· == '\n') = s := by
    cases s with
    | nil => rfl
    | cons c s =>
      refine List.dropWhile_cons_of_neg fun feed => ?_
      have split : splitOnChar '\n' (c :: s) = [] :: splitOnChar '\n' s := if_pos (by simpa using feed)
      exact starts [] (by rw [split]; rfl) rfl
  rw [trimWhile, front]
  rcases List.eq_nil_or_concat s with rfl | ⟨s, c, rfl⟩
  · rfl
  · rw [List.concat_eq_append] at ends ⊢
    refine trimEndWhile_concat s (beq_eq_false_iff_ne.mpr fun feed => ?_)
    subst feed
    have empty : splitOnChar '\n' [] = [[]] := rfl
    exact ends [] (by simp [splitOnChar_append_cons, empty]) rfl

end Text

namespace Page

open Text (trimEnd unifyNewlines splitOnChar)

/-! ### Fences in the parts of a page -/

/-- The number of lines of a text that open or close a fence. -/
def fenceCount (part : Text) : Nat := (splitOnChar '\n' (unifyNewlines part)).countP isFence

theorem isFence_nil : isFence [] = false := rfl

/-- Blanks at the end of a line have no part in whether it is a fence. -/
theorem isFence_trimEnd (line : Text) : isFence (trimEnd line) = isFence line := by
  have mark : trimEnd "```" = "```" := by decide +kernel
  rw [Bool.eq_iff_iff, isFence, isFence, Text.startsWith_iff, Text.startsWith_iff]
  constructor
  · intro fence
    obtain ⟨gap, split, _⟩ := @Text.trimEndWhile_split Text.isBlank line
    exact fence.trans ⟨gap, split.symm⟩
  · rintro ⟨rest, rfl⟩
    by_cases blank : trimEnd rest = []
    · obtain ⟨gap, split, dropped, _⟩ := @Text.trimEndWhile_split Text.isBlank rest
      have gone : Text.trimEndWhile Text.isBlank rest = [] := blank
      rw [gone, List.nil_append] at split
      rw [split, trimEnd, Text.trimEndWhile_append_of_all dropped]
      exact mark ▸ List.prefix_rfl
    · rw [trimEnd, Text.trimEndWhile_append blank]
      exact List.prefix_append _ _

/-- Blank lines have no part in the number of fences, and blanks at the ends of the others neither. -/
theorem countP_filledLines (ls : List Text) : (filledLines (ls.map trimEnd)).countP isFence = ls.countP isFence := by
  rw [filledLines, List.countP_filter, List.countP_map]
  refine List.countP_congr fun line _ => ?_
  cases cut : trimEnd line with
  | nil => simp [cut, ← isFence_trimEnd line, isFence_nil]
  | cons c body => simp [cut, ← isFence_trimEnd line]

theorem fenceCount_eq (part : Text) : fenceCount part = (content part).countP isFence :=
  (countP_filledLines _).symm

/-- The lines of parts that are joined are those of each part, with empty lines between them. -/
theorem lines_of_parts (parts : List Text) {rest : List Text} (some : rest ≠ []) :
    ∃ ls, splitOnChar '\n' (unifyNewlines (Text.joinWith "\n\n" (parts ++ rest))) =
        ls ++ splitOnChar '\n' (unifyNewlines (Text.joinWith "\n\n" rest)) ∧
      ls.countP isFence = (parts.map fenceCount).sum := by
  induction parts with
  | nil => exact ⟨[], rfl, rfl⟩
  | cons part parts ih =>
    obtain ⟨ls, split, count⟩ := ih
    have more : parts ++ rest ≠ [] := List.append_ne_nil_of_right_ne_nil _ some
    have feeds : ("\n\n" : Text) = '\n' :: ['\n'] := rfl
    generalize Text.joinWith "\n\n" rest = behind at split ⊢
    have joined : Text.joinWith "\n\n" (part :: (parts ++ rest)) =
        part ++ '\n' :: ('\n' :: Text.joinWith "\n\n" (parts ++ rest)) := by
      rw [Text.joinWith_cons more, feeds, List.append_assoc]
      rfl
    obtain ⟨w, before, unified⟩ :=
      Text.unifyNewlines_append_feed part ('\n' :: Text.joinWith "\n\n" (parts ++ rest))
    have counted : (splitOnChar '\n' w).countP isFence = fenceCount part := by
      rw [fenceCount_eq, content_of_ended before, countP_filledLines]
    refine ⟨splitOnChar '\n' w ++ [] :: ls, ?_, ?_⟩
    · have empty : splitOnChar '\n' ('\n' :: unifyNewlines (Text.joinWith "\n\n" (parts ++ rest))) =
          [] :: splitOnChar '\n' (unifyNewlines (Text.joinWith "\n\n" (parts ++ rest))) := if_pos rfl
      rw [List.cons_append, joined, unified, Text.unifyNewlines_feed, Text.splitOnChar_append_cons, empty, split]
      simp
    · rw [List.countP_append, List.countP_cons, isFence_nil, counted, count, List.map_cons, List.sum_cons]
      simp

/-- The lines of the first part come first. -/
theorem lines_of_part {part : Text} (carriage : '\r' ∉ part) (rest : List Text) :
    ∃ behind, splitOnChar '\n' (unifyNewlines (Text.joinWith "\n\n" (part :: rest))) =
      splitOnChar '\n' part ++ behind := by
  by_cases none : rest = []
  · subst none
    refine ⟨[], ?_⟩
    rw [Text.joinWith, List.intercalate_singleton, Text.unifyNewlines_of_not_mem carriage, List.append_nil]
  · have feeds : ("\n\n" : Text) = '\n' :: ['\n'] := rfl
    rw [Text.joinWith_cons none, List.append_assoc]
    generalize Text.joinWith "\n\n" rest = others
    refine ⟨splitOnChar '\n' (unifyNewlines ('\n' :: others)), ?_⟩
    rw [feeds, List.cons_append, List.singleton_append, Text.unifyNewlines_append_of_not_mem carriage,
      Text.unifyNewlines_feed, Text.splitOnChar_append_cons]

/-! ### Lines in order -/

theorem tidy_fence {line : Text} (fence : isFence line = true) (inFence afterBlank : Bool)
    (ls : List Text) :
    tidy inFence afterBlank (line :: ls) = trimEnd line :: tidy (!inFence) false ls := by
  rw [tidy, isFence_trimEnd, if_pos fence]

theorem tidy_filled {line : Text} (plain : isFence line = false) (filled : trimEnd line ≠ [])
    (inFence afterBlank : Bool) (ls : List Text) :
    tidy inFence afterBlank (line :: ls) = trimEnd line :: tidy inFence false ls := by
  rw [tidy, isFence_trimEnd, plain]
  simp [filled]

theorem tidy_within {line : Text} (plain : isFence line = false) (afterBlank : Bool) (ls : List Text) :
    tidy true afterBlank (line :: ls) = trimEnd line :: tidy true false ls := by
  rw [tidy, isFence_trimEnd, plain]
  simp

/-- What the lines before come to is not changed by those behind them, and each fence among them leads into a
fence or out of it. -/
theorem tidy_append (inFence afterBlank : Bool) (ls : List Text) :
    ∃ afterBlank', ∀ rest, tidy inFence afterBlank (ls ++ rest) =
      tidy inFence afterBlank ls ++
        tidy (if Even (ls.countP isFence) then inFence else !inFence) afterBlank' rest := by
  induction ls generalizing inFence afterBlank with
  | nil => exact ⟨afterBlank, fun rest => rfl⟩
  | cons line ls ih =>
    cases fence : isFence line with
    | true =>
      obtain ⟨after, later⟩ := ih (!inFence) false
      refine ⟨after, fun rest => ?_⟩
      have turned : (if Even ((line :: ls).countP isFence) then inFence else !inFence) =
          if Even (ls.countP isFence) then !inFence else !!inFence := by
        rw [List.countP_cons_of_pos fence]
        simp only [Nat.even_add_one, Bool.not_not]
        by_cases even : Even (ls.countP isFence) <;> simp [even]
      rw [List.cons_append, tidy_fence fence, tidy_fence fence, later, turned, List.cons_append]
    | false =>
      have same : (line :: ls).countP isFence = ls.countP isFence :=
        List.countP_cons_of_neg (by simp [fence])
      rw [same]
      simp only [List.cons_append, tidy, isFence_trimEnd, fence, Bool.false_eq_true, if_false]
      split
      · obtain ⟨after, later⟩ := ih inFence true
        refine ⟨after, fun rest => ?_⟩
        split
        · exact later rest
        · rw [later, List.cons_append]
      · obtain ⟨after, later⟩ := ih inFence false
        exact ⟨after, fun rest => by rw [later, List.cons_append]⟩

/-- Every line in order is a line without the blanks at its end. -/
theorem mem_tidy {inFence afterBlank : Bool} {ls : List Text} {line : Text}
    (member : line ∈ tidy inFence afterBlank ls) : ∃ whole ∈ ls, line = trimEnd whole := by
  induction ls generalizing inFence afterBlank with
  | nil => cases member
  | cons first ls ih =>
    have later {inFence afterBlank : Bool} (member : line ∈ tidy inFence afterBlank ls) :
        ∃ whole ∈ first :: ls, line = trimEnd whole := by
      obtain ⟨whole, within, same⟩ := ih member
      exact ⟨whole, List.mem_cons_of_mem _ within, same⟩
    rw [tidy] at member
    split at member
    · rcases List.mem_cons.mp member with rfl | behind
      · exact ⟨first, List.mem_cons_self .., rfl⟩
      · exact later behind
    · split at member
      · rename_i blank
        have empty : trimEnd first = [] := by simpa using (Bool.and_eq_true_iff.mp blank).2
        split at member
        · exact later member
        · rcases List.mem_cons.mp member with rfl | behind
          · exact ⟨first, List.mem_cons_self .., empty.symm⟩
          · exact later behind
      · rcases List.mem_cons.mp member with rfl | behind
        · exact ⟨first, List.mem_cons_self .., rfl⟩
        · exact later behind

/-- Lines up to one that is not empty are kept, whatever is dropped behind them. -/
theorem dropEmptyEnd_append {line : Text} (filled : line ≠ []) (ls rest : List Text) :
    dropEmptyEnd (ls ++ line :: rest) = ls ++ line :: dropEmptyEnd rest := by
  induction ls with
  | nil =>
    rw [List.nil_append, List.nil_append, dropEmptyEnd]
    split
    · rename_i none
      rw [none]
      simp [filled]
    · rfl
  | cons l ls ih =>
    rw [List.cons_append, dropEmptyEnd, ih]
    split
    · rename_i none
      simp at none
    · rfl

theorem mem_dropEmptyEnd {ls : List Text} {line : Text} (member : line ∈ dropEmptyEnd ls) : line ∈ ls := by
  induction ls with
  | nil => cases member
  | cons l ls ih =>
    rw [dropEmptyEnd] at member
    split at member
    · split at member
      · cases member
      · rw [List.mem_singleton.mp member]
        exact List.mem_cons_self ..
    · rcases List.mem_cons.mp member with rfl | later
      · exact List.mem_cons_self ..
      · exact List.mem_cons_of_mem _ (ih later)

/-! ### Lines that stay -/

/-- The scan leaves lines as they are from one of its states to another, whatever is behind them. -/
def Stay (inFence afterBlank : Bool) (ls : List Text) (inFence' afterBlank' : Bool) : Prop :=
  ∀ rest, tidy inFence afterBlank (ls ++ rest) = ls ++ tidy inFence' afterBlank' rest

theorem Stay.append {f b f' b' f'' b'' : Bool} {ls ls' : List Text} (first : Stay f b ls f' b')
    (second : Stay f' b' ls' f'' b'') : Stay f b (ls ++ ls') f'' b'' := fun rest => by
  rw [List.append_assoc, first, second, List.append_assoc]

theorem stay_fence {line : Text} (fence : isFence line = true) (kept : trimEnd line = line) (f b : Bool) :
    Stay f b [line] (!f) false := fun rest => by
  rw [List.singleton_append, tidy_fence fence, kept, List.singleton_append]

theorem stay_within {ls : List Text} (plain : ∀ line ∈ ls, isFence line = false)
    (kept : ∀ line ∈ ls, trimEnd line = line) : Stay true false ls true false := by
  induction ls with
  | nil => exact fun rest => rfl
  | cons line ls ih =>
    have later := ih (fun other member => plain other (List.mem_cons_of_mem _ member))
      fun other member => kept other (List.mem_cons_of_mem _ member)
    intro rest
    rw [List.cons_append, tidy_within (plain line (List.mem_cons_self ..)), kept line (List.mem_cons_self ..),
      later, List.cons_append]

/-- A blank line after another line stays, within a fence and outside of fences. -/
theorem stay_blank (f : Bool) : Stay f false [[]] f (!f) := by
  cases f with
  | true => exact fun rest => tidy_within isFence_nil false rest
  | false => exact fun rest => rfl

theorem stay_filled {ls : List Text} (some : ls ≠ [])
    (filled : ∀ line ∈ ls, trimEnd line = line ∧ line ≠ []) (f b : Bool) : ∃ f', Stay f b ls f' false := by
  induction ls generalizing f b with
  | nil => exact absurd rfl some
  | cons line ls ih =>
    obtain ⟨kept, nonempty⟩ := filled line (List.mem_cons_self ..)
    obtain ⟨f', first⟩ : ∃ f', Stay f b [line] f' false := by
      cases fence : isFence line with
      | true => exact ⟨!f, stay_fence fence kept f b⟩
      | false =>
        refine ⟨f, fun rest => ?_⟩
        rw [List.singleton_append, tidy_filled fence (by rwa [kept]), kept, List.singleton_append]
    by_cases last : ls = []
    · exact ⟨f', last ▸ first⟩
    · obtain ⟨f'', later⟩ := ih last (fun other member => filled other (List.mem_cons_of_mem _ member)) f' false
      exact ⟨f'', first.append later⟩

/-! ### Blocks on a page -/

/-- Line feeds at the ends of a text are no fences. -/
theorem fenceCount_trimFeeds (part : Text) :
    fenceCount (Text.trimWhile (· == '\n') part) = fenceCount part := by
  rw [fenceCount_eq, fenceCount_eq, content_trimFeeds]

/-- A block that the scan leaves as it is stands on the page line by line. The state in which the scan comes
to it is that of the fences in the parts above. -/
theorem render_block {p : Page} {before after : List Text} {block : Text}
    (blocks : p.blocks = before ++ block :: after) (carriage : '\r' ∉ block)
    (starts : ∀ first ∈ (splitOnChar '\n' block).head?, first ≠ [])
    (ends : ∀ last ∈ (splitOnChar '\n' block).getLast?, last ≠ [])
    (stays : ∀ b, ∃ f' b', Stay
      (if Even ((p.banner :: Text.trim p.intro :: before).map fenceCount).sum then false else true) b
      (splitOnChar '\n' block) f' b') :
    splitOnChar '\n' block <:+: splitOnChar '\n' p.render := by
  let intro := if p.intro.isEmpty then [] else [Text.trim p.intro]
  let above := p.banner :: intro ++ before.map (Text.trimWhile (· == '\n'))
  let below := after.map (Text.trimWhile (· == '\n')) ++ (p.modeNote.filter (!·.isEmpty)).toList ++ [p.footer]
  have trimmed := Text.trimFeeds_of_lines starts ends
  have parts : p.render = normalize (Text.joinWith "\n\n" (above ++ block :: below)) := by
    simp only [render, blocks, List.map_append, List.map_cons, trimmed, above, below, intro,
      List.append_assoc, List.cons_append]
  have fences : (above.map fenceCount).sum =
      ((p.banner :: Text.trim p.intro :: before).map fenceCount).sum := by
    have same : (before.map (Text.trimWhile (· == '\n'))).map fenceCount = before.map fenceCount := by
      rw [List.map_map]
      exact List.map_congr_left fun part _ => fenceCount_trimFeeds part
    have first : (intro.map fenceCount).sum = fenceCount (Text.trim p.intro) := by
      by_cases none : p.intro = []
      · simp only [intro, none]
        rfl
      · simp [intro, none]
    simp only [above, List.map_append, List.map_cons, List.cons_append, List.sum_cons, List.sum_append, same,
      first]
  obtain ⟨ls, split, count⟩ := lines_of_parts above (List.cons_ne_nil block below)
  obtain ⟨behind, first⟩ := lines_of_part carriage below
  obtain ⟨b, scanned⟩ := tidy_append false false ls
  rw [count, fences, Bool.not_false] at scanned
  obtain ⟨f', b', stay⟩ := stays b
  obtain ⟨front, last, whole⟩ : ∃ front last, splitOnChar '\n' block = front ++ [last] :=
    ⟨_, _, (List.dropLast_append_getLast (Text.splitOnChar_ne_nil _ _)).symm⟩
  have nonempty : last ≠ [] := ends last (by simp [whole])
  let kept := dropEmptyEnd (tidy f' b' behind)
  have lines : dropEmptyEnd (tidy false false (splitOnChar '\n'
      (unifyNewlines (Text.joinWith "\n\n" (above ++ block :: below))))) =
      tidy false false ls ++ splitOnChar '\n' block ++ kept := by
    rw [split, first, scanned, stay, whole]
    simp only [List.append_assoc, List.singleton_append]
    rw [← List.append_assoc, dropEmptyEnd_append nonempty, List.append_assoc]
  have single : ∀ line ∈ dropEmptyEnd (tidy false false (splitOnChar '\n'
      (unifyNewlines (Text.joinWith "\n\n" (above ++ block :: below))))), '\n' ∉ line := by
    intro line member feed
    obtain ⟨whole, within, rfl⟩ := mem_tidy (mem_dropEmptyEnd member)
    obtain ⟨gap, split, _⟩ := @Text.trimEndWhile_split Text.isBlank whole
    exact Text.not_mem_of_mem_splitOnChar within (split ▸ List.mem_append_left _ feed)
  have some : tidy false false ls ++ splitOnChar '\n' block ++ kept ≠ [] := by
    simp [whole]
  rw [parts, normalize, Text.splitOnChar_unlines_feed (lines ▸ some) single, lines]
  exact ⟨tidy false false ls, kept ++ [[]], by simp only [List.append_assoc]⟩

/-- A block whose first line begins with three backticks and whose last line is three backticks, with lines
between them that do not begin so, and without blanks at the ends of its lines. -/
structure IsFenced (block : Text) : Prop where
  opens : ∀ first ∈ (splitOnChar '\n' block).head?, isFence first = true
  closes : (splitOnChar '\n' block).getLast? = some ("```" : Text)
  inner : ∀ line ∈ (splitOnChar '\n' block).tail.dropLast, isFence line = false
  clean : ∀ line ∈ splitOnChar '\n' block, '\r' ∉ line ∧ trimEnd line = line

/-- The scan leaves a fenced block as it is where it comes to it outside of fences. -/
theorem IsFenced.stay {block : Text} (fenced : IsFenced block) (b : Bool) :
    ∃ f', Stay false b (splitOnChar '\n' block) f' false := by
  obtain ⟨opens, closes, inner, clean⟩ := fenced
  obtain ⟨first, rest, lines⟩ := List.exists_cons_of_ne_nil (Text.splitOnChar_ne_nil '\n' block)
  rw [lines] at opens closes inner clean ⊢
  have start := stay_fence (opens first rfl) (clean first (List.mem_cons_self ..)).2 false b
  rcases List.eq_nil_or_concat rest with rfl | ⟨within, last, rfl⟩
  · exact ⟨true, start⟩
  · rw [List.concat_eq_append] at closes inner clean ⊢
    rw [← List.cons_append, List.getLast?_concat] at closes
    obtain rfl : last = ("```" : Text) := Option.some.inj closes
    rw [List.tail_cons, List.dropLast_concat] at inner
    have middle := stay_within inner fun line member =>
      (clean line (List.mem_cons_of_mem _ (List.mem_append_left _ member))).2
    exact ⟨false, start.append (middle.append (stay_fence rfl (by decide +kernel) true false))⟩

/-- A fenced block with closed fences above stands on the page line by line. -/
theorem render_isFenced {p : Page} {before after : List Text} {block : Text} (fenced : IsFenced block)
    (blocks : p.blocks = before ++ block :: after)
    (closed : Even ((p.banner :: Text.trim p.intro :: before).map fenceCount).sum) :
    splitOnChar '\n' block <:+: splitOnChar '\n' p.render := by
  have carriage : '\r' ∉ block := by
    intro member
    have other : '\r' ≠ '\n' := by decide
    obtain ⟨line, within, inside⟩ := Text.exists_mem_splitOnChar other member
    exact (fenced.clean line within).1 inside
  refine render_block blocks carriage ?_ ?_ fun b => ?_
  · rintro first head rfl
    exact absurd (fenced.opens [] head) (by decide)
  · intro last final
    obtain rfl : last = ("```" : Text) := by simpa [fenced.closes] using final.symm
    exact List.cons_ne_nil _ _
  · obtain ⟨f', stay⟩ := fenced.stay b
    rw [if_pos closed]
    exact ⟨f', false, stay⟩

end Page
end ReferencePages
