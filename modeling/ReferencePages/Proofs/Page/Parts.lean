import ReferencePages.Proofs.Page.Kept
/-!
The parts of a page. Everything that there is in the banner, the intro, the blocks, the mode note and the footer is on
the page, part after part, whatever line endings and open fences the parts have; the title is its first line and the
footer its last ones.
-/

namespace ReferencePages.Page

open Text (trimEnd trimStart unifyNewlines splitOnChar isBlank)

/-- The normal form has the lines of the text. -/
theorem content_normalize (text : Text) : content (normalize text) = content text := by
  obtain ⟨kept, normal, isKept⟩ := normalize_keeps text
  have whole : ∀ line ∈ kept, ∃ line' ∈ splitOnChar '\n' (unifyNewlines text), trimEnd line' = line :=
    fun line member => List.mem_map.mp (isKept.sublist.subset member)
  have carriage : '\r' ∉ normalize text := by
    rcases normalize_isNormal text with feed | isNormal
    · rw [feed]
      decide
    · exact isNormal.carriage
  have lines : content (normalize text) = filledLines kept := by
    by_cases none : kept = []
    · rw [normal, none]
      rfl
    · have same : kept.map trimEnd = kept := by
        refine (List.map_congr_left fun line member => ?_).trans (List.map_id kept)
        obtain ⟨line, _, rfl⟩ := whole line member
        exact Text.trimEnd_trimEnd line
      have single : ∀ line ∈ kept, '\n' ∉ line := by
        rintro line member
        obtain ⟨line, within, rfl⟩ := whole line member
        exact (single_of_mem_lines within).1
      have split : splitOnChar '\n' (unifyNewlines (normalize text)) = kept ++ [[]] := by
        rw [Text.unifyNewlines_of_not_mem carriage, normal, Text.splitOnChar_unlines_feed none single]
      rw [content_of_lines split, List.map_append, same, filledLines_append]
      exact List.append_nil _
  rw [lines, isKept.filled, content]

/-- What is there of a page is what is there of its parts, the intro without the blanks in front. -/
theorem content_render (p : Page) :
    content p.render = content p.banner ++ (content p.intro).modifyHead trimStart ++ p.blocks.flatMap content ++
      p.modeNote.toList.flatMap content ++ content p.footer := by
  have intro : (if p.intro.isEmpty then [] else [Text.trim p.intro]).flatMap content =
      (content p.intro).modifyHead trimStart := by
    by_cases none : p.intro = []
    · rw [none]
      rfl
    · rw [if_neg (by simpa using none), List.flatMap_singleton, content_trim]
  have blocks : (p.blocks.map (Text.trimWhile (· == '\n'))).flatMap content = p.blocks.flatMap content := by
    rw [List.flatMap_map]
    exact congrArg (List.flatMap · p.blocks) (funext content_trimFeeds)
  have note : (p.modeNote.filter (!·.isEmpty)).toList.flatMap content = p.modeNote.toList.flatMap content := by
    cases p.modeNote with
    | none => rfl
    | some note => cases note <;> rfl
  rw [render, content_normalize, content_joinWith]
  simp only [List.flatMap_append, List.cons_append, List.flatMap_cons, List.flatMap_nil, List.append_nil,
    List.append_assoc, intro, blocks, note]

/-- The last line of a page. -/
def sentence (p : Page) : Text :=
  "*Generated by `" ++ command ++ " " ++ p.generator ++ "` from " ++ p.sourceDescription ++ "*"

/-- The last lines of a page. -/
def ending (p : Page) : List Text := ["---", [], p.sentence]

theorem sentence_clean (p : Page) : trimEnd p.sentence = p.sentence ∧ p.sentence ≠ [] := by
  have star : "*".toList = ['*'] := rfl
  have filled : isBlank '*' = false := rfl
  obtain ⟨body, whole⟩ : ∃ body, p.sentence = body ++ ['*'] := by
    unfold sentence
    rw [star]
    exact ⟨_, rfl⟩
  rw [whole]
  exact ⟨Text.trimEndWhile_concat body filled, by simp⟩

theorem not_mem_sentence {p : Page} {c : Char} (ending : c = '\n' ∨ c = '\r') (generator : c ∉ p.generator)
    (source : c ∉ p.sourceDescription) : c ∉ p.sentence := by
  unfold sentence command
  simp only [List.mem_append, not_or]
  rcases ending with rfl | rfl <;>
    exact ⟨⟨⟨⟨⟨⟨by decide, by decide⟩, by decide⟩, generator⟩, by decide⟩, source⟩, by decide⟩

theorem footer_eq (p : Page) : p.footer = "---" ++ '\n' :: ([] ++ '\n' :: p.sentence) := by
  have start : "---\n\n*Generated by `".toList = "---" ++ '\n' :: ([] ++ '\n' :: "*Generated by `") := by decide
  have regroup (a b c d e f g h : Text) : (a ++ '\n' :: ([] ++ '\n' :: b)) ++ c ++ d ++ e ++ f ++ g ++ h =
      a ++ '\n' :: ([] ++ '\n' :: (b ++ c ++ d ++ e ++ f ++ g ++ h)) := by simp
  unfold footer sentence
  rw [start, regroup]

theorem lines_footer {p : Page} (generator : '\n' ∉ p.generator ∧ '\r' ∉ p.generator)
    (source : '\n' ∉ p.sourceDescription ∧ '\r' ∉ p.sourceDescription) :
    splitOnChar '\n' (unifyNewlines p.footer) = p.ending := by
  have feed := not_mem_sentence (.inl rfl) generator.1 source.1
  have carriage : '\r' ∉ p.footer := by
    rw [footer_eq]
    simp [not_mem_sentence (.inr rfl) generator.2 source.2]
  rw [Text.unifyNewlines_of_not_mem carriage, footer_eq, Text.splitOnChar_append_cons, Text.splitOnChar_append_cons,
    Text.splitOnChar_of_not_mem feed]
  rfl

/-- The rule, the empty line and the sentence stay at the end, inside of a fence too. -/
theorem tidy_ending (p : Page) (ls : List Text) : ∃ above,
    dropEmptyEnd (tidy false false (ls ++ p.ending)) = above ++ p.ending := by
  obtain ⟨b, scanned⟩ := tidy_append false false ls
  obtain ⟨clean, filled⟩ := p.sentence_clean
  -- The empty line stays within a fence as within text, since the line before it is not empty.
  have rule : trimEnd ("---" : Text) = "---" := by decide +kernel
  have ending (f : Bool) : tidy f b p.ending = p.ending := by
    have blank := stay_blank (within f [("---" : Text)]) [p.sentence]
    rw [List.singleton_append] at blank
    rw [ending, tidy_cons_of_filled rule (by decide), blank, tidy_cons_of_filled clean filled, tidy]
    rfl
  have last : p.ending = [("---" : Text), []] ++ [p.sentence] := rfl
  refine ⟨tidy false false ls, ?_⟩
  rw [scanned, ending, last, ← List.append_assoc, dropEmptyEnd_concat filled]

theorem tidy_title (title : Text) (ls : List Text) :
    dropEmptyEnd (tidy false false (("# " ++ title) :: ls)) =
      trimEnd ("# " ++ title) :: dropEmptyEnd (tidy false false ls) := by
  have filled : trimEnd ("# " ++ title) ≠ [] := by
    intro none
    have hash := Text.trimEndWhile_eq_nil_iff.mp none '#' (List.mem_append_left _ (by decide))
    cases hash
  rw [tidy_filled rfl filled]
  exact dropEmptyEnd_append filled [] _

/-- A text without line endings in front of a line feed is a line. -/
theorem lines_cons {line : Text} (single : '\n' ∉ line ∧ '\r' ∉ line) (rest : Text) :
    splitOnChar '\n' (unifyNewlines (line ++ '\n' :: rest)) = line :: splitOnChar '\n' (unifyNewlines rest) := by
  rw [Text.unifyNewlines_append_of_not_mem single.2, Text.unifyNewlines_feed, Text.splitOnChar_append_cons,
    Text.splitOnChar_of_not_mem single.1]
  rfl

theorem lines_normalize {text : Text} {ls : List Text}
    (lines : dropEmptyEnd (tidy false false (splitOnChar '\n' (unifyNewlines text))) = ls) (some : ls ≠ []) :
    splitOnChar '\n' (normalize text) = ls ++ [[]] := by
  have single : ∀ line ∈ ls, '\n' ∉ line := by
    intro line member
    rw [← lines] at member
    obtain ⟨whole, within, rfl⟩ := mem_tidy (mem_dropEmptyEnd member)
    exact (single_of_mem_lines within).1
  rw [normalize, lines, Text.splitOnChar_unlines_feed some single]

/-- A page begins with its title and ends with its footer. -/
theorem lines_render {p : Page} (title : '\n' ∉ p.title ∧ '\r' ∉ p.title)
    (generator : '\n' ∉ p.generator ∧ '\r' ∉ p.generator)
    (source : '\n' ∉ p.sourceDescription ∧ '\r' ∉ p.sourceDescription) : ∃ middle,
      splitOnChar '\n' p.render = trimEnd ("# " ++ p.title) :: (middle ++ p.ending ++ [[]]) := by
  obtain ⟨notice, banner⟩ : ∃ notice, p.banner = ("# " ++ p.title) ++ '\n' :: notice := ⟨_, rfl⟩
  let others := (if p.intro.isEmpty then [] else [Text.trim p.intro]) ++
    p.blocks.map (Text.trimWhile (· == '\n')) ++ (p.modeNote.filter (!·.isEmpty)).toList
  obtain ⟨ls, split, _⟩ := lines_of_parts (notice :: others) (List.cons_ne_nil p.footer [])
  have last : Text.joinWith "\n\n" [p.footer] = p.footer := List.intercalate_singleton
  rw [last, lines_footer generator source] at split
  obtain ⟨middle, ending⟩ := tidy_ending p ls
  have joined : Text.joinWith "\n\n" (p.banner :: (others ++ [p.footer])) =
      ("# " ++ p.title) ++ '\n' :: Text.joinWith "\n\n" (notice :: others ++ [p.footer]) := by
    have regroup (a b c d : Text) : a ++ '\n' :: b ++ c ++ d = a ++ '\n' :: (b ++ c ++ d) := by simp
    rw [List.cons_append, Text.joinWith_cons (by simp), Text.joinWith_cons (by simp), banner, regroup]
  have whole : p.render = normalize (Text.joinWith "\n\n" (p.banner :: (others ++ [p.footer]))) := by
    simp only [render, others, List.cons_append, List.append_assoc]
  have hash : '\n' ∉ "# " ++ p.title ∧ '\r' ∉ "# " ++ p.title := by
    refine ⟨fun feed => ?_, fun carriage => ?_⟩
    · exact (List.mem_append.mp feed).elim (by decide) title.1
    · exact (List.mem_append.mp carriage).elim (by decide) title.2
  refine ⟨middle, ?_⟩
  rw [whole, joined]
  refine lines_normalize ?_ (List.cons_ne_nil _ _)
  rw [lines_cons hash, split, tidy_title, ending]

/-- The lines of a page that are not blank, without the blanks at their ends, are those of its parts in their order, the
first one of the intro without the blanks in front. The page begins with the title and ends with a rule, an empty line
and the sentence that says where the page comes from. -/
theorem render_assembled {p : Page} (title : '\n' ∉ p.title ∧ '\r' ∉ p.title)
    (generator : '\n' ∉ p.generator ∧ '\r' ∉ p.generator)
    (source : '\n' ∉ p.sourceDescription ∧ '\r' ∉ p.sourceDescription) :
    content p.render = content p.banner ++ (content p.intro).modifyHead trimStart ++ p.blocks.flatMap content ++
        p.modeNote.toList.flatMap content ++ content p.footer ∧
      ∃ middle, splitOnChar '\n' p.render =
        trimEnd ("# " ++ p.title) :: (middle ++ [("---" : Text), [], p.sentence, []]) := by
  obtain ⟨middle, lines⟩ := lines_render title generator source
  refine ⟨content_render p, middle, ?_⟩
  rw [lines, List.append_assoc]
  rfl

/-- A page whose parts end lines in three ways and leave a fence open. -/
def mixed : Page :=
  { title := "Notes", generator := "notes", origin := "notes", sourceDescription := "notes"
    intro := "\r\n  First\r\tsecond \r\n\n", blocks := ["\n\n```\r\r  x \r", "\n", "---\r\n"]
    modeNote := Option.some "Mode" }

theorem render_assembled_mixed :
    ('\n' ∉ mixed.title ∧ '\r' ∉ mixed.title) ∧ ('\n' ∉ mixed.generator ∧ '\r' ∉ mixed.generator) ∧
      ('\n' ∉ mixed.sourceDescription ∧ '\r' ∉ mixed.sourceDescription) ∧
      content mixed.render = content mixed.banner ++ [("First" : Text), "\tsecond", "```", "  x", "---", "Mode"] ++
        content mixed.footer ∧
      ∃ middle, splitOnChar '\n' mixed.render = ("# Notes" : Text) ::
        (middle ++ [("---" : Text), [], "*Generated by `refgen notes` from notes*", []]) := by
  have single : ∀ part : Text, part = "Notes" ∨ part = "notes" → '\n' ∉ part ∧ '\r' ∉ part := by
    rintro part (rfl | rfl) <;> decide
  have title := single mixed.title (.inl rfl)
  have generator := single mixed.generator (.inr rfl)
  have source := single mixed.sourceDescription (.inr rfl)
  obtain ⟨lines, middle, ends⟩ := render_assembled title generator source
  refine ⟨title, generator, source, ?_, middle, ends⟩
  rw [lines]
  decide +kernel

/-- A page with blanks in front of its intro and behind its title. -/
def spaced : Page :=
  { title := "Notes ", generator := "notes", origin := "notes", sourceDescription := "notes", intro := "  First"
    blocks := [], modeNote := Option.none }

/-- Neither blanks in front of the intro nor blanks behind the title stay. -/
theorem spaced_unassembled :
    content spaced.render ≠ content spaced.banner ++ content spaced.intro ++ spaced.blocks.flatMap content ++
      spaced.modeNote.toList.flatMap content ++ content spaced.footer ∧
    (splitOnChar '\n' spaced.render).head? ≠ some ("# " ++ spaced.title) := by
  decide +kernel

end ReferencePages.Page
