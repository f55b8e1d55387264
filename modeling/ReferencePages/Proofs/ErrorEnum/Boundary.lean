import ReferencePages.Proofs.Documentation.Attribute
/-!
Enumerations up to a boundary. The scan looks at the lines before the boundary and at no other, and what it has
open there it ends there. So the text may be cut at the boundary; where the last line that is left is empty, its line
feed has to stay.
-/

namespace ReferencePages.ErrorEnum

/-! ### The end of a scan -/

theorem Scan.run_concat (scan : Scan) (ls : List Text) (line : Text) :
    scan.run (ls ++ [line]) =
      (((scan.run ls).1.step line).1, (scan.run ls).2 ++ ((scan.run ls).1.step line).2.toList) := by
  induction ls generalizing scan with
  | nil => simp [Scan.run]
  | cons first ls ih => simp [Scan.run, ih]

theorem ofLines_of_outside {scan : Scan} {ls docs : List Text} (outside : (scan.run ls).1 = .outside docs) :
    ofLines scan ls = (scan.run ls).2 := by
  have whole := ofLines_append scan ls []
  rwa [List.append_nil, outside, ofLines, List.append_nil] at whole

theorem ofLines_of_inside {scan : Scan} {ls : List Text} {e : Unfinished} (inside : (scan.run ls).1 = .inside e) :
    ofLines scan ls = (scan.run ls).2 ++ [e.finish] := by
  have whole := ofLines_append scan ls []
  rwa [List.append_nil, inside, ofLines] at whole

/-- An enumeration that is open behind some lines was declared in one of them, and has all lines from there on. -/
structure IsOpen (ls : List Text) (e : Unfinished) : Prop where
  lines : ∃ above, ls = above ++ e.firstLine :: e.body
  declared : declared? e.firstLine = some e.name
  unclosed : e.isClosed = false

theorem Unfinished.next_cases (e : Unfinished) :
    e.isClosed = true ∧ e.next = (.outside [], some e.finish) ∨ e.isClosed = false ∧ e.next = (.inside e, none) := by
  cases closed : e.isClosed with
  | true => exact .inl ⟨rfl, if_pos closed⟩
  | false => exact .inr ⟨rfl, if_neg (by rw [closed]; exact Bool.false_ne_true)⟩

/-- A line behind which an enumeration is open has declared it, or has been added to it. -/
theorem Scan.step_inside {scan : Scan} {line : Text} {e : Unfinished} (inside : (scan.step line).1 = .inside e) :
    e.isClosed = false ∧
      ((∃ docs name, scan = .outside docs ∧ declared? line = some name ∧ e = Unfinished.start name docs line) ∨
        ∃ before, scan = .inside before ∧ e = before.add line) := by
  have kept {other : Unfinished} (next : other.next.1 = .inside e) : other.isClosed = false ∧ e = other := by
    rcases other.next_cases with ⟨_, ends⟩ | ⟨open', goes⟩
    · rw [ends] at next
      cases next
    · rw [goes] at next
      cases next
      exact ⟨open', rfl⟩
  cases scan with
  | inside before =>
    obtain ⟨open', rfl⟩ := kept inside
    exact ⟨open', .inr ⟨before, rfl, rfl⟩⟩
  | outside docs =>
    rw [Scan.step] at inside
    split at inside
    · cases inside
    · split at inside
      · rename_i name declared
        obtain ⟨open', rfl⟩ := kept inside
        exact ⟨open', .inl ⟨docs, name, rfl, declared, rfl⟩⟩
      · cases inside

theorem isOpen_of_run {docs ls : List Text} {e : Unfinished} (inside : ((Scan.outside docs).run ls).1 = .inside e) :
    IsOpen ls e := by
  induction ls using List.reverseRecOn generalizing e with
  | nil => cases inside
  | append_singleton ls line ih =>
    rw [Scan.run_concat] at inside
    obtain ⟨unclosed, ⟨docs', name, _, declared, rfl⟩ | ⟨before, inside', rfl⟩⟩ := Scan.step_inside inside
    · exact ⟨⟨ls, rfl⟩, declared, unclosed⟩
    · obtain ⟨⟨above, split⟩, declared, _⟩ := ih inside'
      refine ⟨⟨above, ?_⟩, declared, unclosed⟩
      rw [split, List.append_assoc, List.cons_append]
      rfl

/-! ### An empty line at the end -/

/-- An empty line leaves a scan where it is. -/
theorem Scan.step_empty {scan : Scan} (unclosed : ∀ e, scan = .inside e → e.isClosed = false) :
    (∃ docs, scan = .outside docs ∧ scan.step [] = (scan, none)) ∨
      ∃ e, scan = .inside e ∧ scan.step [] = (.inside (e.add []), none) := by
  cases scan with
  | outside docs => exact .inl ⟨docs, rfl, step_blank rfl docs⟩
  | inside e =>
    have same : (e.add []).isClosed = e.isClosed := by
      simp [Unfinished.isClosed, Unfinished.add, braceBalance]
    refine .inr ⟨e, rfl, ?_⟩
    rcases (e.add []).next_cases with ⟨closed, _⟩ | ⟨_, goes⟩
    · rw [same, unclosed e rfl] at closed
      cases closed
    · exact goes

/-- An enumeration with an empty line at its end differs in nothing but the line feed at the end of its body. -/
theorem finish_add_empty {e : Unfinished} (single : ∀ line ∈ e.body, Text.IsLine line) :
    (e.add []).finish = { e.finish with body := e.finish.body ++ ['\n'] } := by
  have silent : ∀ line ∈ [([] : Text)], Text.isAllBlank line = true := List.forall_mem_singleton.mpr rfl
  have single' : ∀ line ∈ e.body ++ [[]], Text.IsLine line :=
    List.forall_mem_append.mpr ⟨single, List.forall_mem_singleton.mpr nofun⟩
  have variants : Variant.extract (Text.unlines (e.body ++ [[]])) = Variant.extract (Text.unlines e.body) := by
    rw [Variant.extract_unlines single', Variant.extract_unlines single, Variant.ofLines_append_blank silent]
  have body : Text.unlines (e.firstLine :: (e.body ++ [[]])) = Text.unlines (e.firstLine :: e.body) ++ ['\n'] :=
    Text.unlines_concat (List.cons_ne_nil e.firstLine e.body) []
  simp only [Unfinished.finish, Unfinished.add, variants, body]

/-- An empty line at the end is part of the body that is open there, and of nothing else. -/
theorem ofLines_concat_empty {ls : List Text} (single : ∀ line ∈ ls, Text.IsLine line) :
    ofLines (.outside []) (ls ++ [[]]) = ofLines (.outside []) ls ∨
      ∃ e found last, ((Scan.outside []).run (ls ++ [[]])).1 = .inside e ∧
        ofLines (.outside []) ls = found ++ [last] ∧
        ofLines (.outside []) (ls ++ [[]]) = found ++ [{ last with body := last.body ++ ['\n'] }] := by
  have unclosed : ∀ e, ((Scan.outside []).run ls).1 = .inside e → e.isClosed = false :=
    fun e inside => (isOpen_of_run inside).unclosed
  have run := Scan.run_concat (.outside []) ls []
  rcases Scan.step_empty unclosed with ⟨docs, outside, same⟩ | ⟨e, inside, goes⟩
  · rw [same, outside, Option.toList_none, List.append_nil] at run
    refine .inl ?_
    rw [ofLines_of_outside (congrArg Prod.fst run), ofLines_of_outside outside, run]
  · rw [goes, Option.toList_none, List.append_nil] at run
    have body : ∀ line ∈ e.body, Text.IsLine line := fun line member => by
      obtain ⟨above, split⟩ := (isOpen_of_run inside).lines
      exact single line (split ▸ List.mem_append_right above (List.mem_cons_of_mem _ member))
    refine .inr ⟨e.add [], ((Scan.outside []).run ls).2, e.finish, congrArg Prod.fst run, ofLines_of_inside inside, ?_⟩
    rw [ofLines_of_inside (congrArg Prod.fst run), run, finish_add_empty body]

/-! ### Up to the boundary -/

theorem UpTo.beforeBoundary_eq {boundary : Text} {ls before rest : List Text} (upTo : UpTo boundary ls before rest) :
    beforeBoundary boundary ls = before := by
  rw [upTo.whole, beforeBoundary]
  split
  · rename_i none
    cases behind : rest with
    | nil => rw [List.append_nil]
    | cons line rest =>
      have marked := (upTo.stops line (by rw [behind]; rfl)).1
      exact absurd (List.isEmpty_iff.mp none) marked
  · rename_i some
    have there : boundary ≠ [] := fun none => some (List.isEmpty_iff.mpr none)
    have kept : ∀ line ∈ before, (!Text.startsWith boundary line) = true := fun line member => by
      rw [Bool.not_eq_true', Bool.eq_false_iff, ne_eq, Text.startsWith_iff]
      exact upTo.free there line member
    rw [List.takeWhile_append_of_pos kept]
    cases behind : rest with
    | nil => rw [List.takeWhile_nil, List.append_nil]
    | cons line rest =>
      have stop := (upTo.stops line (by rw [behind]; rfl)).2
      rw [List.takeWhile_cons_of_neg (by rw [Text.startsWith_iff.mpr stop]; exact Bool.false_ne_true), List.append_nil]

theorem UpTo.extract_eq {boundary text : Text} {before rest : List Text}
    (upTo : UpTo boundary (Text.lines text) before rest) : extract boundary text = ofLines (.outside []) before := by
  rw [extract, upTo.beforeBoundary_eq]

/-- The lines before a boundary have none themselves. -/
theorem UpTo.extract_of_lines {boundary : Text} {ls before rest front : List Text} (upTo : UpTo boundary ls before rest)
    (start : front <+: before) {other : Text} (lines : Text.lines other = front) :
    extract boundary other = ofLines (.outside []) front := by
  rw [extract, lines, beforeBoundary_of_free fun there line member => upTo.free there line (start.subset member)]

/-- What is read of a text is what is read of its lines before the boundary, each with a line feed behind it; what
stands from the boundary on has no part in it. An enumeration that is open at the boundary is the last, and its body
goes from its declaration to the boundary. If the lines are joined without a line feed behind the last, the same is
read, unless the last line is empty and stands in an open enumeration: then this line feed is missing in its body. -/
theorem extract_bounded (boundary text : Text) :
    ∃ before rest, UpTo boundary (Text.lines text) before rest ∧
      extract boundary text = extract boundary (before.flatMap (· ++ ['\n'])) ∧
      (∀ other rest', UpTo boundary (Text.lines other) before rest' → extract boundary other = extract boundary text) ∧
      (∀ e, ((Scan.outside []).run before).1 = .inside e →
        IsOpen before e ∧ ∃ found, extract boundary text = found ++ [e.finish]) ∧
      (extract boundary text = extract boundary (Text.unlines before) ∨
        before.getLast? = some [] ∧ ∃ e found last, ((Scan.outside []).run before).1 = .inside e ∧
          extract boundary (Text.unlines before) = found ++ [last] ∧
          extract boundary text = found ++ [{ last with body := last.body ++ ['\n'] }]) := by
  obtain ⟨rest, upTo⟩ := upTo_beforeBoundary boundary (Text.lines text)
  have read := upTo.extract_eq
  generalize beforeBoundary boundary (Text.lines text) = before at upTo read
  have single : ∀ line ∈ before, Text.IsLine line := fun line member =>
    Text.isLine_of_mem_lines (upTo.whole ▸ List.mem_append_left rest member)
  refine ⟨before, rest, upTo, ?_, fun other rest' upTo' => ?_, fun e inside => ?_, ?_⟩
  · rw [read, upTo.extract_of_lines List.prefix_rfl (Text.lines_terminated single)]
  · rw [read, upTo'.extract_eq]
  · exact ⟨isOpen_of_run inside, _, read.trans (ofLines_of_inside inside)⟩
  · rw [read]
    by_cases empty : before.getLast? = some []
    · obtain ⟨front, rfl⟩ := List.getLast?_eq_some_iff.mp empty
      have single' := fun line member => single line (List.mem_append_left _ member)
      rw [upTo.extract_of_lines (List.prefix_append front _) (Text.lines_unlines_concat single')]
      exact (ofLines_concat_empty single').imp id fun differs => ⟨empty, differs⟩
    · exact .inl (upTo.extract_of_lines List.prefix_rfl (Text.lines_unlines_of_last single empty)).symm

/-- An enumeration with an empty line in front of the boundary. -/
def openFault : Text := "pub enum Fault \x7b\n\n#[cfg(test)]\n"

/-- The empty line in front of the boundary is lost when the lines are joined. -/
theorem joined_lines_differ :
    extract "#[cfg(test)]" openFault ≠
        extract "#[cfg(test)]" (Text.unlines (beforeBoundary "#[cfg(test)]" (Text.lines openFault))) ∧
      (extract "#[cfg(test)]" openFault).map ErrorEnum.body = ["pub enum Fault \x7b\n".toList] ∧
      (extract "#[cfg(test)]" (Text.unlines (beforeBoundary "#[cfg(test)]" (Text.lines openFault)))).map ErrorEnum.body =
        ["pub enum Fault \x7b".toList] := by
  decide +kernel

end ReferencePages.ErrorEnum
