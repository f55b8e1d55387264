import ReferencePages.Diagram
import ReferencePages.Proofs.Page.Fence
import ReferencePages.Proofs.Schema.Block
import ReferencePages.Proofs.Schema.PrimaryKey
import ReferencePages.Proofs.ForeignKey.Attribution
import ReferencePages.Proofs.Text.Lines
import ReferencePages.Proofs.Transition.Whole
/-!
Diagrams on a page. All lines of a diagram but one have something at their end, so that a diagram stands on its
page as it has been drawn, whatever the page has above it.
-/

namespace ReferencePages

namespace Text

/-- A text in which a page has no line ending. -/
def IsFlat (s : Text) : Prop := '\n' ∉ s ∧ '\r' ∉ s

/-- A flat text that does not end in a blank. -/
def IsInked (s : Text) : Prop := IsFlat s ∧ ∃ z ∈ s.getLast?, isBlank z = false

instance : DecidablePred IsFlat := fun s => inferInstanceAs (Decidable ('\n' ∉ s ∧ '\r' ∉ s))

instance : DecidablePred IsInked := fun s =>
  @instDecidableAnd _ _ (inferInstanceAs (Decidable (IsFlat s))) (Option.decidableExistsMem s.getLast?)

variable {a b s : Text}

@[simp] theorem isFlat_append : IsFlat (a ++ b) ↔ IsFlat a ∧ IsFlat b := by
  simp only [IsFlat, List.mem_append, not_or]
  tauto

theorem IsFlat.of_subset (flat : IsFlat s) (within : a ⊆ s) : IsFlat a :=
  ⟨fun member => flat.1 (within member), fun member => flat.2 (within member)⟩

theorem IsLine.isFlat (single : IsLine s) : IsFlat s := by
  constructor
  · exact fun member => absurd (single _ member) (by decide)
  · exact fun member => absurd (single _ member) (by decide)

theorem isFlat_of_filled (filled : ∀ c ∈ s, isBlank c = false) : IsFlat s := by
  constructor
  · exact fun member => absurd (filled _ member) (by decide)
  · exact fun member => absurd (filled _ member) (by decide)

theorem IsWord.isFlat (word : IsWord s) : IsFlat s := ⟨word.not_mem (by decide), word.not_mem (by decide)⟩

theorem IsInked.append (flat : IsFlat a) (inked : IsInked b) : IsInked (a ++ b) := by
  obtain ⟨flat', z, last, filled⟩ := inked
  refine ⟨isFlat_append.mpr ⟨flat, flat'⟩, z, ?_, filled⟩
  rw [List.getLast?_append, Option.mem_def.mp last]
  rfl

theorem isInked_of_filled (some : s ≠ []) (filled : ∀ c ∈ s, isBlank c = false) : IsInked s :=
  ⟨isFlat_of_filled filled, s.getLast some, List.getLast?_eq_some_getLast some,
    filled _ (List.getLast_mem some)⟩

theorem IsInked.ne_nil (inked : IsInked s) : s ≠ [] := by
  rintro rfl
  obtain ⟨_, _, last, _⟩ := inked
  cases last

theorem IsInked.trimEnd (inked : IsInked s) : trimEnd s = s := by
  obtain ⟨_, z, last, filled⟩ := inked
  obtain ⟨body, rfl⟩ := List.getLast?_eq_some_iff.mp last
  exact trimEndWhile_concat body filled

theorem mem_of_mem_trimWhile {drop : Char → Bool} {c : Char} (member : c ∈ trimWhile drop s) : c ∈ s := by
  obtain ⟨gap, split, _⟩ := @trimEndWhile_split drop (s.dropWhile drop)
  exact (List.dropWhile_sublist _).subset (split ▸ List.mem_append_left gap member)

end Text

open Text (IsFlat IsInked splitOnChar)

namespace Diagram

/-! ### Lines of diagrams -/

/-- A column as diagrams can show it: its name is visible, and its type is a single line. -/
structure Shows (column : Column) : Prop where
  name : IsInked column.name
  type : IsFlat column.type.label

theorem isFlat_indent : IsFlat indent := by decide

theorem entityLines_inked {table : Table} (name : IsFlat table.name)
    (columns : ∀ column ∈ table.columns, Shows column) : ∀ line ∈ entityLines table, IsInked line := by
  have opening : IsInked (indent ++ table.name ++ " \x7b") :=
    .append (Text.isFlat_append.mpr ⟨isFlat_indent, name⟩) (by decide)
  have closing : IsInked (indent ++ "\x7d" : Text) := by decide
  have inner (column : Column) (shows : Shows column) :
      IsInked (indent ++ indent ++ column.type.label ++ " " ++ column.name ++ columnMarker column) := by
    have before : IsFlat (indent ++ indent ++ column.type.label ++ " ") := by
      have blank : IsFlat (" " : Text) := by decide
      simp only [Text.isFlat_append, isFlat_indent, shows.type, blank, and_self]
    have named := IsInked.append before shows.name
    unfold columnMarker
    split
    · exact .append named.1 (by decide)
    · split
      · exact .append named.1 (by decide)
      · have none : ("".toList : Text) = [] := rfl
        rwa [none, List.append_nil]
  intro line member
  rw [entityLines, List.cons_append, List.mem_cons, List.mem_append, List.mem_map, List.mem_singleton] at member
  rcases member with rfl | ⟨column, within, rfl⟩ | rfl
  · exact opening
  · exact inner column (columns column within)
  · exact closing

theorem relationLine_inked {key : ForeignKey} (target : IsFlat key.targetTable) (source : IsFlat key.sourceTable)
    (column : IsFlat key.sourceColumn) : IsInked (relationLine key) := by
  have arrow : IsFlat (" ||--o\x7b " : Text) := by decide
  have colon : IsFlat (" : \"" : Text) := by decide
  refine .append ?_ (by decide)
  simp only [Text.isFlat_append, isFlat_indent, target, source, column, arrow, colon, and_self]

/-- A transition as diagrams can show it. -/
structure Joins (t : Transition) : Prop where
  source : IsFlat t.source
  event : IsInked t.event
  target : IsFlat t.target

theorem edgeLine_inked {source target label : Text} (start : IsFlat source) (finish : IsFlat target)
    (labelled : IsInked label) : IsInked (edgeLine source target label) := by
  have arrow : IsFlat (" --> " : Text) := by decide
  have colon : IsFlat (" : " : Text) := by decide
  refine .append ?_ labelled
  simp only [Text.isFlat_append, isFlat_indent, start, finish, arrow, colon, and_self]

theorem transitionLines_inked {style : StateStyle} (keys : ∀ state ∈ style.key, IsFlat state) {t : Transition}
    (joins : Joins t) : ∀ line ∈ transitionLines style t, IsInked line := by
  have labelled : IsInked (transitionLabel t) := by
    unfold transitionLabel
    split
    · exact .append joins.event.1 (by decide)
    · exact joins.event
  intro line member
  unfold transitionLines at member
  split at member
  · rw [List.mem_singleton.mp member]
    exact edgeLine_inked joins.source joins.target labelled
  · split at member
    · obtain ⟨state, within, rfl⟩ := List.mem_map.mp member
      exact edgeLine_inked (keys state within) joins.target labelled
    · have note : IsFlat ("note right of " : Text) := by decide
      have via : IsFlat (" : From any state via " : Text) := by decide
      rw [List.mem_singleton.mp member]
      refine .append ?_ joins.event
      simp only [Text.isFlat_append, isFlat_indent, joins.target, note, via, and_self]

/-- How a state machine is drawn, with names of states that diagrams can show. -/
structure StateStyle.IsPlain (style : StateStyle) : Prop where
  initial : IsInked style.initial
  terminal : ∀ state ∈ style.terminal, IsFlat state
  key : ∀ state ∈ style.key, IsFlat state

/-! ### What sources give -/

theorem classify_label (line schemaName : Text) : IsFlat (ColumnType.classify line schemaName).label := by
  have known : ∀ entry ∈ ColumnType.keywordTests, IsFlat entry.2.label := by decide
  unfold ColumnType.classify
  split
  · rename_i test type found
    exact known (test, type) (List.mem_of_find?_eq_some found)
  · split <;> decide

theorem columnName?_inked {line name : Text} (named : Schema.columnName? line = some name) : IsInked name :=
  have identifier := (Schema.columnName?_isSmallName named).isIdentifier
  Text.isInked_of_filled identifier.ne_nil fun c member => (identifier.isNameChar c member).isBlank

theorem tableName?_isWord {line name : Text} (named : Schema.tableName? line = some name) : Text.IsWord name := by
  obtain ⟨s, _, named⟩ := Option.bind_eq_some_iff.mp named
  obtain ⟨⟨word, rest⟩, first, same⟩ := Option.bind_eq_some_iff.mp named
  cases same
  obtain ⟨start, _, bare⟩ := List.mem_flatMap.mp (List.mem_of_head? first)
  obtain ⟨bare', _, read⟩ := List.mem_filterMap.mp bare
  obtain ⟨_, _, _, _, isWord, _⟩ := Text.quotableName?_eq_some.mp read
  exact isWord

/-- The scan carries on a table that lines name by a word. -/
theorem assign_isWord {settings : Schema.Settings} (state : Schema.ScanState) (ls : List Text) :
    ∀ declaration ∈ (Schema.assign settings state ls).2, Text.IsWord declaration.1 := by
  induction ls generalizing state with
  | nil => exact nofun
  | cons line ls ih =>
    intro declaration member
    rw [Schema.assign] at member
    cases stepped : Schema.step settings state line with
    | mk next event =>
      rw [stepped] at member
      cases event with
      | none => exact ih next declaration member
      | some event =>
        cases event with
        | column _ => exact ih next declaration member
        | tableStart name =>
          rcases List.mem_cons.mp member with rfl | later
          · unfold Schema.step at stepped
            dsimp only at stepped
            split at stepped
            · rename_i found named
              cases stepped
              exact tableName?_isWord named
            · repeat' split at stepped
              all_goals cases stepped
          · exact ih next declaration later

/-- Tables of a schema can be drawn. -/
theorem tables_shown (settings : Schema.Settings) (text : Text) : ∀ table ∈ Schema.tables settings text,
    IsFlat table.name ∧ ∀ column ∈ table.columns, Shows column := by
  intro table member
  obtain ⟨declaration, declared, rule⟩ := Schema.keyRule_of_mem member
  have word := assign_isWord _ _ _ declared
  refine ⟨rule.name ▸ word.isFlat, fun column within => ?_⟩
  obtain ⟨line, _, stands⟩ := rule.exists_stands within
  refine ⟨columnName?_inked stands.name, ?_⟩
  rw [stands.type]
  exact classify_label _ _

theorem columnList_isFlat {raw : Text} (flat : IsFlat raw) : IsFlat (ForeignKey.columnList raw) := by
  have comma : IsFlat (", " : Text) := by decide
  have inner {c : Char} (member : c ∈ ForeignKey.columnList raw) : c ∈ (", " : Text) ∨ c ∈ raw := by
    rcases Text.mem_joinWith member with between | ⟨piece, within, inside⟩
    · exact .inl between
    · obtain ⟨part, kept, rfl⟩ := List.mem_map.mp within
      have whole := Text.mem_of_mem_trimWhile (Text.mem_of_mem_trimWhile inside)
      exact .inr (Text.mem_of_mem_splitOnChar (List.mem_filter.mp kept).1 whole)
  exact ⟨fun member => (inner member).elim comma.1 flat.1, fun member => (inner member).elim comma.2 flat.2⟩

/-- A key between two tables that words name, with columns on a single line. -/
structure Relates (key : ForeignKey) : Prop where
  source : Text.IsWord key.sourceTable
  target : Text.IsWord key.targetTable
  sourceColumn : IsFlat key.sourceColumn
  targetColumn : IsFlat key.targetColumn

/-- Foreign keys can be drawn. -/
theorem extract_relates (text : Text) : ∀ key ∈ ForeignKey.extract text, Relates key := by
  intro key member
  rw [ForeignKey.extract, ForeignKey.foldl_step] at member
  obtain ⟨i, _, edge⟩ := List.mem_filterMap.mp member
  obtain ⟨⟨line, ⟨atLine, _⟩, part, columns, reference, target, first, keyed, behind, refers, column, named, targets⟩,
    _, _, _, _, ⟨_, _, alters⟩, _⟩ := ForeignKey.edgeAt?_eq_some edge
  have single := (Text.isLine_of_mem_lines (List.mem_of_getElem? atLine)).isFlat
  have within : columns.1 ⊆ line := by
    obtain ⟨gap, list, _, ⟨margin, _, _, _, listed⟩, split⟩ := keyed
    intro c inside
    refine first.1.subset ?_
    rw [split, listed]
    simp [inside]
  have after : columns.2 ⊆ line := by
    obtain ⟨clause, _, split⟩ := keyed.split
    intro c inside
    refine first.1.subset ?_
    rw [split]
    simp [inside]
  have referred : target.2 ⊆ line := fun _ inside => after (behind.1.subset (refers.subset inside))
  refine ⟨alters.isWord, named ▸ refers.isWord, ?_, ?_⟩
  · rw [column]
    exact columnList_isFlat (single.of_subset within)
  · rw [targets]
    exact columnList_isFlat (single.of_subset referred)

theorem flatMap_entityLines_inked (settings : Schema.Settings) (text : Text) :
    ∀ line ∈ (Schema.tables settings text).flatMap entityLines, IsInked line := by
  intro line member
  obtain ⟨table, declared, within⟩ := List.mem_flatMap.mp member
  obtain ⟨name, columns⟩ := tables_shown settings text table declared
  exact entityLines_inked name columns line within

theorem map_relationLine_inked {text : Text} {keys : List ForeignKey} (some : keys ⊆ ForeignKey.extract text) :
    ∀ line ∈ keys.map relationLine, IsInked line := by
  intro line member
  obtain ⟨key, found, rfl⟩ := List.mem_map.mp member
  obtain ⟨source, target, column, _⟩ := extract_relates text key (some found)
  exact relationLine_inked target.isFlat source.isFlat column

/-- Transitions can be drawn. -/
theorem extract_joins (settings : Transition.Settings) (text : Text) :
    ∀ t ∈ Transition.extract settings text, Joins t := by
  intro t member
  obtain ⟨⟨_, source⟩, ⟨some, event⟩, ⟨_, target⟩⟩ := Transition.isWhole_of_extract member
  exact ⟨Text.isFlat_of_filled fun c inside => (source c inside).1,
    Text.isInked_of_filled some fun c inside => (event c inside).1,
    Text.isFlat_of_filled fun c inside => (target c inside).1⟩

end Diagram

namespace Page

/-! ### Diagrams on pages -/

/-- A block in a fence whose lines are inked but for one blank line stands on the page line by line, whether or
not the fences above are closed. -/
theorem render_fenced {p : Page} {before after ls ls' : List Text}
    (blocks : p.blocks = before ++ Diagram.fenced (ls ++ [] :: ls') :: after)
    (first : ∀ line ∈ ls, IsInked line) (second : ∀ line ∈ ls', IsInked line) :
    splitOnChar '\n' (Diagram.fenced (ls ++ [] :: ls')) <:+: splitOnChar '\n' p.render := by
  have opening : IsInked ("```mermaid" : Text) := by decide
  have closing : IsInked ("```" : Text) := by decide
  have upper : ∀ line ∈ ("```mermaid" : Text) :: ls, IsInked line := by
    intro line member
    rcases List.mem_cons.mp member with rfl | later
    · exact opening
    · exact first line later
  have lower : ∀ line ∈ ls' ++ [("```" : Text)], IsInked line := by
    intro line member
    rcases List.mem_append.mp member with before | last
    · exact second line before
    · exact List.mem_singleton.mp last ▸ closing
  have flat : ∀ line ∈ ("```mermaid" : Text) :: (ls ++ [] :: ls') ++ [("```" : Text)], IsFlat line := by
    intro line member
    have parts : line ∈ ("```mermaid" : Text) :: ls ∨ line = [] ∨ line ∈ ls' ++ [("```" : Text)] := by
      simpa [or_assoc] using member
    rcases parts with above | rfl | below
    · exact (upper line above).1
    · decide
    · exact (lower line below).1
  have lines : splitOnChar '\n' (Diagram.fenced (ls ++ [] :: ls')) =
      ("```mermaid" : Text) :: (ls ++ [] :: ls') ++ [("```" : Text)] :=
    Text.splitOnChar_joinWith fun line member => (flat line member).1
  have carriage : '\r' ∉ Diagram.fenced (ls ++ [] :: ls') := by
    intro member
    rcases Text.mem_joinWith member with feed | ⟨line, within, inside⟩
    · revert feed
      decide
    · exact (flat line within).2 inside
  refine render_block blocks carriage ?_ ?_ fun b => ?_
  · intro head same
    rw [lines] at same
    cases same
    exact opening.ne_nil
  · intro last same
    rw [lines, List.getLast?_concat] at same
    cases same
    exact closing.ne_nil
  · have regroup : ("```mermaid" : Text) :: (ls ++ [] :: ls') ++ [("```" : Text)] =
        (("```mermaid" : Text) :: ls ++ [[]]) ++ (ls' ++ [("```" : Text)]) := by simp
    have filled {ls : List Text} (inked : ∀ line ∈ ls, IsInked line) :
        ∀ line ∈ ls, Text.trimEnd line = line ∧ line ≠ [] :=
      fun line member => ⟨(inked line member).trimEnd, (inked line member).ne_nil⟩
    obtain ⟨f, start⟩ := stay_filled (List.cons_ne_nil _ _) (filled upper)
      (if Even ((p.banner :: Text.trim p.intro :: before).map fenceCount).sum then false else true) b
    obtain ⟨f', rest⟩ := stay_filled (by simp) (filled lower) f (!f)
    rw [lines, regroup]
    exact ⟨f', false, (start.append (stay_blank f)).append rest⟩

/-- The diagram of what a schema and its constraints declare stands on the page as it is drawn. -/
theorem render_entities {p : Page} {before after : List Text} {settings : Schema.Settings}
    {schema constraints : Text}
    (blocks : p.blocks = before ++ Diagram.entities (Schema.tables settings schema)
      (ForeignKey.extract constraints) :: after) :
    splitOnChar '\n' (Diagram.entities (Schema.tables settings schema) (ForeignKey.extract constraints)) <:+:
      splitOnChar '\n' p.render := by
  have regroup (ls ls' : List Text) : ("erDiagram" : Text) :: ls ++ [[]] ++ ls' =
      (("erDiagram" : Text) :: ls) ++ [] :: ls' := by simp
  unfold Diagram.entities at blocks ⊢
  rw [regroup] at blocks ⊢
  refine render_fenced blocks (List.forall_mem_cons.mpr ⟨by decide, ?_⟩) ?_
  · exact Diagram.flatMap_entityLines_inked settings schema
  · exact Diagram.map_relationLine_inked (List.filter_subset_self _)

/-- The diagram of a state machine stands on the page as it is drawn. -/
theorem render_states {p : Page} {before after : List Text} {style : Diagram.StateStyle}
    (plain : style.IsPlain) {settings : Transition.Settings} {text : Text}
    (blocks : p.blocks = before ++ Diagram.states style (Transition.extract settings text) :: after) :
    splitOnChar '\n' (Diagram.states style (Transition.extract settings text)) <:+: splitOnChar '\n' p.render := by
  have regroup (start : Text) (ls ls' : List Text) : ("stateDiagram-v2" : Text) :: start :: ls ++ [[]] ++ ls' =
      (("stateDiagram-v2" : Text) :: start :: ls) ++ [] :: ls' := by simp
  unfold Diagram.states at blocks ⊢
  rw [regroup] at blocks ⊢
  refine render_fenced blocks ?_ ?_
  · intro line member
    rcases List.mem_cons.mp member with rfl | later
    · decide
    · rcases List.mem_cons.mp later with rfl | ends
      · exact .append (by decide) plain.initial
      · obtain ⟨state, within, rfl⟩ := List.mem_map.mp ends
        have flat := plain.terminal state within
        refine .append ?_ (by decide)
        simp only [Text.isFlat_append, Diagram.isFlat_indent, flat, and_self]
  · intro line member
    obtain ⟨t, found, within⟩ := List.mem_flatMap.mp member
    exact Diagram.transitionLines_inked plain.key (Diagram.extract_joins settings text t found) line within

end Page
end ReferencePages
