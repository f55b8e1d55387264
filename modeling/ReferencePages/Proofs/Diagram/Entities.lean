import ReferencePages.Proofs.Diagram.Parts
import ReferencePages.Proofs.MarkdownTable.Extracted
/-!
Diagrams of entities beside the tables of the same schema. The diagram marks every column that is a primary key and
the table names the first; the diagram leaves out relations without both ends and the table has all of them. What is
extracted has one key at most for a table and two ends for a relation, so that the two agree.
-/

namespace ReferencePages

namespace Schema

variable {settings : Settings} {text : Text} {table : Table}

/-- The key that a table names is the only one in its diagram. -/
theorem filter_isPrimaryKey (declared : table ∈ tables settings text) :
    table.columns.filter (·.isPrimaryKey) = table.primaryKey?.toList := by
  obtain ⟨_, _, rule⟩ := keyRule_of_mem declared
  have single := rule.single
  rw [List.countP_eq_length_filter] at single
  rw [Table.primaryKey?, ← List.head?_filter]
  cases keys : table.columns.filter (·.isPrimaryKey) with
  | nil => rfl
  | cons key others =>
    rw [keys, List.length_cons] at single
    rw [List.eq_nil_of_length_eq_zero (by omega : others.length = 0)]
    rfl

theorem primaryKey_uuid (declared : table ∈ tables settings text) {key : Column}
    (found : table.primaryKey? = some key) : key.type = .uuid := by
  obtain ⟨_, _, rule⟩ := keyRule_of_mem declared
  obtain ⟨i, there⟩ := List.mem_iff_getElem?.mp (List.mem_of_find?_eq_some found)
  obtain ⟨_, column, _, atColumn, uuid, _⟩ := ((rule.first i key there).mp (List.find?_some found)).1
  rw [there] at atColumn
  cases atColumn
  exact uuid

end Schema

namespace Diagram

open MarkdownTable (cellsOf rowsOf code dash isFlat_code)

/-- What a diagram of entities shows: the lines of each entity without the brace behind it, and the relations. -/
structure Entities where
  blocks : List (List Text)
  relations : List Text
  deriving DecidableEq, Repr

def closing : Text := indent ++ "\x7d"

/-- Reads a diagram of entities again. -/
def readEntities? (diagram : Text) : Option Entities :=
  match parts? "erDiagram" diagram with
  | some [entities, relations] => some { blocks := (entities.splitOn closing).dropLast, relations }
  | _ => none

def opening (name : Text) : Text := indent ++ name ++ " \x7b"

def attributeLine (column : Column) : Text :=
  indent ++ indent ++ column.type.label ++ " " ++ column.name ++ columnMarker column

def blockOf (table : Table) : List Text := opening table.name :: table.columns.map attributeLine

theorem entityLines_eq (table : Table) : entityLines table = blockOf table ++ [closing] := rfl

theorem closing_not_mem_blockOf (table : Table) : closing ∉ blockOf table := by
  intro member
  rcases List.mem_cons.mp member with same | later
  · have last : (opening table.name).getLast? = some '{' := by
      rw [opening, List.getLast?_append]
      rfl
    rw [← same] at last
    exact absurd last (by decide)
  · obtain ⟨column, _, same⟩ := List.mem_map.mp later
    simp only [attributeLine, closing, List.append_assoc, List.append_cancel_left_eq] at same
    cases same

/-! ### Keys of entities -/

def isKeyLine (line : Text) : Bool := Text.endsWith " PK" line

theorem isKeyLine_attributeLine {column : Column} (small : Schema.IsSmallName column.name) :
    isKeyLine (attributeLine column) = column.isPrimaryKey := by
  rw [Bool.eq_iff_iff, isKeyLine, Text.endsWith_iff]
  constructor
  · intro marked
    by_contra plain
    unfold attributeLine columnMarker at marked
    rw [if_neg plain] at marked
    split at marked
    · -- Both marks are of one length.
      have same := List.suffix_of_suffix_length_le marked (List.suffix_append _ (" FK" : Text)) (by decide)
      exact absurd (same.eq_of_length (by decide)) (by decide)
    · obtain ⟨before, same⟩ := marked
      have last := congrArg List.getLast? same
      have some := small.isIdentifier.ne_nil
      have unmarked : ("".toList : Text) = [] := rfl
      rw [unmarked, List.append_nil, List.getLast?_append, List.getLast?_append,
        List.getLast?_eq_some_getLast some, Option.some_or] at last
      have letter := small.chars _ (List.getLast_mem some)
      rw [← Option.some.inj last] at letter
      exact absurd letter (by decide)
  · intro key
    unfold attributeLine columnMarker
    rw [if_pos key]
    exact List.suffix_append _ _

/-- What the attributes of an entity show of its key, beside the cell for it: no attribute is marked and the cell has
a dash, or the attribute of one column is and the cell has its name. -/
inductive KeyAgrees (attributes : List Text) : Text → Prop
  | keyless (unmarked : attributes.filter isKeyLine = []) : KeyAgrees attributes dash
  | key (column : Text) (small : Schema.IsSmallName column)
      (marked : attributes.filter isKeyLine = [indent ++ indent ++ "uuid " ++ column ++ " PK"]) :
      KeyAgrees attributes (code column)

variable {settings : Schema.Settings} {text : Text} {table : Table}

theorem filter_isKeyLine (declared : table ∈ Schema.tables settings text) :
    (table.columns.map attributeLine).filter isKeyLine = table.primaryKey?.toList.map attributeLine := by
  have same : ∀ column ∈ table.columns, (isKeyLine ∘ attributeLine) column = column.isPrimaryKey :=
    fun column member => isKeyLine_attributeLine (Schema.columns_isSmallName declared column member)
  rw [List.filter_map, List.filter_congr same, Schema.filter_isPrimaryKey declared]

theorem keyAgrees (declared : table ∈ Schema.tables settings text) :
    KeyAgrees (table.columns.map attributeLine) (MarkdownTable.keyCell table) := by
  have marked := filter_isKeyLine declared
  unfold MarkdownTable.keyCell
  cases found : table.primaryKey? with
  | none =>
    rw [found] at marked
    exact .keyless marked
  | some key =>
    rw [found] at marked
    refine .key key.name (Schema.columns_isSmallName declared key (List.mem_of_find?_eq_some found)) ?_
    have flagged : key.isPrimaryKey = true := List.find?_some found
    rw [marked, Option.toList_some, List.map_singleton, attributeLine, columnMarker, if_pos flagged,
      Schema.primaryKey_uuid declared found]
    rfl

/-! ### Entities and relations -/

/-- An entity beside a row: the row has the name of the entity, the number of its attributes and its key. -/
def BlockAgrees (block : List Text) (row : Text) : Prop :=
  ∃ name attributes key rest, block = opening name :: attributes ∧
    cellsOf row = code name :: Text.ofNat attributes.length :: key :: rest ∧ KeyAgrees attributes key

/-- A relation beside a row: both have the same ends and the same columns of the source. -/
def RelationAgrees (line row : Text) : Prop :=
  ∃ source column target targetColumn, Text.IsWord source ∧ Text.IsWord target ∧
    line = indent ++ target ++ " ||--o\x7b " ++ source ++ " : \"" ++ column ++ "\"" ∧
    row = MarkdownTable.row [code source, code column, code target, code targetColumn]

theorem blockAgrees (declared : table ∈ Schema.tables settings text) (descriptions : Dictionary Text) {row : Text}
    (cells : cellsOf row = MarkdownTable.tableCells descriptions table) : BlockAgrees (blockOf table) row := by
  have same : ∃ rest, MarkdownTable.tableCells descriptions table =
      code table.name :: Text.ofNat table.columns.length :: MarkdownTable.keyCell table :: rest := by
    unfold MarkdownTable.tableCells
    split
    · exact ⟨_, rfl⟩
    · exact ⟨_, rfl⟩
  obtain ⟨rest, same⟩ := same
  refine ⟨table.name, table.columns.map attributeLine, MarkdownTable.keyCell table, rest, rfl, ?_, keyAgrees declared⟩
  rw [cells, same, List.length_map]

def keyCells (key : ForeignKey) : List Text :=
  [code key.sourceTable, code key.sourceColumn, code key.targetTable, code key.targetColumn]

theorem rowsOf_foreignKeys (constraints : Text) :
    rowsOf (MarkdownTable.foreignKeys (ForeignKey.extract constraints)) =
      (ForeignKey.extract constraints).map fun key => MarkdownTable.row (keyCells key) := by
  refine MarkdownTable.rowsOf_render (List.cons_ne_nil _ _) (by decide) (fun _ _ => List.cons_ne_nil _ _)
    fun key found => ?_
  obtain ⟨source, target, column, targetColumn⟩ := extract_relates constraints key found
  exact List.forall_iff_forall_mem.mp ⟨isFlat_code.mpr source.isFlat, isFlat_code.mpr column,
    isFlat_code.mpr target.isFlat, isFlat_code.mpr targetColumn⟩

/-- Words name both ends of every key, so that none is left out. -/
theorem filter_named (constraints : Text) :
    ((ForeignKey.extract constraints).filter fun key => !key.sourceTable.isEmpty && !key.targetTable.isEmpty) =
      ForeignKey.extract constraints := by
  rw [List.filter_eq_self]
  intro key found
  obtain ⟨source, target, _, _⟩ := extract_relates constraints key found
  simp only [List.isEmpty_eq_false_iff.mpr source.ne_nil, List.isEmpty_eq_false_iff.mpr target.ne_nil,
    Bool.not_false, Bool.and_self]

theorem splitOn_entityLines (tables : List Table) :
    (tables.flatMap entityLines).splitOn closing = tables.map blockOf ++ [[]] := by
  have plain : ∀ block ∈ tables.map blockOf, closing ∉ block :=
    List.forall_mem_map.mpr fun table _ => closing_not_mem_blockOf table
  simpa only [List.append_nil, List.flatMap_map, ← entityLines_eq, List.splitOn_nil] using splitOn_marked plain []

/-- The one blank line of a diagram stands between its entities and its relations. -/
theorem parts?_entities (settings : Schema.Settings) (schema constraints : Text) :
    parts? "erDiagram" (entities (Schema.tables settings schema) (ForeignKey.extract constraints)) =
      some [(Schema.tables settings schema).flatMap entityLines,
        (ForeignKey.extract constraints).map relationLine] := by
  have regroup : entities (Schema.tables settings schema) (ForeignKey.extract constraints) =
      fenced ("erDiagram" :: ((Schema.tables settings schema).flatMap entityLines ++
        [] :: (ForeignKey.extract constraints).map relationLine)) := by
    unfold entities
    rw [filter_named]
    simp
  have drawn := flatMap_entityLines_inked settings schema
  have related := map_relationLine_inked (List.Subset.refl (ForeignKey.extract constraints))
  rw [regroup, parts?_fenced, List.splitOn_append_cons_self_of_not_mem, List.splitOn_eq_singleton]
  · exact fun blank => (related _ blank).ne_nil rfl
  · exact fun blank => (drawn _ blank).ne_nil rfl
  · simp only [List.forall_mem_cons, List.forall_mem_append]
    exact ⟨by decide, fun line member => (drawn line member).1.1, by decide,
      fun line member => (related line member).1.1⟩

/-- A diagram of a schema and its constraints is read as the entities and the relations that it has been drawn of. -/
theorem readEntities?_entities (settings : Schema.Settings) (schema constraints : Text) :
    readEntities? (entities (Schema.tables settings schema) (ForeignKey.extract constraints)) =
      some { blocks := (Schema.tables settings schema).map blockOf
             relations := (ForeignKey.extract constraints).map relationLine } := by
  unfold readEntities?
  rw [parts?_entities]
  dsimp only
  rw [splitOn_entityLines, List.dropLast_concat]

example : readEntities? (entities
      (Schema.tables { name := "jobs", keyGenerators := ["new_id"] }
        "CREATE TABLE runs (\n  id uuid DEFAULT new_id(),\n  job_uuid uuid\n);")
      (ForeignKey.extract "ALTER TABLE runs ADD FOREIGN KEY (job_uuid) REFERENCES jobs (id);")) =
    some { blocks := [["    runs \x7b", "        uuid id PK", "        uuid job_uuid FK"]]
           relations := [("    jobs ||--o\x7b runs : \"job_uuid\"" : Text)] } := by decide +kernel

/-- The diagram of a schema and its constraints agrees with their tables: there is an entity for each table and each
row of the table of tables, with its attributes and its key, and a relation for each row of the table of keys. -/
theorem entities_agree (settings : Schema.Settings) (schema constraints : Text) (descriptions : Dictionary Text) :
    ∃ d, readEntities? (entities (Schema.tables settings schema) (ForeignKey.extract constraints)) = some d ∧
      List.Forall₂ (fun table block => block.head? = some (opening table.name)) (Schema.tables settings schema)
        d.blocks ∧
      List.Forall₂ BlockAgrees d.blocks
        (rowsOf (MarkdownTable.schema (Schema.tables settings schema) descriptions)) ∧
      List.Forall₂ RelationAgrees d.relations
        (rowsOf (MarkdownTable.foreignKeys (ForeignKey.extract constraints))) := by
  refine ⟨_, readEntities?_entities settings schema constraints, ?_, ?_, ?_⟩
  · rw [List.forall₂_map_right_iff, List.forall₂_same]
    exact fun _ _ => rfl
  · have rows := (MarkdownTable.schema_tabulated settings schema descriptions).rows
    rw [List.forall₂_map_left_iff]
    refine ((List.forall₂_and_left _ _).mpr ⟨fun _ declared => declared, rows⟩).imp ?_
    exact fun table row ⟨declared, cells⟩ => blockAgrees declared descriptions cells
  · rw [rowsOf_foreignKeys, List.forall₂_map_left_iff, List.forall₂_map_right_iff, List.forall₂_same]
    intro key found
    obtain ⟨source, target, _, _⟩ := extract_relates constraints key found
    exact ⟨key.sourceTable, key.sourceColumn, key.targetTable, key.targetColumn, source, target, rfl, rfl⟩

end Diagram
end ReferencePages
