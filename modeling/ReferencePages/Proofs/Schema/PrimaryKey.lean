import ReferencePages.Proofs.Schema.Declaration
import ReferencePages.Proofs.Text.Search
import Mathlib.Data.List.Forall2
/-!
The primary keys of tables. In every table the first column of the type of identifiers whose line names a
generator is the key, and no other column is. The rule looks at the lines of that one table.
-/

namespace ReferencePages

/-- Whether a column line is of the type of identifiers and names a generator. -/
def Schema.ColumnLine.isGenerated (c : Schema.ColumnLine) : Bool := c.type = .uuid && c.hasKeyGenerator

namespace Schema

theorem ColumnLine.isGenerated_iff (c : ColumnLine) :
    c.isGenerated = true ↔ c.type = .uuid ∧ c.hasKeyGenerator = true := by
  simp [isGenerated]

theorem markKey_cons (found : Bool) (c : ColumnLine) (cs : List ColumnLine) :
    markKey found (c :: cs) =
      { name := c.name, type := c.type, isPrimaryKey := !found && c.isGenerated } ::
        markKey (found || c.isGenerated) cs := by
  have flag : (!found && c.type = .uuid && c.hasKeyGenerator) = (!found && c.isGenerated) :=
    Bool.and_assoc ..
  rw [markKey, flag]
  cases found <;> rfl

theorem markKey_getElem? (found : Bool) (cs : List ColumnLine) (i : Nat) :
    (markKey found cs)[i]? = cs[i]?.map fun c =>
      { name := c.name, type := c.type,
        isPrimaryKey := !found && c.isGenerated && (cs.take i).all (!·.isGenerated) } := by
  induction cs generalizing found i with
  | nil => rfl
  | cons c cs ih =>
    rw [markKey_cons]
    cases i with
    | zero =>
      rw [List.getElem?_cons_zero, List.getElem?_cons_zero, List.take_zero, Option.map_some]
      simp
    | succ i =>
      rw [List.getElem?_cons_succ, List.getElem?_cons_succ, ih, List.take_succ_cons]
      cases found <;> cases generated : c.isGenerated <;> simp [generated]

theorem markKey_countP (found : Bool) (cs : List ColumnLine) :
    (markKey found cs).countP (·.isPrimaryKey) ≤ if found then 0 else 1 := by
  induction cs generalizing found with
  | nil => exact Nat.zero_le _
  | cons c cs ih =>
    rw [markKey_cons, List.countP_cons]
    have rest := ih (found || c.isGenerated)
    cases found <;> cases generated : c.isGenerated <;> simp_all

/-- A column as it stands in a line, blanks at the start of the line left out. -/
structure Stands (settings : Settings) (line : Text) (column : Column) : Prop where
  name : columnName? (Text.trimStart line) = some column.name
  type : column.type = ColumnType.classify (Text.trimStart line) settings.name

/-- The column in a place is of the type of identifiers, and what is `read` of its line has one of the
generators in it. -/
def IsGenerated (settings : Settings) (read : Text → Text) (lines : List Text) (columns : List Column)
    (i : Nat) : Prop :=
  ∃ line column, lines[i]? = some line ∧ columns[i]? = some column ∧ column.type = .uuid ∧
    ∃ generator ∈ settings.keyGenerators, generator <:+: read line

/-- The rule of primary keys, for a table with the lines that declare its columns. -/
structure KeyRule (settings : Settings) (read : Text → Text) (declaration : Text × List Text)
    (table : Table) : Prop where
  name : table.name = declaration.1
  columns : List.Forall₂ (Stands settings) declaration.2 table.columns
  single : table.columns.countP (·.isPrimaryKey) ≤ 1
  /-- The key is the first generated identifier of the table. -/
  first : ∀ i column, table.columns[i]? = some column →
    (column.isPrimaryKey = true ↔ IsGenerated settings read declaration.2 table.columns i ∧
      ∀ j < i, ¬ IsGenerated settings read declaration.2 table.columns j)
  key : ∀ column ∈ table.columns, column.isPrimaryKey = true → table.primaryKey? = some column
  keyless : (∀ i, ¬ IsGenerated settings read declaration.2 table.columns i) → table.primaryKey? = none

variable {settings : Settings}

theorem columnOf_isGenerated (line : Text) :
    (columnOf settings line).isGenerated = true ↔
      (columnOf settings line).type = .uuid ∧
        ∃ generator ∈ settings.keyGenerators, generator <:+: Text.trimStart line := by
  have named : (columnOf settings line).hasKeyGenerator = true ↔
      ∃ generator ∈ settings.keyGenerators, generator <:+: Text.trimStart line := by
    simp only [columnOf, List.any_eq_true, Text.contains_iff]
  rw [ColumnLine.isGenerated_iff, named]

theorem isGenerated_iff (lines : List Text) (i : Nat) :
    IsGenerated settings Text.trimStart lines (markKey false (lines.map (columnOf settings))) i ↔
      ∃ line, lines[i]? = some line ∧ (columnOf settings line).isGenerated = true := by
  unfold IsGenerated
  simp only [markKey_getElem?, List.getElem?_map, columnOf_isGenerated]
  constructor
  · rintro ⟨line, column, atLine, atColumn, type, named⟩
    rw [atLine] at atColumn
    cases atColumn
    exact ⟨line, atLine, type, named⟩
  · rintro ⟨line, atLine, type, named⟩
    rw [atLine]
    exact ⟨line, _, rfl, rfl, type, named⟩

/-- A column is marked where it is generated and no column before it is. -/
theorem markKey_first {lines : List Text} {i : Nat} {column : Column}
    (there : (markKey false (lines.map (columnOf settings)))[i]? = some column) :
    column.isPrimaryKey = true ↔
      IsGenerated settings Text.trimStart lines (markKey false (lines.map (columnOf settings))) i ∧
        ∀ j < i, ¬ IsGenerated settings Text.trimStart lines
          (markKey false (lines.map (columnOf settings))) j := by
  simp only [isGenerated_iff]
  rw [markKey_getElem?, List.getElem?_map] at there
  obtain ⟨c, atColumn, rfl⟩ := Option.map_eq_some_iff.mp there
  obtain ⟨line, atLine, rfl⟩ := Option.map_eq_some_iff.mp atColumn
  have before : ((lines.map (columnOf settings)).take i).all (!·.isGenerated) = true ↔
      ∀ j < i, ¬ ∃ other, lines[j]? = some other ∧ (columnOf settings other).isGenerated = true := by
    simp only [List.all_eq_true, List.mem_iff_getElem?, List.getElem?_take, List.getElem?_map]
    constructor
    · rintro none j below ⟨other, atOther, generated⟩
      have mem := none (columnOf settings other) ⟨j, by rw [if_pos below, atOther]; rfl⟩
      simp [generated] at mem
    · rintro none c ⟨j, atJ⟩
      split at atJ
      · rename_i below
        obtain ⟨other, atOther, rfl⟩ := Option.map_eq_some_iff.mp atJ
        have absent := none j below
        simp only [atOther] at absent
        simpa using absent
      · cases atJ
  simp only [Bool.not_false, Bool.true_and, Bool.and_eq_true, before, atLine, Option.some.injEq,
    exists_eq_left']

theorem stands_of_markKey {found : Bool} {lines : List Text}
    (named : ∀ line ∈ lines, columnName? (Text.trimStart line) = some (columnOf settings line).name) :
    List.Forall₂ (Stands settings) lines (markKey found (lines.map (columnOf settings))) := by
  induction lines generalizing found with
  | nil => exact .nil
  | cons line lines ih =>
    rw [List.map_cons, markKey_cons]
    exact .cons ⟨named line (List.mem_cons_self ..), rfl⟩
      (ih fun other member => named other (List.mem_cons_of_mem _ member))

theorem keyRule_of_lines {name : Text} {lines : List Text}
    (named : ∀ line ∈ lines, columnName? (Text.trimStart line) = some (columnOf settings line).name) :
    KeyRule settings Text.trimStart (name, lines)
      { name, columns := markKey false (lines.map (columnOf settings)) } where
  name := rfl
  columns := stands_of_markKey named
  single := markKey_countP false _
  first _ _ there := markKey_first there
  key column member flagged := by
    obtain ⟨i, there⟩ := List.mem_iff_getElem?.mp member
    obtain ⟨inside, atIndex⟩ := List.getElem?_eq_some_iff.mp there
    rw [Table.primaryKey?, List.find?_eq_some_iff_getElem]
    refine ⟨flagged, i, inside, atIndex, fun j below => ?_⟩
    have ungenerated := ((markKey_first there).mp flagged).2 j below
    have atJ := List.getElem?_eq_getElem (Nat.lt_trans below inside)
    have unflagged := mt (fun key => ((markKey_first atJ).mp key).1) ungenerated
    simpa using unflagged
  keyless none := by
    rw [Table.primaryKey?, List.find?_eq_none]
    intro column member flagged
    obtain ⟨i, there⟩ := List.mem_iff_getElem?.mp member
    exact none i ((markKey_first there).mp flagged).1

theorem KeyRule.exists_stands {read : Text → Text} {declaration : Text × List Text} {table : Table}
    (rule : KeyRule settings read declaration table) {column : Column} (member : column ∈ table.columns) :
    ∃ line ∈ declaration.2, Stands settings line column := by
  obtain ⟨length, stands⟩ := List.forall₂_iff_get.mp rule.columns
  obtain ⟨i, rfl⟩ := List.mem_iff_get.mp member
  have inside : i < declaration.2.length := length.symm ▸ i.isLt
  exact ⟨_, List.get_mem _ ⟨i, inside⟩, stands i inside i.isLt⟩

theorem keyRule_of_mem {text : Text} {table : Table} (declared : table ∈ tables settings text) :
    ∃ declaration ∈ declarations settings text, KeyRule settings Text.trimStart declaration table := by
  rw [tables_eq] at declared
  obtain ⟨declaration, member, rfl⟩ := List.mem_map.mp declared
  exact ⟨declaration, member, keyRule_of_lines ((columnName?_of_assign settings).2 declaration member)⟩

/-- Every table of a schema has its primary key by the rule, from its own lines and whatever the tables
before it are: it has at most one, which is the first column of the type of identifiers with a generator in
its line, blanks at the start of the line left out. -/
theorem tables_primaryKey (settings : Settings) (text : Text) :
    List.Forall₂ (KeyRule settings Text.trimStart) (declarations settings text) (tables settings text) := by
  rw [tables_eq, List.forall₂_map_right_iff, List.forall₂_same]
  intro declaration member
  exact keyRule_of_lines ((columnName?_of_assign settings).2 declaration member)

/-- A schema of one table, with a generator that begins with a blank. -/
def indentedGenerator : Settings := { name := "tasker", keyGenerators := [" id"] }

def indentedColumn : Text := "CREATE TABLE t (\n  id uuid\n);"

/-- A generator that begins with a blank can stand in a line and not be found, since blanks at the start of
the line are left out before it is looked for. -/
theorem indented_generator_unmarked :
    ¬ List.Forall₂ (KeyRule indentedGenerator id) (declarations indentedGenerator indentedColumn)
      (tables indentedGenerator indentedColumn) := by
  have declared : declarations indentedGenerator indentedColumn =
      [("t".toList, ["  id uuid".toList])] := by decide
  have read : tables indentedGenerator indentedColumn =
      [{ name := "t", columns := [{ name := "id", type := .uuid, isPrimaryKey := false }] }] := by decide
  rw [declared, read]
  intro rule
  obtain ⟨key, _⟩ := List.forall₂_cons.mp rule
  have generated : IsGenerated indentedGenerator id ["  id uuid"]
      [{ name := "id", type := .uuid, isPrimaryKey := false }] 0 :=
    ⟨_, _, rfl, rfl, rfl, " id", List.mem_singleton_self _, [' '], " uuid".toList, by decide⟩
  have marked := (key.first 0 _ rfl).mpr ⟨generated, fun j below => absurd below (Nat.not_lt_zero j)⟩
  cases marked

end Schema
end ReferencePages
