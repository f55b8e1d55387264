import ReferencePages.Proofs.Schema.Block
import ReferencePages.Proofs.Text.Lines
/-!
A text of written declarations is read as these declarations. The scanner enters the body of a table with the
line that opens it and leaves it with the line that closes it, so that between two declarations it is where it
was before the first.
-/

namespace ReferencePages.Schema

variable {settings : Settings}

theorem assign_of_silent {state next : ScanState} {line : Text}
    (silent : step settings state line = (next, none)) (ls : List Text) :
    assign settings state (line :: ls) = assign settings next ls := by
  rw [assign, silent]

theorem assign_of_column {state next : ScanState} {line : Text} {column : ColumnLine}
    (declares : step settings state line = (next, some (.column column))) (ls : List Text) :
    assign settings state (line :: ls) =
      (line :: (assign settings next ls).1, (assign settings next ls).2) := by
  rw [assign, declares]

/-- Lines that create nothing are passed over between declarations. -/
theorem assign_gap {gap : List Text} (silent : ∀ line ∈ gap, ¬ ("CREATE".toList : Text) <+: Text.trimStart line)
    (ls : List Text) : assign settings .scanning (gap ++ ls) = assign settings .scanning ls := by
  induction gap with
  | nil => rfl
  | cons line gap ih =>
    have rest := ih fun other member => silent other (List.mem_cons_of_mem _ member)
    rw [List.cons_append, assign_of_silent (step_gap (silent line (List.mem_cons_self ..))), rest]

/-- The lines of a body that declare columns. -/
def columnLines (body : List (Text × BodyLine)) : List Text :=
  body.filterMap fun (margin, line) => line.column?.map fun _ => margin ++ line.text

variable {margin : Text} {line : BodyLine} {body : List (Text × BodyLine)}

theorem columnLines_of_silent (silent : line.column? = none) :
    columnLines ((margin, line) :: body) = columnLines body :=
  List.filterMap_cons_none (by simp [silent])

theorem columnLines_of_column {column : Text × Text} (declares : line.column? = some column) :
    columnLines ((margin, line) :: body) = (margin ++ line.text) :: columnLines body :=
  List.filterMap_cons_some (by simp [declares])

theorem assign_body {body : List (Text × BodyLine)}
    (wellFormed : ∀ line ∈ body, (∀ c ∈ line.1, Text.isBlank c = true) ∧ line.2.WellFormed)
    (ls : List Text) :
    assign settings .inTableBody (body.map (fun (margin, line) => margin ++ line.text) ++ ls) =
      (columnLines body ++ (assign settings .inTableBody ls).1, (assign settings .inTableBody ls).2) := by
  induction body with
  | nil => rfl
  | cons first body ih =>
    obtain ⟨margin, line⟩ := first
    have rest := ih fun other member => wellFormed other (List.mem_cons_of_mem _ member)
    obtain ⟨blank, lineWellFormed⟩ := wellFormed (margin, line) (List.mem_cons_self ..)
    have stepped := @step_body settings _ blank _ lineWellFormed
    cases declares : line.column? with
    | none =>
      rw [declares] at stepped
      rw [columnLines_of_silent declares, List.map_cons, List.cons_append, assign_of_silent stepped, rest]
    | some column =>
      rw [declares] at stepped
      rw [columnLines_of_column declares, List.map_cons, List.cons_append, assign_of_column stepped, rest]
      rfl

namespace Block

variable {b : Block} (wellFormed : b.WellFormed)

include wellFormed in
theorem step_header (state : ScanState) :
    step settings state (b.margin ++ b.header) = (.inTableBody, some (.tableStart b.name)) := by
  have trimmed : Text.trimStart (b.margin ++ b.header) = b.header :=
    Text.trimStart_margin wellFormed.margin _ (c := 'C') rfl
  rw [step, trimmed, tableName?_header wellFormed]

include wellFormed in
/-- A declaration is read as a table with the columns that its body declares. -/
theorem assign_lines (ls : List Text) :
    assign settings .scanning (b.lines ++ ls) =
      ([], (b.name, columnLines b.body ++ (assign settings .scanning ls).1) ::
        (assign settings .scanning ls).2) := by
  have closes : (")".toList : Text) <+: Text.trimStart (b.margin ++ ")" ++ b.closing) := by
    have trimmed : Text.trimStart (b.margin ++ ')' :: b.closing) = ')' :: b.closing :=
      Text.trimStart_margin wellFormed.margin _ rfl
    rw [List.append_assoc]
    exact ⟨b.closing, trimmed.symm⟩
  rw [lines, List.append_assoc, List.cons_append, assign, step_header wellFormed]
  dsimp only
  rw [assign_body wellFormed.body, List.singleton_append, assign_of_silent (step_closing closes)]

end Block

/-- A text in which lines that create nothing stand before every declaration and after the last. -/
def writtenLines (blocks : List (List Text × Block)) (rest : List Text) : List Text :=
  blocks.flatMap (fun (gap, block) => gap ++ block.lines) ++ rest

theorem assign_written {blocks : List (List Text × Block)} {rest : List Text}
    (wellFormed : ∀ block ∈ blocks, block.2.WellFormed)
    (gaps : ∀ block ∈ blocks, ∀ line ∈ block.1, ¬ ("CREATE".toList : Text) <+: Text.trimStart line)
    (after : ∀ line ∈ rest, ¬ ("CREATE".toList : Text) <+: Text.trimStart line) :
    assign settings .scanning (writtenLines blocks rest) =
      ([], blocks.map fun (_, block) => (block.name, columnLines block.body)) := by
  induction blocks with
  | nil =>
    have passed := @assign_gap settings _ after []
    rwa [List.append_nil] at passed
  | cons first blocks ih =>
    obtain ⟨gap, block⟩ := first
    have later := ih (fun other member => wellFormed other (List.mem_cons_of_mem _ member))
      (fun other member => gaps other (List.mem_cons_of_mem _ member))
    have here := wellFormed (gap, block) (List.mem_cons_self ..)
    rw [writtenLines] at later ⊢
    rw [List.flatMap_cons, List.append_assoc, List.append_assoc,
      assign_gap (gaps (gap, block) (List.mem_cons_self ..)), Block.assign_lines here, later,
      List.append_nil, List.map_cons]

theorem markKey_map (found : Bool) (columns : List ColumnLine) :
    (markKey found columns).map (fun c => (c.name, c.type)) = columns.map fun c => (c.name, c.type) := by
  induction columns generalizing found with
  | nil => rfl
  | cons c columns ih => rw [markKey, List.map_cons, ih, List.map_cons]

/-- A column has the name of its line and the type that is read from the line without its margin. -/
theorem columnOf_column {margin : Text} (blank : ∀ c ∈ margin, Text.isBlank c = true) {line : BodyLine}
    (wellFormed : line.WellFormed) {name text : Text} (declares : line.column? = some (name, text)) :
    (columnOf settings (margin ++ line.text)).name = name ∧
      (columnOf settings (margin ++ line.text)).type = ColumnType.classify text settings.name := by
  cases line with
  | column columnName c definition =>
    cases declares
    obtain ⟨small, isBlank⟩ := wellFormed
    have trimmed := trimStart_column blank small (c := c) definition
    rw [columnOf, BodyLine.text_column, trimmed, columnName?_append small isBlank]
    exact ⟨rfl, rfl⟩
  | empty => cases declares
  | comment remark => cases declares
  | constraint clause => cases declares

theorem columnOf_columnLines {body : List (Text × BodyLine)}
    (wellFormed : ∀ line ∈ body, (∀ c ∈ line.1, Text.isBlank c = true) ∧ line.2.WellFormed) :
    (columnLines body).map (fun line => ((columnOf settings line).name, (columnOf settings line).type)) =
      (body.filterMap (·.2.column?)).map fun (name, line) => (name, ColumnType.classify line settings.name) := by
  induction body with
  | nil => rfl
  | cons first body ih =>
    obtain ⟨margin, line⟩ := first
    have rest := ih fun other member => wellFormed other (List.mem_cons_of_mem _ member)
    obtain ⟨blank, lineWellFormed⟩ := wellFormed (margin, line) (List.mem_cons_self ..)
    cases declares : line.column? with
    | none =>
      rw [columnLines_of_silent declares, rest, List.filterMap_cons]
      dsimp only
      rw [declares]
    | some column =>
      obtain ⟨name, type⟩ := @columnOf_column settings _ blank _ lineWellFormed _ _ declares
      rw [columnLines_of_column declares, List.map_cons, rest, List.filterMap_cons]
      dsimp only at name type ⊢
      rw [declares, name, type]
      rfl

/-- A text of declarations, with lines between them that create nothing, is read as exactly these tables in
their order, each with exactly the columns that its body declares, in their order and with the types that
their lines give them. -/
theorem tables_written (settings : Settings) (text : Text) (blocks : List (List Text × Block))
    (rest : List Text) (written : Text.lines text = writtenLines blocks rest)
    (wellFormed : ∀ block ∈ blocks, block.2.WellFormed)
    (gaps : ∀ block ∈ blocks, ∀ line ∈ block.1, ¬ ("CREATE".toList : Text) <+: Text.trimStart line)
    (after : ∀ line ∈ rest, ¬ ("CREATE".toList : Text) <+: Text.trimStart line) :
    (tables settings text).map (fun table => (table.name, table.columns.map fun c => (c.name, c.type))) =
      blocks.map fun (_, block) =>
        (block.name, block.columns.map fun (name, line) => (name, ColumnType.classify line settings.name)) := by
  have declared : declarations settings text =
      blocks.map fun (_, block) => (block.name, columnLines block.body) := by
    rw [declarations, written, assign_written wellFormed gaps after]
  rw [tables_eq, declared, List.map_map, List.map_map]
  refine List.map_congr_left fun block member => ?_
  have columns := @columnOf_columnLines settings _ (wellFormed block member).body
  simp only [Function.comp_apply, markKey_map, List.map_map, Block.columns]
  rw [← columns]
  rfl

def tasksBlock : Block where
  margin := []
  ifNotExists := true
  qualifier := some "tasker"
  name := "tasks"
  body := [("  ", .column "id" ' ' "uuid,"), ("  ", .comment " How far it is."),
    ("  ", .column "state" ' ' "tasker.state,"), ([], .empty), ("  ", .constraint " pk (id)")]
  closing := ";"

def stepsBlock : Block where
  margin := []
  ifNotExists := false
  qualifier := none
  name := "steps"
  body := [("  ", .column "n" ' ' "bigint")]
  closing := " y;"

/-- Two tables with every kind of line. -/
def twoTables : List Text :=
  writtenLines [(["-- Tasks."], tasksBlock), (["SET x;"], stepsBlock)] [[], "GRANT z;"]

theorem tables_written_two :
    (tables { name := "tasker", keyGenerators := [] } (twoTables.flatMap (· ++ ['\n']))).map
        (fun table => (table.name, table.columns.map fun c => (c.name, c.type))) =
      ([("tasks", [("id", .uuid), ("state", .enum)]), ("steps", [("n", .bigint)])] :
        List (Text × List (Text × ColumnType))) := by
  have tasks : tasksBlock.WellFormed :=
    { name := by decide, qualifier := by decide, margin := nofun, body := by decide }
  have steps : stepsBlock.WellFormed :=
    { name := by decide, qualifier := nofun, margin := nofun, body := by decide }
  have read := tables_written { name := "tasker", keyGenerators := [] } _ _ _
    (@Text.lines_terminated twoTables (by decide))
    (List.forall_mem_cons.mpr ⟨tasks, List.forall_mem_singleton.mpr steps⟩) (by decide) (by decide)
  exact read.trans (by decide +kernel)

end ReferencePages.Schema
