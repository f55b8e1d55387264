import ReferencePages.Schema
/-!
Which lines of a schema declare which table. The scanner turns lines into declarations one at a time; here
every table is put beside the lines of its columns, so that what is said of a table can be said of the lines
it comes from.
-/

namespace ReferencePages.Schema

variable (settings : Settings)

/-- What a line declares as a column, blanks at its start left out. -/
def columnOf (line : Text) : ColumnLine :=
  let s := Text.trimStart line
  { name := (columnName? s).getD [], type := ColumnType.classify s settings.name,
    hasKeyGenerator := settings.keyGenerators.any (Text.contains · s) }

/-- A line begins a table, or declares a column in the body of one, or declares nothing. -/
theorem step_cases (state : ScanState) (line : Text) :
    (∃ name, step settings state line = (.inTableBody, some (.tableStart name))) ∨
      (step settings state line = (.inTableBody, some (.column (columnOf settings line))) ∧
        columnName? (Text.trimStart line) = some (columnOf settings line).name) ∨
      ∃ next, step settings state line = (next, none) := by
  unfold step
  dsimp only
  split
  · rename_i name _
    exact .inl ⟨name, rfl⟩
  · split
    · exact .inr (.inr ⟨_, rfl⟩)
    · split
      · exact .inr (.inr ⟨_, rfl⟩)
      · rename_i body
        split
        · exact .inr (.inr ⟨_, rfl⟩)
        · split
          · exact .inr (.inr ⟨_, rfl⟩)
          · split
            · exact .inr (.inr ⟨_, rfl⟩)
            · rename_i name named
              have declared : columnOf settings line =
                  { name, type := ColumnType.classify (Text.trimStart line) settings.name,
                    hasKeyGenerator :=
                      settings.keyGenerators.any (Text.contains · (Text.trimStart line)) } := by
                rw [columnOf, named]
                rfl
              refine .inr (.inl ⟨?_, ?_⟩)
              · rw [declared, Decidable.not_not.mp body]
              · rw [declared, named]

/-- The column lines before the first table, and each table with the lines that declare its columns. -/
def assign : ScanState → List Text → List Text × List (Text × List Text)
  | _, [] => ([], [])
  | state, line :: ls =>
    let (next, event) := step settings state line
    let (columns, tables) := assign next ls
    match event with
    | none => (columns, tables)
    | some (.column _) => (line :: columns, tables)
    | some (.tableStart name) => ([], (name, columns) :: tables)

/-- The tables of a schema text, each with the lines that declare its columns. -/
def declarations (text : Text) : List (Text × List Text) :=
  (assign settings .scanning (Text.lines text)).2

/-- Grouping what the lines declare comes to the same as grouping the lines. -/
theorem group_steps (state : ScanState) (ls : List Text) :
    group ((steps settings state ls).filterMap (·.2)) =
      ((assign settings state ls).1.map (columnOf settings),
        (assign settings state ls).2.map fun (name, columns) =>
          (name, columns.map (columnOf settings))) := by
  induction ls generalizing state with
  | nil => rfl
  | cons line ls ih =>
    rw [steps, assign]
    rcases step_cases settings state line with ⟨name, stepped⟩ | ⟨stepped, _⟩ | ⟨next, stepped⟩
    · rw [stepped]
      simp only [List.filterMap_cons, group, ih]
      rfl
    · rw [stepped]
      simp only [List.filterMap_cons, group, ih]
      rfl
    · rw [stepped]
      simp only [List.filterMap_cons, ih]

/-- A table has its columns from its own lines alone. -/
theorem tables_eq (text : Text) :
    tables settings text = (declarations settings text).map fun (name, columns) =>
      { name, columns := markKey false (columns.map (columnOf settings)) } := by
  rw [tables, group_steps, declarations, List.map_map]
  rfl

/-- Every line that a column is declared by has a name for it. -/
theorem columnName?_of_assign {state : ScanState} {ls : List Text} :
    (∀ line ∈ (assign settings state ls).1,
        columnName? (Text.trimStart line) = some (columnOf settings line).name) ∧
      ∀ table ∈ (assign settings state ls).2, ∀ line ∈ table.2,
        columnName? (Text.trimStart line) = some (columnOf settings line).name := by
  induction ls generalizing state with
  | nil => exact ⟨nofun, nofun⟩
  | cons line ls ih =>
    rw [assign]
    rcases step_cases settings state line with ⟨name, stepped⟩ | ⟨stepped, named⟩ | ⟨next, stepped⟩
    · obtain ⟨columns, tables⟩ := @ih .inTableBody
      rw [stepped]
      refine ⟨nofun, ?_⟩
      intro table member
      rcases List.mem_cons.mp member with rfl | later
      · exact columns
      · exact tables table later
    · obtain ⟨columns, tables⟩ := @ih .inTableBody
      rw [stepped]
      refine ⟨?_, tables⟩
      intro other member
      rcases List.mem_cons.mp member with rfl | later
      · exact named
      · exact columns other later
    · rw [stepped]
      exact ih

end ReferencePages.Schema
