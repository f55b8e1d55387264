import ReferencePages.Dictionary
import ReferencePages.Schema
import ReferencePages.ForeignKey
import ReferencePages.ErrorEnum
import ReferencePages.ConfigStruct
import ReferencePages.Transition
import ReferencePages.DecisionRecord
import ReferencePages.Workspace.Crate
/-!
Reference tables in Markdown, one for each kind of thing that is extracted. Text that comes from
outside is escaped so that it stays in its cell.
-/

namespace ReferencePages.MarkdownTable

/-- The text in one cell: line endings become spaces and bars become dashes. -/
def escapeCell (value : Text) : Text :=
  value.map fun c => if c = '\r' || c = '\n' then ' ' else if c = '|' then '—' else c

/-- The text as code. -/
def code (value : Text) : Text := "`" ++ value ++ "`"

/-- What stands for an empty list. -/
def noneMarker : Text := "*(none)*"

/-- What stands for a value that is absent. -/
def dash : Text := "—"

/-- One row of cells. -/
def row (cells : List Text) : Text := "| " ++ Text.joinWith " | " cells ++ " |"

/-- The line between the headers and the rows. -/
def ruler (headers : List Text) : Text :=
  "|" ++ Text.joinWith "|" (headers.map fun h => List.replicate (h.length + 2) '-') ++ "|"

/-- A table with one line of headers. -/
def render (headers : List Text) (rows : List (List Text)) : Text :=
  Text.unlines (row headers :: ruler headers :: rows.map row)

/-- Tables of a schema, with a column of descriptions if there are any. -/
def schema (tables : List Table) (descriptions : Dictionary Text) : Text :=
  let described := !descriptions.isEmpty
  let headers : List Text := ["Table", "Columns", "Primary Key"]
  render (if described then headers ++ [("Description" : Text)] else headers)
    (tables.map fun t =>
      let cells : List Text :=
        [code t.name, Text.ofNat t.columns.length,
         match t.primaryKey? with
         | some c => code c.name
         | none => dash]
      if described then cells ++ [escapeCell ((descriptions.get? t.name).getD [])] else cells)

/-- Foreign keys. -/
def foreignKeys (keys : List ForeignKey) : Text :=
  render ["Source Table", "Column", "Target Table", "Target Column"]
    (keys.map fun k =>
      [code k.sourceTable, code k.sourceColumn, code k.targetTable, code k.targetColumn])

/-- The source of a transition in words. -/
def displaySource (state : Text) : Text :=
  if state = Transition.anyNonTerminal then "*(any non-terminal)*"
  else if state = Transition.anyState then "*(any state)*"
  else state

/-- Transitions of a state machine. -/
def transitions (ts : List Transition) : Text :=
  render ["From State", "Event", "To State", "Notes"]
    (ts.map fun t =>
      [displaySource t.source, t.event, t.target,
       match t.guard with
       | none => []
       | some guard => if guard.isEmpty then [] else "Guard: " ++ code (escapeCell guard)])

/-- Variants of an enumeration. -/
def variants (vs : List Variant) : Text :=
  render ["Variant", "Error Message"] (vs.map fun v => [code v.name, escapeCell v.message])

/-- Configuration structures. -/
def structs (ss : List ConfigStruct) : Text :=
  render ["Struct", "Summary", "Parameters"]
    (ss.map fun s =>
      ["**" ++ s.name ++ "**", escapeCell s.sentence,
       if s.fieldCount = 0 then dash else Text.ofNat s.fieldCount])

/-- Crates with their dependencies. -/
def crates (cs : List Crate) : Text :=
  render ["Crate", "Category", "Dependencies"]
    (cs.map fun c =>
      [code c.name, c.category.title,
       match Text.joinWith ", " (c.pathDependencies.map code) with
       | [] => noneMarker
       | dependencies => dependencies])

/-- Decision records, each with a link to its page. -/
def decisionRecords (records : List DecisionRecord) (linkStart : Text) : Text :=
  render ["#", "Title", "Status", "Summary"]
    (records.map fun r =>
      [r.number, "[" ++ escapeCell r.title ++ "](" ++ linkStart ++ r.stem ++ ".md)", r.status,
       escapeCell r.summary])

end ReferencePages.MarkdownTable
