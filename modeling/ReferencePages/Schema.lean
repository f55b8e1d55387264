import ReferencePages.Text.Lines
import ReferencePages.Text.Scan
/-!
Tables of a database schema. A schema file is read line by line: `Schema.step` says what a line
means in a state, the declarations of all lines are grouped into tables, and in each table the first
generated identifier is the primary key.
-/

namespace ReferencePages

/-- The simplified type of a column. Diagrams accept further types by their label. -/
inductive ColumnType
  | uuid | varchar | integer | boolean | timestamp | jsonb | text | bigint | enum | other
  | named (label : Text)
  deriving DecidableEq, Repr

namespace ColumnType

/-- The word by which diagrams show a type. -/
def label : ColumnType → Text
  | uuid => "uuid"
  | varchar => "varchar"
  | integer => "integer"
  | boolean => "boolean"
  | timestamp => "timestamp"
  | jsonb => "jsonb"
  | text => "text"
  | bigint => "bigint"
  | enum => "enum"
  | other => "other"
  | named l => l

/-- The type with a given label. -/
def ofLabel (l : Text) : ColumnType :=
  ([uuid, varchar, integer, boolean, timestamp, jsonb, text, bigint, enum, other].find?
    (·.label = l)).getD (named l)

/-- Whether a line has the two words of the variable-length text type, with or without blanks between
them. -/
def isCharacterVarying (line : Text) : Bool :=
  (Text.findRead? (fun s => (Text.after? "character" s).bind fun rest =>
    Text.after? "varying" (Text.trimStart rest)) line).isSome

/-- The types known by a keyword, in the order in which they are tried. -/
def keywordTests : List ((Text → Bool) × ColumnType) :=
  [(Text.contains "uuid", uuid), (isCharacterVarying, varchar), (Text.contains "integer", integer),
   (Text.contains "boolean", boolean), (Text.contains "timestamp", timestamp),
   (Text.contains "jsonb", jsonb), (Text.contains "text", text), (Text.contains "bigint", bigint)]

/-- The type of a column definition: the first keyword that the line contains decides, then a
reference to the schema makes it an enumeration. -/
def classify (line schemaName : Text) : ColumnType :=
  match keywordTests.find? fun (test, _) => test line with
  | some (_, type) => type
  | none => if Text.contains (schemaName ++ ".") line then enum else other

end ColumnType

/-- A column of a table declaration. -/
structure Column where
  name : Text
  type : ColumnType
  isPrimaryKey : Bool
  deriving DecidableEq, Repr

/-- A table declaration with its columns in declaration order. -/
structure Table where
  name : Text
  columns : List Column
  deriving DecidableEq, Repr

/-- The first column marked as primary key. -/
def Table.primaryKey? (table : Table) : Option Column := table.columns.find? (·.isPrimaryKey)

namespace Schema

/-- What tells the scanner about the schema: the name that qualifies its own types, and the calls that
generate identifiers. -/
structure Settings where
  name : Text
  keyGenerators : List Text
  deriving DecidableEq, Repr

/-- Whether the scanner is between declarations or in the body of a table. -/
inductive ScanState
  | scanning
  | inTableBody
  deriving DecidableEq, Repr

/-- A column line as it stands, before its table decides about the primary key. -/
structure ColumnLine where
  name : Text
  type : ColumnType
  hasKeyGenerator : Bool
  deriving DecidableEq, Repr

/-- What a line declares. -/
inductive Event
  | tableStart (name : Text)
  | column (line : ColumnLine)
  deriving DecidableEq, Repr

/-- The name of the table that a line begins to declare. Each optional part is read if what follows
still ends in a name, and is taken for the name itself otherwise. -/
def tableName? (line : Text) : Option Text := do
  let s ← Text.afterKeywords? ["CREATE", "TABLE"] line
  let starts := (Text.withOrWithout (Text.afterKeywords? ["IF", "NOT", "EXISTS"]) s).flatMap
    (Text.withOrWithout (Text.afterKeywords? ["ONLY"]))
  let (name, _) ← (starts.flatMap Text.qualifiedNames).head?
  return name

/-- Whether a line creates something other than a table. -/
def createsOther (line : Text) : Bool :=
  match Text.after? "CREATE" line with
  | none => false
  | some rest =>
    let s := Text.trimStart rest
    (["VIEW", "TYPE", "EXTENSION", "OR"] : List Text).any fun word =>
      match Text.after? word s with
      | some [] => true
      | some (c :: _) => !Text.isWordChar c
      | none => false

/-- The name at the start of a column line: small letters, digits and underscores, then a blank. -/
def columnName? (line : Text) : Option Text :=
  let isNameChar (c : Char) : Bool := c.isLower || c.isDigit || c == '_'
  match line.span isNameChar with
  | (c :: name, b :: _) => if !c.isDigit && Text.isBlank b then some (c :: name) else none
  | _ => none

/-- The meaning of one line: the state after it and what it declares. -/
def step (settings : Settings) (state : ScanState) (line : Text) : ScanState × Option Event :=
  let s := Text.trimStart line
  match tableName? s with
  | some name => (.inTableBody, some (.tableStart name))
  | none =>
    if createsOther s then (.scanning, none)
    else if state ≠ .inTableBody then (state, none)
    else if Text.startsWith ")" s then (.scanning, none)
    else if Text.isAllBlank s || Text.startsWith "CONSTRAINT" s then (state, none)
    else
      match columnName? s with
      | none => (state, none)
      | some name =>
        (state, some (.column
          { name, type := ColumnType.classify s settings.name,
            hasKeyGenerator := settings.keyGenerators.any (Text.contains · s) }))

/-- The states after each line with what the line declares. -/
def steps (settings : Settings) : ScanState → List Text → List (ScanState × Option Event)
  | _, [] => []
  | state, line :: ls =>
    let result := step settings state line
    result :: steps settings result.1 ls

/-- The columns before the first table, and each table with the columns that follow it. -/
def group : List Event → List ColumnLine × List (Text × List ColumnLine)
  | [] => ([], [])
  | .column c :: events =>
    let (columns, tables) := group events
    (c :: columns, tables)
  | .tableStart name :: events =>
    let (columns, tables) := group events
    ([], (name, columns) :: tables)

/-- Marks the first generated identifier as primary key, unless one has been found before. -/
def markKey : (found : Bool) → List ColumnLine → List Column
  | _, [] => []
  | found, c :: columns =>
    let isKey := !found && c.type = .uuid && c.hasKeyGenerator
    { name := c.name, type := c.type, isPrimaryKey := isKey } :: markKey (found || isKey) columns

/-- The tables that a schema text declares, in order. -/
def tables (settings : Settings) (text : Text) : List Table :=
  let events := (steps settings .scanning (Text.lines text)).filterMap (·.2)
  (group events).2.map fun (name, columns) => { name, columns := markKey false columns }

end Schema
end ReferencePages
