import ReferencePages.Text.Lines
import ReferencePages.Text.Scan
/-!
Foreign keys of a constraints file. Each clause belongs to the table that was altered last at or
before its line, whether or not the two are one statement.
-/

namespace ReferencePages

/-- An edge from the referencing columns to the referenced ones. -/
structure ForeignKey where
  sourceTable : Text
  sourceColumn : Text
  targetTable : Text
  targetColumn : Text
  deriving DecidableEq, Repr

namespace ForeignKey

/-- What a scan knows after some lines: the table altered last, and the edges found. -/
structure Scan where
  currentTable : Option Text
  edges : List ForeignKey
  deriving DecidableEq, Repr

/-- A comment line. -/
def isComment (line : Text) : Bool := Text.startsWith "--" (Text.trimStart line)

/-- The column names of a list in parentheses, without quotes, joined by a comma and a space. -/
def columnList (raw : Text) : Text :=
  Text.joinWith ", " (((Text.splitOnChar ',' raw).filter fun part => !Text.isAllBlank part).map
    fun part => Text.trimWhile (· == '"') (Text.trim part))

/-- The table of the statement that begins here. -/
def readAlteredTable (s : Text) : Option Text := do
  let s ← Text.afterKeywords? ["ALTER", "TABLE"] s
  let starts := (Text.withOrWithout (Text.afterKeywords? ["ONLY"]) s).flatMap fun s =>
    (Text.withOrWithout (Text.afterKeywords? ["IF", "EXISTS"]) s).flatMap
      (Text.withOrWithout (Text.afterKeywords? ["ONLY"]))
  let (name, _) ← (starts.flatMap Text.qualifiedNames).head?
  return name

/-- The table named by the first alteration on a line. -/
def alteredTable? (line : Text) : Option Text := Text.findRead? readAlteredTable line

/-- The columns of the clause that begins here, and what follows it. -/
def readKeyColumns (s : Text) : Option (Text × Text) := do
  let rest ← Text.afterBlanks? (← Text.after? "FOREIGN" s)
  Text.parenthesized? (Text.trimStart (← Text.after? "KEY" rest))

/-- The table and the columns of the reference that begins here. -/
def readReference (s : Text) : Option (Text × Text) := do
  let s ← Text.afterKeywords? ["REFERENCES"] s
  (Text.qualifiedNames s).findSome? fun (table, rest) =>
    (Text.parenthesized? (Text.trimStart rest)).map fun (columns, _) => (table, columns)

/-- The first clause of a line with the first reference after it, for the table `source`. -/
def ofLine? (source line : Text) : Option ForeignKey := do
  let (columns, rest) ← Text.findRead? readKeyColumns line
  let (table, targets) ← Text.findRead? readReference rest
  return { sourceTable := source, sourceColumn := columnList columns,
           targetTable := table, targetColumn := columnList targets }

/-- What is known after one more line. A table without a name takes no clause. -/
def Scan.step (scan : Scan) (line : Text) : Scan :=
  if isComment line then scan
  else
    let current := (alteredTable? line).or scan.currentTable
    let edge? := current.bind fun table => if table.isEmpty then none else ofLine? table line
    { currentTable := current, edges := scan.edges ++ edge?.toList }

/-- The foreign keys of a constraints text, in order. -/
def extract (text : Text) : List ForeignKey :=
  ((Text.lines text).foldl Scan.step { currentTable := none, edges := [] }).edges

end ForeignKey
end ReferencePages
