import ReferencePages.Recipe.Draft
import ReferencePages.Diagram
import ReferencePages.MarkdownTable
/-!
The page of the database schema: a diagram of the tables, the tables themselves, and their foreign keys.
-/

namespace ReferencePages.Recipe

/-- The blocks of the page for tables and keys. A schema without tables has one line that says where
they were looked for. -/
def schemaBlocks (config : Config) (tables : List Table) (keys : List ForeignKey)
    (tablesFile : Path) : List Text :=
  if tables.isEmpty then [("No tables found in `" ++ relativeSource config tablesFile ++ "`." : Text)]
  else
    ["## Entity Relationship Diagram", Diagram.entities tables keys, "## Tables",
     MarkdownTable.schema tables config.schema.tableDescriptions, "## Foreign Key Relationships",
     if keys.isEmpty then "No foreign keys found." else MarkdownTable.foreignKeys keys]

/-- What the page says about the schema at its beginning. -/
def schemaIntro (config : Config) : Text :=
  "The " ++ config.projectName ++ " database uses PostgreSQL with the `" ++
    config.schema.scan.name ++ "` schema. Primary keys are UUID columns populated by a " ++
    "time-ordered generator."

/-- The page of the database schema. -/
def schema (config : Config) : Recipe where
  files := [("tables", config.schema.tablesFile), ("constraints", config.schema.constraintsFile)]
  directories := []
  compose sources := do
    let tablesFile := sources.file "tables"
    let tables := Schema.tables config.schema.scan (← Program.readSource tablesFile)
    let keys := ForeignKey.extract (← Program.readSource (sources.file "constraints"))
    Program.log .info PageKind.schema.logger
      ("  Found " ++ Text.ofNat tables.length ++ " tables and " ++ Text.ofNat keys.length ++
        " foreign keys")
    let page := PageKind.schema.page (sourceLabel config ++ " SQL migration analysis")
      (schemaIntro config) (schemaBlocks config tables keys tablesFile) none
    return plain page tables.length

end ReferencePages.Recipe
