import ReferencePages.Schema
import ReferencePages.ForeignKey
import ReferencePages.Transition
import ReferencePages.Workspace.Crate
/-!
Diagrams in the text form that the documentation site draws: entities with their relations, states with
their transitions, and crates with their dependencies.
-/

namespace ReferencePages.Diagram

/-- The indentation of one level. -/
def indent : Text := "    "

/-- The name of a module as diagrams allow it: no hyphens. -/
def nodeId (name : Text) : Text := Text.replaceChar '-' "_" name

/-- The lines inside the fence that marks a diagram. -/
def fenced (ls : List Text) : Text := Text.unlines (("```mermaid" : Text) :: ls ++ [("```" : Text)])

/-- The mark after a column: a primary key, or by its name a foreign key. -/
def columnMarker (column : Column) : Text :=
  if column.isPrimaryKey then " PK"
  else if Text.endsWith "_uuid" column.name then " FK"
  else ""

/-- The lines of one entity. -/
def entityLines (table : Table) : List Text :=
  (indent ++ table.name ++ " \x7b") ::
    (table.columns.map fun c => indent ++ indent ++ c.type.label ++ " " ++ c.name ++ columnMarker c) ++
    [(indent ++ "\x7d" : Text)]

/-- The line of one relation, from the referenced table to the referencing one. -/
def relationLine (key : ForeignKey) : Text :=
  indent ++ key.targetTable ++ " ||--o\x7b " ++ key.sourceTable ++ " : \"" ++ key.sourceColumn ++ "\""

/-- The diagram of tables and of the keys that name both their tables. -/
def entities (tables : List Table) (keys : List ForeignKey) : Text :=
  fenced (("erDiagram" : Text) :: tables.flatMap entityLines ++ [[]] ++
    (keys.filter fun k => !k.sourceTable.isEmpty && !k.targetTable.isEmpty).map relationLine)

/-- The label of a transition. -/
def transitionLabel (t : Transition) : Text :=
  if t.guard.any (!·.isEmpty) then t.event ++ " [guard]" else t.event

/-- How a state machine is drawn: where it starts, where it ends, and the states that stand for all
that are not terminal. -/
structure StateStyle where
  initial : Text
  terminal : List Text
  key : List Text
  deriving DecidableEq, Repr

/-- One edge of a state diagram. -/
def edgeLine (source target label : Text) : Text :=
  indent ++ source ++ " --> " ++ target ++ " : " ++ label

/-- The lines of one transition. From any state that is not terminal there is an edge for each key
state, and from any state at all there is a note. -/
def transitionLines (style : StateStyle) (t : Transition) : List Text :=
  if !t.isWildcard then [edgeLine t.source t.target (transitionLabel t)]
  else if t.source = Transition.anyNonTerminal then
    style.key.map fun state => edgeLine state t.target (transitionLabel t)
  else [(indent ++ "note right of " ++ t.target ++ " : From any state via " ++ t.event : Text)]

/-- The diagram of a state machine. -/
def states (style : StateStyle) (transitions : List Transition) : Text :=
  fenced (("stateDiagram-v2" : Text) :: (indent ++ "[*] --> " ++ style.initial : Text) ::
    style.terminal.map (fun state => (indent ++ state ++ " --> [*]" : Text)) ++ [[]] ++
    transitions.flatMap (transitionLines style))

/-- The lines of one group of crates. -/
def subgraph (key title : Text) (crates : List Crate) : List Text :=
  (indent ++ "subgraph " ++ key ++ "[\"" ++ title ++ "\"]") ::
    (crates.map fun c => indent ++ indent ++ nodeId c.name ++ "[\"" ++ c.name ++ "\"]") ++
    [(indent ++ "end" : Text), []]

/-- The line that gives a group of crates its class; an empty group has none. -/
def classLine (crates : List Crate) (className : Text) : List Text :=
  if crates.isEmpty then []
  else [(indent ++ "class " ++ Text.joinWith "," (crates.map fun c => nodeId c.name) ++ " " ++
    className : Text)]

/-- The classes of crates with their colours. -/
def classDefinitions : List Text :=
  [indent ++ "classDef coreLib fill:#e1f5fe,stroke:#0288d1,stroke-width:2px",
   indent ++ "classDef service fill:#f3e5f5,stroke:#7b1fa2,stroke-width:2px",
   indent ++ "classDef worker fill:#e8f5e9,stroke:#388e3c,stroke-width:2px"]

/-- The diagram of crates in their groups; an edge goes from a crate to what it depends on. -/
def dependencies (core services workers : List Crate) (edges : List DependencyEdge) : Text :=
  fenced (("graph TD" : Text) :: subgraph "core" "Core Libraries" core ++
    subgraph "services" "Services" services ++
    (if workers.isEmpty then [] else subgraph "workers" "FFI Workers" workers) ++
    (edges.map fun e => indent ++ nodeId e.source ++ " --> " ++ nodeId e.target) ++ [[]] ++
    classDefinitions ++
    classLine core "coreLib" ++ classLine services "service" ++ classLine workers "worker")

end ReferencePages.Diagram
