import ReferencePages.Recipe.Draft
import ReferencePages.Workspace.Graph
import ReferencePages.Diagram
import ReferencePages.MarkdownTable
/-!
The page of the source workspace: its members in their groups, and the edges between them.
-/

namespace ReferencePages.Recipe

/-- The blocks of the page for a graph. -/
def crateBlocks (graph : WorkspaceGraph) : List Text :=
  if graph.crates.isEmpty then ["No workspace members found in `Cargo.toml`."]
  else
    [Diagram.dependencies (graph.ofCategory .core) (graph.ofCategory .service)
      (graph.ofCategory .worker) graph.edges,
     "## Workspace Crates", MarkdownTable.crates graph.crates]

/-- What the page says about the workspace at its beginning. -/
def cratesIntro (config : Config) : Text :=
  "This diagram shows the inter-crate dependency structure of the " ++ sourceLabel config ++
    " workspace.\nArrows point from dependent to dependency (A → B means \"A depends on B\")."

/-- The page of the source workspace. -/
def crates (config : Config) : Recipe where
  files := [("manifest", WorkspaceGraph.manifestName)]
  directories := []
  compose sources := do
    let graph ← WorkspaceGraph.read config.crates sources.root
    Program.log .info PageKind.crates.logger
      ("  Found " ++ Text.ofNat graph.crates.length ++ " crates and " ++
        Text.ofNat graph.edges.length ++ " internal edges")
    let page := PageKind.crates.page (sourceLabel config ++ " workspace analysis")
      (cratesIntro config) (crateBlocks graph) none
    return plain page graph.crates.length

end ReferencePages.Recipe
