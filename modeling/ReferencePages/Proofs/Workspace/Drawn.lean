import ReferencePages.Proofs.Workspace.Edges
import ReferencePages.Proofs.Diagram.Dependencies
import ReferencePages.Recipe.Crates
import Mathlib.Data.List.Nodup
/-!
The diagram of a workspace. The members of a graph that is read are in one of three categories, and its edges lead
from members to members, so that the diagram has every member in one subgraph and in one class, and no arrow without
the nodes at its ends.
-/

namespace ReferencePages.WorkspaceGraph

open Diagram (Drawing Group Subgraph groups nodeId nodeLine arrowOf drawing readDependencies? dependencies)

variable {s t : Session} {root : Path} {settings : CrateSettings} {graph : WorkspaceGraph}

/-! ### Categories -/

theorem exists_group_classify (settings : CrateSettings) (memberPath crateName : Text) :
    ∃ group ∈ groups, Category.classify settings memberPath crateName = group.category := by
  unfold Category.classify
  dsimp only
  split
  · exact ⟨.workers, by simp [groups], rfl⟩
  · split
    · exact ⟨.core, by simp [groups], rfl⟩
    · exact ⟨.services, by simp [groups], rfl⟩

theorem eq_of_category {group other : Group} (known : group ∈ groups) (known' : other ∈ groups)
    (same : group.category = other.category) : group = other := by
  have apart : (groups.map (·.category)).Nodup := by decide
  exact List.inj_on_of_nodup_map apart known known' same

/-- Every crate is in the category of some group. -/
def IsGrouped (crates : List Crate) : Prop := ∀ crate ∈ crates, ∃ group ∈ groups, crate.category = group.category

theorem mem_ofCategory {crate : Crate} {category : Category} :
    crate ∈ graph.ofCategory category ↔ crate ∈ graph.crates ∧ crate.category = category := by
  simp [ofCategory]

/-- Groups of crates have the crates between them, each as often as it is there. -/
theorem perm_flatMap_groups {crates : List Crate} (grouped : IsGrouped crates) :
    (groups.flatMap fun group => crates.filter (·.category = group.category)).Perm crates := by
  induction crates with
  | nil => exact .nil
  | cons crate crates ih =>
    obtain ⟨⟨group, known, category⟩, later⟩ := List.forall_mem_cons.mp grouped
    have rest := ih later
    have split (crates : List Crate) : (groups.flatMap fun group => crates.filter (·.category = group.category)) =
        crates.filter (·.category = .core) ++
          (crates.filter (·.category = .service) ++ crates.filter (·.category = .worker)) := by
      simp only [groups, List.flatMap_cons, List.flatMap_nil, List.append_nil]
      rfl
    rw [split] at rest ⊢
    simp only [groups, List.mem_cons, List.not_mem_nil, or_false] at known
    -- The crate comes first in its own group, behind the groups before that.
    rcases known with rfl | rfl | rfl
    · have core : crate.category = .core := category
      simp only [List.filter_cons, core]
      exact rest.cons crate
    · have service : crate.category = .service := category
      simp only [List.filter_cons, service]
      exact List.perm_middle.trans (rest.cons crate)
    · have worker : crate.category = .worker := category
      simp only [List.filter_cons, worker]
      rw [← List.append_assoc] at rest ⊢
      exact List.perm_middle.trans (rest.cons crate)

/-- A graph that is read has crates in the categories of the groups, and edges between crates. -/
theorem read_grouped (run : (read settings root).outcome s = (.ok graph, t)) :
    IsGrouped graph.crates ∧ ∀ edge ∈ graph.edges,
      ∃ source ∈ graph.crates, ∃ target ∈ graph.crates, edge = { source := source.name, target := target.name } := by
  obtain ⟨_, _, expansions, manifests, _, _, _, _, crates, edges⟩ := read_eq_ok run
  constructor
  · intro crate member
    obtain ⟨i, there⟩ := List.mem_iff_getElem?.mp member
    rw [crates] at there
    obtain ⟨path, manifest?, _, _, rfl⟩ := getElem?_cratesOf.mp there
    exact exists_group_classify settings path _
  · intro edge member
    rw [edges, edgesOf_eq_flatMap] at member
    obtain ⟨source, within, leads⟩ := List.mem_flatMap.mp member
    obtain ⟨named, _, known⟩ := mem_edgesTo.mp leads
    obtain ⟨target, inside, name⟩ := List.mem_map.mp known
    refine ⟨source, within, target, inside, ?_⟩
    rw [named, name]

/-! ### Drawings -/

/-- The diagram on the page of a graph. -/
def diagram (graph : WorkspaceGraph) : Text :=
  dependencies (graph.ofCategory .core) (graph.ofCategory .service) (graph.ofCategory .worker) graph.edges

/-- A drawing has a crate as a node in one of its subgraphs. -/
def Declares (d : Drawing) (crate : Crate) : Prop := ∃ subgraph ∈ d.subgraphs, nodeLine crate ∈ subgraph.nodes

/-- What a drawing shows of a graph. -/
structure Shows (graph : WorkspaceGraph) (d : Drawing) : Prop where
  /-- Every crate is in the category of one group and of no other. -/
  partition : ∀ crate ∈ graph.crates, ∃! group, group ∈ groups ∧ crate ∈ graph.ofCategory group.category
  /-- A subgraph declares the crates of its group in their order. Workers have one if there are some. -/
  subgraphs : d.subgraphs =
    (groups.filter fun group => group.category ≠ .worker || !(graph.ofCategory group.category).isEmpty).map fun group =>
      { opening := group.opening, nodes := (graph.ofCategory group.category).map nodeLine }
  /-- All subgraphs together declare every crate as often as it is there. -/
  once : (d.subgraphs.flatMap (·.nodes)).Perm (graph.crates.map nodeLine)
  /-- The groups with crates, and they only, have a class for their crates. -/
  classes : d.classes =
    (groups.filter fun group => !(graph.ofCategory group.category).isEmpty).map (·.classLine graph.ofCategory)
  arrows : d.arrows = graph.edges.map fun edge => (nodeId edge.source, nodeId edge.target)
  ends : ∀ arrow ∈ d.arrows, ∃ source ∈ graph.crates, ∃ target ∈ graph.crates,
    arrow = (nodeId source.name, nodeId target.name) ∧ Declares d source ∧ Declares d target

theorem declares_drawing (grouped : IsGrouped graph.crates) {crate : Crate} (member : crate ∈ graph.crates) :
    Declares (drawing graph.ofCategory graph.edges) crate := by
  obtain ⟨group, known, category⟩ := grouped crate member
  have inside : crate ∈ graph.ofCategory group.category := mem_ofCategory.mpr ⟨member, category⟩
  have crated : group.hasCrates graph.ofCategory = true := by
    rw [Group.hasCrates, Bool.not_eq_true', List.isEmpty_eq_false_iff]
    exact List.ne_nil_of_mem inside
  have shown : group ∈ groups.filter (·.isShown graph.ofCategory) :=
    List.mem_filter.mpr ⟨known, by rw [Group.isShown, crated, Bool.or_true]⟩
  exact ⟨_, List.mem_map_of_mem shown, List.mem_map_of_mem inside⟩

theorem perm_nodes_drawing (grouped : IsGrouped graph.crates) :
    ((drawing graph.ofCategory graph.edges).subgraphs.flatMap (·.nodes)).Perm (graph.crates.map nodeLine) := by
  have hidden (group : Group) (absent : ¬ group.isShown graph.ofCategory = true) :
      graph.ofCategory group.category = [] := by
    simp only [Group.isShown, Group.hasCrates, Bool.or_eq_true, not_or, Bool.not_eq_true', Bool.not_eq_false] at absent
    exact List.isEmpty_iff.mp absent.2
  have all (known : List Group) : ((known.filter (·.isShown graph.ofCategory)).map
        (·.subgraph graph.ofCategory)).flatMap (·.nodes) =
      (known.flatMap fun group => graph.ofCategory group.category).map nodeLine := by
    induction known with
    | nil => rfl
    | cons group known ih =>
      rw [List.flatMap_cons, List.map_append, ← ih]
      by_cases shown : group.isShown graph.ofCategory = true
      · rw [List.filter_cons_of_pos shown]
        rfl
      · rw [List.filter_cons_of_neg shown, hidden group shown]
        rfl
  rw [drawing, all]
  exact (perm_flatMap_groups grouped).map nodeLine

theorem shows_drawing (grouped : IsGrouped graph.crates) (between : ∀ edge ∈ graph.edges,
      ∃ source ∈ graph.crates, ∃ target ∈ graph.crates, edge = { source := source.name, target := target.name }) :
    Shows graph (drawing graph.ofCategory graph.edges) where
  partition crate member := by
    obtain ⟨group, known, category⟩ := grouped crate member
    refine ⟨group, ⟨known, mem_ofCategory.mpr ⟨member, category⟩⟩, ?_⟩
    rintro other ⟨known', inside⟩
    exact eq_of_category known' known ((mem_ofCategory.mp inside).2.symm.trans category)
  subgraphs := rfl
  once := perm_nodes_drawing grouped
  classes := rfl
  arrows := rfl
  ends arrow member := by
    obtain ⟨edge, within, rfl⟩ := List.mem_map.mp member
    obtain ⟨source, first, target, second, rfl⟩ := between edge within
    exact ⟨source, first, target, second, rfl, declares_drawing grouped first, declares_drawing grouped second⟩

/-- The diagram of a graph that is read, if no name of a crate goes over a line, is read again as a drawing that
shows the graph. The page of the workspace has it unless there are no crates. -/
theorem read_drawn (run : (read settings root).outcome s = (.ok graph, t))
    (single : ∀ crate ∈ graph.crates, '\n' ∉ crate.name) :
    ∃ d, readDependencies? graph.diagram = some d ∧ Shows graph d ∧
      (graph.crates ≠ [] → graph.diagram ∈ Recipe.crateBlocks graph) := by
  obtain ⟨grouped, between⟩ := read_grouped run
  refine ⟨drawing graph.ofCategory graph.edges, ?_, shows_drawing grouped between, fun filled => ?_⟩
  · refine Diagram.readDependencies?_dependencies (fun group _ crate member => ?_) fun edge member => ?_
    · exact single crate (mem_ofCategory.mp member).1
    · obtain ⟨source, first, target, second, rfl⟩ := between edge member
      exact ⟨single source first, single target second⟩
  · rw [Recipe.crateBlocks, if_neg (mt List.isEmpty_iff.mp filled)]
    exact List.mem_cons_self ..

/-- Settings under which a workspace has crates in all groups. -/
def forwardCrates : CrateSettings := { coreMembers := ["core"], workerStarts := ["workers/"] }

theorem read_drawn_forward : ∃ graph t d,
    (read forwardCrates (Path.ofText "/")).outcome forwardSession = (.ok graph, t) ∧
      (∀ crate ∈ graph.crates, '\n' ∉ crate.name) ∧ graph.diagram ∈ Recipe.crateBlocks graph ∧
      readDependencies? graph.diagram = some d ∧ Shows graph d ∧
      d.arrows = [("core".toList, "last".toList), ("rust".toList, "core".toList)] ∧
      d.classes = ["    class core coreLib", "    class unknown_1,last service", "    class rust worker"] := by
  have drawn : ((read forwardCrates (Path.ofText "/")).outcome forwardSession).1.toOption.map
      (fun graph => (graph.crates.map (·.name), (drawing graph.ofCategory graph.edges).arrows,
        (drawing graph.ofCategory graph.edges).classes)) =
        some ((["core", "unknown-1", "rust", "last"] : List Text),
          [("core".toList, "last".toList), ("rust".toList, "core".toList)],
          (["    class core coreLib", "    class unknown_1,last service", "    class rust worker"] : List Text)) := by
    decide +kernel
  obtain ⟨graph, result, known⟩ := Program.exists_ok_of_toOption drawn
  obtain ⟨names, shown⟩ := Prod.mk.inj known
  obtain ⟨arrows, classes⟩ := Prod.mk.inj shown
  obtain ⟨t, run⟩ := Program.exists_of_outcome_ok result
  have single : ∀ crate ∈ graph.crates, '\n' ∉ crate.name := by
    have each : ∀ name ∈ graph.crates.map (·.name), '\n' ∉ name := by
      rw [names]
      decide
    exact fun crate member => each _ (List.mem_map_of_mem member)
  have some : graph.crates ≠ [] := by
    intro empty
    rw [empty] at names
    cases names
  obtain ⟨d, read, shows, page⟩ := read_drawn run single
  exact ⟨graph, t, d, run, single, page some, read, shows, shows.arrows.trans arrows,
    shows.classes.trans classes⟩

end ReferencePages.WorkspaceGraph
