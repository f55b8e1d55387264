import ReferencePages.Proofs.Diagram.Parts
import ReferencePages.Proofs.Page.Diagram
import ReferencePages.Proofs.Text.Infix
/-!
Diagrams of dependencies. They are read again part by part: a subgraph for each group of crates, the arrows, and the
classes of the crates. What is read is what they have been drawn of.
-/

namespace ReferencePages

theorem Text.mem_replaceChar {old c : Char} {new s : Text} (member : c ∈ replaceChar old new s) :
    c ∈ new ∨ c ∈ s ∧ c ≠ old := by
  obtain ⟨d, inside, kept⟩ := List.mem_flatMap.mp member
  by_cases replaced : d = old
  · rw [if_pos replaced] at kept
    exact .inl kept
  · rw [if_neg replaced] at kept
    obtain rfl := List.mem_singleton.mp kept
    exact .inr ⟨inside, replaced⟩

namespace Diagram

/-! ### Reading -/

/-- The opening line of a subgraph and the lines of its nodes. -/
structure Subgraph where
  opening : Text
  nodes : List Text
  deriving DecidableEq, Repr

/-- What a diagram of dependencies shows. An arrow leads from one name of a node to another. -/
structure Drawing where
  subgraphs : List Subgraph
  arrows : List (Text × Text)
  classes : List Text
  deriving DecidableEq, Repr

def ending : Text := indent ++ "end"

def readSubgraph? : List Text → Option Subgraph
  | opening :: ls => if ls.getLast? = some ending then some { opening, nodes := ls.dropLast } else none
  | [] => none

/-- What stands behind the definitions of the classes. -/
def readClasses? (ls : List Text) : Option (List Text) :=
  if classDefinitions <+: ls then some (ls.drop classDefinitions.length) else none

/-- Reads a diagram of dependencies again: its last parts are the arrows and the classes. -/
def readDependencies? (diagram : Text) : Option Drawing :=
  (parts? "graph TD" diagram).bind fun parts =>
    match parts.reverse with
    | classes :: arrows :: subgraphs => do
      return { subgraphs := ← subgraphs.reverse.mapM readSubgraph?, arrows := ← arrows.mapM readArrow?,
               classes := ← readClasses? classes }
    | _ => none

/-! ### Drawing -/

/-- A group of crates in a diagram: its name, its title, the class of its crates and their category. -/
structure Group where
  key : Text
  title : Text
  className : Text
  category : Category

namespace Group

def core : Group := { key := "core", title := "Core Libraries", className := "coreLib", category := .core }

def services : Group := { key := "services", title := "Services", className := "service", category := .service }

def workers : Group := { key := "workers", title := "FFI Workers", className := "worker", category := .worker }

end Group

def groups : List Group := [.core, .services, .workers]

def Group.opening (g : Group) : Text := indent ++ "subgraph " ++ g.key ++ "[\"" ++ g.title ++ "\"]"

/-- The groups with crates. -/
def Group.hasCrates (crates : Category → List Crate) (g : Group) : Bool := !(crates g.category).isEmpty

/-- The groups that have a subgraph. Workers have none if there are none of them. -/
def Group.isShown (crates : Category → List Crate) (g : Group) : Bool :=
  g.category ≠ .worker || g.hasCrates crates

/-- The line that declares a crate as a node. -/
def nodeLine (crate : Crate) : Text := indent ++ indent ++ nodeId crate.name ++ "[\"" ++ crate.name ++ "\"]"

def Group.subgraph (crates : Category → List Crate) (g : Group) : Subgraph :=
  { opening := g.opening, nodes := (crates g.category).map nodeLine }

/-- The line that gives the crates of a group their class. -/
def Group.classLine (crates : Category → List Crate) (g : Group) : Text :=
  indent ++ "class " ++ Text.joinWith "," ((crates g.category).map fun crate => nodeId crate.name) ++ " " ++ g.className

def arrowOf (edge : DependencyEdge) : Text × Text := (nodeId edge.source, nodeId edge.target)

/-- What is drawn of crates in their categories and of edges. -/
def drawing (crates : Category → List Crate) (edges : List DependencyEdge) : Drawing where
  subgraphs := (groups.filter (·.isShown crates)).map (·.subgraph crates)
  arrows := edges.map arrowOf
  classes := (groups.filter (·.hasCrates crates)).map (·.classLine crates)

/-! ### Lines -/

theorem not_mem_nodeId {c : Char} {name : Text} (absent : c ∉ name) (other : c ≠ '_') : c ∉ nodeId name := by
  intro member
  rcases Text.mem_replaceChar member with underscore | ⟨inside, _⟩
  · exact other (List.mem_singleton.mp underscore)
  · exact absent inside

theorem hyphen_not_mem_nodeId (name : Text) : '-' ∉ nodeId name := by
  intro member
  rcases Text.mem_replaceChar member with underscore | ⟨_, other⟩
  · exact absurd underscore (by decide)
  · exact other rfl

def arrowLine (edge : DependencyEdge) : Text := indent ++ nodeId edge.source ++ " --> " ++ nodeId edge.target

/-- The names of nodes have no hyphens, so that an arrow is found between them. -/
theorem readArrow?_arrowLine (edge : DependencyEdge) : readArrow? (arrowLine edge) = some (arrowOf edge) := by
  refine readArrow?_append (fun arrow => hyphen_not_mem_nodeId edge.source (arrow.subset ?_)) (nodeId edge.target)
  decide

def Group.lines (crates : Category → List Crate) (g : Group) : List Text :=
  g.opening :: ((crates g.category).map nodeLine ++ [ending])

theorem readSubgraph?_lines (crates : Category → List Crate) (g : Group) :
    readSubgraph? (g.lines crates) = some (g.subgraph crates) := by
  rw [Group.lines, readSubgraph?, List.getLast?_concat, if_pos rfl, List.dropLast_concat]
  rfl

theorem readClasses?_append (ls : List Text) : readClasses? (classDefinitions ++ ls) = some ls := by
  rw [readClasses?, if_pos (List.prefix_append _ _), List.drop_left]

theorem subgraph_eq (crates : Category → List Crate) (g : Group) :
    Diagram.subgraph g.key g.title (crates g.category) = g.lines crates ++ [[]] := by
  rw [Group.lines, List.cons_append, List.append_assoc]
  rfl

theorem classLine_eq (crates : Category → List Crate) (g : Group) :
    Diagram.classLine (crates g.category) g.className = if g.hasCrates crates then [g.classLine crates] else [] := by
  unfold Diagram.classLine Group.hasCrates
  cases (crates g.category).isEmpty with
  | true => rfl
  | false => rfl

theorem filter_isShown (crates : Category → List Crate) : groups.filter (·.isShown crates) =
    [.core, .services] ++ if Group.workers.hasCrates crates then [Group.workers] else [] := by
  have optional : Group.workers.isShown crates = Group.workers.hasCrates crates := rfl
  rw [groups, List.filter_cons_of_pos rfl, List.filter_cons_of_pos rfl, List.filter_singleton, optional,
    Bool.cond_eq_ite]
  rfl

theorem classes_drawing (crates : Category → List Crate) (edges : List DependencyEdge) :
    (drawing crates edges).classes = groups.flatMap fun g => Diagram.classLine (crates g.category) g.className := by
  simp only [drawing, classLine_eq]
  induction groups with
  | nil => rfl
  | cons g groups ih => by_cases crated : g.hasCrates crates = true <;> simp [crated, ih]

/-- The lines of a diagram of dependencies, group by group. -/
theorem dependencies_eq (crates : Category → List Crate) (edges : List DependencyEdge) :
    dependencies (crates .core) (crates .service) (crates .worker) edges =
      fenced ("graph TD" :: (((groups.filter (·.isShown crates)).map (·.lines crates)).flatMap (· ++ [[]]) ++
        (edges.map arrowLine ++ [] :: (classDefinitions ++ (drawing crates edges).classes)))) := by
  have subgraphs : ((groups.filter (·.isShown crates)).map (·.lines crates)).flatMap (· ++ [[]]) =
      Diagram.subgraph "core" "Core Libraries" (crates .core) ++
        (Diagram.subgraph "services" "Services" (crates .service) ++
          if (crates .worker).isEmpty then [] else Diagram.subgraph "workers" "FFI Workers" (crates .worker)) := by
    have present : Group.workers.hasCrates crates = !(crates .worker).isEmpty := rfl
    rw [filter_isShown, present, List.flatMap_map, List.flatMap_append, List.flatMap_cons, List.flatMap_singleton,
      List.append_assoc, ← subgraph_eq, ← subgraph_eq]
    cases (crates .worker).isEmpty with
    | true => rfl
    | false =>
      rw [Bool.not_false, if_pos rfl, List.flatMap_singleton, ← subgraph_eq]
      rfl
  have arrows : (edges.map fun e => indent ++ nodeId e.source ++ " --> " ++ nodeId e.target) =
    edges.map arrowLine := rfl
  rw [subgraphs, classes_drawing, dependencies, arrows]
  simp only [groups, List.flatMap_cons, List.flatMap_nil, List.cons_append, List.append_assoc, List.nil_append,
    List.append_nil]
  rfl

variable {crates : Category → List Crate} {edges : List DependencyEdge}

theorem isDrawn_nodeLine {crate : Crate} (single : '\n' ∉ crate.name) : IsDrawn (nodeLine crate) := by
  have id := not_mem_nodeId single (by decide)
  have regroup : nodeLine crate = indent ++ (indent ++ (nodeId crate.name ++ ("[\"" ++ (crate.name ++ "\"]")))) := by
    simp only [nodeLine, List.append_assoc]
  rw [regroup, isDrawn_append]
  simp only [List.mem_append, not_or]
  exact ⟨by decide, id, by decide, single, by decide⟩

theorem isDrawn_arrowLine {edge : DependencyEdge} (source : '\n' ∉ edge.source) (target : '\n' ∉ edge.target) :
    IsDrawn (arrowLine edge) := by
  have regroup : arrowLine edge = indent ++ (nodeId edge.source ++ (" --> " ++ nodeId edge.target)) := by
    simp only [arrowLine, List.append_assoc]
  rw [regroup, isDrawn_append]
  simp only [List.mem_append, not_or]
  exact ⟨not_mem_nodeId source (by decide), by decide, not_mem_nodeId target (by decide)⟩

theorem isDrawn_lines {g : Group} (known : g ∈ groups) (single : ∀ crate ∈ crates g.category, '\n' ∉ crate.name) :
    ∀ line ∈ g.lines crates, IsDrawn line := by
  have opening : ∀ g ∈ groups, IsDrawn g.opening := by decide
  rw [Group.lines, List.forall_mem_cons, List.forall_mem_append, List.forall_mem_map, List.forall_mem_singleton]
  exact ⟨opening g known, fun crate member => isDrawn_nodeLine (single crate member), by decide⟩

theorem isDrawn_classLine {g : Group} (known : g ∈ groups)
    (single : ∀ crate ∈ crates g.category, '\n' ∉ crate.name) : IsDrawn (g.classLine crates) := by
  have className : ∀ g ∈ groups, '\n' ∉ g.className := by decide
  have regroup : g.classLine crates = indent ++ ("class " ++
      (Text.joinWith "," ((crates g.category).map fun crate => nodeId crate.name) ++ (" " ++ g.className))) := by
    simp only [Group.classLine, List.append_assoc]
  rw [regroup, isDrawn_append]
  simp only [List.mem_append, not_or]
  refine ⟨by decide, fun member => ?_, by decide, className g known⟩
  rcases Text.mem_joinWith member with comma | ⟨id, within, inside⟩
  · exact absurd comma (by decide)
  · obtain ⟨crate, member, rfl⟩ := List.mem_map.mp within
    exact not_mem_nodeId (single crate member) (by decide) inside

section Drawn

variable (single : ∀ g ∈ groups, ∀ crate ∈ crates g.category, '\n' ∉ crate.name)
  (ends : ∀ edge ∈ edges, '\n' ∉ edge.source ∧ '\n' ∉ edge.target)

include single ends

/-- Subgraphs, arrows and classes are told apart by blank lines. -/
theorem parts?_dependencies :
    parts? "graph TD" (dependencies (crates .core) (crates .service) (crates .worker) edges) =
      some ((groups.filter (·.isShown crates)).map (·.lines crates) ++
        [edges.map arrowLine, classDefinitions ++ (drawing crates edges).classes]) := by
  have subgraphLines : ∀ ls ∈ (groups.filter (·.isShown crates)).map (·.lines crates), ∀ line ∈ ls, IsDrawn line := by
    intro ls member
    obtain ⟨g, kept, rfl⟩ := List.mem_map.mp member
    have known := (List.mem_filter.mp kept).1
    exact isDrawn_lines known (single g known)
  have arrowLines : ∀ line ∈ edges.map arrowLine, IsDrawn line := by
    intro line member
    obtain ⟨edge, within, rfl⟩ := List.mem_map.mp member
    exact isDrawn_arrowLine (ends edge within).1 (ends edge within).2
  have classLines : ∀ line ∈ classDefinitions ++ (drawing crates edges).classes, IsDrawn line := by
    have definitions : ∀ line ∈ classDefinitions, IsDrawn line := by decide
    refine List.forall_mem_append.mpr ⟨definitions, fun line later => ?_⟩
    obtain ⟨g, kept, rfl⟩ := List.mem_map.mp later
    have known := (List.mem_filter.mp kept).1
    exact isDrawn_classLine known (single g known)
  have filled {ls : List Text} (drawn : ∀ line ∈ ls, IsDrawn line) : [] ∉ ls := fun blank => (drawn _ blank).ne_nil rfl
  have flat : ∀ line ∈ ("graph TD" : Text) ::
      (((groups.filter (·.isShown crates)).map (·.lines crates)).flatMap (· ++ [[]]) ++
        (edges.map arrowLine ++ [] :: (classDefinitions ++ (drawing crates edges).classes))), '\n' ∉ line := by
    rw [List.forall_mem_cons, List.forall_mem_append, List.forall_mem_append, List.forall_mem_cons]
    refine ⟨by decide, fun line member => ?_, fun line member => (arrowLines line member).2, by decide,
      fun line member => (classLines line member).2⟩
    obtain ⟨ls, shown, within⟩ := List.mem_flatMap.mp member
    rcases List.mem_append.mp within with inside | blank
    · exact (subgraphLines ls shown line inside).2
    · rw [List.mem_singleton.mp blank]
      exact List.not_mem_nil
  rw [dependencies_eq, parts?_fenced flat, splitOn_marked fun ls member => filled (subgraphLines ls member),
    List.splitOn_append_cons_self_of_not_mem (filled arrowLines), List.splitOn_eq_singleton (filled classLines)]

/-- What a diagram of dependencies is read as is what it has been drawn of. -/
theorem readDependencies?_dependencies :
    readDependencies? (dependencies (crates .core) (crates .service) (crates .worker) edges) =
      some (drawing crates edges) := by
  have subgraphs : ((groups.filter (·.isShown crates)).map (·.lines crates)).mapM readSubgraph? =
      some (drawing crates edges).subgraphs := by
    simp only [List.mapM_map, Function.comp_def, readSubgraph?_lines]
    exact List.mapM_pure
  have pointing : (edges.map arrowLine).mapM readArrow? = some (drawing crates edges).arrows := by
    simp only [List.mapM_map, Function.comp_def, readArrow?_arrowLine]
    exact List.mapM_pure
  unfold readDependencies?
  rw [parts?_dependencies single ends, Option.bind_some, List.reverse_append, List.reverse_cons,
    List.reverse_singleton, List.singleton_append, List.cons_append, List.singleton_append]
  dsimp only
  rw [List.reverse_reverse, subgraphs, pointing, readClasses?_append]
  rfl

end Drawn

end Diagram
end ReferencePages
