import ReferencePages.Proofs.Workspace.Members
import ReferencePages.Config
/-!
The edges of a workspace. They lead from members to those of their dependencies by path that are members
themselves, whether these come earlier in the manifest or later.
-/

namespace ReferencePages.WorkspaceGraph

variable {s t : Session} {root : Path} {settings : CrateSettings}

/-! ### Dependencies -/

/-- The dependencies that a manifest declares, by path or otherwise. -/
def dependencyTable (manifest? : Option (Dictionary Toml)) : Dictionary Toml :=
  match manifest?.bind (Dictionary.get? "dependencies") with
  | some (.table dependencies) => dependencies
  | _ => []

/-- The keys of the dependencies that a manifest declares with a path, in its order. -/
def pathKeys (manifest? : Option (Dictionary Toml)) : List Text :=
  ((dependencyTable manifest?).filter fun (_, value) => (value.get? "path").isSome).map Prod.fst

theorem mem_pathKeys {manifest? : Option (Dictionary Toml)} {key : Text} : key ∈ pathKeys manifest? ↔
    ∃ value, (key, value) ∈ dependencyTable manifest? ∧ (value.get? "path").isSome := by
  simp [pathKeys]

theorem localDependencies_eq (manifest : Dictionary Toml) :
    localDependencies manifest = pathKeys (some manifest) := by
  have filtered (keeps : Toml → Bool) (dependencies : Dictionary Toml) :
      (dependencies.filterMap fun (name, value) => if keeps value then some name else none) =
        (dependencies.filter fun (_, value) => keeps value).map Prod.fst := by
    induction dependencies with
    | nil => rfl
    | cons entry dependencies ih => by_cases kept : keeps entry.2 <;> simp [kept, ih]
  unfold localDependencies pathKeys dependencyTable
  rw [Option.bind_some]
  cases Dictionary.get? "dependencies" manifest with
  | none => rfl
  | some value =>
    cases value with
    | table dependencies => exact filtered (fun value => (value.get? "path").isSome) dependencies
    | _ => rfl

theorem pathDependencies_crateOf (index : Nat) (member : Text) (manifest? : Option (Dictionary Toml)) :
    (crateOf settings index member manifest?).pathDependencies = pathKeys manifest? := by
  cases manifest? with
  | none => rfl
  | some manifest => exact localDependencies_eq manifest

/-! ### Members and their manifests -/

section CratesOf

variable {members : List Text} {manifests : List (Option (Dictionary Toml))}

theorem cratesOf_cons (member : Text) (manifest? : Option (Dictionary Toml)) (index : Nat) :
    cratesOf settings (member :: members) (manifest? :: manifests) index =
      crateOf settings index member manifest? :: cratesOf settings members manifests (index + 1) := rfl

theorem memberPath_cratesOf (same : members.length = manifests.length) (index : Nat) :
    (cratesOf settings members manifests index).map (·.memberPath) = members := by
  induction members generalizing manifests index with
  | nil => rfl
  | cons member members ih =>
    cases manifests with
    | nil => cases same
    | cons manifest? manifests =>
      have rest := ih (Nat.succ.inj same) (index + 1)
      rw [cratesOf_cons, List.map_cons, rest]
      rfl

/-- The dependencies of the members are the path keys of their manifests. -/
theorem pathDependencies_cratesOf (same : members.length = manifests.length) (index : Nat) :
    List.Forall₂ (fun crate manifest? => crate.pathDependencies = pathKeys manifest?)
      (cratesOf settings members manifests index) manifests := by
  induction members generalizing manifests index with
  | nil =>
    obtain rfl := List.length_eq_zero_iff.mp same.symm
    exact .nil
  | cons member members ih =>
    cases manifests with
    | nil => cases same
    | cons manifest? manifests =>
      rw [cratesOf_cons]
      exact .cons (pathDependencies_crateOf index member manifest?) (ih (Nat.succ.inj same) _)

theorem getElem?_cratesOf {index i : Nat} {crate : Crate} :
    (cratesOf settings members manifests index)[i]? = some crate ↔
      ∃ member manifest?, members[i]? = some member ∧ manifests[i]? = some manifest? ∧
        crate = crateOf settings (index + i) member manifest? := by
  unfold cratesOf
  rw [List.getElem?_map, List.getElem?_zipIdx]
  constructor
  · intro found
    cases paired : (members.zip manifests)[i]? with
    | none =>
      rw [paired] at found
      cases found
    | some entry =>
      rw [paired] at found
      obtain ⟨here, known⟩ := List.getElem?_zip_eq_some.mp paired
      exact ⟨entry.1, entry.2, here, known, (Option.some.inj found).symm⟩
  · rintro ⟨member, manifest?, here, known, rfl⟩
    have paired : (members.zip manifests)[i]? = some (member, manifest?) :=
      List.getElem?_zip_eq_some.mpr ⟨here, known⟩
    rw [paired]
    rfl

end CratesOf

/-! ### Edges -/

/-- The edges from a member to keys of its manifest that are names. -/
def edgesTo (names : List Text) (crate : Crate) (keys : List Text) : List DependencyEdge :=
  (keys.filter fun key => key ∈ names).map fun key => { source := crate.name, target := key }

theorem edgesOf_eq_flatMap (crates : List Crate) : edgesOf crates =
    crates.flatMap fun crate => edgesTo (crates.map (·.name)) crate crate.pathDependencies := by
  have known : (crates.map (·.name)).contains = fun key => decide (key ∈ crates.map (·.name)) :=
    funext fun key => List.contains_eq_mem ..
  unfold edgesOf edgesTo
  dsimp only
  rw [known]

/-- Edges of members with their keys, one member after the other. -/
theorem flatMap_edgesTo {names : List Text} {crates : List Crate} {manifests : List (Option (Dictionary Toml))}
    (each : List.Forall₂ (fun crate manifest? => crate.pathDependencies = pathKeys manifest?) crates manifests) :
    (crates.flatMap fun crate => edgesTo names crate crate.pathDependencies) =
      (crates.zip manifests).flatMap fun (crate, manifest?) => edgesTo names crate (pathKeys manifest?) := by
  induction each with
  | nil => rfl
  | cons keys _ ih => rw [List.zip_cons_cons, List.flatMap_cons, List.flatMap_cons, ih, keys]

theorem mem_edgesTo {names keys : List Text} {crate : Crate} {source target : Text} :
    { source, target } ∈ edgesTo names crate keys ↔ crate.name = source ∧ target ∈ keys ∧ target ∈ names := by
  simp only [edgesTo, List.mem_map, List.mem_filter, decide_eq_true_eq, DependencyEdge.mk.injEq]
  constructor
  · rintro ⟨key, ⟨declared, known⟩, same, rfl⟩
    exact ⟨same, declared, known⟩
  · rintro ⟨same, declared, known⟩
    exact ⟨target, ⟨declared, known⟩, same, rfl⟩

/-! ### The graph -/

/-- A graph that is read has the members that the manifest lists, each described by its own manifest. -/
theorem read_eq_ok {graph : WorkspaceGraph} (run : (read settings root).outcome s = (.ok graph, t)) :
    ∃ manifest entries expansions manifests,
      ((readManifest (root.child manifestName)).outcome s).1 = .ok (.ok manifest) ∧
      countedEntries manifest = .ok entries ∧ List.Forall₂ (Expands s root) entries expansions ∧
      List.Forall₂ (fun member => IsReadAs s (memberManifest root member)) expansions.flatten manifests ∧
      graph.crates = cratesOf settings expansions.flatten manifests 0 ∧ graph.edges = edgesOf graph.crates := by
  obtain ⟨found, u, first, rest⟩ := Program.outcome_bind_eq_ok run
  cases found with
  | error fault =>
    cases fault with
    | malformed => cases rest
    | file error =>
      dsimp only at rest
      split at rest <;> cases rest
  | ok manifest =>
    have result : ((readManifest (root.child manifestName)).outcome s).1 = .ok (.ok manifest) := by rw [first]
    obtain ⟨bytes, there⟩ := exists_of_readManifest result
    obtain rfl : u = s := by
      rw [readManifest_outcome there] at first
      exact (Prod.mk.inj first).2.symm
    obtain ⟨members, v, listed, rest⟩ := Program.outcome_bind_eq_ok rest
    obtain ⟨rfl, entries, expansions, counted, expands, rfl⟩ := memberPaths_eq_ok listed
    obtain ⟨crates, x, described, last⟩ := Program.outcome_bind_eq_ok rest
    obtain ⟨manifests, each, rfl⟩ := readMembers_eq_ok described
    cases last
    exact ⟨manifest, entries, expansions, manifests, result, counted, expands, each, rfl, rfl⟩

/-- The edges of a graph that is read: in the order of the members and of their dependencies, they lead from
members to the keys declared with a path in their own manifests that are names of members. The members are those
of the entries, in their order. -/
theorem read_edges {graph : WorkspaceGraph} (run : (read settings root).outcome s = (.ok graph, t)) :
    ∃ manifest entries expansions manifests,
      manifestOf s (root.child manifestName) = .ok (some manifest) ∧ countedEntries manifest = .ok entries ∧
      List.Forall₂ (Expands s root) entries expansions ∧
      List.Forall₂ (fun member => IsReadAs s (memberManifest root member)) expansions.flatten manifests ∧
      graph.crates = cratesOf settings expansions.flatten manifests 0 ∧
      graph.crates.map (·.memberPath) = expansions.flatten ∧
      graph.edges = (graph.crates.zip manifests).flatMap (fun (crate, manifest?) =>
        ((pathKeys manifest?).filter fun key => key ∈ graph.crates.map (·.name)).map fun key =>
          { source := crate.name, target := key }) ∧
      ∀ source target, { source, target } ∈ graph.edges ↔ ∃ crate manifest?,
        (crate, manifest?) ∈ graph.crates.zip manifests ∧ crate.name = source ∧
          (∃ value, (target, value) ∈ dependencyTable manifest? ∧ (value.get? "path").isSome) ∧
          ∃ other ∈ graph.crates, other.name = target := by
  obtain ⟨manifest, entries, expansions, manifests, result, counted, expands, each, crates, edges⟩ := read_eq_ok run
  have same : expansions.flatten.length = manifests.length := each.length_eq
  have keys : List.Forall₂ (fun crate manifest? => crate.pathDependencies = pathKeys manifest?)
      graph.crates manifests := by
    rw [crates]
    exact pathDependencies_cratesOf same 0
  have listed : graph.edges = (graph.crates.zip manifests).flatMap fun (crate, manifest?) =>
      edgesTo (graph.crates.map (·.name)) crate (pathKeys manifest?) := by
    rw [edges, edgesOf_eq_flatMap, flatMap_edgesTo keys]
  refine ⟨manifest, entries, expansions, manifests, readManifest_eq_ok.mp result, counted, expands, each,
    crates, ?_, listed, ?_⟩
  · rw [crates, memberPath_cratesOf same]
  · intro source target
    rw [listed, List.mem_flatMap]
    constructor
    · rintro ⟨⟨crate, manifest?⟩, member, edge⟩
      obtain ⟨named, declared, known⟩ := mem_edgesTo.mp edge
      exact ⟨crate, manifest?, member, named, mem_pathKeys.mp declared, List.mem_map.mp known⟩
    · rintro ⟨crate, manifest?, member, named, declared, known⟩
      exact ⟨(crate, manifest?), member,
        mem_edgesTo.mpr ⟨named, mem_pathKeys.mpr declared, List.mem_map.mpr known⟩⟩

/-- A workspace with files below its root. -/
def workspaceSession (files : List (Place × Text)) : Session :=
  Session.new { entries := files.map fun (place, text) =>
    (place, if text.isEmpty then .directory else .file 0o644 (Utf8.encode text)) } []

/-- A workspace whose first member depends on its last one and whose worker depends on the first one, on a package
that is no member and on one without a path. A manifest is missing. -/
def forwardSession : Session :=
  workspaceSession
    [(["Cargo.toml"], "[workspace]\nmembers = ['core', 'gone', 'workers/*', 'last/']\n"),
     (["core"], []), (["core", "Cargo.toml"], "[package]\nname = 'core'\n[dependencies]\nlast.path = '../last'\n"),
     (["workers"], []), (["workers", "go"], []), (["workers", "rust"], []),
     (["workers", "rust", "Cargo.toml"],
       "[dependencies]\nserde = '1'\nother.path = '../../other'\ncore.path = '../../core'\n"),
     (["last"], []), (["last", "Cargo.toml"], "[package]\nname = 'last'\n")]

theorem read_edges_forward : ∃ graph t manifests,
    (read Config.standardCrates (Path.ofText "/")).outcome forwardSession = (.ok graph, t) ∧
      graph.crates.map (·.name) = ["core", "unknown-1", "rust", "last"] ∧
      graph.edges = [{ source := "core", target := "last" }, { source := "rust", target := "core" }] ∧
      graph.edges = (graph.crates.zip manifests).flatMap (fun (crate, manifest?) =>
        ((pathKeys manifest?).filter fun key => key ∈ graph.crates.map (·.name)).map fun key =>
          { source := crate.name, target := key }) := by
  have drawn : ((read Config.standardCrates (Path.ofText "/")).outcome forwardSession).1.toOption.map
      (fun graph => (graph.crates.map (·.name), graph.edges)) =
        some ((["core", "unknown-1", "rust", "last"] : List Text),
          ([{ source := "core", target := "last" }, { source := "rust", target := "core" }] :
            List DependencyEdge)) := by
    decide +kernel
  obtain ⟨graph, result, known⟩ := Program.exists_ok_of_toOption drawn
  obtain ⟨names, edges⟩ := Prod.mk.inj known
  obtain ⟨t, run⟩ := Program.exists_of_outcome_ok result
  obtain ⟨_, _, _, manifests, _, _, _, _, _, _, listed, _⟩ := read_edges run
  exact ⟨graph, t, manifests, run, names, edges, listed⟩

end ReferencePages.WorkspaceGraph
