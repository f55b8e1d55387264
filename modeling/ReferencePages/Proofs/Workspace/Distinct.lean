import ReferencePages.Proofs.Workspace.Isolation
import ReferencePages.Proofs.Glob.Distinct
import ReferencePages.Proofs.Toml.Keys
/-!
Members that are listed twice. An entry stands for a directory once, as long as it leads back up nowhere behind a
sign of a pattern; entries that meet in a directory stand for it each. A member has an edge to another one once.
-/

namespace ReferencePages.WorkspaceGraph

open FileTree (destination)
open Program (Unlogged)

variable {s t : Session} {root : Path} {settings : CrateSettings}

/-! ### Directories of members -/

/-- The place of the directory of a member. -/
def directoryOf (s : Session) (root : Path) (member : Text) : Place := destination s.directory (root.child member)

/-- An entry that leads back up behind a sign of a pattern. -/
def IsWinding (entry : Text) : Prop := Glob.isPattern entry = true ∧ ¬ Glob.ClimbsFirst entry

instance (entry : Text) : Decidable (IsWinding entry) :=
  inferInstanceAs (Decidable (Glob.isPattern entry = true ∧ ¬ Glob.ClimbsFirst entry))

theorem Expands.nodup_directories (sound : s.tree.IsSound) {entry : Text} {members : List Text}
    (expands : Expands s root entry members) (straight : ¬ IsWinding entry) :
    (members.map (directoryOf s root)).Nodup := by
  cases expands with
  | plain _ => exact List.nodup_singleton _
  | pattern pattern search kept _ =>
    rename_i found _
    have climbs : Glob.ClimbsFirst entry := not_not.mp fun winds => straight ⟨pattern, winds⟩
    have once := Glob.nodup_destinations sound climbs search
    have leads : ((found.filter fun p => s.tree.isFile s.directory (p.child manifestName)).map
        fun p => ((root.below? p).getD p).toText).map (directoryOf s root) =
          (found.filter fun p => s.tree.isFile s.directory (p.child manifestName)).map
            (destination s.directory) := by
      rw [List.map_map]
      refine List.map_congr_left fun p member => ?_
      obtain ⟨names, rfl, clean, _⟩ := Glob.mem_paths sound search (List.mem_filter.mp member).1
      rw [Function.comp_apply, directoryOf, Path.child_below root clean]
    rw [(kept.map (directoryOf s root)).nodup_iff, leads]
    exact once.sublist (List.filter_sublist.map _)

theorem nodup_directories_of_expands (sound : s.tree.IsSound) {entries : List Text} {expansions : List (List Text)}
    (expands : List.Forall₂ (Expands s root) entries expansions) (straight : ∀ entry ∈ entries, ¬ IsWinding entry) :
    ∀ members ∈ expansions, (members.map (directoryOf s root)).Nodup := by
  induction expands with
  | nil => exact List.forall_mem_nil _
  | cons expands _ ih =>
    obtain ⟨first, rest⟩ := List.forall_mem_cons.mp straight
    exact List.forall_mem_cons.mpr ⟨expands.nodup_directories sound first, ih rest⟩

/-! ### Dependencies of members -/

theorem keyed_of_manifestOf {p : Path} {manifest : Dictionary Toml} (known : manifestOf s p = .ok (some manifest)) :
    Toml.Keyed (.table manifest) := by
  rcases manifestOf_cases s p with long | ⟨bytes, read⟩ | missing
  · rw [manifestOf_of_long long] at known
    cases known
  · rw [manifestOf_of_read read, manifestIn] at known
    split at known
    · cases known
    · split at known
      · rename_i parsed
        cases known
        exact Toml.keyed_of_read parsed
      all_goals cases known
  · rw [missing] at known
    cases known

/-- A manifest declares a dependency with a path once. -/
theorem nodup_pathKeys {p : Path} {manifest? : Option (Dictionary Toml)} (known : manifestOf s p = .ok manifest?) :
    (pathKeys manifest?).Nodup := by
  have once : ((dependencyTable manifest?).map Prod.fst).Nodup := by
    unfold dependencyTable
    split
    · rename_i dependencies found
      obtain ⟨manifest, rfl, declared⟩ := Option.bind_eq_some_iff.mp found
      exact ((keyed_of_manifestOf known).of_get? declared).nodup_keys
    · exact List.nodup_nil
  exact once.sublist (List.filter_sublist.map _)

theorem nodup_pathDependencies {members : List Text} {manifests : List (Option (Dictionary Toml))}
    (each : List.Forall₂ (fun member => IsReadAs s (memberManifest root member)) members manifests) {index : Nat}
    {crate : Crate} (member : crate ∈ cratesOf settings members manifests index) : crate.pathDependencies.Nodup := by
  obtain ⟨i, found⟩ := List.mem_iff_getElem?.mp member
  obtain ⟨text, manifest?, listed, described, rfl⟩ := getElem?_cratesOf.mp found
  have paired : (text, manifest?) ∈ members.zip manifests :=
    List.mem_of_getElem? (List.getElem?_zip_eq_some.mpr ⟨listed, described⟩)
  obtain ⟨u, _, known⟩ := (List.forall₂_iff_zip.mp each).2 paired
  rw [pathDependencies_crateOf]
  exact nodup_pathKeys known

/-! ### Edges -/

theorem nodup_edgesTo {names keys : List Text} {crate : Crate} (once : keys.Nodup) :
    (edgesTo names crate keys).Nodup :=
  (once.filter _).map fun _ _ same => congrArg DependencyEdge.target same

/-- Members with different names have different edges. -/
theorem nodup_edgesOf {crates : List Crate} (names : (crates.map (·.name)).Nodup)
    (each : ∀ crate ∈ crates, crate.pathDependencies.Nodup) : (edgesOf crates).Nodup := by
  rw [edgesOf_eq_flatMap, List.nodup_flatMap]
  refine ⟨fun crate member => nodup_edgesTo (each crate member), (List.pairwise_map.mp names).imp ?_⟩
  intro first second different
  rintro ⟨source, target⟩ here there
  exact different ((mem_edgesTo.mp here).1.trans (mem_edgesTo.mp there).1.symm)

/-! ### The graph -/

/-- An entry that is not winding stands for a directory once. Two members of a graph that is read have one
directory only where two entries meet in it or an entry is winding. Where no two members have one name, no edge
stands twice. -/
theorem read_distinct (sound : s.tree.IsSound) {graph : WorkspaceGraph}
    (run : (read settings root).outcome s = (.ok graph, t)) :
    ∃ manifest entries expansions,
      manifestOf s (root.child manifestName) = .ok (some manifest) ∧ countedEntries manifest = .ok entries ∧
      List.Forall₂ (Expands s root) entries expansions ∧ graph.crates.map (·.memberPath) = expansions.flatten ∧
      (∀ entry members, (entry, members) ∈ entries.zip expansions → ¬ IsWinding entry →
        (members.map (directoryOf s root)).Nodup) ∧
      ((∀ entry ∈ entries, ¬ IsWinding entry) → expansions.Pairwise (fun members others =>
          (members.map (directoryOf s root)).Disjoint (others.map (directoryOf s root))) →
        (graph.crates.map fun crate => directoryOf s root crate.memberPath).Nodup) ∧
      ((graph.crates.map (·.name)).Nodup → graph.edges.Nodup) := by
  obtain ⟨manifest, entries, expansions, manifests, result, counted, expands, each, crates, edges⟩ := read_eq_ok run
  have listed : graph.crates.map (·.memberPath) = expansions.flatten := by
    rw [crates, memberPath_cratesOf each.length_eq]
  have apart (entry : Text) (members : List Text) (paired : (entry, members) ∈ entries.zip expansions)
      (straight : ¬ IsWinding entry) : (members.map (directoryOf s root)).Nodup :=
    ((List.forall₂_iff_zip.mp expands).2 paired).nodup_directories sound straight
  refine ⟨manifest, entries, expansions, readManifest_eq_ok.mp result, counted, expands, listed, apart, ?_, ?_⟩
  · intro straight disjoint
    have directories : (graph.crates.map fun crate => directoryOf s root crate.memberPath) =
        (expansions.map (List.map (directoryOf s root))).flatten := by
      rw [← List.map_flatten, ← listed, List.map_map]
      rfl
    rw [directories, List.nodup_flatten]
    refine ⟨?_, List.pairwise_map.mpr disjoint⟩
    rintro _ member
    obtain ⟨members, within, rfl⟩ := List.mem_map.mp member
    exact nodup_directories_of_expands sound expands straight members within
  · intro names
    rw [edges]
    refine nodup_edgesOf names fun crate member => ?_
    rw [crates] at member
    exact nodup_pathDependencies each member

theorem read_distinct_forward : ∃ graph t,
    (read Config.standardCrates (Path.ofText "/")).outcome forwardSession = (.ok graph, t) ∧
      forwardSession.tree.IsSound ∧ graph.edges.length = 2 ∧ graph.edges.Nodup := by
  have sound : forwardSession.tree.IsSound := FileTree.isSound_iff.mpr (by decide +kernel)
  have drawn : ((read Config.standardCrates (Path.ofText "/")).outcome forwardSession).1.toOption.map (fun graph =>
      (decide (graph.crates.map (·.name)).Nodup, graph.edges.length)) = some (true, 2) := by decide +kernel
  obtain ⟨graph, result, known⟩ := Program.exists_ok_of_toOption drawn
  obtain ⟨names, count⟩ := Prod.mk.inj known
  obtain ⟨t, run⟩ := Program.exists_of_outcome_ok result
  obtain ⟨_, _, _, _, _, _, _, _, _, edges⟩ := read_distinct sound run
  exact ⟨graph, t, run, sound, count, edges (decide_eq_true_eq.mp names)⟩

/-- A workspace where a pattern and an entry meet in a directory. -/
def overlappingSession : Session :=
  workspaceSession
    [(["Cargo.toml"], "[workspace]\nmembers = ['workers/*', 'workers/rust', 'core']\n"),
     (["workers"], []), (["workers", "rust"], []),
     (["workers", "rust", "Cargo.toml"], "[package]\nname = 'rust'\n[dependencies]\ncore.path = '../../core'\n"),
     (["core"], []), (["core", "Cargo.toml"], "[package]\nname = 'core'\n")]

/-- A workspace with an entry that leads through two directories to one of them. -/
def windingSession : Session :=
  workspaceSession
    [(["Cargo.toml"], "[workspace]\nmembers = ['*/../core']\n"),
     (["core"], []), (["core", "Cargo.toml"], "[package]\nname = 'core'\n"), (["other"], [])]

theorem expandEntry_winding : (expandEntry (Path.ofText "/") "*/../core").outcome windingSession =
    (.ok ["core/../core", "other/../core"], windingSession) := by
  have known : (Glob.paths windingSession.tree windingSession.directory (Path.ofText "/") "*/../core").toOption.map
      id = some [Path.ofText "/core/../core", Path.ofText "/other/../core"] := by decide +kernel
  obtain ⟨found, searched, same⟩ := Program.exists_ok_of_toOption known
  obtain rfl : found = [Path.ofText "/core/../core", Path.ofText "/other/../core"] := same
  have search : (Glob.searchFiles (Path.ofText "/") "*/../core" fun p => p.child manifestName).outcome
      windingSession = (.ok [Path.ofText "/core/../core", Path.ofText "/other/../core"], windingSession) := by
    refine Glob.searchFiles_eq_ok.mpr ⟨rfl, _, searched, ?_, by decide +kernel⟩
    intro p member long
    have short : [Path.ofText "/core/../core", Path.ofText "/other/../core"].all (fun p =>
        (windingSession.tree.locate windingSession.directory (p.child manifestName)).isOk) = true := by
      decide +kernel
    have there := List.all_eq_true.mp short p member
    rw [long] at there
    cases there
  have texts : [Path.ofText "/core/../core", Path.ofText "/other/../core"].map (fun p =>
      (((Path.ofText "/").below? p).getD p).toText) = (["core/../core", "other/../core"] : List Text) := by
    decide +kernel
  rw [expandEntry_pattern (by decide), Program.outcome_bind_ok search, texts, Text.sort_pair (by decide)]
  rfl

/-- Members that stand for one directory are kept apart, and so are their edges. -/
theorem not_distinct :
    (∃ graph t, (read Config.standardCrates (Path.ofText "/")).outcome overlappingSession = (.ok graph, t) ∧
      (graph.crates.map fun crate => directoryOf overlappingSession (Path.ofText "/") crate.memberPath) =
        ([["workers", "rust"], ["workers", "rust"], ["core"]] : List Place) ∧
      graph.edges = [{ source := "rust", target := "core" }, { source := "rust", target := "core" }]) ∧
    ∃ graph t, (read Config.standardCrates (Path.ofText "/")).outcome windingSession = (.ok graph, t) ∧
      (graph.crates.map fun crate => directoryOf windingSession (Path.ofText "/") crate.memberPath) =
        ([["core"], ["core"]] : List Place) := by
  refine ⟨?_, ?_⟩
  · have drawn : ((read Config.standardCrates (Path.ofText "/")).outcome overlappingSession).1.toOption.map
        (fun graph => (graph.crates.map fun crate =>
          directoryOf overlappingSession (Path.ofText "/") crate.memberPath, graph.edges)) =
        some (([["workers", "rust"], ["workers", "rust"], ["core"]] : List Place),
          ([{ source := "rust", target := "core" }, { source := "rust", target := "core" }] :
            List DependencyEdge)) := by decide +kernel
    obtain ⟨graph, result, known⟩ := Program.exists_ok_of_toOption drawn
    obtain ⟨directories, edges⟩ := Prod.mk.inj known
    obtain ⟨t, run⟩ := Program.exists_of_outcome_ok result
    exact ⟨graph, t, run, directories, edges⟩
  · obtain ⟨manifest, found, counted⟩ : ∃ manifest,
        manifestOf windingSession ((Path.ofText "/").child manifestName) = .ok (some manifest) ∧
          countedEntries manifest = .ok ["*/../core"] := exists_manifest_of_listed (by decide +kernel)
    have fine : ∀ member ∈ (["core/../core", "other/../core"] : List Text),
        ¬ EndsRun windingSession (memberManifest (Path.ofText "/") member) := by
      intro member listed ends
      obtain ⟨failure, known⟩ := endsRun_iff.mp ends
      have each : (["core/../core", "other/../core"] : List Text).all (fun member =>
          (manifestOf windingSession (memberManifest (Path.ofText "/") member)).isOk) = true := by decide +kernel
      have there := List.all_eq_true.mp each member listed
      rw [known] at there
      cases there
    obtain ⟨manifests, each⟩ := forall_not_endsRun_iff.mp fine
    have expanded : (([("*/../core" : Text)]).mapM (expandEntry (Path.ofText "/"))).outcome windingSession =
        (.ok [["core/../core", "other/../core"]], windingSession) := by
      rw [List.mapM_cons, Program.outcome_bind_ok expandEntry_winding]
      rfl
    have apart : Unlogged (IsManifest (Path.ofText "/")) windingSession := fun place kept => nomatch kept
    have result : ((read Config.standardCrates (Path.ofText "/")).outcome windingSession).1 =
        .ok (graphOf Config.standardCrates ["core/../core", "other/../core"] manifests) :=
      read_ok apart found counted expanded each
    obtain ⟨t, run⟩ := Program.exists_of_outcome_ok result
    refine ⟨_, t, run, ?_⟩
    have paths : (graphOf Config.standardCrates ["core/../core", "other/../core"] manifests).crates.map
        (·.memberPath) = ["core/../core", "other/../core"] := memberPath_cratesOf each.length_eq 0
    have split := congrArg (List.map (directoryOf windingSession (Path.ofText "/"))) paths
    rw [List.map_map] at split
    exact split.trans (by decide +kernel)

end ReferencePages.WorkspaceGraph
