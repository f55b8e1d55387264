import ReferencePages.Proofs.Workspace.Edges
/-!
Members that are not described. A member whose manifest is missing or not well formed has the name of its
position and no dependencies, and nothing else hangs on it. There are manifests that end the run: bytes that are
no text, and numbers and depths that are beyond the reader.
-/

namespace ReferencePages.WorkspaceGraph

open FileTree (destination)
open Program (Reads Unlogged exists_of_outcome_ok)

variable {s : Session} {root : Path} {settings : CrateSettings}

/-! ### Manifests that end the run -/

/-- A manifest at which a run ends: the way to it is too long to be asked about, or it is a file whose bytes are
no text, or a text with a number or a depth beyond what is read. -/
inductive EndsRun (s : Session) (p : Path) : Prop
  | unreachable (long : s.tree.locate s.directory p = .error .nameTooLong)
  | undecodable {bytes : Bytes} {e : Utf8.DecodeError} (read : s.tree.read s.directory p = .ok bytes)
      (decoded : Utf8.decode bytes = .error e)
  | number {bytes : Bytes} {text : Text} {digits : Nat} (read : s.tree.read s.directory p = .ok bytes)
      (decoded : Utf8.decode bytes = .ok text) (long : Toml.read text = .error (.numberTooLong digits))
  | depth {bytes : Bytes} {text : Text} (read : s.tree.read s.directory p = .ok bytes)
      (decoded : Utf8.decode bytes = .ok text) (deep : Toml.read text = .error .tooDeep)

theorem endsRun_iff {p : Path} : EndsRun s p ↔ ∃ failure, manifestOf s p = .error failure := by
  constructor
  · intro ends
    cases ends with
    | unreachable long => exact ⟨_, manifestOf_of_long long⟩
    | undecodable read decoded =>
      rw [manifestOf_of_read read, manifestIn, decoded]
      exact ⟨_, rfl⟩
    | number read decoded long =>
      rw [manifestOf_of_read read, manifestIn, decoded]
      dsimp only
      rw [long]
      exact ⟨_, rfl⟩
    | depth read decoded deep =>
      rw [manifestOf_of_read read, manifestIn, decoded]
      dsimp only
      rw [deep]
      exact ⟨_, rfl⟩
  · rintro ⟨failure, known⟩
    rcases manifestOf_cases s p with long | ⟨bytes, read⟩ | missing
    · exact .unreachable long
    · rw [manifestOf_of_read read, manifestIn] at known
      cases decoded : Utf8.decode bytes with
      | error e => exact .undecodable read decoded
      | ok text =>
        rw [decoded] at known
        dsimp only at known
        cases parsed : Toml.read text with
        | ok manifest =>
          rw [parsed] at known
          cases known
        | error e =>
          cases e with
          | malformed =>
            rw [parsed] at known
            cases known
          | numberTooLong digits => exact .number read decoded parsed
          | tooDeep => exact .depth read decoded parsed
    · rw [missing] at known
      cases known

/-- No member's manifest ends the run if and only if all of them are known. -/
theorem forall_not_endsRun_iff {members : List Text} :
    (∀ member ∈ members, ¬ EndsRun s (memberManifest root member)) ↔
      ∃ manifests, List.Forall₂ (fun member manifest? => manifestOf s (memberManifest root member) = .ok manifest?)
        members manifests := by
  constructor
  · intro fine
    induction members with
    | nil => exact ⟨[], .nil⟩
    | cons member members ih =>
      obtain ⟨first, rest⟩ := List.forall_mem_cons.mp fine
      obtain ⟨manifests, each⟩ := ih rest
      cases known : manifestOf s (memberManifest root member) with
      | error failure => exact absurd (endsRun_iff.mpr ⟨failure, known⟩) first
      | ok manifest? => exact ⟨manifest? :: manifests, .cons known each⟩
  · rintro ⟨manifests, each⟩
    induction each with
    | nil => exact List.forall_mem_nil _
    | cons known _ ih =>
      refine List.forall_mem_cons.mpr ⟨fun ends => ?_, ih⟩
      obtain ⟨failure, broken⟩ := endsRun_iff.mp ends
      rw [known] at broken
      cases broken

/-! ### The run -/

/-- What manifests are read as is what they are, as long as none of them is the log file. -/
theorem manifests_unlogged (apart : Unlogged (IsManifest root) s) {members : List Text}
    {manifests : List (Option (Dictionary Toml))}
    (each : List.Forall₂ (fun member => IsReadAs s (memberManifest root member)) members manifests) :
    List.Forall₂ (fun member manifest? => manifestOf s (memberManifest root member) = .ok manifest?)
      members manifests := by
  refine each.imp ?_
  rintro member manifest? ⟨u, logged, known⟩
  rwa [manifestOf_logged logged fun place kept => apart place kept _ (isManifest_member root member)] at known

/-- The graph of members whose manifests are known. -/
def graphOf (settings : CrateSettings) (members : List Text) (manifests : List (Option (Dictionary Toml))) :
    WorkspaceGraph :=
  { crates := cratesOf settings members manifests 0, edges := edgesOf (cratesOf settings members manifests 0) }

/-- The graph is read where the members can be told and their manifests are known. -/
theorem read_ok (apart : Unlogged (IsManifest root) s) {manifest : Dictionary Toml} {entries : List Text}
    {expansions : List (List Text)} {manifests : List (Option (Dictionary Toml))}
    (found : manifestOf s (root.child manifestName) = .ok (some manifest))
    (counted : countedEntries manifest = .ok entries)
    (expanded : (entries.mapM (expandEntry root)).outcome s = (.ok expansions, s))
    (each : List.Forall₂ (fun member manifest? => manifestOf s (memberManifest root member) = .ok manifest?)
      expansions.flatten manifests) :
    ((read settings root).outcome s).1 = .ok (graphOf settings expansions.flatten manifests) := by
  have listed : (memberPaths root manifest).outcome s = (.ok expansions.flatten, s) := by
    rw [memberPaths_eq, counted]
    exact (Program.outcome_bind_ok rfl).trans (Program.outcome_bind_ok expanded)
  have reads (members : List Text) : Reads (IsManifest root) (readMembers settings root members 0) :=
    readMembers_reads (isManifest_member root) settings members 0
  have described : ((readMembers settings root expansions.flatten 0).outcome s).1 =
      .ok (cratesOf settings expansions.flatten manifests 0) := readMembers_ok apart each 0
  have rest := (reads _).bind_ok (f := fun crates => pure ({ crates, edges := edgesOf crates } : WorkspaceGraph))
    (fun _ _ _ _ => .pure _) apart described rfl
  have members := (memberPaths_reads root manifest).bind_ok (f := fun members => do
      let crates ← readMembers settings root members 0
      pure ({ crates, edges := edgesOf crates } : WorkspaceGraph))
    (fun _ _ _ _ => .bind (reads _) fun _ => .pure _) apart (congrArg Prod.fst listed) rest
  refine (readManifest_reads (.inl rfl)).bind_ok (fun _ found _ _ => ?_) apart (readManifest_eq_ok.mpr found) members
  split
  · exact .bind (memberPaths_reads root _) fun _ => .bind (reads _) fun _ => .pure _
  · split
    · exact .throw _
    · exact .throw _
  · exact .throw _

/-- A graph that is read is that of the members that are listed, with their manifests. -/
theorem eq_graphOf_of_read (apart : Unlogged (IsManifest root) s) {manifest : Dictionary Toml} {entries : List Text}
    {expansions : List (List Text)} {graph : WorkspaceGraph}
    (found : manifestOf s (root.child manifestName) = .ok (some manifest))
    (counted : countedEntries manifest = .ok entries) (expands : List.Forall₂ (Expands s root) entries expansions)
    (result : ((read settings root).outcome s).1 = .ok graph) :
    ∃ manifests, List.Forall₂ (fun member manifest? => manifestOf s (memberManifest root member) = .ok manifest?)
      expansions.flatten manifests ∧ graph = graphOf settings expansions.flatten manifests := by
  obtain ⟨t, run⟩ := exists_of_outcome_ok result
  obtain ⟨manifest', entries', expansions', manifests, again, counted', expands', each, crates, edges⟩ :=
    read_eq_ok run
  have same := readManifest_eq_ok.mp again
  rw [found] at same
  cases same
  rw [counted] at counted'
  cases counted'
  have unique : Relator.RightUnique (Expands s root) := fun _ _ _ => Expands.unique
  obtain rfl := unique.forall₂ expands expands'
  refine ⟨manifests, manifests_unlogged apart each, ?_⟩
  obtain ⟨_, _⟩ := graph
  dsimp only at crates edges
  rw [graphOf, edges, crates]

/-! ### A manifest that is replaced -/

section Replaced

variable {place : Place} {tree : FileTree}

/-- What an entry stands for does not hang on what a file holds. -/
theorem expandEntry_sameBut (same : s.tree.SameBut place tree) {entry : Text} {members : List Text}
    (run : (expandEntry root entry).outcome s = (.ok members, s)) :
    (expandEntry root entry).outcome { s with tree } = (.ok members, { s with tree }) := by
  by_cases pattern : Glob.isPattern entry = true
  · rw [expandEntry_pattern pattern] at run ⊢
    obtain ⟨kept, u, search, last⟩ := Program.outcome_bind_eq_ok run
    obtain ⟨still, found, searched, fine, rfl⟩ := Glob.searchFiles_eq_ok.mp search
    obtain rfl := still.symm
    cases last
    have again : (Glob.searchFiles root entry fun p => p.child manifestName).outcome { s with tree } =
        (.ok (found.filter fun p => s.tree.isFile s.directory (p.child manifestName)), { s with tree }) := by
      refine Glob.searchFiles_eq_ok.mpr ⟨rfl, found, ?_, fun p member => ?_, ?_⟩
      · exact (same.paths_eq s.directory root entry).trans searched
      · exact fun long => fine p member ((same.locate_eq s.directory _).symm.trans long)
      · exact List.filter_congr fun p _ => (same.isFile_eq s.directory _).symm
    exact Program.outcome_bind_ok again
  · unfold expandEntry at run ⊢
    rw [if_neg pattern] at run ⊢
    cases run
    rfl

theorem mapM_expandEntry_sameBut (same : s.tree.SameBut place tree) {entries : List Text}
    {expansions : List (List Text)} (run : (entries.mapM (expandEntry root)).outcome s = (.ok expansions, s)) :
    (entries.mapM (expandEntry root)).outcome { s with tree } = (.ok expansions, { s with tree }) := by
  induction entries generalizing expansions with
  | nil =>
    cases run
    rfl
  | cons entry entries ih =>
    rw [List.mapM_cons] at run ⊢
    obtain ⟨members, u, first, run⟩ := Program.outcome_bind_eq_ok run
    obtain ⟨others, v, rest, last⟩ := Program.outcome_bind_eq_ok run
    obtain ⟨rfl, _⟩ := expandEntry_eq_ok first
    obtain ⟨rfl, _⟩ := mapM_expandEntry_eq_ok rest
    cases last
    rw [Program.outcome_bind_ok (expandEntry_sameBut same first), Program.outcome_bind_ok (ih rest)]
    rfl

/-- Whether the manifest of a member is the file at a place. -/
def StandsOn (s : Session) (root : Path) (place : Place) (member : Text) : Prop :=
  destination s.directory (memberManifest root member) = place

instance (s : Session) (root : Path) (place : Place) (member : Text) :
    Decidable (StandsOn s root place member) := by
  unfold StandsOn
  infer_instance

/-- Manifests without those that are the file at a place. -/
def without (s : Session) (root : Path) (place : Place) (members : List Text)
    (manifests : List (Option (Dictionary Toml))) : List (Option (Dictionary Toml)) :=
  List.zipWith (fun member manifest? => if StandsOn s root place member then none else manifest?) members manifests

/-- A file that is not well formed is no manifest, and the other manifests stay as they are. -/
theorem manifestOf_set {mode : Nat} {old bytes : Bytes} (there : s.tree.lookup place = some (.file mode old))
    (malformed : manifestIn bytes = .ok none) {member : Text} {manifest? : Option (Dictionary Toml)}
    (known : manifestOf s (memberManifest root member) = .ok manifest?) :
    manifestOf { s with tree := s.tree.set place (.file mode bytes) } (memberManifest root member) =
      .ok (if StandsOn s root place member then none else manifest?) := by
  have same : s.tree.SameBut place (s.tree.set place (.file mode bytes)) := .inr ⟨mode, old, bytes, there, rfl⟩
  by_cases stands : StandsOn s root place member
  · rw [if_pos stands]
    rcases manifestOf_cases { s with tree := s.tree.set place (.file mode bytes) } (memberManifest root member)
      with long | ⟨contents, read⟩ | missing
    · rw [manifestOf_of_long ((same.locate_eq s.directory _).symm.trans long)] at known
      cases known
    · rw [manifestOf_of_read read]
      unfold FileTree.read at read
      dsimp only at read
      cases located : (s.tree.set place (.file mode bytes)).locate s.directory (memberManifest root member) with
      | error fault =>
        rw [located] at read
        cases read
      | ok found =>
        obtain rfl : found = place := (FileTree.locate_destination located).trans stands
        rw [located] at read
        dsimp only at read
        rw [FileTree.lookup_set_self (FileTree.ne_root_of_file there)] at read
        cases read
        exact malformed
    · exact missing
  · rw [if_neg stands, manifestOf_sameBut same stands]
    exact known

theorem manifests_set {mode : Nat} {old bytes : Bytes} (there : s.tree.lookup place = some (.file mode old))
    (malformed : manifestIn bytes = .ok none) {members : List Text} {manifests : List (Option (Dictionary Toml))}
    (each : List.Forall₂ (fun member manifest? => manifestOf s (memberManifest root member) = .ok manifest?)
      members manifests) :
    List.Forall₂ (fun member manifest? =>
      manifestOf { s with tree := s.tree.set place (.file mode bytes) } (memberManifest root member) =
        .ok manifest?) members (without s root place members manifests) := by
  induction each with
  | nil => exact .nil
  | cons known _ ih => exact .cons (manifestOf_set there malformed known) ih

end Replaced

/-! ### Graphs that differ -/

/-- The edges of a graph from a member. -/
def edgesFrom (g : WorkspaceGraph) (crate : Crate) : List DependencyEdge :=
  edgesTo (g.crates.map (·.name)) crate crate.pathDependencies

/-- The names of the members whose manifest is the file at a place, and those that they have without it. -/
def namesAt (s : Session) (root : Path) (place : Place) (g : WorkspaceGraph) : List Text :=
  (g.crates.zipIdx.filter fun (crate, _) => StandsOn s root place crate.memberPath).flatMap fun (crate, i) =>
    [crate.name, placeholderName i]

/-- Two graphs that differ in the members whose manifest is the file at a place, in the edges from them, and in
edges to names of theirs. -/
structure DiffersAt (settings : CrateSettings) (s : Session) (root : Path) (place : Place)
    (before after : WorkspaceGraph) : Prop where
  count : after.crates.length = before.crates.length
  changed : ∀ (i : Nat) (crate : Crate), before.crates[i]? = some crate → StandsOn s root place crate.memberPath →
    after.crates[i]? = some (crateOf settings i crate.memberPath none)
  kept : ∀ (i : Nat) (crate : Crate), before.crates[i]? = some crate → ¬ StandsOn s root place crate.memberPath →
    after.crates[i]? = some crate
  edges : ∀ crate, (after.edgesFrom crate).filter (fun edge => edge.target ∉ namesAt s root place before) =
    (before.edgesFrom crate).filter fun edge => edge.target ∉ namesAt s root place before

theorem mem_namesAt {place : Place} {g : WorkspaceGraph} {name : Text} : name ∈ namesAt s root place g ↔
    ∃ i crate, g.crates[i]? = some crate ∧ StandsOn s root place crate.memberPath ∧
      (name = crate.name ∨ name = placeholderName i) := by
  simp only [namesAt, List.mem_flatMap, List.mem_filter, Prod.exists, List.mem_zipIdx_iff_getElem?,
    decide_eq_true_eq, List.mem_cons, List.not_mem_nil, or_false]
  constructor
  · rintro ⟨crate, i, ⟨found, stands⟩, same⟩
    exact ⟨i, crate, found, stands, same⟩
  · rintro ⟨i, crate, found, stands, same⟩
    exact ⟨crate, i, ⟨found, stands⟩, same⟩

/-- Where the same names are known but for some, there are the same edges but for those to them. -/
theorem filter_edgesTo {names others away : List Text} (alike : ∀ name ∉ away, (name ∈ names ↔ name ∈ others))
    (crate : Crate) (keys : List Text) :
    (edgesTo names crate keys).filter (fun edge => edge.target ∉ away) =
      (edgesTo others crate keys).filter fun edge => edge.target ∉ away := by
  unfold edgesTo
  rw [List.filter_map, List.filter_map, List.filter_filter, List.filter_filter]
  refine congrArg _ (List.filter_congr fun name _ => ?_)
  by_cases gone : name ∈ away
  · simp [gone]
  · simp [gone, alike name gone]

theorem DiffersAt.of_crates {place : Place} {before after : WorkspaceGraph}
    (count : after.crates.length = before.crates.length)
    (changed : ∀ (i : Nat) (crate : Crate), before.crates[i]? = some crate → StandsOn s root place crate.memberPath →
      after.crates[i]? = some (crateOf settings i crate.memberPath none))
    (kept : ∀ (i : Nat) (crate : Crate), before.crates[i]? = some crate → ¬ StandsOn s root place crate.memberPath →
      after.crates[i]? = some crate) : DiffersAt settings s root place before after := by
  refine ⟨count, changed, kept, fun crate => filter_edgesTo ?_ crate crate.pathDependencies⟩
  intro name away
  rw [mem_namesAt] at away
  rw [List.mem_map, List.mem_map]
  constructor
  · rintro ⟨other, member, rfl⟩
    obtain ⟨i, found⟩ := List.mem_iff_getElem?.mp member
    have bound : i < before.crates.length := count ▸ (List.getElem?_eq_some_iff.mp found).1
    have was : before.crates[i]? = some before.crates[i] := List.getElem?_eq_getElem bound
    by_cases stands : StandsOn s root place before.crates[i].memberPath
    · rw [changed i _ was stands] at found
      cases found
      exact absurd ⟨i, _, was, stands, .inr rfl⟩ away
    · rw [kept i _ was stands] at found
      exact ⟨_, List.mem_of_getElem? was, congrArg Crate.name (Option.some.inj found)⟩
  · rintro ⟨other, member, rfl⟩
    obtain ⟨i, found⟩ := List.mem_iff_getElem?.mp member
    by_cases stands : StandsOn s root place other.memberPath
    · exact absurd ⟨i, other, found, stands, .inl rfl⟩ away
    · exact ⟨other, List.mem_of_getElem? (kept i other found stands), rfl⟩

/-- Without a manifest, the members that it described differ. -/
theorem differsAt_without (place : Place) {members : List Text} {manifests : List (Option (Dictionary Toml))}
    (same : members.length = manifests.length) :
    DiffersAt settings s root place (graphOf settings members manifests)
      (graphOf settings members (without s root place members manifests)) := by
  have known {i : Nat} {member : Text} {manifest? : Option (Dictionary Toml)} (here : members[i]? = some member)
      (described : manifests[i]? = some manifest?) : (without s root place members manifests)[i]? =
        some (if StandsOn s root place member then none else manifest?) := by
    rw [without, List.getElem?_zipWith, here, described]
  refine .of_crates ?_ ?_ ?_
  · simp [graphOf, cratesOf, without, same]
  · intro i crate found stands
    obtain ⟨member, manifest?, here, described, rfl⟩ := getElem?_cratesOf.mp found
    refine getElem?_cratesOf.mpr ⟨member, none, here, ?_, by rw [Nat.zero_add]; rfl⟩
    rw [known here described, if_pos (show StandsOn s root place member from stands)]
  · intro i crate found away
    obtain ⟨member, manifest?, here, described, rfl⟩ := getElem?_cratesOf.mp found
    refine getElem?_cratesOf.mpr ⟨member, manifest?, here, ?_, rfl⟩
    rw [known here described, if_neg (show ¬ StandsOn s root place member from away)]

/-! ### The graph -/

/-- A member without a manifest has the name of its position and no dependencies. -/
theorem undescribed_of_missing {members : List Text} {manifests : List (Option (Dictionary Toml))}
    (each : List.Forall₂ (fun member manifest? => manifestOf s (memberManifest root member) = .ok manifest?)
      members manifests) {i : Nat} {crate : Crate}
    (here : (graphOf settings members manifests).crates[i]? = some crate)
    (missing : manifestOf s (memberManifest root crate.memberPath) = .ok none) :
    crate.name = placeholderName i ∧ crate.pathDependencies = [] := by
  obtain ⟨member, manifest?, listed, described, rfl⟩ := getElem?_cratesOf.mp here
  have paired : (member, manifest?) ∈ members.zip manifests :=
    List.mem_of_getElem? (List.getElem?_zip_eq_some.mpr ⟨listed, described⟩)
  have known := (List.forall₂_iff_zip.mp each).2 paired
  obtain rfl : none = manifest? := Except.ok.inj (missing.symm.trans known)
  rw [Nat.zero_add]
  exact ⟨rfl, rfl⟩

/-- A workspace whose root manifest lists members that can be told is read, unless a member's manifest ends the
run. There is a member for each that is listed; those whose manifest is missing or not well formed have the name
of their position and no dependencies. To replace a member's manifest by bytes that are not well formed changes
the members that it described, the edges from them, and edges to their names. -/
theorem read_isolates (apart : Unlogged (IsManifest root) s) {manifest : Dictionary Toml} {entries : List Text}
    (found : manifestOf s (root.child manifestName) = .ok (some manifest))
    (counted : countedEntries manifest = .ok entries)
    (expandable : ∀ entry ∈ entries, IsExpandable s root entry) :
    ∃ expansions, List.Forall₂ (Expands s root) entries expansions ∧
      (((read settings root).outcome s).1.isOk = true ↔
        ∀ member ∈ expansions.flatten, ¬ EndsRun s (memberManifest root member)) ∧
      ∀ graph, ((read settings root).outcome s).1 = .ok graph →
        graph.crates.map (·.memberPath) = expansions.flatten ∧
        graph.edges = graph.crates.flatMap graph.edgesFrom ∧
        (∀ i crate, graph.crates[i]? = some crate →
          manifestOf s (memberManifest root crate.memberPath) = .ok none →
            crate.name = placeholderName i ∧ crate.pathDependencies = []) ∧
        ∀ place mode old bytes, s.tree.lookup place = some (.file mode old) →
          destination s.directory (root.child manifestName) ≠ place → manifestIn bytes = .ok none →
          ∃ after, ((read settings root).outcome { s with tree := s.tree.set place (.file mode bytes) }).1 = .ok after ∧
            after.edges = after.crates.flatMap after.edgesFrom ∧ DiffersAt settings s root place graph after := by
  obtain ⟨expansions, expanded⟩ := mapM_expandEntry_ok expandable
  have expands := (mapM_expandEntry_eq_ok expanded).2
  refine ⟨expansions, expands, ⟨fun success => ?_, fun fine => ?_⟩, fun graph result => ?_⟩
  · cases result : ((read settings root).outcome s).1 with
    | error failure =>
      rw [result] at success
      cases success
    | ok graph =>
      obtain ⟨manifests, each, _⟩ := eq_graphOf_of_read apart found counted expands result
      exact forall_not_endsRun_iff.mpr ⟨manifests, each⟩
  · obtain ⟨manifests, each⟩ := forall_not_endsRun_iff.mp fine
    rw [read_ok apart found counted expanded each]
    rfl
  · obtain ⟨manifests, each, rfl⟩ := eq_graphOf_of_read apart found counted expands result
    have count : expansions.flatten.length = manifests.length := each.length_eq
    refine ⟨memberPath_cratesOf count 0, edgesOf_eq_flatMap _, fun i crate => undescribed_of_missing each, ?_⟩
    intro place mode old bytes there elsewhere malformed
    have same : s.tree.SameBut place (s.tree.set place (.file mode bytes)) := .inr ⟨mode, old, bytes, there, rfl⟩
    have apart' : Unlogged (IsManifest root) { s with tree := s.tree.set place (.file mode bytes) } := apart
    exact ⟨_, read_ok apart' ((manifestOf_sameBut same elsewhere).trans found) counted
      (mapM_expandEntry_sameBut same expanded) (manifests_set there malformed each), edgesOf_eq_flatMap _,
      differsAt_without place count⟩

/-- A workspace of two members that depend on each other, where the manifest of the second one holds bytes. -/
def pairSession (bytes : Bytes) : Session :=
  Session.new
    { entries :=
        [(["Cargo.toml"], .file 0o644 (Utf8.encode "[workspace]\nmembers = ['a', 'b']\n")),
         (["a"], .directory),
         (["a", "Cargo.toml"], .file 0o644
           (Utf8.encode "[package]\nname = 'a'\n[dependencies]\nb.path = '../b'\n")),
         (["b"], .directory), (["b", "Cargo.toml"], .file 0o644 bytes)] }
    []

def wholeManifest : Bytes := Utf8.encode "[package]\nname = 'b'\n[dependencies]\na.path = '../a'\n"

def brokenManifest : Bytes := Utf8.encode "[package\n"

theorem exists_manifest_of_listed {p : Path} {entries : List Text}
    (listed : (manifestOf s p).toOption.map (fun manifest? =>
      manifest?.bind fun manifest => (countedEntries manifest).toOption) = some (some entries)) :
    ∃ manifest, manifestOf s p = .ok (some manifest) ∧ countedEntries manifest = .ok entries := by
  obtain ⟨manifest?, found, known⟩ := Program.exists_ok_of_toOption listed
  obtain ⟨manifest, rfl, counted⟩ := Option.bind_eq_some_iff.mp known
  refine ⟨manifest, found, ?_⟩
  obtain ⟨others, result, same⟩ := Program.exists_ok_of_toOption (f := id) (by rw [Option.map_id]; exact counted)
  rw [result, ← same]
  rfl

theorem read_isolates_pair :
    let before := pairSession wholeManifest
    let changed := { before with tree := before.tree.set ["b", "Cargo.toml"] (.file 0o644 brokenManifest) }
    ∃ graph after, ((read Config.standardCrates (Path.ofText "/")).outcome before).1 = .ok graph ∧
      ((read Config.standardCrates (Path.ofText "/")).outcome changed).1 = .ok after ∧
      graph.edges.length = 2 ∧ after.edges = [] ∧
      DiffersAt Config.standardCrates before (Path.ofText "/") ["b", "Cargo.toml"] graph after := by
  intro before changed
  have apart : Unlogged (IsManifest (Path.ofText "/")) before := fun place kept => nomatch kept
  obtain ⟨manifest, found, counted⟩ : ∃ manifest,
      manifestOf before ((Path.ofText "/").child manifestName) = .ok (some manifest) ∧
        countedEntries manifest = .ok ["a", "b"] := exists_manifest_of_listed (by decide +kernel)
  have plain : ∀ entry ∈ (["a", "b"] : List Text), Glob.isPattern entry = false := by decide
  have expandable : ∀ entry ∈ (["a", "b"] : List Text), IsExpandable before (Path.ofText "/") entry := by
    intro entry listed pattern
    rw [plain entry listed] at pattern
    cases pattern
  obtain ⟨expansions, _, _, graphs⟩ := read_isolates apart found counted expandable
  have whole : ((read Config.standardCrates (Path.ofText "/")).outcome before).1.toOption.map
      (·.edges.length) = some 2 := by decide +kernel
  have broken : ((read Config.standardCrates (Path.ofText "/")).outcome changed).1.toOption.map
      (·.edges) = some [] := by decide +kernel
  have unread : (manifestIn brokenManifest).toOption.map Option.isNone = some true := by decide +kernel
  obtain ⟨graph, result, count⟩ := Program.exists_ok_of_toOption whole
  obtain ⟨other, again, none⟩ := Program.exists_ok_of_toOption broken
  obtain ⟨manifest?, malformed, missing⟩ := Program.exists_ok_of_toOption unread
  rw [Option.isNone_iff_eq_none.mp missing] at malformed
  obtain ⟨_, _, _, replaced⟩ := graphs graph result
  obtain ⟨after, result', _, differs⟩ := replaced ["b", "Cargo.toml"] 0o644 wholeManifest brokenManifest
    (by decide +kernel) (by decide +kernel) malformed
  obtain rfl : other = after := Except.ok.inj (again.symm.trans result')
  exact ⟨graph, other, result, again, count, none, differs⟩

/-- A manifest that is no text ends the run. -/
theorem read_undecodable :
    (∃ manifest, manifestOf (pairSession [0xff]) ((Path.ofText "/").child manifestName) = .ok (some manifest) ∧
      countedEntries manifest = .ok ["a", "b"]) ∧
    ((read Config.standardCrates (Path.ofText "/")).outcome (pairSession [0xff])).1.isOk = false :=
  ⟨exists_manifest_of_listed (by decide +kernel), by decide +kernel⟩

end ReferencePages.WorkspaceGraph
