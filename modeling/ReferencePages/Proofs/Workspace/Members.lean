import ReferencePages.Proofs.Workspace.Repeat
import ReferencePages.Proofs.Text.Order
import Mathlib.Data.List.Forall2
/-!
The members of a workspace. Every entry of the manifest stands for members in its place, and every member is
described by its own manifest, which may be missing or not well formed.
-/

namespace ReferencePages.WorkspaceGraph

open FileTree (destination)
open Program (Logged Reads Unlogged exists_of_outcome_ok)

variable {s t : Session} {root : Path} {settings : CrateSettings}

/-! ### Entries -/

/-- The members that an entry stands for: itself without slashes at its end, or, if it is a pattern, all that it
finds with a manifest below, in the order of their texts. -/
inductive Expands (s : Session) (root : Path) : Text → List Text → Prop
  | plain {entry : Text} (plain : Glob.isPattern entry = false) :
    Expands s root entry [Text.trimEndWhile (· == '/') entry]
  | pattern {entry : Text} {found : List Path} {members : List Text} (pattern : Glob.isPattern entry = true)
      (search : Glob.paths s.tree s.directory root entry = .ok found)
      (kept : members.Perm ((found.filter fun p => s.tree.isFile s.directory (p.child manifestName)).map
        fun p => ((root.below? p).getD p).toText))
      (sorted : members.Pairwise fun a b => Text.precedes b a = false) : Expands s root entry members

/-- An entry stands for one list of members. -/
theorem Expands.unique {entry : Text} {members others : List Text} (first : Expands s root entry members)
    (second : Expands s root entry others) : members = others := by
  cases first with
  | plain plain =>
    cases second with
    | plain _ => rfl
    | pattern pattern => exact absurd pattern (by simp [plain])
  | pattern pattern search kept sorted =>
    cases second with
    | plain plain => exact absurd pattern (by simp [plain])
    | pattern _ search' kept' sorted' =>
      rw [search] at search'
      cases search'
      exact (kept.trans kept'.symm).eq_of_pairwise
        (fun _ _ _ _ before after => Text.eq_of_not_precedes after before) sorted sorted'

theorem expandEntry_eq_ok {entry : Text} {members : List Text} {u : Session}
    (run : (expandEntry root entry).outcome s = (.ok members, u)) : u = s ∧ Expands s root entry members := by
  by_cases pattern : Glob.isPattern entry = true
  · rw [expandEntry_pattern pattern] at run
    obtain ⟨kept, v, search, last⟩ := Program.outcome_bind_eq_ok run
    obtain ⟨rfl, found, searched, _, rfl⟩ := Glob.searchFiles_eq_ok.mp search
    cases last
    exact ⟨rfl, .pattern pattern searched (List.mergeSort_perm _ _) (Text.pairwise_sort _)⟩
  · unfold expandEntry at run
    rw [if_neg pattern] at run
    cases run
    exact ⟨rfl, .plain (by simpa using pattern)⟩

/-- An entry whose members can be told: a pattern can be searched for, and whether there is a manifest can be
asked of all that it finds. -/
def IsExpandable (s : Session) (root : Path) (entry : Text) : Prop :=
  Glob.isPattern entry = true → ∃ found, Glob.paths s.tree s.directory root entry = .ok found ∧
    ∀ p ∈ found, s.tree.locate s.directory (p.child manifestName) ≠ .error .nameTooLong

theorem expandEntry_ok {entry : Text} (expandable : IsExpandable s root entry) :
    ∃ members, (expandEntry root entry).outcome s = (.ok members, s) := by
  by_cases pattern : Glob.isPattern entry = true
  · obtain ⟨found, search, fine⟩ := expandable pattern
    rw [expandEntry_pattern pattern]
    exact ⟨_, Program.outcome_bind_ok (Glob.searchFiles_eq_ok.mpr ⟨rfl, found, search, fine, rfl⟩)⟩
  · unfold expandEntry
    rw [if_neg pattern]
    exact ⟨_, rfl⟩

theorem mapM_expandEntry_eq_ok {entries : List Text} {expansions : List (List Text)} {u : Session}
    (run : (entries.mapM (expandEntry root)).outcome s = (.ok expansions, u)) :
    u = s ∧ List.Forall₂ (Expands s root) entries expansions := by
  induction entries generalizing expansions u with
  | nil =>
    cases run
    exact ⟨rfl, .nil⟩
  | cons entry entries ih =>
    rw [List.mapM_cons] at run
    obtain ⟨members, v, first, run⟩ := Program.outcome_bind_eq_ok run
    obtain ⟨others, x, rest, last⟩ := Program.outcome_bind_eq_ok run
    obtain ⟨rfl, expands⟩ := expandEntry_eq_ok first
    obtain ⟨rfl, each⟩ := ih rest
    cases last
    exact ⟨rfl, .cons expands each⟩

theorem mapM_expandEntry_ok {entries : List Text} (expandable : ∀ entry ∈ entries, IsExpandable s root entry) :
    ∃ expansions, (entries.mapM (expandEntry root)).outcome s = (.ok expansions, s) := by
  induction entries with
  | nil => exact ⟨[], rfl⟩
  | cons entry entries ih =>
    obtain ⟨first, rest⟩ := List.forall_mem_cons.mp expandable
    obtain ⟨members, expanded⟩ := expandEntry_ok first
    obtain ⟨others, later⟩ := ih rest
    refine ⟨members :: others, ?_⟩
    rw [List.mapM_cons, Program.outcome_bind_ok expanded, Program.outcome_bind_ok later]
    rfl

/-- The members of a manifest are those of its entries, one entry after the other. -/
theorem memberPaths_eq_ok {manifest : Dictionary Toml} {members : List Text} {u : Session}
    (run : (memberPaths root manifest).outcome s = (.ok members, u)) :
    u = s ∧ ∃ entries expansions, countedEntries manifest = .ok entries ∧
      List.Forall₂ (Expands s root) entries expansions ∧ members = expansions.flatten := by
  rw [memberPaths_eq] at run
  obtain ⟨entries, v, first, run⟩ := Program.outcome_bind_eq_ok run
  obtain ⟨expansions, x, expanded, last⟩ := Program.outcome_bind_eq_ok run
  have counted := Program.ofExcept_eq_ok first
  rw [counted] at first
  cases first
  obtain ⟨rfl, each⟩ := mapM_expandEntry_eq_ok expanded
  cases last
  exact ⟨rfl, entries, expansions, counted, each, rfl⟩

/-! ### Manifests -/

/-- The manifest that bytes are, or nothing if they are a text that is not well formed. Bytes that are no text
are a failure, and so are a number and a depth beyond what can be read. -/
def manifestIn (bytes : Bytes) : Except Failure (Option (Dictionary Toml)) :=
  match Utf8.decode bytes with
  | .error e => .error (.undecodable e)
  | .ok text =>
    match Toml.read text with
    | .ok manifest => .ok (some manifest)
    | .error .malformed => .ok none
    | .error (.numberTooLong digits) => .error (.numberTooLong digits)
    | .error .tooDeep => .error .tooDeep

/-- The manifest at a path, or nothing if there is no file or it is not well formed. A path that is too long to
be asked about is a failure. -/
def manifestOf (s : Session) (p : Path) : Except Failure (Option (Dictionary Toml)) :=
  match s.tree.locate s.directory p with
  | .ok place =>
    match s.tree.lookup place with
    | some (.file _ bytes) => manifestIn bytes
    | _ => .ok none
  | .error .nameTooLong => .error (.file { fault := .nameTooLong, path := p.toText, target := none })
  | .error _ => .ok none

theorem readManifest_outcome {p : Path} {bytes : Bytes} (read : s.tree.read s.directory p = .ok bytes) :
    (readManifest p).outcome s = ((manifestIn bytes).map fun manifest? =>
      match manifest? with
      | some manifest => .ok manifest
      | none => .error .malformed, s) := by
  unfold readManifest manifestIn
  rw [Program.outcome_bind, Program.outcome_asks, read]
  dsimp only
  cases Utf8.decode bytes with
  | error e => rfl
  | ok text =>
    refine (Program.outcome_bind_ok (show (Program.ofExcept _ _).outcome s = (.ok text, s) from rfl)).trans ?_
    dsimp only
    cases Toml.read text with
    | ok manifest => rfl
    | error e => cases e <;> rfl

theorem manifestOf_of_read {p : Path} {bytes : Bytes} (read : s.tree.read s.directory p = .ok bytes) :
    manifestOf s p = manifestIn bytes := by
  unfold FileTree.read at read
  unfold manifestOf
  cases located : s.tree.locate s.directory p with
  | error fault =>
    rw [located] at read
    cases read
  | ok place =>
    rw [located] at read
    dsimp only at read ⊢
    split at read
    · rename_i mode contents found
      cases read
      rw [found]
    all_goals cases read

/-- The way to a manifest is too long, or it is read, or there is none. -/
theorem manifestOf_cases (s : Session) (p : Path) :
    s.tree.locate s.directory p = .error .nameTooLong ∨ (∃ bytes, s.tree.read s.directory p = .ok bytes) ∨
      manifestOf s p = .ok none := by
  unfold manifestOf FileTree.read
  cases located : s.tree.locate s.directory p with
  | error fault => cases fault <;> simp
  | ok place =>
    cases found : s.tree.lookup place with
    | none => exact .inr (.inr (by simp only [found]))
    | some node => cases node <;> simp [found]

theorem manifestOf_of_long {p : Path} (long : s.tree.locate s.directory p = .error .nameTooLong) :
    manifestOf s p = .error (.file { fault := .nameTooLong, path := p.toText, target := none }) := by
  rw [manifestOf, long]

/-- A manifest that is read is the one at its path. -/
theorem readManifest_eq_ok {p : Path} {manifest : Dictionary Toml} :
    ((readManifest p).outcome s).1 = .ok (.ok manifest) ↔ manifestOf s p = .ok (some manifest) := by
  constructor
  · intro result
    obtain ⟨bytes, read⟩ := exists_of_readManifest result
    rw [readManifest_outcome read] at result
    rw [manifestOf_of_read read]
    cases known : manifestIn bytes with
    | error failure =>
      rw [known] at result
      cases result
    | ok manifest? =>
      rw [known] at result
      cases manifest? with
      | none => cases result
      | some other =>
        cases result
        rfl
  · intro known
    rcases manifestOf_cases s p with long | ⟨bytes, read⟩ | missing
    · rw [manifestOf_of_long long] at known
      cases known
    · rw [manifestOf_of_read read] at known
      rw [readManifest_outcome read, known]
      rfl
    · rw [missing] at known
      cases known

/-- What the file at another place holds does not tell on a manifest. -/
theorem manifestOf_sameBut {p : Path} {place : Place} {tree : FileTree} (same : s.tree.SameBut place tree)
    (apart : destination s.directory p ≠ place) : manifestOf { s with tree } p = manifestOf s p := by
  unfold manifestOf
  dsimp only
  rw [same.locate_eq]
  cases located : s.tree.locate s.directory p with
  | error fault => cases fault <;> rfl
  | ok found =>
    have other : found ≠ place := FileTree.locate_destination located ▸ apart
    dsimp only
    rw [same.lookup_eq other]

theorem manifestOf_logged {p : Path} (logged : Logged s t)
    (apart : ∀ place, s.logFile = some place → destination s.directory p ≠ place) :
    manifestOf t p = manifestOf s p := by
  obtain ⟨tree, log, rfl, rfl | ⟨place, kept, same⟩⟩ := logged
  · rfl
  · exact manifestOf_sameBut same (apart place kept)

/-! ### Descriptions -/

/-- The name and the dependencies of a member with a manifest or without one. -/
def describe (index : Nat) (member : Text) : Option (Dictionary Toml) → Text × List Text
  | some manifest => ((declaredName? manifest).getD (Path.ofText member).name, localDependencies manifest)
  | none => (placeholderName index, [])

/-- The member at a position. -/
def crateOf (settings : CrateSettings) (index : Nat) (member : Text) (manifest? : Option (Dictionary Toml)) :
    Crate :=
  { name := (describe index member manifest?).1
    memberPath := member
    category := Category.classify settings member (describe index member manifest?).1
    pathDependencies := (describe index member manifest?).2 }

/-- A member is described by its manifest. -/
theorem describeMember_outcome (s : Session) (root : Path) (member : Text) (index : Nat) :
    ((describeMember root member index).outcome s).1 =
      (manifestOf s (memberManifest root member)).map (describe index member) := by
  unfold describeMember manifestOf
  rw [Program.outcome_bind, Program.isFile_outcome]
  change _ = (match s.tree.locate s.directory ((root.child member).child manifestName) with
    | .ok place => _
    | .error .nameTooLong => _
    | .error _ => _ : Except Failure _).map _
  cases located : s.tree.locate s.directory ((root.child member).child manifestName) with
  | error fault =>
    have missing : s.tree.isFile s.directory ((root.child member).child manifestName) = false := by
      unfold FileTree.isFile FileTree.node?
      rw [located]
    cases fault <;> simp only [missing] <;> rfl
  | ok place =>
    have answer : s.tree.isFile s.directory ((root.child member).child manifestName) =
        match s.tree.lookup place with
        | some (.file ..) => true
        | _ => false := by
      unfold FileTree.isFile FileTree.node?
      exact located ▸ rfl
    dsimp only
    rw [answer]
    cases found : s.tree.lookup place with
    | none => rfl
    | some node =>
      cases node with
      | directory => rfl
      | file mode bytes =>
        have read : s.tree.read s.directory ((root.child member).child manifestName) = .ok bytes := by
          unfold FileTree.read
          rw [located]
          dsimp only
          rw [found]
        dsimp only
        rw [if_pos rfl, Program.outcome_bind, readManifest_outcome read]
        cases manifestIn bytes with
        | error failure => rfl
        | ok manifest? => cases manifest? <;> rfl

/-! ### All members -/

/-- What a path is read as in a run that begins in a state. The log file alone changes in such a run. -/
def IsReadAs (s : Session) (p : Path) (manifest? : Option (Dictionary Toml)) : Prop :=
  ∃ u, Logged s u ∧ manifestOf u p = .ok manifest?

/-- The members from a position on, each with its manifest if it has one. -/
def cratesOf (settings : CrateSettings) (members : List Text) (manifests : List (Option (Dictionary Toml)))
    (index : Nat) : List Crate :=
  ((members.zip manifests).zipIdx index).map fun ((member, manifest?), i) => crateOf settings i member manifest?

/-- The manifest of the root or of a member. -/
def IsManifest (root p : Path) : Prop :=
  p = root.child manifestName ∨ ∃ member, p = memberManifest root member

theorem isManifest_member (root : Path) (member : Text) : IsManifest root (memberManifest root member) :=
  .inr ⟨member, rfl⟩

/-- One member after the other is described by what its manifest is read as. -/
theorem readMembers_eq_ok {members : List Text} {index : Nat} {crates : List Crate}
    (run : (readMembers settings root members index).outcome s = (.ok crates, t)) :
    ∃ manifests, List.Forall₂ (fun member => IsReadAs s (memberManifest root member)) members manifests ∧
      crates = cratesOf settings members manifests index := by
  induction members generalizing s t index crates with
  | nil =>
    cases run
    exact ⟨[], .nil, rfl⟩
  | cons member members ih =>
    obtain ⟨⟨name, dependencies⟩, u, first, run⟩ := Program.outcome_bind_eq_ok run
    obtain ⟨others, v, rest, last⟩ := Program.outcome_bind_eq_ok run
    obtain ⟨manifests, each, rfl⟩ := ih rest
    have logged : Logged s u := by
      have moved := (describeMember_reads (isManifest_member root member) index).logged s
      rwa [first] at moved
    have described := describeMember_outcome s root member index
    rw [first] at described
    cases known : manifestOf s (memberManifest root member) with
    | error failure =>
      rw [known] at described
      cases described
    | ok manifest? =>
      rw [known] at described
      obtain ⟨rfl, rfl⟩ := Prod.mk.inj (Except.ok.inj described)
      cases last
      refine ⟨manifest? :: manifests, .cons ⟨s, Program.Steady.refl s, known⟩ (each.imp ?_), rfl⟩
      rintro _ _ ⟨x, later, read⟩
      exact ⟨x, Program.Steady.trans logged later, read⟩

/-- Members whose manifests are known are described by them. -/
theorem readMembers_ok (apart : Unlogged (IsManifest root) s) {members : List Text}
    {manifests : List (Option (Dictionary Toml))}
    (each : List.Forall₂ (fun member manifest? => manifestOf s (memberManifest root member) = .ok manifest?)
      members manifests) (index : Nat) :
    ((readMembers settings root members index).outcome s).1 = .ok (cratesOf settings members manifests index) := by
  induction each generalizing index with
  | nil => rfl
  | @cons member manifest? members manifests known _ ih =>
    have described := describeMember_outcome s root member index
    rw [known] at described
    have reads (member : Text) : Reads (IsManifest root) (describeMember root member index) :=
      describeMember_reads (isManifest_member root member) index
    have rest := (readMembers_reads (isManifest_member root) settings members (index + 1)).bind_ok
      (f := fun others => pure (crateOf settings index member manifest? :: others)) (fun _ _ _ _ => .pure _) apart
      (ih (index + 1)) rfl
    exact (reads member).bind_ok (fun _ _ _ _ => .bind (readMembers_reads (isManifest_member root) settings _ _)
      fun _ => .pure _) apart described rest

end ReferencePages.WorkspaceGraph
