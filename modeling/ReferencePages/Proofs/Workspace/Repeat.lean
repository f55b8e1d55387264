import ReferencePages.Proofs.Recipe.Reads
import ReferencePages.Proofs.Glob.Repeat
/-!
The graph of a workspace, read again in a tree that has grown. Manifests of members that were there are
there still; those that were missing are missing still, unless the way to a member has come to lead through
new directories.
-/

namespace ReferencePages.WorkspaceGraph

open FileTree (AddsNoDirectory LeadsDown LeadsOnward destination isPathTooLong)
open Program (Carries Later Reads Repeats Unlogged exists_of_outcome_ok)

variable {sources : Path → Prop} {hidden : Place → Prop} {s t : Session} {root : Path}

/-! ### Manifests -/

theorem isName_manifestName : IsName manifestName := ⟨by decide, by decide, by decide, by decide⟩

theorem manifestName_short : FileTree.isTooLong manifestName = false := by decide +kernel

theorem manifest_child (p : Path) :
    p.child manifestName = { p with parts := p.parts ++ [manifestName] } :=
  Path.child_of_name isName_manifestName p

/-- The manifest of the member at a path. -/
def memberManifest (root : Path) (member : Text) : Path := (root.child member).child manifestName

theorem memberManifest_eq_join (root : Path) (member : Text) : memberManifest root member =
    root.join { Path.ofText member with parts := Path.partsOf member ++ [manifestName] } := by
  rw [memberManifest, manifest_child, Path.child, Path.join, Path.join]
  split
  · rw [if_pos ‹_›]
    rfl
  · rw [if_neg ‹_›]
    exact congrArg (Path.mk root.anchor) (List.append_assoc ..)

/-- A manifest that can be read is read again. -/
theorem readManifest_repeats (later : Later sources hidden s t) {p : Path} (source : sources p)
    (seen : ¬ hidden (destination s.directory p))
    (readable : ∃ bytes, s.tree.read s.directory p = .ok bytes) :
    Repeats sources s t (readManifest p) := by
  refine ⟨readManifest_reads source, ?_⟩
  obtain ⟨bytes, read⟩ := readable
  intro manifest result
  unfold readManifest at result ⊢
  rw [Program.outcome_bind, Program.outcome_asks] at result ⊢
  rw [later.directory, later.grown.read_ok seen read]
  rw [read] at result
  dsimp only at result ⊢
  refine (Repeats.bind later (.ofExcept _ _) fun text => ?_).carries manifest result
  split
  · exact .pure _
  · exact .pure _
  · exact .throw _
  · exact .throw _

/-- A manifest that is well formed can be read. -/
theorem exists_of_readManifest {p : Path} {manifest : Dictionary Toml}
    (result : ((readManifest p).outcome s).1 = .ok (.ok manifest)) :
    ∃ bytes, s.tree.read s.directory p = .ok bytes := by
  unfold readManifest at result
  rw [Program.outcome_bind, Program.outcome_asks] at result
  cases read : s.tree.read s.directory p with
  | ok bytes => exact ⟨bytes, rfl⟩
  | error e =>
    rw [read] at result
    cases result

/-! ### Members -/

/-- The entries that count among those that a manifest declares. -/
def countedEntries (manifest : Dictionary Toml) : Except Failure (List Text) :=
  match Dictionary.get? "workspace" manifest with
  | some (.table workspace) =>
    match Dictionary.get? "members" workspace with
    | none => .ok []
    | some value => (listedMembers value).map fun entries =>
      entries.filter fun (e : Text) => e ≠ "." && e ≠ "./"
  | _ => .ok []

theorem memberPaths_eq (root : Path) (manifest : Dictionary Toml) : memberPaths root manifest = (do
    let entries ← Program.ofExcept id (countedEntries manifest)
    return (← entries.mapM (expandEntry root)).flatten) := by
  unfold memberPaths countedEntries
  cases Dictionary.get? "workspace" manifest with
  | none => rfl
  | some value =>
    cases value with
    | table workspace =>
      dsimp only
      cases Dictionary.get? "members" workspace with
      | none => rfl
      | some value =>
        dsimp only
        cases listedMembers value <;> rfl
    | _ => rfl

theorem expandEntry_pattern {entry : Text} (pattern : Glob.isPattern entry = true) :
    expandEntry root entry = Glob.searchFiles root entry (fun p => p.child manifestName) >>= fun members =>
      pure (Text.sort (members.map fun p => ((root.below? p).getD p).toText)) := by
  unfold expandEntry Glob.searchFiles
  rw [if_pos pattern]
  simp only [bind_assoc]

/-- What a pattern finds has its manifest where the text of its path says. -/
theorem memberManifest_of_search {u : FileTree} {directory : Place} {entry : Text} {found : List Path}
    {p : Path} (sound : u.IsSound) (search : Glob.paths u directory root entry = .ok found)
    (member : p ∈ found) :
    memberManifest root ((root.below? p).getD p).toText = p.child manifestName := by
  obtain ⟨names, rfl, clean, _⟩ := Glob.mem_paths sound search member
  rw [memberManifest, Path.child_below root clean]

/-- An entry stands for the same members again, as long as no path that it finds is too long. -/
theorem expandEntry_repeats (later : Later sources hidden s t) {entry : Text}
    (there : s.tree.isDirectory s.directory root = true)
    (leads : AddsNoDirectory s.tree t.tree ∨ Glob.IsOnward entry)
    (clear : ∀ member, ¬ hidden (destination s.directory (memberManifest root member)))
    (short : Glob.isPattern entry = true → ∀ found, Glob.paths t.tree t.directory root entry = .ok found →
      ∀ p ∈ found, isPathTooLong (p.child manifestName) = false) :
    Repeats sources s t (expandEntry root entry) := by
  by_cases pattern : Glob.isPattern entry = true
  · rw [expandEntry_pattern pattern]
    have down : LeadsDown [manifestName] := fun part member =>
      List.mem_singleton.mp member ▸ ⟨isName_manifestName.noDots, manifestName_short⟩
    refine .bind later (Glob.searchFiles_repeats later manifest_child down there leads ?_) fun _ => .pure _
    intro found search p member
    have seen := clear ((root.below? p).getD p).toText
    rw [memberManifest_of_search later.soundLater search member, ← later.directory] at seen
    exact ⟨short pattern found search p member, seen⟩
  · unfold expandEntry
    rw [if_neg pattern]
    exact .pure _

theorem memberPaths_repeats (later : Later sources hidden s t) {manifest : Dictionary Toml}
    (each : ∀ entries, countedEntries manifest = .ok entries →
      ∀ entry ∈ entries, Repeats sources s t (expandEntry root entry)) :
    Repeats sources s t (memberPaths root manifest) := by
  rw [memberPaths_eq]
  refine .bind_of later (.ofExcept _ _) (fun _ _ _ _ =>
    .bind (.mapM fun entry _ => expandEntry_reads root entry) fun _ => .pure _) ?_
  intro entries result
  obtain ⟨u, given⟩ := exists_of_outcome_ok result
  exact (Repeats.bind later (.mapM later (each entries (Program.ofExcept_eq_ok given))) fun _ =>
    .pure _).carries

/-- A member is an entry that is no pattern, or it has been found by its manifest. -/
theorem mem_memberPaths (sound : s.tree.IsSound) {manifest : Dictionary Toml} {members : List Text}
    (result : ((memberPaths root manifest).outcome s).1 = .ok members) {member : Text}
    (within : member ∈ members) :
    (∃ entries entry, countedEntries manifest = .ok entries ∧ entry ∈ entries ∧
      Glob.isPattern entry = false ∧ member = Text.trimEndWhile (· == '/') entry) ∨
      s.tree.isFile s.directory (memberManifest root member) = true := by
  have apart : Unlogged (fun _ => False) s := fun _ _ _ => False.elim
  rw [memberPaths_eq] at result
  obtain ⟨entries, given, result⟩ := (Reads.ofExcept _ _).bind_eq_ok
    (fun _ _ _ _ => .bind (.mapM fun entry _ => expandEntry_reads root entry) fun _ => .pure _) apart result
  obtain ⟨u, given⟩ := exists_of_outcome_ok given
  have counted := Program.ofExcept_eq_ok given
  obtain ⟨lists, expanded, result⟩ :=
    (Reads.mapM fun entry _ => expandEntry_reads root entry).bind_eq_ok (fun _ _ _ _ => .pure _) apart result
  cases result
  obtain ⟨expansion, listed, within⟩ := List.mem_flatten.mp within
  obtain ⟨entry, declared, result⟩ := Reads.mem_of_mapM (expandEntry_reads root) apart expanded listed
  cases pattern : Glob.isPattern entry with
  | false =>
    unfold expandEntry at result
    rw [if_neg (by rw [pattern]; exact Bool.false_ne_true)] at result
    cases result
    exact .inl ⟨entries, entry, counted, declared, pattern, List.mem_singleton.mp within⟩
  | true =>
    rw [expandEntry_pattern pattern] at result
    obtain ⟨u, run⟩ := exists_of_outcome_ok result
    obtain ⟨kept, v, search, last⟩ := Program.outcome_bind_eq_ok run
    cases last
    obtain ⟨p, found, rfl⟩ := List.mem_map.mp ((List.mergeSort_perm _ _).mem_iff.mp within)
    obtain ⟨file, all, searched, member⟩ := Glob.mem_of_searchFiles search found
    rw [memberManifest_of_search sound searched member]
    exact .inr file

/-- An entry that is no pattern and leads onward leads onward to its manifest. -/
theorem leadsOnward_manifest {entry : Text} (plain : Glob.isPattern entry = false)
    (leads : Glob.IsOnward entry) : LeadsOnward (Path.partsOf entry ++ [manifestName]) := by
  have last : LeadsDown [manifestName] := fun part member =>
    List.mem_singleton.mp member ▸ ⟨isName_manifestName.noDots, manifestName_short⟩
  have down : LeadsDown ((Path.partsOf entry).dropWhile fun part => decide (part = "..")) := by
    intro part member
    obtain ⟨forward, pattern | short⟩ := leads part member
    · obtain ⟨c, inside, sign⟩ := List.any_eq_true.mp pattern
      have within := (List.mem_filter.mp ((List.dropWhile_sublist _).mem member)).1
      have shown : Glob.isPattern entry = true :=
        List.any_eq_true.mpr ⟨c, Text.mem_of_mem_splitOnChar within inside, sign⟩
      rw [plain] at shown
      cases shown
    · exact ⟨forward, short⟩
  unfold LeadsOnward
  rw [List.dropWhile_append]
  split
  · exact fun part member => last part ((List.dropWhile_sublist _).mem member)
  · exact fun part member => (List.mem_append.mp member).elim (down part) (last part)

/-- Whether an entry that is no pattern has a manifest is answered as before. -/
theorem isFile_memberManifest (later : Later sources hidden s t) {entry : Text}
    (there : s.tree.isDirectory s.directory root = true)
    (leads : AddsNoDirectory s.tree t.tree ∨ Glob.IsOnward entry) (plain : Glob.isPattern entry = false)
    (clear : ∀ member, ¬ hidden (destination s.directory (memberManifest root member))) :
    Carries s t (Program.isFile (memberManifest root (Text.trimEndWhile (· == '/') entry))) := by
  intro answer result
  obtain ⟨u, run⟩ := exists_of_outcome_ok result
  obtain ⟨_, known, fine⟩ := Program.isFile_eq_ok.mp run
  have seen := clear (Text.trimEndWhile (· == '/') entry)
  have onward : AddsNoDirectory s.tree t.tree ∨
      LeadsOnward (Path.partsOf (Text.trimEndWhile (· == '/') entry) ++ [manifestName]) := by
    rw [Path.partsOf_trimEnd]
    exact leads.imp_right (leadsOnward_manifest plain)
  rw [memberManifest_eq_join] at known fine seen ⊢
  obtain ⟨again, same⟩ := later.grown.isFile_join_eq later.sound there onward fine seen
  rw [← later.directory] at again same
  have answered := Program.isFile_eq_ok.mpr ⟨rfl, rfl, again⟩
  rw [answered, known, same, later.directory]

/-- A member is described again as long as its manifest is there or missing as before. -/
theorem describeMember_repeats (later : Later sources hidden s t) {member : Text}
    (source : sources (memberManifest root member))
    (seen : ¬ hidden (destination s.directory (memberManifest root member)))
    (asks : Carries s t (Program.isFile (memberManifest root member))) (index : Nat) :
    Repeats sources s t (describeMember root member index) := by
  unfold describeMember
  refine .bind_of later ⟨.isFile _, asks⟩ ?_ ?_
  · intro u there v _
    split
    · refine .bind (readManifest_reads source) fun found => ?_
      split
      · exact .pure _
      · exact .bind (.log _ _ _) fun _ => .pure _
    · exact .bind (.log _ _ _) fun _ => .pure _
  · intro there asked
    split
    · rename_i found
      obtain ⟨u, run⟩ := exists_of_outcome_ok asked
      obtain ⟨_, known, _⟩ := Program.isFile_eq_ok.mp run
      have readable := FileTree.read_of_isFile (known.symm.trans found)
      refine (Repeats.bind later (readManifest_repeats later source seen readable) fun found => ?_).carries
      split
      · exact .pure _
      · exact .bind later (.log _ _ _) fun _ => .pure _
    · exact (Repeats.bind later (.log _ _ _) fun _ => .pure _).carries

theorem readMembers_repeats (later : Later sources hidden s t)
    (source : ∀ member, sources (memberManifest root member))
    (clear : ∀ member, ¬ hidden (destination s.directory (memberManifest root member)))
    (settings : CrateSettings) {members : List Text}
    (asks : ∀ member ∈ members, Carries s t (Program.isFile (memberManifest root member)))
    (index : Nat) : Repeats sources s t (readMembers settings root members index) := by
  induction members generalizing index with
  | nil => exact .pure _
  | cons member members ih =>
    obtain ⟨first, rest⟩ := List.forall_mem_cons.mp asks
    exact .bind later (describeMember_repeats later (source member) (clear member) first index) fun _ =>
      .bind later (ih rest _) fun _ => .pure _

/-! ### The graph -/

/-- An entry that counts in the manifest at a root. -/
def Lists (s : Session) (root : Path) (entry : Text) : Prop :=
  ∃ manifest entries, ((readManifest (root.child manifestName)).outcome s).1 = .ok (.ok manifest) ∧
    countedEntries manifest = .ok entries ∧ entry ∈ entries

/-- The graph is read again, as long as no entry leads to new directories and back to a member, and no
pattern finds a path that is too long. -/
theorem read_repeats (later : Later sources hidden s t)
    (source : ∀ member, sources (memberManifest root member)) (first : sources (root.child manifestName))
    (there : s.tree.isDirectory s.directory root = true)
    (seen : ¬ hidden (destination s.directory (root.child manifestName)))
    (clear : ∀ member, ¬ hidden (destination s.directory (memberManifest root member)))
    (leads : AddsNoDirectory s.tree t.tree ∨ ∀ entry, Lists s root entry → Glob.IsOnward entry)
    (short : ∀ entry, Lists s root entry → Glob.isPattern entry = true →
      ∀ found, Glob.paths t.tree t.directory root entry = .ok found →
        ∀ p ∈ found, isPathTooLong (p.child manifestName) = false) (settings : CrateSettings) :
    Repeats sources s t (read settings root) := by
  refine ⟨read_reads first source settings, ?_⟩
  unfold read
  refine .bind later (readManifest_reads first) ?_ ?_
  · intro u found v _
    split
    · exact .bind (memberPaths_reads root _) fun _ => .bind (readMembers_reads source settings _ _) fun _ =>
        .pure _
    · split
      · exact .throw _
      · exact .throw _
    · exact .throw _
  intro found graph before after
  split at after
  · rename_i manifest
    refine ⟨(readManifest_repeats later first seen (exists_of_readManifest before)).carries _ before, ?_⟩
    have listed {entries : List Text} {entry : Text} (counted : countedEntries manifest = .ok entries)
        (member : entry ∈ entries) : Lists s root entry := ⟨manifest, entries, before, counted, member⟩
    have expanded : Repeats sources s t (memberPaths root manifest) :=
      memberPaths_repeats later fun entries counted entry member =>
        expandEntry_repeats later there (leads.imp_right fun leads => leads entry (listed counted member))
          clear (short entry (listed counted member))
    refine (Repeats.bind_of later expanded (fun _ _ _ _ => .bind (readMembers_reads source settings _ _)
      fun _ => .pure _) ?_).carries graph after
    intro members result
    refine (Repeats.bind later (readMembers_repeats later source clear settings ?_ 0) fun _ =>
      .pure _).carries
    intro member within
    rcases mem_memberPaths later.sound result within with
      ⟨entries, entry, counted, declared, plain, rfl⟩ | file
    · exact isFile_memberManifest later there
        (leads.imp_right fun leads => leads entry (listed counted declared)) plain clear
    · intro answer asked
      obtain ⟨u, run⟩ := exists_of_outcome_ok asked
      obtain ⟨_, known, _⟩ := Program.isFile_eq_ok.mp run
      rw [file] at known
      subst known
      exact later.isFile asked
  · split at after <;> cases after
  · cases after

end ReferencePages.WorkspaceGraph
