import ReferencePages.Proofs.Recipe.Reads
import Mathlib.Data.List.Nodup
/-!
What a source tree must have. One thing is asked for after the other, and the first one that is not as it must be is
what a run fails with. Nothing has been read by then.
-/

namespace ReferencePages

namespace Dictionary

variable {α : Type}

theorem set_of_fresh {key : Text} {d : Dictionary α} (fresh : key ∉ d.map Prod.fst) (value : α) :
    set key value d = d ++ [(key, value)] := by
  induction d with
  | nil => rfl
  | cons entry rest ih =>
    rw [List.map_cons, List.mem_cons, not_or] at fresh
    rw [set, if_neg (Ne.symm fresh.1), ih fresh.2]
    rfl

/-- Pairs with different keys are a dictionary as they are. -/
theorem ofList_eq_self {pairs : List (Text × α)} (once : (pairs.map Prod.fst).Nodup) : ofList pairs = pairs := by
  have folded {pairs : List (Text × α)} (d : Dictionary α) (once : ((d ++ pairs).map Prod.fst).Nodup) :
      pairs.foldl (fun d pair => set pair.1 pair.2 d) d = d ++ pairs := by
    induction pairs generalizing d with
    | nil => exact (List.append_nil d).symm
    | cons pair rest ih =>
      have fresh : pair.1 ∉ d.map Prod.fst := by
        rw [List.map_append, List.map_cons, List.nodup_append'] at once
        exact fun before => once.2.2 before (List.mem_cons_self ..)
      rw [List.append_cons] at once
      rw [List.foldl_cons, set_of_fresh fresh, ih _ once, ← List.append_cons]
  exact folded [] once

end Dictionary

namespace SourceTree

open Program (record)

/-- What must be there: the tree itself, and below it files and directories. -/
inductive Requirement
  | root
  | file (relative : Text)
  | directory (relative : Text)
  deriving DecidableEq, Repr

/-- Everything that must be there, in the order of asking. -/
def requirements (files directories : List (Text × Text)) : List Requirement :=
  .root :: (files.map (.file ·.2) ++ directories.map (.directory ·.2))

/-- A key with the path that it stands for. -/
def keyed (tree : SourceTree) (entry : Text × Text) : Text × Path := (entry.1, tree.root.child entry.2)

def mayRead (s : Session) (p : Path) : Bool :=
  match s.tree.locate s.directory p with
  | .ok place => !s.unreadable.contains place
  | .error _ => false

/-- Whether a path is too long to be asked about. -/
def IsTooLong (s : Session) (p : Path) : Prop := s.tree.locate s.directory p = .error .nameTooLong

instance (s : Session) (p : Path) : Decidable (IsTooLong s p) :=
  inferInstanceAs (Decidable (s.tree.locate s.directory p = .error .nameTooLong))

/-- What a run fails with where a path does not lead to what it must lead to. -/
def refusal (s : Session) (p : Path) (fault : ConfigurationFault) : Failure :=
  match s.tree.locate s.directory p with
  | .error .nameTooLong => .file { fault := .nameTooLong, path := p.toText, target := none }
  | _ => .configuration fault

variable {s : Session}

theorem refusal_of_isTooLong {p : Path} (long : IsTooLong s p) (fault : ConfigurationFault) :
    refusal s p fault = .file { fault := .nameTooLong, path := p.toText, target := none } := by
  rw [refusal, long]

theorem refusal_of_not_isTooLong {p : Path} (short : ¬ IsTooLong s p) (fault : ConfigurationFault) :
    refusal s p fault = .configuration fault := by
  unfold refusal
  split
  · rename_i long
    exact absurd long short
  · rfl

/-! ### One question

A question about a path is answered, and the state is as it was. Where nothing can be located the answer is no, except
that a path may be too long to be asked about. -/

theorem guard_outcome {α : Type} {ask : Program Bool} {there : Bool} {p : Path}
    (asked : ask.outcome s =
      (match s.tree.locate s.directory p with
        | .error .nameTooLong => .error (.file { fault := .nameTooLong, path := p.toText, target := none })
        | _ => .ok there, s))
    (absent : ∀ cause, s.tree.locate s.directory p = .error cause → there = false) (fault : ConfigurationFault)
    (next : Program α) :
    (do if !(← ask) then refuse fault else next : Program α).outcome s =
      if there then next.outcome s else (.error (refusal s p fault), s) := by
  rw [Program.outcome_bind, asked, refusal]
  cases located : s.tree.locate s.directory p with
  | error cause =>
    rw [absent cause located]
    cases cause <;> rfl
  | ok place => cases there <;> rfl

theorem isFile_guard {α : Type} (p : Path) (fault : ConfigurationFault) (next : Program α) :
    (do if !(← Program.isFile p) then refuse fault else next : Program α).outcome s =
      if s.tree.isFile s.directory p then next.outcome s else (.error (refusal s p fault), s) := by
  refine guard_outcome (Program.isFile_outcome p s) (fun cause located => ?_) fault next
  rw [FileTree.isFile, FileTree.node?, located]

theorem isDirectory_guard {α : Type} (p : Path) (fault : ConfigurationFault) (next : Program α) :
    (do if !(← Program.isDirectory p) then refuse fault else next : Program α).outcome s =
      if s.tree.isDirectory s.directory p then next.outcome s else (.error (refusal s p fault), s) := by
  refine guard_outcome (Program.isDirectory_outcome p s) (fun cause located => ?_) fault next
  rw [FileTree.isDirectory, FileTree.node?, located]
  rfl

theorem isReadable_guard {α : Type} (p : Path) (fault : ConfigurationFault) (next : Program α) :
    (do if !(← Program.isReadable p) then refuse fault else next : Program α).outcome s =
      if mayRead s p then next.outcome s else (.error (.configuration fault), s) := by
  have asked : (Program.isReadable p).outcome s = (.ok (mayRead s p), s) := Program.isReadable_outcome p s
  rw [Program.outcome_bind_ok asked]
  cases mayRead s p <;> rfl

/-! ### One requirement -/

namespace Requirement

variable (tree : SourceTree) (s : Session)

def path : Requirement → Path
  | root => tree.root
  | file relative => tree.root.child relative
  | directory relative => tree.root.child relative

def isMet : Requirement → Bool
  | root => s.tree.isDirectory s.directory tree.root
  | file relative =>
    s.tree.isFile s.directory (tree.root.child relative) && mayRead s (tree.root.child relative)
  | directory relative => s.tree.isDirectory s.directory (tree.root.child relative)

/-- What is wrong where a requirement is not met. -/
def fault : Requirement → ConfigurationFault
  | root => .sourceTreeMissing tree.root tree.variableName
  | file relative =>
    if s.tree.isFile s.directory (tree.root.child relative) then
      .sourceFileUnreadable (tree.root.child relative) tree.variableName
    else .sourceFileMissing (tree.root.child relative) tree.variableName
  | directory relative => .sourceDirectoryMissing (tree.root.child relative) tree.variableName

def failure (r : Requirement) : Failure := refusal s (r.path tree) (r.fault tree s)

def answer (r : Requirement) : Except Failure Path :=
  if r.isMet tree s then .ok (r.path tree) else .error (r.failure tree s)

variable {tree s}

/-- Every fault names what is required and the variable that points to another tree. -/
theorem fault_names (r : Requirement) :
    (r.fault tree s).path? = some (r.path tree) ∧ (r.fault tree s).variableName? = some tree.variableName := by
  cases r with
  | root => exact ⟨rfl, rfl⟩
  | file relative =>
    rw [fault]
    split <;> exact ⟨rfl, rfl⟩
  | directory relative => exact ⟨rfl, rfl⟩

end Requirement

variable {tree : SourceTree}

theorem requireFile_outcome (relative : Text) :
    (tree.requireFile relative).outcome s = ((Requirement.file relative).answer tree s, s) := by
  rw [requireFile, isFile_guard, isReadable_guard, Requirement.answer, Requirement.failure, Requirement.isMet,
    Requirement.fault, Requirement.path]
  cases there : s.tree.isFile s.directory (tree.root.child relative) with
  | false => rfl
  | true =>
    -- Only the second question is left, and a path that leads to a file is short enough for it.
    have short : ¬ IsTooLong s (tree.root.child relative) := by
      intro long
      rw [FileTree.isFile, FileTree.node?, long] at there
      cases there
    simp only [refusal_of_not_isTooLong short]
    cases mayRead s (tree.root.child relative) <;> rfl

theorem requireDirectory_outcome (relative : Text) :
    (tree.requireDirectory relative).outcome s = ((Requirement.directory relative).answer tree s, s) := by
  rw [requireDirectory, isDirectory_guard, Requirement.answer, Requirement.isMet]
  cases s.tree.isDirectory s.directory (tree.root.child relative) <;> rfl

/-! ### One after the other -/

/-- The first requirement that is not met. -/
def firstUnmet? (tree : SourceTree) (s : Session) (wanted : List Requirement) : Option Requirement :=
  wanted.find? (!·.isMet tree s)

theorem firstUnmet?_eq_none {wanted : List Requirement} :
    firstUnmet? tree s wanted = none ↔ ∀ r ∈ wanted, r.isMet tree s = true := by
  simp [firstUnmet?]

theorem firstUnmet?_eq_some {before after : List Requirement} {r : Requirement}
    (met : ∀ q ∈ before, q.isMet tree s = true) (unmet : r.isMet tree s = false) :
    firstUnmet? tree s (before ++ r :: after) = some r := by
  rw [firstUnmet?, List.find?_eq_some_iff_append]
  exact ⟨by rw [unmet]; rfl, before, after, rfl, fun q member => by rw [met q member]; rfl⟩

/-- What is asked for under keys is there for all of them, or fails with the first one that is not met. -/
theorem requireAll_outcome {require : Text → Program Path} {kind : Text → Requirement}
    (asked : ∀ relative, (require relative).outcome s = ((kind relative).answer tree s, s))
    (named : ∀ relative, (kind relative).path tree = tree.root.child relative) (wanted : List (Text × Text))
    (found : Dictionary Path) :
    (requireAll require wanted found).outcome s =
      (match firstUnmet? tree s (wanted.map (kind ·.2)) with
        | some r => .error (r.failure tree s)
        | none => .ok ((wanted.map tree.keyed).foldl (fun d entry => d.set entry.1 entry.2) found), s) := by
  induction wanted generalizing found with
  | nil => rfl
  | cons entry rest ih =>
    obtain ⟨key, relative⟩ := entry
    rw [requireAll, Program.outcome_bind, asked, Requirement.answer, List.map_cons, firstUnmet?]
    cases met : (kind relative).isMet tree s with
    | false =>
      rw [List.find?_cons_of_pos (by simp [met])]
      rfl
    | true =>
      rw [List.find?_cons_of_neg (by simp [met]), if_pos rfl, named, List.map_cons, List.foldl_cons]
      exact ih _

/-- Everything that is required is there, or the first requirement that is not met is what the run fails with. -/
theorem resolve_outcome (tree : SourceTree) (files directories : List (Text × Text)) (s : Session) :
    (tree.resolve files directories).outcome s =
      match firstUnmet? tree s (requirements files directories) with
      | some r => (.error (r.failure tree s), s)
      | none =>
        let found := Dictionary.ofList (files.map tree.keyed)
        let foundDirectories := Dictionary.ofList (directories.map tree.keyed)
        (.ok { root := tree.root, files := found, directories := foundDirectories },
          record s .debug "sources"
            ("Resolved " ++ Text.ofNat found.length ++ " files and " ++ Text.ofNat foundDirectories.length ++
              " directories under " ++ tree.root.toText)) := by
  rw [resolve, isDirectory_guard, requirements, firstUnmet?]
  cases met : s.tree.isDirectory s.directory tree.root with
  | false =>
    rw [List.find?_cons_of_pos (by simp [Requirement.isMet, met])]
    rfl
  | true =>
    rw [List.find?_cons_of_neg (by simp [Requirement.isMet, met]), List.find?_append, if_pos rfl,
      Program.outcome_bind, requireAll_outcome requireFile_outcome fun _ => rfl, firstUnmet?]
    cases (files.map (Requirement.file ·.2)).find? (!·.isMet tree s) with
    | some r => rfl
    | none =>
      -- The directories come last: what is asked of them decides, and only then is anything logged.
      dsimp only
      rw [Program.outcome_bind, requireAll_outcome requireDirectory_outcome fun _ => rfl, firstUnmet?, Option.none_or]
      cases (directories.map (Requirement.directory ·.2)).find? (!·.isMet tree s) <;> rfl

theorem forall_requirements {files directories : List (Text × Text)} :
    (∀ r ∈ requirements files directories, r.isMet tree s = true) ↔
      s.tree.isDirectory s.directory tree.root = true ∧
        (∀ entry ∈ files, s.tree.isFile s.directory (tree.root.child entry.2) = true ∧
          mayRead s (tree.root.child entry.2) = true) ∧
        ∀ entry ∈ directories, s.tree.isDirectory s.directory (tree.root.child entry.2) = true := by
  rw [requirements, List.forall_mem_cons, List.forall_mem_append, List.forall_mem_map, List.forall_mem_map]
  simp only [Requirement.isMet, Bool.and_eq_true]

/-- Sources are found exactly where the tree is a directory, every file is one that may be read and every directory
is one; each key then stands for its path below the tree. Otherwise the first requirement that is not met, of the tree,
the files and the directories in their order, is what is refused, with its path and the variable, and the state is as
it was. A path that is too long to be asked about is refused with an error of its own. No file is read. -/
theorem resolve_validates (tree : SourceTree) (files directories : List (Text × Text)) (s : Session) :
    ((∃ sources t, (tree.resolve files directories).outcome s = (.ok sources, t)) ↔
      s.tree.isDirectory s.directory tree.root = true ∧
        (∀ entry ∈ files, s.tree.isFile s.directory (tree.root.child entry.2) = true ∧
          mayRead s (tree.root.child entry.2) = true) ∧
        ∀ entry ∈ directories, s.tree.isDirectory s.directory (tree.root.child entry.2) = true) ∧
    (∀ sources t, (tree.resolve files directories).outcome s = (.ok sources, t) →
      sources.root = tree.root ∧
        ((files.map Prod.fst).Nodup → sources.files = files.map tree.keyed) ∧
        ((directories.map Prod.fst).Nodup → sources.directories = directories.map tree.keyed) ∧
        ∃ text, t = record s .debug "sources" text) ∧
    (∀ before r after, requirements files directories = before ++ r :: after →
      (∀ q ∈ before, q.isMet tree s = true) → r.isMet tree s = false →
        (¬ IsTooLong s (r.path tree) →
          (tree.resolve files directories).outcome s = (.error (.configuration (r.fault tree s)), s) ∧
            (r.fault tree s).path? = some (r.path tree) ∧
            (r.fault tree s).variableName? = some tree.variableName) ∧
        (IsTooLong s (r.path tree) → (tree.resolve files directories).outcome s =
          (.error (.file { fault := .nameTooLong, path := (r.path tree).toText, target := none }), s))) ∧
    Program.Reads (fun _ => False) (tree.resolve files directories) := by
  have run := resolve_outcome tree files directories s
  refine ⟨?_, ?_, ?_, tree.resolve_reads files directories⟩
  · rw [← forall_requirements, ← firstUnmet?_eq_none, run]
    cases firstUnmet? tree s (requirements files directories) with
    | some r => exact ⟨nofun, nofun⟩
    | none => exact ⟨fun _ => rfl, fun _ => ⟨_, _, rfl⟩⟩
  · intro sources t found
    rw [run] at found
    split at found
    · cases found
    · cases found
      have paths {wanted : List (Text × Text)} (once : (wanted.map Prod.fst).Nodup) :
          Dictionary.ofList (wanted.map tree.keyed) = wanted.map tree.keyed :=
        Dictionary.ofList_eq_self (by rwa [List.map_map])
      exact ⟨rfl, paths, paths, _, rfl⟩
  · intro before r after split met unmet
    rw [split, firstUnmet?_eq_some met unmet] at run
    refine ⟨fun short => ⟨run.trans ?_, r.fault_names⟩, fun long => run.trans ?_⟩
    · change (Except.error (refusal s (r.path tree) (r.fault tree s)), s) = _
      rw [refusal_of_not_isTooLong short]
    · change (Except.error (refusal s (r.path tree) (r.fault tree s)), s) = _
      rw [refusal_of_isTooLong long]

/-- A tree of two files of which one may not be read. -/
def lockedSession : Session :=
  { Session.new
      { entries :=
          [(["src"], .directory), (["src", "a"], .file 0o644 []), (["src", "b"], .file 0o000 [])] } [] with
    unreadable := [["src", "b"]] }

def lockedTree : SourceTree := { root := Path.ofText "/src", variableName := "SOURCES" }

theorem resolve_validates_locked :
    (∃ sources t, (lockedTree.resolve [("first", "a")] []).outcome lockedSession = (.ok sources, t) ∧
      sources.files = [("first".toList, Path.ofText "/src/a")]) ∧
    (lockedTree.resolve [("first", "a"), ("second", "b")] [("third", "c")]).outcome lockedSession =
      (.error (.configuration (.sourceFileUnreadable (Path.ofText "/src/b") "SOURCES")), lockedSession) := by
  constructor
  · obtain ⟨succeeds, found, _⟩ := resolve_validates lockedTree [("first", "a")] [] lockedSession
    obtain ⟨sources, t, run⟩ := succeeds.mpr (by decide +kernel)
    refine ⟨sources, t, run, ?_⟩
    rw [(found sources t run).2.1 (by decide)]
    decide +kernel
  · obtain ⟨-, -, refused, -⟩ :=
      resolve_validates lockedTree [("first", "a"), ("second", "b")] [("third", "c")] lockedSession
    have run := (refused [.root, .file "a"] (.file "b") [.directory "c"] rfl (by decide +kernel)
      (by decide +kernel)).1 (by decide +kernel)
    have fault : (Requirement.file "b").fault lockedTree lockedSession =
        .sourceFileUnreadable (Path.ofText "/src/b") "SOURCES" := by decide +kernel
    rw [run.1, fault]

/-- A file with a name that is too long is not there, and is not reported as missing either. -/
theorem resolve_overlong :
    (Requirement.file (List.replicate 256 'a')).isMet lockedTree lockedSession = false ∧
      ∃ failure, (lockedTree.resolve [("long", List.replicate 256 'a')] []).outcome lockedSession =
        (.error failure, lockedSession) ∧ ∀ fault, failure ≠ .configuration fault := by
  have unmet : (Requirement.file (List.replicate 256 'a')).isMet lockedTree lockedSession = false := by
    decide +kernel
  have found : lockedTree.firstUnmet? lockedSession (requirements [("long", List.replicate 256 'a')] []) =
      some (.file (List.replicate 256 'a')) := by decide +kernel
  have long : IsTooLong lockedSession ((Requirement.file (List.replicate 256 'a')).path lockedTree) := by
    decide +kernel
  refine ⟨unmet, _, by rw [resolve_outcome, found], ?_⟩
  rw [Requirement.failure, refusal_of_isTooLong long]
  exact nofun

end SourceTree
end ReferencePages
