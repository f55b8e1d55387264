import ReferencePages.Proofs.Program.Outcome
import ReferencePages.Proofs.FileTree.Destination
/-!
What the steps on files come to: a question leaves the state as it is, and directories that are made are
all that making them changes.
-/

namespace ReferencePages.Program

theorem reach_outcome (stage : WriteStage) (interruption? : Option Interruption) (s : Session) :
    ((reach stage interruption?).outcome s).2 = s := by
  unfold reach
  split
  · split <;> rfl
  · rfl

/-- What is asked of a path leaves the state as it is. -/
theorem node?_outcome (p : Path) (s : Session) :
    (node? p).outcome s =
      (match s.tree.locate s.directory p with
        | .ok place => .ok (s.tree.lookup place)
        | .error .nameTooLong => .error (.file { fault := .nameTooLong, path := p.toText, target := none })
        | .error _ => .ok none, s) := by
  unfold node?
  rw [outcome_bind, outcome_asks]
  cases s.tree.locate s.directory p with
  | ok place => rfl
  | error fault => cases fault <;> rfl

theorem isFile_outcome (p : Path) (s : Session) :
    (isFile p).outcome s =
      (match s.tree.locate s.directory p with
        | .error .nameTooLong => .error (.file { fault := .nameTooLong, path := p.toText, target := none })
        | _ => .ok (s.tree.isFile s.directory p), s) := by
  unfold isFile FileTree.isFile FileTree.node?
  rw [outcome_bind, node?_outcome]
  cases s.tree.locate s.directory p with
  | error fault => cases fault <;> rfl
  | ok place =>
    cases found : s.tree.lookup place with
    | none => simp only [found]; rfl
    | some node => cases node <;> simp only [found] <;> rfl

theorem isDirectory_outcome (p : Path) (s : Session) :
    (isDirectory p).outcome s =
      (match s.tree.locate s.directory p with
        | .error .nameTooLong => .error (.file { fault := .nameTooLong, path := p.toText, target := none })
        | _ => .ok (s.tree.isDirectory s.directory p), s) := by
  unfold isDirectory FileTree.isDirectory FileTree.node?
  rw [outcome_bind, node?_outcome]
  cases s.tree.locate s.directory p with
  | error fault => cases fault <;> rfl
  | ok place => rfl

/-- An answer about a file leaves the state as it is, and the path is not too long to be asked about. -/
theorem isFile_eq_ok {p : Path} {s t : Session} {answer : Bool} :
    (isFile p).outcome s = (.ok answer, t) ↔ t = s ∧ answer = s.tree.isFile s.directory p ∧
      s.tree.locate s.directory p ≠ .error .nameTooLong := by
  rw [isFile_outcome]
  cases s.tree.locate s.directory p with
  | ok place => simp [eq_comm, and_comm]
  | error fault => cases fault <;> simp [eq_comm, and_comm]

theorem isDirectory_eq_ok {p : Path} {s t : Session} {answer : Bool} :
    (isDirectory p).outcome s = (.ok answer, t) ↔ t = s ∧ answer = s.tree.isDirectory s.directory p ∧
      s.tree.locate s.directory p ≠ .error .nameTooLong := by
  rw [isDirectory_outcome]
  cases s.tree.locate s.directory p with
  | ok place => simp [eq_comm, and_comm]
  | error fault => cases fault <;> simp [eq_comm, and_comm]

theorem isReadable_outcome (p : Path) (s : Session) :
    (isReadable p).outcome s =
      (.ok (match s.tree.locate s.directory p with
        | .ok place => !s.unreadable.contains place
        | .error _ => false), s) := by
  unfold isReadable
  rw [outcome_bind, outcome_get]
  dsimp only
  cases s.tree.locate s.directory p <;> rfl

theorem nextInterruption_eq (s : Session) : nextInterruption.outcome s =
    (.ok s.interruptions.head?.join, { s with interruptions := s.interruptions.tail }) := by
  obtain ⟨_, _, _, _, _, _, _, _, _, _, _, _, _, _, interruptions⟩ := s
  cases interruptions with
  | nil => rfl
  | cons interruption? interruptions => rfl

theorem nextInterruption_outcome (s : Session) :
    ∃ interruption? interruptions,
      nextInterruption.outcome s = (.ok interruption?, { s with interruptions }) :=
  ⟨_, _, nextInterruption_eq s⟩

theorem makeDirectories_outcome (p : Path) (s : Session) : (makeDirectories p).outcome s =
    ((match (s.tree.makeDirectories s.directory p).2 with
        | some e => .error (.file e)
        | none => .ok ()),
      { s with tree := (s.tree.makeDirectories s.directory p).1 }) := by
  unfold makeDirectories
  rw [outcome_bind, outcome_get]
  dsimp only
  cases s.tree.makeDirectories s.directory p with
  | mk tree fault? => cases fault? <;> rfl

theorem makeDirectories_reached {p : Path} {result : Except Failure Unit} {s t : Session}
    (run : (makeDirectories p).outcome s = (result, t)) :
    ∃ tree, t = { s with tree } ∧ FileTree.GainsDirectories s.directory p s.tree tree := by
  rw [makeDirectories_outcome] at run
  exact ⟨_, (Prod.mk.inj run).2.symm, s.tree.makeDirectories_gains s.directory p⟩

end ReferencePages.Program
