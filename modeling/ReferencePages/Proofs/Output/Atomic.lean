import ReferencePages.Proofs.Output.Write
/-!
Writes of pages among other changes to the files. Each write either puts the whole page in its place or
leaves every file as it was; temporary files do not outlast it.
-/

namespace ReferencePages.OutputWriter

/-- What happens to the files around a writer: a page is written, permission bits are changed, a
directory is made, or the mask is set. -/
inductive Action
  | write (fileName content : Text)
  | chmod (p : Path) (mode : Nat)
  | mkdir (p : Path)
  | umask (mask : Nat)

/-- Carries out an action. -/
def perform (w : OutputWriter) : Action → Program Unit
  | .write fileName content => do let _ ← w.writeText fileName content
  | .chmod p mode => Program.changeMode p mode
  | .mkdir p => Program.makeDirectories p
  | .umask mask => do let _ ← Program.exchangeMask mask

/-- The state after actions, each of which may have failed. -/
def after (w : OutputWriter) : List Action → Session → Session
  | [], s => s
  | action :: actions, s => after w actions ((w.perform action).outcome s).2

/-- The place of a page that one of the actions writes. -/
def IsTarget (w : OutputWriter) (directory : Place) (actions : List Action) (place : Place) : Prop :=
  ∃ fileName content, Action.write fileName content ∈ actions ∧
    place = w.placeOf directory fileName

theorem IsTarget.mono {w : OutputWriter} {directory : Place} {actions more : List Action}
    {place : Place} (target : w.IsTarget directory actions place) (within : actions ⊆ more) :
    w.IsTarget directory more place := by
  obtain ⟨fileName, content, member, leads⟩ := target
  exact ⟨fileName, content, within member, leads⟩

/-! ### One write -/

/-- A refused write leaves every file as it was. -/
theorem writeText_error_fileAt {w : OutputWriter} {fileName content : Text} {failure : Failure}
    {s t : Session} (run : (w.writeText fileName content).outcome s = (.error failure, t))
    (place : Place) : t.tree.fileAt place = s.tree.fileAt place := by
  obtain ⟨tree, interruptions, tEq, gains⟩ := writeText_error run
  rw [tEq]
  exact gains.fileAt_eq place

theorem pageMode_eq (s : Session) (place : Place) :
    pageMode s place = ((s.tree.fileAt place).map Prod.fst).getD (Nat.ldiff 0o666 s.mask) := by
  unfold pageMode FileTree.fileAt
  cases s.tree.lookup place with
  | none => rfl
  | some node => cases node <;> rfl

/-- The page stands in its place, with the permission bits that it had or those of a new file. An entry
in the log that is written afterwards does not reach it, as the page has ended a log file there. -/
theorem writeText_ok_page {w : OutputWriter} {fileName content : Text} {p : Path} {s t : Session}
    (run : (w.writeText fileName content).outcome s = (.ok p, t)) :
    t.tree.fileAt (w.placeOf s.directory fileName) =
      some (((s.tree.fileAt (w.placeOf s.directory fileName)).map
        Prod.fst).getD (Nat.ldiff 0o666 s.mask), Utf8.encode content) := by
  obtain ⟨_, u, written, tEq⟩ := writeText_ok run
  have page : u.tree.lookup (w.placeOf s.directory fileName) =
      some (.file (pageMode s (w.placeOf s.directory fileName)) (Utf8.encode content)) := written.page
  have apart : u.logFile ≠ some (w.placeOf s.directory fileName) := written.logFile_ne
  rw [tEq, FileTree.fileAt, Program.lookup_record_of_ne apart, page, pageMode_eq]

/-- Beside the page, a write leaves every file as it was, but for the entry in the log file. -/
theorem writeText_ok_others {w : OutputWriter} {fileName content : Text} {p : Path} {s t : Session}
    (run : (w.writeText fileName content).outcome s = (.ok p, t)) {place : Place}
    (ne : place ≠ w.placeOf s.directory fileName)
    (apart : s.logFile ≠ some place) : t.tree.fileAt place = s.tree.fileAt place := by
  obtain ⟨_, u, written, tEq⟩ := writeText_ok run
  obtain ⟨_, _, uEq⟩ := written.rest
  have apartLater : u.logFile ≠ some place := by
    rw [uEq]
    dsimp only
    split
    · exact nofun
    · exact apart
  rw [tEq, FileTree.fileAt_congr (Program.lookup_record_of_ne apartLater ..)]
  exact written.fileAt_eq ne

/-- A write makes no file but its page, whether it succeeds or not. -/
theorem writeText_files {w : OutputWriter} {fileName content : Text} {result : Except Failure Path}
    {s t : Session} (run : (w.writeText fileName content).outcome s = (result, t)) {place : Place}
    (ne : place ≠ w.placeOf s.directory fileName) :
    (t.tree.fileAt place).isSome = (s.tree.fileAt place).isSome := by
  cases result with
  | error failure => rw [writeText_error_fileAt run]
  | ok p =>
    obtain ⟨_, u, written, tEq⟩ := writeText_ok run
    rw [tEq, Program.isSome_fileAt_record, written.fileAt_eq ne]

theorem writeText_rest {w : OutputWriter} {fileName content : Text} {result : Except Failure Path}
    {s t : Session} (run : (w.writeText fileName content).outcome s = (result, t)) :
    t.directory = s.directory ∧ t.mask = s.mask := by
  cases result with
  | error failure =>
    obtain ⟨_, _, tEq, _⟩ := writeText_error run
    rw [tEq]
    exact ⟨rfl, rfl⟩
  | ok p =>
    obtain ⟨_, u, written, tEq⟩ := writeText_ok run
    obtain ⟨_, _, uEq⟩ := written.rest
    rw [tEq, uEq]
    exact ⟨rfl, rfl⟩

/-! ### Writes among other actions -/

/-- An action makes no file but the page that it writes. -/
theorem perform_files (w : OutputWriter) (action : Action) (s : Session) (place : Place)
    (there : (((w.perform action).outcome s).2.tree.fileAt place).isSome) :
    (s.tree.fileAt place).isSome ∨ w.IsTarget s.directory [action] place := by
  cases action with
  | write fileName content =>
    by_cases same : place = w.placeOf s.directory fileName
    · exact .inr ⟨fileName, content, List.mem_singleton_self _, same⟩
    · left
      unfold perform at there
      dsimp only at there
      rw [Program.outcome_bind] at there
      cases run : (w.writeText fileName content).outcome s with
      | mk result t =>
        rw [run] at there
        rw [← writeText_files run same]
        cases result <;> exact there
  | chmod p mode =>
    left
    unfold perform Program.changeMode Program.changeFiles at there
    dsimp only at there
    rw [Program.outcome_bind, Program.outcome_get] at there
    dsimp only at there
    cases located : s.tree.locate s.directory p with
    | error fault =>
      rw [located] at there
      exact there
    | ok changed =>
      rw [located] at there
      rw [← FileTree.isSome_fileAt_setMode s.tree changed place mode]
      exact there
  | mkdir p =>
    left
    unfold perform at there
    dsimp only at there
    cases run : (Program.makeDirectories p).outcome s with
    | mk result t =>
      obtain ⟨tree, tEq, gains⟩ := Program.makeDirectories_reached run
      rw [run, tEq] at there
      rw [← gains.fileAt_eq place]
      exact there
  | umask mask => exact .inl there

theorem perform_directory (w : OutputWriter) (action : Action) (s : Session) :
    ((w.perform action).outcome s).2.directory = s.directory := by
  cases action with
  | write fileName content =>
    unfold perform
    dsimp only
    rw [Program.outcome_bind]
    cases run : (w.writeText fileName content).outcome s with
    | mk result t =>
      have kept := (writeText_rest run).1
      cases result <;> exact kept
  | chmod p mode =>
    unfold perform Program.changeMode Program.changeFiles
    dsimp only
    rw [Program.outcome_bind, Program.outcome_get]
    dsimp only
    cases s.tree.locate s.directory p with
    | error fault => rfl
    | ok changed => rfl
  | mkdir p =>
    unfold perform
    dsimp only
    cases run : (Program.makeDirectories p).outcome s with
    | mk result t =>
      obtain ⟨tree, tEq, _⟩ := Program.makeDirectories_reached run
      rw [tEq]
  | umask mask => rfl

/-- Actions in a row make no files but the pages that they write, so no temporary file is left. -/
theorem after_files (w : OutputWriter) (actions : List Action) (s : Session) (place : Place)
    (there : ((w.after actions s).tree.fileAt place).isSome) :
    (s.tree.fileAt place).isSome ∨ w.IsTarget s.directory actions place := by
  induction actions generalizing s with
  | nil => exact .inl there
  | cons action actions ih =>
    rw [after] at there
    rcases ih _ there with before | later
    · rcases perform_files w action s place before with first | target
      · exact .inl first
      · exact .inr (target.mono (by simp))
    · rw [perform_directory] at later
      exact .inr (later.mono (List.subset_cons_self _ _))

theorem after_append (w : OutputWriter) (actions more : List Action) (s : Session) :
    w.after (actions ++ more) s = w.after more (w.after actions s) := by
  induction actions generalizing s with
  | nil => rfl
  | cons action actions ih =>
    rw [List.cons_append, after, after]
    exact ih _

/-- A write of a page, after whatever other writes and changes, puts the whole page in its place with
the permission bits that it had, or else those of a new file, and leaves the other files as they were;
or it is refused and leaves all files as they were. The mask stays, and of all that has been made since
the beginning no file remains but pages. -/
theorem writeText_atomic (w : OutputWriter) (start : Session) (before : List Action)
    (fileName content : Text) :
    let s := w.after before start
    let (result, t) := (w.writeText fileName content).outcome s
    let place := w.placeOf s.directory fileName
    (match result with
      | .ok p =>
        p = w.directory.child fileName ∧
        t.tree.fileAt place =
          some (((s.tree.fileAt place).map Prod.fst).getD (Nat.ldiff 0o666 s.mask),
            Utf8.encode content) ∧
        ∀ other, other ≠ place → s.logFile ≠ some other → t.tree.fileAt other = s.tree.fileAt other
      | .error _ => ∀ other, t.tree.fileAt other = s.tree.fileAt other) ∧
    t.mask = s.mask ∧
    (∀ other, other ≠ place → (t.tree.fileAt other).isSome = (s.tree.fileAt other).isSome) ∧
    ∀ other, (t.tree.fileAt other).isSome →
      (start.tree.fileAt other).isSome ∨
        w.IsTarget start.directory (before ++ [.write fileName content]) other := by
  intro s
  cases run : (w.writeText fileName content).outcome s with
  | mk result t =>
    dsimp only
    refine ⟨?_, (writeText_rest run).2, fun other ne => writeText_files run ne, ?_⟩
    · cases result with
      | ok p =>
        exact ⟨(writeText_ok run).1, writeText_ok_page run, fun other ne apart =>
          writeText_ok_others run ne apart⟩
      | error failure => exact writeText_error_fileAt run
    · intro other there
      have last : (w.after (before ++ [.write fileName content]) start).tree = t.tree := by
        rw [after_append, after, after, perform]
        rw [Program.outcome_bind, run]
        cases result <;> rfl
      rw [← last] at there
      exact after_files w _ start other there

end ReferencePages.OutputWriter
