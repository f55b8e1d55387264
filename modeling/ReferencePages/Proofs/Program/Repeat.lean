import ReferencePages.Proofs.Program.Agree
import ReferencePages.Proofs.FileTree.Grown
/-!
A program that reads, once and again later. Between the two the tree may have grown; what was found is found
again, so that a program which had a result has it again, as long as it draws nothing from what it did not
find.
-/

namespace ReferencePages

open FileTree (Grown destination)

/-! ### Entries in the log -/

theorem FileTree.SameBut.trans {place : Place} {t u v : FileTree} (first : SameBut place t u)
    (second : SameBut place u v) : SameBut place t v := by
  rcases first with rfl | ⟨mode, old, new, found, rfl⟩
  · exact second
  · rcases second with rfl | ⟨mode', old', new', found', rfl⟩
    · exact .inr ⟨mode, old, new, found, rfl⟩
    · rw [lookup_set_self (ne_root_of_file found)] at found'
      cases found'
      exact .inr ⟨mode, old, new', found, set_set_self t place _ _⟩

namespace Program

/-- A state that differs from an earlier one in its log and its log file alone. -/
def Logged (s t : Session) : Prop :=
  ∃ tree log, t = { s with tree, log } ∧
    (tree = s.tree ∨ ∃ place, s.logFile = some place ∧ s.tree.SameBut place tree)

instance : Steady Logged where
  refl s := ⟨s.tree, s.log, rfl, .inl rfl⟩
  trans := by
    rintro s t u ⟨tree, log, rfl, first⟩ ⟨tree', log', rfl, second⟩
    refine ⟨tree', log', rfl, ?_⟩
    dsimp only at second
    rcases first with rfl | ⟨place, kept, same⟩
    · exact second
    · rcases second with rfl | ⟨place', kept', same'⟩
      · exact .inr ⟨place, kept, same⟩
      · rw [kept] at kept'
        cases kept'
        exact .inr ⟨place, kept, same.trans same'⟩

theorem Logged.record (s : Session) (level : LogLevel) (logger text : Text) :
    Logged s (record s level logger text) := by
  refine ⟨_, _, rfl, ?_⟩
  split
  · rename_i place kept
    split
    · exact .inr ⟨place, kept, by
        unfold appendTo
        split
        · exact .inr ⟨_, _, _, ‹_›, rfl⟩
        · exact .refl place s.tree⟩
    · exact .inl rfl
  · exact .inl rfl

/-- No path that is a source leads to the log file. -/
def Unlogged (sources : Path → Prop) (s : Session) : Prop :=
  ∀ place, s.logFile = some place → ∀ p, sources p → destination s.directory p ≠ place

section Logged

variable {sources : Path → Prop} {hidden : Place → Prop} {s t : Session}

theorem Logged.alike (logged : Logged s t) (apart : Unlogged sources s) : Alike True sources s t := by
  obtain ⟨tree, log, rfl, files⟩ := logged
  exact ⟨⟨s.endpoint, s.rehearsal, log, tree, rfl⟩, files.imp_right fun same => ⟨trivial, same⟩,
    fun _ => apart⟩

theorem Logged.fields (logged : Logged s t) : t.directory = s.directory ∧ t.unreadable = s.unreadable ∧
    t.logFile = s.logFile ∧ t.interruptions = s.interruptions := by
  obtain ⟨_, _, rfl, _⟩ := logged
  exact ⟨rfl, rfl, rfl, rfl⟩

theorem Logged.isSound (logged : Logged s t) (sound : s.tree.IsSound) : t.tree.IsSound := by
  obtain ⟨tree, log, rfl, rfl | ⟨place, _, same⟩⟩ := logged
  · exact sound
  · exact same.isSound sound

theorem Logged.grown (logged : Logged s t) (hides : ∀ place, s.logFile = some place → hidden place) :
    Grown hidden s.tree t.tree := by
  obtain ⟨tree, log, rfl, rfl | ⟨place, kept, same⟩⟩ := logged
  · exact .refl hidden _
  · exact .of_sameBut same (hides place kept)

theorem Logged.addsNoDirectory (logged : Logged s t) : FileTree.AddsNoDirectory s.tree t.tree := by
  obtain ⟨tree, log, rfl, rfl | ⟨place, _, same⟩⟩ := logged
  · exact FileTree.SameBut.addsNoDirectory (.refl [] s.tree)
  · exact same.addsNoDirectory

theorem SameFiles.trans {u : Session} (first : SameFiles s t) (second : SameFiles t u) :
    SameFiles s u := by
  refine ⟨second.1.trans first.1, fun place apart => ?_⟩
  rw [second.2 place (by rwa [first.1]), first.2 place apart]

theorem Logged.sameFiles (logged : Logged s t) : SameFiles s t := by
  obtain ⟨tree, log, rfl, files⟩ := logged
  refine ⟨rfl, fun place apart => ?_⟩
  rcases files with rfl | ⟨file, kept, same⟩
  · rfl
  · refine same.lookup_eq fun here => ?_
    rw [here] at apart
    exact apart kept

end Logged

/-! ### Two times -/

/-- A state and a later one in which the tree has grown. What changes at `hidden` places is not to be seen;
what is read at `sources` is not the log file. -/
structure Later (sources : Path → Prop) (hidden : Place → Prop) (s t : Session) : Prop where
  directory : t.directory = s.directory
  unreadable : t.unreadable = s.unreadable
  sound : s.tree.IsSound
  soundLater : t.tree.IsSound
  grown : Grown hidden s.tree t.tree
  apart : Unlogged sources s
  apartLater : Unlogged sources t

/-- A result that a program has in a state is one that it has in another. -/
def Carries {α : Type} (s t : Session) (p : Program α) : Prop :=
  ∀ a, (p.outcome s).1 = .ok a → (p.outcome t).1 = .ok a

/-- A program that reads and has its result again. -/
structure Repeats (sources : Path → Prop) {α : Type} (s t : Session) (p : Program α) : Prop where
  reads : Reads sources p
  carries : Carries s t p

variable {α β ι ε : Type} {sources : Path → Prop} {hidden : Place → Prop} {s t : Session}

/-- What a program that reads comes to does not hang on entries that were made in the log. -/
theorem Reads.outcome_logged {p : Program α} (reads : Reads sources p) (apart : Unlogged sources s)
    (logged : Logged s t) : (p.outcome t).1 = (p.outcome s).1 :=
  (reads.agree s t (logged.alike apart)).1.symm

theorem Reads.logged {p : Program α} (reads : Reads sources p) (s : Session) :
    Logged s (p.outcome s).2 := reads.moves Logged.record s

theorem exists_of_outcome_ok {p : Program α} {a : α} (result : (p.outcome s).1 = .ok a) :
    ∃ u, p.outcome s = (.ok a, u) := ⟨(p.outcome s).2, Prod.ext result rfl⟩

/-- The parts of a sequence that reads have their results in the state in which it begins. -/
theorem Reads.bind_eq_ok {p : Program α} {f : α → Program β} (reads : Reads sources p)
    (readsNext : ∀ u a v, p.outcome u = (.ok a, v) → Reads sources (f a)) (apart : Unlogged sources s)
    {b : β} (result : ((p >>= f).outcome s).1 = .ok b) :
    ∃ a, (p.outcome s).1 = .ok a ∧ ((f a).outcome s).1 = .ok b := by
  obtain ⟨u, run⟩ := exists_of_outcome_ok result
  obtain ⟨a, v, before, after⟩ := outcome_bind_eq_ok run
  have logged := reads.logged s
  rw [before] at logged
  exact ⟨a, by rw [before], by rw [← (readsNext s a v before).outcome_logged apart logged, after]⟩

theorem Reads.bind_ok {p : Program α} {f : α → Program β} (reads : Reads sources p)
    (readsNext : ∀ u a v, p.outcome u = (.ok a, v) → Reads sources (f a)) (apart : Unlogged sources s)
    {a : α} {b : β} (before : (p.outcome s).1 = .ok a) (after : ((f a).outcome s).1 = .ok b) :
    ((p >>= f).outcome s).1 = .ok b := by
  obtain ⟨v, run⟩ := exists_of_outcome_ok before
  have logged := reads.logged s
  rw [run] at logged
  rw [outcome_bind_ok run, (readsNext s a v run).outcome_logged apart logged]
  exact after

/-- A sequence has its result again if both parts have theirs where there is one in the end. -/
theorem Carries.bind (later : Later sources hidden s t) {p : Program α} {f : α → Program β}
    (reads : Reads sources p) (readsNext : ∀ u a v, p.outcome u = (.ok a, v) → Reads sources (f a))
    (both : ∀ a b, (p.outcome s).1 = .ok a → ((f a).outcome s).1 = .ok b →
      (p.outcome t).1 = .ok a ∧ ((f a).outcome t).1 = .ok b) : Carries s t (p >>= f) := by
  intro b result
  obtain ⟨a, before, after⟩ := reads.bind_eq_ok readsNext later.apart result
  obtain ⟨again, next⟩ := both a b before after
  exact reads.bind_ok readsNext later.apartLater again next

/-- Every result in a list is that of a program in the state in which the list is begun. -/
theorem Reads.mem_of_mapM {f : ι → Program α} (each : ∀ x, Reads sources (f x))
    (apart : Unlogged sources s) {xs : List ι} {results : List α}
    (result : ((xs.mapM f).outcome s).1 = .ok results) {a : α} (member : a ∈ results) :
    ∃ x ∈ xs, ((f x).outcome s).1 = .ok a := by
  induction xs generalizing results with
  | nil =>
    cases result
    cases member
  | cons x xs ih =>
    rw [List.mapM_cons] at result
    have last (b : α) : Reads sources (xs.mapM f >>= fun others => Pure.pure (b :: others)) :=
      .bind (.mapM fun y _ => each y) fun _ => .pure _
    obtain ⟨b, first, result⟩ := (each x).bind_eq_ok (fun _ b _ _ => last b) apart result
    obtain ⟨others, rest, result⟩ :=
      (Reads.mapM fun y _ => each y).bind_eq_ok (fun _ _ _ _ => .pure _) apart result
    cases result
    rcases List.mem_cons.mp member with rfl | later
    · exact ⟨x, List.mem_cons_self .., first⟩
    · obtain ⟨y, within, value⟩ := ih rest later
      exact ⟨y, List.mem_cons_of_mem _ within, value⟩

/-! ### Questions -/

namespace Later

/-- A file that was found is found again. -/
theorem isFile (later : Later sources hidden s t) {p : Path}
    (found : ((Program.isFile p).outcome s).1 = .ok true) :
    ((Program.isFile p).outcome t).1 = .ok true := by
  obtain ⟨u, asked⟩ := exists_of_outcome_ok found
  obtain ⟨_, known, _⟩ := isFile_eq_ok.mp asked
  have file := later.grown.isFile known.symm
  obtain ⟨place, _, _, located, _⟩ := FileTree.isFile_iff.mp file
  rw [isFile_outcome, later.directory, located, file]

theorem isDirectory (later : Later sources hidden s t) {p : Path}
    (found : ((Program.isDirectory p).outcome s).1 = .ok true) :
    ((Program.isDirectory p).outcome t).1 = .ok true := by
  obtain ⟨u, asked⟩ := exists_of_outcome_ok found
  obtain ⟨_, known, _⟩ := isDirectory_eq_ok.mp asked
  have directory := later.grown.isDirectory known.symm
  obtain ⟨place, located, _⟩ := FileTree.isDirectory_iff.mp directory
  rw [isDirectory_outcome, later.directory, located, directory]

theorem isReadable (later : Later sources hidden s t) {p : Path}
    (may : ((Program.isReadable p).outcome s).1 = .ok true) :
    ((Program.isReadable p).outcome t).1 = .ok true := by
  rw [isReadable_outcome] at may ⊢
  cases located : s.tree.locate s.directory p with
  | error fault =>
    rw [located] at may
    cases may
  | ok place =>
    rw [located] at may
    rw [later.directory, later.grown.locate_ok located, later.unreadable]
    exact may

end Later

namespace Repeats

theorem of_eq {p : Program α} (reads : Reads sources p)
    (same : (p.outcome t).1 = (p.outcome s).1) : Repeats sources s t p :=
  ⟨reads, fun _ result => same.trans result⟩

theorem pure (a : α) : Repeats sources s t (Pure.pure a : Program α) := of_eq (.pure a) rfl

theorem throw (failure : Failure) :
    Repeats sources s t (MonadExcept.throw failure : Program α) := of_eq (.throw failure) rfl

theorem log (level : LogLevel) (logger text : Text) :
    Repeats sources s t (Program.log level logger text) := of_eq (.log level logger text) rfl

theorem ofExcept (failure : ε → Failure) (result : Except ε α) :
    Repeats sources s t (Program.ofExcept failure result) := by
  cases result with
  | ok a => exact pure a
  | error e => exact throw (failure e)

/-- What comes second need only have its result again behind results of the first part. -/
theorem bind_of (later : Later sources hidden s t) {p : Program α} {f : α → Program β}
    (first : Repeats sources s t p)
    (reads : ∀ u a v, p.outcome u = (.ok a, v) → Reads sources (f a))
    (next : ∀ a, (p.outcome s).1 = .ok a → Carries s t (f a)) : Repeats sources s t (p >>= f) :=
  ⟨first.reads.bind_of reads, .bind later first.reads reads fun a b before after =>
    ⟨first.carries a before, next a before b after⟩⟩

theorem bind (later : Later sources hidden s t) {p : Program α} {f : α → Program β}
    (first : Repeats sources s t p) (next : ∀ a, Repeats sources s t (f a)) :
    Repeats sources s t (p >>= f) :=
  bind_of later first (fun _ a _ _ => (next a).reads) fun a _ => (next a).carries

/-- A question that must be answered with yes, where a yes is a yes again. -/
theorem bind_true (later : Later sources hidden s t) {p : Program Bool} {f : Bool → Program α}
    {failure : Failure} (reads : Reads sources p)
    (found : (p.outcome s).1 = .ok true → (p.outcome t).1 = .ok true)
    (refused : f false = MonadExcept.throw failure) (next : Repeats sources s t (f true)) :
    Repeats sources s t (p >>= f) := by
  have readsNext (answer : Bool) : Reads sources (f answer) := by
    cases answer with
    | true => exact next.reads
    | false =>
      rw [refused]
      exact .throw failure
  refine ⟨reads.bind readsNext, .bind later reads (fun _ answer _ _ => readsNext answer) ?_⟩
  intro answer b before after
  cases answer with
  | true => exact ⟨found before, next.carries b after⟩
  | false =>
    rw [refused] at after
    cases after

theorem forM (later : Later sources hidden s t) {f : ι → Program PUnit}
    (each : ∀ x, Repeats sources s t (f x)) (xs : List ι) : Repeats sources s t (xs.forM f) := by
  induction xs with
  | nil => exact pure _
  | cons x xs ih => exact bind later (each x) fun _ => ih

theorem mapM (later : Later sources hidden s t) {f : ι → Program α} {xs : List ι}
    (each : ∀ x ∈ xs, Repeats sources s t (f x)) : Repeats sources s t (xs.mapM f) := by
  induction xs with
  | nil => exact pure _
  | cons x xs ih =>
    rw [List.mapM_cons]
    exact bind later (each x (List.mem_cons_self ..)) fun _ =>
      bind later (ih fun y member => each y (List.mem_cons_of_mem _ member)) fun _ => pure _

/-- A file that is a source and not hidden is read again. -/
theorem readBytes (later : Later sources hidden s t) {p : Path} (source : sources p)
    (seen : ¬ hidden (destination s.directory p)) : Repeats sources s t (Program.readBytes p) := by
  refine ⟨.readBytes source, ?_⟩
  intro contents result
  obtain ⟨u, run⟩ := exists_of_outcome_ok result
  obtain ⟨found, v, asked, given⟩ := outcome_bind_eq_ok run
  cases asked
  have read := ofExcept_eq_ok given
  have again : (Program.readBytes p).outcome t =
      (Program.ofExcept .file (t.tree.read t.directory p)).outcome t := rfl
  rw [again, later.directory, later.grown.read_ok seen read]
  rfl

theorem readSource (later : Later sources hidden s t) {p : Path} (source : sources p)
    (seen : ¬ hidden (destination s.directory p)) : Repeats sources s t (Program.readSource p) :=
  bind later (readBytes later source seen) fun _ => pure _

theorem readText (later : Later sources hidden s t) {p : Path} (source : sources p)
    (seen : ¬ hidden (destination s.directory p)) : Repeats sources s t (Program.readText p) :=
  bind later (readBytes later source seen) fun _ => bind later (ofExcept _ _) fun _ => pure _

end Repeats
end Program
end ReferencePages
