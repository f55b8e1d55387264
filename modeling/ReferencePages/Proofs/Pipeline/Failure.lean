import ReferencePages.Proofs.Pipeline.Work
import ReferencePages.Proofs.Summarizer.Footprint
/-!
Pages in a row up to the first that fails. The pages before it are those of separate runs, its own page is
what it was, and no other file is touched.
-/

namespace ReferencePages

namespace Pipeline

/-- The place of a page. -/
def pagePlace (w : Workshop) (directory : Place) (kind : PageKind) : Place :=
  OutputWriter.placeOf { directory := w.config.outputDirectory } directory kind.fileName

theorem fileName_isPageName (kind : PageKind) : IsPageName kind.fileName := by
  cases kind with
  | schema => exact ⟨"database-schema", by decide⟩
  | stateMachines => exact ⟨"state-machine-diagrams", by decide⟩
  | crates => exact ⟨"crate-dependency-graph", by decide⟩
  | errors => exact ⟨"error-troubleshooting-guide", by decide⟩
  | configuration => exact ⟨"config-operational-guide", by decide⟩
  | decisions => exact ⟨"adr-summary", by decide⟩

theorem pagePlace_eq (w : Workshop) (directory : Place) (kind : PageKind) :
    pagePlace w directory kind =
      FileTree.destination directory w.config.outputDirectory ++ [kind.fileName] :=
  FileTree.destination_child (fileName_isName kind) directory _

/-- Work on a page changes no page but by writing it. -/
theorem footprint_page {s t : Session} (footprint : Footprint s t) (w : Workshop) (kind : PageKind)
    (apart : s.logFile ≠ some (pagePlace w s.directory kind)) :
    t.tree.lookup (pagePlace w s.directory kind) = s.tree.lookup (pagePlace w s.directory kind) := by
  rw [pagePlace_eq] at apart ⊢
  exact footprint.pages _ _ (fileName_isPageName kind) apart

/-- A state that differs from an earlier one, as far as files are concerned, in the log file, in the
scratch directory, in certain pages and in directories made for them. -/
structure Confined (output : Path) (pages : Place → Prop) (s t : Session) : Prop where
  directory : t.directory = s.directory
  logFile : t.logFile = s.logFile ∨ t.logFile = none
  scratch : ∀ p, s.scratch.path = some p → t.scratch.path = some p
  others : ∀ place, s.logFile ≠ some place → ¬ InScratch t place → ¬ pages place →
    t.tree.lookup place = s.tree.lookup place ∨
      (s.tree.lookup place = none ∧ t.tree.lookup place = some .directory ∧
        FileTree.OnTheWay s.directory output place)

theorem Confined.refl (output : Path) (pages : Place → Prop) (s : Session) :
    Confined output pages s s :=
  ⟨rfl, .inl rfl, fun _ made => made, fun _ _ _ _ => .inl rfl⟩

theorem Confined.trans {output : Path} {pages : Place → Prop} {s t u : Session}
    (first : Confined output pages s t) (second : Confined output pages t u) :
    Confined output pages s u := by
  have later (place : Place) (apart : s.logFile ≠ some place) : t.logFile ≠ some place := by
    rcases first.logFile with same | none
    · rw [same]
      exact apart
    · rw [none]
      exact nofun
  refine ⟨second.directory.trans first.directory, ?_,
    fun p made => second.scratch p (first.scratch p made), ?_⟩
  · rcases second.logFile with same | none
    · rw [same]
      exact first.logFile
    · exact .inr none
  · intro place apart outside noPage
    have outsideBefore : ¬ InScratch t place := fun within =>
      outside (within.mono second.directory second.scratch)
    rcases first.others place apart outsideBefore noPage with same | ⟨free, made, way⟩
    · rcases second.others place (later place apart) outside noPage with again | ⟨free, made, way⟩
      · exact .inl (again.trans same)
      · exact .inr ⟨same.symm.trans free, made, first.directory ▸ way⟩
    · rcases second.others place (later place apart) outside noPage with again | ⟨free', _, _⟩
      · exact .inr ⟨free, again.trans made, way⟩
      · rw [made] at free'
        cases free'

theorem Confined.mono {output : Path} {pages more : Place → Prop} {s t : Session}
    (confined : Confined output pages s t) (within : ∀ place, pages place → more place) :
    Confined output more s t :=
  ⟨confined.directory, confined.logFile, confined.scratch, fun place apart outside noPage =>
    confined.others place apart outside fun page => noPage (within place page)⟩

theorem confined_of_footprint {s t : Session} (footprint : Footprint s t) (output : Path)
    (pages : Place → Prop) : Confined output pages s t :=
  ⟨footprint.directory, .inl footprint.logFile, footprint.scratch, fun place apart outside _ =>
    .inl (footprint.others place apart outside)⟩

/-! ### Pages in a row -/

/-- Pages that are made one after the other, each in a run of its own that succeeds. -/
inductive Runs (w : Workshop) : List Text → Session → List PageResult → Session → Prop
  | none (s : Session) : Runs w [] s [] s
  | next {name : Text} {names : List Text} {s t u : Session} {result : PageResult}
      {results : List PageResult} (first : (run w name).outcome s = (.ok result, t))
      (rest : Runs w names t results u) : Runs w (name :: names) s (result :: results) u

/-- The place of a page with one of the names. -/
def IsPage (w : Workshop) (directory : Place) (names : List Text) (place : Place) : Prop :=
  ∃ name ∈ names, ∃ kind, PageKind.ofName? name = some kind ∧ place = pagePlace w directory kind

theorem IsPage.mono {w : Workshop} {directory : Place} {names more : List Text} {place : Place}
    (page : IsPage w directory names place) (within : names ⊆ more) : IsPage w directory more place := by
  obtain ⟨name, member, known⟩ := page
  exact ⟨name, within member, known⟩

/-- The run of a name that no page has fails at once, and that of another name makes its page. -/
theorem run_outcome (w : Workshop) (name : Text) (s : Session) :
    (PageKind.ofName? name = none ∧ (run w name).outcome s = (.error (.unknownGenerator name), s)) ∨
      ∃ kind, PageKind.ofName? name = some kind ∧
        (run w name).outcome s = (make w kind).outcome s := by
  unfold run kindOf
  cases known : PageKind.ofName? name with
  | none => exact .inl ⟨rfl, rfl⟩
  | some kind => exact .inr ⟨kind, rfl, rfl⟩

theorem run_ok {w : Workshop} {name : Text} {result : PageResult} {s t : Session}
    (success : (run w name).outcome s = (.ok result, t)) :
    Confined w.config.outputDirectory (IsPage w s.directory [name]) s t ∧
      ∀ place, IsPage w s.directory [name] place → t.logFile ≠ some place := by
  rcases run_outcome w name s with ⟨_, refused⟩ | ⟨kind, known, made⟩
  · rw [refused] at success
    cases success
  · rw [made] at success
    obtain ⟨_, u, v, contents, before, written, after⟩ := make_ok (R := Footprint) success
    obtain ⟨tree, interruptions, vEq⟩ := written.rest
    have page : pagePlace w u.directory kind = pagePlace w s.directory kind := by
      rw [before.directory]
    have directory : v.directory = u.directory := by rw [vEq]
    have scratch : v.scratch = u.scratch := by rw [vEq]
    have logFile : v.logFile =
        if u.logFile = some (pagePlace w s.directory kind) then none else u.logFile := by
      rw [vEq, ← page]
      rfl
    have wrote : Confined w.config.outputDirectory (IsPage w s.directory [name]) u v := by
      refine ⟨directory, ?_, ?_, ?_⟩
      · rw [logFile]
        split
        · exact .inr rfl
        · exact .inl rfl
      · intro p made
        rw [scratch]
        exact made
      · intro place _ _ noPage
        have ne : place ≠ FileTree.destination u.directory
            (w.config.outputDirectory.child kind.fileName) := by
          intro same
          exact noPage ⟨name, List.mem_singleton_self _, kind, known, same.trans page⟩
        have kept := written.others place ne
        rwa [Path.parent_child (fileName_isName kind)] at kept
    refine ⟨((confined_of_footprint before _ _).trans wrote).trans (confined_of_footprint after _ _), ?_⟩
    rintro place ⟨other, member, kind', known', rfl⟩
    rw [List.mem_singleton.mp member, known] at known'
    cases known'
    rw [after.logFile, ← page]
    exact written.logFile_ne

theorem run_error {w : Workshop} {name : Text} {failure : Failure} {s t : Session}
    (failed : (run w name).outcome s = (.error failure, t)) :
    Confined w.config.outputDirectory (fun _ => False) s t ∧
      ∀ kind, s.logFile ≠ some (pagePlace w s.directory kind) →
        t.tree.fileAt (pagePlace w s.directory kind) = s.tree.fileAt (pagePlace w s.directory kind) := by
  rcases run_outcome w name s with ⟨_, refused⟩ | ⟨kind, known, made⟩
  · rw [refused] at failed
    cases failed
    exact ⟨Confined.refl _ _ s, fun _ _ => rfl⟩
  · rw [made] at failed
    obtain ⟨u, tree, interruptions, before, tEq, gains⟩ := make_error (R := Footprint) failed
    have grown : Confined w.config.outputDirectory (fun _ => False) u t := by
      rw [tEq]
      exact ⟨rfl, .inl rfl, fun _ made => made, fun place _ _ _ => gains place⟩
    refine ⟨(confined_of_footprint before _ _).trans grown, ?_⟩
    intro kind apart
    have same : t.tree.fileAt (pagePlace w s.directory kind) =
        u.tree.fileAt (pagePlace w s.directory kind) := by
      rw [tEq]
      exact gains.fileAt_eq _
    rw [same]
    exact FileTree.fileAt_congr (footprint_page before w kind apart)

/-- Separate runs change nothing but their pages, and none of these is the log file afterwards. -/
theorem Runs.confined {w : Workshop} {names : List Text} {results : List PageResult} {s t : Session}
    (runs : Runs w names s results t) :
    Confined w.config.outputDirectory (IsPage w s.directory names) s t ∧
      ∀ place, IsPage w s.directory names place → t.logFile ≠ some place := by
  induction runs with
  | none s => exact ⟨Confined.refl _ _ s, fun _ ⟨_, member, _⟩ => absurd member List.not_mem_nil⟩
  | @next name names s t u result results first rest ih =>
    obtain ⟨confined, ended⟩ := run_ok first
    obtain ⟨later, endedLater⟩ := ih
    rw [confined.directory] at later endedLater
    have firstWithin (place : Place) (page : IsPage w s.directory [name] place) :
        IsPage w s.directory (name :: names) place := page.mono (by simp)
    have restWithin (place : Place) (page : IsPage w s.directory names place) :
        IsPage w s.directory (name :: names) place := page.mono (List.subset_cons_self _ _)
    refine ⟨(confined.mono firstWithin).trans (later.mono restWithin), ?_⟩
    rintro place ⟨other, member, known⟩
    rcases List.mem_cons.mp member with same | behind
    · subst same
      rcases later.logFile with kept | gone
      · rw [kept]
        exact ended place ⟨other, List.mem_singleton_self _, known⟩
      · rw [gone]
        exact nofun
    · exact endedLater place ⟨other, behind, known⟩

/-- What a run of several names leaves that fails at one of them, after others that have been `done`. -/
structure StopsAt (w : Workshop) (s : Session) (done : List Text) (results : List PageResult)
    (middle : Session) (name : Text) (failure : Failure) (t : Session) : Prop where
  /-- The names before it have come to what they come to in runs of their own. -/
  earlier : Runs w done s results middle
  /-- The run of this name is the last thing that happens. -/
  fails : (run w name).outcome middle = (.error failure, t)
  /-- The pages before it stay as they have been made. -/
  made : ∀ place, IsPage w s.directory done place → t.tree.fileAt place = middle.tree.fileAt place
  /-- Its own page, and any other, is what it was before its run. -/
  unmade : ∀ kind, middle.logFile ≠ some (pagePlace w s.directory kind) →
    t.tree.fileAt (pagePlace w s.directory kind) = middle.tree.fileAt (pagePlace w s.directory kind)
  /-- Elsewhere, the log file and the scratch directory apart, nothing has changed but that there may be
  directories on the way to the pages. -/
  others : ∀ place, s.logFile ≠ some place → ¬ InScratch t place → ¬ IsPage w s.directory done place →
    t.tree.lookup place = s.tree.lookup place ∨
      (s.tree.lookup place = none ∧ t.tree.lookup place = some .directory ∧
        FileTree.OnTheWay s.directory w.config.outputDirectory place)

theorem stopsAt_of_runs {w : Workshop} {s middle t : Session} {done : List Text}
    {results : List PageResult} {name : Text} {failure : Failure} (earlier : Runs w done s results middle)
    (fails : (run w name).outcome middle = (.error failure, t)) :
    StopsAt w s done results middle name failure t := by
  obtain ⟨confined, ended⟩ := earlier.confined
  obtain ⟨later, unmade⟩ := run_error fails
  rw [confined.directory] at unmade
  refine ⟨earlier, fails, ?_, unmade, ?_⟩
  · rintro place ⟨other, member, kind, known, rfl⟩
    exact unmade kind (ended _ ⟨other, member, kind, known, rfl⟩)
  · exact (confined.trans (later.mono fun _ => False.elim)).others

/-- A run of several names that fails has stopped at the first that fails. -/
theorem runAll_error {w : Workshop} {names : List Text} {failure : Failure} {s t : Session}
    (failed : (runAll w names).outcome s = (.error failure, t)) :
    ∃ done name rest results middle, names = done ++ name :: rest ∧
      StopsAt w s done results middle name failure t := by
  have stopped : ∃ done name rest results middle, names = done ++ name :: rest ∧
      Runs w done s results middle ∧ (run w name).outcome middle = (.error failure, t) := by
    induction names generalizing s with
    | nil => cases failed
    | cons name names ih =>
      rcases Program.outcome_bind_eq_error failed with first | ⟨result, u, succeeded, later⟩
      · exact ⟨[], name, names, [], s, rfl, .none s, first⟩
      · rcases Program.outcome_bind_eq_error later with further | ⟨_, v, _, last⟩
        · obtain ⟨done, stop, rest, results, middle, split, runs, fails⟩ := ih further
          exact ⟨name :: done, stop, rest, result :: results, middle, by rw [split]; rfl,
            .next succeeded runs, fails⟩
        · cases last
  obtain ⟨done, name, rest, results, middle, split, earlier, fails⟩ := stopped
  exact ⟨done, name, rest, results, middle, split, stopsAt_of_runs earlier fails⟩

/-- Settings without state machines. -/
def machinelessWorkshop : Workshop :=
  { config :=
      { Config.standard (Path.ofText "/docs") (Path.ofText "/source") (Path.ofText "/docs/out") with
        stateMachines := [] } }

/-- The beginning of a run over a source tree in which there is nothing. -/
def bareSession : Session := Session.new { entries := [(["source"], .directory)] } []

def machinesThenSchema : List Text := ["state-machines", "db-schema", "crate-deps"]

theorem runAll_error_schema :
    ∃ failure t, (runAll machinelessWorkshop machinesThenSchema).outcome bareSession =
        (.error failure, t) ∧
      ∃ done name rest results middle, machinesThenSchema = done ++ name :: rest ∧
        StopsAt machinelessWorkshop bareSession done results middle name failure t := by
  have fails : ((runAll machinelessWorkshop machinesThenSchema).outcome bareSession).1.isOk = false := by
    decide +kernel
  cases run : (runAll machinelessWorkshop machinesThenSchema).outcome bareSession with
  | mk result t =>
    rw [run] at fails
    cases result with
    | ok results => cases fails
    | error failure => exact ⟨failure, t, rfl, runAll_error run⟩

end Pipeline
end ReferencePages
