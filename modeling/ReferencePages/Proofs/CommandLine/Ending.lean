import ReferencePages.CommandLine.Run
import ReferencePages.Proofs.Pipeline.Upheld
/-!
How a run of the command line ends. Either every page is made, or the first failure is reported and no page
is; in both cases the scratch directory is gone.
-/

namespace ReferencePages

open Program (Moves Steady)

/-! ### Reading the settings -/

/-- A step that leaves the working directory and the scratch directory alone. -/
def KeepsScratch (s t : Session) : Prop := t.directory = s.directory ∧ t.scratch = s.scratch

namespace KeepsScratch

instance : Steady KeepsScratch where
  refl _ := ⟨rfl, rfl⟩
  trans first second := ⟨second.1.trans first.1, second.2.trans first.2⟩

theorem record (s : Session) (level : LogLevel) (logger text : Text) :
    KeepsScratch s (Program.record s level logger text) := by
  obtain ⟨tree, log, recorded, _⟩ := Program.record_eq s level logger text
  rw [recorded]
  exact ⟨rfl, rfl⟩

theorem of_reads {α : Type} {p : Program α} (reads : Program.Reads (fun _ => True) p) :
    Moves KeepsScratch p := reads.moves record

theorem expandHome (p : Path) : Moves KeepsScratch (Program.expandHome p) := by
  unfold Program.expandHome
  split
  · split
    · exact .throw _
    · refine .bind (fun s => Steady.refl s) fun s => ?_
      split
      · dsimp only
        generalize Path.ofText _ = base
        split
        · exact .throw _
        · exact .pure _
      · exact .throw _
  · exact .pure _

theorem resolve (p : Path) : Moves KeepsScratch (Program.resolve p) := by
  refine (expandHome p).bind fun _ => ?_
  split
  · exact .throw _
  · exact .bind (fun s => Steady.refl s) fun _ => .pure _

theorem ofExcept {α ε : Type} (failure : ε → Failure) (result : Except ε α) :
    Moves KeepsScratch (Program.ofExcept failure result) := of_reads (.ofExcept failure result)

theorem isFile (p : Path) : Moves KeepsScratch (Program.isFile p) := of_reads (.isFile p)

theorem readText (p : Path) : Moves KeepsScratch (Program.readText p) := of_reads (.readText trivial)

theorem loadEnvironment (root : Path) : Moves KeepsScratch (Config.loadEnvironment root) := by
  unfold Config.loadEnvironment
  refine (isFile _).bind fun there => .bind (fun s => Steady.refl s) fun s => ?_
  split
  · exact .pure _
  · refine (readText _).bind fun text => fun u => ?_
    rw [Program.outcome_bind, Program.outcome_get]
    dsimp only
    split
    · exact Steady.refl u
    · cases Config.exportAll (EnvironmentFile.resolve u.environment (EnvironmentFile.bindings text) [])
        u.environment with
      | ok environment => exact ⟨rfl, rfl⟩
      | error failure => exact Steady.refl u

theorem load (root : Path) (environment : Dictionary Text) :
    Moves KeepsScratch (Config.load root environment) := by
  have section_read (file : Path) : Moves KeepsScratch (Config.readFile file) := by
    unfold Config.readFile
    refine (isFile _).bind fun there => ?_
    split
    · exact .pure _
    · exact (readText _).bind fun _ => ofExcept _ _
  have resolved (root : Path) (value : Text) : Moves KeepsScratch (Config.resolveAgainst root value) :=
    (expandHome _).bind fun _ => resolve _
  exact (resolve _).bind fun _ => (section_read _).bind fun _ => (ofExcept _ _).bind fun _ =>
    (ofExcept _ _).bind fun _ => (resolved _ _).bind fun _ => (resolved _ _).bind fun _ => ofExcept _ _

end KeepsScratch

/-- Reading the settings makes no scratch directory. -/
theorem Pipeline.configure_keeps (root : Path) (environment : Option (Dictionary Text)) :
    Moves KeepsScratch (Pipeline.configure root environment) := by
  unfold Pipeline.configure
  refine (KeepsScratch.resolve _).bind fun root => ?_
  split
  · exact .load _ _
  · exact (KeepsScratch.loadEnvironment _).bind fun _ => .bind (fun s => Steady.refl s) fun _ => .load _ _
namespace CommandLine

theorem startLogFile_keeps (p : Path) : Moves KeepsScratch (startLogFile p) := by
  unfold startLogFile
  refine .bind (fun s => ?_) fun _ => .bind (fun s => Steady.refl s) fun s => .bind (fun u => ?_)
    fun _ u => ⟨rfl, rfl⟩
  · rw [Program.makeDirectories_outcome]
    exact ⟨rfl, rfl⟩
  · unfold Program.changeFiles
    rw [Program.outcome_bind, Program.outcome_get]
    dsimp only
    cases u.tree.touch u.mask u.directory (Path.resolve s.directory p) with
    | ok tree => exact ⟨rfl, rfl⟩
    | error e => exact Steady.refl u

/-- A run begins without a scratch directory. -/
theorem startLog_unmade {i : Invocation} {threshold : LogLevel} {s begun : Session}
    (logs : (startLog i).outcome s = (.ok threshold, begun)) : begun.scratch.path = none := by
  unfold startLog at logs
  dsimp only at logs
  rw [Program.outcome_bind, Program.outcome_modify] at logs
  dsimp only at logs
  cases named : i.logFile with
  | none =>
    rw [named] at logs
    cases logs
    rfl
  | some file =>
    rw [named] at logs
    obtain ⟨_, u, started, last⟩ := Program.outcome_bind_eq_ok logs
    cases last
    rw [((startLogFile_keeps _).reached started).2]
    rfl

/-! ### How a run ends -/

/-- What is reported of a failure: what can be done about a fault of the configuration, and of any other
failure its message with a hint at the switch that says more. -/
inductive IsReport (command : Command) : Failure → Text → Prop
  | remedy (fault : ConfigurationFault) :
    IsReport command (.configuration fault) ("ERROR: " ++ fault.remediation ++ "\n")
  | hint {failure : Failure} (other : ∀ fault, failure ≠ .configuration fault) :
    IsReport command failure ((Scope.command command).callName ++ " failed: " ++ failure.message ++
      "\nRun with --verbose for more details.\n")

theorem isReport_failureText (command : Command) (failure : Failure) :
    IsReport command failure (failureText command failure) := by
  cases failure with
  | configuration fault => exact .remedy fault
  | _ =>
    apply IsReport.hint
    rintro fault ⟨⟩

/-- How a run ends whose log has been started: with which status and what it prints, and in which state. -/
inductive Ends (i : Invocation) (threshold : LogLevel) (begun : Session) : Outcome → Session → Prop
  /-- Every page has been made. Each has its line, in the order in which the pages were asked for. -/
  | made {config : Config} {results : List PageResult} {configured last t : Session}
    (configures : (Pipeline.configure (Path.ofText i.root) none).outcome begun = (.ok config, configured))
    (runs : Pipeline.Runs config (i.command.kinds.map PageKind.name) configured results last)
    (kinds : results.map PageResult.kind = i.command.kinds)
    (removed : Scratch.Removed last t) :
    Ends i threshold begun
      { status := 0
        output := results.flatMap (resultLine begun.directory)
        errors := consoleLines threshold begun.log.length last.log ++
          consoleLines threshold last.log.length t.log } t
  /-- A page has failed after others have been made. Nothing is said of these; the failure is reported. -/
  | stopped {config : Config} {done rest : List Text} {name : Text} {results : List PageResult}
    {failure : Failure} {report : Text} {configured middle last t : Session}
    (configures : (Pipeline.configure (Path.ofText i.root) none).outcome begun = (.ok config, configured))
    (names : i.command.kinds.map PageKind.name = done ++ name :: rest)
    (earlier : Pipeline.Runs config done configured results middle)
    (fails : (Pipeline.run config name).outcome middle = (.error failure, last))
    (reported : IsReport i.command failure report)
    (removed : Scratch.Removed last t) :
    Ends i threshold begun
      { status := 1
        output := []
        errors := consoleLines threshold begun.log.length last.log ++ report ++
          consoleLines threshold last.log.length t.log } t
  /-- The settings cannot be had, and there is no scratch directory. -/
  | unconfigured {failure : Failure} {report : Text} {t : Session}
    (fails : (Pipeline.configure (Path.ofText i.root) none).outcome begun = (.error failure, t))
    (reported : IsReport i.command failure report)
    (unmade : t.scratch.path = none) :
    Ends i threshold begun
      { status := 1, output := [], errors := consoleLines threshold begun.log.length t.log ++ report } t

theorem makePages_ends {i : Invocation} {threshold : LogLevel} {config : Config}
    {begun configured : Session}
    (configures : (Pipeline.configure (Path.ofText i.root) none).outcome begun = (.ok config, configured))
    (unmade : configured.scratch.path = none) (directory : configured.directory = begun.directory) :
    ∃ outcome t, (makePages i threshold begun.log.length config).outcome configured = (.ok outcome, t) ∧
      Ends i threshold begun outcome t := by
  have upholds := Pipeline.runAll_upholds config (i.command.kinds.map PageKind.name)
  unfold makePages
  rw [Program.outcome_bind, Program.outcome_attempt]
  dsimp only
  rcases Pipeline.runAll_outcome config (i.command.kinds.map PageKind.name) configured with
    ⟨results, last, run, runs⟩ | ⟨failure, last, run, done, name, rest, results, middle, names, earlier, fails⟩
  all_goals
    have upheld := upholds.reached run
    obtain ⟨t, cleaned, removed⟩ :=
      Scratch.cleanup_removed (upheld.stands (Scratch.stands_of_unmade unmade))
    rw [run]
    dsimp only
    rw [Program.outcome_bind, Program.outcome_get]
    dsimp only
    rw [Program.outcome_bind_ok cleaned, Program.outcome_bind, Program.outcome_get]
    dsimp only
  · rw [upheld.directory, directory]
    exact ⟨_, t, rfl, .made configures runs runs.kinds_eq removed⟩
  · exact ⟨_, t, rfl,
      .stopped configures names earlier fails (isReport_failureText i.command failure) removed⟩

/-- A command line that is accepted, with a log file that can be started or none, comes to an outcome over
any files, in any environment and whatever the endpoint answers. If every page can be made, the status is
zero, and there is one line for each page and no other. Otherwise the status is one, no line says that a
page was written, and the first failure is reported. The scratch directory is gone in any case. -/
theorem run_ends {arguments : List Text} {i : Invocation} {threshold : LogLevel} {s begun : Session}
    (accepted : Request.ofArguments arguments = .run i)
    (logs : (startLog i).outcome s = (.ok threshold, begun)) :
    ∃ outcome t, (run arguments).outcome s = (.ok outcome, t) ∧ Ends i threshold begun outcome t := by
  have unmade := startLog_unmade logs
  rw [run, accepted]
  dsimp only
  unfold runCommand
  rw [Program.outcome_bind_ok logs, Program.outcome_bind, Program.outcome_get]
  dsimp only
  rw [Program.outcome_bind, Program.outcome_attempt]
  dsimp only
  cases configures : (Pipeline.configure (Path.ofText i.root) none).outcome begun with
  | mk result configured =>
    obtain ⟨directory, scratch⟩ := (Pipeline.configure_keeps _ _).reached configures
    have still : configured.scratch.path = none := by rw [scratch, unmade]
    cases result with
    | ok config => exact makePages_ends configures still directory
    | error failure =>
      exact ⟨_, configured, rfl, .unconfigured configures (isReport_failureText i.command failure) still⟩

/-- The beginning of a run beside a source tree with one enum of errors, with a model that answers. -/
def guideSession : Session :=
  { Session.new
      { entries :=
          [(["tmp"], .directory), (["docs"], .directory), (["source"], .directory),
           (["source", "tasker-shared"], .directory), (["source", "tasker-shared", "src"], .directory),
           (["source", "tasker-shared", "src", "errors.rs"],
             .file 0o644 (Utf8.encode "pub enum TaskError \x7b #[error(\"gone\")] Gone \x7d"))] }
      ["docs"] with
    environment := [("TASKER_CORE_DIR", "/source")]
    endpoint :=
      { outcomes := [.ok (Utf8.encode "\x7b\x7d"),
          .ok (Utf8.encode "\x7b\"response\": \"Wait longer.\"\x7d")]
        sent := [] } }

def guideArguments : List Text := ["--log-file", "run.log", "error-guide", "--verbose"]

def guideInvocation : Invocation :=
  { command := .page .errors, verbose := true, root := ".", logFile := some "run.log" }

/-- The state in which the log of this run has been started. -/
def guideBegun : Session := ((startLog guideInvocation).outcome guideSession).2

theorem run_ends_guide :
    Request.ofArguments guideArguments = .run guideInvocation ∧
      (startLog guideInvocation).outcome guideSession = (.ok .debug, guideBegun) ∧
      ∃ outcome t, (run guideArguments).outcome guideSession = (.ok outcome, t) ∧
        Ends guideInvocation .debug guideBegun outcome t := by
  have accepted : Request.ofArguments guideArguments = .run guideInvocation := by decide +kernel
  have logs : (startLog guideInvocation).outcome guideSession = (.ok .debug, guideBegun) := by rfl
  exact ⟨accepted, logs, run_ends accepted logs⟩

example : ((run guideArguments).outcome guideSession).1.toOption.map (·.output) =
    some "error-guide: wrote src/generated/error-troubleshooting-guide.md (1 entities)\n".toList := by
  decide +kernel

end CommandLine
end ReferencePages
