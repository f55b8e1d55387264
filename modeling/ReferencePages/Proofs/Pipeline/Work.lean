import ReferencePages.Proofs.Recipe.Reads
import ReferencePages.Proofs.Output.Write
import ReferencePages.Proofs.Summarizer.Work
/-!
Making one page: it is worked on, and then it is written. What holds over each step of the work holds up to
the write.
-/

namespace ReferencePages

open Program (Moves Reads Steady)

variable {R : Session → Session → Prop} [AdmitsWork R]

namespace Recipe

variable {ι β : Type}

theorem summarizeEach_moves {sources : Path → Prop} {r : Round ι β}
    (prompts : ∀ x, Reads sources (r.prompt x)) (kind : PageKind) (total : Nat) (xs : List ι) (index : Nat)
    {s : Summarizer} (label : s.HasPlainLabel) :
    Moves R (summarizeEach kind total r xs index s) := by
  induction xs generalizing index s with
  | nil => exact .pure _
  | cons x xs ih =>
    have progress : Reads sources (logProgress s kind index total (r.message x)) :=
      logProgress_reads _ _ _ _ _
    refine (progress.moves AdmitsWork.record).bind fun _ =>
      ((prompts x).moves AdmitsWork.record).bind fun prompt =>
        (Summarizer.summarize_moves label _).bind_of ?_
    rintro u ⟨summary, s'⟩ v run
    have label' : s'.HasPlainLabel := by
      intro m model
      rw [Summarizer.summarize_model run] at model
      exact label m model
    exact (ih (index + 1) label').bind fun _ => .pure _

theorem startSummarizer_label {w : Workshop} {kind : PageKind} {s : Summarizer} {u v : Session}
    (run : (startSummarizer w kind).outcome u = (.ok s, v)) : s.HasPlainLabel := by
  intro m model
  rw [Summarizer.build_label run m model]
  exact kind.slash_not_mem_name

/-- A summarizer is chosen, and what is done with it is the rest of the work. -/
theorem startSummarizer_moves {α : Type} {w : Workshop} {kind : PageKind}
    {next : Summarizer → Program α}
    (rest : ∀ s : Summarizer, s.HasPlainLabel → Moves R (next s)) :
    Moves R (startSummarizer w kind >>= next) :=
  (Summarizer.build_moves _ _).bind_of fun _ s _ run => rest s (startSummarizer_label run)

end Recipe

namespace Pipeline

/-- Composing a page reads, logs, asks and keeps transcripts, and does nothing else. -/
theorem compose_moves {w : Workshop} {kind : PageKind} {sources : Sources}
    (resolves : w.Resolves kind sources) : Moves R ((recipe w kind).compose sources) := by
  cases kind with
  | schema => exact (Recipe.schema_reads resolves).moves AdmitsWork.record
  | stateMachines => exact (Recipe.stateMachines_reads resolves).moves AdmitsWork.record
  | crates => exact (Recipe.crates_reads resolves).moves AdmitsWork.record
  | errors =>
    refine ((Recipe.readErrors_reads resolves).moves AdmitsWork.record).bind fun text =>
      (log_moves _ _ _).bind fun _ => ?_
    dsimp only
    split
    · exact .pure _
    · exact Recipe.startSummarizer_moves fun s label =>
        (Recipe.summarizeEach_moves (Recipe.enumRound_reads w) _ _ _ _ label).bind fun _ => .pure _
  | configuration =>
    refine ((Recipe.readConfiguration_reads resolves).moves AdmitsWork.record).bind fun text =>
      ((Reads.ofExcept _ _ : Reads w.IsSource _).moves AdmitsWork.record).bind fun parts =>
        (log_moves _ _ _).bind fun _ => ?_
    exact Recipe.startSummarizer_moves fun s label =>
      (Recipe.summarizeEach_moves (Recipe.sectionRound_reads w) _ _ _ _ label).bind fun _ => .pure _
  | decisions =>
    refine ((Recipe.readDecisions_reads resolves).moves AdmitsWork.record).bind fun records =>
      (log_moves _ _ _).bind fun _ => ?_
    dsimp only
    split
    · exact .pure _
    · exact Recipe.startSummarizer_moves fun s label =>
        (Recipe.summarizeEach_moves (Recipe.recordRound_reads w) _ _ _ _ label).bind fun _ => .pure _

theorem draft_moves (w : Workshop) (kind : PageKind) : Moves R (draft w kind) := by
  unfold draft
  exact (log_moves _ _ _).bind fun _ =>
    ((SourceTree.resolve_reads _ _ _ : Reads w.IsSource _).moves AdmitsWork.record).bind_of
      fun s sources t found =>
        ((logSources_reads _ _ : Reads w.IsSource _).moves AdmitsWork.record).bind fun _ =>
          compose_moves ⟨s, t, found⟩

theorem fileName_isName (kind : PageKind) : IsName kind.fileName := by
  cases kind <;> exact ⟨by decide, by decide, by decide, by decide⟩

/-- A page that fails has been worked on, and at most directories have been made for it. -/
theorem make_error {w : Workshop} {kind : PageKind} {failure : Failure} {s t : Session}
    (run : (make w kind).outcome s = (.error failure, t)) :
    ∃ u tree interruptions, R s u ∧ t = { u with tree, interruptions } ∧
      FileTree.GainsDirectories u.directory w.config.outputDirectory u.tree tree := by
  unfold make at run
  rw [Program.outcome_bind, Program.outcome_log] at run
  dsimp only at run
  have begun : R s (Program.record s .debug "orchestrator" ("Running generator " ++ kind.name)) :=
    AdmitsWork.record _ _ _ _
  generalize Program.record s .debug "orchestrator" ("Running generator " ++ kind.name) = s₁ at run begun
  rcases Program.outcome_bind_eq_error run with failed | ⟨drafted, u, composed, rest⟩
  · have worked : R s₁ t := (draft_moves w kind).reached failed
    exact ⟨t, t.tree, t.interruptions, Steady.trans begun worked, rfl,
      FileTree.GainsDirectories.refl _ _ _⟩
  · have worked : R s₁ u := (draft_moves w kind).reached composed
    rcases Program.outcome_bind_eq_error rest with failed | ⟨p, v, _, last⟩
    · obtain ⟨tree, interruptions, tEq, gains⟩ := OutputWriter.writeText_error failed
      rw [Path.parent_child (fileName_isName kind)] at gains
      exact ⟨u, tree, interruptions, Steady.trans begun worked, tEq, gains⟩
    · rw [Program.outcome_bind, Program.outcome_log] at last
      cases last

/-- A page that is made has been worked on and written. -/
theorem make_ok {w : Workshop} {kind : PageKind} {result : PageResult} {s t : Session}
    (run : (make w kind).outcome s = (.ok result, t)) :
    result.kind = kind ∧ ∃ u v contents, R s u ∧
      OutputWriter.Written u (w.config.outputDirectory.child kind.fileName) contents v ∧ R v t := by
  unfold make at run
  rw [Program.outcome_bind, Program.outcome_log] at run
  dsimp only at run
  have begun : R s (Program.record s .debug "orchestrator" ("Running generator " ++ kind.name)) :=
    AdmitsWork.record _ _ _ _
  generalize Program.record s .debug "orchestrator" ("Running generator " ++ kind.name) = s₁ at run begun
  obtain ⟨drafted, u, composed, rest⟩ := Program.outcome_bind_eq_ok run
  have worked : R s₁ u := (draft_moves w kind).reached composed
  obtain ⟨p, v, wrote, last⟩ := Program.outcome_bind_eq_ok rest
  obtain ⟨_, x, written, vEq⟩ := OutputWriter.writeText_ok wrote
  rw [Program.outcome_bind, Program.outcome_log] at last
  cases last
  refine ⟨rfl, u, x, _, Steady.trans begun worked, written, ?_⟩
  rw [vEq]
  exact Steady.trans (AdmitsWork.record _ _ _ _) (AdmitsWork.record _ _ _ _)

end Pipeline
end ReferencePages
