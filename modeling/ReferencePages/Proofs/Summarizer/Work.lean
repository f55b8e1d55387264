import ReferencePages.Summarizer
import ReferencePages.Proofs.Endpoint.Reply
import ReferencePages.Proofs.Path.Name
import ReferencePages.Proofs.Text.Number
/-!
The work on a page before the page is written: entries in the log, questions to the endpoint, and
transcripts in the scratch directory. Whatever holds over each of these steps holds over the work as a
whole.
-/

namespace ReferencePages

open Program (Moves Steady)

/-- The names that files of pages have. -/
def IsPageName (name : Text) : Prop := ∃ stem : Text, name = stem ++ ".md"

theorem IsPageName.getLast? {name : Text} (page : IsPageName name) : name.getLast? = some 'd' := by
  obtain ⟨stem, rfl⟩ := page
  rw [List.getLast?_append]
  rfl

/-- A relation between states that every step of the work on a page keeps. The files that are written by
it have proper names, and not those of pages. -/
class AdmitsWork (R : Session → Session → Prop) : Prop extends Steady R where
  record : ∀ s level logger text, R s (Program.record s level logger text)
  exchange : ∀ (s : Session) endpoint rehearsal, R s { s with endpoint, rehearsal }
  nextIndex : ∀ label, Moves R (Scratch.nextIndex label)
  writeJson : ∀ {name}, IsName name → ¬ IsPageName name → ∀ value, Moves R (Scratch.writeJson name value)

variable {R : Session → Session → Prop} [AdmitsWork R]

theorem log_moves (level : LogLevel) (logger text : Text) : Moves R (Program.log level logger text) :=
  fun s => AdmitsWork.record s level logger text

namespace ModelSummarizer

/-- The file names of transcripts are names, and not those of pages. -/
theorem transcriptName_isName {m : ModelSummarizer} (label : '/' ∉ m.label) (index : Nat) (side : Text)
    (noSlash : '/' ∉ side) :
    IsName (m.transcriptName index side) ∧ ¬ IsPageName (m.transcriptName index side) := by
  have digits : '/' ∉ Text.ofNat index := Text.not_mem_ofNat (by decide) index
  have ending : (m.transcriptName index side).getLast? = some 'n' := by
    unfold transcriptName
    rw [List.getLast?_append]
    rfl
  refine ⟨⟨?_, ?_, ?_, ?_⟩, ?_⟩
  · unfold transcriptName
    simp only [List.mem_append, not_or]
    exact ⟨⟨⟨⟨⟨label, by decide⟩, digits⟩, by decide⟩, noSlash⟩, by decide⟩
  · intro empty
    rw [empty] at ending
    cases ending
  · intro dot
    rw [dot] at ending
    exact absurd ending (by decide)
  · intro dots
    rw [dots] at ending
    exact absurd ending (by decide)
  · intro page
    rw [page.getLast?] at ending
    exact absurd ending (by decide)

theorem recordRequest_moves {m : ModelSummarizer} (label : '/' ∉ m.label) (request : SummaryRequest) :
    Moves R (m.recordRequest request) := by
  unfold recordRequest
  split
  · exact .pure _
  · refine (AdmitsWork.nextIndex _).bind fun index => ?_
    obtain ⟨isName, noPage⟩ := transcriptName_isName label index "request" (by decide)
    exact (AdmitsWork.writeJson isName noPage _).bind fun _ => .pure _

theorem recordReply_moves {m : ModelSummarizer} (label : '/' ∉ m.label) (index : Option Nat)
    (reply : Except ExchangeFault Text) : Moves R (m.recordReply index reply) := by
  have recorded (key value : Text) : Moves R (m.recordResponse index key value) := by
    unfold recordResponse
    split
    · exact .pure _
    · rename_i number
      obtain ⟨isName, noPage⟩ := transcriptName_isName label number "response" (by decide)
      exact (AdmitsWork.writeJson isName noPage _).bind fun _ => .pure _
  unfold recordReply
  split
  · exact recorded _ _
  · exact recorded _ _

end ModelSummarizer

namespace Runner

theorem ask_moves (r : Runner) (prompt : Text) (timeout : Option Binary64) :
    Moves R (r.ask prompt timeout) := by
  intro s
  obtain ⟨endpoint, rehearsal, asked, _⟩ := r.ask_outcome prompt timeout s
  rw [asked]
  exact AdmitsWork.exchange s endpoint rehearsal

theorem probe_moves (r : Runner) : Moves R r.probe := by
  unfold probe
  split
  · refine .bind (fun s => AdmitsWork.exchange s s.endpoint _) fun _ => .bind ?_ fun _ => .pure _
    exact fun s => Steady.refl s
  · split
    · exact .pure _
    · refine .bind (fun s => ?_) fun outcome => ?_
      · rw [send_outcome]
        exact AdmitsWork.exchange s _ s.rehearsal
      · split
        · exact .pure _
        · split
          · exact .pure _
          · exact .throw _

end Runner

namespace Summarizer

/-- A summarizer whose transcripts have names without slashes. -/
def HasPlainLabel (s : Summarizer) : Prop := ∀ m, s.model? = some m → '/' ∉ m.label

theorem summarize_moves {s : Summarizer} (label : s.HasPlainLabel) (request : SummaryRequest) :
    Moves R (s.summarize request) := by
  unfold summarize
  split
  · exact .pure _
  · rename_i m model
    have plain := label m model
    refine .bind ?_ fun answer => ?_
    · exact (ModelSummarizer.recordRequest_moves plain _).bind fun index =>
        (Runner.ask_moves _ _ _).bind fun reply =>
          (ModelSummarizer.recordReply_moves plain _ _).bind fun _ => .pure _
    · split
      · exact .pure _
      · exact (log_moves _ _ _).bind fun _ => .pure _

/-- A summarizer keeps its model. -/
theorem summarize_model {s s' : Summarizer} {request : SummaryRequest} {summary : Summary}
    {u v : Session} (run : (s.summarize request).outcome u = (.ok (summary, s'), v)) :
    s'.model? = s.model? := by
  unfold summarize at run
  split at run
  · cases run
    rfl
  · rename_i m model
    obtain ⟨answer, t, _, rest⟩ := Program.outcome_bind_eq_ok run
    split at rest
    · cases rest
      rfl
    · rw [Program.outcome_bind, Program.outcome_log] at rest
      cases rest
      rfl

theorem build_moves (settings : EndpointSettings) (usage : Usage) : Moves R (build settings usage) := by
  unfold build
  split
  · exact (log_moves _ _ _).bind fun _ => .pure _
  · refine .bind ?_ fun runner? => ?_
    · unfold runnerFor
      split
      · exact .pure _
      · unfold runnerOf
        split
        · exact .pure _
        · exact (log_moves _ _ _).bind fun _ => .pure _
        · exact .throw _
    · split
      · exact .pure _
      · refine (Runner.probe_moves _).bind fun answers => ?_
        split
        · exact (log_moves _ _ _).bind fun _ => .pure _
        · exact (log_moves _ _ _).bind fun _ => .pure _

/-- The transcripts of a new summarizer have the label that was asked for. -/
theorem build_label {settings : EndpointSettings} {usage : Usage} {s : Summarizer} {u v : Session}
    (run : (build settings usage).outcome u = (.ok s, v)) :
    ∀ m, s.model? = some m → m.label = usage.label := by
  intro m model
  unfold build at run
  split at run
  · rw [Program.outcome_bind, Program.outcome_log] at run
    cases run
    cases model
  · obtain ⟨runner?, t, _, rest⟩ := Program.outcome_bind_eq_ok run
    split at rest
    · cases rest
      cases model
    · obtain ⟨answers, t', _, rest'⟩ := Program.outcome_bind_eq_ok rest
      split at rest'
      · rw [Program.outcome_bind, Program.outcome_log] at rest'
        cases rest'
        cases model
        rfl
      · rw [Program.outcome_bind, Program.outcome_log] at rest'
        cases rest'
        cases model

end Summarizer
end ReferencePages
