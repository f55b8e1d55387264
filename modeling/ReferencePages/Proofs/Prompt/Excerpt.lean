import ReferencePages.Proofs.Prompt.Template
import ReferencePages.Proofs.Utf8.Decode
/-!
The source in a question. Of the source that a question is about, the longest beginning that takes no more than the
bytes allowed stands at the end of the question, and nothing else of it has a part in the question.
-/

namespace ReferencePages

open Utf8 (IsLongest)

namespace Excerpt

theorem isLongest_bound (text : Text) (limit : Nat) : IsLongest limit text (bound text limit) := by
  unfold bound
  dsimp only
  split
  · exact Utf8.isLongest_self (by omega)
  · rw [if_pos (Int.natCast_nonneg limit), Int.toNat_natCast]
    exact Utf8.isLongest_decodeDropping limit text

example : bound "né€😀" 8 = "né€" := by decide +kernel

theorem isLongest_iff {text kept : Text} {limit : Nat} : IsLongest limit text kept ↔ kept = bound text limit := by
  constructor
  · exact fun longest => longest.unique (isLongest_bound text limit)
  · rintro rfl
    exact isLongest_bound text limit

end Excerpt

namespace Template

/-- The value of the last place stands behind the rest. -/
theorem fill_concat {context : Dictionary Json} {name : Text} {value : Json} (given : context.get? name = some value)
    (t : Template) :
    fill context (t ++ [.value name]) = (fill context t).map (· ++ value.toText) := by
  induction t with
  | nil => simp [fill, given, Except.map]
  | cons part t ih =>
    cases part with
    | text s =>
      rw [List.cons_append, fill, fill, ih]
      cases fill context t <;> simp [Except.map]
    | value other =>
      rw [List.cons_append, fill, fill, ih]
      cases context.get? other with
      | none => rfl
      | some v => cases fill context t <;> simp [Except.map]
    | isDefined other =>
      rw [List.cons_append, fill, fill, ih]
      cases fill context t <;> simp [Except.map]

end Template

namespace Prompt

/-- What a question can be about. -/
inductive Topic
  | decision | errors | configuration

namespace Topic

def ask : Topic → (b : Builder) → (name source : Text) → Program Text
  | decision => Prompt.decision
  | errors => errorGuide
  | configuration => configGuide

/-- The most bytes of the source in a question. -/
def limit : Topic → Nat
  | decision => 2000
  | errors => 3000
  | configuration => 4000

/-- The name of the template. -/
def file : Topic → Text
  | decision => "adr_summary.j2"
  | errors => "error_guide.j2"
  | configuration => "config_guide.j2"

/-- The values for the places of the template. -/
def context : Topic → (name content : Text) → Dictionary Json
  | decision, name, content => [("title", .string name), ("content", .string content)]
  | errors, name, content =>
    [("enum_name", .string name), ("content", .string content), ("word_limit", .int 600)]
  | configuration, name, content =>
    [("section", .string name), ("content", .string content), ("word_limit", .int 800)]

/-- The template that comes with the program, as far as the place of the source. -/
def opening : Topic → Template
  | decision => decisionTemplate.dropLast
  | errors => errorTemplate.dropLast
  | configuration => configTemplate.dropLast

end Topic

theorem template_topic (topic : Topic) :
    templates.get? (Text.joinWith "/" (Path.partsOf topic.file)) = some (topic.opening ++ [.value "content"]) := by
  cases topic <;> rfl

theorem ask_eq (topic : Topic) (b : Builder) (name source : Text) :
    topic.ask b name source = render b topic.file (topic.context name (Excerpt.bound source topic.limit)) := by
  cases topic <;> rfl

/-- The opening of a question has its values, whatever the source is. -/
theorem fill_opening (topic : Topic) (project name : Text) : ∃ front, ∀ content,
    Template.fill (("project_name", .string project) :: topic.context name content) topic.opening = .ok front := by
  cases topic <;> exact ⟨_, fun content => rfl⟩

/-- A question with the templates of the program is its opening with the bounded source behind it. -/
theorem ask_outcome (topic : Topic) (project name : Text) : ∃ front, ∀ source s,
    (topic.ask { directory := none, projectName := project } name source).outcome s =
      (.ok (Text.trim (front ++ Excerpt.bound source topic.limit)), s) := by
  obtain ⟨front, opened⟩ := fill_opening topic project name
  refine ⟨front, fun source s => ?_⟩
  have given (content : Text) : Dictionary.get? "content"
      (("project_name", Json.string project) :: topic.context name content) = some (.string content) := by
    cases topic <;> rfl
  have free (content : Text) :
      reservedNames.find? (fun key => ((topic.context name content).get? key).isSome) = none := by
    cases topic <;> rfl
  have unnamed (content : Text) : (topic.context name content).get? "project_name" = none := by
    cases topic <;> rfl
  rw [ask_eq]
  refine render_outcome rfl (template_topic topic) (free _) (unnamed _) ?_ s
  rw [Template.fill_concat (given _), opened]
  rfl

/-- A bounded text is the longest beginning of the text that takes no more than the bytes allowed. Every question
is asked of such a beginning of its source in place of the source; where the templates are those of the program, it
stands at the end of the question, behind text that the source has no part in. -/
theorem asks_longest (topic : Topic) (name : Text) :
    (∀ (limit : Nat) (text kept : Text), IsLongest limit text kept ↔ kept = Excerpt.bound text limit) ∧
    (∀ b source, ∃ kept, IsLongest topic.limit source kept ∧
      topic.ask b name source = render b topic.file (topic.context name kept)) ∧
    ∀ project, ∃ front, ∀ source s, ∃ kept, IsLongest topic.limit source kept ∧
      (topic.ask { directory := none, projectName := project } name source).outcome s =
        (.ok (Text.trim (front ++ kept)), s) := by
  have longest (source : Text) := Excerpt.isLongest_bound source topic.limit
  refine ⟨fun limit text kept => Excerpt.isLongest_iff, fun b source => ?_, fun project => ?_⟩
  · exact ⟨_, longest source, ask_eq topic b name source⟩
  · obtain ⟨front, asked⟩ := ask_outcome topic project name
    exact ⟨front, fun source s => ⟨_, longest source, asked source s⟩⟩

end Prompt
end ReferencePages
