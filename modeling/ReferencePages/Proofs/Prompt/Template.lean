import ReferencePages.Prompt
import ReferencePages.Proofs.Program.Outcome
/-!
Templates and what they are filled with. A template is filled where each of its places has a value, and the
templates that come with the program have their values whatever the question is about.
-/

namespace ReferencePages

namespace Template

/-- The names whose values a template has places for. -/
def names (t : Template) : List Text :=
  t.filterMap fun
    | .value name => some name
    | _ => none

/-- A template is filled where each of its places has a value. -/
theorem exists_fill {t : Template} {context : Dictionary Json}
    (covered : ∀ name ∈ t.names, (context.get? name).isSome = true) : ∃ text, fill context t = .ok text := by
  induction t with
  | nil => exact ⟨[], rfl⟩
  | cons part t ih =>
    cases part with
    | text s =>
      obtain ⟨text, filled⟩ := ih covered
      exact ⟨s ++ text, by rw [fill, filled]; rfl⟩
    | value name =>
      obtain ⟨here, later⟩ := List.forall_mem_cons.mp covered
      obtain ⟨text, filled⟩ := ih later
      obtain ⟨value, given⟩ := Option.isSome_iff_exists.mp here
      exact ⟨value.toText ++ text, by rw [fill, given, filled]; rfl⟩
    | isDefined name =>
      obtain ⟨text, filled⟩ := ih covered
      exact ⟨_, by rw [fill, filled]; rfl⟩

end Template

namespace Prompt

variable {b : Builder} (builtIn : b.directory = none)

include builtIn

/-- A template that comes with the program, filled with a context, makes the question in every state. -/
theorem render_outcome {name : Text} {context : Dictionary Json} {t : Template} {text : Text}
    (known : templates.get? (Text.joinWith "/" (Path.partsOf name)) = some t)
    (free : reservedNames.find? (fun key => (context.get? key).isSome) = none)
    (unnamed : context.get? "project_name" = none)
    (filled : Template.fill (("project_name", Json.string b.projectName) :: context) t = .ok text) (s : Session) :
    (render b name context).outcome s = (.ok (Text.trim text), s) := by
  have found : (template b name).outcome s = (.ok t, s) := by
    rw [template, builtIn]
    dsimp only
    rw [known]
    rfl
  rw [render, free]
  dsimp only
  rw [Program.outcome_bind_ok found, unnamed, if_neg (by simp), filled]
  rfl

theorem exists_render {name : Text} {context : Dictionary Json} {t : Template}
    (known : templates.get? (Text.joinWith "/" (Path.partsOf name)) = some t)
    (free : reservedNames.find? (fun key => (context.get? key).isSome) = none)
    (unnamed : context.get? "project_name" = none)
    (covered : ∀ name ∈ t.names,
      (Dictionary.get? name (("project_name", Json.string b.projectName) :: context)).isSome = true) :
    ∃ text, ∀ s, (render b name context).outcome s = (.ok text, s) := by
  obtain ⟨text, filled⟩ := Template.exists_fill covered
  exact ⟨Text.trim text, render_outcome builtIn known free unnamed filled⟩

theorem exists_decision (title excerpt : Text) :
    ∃ text, ∀ s, (decision b title excerpt).outcome s = (.ok text, s) := by
  refine @exists_render b builtIn _ _ decisionTemplate rfl rfl rfl ?_
  have named : decisionTemplate.names = ["title".toList, "content".toList] := rfl
  rw [named]
  simp only [List.forall_mem_cons]
  exact ⟨rfl, rfl, nofun⟩

theorem exists_errorGuide (enumName definition : Text) :
    ∃ text, ∀ s, (errorGuide b enumName definition).outcome s = (.ok text, s) := by
  refine @exists_render b builtIn _ _ errorTemplate rfl rfl rfl ?_
  have named : errorTemplate.names =
      ["project_name".toList, "enum_name".toList, "word_limit".toList, "content".toList] := rfl
  rw [named]
  simp only [List.forall_mem_cons]
  exact ⟨rfl, rfl, rfl, rfl, nofun⟩

theorem exists_configGuide (sectionTitle source : Text) :
    ∃ text, ∀ s, (configGuide b sectionTitle source).outcome s = (.ok text, s) := by
  refine @exists_render b builtIn _ _ configTemplate rfl rfl rfl ?_
  have named : configTemplate.names =
      ["project_name".toList, "section".toList, "word_limit".toList, "content".toList] := rfl
  rw [named]
  simp only [List.forall_mem_cons]
  exact ⟨rfl, rfl, rfl, rfl, nofun⟩

end Prompt
end ReferencePages
