import ReferencePages.Proofs.Pipeline.Failure
import ReferencePages.Proofs.Scratch.Standing
/-!
Pages in a row and the scratch directory that they share. Every page upholds it, whether the page can be made
or not.
-/

namespace ReferencePages

open Program (Moves Steady)
open Scratch (Upholds)

/-- A page takes the place of no directory. -/
theorem OutputWriter.Written.upholds {s t : Session} {target : Path} {contents : Bytes}
    (written : Written s target contents t) : Upholds s t := by
  have keeps : s.tree.KeepsDirectories t.tree := by
    intro place there
    have ne : place ≠ FileTree.destination s.directory target := by
      rintro rfl
      exact written.replaced there
    rcases written.others place ne with same | ⟨_, made, _⟩
    · rw [same, there]
    · exact made
  obtain ⟨tree, interruptions, rfl⟩ := written.rest
  exact .of_path rfl rfl keeps

namespace Pipeline

theorem make_upholds (w : Workshop) (kind : PageKind) : Moves Upholds (make w kind) := by
  intro s
  cases made : (make w kind).outcome s with
  | mk result t =>
    cases result with
    | ok result =>
      obtain ⟨_, u, v, contents, before, written, after⟩ := make_ok (R := Upholds) made
      exact Steady.trans (Steady.trans before written.upholds) after
    | error failure =>
      obtain ⟨u, tree, interruptions, before, rfl, gains⟩ := make_error (R := Upholds) made
      exact Steady.trans before (.of_path rfl rfl (.of_gains gains))

theorem run_upholds (w : Workshop) (name : Text) : Moves Upholds (run w name) := by
  intro s
  rcases run_outcome w name s with ⟨_, refused⟩ | ⟨kind, _, made⟩
  · rw [refused]
    exact Steady.refl s
  · rw [made]
    exact make_upholds w kind s

theorem runAll_upholds (w : Workshop) (names : List Text) : Moves Upholds (runAll w names) := by
  induction names with
  | nil => exact .pure _
  | cons name names ih => exact (run_upholds w name).bind fun _ => ih.bind fun _ => .pure _

/-- Several pages come to the results of their own runs, or to the first failure among these. -/
theorem runAll_outcome (w : Workshop) (names : List Text) (s : Session) :
    (∃ results t, (runAll w names).outcome s = (.ok results, t) ∧ Runs w names s results t) ∨
      ∃ failure t, (runAll w names).outcome s = (.error failure, t) ∧
        ∃ done name rest results middle, names = done ++ name :: rest ∧
          Runs w done s results middle ∧ (run w name).outcome middle = (.error failure, t) := by
  induction names generalizing s with
  | nil => exact .inl ⟨[], s, rfl, .none s⟩
  | cons name names ih =>
    rw [runAll, Program.outcome_bind]
    cases first : (run w name).outcome s with
    | mk result u =>
      cases result with
      | error failure => exact .inr ⟨failure, u, rfl, [], name, names, [], s, rfl, .none s, first⟩
      | ok result =>
        dsimp only
        rw [Program.outcome_bind]
        rcases ih u with ⟨results, t, rest, runs⟩ |
          ⟨failure, t, stopped, done, stop, later, results, middle, split, runs, fails⟩
        · rw [rest]
          exact .inl ⟨_, _, rfl, .next first runs⟩
        · rw [stopped]
          exact .inr ⟨failure, t, rfl, name :: done, stop, later, result :: results, middle,
            by rw [split]; rfl, .next first runs, fails⟩

/-- Pages that have been made are those that were asked for. -/
theorem Runs.kinds {w : Workshop} {names : List Text} {results : List PageResult} {s t : Session}
    (runs : Runs w names s results t) :
    names.map PageKind.ofName? = results.map fun result => some result.kind := by
  induction runs with
  | none s => rfl
  | @next name names s t u result results first rest ih =>
    rcases run_outcome w name s with ⟨_, refused⟩ | ⟨kind, known, made⟩
    · rw [refused] at first
      cases first
    · rw [made] at first
      have same := (make_ok (R := Upholds) first).1
      rw [List.map_cons, List.map_cons, known, ih, same]

theorem ofName?_name (kind : PageKind) : PageKind.ofName? kind.name = some kind := by
  cases kind <;> rfl

theorem Runs.kinds_eq {w : Workshop} {kinds : List PageKind} {results : List PageResult} {s t : Session}
    (runs : Runs w (kinds.map PageKind.name) s results t) : results.map PageResult.kind = kinds := by
  have same := runs.kinds
  rw [List.map_map, show PageKind.ofName? ∘ PageKind.name = some from funext ofName?_name,
    ← Function.comp_def some, ← List.map_map] at same
  exact ((List.map_inj_right fun _ _ => Option.some.inj).mp same).symm

end Pipeline
end ReferencePages
