import ReferencePages.Diagram
import ReferencePages.Proofs.Path.Text
import ReferencePages.Proofs.Text.Infix
/-!
The parts of a diagram. A diagram is read again by its lines: the fences and the line with its kind are left out, and
what stands between them is cut at blank lines. An arrow on a line is the first one.
-/

namespace ReferencePages.Diagram

open Text (splitOnChar)

/-- The parts of a diagram of some kind. -/
def parts? (kind diagram : Text) : Option (List (List Text)) :=
  match splitOnChar '\n' diagram with
  | opening :: first :: ls =>
    if opening = "```mermaid" ∧ first = kind ∧ ls.getLast? = some "```".toList then some (ls.dropLast.splitOn [])
    else none
  | _ => none

theorem parts?_fenced {kind : Text} {ls : List Text} (single : ∀ line ∈ kind :: ls, '\n' ∉ line) :
    parts? kind (fenced (kind :: ls)) = some (ls.splitOn []) := by
  have lines : splitOnChar '\n' (fenced (kind :: ls)) = ("```mermaid" : Text) :: (kind :: ls ++ [("```" : Text)]) := by
    refine Text.splitOnChar_joinWith (List.forall_mem_cons.mpr ⟨by decide, ?_⟩)
    exact List.forall_mem_append.mpr ⟨single, List.forall_mem_singleton.mpr (by decide)⟩
  unfold parts?
  rw [lines, List.cons_append]
  dsimp only
  rw [List.getLast?_concat, List.dropLast_concat, if_pos ⟨rfl, rfl, rfl⟩]

/-- Lists with a mark behind each are cut at the marks. -/
theorem splitOn_marked {α : Type} [BEq α] [LawfulBEq α] {mark : α} {lists : List (List α)}
    (plain : ∀ l ∈ lists, mark ∉ l) (rest : List α) :
    (lists.flatMap (· ++ [mark]) ++ rest).splitOn mark = lists ++ rest.splitOn mark := by
  induction lists with
  | nil => rfl
  | cons l lists ih =>
    obtain ⟨here, later⟩ := List.forall_mem_cons.mp plain
    rw [List.flatMap_cons, List.append_assoc, List.append_assoc, List.singleton_append,
      List.splitOn_append_cons_self_of_not_mem here, ih later, List.cons_append]

/-- A line of a diagram: it is indented and goes on behind that. -/
def IsDrawn (line : Text) : Prop := indent <+: line ∧ '\n' ∉ line

instance : DecidablePred IsDrawn := fun line => inferInstanceAs (Decidable (indent <+: line ∧ '\n' ∉ line))

theorem IsDrawn.ne_nil {line : Text} (drawn : IsDrawn line) : line ≠ [] := by
  rintro rfl
  exact absurd (List.prefix_nil.mp drawn.1) (by decide)

theorem isDrawn_append {rest : Text} : IsDrawn (indent ++ rest) ↔ '\n' ∉ rest := by
  have plain : '\n' ∉ indent := by decide
  simp only [IsDrawn, List.prefix_append, List.mem_append, plain, false_or, true_and]

/-- The ends of an arrow. -/
def readArrow? (line : Text) : Option (Text × Text) := (Text.after? indent line).bind (Text.splitAtFirst? " --> ")

/-- A name without an arrow is found in front of the arrow that follows it. -/
theorem readArrow?_append {source : Text} (plain : ¬ "-->" <:+: source) (rest : Text) :
    readArrow? (indent ++ source ++ " --> " ++ rest) = some (source, rest) := by
  have regroup : indent ++ source ++ " --> " ++ rest = indent ++ (source ++ (" --> " ++ rest)) := by
    simp only [List.append_assoc]
  rw [readArrow?, regroup, Text.after?_append, Option.bind_some]
  -- An arrow that began earlier would stand in the name as a whole.
  refine Text.splitAtFirst?_append _ fun x y split filled starts => plain ?_
  obtain ⟨c, y, rfl⟩ := List.exists_cons_of_ne_nil filled
  have arrow : " --> ".toList = ' ' :: ("-->" ++ [' ']) := by decide
  rw [arrow, List.cons_append, List.cons_prefix_cons] at starts
  have first := (List.prefix_append _ _).trans starts.2
  have within : "-->" <+: y := (Text.prefix_append_cons (by decide) y _).mp first
  rw [split, ← List.singleton_append, ← List.append_assoc]
  exact within.isInfix.trans (List.suffix_append _ y).isInfix

end ReferencePages.Diagram
