import ReferencePages.Proofs.MarkdownTable.Rows
/-!
Tables of transitions. Alternatives of a source are rows of their own and guards are escaped, but bars in an event or
in a target stay, and each of them begins one more cell.
-/

namespace ReferencePages

namespace MarkdownTable

open Text (IsFlat splitOnChar)

def transitionHeaders : List Text := ["From State", "Event", "To State", "Notes"]

def noteCell (t : Transition) : Text :=
  match t.guard with
  | none => []
  | some guard => if guard.isEmpty then [] else "Guard: " ++ code (escapeCell guard)

def transitionCells (t : Transition) : List Text := [displaySource t.source, t.event, t.target, noteCell t]

theorem isCell_displaySource {source : Text} (cell : IsCell source) : IsCell (displaySource source) := by
  unfold displaySource
  split
  · decide
  · split
    · decide
    · exact cell

theorem isCell_noteCell (t : Transition) : IsCell (noteCell t) := by
  have label : IsCell ("Guard: " : Text) := by decide
  unfold noteCell
  split
  · decide
  · split
    · decide
    · exact isCell_append.mpr ⟨label, isCell_code.mpr (isCell_escapeCell _)⟩

variable {settings : Transition.Settings} {text : Text}

theorem isCell_source {t : Transition} (found : t ∈ Transition.extract settings text) :
    IsCell (displaySource t.source) := by
  have barless : '|' ∉ t.source := fun member =>
    ((Transition.isWhole_of_extract found).source.2 '|' member).2 (by decide)
  exact isCell_displaySource ⟨barless, (Diagram.extract_joins settings text t found).source⟩

theorem isFlat_transitionCells {t : Transition} (found : t ∈ Transition.extract settings text) :
    ∀ cell ∈ transitionCells t, IsFlat cell := by
  obtain ⟨_, event, target⟩ := Diagram.extract_joins settings text t found
  exact List.forall_iff_forall_mem.mp ⟨(isCell_source found).2, event.1, target, (isCell_noteCell t).2⟩

/-- Bars beyond the five of a row are those of its event and its target. -/
theorem count_transition {t : Transition} (found : t ∈ Transition.extract settings text) :
    (row (transitionCells t)).count '|' = 5 + t.event.count '|' + t.target.count '|' := by
  have source := List.count_eq_zero_of_not_mem (isCell_source found).1
  have note := List.count_eq_zero_of_not_mem (isCell_noteCell t).1
  have some : transitionCells t ≠ [] := List.cons_ne_nil _ _
  rw [count_row some]
  simp only [transitionCells, List.length_cons, List.length_nil, List.map_cons, List.map_nil, List.sum_cons,
    List.sum_nil, source, note]
  omega

theorem splitOnChar_transitions (settings : Transition.Settings) (text : Text) :
    splitOnChar '\n' (transitions (Transition.extract settings text)) =
      row transitionHeaders :: ruler transitionHeaders ::
        (Transition.extract settings text).map fun t => row (transitionCells t) :=
  splitOnChar_render (List.cons_ne_nil _ _) (by decide) (fun _ _ => List.cons_ne_nil _ _)
    fun _ found => isFlat_transitionCells found

/-- The table of the transitions of a source has two lines of headers and then one line for each transition, in
order. Each has its five bars and those of the event and the target, so that the lines are divided into the cells
of their transitions if and only if there are none in an event or a target. -/
theorem extract_tabulated (settings : Transition.Settings) (text : Text) :
    (splitOnChar '\n' (transitions (Transition.extract settings text))).take 2 =
        [row transitionHeaders, ruler transitionHeaders] ∧
      (row transitionHeaders).count '|' = 5 ∧ (ruler transitionHeaders).count '|' = 5 ∧
      List.Forall₂ (fun t line => line = row (transitionCells t) ∧
          line.count '|' = 5 + t.event.count '|' + t.target.count '|')
        (Transition.extract settings text) (rowsOf (transitions (Transition.extract settings text))) ∧
      (Tabulates transitionHeaders transitionCells (Transition.extract settings text)
          (transitions (Transition.extract settings text)) ↔
        ∀ t ∈ Transition.extract settings text, '|' ∉ t.event ∧ '|' ∉ t.target) := by
  have lines := splitOnChar_transitions settings text
  refine ⟨by rw [lines]; rfl, by decide, by decide, ?_, ?_, ?_⟩
  · rw [rowsOf, lines, List.drop_succ_cons, List.drop_one, List.tail_cons, List.forall₂_map_right_iff,
      List.forall₂_same]
    exact fun t found => ⟨rfl, count_transition found⟩
  · intro table t found
    have inside : row (transitionCells t) ∈ splitOnChar '\n' (transitions (Transition.extract settings text)) := by
      rw [lines]
      exact List.mem_cons_of_mem _ (List.mem_cons_of_mem _ (List.mem_map_of_mem found))
    have bars := table.bars _ inside
    rw [count_transition found] at bars
    have five : transitionHeaders.length + 1 = 5 := rfl
    exact ⟨List.count_eq_zero.mp (by omega), List.count_eq_zero.mp (by omega)⟩
  · intro plain
    refine tabulates_render (List.cons_ne_nil _ _) (by decide) (fun _ _ => rfl) fun t found => ?_
    obtain ⟨event, target⟩ := plain t found
    have barless : ∀ cell ∈ transitionCells t, '|' ∉ cell :=
      List.forall_iff_forall_mem.mp ⟨(isCell_source found).1, event, target, (isCell_noteCell t).1⟩
    exact fun cell member => ⟨barless cell member, isFlat_transitionCells found cell member⟩

/-- A machine with two events in one arm. -/
def eitherEvent : Text := "let target = match x \x7b\n(Open, Close | Lock) => Shut,\nOk(target)\n"

/-- The row of an arm with two events has a bar too many. -/
theorem extract_not_tabulated :
    rowsOf (transitions (Transition.extract (Transition.Settings.standard []) eitherEvent)) =
        ["| Open | Close|Lock | Shut |  |".toList] ∧
      ¬ Tabulates transitionHeaders transitionCells (Transition.extract (Transition.Settings.standard []) eitherEvent)
        (transitions (Transition.extract (Transition.Settings.standard []) eitherEvent)) := by
  have only : rowsOf (transitions (Transition.extract (Transition.Settings.standard []) eitherEvent)) =
      ["| Open | Close|Lock | Shut |  |".toList] := by decide +kernel
  refine ⟨only, fun table => ?_⟩
  have inside := List.mem_of_mem_drop (only ▸ List.mem_singleton_self _)
  exact absurd (table.bars _ inside) (by decide)

end MarkdownTable
end ReferencePages
