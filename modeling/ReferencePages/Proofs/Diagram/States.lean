import ReferencePages.Proofs.Diagram.Parts
import Mathlib.Data.List.Forall2
/-!
Diagrams of states. They are read again line by line: arrows from the start and to the end, and below them the edges and
notes of the transitions in their order. A transition from any state that is not terminal has an edge for each key
state, one from any state at all has a note, and neither of the two names is drawn as a state.
-/

namespace ReferencePages.Diagram

open Transition (anyNonTerminal anyState)

/-! ### Reading -/

/-- A line of a diagram: an edge from a state with what stands behind the arrow, or a note with what stands behind the
words that open it. -/
inductive Statement
  | edge (source rest : Text)
  | note (rest : Text)
  deriving DecidableEq, Repr

/-- What a diagram of states shows: the edges from the start and to the end, and the lines of the transitions. -/
structure Chart where
  ends : List Statement
  statements : List Statement
  deriving DecidableEq, Repr

def noteOpening : Text := indent ++ "note right of "

def readStatement? (line : Text) : Option Statement :=
  match readArrow? line with
  | some (source, rest) => some (.edge source rest)
  | none => (Text.after? noteOpening line).map .note

def readStates? (diagram : Text) : Option Chart :=
  match parts? "stateDiagram-v2" diagram with
  | some [ends, statements] => do
    return { ends := ← ends.mapM readStatement?, statements := ← statements.mapM readStatement? }
  | _ => none

/-! ### Drawing -/

/-- What stands for the start and for the end. -/
def mark : Text := "[*]"

/-- Whether a transition has a guard with something in it. -/
def IsGuarded (t : Transition) : Prop := ∃ guard, t.guard = some guard ∧ guard ≠ []

/-- A label of a transition is its event, and has a mark behind it where the transition is guarded and nowhere else. -/
structure IsLabel (t : Transition) (label : Text) : Prop where
  plain : ¬ IsGuarded t → label = t.event
  marked : IsGuarded t → label = t.event ++ " [guard]"
  guarded : " [guard]".toList <:+ label ↔ IsGuarded t

/-- What the lines of a transition are. -/
inductive Draws (style : StateStyle) (t : Transition) : List Statement → Prop
  | ordinary {label : Text} (source : t.source ≠ anyNonTerminal ∧ t.source ≠ anyState) (labelled : IsLabel t label) :
      Draws style t [.edge t.source (t.target ++ " : " ++ label)]
  | expanded {label : Text} (source : t.source = anyNonTerminal) (labelled : IsLabel t label) :
      Draws style t (style.key.map fun state => .edge state (t.target ++ " : " ++ label))
  | noted (source : t.source = anyState) : Draws style t [.note (t.target ++ " : From any state via " ++ t.event)]

/-- Names that can be told from the signs around them. -/
structure StateStyle.IsLegible (style : StateStyle) : Prop where
  single : ∀ name ∈ style.initial :: (style.terminal ++ style.key), '\n' ∉ name
  arrowless : ∀ name ∈ style.terminal ++ style.key, ¬ "-->".toList <:+: name

/-- A transition with names that can be told from the signs around them. -/
structure IsLegible (t : Transition) : Prop where
  single : '\n' ∉ t.source ∧ '\n' ∉ t.event ∧ '\n' ∉ t.target
  source : ¬ "-->".toList <:+: t.source
  noted : t.source = anyState → ¬ "-->".toList <:+: t.target ∧ ¬ "-->".toList <:+: t.event
  unguarded : t.source ≠ anyState → ¬ IsGuarded t → ¬ " [guard]".toList <:+ t.event

namespace Statement

def line : Statement → Text
  | edge source rest => indent ++ source ++ " --> " ++ rest
  | note rest => noteOpening ++ rest

def IsLegible : Statement → Prop
  | edge source rest => '\n' ∉ source ∧ '\n' ∉ rest ∧ ¬ "-->".toList <:+: source
  | note rest => '\n' ∉ rest ∧ ¬ "-->".toList <:+: rest

variable {s : Statement}

theorem isDrawn_line (legible : s.IsLegible) : IsDrawn s.line := by
  cases s with
  | edge source rest =>
    obtain ⟨single, singleToo, _⟩ := legible
    rw [line, List.append_assoc, List.append_assoc, isDrawn_append]
    simp only [List.mem_append, not_or]
    exact ⟨single, by decide, singleToo⟩
  | note rest =>
    rw [line, noteOpening, List.append_assoc, isDrawn_append]
    simp only [List.mem_append, not_or]
    exact ⟨by decide, legible.1⟩

theorem readStatement?_line (legible : s.IsLegible) : readStatement? s.line = some s := by
  cases s with
  | edge source rest =>
    obtain ⟨_, _, plain⟩ := legible
    rw [readStatement?, line, readArrow?_append plain]
  | note rest =>
    -- A line is looked at as an edge first, so there may be no arrow in a note.
    have absent : ¬ " --> ".toList <:+: "note right of " ++ rest := by
      intro arrow
      have opening : "note right of ".toList = "note right of" ++ [' '] := by decide
      have shaft : "-->".toList <:+: " --> ".toList := by decide
      have within := shaft.trans arrow
      rw [opening, List.append_assoc, List.singleton_append, Text.infix_append_cons (by decide)] at within
      exact within.elim (by decide) legible.2
    have unread : readArrow? (line (.note rest)) = none := by
      rw [readArrow?, line, noteOpening, List.append_assoc, Text.after?_append, Option.bind_some,
        Text.splitAtFirst?_eq_none absent]
    rw [readStatement?, unread]
    dsimp only
    rw [line, Text.after?_append, Option.map_some]

theorem mapM_readStatement? {statements : List Statement} (legible : ∀ s ∈ statements, s.IsLegible) :
    (statements.map line).mapM readStatement? = some statements := by
  induction statements with
  | nil => rfl
  | cons s statements ih =>
    obtain ⟨here, later⟩ := List.forall_mem_cons.mp legible
    rw [List.map_cons, List.mapM_cons, readStatement?_line here, ih later]
    rfl

end Statement

/-- The lines of a transition as statements. -/
def statementsOf (style : StateStyle) (t : Transition) : List Statement :=
  if !t.isWildcard then [.edge t.source (t.target ++ " : " ++ transitionLabel t)]
  else if t.source = anyNonTerminal then
    style.key.map fun state => .edge state (t.target ++ " : " ++ transitionLabel t)
  else [.note (t.target ++ " : From any state via " ++ t.event)]

theorem transitionLines_eq (style : StateStyle) (t : Transition) :
    transitionLines style t = (statementsOf style t).map Statement.line := by
  have edge (source : Text) : edgeLine source t.target (transitionLabel t) =
      (Statement.edge source (t.target ++ " : " ++ transitionLabel t)).line := by
    simp only [edgeLine, Statement.line, List.append_assoc]
  have note : indent ++ "note right of " ++ t.target ++ " : From any state via " ++ t.event =
      (Statement.note (t.target ++ " : From any state via " ++ t.event)).line := by
    simp only [Statement.line, noteOpening, List.append_assoc]
  unfold transitionLines statementsOf
  split
  · rw [edge, List.map_singleton]
  · split
    · simp only [edge, List.map_map, Function.comp_def]
    · rw [note, List.map_singleton]

theorem transitionLabel_eq (t : Transition) :
    (IsGuarded t ∧ transitionLabel t = t.event ++ " [guard]") ∨ (¬ IsGuarded t ∧ transitionLabel t = t.event) := by
  have guarded : t.guard.any (!·.isEmpty) = true ↔ IsGuarded t := by
    cases guard : t.guard <;> simp [IsGuarded, guard]
  unfold transitionLabel
  split
  · exact .inl ⟨guarded.mp ‹_›, rfl⟩
  · exact .inr ⟨fun some => ‹¬ _› (guarded.mpr some), rfl⟩

theorem isLabel_transitionLabel {t : Transition} (unguarded : ¬ IsGuarded t → ¬ " [guard]".toList <:+ t.event) :
    IsLabel t (transitionLabel t) := by
  rcases transitionLabel_eq t with ⟨guarded, label⟩ | ⟨plain, label⟩
  · exact ⟨fun plain => absurd guarded plain, fun _ => label, iff_of_true (label ▸ List.suffix_append _ _) guarded⟩
  · exact ⟨fun _ => label, fun guarded => absurd guarded plain, iff_of_false (label ▸ unguarded plain) plain⟩

/-- The three kinds of transitions. -/
theorem statementsOf_cases (style : StateStyle) (t : Transition) :
    (t.source ≠ anyNonTerminal ∧ t.source ≠ anyState) ∧
        statementsOf style t = [.edge t.source (t.target ++ " : " ++ transitionLabel t)] ∨
      t.source = anyNonTerminal ∧
        statementsOf style t = (style.key.map fun state => .edge state (t.target ++ " : " ++ transitionLabel t)) ∨
      t.source = anyState ∧ statementsOf style t = [.note (t.target ++ " : From any state via " ++ t.event)] := by
  have other : anyNonTerminal ≠ anyState := by decide
  by_cases nonTerminal : t.source = anyNonTerminal
  · exact .inr (.inl ⟨nonTerminal, by simp [statementsOf, Transition.isWildcard, nonTerminal]⟩)
  · by_cases any : t.source = anyState
    · exact .inr (.inr ⟨any, by simp [statementsOf, Transition.isWildcard, any, other.symm]⟩)
    · exact .inl ⟨⟨nonTerminal, any⟩, by simp [statementsOf, Transition.isWildcard, nonTerminal, any]⟩

theorem draws_statementsOf {style : StateStyle} {t : Transition} (legible : IsLegible t) :
    Draws style t (statementsOf style t) := by
  rcases statementsOf_cases style t with ⟨source, same⟩ | ⟨source, same⟩ | ⟨source, same⟩
  · exact same ▸ .ordinary source (isLabel_transitionLabel (legible.unguarded source.2))
  · have other : t.source ≠ anyState := by
      rw [source]
      decide
    exact same ▸ .expanded source (isLabel_transitionLabel (legible.unguarded other))
  · exact same ▸ .noted source

theorem legible_statementsOf {style : StateStyle} (legible : style.IsLegible) {t : Transition}
    (readable : IsLegible t) : ∀ s ∈ statementsOf style t, s.IsLegible := by
  obtain ⟨⟨source, event, target⟩, arrowless, noted, _⟩ := readable
  have label : '\n' ∉ transitionLabel t := by
    rcases transitionLabel_eq t with ⟨_, label⟩ | ⟨_, label⟩
    · rw [label, List.mem_append, not_or]
      exact ⟨event, by decide⟩
    · rwa [label]
  have behind : '\n' ∉ t.target ++ " : " ++ transitionLabel t := by
    simp only [List.mem_append, not_or]
    exact ⟨⟨target, by decide⟩, label⟩
  rcases statementsOf_cases style t with ⟨_, same⟩ | ⟨_, same⟩ | ⟨any, same⟩ <;> rw [same]
  · exact List.forall_mem_singleton.mpr ⟨source, behind, arrowless⟩
  · refine List.forall_mem_map.mpr fun state member => ?_
    have named := List.mem_append_right style.terminal member
    exact ⟨legible.single state (List.mem_cons_of_mem _ named), behind, legible.arrowless state named⟩
  · obtain ⟨plainTarget, plainEvent⟩ := noted any
    have regroup : t.target ++ " : From any state via " ++ t.event =
        t.target ++ ' ' :: (": From any state via" ++ ' ' :: t.event) := by
      have via : " : From any state via ".toList = ' ' :: (": From any state via" ++ [' ']) := by decide
      rw [via]
      simp only [List.append_assoc, List.cons_append, List.nil_append]
    refine List.forall_mem_singleton.mpr ⟨?_, ?_⟩
    · simp only [List.mem_append, not_or]
      exact ⟨⟨target, by decide⟩, event⟩
    · rw [regroup, Text.infix_append_cons (by decide), Text.infix_append_cons (by decide)]
      exact fun within => within.elim plainTarget fun within => within.elim (by decide) plainEvent

/-! ### The diagram -/

/-- The edges from the start and to the end. -/
def endsOf (style : StateStyle) : List Statement :=
  .edge mark style.initial :: style.terminal.map fun state => .edge state mark

theorem legible_endsOf {style : StateStyle} (legible : style.IsLegible) : ∀ s ∈ endsOf style, s.IsLegible := by
  have named {state : Text} (member : state ∈ style.terminal) : state ∈ style.terminal ++ style.key :=
    List.mem_append_left _ member
  rw [endsOf, List.forall_mem_cons, List.forall_mem_map]
  refine ⟨⟨by decide, legible.single _ (List.mem_cons_self ..), by decide⟩, fun state member => ⟨?_, by decide, ?_⟩⟩
  · exact legible.single state (List.mem_cons_of_mem _ (named member))
  · exact legible.arrowless state (named member)

/-- A diagram of states has its ends, an empty line and the lines of its transitions. -/
theorem states_eq (style : StateStyle) (transitions : List Transition) : states style transitions =
    fenced ("stateDiagram-v2" :: ((endsOf style).map Statement.line ++
      [] :: (transitions.flatMap (statementsOf style)).map Statement.line)) := by
  have start : indent ++ "[*] --> " ++ style.initial = (Statement.edge mark style.initial).line := by
    have mark : "[*] --> ".toList = mark ++ " --> " := by decide
    rw [mark, Statement.line]
    simp only [List.append_assoc]
  have finish (state : Text) : indent ++ state ++ " --> [*]" = (Statement.edge state mark).line := by
    have mark : " --> [*]".toList = " --> " ++ mark := by decide
    rw [mark, Statement.line]
    simp only [List.append_assoc]
  have each : transitionLines style = fun t => (statementsOf style t).map Statement.line :=
    funext (transitionLines_eq style)
  simp only [states, start, finish, each, endsOf, List.map_cons, List.map_map, List.map_flatMap,
    Function.comp_def, List.cons_append, List.append_assoc, List.nil_append]

theorem readStates?_states {style : StateStyle} (legible : style.IsLegible) {transitions : List Transition}
    (readable : ∀ t ∈ transitions, IsLegible t) : readStates? (states style transitions) =
      some { ends := endsOf style, statements := transitions.flatMap (statementsOf style) } := by
  have ends := legible_endsOf legible
  have statements : ∀ s ∈ transitions.flatMap (statementsOf style), s.IsLegible := by
    intro s member
    obtain ⟨t, within, drawn⟩ := List.mem_flatMap.mp member
    exact legible_statementsOf legible (readable t within) s drawn
  have filled {statements : List Statement} (legible : ∀ s ∈ statements, s.IsLegible) :
      [] ∉ statements.map Statement.line := by
    intro blank
    obtain ⟨s, member, empty⟩ := List.mem_map.mp blank
    exact (Statement.isDrawn_line (legible s member)).ne_nil empty
  have single {statements : List Statement} (legible : ∀ s ∈ statements, s.IsLegible) :
      ∀ line ∈ statements.map Statement.line, '\n' ∉ line :=
    List.forall_mem_map.mpr fun s member => (Statement.isDrawn_line (legible s member)).2
  have lines : ∀ line ∈ ("stateDiagram-v2" : Text) :: ((endsOf style).map Statement.line ++
      [] :: (transitions.flatMap (statementsOf style)).map Statement.line), '\n' ∉ line := by
    rw [List.forall_mem_cons, List.forall_mem_append, List.forall_mem_cons]
    exact ⟨by decide, single ends, by decide, single statements⟩
  rw [states_eq, readStates?, parts?_fenced lines, List.splitOn_append_cons_self_of_not_mem (filled ends),
    List.splitOn_eq_singleton (filled statements)]
  dsimp only
  rw [Statement.mapM_readStatement? ends, Statement.mapM_readStatement? statements]
  rfl

theorem Draws.eq_nil_iff {style : StateStyle} {t : Transition} {group : List Statement} (draws : Draws style t group) :
    group = [] ↔ t.source = anyNonTerminal ∧ style.key = [] := by
  cases draws with
  | ordinary source _ => exact iff_of_false (List.cons_ne_nil _ _) fun none => source.1 none.1
  | expanded source _ => rw [List.map_eq_nil_iff, and_iff_right source]
  | noted source =>
    refine iff_of_false (List.cons_ne_nil _ _) fun none => ?_
    rw [source] at none
    exact absurd none.1 (by decide)

/-- Edges lead from the states of transitions and from key states. -/
theorem Draws.source_ne {style : StateStyle} (key : ∀ state ∈ style.key, state ≠ anyNonTerminal ∧ state ≠ anyState)
    {t : Transition} {group : List Statement} (draws : Draws style t group) {source rest : Text}
    (member : .edge source rest ∈ group) : source ≠ anyNonTerminal ∧ source ≠ anyState := by
  cases draws with
  | ordinary named _ =>
    cases List.mem_singleton.mp member
    exact named
  | expanded _ _ =>
    obtain ⟨state, within, same⟩ := List.mem_map.mp member
    cases same
    exact key source within
  | noted _ => cases List.mem_singleton.mp member

/-- A diagram of states is read as the edges from the start and to the end and, transition after transition, one edge
for a transition from a state, one for each key state for a transition from any state that is not terminal, and a note
for a transition from any state. A label has its mark where the transition is guarded, and no edge leads from a name
that stands for many states. -/
theorem states_drawn {style : StateStyle} (legible : style.IsLegible)
    (named : ∀ name ∈ style.initial :: (style.terminal ++ style.key), name ≠ anyNonTerminal ∧ name ≠ anyState)
    {transitions : List Transition} (readable : ∀ t ∈ transitions, IsLegible t) :
    ∃ chart groups, readStates? (states style transitions) = some chart ∧
      chart.ends = .edge mark style.initial :: style.terminal.map (fun state => .edge state mark) ∧
      chart.statements = groups.flatten ∧
      List.Forall₂ (fun t group => Draws style t group ∧ (group = [] ↔ t.source = anyNonTerminal ∧ style.key = []))
        transitions groups ∧
      ∀ source rest, .edge source rest ∈ chart.ends ++ chart.statements →
        source ≠ anyNonTerminal ∧ source ≠ anyState := by
  refine ⟨_, transitions.map (statementsOf style), readStates?_states legible readable, rfl, List.flatMap_def, ?_, ?_⟩
  · rw [List.forall₂_map_right_iff, List.forall₂_same]
    intro t member
    have draws : Draws style t (statementsOf style t) := draws_statementsOf (readable t member)
    exact ⟨draws, draws.eq_nil_iff⟩
  · intro source rest member
    rcases List.mem_append.mp member with atEnd | drawn
    · rcases List.mem_cons.mp atEnd with start | finish
      · cases start
        decide
      · obtain ⟨state, within, same⟩ := List.mem_map.mp finish
        cases same
        exact named source (List.mem_cons_of_mem _ (List.mem_append_left _ within))
    · obtain ⟨t, within, inside⟩ := List.mem_flatMap.mp drawn
      refine Draws.source_ne (fun state member => ?_) (draws_statementsOf (readable t within)) inside
      exact named state (List.mem_cons_of_mem _ (List.mem_append_right _ member))

/-- A machine with two states that are not terminal. -/
def printer : StateStyle := { initial := "Idle", terminal := ["Done", "Lost"], key := ["Idle", "Busy"] }

/-- A transition of each kind, and one that is given again with an empty guard. -/
def printing : List Transition :=
  [{ source := "Idle", event := "Start", target := "Busy", guard := some "ready" },
   { source := "state", event := "Cancel", target := "Lost", guard := some "asked" },
   { source := "_", event := "Reset", target := "Idle", guard := none },
   { source := "Idle", event := "Start", target := "Busy", guard := some [] }]

theorem states_drawn_printing :
    printer.IsLegible ∧
      (∀ name ∈ printer.initial :: (printer.terminal ++ printer.key), name ≠ anyNonTerminal ∧ name ≠ anyState) ∧
      (∀ t ∈ printing, IsLegible t) ∧
      ∃ chart groups, readStates? (states printer printing) = some chart ∧
        chart.ends = [.edge mark "Idle", .edge "Done" mark, .edge "Lost" mark] ∧
        chart.statements = groups.flatten ∧
        List.Forall₂
          (fun t group => Draws printer t group ∧ (group = [] ↔ t.source = anyNonTerminal ∧ printer.key = []))
          printing groups ∧
        ∀ source rest, .edge source rest ∈ chart.ends ++ chart.statements →
          source ≠ anyNonTerminal ∧ source ≠ anyState := by
  have legible : printer.IsLegible := ⟨by decide, by decide⟩
  have named : ∀ name ∈ printer.initial :: (printer.terminal ++ printer.key),
      name ≠ anyNonTerminal ∧ name ≠ anyState := by decide
  have readable : ∀ t ∈ printing, IsLegible t := by
    have plain : ∀ t ∈ printing, ('\n' ∉ t.source ∧ '\n' ∉ t.event ∧ '\n' ∉ t.target) ∧ ¬ "-->".toList <:+: t.source ∧
        (¬ "-->".toList <:+: t.target ∧ ¬ "-->".toList <:+: t.event) ∧ ¬ " [guard]".toList <:+ t.event := by decide
    intro t member
    obtain ⟨single, source, noted, unguarded⟩ := plain t member
    exact ⟨single, source, fun _ => noted, fun _ _ => unguarded⟩
  exact ⟨legible, named, readable, states_drawn legible named readable⟩

/-- Names with line feeds or arrows in them are drawn as other edges, and an event can end like a guarded one. -/
theorem illegible_misread :
    some (.edge "_" "Done : Go") ∈ (Text.splitOnChar '\n' (states printer
      [{ source := "Idle", event := "Go\n    _ --> Done : Go", target := "Done", guard := none }])).map readStatement? ∧
    some (.edge "_" "Idle --> Done : Go") ∈ (Text.splitOnChar '\n' (states printer
      [{ source := "_ --> Idle", event := "Go", target := "Done", guard := none }])).map readStatement? ∧
    some (.edge "note right of Done : From any state via Go" "Done") ∈ (Text.splitOnChar '\n' (states printer
      [{ source := "_", event := "Go --> Done", target := "Done", guard := none }])).map readStatement? ∧
    some (.edge "Idle" "Done : Go [guard]") ∈ (Text.splitOnChar '\n' (states printer
      [{ source := "Idle", event := "Go [guard]", target := "Done", guard := none }])).map readStatement? := by
  decide +kernel

end ReferencePages.Diagram
