import ReferencePages.Proofs.ForeignKey.Clause
import Mathlib.Data.List.Forall2
import Mathlib.Data.List.Induction
/-!
Which table a key belongs to. A scan carries the table altered last along with it, and what it finds is told
from the places of the lines alone: a line with the columns of a key and a reference behind them gives one
edge, from the table that the last alteration at or before the line names.
-/

namespace ReferencePages.ForeignKey

open Text (FirstAt)

/-- The line in a place, if it is no comment. -/
def StandsAt (ls : List Text) (i : Nat) (line : Text) : Prop := ls[i]? = some line ∧ isComment line = false

/-- There is an alteration of a table on a line. -/
def HasAlteration (line : Text) : Prop := ∃ part table, part <:+ line ∧ Alters part table

/-- There are the columns of a key on a line, and a reference anywhere behind them. -/
def HasKey (line : Text) : Prop :=
  ∃ part key reference target, part <:+ line ∧ KeyColumns part key ∧ reference <:+ key.2 ∧
    References reference target

/-- The line in a place has a key, and an alteration is on it or on a line before it. -/
def Bears (ls : List Text) (i : Nat) : Prop :=
  ∃ line, StandsAt ls i line ∧ HasKey line ∧
    ∃ j ≤ i, ∃ earlier, StandsAt ls j earlier ∧ HasAlteration earlier

/-- The first alteration on a line names a table. -/
def NamesFirst (line table : Text) : Prop :=
  ∃ part, FirstAt (fun s => ∃ table, Alters s table) line part ∧ Alters part table

/-- The edge has the columns of the first key on a line, and what the first reference behind them gives. -/
def HoldsFirst (line : Text) (edge : ForeignKey) : Prop :=
  ∃ part key reference target,
    FirstAt (fun s => ∃ key, KeyColumns s key) line part ∧ KeyColumns part key ∧
    FirstAt (fun s => ∃ target, References s target) key.2 reference ∧ References reference target ∧
    edge.sourceColumn = columnList key.1 ∧ edge.targetTable = target.1 ∧
    edge.targetColumn = columnList target.2

/-- The edge of the line in a place. It leads from the table of the last alteration at or before it. -/
structure Attributed (ls : List Text) (i : Nat) (edge : ForeignKey) : Prop where
  clause : ∃ line, StandsAt ls i line ∧ HoldsFirst line edge
  source : ∃ j ≤ i, ∃ line, StandsAt ls j line ∧ NamesFirst line edge.sourceTable ∧
    ∀ k, j < k → k ≤ i → ∀ other, StandsAt ls k other → ¬ HasAlteration other

/-! ### One line -/

theorem alteredTable?_eq_some {line table : Text} :
    alteredTable? line = some table ↔ NamesFirst line table :=
  Text.findRead?_eq_some readAlteredTable_eq_some

theorem alteredTable?_isSome {line : Text} : (alteredTable? line).isSome = true ↔ HasAlteration line := by
  rw [alteredTable?, Text.findRead?_isSome]
  constructor
  · rintro ⟨before, part, rfl, found⟩
    obtain ⟨table, read⟩ := Option.isSome_iff_exists.mp found
    exact ⟨part, table, List.suffix_append _ _, (readAlteredTable_eq_some part table).mp read⟩
  · rintro ⟨part, table, ⟨before, rfl⟩, alters⟩
    exact ⟨before, part, rfl, by rw [(readAlteredTable_eq_some part table).mpr alters]; rfl⟩

theorem ofLine?_eq_some {source line : Text} {edge : ForeignKey} :
    ofLine? source line = some edge ↔ edge.sourceTable = source ∧ HoldsFirst line edge := by
  simp only [ofLine?, bind, Option.bind_eq_some_iff, Text.findRead?_eq_some readKeyColumns_eq_some,
    Text.findRead?_eq_some readReference_eq_some, pure, Option.some.injEq]
  constructor
  · rintro ⟨key, ⟨part, first, columns⟩, target, ⟨reference, behind, refers⟩, rfl⟩
    exact ⟨rfl, part, key, reference, target, first, columns, behind, refers, rfl, rfl, rfl⟩
  · rintro ⟨rfl, part, key, reference, target, first, columns, behind, refers, sources, table, targets⟩
    exact ⟨key, ⟨part, first, columns⟩, target, ⟨reference, behind, refers⟩, by rw [← sources, ← table, ← targets]⟩

/-- A line with a key has an edge, since a reference behind one key is behind the first. -/
theorem ofLine?_isSome {source line : Text} : (ofLine? source line).isSome = true ↔ HasKey line := by
  constructor
  · intro found
    obtain ⟨edge, held⟩ := Option.isSome_iff_exists.mp found
    obtain ⟨_, part, key, reference, target, first, columns, behind, refers, _⟩ := ofLine?_eq_some.mp held
    exact ⟨part, key, reference, target, first.1, columns, behind.1, refers⟩
  · rintro ⟨part, key, reference, target, ⟨before, rfl⟩, columns, ⟨between, inside⟩, refers⟩
    have keyed : (Text.findRead? readKeyColumns (before ++ part)).isSome = true :=
      Text.findRead?_isSome.mpr ⟨before, part, rfl, by rw [(readKeyColumns_eq_some part key).mpr columns]; rfl⟩
    obtain ⟨found, read⟩ := Option.isSome_iff_exists.mp keyed
    obtain ⟨first, ⟨_, _, earliest⟩, stands⟩ := (Text.findRead?_eq_some readKeyColumns_eq_some).mp read
    obtain ⟨front, behind⟩ := stands.suffix_behind columns
      (earliest part (List.suffix_append _ _) ⟨key, columns⟩)
    have referring : (Text.findRead? readReference found.2).isSome = true := by
      refine Text.findRead?_isSome.mpr ⟨front ++ between, reference, ?_, ?_⟩
      · rw [← behind, ← inside, List.append_assoc]
      · rw [(readReference_eq_some reference target).mpr refers]
        rfl
    obtain ⟨referred, read'⟩ := Option.isSome_iff_exists.mp referring
    simp [ofLine?, read, read']

/-! ### The scan -/

/-- The table that a line names, unless it is a comment. -/
def namedTable? (line : Text) : Option Text := if isComment line then none else alteredTable? line

/-- The table that is named last by lines up to a place. -/
def tableAt? (ls : List Text) (i : Nat) : Option Text := (ls.take (i + 1)).reverse.findSome? namedTable?

/-- The edge of the line in a place. -/
def edgeAt? (ls : List Text) (i : Nat) : Option ForeignKey :=
  ls[i]?.bind fun line =>
    if isComment line then none else (tableAt? ls i).bind fun table => ofLine? table line

/-- What a line adds: it may name another table, and it may have an edge from the table that is then
known. -/
theorem step_eq (scan : Scan) (line : Text) (named : ∀ table ∈ scan.currentTable, table ≠ []) :
    scan.step line =
      { currentTable := (namedTable? line).or scan.currentTable
        edges := scan.edges ++
          (if isComment line then none
            else ((namedTable? line).or scan.currentTable).bind fun table => ofLine? table line).toList } := by
  unfold Scan.step namedTable?
  by_cases comment : isComment line = true
  · simp [comment]
  · have full : ∀ table ∈ (alteredTable? line).or scan.currentTable, table.isEmpty = false := by
      intro table member
      rw [List.isEmpty_eq_false_iff]
      rcases Option.or_eq_some_iff.mp member with altered | ⟨_, current⟩
      · obtain ⟨part, _, alters⟩ := alteredTable?_eq_some.mp altered
        exact alters.ne_nil
      · exact named table current
    simp only [if_neg comment]
    cases known : (alteredTable? line).or scan.currentTable with
    | none => rfl
    | some table => simp only [Option.bind_some, full table known, Bool.false_eq_true, if_false]

theorem edgeAt?_append {ls : List Text} {i : Nat} (within : i < ls.length) (line : Text) :
    edgeAt? (ls ++ [line]) i = edgeAt? ls i := by
  rw [edgeAt?, edgeAt?, tableAt?, tableAt?, List.getElem?_append_left within,
    List.take_append_of_le_length within]

theorem namedTable?_ne_nil {ls : List Text} {table : Text} (found : ls.findSome? namedTable? = some table) :
    table ≠ [] := by
  obtain ⟨line, _, named⟩ := List.exists_of_findSome?_eq_some found
  unfold namedTable? at named
  split at named
  · cases named
  · obtain ⟨part, _, alters⟩ := alteredTable?_eq_some.mp named
    exact alters.ne_nil

/-- What a scan knows after some lines. -/
theorem foldl_step (ls : List Text) :
    ls.foldl Scan.step { currentTable := none, edges := [] } =
      { currentTable := ls.reverse.findSome? namedTable?
        edges := (List.range ls.length).filterMap (edgeAt? ls) } := by
  induction ls using List.reverseRecOn with
  | nil => rfl
  | append_singleton ls line ih =>
    have before : (List.range ls.length).filterMap (edgeAt? (ls ++ [line])) =
        (List.range ls.length).filterMap (edgeAt? ls) :=
      List.filterMap_congr fun i member => edgeAt?_append (List.mem_range.mp member) line
    have current : (ls ++ [line]).reverse.findSome? namedTable? =
        (namedTable? line).or (ls.reverse.findSome? namedTable?) := by
      rw [List.reverse_append, List.findSome?_append]
      cases named : namedTable? line <;> simp [named]
    have last : edgeAt? (ls ++ [line]) ls.length =
        if isComment line then none
        else ((namedTable? line).or (ls.reverse.findSome? namedTable?)).bind fun table =>
          ofLine? table line := by
      rw [edgeAt?, tableAt?, List.getElem?_append_right (Nat.le_refl _), Nat.sub_self,
        List.take_of_length_le (by simp), current]
      rfl
    rw [List.foldl_append, ih, List.foldl_cons, List.foldl_nil, step_eq _ _ fun table => namedTable?_ne_nil,
      current, List.length_append, List.length_singleton, List.range_succ, List.filterMap_append, before]
    rw [List.filterMap_cons, List.filterMap_nil, last]
    generalize (if isComment line then none else _ : Option ForeignKey) = edge
    cases edge <;> rfl

/-! ### What a place gives -/

theorem namedTable?_eq_some {line table : Text} :
    namedTable? line = some table ↔ isComment line = false ∧ NamesFirst line table := by
  unfold namedTable?
  cases isComment line <;> simp [alteredTable?_eq_some]

theorem namedTable?_eq_none {line : Text} :
    namedTable? line = none ↔ (isComment line = false → ¬ HasAlteration line) := by
  unfold namedTable?
  cases isComment line <;> simp [← alteredTable?_isSome]

theorem tableAt?_zero (ls : List Text) : tableAt? ls 0 = ls[0]?.bind namedTable? := by
  cases ls with
  | nil => rfl
  | cons line ls => cases named : namedTable? line <;> simp [tableAt?, named]

theorem tableAt?_succ (ls : List Text) (i : Nat) :
    tableAt? ls (i + 1) = (ls[i + 1]?.bind namedTable?).or (tableAt? ls i) := by
  rw [tableAt?, List.take_add_one, List.reverse_append, List.findSome?_append]
  cases ls[i + 1]? with
  | none => rfl
  | some line => cases named : namedTable? line <;> simp [named, tableAt?]

/-- The table that is known in a place is the one of the last alteration at or before it. -/
theorem tableAt?_eq_some {ls : List Text} {i : Nat} {table : Text} (known : tableAt? ls i = some table) :
    ∃ j ≤ i, ∃ line, StandsAt ls j line ∧ NamesFirst line table ∧
      ∀ k, j < k → k ≤ i → ∀ other, StandsAt ls k other → ¬ HasAlteration other := by
  have here {i : Nat} (named : ls[i]?.bind namedTable? = some table) :
      ∃ line, StandsAt ls i line ∧ NamesFirst line table := by
    obtain ⟨line, stands, named⟩ := Option.bind_eq_some_iff.mp named
    obtain ⟨plain, first⟩ := namedTable?_eq_some.mp named
    exact ⟨line, ⟨stands, plain⟩, first⟩
  induction i with
  | zero =>
    obtain ⟨line, stands, first⟩ := here (tableAt?_zero ls ▸ known)
    exact ⟨0, Nat.le_refl 0, line, stands, first, fun k above below => absurd above (Nat.not_lt.mpr below)⟩
  | succ i ih =>
    rcases Option.or_eq_some_iff.mp (tableAt?_succ ls i ▸ known) with named | ⟨unnamed, earlier⟩
    · obtain ⟨line, stands, first⟩ := here named
      exact ⟨i + 1, Nat.le_refl _, line, stands, first,
        fun k above below => absurd above (Nat.not_lt.mpr below)⟩
    · obtain ⟨j, atMost, line, stands, first, none⟩ := ih earlier
      refine ⟨j, Nat.le_succ_of_le atMost, line, stands, first, fun k above below other there => ?_⟩
      rcases Nat.le_succ_iff.mp below with before | rfl
      · exact none k above before other there
      · rw [there.1] at unnamed
        exact namedTable?_eq_none.mp unnamed there.2

/-- A table is known in a place where there is an alteration at or before it. -/
theorem tableAt?_isSome {ls : List Text} {i j : Nat} (atMost : j ≤ i) {line : Text}
    (stands : StandsAt ls j line) (altered : HasAlteration line) : (tableAt? ls i).isSome = true := by
  rw [Option.isSome_iff_ne_none]
  intro unknown
  have member : line ∈ (ls.take (i + 1)).reverse := by
    rw [List.mem_reverse]
    exact List.mem_of_getElem? ((List.getElem?_take_of_lt (Nat.lt_succ_of_le atMost)).trans stands.1)
  exact namedTable?_eq_none.mp (List.findSome?_eq_none_iff.mp unknown line member) stands.2 altered

theorem edgeAt?_eq_some {ls : List Text} {i : Nat} {edge : ForeignKey} (found : edgeAt? ls i = some edge) :
    Attributed ls i edge := by
  obtain ⟨line, stands, found⟩ := Option.bind_eq_some_iff.mp found
  split at found
  · cases found
  · rename_i plain
    obtain ⟨table, known, held⟩ := Option.bind_eq_some_iff.mp found
    obtain ⟨rfl, holds⟩ := ofLine?_eq_some.mp held
    exact ⟨⟨line, ⟨stands, Bool.eq_false_iff.mpr plain⟩, holds⟩, tableAt?_eq_some known⟩

theorem edgeAt?_isSome {ls : List Text} {i : Nat} : (edgeAt? ls i).isSome = true ↔ Bears ls i := by
  constructor
  · intro found
    obtain ⟨edge, found⟩ := Option.isSome_iff_exists.mp found
    obtain ⟨⟨line, stands, holds⟩, j, atMost, earlier, there, ⟨part, first, alters⟩, _⟩ := edgeAt?_eq_some found
    have keyed : (ofLine? edge.sourceTable line).isSome = true :=
      Option.isSome_iff_exists.mpr ⟨edge, ofLine?_eq_some.mpr ⟨rfl, holds⟩⟩
    exact ⟨line, stands, ofLine?_isSome.mp keyed, j, atMost, earlier, there, part, _, first.1, alters⟩
  · rintro ⟨line, stands, keyed, j, atMost, earlier, there, altered⟩
    obtain ⟨table, known⟩ := Option.isSome_iff_exists.mp (tableAt?_isSome atMost there altered)
    rw [edgeAt?, stands.1, Option.bind_some, stands.2, known]
    exact ofLine?_isSome.mpr keyed

/-! ### Every text -/

/-- What is kept of a list stands beside the places it is kept from. -/
theorem forall₂_filterMap {α β : Type} (f : α → Option β) (l : List α) :
    List.Forall₂ (fun a b => f a = some b) (l.filter fun a => (f a).isSome) (l.filterMap f) := by
  induction l with
  | nil => exact .nil
  | cons a l ih =>
    cases found : f a with
    | none => rwa [List.filter_cons_of_neg (by simp [found]), List.filterMap_cons_none found]
    | some b =>
      rw [List.filter_cons_of_pos (by simp [found]), List.filterMap_cons_some found]
      exact .cons found ih

/-- A comment changes nothing that is known. -/
theorem step_comment {line : Text} (scan : Scan) (comment : isComment line = true) : scan.step line = scan :=
  if_pos comment

/-- One more line keeps the edges that were found before it. -/
theorem edges_step (scan : Scan) (line : Text) : scan.edges <+: (scan.step line).edges := by
  unfold Scan.step
  split
  · exact List.prefix_rfl
  · exact List.prefix_append _ _

/-- One more line may change the table that is known, but does not make it unknown. -/
theorem currentTable_step {scan : Scan} (known : scan.currentTable.isSome = true) (line : Text) :
    (scan.step line).currentTable.isSome = true := by
  unfold Scan.step
  split
  · exact known
  · dsimp only
    rw [Option.isSome_or, known, Bool.or_true]

theorem edges_foldl (scan : Scan) (ls : List Text) : scan.edges <+: (ls.foldl Scan.step scan).edges := by
  induction ls generalizing scan with
  | nil => exact List.prefix_rfl
  | cons line ls ih => exact (edges_step scan line).trans (ih (scan.step line))

theorem currentTable_foldl {scan : Scan} (known : scan.currentTable.isSome = true) (ls : List Text) :
    (ls.foldl Scan.step scan).currentTable.isSome = true := by
  induction ls generalizing scan with
  | nil => exact known
  | cons line ls ih => exact ih (currentTable_step known line)

/-- The edges of a text are those of the lines that bear one, each once and in the order of the lines. On the
way a comment changes nothing, no edge that was found is lost, and a table that is known stays known until
another is. -/
theorem extract_attributed (text : Text) :
    (∃ places : List Nat, places.Pairwise (· < ·) ∧ (∀ i, i ∈ places ↔ Bears (Text.lines text) i) ∧
      List.Forall₂ (Attributed (Text.lines text)) places (extract text)) ∧
    (∀ (scan : Scan) (line : Text), isComment line = true → scan.step line = scan) ∧
    (∀ (scan : Scan) (ls : List Text), scan.edges <+: (ls.foldl Scan.step scan).edges) ∧
    ∀ (scan : Scan) (ls : List Text), scan.currentTable.isSome = true →
      (ls.foldl Scan.step scan).currentTable.isSome = true := by
  refine ⟨⟨(List.range (Text.lines text).length).filter fun i => (edgeAt? (Text.lines text) i).isSome,
    ?_, fun i => ?_, ?_⟩, fun scan line => step_comment scan, edges_foldl, fun scan ls known =>
    currentTable_foldl known ls⟩
  · exact List.pairwise_lt_range.filter _
  · rw [List.mem_filter, List.mem_range, edgeAt?_isSome, and_iff_right_of_imp]
    rintro ⟨line, stands, _⟩
    exact (List.getElem?_eq_some_iff.mp stands.1).1
  · rw [extract, foldl_step]
    exact (forall₂_filterMap (edgeAt? (Text.lines text)) _).imp fun i edge => edgeAt?_eq_some

-- The second alteration takes the key, though the two are not one statement.
example : (extract "ALTER TABLE a\nALTER TABLE ONLY s.b\nADD FOREIGN KEY (x) REFERENCES c (y)").map
    (fun edge => (edge.sourceTable, edge.targetTable)) = ([("b", "c")] : List (Text × Text)) := by
  decide +kernel

end ReferencePages.ForeignKey
