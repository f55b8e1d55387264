import ReferencePages.MarkdownTable
import ReferencePages.Proofs.Page.Diagram
import Mathlib.Data.List.Forall2
/-!
Tables line by line. A table whose cells have neither bars nor line endings in them is read again by its line feeds
and bars: two lines of headers, and below them the cells of one thing after the other.
-/

namespace ReferencePages.MarkdownTable

open Text (IsFlat splitOnChar)

/-! ### Cells -/

/-- A text that stays in one cell of a table. -/
def IsCell (s : Text) : Prop := '|' ∉ s ∧ IsFlat s

instance : DecidablePred IsCell := fun s => inferInstanceAs (Decidable ('|' ∉ s ∧ IsFlat s))

variable {a b s : Text}

@[simp] theorem isCell_append : IsCell (a ++ b) ↔ IsCell a ∧ IsCell b := by
  simp only [IsCell, Text.isFlat_append, List.mem_append, not_or]
  tauto

theorem isCell_escapeCell (s : Text) : IsCell (escapeCell s) := by
  have other : ∀ c ∈ escapeCell s, c ≠ '|' ∧ c ≠ '\n' ∧ c ≠ '\r' := by
    intro c member
    obtain ⟨d, _, rfl⟩ := List.mem_map.mp member
    by_cases ending : d = '\r' ∨ d = '\n'
    · rw [if_pos (by simpa using ending)]
      decide
    · rw [if_neg (by simpa using ending)]
      by_cases bar : d = '|'
      · rw [if_pos bar]
        decide
      · rw [if_neg bar]
        tauto
  exact ⟨fun member => (other _ member).1 rfl, fun member => (other _ member).2.1 rfl,
    fun member => (other _ member).2.2 rfl⟩

theorem isFlat_code : IsFlat (code s) ↔ IsFlat s := by
  have tick : IsFlat ("`" : Text) := by decide
  simp only [code, Text.isFlat_append, tick, true_and, and_true]

theorem isCell_code : IsCell (code s) ↔ IsCell s := by
  have tick : IsCell ("`" : Text) := by decide
  simp only [code, isCell_append, tick, true_and, and_true]

theorem isCell_of_isWord (word : Text.IsWord s) : IsCell s := ⟨word.not_mem (by decide), word.isFlat⟩

/-! ### Lines -/

/-- The cells of a line: what stands between its bars, without the space on either side. -/
def cellsOf (line : Text) : List Text := (splitOnChar '|' line).tail.dropLast.map fun cell => cell.tail.dropLast

/-- Pieces with a bar on either side of each. -/
def barred (pieces : List Text) : Text := '|' :: pieces.flatMap (· ++ ['|'])

def padded (cell : Text) : Text := [' '] ++ cell ++ [' ']

def dashes (header : Text) : Text := List.replicate (header.length + 2) '-'

variable {pieces cells headers : List Text}

theorem joinWith_barred (left right : Text) (some : pieces ≠ []) :
    '|' :: left ++ Text.joinWith (right ++ '|' :: left) pieces ++ (right ++ ['|']) =
      barred (pieces.map (left ++ · ++ right)) := by
  obtain ⟨piece, rest, rfl⟩ := List.exists_cons_of_ne_nil some
  clear some
  induction rest generalizing piece with
  | nil => simp [Text.joinWith, barred]
  | cons next rest ih =>
    have later := ih next
    simp only [List.map_cons, barred, List.cons_append, List.cons.injEq, true_and, List.flatMap_cons] at later ⊢
    rw [← later, Text.joinWith_cons (List.cons_ne_nil _ _)]
    simp only [List.append_assoc, List.cons_append, List.nil_append]

theorem row_eq (some : cells ≠ []) : row cells = barred (cells.map padded) := joinWith_barred [' '] [' '] some

theorem ruler_eq (some : headers ≠ []) : ruler headers = barred (headers.map dashes) := by
  have around (header : Text) : [] ++ dashes header ++ [] = dashes header := List.append_nil _
  have filled : headers.map dashes ≠ [] := mt List.map_eq_nil_iff.mp some
  have joined := joinWith_barred [] [] filled
  simp only [List.map_map, Function.comp_def, around] at joined
  exact joined

theorem count_barred (pieces : List Text) :
    (barred pieces).count '|' = pieces.length + 1 + (pieces.map (·.count '|')).sum := by
  rw [barred, List.count_cons_self]
  induction pieces with
  | nil => rfl
  | cons piece pieces ih =>
    rw [List.flatMap_cons, List.count_append, List.count_append, List.count_singleton_self, List.map_cons,
      List.sum_cons, List.length_cons]
    omega

theorem splitOnChar_barred (whole : ∀ piece ∈ pieces, '|' ∉ piece) :
    splitOnChar '|' (barred pieces) = [] :: (pieces ++ [[]]) := by
  have start (s : Text) : splitOnChar '|' ('|' :: s) = [] :: splitOnChar '|' s := if_pos rfl
  rw [barred, start, List.cons.injEq]
  refine ⟨rfl, ?_⟩
  induction pieces with
  | nil => rfl
  | cons piece pieces ih =>
    obtain ⟨here, later⟩ := List.forall_mem_cons.mp whole
    rw [List.flatMap_cons, List.append_assoc, List.singleton_append, Text.splitOnChar_append _ here, ih later]
    rfl

theorem isFlat_barred (flat : ∀ piece ∈ pieces, IsFlat piece) : IsFlat (barred pieces) := by
  have inner : ∀ c ∈ barred pieces, c = '|' ∨ ∃ piece ∈ pieces, c ∈ piece := by
    intro c member
    rcases List.mem_cons.mp member with bar | later
    · exact .inl bar
    · obtain ⟨piece, within, inside⟩ := List.mem_flatMap.mp later
      rcases List.mem_append.mp inside with here | bar
      · exact .inr ⟨piece, within, here⟩
      · exact .inl (List.mem_singleton.mp bar)
  constructor
  · intro member
    rcases inner _ member with bar | ⟨piece, within, inside⟩
    · cases bar
    · exact (flat piece within).1 inside
  · intro member
    rcases inner _ member with bar | ⟨piece, within, inside⟩
    · cases bar
    · exact (flat piece within).2 inside

/-- A row has one bar more than cells, and those in its cells. -/
theorem count_row (some : cells ≠ []) :
    (row cells).count '|' = cells.length + 1 + (cells.map (·.count '|')).sum := by
  have inner : (fun s : Text => s.count '|') ∘ padded = fun s => s.count '|' := by
    funext cell
    simp [padded]
  rw [row_eq some, count_barred, List.length_map, List.map_map, inner]

theorem count_ruler (some : headers ≠ []) : (ruler headers).count '|' = headers.length + 1 := by
  have inner : (fun s : Text => s.count '|') ∘ dashes = fun _ => 0 := by
    funext header
    simp [dashes, List.count_replicate]
  rw [ruler_eq some, count_barred, List.length_map, List.map_map, inner]
  simp

theorem cellsOf_row (some : cells ≠ []) (whole : ∀ cell ∈ cells, '|' ∉ cell) : cellsOf (row cells) = cells := by
  have apart : ∀ piece ∈ cells.map padded, '|' ∉ piece := by
    intro piece member
    obtain ⟨cell, within, rfl⟩ := List.mem_map.mp member
    simpa [padded] using whole cell within
  rw [cellsOf, row_eq some, splitOnChar_barred apart, List.tail_cons, List.dropLast_concat, List.map_map]
  refine List.map_id'' (fun cell => ?_) cells
  simp [padded]

theorem isFlat_row (some : cells ≠ []) (flat : ∀ cell ∈ cells, IsFlat cell) : IsFlat (row cells) := by
  have space : IsFlat [' '] := by decide
  rw [row_eq some]
  refine isFlat_barred fun piece member => ?_
  obtain ⟨cell, within, rfl⟩ := List.mem_map.mp member
  simp only [padded, Text.isFlat_append, space, flat cell within, and_self]

theorem isFlat_ruler (some : headers ≠ []) : IsFlat (ruler headers) := by
  rw [ruler_eq some]
  refine isFlat_barred fun piece member => ?_
  obtain ⟨header, _, rfl⟩ := List.mem_map.mp member
  simp [IsFlat, dashes]

/-! ### Tables -/

/-- The rows of a table: its lines below the headers and the ruler. -/
def rowsOf (table : Text) : List Text := (splitOnChar '\n' table).drop 2

/-- A table of things, one below the other: split at line feeds, two lines of headers and then one for each thing in
their order, where the bars of a line divide it into the cells of its thing. -/
structure Tabulates {α : Type} (headers : List Text) (cells : α → List Text) (things : List α) (table : Text) :
    Prop where
  length : (splitOnChar '\n' table).length = 2 + things.length
  heading : (splitOnChar '\n' table).head?.map cellsOf = some headers
  rows : List.Forall₂ (fun thing line => cellsOf line = cells thing) things (rowsOf table)
  bars : ∀ line ∈ splitOnChar '\n' table, line.count '|' = headers.length + 1
  carriage : '\r' ∉ table

variable {α : Type} {cells : α → List Text} {things : List α}

theorem isFlat_lines (some : headers ≠ []) (heads : ∀ header ∈ headers, IsFlat header)
    (filled : ∀ thing ∈ things, cells thing ≠ []) (flat : ∀ thing ∈ things, ∀ cell ∈ cells thing, IsFlat cell) :
    ∀ line ∈ row headers :: ruler headers :: things.map (fun thing => row (cells thing)), IsFlat line := by
  simp only [List.forall_mem_cons, List.forall_mem_map]
  exact ⟨isFlat_row some heads, isFlat_ruler some, fun thing member =>
    isFlat_row (filled thing member) (flat thing member)⟩

/-- Cells without line endings leave every row on its line. -/
theorem splitOnChar_render (some : headers ≠ []) (heads : ∀ header ∈ headers, IsFlat header)
    (filled : ∀ thing ∈ things, cells thing ≠ []) (flat : ∀ thing ∈ things, ∀ cell ∈ cells thing, IsFlat cell) :
    splitOnChar '\n' (render headers (things.map cells)) =
      row headers :: ruler headers :: things.map fun thing => row (cells thing) := by
  have lines := isFlat_lines some heads filled flat
  rw [render, List.map_map]
  exact Text.splitOnChar_joinWith fun line member => (lines line member).1

theorem rowsOf_render (some : headers ≠ []) (heads : ∀ header ∈ headers, IsFlat header)
    (filled : ∀ thing ∈ things, cells thing ≠ []) (flat : ∀ thing ∈ things, ∀ cell ∈ cells thing, IsFlat cell) :
    rowsOf (render headers (things.map cells)) = things.map fun thing => row (cells thing) := by
  rw [rowsOf, splitOnChar_render some heads filled flat]
  rfl

theorem tabulates_render (some : headers ≠ []) (heads : ∀ header ∈ headers, IsCell header)
    (same : ∀ thing ∈ things, (cells thing).length = headers.length)
    (fits : ∀ thing ∈ things, ∀ cell ∈ cells thing, IsCell cell) :
    Tabulates headers cells things (render headers (things.map cells)) := by
  have filled : ∀ thing ∈ things, cells thing ≠ [] := by
    intro thing member
    have length := same thing member
    have positive := List.length_pos_of_ne_nil some
    exact List.ne_nil_of_length_pos (by omega)
  have flat : ∀ thing ∈ things, ∀ cell ∈ cells thing, IsFlat cell :=
    fun thing member cell within => (fits thing member cell within).2
  have flatHeads : ∀ header ∈ headers, IsFlat header := fun header member => (heads header member).2
  have lines := splitOnChar_render some flatHeads filled flat
  have full {cells : List Text} (some : cells ≠ []) (fits : ∀ cell ∈ cells, IsCell cell) :
      (row cells).count '|' = cells.length + 1 := by
    have none : ∀ n ∈ cells.map (·.count '|'), n = 0 := by
      intro n member
      obtain ⟨cell, within, rfl⟩ := List.mem_map.mp member
      exact List.count_eq_zero_of_not_mem (fits cell within).1
    rw [count_row some, List.sum_eq_zero none, Nat.add_zero]
  refine ⟨?_, ?_, ?_, ?_, ?_⟩
  · rw [lines]
    simp only [List.length_cons, List.length_map]
    omega
  · rw [lines, List.head?_cons, Option.map_some, cellsOf_row some fun header member => (heads header member).1]
  · rw [rowsOf_render some flatHeads filled flat, List.forall₂_map_right_iff, List.forall₂_same]
    exact fun thing member => cellsOf_row (filled thing member) fun cell within => (fits thing member cell within).1
  · rw [lines]
    simp only [List.forall_mem_cons, List.forall_mem_map]
    refine ⟨full some heads, count_ruler some, fun thing member => ?_⟩
    rw [full (filled thing member) (fits thing member), same thing member]
  · intro carriage
    obtain ⟨line, member, within⟩ := Text.exists_mem_splitOnChar (show '\r' ≠ '\n' by decide) carriage
    rw [lines] at member
    exact (isFlat_lines some flatHeads filled flat line member).2 within

end ReferencePages.MarkdownTable
