import ReferencePages.Proofs.Schema.Grouping
/-!
How far the columns of a table reach. The scanner leaves a body at a line that begins with a closing parenthesis, and
does not look for the parenthesis that the declaration has opened. So the lines of a declaration are told apart from
those behind it here, and what the scanner reads is put beside them.
-/

namespace ReferencePages.Schema

variable {settings : Settings}

/-! ### The lines of a declaration -/

/-- How far the parentheses of a declaration have been read: none has been opened, the first one is open with so many
inside it, or it has been closed. -/
inductive Nesting
  | unopened
  | within (inner : Nat)
  | closed
  deriving DecidableEq, Repr

namespace Nesting

/-- After an opening parenthesis. -/
def deepen : Nesting → Nesting
  | unopened => within 0
  | within inner => within (inner + 1)
  | closed => closed

/-- After a closing parenthesis. -/
def rise : Nesting → Nesting
  | unopened => unopened
  | within 0 => closed
  | within (inner + 1) => within inner
  | closed => closed

/-- The nesting after a line, with the mark of a quotation that goes on in the next one. What is quoted does not count,
nor what follows two dashes. -/
def read : Nesting → (quote : Option Char) → Text → Nesting × Option Char
  | n, quote, [] => (n, quote)
  | n, some mark, c :: s => read n (if c = mark then none else some mark) s
  | n, none, c :: s =>
    if c = '-' && s.head? = some '-' then (n, none)
    else if c = '\'' || c = '"' then read n (some c) s
    else if c = '(' then read n.deepen none s
    else if c = ')' then read n.rise none s
    else read n none s

/-- The lines up to the one on which the first parenthesis is closed, and the lines behind it. -/
def divide : Nesting → (quote : Option Char) → List Text → List Text × List Text
  | _, _, [] => ([], [])
  | n, quote, line :: ls =>
    let (next, quote) := n.read quote line
    if next = closed then ([line], ls)
    else
      let (inside, behind) := divide next quote ls
      (line :: inside, behind)

theorem divide_append (n : Nesting) (quote : Option Char) (ls : List Text) :
    (n.divide quote ls).1 ++ (n.divide quote ls).2 = ls := by
  induction ls generalizing n quote with
  | nil => rfl
  | cons line ls ih =>
    rw [divide]
    dsimp only
    split
    · rfl
    · exact congrArg (line :: ·) (ih _ _)

/-- A declaration has its first line. -/
theorem divide_cons (n : Nesting) (quote : Option Char) (line : Text) (ls : List Text) :
    ∃ inside behind, n.divide quote (line :: ls) = (line :: inside, behind) ∧ inside ++ behind = ls := by
  rw [divide]
  dsimp only
  split
  · exact ⟨[], ls, rfl, rfl⟩
  · exact ⟨_, _, rfl, divide_append _ _ ls⟩

end Nesting

/-! ### The lines that the scanner reads columns from -/

/-- Whether the scanner leaves a body at a line. -/
def leavesBody (line : Text) : Bool := startsTable line || endsBody line

/-- The lines that name columns, up to the first that leaves the body. -/
def ownLines (ls : List Text) : List Text := (ls.takeWhile (!leavesBody ·)).filter namesColumn

theorem ownLines_cons (line : Text) (ls : List Text) :
    ownLines (line :: ls) =
      if leavesBody line then [] else if namesColumn line then line :: ownLines ls else ownLines ls := by
  rw [ownLines, List.takeWhile_cons]
  cases leavesBody line with
  | true => rfl
  | false => exact List.filter_cons

theorem ownLines_append (a b : List Text) :
    ownLines (a ++ b) = ownLines a ++ if a.any leavesBody then [] else ownLines b := by
  induction a with
  | nil => rfl
  | cons line a ih =>
    rw [List.cons_append, ownLines_cons, ownLines_cons, List.any_cons, ih]
    cases leavesBody line <;> cases namesColumn line <;> rfl

theorem ownLines_sublist (ls : List Text) : (ownLines ls).Sublist ls :=
  List.filter_sublist.trans (List.takeWhile_sublist _)

/-! ### What the scanner makes of a declaration -/

theorem assign_inside (ls : List Text) : (assign settings .inTableBody ls).1 = ownLines ls := by
  induction ls with
  | nil => rfl
  | cons line ls ih =>
    rw [assign, ownLines_cons, leavesBody]
    cases named : tableName? (Text.trimStart line) with
    | some name =>
      rw [step_start named, startsTable, named]
      rfl
    | none =>
      have other := startsTable_eq_false.mpr named
      rw [other, Bool.false_or]
      cases ends : endsBody line with
      | true =>
        rw [step_end other ends]
        exact assign_scanning ls
      | false =>
        rw [step_inside other ends, ← ih]
        cases namesColumn line <;> rfl

/-- The tables that lines declare do not depend on the state before them. -/
theorem assign_snd (state : ScanState) (ls : List Text) :
    (assign settings state ls).2 = (assign settings .scanning ls).2 := by
  induction ls generalizing state with
  | nil => rfl
  | cons line ls ih =>
    rw [assign, assign]
    cases named : tableName? (Text.trimStart line) with
    | some name => rw [step_start named, step_start named]
    | none =>
      have other := startsTable_eq_false.mpr named
      rw [step_outside other]
      cases ends : endsBody line with
      | true => rw [step_end other ends]
      | false =>
        cases state with
        | scanning => rw [step_outside other]
        | inTableBody =>
          rw [step_inside other ends]
          cases namesColumn line <;> exact ih .inTableBody

/-- The table that a line begins has its columns from the lines behind it that are its own. -/
theorem assign_begun {start name : Text} (begins : tableName? (Text.trimStart start) = some name)
    (state : ScanState) (before rest : List Text) :
    (assign settings state (before ++ start :: rest)).2[before.countP startsTable]? = some (name, ownLines rest) := by
  rw [assign_snd]
  induction before with
  | nil =>
    rw [List.nil_append, assign, step_start begins, ← @assign_inside settings]
    rfl
  | cons line before ih =>
    rw [List.cons_append, assign, List.countP_cons, step_scanning, startsTable]
    cases tableName? (Text.trimStart line) with
    | some other =>
      dsimp only
      rw [Option.isSome_some, if_pos rfl, List.getElem?_cons_succ, assign_snd]
      exact ih
    | none => exact ih

/-- A line that begins a table does not begin with a closing parenthesis. -/
theorem not_closing_of_begins {line name : Text} (begins : tableName? line = some name) :
    Text.startsWith ")" line = false := by
  by_contra closes
  rw [Bool.not_eq_false, Text.startsWith_iff] at closes
  obtain ⟨rest, rfl⟩ := closes
  cases begins

/-- A table begun by a line, whatever stands before it. Its columns come from lines of its declaration, and from lines
behind it only if no line of the declaration leaves the body. So none comes from behind a declaration whose last line
begins with the closing parenthesis. -/
theorem columns_own {text : Text} {before rest : List Text} {start name : Text}
    (split : Text.lines text = before ++ start :: rest)
    (begins : tableName? (Text.trimStart start) = some name) :
    ∃ inside behind later, Nesting.unopened.divide none (start :: rest) = (start :: inside, behind) ∧
      inside ++ behind = rest ∧
      (tables settings text)[before.countP startsTable]? =
        some { name, columns := markKey false ((ownLines inside ++ later).map (columnOf settings)) } ∧
      later.Sublist behind ∧
      (later = [] ↔ (∃ line ∈ inside, leavesBody line = true) ∨ ownLines behind = []) ∧
      ∀ closing, (start :: inside).getLast? = some closing →
        Text.startsWith ")" (Text.trimStart closing) = true → later = [] := by
  obtain ⟨inside, behind, divided, rfl⟩ := Nesting.divide_cons .unopened none start rest
  have declared := @assign_begun settings _ _ begins .scanning before (inside ++ behind)
  have only : (if inside.any leavesBody then [] else ownLines behind) = [] ↔
      (∃ line ∈ inside, leavesBody line = true) ∨ ownLines behind = [] := by
    rw [← List.any_eq_true]
    cases inside.any leavesBody <;> simp
  refine ⟨inside, behind, _, divided, rfl, ?_, ?_, only, fun closing last closes => only.mpr (.inl ?_)⟩
  · rw [tables_eq, declarations, split, List.getElem?_map, declared, ownLines_append]
    rfl
  · split
    · exact List.nil_sublist _
    · exact ownLines_sublist _
  · have final : closing ∈ start :: inside := List.mem_of_getLast? last
    rcases List.mem_cons.mp final with rfl | within
    · rw [not_closing_of_begins begins] at closes
      cases closes
    · exact ⟨closing, within, by rw [leavesBody, endsBody, closes, Bool.true_or, Bool.or_true]⟩

/-- A declaration that is closed on a line of its own, with parentheses that are quoted or remarked. -/
def quotedDeclaration : List Text := ["(", "  mark text DEFAULT ')', -- (", "  CHECK (mark <> '(')", ");"]

def quotedStart : Text := "CREATE TABLE notes"

/-- The declaration with a line behind it. -/
def quotedTable : Text := (quotedStart :: (quotedDeclaration ++ ["other text".toList])).flatMap (· ++ ['\n'])

theorem columns_own_quoted :
    Text.lines quotedTable = [] ++ quotedStart :: (quotedDeclaration ++ ["other text".toList]) ∧
      tableName? (Text.trimStart quotedStart) = some "notes".toList ∧
      (tables { name := "tasker", keyGenerators := [] } quotedTable)[0]? =
        some { name := "notes", columns := [{ name := "mark", type := .text, isPrimaryKey := false }] } := by
  have split : Text.lines quotedTable = [] ++ quotedStart :: (quotedDeclaration ++ ["other text".toList]) := by
    decide
  have begins : tableName? (Text.trimStart quotedStart) = some "notes".toList := by decide
  have lines : Nesting.unopened.divide none (quotedStart :: (quotedDeclaration ++ ["other text".toList])) =
      (quotedStart :: quotedDeclaration, ["other text".toList]) := by decide
  obtain ⟨inside, behind, later, divided, _, declared, _, _, closed⟩ :=
    @columns_own { name := "tasker", keyGenerators := [] } _ _ _ _ _ split begins
  obtain ⟨first, rfl⟩ := Prod.mk.inj (divided.symm.trans lines)
  obtain rfl := (List.cons.inj first).2
  obtain rfl := closed ");" rfl (by decide)
  exact ⟨split, begins, declared.trans (by decide)⟩

/-- A declaration on one line, with a line behind it. -/
def oneLineTable : Text := "CREATE TABLE t (id uuid);\nname text\n"

/-- A declaration that is closed on the line that begins it does not keep the line behind it from being read as a column
of the table. -/
theorem one_line_table_runs_on :
    Nesting.unopened.divide none (Text.lines oneLineTable) =
        (["CREATE TABLE t (id uuid);".toList], ["name text".toList]) ∧
      tables { name := "tasker", keyGenerators := [] } oneLineTable =
        [{ name := "t", columns := [{ name := "name", type := .text, isPrimaryKey := false }] }] := by
  decide

end ReferencePages.Schema
