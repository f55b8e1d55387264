import ReferencePages.Proofs.Schema.Block
import Mathlib.Data.List.Forall2
/-!
Which table a column belongs to. The scanner knows whether it is in the body of a table, and the columns are
grouped under the table that was begun last. These are two things, and here they are tied together: in a body
there is a table that has been begun, and nothing has ended its body since.
-/

namespace ReferencePages.Schema

variable {settings : Settings}

/-! ### What a line means by itself -/

/-- Whether a line begins a table. -/
def startsTable (line : Text) : Bool := (tableName? (Text.trimStart line)).isSome

/-- Whether a line closes the body of a table, or creates something else. -/
def endsBody (line : Text) : Bool :=
  Text.startsWith ")" (Text.trimStart line) || createsOther (Text.trimStart line)

/-- Whether a line has a name for a column. -/
def namesColumn (line : Text) : Bool := (columnName? (Text.trimStart line)).isSome

theorem startsTable_eq_false {line : Text} :
    startsTable line = false ↔ tableName? (Text.trimStart line) = none := Option.isSome_eq_false_iff.trans Option.isNone_iff_eq_none

theorem step_start {line name : Text} (named : tableName? (Text.trimStart line) = some name)
    (state : ScanState) : step settings state line = (.inTableBody, some (.tableStart name)) := by
  rw [step, named]

theorem step_end {line : Text} (other : startsTable line = false) (ends : endsBody line = true)
    (state : ScanState) : step settings state line = (.scanning, none) := by
  rw [step, startsTable_eq_false.mp other]
  dsimp only
  split
  · rfl
  · rename_i silent
    rw [endsBody, (Bool.not_eq_true _).mp silent, Bool.or_false] at ends
    cases state with
    | scanning => rfl
    | inTableBody => rw [if_neg (by decide), if_pos ends]

theorem step_scanning (line : Text) :
    step settings .scanning line =
      match tableName? (Text.trimStart line) with
      | some name => (.inTableBody, some (.tableStart name))
      | none => (.scanning, none) := by
  rw [step]
  cases tableName? (Text.trimStart line) with
  | some name => rfl
  | none => exact ite_eq_left_iff.mpr fun _ => if_pos (by decide)

theorem step_outside {line : Text} (other : startsTable line = false) :
    step settings .scanning line = (.scanning, none) := by
  rw [step_scanning, startsTable_eq_false.mp other]

theorem columnName?_eq_some {line name : Text} (named : columnName? line = some name) :
    IsSmallName name ∧ ∃ rest, line = name ++ rest := by
  refine ⟨columnName?_isSmallName named, ?_⟩
  unfold columnName? at named
  dsimp only at named
  split at named
  · rename_i c s b rest spanned
    split at named
    · cases named
      rw [List.span_eq_takeWhile_dropWhile] at spanned
      obtain ⟨taken, dropped⟩ := Prod.mk.inj spanned
      exact ⟨b :: rest, by rw [← taken, ← dropped, List.takeWhile_append_dropWhile]⟩
    · cases named
  · cases named

/-- In a body, a line that does not leave it declares a column exactly if it has a name for one: a line that
has is neither blank nor a constraint. -/
theorem step_inside {line : Text} (other : startsTable line = false) (stays : endsBody line = false) :
    step settings .inTableBody line =
      (.inTableBody, if namesColumn line then some (.column (columnOf settings line)) else none) := by
  obtain ⟨inside, silent⟩ := Bool.or_eq_false_iff.mp stays
  rw [step, startsTable_eq_false.mp other]
  dsimp only
  rw [silent, inside, if_neg (by decide), if_neg (by decide), if_neg (by decide), namesColumn]
  cases named : columnName? (Text.trimStart line) with
  | none => split <;> rfl
  | some name =>
    obtain ⟨small, rest, split⟩ := columnName?_eq_some named
    have filled : Text.isAllBlank (Text.trimStart line) = false := by
      obtain ⟨c, s, rfl, start, _⟩ := small.isIdentifier.cons
      simp [split, Text.isAllBlank, (Text.isNameChar_of_isNameStart start).isBlank]
    have free : Text.startsWith "CONSTRAINT" (Text.trimStart line) = false := by
      rw [← Bool.not_eq_true, Text.startsWith_iff, split]
      exact small.not_start (c := 'C') rfl (by decide) rest
    rw [filled, free, columnOf, named]
    rfl

/-! ### The body that a line stands in -/

/-- The state after some lines. -/
def stateAfter (settings : Settings) (state : ScanState) (ls : List Text) : ScanState :=
  ls.foldl (fun state line => (step settings state line).1) state

theorem stateAfter_succ {state : ScanState} {ls : List Text} {i : Nat} {line : Text} (atLine : ls[i]? = some line) :
    stateAfter settings state (ls.take (i + 1)) = (step settings (stateAfter settings state (ls.take i)) line).1 := by
  unfold stateAfter
  rw [List.take_add_one, atLine, Option.toList_some, List.foldl_append]
  rfl

theorem steps_getElem? (state : ScanState) (ls : List Text) (i : Nat) :
    (steps settings state ls)[i]? =
      ls[i]?.map fun line => step settings (stateAfter settings state (ls.take i)) line := by
  induction ls generalizing state i with
  | nil => rfl
  | cons line ls ih =>
    cases i with
    | zero => rfl
    | succ i =>
      rw [steps, List.getElem?_cons_succ, List.getElem?_cons_succ, List.take_succ_cons, ih]
      rfl

/-- In a body after some lines, one of them has begun a table, and none behind it has begun another or ended the
body. -/
theorem exists_start_of_inTableBody {ls : List Text} {j : Nat} (there : j ≤ ls.length)
    (inside : stateAfter settings .scanning (ls.take j) = .inTableBody) :
    ∃ i < j, (∃ start, ls[i]? = some start ∧ startsTable start = true) ∧
      ∀ k, i < k → k < j → ∀ line, ls[k]? = some line → startsTable line = false ∧ endsBody line = false := by
  induction j with
  | zero => cases inside
  | succ j ih =>
    have atJ := List.getElem?_eq_getElem there
    rw [stateAfter_succ atJ] at inside
    by_cases starts : startsTable ls[j] = true
    · exact ⟨j, by omega, ⟨ls[j], atJ, starts⟩, by omega⟩
    · rw [Bool.not_eq_true] at starts
      -- A line that begins no table is in a body only where the line before it is, and only if it does not end it.
      cases before : stateAfter settings .scanning (ls.take j) with
      | scanning =>
        rw [before, step_outside starts] at inside
        cases inside
      | inTableBody =>
        have stays : endsBody ls[j] = false := by
          by_contra ends
          rw [Bool.not_eq_false] at ends
          rw [step_end starts ends] at inside
          cases inside
        obtain ⟨i, below, started, between⟩ := ih (by omega) before
        refine ⟨i, by omega, started, fun k above under line atK => ?_⟩
        by_cases last : k = j
        · subst last
          obtain rfl := Option.some.inj (atJ.symm.trans atK)
          exact ⟨starts, stays⟩
        · exact between k above (by omega) line atK

/-- What a line of a text declares, by its place. -/
def eventAt? (settings : Settings) (text : Text) (i : Nat) : Option Event :=
  ((steps settings .scanning (Text.lines text))[i]?).bind (·.2)

theorem eventAt?_eq {text line : Text} {i : Nat} (atLine : (Text.lines text)[i]? = some line) :
    eventAt? settings text i =
      (step settings (stateAfter settings .scanning ((Text.lines text).take i)) line).2 := by
  rw [eventAt?, steps_getElem?, atLine]
  rfl

theorem eventAt?_eq_some {text : Text} {i : Nat} {event : Event} (declared : eventAt? settings text i = some event) :
    ∃ line, (Text.lines text)[i]? = some line ∧
      (step settings (stateAfter settings .scanning ((Text.lines text).take i)) line).2 = some event := by
  cases atLine : (Text.lines text)[i]? with
  | none =>
    rw [eventAt?, steps_getElem?, atLine] at declared
    cases declared
  | some line => exact ⟨line, rfl, eventAt?_eq atLine ▸ declared⟩

/-- A line declares a column only in a body. -/
theorem inTableBody_of_column {state : ScanState} {line : Text} {column : ColumnLine}
    (declared : (step settings state line).2 = some (.column column)) : state = .inTableBody := by
  cases state with
  | inTableBody => rfl
  | scanning =>
    rw [step_scanning] at declared
    split at declared <;> cases declared

/-- A line begins a table only if it has a name for one. -/
theorem startsTable_of_tableStart {state : ScanState} {line name : Text}
    (declared : (step settings state line).2 = some (.tableStart name)) : startsTable line = true := by
  by_contra other
  rw [Bool.not_eq_true] at other
  by_cases ends : endsBody line = true
  · rw [step_end other ends] at declared
    cases declared
  · rw [Bool.not_eq_true] at ends
    cases state with
    | scanning =>
      rw [step_outside other] at declared
      cases declared
    | inTableBody =>
      rw [step_inside other ends] at declared
      dsimp only at declared
      split at declared <;> cases declared

/-! ### Columns under tables -/

namespace Event

/-- Whether an event begins a table. -/
def isTableStart : Event → Bool
  | tableStart _ => true
  | column _ => false

/-- The name of the table that an event begins. -/
def tableName? : Event → Option Text
  | tableStart name => some name
  | column _ => none

/-- A column that an event declares. -/
def Declares (event : Event) (c : Column) : Prop :=
  ∃ line, event = column line ∧ c.name = line.name ∧ c.type = line.type

end Event

/-- What the lines of a text declare, in their order. -/
def events (settings : Settings) (text : Text) : List Event :=
  (steps settings .scanning (Text.lines text)).filterMap (·.2)

theorem tables_eq_group (text : Text) :
    tables settings text = (group (events settings text)).2.map fun (name, columns) =>
      { name, columns := markKey false columns } := rfl

/-- The columns of a group are what stands between two beginnings of tables. -/
theorem splitOnP_isTableStart (events : List Event) :
    events.splitOnP Event.isTableStart =
      (group events).1.map .column :: (group events).2.map fun (_, columns) => columns.map .column := by
  induction events with
  | nil => rfl
  | cons event events ih =>
    rw [List.splitOnP_cons_eq_if_modifyHead, ih]
    cases event with
    | tableStart name => rfl
    | column line => rfl

theorem names_group (events : List Event) : (group events).2.map (·.1) = events.filterMap Event.tableName? := by
  induction events with
  | nil => rfl
  | cons event events ih =>
    cases event with
    | tableStart name => exact congrArg (name :: ·) ih
    | column line => exact ih

/-- No column is declared before the first table. -/
theorem assign_scanning (ls : List Text) : (assign settings .scanning ls).1 = [] := by
  induction ls with
  | nil => rfl
  | cons line ls ih =>
    rw [assign, step_scanning]
    cases tableName? (Text.trimStart line) with
    | some name => rfl
    | none => exact ih

theorem declares_markKey (found : Bool) (columns : List ColumnLine) :
    List.Forall₂ Event.Declares (columns.map .column) (markKey found columns) := by
  induction columns generalizing found with
  | nil => exact .nil
  | cons line columns ih =>
    rw [markKey, List.map_cons]
    exact .cons ⟨line, rfl, rfl, rfl⟩ (ih _)

/-- The tables of a text are those that its lines begin, in their order, and each has for columns what its lines
declare between its beginning and the next one. Nothing is declared before the first beginning. Before every column
there is a line that begins a table, and between the two no line begins another, closes a body or creates something
else. -/
theorem tables_grouped (settings : Settings) (text : Text) :
    (tables settings text).map (·.name) = (events settings text).filterMap Event.tableName? ∧
      (∃ segments, (events settings text).splitOnP Event.isTableStart = [] :: segments ∧
        List.Forall₂ (fun segment table => List.Forall₂ Event.Declares segment table.columns)
          segments (tables settings text)) ∧
      ∀ j column, eventAt? settings text j = some (.column column) →
        ∃ i < j, (∃ name, eventAt? settings text i = some (.tableStart name)) ∧
          ∀ k, i < k → k < j → (∀ name, eventAt? settings text k ≠ some (.tableStart name)) ∧
            ∀ line, (Text.lines text)[k]? = some line → endsBody line = false := by
  refine ⟨?_, ?_, fun j column declared => ?_⟩
  · rw [← names_group, tables_eq_group, List.map_map]
    rfl
  · have first : (group (events settings text)).1 = [] := by
      rw [events, group_steps, assign_scanning]
      rfl
    refine ⟨_, (splitOnP_isTableStart _).trans (by rw [first]; rfl), ?_⟩
    rw [tables_eq_group, List.forall₂_map_left_iff, List.forall₂_map_right_iff, List.forall₂_same]
    exact fun table _ => declares_markKey false table.2
  · obtain ⟨line, atLine, declares⟩ := eventAt?_eq_some declared
    have there : j < (Text.lines text).length := (List.getElem?_eq_some_iff.mp atLine).1
    obtain ⟨i, below, ⟨start, atStart, starts⟩, between⟩ :=
      exists_start_of_inTableBody there.le (inTableBody_of_column declares)
    obtain ⟨name, named⟩ := Option.isSome_iff_exists.mp starts
    refine ⟨i, below, ⟨name, by rw [eventAt?_eq atStart, step_start named]⟩, fun k above under => ⟨?_, ?_⟩⟩
    · intro other begun
      obtain ⟨line, atK, declares⟩ := eventAt?_eq_some begun
      exact Bool.eq_false_iff.mp (between k above under line atK).1 (startsTable_of_tableStart declares)
    · exact fun line atK => (between k above under line atK).2

end ReferencePages.Schema
