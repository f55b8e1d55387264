import ReferencePages.Proofs.MarkdownTable.Rows
import ReferencePages.Proofs.Pipeline.Conversation
/-!
Tables of what sources declare. Names are words and everything else is escaped, so that no text of a source, no
description and no summary reaches beyond its cell.
-/

namespace ReferencePages

namespace Variant

theorem declared?_isWord {line name : Text} (declared : declared? line = some name) : Text.IsWord name := by
  obtain ⟨s, _, declared⟩ := Option.bind_eq_some_iff.mp declared
  obtain ⟨⟨word, rest⟩, named, declared⟩ := Option.bind_eq_some_iff.mp declared
  have isWord := (Text.name?_eq_some.mp named).1
  cases word with
  | nil => cases declared
  | cons c word =>
    dsimp only at declared
    split at declared
    · cases declared
      exact isWord
    · cases declared

theorem ofLines_isWord (pending : Option Text) (ls : List Text) : ∀ v ∈ ofLines pending ls, Text.IsWord v.name := by
  induction ls generalizing pending with
  | nil => exact nofun
  | cons line ls ih =>
    intro v member
    unfold ofLines at member
    cases announced : announced? line with
    | some message =>
      rw [announced] at member
      exact ih _ v member
    | none =>
      rw [announced] at member
      cases declared : declared? line with
      | none =>
        rw [declared] at member
        exact ih _ v member
      | some name =>
        rw [declared] at member
        cases pending with
        | none => exact ih _ v member
        | some message =>
          rcases List.mem_cons.mp member with rfl | later
          · exact declared?_isWord declared
          · exact ih _ v later

end Variant

namespace ErrorEnum

/-- The variants of an enumeration are those of its body. -/
theorem ofLines_variants (scan : Scan) (ls : List Text) :
    ∀ e ∈ ofLines scan ls, ∃ body, e.variants = Variant.extract body := by
  induction ls generalizing scan with
  | nil =>
    intro e member
    cases scan with
    | outside docs => cases member
    | inside unfinished =>
      obtain rfl := List.mem_singleton.mp member
      exact ⟨_, rfl⟩
  | cons line ls ih =>
    have next (unfinished : Unfinished) : ∀ e ∈ unfinished.next.2, ∃ body, e.variants = Variant.extract body := by
      intro e found
      unfold Unfinished.next at found
      split at found
      · cases found
        exact ⟨_, rfl⟩
      · cases found
    have step : ∀ e ∈ (scan.step line).2, ∃ body, e.variants = Variant.extract body := by
      intro e found
      cases scan with
      | inside unfinished => exact next _ e found
      | outside docs =>
        unfold Scan.step at found
        dsimp only at found
        split at found
        · cases found
        · split at found
          · exact next _ e found
          · cases found
    intro e member
    rw [ofLines] at member
    · rcases List.mem_append.mp member with found | later
      · exact step e (Option.mem_toList.mp found)
      · exact ih _ e later

end ErrorEnum

namespace ConfigStruct

theorem declared?_isWord {line name : Text} (declared : declared? line = some name) : Text.IsWord name := by
  obtain ⟨s, _, declared⟩ := Option.bind_eq_some_iff.mp declared
  obtain ⟨⟨word, rest⟩, named, same⟩ := Option.bind_eq_some_iff.mp declared
  cases same
  exact (Text.name?_eq_some.mp named).1

theorem step_isWord {scan : Scan} (word : ∀ s ∈ scan.unfinished, Text.IsWord s.name) (line : Text) :
    (∀ s ∈ (scan.step line).1.unfinished, Text.IsWord s.name) ∧ ∀ s ∈ (scan.step line).2, Text.IsWord s.name := by
  have ended : ∀ s ∈ scan.unfinished.toList, Text.IsWord s.name := fun s member => word s (Option.mem_toList.mp member)
  unfold Scan.step
  cases docComment? line with
  | some doc => exact ⟨word, nofun⟩
  | none =>
    cases declared : declared? line with
    | some name =>
      have isWord := declared?_isWord declared
      dsimp only
      split
      · refine ⟨nofun, fun s member => ?_⟩
        rcases List.mem_append.mp member with before | here
        · exact ended s before
        · rw [List.mem_singleton.mp here]
          exact isWord
      · refine ⟨fun s member => ?_, ended⟩
        obtain rfl := Option.mem_some_iff.mp member
        exact isWord
    | none =>
      cases unfinished : scan.unfinished with
      | none => exact ⟨nofun, nofun⟩
      | some s =>
        have counted :
            Text.IsWord (if isPublicField line then { s with fieldCount := s.fieldCount + 1 } else s).name := by
          have isWord := word s unfinished
          split
          · exact isWord
          · exact isWord
        dsimp only
        split
        · refine ⟨nofun, fun s' member => ?_⟩
          rw [List.mem_singleton.mp member]
          exact counted
        · refine ⟨fun s' member => ?_, nofun⟩
          obtain rfl := Option.mem_some_iff.mp member
          exact counted

theorem ofLines_isWord {scan : Scan} (word : ∀ s ∈ scan.unfinished, Text.IsWord s.name) (ls : List Text) :
    ∀ s ∈ ofLines scan ls, Text.IsWord s.name := by
  induction ls generalizing scan with
  | nil => exact fun s member => word s (Option.mem_toList.mp member)
  | cons line ls ih =>
    obtain ⟨next, found⟩ := step_isWord word line
    intro s member
    rcases List.mem_append.mp member with here | later
    · exact found s here
    · exact ih next s later

end ConfigStruct

namespace Schema

theorem columns_isSmallName {settings : Settings} {text : Text} {table : Table}
    (declared : table ∈ tables settings text) : ∀ column ∈ table.columns, IsSmallName column.name := by
  obtain ⟨declaration, _, rule⟩ := keyRule_of_mem declared
  intro column within
  obtain ⟨line, _, stands⟩ := rule.exists_stands within
  exact columnName?_isSmallName stands.name

end Schema

namespace MarkdownTable

variable {s : Text}

theorem isCell_ofNat (n : Nat) : IsCell (Text.ofNat n) :=
  ⟨Text.not_mem_ofNat (by decide) n, Text.not_mem_ofNat (by decide) n, Text.not_mem_ofNat (by decide) n⟩

def variantCells (v : Variant) : List Text := [code v.name, escapeCell v.message]

def structCells (s : ConfigStruct) : List Text :=
  ["**" ++ s.name ++ "**", escapeCell s.sentence, if s.fieldCount = 0 then dash else Text.ofNat s.fieldCount]

def keyCell (table : Table) : Text :=
  match table.primaryKey? with
  | some column => code column.name
  | none => dash

def schemaHeaders (descriptions : Dictionary Text) : List Text :=
  let headers : List Text := ["Table", "Columns", "Primary Key"]
  if descriptions.isEmpty then headers else headers ++ [("Description" : Text)]

def tableCells (descriptions : Dictionary Text) (table : Table) : List Text :=
  let cells : List Text := [code table.name, Text.ofNat table.columns.length, keyCell table]
  if descriptions.isEmpty then cells else cells ++ [escapeCell ((descriptions.get? table.name).getD [])]

def recordCells (linkStart : Text) (r : DecisionRecord) : List Text :=
  [r.number, "[" ++ escapeCell r.title ++ "](" ++ linkStart ++ r.stem ++ ".md)", r.status, escapeCell r.summary]

theorem schema_eq (tables : List Table) (descriptions : Dictionary Text) :
    schema tables descriptions = render (schemaHeaders descriptions) (tables.map (tableCells descriptions)) := by
  unfold schema schemaHeaders tableCells keyCell
  cases descriptions.isEmpty with
  | true => rfl
  | false => rfl

theorem isCell_keyCell {settings : Schema.Settings} {text : Text} {table : Table}
    (declared : table ∈ Schema.tables settings text) : IsCell (keyCell table) := by
  unfold keyCell
  cases key : table.primaryKey? with
  | none => decide
  | some column =>
    have small := Schema.columns_isSmallName declared column (List.mem_of_find?_eq_some key)
    have identifier := small.isIdentifier
    exact isCell_code.mpr ⟨identifier.not_mem (by decide), identifier.not_mem (by decide),
      identifier.not_mem (by decide)⟩

theorem variants_tabulated {boundary text : Text} {e : ErrorEnum} (found : e ∈ ErrorEnum.extract boundary text) :
    Tabulates ["Variant", "Error Message"] variantCells e.variants (variants e.variants) := by
  obtain ⟨body, variants⟩ := ErrorEnum.ofLines_variants _ _ e found
  refine tabulates_render (List.cons_ne_nil _ _) (by decide) (fun _ _ => rfl) fun v member => ?_
  rw [variants] at member
  have word := Variant.ofLines_isWord _ _ v member
  exact List.forall_iff_forall_mem.mp ⟨isCell_code.mpr (isCell_of_isWord word), isCell_escapeCell _⟩

theorem structs_tabulated (text : Text) :
    Tabulates ["Struct", "Summary", "Parameters"] structCells (ConfigStruct.extract text)
      (structs (ConfigStruct.extract text)) := by
  refine tabulates_render (List.cons_ne_nil _ _) (by decide) (fun _ _ => rfl) fun s member => ?_
  have none : ∀ s ∈ (none : Option ConfigStruct), Text.IsWord s.name := nofun
  have word := ConfigStruct.ofLines_isWord none _ s member
  have bold : IsCell ("**" ++ s.name ++ "**") := by
    have stars : IsCell ("**" : Text) := by decide
    simp only [isCell_append, stars, isCell_of_isWord word, and_self]
  have count : IsCell (if s.fieldCount = 0 then dash else Text.ofNat s.fieldCount) := by
    split
    · decide
    · exact isCell_ofNat _
  exact List.forall_iff_forall_mem.mp ⟨bold, isCell_escapeCell _, count⟩

theorem schema_tabulated (settings : Schema.Settings) (text : Text) (descriptions : Dictionary Text) :
    Tabulates (schemaHeaders descriptions) (tableCells descriptions) (Schema.tables settings text)
      (schema (Schema.tables settings text) descriptions) := by
  have fixed (table : Table) (declared : table ∈ Schema.tables settings text) :
      ∀ cell ∈ ([code table.name, Text.ofNat table.columns.length, keyCell table] : List Text), IsCell cell := by
    obtain ⟨declaration, member, rule⟩ := Schema.keyRule_of_mem declared
    have word := Diagram.assign_isWord _ _ _ member
    have name : IsCell (code table.name) := isCell_code.mpr (rule.name ▸ isCell_of_isWord word)
    exact List.forall_iff_forall_mem.mp ⟨name, isCell_ofNat _, isCell_keyCell declared⟩
  rw [schema_eq]
  unfold schemaHeaders tableCells
  cases descriptions.isEmpty with
  | true => exact tabulates_render (List.cons_ne_nil _ _) (by decide) (fun _ _ => rfl) fixed
  | false =>
    refine tabulates_render (List.cons_ne_nil _ _) (by decide) (fun _ _ => rfl) fun table declared => ?_
    rw [if_neg (by decide)]
    exact List.forall_mem_append.mpr ⟨fixed table declared, List.forall_mem_singleton.mpr (isCell_escapeCell _)⟩

theorem decisionRecords_tabulated {records : List DecisionRecord} {linkStart : Text} (link : IsCell linkStart)
    (plain : ∀ r ∈ records, IsCell r.number ∧ IsCell r.status ∧ IsCell r.stem) :
    Tabulates ["#", "Title", "Status", "Summary"] (recordCells linkStart) records
      (decisionRecords records linkStart) := by
  refine tabulates_render (List.cons_ne_nil _ _) (by decide) (fun _ _ => rfl) fun r member => ?_
  obtain ⟨number, status, stem⟩ := plain r member
  have title : IsCell ("[" ++ escapeCell r.title ++ "](" ++ linkStart ++ r.stem ++ ".md)") := by
    have opening : IsCell ("[" : Text) := by decide
    have between : IsCell ("](" : Text) := by decide
    have ending : IsCell (".md)" : Text) := by decide
    simp only [isCell_append, opening, between, ending, isCell_escapeCell, link, stem, and_self]
  exact List.forall_iff_forall_mem.mp ⟨number, title, status, isCell_escapeCell _⟩

/-- What sources declare fills its cells: variants of enumerations, configuration structures, and tables of a schema
with any descriptions. So does a list of decision records with any titles and any summaries. -/
theorem extracted_tabulated (boundary text : Text) (settings : Schema.Settings) (descriptions : Dictionary Text)
    (records : List DecisionRecord) (linkStart : Text) (link : IsCell linkStart)
    (plain : ∀ r ∈ records, IsCell r.number ∧ IsCell r.status ∧ IsCell r.stem) :
    (∀ e ∈ ErrorEnum.extract boundary text,
        Tabulates ["Variant", "Error Message"] variantCells e.variants (variants e.variants)) ∧
      Tabulates ["Struct", "Summary", "Parameters"] structCells (ConfigStruct.extract text)
        (structs (ConfigStruct.extract text)) ∧
      Tabulates (schemaHeaders descriptions) (tableCells descriptions) (Schema.tables settings text)
        (schema (Schema.tables settings text) descriptions) ∧
      Tabulates ["#", "Title", "Status", "Summary"] (recordCells linkStart) records
        (decisionRecords records linkStart) :=
  ⟨fun _ found => variants_tabulated found, structs_tabulated text, schema_tabulated settings text descriptions,
    decisionRecords_tabulated link plain⟩

/-- An enumeration, a structure and a table with bars in all that is said about them. -/
def barredSource : Text :=
  Text.unlines
    ["pub enum FetchError \x7b", "    #[error(\"no | answer\")]", "    Silent,", "\x7d", "/// One | two. More.",
     "pub struct Pool;", "CREATE TABLE runs (", "  id uuid, -- a | b", ");"]

def barredRecord : DecisionRecord :=
  { number := "7", title := "Retry | stop", status := "Accepted", stem := "adr-007-retry",
    decisionLine := [], excerpt := [], summary := "Once |\r\ntwice." }

theorem extracted_tabulated_barred :
    IsCell "../decisions/" ∧
      (∀ r ∈ [barredRecord], IsCell r.number ∧ IsCell r.status ∧ IsCell r.stem) ∧
      (ErrorEnum.extract [] barredSource).map (·.variants) = [[{ name := "Silent", message := "no | answer" }]] ∧
      (∀ e ∈ ErrorEnum.extract [] barredSource,
        Tabulates ["Variant", "Error Message"] variantCells e.variants (variants e.variants)) ∧
      Tabulates ["Struct", "Summary", "Parameters"] structCells (ConfigStruct.extract barredSource)
        (structs (ConfigStruct.extract barredSource)) ∧
      Tabulates (schemaHeaders [("runs".toList, "All | of them".toList)])
        (tableCells [("runs".toList, "All | of them".toList)])
        (Schema.tables { name := "fetch", keyGenerators := [] } barredSource)
        (schema (Schema.tables { name := "fetch", keyGenerators := [] } barredSource)
          [("runs".toList, "All | of them".toList)]) ∧
      Tabulates ["#", "Title", "Status", "Summary"] (recordCells "../decisions/") [barredRecord]
        (decisionRecords [barredRecord] "../decisions/") := by
  have link : IsCell "../decisions/" := by decide
  have plain : ∀ r ∈ [barredRecord], IsCell r.number ∧ IsCell r.status ∧ IsCell r.stem := by decide
  have found : (ErrorEnum.extract [] barredSource).map (·.variants) =
      [[{ name := "Silent", message := "no | answer" }]] := by decide +kernel
  exact ⟨link, plain, found, extracted_tabulated [] barredSource { name := "fetch", keyGenerators := [] }
    [("runs".toList, "All | of them".toList)] [barredRecord] "../decisions/" link plain⟩

end MarkdownTable
end ReferencePages
