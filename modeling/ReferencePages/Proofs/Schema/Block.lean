import ReferencePages.Proofs.Schema.Declaration
import ReferencePages.Proofs.Text.Scan
/-!
Table declarations as they are written: a line that opens the table, the lines of its body, and a line that
closes it. A text of such declarations, with lines between them that create nothing, is read as these tables
with these columns.
-/

namespace ReferencePages.Schema

/-- A name of small letters, digits and underscores that does not begin with a digit. -/
def IsSmallName : Text → Prop
  | [] => False
  | c :: s => (c = '_' ∨ c.isLower = true) ∧ ∀ d ∈ s, d = '_' ∨ d.isLower = true ∨ d.isDigit = true

instance : DecidablePred IsSmallName
  | [] => inferInstanceAs (Decidable False)
  | c :: s => inferInstanceAs (Decidable ((c = '_' ∨ c.isLower = true) ∧
      ∀ d ∈ s, d = '_' ∨ d.isLower = true ∨ d.isDigit = true))

/-- A line of the body of a table, without blanks at its start. -/
inductive BodyLine
  | column (name : Text) (blank : Char) (definition : Text)
  | empty
  | comment (remark : Text)
  | constraint (clause : Text)

namespace BodyLine

/-- The line as it is written. -/
def text : BodyLine → Text
  | column name blank definition => name ++ blank :: definition
  | empty => []
  | comment remark => "--" ++ remark
  | constraint clause => "CONSTRAINT" ++ clause

theorem text_column (name : Text) (blank : Char) (definition : Text) :
    (column name blank definition).text = name ++ blank :: definition := rfl

theorem text_empty : empty.text = [] := rfl

/-- A column has a small name with a blank after it. -/
def WellFormed : BodyLine → Prop
  | column name blank _ => IsSmallName name ∧ Text.isBlank blank = true
  | _ => True

instance : DecidablePred WellFormed
  | column name blank _ => inferInstanceAs (Decidable (IsSmallName name ∧ Text.isBlank blank = true))
  | empty | comment _ | constraint _ => inferInstanceAs (Decidable True)

/-- The name of a column line and the line itself. -/
def column? : BodyLine → Option (Text × Text)
  | column name blank definition => some (name, name ++ blank :: definition)
  | _ => none

end BodyLine

/-- A table declaration as it is written. Its first and its last line may have a margin, and so may each
line of its body. -/
structure Block where
  margin : Text
  ifNotExists : Bool
  qualifier : Option Text
  name : Text
  body : List (Text × BodyLine)
  closing : Text

namespace Block

/-- The name with its qualifier, if it has one. -/
def qualifiedName (b : Block) : Text :=
  match b.qualifier with
  | some q => q ++ '.' :: b.name
  | none => b.name

/-- What stands before the name if it has to be said that the table may be there. -/
def condition (b : Block) : Text := if b.ifNotExists then "IF NOT EXISTS " else []

/-- The line that opens the table. -/
def header (b : Block) : Text := "CREATE TABLE " ++ b.condition ++ b.qualifiedName ++ " ("

/-- All lines of the declaration. -/
def lines (b : Block) : List Text :=
  (b.margin ++ b.header) :: b.body.map (fun (margin, line) => margin ++ line.text) ++
    [b.margin ++ ")" ++ b.closing]

/-- The columns of the declaration: their names, each with its line. -/
def columns (b : Block) : List (Text × Text) := b.body.filterMap (·.2.column?)

/-- Names are small, and margins are blank. -/
structure WellFormed (b : Block) : Prop where
  name : IsSmallName b.name
  qualifier : ∀ q ∈ b.qualifier, IsSmallName q
  margin : ∀ c ∈ b.margin, Text.isBlank c = true
  body : ∀ line ∈ b.body, (∀ c ∈ line.1, Text.isBlank c = true) ∧ line.2.WellFormed

end Block

theorem isNameChar_of_small {c : Char} (small : c = '_' ∨ c.isLower = true ∨ c.isDigit = true) :
    Text.IsNameChar c := by
  rcases small with underscore | lower | digit
  · exact .inl underscore
  · refine .inr ?_
    delta Char.isAlphanum Char.isAlpha
    simp [lower]
  · exact .inr (by simp [Char.isAlphanum, digit])

theorem IsSmallName.chars {name : Text} (small : IsSmallName name) :
    ∀ c ∈ name, c = '_' ∨ c.isLower = true ∨ c.isDigit = true := by
  cases name with
  | nil => exact nofun
  | cons c s =>
    obtain ⟨first, later⟩ := small
    exact List.forall_mem_cons.mpr ⟨by tauto, later⟩

theorem IsSmallName.isIdentifier {name : Text} (small : IsSmallName name) : Text.IsIdentifier name := by
  cases name with
  | nil => exact small.elim
  | cons c s =>
    refine ⟨?_, fun d member => isNameChar_of_small (small.2 d member)⟩
    rcases small.1 with rfl | lower
    · rfl
    · delta Text.isNameStart Char.isAlpha
      simp [lower]

theorem columnName?_isSmallName {line name : Text} (named : columnName? line = some name) : IsSmallName name := by
  unfold columnName? at named
  dsimp only at named
  split at named
  · rename_i c s b rest spanned
    split at named
    · rename_i blank
      cases named
      rw [List.span_eq_takeWhile_dropWhile] at spanned
      obtain ⟨taken, _⟩ := Prod.mk.inj spanned
      have chars : ∀ d ∈ c :: s, d = '_' ∨ d.isLower = true ∨ d.isDigit = true := by
        intro d member
        have small := List.mem_takeWhile_imp (taken ▸ member)
        simp only [Bool.or_eq_true, beq_iff_eq] at small
        tauto
      have letter : c.isDigit = false := by
        simp only [Bool.and_eq_true, Bool.not_eq_true'] at blank
        exact blank.1
      obtain ⟨first, later⟩ := List.forall_mem_cons.mp chars
      exact ⟨by simpa [letter] using first, later⟩
    · cases named
  · cases named

/-- No word that begins with a capital letter or a sign starts a text with a small name in front. -/
theorem IsSmallName.not_start {name : Text} (small : IsSmallName name) {word : Text} {c : Char}
    (first : word.head? = some c) (other : ¬ (c = '_' ∨ c.isLower = true)) (rest : Text) :
    ¬ word <+: name ++ rest := by
  obtain ⟨word', rfl⟩ := List.head?_eq_some_iff.mp first
  cases name with
  | nil => exact small.elim
  | cons d s =>
    intro start
    rw [List.cons_append, List.cons_prefix_cons] at start
    exact other (start.1 ▸ small.1)

/-! ### What the scanner makes of each line -/

variable {settings : Settings}

/-- A line that does not begin with CREATE neither opens a table nor creates anything else. -/
theorem step_of_not_create {line : Text} (other : ¬ ("CREATE".toList : Text) <+: Text.trimStart line)
    (state : ScanState) :
    step settings state line =
      if state ≠ .inTableBody then (state, none)
      else if Text.startsWith ")" (Text.trimStart line) then (.scanning, none)
      else if Text.isAllBlank (Text.trimStart line) || Text.startsWith "CONSTRAINT" (Text.trimStart line) then
        (state, none)
      else
        match columnName? (Text.trimStart line) with
        | none => (state, none)
        | some _ => (state, some (.column (columnOf settings line))) := by
  have untitled : tableName? (Text.trimStart line) = none := by
    have unread : Text.afterKeywords? ["CREATE", "TABLE"] (Text.trimStart line) = none := by
      rw [Text.afterKeywords?, Text.after?_eq_none other]
      rfl
    rw [tableName?, unread]
    rfl
  have uncreated : createsOther (Text.trimStart line) = false := by
    rw [createsOther, Text.after?_eq_none other]
  rw [step, untitled, uncreated, if_neg Bool.false_ne_true]
  cases named : columnName? (Text.trimStart line) with
  | none => rfl
  | some name =>
    rw [columnOf, named]
    rfl

theorem step_gap {line : Text} (other : ¬ ("CREATE".toList : Text) <+: Text.trimStart line) :
    step settings .scanning line = (.scanning, none) := by
  rw [step_of_not_create other, if_pos (by decide)]

/-- In a body, a line that begins with a closing parenthesis ends it. -/
theorem step_closing {line : Text} (closes : (")".toList : Text) <+: Text.trimStart line) :
    step settings .inTableBody line = (.scanning, none) := by
  have other : ¬ ("CREATE".toList : Text) <+: Text.trimStart line := by
    obtain ⟨rest, split⟩ := closes
    rw [← split]
    simp
  rw [step_of_not_create other, if_neg (by decide), if_pos (Text.startsWith_iff.mpr closes)]

variable {line : Text} (other : ¬ ("CREATE".toList : Text) <+: Text.trimStart line)
  (inside : ¬ (")".toList : Text) <+: Text.trimStart line)

include other inside in
theorem step_skipped (skipped : Text.isAllBlank (Text.trimStart line) = true ∨
      ("CONSTRAINT".toList : Text) <+: Text.trimStart line ∨ columnName? (Text.trimStart line) = none) :
    step settings .inTableBody line = (.inTableBody, none) := by
  rw [step_of_not_create other, if_neg (by decide), if_neg (mt Text.startsWith_iff.mp inside)]
  split
  · rfl
  · rename_i kept
    rw [Bool.or_eq_true, not_or, Text.startsWith_iff] at kept
    rw [(skipped.resolve_left kept.1).resolve_left kept.2]

include other inside in
theorem step_column {name : Text} (filled : Text.isAllBlank (Text.trimStart line) = false)
    (unconstrained : ¬ ("CONSTRAINT".toList : Text) <+: Text.trimStart line)
    (named : columnName? (Text.trimStart line) = some name) :
    step settings .inTableBody line = (.inTableBody, some (.column (columnOf settings line))) := by
  have kept : ¬ (Text.isAllBlank (Text.trimStart line) ||
      Text.startsWith "CONSTRAINT" (Text.trimStart line)) = true := by
    rw [filled, Bool.false_or, Text.startsWith_iff]
    exact unconstrained
  rw [step_of_not_create other, if_neg (by decide), if_neg (mt Text.startsWith_iff.mp inside), if_neg kept,
    named]

theorem columnName?_append {name : Text} (small : IsSmallName name) {blank : Char}
    (isBlank : Text.isBlank blank = true) (definition : Text) :
    columnName? (name ++ blank :: definition) = some name := by
  have stop : (blank.isLower || blank.isDigit || blank == '_') = false := by
    by_contra small
    simp only [Bool.not_eq_false, Bool.or_eq_true, beq_iff_eq] at small
    have nameChar : Text.IsNameChar blank := isNameChar_of_small (by tauto)
    rw [nameChar.isBlank] at isBlank
    cases isBlank
  cases name with
  | nil => exact small.elim
  | cons c s =>
    have chars : ∀ d ∈ c :: s, (d.isLower || d.isDigit || d == '_') = true := by
      intro d member
      rcases List.mem_cons.mp member with rfl | later
      · rcases small.1 with rfl | lower
        · rfl
        · simp [lower]
      · rcases small.2 d later with rfl | lower | digit
        · rfl
        · simp [lower]
        · simp [digit]
    have letter : c.isDigit = false := by
      rcases small.1 with rfl | lower
      · rfl
      · delta Char.isLower at lower
        simp only [Char.isDigit, Bool.and_eq_true, decide_eq_true_eq, ge_iff_le,
          UInt32.le_iff_toNat_le, Bool.and_eq_false_iff, decide_eq_false_iff_not] at lower ⊢
        exact .inr (by have low := lower.1; simp at low ⊢; omega)
    rw [columnName?, Text.span_append definition chars stop]
    simp [letter, isBlank]

theorem trimStart_column {margin : Text} (blank : ∀ c ∈ margin, Text.isBlank c = true) {name : Text}
    (small : IsSmallName name) {c : Char} (definition : Text) :
    Text.trimStart (margin ++ (name ++ c :: definition)) = name ++ c :: definition := by
  obtain ⟨d, s, split, start, _⟩ := small.isIdentifier.cons
  rw [split, List.cons_append]
  exact Text.trimStart_margin blank _ (Text.isNameChar_of_isNameStart start).isBlank

/-- A line of a body declares its column if it has one, and nothing else. -/
theorem step_body {margin : Text} (blank : ∀ c ∈ margin, Text.isBlank c = true) {line : BodyLine}
    (wellFormed : line.WellFormed) :
    step settings .inTableBody (margin ++ line.text) =
      (.inTableBody, line.column?.map fun _ => .column (columnOf settings (margin ++ line.text))) := by
  cases line with
  | column name c definition =>
    obtain ⟨small, isBlank⟩ := wellFormed
    have trimmed := trimStart_column blank small (c := c) definition
    have body : Text.isAllBlank (name ++ c :: definition) = false := by
      obtain ⟨d, s, rfl, start, _⟩ := small.isIdentifier.cons
      simp [Text.isAllBlank, (Text.isNameChar_of_isNameStart start).isBlank]
    have named : columnName? (Text.trimStart (margin ++ (name ++ c :: definition))) = some name := by
      rw [trimmed]
      exact columnName?_append small isBlank definition
    rw [BodyLine.text_column]
    refine step_column ?_ ?_ ?_ ?_ named <;> rw [trimmed]
    · exact small.not_start (c := 'C') rfl (by decide) _
    · exact small.not_start (c := ')') rfl (by decide) _
    · exact body
    · exact small.not_start (c := 'C') rfl (by decide) _
  | empty =>
    have trimmed : Text.trimStart (margin ++ BodyLine.empty.text) = [] := by
      rw [BodyLine.text_empty, List.append_nil]
      exact Text.trimStart_of_all blank
    refine step_skipped ?_ ?_ ?_ <;> rw [trimmed]
    · decide
    · decide
    · exact .inl rfl
  | comment remark =>
    have trimmed : Text.trimStart (margin ++ (BodyLine.comment remark).text) = '-' :: '-' :: remark :=
      Text.trimStart_margin blank _ rfl
    refine step_skipped ?_ ?_ ?_ <;> rw [trimmed]
    · simp
    · simp
    · exact .inr (.inr rfl)
  | constraint clause =>
    have trimmed : Text.trimStart (margin ++ (BodyLine.constraint clause).text) =
        "CONSTRAINT" ++ clause := Text.trimStart_margin blank _ rfl
    refine step_skipped ?_ ?_ ?_ <;> rw [trimmed]
    · simp
    · simp
    · exact .inr (.inl (List.prefix_append _ _))

/-! ### The line that opens a table -/

namespace Block

variable {b : Block} (wellFormed : b.WellFormed)

include wellFormed in
theorem qualifiedName_isSmall : ∃ name rest, IsSmallName name ∧ b.qualifiedName = name ++ rest := by
  unfold qualifiedName
  cases qualifier : b.qualifier with
  | none => exact ⟨b.name, [], wellFormed.name, (List.append_nil _).symm⟩
  | some q => exact ⟨q, '.' :: b.name, wellFormed.qualifier q qualifier, rfl⟩

include wellFormed in
theorem head?_qualifiedName (rest : Text) :
    ∀ c ∈ (b.qualifiedName ++ rest).head?, Text.isBlank c = false := by
  obtain ⟨name, more, small, split⟩ := qualifiedName_isSmall wellFormed
  obtain ⟨d, s, rfl, start, _⟩ := small.isIdentifier.cons
  rw [split]
  rintro c first
  cases first
  exact (Text.isNameChar_of_isNameStart start).isBlank

include wellFormed in
theorem qualifiedName_not_start {word : Text} {c : Char} (first : word.head? = some c)
    (other : ¬ (c = '_' ∨ c.isLower = true)) (rest : Text) : ¬ word <+: b.qualifiedName ++ rest := by
  obtain ⟨name, more, small, split⟩ := qualifiedName_isSmall wellFormed
  rw [split, List.append_assoc]
  exact small.not_start first other _

include wellFormed in
/-- A name is read without its qualifier. -/
theorem qualifiedNames_head :
    ∃ more, Text.qualifiedNames (b.qualifiedName ++ [' ', '(']) = (b.name, [' ', '(']) :: more := by
  have read := wellFormed.name.isIdentifier.quotableName?_append ['('] (c := ' ') rfl (by decide)
  unfold qualifiedName Text.qualifiedNames
  cases qualifier : b.qualifier with
  | none =>
    have unqualified : Text.afterQualifier? (b.name ++ [' ', '(']) = none := by
      rw [Text.afterQualifier?, read]
      rfl
    refine ⟨[], ?_⟩
    dsimp only
    rw [Text.withOrWithout, unqualified]
    simp [read]
  | some q =>
    have small := (wellFormed.qualifier q qualifier).isIdentifier
    have qualified : Text.afterQualifier? (q ++ '.' :: (b.name ++ [' ', '('])) =
        some (b.name ++ [' ', '(']) := by
      rw [Text.afterQualifier?, small.quotableName?_append _ (c := '.') rfl (by decide)]
      rfl
    dsimp only
    rw [List.append_assoc, List.cons_append, Text.withOrWithout, qualified]
    dsimp only
    rw [List.filterMap_cons_some read]
    exact ⟨_, rfl⟩

include wellFormed in
/-- The header opens the table with the name. -/
theorem tableName?_header : tableName? b.header = some b.name := by
  have opened : Text.afterKeywords? ["CREATE", "TABLE"] b.header =
      some (b.condition ++ (b.qualifiedName ++ [' ', '('])) := by
    have words : ("CREATE TABLE ".toList : Text) =
        ([("CREATE" : Text), "TABLE"] : List Text).flatMap (· ++ [' ']) := by decide
    have written : b.header =
        "CREATE TABLE ".toList ++ b.condition ++ b.qualifiedName ++ [' ', '('] := rfl
    rw [written, words, List.append_assoc, List.append_assoc]
    refine Text.afterKeywords?_append (by decide) ?_
    unfold condition
    split
    · intro c first
      cases first
      rfl
    · exact head?_qualifiedName wellFormed _
  have only := Text.withoutKeywords
    (@qualifiedName_not_start _ wellFormed "ONLY" 'O' rfl (by decide) [' ', '(']) []
  have starts : ∃ others, (Text.withOrWithout (Text.afterKeywords? ["IF", "NOT", "EXISTS"])
      (b.condition ++ (b.qualifiedName ++ [' ', '(']))).flatMap
        (Text.withOrWithout (Text.afterKeywords? ["ONLY"])) = (b.qualifiedName ++ [' ', '(']) :: others := by
    unfold condition
    split
    · have words : ("IF NOT EXISTS ".toList : Text) =
          ([("IF" : Text), "NOT", "EXISTS"] : List Text).flatMap (· ++ [' ']) := by decide
      rw [words, Text.withOrWithout,
        Text.afterKeywords?_append (by decide) (head?_qualifiedName wellFormed _), List.flatMap_cons, only]
      exact ⟨_, rfl⟩
    · rw [List.nil_append, Text.withoutKeywords (qualifiedName_not_start wellFormed rfl (c := 'I') (by decide) _),
        List.flatMap_singleton, only]
      exact ⟨[], rfl⟩
  obtain ⟨others, starts⟩ := starts
  obtain ⟨more, names⟩ := qualifiedNames_head wellFormed
  rw [tableName?, opened]
  dsimp only [bind, Option.bind]
  rw [starts, List.flatMap_cons, names]
  rfl

end Block
end ReferencePages.Schema
