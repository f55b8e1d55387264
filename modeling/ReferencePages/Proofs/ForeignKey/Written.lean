import ReferencePages.Proofs.ForeignKey.Attribution
import ReferencePages.Proofs.Schema.Block
import ReferencePages.Proofs.Text.Infix
import ReferencePages.Proofs.Text.Join
import ReferencePages.Proofs.Text.Lines
/-!
Keys as the dump of a database has them: a line that alters a table, and behind it a line that adds the key. What is
between the two, and between one key and the next, does not matter as long as it has no words of either kind of
line. The words are looked for with any blanks between them, so that two blanks make as good an alteration as one.
-/

namespace ReferencePages.ForeignKey

open Text (Keywords Names Qualifies Encloses Optionally IsGap)

/-- Two words stand on a line with blanks alone between them. -/
def HasPhrase (first second line : Text) : Prop := ∃ gap, IsGap gap ∧ first ++ (gap ++ second) <:+: line

/-- A line that takes no part: a comment, or one without the words of an alteration and without those of a key. -/
def IsSilent (line : Text) : Prop :=
  isComment line = true ∨ ¬ HasPhrase "ALTER" "TABLE" line ∧ ¬ HasPhrase "FOREIGN" "KEY" line

theorem HasPhrase.mem {first second line : Text} (phrase : HasPhrase first second line) {c : Char}
    (inside : c ∈ first) : c ∈ line := by
  obtain ⟨gap, _, within⟩ := phrase
  exact within.subset (List.mem_append_left _ inside)

theorem HasAlteration.hasPhrase {line : Text} (altered : HasAlteration line) : HasPhrase "ALTER" "TABLE" line := by
  obtain ⟨part, _, within, _, _, ⟨gap, _, blank, _, rfl, gap', _, _, _, rfl, _⟩, _⟩ := altered
  refine ⟨gap, blank, List.IsInfix.trans ?_ within.isInfix⟩
  rw [List.append_assoc, List.append_assoc, ← List.append_assoc gap, ← List.append_assoc]
  exact (List.prefix_append _ _).isInfix

theorem HasKey.hasPhrase {line : Text} (keyed : HasKey line) : HasPhrase "FOREIGN" "KEY" line := by
  obtain ⟨part, _, _, _, within, ⟨gap, _, blank, _, rfl⟩, _⟩ := keyed
  refine ⟨gap, blank, List.IsInfix.trans ?_ within.isInfix⟩
  rw [← List.append_assoc gap, ← List.append_assoc]
  exact (List.prefix_append _ _).isInfix

theorem alteredTable?_eq_none {line : Text} (unsaid : ¬ HasPhrase "ALTER" "TABLE" line) :
    alteredTable? line = none := by
  rw [← Option.not_isSome_iff_eq_none, alteredTable?_isSome]
  exact fun altered => unsaid altered.hasPhrase

theorem ofLine?_eq_none {line : Text} (unsaid : ¬ HasPhrase "FOREIGN" "KEY" line) (source : Text) :
    ofLine? source line = none := by
  rw [← Option.not_isSome_iff_eq_none, ofLine?_isSome]
  exact fun keyed => unsaid keyed.hasPhrase

/-- A line without the words of a key changes at most the table that is known. -/
theorem step_of_no_key {line : Text} (plain : isComment line = false) (unsaid : ¬ HasPhrase "FOREIGN" "KEY" line)
    (scan : Scan) : scan.step line = { scan with currentTable := (alteredTable? line).or scan.currentTable } := by
  have none : ((alteredTable? line).or scan.currentTable).bind
      (fun table => if table.isEmpty then none else ofLine? table line) = none := by
    simp [ofLine?_eq_none unsaid]
  rw [Scan.step, if_neg (Bool.eq_false_iff.mp plain)]
  dsimp only
  rw [none]
  simp

theorem step_silent {line : Text} (silent : IsSilent line) (scan : Scan) : scan.step line = scan := by
  rcases silent with comment | ⟨unaltered, unkeyed⟩
  · exact step_comment scan comment
  · cases comment : isComment line with
    | true => exact step_comment scan comment
    | false => rw [step_of_no_key comment unkeyed, alteredTable?_eq_none unaltered, Option.none_or]

theorem foldl_silent {ls : List Text} (silent : ∀ line ∈ ls, IsSilent line) (scan : Scan) :
    ls.foldl Scan.step scan = scan := by
  induction ls with
  | nil => rfl
  | cons line ls ih =>
    rw [List.foldl_cons, step_silent (silent line (List.mem_cons_self ..))]
    exact ih fun other member => silent other (List.mem_cons_of_mem _ member)

/-! ### Names -/

/-- A character of names, with the marks and dots that may stand at them. -/
def IsNameSign (c : Char) : Prop := c = '"' ∨ c = '.' ∨ c = '_' ∨ c.isLower = true ∨ c.isDigit = true

instance : DecidablePred IsNameSign := fun c =>
  inferInstanceAs (Decidable (c = '"' ∨ c = '.' ∨ c = '_' ∨ c.isLower = true ∨ c.isDigit = true))

theorem IsNameSign.isBlank {c : Char} (sign : IsNameSign c) : Text.isBlank c = false := by
  rcases sign with rfl | rfl | small
  · rfl
  · rfl
  · exact (Schema.isNameChar_of_small small).isBlank

/-- A small name with quotation marks around it, or without. -/
structure WrittenName where
  name : Text
  isQuoted : Bool
  isSmall : Schema.IsSmallName name

namespace WrittenName

variable (n : WrittenName)

def quote : Text := if n.isQuoted then ['"'] else []

def text : Text := n.quote ++ (n.name ++ n.quote)

theorem isQuote : Text.IsQuote n.quote := by
  unfold quote
  split
  · exact .inr rfl
  · exact .inl rfl

theorem isWord : Text.IsWord n.name := by
  obtain ⟨c, s, split, start, chars⟩ := n.isSmall.isIdentifier.cons
  rw [split]
  exact ⟨start, fun d member => (chars d member).isWordChar⟩

theorem isNameSign {c : Char} (member : c ∈ n.text) : IsNameSign c := by
  have mark (inside : c ∈ n.quote) : IsNameSign c := by
    rcases n.isQuote with none | one
    · simp [none] at inside
    · simp [one] at inside
      exact .inl inside
  rcases List.mem_append.mp member with opening | rest
  · exact mark opening
  · rcases List.mem_append.mp rest with inside | closing
    · exact .inr (.inr (n.isSmall.chars c inside))
    · exact mark closing

/-- A name ends where a dot or a parenthesis follows it. -/
theorem names {rest : Text} (stop : ∀ c ∈ rest.head?, c = '.' ∨ c = '(') : Names (n.text ++ rest) n.name rest := by
  refine ⟨n.quote, n.quote, n.isQuote, n.isQuote, n.isWord, by simp [text], ?_, ?_⟩
  · rcases n.isQuote with none | one
    · rw [none]
      intro c first
      rcases stop c first with rfl | rfl <;> rfl
    · rw [one]
      intro c first
      cases first
      rfl
  · intro none c first
    rcases stop c first with rfl | rfl <;> decide

end WrittenName

/-- The name of a table, with its schema or without. -/
structure WrittenTable where
  schema : Option WrittenName
  table : WrittenName

namespace WrittenTable

variable (t : WrittenTable)

def qualifier : Text := (t.schema.map fun q => q.text ++ ['.']).getD []

def text : Text := t.qualifier ++ t.table.text

theorem isNameSign {c : Char} (member : c ∈ t.text) : IsNameSign c := by
  rcases List.mem_append.mp member with qualifying | inside
  · unfold qualifier at qualifying
    cases schema : t.schema with
    | none => simp [schema] at qualifying
    | some q =>
      simp only [schema, Option.map_some, Option.getD_some, List.mem_append, List.mem_singleton] at qualifying
      rcases qualifying with inside | rfl
      · exact q.isNameSign inside
      · exact .inr (.inl rfl)
  · exact t.table.isNameSign inside

theorem isFilled (rest : Text) : Text.IsFilled (t.text ++ rest) := by
  have some : t.text ≠ [] := by simp [text, WrittenName.text, t.table.isWord.ne_nil]
  intro c first
  rw [List.head?_append_of_ne_nil _ some] at first
  exact (t.isNameSign (List.mem_of_mem_head? first)).isBlank

variable {α : Type} {next : Text → α → Prop} {a : α}

/-- The schema of a table is passed over. -/
theorem optionally {rest : Text} (stop : ∀ c ∈ rest.head?, c = '(') (named : next (t.table.text ++ rest) a) :
    Optionally Qualifies next (t.text ++ rest) a := by
  have bare := t.table.names fun c first => .inr (stop c first)
  unfold text qualifier
  cases t.schema with
  | none =>
    refine .inr ⟨?_, named⟩
    rintro ⟨behind, _, ⟨name, qualifies⟩, _⟩
    have same := (Text.quotableName?_eq_some.mpr qualifies).symm.trans (Text.quotableName?_eq_some.mpr bare)
    cases same
    cases stop '.' rfl
  | some q =>
    refine .inl ⟨t.table.text ++ rest, ⟨q.name, ?_⟩, named⟩
    have qualifies : Names (q.text ++ '.' :: (t.table.text ++ rest)) q.name ('.' :: (t.table.text ++ rest)) :=
      q.names fun c first => .inl (by cases first; rfl)
    simpa using qualifies

theorem namesBare : NamesBare t.text (t.table.name, []) := by
  have named : NamesBare (t.text ++ []) (t.table.name, []) :=
    t.optionally (fun c first => nomatch first) (t.table.names fun c first => nomatch first)
  rwa [List.append_nil] at named

/-- Keywords in capital letters do not begin the name of a table. -/
theorem optionally_keywords (word : Text) (words : List Text) {c : Char} (letter : c ∈ word) (other : ¬ IsNameSign c)
    (named : next t.text a) : Optionally (Keywords (word :: words)) next t.text a := by
  refine .inr ⟨?_, named⟩
  rintro ⟨_, _, ⟨gap, behind, _, _, split, _⟩, _⟩
  refine other (t.isNameSign ?_)
  rw [split, List.append_assoc]
  exact List.mem_append_left _ letter

end WrittenTable

/-! ### Columns -/

/-- A column of a list, with the blanks around it. -/
structure ListedColumn where
  left : Text
  column : WrittenName
  right : Text
  isBlank : ∀ c ∈ left ++ right, Text.isBlank c = true

def ListedColumn.text (c : ListedColumn) : Text := c.left ++ (c.column.text ++ c.right)

/-- The columns as they stand between parentheses. -/
def listing (columns : List ListedColumn) : Text := Text.joinWith "," (columns.map (·.text))

theorem ListedColumn.mem_text (column : ListedColumn) {c : Char} (member : c ∈ column.text) :
    Text.isBlank c = true ∨ IsNameSign c := by
  rcases List.mem_append.mp member with left | rest
  · exact .inl (column.isBlank c (List.mem_append_left _ left))
  · rcases List.mem_append.mp rest with inside | right
    · exact .inr (column.column.isNameSign inside)
    · exact .inl (column.isBlank c (List.mem_append_right _ right))

theorem mem_listing {columns : List ListedColumn} {c : Char} (member : c ∈ listing columns) :
    c = ',' ∨ Text.isBlank c = true ∨ IsNameSign c := by
  rcases Text.mem_joinWith member with comma | ⟨_, listed, inside⟩
  · exact .inl (List.mem_singleton.mp comma)
  · obtain ⟨column, _, rfl⟩ := List.mem_map.mp listed
    exact .inr (column.mem_text inside)

/-- A column is read without the blanks and without the marks around it. -/
theorem ListedColumn.trimmed (column : ListedColumn) :
    Text.trimWhile (· == '"') (Text.trim column.text) = column.column.name := by
  have blanks : Text.trim column.text = column.column.text :=
    Text.trimWhile_between (fun c member => column.isBlank c (List.mem_append_left _ member))
      (fun c member => (column.column.isNameSign member).isBlank)
      (fun c member => column.isBlank c (List.mem_append_right _ member))
  have mark : ∀ c ∈ column.column.quote, (c == '"') = true := by
    rcases column.column.isQuote with none | one
    · rw [none]
      exact nofun
    · rw [one]
      decide
  rw [blanks]
  refine Text.trimWhile_between mark (fun c member => beq_eq_false_iff_ne.mpr ?_) mark
  rintro rfl
  exact column.column.isWord.not_mem (by decide) member

theorem ListedColumn.isAllBlank_text (column : ListedColumn) : Text.isAllBlank column.text = false := by
  obtain ⟨c, inside⟩ := List.exists_mem_of_ne_nil _ column.column.isWord.ne_nil
  rw [Text.isAllBlank, List.all_eq_false]
  refine ⟨c, by simp [text, WrittenName.text, inside], ?_⟩
  rw [Bool.not_eq_true]
  exact (IsNameSign.isBlank (.inr (.inr (column.column.isSmall.chars c inside))))

theorem splitOnChar_listing {columns : List ListedColumn} (some : columns ≠ []) :
    Text.splitOnChar ',' (listing columns) = columns.map (·.text) := by
  have absent : ∀ piece ∈ columns.map (·.text), ',' ∉ piece := by
    intro piece member comma
    obtain ⟨column, _, rfl⟩ := List.mem_map.mp member
    exact absurd (column.mem_text comma) (by decide)
  obtain ⟨first, rest, rfl⟩ := List.exists_cons_of_ne_nil some
  exact Text.splitOnChar_joinWith absent

theorem listing_ne_nil {columns : List ListedColumn} (some : columns ≠ []) : listing columns ≠ [] := by
  obtain ⟨first, rest, rfl⟩ := List.exists_cons_of_ne_nil some
  intro none
  have pieces := splitOnChar_listing some
  rw [none] at pieces
  have empty : [] = first.text := (List.cons.inj pieces).1
  have filled := first.isAllBlank_text
  rw [← empty] at filled
  cases filled

/-- A list is read as its columns. -/
theorem columnList_listing {columns : List ListedColumn} (some : columns ≠ []) :
    columnList (listing columns) = Text.joinWith ", " (columns.map (·.column.name)) := by
  have listed : (columns.map (·.text)).filter (fun part => !Text.isAllBlank part) = columns.map (·.text) := by
    rw [List.filter_eq_self]
    intro part member
    obtain ⟨column, _, rfl⟩ := List.mem_map.mp member
    rw [column.isAllBlank_text]
    rfl
  rw [columnList, splitOnChar_listing some, listed, List.map_map]
  exact congrArg _ (List.map_congr_left fun column _ => column.trimmed)

/-- Columns in parentheses are read up to the closing one. -/
theorem encloses_listing {columns : List ListedColumn} (some : columns ≠ []) {margin : Text}
    (blank : ∀ c ∈ margin, Text.isBlank c = true) (rest : Text) :
    Encloses (margin ++ ("(" ++ (listing columns ++ (")" ++ rest)))) (listing columns) rest :=
  ⟨margin, blank, listing_ne_nil some, fun member => absurd (mem_listing member) (by decide), rfl⟩

/-! ### Keys -/

/-- A key on two lines, with lines between them. Behind the columns of its clause stand further actions. -/
structure WrittenKey where
  margin : Text
  isOnly : Bool
  source : WrittenTable
  between : List Text
  inner : Text
  constraint : WrittenName
  columns : List ListedColumn
  target : WrittenTable
  targetColumns : List ListedColumn
  actions : Text
  isBlank : ∀ c ∈ margin ++ inner, Text.isBlank c = true
  hasColumns : columns ≠ [] ∧ targetColumns ≠ []

namespace WrittenKey

variable (k : WrittenKey)

def only : Text := if k.isOnly then "ONLY " else []

/-- The line that alters the table. -/
def alteration : Text := k.margin ++ ("ALTER TABLE " ++ (k.only ++ k.source.text))

def reference : Text := "REFERENCES " ++ (k.target.text ++ ("(" ++ (listing k.targetColumns ++ (")" ++ k.actions))))

def key : Text := "FOREIGN KEY" ++ (" " ++ ("(" ++ (listing k.columns ++ (")" ++ (" " ++ k.reference)))))

def addition : Text := k.inner ++ ("ADD CONSTRAINT " ++ (k.constraint.text ++ " "))

/-- The line that adds the key. -/
def clause : Text := k.addition ++ k.key

def lines : List Text := k.alteration :: (k.between ++ [k.clause])

/-- The edge that the key stands for. -/
def toEdge : ForeignKey where
  sourceTable := k.source.table.name
  sourceColumn := Text.joinWith ", " (k.columns.map (·.column.name))
  targetTable := k.target.table.name
  targetColumn := Text.joinWith ", " (k.targetColumns.map (·.column.name))

theorem margin_isBlank {c : Char} (member : c ∈ k.margin) : Text.isBlank c = true :=
  k.isBlank c (List.mem_append_left _ member)

theorem inner_isBlank {c : Char} (member : c ∈ k.inner) : Text.isBlank c = true :=
  k.isBlank c (List.mem_append_right _ member)

/-- Neither line is a comment, since a word begins it. -/
theorem isComment_alteration : isComment k.alteration = false := by
  have trimmed : Text.trimStart k.alteration = 'A' :: ("LTER TABLE " ++ (k.only ++ k.source.text)) :=
    Text.trimStart_margin (fun c => k.margin_isBlank) _ rfl
  rw [isComment, trimmed]
  rfl

theorem isComment_clause : isComment k.clause = false := by
  have trimmed : Text.trimStart k.clause =
      'A' :: ("DD CONSTRAINT " ++ (k.constraint.text ++ (" " ++ k.key))) := by
    rw [clause, addition, List.append_assoc, List.append_assoc, List.append_assoc]
    exact Text.trimStart_margin (fun c => k.inner_isBlank) _ rfl
  rw [isComment, trimmed]
  rfl

theorem alters : Alters ("ALTER TABLE " ++ (k.only ++ k.source.text)) k.source.table.name := by
  have bare := k.source.isFilled []
  rw [List.append_nil] at bare
  have filled : Text.IsFilled (k.only ++ k.source.text) := by
    unfold only
    split
    · intro c first
      cases first
      rfl
    · exact bare
  have unconditional : Optionally (Keywords ["IF", "EXISTS"]) (Optionally (Keywords ["ONLY"]) NamesBare) k.source.text
      (k.source.table.name, []) :=
    k.source.optionally_keywords "IF" ["EXISTS"] (c := 'I') (by decide) (by decide)
      (k.source.optionally_keywords "ONLY" [] (c := 'O') (by decide) (by decide) k.source.namesBare)
  refine ⟨k.only ++ k.source.text, [], Text.Keywords.append ["ALTER", "TABLE"] (by decide) filled, ?_⟩
  unfold only
  split
  · exact .inl ⟨k.source.text, Text.Keywords.append ["ONLY"] (by decide) bare, unconditional⟩
  · exact k.source.optionally_keywords "ONLY" [] (c := 'O') (by decide) (by decide) unconditional

theorem keyColumns : KeyColumns k.key (listing k.columns, " " ++ k.reference) :=
  ⟨[' '], _, by decide, encloses_listing k.hasColumns.1 (by decide) _, rfl⟩

theorem references : References k.reference (k.target.table.name, listing k.targetColumns) := by
  refine ⟨_, Text.Keywords.append ["REFERENCES"] (by decide) (k.target.isFilled _), k.target.optionally ?_ ?_⟩
  · intro c first
    cases first
    rfl
  · refine ⟨_, k.actions, k.target.table.names ?_, @encloses_listing _ k.hasColumns.2 [] nofun _⟩
    intro c first
    cases first
    exact .inr rfl

/-! ### What the scan makes of each line -/

theorem alteredTable?_alteration : alteredTable? k.alteration = some k.source.table.name := by
  have begins (s : Text) (other : ∀ c ∈ s.head?, c ≠ 'A') : readAlteredTable s = none := by
    have unread : Text.afterKeywords? ["ALTER", "TABLE"] s = none := by
      rw [Text.afterKeywords?, Text.after?_of_head rfl other]
      rfl
    rw [readAlteredTable, unread]
    rfl
  have margin : 'A' ∉ k.margin := fun member => absurd (k.margin_isBlank member) (by decide)
  exact Text.findRead?_behind begins margin ((readAlteredTable_eq_some _ _).mpr k.alters)

theorem ofLine?_clause (source : Text) : ofLine? source k.clause = some { k.toEdge with sourceTable := source } := by
  have columns : Text.findRead? readKeyColumns k.clause = some (listing k.columns, " " ++ k.reference) := by
    have begins (s : Text) (other : ∀ c ∈ s.head?, c ≠ 'F') : readKeyColumns s = none := by
      rw [readKeyColumns, Text.after?_of_head rfl other]
      rfl
    have front : 'F' ∉ k.addition := by
      simp only [addition, List.mem_append, not_or]
      exact ⟨fun member => absurd (k.inner_isBlank member) (by decide), by decide,
        fun member => absurd (k.constraint.isNameSign member) (by decide), by decide⟩
    exact Text.findRead?_behind begins front ((readKeyColumns_eq_some _ _).mpr k.keyColumns)
  have targets : Text.findRead? readReference (" " ++ k.reference) =
      some (k.target.table.name, listing k.targetColumns) := by
    have begins (s : Text) (other : ∀ c ∈ s.head?, c ≠ 'R') : readReference s = none := by
      have unread : Text.afterKeywords? ["REFERENCES"] s = none := by
        rw [Text.afterKeywords?, Text.after?_of_head rfl other]
        rfl
      rw [readReference, unread]
      rfl
    exact Text.findRead?_behind begins (by decide) ((readReference_eq_some _ _).mpr k.references)
  rw [ofLine?, columns]
  dsimp only [bind, Option.bind]
  rw [targets]
  dsimp only [pure]
  rw [columnList_listing k.hasColumns.1, columnList_listing k.hasColumns.2, toEdge]

/-- What is before the actions has no letter `L`, and ends with a parenthesis. -/
theorem clause_split : ∃ front, k.clause = front ++ (")" ++ k.actions) ∧ 'L' ∉ front := by
  refine ⟨k.addition ++ ("FOREIGN KEY" ++ (" " ++ ("(" ++ (listing k.columns ++ (")" ++ (" " ++ ("REFERENCES " ++
      (k.target.text ++ ("(" ++ listing k.targetColumns))))))))), ?_, ?_⟩
  · unfold clause key reference
    simp only [List.append_assoc]
  · simp only [addition, List.mem_append, not_or]
    have listed (columns : List ListedColumn) : 'L' ∉ listing columns := fun member =>
      absurd (mem_listing member) (by decide)
    exact ⟨⟨fun member => absurd (k.inner_isBlank member) (by decide), by decide,
        fun member => absurd (k.constraint.isNameSign member) (by decide), by decide⟩,
      by decide, by decide, by decide, listed _, by decide, by decide, by decide,
      fun member => absurd (k.target.isNameSign member) (by decide), by decide, listed _⟩

/-- The words of an alteration stand on the line of a key only if its actions have them. -/
theorem not_hasPhrase_clause (unsaid : ¬ HasPhrase "ALTER" "TABLE" k.actions) :
    ¬ HasPhrase "ALTER" "TABLE" k.clause := by
  rintro ⟨gap, blank, within⟩
  obtain ⟨front, whole, letterless⟩ := k.clause_split
  have absent : ')' ∉ ("ALTER" : Text) ++ (gap ++ "TABLE") := by
    simp only [List.mem_append, not_or]
    exact ⟨by decide, fun member => absurd (blank.2 _ member) (by decide), by decide⟩
  rw [whole] at within
  rcases (Text.infix_append_cons absent front k.actions).mp within with before | behind
  · exact letterless (before.subset (List.mem_append_left _ (by decide)))
  · exact unsaid ⟨gap, blank, behind⟩

theorem not_hasPhrase_alteration : ¬ HasPhrase "FOREIGN" "KEY" k.alteration := by
  intro phrase
  have letter := phrase.mem (c := 'F') (by decide)
  simp only [alteration, List.mem_append] at letter
  rcases letter with margin | word | only | source
  · exact absurd (k.margin_isBlank margin) (by decide)
  · revert word; decide
  · unfold WrittenKey.only at only
    split at only
    · revert only; decide
    · cases only
  · exact absurd (k.source.isNameSign source) (by decide)

theorem step_alteration (scan : Scan) :
    scan.step k.alteration = { scan with currentTable := some k.source.table.name } := by
  rw [step_of_no_key k.isComment_alteration k.not_hasPhrase_alteration, alteredTable?_alteration, Option.some_or]

theorem step_clause (unsaid : ¬ HasPhrase "ALTER" "TABLE" k.actions) {scan : Scan}
    (known : scan.currentTable = some k.source.table.name) :
    scan.step k.clause = { scan with edges := scan.edges ++ [k.toEdge] } := by
  rw [Scan.step, if_neg (Bool.eq_false_iff.mp k.isComment_clause), alteredTable?_eq_none (k.not_hasPhrase_clause unsaid),
    Option.none_or, known]
  simp [k.source.table.isWord.ne_nil, ofLine?_clause, toEdge]

/-- A key adds its edge, whatever is known before. -/
theorem foldl_lines (silent : ∀ line ∈ k.between, IsSilent line) (unsaid : ¬ HasPhrase "ALTER" "TABLE" k.actions)
    (scan : Scan) :
    k.lines.foldl Scan.step scan =
      { currentTable := some k.source.table.name, edges := scan.edges ++ [k.toEdge] } := by
  rw [lines, List.foldl_cons, step_alteration, List.foldl_append, foldl_silent silent, List.foldl_cons, List.foldl_nil,
    k.step_clause unsaid rfl]

end WrittenKey

/-- The lines of a file of keys, with other lines before each key and behind the last. -/
def writtenLines (keys : List (List Text × WrittenKey)) (rest : List Text) : List Text :=
  keys.flatMap (fun (gap, key) => gap ++ key.lines) ++ rest

theorem edges_foldl_written {keys : List (List Text × WrittenKey)} {rest : List Text}
    (silent : ∀ key ∈ keys, ∀ line ∈ key.1 ++ key.2.between, IsSilent line)
    (unsaid : ∀ key ∈ keys, ¬ HasPhrase "ALTER" "TABLE" key.2.actions) (after : ∀ line ∈ rest, IsSilent line)
    (scan : Scan) :
    ((writtenLines keys rest).foldl Scan.step scan).edges = scan.edges ++ keys.map (·.2.toEdge) := by
  induction keys generalizing scan with
  | nil =>
    rw [writtenLines, List.flatMap_nil, List.nil_append, foldl_silent after, List.map_nil, List.append_nil]
  | cons first keys ih =>
    obtain ⟨gap, key⟩ := first
    have here := silent (gap, key) (List.mem_cons_self ..)
    have later := ih (fun other member => silent other (List.mem_cons_of_mem _ member))
      fun other member => unsaid other (List.mem_cons_of_mem _ member)
    rw [writtenLines] at later ⊢
    rw [List.flatMap_cons, List.append_assoc, List.append_assoc, List.foldl_append,
      foldl_silent (fun line member => here line (List.mem_append_left _ member)), List.foldl_append,
      key.foldl_lines (fun line member => here line (List.mem_append_right _ member))
        (unsaid (gap, key) (List.mem_cons_self ..)), later, List.append_assoc]
    rfl

/-- A file of written keys has one edge for each of them in their order. -/
theorem extract_written_keys {text : Text} {keys : List (List Text × WrittenKey)} {rest : List Text}
    (written : Text.lines text = writtenLines keys rest)
    (silent : ∀ key ∈ keys, ∀ line ∈ key.1 ++ key.2.between, IsSilent line)
    (unsaid : ∀ key ∈ keys, ¬ HasPhrase "ALTER" "TABLE" key.2.actions) (after : ∀ line ∈ rest, IsSilent line) :
    extract text = keys.map (·.2.toEdge) := by
  rw [extract, written, edges_foldl_written silent unsaid after]
  rfl

/-- A key of two columns, with a comment and an empty line inside. -/
def taskKey : WrittenKey where
  margin := []
  isOnly := true
  source := { schema := some ⟨"app", false, by decide⟩, table := ⟨"tasks", true, by decide⟩ }
  between := ["-- ALTER TABLE old", []]
  inner := "    "
  constraint := ⟨"parent_fk", false, by decide⟩
  columns :=
    [⟨" ", ⟨"app_id", false, by decide⟩, [], by decide⟩,
     ⟨"  ", ⟨"parent", true, by decide⟩, " ", by decide⟩]
  target := { schema := some ⟨"app", true, by decide⟩, table := ⟨"tasks", false, by decide⟩ }
  targetColumns :=
    [⟨[], ⟨"app_id", false, by decide⟩, [], by decide⟩, ⟨[], ⟨"id", false, by decide⟩, [], by decide⟩]
  actions := " ON DELETE CASCADE;"
  isBlank := by decide
  hasColumns := by decide

def stepKey : WrittenKey where
  margin := []
  isOnly := false
  source := { schema := none, table := ⟨"steps", false, by decide⟩ }
  between := []
  inner := "    "
  constraint := ⟨"task_fk", true, by decide⟩
  columns := [⟨[], ⟨"task", false, by decide⟩, [], by decide⟩]
  target := { schema := none, table := ⟨"tasks", true, by decide⟩ }
  targetColumns := [⟨[], ⟨"id", true, by decide⟩, [], by decide⟩]
  actions := ";"
  isBlank := by decide
  hasColumns := by decide

def keysText : Text :=
  "ALTER TABLE ONLY app.\"tasks\"\n-- ALTER TABLE old\n\n    ADD CONSTRAINT parent_fk FOREIGN KEY " ++
  "( app_id,  \"parent\" ) REFERENCES \"app\".tasks(app_id,id) ON DELETE CASCADE;\n" ++
  "  ADD CONSTRAINT steps_pk PRIMARY KEY (id);\n" ++
  "ALTER TABLE steps\n    ADD CONSTRAINT \"task_fk\" FOREIGN KEY (task) REFERENCES \"tasks\"(\"id\");\n"

def twoKeys : List (List Text × WrittenKey) :=
  [([], taskKey), (["  ADD CONSTRAINT steps_pk PRIMARY KEY (id);"], stepKey)]

theorem extract_written_keys_tasks :
    Text.lines keysText = writtenLines twoKeys [] ∧
    extract keysText =
      [{ sourceTable := "tasks", sourceColumn := "app_id, parent",
         targetTable := "tasks", targetColumn := "app_id, id" },
       { sourceTable := "steps", sourceColumn := "task", targetTable := "tasks", targetColumn := "id" }] := by
  have written : Text.lines keysText = writtenLines twoKeys [] := by decide +kernel
  have unsaid {line : Text} (absent : ¬ ("ALTER" : Text) ⊆ line) : ¬ HasPhrase "ALTER" "TABLE" line :=
    fun phrase => absent fun c => phrase.mem
  have plain {line : Text} (altered : ¬ ("ALTER" : Text) ⊆ line) (keyed : ¬ ("FOREIGN" : Text) ⊆ line) :
      IsSilent line := .inr ⟨unsaid altered, fun phrase => keyed fun c => phrase.mem⟩
  refine ⟨written, (extract_written_keys written ?_ ?_ nofun).trans (by decide +kernel)⟩
  · intro key member line inside
    rcases List.mem_pair.mp member with rfl | rfl
    · rcases List.mem_pair.mp inside with rfl | rfl
      · exact .inl (by decide)
      · exact plain (by decide) (by decide)
    · cases List.mem_singleton.mp inside
      exact plain (by decide) (by decide)
  · intro key member
    rcases List.mem_pair.mp member with rfl | rfl
    · exact unsaid (by decide)
    · exact unsaid (by decide)

/-- A key with an alteration inside that has two blanks between its words. -/
def spacedKey : WrittenKey where
  margin := []
  isOnly := false
  source := { schema := none, table := ⟨"a", false, by decide⟩ }
  between := ["ALTER  TABLE b"]
  inner := "    "
  constraint := ⟨"k", false, by decide⟩
  columns := [⟨[], ⟨"x", false, by decide⟩, [], by decide⟩]
  target := { schema := none, table := ⟨"c", false, by decide⟩ }
  targetColumns := [⟨[], ⟨"y", false, by decide⟩, [], by decide⟩]
  actions := ";"
  isBlank := by decide
  hasColumns := by decide

def spacedText : Text :=
  "ALTER TABLE a\nALTER  TABLE b\n    ADD CONSTRAINT k FOREIGN KEY (x) REFERENCES c(y);\n"

/-- Two blanks between the words make an alteration too, and the key does not belong to the table above it. -/
theorem spaced_alteration_heard :
    (∀ line ∈ spacedKey.between, ¬ ("ALTER TABLE" : Text) <:+: line ∧ ¬ ("FOREIGN KEY" : Text) <:+: line) ∧
    ¬ ("ALTER TABLE" : Text) <:+: spacedKey.actions ∧
    Text.lines spacedText = writtenLines [([], spacedKey)] [] ∧
    extract spacedText = [{ spacedKey.toEdge with sourceTable := "b" }] ∧
    extract spacedText ≠ [spacedKey.toEdge] := by
  decide +kernel

end ReferencePages.ForeignKey
