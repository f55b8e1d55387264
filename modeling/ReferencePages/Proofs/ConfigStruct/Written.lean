import ReferencePages.ConfigStruct
import ReferencePages.Proofs.Text.Lines
import ReferencePages.Proofs.Text.Phrase
import ReferencePages.Proofs.Text.Trim
/-!
Structures as they are written. One list of doc comments serves structures and fields alike. It is empty again
after each field and after each structure, so what is said of a field is never said of the next structure.
-/

namespace ReferencePages

/-- A line above a declaration, with the blanks in front of it: a doc comment, of which what follows the slashes is
given, or an attribute, of which what follows its sign is given. -/
inductive Remark
  | doc (margin text : Text)
  | tag (margin text : Text)

namespace Remark

def margin : Remark → Text
  | doc margin _ => margin
  | tag margin _ => margin

def line : Remark → Text
  | doc margin text => margin ++ (("///" : Text) ++ text)
  | tag margin text => margin ++ '#' :: text

/-- What a remark adds to the documentation. -/
def docs : Remark → List Text
  | doc _ text => [Text.trim text]
  | tag _ _ => []

/-- Whether only blanks stand in front of a remark. -/
def IsIndented (r : Remark) : Prop := ∀ c ∈ r.margin, Text.isBlank c = true

instance : DecidablePred IsIndented := fun r => inferInstanceAs (Decidable (∀ c ∈ r.margin, Text.isBlank c = true))

end Remark

/-- Whether a text can be the name of a field: it has no blank in it and begins neither a comment nor an
attribute. -/
def IsFieldName (name : Text) : Prop :=
  name ≠ [] ∧ (∀ c ∈ name, Text.isBlank c = false) ∧ name.head? ≠ some '/' ∧ name.head? ≠ some '#'

instance : DecidablePred IsFieldName := fun name =>
  inferInstanceAs (Decidable (name ≠ [] ∧ (∀ c ∈ name, Text.isBlank c = false) ∧ name.head? ≠ some '/' ∧
    name.head? ≠ some '#'))

/-- A field with the lines above it. -/
structure WrittenField where
  remarks : List Remark
  margin : Text
  isPublic : Bool
  name : Text
  type : Text

namespace WrittenField

/-- The declaration without the blanks in front of it. -/
def content (f : WrittenField) : Text :=
  (if f.isPublic then ("pub " : Text) else []) ++ (f.name ++ ':' :: ' ' :: (f.type ++ [',']))

def declaration (f : WrittenField) : Text := f.margin ++ f.content

def lines (f : WrittenField) : List Text := f.remarks.map (·.line) ++ [f.declaration]

structure WellFormed (f : WrittenField) : Prop where
  remarks : ∀ r ∈ f.remarks, r.IsIndented
  margin : Text.IsGap f.margin
  name : IsFieldName f.name

instance : DecidablePred WellFormed := fun f =>
  decidable_of_iff ((∀ r ∈ f.remarks, r.IsIndented) ∧ Text.IsGap f.margin ∧ IsFieldName f.name)
    ⟨fun ⟨remarks, margin, name⟩ => ⟨remarks, margin, name⟩, fun ⟨remarks, margin, name⟩ => ⟨remarks, margin, name⟩⟩

end WrittenField

/-- A public structure with the lines above it, with fields between braces or without a body. -/
structure WrittenStruct where
  remarks : List Remark
  name : Text
  fields : Option (List WrittenField)

namespace WrittenStruct

/-- The declaration and the lines below it. -/
def body (s : WrittenStruct) : List Text :=
  match s.fields with
  | none => ["pub struct " ++ (s.name ++ [';'])]
  | some fields => ("pub struct " ++ (s.name ++ (" \x7b" : Text))) :: (fields.flatMap (·.lines) ++ [("\x7d" : Text)])

def lines (s : WrittenStruct) : List Text := s.remarks.map (·.line) ++ s.body

/-- The doc comments that say something, joined by spaces. -/
def documentation (s : WrittenStruct) : Text :=
  Text.joinWith " " ((s.remarks.flatMap (·.docs)).filter (!·.isEmpty))

def publicFields (s : WrittenStruct) : Nat := (s.fields.getD []).countP (·.isPublic)

/-- The structure that is written. -/
def toStruct (s : WrittenStruct) : ConfigStruct where
  name := s.name
  sentence := ConfigStruct.firstSentence s.documentation ConfigStruct.sentenceLimit
  fieldCount := s.publicFields

structure WellFormed (s : WrittenStruct) : Prop where
  remarks : ∀ r ∈ s.remarks, r.IsIndented
  name : Text.IsWord s.name
  fields : ∀ f ∈ s.fields.getD [], f.WellFormed

end WrittenStruct

namespace ConfigStruct

/-! ### What a line is not -/

theorem docComment?_eq_none {line : Text} (other : ∀ c ∈ (Text.trimStart line).head?, c ≠ '/') :
    docComment? line = none := by
  rw [docComment?, Text.after?_of_head (by simp) other]
  rfl

theorem declared?_eq_none {line : Text} (other : ∀ c ∈ line.head?, c ≠ 'p') : declared? line = none := by
  rw [declared?, Text.afterKeywords?, Text.after?_of_head (by simp) other]
  rfl

theorem isPublicField_eq_false {line : Text} (other : ∀ c ∈ (Text.trimStart line).head?, c ≠ 'p') :
    isPublicField line = false := by
  rw [isPublicField, Text.after?_of_head (by simp) other]
  rfl

theorem isAttributeLine_eq_false {line : Text} (other : ∀ c ∈ (Text.trimStart line).head?, c ≠ '#') :
    isAttributeLine line = false := by
  rw [isAttributeLine, Text.startsWith, Text.after?_of_head (by simp) other]
  rfl

theorem closes_eq_false {line : Text} (other : ∀ c ∈ line.head?, c ≠ '\x7d') :
    Text.startsWith "\x7d" line = false := by
  rw [Text.startsWith, Text.after?_of_head (by simp) other]
  rfl

/-! ### Lines above declarations -/

theorem step_doc {margin : Text} (blank : ∀ c ∈ margin, Text.isBlank c = true) (text : Text) (scan : Scan) :
    scan.step (margin ++ (("///" : Text) ++ text)) = ({ scan with docs := scan.docs ++ [Text.trim text] }, []) := by
  have visible : Text.trimStart (margin ++ (("///" : Text) ++ text)) = ("///" : Text) ++ text :=
    Text.trimStart_margin blank _ (by decide)
  rw [Scan.step, docComment?, visible, Text.after?_append]
  rfl

/-- Blank lines and attributes leave everything as it is. -/
theorem step_kept {line : Text} (first : ∀ c ∈ line.head?, c ≠ 'p' ∧ c ≠ '\x7d')
    (visible : ∀ c ∈ (Text.trimStart line).head?, c ≠ '/' ∧ c ≠ 'p')
    (kept : (Text.isAllBlank line || isAttributeLine line) = true) (scan : Scan) : scan.step line = (scan, []) := by
  have undocumented := docComment?_eq_none fun c head => (visible c head).1
  have undeclared := declared?_eq_none fun c head => (first c head).1
  have hidden := isPublicField_eq_false fun c head => (visible c head).2
  have unclosed := closes_eq_false fun c head => (first c head).2
  unfold Scan.step
  rw [undocumented, undeclared]
  dsimp only
  rw [if_pos kept]
  obtain ⟨docs, unfinished⟩ := scan
  cases unfinished with
  | none => rfl
  | some s =>
    dsimp only
    rw [hidden, unclosed]
    rfl

theorem ne_of_isBlank {c d : Char} (blank : Text.isBlank c = true) (filled : Text.isBlank d = false) : c ≠ d := by
  rintro rfl
  rw [blank] at filled
  cases filled

theorem step_blank {line : Text} (blank : Text.isAllBlank line = true) (scan : Scan) : scan.step line = (scan, []) := by
  have chars : ∀ c ∈ line, Text.isBlank c = true := List.all_eq_true.mp blank
  refine step_kept (fun c head => ?_) (fun c head => ?_) (by rw [blank, Bool.true_or]) scan
  · have here := chars c (List.mem_of_mem_head? head)
    exact ⟨ne_of_isBlank here (by decide), ne_of_isBlank here (by decide)⟩
  · rw [Text.trimStart_of_all chars] at head
    cases head

theorem step_tag {margin : Text} (blank : ∀ c ∈ margin, Text.isBlank c = true) (text : Text) (scan : Scan) :
    scan.step (margin ++ '#' :: text) = (scan, []) := by
  have visible : Text.trimStart (margin ++ '#' :: text) = '#' :: text := Text.trimStart_margin blank _ (by decide)
  have isTag : isAttributeLine (margin ++ '#' :: text) = true := by
    rw [isAttributeLine, visible]
    rfl
  refine step_kept (fun c head => ?_) (fun c head => ?_) (by rw [isTag, Bool.or_true]) scan
  · cases margin with
    | nil =>
      cases head
      decide
    | cons d margin =>
      cases head
      have here := blank _ (List.mem_cons_self ..)
      exact ⟨ne_of_isBlank here (by decide), ne_of_isBlank here (by decide)⟩
  · rw [visible] at head
    cases head
    decide

theorem step_remark {r : Remark} (indented : r.IsIndented) (scan : Scan) :
    scan.step r.line = ({ scan with docs := scan.docs ++ r.docs }, []) := by
  cases r with
  | doc margin text => exact step_doc indented text scan
  | tag margin text =>
    have docs : scan.docs ++ (Remark.tag margin text).docs = scan.docs := List.append_nil _
    rw [docs]
    exact step_tag indented text scan

theorem ofLines_step {scan next : Scan} {line : Text} {found : List ConfigStruct}
    (step : scan.step line = (next, found)) (rest : List Text) :
    ofLines scan (line :: rest) = found ++ ofLines next rest := by
  rw [ofLines, step]

theorem ofLines_gap {gap : List Text} (blank : ∀ line ∈ gap, Text.isAllBlank line = true) (scan : Scan)
    (rest : List Text) : ofLines scan (gap ++ rest) = ofLines scan rest := by
  induction gap with
  | nil => rfl
  | cons line gap ih =>
    have later := ih fun other member => blank other (List.mem_cons_of_mem _ member)
    rw [List.cons_append, ofLines_step (step_blank (blank line (List.mem_cons_self ..)) scan), later, List.nil_append]

theorem ofLines_remarks {remarks : List Remark} (indented : ∀ r ∈ remarks, r.IsIndented) (scan : Scan)
    (rest : List Text) :
    ofLines scan (remarks.map (·.line) ++ rest) =
      ofLines { scan with docs := scan.docs ++ remarks.flatMap (·.docs) } rest := by
  induction remarks generalizing scan with
  | nil => rw [List.flatMap_nil, List.append_nil]; rfl
  | cons r remarks ih =>
    have later := ih fun other member => indented other (List.mem_cons_of_mem _ member)
    have step := step_remark (indented r (List.mem_cons_self ..)) scan
    rw [List.map_cons, List.cons_append, ofLines_step step, later, List.flatMap_cons, List.append_assoc,
      List.nil_append]

/-! ### Fields -/

theorem content_head {f : WrittenField} (isName : IsFieldName f.name) :
    ∃ c s, f.content = c :: s ∧ Text.isBlank c = false ∧ c ≠ '/' ∧ c ≠ '#' := by
  obtain ⟨some, filled, uncommented, untagged⟩ := isName
  rw [WrittenField.content]
  split
  · exact ⟨'p', _, rfl, by decide, by decide, by decide⟩
  · cases name : f.name with
    | nil => exact absurd name some
    | cons c s =>
      rw [name] at filled uncommented untagged
      refine ⟨c, _, rfl, filled c (List.mem_cons_self ..), ?_, ?_⟩
      · rintro rfl
        exact uncommented rfl
      · rintro rfl
        exact untagged rfl

section Field

variable {f : WrittenField} (wellFormed : f.WellFormed)

include wellFormed in
theorem trimStart_declaration : Text.trimStart f.declaration = f.content := by
  obtain ⟨c, s, content, filled, _⟩ := content_head wellFormed.name
  rw [WrittenField.declaration, content]
  exact Text.trimStart_margin wellFormed.margin.2 s filled

/-- No name is read as the keyword, since a colon follows it and no blank. -/
theorem afterBlanks?_of_name {name rest : Text} (isName : IsFieldName name) :
    (Text.after? "pub" (name ++ ':' :: rest)).bind Text.afterBlanks? = none := by
  refine Option.eq_none_iff_forall_ne_some.mpr fun next read => ?_
  obtain ⟨behind, keyword, blanks⟩ := Option.bind_eq_some_iff.mp read
  obtain ⟨gap, ⟨filled, blank⟩, rfl, _⟩ := Text.afterBlanks?_eq_some.mp blanks
  cases gap with
  | nil => exact filled rfl
  | cons c gap =>
    have isBlank := blank c (List.mem_cons_self ..)
    have split := Text.after?_eq_some.mp keyword
    rcases List.append_eq_append_iff.mp split with ⟨left, inside, tail⟩ | ⟨left, longer, tail⟩
    · cases left with
      | nil =>
        cases (List.cons.inj tail).1
        revert isBlank
        decide
      | cons d left =>
        have colon : ':' ∈ ("pub" : Text) := by
          rw [inside, (List.cons.inj tail).1]
          exact List.mem_append_right _ (List.mem_cons_self ..)
        simp at colon
    · cases left with
      | nil =>
        cases (List.cons.inj tail).1
        revert isBlank
        decide
      | cons d left =>
        have filled := isName.2.1 c (by rw [longer, (List.cons.inj tail).1]; simp)
        rw [isBlank] at filled
        cases filled

include wellFormed in
theorem isPublicField_declaration : isPublicField f.declaration = f.isPublic := by
  rw [isPublicField, trimStart_declaration wellFormed, WrittenField.content]
  cases f.isPublic with
  | false =>
    rw [if_neg Bool.false_ne_true, List.nil_append, afterBlanks?_of_name wellFormed.name]
    rfl
  | true =>
    have keyword : ("pub " : Text) = ("pub" : Text) ++ [' '] := by simp
    rw [if_pos rfl, keyword, List.append_assoc, Text.after?_append]
    rfl

include wellFormed in
theorem step_field (docs : List Text) (s : ConfigStruct) :
    Scan.step { docs, unfinished := some s } f.declaration =
      ({ docs := [], unfinished :=
          some (if f.isPublic then { s with fieldCount := s.fieldCount + 1 } else s) }, []) := by
  obtain ⟨c, rest, content, filled, uncommented, notTag⟩ := content_head wellFormed.name
  have visible := trimStart_declaration wellFormed
  have first : ∀ d ∈ f.declaration.head?, Text.isBlank d = true := by
    obtain ⟨some, blank⟩ := wellFormed.margin
    intro d head
    rw [WrittenField.declaration] at head
    cases margin : f.margin with
    | nil => exact absurd margin some
    | cons e margin' =>
      rw [margin] at head blank
      cases head
      exact blank _ (List.mem_cons_self ..)
  have undocumented : docComment? f.declaration = none := by
    refine docComment?_eq_none fun d head => ?_
    rw [visible, content] at head
    cases head
    exact uncommented
  have undeclared : declared? f.declaration = none :=
    declared?_eq_none fun d head => ne_of_isBlank (first d head) (by decide)
  have unclosed : Text.startsWith "\x7d" f.declaration = false :=
    closes_eq_false fun d head => ne_of_isBlank (first d head) (by decide)
  have unfilled : Text.isAllBlank f.declaration = false := by
    refine Bool.eq_false_iff.mpr fun blank => ?_
    have here : c ∈ f.declaration := List.mem_append_right _ (by rw [content]; exact List.mem_cons_self ..)
    rw [List.all_eq_true.mp blank c here] at filled
    cases filled
  have untagged : isAttributeLine f.declaration = false := by
    refine isAttributeLine_eq_false fun d head => ?_
    rw [visible, content] at head
    cases head
    exact notTag
  unfold Scan.step
  rw [undocumented, undeclared]
  dsimp only
  rw [unfilled, untagged, isPublicField_declaration wellFormed, unclosed]
  rfl

end Field

/-- The fields up to the brace behind them are counted, and no doc comment is left. -/
theorem ofLines_fields {fields : List WrittenField} (wellFormed : ∀ f ∈ fields, f.WellFormed) (docs : List Text)
    (s : ConfigStruct) (rest : List Text) :
    ofLines { docs, unfinished := some s } (fields.flatMap (·.lines) ++ ("\x7d" : Text) :: rest) =
      { s with fieldCount := s.fieldCount + fields.countP (·.isPublic) } ::
        ofLines { docs := [], unfinished := none } rest := by
  induction fields generalizing docs s with
  | nil => rfl
  | cons f fields ih =>
    have here := wellFormed f (List.mem_cons_self ..)
    have later := ih fun other member => wellFormed other (List.mem_cons_of_mem _ member)
    rw [List.flatMap_cons, WrittenField.lines, List.append_assoc, List.append_assoc, List.singleton_append,
      ofLines_remarks here.remarks, ofLines_step (step_field here _ s), List.nil_append, later, List.countP_cons]
    cases f.isPublic with
    | false => rfl
    | true => simp only [if_true, Nat.add_assoc, Nat.add_comm 1]

/-! ### Structures -/

theorem declared?_opening {name rest : Text} (word : Text.IsWord name)
    (stop : ∀ c ∈ rest.head?, Text.isWordChar c = false) :
    declared? (("pub struct " : Text) ++ (name ++ rest)) = some name := by
  have opening : ("pub struct " : Text) = (["pub", "struct"] : List Text).flatMap (· ++ [' ']) := by simp
  have keywords := @Text.afterKeywords?_append ["pub", "struct"] (by simp; decide) _ (word.isFilled rest)
  have named : Text.name? (name ++ rest) = some (name, rest) := Text.name?_eq_some.mpr ⟨word, rfl, stop⟩
  rw [declared?, opening, keywords]
  dsimp only [bind, Option.bind]
  rw [named]
  rfl

/-- What a declaration says in front of its fields. -/
def declaration (name : Text) (docs : List Text) : ConfigStruct where
  name := name
  sentence := firstSentence (Text.joinWith " " (docs.filter (!·.isEmpty))) sentenceLimit
  fieldCount := 0

theorem step_declaration {name : Text} (word : Text.IsWord name) (behind : Text) (last : Char)
    (stop : ∀ c ∈ (behind ++ [last]).head?, Text.isWordChar c = false) (filled : Text.isBlank last = false)
    (docs : List Text) :
    Scan.step { docs, unfinished := none } (("pub struct " : Text) ++ (name ++ (behind ++ [last]))) =
      if last = ';' then ({ docs := [], unfinished := none }, [declaration name docs])
      else ({ docs := [], unfinished := some (declaration name docs) }, []) := by
  have visible : Text.trimStart (("pub struct " : Text) ++ (name ++ (behind ++ [last]))) =
      ("pub struct " : Text) ++ (name ++ (behind ++ [last])) := Text.trimStart_cons _ (by decide)
  have undocumented : docComment? (("pub struct " : Text) ++ (name ++ (behind ++ [last]))) = none := by
    refine docComment?_eq_none fun c head => ?_
    rw [visible] at head
    cases head
    decide
  have trimmed : Text.trimEnd (("pub struct " : Text) ++ (name ++ (behind ++ [last]))) =
      (("pub struct " : Text) ++ (name ++ behind)) ++ [last] := by
    have whole := Text.trimEndWhile_concat (("pub struct " : Text) ++ (name ++ behind)) filled
    rwa [List.append_assoc, List.append_assoc] at whole ⊢
  have ends : Text.endsWith ";" (Text.trimEnd (("pub struct " : Text) ++ (name ++ (behind ++ [last])))) =
      decide (last = ';') := by
    rw [trimmed, Bool.eq_iff_iff, Text.endsWith_iff, decide_eq_true_iff]
    constructor
    · rintro ⟨_, same⟩
      exact (List.cons.inj (List.append_inj' same rfl).2).1.symm
    · rintro rfl
      exact List.suffix_append _ _
  unfold Scan.step
  rw [undocumented, declared?_opening word stop, ends]
  dsimp only
  simp only [decide_eq_true_iff]
  rfl

/-- Between structures nothing is kept: a written structure is read as it stands, whatever follows it. -/
theorem ofLines_lines {gap : List Text} {s : WrittenStruct} (blank : ∀ line ∈ gap, Text.isAllBlank line = true)
    (wellFormed : s.WellFormed) (rest : List Text) :
    ofLines { docs := [], unfinished := none } (gap ++ (s.lines ++ rest)) =
      s.toStruct :: ofLines { docs := [], unfinished := none } rest := by
  rw [ofLines_gap blank, WrittenStruct.lines, List.append_assoc, ofLines_remarks wellFormed.remarks, List.nil_append,
    WrittenStruct.body]
  have own := wellFormed.fields
  cases fields : s.fields with
  | none =>
    have step := step_declaration wellFormed.name [] ';'
      (fun c head => by cases head; decide +kernel) (by decide) (s.remarks.flatMap (·.docs))
    rw [if_pos rfl] at step
    have whole : declaration s.name (s.remarks.flatMap (·.docs)) = s.toStruct := by
      simp [declaration, WrittenStruct.toStruct, WrittenStruct.documentation, WrittenStruct.publicFields, fields]
    rw [← whole]
    exact ofLines_step step rest
  | some fields' =>
    have step := step_declaration wellFormed.name [' '] '\x7b'
      (fun c head => by cases head; decide +kernel) (by decide) (s.remarks.flatMap (·.docs))
    rw [if_neg (by decide)] at step
    rw [fields] at own
    have whole : { declaration s.name (s.remarks.flatMap (·.docs)) with
        fieldCount := 0 + fields'.countP (·.isPublic) } = s.toStruct := by
      simp [declaration, WrittenStruct.toStruct, WrittenStruct.documentation, WrittenStruct.publicFields, fields]
    have opening : (" \x7b" : Text) = [' '] ++ ['\x7b'] := by simp
    have counted := ofLines_fields own [] (declaration s.name (s.remarks.flatMap (·.docs))) rest
    rw [← opening] at step
    rw [List.cons_append, List.append_assoc, List.singleton_append, ← whole]
    exact (ofLines_step step _).trans counted

/-- The lines of a text: those in front of each structure and its own, and the rest. -/
def writtenLines (structs : List (List Text × WrittenStruct)) (rest : List Text) : List Text :=
  structs.flatMap (fun (gap, s) => gap ++ s.lines) ++ rest

/-- A text of written structures with blank lines around them is read as exactly these structures, in their order,
each with the first sentence of its own documentation and the number of its public fields. -/
theorem extract_written_structs (text : Text) (structs : List (List Text × WrittenStruct)) (rest : List Text)
    (written : Text.lines text = writtenLines structs rest) (wellFormed : ∀ item ∈ structs, item.2.WellFormed)
    (gaps : ∀ item ∈ structs, ∀ line ∈ item.1, Text.isAllBlank line = true)
    (after : ∀ line ∈ rest, Text.isAllBlank line = true) :
    extract text = structs.map (·.2.toStruct) := by
  rw [extract, written]
  clear written
  induction structs with
  | nil =>
    have passed := ofLines_gap after { docs := [], unfinished := none } []
    rwa [List.append_nil] at passed
  | cons item structs ih =>
    have later := ih (fun other member => wellFormed other (List.mem_cons_of_mem _ member))
      (fun other member => gaps other (List.mem_cons_of_mem _ member))
    have here : item ∈ item :: structs := List.mem_cons_self ..
    rw [writtenLines, List.flatMap_cons, List.append_assoc, List.append_assoc,
      ofLines_lines (gaps item here) (wellFormed item here), List.map_cons]
    exact congrArg _ later

def poolOptions : WrittenStruct where
  remarks := [.doc [] " Sizes of the pool. Read once.", .doc [] "", .tag [] "[derive(Debug)]"]
  name := "PoolOptions"
  fields := some [⟨[.doc "    " " Connections.", .tag "    " "[serde(default)]"], "    ", true, "size", "u32"⟩,
    ⟨[], "    ", false, "public_key", "Option<String>"⟩]

def unitOptions : WrittenStruct where
  remarks := []
  name := "UnitOptions"
  fields := none

def retryOptions : WrittenStruct where
  remarks := [.doc [] "Retries"]
  name := "RetryOptions"
  fields := some []

/-- Three structures with every kind of line. -/
def threeStructs : List Text := writtenLines [([], poolOptions), ([[]], unitOptions), ([[], "  "], retryOptions)] [[]]

theorem extract_written_three :
    extract (threeStructs.flatMap (· ++ ['\n'])) = [⟨"PoolOptions", "Sizes of the pool.", 1⟩, ⟨"UnitOptions", "", 0⟩,
      ⟨"RetryOptions", "Retries", 0⟩] := by
  have pool : poolOptions.WellFormed :=
    { remarks := by decide +kernel, name := by decide +kernel, fields := by decide +kernel }
  have unit : unitOptions.WellFormed :=
    { remarks := by decide +kernel, name := by decide +kernel, fields := by decide +kernel }
  have retry : retryOptions.WellFormed :=
    { remarks := by decide +kernel, name := by decide +kernel, fields := by decide +kernel }
  have read := extract_written_structs _ _ _ (@Text.lines_terminated threeStructs (by decide +kernel))
    (List.forall_mem_cons.mpr ⟨pool, List.forall_mem_cons.mpr ⟨unit, List.forall_mem_singleton.mpr retry⟩⟩)
    (by decide +kernel) (by decide +kernel)
  rw [read]
  decide +kernel

end ConfigStruct
end ReferencePages
