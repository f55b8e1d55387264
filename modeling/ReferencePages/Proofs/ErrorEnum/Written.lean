import ReferencePages.Proofs.ErrorEnum.Layout
/-!
A text of written enumerations is read as these enumerations. In front of a declaration the scan gathers
documentation; from the declaration on a brace is open, the lines of the variants leave the depth as it is,
and the closing brace takes the scan back to where it was before.
-/

namespace ReferencePages

namespace ErrorEnum

/-! ### Lines outside of enumerations -/

theorem docComment?_eq_none {line : Text} (other : ∀ c ∈ line.head?, c ≠ '/') : docComment? line = none := by
  rw [docComment?, Text.after?_of_head (by simp) other]
  rfl

theorem declared?_eq_none {line : Text} (other : ∀ c ∈ line.head?, c ≠ 'p') : declared? line = none := by
  rw [declared?, Text.after?_of_head (by simp) other]
  rfl

/-- Blank lines and attribute lines leave the doc comments waiting. -/
theorem step_kept {line : Text} (first : ∀ c ∈ line.head?, c ≠ '/' ∧ c ≠ 'p')
    (kept : (Text.isAllBlank line || isAttribute line) = true) (docs : List Text) :
    Scan.step (.outside docs) line = (.outside docs, none) := by
  have undocumented := docComment?_eq_none fun c head => (first c head).1
  have undeclared := declared?_eq_none fun c head => (first c head).2
  rw [Scan.step, undocumented, undeclared]
  dsimp only
  rw [if_pos kept]

theorem step_blank {line : Text} (blank : Text.isAllBlank line = true) (docs : List Text) :
    Scan.step (.outside docs) line = (.outside docs, none) := by
  refine step_kept (fun c first => ?_) (by rw [blank, Bool.true_or]) docs
  have isBlank := List.all_eq_true.mp blank c (List.mem_of_mem_head? first)
  constructor <;> rintro rfl <;> revert isBlank <;> decide

theorem step_tag (text : Text) (docs : List Text) :
    Scan.step (.outside docs) (("#" : Text) ++ text) = (.outside docs, none) := by
  refine step_kept (fun c first => ?_) ?_ docs
  · cases first
    decide
  · rw [Bool.or_eq_true]
    exact .inr rfl

theorem step_attributeLine (message : Text) (docs : List Text) :
    Scan.step (.outside docs) (WrittenVariant.attributeLine message) = (.outside docs, none) := by
  refine step_kept (fun c first => ?_) ?_ docs
  · cases first
    decide
  · rw [Bool.or_eq_true]
    exact .inr rfl

theorem step_doc (text : Text) (docs : List Text) :
    Scan.step (.outside docs) (("///" : Text) ++ text) = (.outside (docs ++ [Text.trim text]), none) := by
  rw [Scan.step, docComment?, Text.after?_append]
  rfl

theorem declared?_of_blank {line : Text} (blank : Text.isAllBlank line = true) : declared? line = none := by
  refine declared?_eq_none fun c first => ?_
  have isBlank := List.all_eq_true.mp blank c (List.mem_of_mem_head? first)
  rintro rfl
  revert isBlank
  decide

theorem ofLines_step {docs docs' : List Text} {line : Text}
    (step : Scan.step (.outside docs) line = (.outside docs', none)) (rest : List Text) :
    ofLines (.outside docs) (line :: rest) = ofLines (.outside docs') rest := by
  rw [ofLines, step]
  rfl

theorem ofLines_gap {gap : List Text} (blank : ∀ line ∈ gap, Text.isAllBlank line = true) (docs rest : List Text) :
    ofLines (.outside docs) (gap ++ rest) = ofLines (.outside docs) rest := by
  induction gap with
  | nil => rfl
  | cons line gap ih =>
    have later := ih fun other member => blank other (List.mem_cons_of_mem _ member)
    rw [List.cons_append, ofLines_step (step_blank (blank line (List.mem_cons_self ..)) docs), later]

theorem ofLines_of_blank {ls : List Text} (blank : ∀ line ∈ ls, Text.isAllBlank line = true) (docs : List Text) :
    ofLines (.outside docs) ls = [] := by
  have passed := ofLines_gap blank docs []
  rwa [List.append_nil] at passed

theorem ofLines_docs (docs texts rest : List Text) :
    ofLines (.outside docs) (texts.map (("///" : Text) ++ ·) ++ rest) =
      ofLines (.outside (docs ++ texts.map Text.trim)) rest := by
  induction texts generalizing docs with
  | nil => rw [List.map_nil, List.map_nil, List.append_nil, List.nil_append]
  | cons text texts ih =>
    rw [List.map_cons, List.cons_append, ofLines_step (step_doc text docs), ih, List.map_cons,
      List.append_assoc, List.singleton_append]

variable {e : WrittenEnum}

theorem ofLines_heading (e : WrittenEnum) (rest : List Text) :
    ofLines (.outside []) (e.heading ++ rest) = ofLines (.outside (e.docs.map Text.trim)) rest := by
  rw [WrittenEnum.heading, List.append_assoc, ofLines_docs, List.nil_append]
  cases e.tag with
  | none => rfl
  | some text => exact ofLines_step (step_tag text _) rest

theorem declared?_opening {name rest : Text} (word : Text.IsWord name)
    (stop : ∀ c ∈ rest.head?, Text.isWordChar c = false) :
    declared? (("pub enum " : Text) ++ (name ++ rest)) = some name := by
  have split : ("pub enum " : Text) ++ (name ++ rest) =
      ("pub" : Text) ++ ' ' :: (("enum" : Text) ++ ' ' :: (name ++ rest)) := by
    have opening : ("pub enum " : Text) = ("pub" : Text) ++ ' ' :: (("enum" : Text) ++ [' ']) := by simp
    have whole := congrArg (· ++ (name ++ rest)) opening
    simpa only [List.append_assoc, List.cons_append, List.nil_append] using whole
  have gap : Text.IsGap [' '] := ⟨List.cons_ne_nil _ _, by decide⟩
  have visible : Text.afterBlanks? ((afterScope? (' ' :: (("enum" : Text) ++ ' ' :: (name ++ rest)))).getD
      (' ' :: (("enum" : Text) ++ ' ' :: (name ++ rest)))) = some (("enum" : Text) ++ ' ' :: (name ++ rest)) := by
    refine afterScope?_getD.mpr ⟨[], [' '], .inl rfl, gap, rfl, fun c first => ?_⟩
    cases first
    decide
  have keyword : Text.afterKeywords? ["enum"] (("enum" : Text) ++ ' ' :: (name ++ rest)) = some (name ++ rest) := by
    refine (Text.afterKeywords?_eq_some _ _ _).mpr ⟨[' '], name ++ rest, gap, word.isFilled rest, ?_, rfl⟩
    rw [List.append_assoc, List.singleton_append]
  have named : Text.name? (name ++ rest) = some (name, rest) := Text.name?_eq_some.mpr ⟨word, rfl, stop⟩
  rw [declared?, split, Text.after?_append]
  dsimp only [bind, Option.bind]
  rw [visible]
  dsimp only
  rw [keyword]
  dsimp only
  rw [named]
  rfl

theorem declared?_declaration (word : Text.IsWord e.name) : declared? e.declaration = some e.name := by
  refine declared?_opening word fun c first => ?_
  cases first
  decide +kernel

theorem braceBalance_declaration (word : Text.IsWord e.name) : braceBalance e.declaration = 1 := by
  have name : braceBalance e.name = 0 :=
    braceBalance_of_not_mem (word.not_mem (by decide +kernel)) (word.not_mem (by decide +kernel))
  have opening : braceBalance ("pub enum " : Text) = 0 := braceBalance_of_not_mem (by simp) (by simp)
  have closing : braceBalance (" \x7b" : Text) = 1 := by simp [braceBalance]
  unfold WrittenEnum.declaration
  rw [braceBalance_append, braceBalance_append, opening, name, closing]
  rfl

/-- What is read of an enumeration with these lines below its declaration. -/
theorem closedAfter_start (e : WrittenEnum) {below : List Text} (single : ∀ line ∈ below, Text.IsLine line) :
    (Unfinished.start e.name (e.docs.map Text.trim) e.declaration).closedAfter below =
      e.entity below (Variant.ofLines none below) := by
  have variants : Variant.extract (Text.unlines below) = Variant.ofLines none below :=
    Variant.extract_unlines single
  simp [Unfinished.closedAfter, Unfinished.finish, Unfinished.start, variants, WrittenEnum.entity,
    WrittenEnum.summary]

/-- An enumeration is read with the lines that its depth takes, and the scan goes on behind them. -/
theorem ofLines_written {gap below : List Text} (blank : ∀ line ∈ gap, Text.isAllBlank line = true)
    (word : Text.IsWord e.name) (single : ∀ line ∈ below, Text.IsLine line) :
    ofLines (.outside []) (gap ++ (e.heading ++ e.declaration :: below)) =
      e.entity (below.take (bodyLength 1 below)) (Variant.ofLines none (below.take (bodyLength 1 below))) ::
        ofLines (.outside []) (below.drop (bodyLength 1 below)) := by
  have length : bodyLength 0 (e.declaration :: below) = bodyLength 1 below + 1 := by
    rw [bodyLength, braceBalance_declaration word, if_neg (by decide), Int.zero_add]
  have opened : '{' ∈ e.declaration := List.mem_append_right _ (List.mem_append_right _ (by simp))
  have within : ∀ line ∈ below.take (bodyLength 1 below), Text.IsLine line := fun line member =>
    single line (List.mem_of_mem_take member)
  rw [ofLines_gap blank, ofLines_heading, ofLines_declaring (declared?_declaration word) opened length,
    closedAfter_start e within]

theorem declared?_heading {e : WrittenEnum} {line : Text} (member : line ∈ e.heading) : declared? line = none := by
  refine declared?_eq_none fun c first => ?_
  rcases List.mem_append.mp member with doc | tag
  · obtain ⟨text, _, rfl⟩ := List.mem_map.mp doc
    cases first
    decide
  · obtain ⟨text, _, rfl⟩ := List.mem_map.mp tag
    cases first
    decide

theorem declared?_variantLine {v : WrittenVariant} {line : Text} (member : line ∈ v.lines) :
    declared? line = none := by
  refine declared?_eq_none fun c first => ?_
  rcases List.mem_cons.mp member with rfl | later
  · cases first
    decide
  · obtain rfl := List.mem_singleton.mp later
    cases first
    decide

/-- Of the lines of an enumeration the one that declares it opens a brace, and no other declares one. -/
theorem opens_of_declared {e : WrittenEnum} {line : Text}
    (member : line ∈ e.heading ++ e.declaration :: e.variants.flatMap (·.lines))
    (declared : (declared? line).isSome = true) : '{' ∈ line := by
  rcases List.mem_append.mp member with above | later
  · rw [declared?_heading above] at declared
    cases declared
  · rcases List.mem_cons.mp later with rfl | below
    · exact List.mem_append_right _ (List.mem_append_right _ (by simp))
    · obtain ⟨v, _, inside⟩ := List.mem_flatMap.mp below
      rw [declared?_variantLine inside] at declared
      cases declared

theorem braceBalance_attributeLine (message : Text) :
    braceBalance (WrittenVariant.attributeLine message) = braceBalance message := by
  have margin : braceBalance ("    " : Text) = 0 := braceBalance_of_not_mem (by simp) (by simp)
  have opening : braceBalance ("#[error(\"" : Text) = 0 := braceBalance_of_not_mem (by simp) (by simp)
  have closing : braceBalance ('"' :: (")]" : Text)) = 0 := braceBalance_of_not_mem (by simp) (by simp)
  unfold WrittenVariant.attributeLine
  rw [braceBalance_append, braceBalance_append, braceBalance_append, margin, opening, closing]
  omega

theorem braceBalance_variantDeclaration {v : WrittenVariant} (word : Text.IsWord v.name) :
    braceBalance v.declaration = braceBalance v.payload := by
  have margin : braceBalance ("    " : Text) = 0 := braceBalance_of_not_mem (by simp) (by simp)
  have name : braceBalance v.name = 0 :=
    braceBalance_of_not_mem (word.not_mem (by decide +kernel)) (word.not_mem (by decide +kernel))
  have closing : braceBalance [','] = 0 := rfl
  unfold WrittenVariant.declaration
  rw [braceBalance_append, braceBalance_append, braceBalance_append, margin, name, closing]
  omega

/-- The lines of variants are level if their messages and payloads are. -/
theorem isLevel_variants {vs : List WrittenVariant} (words : ∀ v ∈ vs, Text.IsWord v.name)
    (balanced : ∀ v ∈ vs, v.IsBalanced) : IsLevel (vs.flatMap (·.lines)) := by
  intro line member
  obtain ⟨v, inside, member⟩ := List.mem_flatMap.mp member
  rcases List.mem_cons.mp member with rfl | later
  · rw [braceBalance_attributeLine]
    exact (balanced v inside).1
  · obtain rfl := List.mem_singleton.mp later
    rw [braceBalance_variantDeclaration (words v inside)]
    exact (balanced v inside).2

theorem isLevel_of_blank {ls : List Text} (blank : ∀ line ∈ ls, Text.isAllBlank line = true) : IsLevel ls := by
  intro line member
  have chars := List.all_eq_true.mp (blank line member)
  exact braceBalance_of_not_mem (fun opening => absurd (chars _ opening) (by decide))
    fun closing => absurd (chars _ closing) (by decide)

theorem bodyLength_body {e : WrittenEnum} (level : IsLevel (e.variants.flatMap (·.lines))) (rest : List Text) :
    bodyLength 1 (e.body ++ rest) = e.body.length := by
  have brace : braceBalance ("\x7d" : Text) = -1 := by simp [braceBalance]
  have closes : bodyLength 1 (("\x7d" : Text) :: rest) = 1 := bodyLength_of_closing (by rw [brace]; decide) rest
  rw [WrittenEnum.body, List.append_assoc, List.singleton_append, bodyLength_append (level.staysOpen (by decide)),
    level.flatten, Int.add_zero, closes, List.length_append, List.length_singleton]

/-- A written enumeration is read as it stands, whatever follows it. -/
theorem ofLines_lines {gap rest : List Text} {e : WrittenEnum} (blank : ∀ line ∈ gap, Text.isAllBlank line = true)
    (wellFormed : e.WellFormed) (balanced : ∀ v ∈ e.variants, v.IsBalanced)
    (single : ∀ line ∈ e.body ++ rest, Text.IsLine line) :
    ofLines (.outside []) (gap ++ (e.lines ++ rest)) = e.toEnum :: ofLines (.outside []) rest := by
  have level := isLevel_variants (fun v member => (wellFormed.variants v member).name) balanced
  have split : e.lines ++ rest = e.heading ++ e.declaration :: (e.body ++ rest) := by
    rw [WrittenEnum.lines, List.append_assoc, List.cons_append]
  rw [split, ofLines_written blank wellFormed.name single, bodyLength_body level, List.take_left, List.drop_left,
    Variant.ofLines_body wellFormed]
  rfl

/-- The lines of a text: those in front of each enumeration and its own, and the rest. -/
def writtenLines (enums : List (List Text × WrittenEnum)) (rest : List Text) : List Text :=
  enums.flatMap (fun (gap, e) => gap ++ e.lines) ++ rest

/-- Written enumerations close all that they open. -/
theorem staysOpen_writtenLines {depth : Int} (opened : 0 < depth) {enums : List (List Text × WrittenEnum)}
    (wellFormed : ∀ item ∈ enums, item.2.WellFormed) (balanced : ∀ item ∈ enums, ∀ v ∈ item.2.variants, v.IsBalanced)
    (gaps : ∀ item ∈ enums, ∀ line ∈ item.1, Text.isAllBlank line = true)
    (headings : ∀ item ∈ enums, IsLevel item.2.heading) {rest : List Text} (level : IsLevel rest) :
    StaysOpen depth (writtenLines enums rest) := by
  induction enums with
  | nil => exact level.staysOpen opened
  | cons item enums ih =>
    obtain ⟨gap, e⟩ := item
    have here : (gap, e) ∈ (gap, e) :: enums := List.mem_cons_self ..
    have later := ih (fun other member => wellFormed other (List.mem_cons_of_mem _ member))
      (fun other member => balanced other (List.mem_cons_of_mem _ member))
      (fun other member => gaps other (List.mem_cons_of_mem _ member))
      (fun other member => headings other (List.mem_cons_of_mem _ member))
    have variants := isLevel_variants (fun v member => ((wellFormed _ here).variants v member).name) (balanced _ here)
    have inner := variants.append (staysOpen_closing later)
    have own : StaysOpen depth (e.declaration :: (e.variants.flatMap (·.lines) ++
        ("\x7d" : Text) :: writtenLines enums rest)) := by
      refine ⟨opened, ?_⟩
      rwa [braceBalance_declaration (wellFormed _ here).name]
    have whole := (isLevel_of_blank (gaps _ here)).append ((headings _ here).append own)
    have split : writtenLines ((gap, e) :: enums) rest = gap ++ (e.heading ++ e.declaration ::
        (e.variants.flatMap (·.lines) ++ ("\x7d" : Text) :: writtenLines enums rest)) := by
      unfold writtenLines
      rw [List.flatMap_cons]
      simp only [WrittenEnum.lines, WrittenEnum.body, List.append_assoc, List.cons_append, List.nil_append]
    rwa [split]

theorem ofLines_writtenLines {enums : List (List Text × WrittenEnum)} {rest : List Text}
    (blank : ∀ item ∈ enums, ∀ line ∈ item.1, Text.isAllBlank line = true)
    (wellFormed : ∀ item ∈ enums, item.2.WellFormed) (balanced : ∀ item ∈ enums, ∀ v ∈ item.2.variants, v.IsBalanced)
    (single : ∀ line ∈ writtenLines enums rest, Text.IsLine line) :
    ofLines (.outside []) (writtenLines enums rest) = enums.map (·.2.toEnum) ++ ofLines (.outside []) rest := by
  induction enums with
  | nil => rfl
  | cons item enums ih =>
    obtain ⟨gap, e⟩ := item
    have split : writtenLines ((gap, e) :: enums) rest = gap ++ (e.lines ++ writtenLines enums rest) := by
      rw [writtenLines, List.flatMap_cons, List.append_assoc, List.append_assoc]
      rfl
    rw [split] at single ⊢
    have inside : ∀ line ∈ e.body ++ writtenLines enums rest, Text.IsLine line := by
      intro line member
      refine single line (List.mem_append_right _ ?_)
      rw [WrittenEnum.lines, List.append_assoc]
      exact List.mem_append_right _ (List.mem_cons_of_mem _ member)
    have later := ih (fun other member => blank other (List.mem_cons_of_mem _ member))
      (fun other member => wellFormed other (List.mem_cons_of_mem _ member))
      (fun other member => balanced other (List.mem_cons_of_mem _ member))
      (fun line member => inside line (List.mem_append_right _ member))
    have here : (gap, e) ∈ (gap, e) :: enums := List.mem_cons_self ..
    rw [ofLines_lines (blank _ here) (wellFormed _ here) (balanced _ here) inside, later, List.map_cons,
      List.cons_append]

theorem beforeBoundary_of_free {boundary : Text} {ls : List Text}
    (free : boundary ≠ [] → ∀ line ∈ ls, ¬ boundary <+: line) : beforeBoundary boundary ls = ls := by
  rw [beforeBoundary]
  split
  · rfl
  · rename_i some
    have there : boundary ≠ [] := fun none => some (List.isEmpty_iff.mpr none)
    refine List.takeWhile_eq_self_iff.mpr fun line member => ?_
    rw [Bool.not_eq_true', Bool.eq_false_iff, ne_eq, Text.startsWith_iff]
    exact free there line member

/-- A text of written enumerations with blank lines around them is read as exactly these enumerations, in
their order, each with its name, its documentation and its variants with their messages. -/
theorem extract_written_enums (boundary text : Text) (enums : List (List Text × WrittenEnum)) (rest : List Text)
    (written : Text.lines text = writtenLines enums rest) (wellFormed : ∀ item ∈ enums, item.2.WellFormed)
    (balanced : ∀ item ∈ enums, ∀ v ∈ item.2.variants, v.IsBalanced)
    (gaps : ∀ item ∈ enums, ∀ line ∈ item.1, Text.isAllBlank line = true)
    (after : ∀ line ∈ rest, Text.isAllBlank line = true)
    (free : boundary ≠ [] → ∀ line ∈ writtenLines enums rest, ¬ boundary <+: line) :
    extract boundary text = enums.map (·.2.toEnum) := by
  have single : ∀ line ∈ writtenLines enums rest, Text.IsLine line := fun line member =>
    Text.isLine_of_mem_lines (written ▸ member)
  rw [extract, written, beforeBoundary_of_free free, ofLines_writtenLines gaps wellFormed balanced single,
    ofLines_of_blank after, List.append_nil]

def storeErrors : WrittenEnum where
  docs := [" Failures of the store.", "", "   Each names its key.  "]
  tag := some "[derive(Debug)]"
  name := "StoreError"
  variants := [⟨"no key \x7bkey\x7d", "Missing", " \x7b key: Key \x7d"⟩, ⟨"closed", "Closed", []⟩]

def codecErrors : WrittenEnum where
  docs := []
  tag := none
  name := "CodecError"
  variants := [⟨"bad byte \x7b0\x7d", "Byte", "(u8)"⟩]

/-- Two enumerations with every kind of line. -/
def twoEnums : List Text := writtenLines [([], storeErrors), ([[], "  "], codecErrors)] [[]]

theorem extract_written_two :
    (extract "#[cfg(test)]" (twoEnums.flatMap (· ++ ['\n']))).map (fun e => (e.name, e.docSummary, e.variants)) =
      ([("StoreError", "Failures of the store. Each names its key.",
          [⟨"Missing", "no key \x7bkey\x7d"⟩, ⟨"Closed", "closed"⟩]),
        ("CodecError", [], [⟨"Byte", "bad byte \x7b0\x7d"⟩])] : List (Text × Text × List Variant)) := by
  have store : storeErrors.WellFormed := { name := by decide +kernel, variants := by decide +kernel }
  have codec : codecErrors.WellFormed := { name := by decide +kernel, variants := by decide +kernel }
  have read := extract_written_enums "#[cfg(test)]" _ _ _ (@Text.lines_terminated twoEnums (by decide +kernel))
    (List.forall_mem_cons.mpr ⟨store, List.forall_mem_singleton.mpr codec⟩) (by decide +kernel) (by decide +kernel)
    (by decide +kernel) (by decide +kernel)
  rw [read]
  decide +kernel

end ErrorEnum
end ReferencePages
