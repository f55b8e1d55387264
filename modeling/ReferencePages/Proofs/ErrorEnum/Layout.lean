import ReferencePages.Proofs.ErrorEnum.Depth
import ReferencePages.Proofs.Text.Infix
import ReferencePages.Proofs.Text.Lines
/-!
Enumerations as they are written: doc comments, an attribute, the line that opens the enumeration, two lines
for each variant, and the brace that closes it. What the scan makes of each of these lines is said here; where
an enumeration ends hangs on the braces in its lines.
-/

namespace ReferencePages

/-- A variant as it is written. The payload is what stands behind the name, which may be nothing. -/
structure WrittenVariant where
  message : Text
  name : Text
  payload : Text

/-- Whether a text can be the message of an attribute. -/
def IsMessage (message : Text) : Prop := message ≠ [] ∧ '"' ∉ message

instance : DecidablePred IsMessage := fun message =>
  inferInstanceAs (Decidable (message ≠ [] ∧ '"' ∉ message))

namespace WrittenVariant

def attributeLine (message : Text) : Text :=
  "    " ++ ("#[error(\"" ++ (message ++ '"' :: (")]" : Text)))

def declaration (v : WrittenVariant) : Text := "    " ++ (v.name ++ (v.payload ++ [',']))

def lines (v : WrittenVariant) : List Text := [attributeLine v.message, v.declaration]

/-- What the two lines say. -/
def variant (v : WrittenVariant) : Variant := { name := v.name, message := v.message }

/-- The message can stand between quotation marks, the name begins with a capital letter, and the payload
neither goes on with the name nor announces a message. -/
structure WellFormed (v : WrittenVariant) : Prop where
  message : IsMessage v.message
  name : Text.IsWord v.name
  capital : ∀ c ∈ v.name.head?, c.isUpper = true
  other : v.name ≠ ("Self" : Text)
  payload : ∀ c ∈ v.payload.head?, Text.isWordChar c = false
  silent : ¬ ("#[error(" : Text) <:+: v.payload

instance : DecidablePred WellFormed := fun v =>
  -- Without these two, all characters may be tried.
  have : Decidable (∀ c ∈ v.name.head?, c.isUpper = true) := Option.decidableForallMem _
  have : Decidable (∀ c ∈ v.payload.head?, Text.isWordChar c = false) := Option.decidableForallMem _
  decidable_of_iff
    (IsMessage v.message ∧ Text.IsWord v.name ∧ (∀ c ∈ v.name.head?, c.isUpper = true) ∧ v.name ≠ ("Self" : Text) ∧
      (∀ c ∈ v.payload.head?, Text.isWordChar c = false) ∧ ¬ ("#[error(" : Text) <:+: v.payload)
    ⟨fun ⟨message, name, capital, other, payload, silent⟩ => ⟨message, name, capital, other, payload, silent⟩,
      fun ⟨message, name, capital, other, payload, silent⟩ => ⟨message, name, capital, other, payload, silent⟩⟩

/-- The message and the payload open as many braces as they close. -/
def IsBalanced (v : WrittenVariant) : Prop :=
  ErrorEnum.braceBalance v.message = 0 ∧ ErrorEnum.braceBalance v.payload = 0

instance : DecidablePred IsBalanced := fun v =>
  inferInstanceAs (Decidable (ErrorEnum.braceBalance v.message = 0 ∧ ErrorEnum.braceBalance v.payload = 0))

end WrittenVariant

/-- An enumeration as it is written. Of a doc comment only what follows its three slashes is given, and of the
attribute what follows its sign. -/
structure WrittenEnum where
  docs : List Text
  tag : Option Text
  name : Text
  variants : List WrittenVariant

namespace WrittenEnum

/-- The lines above the declaration. -/
def heading (e : WrittenEnum) : List Text :=
  e.docs.map (("///" : Text) ++ ·) ++ e.tag.toList.map (("#" : Text) ++ ·)

def declaration (e : WrittenEnum) : Text := "pub enum " ++ (e.name ++ (" \x7b" : Text))

/-- The lines below the declaration. -/
def body (e : WrittenEnum) : List Text := e.variants.flatMap (·.lines) ++ [("\x7d" : Text)]

def lines (e : WrittenEnum) : List Text := e.heading ++ e.declaration :: e.body

/-- The doc comments that say something, joined by spaces. -/
def summary (e : WrittenEnum) : Text := Text.joinWith " " ((e.docs.map Text.trim).filter (!·.isEmpty))

/-- The enumeration with these lines below its declaration. -/
def entity (e : WrittenEnum) (below : List Text) (variants : List Variant) : ErrorEnum :=
  { name := e.name, docSummary := e.summary, body := Text.unlines (e.declaration :: below), variants }

/-- The enumeration that is written. -/
def toEnum (e : WrittenEnum) : ErrorEnum := e.entity e.body (e.variants.map (·.variant))

structure WellFormed (e : WrittenEnum) : Prop where
  name : Text.IsWord e.name
  variants : ∀ v ∈ e.variants, v.WellFormed

end WrittenEnum

/-! ### Variants -/

namespace Variant

theorem readMessage_append {message : Text} (isMessage : IsMessage message) (rest : Text) :
    readMessage ("#[error(\"" ++ (message ++ '"' :: rest)) = some message := by
  obtain ⟨filled, absent⟩ := isMessage
  have spanned : (message ++ '"' :: rest).span (· != '"') = (message, '"' :: rest) :=
    Text.span_ne_eq_cons.mpr ⟨absent, rfl, rfl⟩
  rw [readMessage, Text.after?_append]
  dsimp only [bind, Option.bind]
  rw [spanned]
  cases message with
  | nil => exact absurd rfl filled
  | cons c message => rfl

theorem announced?_attributeLine {message : Text} (isMessage : IsMessage message) :
    announced? (WrittenVariant.attributeLine message) = some message := by
  have marked : Text.contains "#[error(" (WrittenVariant.attributeLine message) = true := by
    have start : ("#[error(" : Text) <+: ("#[error(\"" : Text) := by simp
    rw [Text.contains_iff]
    exact (start.trans (List.prefix_append _ _)).isInfix.trans (List.suffix_append _ _).isInfix
  have found : Text.findRead? readMessage (WrittenVariant.attributeLine message) = some message := by
    have begins (s : Text) (other : ∀ c ∈ s.head?, c ≠ '#') : readMessage s = none := by
      rw [readMessage, Text.after?_of_head rfl other]
      rfl
    exact Text.findRead?_behind begins (by decide) (readMessage_append isMessage _)
  rw [announced?, if_pos marked, found, Option.getD_some]

variable {v : WrittenVariant} (wellFormed : v.WellFormed)

include wellFormed in
theorem announced?_declaration : announced? v.declaration = none := by
  have name : '#' ∉ v.name := wellFormed.name.not_mem (by decide +kernel)
  have absent : ¬ ("#[error(" : Text) <:+: v.declaration := by
    rw [WrittenVariant.declaration, Text.infix_append_of_head (by simp),
      Text.infix_append_of_head (by simpa using name), Text.infix_append_of_last (by simp)]
    exact wellFormed.silent
  rw [announced?, if_neg (by rw [Text.contains_iff]; exact absent)]

include wellFormed in
theorem not_excluded : excludedWords.contains v.name = false := by
  rw [Bool.eq_false_iff, ne_eq, List.contains_iff_mem]
  intro member
  have capital := wellFormed.capital
  simp only [excludedWords, List.mem_cons, List.not_mem_nil, or_false] at member
  rcases member with same | same | same | same | same | same | same | same
  all_goals first | exact wellFormed.other same | simp [same] at capital

include wellFormed in
theorem declared?_declaration : declared? v.declaration = some v.name := by
  have gap : Text.IsGap "    " := ⟨by simp, by simp; decide⟩
  have behind := Text.afterBlanks?_eq_some.mpr ⟨_, gap, rfl, wellFormed.name.isFilled (v.payload ++ [','])⟩
  have stop : ∀ c ∈ (v.payload ++ [',']).head?, Text.isWordChar c = false := by
    cases payload : v.payload with
    | nil =>
      intro c first
      cases first
      decide +kernel
    | cons d s =>
      rw [← payload]
      intro c first
      refine wellFormed.payload c ?_
      rwa [payload] at first ⊢
  have named := Text.name?_eq_some.mpr ⟨wellFormed.name, rfl, stop⟩
  rw [declared?, WrittenVariant.declaration, behind]
  dsimp only [bind, Option.bind]
  rw [named]
  dsimp only
  have capital := wellFormed.capital
  have allowed := not_excluded wellFormed
  cases word : v.name with
  | nil => exact absurd word wellFormed.name.ne_nil
  | cons c s =>
    rw [word] at capital allowed
    dsimp only
    rw [capital c rfl, allowed]
    rfl

include wellFormed in
theorem ofLines_variant (pending : Option Text) (rest : List Text) :
    ofLines pending (v.lines ++ rest) = v.variant :: ofLines none rest := by
  have message := announced?_attributeLine wellFormed.message
  have unannounced := announced?_declaration wellFormed
  have name := declared?_declaration wellFormed
  simp only [WrittenVariant.lines, List.cons_append, List.nil_append, ofLines, message, unannounced, name]
  rfl

theorem ofLines_variants {vs : List WrittenVariant} (wellFormed : ∀ v ∈ vs, v.WellFormed) (rest : List Text) :
    ofLines none (vs.flatMap (·.lines) ++ rest) = vs.map (·.variant) ++ ofLines none rest := by
  induction vs with
  | nil => rfl
  | cons v vs ih =>
    have later := ih fun other member => wellFormed other (List.mem_cons_of_mem _ member)
    rw [List.flatMap_cons, List.append_assoc, ofLines_variant (wellFormed v (List.mem_cons_self ..)), later,
      List.map_cons, List.cons_append]

theorem ofLines_body {e : WrittenEnum} (wellFormed : e.WellFormed) :
    ofLines none e.body = e.variants.map (·.variant) := by
  have silent : ofLines none [("\x7d" : Text)] = [] := rfl
  rw [WrittenEnum.body, ofLines_variants wellFormed.variants, silent, List.append_nil]

/-- A line that neither announces a message nor declares a variant is passed over. -/
theorem ofLines_of_silent {line : Text} (silent : announced? line = none ∧ declared? line = none)
    (pending : Option Text) (rest : List Text) : ofLines pending (line :: rest) = ofLines pending rest := by
  simp only [ofLines, silent]

theorem silent_of_blank {line : Text} (blank : Text.isAllBlank line = true) :
    announced? line = none ∧ declared? line = none := by
  have chars : ∀ c ∈ line, Text.isBlank c = true := List.all_eq_true.mp blank
  constructor
  · have absent : ¬ ("#[error(" : Text) <:+: line := by
      intro within
      have sign := chars '#' (within.subset (by simp))
      revert sign
      decide
    rw [announced?, if_neg (by rw [Text.contains_iff]; exact absent)]
  · cases line with
    | nil => rfl
    | cons c s =>
      have trimmed := Text.trimStart_of_all fun d member => chars d (List.mem_cons_of_mem _ member)
      rw [declared?, Text.afterBlanks?, if_pos (chars c (List.mem_cons_self ..)), trimmed]
      rfl

theorem ofLines_append_blank {left : List Text} (blank : ∀ line ∈ left, Text.isAllBlank line = true)
    (pending : Option Text) (ls : List Text) : ofLines pending (ls ++ left) = ofLines pending ls := by
  induction ls generalizing pending with
  | nil =>
    induction left with
    | nil => rfl
    | cons line left ih =>
      have later := ih fun other member => blank other (List.mem_cons_of_mem _ member)
      have silent := silent_of_blank (blank line (List.mem_cons_self ..))
      rw [List.nil_append] at later ⊢
      rw [ofLines_of_silent silent, later]
  | cons line ls ih =>
    rw [List.cons_append]
    simp only [ofLines, ih]

/-- The lines of a body are read as they stand. -/
theorem extract_unlines {ls : List Text} (single : ∀ line ∈ ls, Text.IsLine line) :
    extract (Text.unlines ls) = ofLines none ls := by
  obtain ⟨left, split, empty⟩ := Text.lines_unlines single
  have blank : ∀ line ∈ left, Text.isAllBlank line = true := fun line member => by
    rw [empty line member]
    rfl
  have dropped := ofLines_append_blank blank none (Text.lines (Text.unlines ls))
  rw [← split] at dropped
  exact dropped.symm

end Variant
end ReferencePages
