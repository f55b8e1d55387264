import ReferencePages.Proofs.ConfigStruct.Extent
import ReferencePages.Proofs.ErrorEnum.Written
/-!
Attributes between documentation and what it documents. Each line is looked at by itself: the first line of an
attribute begins with its sign and leaves the doc comments waiting, and so does a blank line. A further line of an
attribute is like any other line, and takes the documentation away.
-/

namespace ReferencePages

/-- An attribute as it is written: what follows `#[` on its first line, and the lines on which it goes on. -/
structure WrittenAttribute where
  opening : Text
  further : List Text

namespace WrittenAttribute

def lines (a : WrittenAttribute) : List Text := ("#[" ++ a.opening) :: a.further

/-- The lines on which attributes go on. -/
def furtherLines (attributes : List WrittenAttribute) : List Text := attributes.flatMap (·.further)

/-- Doc comments, of which what follows the slashes is given, and attributes below them. -/
def heading (docs : List Text) (attributes : List WrittenAttribute) : List Text :=
  docs.map (("///" : Text) ++ ·) ++ attributes.flatMap (·.lines)

/-- Whether a line that says nothing itself leaves the doc comments waiting. -/
def isPassed (line : Text) : Bool := Text.isAllBlank line || ErrorEnum.isAttribute line

/-- The doc comments that are left behind lines that say nothing themselves: all, or none. -/
def left (ls docs : List Text) : List Text := if ls.all isPassed then docs else []

theorem left_cons (line : Text) (ls docs : List Text) :
    left (line :: ls) docs = left ls (if isPassed line then docs else []) := by
  unfold left
  rw [List.all_cons]
  cases isPassed line <;> cases ls.all isPassed <;> rfl

theorem isPassed_opening (opening : Text) : isPassed ("#[" ++ opening) = true := by
  have sign : ErrorEnum.isAttribute ("#[" ++ opening) = true := rfl
  rw [isPassed, sign, Bool.or_true]

/-- Of the lines of attributes only the further ones count. -/
theorem left_lines (attributes : List WrittenAttribute) (docs : List Text) :
    left (attributes.flatMap (·.lines)) docs = left (furtherLines attributes) docs := by
  have same : (attributes.flatMap (·.lines)).all isPassed = (furtherLines attributes).all isPassed := by
    rw [furtherLines, List.all_flatMap, List.all_flatMap]
    refine congrArg attributes.all (funext fun a => ?_)
    rw [lines, List.all_cons, isPassed_opening, Bool.true_and]
  rw [left, left, same]

/-- What holds of every line that begins an attribute and of every further line holds of all lines. -/
theorem forall_mem_lines {attributes : List WrittenAttribute} {p : Text → Prop}
    (first : ∀ opening, p ("#[" ++ opening)) (further : ∀ line ∈ furtherLines attributes, p line) :
    ∀ line ∈ attributes.flatMap (·.lines), p line := by
  intro line member
  obtain ⟨a, inside, member⟩ := List.mem_flatMap.mp member
  rcases List.mem_cons.mp member with rfl | later
  · exact first a.opening
  · exact further line (List.mem_flatMap.mpr ⟨a, inside, later⟩)

end WrittenAttribute

open WrittenAttribute

/-! ### Above enumerations -/

namespace ErrorEnum

/-- Whether a line is neither a doc comment nor a declaration. -/
def IsSilent (line : Text) : Prop := docComment? line = none ∧ declared? line = none

instance : DecidablePred IsSilent := fun line =>
  inferInstanceAs (Decidable (docComment? line = none ∧ declared? line = none))

theorem isSilent_opening (opening : Text) : IsSilent ("#[" ++ opening) := by
  constructor
  · exact docComment?_eq_none fun c head => by cases head; decide
  · exact declared?_eq_none fun c head => by cases head; decide

theorem ofLines_silent {ls : List Text} (silent : ∀ line ∈ ls, IsSilent line) (docs rest : List Text) :
    ofLines (.outside docs) (ls ++ rest) = ofLines (.outside (left ls docs)) rest := by
  induction ls generalizing docs with
  | nil => rfl
  | cons line ls ih =>
    obtain ⟨undocumented, undeclared⟩ := silent line (List.mem_cons_self ..)
    have later := ih fun other member => silent other (List.mem_cons_of_mem _ member)
    have step : Scan.step (.outside docs) line = (.outside (if isPassed line then docs else []), none) := by
      rw [Scan.step, undocumented, undeclared]
      rfl
    rw [List.cons_append, ofLines_step step, later, left_cons]

/-- The scan behind a heading has its doc comments, or has lost all. -/
theorem ofLines_attributes {attributes : List WrittenAttribute}
    (silent : ∀ line ∈ furtherLines attributes, IsSilent line) (waiting docs rest : List Text) :
    ofLines (.outside waiting) (heading docs attributes ++ rest) =
      ofLines (.outside (left (furtherLines attributes) (waiting ++ docs.map Text.trim))) rest := by
  rw [heading, List.append_assoc, ofLines_docs, ofLines_silent (forall_mem_lines isSilent_opening silent), left_lines]

/-- An enumeration with this documentation. -/
def documented (e : ErrorEnum) (docs : List Text) : ErrorEnum :=
  { e with docSummary := Text.joinWith " " (docs.filter (!·.isEmpty)) }

/-- The documentation says nothing about what else is read. -/
theorem ofLines_inside_documented (e : Unfinished) (ls : List Text) :
    ∃ found later, found.name = e.name ∧
      ∀ docs, ofLines (.inside { e with docs }) ls = documented found docs :: later := by
  induction ls generalizing e with
  | nil => exact ⟨e.finish, [], rfl, fun docs => rfl⟩
  | cons line ls ih =>
    have same (docs : List Text) : Unfinished.isClosed (Unfinished.add { e with docs } line) =
        (e.add line).isClosed := rfl
    cases closed : (e.add line).isClosed with
    | true =>
      refine ⟨(e.add line).finish, ofLines (.outside []) ls, rfl, fun docs => ?_⟩
      rw [ofLines, Scan.step, Unfinished.next, if_pos ((same docs).trans closed)]
      rfl
    | false =>
      obtain ⟨found, later, name, reads⟩ := ih (e.add line)
      refine ⟨found, later, name, fun docs => ?_⟩
      rw [ofLines, Scan.step, Unfinished.next, if_neg (by rw [same docs, closed]; exact Bool.false_ne_true)]
      exact reads docs

theorem ofLines_declared_documented {start name : Text} (declared : declared? start = some name) (ls : List Text) :
    ∃ found later, found.name = name ∧
      ∀ docs, ofLines (.outside docs) (start :: ls) = documented found docs :: later := by
  have step (docs : List Text) : Scan.step (.outside docs) start = (Unfinished.start name docs start).next := by
    rw [Scan.step, docComment?_of_declared declared, declared]
  have same (docs : List Text) : (Unfinished.start name docs start).isClosed =
      (Unfinished.start name [] start).isClosed := rfl
  cases closed : (Unfinished.start name [] start).isClosed with
  | true =>
    refine ⟨(Unfinished.start name [] start).finish, ofLines (.outside []) ls, rfl, fun docs => ?_⟩
    rw [ofLines, step, Unfinished.next, if_pos ((same docs).trans closed)]
    rfl
  | false =>
    obtain ⟨found, later, named, reads⟩ := ofLines_inside_documented (Unfinished.start name [] start) ls
    refine ⟨found, later, named, fun docs => ?_⟩
    rw [ofLines, step, Unfinished.next, if_neg (by rw [same docs, closed]; exact Bool.false_ne_true)]
    exact reads docs

/-- The scan after some lines, and the enumerations that they end. -/
def Scan.run : Scan → List Text → Scan × List ErrorEnum
  | scan, [] => (scan, [])
  | scan, line :: ls =>
    let (next, found) := scan.step line
    let (last, later) := next.run ls
    (last, found.toList ++ later)

theorem ofLines_append (scan : Scan) (ls rest : List Text) :
    ofLines scan (ls ++ rest) = (scan.run ls).2 ++ ofLines (scan.run ls).1 rest := by
  induction ls generalizing scan with
  | nil => rfl
  | cons line ls ih =>
    have later := ih (scan.step line).1
    rw [Scan.run, List.append_assoc, ← later]
    cases scan <;> rfl

/-- An enumeration outside of others is read with the documentation that is left above it. -/
theorem ofLines_below {before waiting : List Text} {start name : Text}
    (outside : ((Scan.outside []).run before).1 = .outside waiting) (declared : declared? start = some name)
    (after : List Text) :
    ∃ found e later, e.name = name ∧
      ∀ (docs : List Text) (attributes : List WrittenAttribute), (∀ line ∈ furtherLines attributes, IsSilent line) →
        ofLines (.outside []) (before ++ (heading docs attributes ++ start :: after)) =
          found ++ documented e (left (furtherLines attributes) (waiting ++ docs.map Text.trim)) :: later := by
  obtain ⟨e, later, named, reads⟩ := ofLines_declared_documented declared after
  refine ⟨((Scan.outside []).run before).2, e, later, named, fun docs attributes silent => ?_⟩
  rw [ofLines_append, outside, ofLines_attributes silent, reads]

theorem documented_left (e : ErrorEnum) (ls docs : List Text) :
    documented e (left ls docs) =
      { documented e docs with docSummary := if ls.all isPassed then (documented e docs).docSummary else [] } := by
  unfold left
  cases ls.all isPassed <;> rfl

end ErrorEnum

/-! ### Above structures -/

namespace ConfigStruct

/-- Whether a line is neither a doc comment nor a declaration. -/
def IsSilent (line : Text) : Prop := docComment? line = none ∧ declared? line = none

instance : DecidablePred IsSilent := fun line =>
  inferInstanceAs (Decidable (docComment? line = none ∧ declared? line = none))

theorem isSilent_opening (opening : Text) : IsSilent ("#[" ++ opening) := by
  have visible : Text.trimStart ("#[" ++ opening) = "#[" ++ opening := Text.trimStart_cons _ (by decide)
  constructor
  · refine docComment?_eq_none fun c head => ?_
    rw [visible] at head
    cases head
    decide
  · exact declared?_eq_none fun c head => by cases head; decide

theorem Scan.docs_step_silent {line : Text} (silent : IsSilent line) (scan : Scan) :
    (scan.step line).1.docs = if isPassed line then scan.docs else [] := by
  obtain ⟨docs, unfinished⟩ := scan
  rw [Scan.step, silent.1, silent.2]
  cases unfinished with
  | none => rfl
  | some s =>
    dsimp only
    split <;> rfl

theorem Scan.docs_run_silent {ls : List Text} (silent : ∀ line ∈ ls, IsSilent line) (scan : Scan) :
    (scan.run ls).1.docs = left ls scan.docs := by
  induction ls generalizing scan with
  | nil => rfl
  | cons line ls ih =>
    have later := ih fun other member => silent other (List.mem_cons_of_mem _ member)
    rw [left_cons, ← Scan.docs_step_silent (silent line (List.mem_cons_self ..)) scan, ← later]
    rfl

theorem Scan.docs_run_comments (texts : List Text) (scan : Scan) :
    (scan.run (texts.map (("///" : Text) ++ ·))).1.docs = scan.docs ++ texts.map Text.trim := by
  induction texts generalizing scan with
  | nil => exact (List.append_nil _).symm
  | cons text texts ih =>
    have step : scan.step (("///" : Text) ++ text) = ({ scan with docs := scan.docs ++ [Text.trim text] }, []) :=
      @step_doc [] nofun text scan
    have later := ih { scan with docs := scan.docs ++ [Text.trim text] }
    rw [List.map_cons, List.map_cons, Scan.run, step]
    dsimp only
    rw [later, List.append_assoc, List.singleton_append]

theorem Scan.run_append (scan : Scan) (a b : List Text) : (scan.run (a ++ b)).1 = ((scan.run a).1.run b).1 := by
  induction a generalizing scan with
  | nil => rfl
  | cons line a ih => exact ih (scan.step line).1

/-- Behind a heading its doc comments wait, or none. -/
theorem waiting_heading {attributes : List WrittenAttribute}
    (silent : ∀ line ∈ furtherLines attributes, IsSilent line) (before docs : List Text) :
    waiting (before ++ heading docs attributes) =
      left (furtherLines attributes) (waiting before ++ docs.map Text.trim) := by
  rw [waiting, Scan.run_append, heading, Scan.run_append,
    Scan.docs_run_silent (forall_mem_lines isSilent_opening silent), Scan.docs_run_comments, left_lines]
  rfl

theorem countP_heading {attributes : List WrittenAttribute}
    (silent : ∀ line ∈ furtherLines attributes, IsSilent line) (before docs : List Text) :
    (before ++ heading docs attributes).countP declares = before.countP declares := by
  have none : (heading docs attributes).countP declares = 0 := by
    rw [List.countP_eq_zero]
    intro line member
    have undeclared : declared? line = none := by
      rcases List.mem_append.mp member with doc | tag
      · obtain ⟨text, _, rfl⟩ := List.mem_map.mp doc
        exact declared?_eq_none fun c head => by cases head; decide
      · exact (forall_mem_lines isSilent_opening silent line tag).2
    rw [declares, undeclared]
    exact Bool.false_ne_true
  rw [List.countP_append, none, Nat.add_zero]

/-- A structure is read with the documentation that is left above it. -/
theorem extract_below {attributes : List WrittenAttribute} (silent : ∀ line ∈ furtherLines attributes, IsSilent line)
    {start name : Text} (declared : declared? start = some name) {text : Text} {before docs after : List Text}
    (split : Text.lines text = before ++ (heading docs attributes ++ start :: after)) :
    (extract text)[before.countP declares]? =
      some { declaration name (left (furtherLines attributes) (waiting before ++ docs.map Text.trim)) with
        fieldCount := if Text.endsWith ";" (Text.trimEnd start) then 0 else ownFields after } := by
  rw [← List.append_assoc] at split
  rw [← waiting_heading silent, ← countP_heading silent before docs]
  exact extract_declared split declared

theorem declaration_left (name : Text) (ls docs : List Text) :
    declaration name (left ls docs) =
      { declaration name docs with sentence := if ls.all isPassed then (declaration name docs).sentence else [] } := by
  unfold left
  cases ls.all isPassed <;> rfl

end ConfigStruct

namespace WrittenAttribute

/-- An enumeration and a structure below doc comments and attributes have the documentation that they have without the
attributes if each further line of an attribute is blank or begins with the sign of one, and none otherwise. All else
is the same. So attributes on one line each leave the documentation as it is. -/
theorem documentation_below (docs : List Text) (attributes : List WrittenAttribute) :
    (∀ (boundary text bare : Text) (before after waiting : List Text) (start name : Text),
        ErrorEnum.declared? start = some name → (∀ line ∈ furtherLines attributes, ErrorEnum.IsSilent line) →
        ((ErrorEnum.Scan.outside []).run before).1 = .outside waiting →
        ErrorEnum.beforeBoundary boundary (Text.lines text) = before ++ (heading docs attributes ++ start :: after) →
        ErrorEnum.beforeBoundary boundary (Text.lines bare) = before ++ (heading docs [] ++ start :: after) →
        ∃ found e later, e.name = name ∧
          e.docSummary = Text.joinWith " " ((waiting ++ docs.map Text.trim).filter (!·.isEmpty)) ∧
          ErrorEnum.extract boundary bare = found ++ e :: later ∧
          ErrorEnum.extract boundary text = found ++
            { e with docSummary := if (furtherLines attributes).all isPassed then e.docSummary else [] } :: later) ∧
    ∀ (text bare : Text) (before after : List Text) (start name : Text),
      ConfigStruct.declared? start = some name → (∀ line ∈ furtherLines attributes, ConfigStruct.IsSilent line) →
      Text.lines text = before ++ (heading docs attributes ++ start :: after) →
      Text.lines bare = before ++ (heading docs [] ++ start :: after) →
      ∃ s : ConfigStruct, s.name = name ∧
        s.sentence = ConfigStruct.firstSentence (Text.joinWith " "
          ((ConfigStruct.waiting before ++ docs.map Text.trim).filter (!·.isEmpty))) ConfigStruct.sentenceLimit ∧
        (ConfigStruct.extract bare)[before.countP ConfigStruct.declares]? = some s ∧
        (ConfigStruct.extract text)[before.countP ConfigStruct.declares]? =
          some { s with sentence := if (furtherLines attributes).all isPassed then s.sentence else [] } := by
  constructor
  · intro boundary text bare before after waiting start name declared silent outside written unadorned
    obtain ⟨found, e, later, named, reads⟩ := ErrorEnum.ofLines_below outside declared after
    refine ⟨found, ErrorEnum.documented e (waiting ++ docs.map Text.trim), later, named, rfl, ?_, ?_⟩
    · rw [ErrorEnum.extract, unadorned]
      exact reads docs [] (List.forall_mem_nil _)
    · rw [ErrorEnum.extract, written, reads docs attributes silent, ErrorEnum.documented_left]
  · intro text bare before after start name declared silent written unadorned
    have plain := @ConfigStruct.extract_below [] (List.forall_mem_nil _) _ _ declared _ _ _ _ unadorned
    refine ⟨_, rfl, rfl, plain, ?_⟩
    rw [ConfigStruct.extract_below silent declared written, ConfigStruct.declaration_left]
    rfl

def storeDocs : List Text := [" Failures of the store.", "", " Each has a key."]

/-- Attributes on one line each. -/
def shortAttributes : List WrittenAttribute := [⟨"derive(Debug, Error)]", []⟩, ⟨"non_exhaustive]", []⟩]

/-- An attribute on several lines, with a bracket for each that it opens. -/
def longAttribute : WrittenAttribute := ⟨"derive(", ["    Debug,", "    Error,", ")]"]⟩

/-- A text in which the documentation stands above a declaration, with attributes in between. -/
def storeText (attributes : List WrittenAttribute) (start : Text) (after : List Text) : Text :=
  ("use std::fmt;".toList :: (heading storeDocs attributes ++ start :: after)).flatMap (· ++ ['\n'])

theorem documentation_below_short :
    (ErrorEnum.extract "#[cfg(test)]" (storeText shortAttributes "pub enum Fault \x7b" ["\x7d"])).map (·.docSummary) =
        ["Failures of the store. Each has a key.".toList] ∧
      (ConfigStruct.extract (storeText shortAttributes "pub struct Store;" [])).map (·.sentence) =
        ["Failures of the store.".toList] := by
  obtain ⟨above, above'⟩ := documentation_below storeDocs shortAttributes
  constructor
  · obtain ⟨found, e, later, _, summary, bare, read⟩ := above "#[cfg(test)]"
      (storeText shortAttributes "pub enum Fault \x7b" ["\x7d"]) (storeText [] "pub enum Fault \x7b" ["\x7d"])
      ["use std::fmt;"] ["\x7d"] [] "pub enum Fault \x7b" "Fault" (by decide +kernel) nofun rfl (by decide +kernel)
      (by decide +kernel)
    have alone : (found ++ e :: later).length = 1 := by
      rw [← bare]
      decide +kernel
    obtain ⟨rfl, rfl⟩ : found = [] ∧ later = [] := by
      rw [List.length_append, List.length_cons] at alone
      exact ⟨List.length_eq_zero_iff.mp (by omega), List.length_eq_zero_iff.mp (by omega)⟩
    rw [read, List.nil_append, List.map_singleton, summary]
    dsimp only
    decide +kernel
  · obtain ⟨s, _, sentence, _, read⟩ := above' (storeText shortAttributes "pub struct Store;" [])
      (storeText [] "pub struct Store;" []) ["use std::fmt;"] [] "pub struct Store;" "Store" (by decide +kernel) nofun
      (by decide +kernel) (by decide +kernel)
    have alone : (ConfigStruct.extract (storeText shortAttributes "pub struct Store;" [])).length = 1 := by
      decide +kernel
    obtain ⟨only, single⟩ := List.length_eq_one_iff.mp alone
    rw [single] at read ⊢
    obtain rfl := Option.some.inj read
    rw [List.map_singleton, sentence]
    dsimp only
    decide +kernel

/-- Below an attribute on several lines nothing is left of the documentation. -/
theorem long_attribute_forgets :
    longAttribute.lines.flatten.count '[' = longAttribute.lines.flatten.count ']' ∧
      longAttribute.lines.flatten.count '(' = longAttribute.lines.flatten.count ')' ∧
      (ErrorEnum.extract [] (storeText [] "pub enum Fault \x7b" ["\x7d"])).map (·.docSummary) =
        ["Failures of the store. Each has a key.".toList] ∧
      (ErrorEnum.extract [] (storeText [longAttribute] "pub enum Fault \x7b" ["\x7d"])).map (·.docSummary) = [[]] ∧
      (ConfigStruct.extract (storeText [] "pub struct Store;" [])).map (·.sentence) =
        ["Failures of the store.".toList] ∧
      (ConfigStruct.extract (storeText [longAttribute] "pub struct Store;" [])).map (·.sentence) = [[]] := by
  decide +kernel

end WrittenAttribute
end ReferencePages
