import ReferencePages.Text.Lines
import ReferencePages.Text.Scan
/-!
Configuration structures. A configuration file is cut into sections at marker lines; each section lists
its public structures with the first sentence of their documentation and the number of their public
fields.
-/

namespace ReferencePages

/-- A structure with the first sentence of its documentation. -/
structure ConfigStruct where
  name : Text
  sentence : Text
  fieldCount : Nat
  deriving DecidableEq, Repr

namespace ConfigStruct

/-- The length at which a sentence is cut. -/
def sentenceLimit : Int := 200

/-- The documentation up to the period that ends its first sentence. -/
def untilPeriod (doc : Text) : Text :=
  match Text.splitAtFirst? ". " doc with
  | some (before, _) => before ++ "."
  | none => doc

/-- The first sentence, cut to at most `limit` characters with three dots as its end. -/
def firstSentence (doc : Text) (limit : Int) : Text :=
  let sentence := untilPeriod (Text.trim doc)
  if limit < sentence.length then Text.takeSigned (limit - 3) sentence ++ "..." else sentence

/-- The text of a doc comment, which may be indented. -/
def docComment? (line : Text) : Option Text :=
  (Text.after? "///" (Text.trimStart line)).map Text.trim

/-- The name of the structure that a line begins to declare. -/
def declared? (line : Text) : Option Text := do
  let (name, _) ← Text.name? (← Text.afterKeywords? ["pub", "struct"] line)
  return name

/-- A line that declares a public field. -/
def isPublicField (line : Text) : Bool :=
  ((Text.after? "pub" (Text.trimStart line)).bind Text.afterBlanks?).isSome

/-- An attribute line. -/
def isAttributeLine (line : Text) : Bool := Text.startsWith "#" (Text.trimStart line)

/-- The doc comments waiting for a declaration, and the structure whose end has not been seen. -/
structure Scan where
  docs : List Text
  unfinished : Option ConfigStruct
  deriving DecidableEq, Repr

/-- The meaning of one line: the scan after it and the structures that it ends. A structure ends at a
brace at the start of a line, at the next declaration, or with its own line after a semicolon. -/
def Scan.step (scan : Scan) (line : Text) : Scan × List ConfigStruct :=
  match docComment? line with
  | some doc => ({ scan with docs := scan.docs ++ [doc] }, [])
  | none =>
    match declared? line with
    | some name =>
      let doc := Text.joinWith " " (scan.docs.filter (!·.isEmpty))
      let declaration : ConfigStruct :=
        { name, sentence := firstSentence doc sentenceLimit, fieldCount := 0 }
      if Text.endsWith ";" (Text.trimEnd line) then
        ({ docs := [], unfinished := none }, scan.unfinished.toList ++ [declaration])
      else ({ docs := [], unfinished := some declaration }, scan.unfinished.toList)
    | none =>
      let docs := if Text.isAllBlank line || isAttributeLine line then scan.docs else []
      match scan.unfinished with
      | none => ({ docs, unfinished := none }, [])
      | some s =>
        let s := if isPublicField line then { s with fieldCount := s.fieldCount + 1 } else s
        if Text.startsWith "\x7d" line then ({ docs, unfinished := none }, [s])
        else ({ docs, unfinished := some s }, [])

/-- The structures of the lines; one that is still open at the end is reported as it is. -/
def ofLines : Scan → List Text → List ConfigStruct
  | scan, [] => scan.unfinished.toList
  | scan, line :: ls =>
    let (next, found) := scan.step line
    found ++ ofLines next ls

/-- The public structures of a section text, in order. -/
def extract (text : Text) : List ConfigStruct :=
  ofLines { docs := [], unfinished := none } (Text.lines text)

end ConfigStruct

/-- A titled part of a configuration file with its structures. -/
structure ConfigSection where
  title : Text
  source : Text
  structs : List ConfigStruct
  deriving DecidableEq, Repr

namespace ConfigSection

/-- The title of a section and the text that its first line contains. -/
structure Marker where
  title : Text
  marker : Text
  deriving DecidableEq, Repr

/-- Where each section starts, or the first marker that no line contains. -/
def starts (ls : List Text) : List Marker → Except Marker (List (Marker × Nat))
  | [] => .ok []
  | m :: markers =>
    match ls.findIdx? (Text.contains m.marker ·) with
    | none => .error m
    | some i => (starts ls markers).map ((m, i) :: ·)

/-- The lines from one number up to another. -/
def slice (start stop : Nat) (ls : List Text) : List Text := (ls.take stop).drop start

/-- The last start among the markers of a title. -/
def startOf (title : Text) (placed : List (Marker × Nat)) : Nat :=
  ((placed.filter (·.1.title = title)).map (·.2)).foldl max 0

/-- The first start after a line, or the number of lines. -/
def stopAfter (start count : Nat) (placed : List (Marker × Nat)) : Nat :=
  ((placed.map (·.2)).filter (start < ·)).foldl min count

/-- One section for each marker, in the order of the markers. A section runs from its marker line to
the next marker line. -/
def split (text : Text) (markers : List Marker) : Except Marker (List ConfigSection) :=
  let ls := Text.lines text
  (starts ls markers).map fun placed =>
    markers.map fun m =>
      let start := startOf m.title placed
      { title := m.title, structs := []
        source := Text.unlines (slice start (stopAfter start ls.length placed) ls) }

/-- The sections with their structures. -/
def extract (text : Text) (markers : List Marker) : Except Marker (List ConfigSection) :=
  (split text markers).map fun sections =>
    sections.map fun s => { s with structs := ConfigStruct.extract s.source }

end ConfigSection
end ReferencePages
