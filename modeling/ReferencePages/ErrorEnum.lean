import ReferencePages.Text.Lines
import ReferencePages.Text.Scan
/-!
Public enumerations of error cases. Doc comments at the start of a line belong to the enumeration
that follows them, braces decide where its body ends, and a variant is reported if an attribute with
its message stands before it.
-/

namespace ReferencePages

/-- A variant with the message that its attribute gives. -/
structure Variant where
  name : Text
  message : Text
  deriving DecidableEq, Repr

/-- An enumeration with its documentation, its text and its annotated variants. -/
structure ErrorEnum where
  name : Text
  docSummary : Text
  body : Text
  variants : List Variant
  deriving DecidableEq, Repr

namespace Variant

/-- The message of a variant whose attribute has no text of its own. -/
def complexFormat : Text := "(complex format)"

/-- Words at the start of a line that are no variant. -/
def excludedWords : List Text := ["pub", "fn", "let", "use", "impl", "where", "type", "Self"]

/-- The message of the attribute that begins here. -/
def readMessage (s : Text) : Option Text := do
  let rest ← Text.after? "#[error(\"" s
  match rest.span (· != '"') with
  | (c :: message, _ :: _) => some (c :: message)
  | _ => none

/-- The message that an attribute line announces. -/
def announced? (line : Text) : Option Text :=
  if Text.contains "#[error(" line then
    some ((Text.findRead? readMessage line).getD complexFormat)
  else none

/-- The name of the variant that a line declares: an indented word with a capital letter in front. -/
def declared? (line : Text) : Option Text := do
  let (word, _) ← Text.name? (← Text.afterBlanks? line)
  match word with
  | c :: _ => if c.isUpper && !excludedWords.contains word then some word else none
  | [] => none

/-- The variants of the lines, where `pending` is the message announced last and not yet used. -/
def ofLines : (pending : Option Text) → List Text → List Variant
  | _, [] => []
  | pending, line :: ls =>
    match announced? line with
    | some message => ofLines (some message) ls
    | none =>
      match declared? line, pending with
      | some name, some message => { name, message } :: ofLines none ls
      | _, _ => ofLines pending ls

/-- The annotated variants of an enumeration's body. -/
def extract (body : Text) : List Variant := ofLines none (Text.lines body)

end Variant

namespace ErrorEnum

/-- The text of a doc comment that stands at the start of a line. -/
def docComment? (line : Text) : Option Text := (Text.after? "///" line).map Text.trim

/-- An attribute line. -/
def isAttribute (line : Text) : Bool := Text.startsWith "#" (Text.trimStart line)

/-- The part in parentheses that may restrict who sees a declaration. -/
def afterScope? (s : Text) : Option Text := do
  let inner ← Text.after? "(" s
  match inner.span (· != ')') with
  | (_, _ :: rest) => some rest
  | _ => none

/-- The name of the enumeration that a line begins to declare. -/
def declared? (line : Text) : Option Text := do
  let s ← Text.after? "pub" line
  let s ← Text.afterBlanks? ((afterScope? s).getD s)
  let (name, _) ← Text.name? (← Text.afterKeywords? ["enum"] s)
  return name

/-- How many more braces a line opens than it closes. -/
def braceBalance (line : Text) : Int := (line.count '{' : Int) - (line.count '}' : Int)

/-- An enumeration whose end has not been seen. -/
structure Unfinished where
  name : Text
  docs : List Text
  firstLine : Text
  body : List Text
  depth : Int
  opened : Bool
  deriving DecidableEq, Repr

/-- The declaration line alone. -/
def Unfinished.start (name : Text) (docs : List Text) (line : Text) : Unfinished :=
  { name, docs, firstLine := line, body := [], depth := braceBalance line,
    opened := List.elem '{' line }

/-- One more line of the body. -/
def Unfinished.add (e : Unfinished) (line : Text) : Unfinished :=
  { e with body := e.body ++ [line], depth := e.depth + braceBalance line,
           opened := e.opened || List.elem '{' line }

/-- Whether a brace has been opened and all are closed again. -/
def Unfinished.isClosed (e : Unfinished) : Bool := e.opened && decide (e.depth ≤ 0)

/-- The enumeration with the lines read so far. -/
def Unfinished.finish (e : Unfinished) : ErrorEnum :=
  { name := e.name
    docSummary := Text.joinWith " " (e.docs.filter (!·.isEmpty))
    body := Text.unlines (e.firstLine :: e.body)
    variants := Variant.extract (Text.unlines e.body) }

/-- Between declarations with the doc comments waiting for one, or inside an enumeration. -/
inductive Scan
  | outside (docs : List Text)
  | inside (unfinished : Unfinished)
  deriving DecidableEq, Repr

/-- An enumeration goes on until it is closed. -/
def Unfinished.next (e : Unfinished) : Scan × Option ErrorEnum :=
  if e.isClosed then (.outside [], some e.finish) else (.inside e, none)

/-- The meaning of one line. Doc comments outlive blank lines and attribute lines. -/
def Scan.step (scan : Scan) (line : Text) : Scan × Option ErrorEnum :=
  match scan with
  | .inside e => (e.add line).next
  | .outside docs =>
    match docComment? line with
    | some doc => (.outside (docs ++ [doc]), none)
    | none =>
      match declared? line with
      | some name => (Unfinished.start name docs line).next
      | none =>
        (.outside (if Text.isAllBlank line || isAttribute line then docs else []), none)

/-- The enumerations of the lines; one that is still open at the end is reported as it is. -/
def ofLines : Scan → List Text → List ErrorEnum
  | .outside _, [] => []
  | .inside e, [] => [e.finish]
  | scan, line :: ls =>
    let (next, found) := scan.step line
    found.toList ++ ofLines next ls

/-- The lines before the first that starts with the boundary; an empty boundary is none. -/
def beforeBoundary (boundary : Text) (ls : List Text) : List Text :=
  if boundary.isEmpty then ls else ls.takeWhile fun line => !Text.startsWith boundary line

/-- The enumerations of a source text up to the boundary, in order. -/
def extract (boundary text : Text) : List ErrorEnum :=
  ofLines (.outside []) (beforeBoundary boundary (Text.lines text))

end ErrorEnum
end ReferencePages
