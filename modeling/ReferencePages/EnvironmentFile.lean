import ReferencePages.Dictionary
import ReferencePages.Text.Blank
/-!
Files that set environment variables, one binding on a line. Values may be quoted and may refer to other
variables; a line that is no binding is passed over.
-/

namespace ReferencePages.EnvironmentFile

/-!
A reader returns what it has read and the rest of the text, or the place where nothing can be read.
-/

/-- A name with its value; a name alone has none. -/
structure Binding where
  key : Text
  value : Option Text
  deriving DecidableEq, Repr

/-- Blanks that do not end a line. -/
def isInlineBlank (c : Char) : Bool := Text.isBlank c && c != '\n' && c != '\r'

/-- The text after such blanks. -/
def skipInline (s : Text) : Text := s.dropWhile isInlineBlank

/-- The text after a word that marks variables for other programs. -/
def skipExport (s : Text) : Text :=
  match Text.after? "export" s with
  | some (c :: rest) => if isInlineBlank c then skipInline rest else s
  | _ => s

/-- The characters up to a mark. A character behind a backslash belongs to it and ends nothing. -/
def untilMark (mark : Char) : Text → Option (Text × Text)
  | [] => none
  | ['\\'] => none
  | '\\' :: c :: s => (untilMark mark s).map fun (text, rest) => ('\\' :: c :: text, rest)
  | c :: s =>
    if c = mark then some ([], s) else (untilMark mark s).map fun (text, rest) => (c :: text, rest)

/-- The character of an escape in a text between quotation marks. -/
def doubleEscape? (c : Char) : Option Char :=
  match c with
  | '\\' => some '\\'
  | '\'' => some '\''
  | '"' => some '"'
  | 'a' => some '\x07'
  | 'b' => some '\x08'
  | 'f' => some '\x0c'
  | 'n' => some '\n'
  | 'r' => some '\r'
  | 't' => some '\t'
  | 'v' => some '\x0b'
  | _ => none

/-- The character of an escape in a text between apostrophes. -/
def singleEscape? (c : Char) : Option Char :=
  if c = '\\' || c = '\'' then some c else none

/-- The text with its escapes replaced. -/
def unescape (escape? : Char → Option Char) : Text → Text
  | [] => []
  | '\\' :: c :: s =>
    match escape? c with
    | some x => x :: unescape escape? s
    | none => '\\' :: unescape escape? (c :: s)
  | c :: s => c :: unescape escape? s

/-- A name, between apostrophes or up to a blank, a sign of equality or a comment. A comment has none. -/
def readKey (s : Text) : Except Text (Option Text × Text) :=
  match s with
  | '#' :: _ => .ok (none, s)
  | '\'' :: rest =>
    match rest.span (· != '\'') with
    | (c :: key, _ :: rest) => .ok (some (c :: key), rest)
    | _ => .error s
  | _ =>
    match s.span fun c => c != '=' && c != '#' && !Text.isBlank c with
    | ([], _) => .error s
    | (key, rest) => .ok (some key, rest)

/-- The text up to blanks that a comment follows. -/
def withoutComment : Text → Text
  | [] => []
  | c :: s =>
    if Text.isBlank c && (Text.trimStart s).head? = some '#' then [] else c :: withoutComment s

/-- The value behind a sign of equality and blanks. A value without quotes may be empty, with a comment
behind the blanks. -/
def readValue (s : Text) : Except Text (Text × Text) :=
  match skipInline s with
  | '\'' :: rest =>
    match untilMark '\'' rest with
    | some (text, rest) => .ok (unescape singleEscape? text, rest)
    | none => .error ('\'' :: rest)
  | '"' :: rest =>
    match untilMark '"' rest with
    | some (text, rest) => .ok (unescape doubleEscape? text, rest)
    | none => .error ('"' :: rest)
  | _ =>
    let line := s.takeWhile fun c => c != '\n' && c != '\r'
    .ok (Text.trim (withoutComment line), s.drop line.length)

/-- The text after a comment. -/
def skipComment (s : Text) : Text :=
  match skipInline s with
  | '#' :: rest => rest.dropWhile fun c => c != '\n' && c != '\r'
  | _ => s

/-- The text after the end of a line. -/
def endLine (s : Text) : Except Text (Unit × Text) :=
  match skipInline s with
  | [] => .ok ((), [])
  | '\n' :: rest => .ok ((), rest)
  | _ => .error s

/-- The binding of one line. -/
def readBinding (s : Text) : Except Text (Option Binding × Text) := do
  let (key, rest) ← readKey (skipExport s)
  let rest := skipInline rest
  let (value, rest) ← match rest with
    | '=' :: rest => (readValue rest).map fun (value, rest) => (some value, rest)
    | _ => .ok ((none : Option Text), rest)
  let ((), rest) ← endLine (skipComment rest)
  .ok (key.map fun key => { key, value }, rest)

/-- The bindings of a text. After a line that is none, reading goes on with the next one. -/
def readBindings : (fuel : Nat) → Text → List Binding
  | 0, _ => []
  | fuel + 1, s =>
    match Text.trimStart s with
    | [] => []
    | s =>
      match readBinding s with
      | .ok (binding?, rest) => binding?.toList ++ readBindings fuel rest
      | .error rest => readBindings fuel ((rest.dropWhile (· != '\n')).drop 1)

/-- The bindings of a file's text. A byte order mark in front does not count. -/
def bindings (s : Text) : List Binding :=
  let s := Text.skip ['\ufeff'] s
  readBindings (s.length + 1) s

/-- A reference to a variable at the start of a text: its name, and what stands for it if it is not
set. -/
def reference? (s : Text) : Option (Text × Text × Text) := do
  let s ← Text.after? "$\x7b" s
  let name := s.takeWhile fun c => c != '\x7d' && c != ':'
  match s.drop name.length with
  | '\x7d' :: rest => some (name, [], rest)
  | ':' :: '-' :: rest =>
    match rest.span (· != '\x7d') with
    | (fallback, _ :: rest) => some (name, fallback, rest)
    | _ => none
  | _ => none

/-- The value with each reference replaced. The fuel bounds the number of steps. -/
def expand (lookup : Text → Option Text) : (fuel : Nat) → Text → Text
  | 0, s => s
  | _, [] => []
  | fuel + 1, c :: s =>
    match reference? (c :: s) with
    | some (name, fallback, rest) => (lookup name).getD fallback ++ expand lookup fuel rest
    | none => c :: expand lookup fuel s

/-- The variable that forbids to read files of variables. -/
def offVariable : Text := "PYTHON_DOTENV_DISABLED"

/-- Whether an environment forbids to read files of variables. A long s counts as an s. -/
def isOff (environment : Dictionary Text) : Bool :=
  (environment.get? offVariable).any fun value =>
    (["1", "true", "t", "yes", "y"] : List Text).contains
      (Text.lowerCase (Text.replaceChar '\u017f' "s" value))

/-- The values that bindings set, each seen from the environment and from the bindings before it. What
the environment holds counts more. A name without a value is known as empty. -/
def resolve (environment : Dictionary Text) : List Binding → Dictionary (Option Text) →
    Dictionary (Option Text)
  | [], resolved => resolved
  | b :: bs, resolved =>
    let lookup (name : Text) : Option Text :=
      (environment.get? name).or ((resolved.get? name).map fun value => value.getD [])
    let value := b.value.map fun v => expand lookup (v.length + 1) v
    resolve environment bs (resolved.set b.key value)

end ReferencePages.EnvironmentFile
