import ReferencePages.Text.Blank
import ReferencePages.Text.Word
/-!
Small readers for declarations: keywords separated by blanks, names with optional quotes, and lists in
parentheses. A reader returns what follows what it has read, or nothing.
-/

namespace ReferencePages.Text

/-- The keywords in order, each followed by one blank or more. -/
def afterKeywords? : List Text → Text → Option Text
  | [], s => some s
  | word :: words, s => ((after? word s).bind afterBlanks?).bind (afterKeywords? words)

/-- The two ways to read something optional: first with it, then without it. -/
def withOrWithout (read : Text → Option Text) (s : Text) : List Text :=
  match read s with
  | some rest => [rest, s]
  | none => [s]

/-- A name: a letter of ASCII or an underscore, then word characters. -/
def name? : Text → Option (Text × Text)
  | [] => none
  | c :: s => if isNameStart c then some (c :: s.takeWhile isWordChar, s.dropWhile isWordChar) else none

/-- A name that may have a quotation mark on either side, which is not part of it. -/
def quotableName? (s : Text) : Option (Text × Text) :=
  (name? (skip ['"'] s)).map fun (name, rest) => (name, skip ['"'] rest)

/-- What follows a qualifying name and its dot. -/
def afterQualifier? (s : Text) : Option Text :=
  (quotableName? s).bind fun (_, rest) => after? ['.'] rest

/-- A name with an optional qualifier, which is left out. A word that can be read as a qualifier is
read as one if a name follows it. -/
def qualifiedNames (s : Text) : List (Text × Text) :=
  (withOrWithout afterQualifier? s).filterMap quotableName?

/-- What stands between a pair of parentheses that holds at least one character, and what follows. -/
def parenthesized? (s : Text) : Option (Text × Text) := do
  let inner ← after? ['('] s
  match inner.span (· != ')') with
  | (_ :: _, _ :: rest) => some (inner.takeWhile (· != ')'), rest)
  | _ => none

end ReferencePages.Text
