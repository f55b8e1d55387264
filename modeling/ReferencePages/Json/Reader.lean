import ReferencePages.Json
import ReferencePages.Text.Digit
import ReferencePages.Binary64.Reader
/-!
Reading JSON. Beyond the standard, the words for infinity and for no number are read as numbers; a key
that occurs twice has its last value; a whole number may not have more digits than the limit; and arrays
and objects may not be nested deeper than their limit.
-/

namespace ReferencePages.Json

/-- Why a text is not read as a value. -/
inductive ReadError
  | malformed
  | numberTooLong (digits : Nat)
  | arrayTooDeep
  | objectTooDeep
  deriving DecidableEq, Repr

/-- The most digits that a whole number may have. -/
def digitLimit : Nat := 4300

/-- The most arrays and objects that may stand inside each other. -/
def depthLimit : Nat := 985

/-- The blanks between the parts of a value. -/
def isSpace (c : Char) : Bool := c == ' ' || c == '\t' || c == '\n' || c == '\r'

/-- The text after such blanks. -/
def skipSpace (s : Text) : Text := s.dropWhile isSpace

/-- The value of a hexadecimal digit. -/
def hexDigit? (c : Char) : Option Nat :=
  if c.isDigit then some (c.toNat - 48)
  else if 'a' ≤ c && c ≤ 'f' then some (c.toNat - 87)
  else if 'A' ≤ c && c ≤ 'F' then some (c.toNat - 55)
  else none

/-- The number of four hexadecimal digits. -/
def hexUnit? (a b c d : Char) : Option Nat := do
  return (((← hexDigit? a) * 16 + (← hexDigit? b)) * 16 + (← hexDigit? c)) * 16 + (← hexDigit? d)

/-- The character of an escape with one letter. -/
def simpleEscape? (c : Char) : Option Char :=
  match c with
  | '"' => some '"'
  | '\\' => some '\\'
  | '/' => some '/'
  | 'b' => some '\x08'
  | 'f' => some '\x0c'
  | 'n' => some '\n'
  | 'r' => some '\r'
  | 't' => some '\t'
  | _ => none

/-- The character of two UTF-16 units of which the first begins a pair. -/
def pair? (high low : Nat) : Option Char :=
  if 0xd800 ≤ high && high < 0xdc00 && 0xdc00 ≤ low && low < 0xe000 then
    some (Char.ofNat (0x10000 + (high - 0xd800) * 0x400 + (low - 0xdc00)))
  else none

/-- The character of one unit; half of a pair alone is replaced. -/
def unitChar (n : Nat) : Char := if 0xd800 ≤ n && n < 0xe000 then '\ufffd' else Char.ofNat n

/-- The characters up to the closing quotation mark, and what follows it. -/
def readString : Text → Option (Text × Text)
  | [] => none
  | '"' :: s => some ([], s)
  | '\\' :: 'u' :: a :: b :: c :: d :: '\\' :: 'u' :: e :: f :: g :: h :: s =>
    match hexUnit? a b c d, hexUnit? e f g h with
    | some high, some low =>
      match pair? high low with
      | some x => (readString s).map fun (t, rest) => (x :: t, rest)
      | none =>
        (readString ('\\' :: 'u' :: e :: f :: g :: h :: s)).map fun (t, rest) =>
          (unitChar high :: t, rest)
    | _, _ => none
  | '\\' :: 'u' :: a :: b :: c :: d :: s =>
    match hexUnit? a b c d with
    | some n => (readString s).map fun (t, rest) => (unitChar n :: t, rest)
    | none => none
  | '\\' :: c :: s =>
    match simpleEscape? c with
    | some x => (readString s).map fun (t, rest) => (x :: t, rest)
    | none => none
  | c :: s =>
    if c.toNat < 32 || c == '\\' then none
    else (readString s).map fun (t, rest) => (c :: t, rest)

/-- The digits after a point, with the point, if there are any. -/
def readFraction : Text → Text × Text
  | '.' :: s =>
    match s.takeWhile Char.isDigit with
    | [] => ([], '.' :: s)
    | digits => (digits, s.dropWhile Char.isDigit)
  | s => ([], s)

/-- The exponent, if there is one. -/
def readExponent (s : Text) : Option Int × Text :=
  match s with
  | c :: t =>
    if c == 'e' || c == 'E' then
      let (negative, rest) := Binary64.splitSign t
      match Text.toNat? (rest.takeWhile Char.isDigit) with
      | some n => (some (if negative then -(n : Int) else n), rest.dropWhile Char.isDigit)
      | none => (none, s)
    else (none, s)
  | [] => (none, [])

/-- The number that begins here: no zero stands in front of other digits. -/
def readNumber (s : Text) : Except ReadError (Json × Text) :=
  let (negative, t) := match s with
    | '-' :: t => (true, t)
    | t => (false, t)
  let digits := match t with
    | '0' :: _ => ['0']
    | t => t.takeWhile Char.isDigit
  let rest := t.drop digits.length
  if digits.isEmpty then .error .malformed
  else
    let (fraction, afterFraction) := readFraction rest
    let (exponent?, afterExponent) := readExponent afterFraction
    if fraction.isEmpty && exponent?.isNone then
      if digitLimit < digits.length then .error (.numberTooLong digits.length)
      else
        let n : Int := (Text.toNat? digits).getD 0
        .ok (int (if negative then -n else n), afterFraction)
    else
      .ok (float (Binary64.ofParts negative
        { whole := digits, fraction, exponent := exponent?.getD 0 }), afterExponent)

/-- The words that stand for a value. -/
def words : List (Text × Json) :=
  [("null", null), ("true", bool true), ("false", bool false), ("NaN", float .notANumber),
   ("Infinity", float (.infinite false)), ("-Infinity", float (.infinite true))]

/-- The value of a word at the start. -/
def readWord? (s : Text) : Option (Json × Text) :=
  words.findSome? fun (word, value) => (Text.after? word s).map fun rest => (value, rest)

mutual

/-- The value at the start of a text, which may hold so many arrays and objects inside each other. The
fuel bounds the number of steps. -/
def readValue : (fuel : Nat) → (room : Nat) → Text → Except ReadError (Json × Text)
  | 0, _, _ => .error .malformed
  | fuel + 1, room, s =>
    match skipSpace s, room with
    | '"' :: t, _ =>
      match readString t with
      | some (text, rest) => .ok (string text, rest)
      | none => .error .malformed
    | '[' :: _, 0 => .error .arrayTooDeep
    | '[' :: t, room + 1 =>
      match skipSpace t with
      | ']' :: rest => .ok (array [], rest)
      | t => do
        let (items, rest) ← readItems fuel room t
        .ok (array items, rest)
    | '{' :: _, 0 => .error .objectTooDeep
    | '{' :: t, room + 1 =>
      match skipSpace t with
      | '}' :: rest => .ok (object [], rest)
      | t => do
        let (members, rest) ← readMembers fuel room t
        .ok (object (Dictionary.ofList members), rest)
    | t, _ =>
      match readWord? t with
      | some found => .ok found
      | none => readNumber t

/-- The items up to the closing bracket. -/
def readItems : (fuel : Nat) → (room : Nat) → Text → Except ReadError (List Json × Text)
  | 0, _, _ => .error .malformed
  | fuel + 1, room, s => do
    let (item, rest) ← readValue fuel room s
    match skipSpace rest with
    | ']' :: rest => .ok ([item], rest)
    | ',' :: rest => do
      let (items, rest) ← readItems fuel room rest
      .ok (item :: items, rest)
    | _ => .error .malformed

/-- The members up to the closing brace. -/
def readMembers : (fuel : Nat) → (room : Nat) → Text →
    Except ReadError (List (Text × Json) × Text)
  | 0, _, _ => .error .malformed
  | fuel + 1, room, s =>
    match skipSpace s with
    | '"' :: t =>
      match readString t with
      | none => .error .malformed
      | some (key, rest) =>
        match skipSpace rest with
        | ':' :: rest => do
          let (value, rest) ← readValue fuel room rest
          match skipSpace rest with
          | '}' :: rest => .ok ([(key, value)], rest)
          | ',' :: rest => do
            let (members, rest) ← readMembers fuel room rest
            .ok ((key, value) :: members, rest)
          | _ => .error .malformed
        | _ => .error .malformed
    | _ => .error .malformed

end

/-- The value that a text denotes. -/
def read (s : Text) : Except ReadError Json := do
  let (value, rest) ← readValue (2 * s.length + 2) depthLimit s
  if (skipSpace rest).isEmpty then .ok value else .error .malformed

end ReferencePages.Json
