import ReferencePages.Yaml.Token
import ReferencePages.Yaml.Timestamp
import ReferencePages.Binary64.Reader
import ReferencePages.Text.Lines
import ReferencePages.Text.Quoted
/-!
Scalars of YAML: the tag that a plain text has by its form, and the value of a text under a tag.
-/

namespace ReferencePages.Yaml

/-- The kinds of nodes that have a value. -/
inductive Tag
  | null | boolean | integer | float | string | timestamp | binary
  | sequence | mapping | set | orderedPairs | pairs | merge | value | unknown
  deriving DecidableEq, Repr

/-- The tags by their names. -/
def Tag.names : List (Text × Tag) :=
  [("null", .null), ("bool", .boolean), ("int", .integer), ("float", .float), ("str", .string),
   ("timestamp", .timestamp), ("binary", .binary), ("seq", .sequence), ("map", .mapping),
   ("set", .set), ("omap", .orderedPairs), ("pairs", .pairs), ("merge", .merge), ("value", .value)]

/-- The tag with a written name. -/
def Tag.ofText (t : Text) : Tag :=
  ((Text.after? "tag:yaml.org,2002:" t).bind fun name => Tag.names.lookup name).getD .unknown

/-- The words for truth values, in the three spellings of each. -/
def booleanWords : List (Text × Bool) :=
  [("yes", true), ("Yes", true), ("YES", true), ("no", false), ("No", false), ("NO", false),
   ("true", true), ("True", true), ("TRUE", true), ("false", false), ("False", false),
   ("FALSE", false), ("on", true), ("On", true), ("ON", true), ("off", false), ("Off", false),
   ("OFF", false)]

/-- The text without one sign. -/
def withoutSign (s : Text) : Text := (Binary64.splitSign s).2

/-- Digits and underscores. -/
def isDigitOrMark (c : Char) : Bool := c.isDigit || c == '_'

/-- Groups of one or two digits below sixty behind colons; what follows them, if there is at least
one. -/
def afterSixties? (s : Text) : Option Text :=
  let group? (s : Text) : Option Text :=
    match s with
    | ':' :: a :: rest =>
      match rest with
      | b :: more =>
        if '0' ≤ a && a ≤ '5' && b.isDigit then some more
        else if a.isDigit then some rest else none
      | [] => if a.isDigit then some [] else none
    | _ => none
  let rec go : Nat → Text → Text
    | 0, s => s
    | fuel + 1, s => match group? s with
      | some rest => go fuel rest
      | none => s
  (group? s).map (go s.length)

/-- Whether a text is an exponent with a sign, or empty. -/
def isSignedExponent : Text → Bool
  | [] => true
  | e :: sign :: digits =>
    (e = 'e' || e = 'E') && (sign = '+' || sign = '-') && !digits.isEmpty && digits.all Char.isDigit
  | _ => false

/-- Whether a text has the form of a floating-point number. -/
def isFloatForm (s : Text) : Bool :=
  let magnitude := withoutSign s
  let whole := magnitude.takeWhile isDigitOrMark
  let rest := magnitude.dropWhile isDigitOrMark
  let startsWithDigit := whole.head?.any Char.isDigit
  let isPlain := startsWithDigit && match rest with
    | '.' :: fraction => isSignedExponent (fraction.dropWhile isDigitOrMark)
    | _ => false
  let isFraction := match s with
    | '.' :: d :: more => d.isDigit && isSignedExponent (more.dropWhile isDigitOrMark)
    | _ => false
  let isSixties := startsWithDigit && match afterSixties? rest with
    | some ('.' :: fraction) => fraction.all isDigitOrMark
    | _ => false
  isPlain || isFraction || isSixties ||
    ([".inf", ".Inf", ".INF"] : List Text).contains magnitude ||
    ([".nan", ".NaN", ".NAN"] : List Text).contains s

/-- Whether a text has the form of a whole number. -/
def isIntegerForm (s : Text) : Bool :=
  let isMark (c : Char) : Bool := c == '_'
  match withoutSign s with
  | [] => false
  | '0' :: rest =>
    rest.isEmpty || rest.all (fun c => ('0' ≤ c && c ≤ '7') || isMark c) ||
      match rest with
      | 'b' :: digits => !digits.isEmpty && digits.all fun c => c == '0' || c == '1' || isMark c
      | 'x' :: digits =>
        !digits.isEmpty && digits.all fun c => (Json.hexDigit? c).isSome || isMark c
      | _ => false
  | c :: rest =>
    c.isDigit &&
      match rest.dropWhile isDigitOrMark with
      | [] => true
      | more => afterSixties? more = some []

/-- The tag that a text has by its form. -/
def Tag.ofForm (s : Text) : Tag :=
  if (booleanWords.lookup s).isSome then .boolean
  else if isFloatForm s then .float
  else if isIntegerForm s then .integer
  else if s = "<<" then .merge
  else if ([[], "~", "null", "Null", "NULL"] : List Text).contains s then .null
  else if Timestamp.isForm s then .timestamp
  else if s = "=" then .value
  else .string

/-- The text without the line ending behind its one line, if it has both. -/
def withoutLineEnd (s : Text) : Text :=
  match Text.wholeLine? s with
  | some (c :: line) => c :: line
  | _ => s

/-- The tag that a plain text has. A line ending behind the text does not count. -/
def Tag.ofPlain (s : Text) : Tag := Tag.ofForm (withoutLineEnd s)

/-- The value of a scalar. -/
inductive Scalar
  | null
  | boolean (b : Bool)
  | integer (n : Int)
  | float (x : Binary64)
  | string (s : Text)
  | timestamp (t : Timestamp)
  | binary (bytes : Bytes)
  deriving DecidableEq, Repr

/-- The digits of a text in a base, each of any script in base ten. -/
def digitsOf? (base : Nat) (s : Text) : Option (List Nat) :=
  s.mapM fun c =>
    match (Text.digitValue? c).or (Json.hexDigit? c) with
    | some d => if d < base then some d else none
    | none => none

/-- The letter that marks a base behind a zero. -/
def baseLetter? (base : Nat) : Option Char :=
  if base = 2 then some 'b' else if base = 8 then some 'o' else if base = 16 then some 'x' else none

/-- The digits without a zero and a letter in front that only repeat the base. -/
def withoutBaseMark (base : Nat) (s : Text) : Text :=
  match s with
  | '0' :: letter :: digits => if baseLetter? base = some letter.toLower then digits else s
  | _ => s

/-- A whole number in a base: blanks around it, one sign and the mark of the base do not count. -/
def integerOfText (base : Nat) (s : Text) : Except Fault Int :=
  let (negative, marked) := Binary64.splitSign (Text.trim s)
  let magnitude := withoutBaseMark base marked
  match digitsOf? base magnitude with
  | some (d :: digits) =>
    if base = 10 && Json.digitLimit < magnitude.length then .error (.numberTooLong magnitude.length)
    else
      let n : Nat := (d :: digits).foldl (fun n d => base * n + d) 0
      .ok (if negative then -(n : Int) else n)
  | _ => .error (.badInteger base s)

/-- The number of parts in base sixty. -/
def sixties (parts : List Int) : Int := parts.foldl (fun n d => 60 * n + d) 0

/-- The value of a whole number. Underscores do not count; a zero in front asks for base eight, and
colons divide digits of base sixty. -/
def readInteger (s : Text) : Except Fault Int := do
  let s := s.filter (· != '_')
  if s.isEmpty then .error .emptyNumber
  else
    let (negative, magnitude) := Binary64.splitSign s
    let n ←
      if magnitude = "0" then .ok 0
      else
        match magnitude with
        | [] => .error .emptyNumber
        | '0' :: 'b' :: digits => integerOfText 2 digits
        | '0' :: 'x' :: digits => integerOfText 16 digits
        | '0' :: _ => integerOfText 8 magnitude
        | _ =>
          if magnitude.elem ':' then
            ((Text.splitOnChar ':' magnitude).mapM (integerOfText 10)).map sixties
          else integerOfText 10 magnitude
    .ok (if negative then -n else n)

/-- A floating-point number as any reader of such numbers takes it. -/
def floatOfText (s : Text) : Except Fault Binary64 :=
  match Binary64.ofText? s with
  | some x => .ok x
  | none => .error (.badFloat s)

/-- The sum of parts in base sixty, each product and each sum rounded, from the last part on. -/
def floatSixties (parts : List Binary64) : Binary64 :=
  (parts.reverse.foldl (fun (sum, base) x =>
    (Binary64.add sum (Binary64.scale base x), 60 * base)) (Binary64.zero, 1)).1

/-- The value of a floating-point number. Underscores do not count. -/
def readFloat (s : Text) : Except Fault Binary64 := do
  let s := Text.lowerCase (s.filter (· != '_'))
  if s.isEmpty then .error .emptyNumber
  else
    let (negative, magnitude) := Binary64.splitSign s
    if magnitude = ".nan" then .ok .notANumber
    else
      let x ←
        if magnitude = ".inf" then .ok (Binary64.infinite false)
        else if magnitude.elem ':' then
          ((Text.splitOnChar ':' magnitude).mapM floatOfText).map floatSixties
        else floatOfText magnitude
      .ok (if negative then x.negate else x)

/-- The six bits of a character of base sixty-four. -/
def sixBits? (c : Char) : Option Nat :=
  if 'A' ≤ c && c ≤ 'Z' then some (c.toNat - 65)
  else if 'a' ≤ c && c ≤ 'z' then some (c.toNat - 71)
  else if c.isDigit then some (c.toNat + 4)
  else if c = '+' then some 62
  else if c = '/' then some 63
  else none

/-- The bytes of a row of six bits each. `pending` holds the bits of a group of four that is not full,
at most three of them, and `padding` counts the equals signs since the last of them. A group that has two
or three is ended by enough equals signs, and so is the text; equals signs elsewhere are passed over, as
is every character that stands for no bits. -/
def bytesOfSixes : (pending : List Nat) → (padding : Nat) → Text → Option Bytes
  | pending, _, [] => if pending.isEmpty then some [] else none
  | pending, padding, '=' :: s =>
    match pending with
    | [a, b, c] =>
      let n := (a * 64 + b) * 64 + c
      some [UInt8.ofNat (n / 1024), UInt8.ofNat (n / 4)]
    | [a, b] =>
      if padding = 0 then bytesOfSixes pending 1 s else some [UInt8.ofNat ((a * 64 + b) / 16)]
    | _ => bytesOfSixes pending padding s
  | pending, padding, x :: s =>
    match sixBits? x, pending with
    | none, _ => bytesOfSixes pending padding s
    | some d, [a, b, c] =>
      let n := ((a * 64 + b) * 64 + c) * 64 + d
      (bytesOfSixes [] 0 s).map fun more =>
        UInt8.ofNat (n / 65536) :: UInt8.ofNat (n / 256) :: UInt8.ofNat n :: more
    | some d, _ => bytesOfSixes (pending ++ [d]) 0 s

/-- The bytes of a text in base sixty-four. -/
def readBinary (s : Text) : Except Fault Bytes :=
  if s.any (127 < ·.toNat) then .error .malformed
  else
    match bytesOfSixes [] 0 s with
    | some bytes => .ok bytes
    | none => .error .malformed

/-- The value of a text under the tag of a scalar. -/
def Scalar.read (tag : Tag) (s : Text) : Except Fault Scalar :=
  match tag with
  | .null => .ok .null
  | .boolean =>
    match booleanWords.lookup (Text.lowerCase s) with
    | some b => .ok (.boolean b)
    | none => .error (.badBoolean (Text.lowerCase s))
  | .integer => (readInteger s).map .integer
  | .float => (readFloat s).map .float
  | .string => .ok (.string s)
  | .timestamp =>
    match Timestamp.read (withoutLineEnd s) with
    | .ok t => .ok (.timestamp t)
    | .error .noForm => .error .noTimestamp
    | .error (.noDate reason) => .error (.badDate reason)
  | .binary => (readBinary s).map .binary
  | _ => .error .malformed

/-- Whether a text is a spelling of the name for a value that is no number. -/
def Scalar.isNamedNotANumber (s : Text) : Bool :=
  withoutSign (Text.lowerCase (s.filter (· != '_'))) = ".nan"

/-- Whether two values are equal. Numbers of different kinds may be equal, and times are equal that are
one moment; a value that is no number is not equal to itself. -/
def Scalar.sameKey (a b : Scalar) : Bool :=
  let number? : Scalar → Option Int
    | .boolean b => some (if b then 1 else 0)
    | .integer n => some n
    | .float x => x.toInt?
    | _ => none
  match number? a, number? b, a, b with
  | some m, some n, _, _ => m = n
  | _, _, .timestamp t, .timestamp u => t.sameMoment u
  | _, _, .float .notANumber, _ => false
  | _, _, _, _ => a = b

/-- The digits of a whole number, of which there may be no more than the limit. -/
def integerText (n : Int) : Except Fault Text :=
  let digits := Text.ofNat n.natAbs
  if Json.digitLimit < digits.length then .error (.numberTooLong digits.length)
  else .ok (Text.ofInt n)

/-- The value as it is shown among others. -/
def Scalar.display : Scalar → Except Fault Text
  | .null => .ok "None"
  | .boolean b => .ok (if b then "True" else "False")
  | .integer n => integerText n
  | .float x => .ok x.toText
  | .string s => .ok (Text.quoted s)
  | .timestamp t => .ok t.display
  | .binary bytes => .ok (displayBytes bytes)
where
  /-- Bytes between quotation marks, those that are no printable character by their number. -/
  displayBytes (bytes : Bytes) : Text :=
    let chars := bytes.map fun b => Char.ofNat b.toNat
    let mark := if chars.elem '\'' && !chars.elem '"' then '"' else '\''
    let shown (c : Char) : Text :=
      if c = mark || c = '\\' then ['\\', c]
      else if c = '\n' then "\\n"
      else if c = '\r' then "\\r"
      else if c = '\t' then "\\t"
      else if 32 ≤ c.toNat && c.toNat < 127 then [c]
      else "\\x" ++ Text.hexDigits 2 c.toNat
    'b' :: mark :: chars.flatMap shown ++ [mark]

/-- The value as a text of its own: a text stands as it is. -/
def Scalar.toText : Scalar → Except Fault Text
  | .string s => .ok s
  | .timestamp t => .ok t.toText
  | value => value.display

end ReferencePages.Yaml
