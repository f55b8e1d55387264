import ReferencePages.Toml
import ReferencePages.Text.Digit
import ReferencePages.Json.Reader
/-!
Reading TOML: statements one after the other, each a section header or a key with its value.
-/

namespace ReferencePages.Toml

/-- The text without the blanks of one line. -/
def skipBlanks (s : Text) : Text := s.dropWhile fun c => c == ' ' || c == '\t'

/-- The text without blanks and line feeds. -/
def skipSpace (s : Text) : Text := s.dropWhile fun c => c == ' ' || c == '\t' || c == '\n'

/-- Control characters, which stand nowhere but for the tab. -/
def isControl (c : Char) : Bool := (c.toNat < 32 && c != '\t') || c.toNat == 127

/-- The text after a comment, if there is one. -/
def skipComment : Text → Except ReadError Text
  | '#' :: s =>
    if (s.takeWhile (· != '\n')).any isControl then .error .malformed
    else .ok (s.dropWhile (· != '\n'))
  | s => .ok s

/-- The text after blanks, line feeds and comments, as they may stand inside an array. -/
def skipArraySpace : (fuel : Nat) → Text → Except ReadError Text
  | 0, s => .ok s
  | fuel + 1, s =>
    match skipSpace s with
    | '#' :: rest => (skipComment ('#' :: rest)).bind (skipArraySpace fuel)
    | rest => .ok rest

/-- Where a reader of a quoted string stands: in its characters, after a backslash, between a backslash
and the end of its line, in the space after such a line, or in a number of so many more digits. -/
inductive StringMode
  | plain
  | escape
  | untilLineEnd
  | overSpace
  | hex (more : Nat) (value : Nat)
  deriving DecidableEq, Repr

/-- The character of an escape with one letter. -/
def simpleEscape? (c : Char) : Option Char :=
  match c with
  | 'b' => some '\x08'
  | 't' => some '\t'
  | 'n' => some '\n'
  | 'f' => some '\x0c'
  | 'r' => some '\r'
  | '"' => some '"'
  | '\\' => some '\\'
  | _ => none

/-- Whether a number is that of a character. -/
def isScalar (n : Nat) : Bool := n < 0xd800 || (0xe000 ≤ n && n < 0x110000)

/-- A character in front of what is read after it. -/
def withChar (c : Char) (reading : Option (Text × Text)) : Option (Text × Text) :=
  reading.map fun (s, rest) => (c :: s, rest)

/-- The characters up to the quotation mark, or the three, that end a string. -/
def readQuoted (multiline : Bool) : StringMode → Text → Option (Text × Text)
  | _, [] => none
  | .escape, c :: s =>
    if c = 'u' then readQuoted multiline (.hex 3 0) s
    else if c = 'U' then readQuoted multiline (.hex 7 0) s
    else
      match simpleEscape? c with
      | some x => withChar x (readQuoted multiline .plain s)
      | none =>
        if multiline && (c = ' ' || c = '\t') then readQuoted multiline .untilLineEnd s
        else if multiline && c = '\n' then readQuoted multiline .overSpace s
        else none
  | .untilLineEnd, c :: s =>
    if c = ' ' || c = '\t' then readQuoted multiline .untilLineEnd s
    else if c = '\n' then readQuoted multiline .overSpace s
    else none
  | .hex more value, c :: s =>
    match Json.hexDigit? c, more with
    | none, _ => none
    | some d, 0 =>
      let n := value * 16 + d
      if isScalar n then withChar (Char.ofNat n) (readQuoted multiline .plain s) else none
    | some d, more + 1 => readQuoted multiline (.hex more (value * 16 + d)) s
  | mode, c :: s =>
    if mode = .overSpace && (c = ' ' || c = '\t' || c = '\n') then readQuoted multiline .overSpace s
    else if c = '"' then
      if !multiline then some ([], s)
      else
        match Text.after? "\"\"" s with
        | some rest => some ([], rest)
        | none => withChar c (readQuoted multiline .plain s)
    else if c = '\\' then readQuoted multiline .escape s
    else if isControl c && !(multiline && c = '\n') then none
    else withChar c (readQuoted multiline .plain s)

/-- The characters up to the mark that ends a literal string. -/
def readLiteral (mark : Text) (multiline : Bool) (s : Text) : Option (Text × Text) :=
  (Text.splitAtFirst? mark s).bind fun (text, rest) =>
    if text.any fun c => isControl c && !(multiline && c = '\n') then none else some (text, rest)

/-- Up to two further marks at the end of a multi-line string belong to its text. -/
def withFurtherMarks (mark : Char) : Text × Text → Text × Text
  | (text, rest) =>
    let more := (rest.take 2).takeWhile (· == mark)
    (text ++ more, rest.drop more.length)

/-- The string that begins here. -/
def readString? (s : Text) : Option (Option (Text × Text)) :=
  match Text.after? "\"\"\"" s, Text.after? "'''" s, s with
  | some t, _, _ => some ((readQuoted true .plain (Text.skip "\n" t)).map (withFurtherMarks '"'))
  | _, some t, _ => some ((readLiteral "'''" true (Text.skip "\n" t)).map (withFurtherMarks '\''))
  | _, _, '"' :: t => some (readQuoted false .plain t)
  | _, _, '\'' :: t => some (readLiteral "'" false t)
  | _, _, _ => none

/-- The characters of a key without quotation marks. -/
def isBareKeyChar (c : Char) : Bool := c.isAlphanum || c == '-' || c == '_'

/-- One part of a key. -/
def readKeyPart (s : Text) : Option (Text × Text) :=
  match s with
  | '"' :: t => readQuoted false .plain t
  | '\'' :: t => readLiteral "'" false t
  | _ =>
    match s.takeWhile isBareKeyChar with
    | [] => none
    | key => some (key, s.dropWhile isBareKeyChar)

/-- The parts of a key, and the text after it and its blanks. -/
def readKey : (fuel : Nat) → Text → Option (List Text × Text)
  | 0, _ => none
  | fuel + 1, s => do
    let (part, rest) ← readKeyPart s
    match skipBlanks rest with
    | '.' :: rest => do
      let (parts, rest) ← readKey fuel (skipBlanks rest)
      some (part :: parts, rest)
    | rest => some ([part], rest)

/-- A number of exactly so many digits. -/
def readDigits? (count : Nat) (s : Text) : Option (Nat × Text) :=
  let digits := s.take count
  if digits.length = count then (Text.toNat? digits).map fun n => (n, s.drop count) else none

/-- Hours, minutes and seconds with an optional fraction; what follows them. -/
def afterTime? (s : Text) : Option Text := do
  let (hour, s) ← readDigits? 2 s
  let (minute, s) ← readDigits? 2 (← Text.after? ":" s)
  let (second, s) ← readDigits? 2 (← Text.after? ":" s)
  if 24 ≤ hour || 60 ≤ minute || 60 ≤ second then none
  else
    match s with
    | '.' :: c :: rest => if c.isDigit then some (rest.dropWhile Char.isDigit) else some s
    | _ => some s

/-- What follows a distance from universal time; the text itself if there is none. -/
def afterOffset (s : Text) : Text :=
  match s with
  | c :: rest =>
    if c = 'Z' || c = 'z' then rest
    else if c = '+' || c = '-' then
      (do
        let (hour, t) ← readDigits? 2 rest
        let (minute, t) ← readDigits? 2 (← Text.after? ":" t)
        if 24 ≤ hour || 60 ≤ minute then none else some t : Option Text).getD s
    else s
  | [] => []

/-- The number of days of a month. -/
def daysInMonth (year month : Nat) : Nat :=
  if month = 2 then
    if year % 4 = 0 && (year % 100 ≠ 0 || year % 400 = 0) then 29 else 28
  else if month = 4 || month = 6 || month = 9 || month = 11 then 30
  else 31

/-- A date with an optional time; an error if there is no such day. -/
def readDate? (s : Text) : Option (Except ReadError (Toml × Text)) := do
  let (year, s) ← readDigits? 4 s
  let (month, s) ← readDigits? 2 (← Text.after? "-" s)
  let (day, s) ← readDigits? 2 (← Text.after? "-" s)
  if month = 0 || 12 < month || day = 0 || 31 < day then none
  else
    let (value, rest) : Toml × Text :=
      match s with
      | c :: t =>
        if c = 'T' || c = 't' || c = ' ' then
          match afterTime? t with
          | some rest => (.dateTime, afterOffset rest)
          | none => (.date, s)
        else (.date, s)
      | [] => (.date, [])
    some (if year = 0 || daysInMonth year month < day then .error .malformed else .ok (value, rest))

/-- Digits for which `isDigit` holds, with single underscores between them; what follows them. -/
def readGrouped (isDigit : Char → Bool) : Text → Text × Text
  | [] => ([], [])
  | c :: s =>
    if isDigit c then
      let (digits, rest) := readGrouped isDigit s
      (c :: digits, rest)
    else
      match c, s with
      | '_', d :: t =>
        if isDigit d then
          let (digits, rest) := readGrouped isDigit t
          (d :: digits, rest)
        else ([], c :: s)
      | _, _ => ([], c :: s)

/-- Grouped digits that begin with a digit. -/
def readGroup? (isDigit : Char → Bool) (s : Text) : Option (Text × Text) :=
  match s with
  | c :: _ => if isDigit c then some (readGrouped isDigit s) else none
  | [] => none

/-- The number of digits in a base. -/
def valueInBase (base : Nat) (digits : Text) : Nat :=
  digits.foldl (fun n c => n * base + (Json.hexDigit? c).getD 0) 0

/-- A whole number in base sixteen, two or eight. -/
def readBased? (s : Text) : Option (Toml × Text) :=
  let read (mark : Text) (base : Nat) (isDigit : Char → Bool) : Option (Toml × Text) := do
    let (digits, rest) ← readGroup? isDigit (← Text.after? mark s)
    some (.int (valueInBase base digits), rest)
  ((read "0x" 16 fun c => (Json.hexDigit? c).isSome).or
    (read "0b" 2 fun c => c == '0' || c == '1')).or
    (read "0o" 8 fun c => '0' ≤ c && c ≤ '7')

/-- The fraction behind a point. -/
def readFraction (s : Text) : Text × Text :=
  match s with
  | '.' :: t => (readGroup? Char.isDigit t).getD ([], s)
  | _ => ([], s)

/-- The exponent behind its mark. -/
def readExponent (s : Text) : Option Int × Text :=
  match s with
  | c :: t =>
    if c = 'e' || c = 'E' then
      let (negative, t) := Binary64.splitSign t
      match readGroup? Char.isDigit t with
      | some (digits, rest) =>
        let n : Int := (Text.toNat? digits).getD 0
        (some (if negative then -n else n), rest)
      | none => (none, s)
    else (none, s)
  | [] => (none, [])

/-- A number in base ten. -/
def readDecimal (s : Text) : Except ReadError (Toml × Text) :=
  let (negative, t) := Binary64.splitSign s
  let whole? := match t with
    | '0' :: rest => some (['0'], rest)
    | t => readGroup? Char.isDigit t
  match whole? with
  | none => .error .malformed
  | some (whole, rest) =>
    let (fraction, rest) := readFraction rest
    let (exponent?, rest) := readExponent rest
    if fraction.isEmpty && exponent?.isNone then
      if Json.digitLimit < whole.length then .error (.numberTooLong whole.length)
      else
        let n : Int := (Text.toNat? whole).getD 0
        .ok (.int (if negative then -n else n), rest)
    else
      .ok (.float (Binary64.ofParts negative { whole, fraction, exponent := exponent?.getD 0 }), rest)

/-- The words that stand for a value. -/
def words : List (Text × Toml) :=
  [("true", .bool true), ("false", .bool false), ("inf", .float (.infinite false)),
   ("+inf", .float (.infinite false)), ("-inf", .float (.infinite true)),
   ("nan", .float .notANumber), ("+nan", .float .notANumber), ("-nan", .float .notANumber)]

/-- A word, a time or a number. -/
def readScalar (s : Text) : Except ReadError (Toml × Text) :=
  match words.findSome? fun (word, value) => (Text.after? word s).map fun rest => (value, rest) with
  | some found => .ok found
  | none =>
    match readDate? s with
    | some reading => reading
    | none =>
      match afterTime? s with
      | some rest => .ok (.time, rest)
      | none =>
        match readBased? s with
        | some found => .ok found
        | none => readDecimal s

/-- Sets the key of a table in one piece; a value in one piece is closed to additions. -/
def assignInline (members : Dictionary Toml) (closed : List (List Text)) (key : List Text)
    (value : Toml) : Option (Dictionary Toml × List (List Text)) := do
  if closed.any (·.isPrefixOf key) then none
  else
    let last ← key.getLast?
    let members ← changeAt false (setNew last value) key.dropLast members
    some (members, if value.isClosed then key :: closed else closed)

/-- How deep values may be nested: an array takes two of it, and a table in braces takes three. -/
def depthLimit : Nat := 980

mutual

/-- The value that begins here, with the room that is left for nesting. The fuel bounds the number of
steps. -/
def readValue : (fuel : Nat) → (room : Nat) → Text → Except ReadError (Toml × Text)
  | 0, _, _ => .error .malformed
  | fuel + 1, room, s =>
    match readString? s, s with
    | some (some (text, rest)), _ => .ok (.string text, rest)
    | some none, _ => .error .malformed
    | none, '[' :: t => do
      if room < 2 then .error .tooDeep
      else
        let t ← skipArraySpace (t.length + 1) t
        let (items, rest) ← readItems fuel (room - 2) t
        .ok (.array items, rest)
    | none, '{' :: t =>
      if room < 3 then .error .tooDeep
      else
        match skipBlanks t with
        | '}' :: rest => .ok (.table [], rest)
        | t => readInline fuel (room - 3) [] [] t
    | none, _ => readScalar s

/-- The items up to the closing bracket; a comma may stand after the last one. -/
def readItems : (fuel : Nat) → (room : Nat) → Text → Except ReadError (List Toml × Text)
  | 0, _, _ => .error .malformed
  | fuel + 1, room, s =>
    match s with
    | ']' :: rest => .ok ([], rest)
    | _ => do
      let (item, rest) ← readValue fuel room s
      let rest ← skipArraySpace (rest.length + 1) rest
      match rest with
      | ']' :: rest => .ok ([item], rest)
      | ',' :: rest => do
        let rest ← skipArraySpace (rest.length + 1) rest
        let (items, rest) ← readItems fuel room rest
        .ok (item :: items, rest)
      | _ => .error .malformed

/-- The members up to the closing brace. -/
def readInline : (fuel : Nat) → (room : Nat) → Dictionary Toml → List (List Text) → Text →
    Except ReadError (Toml × Text)
  | 0, _, _, _, _ => .error .malformed
  | fuel + 1, room, members, closed, s =>
    match readKey (s.length + 1) s with
    | some (key, '=' :: rest) => do
      let (value, rest) ← readValue fuel room (skipBlanks rest)
      match assignInline members closed key value with
      | none => .error .malformed
      | some (members, closed) =>
        match skipBlanks rest with
        | '}' :: rest => .ok (.table members, rest)
        | ',' :: rest => readInline fuel room members closed (skipBlanks rest)
        | _ => .error .malformed
    | _ => .error .malformed

end

/-- The end of a statement: blanks, a comment, and the end of the line or of the text. -/
def endStatement (s : Text) : Except ReadError Text := do
  match ← skipComment (skipBlanks s) with
  | [] => .ok []
  | '\n' :: rest => .ok rest
  | _ => .error .malformed

/-- A value that must be there. -/
def required {α : Type} (value : Option α) : Except ReadError α :=
  match value with
  | some a => .ok a
  | none => .error .malformed

/-- One statement: the document after it, the section it stands in, and the rest of the text. -/
def readStatement (draft : Draft) (header : List Text) (s : Text) :
    Except ReadError (Draft × List Text × Text) :=
  match s with
  | '[' :: '[' :: t => do
    let (path, rest) ← required (readKey (t.length + 1) (skipBlanks t))
    let draft ← required (draft.openArrayTable path)
    let rest ← required (Text.after? "]]" rest)
    .ok (draft, path, rest)
  | '[' :: t => do
    let (path, rest) ← required (readKey (t.length + 1) (skipBlanks t))
    let draft ← required (draft.openTable path)
    let rest ← required (Text.after? "]" rest)
    .ok (draft, path, rest)
  | '#' :: _ => .ok (draft, header, s)
  | _ => do
    let (key, rest) ← required (readKey (s.length + 1) s)
    let rest ← required (Text.after? "=" rest)
    let (value, rest) ← readValue (2 * rest.length + 2) depthLimit (skipBlanks rest)
    let draft ← required (draft.assign header key value)
    .ok (draft, header, rest)

/-- The statements of the text, added to a document. The fuel bounds the number of lines. -/
def readStatements : (fuel : Nat) → Draft → List Text → Text → Except ReadError (Dictionary Toml)
  | 0, _, _, _ => .error .malformed
  | fuel + 1, draft, header, s =>
    match skipBlanks s with
    | [] => .ok draft.members
    | '\n' :: rest => readStatements fuel draft header rest
    | s => do
      let (draft, header, rest) ← readStatement draft header s
      let rest ← endStatement rest
      readStatements fuel draft header rest

/-- A carriage return in front of a line feed does not count. -/
def dropReturns : Text → Text
  | '\r' :: '\n' :: s => '\n' :: dropReturns s
  | c :: s => c :: dropReturns s
  | [] => []

/-- The document that a text denotes. -/
def read (s : Text) : Except ReadError (Dictionary Toml) :=
  let s := dropReturns s
  readStatements (s.length + 1) .empty [] s

end ReferencePages.Toml
