import ReferencePages.Json.Reader
import ReferencePages.Utf8
/-!
The tokens of a YAML text. A reader walks over the characters with its line and column, remembers how
deep blocks are indented, and remembers where a key may have begun: when the mark of its value is found,
the token at that place is marked as a key. `Token.scan` puts the marks in their places.
-/

namespace ReferencePages.Yaml

/-- Why a text yields no value. Most faults are told apart by nobody; the others come from scalars that
have the form of a value and denote none, from mappings that stand for a scalar, or from the depth of
collections. -/
inductive Fault
  | malformed
  | tooDeep
  | timestampMapping
  | characterRange
  | characterOverflow
  | badInteger (base : Nat) (text : Text)
  | emptyNumber
  | badFloat (text : Text)
  | numberTooLong (digits : Nat)
  | badBoolean (text : Text)
  | noTimestamp
  | badDate (reason : Text)
  deriving DecidableEq, Repr

/-- The most collections that may stand inside each other. -/
def depthLimit : Nat := 488

/-- A lexical part of the text, or the beginning or the end of a block. -/
inductive Token
  | streamEnd
  | version (major minor : Nat)
  | tagHandle (handle expansion : Text)
  | otherDirective
  | documentStart
  | documentEnd
  | sequenceStart
  | mappingStart
  | blockEnd
  | flowSequenceStart
  | flowSequenceEnd
  | flowMappingStart
  | flowMappingEnd
  | blockEntry
  | flowEntry
  | key
  | value
  | alias (name : Text)
  | anchor (name : Text)
  | tag (handle : Option Text) (rest : Text)
  | scalar (text : Text) (plain : Bool)
  deriving DecidableEq, Repr

/-- Characters that end a line. Carriage returns do not occur, since a text is read with line feeds in
their place. -/
def isBreak (c : Char) : Bool := c == '\n' || c == '\u0085' || c == '\u2028' || c == '\u2029'

/-- A space, a tab, the end of a line or the end of the text. -/
def isGap : Option Char → Bool
  | none => true
  | some c => c == ' ' || c == '\t' || isBreak c

/-- A space, the end of a line or the end of the text. -/
def isSpaceOrEnd : Option Char → Bool
  | none => true
  | some c => c == ' ' || isBreak c

/-- The end of a line or of the text. -/
def isLineEndOrEnd : Option Char → Bool
  | none => true
  | some c => isBreak c

/-- What a line ending becomes inside a scalar. -/
def breakText (c : Char) : Char := if c = '\u0085' then '\n' else c

/-- The characters that may occur at all. -/
def isAllowed (c : Char) : Bool :=
  let n := c.toNat
  n == 9 || n == 10 || n == 13 || (0x20 ≤ n && n ≤ 0x7e) || n == 0x85
    || (0xa0 ≤ n && n ≤ 0xfffd) || 0x10000 ≤ n

/-- The rest of the text with the position of its first character. -/
structure Cursor where
  rest : Text
  index : Nat
  line : Nat
  column : Nat
  deriving Repr

namespace Cursor

/-- The character `n` places ahead. -/
def peek (c : Cursor) (n : Nat) : Option Char := c.rest[n]?

/-- One character on. A byte order mark takes no column. -/
def next (c : Cursor) : Cursor :=
  match c.rest with
  | [] => c
  | x :: rest =>
    if isBreak x then { rest, index := c.index + 1, line := c.line + 1, column := 0 }
    else
      { rest, index := c.index + 1, line := c.line
        column := if x = '\ufeff' then c.column else c.column + 1 }

/-- So many characters on. -/
def skip : (n : Nat) → Cursor → Cursor
  | 0, c => c
  | n + 1, c => skip n c.next

/-- The characters for which `p` holds, and the cursor after them. -/
def takeWhile (p : Char → Bool) (c : Cursor) : Text × Cursor :=
  let taken := c.rest.takeWhile p
  (taken, skip taken.length c)

/-- The cursor after the characters for which `p` holds. -/
def skipWhile (p : Char → Bool) (c : Cursor) : Cursor := (c.takeWhile p).2

/-- The cursor after spaces. -/
def skipSpaces (c : Cursor) : Cursor := c.skipWhile (· == ' ')

/-- The end of a line as it counts in a scalar, and the cursor after it. -/
def lineBreak (c : Cursor) : Text × Cursor :=
  match c.rest with
  | x :: _ => if isBreak x then ([breakText x], c.next) else ([], c)
  | [] => ([], c)

/-- Whether three dashes or three dots stand here on their own. -/
def isSeparator (c : Cursor) : Bool :=
  (Text.startsWith "---" c.rest || Text.startsWith "..." c.rest) && isGap (c.peek 3)

/-- The cursor after a comment, if there is one. -/
def skipComment (c : Cursor) : Cursor :=
  if c.peek 0 = some '#' then c.skipWhile (!isBreak ·) else c

/-- The cursor after the rest of a line that holds nothing but a comment. -/
def endLine (c : Cursor) : Except Fault Cursor :=
  let c := c.skipSpaces.skipComment
  if isLineEndOrEnd (c.peek 0) then .ok c.lineBreak.2 else .error .malformed

end Cursor

/-- The characters of a name of an anchor or a directive. -/
def isNameChar (c : Char) : Bool := c.isAlphanum || c == '-' || c == '_'

/-- A digit number as it stands in a directive. -/
def scanNumber (c : Cursor) : Except Fault (Nat × Cursor) :=
  let (digits, rest) := c.takeWhile Char.isDigit
  match Text.toNat? digits with
  | some n =>
    if Json.digitLimit < digits.length then .error (.numberTooLong digits.length) else .ok (n, rest)
  | none => .error .malformed

/-- A handle between exclamation marks, or a single exclamation mark. -/
def scanHandle (c : Cursor) : Except Fault (Text × Cursor) :=
  if c.peek 0 ≠ some '!' then .error .malformed
  else if c.peek 1 = some ' ' then .ok ("!", c.next)
  else
    let (name, rest) := c.next.takeWhile isNameChar
    if rest.peek 0 = some '!' then .ok ("!" ++ name ++ "!", rest.next) else .error .malformed

/-- The characters of a tag that stand for themselves. -/
def isTagChar (c : Char) : Bool :=
  c.isAlphanum || List.elem c ("-;/?:@&=+$,_.!~*'()[]" : Text)

/-- The bytes of a row of percent signs with two digits each. -/
def scanEscapedBytes : (fuel : Nat) → Cursor → Except Fault (Bytes × Cursor)
  | 0, c => .ok ([], c)
  | fuel + 1, c =>
    match c.rest with
    | '%' :: a :: b :: _ =>
      match Json.hexDigit? a, Json.hexDigit? b with
      | some x, some y => do
        let (more, rest) ← scanEscapedBytes fuel (c.skip 3)
        .ok (UInt8.ofNat (16 * x + y) :: more, rest)
      | _, _ => .error .malformed
    | '%' :: _ => .error .malformed
    | _ => .ok ([], c)

/-- The text of a tag, escapes replaced by their characters. -/
def scanTagText : (fuel : Nat) → Cursor → Except Fault (Text × Cursor)
  | 0, c => .ok ([], c)
  | fuel + 1, c =>
    let (plain, rest) := c.takeWhile isTagChar
    if rest.peek 0 = some '%' then do
      let (bytes, rest) ← scanEscapedBytes rest.rest.length rest
      match Utf8.decode bytes with
      | .error _ => .error .malformed
      | .ok decoded => do
        let (more, rest) ← scanTagText fuel rest
        .ok (plain ++ decoded ++ more, rest)
    else .ok (plain, rest)

/-- The text of a tag, which may not be empty. -/
def scanTagRest (c : Cursor) : Except Fault (Text × Cursor) := do
  let (text, rest) ← scanTagText (c.rest.length + 1) c
  if rest.index = c.index then .error .malformed else .ok (text, rest)

/-- A directive after its percent sign. -/
def scanDirective (c : Cursor) : Except Fault (Token × Cursor) := do
  let (name, c) := c.takeWhile isNameChar
  if name.isEmpty || !isSpaceOrEnd (c.peek 0) then .error .malformed
  else if name = "YAML" then do
    let (major, c) ← scanNumber c.skipSpaces
    if c.peek 0 ≠ some '.' then .error .malformed
    else
      let (minor, c) ← scanNumber c.next
      if !isSpaceOrEnd (c.peek 0) then .error .malformed
      else return (.version major minor, ← c.endLine)
  else if name = "TAG" then do
    let (handle, c) ← scanHandle c.skipSpaces
    if c.peek 0 ≠ some ' ' then .error .malformed
    else
      let (expansion, c) ← scanTagRest c.skipSpaces
      if !isSpaceOrEnd (c.peek 0) then .error .malformed
      else return (.tagHandle handle expansion, ← c.endLine)
  else return (.otherDirective, ← (c.skipWhile (!isBreak ·)).endLine)

/-- The name of an anchor or an alias after its indicator. -/
def scanAnchorName (c : Cursor) : Except Fault (Text × Cursor) :=
  let (name, rest) := c.takeWhile isNameChar
  let ends := match rest.peek 0 with
    | some x => isGap (some x) || List.elem x ("?:,]\x7d%@`" : Text)
    | none => true
  if name.isEmpty || !ends then .error .malformed else .ok (name, rest)

/-- A tag from its exclamation mark on. -/
def scanTag (c : Cursor) : Except Fault (Token × Cursor) := do
  let (token, rest) ←
    if c.peek 1 = some '<' then do
      let (text, rest) ← scanTagRest (c.skip 2)
      if rest.peek 0 = some '>' then .ok (Token.tag none text, rest.next) else .error .malformed
    else if isGap (c.peek 1) then .ok (Token.tag none "!", c.next)
    else if (c.next.rest.takeWhile fun x => x != ' ' && !isBreak x).elem '!' then do
      let (handle, rest) ← scanHandle c
      let (text, rest) ← scanTagRest rest
      .ok (Token.tag (some handle) text, rest)
    else do
      let (text, rest) ← scanTagRest c.next
      .ok (Token.tag (some "!") text, rest)
  if isSpaceOrEnd (rest.peek 0) then .ok (token, rest) else .error .malformed

/-- What happens to the line endings after a block scalar: all kept, one kept, or none. -/
inductive Chomping
  | keep | clip | strip
  deriving DecidableEq, Repr

/-- The chomping mark and the indentation that may stand after the mark of a block scalar. -/
def scanBlockHeader (c : Cursor) : Except Fault (Chomping × Option Nat × Cursor) :=
  let chomping? (c : Cursor) : Option Chomping × Cursor :=
    match c.peek 0 with
    | some '+' => (some .keep, c.next)
    | some '-' => (some .strip, c.next)
    | _ => (none, c)
  let digit? (c : Cursor) : Option Nat × Cursor :=
    match c.peek 0 with
    | some x => if x.isDigit then (some (x.toNat - 48), c.next) else (none, c)
    | none => (none, c)
  let (first, c) := chomping? c
  let (increment, c) := digit? c
  let (second, c) := if first.isNone && increment.isSome then chomping? c else (none, c)
  if increment = some 0 || !isSpaceOrEnd (c.peek 0) then .error .malformed
  else .ok ((first.or second).getD .clip, increment, c)

/-- Spaces up to an indentation. -/
def skipIndent (indent : Nat) : (fuel : Nat) → Cursor → Cursor
  | 0, c => c
  | fuel + 1, c =>
    if c.column < indent && c.peek 0 = some ' ' then skipIndent indent fuel c.next else c

/-- The empty lines in front of a line at an indentation. -/
def scanIndentedBreaks (indent : Nat) : (fuel : Nat) → Cursor → Text × Cursor
  | 0, c => ([], c)
  | fuel + 1, c =>
    let c := skipIndent indent indent c
    match c.lineBreak with
    | ([], c) => ([], c)
    | (b, c) =>
      let (more, c) := scanIndentedBreaks indent fuel c
      (b ++ more, c)

/-- The empty lines in front of the first line, and the deepest column met among them. -/
def scanFirstBreaks : (fuel : Nat) → (deepest : Nat) → Cursor → Text × Nat × Cursor
  | 0, deepest, c => ([], deepest, c)
  | fuel + 1, deepest, c =>
    if c.peek 0 = some ' ' then scanFirstBreaks fuel (max deepest c.next.column) c.next
    else
      match c.lineBreak with
      | ([], c) => ([], deepest, c)
      | (b, c) =>
        let (more, deepest, c) := scanFirstBreaks fuel deepest c
        (b ++ more, deepest, c)

/-- Whether a line of a folded scalar is folded with its neighbours: it does not begin with a blank. -/
def isFoldable (c : Cursor) : Bool := c.peek 0 ≠ some ' ' && c.peek 0 ≠ some '\t'

/-- The lines of a block scalar, with the last line ending and the empty lines after it. -/
def scanBlockLines (folded : Bool) (indent : Nat) :
    (fuel : Nat) → (breaks : Text) → Cursor → Text × Text × Text × Cursor
  | 0, breaks, c => ([], [], breaks, c)
  | fuel + 1, breaks, c =>
    if c.column = indent && !c.rest.isEmpty then
      let foldable := isFoldable c
      let (line, c) := c.takeWhile (!isBreak ·)
      let (ending, c) := c.lineBreak
      let (empty, c) := scanIndentedBreaks indent (c.rest.length + 1) c
      if c.column = indent && !c.rest.isEmpty then
        let joint : Text :=
          if folded && ending = ['\n'] && foldable && isFoldable c then
            if empty.isEmpty then [' '] else []
          else ending
        let (more, last, after, c) := scanBlockLines folded indent fuel empty c
        (breaks ++ line ++ joint ++ more, last, after, c)
      else (breaks ++ line, ending, empty, c)
    else ([], [], breaks, c)

/-- A block scalar after its mark, in a block indented to a column. -/
def scanBlockScalar (folded : Bool) (blockIndent : Int) (c : Cursor) :
    Except Fault (Token × Cursor) := do
  let (chomping, increment, c) ← scanBlockHeader c
  let c ← c.endLine
  let least := (max (blockIndent + 1) 1).toNat
  let (breaks, indent, c) : Text × Nat × Cursor :=
    match increment with
    | none =>
      let (breaks, deepest, c) := scanFirstBreaks (c.rest.length + 1) 0 c
      (breaks, max least deepest, c)
    | some n =>
      let (breaks, c) := scanIndentedBreaks (least + n - 1) (c.rest.length + 1) c
      (breaks, least + n - 1, c)
  let (text, last, after, c) := scanBlockLines folded indent (c.rest.length + 1) breaks c
  let ending := match chomping with
    | .strip => []
    | .clip => last
    | .keep => last ++ after
  return (.scalar (text ++ ending) false, c)

/-- The characters of escapes with one letter. -/
def escapes : List (Char × Char) :=
  [('0', '\x00'), ('a', '\x07'), ('b', '\x08'), ('t', '\t'), ('\t', '\t'), ('n', '\n'),
   ('v', '\x0b'), ('f', '\x0c'), ('r', '\r'), ('e', '\x1b'), (' ', ' '), ('"', '"'),
   ('\\', '\\'), ('/', '/'), ('N', '\u0085'), ('_', '\u00a0'), ('L', '\u2028'), ('P', '\u2029')]

/-- How many digits follow the letter of a numbered escape. -/
def escapeWidth? (c : Char) : Option Nat :=
  if c = 'x' then some 2 else if c = 'u' then some 4 else if c = 'U' then some 8 else none

/-- The character with a number. -/
def charOfNumber (n : Nat) : Except Fault Char :=
  if 0x80000000 ≤ n then .error .characterOverflow
  else if 0x110000 ≤ n then .error .characterRange
  else .ok (Json.unitChar n)

/-- The empty lines inside a quoted scalar, where no separator of documents may stand. -/
def scanQuotedBreaks : (fuel : Nat) → Cursor → Except Fault (Text × Cursor)
  | 0, c => .ok ([], c)
  | fuel + 1, c =>
    if c.isSeparator then .error .malformed
    else
      match (c.skipWhile fun x => x == ' ' || x == '\t').lineBreak with
      | ([], c) => .ok ([], c)
      | (b, c) => do
        let (more, c) ← scanQuotedBreaks fuel c
        .ok (b ++ more, c)

/-- An escape after its backslash. -/
def scanEscape (c : Cursor) : Except Fault (Text × Cursor) :=
  match c.peek 0 with
  | none => .error .malformed
  | some x =>
    match escapes.lookup x with
    | some y => .ok ([y], c.next)
    | none =>
      match escapeWidth? x with
      | some width =>
        let digits := c.next.rest.take width
        if digits.length = width && digits.all fun d => (Json.hexDigit? d).isSome then do
          let n := digits.foldl (fun n d => 16 * n + (Json.hexDigit? d).getD 0) 0
          let y ← charOfNumber n
          .ok ([y], c.skip (width + 1))
        else .error .malformed
      | none =>
        if isBreak x then scanQuotedBreaks (c.rest.length + 1) c.lineBreak.2 else .error .malformed

/-- The blanks and line endings between two words of a quoted scalar. -/
def scanQuotedGap (c : Cursor) : Except Fault (Text × Cursor) := do
  let (blanks, c) := c.takeWhile fun x => x == ' ' || x == '\t'
  if c.rest.isEmpty then .error .malformed
  else
    match c.lineBreak with
    | ([], c) => .ok (blanks, c)
    | (b, c) =>
      let (breaks, c) ← scanQuotedBreaks (c.rest.length + 1) c
      let joint : Text := if b ≠ ['\n'] then b else if breaks.isEmpty then [' '] else []
      .ok (joint ++ breaks, c)

/-- A quoted scalar after its opening mark. -/
def scanQuoted (mark : Char) : (fuel : Nat) → Cursor → Except Fault (Text × Cursor)
  | 0, _ => .error .malformed
  | fuel + 1, c =>
    match c.rest with
    | [] => .error .malformed
    | x :: rest =>
      if x = '\'' && mark = '\'' && rest.head? = some '\'' then do
        let (text, c) ← scanQuoted mark fuel (c.skip 2)
        .ok ('\'' :: text, c)
      else if x = mark then .ok ([], c.next)
      else if x = '\\' && mark = '"' then do
        let (escaped, c) ← scanEscape c.next
        let (text, c) ← scanQuoted mark fuel c
        .ok (escaped ++ text, c)
      else if x = ' ' || x = '\t' || isBreak x then do
        let (gap, c) ← scanQuotedGap c
        let (text, c) ← scanQuoted mark fuel c
        .ok (gap ++ text, c)
      else do
        let (text, c) ← scanQuoted mark fuel c.next
        .ok (x :: text, c)

/-- The number of characters of a plain scalar up to a blank or an indicator. -/
def plainLength (inFlow : Bool) : Text → Nat
  | [] => 0
  | x :: rest =>
    let ends := isGap (some x) ||
      (x = ':' && (isGap rest.head? || (inFlow && rest.head?.any (List.elem · (",[]\x7b\x7d" : Text))))) ||
      (inFlow && List.elem x (",?[]\x7b\x7d" : Text))
    if ends then 0 else plainLength inFlow rest + 1

/-- The line endings after the first one between two words of a plain scalar; nothing if a separator of
documents follows one. -/
def scanPlainBreaks : (fuel : Nat) → Cursor → Option Text × Cursor
  | 0, c => (some [], c)
  | fuel + 1, c =>
    if c.isSeparator && c.column = 0 then (none, c)
    else
      match c.skipSpaces.lineBreak with
      | ([], c) => (some [], c)
      | (b, c) =>
        let (more, c) := scanPlainBreaks fuel c
        (more.map (b ++ ·), c)

/-- What stands between two words of a plain scalar, whether a line ended in it, and the cursor after
it. -/
def scanPlainGap (c : Cursor) : Option Text × Bool × Cursor :=
  let (spaces, c) := c.takeWhile (· == ' ')
  match c.lineBreak with
  | ([], c) => (some spaces, false, c)
  | (b, c) =>
    let (breaks?, c) := scanPlainBreaks (c.rest.length + 1) c
    let gap := breaks?.map fun breaks =>
      (if b ≠ ['\n'] then b else if breaks.isEmpty then [' '] else []) ++ breaks
    (gap, true, c)

/-- The words of a plain scalar: its text, whether the last gap held a line ending, and the cursor after
it. -/
def scanPlain (inFlow : Bool) (indent : Int) :
    (fuel : Nat) → (gap : Text) → (broken : Bool) → Cursor → Text × Bool × Cursor
  | 0, _, broken, c => ([], broken, c)
  | fuel + 1, gap, broken, c =>
    let n := plainLength inFlow c.rest
    if c.peek 0 = some '#' || n = 0 then ([], broken, c)
    else
      let word := c.rest.take n
      let (next?, broken, c) := scanPlainGap (c.skip n)
      match next? with
      | some (x :: next) =>
        if c.peek 0 = some '#' || (!inFlow && (c.column : Int) < indent) then
          (gap ++ word, broken, c)
        else
          let (more, broken, c) := scanPlain inFlow indent fuel (x :: next) broken c
          (gap ++ word ++ more, broken, c)
      | _ => (gap ++ word, broken, c)

/-- A place where a key may have begun. -/
structure PossibleKey where
  tokenNumber : Nat
  required : Bool
  index : Nat
  line : Nat
  column : Nat
  deriving Repr

/-- The state of the reader. Levels of flow collections have at most one possible key each. -/
structure Scanner where
  cursor : Cursor
  flowLevel : Nat
  indent : Int
  indents : List Int
  keyAllowed : Bool
  possibleKeys : List (Nat × PossibleKey)
  reversed : List Token
  count : Nat
  /-- Numbers of tokens that begin a key, and whether a block mapping begins with the key. -/
  keyMarks : List (Nat × Bool)
  deriving Repr

namespace Scanner

/-- The reader in front of a text. -/
def start (s : Text) : Scanner :=
  { cursor := { rest := s, index := 0, line := 0, column := 0 }, flowLevel := 0, indent := -1,
    indents := [], keyAllowed := true, possibleKeys := [], reversed := [], count := 0,
    keyMarks := [] }

/-- Adds a token. -/
def emit (s : Scanner) (token : Token) : Scanner :=
  { s with reversed := token :: s.reversed, count := s.count + 1 }

/-- Adds a token of so many characters. -/
def emitHere (s : Scanner) (token : Token) (length : Nat) : Scanner :=
  { s.emit token with cursor := s.cursor.skip length }

/-- The next character. -/
def peek (s : Scanner) (n : Nat) : Option Char := s.cursor.peek n

/-- Skips spaces, comments and line endings. After a line ending a key may begin, unless a flow
collection is open. -/
def skipToToken : (fuel : Nat) → Scanner → Scanner
  | 0, s => s
  | fuel + 1, s =>
    let c := s.cursor.skipSpaces.skipComment
    match c.lineBreak with
    | ([], c) => { s with cursor := c }
    | (_, c) =>
      skipToToken fuel
        { s with cursor := c, keyAllowed := if s.flowLevel = 0 then true else s.keyAllowed }

/-- Whether a key can no longer have begun at a place: it is on another line or too far behind. -/
def isStale (s : Scanner) (k : PossibleKey) : Bool :=
  k.line ≠ s.cursor.line || 1024 < s.cursor.index - k.index

/-- Gives up the possible keys that are stale. -/
def dropStaleKeys (s : Scanner) : Except Fault Scanner :=
  if s.possibleKeys.any fun (_, k) => s.isStale k && k.required then .error .malformed
  else .ok { s with possibleKeys := s.possibleKeys.filter fun (_, k) => !s.isStale k }

/-- Ends the blocks that are indented deeper than a column. -/
def unwind (column : Int) : (fuel : Nat) → Scanner → Scanner
  | 0, s => s
  | fuel + 1, s =>
    if s.flowLevel = 0 && column < s.indent then
      unwind column fuel
        { s.emit .blockEnd with indent := s.indents.head?.getD (-1), indents := s.indents.tail }
    else s

/-- Ends the blocks that are indented deeper than a column. -/
def unwindTo (s : Scanner) (column : Int) : Scanner := unwind column (s.indents.length + 1) s

/-- Opens a block at a column, if it is deeper than the block around it. -/
def deepen (s : Scanner) (column : Nat) : Option Scanner :=
  if s.indent < column then
    some { s with indent := column, indents := s.indent :: s.indents }
  else none

/-- Gives up the possible key of the current level. -/
def dropKey (s : Scanner) : Except Fault Scanner :=
  match s.possibleKeys.lookup s.flowLevel with
  | none => .ok s
  | some k =>
    if k.required then .error .malformed
    else .ok { s with possibleKeys := s.possibleKeys.filter (·.1 ≠ s.flowLevel) }

/-- Remembers that a key may begin here. -/
def saveKey (s : Scanner) : Except Fault Scanner :=
  if s.keyAllowed then do
    let required := s.flowLevel = 0 && s.indent = s.cursor.column
    let s ← s.dropKey
    let k : PossibleKey :=
      { tokenNumber := s.count, required, index := s.cursor.index, line := s.cursor.line,
        column := s.cursor.column }
    .ok { s with possibleKeys := (s.flowLevel, k) :: s.possibleKeys }
  else .ok s

/-- Ends all blocks in front of something that stands outside of them. -/
def leaveBlocks (s : Scanner) : Except Fault Scanner := do
  let s ← (s.unwindTo (-1)).dropKey
  .ok { s with keyAllowed := false }

/-- Reads a token that may be a key or the beginning of one. -/
def readValue (s : Scanner) (scan : Cursor → Except Fault (Token × Cursor)) :
    Except Fault Scanner := do
  let s ← s.saveKey
  let (token, cursor) ← scan s.cursor
  .ok { s.emit token with cursor, keyAllowed := false }

/-- The start of a flow collection. -/
def readFlowStart (s : Scanner) (token : Token) : Except Fault Scanner := do
  let s ← s.saveKey
  if s.flowLevel = depthLimit then .error .tooDeep
  else .ok { s.emitHere token 1 with flowLevel := s.flowLevel + 1, keyAllowed := true }

/-- The end of a flow collection. -/
def readFlowEnd (s : Scanner) (token : Token) : Except Fault Scanner := do
  let s ← s.dropKey
  if s.flowLevel = 0 then .error .malformed
  else .ok { s.emitHere token 1 with flowLevel := s.flowLevel - 1, keyAllowed := false }

/-- An entry of a block sequence. -/
def readBlockEntry (s : Scanner) : Except Fault Scanner := do
  if s.flowLevel = 0 && !s.keyAllowed then .error .malformed
  else
    let s := if s.flowLevel = 0 then
        ((s.deepen s.cursor.column).map (·.emit .sequenceStart)).getD s else s
    let s ← { s with keyAllowed := true }.dropKey
    .ok (s.emitHere .blockEntry 1)

/-- The mark of a key. -/
def readKeyMark (s : Scanner) : Except Fault Scanner := do
  if s.flowLevel = 0 && !s.keyAllowed then .error .malformed
  else
    let s := if s.flowLevel = 0 then
        ((s.deepen s.cursor.column).map (·.emit .mappingStart)).getD s else s
    let s ← { s with keyAllowed := s.flowLevel = 0 }.dropKey
    .ok (s.emitHere .key 1)

/-- The mark of a value. If a key may have begun, it did. -/
def readValueMark (s : Scanner) : Except Fault Scanner := do
  match s.possibleKeys.lookup s.flowLevel with
  | some k =>
    let s := { s with possibleKeys := s.possibleKeys.filter (·.1 ≠ s.flowLevel), keyAllowed := false }
    let deeper := if s.flowLevel = 0 then s.deepen k.column else none
    let s := { deeper.getD s with keyMarks := (k.tokenNumber, deeper.isSome) :: s.keyMarks }
    .ok (s.emitHere .value 1)
  | none =>
    if s.flowLevel = 0 && !s.keyAllowed then .error .malformed
    else
      let s := if s.flowLevel = 0 then
          ((s.deepen s.cursor.column).map (·.emit .mappingStart)).getD s else s
      let s ← { s with keyAllowed := s.flowLevel = 0 }.dropKey
      .ok (s.emitHere .value 1)

/-- A block scalar. -/
def readBlockScalar (s : Scanner) (folded : Bool) : Except Fault Scanner := do
  let s ← { s with keyAllowed := true }.dropKey
  let (token, cursor) ← scanBlockScalar folded s.indent s.cursor.next
  .ok { s.emit token with cursor }

/-- A plain scalar. After a line ending in the gap behind it a key may begin. -/
def readPlain (s : Scanner) : Except Fault Scanner := do
  let s ← s.saveKey
  let (text, broken, cursor) :=
    scanPlain (s.flowLevel ≠ 0) (s.indent + 1) (s.cursor.rest.length + 1) [] false s.cursor
  .ok { s.emit (.scalar text true) with cursor, keyAllowed := broken }

/-- Whether a plain scalar can begin here. -/
def startsPlain (s : Scanner) (x : Char) : Bool :=
  let isIndicator := isGap (some x) || List.elem x ("-?:,[]\x7b\x7d#&*!|>'\"%@`" : Text)
  !isIndicator ||
    (!isGap (s.peek 1) && (x = '-' || (s.flowLevel = 0 && (x = '?' || x = ':'))))

/-- Reads what begins with a character. -/
def readToken (s : Scanner) (x : Char) : Except Fault Scanner :=
  let atLineStart := s.cursor.column = 0
  let gapFollows := isGap (s.peek 1)
  if x = '%' && atLineStart then do
    let s ← s.leaveBlocks
    let (token, cursor) ← scanDirective s.cursor.next
    .ok { s.emit token with cursor }
  else if atLineStart && s.cursor.isSeparator then do
    let s ← s.leaveBlocks
    .ok (s.emitHere (if x = '-' then .documentStart else .documentEnd) 3)
  else if x = '[' then s.readFlowStart .flowSequenceStart
  else if x = '\x7b' then s.readFlowStart .flowMappingStart
  else if x = ']' then s.readFlowEnd .flowSequenceEnd
  else if x = '\x7d' then s.readFlowEnd .flowMappingEnd
  else if x = ',' then do
    let s ← { s with keyAllowed := true }.dropKey
    .ok (s.emitHere .flowEntry 1)
  else if x = '-' && gapFollows then s.readBlockEntry
  else if x = '?' && (s.flowLevel ≠ 0 || gapFollows) then s.readKeyMark
  else if x = ':' && (s.flowLevel ≠ 0 || gapFollows) then s.readValueMark
  else if x = '*' then
    s.readValue fun c => (scanAnchorName c.next).map fun (name, c) => (.alias name, c)
  else if x = '&' then
    s.readValue fun c => (scanAnchorName c.next).map fun (name, c) => (.anchor name, c)
  else if x = '!' then s.readValue scanTag
  else if x = '|' && s.flowLevel = 0 then s.readBlockScalar false
  else if x = '>' && s.flowLevel = 0 then s.readBlockScalar true
  else if x = '\'' || x = '"' then
    s.readValue fun c =>
      (scanQuoted x (c.rest.length + 1) c.next).map fun (text, c) => (.scalar text false, c)
  else if s.startsPlain x then s.readPlain
  else .error .malformed

/-- Reads on until a token more is known, which at the end of the text is the last one. -/
def readNext (s : Scanner) : Except Fault Scanner := do
  let s ← (skipToToken (s.cursor.rest.length + 1) s).dropStaleKeys
  let s := s.unwindTo s.cursor.column
  match s.cursor.rest with
  | [] =>
    let s ← s.leaveBlocks
    .ok (s.emit .streamEnd)
  | x :: _ => s.readToken x

/-- Reads tokens up to the end of the text, or up to a fault. -/
def readAll : (fuel : Nat) → Scanner → Scanner × Option Fault
  | 0, s => (s, some .malformed)
  | fuel + 1, s =>
    match s.readNext with
    | .error fault => (s, some fault)
    | .ok next => if next.reversed.head? = some .streamEnd then (next, none) else readAll fuel next

/-- How many tokens are certain before anything more is read: those in front of the first place where a
key may still have begun. -/
def certain (s : Scanner) : Nat :=
  ((s.possibleKeys.filter fun (_, k) => !s.isStale k).map (·.2.tokenNumber)).foldl min s.count

end Scanner

/-- The tokens with the key marks in their places. -/
def placeMarks (marks : List (Nat × Bool)) : (number : Nat) → List Token → List Token
  | _, [] => []
  | number, token :: tokens =>
    let marked : List Token :=
      match marks.lookup number with
      | none => [token]
      | some true => [.mappingStart, .key, token]
      | some false => [.key, token]
    marked ++ placeMarks marks (number + 1) tokens

/-- The tokens of a text up to its end or up to a fault. A fault is met only by who reads past the
tokens in front of it. -/
structure Scan where
  tokens : List Token
  fault : Option Fault
  deriving Repr

/-- The tokens of a text. A character that may not occur is found before the first token is read. -/
def Token.scan (s : Text) : Scan :=
  if !s.all isAllowed then { tokens := [], fault := some .malformed }
  else
    let s := match s with
      | '\ufeff' :: rest => rest
      | s => s
    let (done, fault) := Scanner.readAll (s.length + 2) (Scanner.start s)
    let certain := if fault.isSome then done.certain else done.count
    { tokens := placeMarks done.keyMarks 0 (done.reversed.reverse.take certain), fault }

end ReferencePages.Yaml
