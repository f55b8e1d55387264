import ReferencePages.Text.Lines
import ReferencePages.Text.Scan
/-!
Transitions of a state machine, read from the arms of a match block. The lines between the sentinels
are cleaned, an arm whose result stands on its own line is joined into one line, and each arm
`(from | from, event(payload)) if guard => to` yields one transition for each state it starts from.
-/

namespace ReferencePages

/-- An edge of a state machine. -/
structure Transition where
  source : Text
  event : Text
  target : Text
  guard : Option Text
  deriving DecidableEq, Repr

namespace Transition

/-- The source that stands for every state that is not terminal. -/
def anyNonTerminal : Text := "state"

/-- The source that stands for every state. -/
def anyState : Text := "_"

/-- Whether the source stands for more than one state. -/
def isWildcard (t : Transition) : Bool := t.source = anyNonTerminal || t.source = anyState

/-- The lines strictly between each start sentinel and the next end sentinel. -/
def blockLines (start stop : Text) : (inside : Bool) → List Text → List Text
  | _, [] => []
  | false, line :: ls => blockLines start stop (Text.contains start line) ls
  | true, line :: ls =>
    if Text.contains stop line then blockLines start stop false ls
    else line :: blockLines start stop true ls

/-- A comment line. -/
def isComment (line : Text) : Bool := Text.startsWith "//" (Text.trimStart line)

/-- An arm that matches every remaining state: the name of the matched value with an arrow after it on
the same line. -/
def isCatchAll (line : Text) : Bool :=
  (Text.findRead? (fun s => (Text.after? "from_state" s).bind fun rest =>
    if Text.contains "=>" (Text.firstLine rest) then some () else none) line).isSome

/-- A line that returns an error. -/
def isErrorReturn (line : Text) : Bool :=
  (Text.findRead? (fun s => (Text.afterKeywords? ["return"] s).bind (Text.after? "Err")) line).isSome

/-- Whether a word begins or ends between two characters. -/
def isWordEdge (before : Option Char) (next : Char) : Bool :=
  before.any Text.isWordChar != Text.isWordChar next

/-- The line without each qualifier that stands at the edge of a word, with its two colons. `skipped`
counts the characters of a qualifier that are still to be left out. -/
def dropQualifiers (qualifiers : List Text) :
    (before : Option Char) → (skipped : Nat) → Text → Text
  | _, _, [] => []
  | _, skipped + 1, c :: s => dropQualifiers qualifiers (some c) skipped s
  | before, 0, c :: s =>
    match if isWordEdge before c then
        qualifiers.find? fun q => Text.startsWith (q ++ "::") (c :: s) else none with
    | some q => dropQualifiers qualifiers (some c) (q.length + 1) s
    | none => c :: dropQualifiers qualifiers (some c) 0 s

/-- Whether cleaning leaves a line out. -/
def isNoise (line : Text) : Bool :=
  Text.isAllBlank line || isComment line || isCatchAll line || isErrorReturn line

/-- The lines that may belong to an arm, without qualifiers and without blanks at their ends. -/
def clean (qualifiers : List Text) (ls : List Text) : List Text :=
  (ls.filter (!isNoise ·)).map fun line => dropQualifiers qualifiers none 0 (Text.trimEnd line)

/-- A line that ends in an arrow and an opening brace. -/
def opensBlock (line : Text) : Bool :=
  match (Text.trimEnd line).reverse with
  | '{' :: rest => Text.endsWith "=>" (Text.trimEnd rest.reverse)
  | _ => false

/-- A line that holds one closing brace with an optional comma. -/
def isClosingBrace (line : Text) : Bool :=
  match Text.trim line with
  | '}' :: rest => let rest := Text.trim rest; rest.isEmpty || rest = ","
  | _ => false

/-- A header that opens a block is joined with the line after it, and a closing brace after that is
left out. -/
def joinArms : List Text → List Text
  | [] => []
  | [line] => [line]
  | line :: result :: ls =>
    if opensBlock line then
      (line ++ " " ++ Text.trim result) ::
        match ls with
        | [] => []
        | closing :: rest => if isClosingBrace closing then joinArms rest else joinArms (closing :: rest)
    else line :: joinArms (result :: ls)

/-- The text without its blanks. -/
def withoutBlanks (s : Text) : Text := s.filter (!Text.isBlank ·)

/-- The text up to the first character that `stops`, where all that follows is the end of a line. -/
def cutTail (stops : Char → Bool) : Text → Text
  | [] => []
  | c :: s => if stops c && (Text.wholeLine? s).isSome then [] else c :: cutTail stops s

/-- The event between the first comma and the first closing parenthesis after it. -/
def eventOf? (arm : Text) : Option Text := do
  let (_, rest) := Text.cutAt ',' arm
  match (Text.trimStart (← rest)).span (· != ')') with
  | (c :: event, _ :: _) =>
    some (withoutBlanks (cutTail (fun c => c == '(' || c == '{') (c :: event)))
  | _ => none

/-- The sources between the opening parenthesis and the first comma. -/
def sourcesOf? (arm : Text) : Option (List Text) := do
  match Text.cutAt ',' (← Text.after? "(" arm) with
  | (c :: sources, some _) => some ((Text.splitOnChar '|' (c :: sources)).map withoutBlanks)
  | _ => none

/-- The text after the last arrow of a line. -/
def afterLastArrow? (line : Text) : Option Text :=
  (Text.splitAtFirst? (">=" : Text) line.reverse).map fun (rest, _) => rest.reverse

/-- The target after the last arrow of the first line, without a comment, braces and commas. -/
def targetOf? (arm : Text) : Option Text := do
  let first := Text.firstLine arm
  let rest := Text.trimStart ((← afterLastArrow? first) ++ arm.drop first.length)
  if rest.elem '\n' then none
  else
    let target := ((Text.splitAtFirst? "//" rest).map (·.1)).getD rest
    some (withoutBlanks (target.filter fun c => c != '{' && c != '}' && c != ','))

/-- The shortest text of at least one character that an arrow follows, blanks before the arrow left
out. -/
def untilArrow? : Text → Option Text
  | [] => none
  | c :: s =>
    if c = '\n' then none
    else if Text.startsWith "=>" (Text.trimStart s) then some [c]
    else (untilArrow? s).map (c :: ·)

/-- Reads after `n` blanks, else after fewer, but after one at least. -/
def afterSomeBlanks? (s : Text) : (n : Nat) → Option Text
  | 0 => none
  | n + 1 => (untilArrow? (s.drop (n + 1))).or (afterSomeBlanks? s n)

/-- The guard that begins here. -/
def readGuard : Text → Option Text
  | [] => none
  | c :: s =>
    if Text.isBlank c then
      (Text.after? "if" s).bind fun rest =>
        (afterSomeBlanks? rest (rest.takeWhile Text.isBlank).length).map Text.trim
    else none

/-- The transitions of one arm on one line. An arm without a source, an event or a target has none. -/
def ofArm (line : Text) : List Transition :=
  let arm := Text.trim line
  if Text.startsWith "(" arm && Text.contains "=>" arm then
    match sourcesOf? arm, eventOf? arm, targetOf? arm with
    | some sources, some event, some target =>
      if event.isEmpty || target.isEmpty then []
      else
        (sources.filter (!·.isEmpty)).map fun source =>
          { source, event, target, guard := Text.findRead? readGuard arm }
    | _, _, _ => []
  else []

/-- How a source file marks its match block, and the qualifiers of its names. -/
structure Settings where
  qualifiers : List Text
  start : Text
  stop : Text
  deriving DecidableEq, Repr

/-- The sentinels used where none are given. -/
def Settings.standard (qualifiers : List Text) : Settings :=
  { qualifiers, start := "let target = match", stop := "Ok(target)" }

/-- The transitions of a source text, in order. -/
def extract (settings : Settings) (text : Text) : List Transition :=
  (joinArms (clean settings.qualifiers
    (blockLines settings.start settings.stop false (Text.lines text)))).flatMap ofArm

end Transition
end ReferencePages
