import ReferencePages.Text.Lines
import ReferencePages.Text.Scan
import ReferencePages.Text.Digit
/-!
Records of architectural decisions. The number comes from the file name; title, status, the sentence
that states the decision and the sections worth summarizing come from the lines of the record.
-/

namespace ReferencePages

/-- A record as its page lists it; `summary` is filled in later. -/
structure DecisionRecord where
  number : Text
  title : Text
  status : Text
  stem : Text
  decisionLine : Text
  excerpt : Text
  summary : Text
  deriving DecidableEq, Repr

namespace DecisionRecord

/-- The status of a record that names none. -/
def defaultStatus : Text := "Accepted"

/-- The digits after the letters that begin a record's name, zeros in front left out. -/
def readNumber (s : Text) : Option Text := do
  match (← Text.after? "adr-" s).takeWhile Text.isDecimalDigit with
  | [] => none
  | digits =>
    match digits.dropWhile (· == '0') with
    | [] => some "0"
    | number => some number

/-- The number in a file name, or the whole name. -/
def numberOf (stem : Text) : Text := (Text.findRead? readNumber stem).getD stem

/-- The text of a heading of the first or second level. -/
def heading? (line : Text) : Option Text := do
  let rest ← Text.after? "#" line
  Text.wholeLine? (← Text.afterBlanks? (Text.skip "#" rest))

/-- A title without the record's label and number in front. -/
def withoutLabel (title : Text) : Text :=
  match Text.after? "ADR" title with
  | none => title
  | some rest =>
    let rest := rest.dropWhile fun c => c == '-' || c == ' '
    Text.trimStart (Text.skip ":" (rest.dropWhile Text.isDecimalDigit))

/-- The title that a file name gives: the words after the number. -/
def titleOfStem (stem : Text) : Text :=
  let rest := match Text.after? "adr-" stem with
    | some rest => Text.skip "-" (rest.dropWhile Text.isDecimalDigit)
    | none => stem
  match Text.trim (Text.replaceChar '-' " " rest) with
  | [] => stem
  | title => title

/-- The first heading without its label, or the title of the file name if that leaves nothing. -/
def titleOf (ls : List Text) (stem : Text) : Text :=
  match (ls.findSome? heading?).map fun h => Text.trim (withoutLabel (Text.trim h)) with
  | some (c :: title) => c :: title
  | _ => titleOfStem stem

/-- The status that begins here. -/
def readStatus (s : Text) : Option Text := do
  let rest ← (Text.after? "Status:" s).or (Text.after? "status:" s)
  match (Text.trimStart rest).takeWhile Char.isAlpha with
  | [] => none
  | status => some status

/-- The first status named in the record. -/
def statusOf (ls : List Text) : Text :=
  (ls.findSome? (Text.findRead? readStatus)).getD defaultStatus

/-- A heading of the second level or below. -/
def isSubheading (line : Text) : Bool := Text.startsWith "##" line

/-- A second-level heading that begins with one of the words. -/
def isHeadingOf (words : List Text) (line : Text) : Bool :=
  match (Text.after? "##" line).bind Text.afterBlanks? with
  | none => false
  | some rest => words.any (Text.startsWith · rest)

/-- The heading of the section that states the decision. -/
def isDecisionHeading (line : Text) : Bool := isHeadingOf ["Decision", "decision"] line

/-- The headings of the sections worth summarizing. -/
def isExcerptHeading (line : Text) : Bool := isHeadingOf ["Context", "Decision"] line

/-- The first line of the decision section that is neither blank nor a separator. -/
def decisionLineOf : (inDecision : Bool) → List Text → Text
  | _, [] => []
  | inDecision, line :: ls =>
    if isDecisionHeading line then decisionLineOf true ls
    else if !inDecision then decisionLineOf false ls
    else if isSubheading line then []
    else
      let s := Text.trim line
      if s.isEmpty || Text.startsWith "---" s then decisionLineOf true ls else s

/-- The lines of the sections worth summarizing. -/
def excerptLines : (inSection : Bool) → List Text → List Text
  | _, [] => []
  | inSection, line :: ls =>
    if isExcerptHeading line then excerptLines true ls
    else if !inSection then excerptLines false ls
    else if isSubheading line then excerptLines false ls
    else line :: excerptLines true ls

/-- The text of the sections worth summarizing. -/
def excerptOf (ls : List Text) : Text := Text.trim (Text.unlines (excerptLines false ls))

/-- The record with a file name and a text. -/
def ofText (stem text : Text) : DecisionRecord :=
  let ls := Text.lines text
  { number := numberOf stem, title := titleOf ls stem, status := statusOf ls, stem,
    decisionLine := decisionLineOf false ls, excerpt := excerptOf ls, summary := [] }

end DecisionRecord
end ReferencePages
