import ReferencePages.Binary64
import ReferencePages.Text.Blank
import ReferencePages.Text.Digit
/-!
Reading a floating-point number from text: an optional sign, digits with an optional point and an
optional exponent, or a word for infinity or for no number. Digits may be of any script, an underscore
may stand between two digits, and blanks around the number do not count.
-/

namespace ReferencePages.Binary64

/-- The parts of a decimal as they are written. -/
structure DecimalParts where
  whole : Text
  fraction : Text
  exponent : Int
  deriving DecidableEq, Repr

/-- The text without underscores, if each stands between two digits. -/
def dropUnderscores : (afterDigit : Bool) → Text → Option Text
  | _, [] => some []
  | afterDigit, '_' :: s =>
    match s with
    | c :: _ => if afterDigit && c.isDigit then dropUnderscores false s else none
    | [] => none
  | _, c :: s => (dropUnderscores c.isDigit s).map (c :: ·)

/-- The sign at the start of a text and what follows it. -/
def splitSign : Text → Bool × Text
  | '-' :: s => (true, s)
  | '+' :: s => (false, s)
  | s => (false, s)

/-- The exponent after the digits: nothing, or a mark, an optional sign and digits. -/
def readExponent? : Text → Option Int
  | [] => some 0
  | c :: s =>
    if c = 'e' || c = 'E' then
      let (negative, digits) := splitSign s
      (Text.toNat? digits).map fun n => if negative then -(n : Int) else n
    else none

/-- The parts of an unsigned decimal with at least one digit before its exponent. -/
def decimalParts? (s : Text) : Option DecimalParts :=
  let whole := s.takeWhile Char.isDigit
  let rest := s.dropWhile Char.isDigit
  let (fraction, rest) := match rest with
    | '.' :: r => (r.takeWhile Char.isDigit, r.dropWhile Char.isDigit)
    | r => ([], r)
  if whole.isEmpty && fraction.isEmpty then none
  else (readExponent? rest).map fun exponent => { whole, fraction, exponent }

/-- The value nearest to a decimal. -/
def ofParts (negative : Bool) (p : DecimalParts) : Binary64 :=
  ofDecimal negative ((Text.toNat? (p.whole ++ p.fraction)).getD 0)
    (p.exponent - p.fraction.length)

/-- The text with each decimal digit in its ASCII form. -/
def withAsciiDigits (s : Text) : Text :=
  s.map fun c => match Text.digitValue? c with
    | some d => Nat.digitChar d
    | none => c

/-- The value that a text denotes, if it denotes one. -/
def ofText? (s : Text) : Option Binary64 := do
  let s ← dropUnderscores false (withAsciiDigits (Text.trim s))
  let (negative, magnitude) := splitSign s
  let word := magnitude.map Char.toLower
  if word = "inf" || word = "infinity" then some (infinite negative)
  else if word = "nan" then some notANumber
  else (decimalParts? magnitude).map (ofParts negative)

end ReferencePages.Binary64
