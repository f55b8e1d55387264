import ReferencePages.Text
import ReferencePages.Text.Printable
/-!
The quoted form of a text, in which every character can be seen: it stands between apostrophes, or
between quotation marks if it has an apostrophe and no quotation mark, and a character that cannot be
shown is written by its number.
-/

namespace ReferencePages.Text

/-- A number in hexadecimal digits, at least `width` of them. -/
def hexDigits (width n : Nat) : Text :=
  let digits := Nat.toDigits 16 n
  List.replicate (width - digits.length) '0' ++ digits

/-- A character between two marks. -/
def quotedChar (mark c : Char) : Text :=
  if c = mark || c = '\\' then ['\\', c]
  else if c = '\n' then "\\n"
  else if c = '\r' then "\\r"
  else if c = '\t' then "\\t"
  else if isPrintable c then [c]
  else
    let n := c.toNat
    if n < 0x100 then "\\x" ++ hexDigits 2 n
    else if n < 0x10000 then "\\u" ++ hexDigits 4 n
    else "\\U" ++ hexDigits 8 n

/-- The quoted form. -/
def quoted (s : Text) : Text :=
  let mark := if s.elem '\'' && !s.elem '"' then '"' else '\''
  mark :: s.flatMap (quotedChar mark) ++ [mark]

end ReferencePages.Text
