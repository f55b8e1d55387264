import ReferencePages.Text.Blank
import ReferencePages.Utf8
/-!
Bounded pieces of text: cut to a number of characters with dots at the end, cut to a number of bytes
without splitting a character, or folded into one line that fits a table.
-/

namespace ReferencePages.Excerpt

/-- The text itself if it has at most `limit` characters; else three fewer than the limit, and three
dots. -/
def truncate (text : Text) (limit : Option Int) : Text :=
  match limit with
  | none => text
  | some n => if text.length ≤ n then text else text.take (n - 3).toNat ++ "..."

/-- At most `limit` bytes of the text; a negative limit leaves out that many at the end. A character of
which some bytes are cut off is left out. -/
def bound (text : Text) (limit : Int) : Text :=
  let bytes := Utf8.encode text
  if bytes.length ≤ limit then text
  else Utf8.decodeDropping (bytes.take (if 0 ≤ limit then limit.toNat else bytes.length - limit.natAbs))

/-- The text with one space in the place of each row of spaces. -/
def collapseSpaces : Text → Text
  | [] => []
  | [c] => [c]
  | c :: d :: s => if c = ' ' && d = ' ' then collapseSpaces (d :: s) else c :: collapseSpaces (d :: s)

/-- The text as one line without bars and without rows of spaces. -/
def flattenLine (text : Text) : Text :=
  collapseSpaces ((Text.trim text).map fun c => if c = '\n' then ' ' else if c = '|' then '—' else c)

end ReferencePages.Excerpt
