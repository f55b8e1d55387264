import ReferencePages.Text
/-!
Lines of a text. `lines` ends a line at every character that Unicode lets end one, and reports no
empty line after a final line ending; `unifyNewlines` exchanges the two other common line endings
for the line feed, which is the form in which source files are read.
-/

namespace ReferencePages.Text

/-- The characters that end a line. -/
def isLineEnd (c : Char) : Bool :=
  let n := c.toNat
  (10 ≤ n && n ≤ 13) || (28 ≤ n && n ≤ 30) || n == 0x85 || n == 0x2028 || n == 0x2029

/-- The lines of a text without their endings; a carriage return and the line feed after it are one
ending. -/
def lines : Text → List Text
  | [] => []
  | '\r' :: '\n' :: s => [] :: lines s
  | c :: s =>
    if isLineEnd c then [] :: lines s
    else
      match lines s with
      | [] => [[c]]
      | l :: ls => (c :: l) :: ls

/-- The lines joined again, each two by a line feed. -/
def unlines (ls : List Text) : Text := joinWith ['\n'] ls

/-- A carriage return, with the line feed after it if there is one, becomes a line feed. -/
def unifyNewlines : Text → Text
  | [] => []
  | '\r' :: '\n' :: s => '\n' :: unifyNewlines s
  | c :: s => (if c = '\r' then '\n' else c) :: unifyNewlines s

/-- The part of a text before its first line feed. -/
def firstLine (s : Text) : Text := s.takeWhile (· != '\n')

/-- The rest of a line as a pattern for whole lines sees it: all of the text, a final line feed left
out; nothing if a line feed stands anywhere else. -/
def wholeLine? (s : Text) : Option Text :=
  match s.span (· != '\n') with
  | (line, []) => some line
  | (line, ['\n']) => some line
  | _ => none

end ReferencePages.Text
