import ReferencePages.Json
/-!
Writing JSON in ASCII, on one line or indented with sorted keys.
-/

namespace ReferencePages.Json

/-- Four hexadecimal digits. -/
def hex4 (n : Nat) : Text :=
  [Nat.digitChar (n / 4096 % 16), Nat.digitChar (n / 256 % 16), Nat.digitChar (n / 16 % 16),
   Nat.digitChar (n % 16)]

/-- A character inside quotation marks. Outside of ASCII it is written by its UTF-16 units. -/
def escapeChar (c : Char) : Text :=
  match c with
  | '"' => "\\\""
  | '\\' => "\\\\"
  | '\n' => "\\n"
  | '\r' => "\\r"
  | '\t' => "\\t"
  | '\x0c' => "\\f"
  | '\x08' => "\\b"
  | c =>
    let n := c.toNat
    if 32 ≤ n && n < 127 then [c]
    else if n < 0x10000 then "\\u" ++ hex4 n
    else
      "\\u" ++ hex4 (0xd800 + (n - 0x10000) / 0x400) ++ "\\u" ++ hex4 (0xdc00 + (n - 0x10000) % 0x400)

/-- A text in quotation marks. -/
def quote (s : Text) : Text := '"' :: s.flatMap escapeChar ++ ['"']

/-- A floating-point number; those without digits are written as words. -/
def floatText : Binary64 → Text
  | .notANumber => "NaN"
  | .infinite negative => Binary64.signText negative ++ "Infinity"
  | x => x.toText

mutual

/-- The value on one line. -/
def render : Json → Text
  | null => "null"
  | bool b => if b then "true" else "false"
  | int n => Text.ofInt n
  | float x => floatText x
  | string s => quote s
  | array items => '[' :: Text.joinWith ", " (renderItems items) ++ [']']
  | object members => '{' :: Text.joinWith ", " (renderMembers members) ++ ['}']

/-- Each item on one line. -/
def renderItems : List Json → List Text
  | [] => []
  | item :: items => render item :: renderItems items

/-- Each member on one line. -/
def renderMembers : List (Text × Json) → List Text
  | [] => []
  | (key, value) :: members => (quote key ++ ": " ++ render value) :: renderMembers members

end

/-- A line feed and two spaces for each level. -/
def newLine (level : Nat) : Text := '\n' :: List.replicate (2 * level) ' '

/-- Pieces between brackets, each on a line of its own one level deeper; nothing stands between the
brackets if there is no piece. -/
def block (opening closing : Char) (level : Nat) (pieces : List Text) : Text :=
  if pieces.isEmpty then [opening, closing]
  else
    opening :: newLine (level + 1) ++ Text.joinWith (',' :: newLine (level + 1)) pieces ++
      newLine level ++ [closing]

/-- Written members in the order of their keys. -/
def sortMembers (members : List (Text × Text)) : List (Text × Text) :=
  members.mergeSort fun a b => !Text.precedes b.1 a.1

mutual

/-- The value over several lines at a level of indentation, with sorted keys. -/
def renderIndented (level : Nat) : Json → Text
  | null => "null"
  | bool b => if b then "true" else "false"
  | int n => Text.ofInt n
  | float x => floatText x
  | string s => quote s
  | array items => block '[' ']' level (indentedItems level items)
  | object members =>
    block '{' '}' level
      ((sortMembers (indentedMembers level members)).map fun (key, value) =>
        quote key ++ ": " ++ value)

/-- Each item one level deeper. -/
def indentedItems (level : Nat) : List Json → List Text
  | [] => []
  | item :: items => renderIndented (level + 1) item :: indentedItems level items

/-- Each member's key with its value written one level deeper. -/
def indentedMembers (level : Nat) : List (Text × Json) → List (Text × Text)
  | [] => []
  | (key, value) :: members =>
    (key, renderIndented (level + 1) value) :: indentedMembers level members

end

end ReferencePages.Json
