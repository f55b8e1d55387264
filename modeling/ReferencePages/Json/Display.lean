import ReferencePages.Json
import ReferencePages.Text.Quoted
/-!
Values as they are shown in messages: texts in quoted form, lists in brackets, objects in braces.
-/

namespace ReferencePages.Json

mutual

/-- A value as it is shown among others. -/
def display : Json → Text
  | null => "None"
  | bool b => if b then "True" else "False"
  | int n => Text.ofInt n
  | float x => x.toText
  | string s => Text.quoted s
  | array items => '[' :: Text.joinWith ", " (displayItems items) ++ [']']
  | object members => '{' :: Text.joinWith ", " (displayMembers members) ++ ['}']

/-- Each item as it is shown. -/
def displayItems : List Json → List Text
  | [] => []
  | item :: items => display item :: displayItems items

/-- Each member as it is shown. -/
def displayMembers : List (Text × Json) → List Text
  | [] => []
  | (key, value) :: members => (Text.quoted key ++ ": " ++ display value) :: displayMembers members

end

/-- A value that stands alone: a text is shown as it is. -/
def toText : Json → Text
  | string s => s
  | value => display value

end ReferencePages.Json
