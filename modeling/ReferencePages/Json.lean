import ReferencePages.Binary64
import ReferencePages.Dictionary
/-!
Values of the JSON data format. Whole numbers and floating-point numbers are kept apart.
-/

namespace ReferencePages

/-- A value of the format. -/
inductive Json
  | null
  | bool (b : Bool)
  | int (n : Int)
  | float (x : Binary64)
  | string (s : Text)
  | array (items : List Json)
  | object (members : List (Text × Json))
  deriving Repr

namespace Json

/-- The member of an object. -/
def get? (key : Text) : Json → Option Json
  | object members => Dictionary.get? key members
  | _ => none

/-- The characters of a string value. -/
def text? : Json → Option Text
  | string s => some s
  | _ => none

/-- Whether a value is the absent one. -/
def isNull : Json → Bool
  | null => true
  | _ => false

/-- Whether a value is a number. A truth value counts as one. -/
def isNumber : Json → Bool
  | bool _ | int _ | float _ => true
  | _ => false

/-- Whether a value is absent, false, zero or without content. -/
def isEmpty : Json → Bool
  | null => true
  | bool b => !b
  | int n => n == 0
  | float x => !x.isNonzero
  | string s => s.isEmpty
  | array items => items.isEmpty
  | object members => members.isEmpty

end Json
end ReferencePages
