import ReferencePages.Binary64
import ReferencePages.Dictionary
/-!
Values of the TOML configuration format, and a document under construction. A document remembers which
tables have been opened by name and which values are closed to additions, so that no value is set
twice.
-/

namespace ReferencePages

/-- A value of the format. The kinds of time carry no content, since nothing reads them. -/
inductive Toml
  | string (s : Text)
  | int (n : Int)
  | float (x : Binary64)
  | bool (b : Bool)
  | dateTime
  | date
  | time
  | array (items : List Toml)
  | table (members : List (Text × Toml))
  deriving Repr

namespace Toml

/-- Why a text is not read as a document. A whole number has a limit on its digits, and values have one on
their depth. -/
inductive ReadError
  | malformed
  | numberTooLong (digits : Nat)
  | tooDeep
  deriving DecidableEq, Repr

/-- A value in a table, if the value is a table and has the key. -/
def get? (key : Text) : Toml → Option Toml
  | table members => Dictionary.get? key members
  | _ => none

/-- Changes the table at a path of keys, creating the tables that are absent. Where `inArrays` holds,
the last table of an array stands for the array. -/
def changeAt (inArrays : Bool) (change : Dictionary Toml → Option (Dictionary Toml)) :
    (path : List Text) → Dictionary Toml → Option (Dictionary Toml)
  | [], members => change members
  | key :: path, members =>
    match Dictionary.get? key members with
    | none => (changeAt inArrays change path []).map fun t => Dictionary.set key (table t) members
    | some (table inner) =>
      (changeAt inArrays change path inner).map fun t => Dictionary.set key (table t) members
    | some (array items) =>
      if inArrays then
        match items.reverse with
        | table inner :: before =>
          (changeAt inArrays change path inner).map fun t =>
            Dictionary.set key (array (before.reverse ++ [table t])) members
        | _ => none
      else none
    | some _ => none

/-- Sets a key that has no value yet. -/
def setNew (key : Text) (value : Toml) (members : Dictionary Toml) : Option (Dictionary Toml) :=
  match Dictionary.get? key members with
  | none => some (Dictionary.set key value members)
  | some _ => none

/-- Adds an empty table to the array of a key. -/
def addTable (key : Text) (members : Dictionary Toml) : Option (Dictionary Toml) :=
  match Dictionary.get? key members with
  | none => some (Dictionary.set key (array [table []]) members)
  | some (array items) => some (Dictionary.set key (array (items ++ [table []])) members)
  | some _ => none

/-- Whether the value is closed to additions once it is written: arrays and tables in one piece. -/
def isClosed : Toml → Bool
  | array _ => true
  | table _ => true
  | _ => false

/-- A document under construction: its values, the paths opened by name, the paths to be opened when
the next section begins, and the paths that are closed with all below them. -/
structure Draft where
  members : Dictionary Toml
  opened : List (List Text)
  pending : List (List Text)
  closed : List (List Text)
  deriving Repr

namespace Draft

/-- The document without a value. -/
def empty : Draft := { members := [], opened := [], pending := [], closed := [] }

/-- Whether a path or a path above it is closed. -/
def isClosedAt (d : Draft) (path : List Text) : Bool := d.closed.any (·.isPrefixOf path)

/-- The paths that a section end opens. -/
def endSection (d : Draft) : Draft := { d with opened := d.pending ++ d.opened, pending := [] }

/-- Opens a table by name, once. -/
def openTable (d : Draft) (path : List Text) : Option Draft := do
  let d := d.endSection
  if d.opened.contains path || d.isClosedAt path then none
  else
    let members ← changeAt true some path d.members
    some { d with members, opened := path :: d.opened }

/-- Adds a table to an array of tables; what was opened or closed below the table before it is so no
longer. -/
def openArrayTable (d : Draft) (path : List Text) : Option Draft := do
  let d := d.endSection
  if d.isClosedAt path then none
  else
    let last ← path.getLast?
    let members ← changeAt true (addTable last) path.dropLast d.members
    some { d with
      members
      opened := path :: d.opened.filter (!path.isPrefixOf ·)
      closed := d.closed.filter (!path.isPrefixOf ·) }

/-- The paths strictly between a section and the last key of a dotted key. -/
def between (header key : List Text) : List (List Text) :=
  (List.range key.length).filterMap fun i => if i = 0 then none else some (header ++ key.take i)

/-- Sets a key of a section. Tables that the dotted key passes may not have been opened by name. -/
def assign (d : Draft) (header key : List Text) (value : Toml) : Option Draft := do
  let passed := between header key
  let holder := header ++ key.dropLast
  if passed.any d.opened.contains || d.isClosedAt holder then none
  else
    let last ← key.getLast?
    let members ← changeAt true (setNew last value) holder d.members
    some { d with
      members
      pending := passed ++ d.pending
      closed := if value.isClosed then (header ++ key) :: d.closed else d.closed }

end Draft
end Toml
end ReferencePages
