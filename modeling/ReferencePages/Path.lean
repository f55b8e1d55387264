import ReferencePages.Text.Blank
/-!
Paths of files. A path is relative or starts at a root; empty parts and parts that are a single dot do
not count. Two dots stand for the directory above, and stay in a path until it is resolved.
-/

namespace ReferencePages

/-- Where a path starts. Two slashes in front are kept apart from one. -/
inductive Anchor
  | relative
  | root
  | doubleRoot
  deriving DecidableEq, Repr

/-- The anchor of a path and its parts. -/
structure Path where
  anchor : Anchor
  parts : List Text
  deriving DecidableEq, Repr

namespace Path

/-- The anchor of a text: one slash or more than two are a root. -/
def anchorOf (s : Text) : Anchor :=
  match (s.takeWhile (· == '/')).length with
  | 0 => .relative
  | 2 => .doubleRoot
  | _ => .root

/-- The parts of a text between slashes. -/
def partsOf (s : Text) : List Text :=
  (Text.splitOnChar '/' s).filter fun part => !part.isEmpty && part ≠ "."

/-- The path that a text denotes. -/
def ofText (s : Text) : Path := { anchor := anchorOf s, parts := partsOf s }

/-- The text in front of the parts. -/
def Anchor.text : Anchor → Text
  | .relative => ""
  | .root => "/"
  | .doubleRoot => "//"

/-- The text of a path; a relative path without parts is a dot. -/
def toText (p : Path) : Text :=
  match p.anchor, p.parts with
  | .relative, [] => "."
  | anchor, parts => Anchor.text anchor ++ Text.joinWith "/" parts

/-- Whether a path starts at a root. -/
def isAbsolute (p : Path) : Bool := p.anchor ≠ .relative

/-- The path of `q` as seen from `p`; an absolute path is the same from everywhere. -/
def join (p q : Path) : Path := if q.isAbsolute then q else { p with parts := p.parts ++ q.parts }

/-- The path of a text as seen from `p`. -/
def child (p : Path) (s : Text) : Path := p.join (ofText s)

/-- The last part, empty if there is none. -/
def name (p : Path) : Text := p.parts.getLast?.getD []

/-- The path without its last part. -/
def parent (p : Path) : Path := { p with parts := p.parts.dropLast }

/-- The last part without its ending behind a point; a point at either end of it does not count. -/
def stem (p : Path) : Text :=
  match Text.cutAtLast? '.' p.name with
  | some (before, ending) => if before.isEmpty || ending.isEmpty then p.name else before
  | none => p.name

/-- What follows a path above. -/
def below? (base p : Path) : Option Path :=
  if base.anchor = p.anchor && base.parts.isPrefixOf p.parts then
    some { anchor := .relative, parts := p.parts.drop base.parts.length }
  else none

/-- The parts with each pair of dots taking away what stands in front of it. -/
def collapse (parts : List Text) : List Text :=
  parts.foldl (fun (above : List Text) (part : Text) =>
    if part = ".." then above.dropLast else above ++ [part]) []

/-- The absolute path without dots, as seen from a directory given by its parts. -/
def resolve (directory : List Text) (p : Path) : Path :=
  { anchor := .root
    parts := collapse (if p.isAbsolute then p.parts else directory ++ p.parts) }

end Path
end ReferencePages
