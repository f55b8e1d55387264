import ReferencePages.FileTree
import ReferencePages.Failure
/-!
Patterns of paths. A star stands for any characters of a name, a question mark for one, brackets for one
of a set, and two stars for any number of directories.
-/

namespace ReferencePages

/-- One part of a pattern of names. -/
inductive NamePart
  | literal (c : Char)
  | one
  | many
  | oneOf (negated : Bool) (ranges : List (Char × Char))
  deriving DecidableEq, Repr

/-- A pattern of names is the list of its parts. -/
abbrev NamePattern := List NamePart

namespace NamePattern

/-- The ranges of a set; a character alone is a range of one. -/
def rangesOf : Text → List (Char × Char)
  | [] => []
  | a :: '-' :: b :: s => (a, b) :: rangesOf s
  | a :: s => (a, a) :: rangesOf s

/-- The set behind an opening bracket: whether it is negated, its characters, and what follows it. A
closing bracket in front belongs to the set. -/
def set? (s : Text) : Option (Bool × Text × Text) :=
  let (negated, s) := match s with
    | '!' :: s => (true, s)
    | s => (false, s)
  let (first, s) := match s with
    | ']' :: s => ([']'], s)
    | s => ([], s)
  match s.span (· != ']') with
  | (more, _ :: rest) => some (negated, first ++ more, rest)
  | _ => none

/-- The parts of a text. A bracket that is not closed stands for itself. The fuel bounds the number of
steps. -/
def ofText : (fuel : Nat) → Text → NamePattern
  | 0, _ => []
  | _, [] => []
  | fuel + 1, '*' :: s => .many :: ofText fuel s
  | fuel + 1, '?' :: s => .one :: ofText fuel s
  | fuel + 1, '[' :: s =>
    match set? s with
    | some (negated, chars, rest) => .oneOf negated (rangesOf chars) :: ofText fuel rest
    | none => .literal '[' :: ofText fuel s
  | fuel + 1, c :: s => .literal c :: ofText fuel s

/-- Whether a character is in one of the ranges. -/
def inSet (ranges : List (Char × Char)) (c : Char) : Bool :=
  ranges.any fun (a, b) => a ≤ c && c ≤ b

/-- Whether a name has the form of a pattern. -/
def matchesName : NamePattern → Text → Bool
  | [], s => s.isEmpty
  | .literal x :: parts, c :: s => x = c && matchesName parts s
  | .one :: parts, _ :: s => matchesName parts s
  | .oneOf negated ranges :: parts, c :: s => (inSet ranges c != negated) && matchesName parts s
  | .many :: parts, s => (Text.suffixes s).any (matchesName parts)
  | _ :: _, [] => false

end NamePattern

/-- One part of a pattern of paths. The end stands for the slash at the end of a pattern, which only
directories have. -/
inductive GlobPart
  | directories
  | above
  | name (s : Text)
  | pattern (p : NamePattern)
  | endSlash
  deriving DecidableEq, Repr

namespace Glob

/-- Whether a text has a sign of a pattern. -/
def isPattern (s : Text) : Bool := s.any fun c => c == '*' || c == '?' || c == '['

/-- The part of a text between slashes. -/
def partOf (s : Text) : Except Failure GlobPart :=
  if s = "**" then .ok .directories
  else if s = ".." then .ok .above
  else if Text.contains "**" s then .error .nestedStars
  else if isPattern s then .ok (.pattern (NamePattern.ofText (s.length + 1) s))
  else .ok (.name s)

/-- The parts of a pattern of paths, which is seen from a directory and may not be empty. -/
def ofText (s : Text) : Except Failure (List GlobPart) := do
  if s.isEmpty then .error (.emptyPattern s)
  else if (Path.ofText s).isAbsolute then .error .absolutePattern
  else
    let parts ← (Path.partsOf s).mapM partOf
    let ending := if s.getLast? = some '/' then [GlobPart.endSlash] else []
    if (parts ++ ending).isEmpty then .error .noPatternParts else .ok (parts ++ ending)

/-- The directories at and below a place, by the names that lead to them. -/
def directoriesBelow (t : FileTree) : (fuel : Nat) → Place → List (List Text)
  | 0, _ => []
  | fuel + 1, place =>
    [] :: (t.children place).flatMap fun (name, node) =>
      match node with
      | .directory => (directoriesBelow t fuel (place ++ [name])).map (name :: ·)
      | .file .. => []

/-- Paths below a place, each as its names; or the names that lead to one that cannot be asked about. -/
abbrev Selection := Except (List Text) (List (List Text))

/-- The selected paths, or the path of the fault, with names in front of them. -/
def Selection.below (names : List Text) : Selection → Selection
  | .ok paths => .ok (paths.map (names ++ ·))
  | .error path => .error (names ++ path)

/-- The paths of all selections, one selection after the other. -/
def Selection.all (found : List Selection) : Selection := (found.mapM id).map List.flatten

/-- The paths below a place that have the form of a pattern. A part that others follow leads to
directories only. -/
def select (t : FileTree) : List GlobPart → Place → Selection
  | [], _ => .ok [[]]
  | .endSlash :: _, _ => .ok [[]]
  | .above :: parts, place => (select t parts place.dropLast).below [".."]
  | .name s :: parts, place =>
    if FileTree.isTooLong s then .error [s]
    else
      match t.lookup (place ++ [s]) with
      | none => .ok []
      | some node =>
        if parts.isEmpty || node = .directory then (select t parts (place ++ [s])).below [s] else .ok []
  | .pattern p :: parts, place =>
    Selection.all ((t.children place).map fun (name, node) =>
      if (parts.isEmpty || node = .directory) && NamePattern.matchesName p name then
        (select t parts (place ++ [name])).below [name]
      else .ok [])
  | .directories :: parts, place =>
    (Selection.all ((directoriesBelow t (t.entries.length + 1) place).map fun names =>
      (select t parts (place ++ names)).below names)).map List.eraseDups

/-- The paths below a directory that have the form of a pattern. -/
def paths (t : FileTree) (directory : Place) (p : Path) (pattern : Text) :
    Except Failure (List Path) := do
  let parts ← ofText pattern
  match t.locate directory p with
  | .error .nameTooLong => (FileTree.failAt p .nameTooLong).mapError .file
  | .error _ => .ok []
  | .ok place =>
    if t.isDirectoryAt place then
      match select t parts place with
      | .ok found => .ok (found.map fun names => { p with parts := p.parts ++ names })
      | .error names =>
        (FileTree.failAt { p with parts := p.parts ++ names } .nameTooLong).mapError .file
    else .ok []

end Glob
end ReferencePages
