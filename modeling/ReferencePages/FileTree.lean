import ReferencePages.Path
import ReferencePages.Utf8
import ReferencePages.Text.Quoted
/-!
A tree of files, held as the contents of each place below the root. A place is given by the names that
lead to it, so that what one operation leaves alone is said by comparing places.
-/

namespace ReferencePages

/-- What stands at a place: a directory, or a file with its permission bits and its contents. -/
inductive Node
  | directory
  | file (mode : Nat) (contents : Bytes)
  deriving DecidableEq, Repr

/-- The names that lead from the root to a node. -/
abbrev Place := List Text

/-- Why an operation on files is refused. -/
inductive FileFault
  | notFound
  | alreadyThere
  | notADirectory
  | isADirectory
  | busy
  | nameTooLong
  deriving DecidableEq, Repr

/-- A refused operation with the path that was asked for, and the second path of a replacement. -/
structure FileError where
  fault : FileFault
  path : Text
  target : Option Text
  deriving DecidableEq, Repr

/-- The number and the words of a fault. -/
def FileFault.text : FileFault → Text
  | notFound => "[Errno 2] No such file or directory"
  | alreadyThere => "[Errno 17] File exists"
  | notADirectory => "[Errno 20] Not a directory"
  | isADirectory => "[Errno 21] Is a directory"
  | busy => "[Errno 16] Device or resource busy"
  | nameTooLong => "[Errno 36] File name too long"

/-- The error in words. -/
def FileError.message (e : FileError) : Text :=
  e.fault.text ++ ": " ++ Text.quoted e.path ++
    (match e.target with
      | some target => " -> " ++ Text.quoted target
      | none => "")

/-- The nodes of a tree below its root; each place is listed once. -/
structure FileTree where
  entries : List (Place × Node)
  deriving Repr

namespace FileTree

/-- The first node listed for a place. -/
def find? (place : Place) : List (Place × Node) → Option Node
  | [] => none
  | (p, node) :: rest => if p = place then some node else find? place rest

/-- What stands at a place. The root is a directory. -/
def lookup (t : FileTree) (place : Place) : Option Node :=
  if place = [] then some .directory else find? place t.entries

/-- The permission bits and the contents of the file at a place, if a file stands there. -/
def fileAt (t : FileTree) (place : Place) : Option (Nat × Bytes) :=
  match t.lookup place with
  | some (.file mode contents) => some (mode, contents)
  | _ => none

/-- A list of nodes with another node at a place. -/
def replaceAt (place : Place) (node : Node) : List (Place × Node) → List (Place × Node)
  | [] => [(place, node)]
  | (p, n) :: rest => if p = place then (place, node) :: rest else (p, n) :: replaceAt place node rest

/-- The tree with another node at a place. -/
def set (t : FileTree) (place : Place) (node : Node) : FileTree :=
  { entries := replaceAt place node t.entries }

/-- The tree with nothing at a place. -/
def erase (t : FileTree) (place : Place) : FileTree :=
  { entries := t.entries.filter (·.1 ≠ place) }

/-- The tree with nothing at a place and below it. -/
def eraseBelow (t : FileTree) (place : Place) : FileTree :=
  { entries := t.entries.filter (!place.isPrefixOf ·.1) }

/-- Whether a directory stands at a place. -/
def isDirectoryAt (t : FileTree) (place : Place) : Bool := t.lookup place = some .directory

/-- The most bytes that a name may have. -/
def nameLimit : Nat := 255

/-- Whether a name has more bytes than a name may have. -/
def isTooLong (name : Text) : Bool := nameLimit < (Utf8.encode name).length

/-- The place that the parts lead to from a place, where every part but the last leads through a
directory. -/
def walk (t : FileTree) : (here : Place) → (parts : List Text) → Except FileFault Place
  | here, [] => .ok here
  | here, part :: parts =>
    match t.lookup here with
    | none => .error .notFound
    | some (.file ..) => .error .notADirectory
    | some .directory =>
      if part = ".." then walk t here.dropLast parts
      else if isTooLong part then .error .nameTooLong
      else if (t.lookup (here ++ [part])).isNone then .error .notFound
      else walk t (here ++ [part]) parts

/-- Where a path begins, as seen from a working directory. -/
def start (directory : Place) (p : Path) : Place := if p.isAbsolute then [] else directory

/-- The most bytes that the text of a path may have. -/
def pathLimit : Nat := 4095

/-- Whether the text of a path has more bytes than it may have. -/
def isPathTooLong (p : Path) : Bool := pathLimit < (Utf8.encode p.toText).length

/-- The place of a path that leads to a node. -/
def locate (t : FileTree) (directory : Place) (p : Path) : Except FileFault Place :=
  if isPathTooLong p then .error .nameTooLong else t.walk (start directory p) p.parts

/-- The place of a path whose last part need not be there yet. -/
def locateNew (t : FileTree) (directory : Place) (p : Path) : Except FileFault Place :=
  match p.parts.getLast? with
  | none => .ok (start directory p)
  | some last =>
    if last = ".." then t.locate directory p
    else if isPathTooLong p then .error .nameTooLong
    else
      match t.walk (start directory p) p.parts.dropLast with
      | .error fault => .error fault
      | .ok above =>
        match t.lookup above with
        | some .directory => if isTooLong last then .error .nameTooLong else .ok (above ++ [last])
        | some (.file ..) => .error .notADirectory
        | none => .error .notFound

/-- What a path leads to. -/
def node? (t : FileTree) (directory : Place) (p : Path) : Option Node :=
  match t.locate directory p with
  | .ok place => t.lookup place
  | .error _ => none

/-- Whether a path leads to a file. -/
def isFile (t : FileTree) (directory : Place) (p : Path) : Bool :=
  match t.node? directory p with
  | some (.file ..) => true
  | _ => false

/-- Whether a path leads to a directory. -/
def isDirectory (t : FileTree) (directory : Place) (p : Path) : Bool :=
  t.node? directory p = some .directory

/-- Whether a path leads to anything. -/
def isThere (t : FileTree) (directory : Place) (p : Path) : Bool := (t.node? directory p).isSome

/-- A fault with the path that met it. -/
def failAt {α : Type} (p : Path) (fault : FileFault) : Except FileError α :=
  .error { fault, path := p.toText, target := none }

/-- The contents of the file at the end of a path. -/
def read (t : FileTree) (directory : Place) (p : Path) : Except FileError Bytes :=
  match t.locate directory p with
  | .error fault => failAt p fault
  | .ok place =>
    match t.lookup place with
    | some (.file _ contents) => .ok contents
    | some .directory => failAt p .isADirectory
    | none => failAt p .notFound

/-- The permission bits of a new file, where the mask takes bits away. -/
def newFileMode (mask : Nat) : Nat := 0o666 &&& (0o777 ^^^ (mask &&& 0o777))

/-- Writes a file as a whole. A file that is there keeps its permission bits. -/
def write (t : FileTree) (mask : Nat) (directory : Place) (p : Path) (contents : Bytes) :
    Except FileError FileTree :=
  match t.locateNew directory p with
  | .error fault => failAt p fault
  | .ok place =>
    match t.lookup place with
    | some .directory => failAt p .isADirectory
    | some (.file mode _) => .ok (t.set place (.file mode contents))
    | none => .ok (t.set place (.file (newFileMode mask) contents))

/-- Makes an empty file unless a file is there already. -/
def touch (t : FileTree) (mask : Nat) (directory : Place) (p : Path) : Except FileError FileTree :=
  match t.read directory p with
  | .ok _ => .ok t
  | .error _ => t.write mask directory p []

/-- Makes a directory at the end of a path. -/
def makeDirectory (t : FileTree) (directory : Place) (p : Path) : Except FileFault FileTree :=
  match t.locateNew directory p with
  | .error fault => .error fault
  | .ok place =>
    if (t.lookup place).isSome then .error .alreadyThere else .ok (t.set place .directory)

/-- What remains of a fault that a directory at the end of the path makes up for. -/
def unlessDirectory (t : FileTree) (directory : Place) (p : Path) (fault : FileFault) :
    Option FileError :=
  if t.isDirectory directory p then none else some { fault, path := p.toText, target := none }

/-- Makes the directories of a path, given by its anchor and its parts from the last to the first. The
directories above are made where one is missing. What was made before a fault stays. -/
def makeAll (directory : Place) (anchor : Anchor) :
    FileTree → (reversed : List Text) → FileTree × Option FileError
  | t, [] => (t, t.unlessDirectory directory { anchor, parts := [] } .alreadyThere)
  | t, last :: above =>
    let p : Path := { anchor, parts := (last :: above).reverse }
    match t.makeDirectory directory p with
    | .ok made => (made, none)
    | .error .notFound =>
      match makeAll directory anchor t above with
      | (t, some e) => (t, some e)
      | (t, none) =>
        match t.makeDirectory directory p with
        | .ok made => (made, none)
        | .error .notFound => (t, some { fault := .notFound, path := p.toText, target := none })
        | .error fault => (t, t.unlessDirectory directory p fault)
    | .error fault => (t, t.unlessDirectory directory p fault)

/-- Makes a directory and those above it; a directory that is there is left as it is. -/
def makeDirectories (t : FileTree) (directory : Place) (p : Path) : FileTree × Option FileError :=
  makeAll directory p.anchor t p.parts.reverse

/-- The tree with a directory and those above it. Where that is refused, the tree is left as it is. -/
def addDirectory (t : FileTree) (directory : Place) (p : Path) : FileTree :=
  match t.makeDirectories directory p with
  | (made, none) => made
  | (_, some _) => t

/-- The tree with a file and the directories above it. Where that is refused, the tree is left as it
is. -/
def addFile (t : FileTree) (mask : Nat) (directory : Place) (p : Path) (contents : Bytes) : FileTree :=
  match (t.addDirectory directory p.parent).write mask directory p contents with
  | .ok written => written
  | .error _ => t

/-- The tree with other permission bits of the file at a place. -/
def setMode (t : FileTree) (place : Place) (mode : Nat) : FileTree :=
  match t.lookup place with
  | some (.file _ contents) => t.set place (.file mode contents)
  | _ => t

/-- The files that are new since an earlier tree or have other contents than in it. -/
def changedSince (t earlier : FileTree) : List (Place × Bytes) :=
  t.entries.filterMap fun (place, node) =>
    match node, earlier.lookup place with
    | .file _ contents, some (.file _ old) => if contents = old then none else some (place, contents)
    | .file _ contents, _ => some (place, contents)
    | .directory, _ => none

/-- The nodes directly below a place with their names. -/
def children (t : FileTree) (place : Place) : List (Text × Node) :=
  t.entries.filterMap fun (p, node) =>
    match p.getLast? with
    | some name => if p.dropLast = place then some (name, node) else none
    | none => none

/-- The length of the longest name in the tree. -/
def longestName (t : FileTree) : Nat :=
  (t.entries.map fun (p, _) => ((p.getLast?.getD []).length)).foldl max 0

/-- The free part of a fresh name. -/
def freshPart : Text := List.replicate 8 '0'

/-- A name that no node of the tree has, between a given start and a given end. It is as short as fresh
names are, or else longer than all names. -/
def freshName (t : FileTree) (first last : Text) : Text :=
  let short := first ++ freshPart ++ last
  if t.entries.any fun (p, _) => p.getLast? = some short then
    first ++ List.replicate (t.longestName + 1) '0' ++ last
  else short

/-- The path of a node that is to be made in a directory under a fresh name. -/
def freshPath (t : FileTree) (above : Path) (first last : Text) : Path :=
  { above with parts := above.parts ++ [t.freshName first last] }

/-- The place of a node that is to be made in a directory under a fresh name, which must not be too
long. -/
def locateFresh (t : FileTree) (directory : Place) (above : Path) (first last : Text) :
    Except FileFault Place :=
  if isPathTooLong (t.freshPath above first last) then .error .nameTooLong
  else
    match t.locate directory above with
    | .error fault => .error fault
    | .ok place =>
      match t.lookup place with
      | some .directory =>
        if isTooLong (t.freshName first last) then .error .nameTooLong
        else .ok (place ++ [t.freshName first last])
      | some (.file ..) => .error .notADirectory
      | none => .error .notFound

end FileTree
end ReferencePages
