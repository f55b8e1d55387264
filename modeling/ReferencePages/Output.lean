import ReferencePages.Session
import ReferencePages.Page
/-!
Writing pages. A page is written to a file of its own beside its place and then put there in one step,
so that its place holds the old page or the new one and nothing else; a write that fails leaves the
files as they were, apart from directories made for it.
-/

namespace ReferencePages

/-- The directory of pages. -/
structure OutputWriter where
  directory : Path
  deriving DecidableEq, Repr

namespace OutputWriter

/-- The permission bits of a directory, which no page takes over. -/
def directoryMode : Nat := 0o755

/-- The permission bits for a page: those of what is there, else those of a new file. The mask can only
be read by setting it, so it is set to nothing and back. -/
def modeFor (target : Path) : Program Nat := do
  match ← Program.node? target with
  | some (.file mode _) => return mode
  | some .directory => return directoryMode
  | none =>
    let mask ← Program.exchangeMask 0
    let _ ← Program.exchangeMask mask
    return FileTree.newFileMode mask

/-- The beginning of the name of a temporary file. -/
def temporaryStart (target : Path) : Text := "." ++ target.name ++ "."

/-- The end of the name of a temporary file. -/
def temporaryEnd : Text := ".tmp"

/-- Makes an empty temporary file for a page: beside it, under a name that nothing else has. -/
def makeTemporary (target : Path) (interruption? : Option Interruption) : Program Place := do
  Program.reach .temporary interruption?
  let s ← get
  match s.tree.locateFresh s.directory target.parent (temporaryStart target) temporaryEnd with
  | .error fault =>
    let p := s.tree.freshPath target.parent (temporaryStart target) temporaryEnd
    throw (.file { fault, path := p.toText, target := none })
  | .ok place =>
    set { s with tree := s.tree.set place (.file 0o600 []) }
    return place

/-- Puts a file in the place of another, or where nothing is. A directory is not replaced; the root, and
a directory that is named from below, count as in use. -/
def replace (t : FileTree) (source target : Place) (paths : Path × Path) :
    Except FileError FileTree :=
  let fail (fault : FileFault) : Except FileError FileTree :=
    .error { fault, path := paths.1.toText, target := some paths.2.toText }
  match t.lookup source, t.lookup target with
  | _, some .directory => if paths.2.name = ".." || target = [] then fail .busy else fail .isADirectory
  | some node, _ => .ok ((t.erase source).set target node)
  | none, _ => fail .notFound

/-- Puts the temporary file in the place of the page. A page that takes the place of the log file ends
it: what is logged later stays out of the page. -/
def putInPlace (target : Path) (temporary : Place) : Program Unit := do
  let s ← get
  let source : Path :=
    { target.parent with parts := target.parent.parts ++ [temporary.getLast?.getD []] }
  match s.tree.locateNew s.directory target with
  | .error fault =>
    throw (.file { fault, path := source.toText, target := some target.toText })
  | .ok place =>
    let tree ← Program.ofExcept .file (replace s.tree temporary place (source, target))
    set { s with tree, logFile := if s.logFile = some place then none else s.logFile }

/-- Fills the temporary file and gives it the permission bits of the page. -/
def prepare (target : Path) (temporary : Place) (contents : Bytes)
    (interruption? : Option Interruption) : Program Unit := do
  Program.reach .opening interruption?
  modify fun s => { s with tree := s.tree.set temporary (.file 0o600 contents) }
  Program.reach .writing interruption?
  let mode ← modeFor target
  Program.reach .permissions interruption?
  modify fun s => { s with tree := s.tree.setMode temporary mode }

/-- Puts contents in the place of a page by way of its temporary file. -/
def fill (target : Path) (temporary : Place) (contents : Bytes)
    (interruption? : Option Interruption) : Program Unit := do
  prepare target temporary contents interruption?
  Program.reach .replacing interruption?
  putInPlace target temporary

/-- Writes a text under a file name and returns the path of the page. The directories above the page are
made first. Where the temporary file cannot be filled or put in place, it is removed. -/
def writeText (w : OutputWriter) (fileName content : Text) : Program Path := do
  let target := w.directory.child fileName
  let interruption? ← Program.nextInterruption
  Program.makeDirectories target.parent
  let temporary ← makeTemporary target interruption?
  match ← Program.attempt (fill target temporary (Utf8.encode content) interruption?) with
  | .error failure =>
    modify fun s => { s with tree := s.tree.erase temporary }
    throw failure
  | .ok _ =>
    Program.log .info "output" ("Output: " ++ target.toText)
    return target

/-- Writes a page under a file name. -/
def write (w : OutputWriter) (fileName : Text) (page : Page) : Program Path :=
  w.writeText fileName page.render

end OutputWriter
end ReferencePages
