import ReferencePages.DecisionRecord
import ReferencePages.Glob
import ReferencePages.Session
/-!
The decision records of a directory, in the order of their file names.
-/

namespace ReferencePages.DecisionRecord

/-- Whether one list of names comes before another. -/
def namesPrecede : List Text → List Text → Bool
  | _, [] => false
  | [], _ :: _ => true
  | a :: as, b :: bs => if a = b then namesPrecede as bs else Text.precedes a b

/-- The paths in the order of their names. -/
def sortPaths (paths : List Path) : List Path :=
  paths.mergeSort fun a b => !namesPrecede b.parts a.parts

/-- The record in a file. -/
def readFile (p : Path) : Program DecisionRecord := do
  return ofText p.stem (← Program.readSource p)

/-- The records whose files have the form of a pattern. A directory that is not there has none. -/
def readDirectory (directory : Path) (pattern : Text) : Program (List DecisionRecord) := do
  let found ← Program.ofExcept id (← Program.asks fun t d => Glob.paths t d directory pattern)
  let files ← found.filterM Program.isFile
  (sortPaths files).mapM readFile

end ReferencePages.DecisionRecord
