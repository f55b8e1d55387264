import ReferencePages.Session
/-!
The source tree that a page is read from. Everything that a page needs is checked before anything is
read: the tree, then the files, then the directories, each in the order of asking.
-/

namespace ReferencePages

/-- The absolute paths of what a page needs, by the names under which it asks for them. -/
structure Sources where
  root : Path
  files : Dictionary Path
  directories : Dictionary Path
  deriving DecidableEq, Repr

namespace Sources

/-- The path of a file by its name, the root for a name that has not been asked for. -/
def file (sources : Sources) (key : Text) : Path := (sources.files.get? key).getD sources.root

/-- The path of a directory by its name, the root for a name that has not been asked for. -/
def directory (sources : Sources) (key : Text) : Path :=
  (sources.directories.get? key).getD sources.root

end Sources

/-- The source tree and the variable that points to another one. -/
structure SourceTree where
  root : Path
  variableName : Text
  deriving DecidableEq, Repr

namespace SourceTree

/-- Fails with a fault of the configuration. -/
def refuse {α : Type} (fault : ConfigurationFault) : Program α := throw (.configuration fault)

/-- The path of a file, which must be there and readable. -/
def requireFile (tree : SourceTree) (relative : Text) : Program Path := do
  let p := tree.root.child relative
  if !(← Program.isFile p) then refuse (.sourceFileMissing p tree.variableName)
  else if !(← Program.isReadable p) then refuse (.sourceFileUnreadable p tree.variableName)
  else return p

/-- The path of a directory, which must be there. -/
def requireDirectory (tree : SourceTree) (relative : Text) : Program Path := do
  let p := tree.root.child relative
  if !(← Program.isDirectory p) then refuse (.sourceDirectoryMissing p tree.variableName)
  else return p

/-- Each key with what is required for it. -/
def requireAll (require : Text → Program Path) : List (Text × Text) → Dictionary Path →
    Program (Dictionary Path)
  | [], found => return found
  | (key, relative) :: rest, found => do
    let p ← require relative
    requireAll require rest (found.set key p)

/-- The paths of the files and the directories, or the first requirement that is not met. -/
def resolve (tree : SourceTree) (files directories : List (Text × Text)) : Program Sources := do
  if !(← Program.isDirectory tree.root) then
    refuse (.sourceTreeMissing tree.root tree.variableName)
  else
    let found ← requireAll tree.requireFile files []
    let foundDirectories ← requireAll tree.requireDirectory directories []
    Program.log .debug "sources"
      ("Resolved " ++ Text.ofNat found.length ++ " files and " ++
        Text.ofNat foundDirectories.length ++ " directories under " ++ tree.root.toText)
    return { root := tree.root, files := found, directories := foundDirectories }

end SourceTree
end ReferencePages
