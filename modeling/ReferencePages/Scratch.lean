import ReferencePages.Session
import ReferencePages.Json.Printer
/-!
The scratch directory holds transcripts of exchanges. It is made on first use under a name that nothing
else has, and it is removed with all it holds.
-/

namespace ReferencePages.Scratch

/-- The directory in which the scratch directory is made, and the beginning of its name. A slash in the
beginning of the name leads to a directory. -/
def parentAndStart (scratchParent : Path) (nameStart : Text) : Path × Text :=
  match Text.cutAtLast? '/' nameStart with
  | some (above, start) => (scratchParent.child (above ++ "/"), start)
  | none => (scratchParent, nameStart)

/-- The path of the scratch directory, which is made if it is not there yet. -/
def ensurePath : Program Path := do
  let s ← get
  match s.scratch.path with
  | some p => return p
  | none =>
    let (above, start) := parentAndStart s.scratchParent s.scratch.nameStart
    let p := s.tree.freshPath above start []
    match s.tree.locateFresh s.directory above start [] with
    | .error fault => throw (.file { fault, path := p.toText, target := none })
    | .ok place =>
      set { s with tree := s.tree.set place .directory, scratch := { s.scratch with path := some p } }
      Program.log .debug "workspace" ("Scratch workspace at " ++ p.toText)
      return p

/-- The next number of a label, counted from one. -/
def nextIndex (label : Text) : Program Nat := do
  let s ← get
  let n := (s.scratch.counters.get? label).getD 0 + 1
  set { s with scratch := { s.scratch with counters := s.scratch.counters.set label n } }
  return n

/-- Writes a value to a file of the scratch directory. -/
def writeJson (name : Text) (value : Json) : Program Path := do
  let p := (← ensurePath).child name
  Program.write p (Utf8.encode (Json.renderIndented 0 value))
  return p

/-- Removes the scratch directory. -/
def cleanup : Program Unit := do
  let s ← get
  match s.scratch.path with
  | none => return
  | some p =>
    let tree := match s.tree.locate s.directory p with
      | .ok place => s.tree.eraseBelow place
      | .error _ => s.tree
    set { s with tree }
    Program.log .debug "workspace" ("Removed scratch workspace " ++ p.toText)
    modify fun s => { s with scratch := { s.scratch with path := none } }

end ReferencePages.Scratch
