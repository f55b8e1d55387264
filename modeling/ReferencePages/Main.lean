import ReferencePages.CommandLine.Run
import ReferencePages.Clock
import Std.Time.DateTime.Timestamp
/-!
The program. The files that a run may see are named on standard input, one path on a line, as a listing
of the source tree and of the documentation prints them; everything else is decided by
`CommandLine.run`. Files that the run has changed are written when it has ended.

No transport is built in, so an endpoint is never reached and summaries are deterministic.
-/

namespace ReferencePages.Process

/-- The bytes of an array. -/
def bytesOf (a : ByteArray) : Bytes := a.toList

/-- The contents of a file, if it can be read. -/
def readFile? (name : String) : IO (Option Bytes) := do
  try
    return some (bytesOf (← IO.FS.readBinFile name))
  catch _ => return none

/-- The text of a file, empty if it cannot be read. -/
def readText (name : String) : IO Text := do
  return Utf8.decodeReplacing ((← readFile? name).getD [])

/-- The variables of the process. -/
def environment : IO (Dictionary Text) := do
  let entries := Text.splitOnChar '\x00' (← readText "/proc/self/environ")
  return Dictionary.ofList (entries.filterMap fun entry =>
    match Text.cutAt '=' entry with
    | (key, some value) => some (key, value)
    | _ => none)

/-- The home directories of accounts. -/
def accounts : IO (Dictionary Text) := do
  return Dictionary.ofList ((Text.lines (← readText "/etc/passwd")).filterMap fun line =>
    match Text.splitOnChar ':' line with
    | name :: _ :: _ :: _ :: _ :: home :: _ => some (name, home)
    | _ => none)

/-- The permission bits that new files lack. -/
def mask : Nat := 0o022

/-- The tree of the files that are named. -/
def snapshot (directory : Place) (names : List Text) : IO FileTree :=
  names.foldlM (fun (t : FileTree) (name : Text) => do
    match ← readFile? (Text.toString name) with
    | some contents => return t.addFile mask directory (Path.ofText name) contents
    | none => return t)
    (FileTree.addDirectory { entries := [] } [] { anchor := .root, parts := directory })

/-- The state in which the process starts. -/
def start : IO Session := do
  let directory := (Path.ofText (toString (← IO.currentDir)).toList).parts
  let tree ← snapshot directory (Text.lines (← readText "/dev/stdin"))
  let now ← Std.Time.Timestamp.now
  return {
    tree, directory
    environment := ← environment
    accounts := ← accounts
    mask
    unreadable := []
    scratchParent := { anchor := .root, parts := ["tmp"] }
    scratch := Scratch.new
    endpoint := { outcomes := [], sent := [] }
    rehearsal := { available := false, answers := [], asked := [], probes := 0 }
    log := []
    threshold := .info
    logFile := none
    clock := Clock.text now.toMillisecondsSinceUnixEpoch.val.toNat }

/-- Writes a file and makes the directories above it. -/
def writeFile (place : Place) (contents : Bytes) : IO Unit := do
  let p : Path := { anchor := .root, parts := place }
  IO.FS.createDirAll (Text.toString p.parent.toText)
  IO.FS.writeBinFile (Text.toString p.toText) (ByteArray.mk contents.toArray)

/-- Prints what a run prints, and returns its status. -/
def finish (outcome : CommandLine.Outcome) : IO UInt32 := do
  IO.print (Text.toString outcome.output)
  IO.eprint (Text.toString outcome.errors)
  return outcome.status.toUInt32

/-- Runs a command line. -/
def run (arguments : List Text) : IO UInt32 := do
  let before ← start
  let (result, after) := (CommandLine.run arguments).run.run before
  for (place, contents) in after.tree.changedSince before.tree do writeFile place contents
  match result with
  | .ok outcome => finish outcome
  | .error failure => finish { status := 1, output := [], errors := failure.message ++ "\n" }

end ReferencePages.Process

/-- Runs the command line of the process. -/
def main (arguments : List String) : IO UInt32 :=
  ReferencePages.Process.run (arguments.map String.toList)
