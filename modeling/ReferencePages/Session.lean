import ReferencePages.Failure
import ReferencePages.Text.Lines
/-!
The state that a run works on, and the steps that read and change it: files, environment, log, the
scratch directory, and the exchanges with the summarizing endpoint. A step that fails keeps the state it
has reached.
-/

namespace ReferencePages

/-- How much a log entry matters. -/
inductive LogLevel
  | debug | info | warning
  deriving DecidableEq, Repr

namespace LogLevel

/-- The name of a level. -/
def name : LogLevel → Text
  | debug => "DEBUG"
  | info => "INFO"
  | warning => "WARNING"

/-- The rank of a level. -/
def rank : LogLevel → Nat
  | debug => 0
  | info => 1
  | warning => 2

/-- Whether an entry of this level is shown where `threshold` is the least level shown. -/
def reaches (level threshold : LogLevel) : Bool := threshold.rank ≤ level.rank

end LogLevel

/-- One entry of the log with the part of the program that wrote it. -/
structure LogEntry where
  level : LogLevel
  logger : Text
  text : Text
  deriving DecidableEq, Repr

/-- A request as it was sent to the endpoint. -/
structure SentRequest where
  method : Text
  url : Text
  data : Option Text
  contentType : Option Text
  timeout : Binary64
  deriving DecidableEq, Repr

/-- What one exchange with the endpoint comes to. -/
abbrev Outcome := Except ExchangeFault Bytes

/-- The outcomes of the exchanges to come, and the requests sent so far. -/
structure Endpoint where
  outcomes : List Outcome
  sent : List SentRequest

/-- A question to the model. -/
structure Question where
  prompt : Text
  model : Text
  baseUrl : Text
  timeout : Binary64
  deriving DecidableEq, Repr

/-- Prepared answers that stand in for an endpoint, with what has been asked of them. -/
structure Rehearsal where
  available : Bool
  answers : List (Except ExchangeFault Text)
  asked : List Question
  probes : Nat

/-- The scratch directory: the start of its name, its path once it is made, and a counter for each
label. -/
structure Scratch where
  nameStart : Text
  path : Option Path
  counters : Dictionary Nat
  deriving Repr

/-- The scratch directory of a run, not yet made. -/
def Scratch.new : Scratch := { nameStart := "refgen-", path := none, counters := [] }

/-- The steps of writing a page that the system can refuse whatever the files are. -/
inductive WriteStage
  | temporary | opening | writing | permissions | replacing
  deriving DecidableEq, Repr

/-- A refusal by the system: the step of a write that it stops, and what it stops it with. -/
structure Interruption where
  stage : WriteStage
  failure : Failure
  deriving Repr

/-- The state of a process. -/
structure Session where
  tree : FileTree
  directory : Place
  environment : Dictionary Text
  /-- Home directories of accounts. -/
  accounts : Dictionary Text
  mask : Nat
  /-- Places that may not be read. -/
  unreadable : List Place
  /-- Where scratch directories are made. -/
  scratchParent : Path
  scratch : Scratch
  endpoint : Endpoint
  rehearsal : Rehearsal
  log : List LogEntry
  /-- The least level of entries that are written to the log file. -/
  threshold : LogLevel
  logFile : Option Place
  /-- The time as it stands in front of entries of the log file. -/
  clock : Text
  /-- What the system refuses of the writes to come, one after the other. -/
  interruptions : List (Option Interruption) := []

/-- The state of a process that has just begun, over given files, with no accounts and no variables, in
which nothing answers. -/
def Session.new (tree : FileTree) (directory : Place) : Session :=
  { tree, directory
    environment := []
    accounts := []
    mask := 0o022
    unreadable := []
    scratchParent := Path.ofText "/tmp"
    scratch := Scratch.new
    endpoint := { outcomes := [], sent := [] }
    rehearsal := { available := false, answers := [], asked := [], probes := 0 }
    log := []
    threshold := .info
    logFile := none
    clock := "" }

/-- A step that works on the state and may fail. -/
abbrev Program (α : Type) := ExceptT Failure (StateM Session) α

namespace Program

/-- What a step comes to in a state: its result or its failure, and the state that it leaves. -/
def outcome {α : Type} (p : Program α) (s : Session) : Except Failure α × Session := p.run.run s

/-- Goes on with a result, or fails with a failure. -/
def ofExcept {ε α : Type} (failure : ε → Failure) : Except ε α → Program α
  | .ok a => return a
  | .error e => throw (failure e)

/-- The result or the failure of a step, which itself does not fail. -/
def attempt {α : Type} (p : Program α) : Program (Except Failure α) := ExceptT.lift p.run

/-- The line of an entry in the log file. -/
def fileLine (clock : Text) (e : LogEntry) : Text :=
  clock ++ " " ++ e.level.name ++ " " ++ e.logger ++ ": " ++ e.text ++ "\n"

/-- The tree with a text added to the end of a file. -/
def appendTo (t : FileTree) (place : Place) (text : Text) : FileTree :=
  match t.lookup place with
  | some (.file mode contents) => t.set place (.file mode (contents ++ Utf8.encode text))
  | _ => t

/-- Writes an entry to the log, and to the log file if there is one. -/
def log (level : LogLevel) (logger text : Text) : Program Unit :=
  modify fun s =>
    let entry : LogEntry := { level, logger := "refgen." ++ logger, text }
    { s with
      log := s.log ++ [entry]
      tree :=
        match s.logFile with
        | some place =>
          if level.reaches s.threshold then appendTo s.tree place (fileLine s.clock entry) else s.tree
        | none => s.tree }

/-- A question about the files. -/
def asks {α : Type} (question : FileTree → Place → α) : Program α := do
  let s ← get
  return question s.tree s.directory

/-- What a path leads to. A path with a name that is too long cannot be asked about. -/
def node? (p : Path) : Program (Option Node) := do
  match ← asks fun t d => t.locate d p with
  | .ok place => asks fun t _ => t.lookup place
  | .error .nameTooLong => ofExcept .file (FileTree.failAt p .nameTooLong)
  | .error _ => return none

/-- Whether a path leads to a file. -/
def isFile (p : Path) : Program Bool := do
  match ← node? p with
  | some (.file ..) => return true
  | _ => return false

/-- Whether a path leads to a directory. -/
def isDirectory (p : Path) : Program Bool := do return (← node? p) = some .directory

/-- Whether the file at the end of a path may be read. -/
def isReadable (p : Path) : Program Bool := do
  let s ← get
  match s.tree.locate s.directory p with
  | .ok place => return !s.unreadable.contains place
  | .error _ => return false

/-- The contents of a file. -/
def readBytes (p : Path) : Program Bytes := do
  ofExcept .file (← asks fun t d => t.read d p)

/-- The text of a source file: what is no character is replaced, and line endings are unified. -/
def readSource (p : Path) : Program Text := do
  return Text.unifyNewlines (Utf8.decodeReplacing (← readBytes p))

/-- The text of a file that must be text, with unified line endings. -/
def readText (p : Path) : Program Text := do
  return Text.unifyNewlines (← ofExcept .undecodable (Utf8.decode (← readBytes p)))

/-- Changes the files. -/
def changeFiles (change : Session → Except FileError FileTree) : Program Unit := do
  let s ← get
  let tree ← ofExcept .file (change s)
  set { s with tree }

/-- Writes a file as a whole. -/
def write (p : Path) (contents : Bytes) : Program Unit :=
  changeFiles fun s => s.tree.write s.mask s.directory p contents

/-- Makes a directory and those above it. -/
def makeDirectories (p : Path) : Program Unit := do
  let s ← get
  let (tree, fault?) := s.tree.makeDirectories s.directory p
  set { s with tree }
  match fault? with
  | some e => throw (.file e)
  | none => return

/-- Changes the permission bits of what a path leads to. -/
def changeMode (p : Path) (mode : Nat) : Program Unit :=
  changeFiles fun s =>
    match s.tree.locate s.directory p with
    | .error fault => FileTree.failAt p fault
    | .ok place => .ok (s.tree.setMode place mode)

/-- Sets the mask of permission bits and returns the one before. -/
def exchangeMask (mask : Nat) : Program Nat := do
  let s ← get
  set { s with mask }
  return s.mask

/-- What the system refuses of the write that begins now. -/
def nextInterruption : Program (Option Interruption) := do
  let s ← get
  match s.interruptions with
  | [] => return none
  | interruption? :: interruptions =>
    set { s with interruptions }
    return interruption?

/-- Fails where the system refuses this step of a write. -/
def reach (stage : WriteStage) : Option Interruption → Program Unit
  | some interruption =>
    if interruption.stage = stage then throw interruption.failure else return
  | none => return

/-- The home directory that a part of a path beginning with a tilde stands for. -/
def homeOf? (s : Session) (part : Text) : Option Text :=
  match part with
  | ['~'] => (s.environment.get? "HOME").or (s.accounts.get? "root")
  | _ :: account => s.accounts.get? account
  | [] => none

/-- The path with a tilde in front replaced by a home directory. The name of an account with a null
character cannot be asked about. -/
def expandHome (p : Path) : Program Path := do
  match p.anchor, p.parts with
  | .relative, ('~' :: account) :: rest =>
    if account.elem '\x00' then throw .nullInText
    match homeOf? (← get) ('~' :: account) with
    | some home =>
      let trimmed := Text.trimEndWhile (· == '/') home
      let base := Path.ofText (if trimmed.isEmpty then "/" else trimmed)
      if base.anchor = .relative && (base.parts.head?.any (Text.startsWith "~")) then
        throw .homeUnknown
      else return { base with parts := base.parts ++ rest }
    | none => throw .homeUnknown
  | _, _ => return p

/-- The absolute path, a tilde and dots replaced. No part of it may hold a null character. -/
def resolve (p : Path) : Program Path := do
  let p ← expandHome p
  if p.parts.any (·.elem '\x00') then throw .nullInPath
  return Path.resolve (← get).directory p

end Program
end ReferencePages
