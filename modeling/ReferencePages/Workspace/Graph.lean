import ReferencePages.Workspace.Crate
import ReferencePages.Glob
import ReferencePages.Session
import ReferencePages.Toml.Reader
/-!
The graph of a source workspace: its members in the order of the manifest, and an edge for each
dependency of a member on a member.
-/

namespace ReferencePages

/-- Members and the edges between them. -/
structure WorkspaceGraph where
  crates : List Crate
  edges : List DependencyEdge
  deriving DecidableEq, Repr

namespace WorkspaceGraph

/-- The members of a group. -/
def ofCategory (g : WorkspaceGraph) (c : Category) : List Crate :=
  g.crates.filter (·.category = c)

/-- The edges from crates to those of their dependencies that are members themselves. -/
def edgesOf (crates : List Crate) : List DependencyEdge :=
  let known := crates.map (·.name)
  crates.flatMap fun c =>
    (c.pathDependencies.filter known.contains).map fun d => { source := c.name, target := d }

/-- The name of a manifest. -/
def manifestName : Text := "Cargo.toml"

/-- The kind of a value that holds no members, or the texts among its members. -/
def listedMembers : Toml → Except Failure (List Text)
  | .string s => .ok (s.map ([·]))
  | .array items => .ok (items.filterMap fun | .string s => some s | _ => none)
  | .table members => .ok (members.map (·.1))
  | .int n => if n = 0 then .ok [] else .error (.notIterable "int")
  | .float x => if x.isNonzero then .error (.notIterable "float") else .ok []
  | .bool b => if b then .error (.notIterable "bool") else .ok []
  | .dateTime => .error (.notIterable "datetime.datetime")
  | .date => .error (.notIterable "datetime.date")
  | .time => .error (.notIterable "datetime.time")

/-- The dependencies that a manifest declares with a path. -/
def localDependencies (manifest : Dictionary Toml) : List Text :=
  match Dictionary.get? "dependencies" manifest with
  | some (.table dependencies) =>
    dependencies.filterMap fun (name, value) =>
      if (value.get? "path").isSome then some name else none
  | _ => []

/-- The members that an entry stands for. A pattern stands for the directories that have a manifest, in
the order of their paths. -/
def expandEntry (root : Path) (entry : Text) : Program (List Text) := do
  if Glob.isPattern entry then
    let found ← Program.ofExcept id (← Program.asks fun t d => Glob.paths t d root entry)
    let members ← found.filterM fun p => Program.isFile (p.child manifestName)
    return Text.sort (members.map fun p => ((root.below? p).getD p).toText)
  else return [Text.trimEndWhile (· == '/') entry]

/-- The paths of the members that a manifest declares; the root itself is none. -/
def memberPaths (root : Path) (manifest : Dictionary Toml) : Program (List Text) := do
  match Dictionary.get? "workspace" manifest with
  | some (.table workspace) =>
    match Dictionary.get? "members" workspace with
    | none => return []
    | some value =>
      let entries ← Program.ofExcept id (listedMembers value)
      let counted := entries.filter fun (e : Text) => e ≠ "." && e ≠ "./"
      return (← counted.mapM (expandEntry root)).flatten
  | _ => return []

/-- Why a manifest cannot be read, apart from texts that are no characters and numbers without end. -/
inductive ManifestFault
  | file (error : FileError)
  | malformed
  deriving DecidableEq, Repr

/-- The fault in words. -/
def ManifestFault.message : ManifestFault → Text
  | file error => error.message
  | malformed => "the manifest is not well formed"

/-- The contents of a manifest. -/
def readManifest (p : Path) : Program (Except ManifestFault (Dictionary Toml)) := do
  match ← Program.asks fun t d => t.read d p with
  | .error error => return .error (.file error)
  | .ok bytes =>
    let text ← Program.ofExcept .undecodable (Utf8.decode bytes)
    match Toml.read text with
    | .ok manifest => return .ok manifest
    | .error .malformed => return .error .malformed
    | .error (.numberTooLong digits) => throw (.numberTooLong digits)
    | .error .tooDeep => throw .tooDeep

/-- The name that a member declares for itself. -/
def declaredName? (manifest : Dictionary Toml) : Option Text :=
  match (Dictionary.get? "package" manifest).bind (·.get? "name") with
  | some (.string (c :: name)) => some (c :: name)
  | _ => none

/-- The name of the member at a position that declares none and cannot be read. -/
def placeholderName (index : Nat) : Text := "unknown-" ++ Text.ofNat index

/-- The name and the dependencies of a member. -/
def describeMember (root : Path) (member : Text) (index : Nat) : Program (Text × List Text) := do
  let p := (root.child member).child manifestName
  if ← Program.isFile p then
    match ← readManifest p with
    | .ok manifest =>
      return ((declaredName? manifest).getD (Path.ofText member).name, localDependencies manifest)
    | .error fault =>
      Program.log .warning "extractors.workspace"
        ("Skipping unreadable member manifest " ++ p.toText ++ ": " ++ fault.message)
      return (placeholderName index, [])
  else
    Program.log .debug "extractors.workspace" ("Member manifest missing: " ++ p.toText)
    return (placeholderName index, [])

/-- The members from a position on. -/
def readMembers (settings : CrateSettings) (root : Path) : List Text → (index : Nat) →
    Program (List Crate)
  | [], _ => return []
  | member :: members, index => do
    let (name, pathDependencies) ← describeMember root member index
    let crate : Crate :=
      { name, memberPath := member, category := Category.classify settings member name,
        pathDependencies }
    return crate :: (← readMembers settings root members (index + 1))

/-- The graph of the workspace at a root. -/
def read (settings : CrateSettings) (root : Path) : Program WorkspaceGraph := do
  let p := root.child manifestName
  match ← readManifest p with
  | .ok manifest =>
    let crates ← readMembers settings root (← memberPaths root manifest) 0
    return { crates, edges := edgesOf crates }
  | .error (.file error) =>
    if error.fault = .notFound then throw (.configuration (.manifestMissing p))
    else throw (.configuration (.manifestUnreadable p error.message))
  | .error .malformed =>
    throw (.configuration (.manifestUnreadable p ManifestFault.malformed.message))

end WorkspaceGraph
end ReferencePages
