import ReferencePages.Config
import ReferencePages.EnvironmentFile
/-!
Loading the settings of a run. A variable of the environment counts more than the configuration file,
which counts more than the standard value; an empty text counts as none.
-/

namespace ReferencePages.Config

/-- The name of the configuration file in the root. -/
def fileName : Text := ".refgen.yml"

/-- The name of the file of environment variables in the root. -/
def environmentFileName : Text := ".env"

/-- Sets each variable that is not set yet. Neither its name nor its value may hold a null character. -/
def exportAll : List (Text × Option Text) → Dictionary Text → Except Failure (Dictionary Text)
  | [], environment => .ok environment
  | (key, value) :: rest, environment =>
    match environment.get? key, value with
    | none, some v =>
      if key.elem '\x00' || v.elem '\x00' then .error .nullInText
      else if key.elem '=' then .error .badVariableName
      else exportAll rest (environment.set key v)
    | _, _ => exportAll rest environment

/-- Sets the variables of the environment file in a root, if there is one and the environment does not
forbid to read it. The result says whether it holds a binding. -/
def loadEnvironment (root : Path) : Program Bool := do
  let file := root.child environmentFileName
  if !(← Program.isFile file) || EnvironmentFile.isOff (← get).environment then return false
  else
    let text ← Program.readText file
    let s ← get
    let resolved := EnvironmentFile.resolve s.environment (EnvironmentFile.bindings text) []
    if resolved.isEmpty then return false
    else
      let environment ← Program.ofExcept id (exportAll resolved s.environment)
      set { s with environment }
      return true

/-- A text that counts: one that is not empty. -/
def nonempty (s : Option Text) : Option Text := s.filter (!·.isEmpty)

/-- The text of a value, or a failure if the value has none. -/
def shown {α : Type} (text : Except Yaml.Fault α) : Except Failure α := text.mapError .badScalar

/-- A mapping of the configuration file. -/
structure Section where
  document : Yaml.Document
  entries : List (Yaml.Scalar × Nat)
  deriving Repr

namespace Section

/-- The mapping without entries. -/
def empty : Section := { document := { values := [], root := 0 }, entries := [] }

/-- The number of the value of a key. -/
def find? (d : Section) (key : Text) : Option Nat :=
  (d.entries.find? fun (k, _) => k = .string key).map (·.2)

/-- The value of a key. -/
def value? (d : Section) (key : Text) : Option Yaml.Value := (d.find? key).map d.document.value

/-- The mapping of a key, empty if the value is none. -/
def inner (d : Section) (key : Text) : Section :=
  match d.value? key with
  | some (.dictionary entries) => { d with entries }
  | _ => { d with entries := [] }

/-- The text of a key: texts and numbers count. -/
def text? (d : Section) (key : Text) : Except Failure (Option Text) :=
  match d.value? key with
  | some (.scalar (.string s)) => .ok (nonempty (some s))
  | some (.scalar (.integer n)) => (shown (Yaml.integerText n)).map some
  | some (.scalar (.float x)) => .ok (some x.toText)
  | _ => .ok none

/-- The text of a key, or the standard one if there is none. -/
def textOr (d : Section) (key standard : Text) : Except Failure Text :=
  (d.text? key).map (·.getD standard)

/-- The number of a key: numbers count, and texts that denote one. -/
def float? (d : Section) (key : Text) : Except Failure (Option Binary64) :=
  match d.value? key with
  | some (.scalar (.integer n)) =>
    match Binary64.ofInt n with
    | .infinite _ => .error .floatOverflow
    | x => .ok (some x)
  | some (.scalar (.float x)) => .ok (some x)
  | some (.scalar (.string s)) => .ok (Binary64.ofText? s)
  | _ => .ok none

/-- The truth value that a text stands for. -/
def truthOf? (s : Text) : Option Bool :=
  let word := Text.lowerCase (Text.trim s)
  if (["1", "true", "yes", "on"] : List Text).contains word then some true
  else if (["0", "false", "no", "off", ""] : List Text).contains word then some false
  else none

/-- The truth value of a key. -/
def truth? (d : Section) (key : Text) : Option Bool :=
  match d.value? key with
  | some (.scalar (.boolean b)) => some b
  | some (.scalar (.string s)) => truthOf? s
  | _ => none

/-- The text of an item of a list: texts, numbers and truth values count. -/
def itemText? : Yaml.Value → Except Failure (Option Text)
  | .scalar (.string s) => .ok (some s)
  | .scalar (.integer n) => (shown (Yaml.integerText n)).map some
  | .scalar (.float x) => .ok (some x.toText)
  | .scalar (.boolean b) => .ok (some (if b then "True" else "False"))
  | _ => .ok none

/-- The texts of a key: one text, or the items of a list. -/
def texts (d : Section) (key : Text) : Except Failure (List Text) :=
  match d.value? key with
  | some (.scalar (.string s)) => .ok [s]
  | some (.list items) =>
    (items.mapM fun n => itemText? (d.document.value n)).map fun found => found.filterMap id
  | some (.scalar (.binary bytes)) => .ok (bytes.map fun b => Text.ofNat b.toNat)
  | _ => .ok []

/-- The texts of a key, or the standard ones if there is none. -/
def textsOr (d : Section) (key : Text) (standard : List Text) : Except Failure (List Text) :=
  (d.texts key).map fun
    | [] => standard
    | found => found

/-- A key and its value as texts; nothing for a value that is null. -/
def description? (d : Section) (entry : Yaml.Scalar × Nat) : Except Failure (Option (Text × Text)) := do
  match d.document.value entry.2 with
  | .scalar .null => return none
  | _ => return some (← shown entry.1.toText, ← shown (d.document.toText entry.2))

/-- Each key and each value that is not null as texts. -/
def descriptions (d : Section) : Except Failure (Dictionary Text) :=
  (d.entries.mapM d.description?).map fun found => Dictionary.ofList (found.filterMap id)

end Section

/-- The failure of a configuration file that has no value. -/
def scalarFailure (file : Path) : Yaml.Fault → Failure
  | .malformed => .configuration (.unparsableFile file)
  | .numberTooLong digits => .numberTooLong digits
  | fault => .badScalar fault

/-- The mapping of a configuration text. -/
def readSection (file : Path) (text : Text) : Except Failure Section :=
  if Text.isAllBlank text then .ok .empty
  else
    match Yaml.Document.read text with
    | .error fault => .error (scalarFailure file fault)
    | .ok none => .ok .empty
    | .ok (some document) =>
      match document.value document.root with
      | .dictionary entries => .ok { document, entries }
      | .scalar .null => .ok .empty
      | _ => .error (.configuration (.noMapping file))

/-- The mapping of the configuration file; a file that is not there is empty. -/
def readFile (file : Path) : Program Section := do
  if !(← Program.isFile file) then return .empty
  else Program.ofExcept id (readSection file (← Program.readText file))

/-- The absolute path of a text as seen from a root. -/
def resolveAgainst (root : Path) (value : Text) : Program Path := do
  Program.resolve (root.join (← Program.expandHome (Path.ofText value)))

/-- The address of an endpoint with a scheme in front. -/
def withScheme (url : Text) : Text :=
  if Text.startsWith "http://" url || Text.startsWith "https://" url then url else "http://" ++ url

/-- The text of a variable of the environment, else that of a key, else the standard one. The key is not
looked at where the variable counts. -/
def variableOr (environment : Dictionary Text) (d : Section) (name key standard : Text) :
    Except Failure Text :=
  match nonempty (environment.get? name) with
  | some value => .ok value
  | none => d.textOr key standard

/-- The settings of the endpoint. -/
def endpointOf (environment : Dictionary Text) (d : Section) : Except Failure EndpointSettings := do
  let model ← variableOr environment d modelVariable "model" standardEndpoint.model
  let url ← variableOr environment d endpointVariable "base_url" standardEndpoint.baseUrl
  let skip := ((environment.get? skipVariable).bind Section.truthOf?).or (d.truth? "skip")
  let probeTimeout ← d.float? "probe_timeout"
  let requestTimeout ← d.float? "request_timeout"
  return {
    model
    baseUrl := withScheme url
    skip := skip.getD false
    probeTimeout := (probeTimeout.filter Binary64.isNonzero).getD standardEndpoint.probeTimeout
    requestTimeout }

/-- The settings of the schema. -/
def schemaOf (d : Section) : Except Failure SchemaSettings := do
  let name ← d.textOr "name" standardSchema.scan.name
  let tablesFile ← d.textOr "tables_file" standardSchema.tablesFile
  let constraintsFile ← d.textOr "constraints_file" standardSchema.constraintsFile
  let keyGenerators ← d.textsOr "pk_generators" standardSchema.scan.keyGenerators
  let tableDescriptions ← (d.inner "table_descriptions").descriptions
  return { scan := { name, keyGenerators }, tablesFile, constraintsFile, tableDescriptions }

/-- The settings of the workspace. -/
def cratesOf (d : Section) : Except Failure CrateSettings := do
  let coreMembers ← d.textsOr "core_members" standardCrates.coreMembers
  let workerStarts ← d.textsOr "worker_prefixes" standardCrates.workerStarts
  return { coreMembers, workerStarts }

/-- The settings of decision records. -/
def decisionsOf (d : Section) : Except Failure DecisionSettings := do
  let directory ← d.textOr "directory" standardDecisions.directory
  let linkStart ← d.textOr "link_prefix" standardDecisions.linkStart
  return { standardDecisions with directory, linkStart }

/-- What the configuration file and the environment say apart from paths. -/
def settingsOf (environment : Dictionary Text) (d : Section)
    (root sourceDirectory outputDirectory : Path) : Except Failure Config := do
  let projectName ← d.textOr "project_name" standardProject
  let endpoint ← endpointOf environment (d.inner "llm")
  let schema ← schemaOf (d.inner "schema")
  let crates ← cratesOf (d.inner "crates")
  let decisions ← decisionsOf (d.inner "decisions")
  let errorFile ← (d.inner "errors").textOr "file" standardErrors.file
  let guideFile ← (d.inner "config_guide").textOr "file" standardConfigGuide.file
  return {
    root, sourceDirectory, outputDirectory, endpoint, projectName, schema, crates, decisions
    stateMachines := standardMachines
    errors := { standardErrors with file := errorFile }
    configGuide := { standardConfigGuide with file := guideFile } }

/-- The settings for a root, which may be any path. Texts are looked at before paths are made of them,
and paths are made before anything else is looked at. -/
def load (root : Path) (environment : Dictionary Text) : Program Config := do
  let root ← Program.resolve root
  let d ← readFile (root.child fileName)
  let source ← Program.ofExcept id
    (variableOr environment d sourceVariable "source_dir" standardSource)
  let output ← Program.ofExcept id (d.textOr "output_dir" standardOutput)
  let sourceDirectory ← resolveAgainst root source
  let outputDirectory ← resolveAgainst root output
  Program.ofExcept id (settingsOf environment d root sourceDirectory outputDirectory)

end ReferencePages.Config
