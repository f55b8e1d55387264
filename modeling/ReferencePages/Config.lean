import ReferencePages.Summarizer
import ReferencePages.Workspace.Crate
import ReferencePages.ConfigStruct
import ReferencePages.Schema
/-!
Settings of one run, with the values that hold where nothing else is said.
-/

namespace ReferencePages

/-- Where the schema is read from, and how its columns are told apart and described. -/
structure SchemaSettings where
  scan : Schema.Settings
  tablesFile : Text
  constraintsFile : Text
  tableDescriptions : Dictionary Text
  deriving DecidableEq, Repr

/-- One state machine: where it is read from and how it is drawn. -/
structure StateMachine where
  key : Text
  title : Text
  file : Text
  qualifiers : List Text
  keyStates : List Text
  description : Text
  initialState : Text
  terminalStates : List Text
  startSentinel : Text
  endSentinel : Text
  deriving DecidableEq, Repr

/-- Where decision records are found and how they are linked. -/
structure DecisionSettings where
  directory : Text
  pattern : Text
  linkStart : Text
  deriving DecidableEq, Repr

/-- Where error enumerations are read from, and the line at which reading stops. -/
structure ErrorSettings where
  file : Text
  boundary : Text
  deriving DecidableEq, Repr

/-- Where configuration structures are read from, and the markers of the sections. -/
structure ConfigGuideSettings where
  file : Text
  sections : List ConfigSection.Marker
  deriving DecidableEq, Repr

/-- The settings of one run. -/
structure Config where
  root : Path
  sourceDirectory : Path
  outputDirectory : Path
  projectName : Text
  endpoint : EndpointSettings
  schema : SchemaSettings
  stateMachines : List StateMachine
  crates : CrateSettings
  decisions : DecisionSettings
  errors : ErrorSettings
  configGuide : ConfigGuideSettings
  deriving DecidableEq, Repr

namespace Config

/-- The variable that points to the source tree. -/
def sourceVariable : Text := "TASKER_CORE_DIR"

/-- The variable that names the model. -/
def modelVariable : Text := "OLLAMA_MODEL"

/-- The variable that names the endpoint. -/
def endpointVariable : Text := "OLLAMA_HOST"

/-- The variable that turns the model off. -/
def skipVariable : Text := "SKIP_LLM"

/-- The source tree, seen from the root. -/
def standardSource : Text := "../tasker-core"

/-- The directory of pages, seen from the root. -/
def standardOutput : Text := "src/generated"

/-- The name of the documented project. -/
def standardProject : Text := "Tasker"

/-- The settings of the endpoint. -/
def standardEndpoint : EndpointSettings :=
  { model := "qwen2.5:14b", baseUrl := "http://localhost:11434", skip := false,
    probeTimeout := Runner.standardProbeTimeout, requestTimeout := none }

/-- The settings of the schema. -/
def standardSchema : SchemaSettings :=
  { scan := { name := "tasker", keyGenerators := ["uuid_generate_v7", "uuidv7("] }
    tablesFile := "migrations/20260110000001_schema_and_tables.sql"
    constraintsFile := "migrations/20260110000002_constraints_and_indexes.sql"
    tableDescriptions := [] }

/-- The settings of the workspace. -/
def standardCrates : CrateSettings :=
  { coreMembers := ["tasker-shared", "tasker-pgmq"], workerStarts := ["workers/"] }

/-- The settings of decision records. -/
def standardDecisions : DecisionSettings :=
  { directory := "docs/decisions", pattern := "adr-*.md", linkStart := "../decisions/" }

/-- The settings of error enumerations. -/
def standardErrors : ErrorSettings :=
  { file := "tasker-shared/src/errors.rs", boundary := "#[cfg(test)]" }

/-- The settings of configuration structures. -/
def standardConfigGuide : ConfigGuideSettings :=
  { file := "tasker-shared/src/config/tasker.rs"
    sections :=
      [{ title := "Common", marker := "COMMON CONFIGURATION" },
       { title := "Orchestration", marker := "ORCHESTRATION CONFIGURATION" },
       { title := "Worker", marker := "WORKER CONFIGURATION" }] }

/-- A state machine with the usual states and sentinels. -/
def standardMachine (key title file : Text) (qualifiers keyStates : List Text)
    (description : Text) : StateMachine :=
  { key, title, file, qualifiers, keyStates, description
    initialState := "Pending"
    terminalStates := ["Complete", "Error", "Cancelled", "ResolvedManually"]
    startSentinel := "let target = match"
    endSentinel := "Ok(target)" }

/-- The state machines of tasks and of steps. -/
def standardMachines : List StateMachine :=
  [standardMachine "task" "Task State Machine"
    "tasker-shared/src/state_machine/task_state_machine.rs" ["TaskState", "TaskEvent"]
    ["Pending", "Initializing", "EnqueuingSteps", "StepsInProcess", "EvaluatingResults",
     "WaitingForDependencies", "WaitingForRetry", "BlockedByFailures"]
    ("The task state machine manages the overall lifecycle of a task. Tasks progress " ++
     "from `Pending` through initialization, step enqueuing, processing, and evaluation " ++
     "phases, with support for dependency waiting, retry, and manual resolution."),
   standardMachine "step" "Workflow Step State Machine"
    "tasker-shared/src/state_machine/step_state_machine.rs" ["WorkflowStepState", "StepEvent"]
    ["Pending", "Enqueued", "InProgress", "EnqueuedForOrchestration",
     "EnqueuedAsErrorForOrchestration", "WaitingForRetry"]
    ("The workflow step state machine manages individual step execution. Workers " ++
     "execute steps and enqueue results for orchestration processing.")]

/-- The settings where nothing is said of them, for given places. -/
def standard (root sourceDirectory outputDirectory : Path) : Config :=
  { root, sourceDirectory, outputDirectory
    projectName := standardProject
    endpoint := standardEndpoint
    schema := standardSchema
    stateMachines := standardMachines
    crates := standardCrates
    decisions := standardDecisions
    errors := standardErrors
    configGuide := standardConfigGuide }

end Config
end ReferencePages
