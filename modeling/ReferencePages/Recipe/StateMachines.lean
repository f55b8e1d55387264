import ReferencePages.Recipe.Draft
import ReferencePages.Diagram
import ReferencePages.MarkdownTable
/-!
The page of the state machines: a diagram and a table of transitions for each.
-/

namespace ReferencePages.Recipe

/-- The blocks of one state machine. -/
def machineBlocks (config : Config) (machine : StateMachine) (file : Path)
    (transitions : List Transition) : List Text :=
  let heading : Text := "## " ++ machine.title
  let description := if machine.description.isEmpty then [] else [machine.description]
  let body : List Text :=
    if transitions.isEmpty then ["No transitions found in `" ++ relativeSource config file ++ "`."]
    else
      [Diagram.states
        { initial := machine.initialState, terminal := machine.terminalStates,
          key := machine.keyStates } transitions,
       "### " ++ machine.title ++ " Transitions", MarkdownTable.transitions transitions]
  heading :: description ++ body

/-- Reads the state machines one after the other, and returns their blocks and the number of all their
transitions. -/
def readMachines (config : Config) (sources : Sources) :
    List StateMachine → Program (List Text × Nat)
  | [] => return ([], 0)
  | machine :: machines => do
    let file := sources.file machine.key
    let transitions := Transition.extract
      { qualifiers := machine.qualifiers, start := machine.startSentinel, stop := machine.endSentinel }
      (← Program.readSource file)
    Program.log .info PageKind.stateMachines.logger
      ("  " ++ machine.title ++ ": " ++ Text.ofNat transitions.length ++ " transitions")
    let (blocks, count) ← readMachines config sources machines
    return (machineBlocks config machine file transitions ++ blocks, transitions.length + count)

/-- What the page says about the state machines at its beginning. -/
def machinesIntro (config : Config) : Text :=
  config.projectName ++ " uses " ++ Text.ofNat config.stateMachines.length ++
    " state machines to manage the lifecycle of its workflow entities. Transitions are read from " ++
    "the `match` block of each machine's Rust source."

/-- The page of the state machines. -/
def stateMachines (config : Config) : Recipe where
  files := Dictionary.ofList (config.stateMachines.map fun m => (m.key, m.file))
  directories := []
  compose sources := do
    let (blocks, count) ← readMachines config sources config.stateMachines
    let page := PageKind.stateMachines.page (sourceLabel config ++ " Rust source analysis")
      (machinesIntro config) blocks none
    return plain page count

end ReferencePages.Recipe
