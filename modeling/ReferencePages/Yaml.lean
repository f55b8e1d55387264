import ReferencePages.Yaml.Node
import ReferencePages.Yaml.MemberOrder
/-!
Documents of YAML as values. Values refer to their parts by number, as nodes do; a document is built from
its root on, level by level, so that the fault reported is the first one on the highest level. Merging
changes the nodes themselves, so that what is built later sees the mappings as they have become.
-/

namespace ReferencePages.Yaml

/-- A value: a scalar, or a collection of numbered values. -/
inductive Value
  | scalar (s : Scalar)
  | list (items : List Nat)
  | dictionary (entries : List (Scalar × Nat))
  | set (entries : List Scalar)
  | pairs (entries : List (Nat × Nat))
  deriving DecidableEq, Repr

/-- The nodes as they have become, the values built so far, and the collections that are still to be
built. A collection counts as built from when it waits. -/
structure Building where
  nodes : List Node
  values : List (Nat × Value)
  waiting : List Nat
  deriving Repr

/-- A step that builds values. -/
abbrev Builder (α : Type) := StateT Building (Except Fault) α

namespace Builder

/-- The document has no value. -/
def fail {α : Type} : Builder α := throw .malformed

/-- The node with a number. -/
def node (number : Nat) : Builder Node := do
  match (← get).nodes[number]? with
  | some node => return node
  | none => fail

/-- Puts another node in the place of one. -/
def setNode (number : Nat) (node : Node) : Builder Unit :=
  modify fun b => { b with nodes := b.nodes.set number node }

/-- Whether a node has a tag. -/
def hasTag (tag : Tag) (number : Nat) : Builder Bool := do return (← node number).tag = tag

/-- The pairs of a mapping. -/
def pairsOf (number : Nat) : Builder (List (Nat × Nat)) := do
  match ← node number with
  | .mapping _ pairs => return pairs
  | _ => fail

/-- Changes the pairs of a mapping. -/
def changePairs (number : Nat) (change : List (Nat × Nat) → List (Nat × Nat)) : Builder Unit := do
  match ← node number with
  | .mapping tag pairs => setNode number (.mapping tag (change pairs))
  | _ => fail

/-- The first pair whose key has a tag, and its place. -/
def findTagged (tag : Tag) : (place : Nat) → List (Nat × Nat) → Builder (Option (Nat × Nat))
  | _, [] => return none
  | place, (key, value) :: pairs => do
    if ← hasTag tag key then return some (place, value) else findTagged tag (place + 1) pairs

/-- Takes the first key that asks to merge out of a mapping, and returns its value. -/
def takeMergeKey (number : Nat) : Builder (Option Nat) := do
  match ← findTagged .merge 0 (← pairsOf number) with
  | none => return none
  | some (place, value) =>
    changePairs number (·.eraseIdx place)
    return some value

/-- Keys that name a default value become texts. -/
def nameDefaults (number : Nat) : Builder Unit := do
  (← pairsOf number).forM fun (key, _) => do
    if ← hasTag .value key then setNode key ((← node key).withTag .string)

mutual

/-- Puts the pairs of the mappings that a mapping merges in front of its own. A key that asks to merge is
taken out before what it names is looked at, so mappings may merge each other. The fuel bounds the number
of steps. -/
def flatten : (fuel : Nat) → (number : Nat) → Builder Unit
  | 0, _ => fail
  | fuel + 1, number => do
    let merged ← takeMerged fuel number
    nameDefaults number
    changePairs number (merged ++ ·)

/-- The pairs that the keys of a mapping merge, the keys taken out one after the other. -/
def takeMerged : (fuel : Nat) → (number : Nat) → Builder (List (Nat × Nat))
  | 0, _ => fail
  | fuel + 1, number => do
    match ← takeMergeKey number with
    | none => return []
    | some value =>
      let found ← match ← node value with
        | .mapping .. => flattened fuel value
        | .sequence _ items => do
          let lists ← items.mapM (flattened fuel)
          pure lists.reverse.flatten
        | .scalar .. => fail
      return found ++ (← takeMerged fuel number)

/-- The pairs of a mapping after it has merged others. -/
def flattened : (fuel : Nat) → (number : Nat) → Builder (List (Nat × Nat))
  | 0, _ => fail
  | fuel + 1, number => do
    flatten fuel number
    pairsOf number

end

/-- The pairs of a mapping that is to be built, those that it merges in front. -/
def mappingPairs (number : Nat) : Builder (List (Nat × Nat)) := do
  let keys := ((← get).nodes.map fun
    | .mapping _ pairs => pairs.length
    | _ => 0).foldl (· + ·) 0
  flattened (3 * keys + 4) number

/-- The text of a node that is read as a scalar. A mapping stands for the value of its first key that
names a default value; the fuel bounds how often. -/
def scalarText : (fuel : Nat) → (number : Nat) → Builder Text
  | 0, _ => throw .tooDeep
  | fuel + 1, number => do
    match ← node number with
    | .scalar _ text => return text
    | .mapping _ pairs =>
      match ← findTagged .value 0 pairs with
      | some (_, value) => scalarText fuel value
      | none => fail
    | .sequence .. => fail

/-- Whether a collection can be built under its tag. -/
def isBuildable : Tag → Bool
  | .sequence | .mapping | .set | .orderedPairs | .pairs => true
  | _ => false

/-- The scalar that a node stands for. A time is read from the node itself, which must be a text. -/
def scalarOf (number : Nat) : Builder Scalar := do
  let found ← node number
  if found.tag = .merge || found.tag = .value || found.tag = .unknown then fail
  else
    let text ← scalarText ((← get).nodes.length + 1) number
    match found.tag, found with
    | .timestamp, .mapping .. => throw .timestampMapping
    | tag, _ => Scalar.read tag text

/-- Builds a scalar, or lets a collection wait. -/
def addPart (number : Nat) : Builder Unit := do
  if ((← get).values.lookup number).isSome then return
  else if isBuildable (← node number).tag then
    modify fun b => { b with values := (number, .list []) :: b.values, waiting := b.waiting ++ [number] }
  else
    let s ← scalarOf number
    modify fun b => { b with values := (number, .scalar s) :: b.values }

/-- What tells a key from others that are not equal to it: nothing for the value that a text names, and
its number for a value of its own. It matters only for values that are not equal to themselves. -/
def identityOf (number : Nat) : Builder (Option Nat) := do
  match ← node number with
  | .scalar _ text => return if Scalar.isNamedNotANumber text then none else some number
  | _ => return some number

/-- A key while a dictionary is built, with its value. -/
structure Entry where
  identity : Option Nat
  key : Scalar
  value : Nat
  deriving Repr

/-- The key that a node is. A collection is no key. -/
def keyOf (number : Nat) : Builder Scalar := do
  addPart number
  if isBuildable (← node number).tag then fail
  else
    match (← get).values.lookup number with
    | some (.scalar s) => return s
    | _ => fail

/-- Sets a key: an equal key keeps its place and its form. -/
def setEntry (e : Entry) : List Entry → List Entry
  | [] => [e]
  | other :: rest =>
    let isSame := other.key.sameKey e.key || (other.key = e.key && other.identity = e.identity)
    if isSame then { other with value := e.value } :: rest else other :: setEntry e rest

/-- Builds the pairs of a mapping in their order. -/
def addPairs : List (Nat × Nat) → List Entry → Builder (List Entry)
  | [], entries => return entries
  | (k, value) :: pairs, entries => do
    let key ← keyOf k
    addPart value
    addPairs pairs (setEntry { identity := ← identityOf k, key, value } entries)

/-- Builds the pairs of a sequence of mappings with one pair each. -/
def addSinglePairs : List Nat → Builder (List (Nat × Nat))
  | [] => return []
  | item :: items => do
    match ← node item with
    | .mapping _ [(key, value)] =>
      addPart key
      addPart value
      return (key, value) :: (← addSinglePairs items)
    | _ => fail

/-- Builds a collection. -/
def build (number : Nat) : Builder Value := do
  match ← node number with
  | .sequence .sequence items =>
    items.forM addPart
    return .list items
  | .sequence .orderedPairs items | .sequence .pairs items => return .pairs (← addSinglePairs items)
  | .mapping .mapping _ =>
    let entries ← addPairs (← mappingPairs number) []
    return .dictionary (entries.map fun e => (e.key, e.value))
  | .mapping .set _ =>
    let entries ← addPairs (← mappingPairs number) []
    return .set (entries.map (·.key))
  | _ => fail

/-- Builds the waiting collections in their order. -/
def buildAll : (fuel : Nat) → Builder Unit
  | 0 => return
  | fuel + 1 => do
    match (← get).waiting with
    | [] => return
    | number :: waiting =>
      modify fun b => { b with waiting }
      let value ← build number
      modify fun b => { b with values := (number, value) :: b.values.filter (·.1 ≠ number) }
      buildAll fuel

end Builder

/-- The values of a document by number, and the number of its root. -/
structure Document where
  values : List (Nat × Value)
  root : Nat
  deriving Repr

namespace Document

/-- The document of a text; nothing if the text has none. -/
def read (s : Text) : Except Fault (Option Document) := do
  match ← NodeGraph.read s with
  | none => .ok none
  | some g =>
    let build : Builder Unit := do
      Builder.addPart g.root
      Builder.buildAll (g.nodes.length + 1)
    let ((), b) ← build.run { nodes := g.nodes, values := [], waiting := [] }
    .ok (some { values := b.values, root := g.root })

/-- The value with a number. -/
def value (d : Document) (number : Nat) : Value := (d.values.lookup number).getD (.scalar .null)

/-- How deep values may be nested to be shown. -/
def displayLimit : Nat := 985

/-- The value as it is shown among others. A collection that contains itself is shown by dots; `around`
holds the collections around this one, and the fuel is what is left of the depth that may be shown. -/
def display (d : Document) : (fuel : Nat) → (around : List Nat) → (number : Nat) → Except Fault Text
  | 0, _, _ => .error .tooDeep
  | fuel + 1, around, number =>
    let inner := display d fuel (number :: around)
    let shown (start stop : Text) (parts : Unit → Except Fault (List Text)) : Except Fault Text :=
      if around.contains number then .ok (start ++ "..." ++ stop)
      else (parts ()).map fun parts => start ++ Text.joinWith ", " parts ++ stop
    match d.value number with
    | .scalar s => s.display
    | .list items => shown "[" "]" fun _ => items.mapM inner
    | .dictionary entries =>
      shown "\x7b" "\x7d" fun _ => entries.mapM fun (k, v) => do
        return (← k.display) ++ ": " ++ (← inner v)
    | .set [] => .ok "set()"
    | .set entries => shown "\x7b" "\x7d" fun _ => (MemberOrder.shown entries).mapM Scalar.display
    | .pairs entries =>
      shown "[" "]" fun _ => entries.mapM fun (k, v) => do
        return "(" ++ (← inner k) ++ ", " ++ (← inner v) ++ ")"

/-- The value as a text of its own. -/
def toText (d : Document) (number : Nat) : Except Fault Text :=
  match d.value number with
  | .scalar s => s.toText
  | _ => d.display displayLimit [] number

end Document
end ReferencePages.Yaml
