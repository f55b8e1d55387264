import ReferencePages.Yaml.Token
import ReferencePages.Yaml.Scalar
/-!
The nodes of a YAML document as a graph. A node refers to its parts by their numbers, so that an alias is
one more reference to a node, also to one that contains the alias.
-/

namespace ReferencePages.Yaml

/-- A node: a scalar with its text, a sequence, or a mapping. -/
inductive Node
  | scalar (tag : Tag) (text : Text)
  | sequence (tag : Tag) (items : List Nat)
  | mapping (tag : Tag) (pairs : List (Nat × Nat))
  deriving DecidableEq, Repr

/-- The tag of a node. -/
def Node.tag : Node → Tag
  | scalar tag _ | sequence tag _ | mapping tag _ => tag

/-- The node under another tag. -/
def Node.withTag (tag : Tag) : Node → Node
  | scalar _ text => scalar tag text
  | sequence _ items => sequence tag items
  | mapping _ pairs => mapping tag pairs

/-- What is known while nodes are read: the tokens ahead and the fault behind them, how many collections
more may be opened inside each other, the nodes so far, the named ones, and the expansions of tag
handles. -/
structure Draft where
  tokens : List Token
  room : Nat
  fault : Option Fault
  nodes : List Node
  anchors : List (Text × Nat)
  handles : List (Text × Text)
  deriving Repr

/-- A step that reads tokens and adds nodes. -/
abbrev NodeReader (α : Type) := StateT Draft (Except Fault) α

namespace NodeReader

/-- The token ahead. Behind the last one stands the fault that ended them. -/
def ahead : NodeReader Token := do
  let d ← get
  match d.tokens, d.fault with
  | token :: _, _ => return token
  | [], some fault => throw fault
  | [], none => return .streamEnd

/-- Leaves the token ahead behind. -/
def advance : NodeReader Unit := modify fun d => { d with tokens := d.tokens.tail }

/-- The text is not well formed. -/
def fail {α : Type} : NodeReader α := fun _ => .error .malformed

/-- Leaves a certain token behind, which must be ahead. -/
def expect (token : Token) : NodeReader Unit := do
  if (← ahead) = token then advance else fail

/-- Adds a node. -/
def add (node : Node) : NodeReader Nat := do
  let d ← get
  set { d with nodes := d.nodes ++ [node] }
  return d.nodes.length

/-- Puts another node in the place of one. -/
def replace (number : Nat) (node : Node) : NodeReader Unit :=
  modify fun d => { d with nodes := d.nodes.set number node }

/-- Gives a node a name, which no node before it may have. -/
def name (anchor : Option Text) (number : Nat) : NodeReader Unit :=
  match anchor with
  | none => return
  | some a => modify fun d => { d with anchors := (a, number) :: d.anchors }

/-- An empty scalar. -/
def addEmpty : NodeReader Nat := add (.scalar .null [])

/-- The anchor and the tag in front of a node, in either order. -/
def readProperties : NodeReader (Option Text × Option (Option Text × Text)) := do
  match ← ahead with
  | .anchor a =>
    advance
    match ← ahead with
    | .tag handle rest =>
      advance
      return (some a, some (handle, rest))
    | _ => return (some a, none)
  | .tag handle rest =>
    advance
    match ← ahead with
    | .anchor a =>
      advance
      return (some a, some (handle, rest))
    | _ => return (none, some (handle, rest))
  | _ => return (none, none)

/-- A tag with its handle expanded. -/
def expandTag (tag : Option (Option Text × Text)) : NodeReader (Option Text) := do
  match tag with
  | none => return none
  | some (none, rest) => return some rest
  | some (some handle, rest) =>
    match (← get).handles.lookup handle with
    | some expansion => return some (expansion ++ rest)
    | none => fail

/-- The tag of a scalar: as written, or by its form. A tag that is an exclamation mark alone asks for
the form, also of a quoted scalar. -/
def scalarTag (tag : Option Text) (text : Text) (plain : Bool) : Tag :=
  match tag with
  | none => if plain then Tag.ofPlain text else .string
  | some t => if t = "!" then Tag.ofPlain text else Tag.ofText t

/-- The tag of a collection. -/
def collectionTag (tag : Option Text) (standard : Tag) : Tag :=
  match tag with
  | none => standard
  | some t => if t = "!" then standard else Tag.ofText t

/-- The anchor must be new. -/
def checkNew (anchor : Option Text) : NodeReader Unit := do
  match anchor with
  | none => return
  | some a => if ((← get).anchors.lookup a).isSome then fail else return

/-- Where a node stands, which decides what it may be. -/
inductive Position
  | flow
  | block
  | blockOrSequence
  deriving DecidableEq, Repr

/-- Opens a collection inside those that are open. -/
def enter : NodeReader Unit := do
  match (← get).room with
  | 0 => throw .tooDeep
  | room + 1 => modify fun d => { d with room }

/-- Closes a collection. -/
def leave : NodeReader Unit := modify fun d => { d with room := d.room + 1 }

/-- A sequence with its name, before its items. -/
def startSequence (anchor : Option Text) (tag : Option Text) : NodeReader Nat := do
  enter
  let number ← add (.sequence (collectionTag tag .sequence) [])
  name anchor number
  return number

/-- A sequence with its items. -/
def finishSequence (number : Nat) (tag : Option Text) (items : List Nat) : NodeReader Nat := do
  leave
  replace number (.sequence (collectionTag tag .sequence) items)
  return number

/-- A mapping with its name, before its pairs. -/
def startMapping (anchor : Option Text) (tag : Option Text) : NodeReader Nat := do
  enter
  let number ← add (.mapping (collectionTag tag .mapping) [])
  name anchor number
  return number

/-- A mapping with its pairs. -/
def finishMapping (number : Nat) (tag : Option Text) (pairs : List (Nat × Nat)) :
    NodeReader Nat := do
  leave
  replace number (.mapping (collectionTag tag .mapping) pairs)
  return number

mutual

/-- The node that begins here. The fuel bounds the number of steps. -/
def readNode : (fuel : Nat) → Position → NodeReader Nat
  | 0, _ => fail
  | fuel + 1, position => do
    match ← ahead with
    | .alias a =>
      advance
      match (← get).anchors.lookup a with
      | some number => return number
      | none => fail
    | _ =>
      let (anchor, written) ← readProperties
      let tag ← expandTag written
      let next ← ahead
      checkNew anchor
      match next, position with
      | .blockEntry, .blockOrSequence =>
        let number ← startSequence anchor tag
        let items ← readOpenEntries fuel
        finishSequence number tag items
      | .scalar text plain, _ =>
        advance
        let number ← add (.scalar (scalarTag tag text plain) text)
        name anchor number
        return number
      | .flowSequenceStart, _ =>
        advance
        let number ← startSequence anchor tag
        let items ← readFlowItems fuel true
        finishSequence number tag items
      | .flowMappingStart, _ =>
        advance
        let number ← startMapping anchor tag
        let pairs ← readFlowPairs fuel true
        finishMapping number tag pairs
      | .sequenceStart, .block =>
        advance
        let number ← startSequence anchor tag
        let items ← readBlockEntries fuel
        finishSequence number tag items
      | .sequenceStart, .blockOrSequence =>
        advance
        let number ← startSequence anchor tag
        let items ← readBlockEntries fuel
        finishSequence number tag items
      | .mappingStart, .block =>
        advance
        let number ← startMapping anchor tag
        let pairs ← readBlockPairs fuel
        finishMapping number tag pairs
      | .mappingStart, .blockOrSequence =>
        advance
        let number ← startMapping anchor tag
        let pairs ← readBlockPairs fuel
        finishMapping number tag pairs
      | _, _ =>
        if anchor.isSome || tag.isSome then
          let number ← add (.scalar (scalarTag tag [] true) [])
          name anchor number
          return number
        else fail

/-- The entries of a block sequence up to the end of its block. -/
def readBlockEntries : (fuel : Nat) → NodeReader (List Nat)
  | 0 => fail
  | fuel + 1 => do
    match ← ahead with
    | .blockEntry =>
      advance
      let item ← match ← ahead with
        | .blockEntry | .blockEnd => addEmpty
        | _ => readNode fuel .block
      return item :: (← readBlockEntries fuel)
    | .blockEnd =>
      advance
      return []
    | _ => fail

/-- The entries of a sequence that stands at the column of its key. -/
def readOpenEntries : (fuel : Nat) → NodeReader (List Nat)
  | 0 => fail
  | fuel + 1 => do
    match ← ahead with
    | .blockEntry =>
      advance
      let item ← match ← ahead with
        | .blockEntry | .key | .value | .blockEnd => addEmpty
        | _ => readNode fuel .block
      return item :: (← readOpenEntries fuel)
    | _ => return []

/-- A key or a value of a block mapping, empty if what follows it is ahead. -/
def readBlockPart : (fuel : Nat) → NodeReader Nat
  | 0 => fail
  | fuel + 1 => do
    match ← ahead with
    | .key | .value | .blockEnd => addEmpty
    | _ => readNode fuel .blockOrSequence

/-- The pairs of a block mapping up to the end of its block. -/
def readBlockPairs : (fuel : Nat) → NodeReader (List (Nat × Nat))
  | 0 => fail
  | fuel + 1 => do
    match ← ahead with
    | .key =>
      advance
      let key ← readBlockPart fuel
      match ← ahead with
      | .value =>
        advance
        let value ← readBlockPart fuel
        return (key, value) :: (← readBlockPairs fuel)
      | _ =>
        let value ← addEmpty
        return (key, value) :: (← readBlockPairs fuel)
    | .blockEnd =>
      advance
      return []
    | _ => fail

/-- A key or a value of a flow collection, empty if what follows it is ahead. -/
def readFlowPart (last : Token) : (fuel : Nat) → NodeReader Nat
  | 0 => fail
  | fuel + 1 => do
    let next ← ahead
    if next = .value || next = .flowEntry || next = last then addEmpty
    else readNode fuel .flow

/-- The value after a key in a flow collection. -/
def readFlowValue (last : Token) : (fuel : Nat) → NodeReader Nat
  | 0 => fail
  | fuel + 1 => do
    if (← ahead) = .value then
      advance
      let next ← ahead
      if next = .flowEntry || next = last then addEmpty else readNode fuel .flow
    else addEmpty

/-- The items of a flow sequence up to its bracket. An item may be a pair, which is a mapping of its
own. -/
def readFlowItems : (fuel : Nat) → (first : Bool) → NodeReader (List Nat)
  | 0, _ => fail
  | fuel + 1, first => do
    if (← ahead) = .flowSequenceEnd then
      advance
      return []
    else
      if !first then expect .flowEntry
      match ← ahead with
      | .key =>
        advance
        let number ← startMapping none none
        let key ← readFlowPart .flowSequenceEnd fuel
        let value ← readFlowValue .flowSequenceEnd fuel
        let item ← finishMapping number none [(key, value)]
        return item :: (← readFlowItems fuel false)
      | .flowSequenceEnd =>
        advance
        return []
      | _ =>
        let item ← readNode fuel .flow
        return item :: (← readFlowItems fuel false)

/-- The pairs of a flow mapping up to its brace. A part without a mark is a key with an empty value. -/
def readFlowPairs : (fuel : Nat) → (first : Bool) → NodeReader (List (Nat × Nat))
  | 0, _ => fail
  | fuel + 1, first => do
    if (← ahead) = .flowMappingEnd then
      advance
      return []
    else
      if !first then expect .flowEntry
      match ← ahead with
      | .key =>
        advance
        let key ← readFlowPart .flowMappingEnd fuel
        let value ← readFlowValue .flowMappingEnd fuel
        return (key, value) :: (← readFlowPairs fuel false)
      | .flowMappingEnd =>
        advance
        return []
      | _ =>
        let key ← readNode fuel .flow
        let value ← addEmpty
        return (key, value) :: (← readFlowPairs fuel false)

end

/-- The handles that need no directive. -/
def standardHandles : List (Text × Text) := [("!", "!"), ("!!", "tag:yaml.org,2002:")]

/-- The directives in front of a document: at most one version, which must be the first major one, and
each handle once. -/
def readDirectives : (fuel : Nat) → (versioned : Bool) → (handles : List (Text × Text)) →
    NodeReader (List (Text × Text))
  | 0, _, _ => fail
  | fuel + 1, versioned, handles => do
    match ← ahead with
    | .version major _ =>
      if versioned || major ≠ 1 then fail
      else
        advance
        readDirectives fuel true handles
    | .tagHandle handle expansion =>
      if (handles.lookup handle).isSome then fail
      else
        advance
        readDirectives fuel versioned ((handle, expansion) :: handles)
    | .otherDirective =>
      advance
      readDirectives fuel versioned handles
    | _ => return handles

/-- Leaves ends of documents behind. -/
def skipDocumentEnds : (fuel : Nat) → NodeReader Unit
  | 0 => return
  | fuel + 1 => do
    if (← ahead) = .documentEnd then
      advance
      skipDocumentEnds fuel

/-- A document with its mark: it may be empty. -/
def readMarked (fuel : Nat) : NodeReader Nat := do
  let handles ← readDirectives fuel false []
  modify fun d => { d with handles := handles ++ standardHandles }
  expect .documentStart
  match ← ahead with
  | .version .. | .tagHandle .. | .otherDirective | .documentStart | .documentEnd | .streamEnd =>
    addEmpty
  | _ => readNode fuel .block

/-- The root of the only document; nothing if the text has none. Directives of a further document are
read before it is refused. -/
def readRoot (fuel : Nat) : NodeReader (Option Nat) := do
  let root ← match ← ahead with
    | .streamEnd => return none
    | .version .. | .tagHandle .. | .otherDirective | .documentStart => readMarked fuel
    | _ => readNode fuel .block
  skipDocumentEnds fuel
  if (← ahead) = .streamEnd then return some root
  else
    let _ ← readDirectives fuel false []
    fail

end NodeReader

/-- The nodes of a document and the number of its root. -/
structure NodeGraph where
  nodes : List Node
  root : Nat
  deriving Repr

/-- The nodes of the only document of a text; nothing if the text has no document. -/
def NodeGraph.read (s : Text) : Except Fault (Option NodeGraph) := do
  let scan := Token.scan s
  let (root?, draft) ← (NodeReader.readRoot (3 * scan.tokens.length + 3)).run
    { tokens := scan.tokens, fault := scan.fault, room := depthLimit, nodes := [], anchors := []
      handles := NodeReader.standardHandles }
  return root?.map fun root => { nodes := draft.nodes, root }

end ReferencePages.Yaml
