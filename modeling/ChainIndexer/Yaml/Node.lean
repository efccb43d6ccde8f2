import ChainIndexer.Yaml.Token

/-!
# Documents

The tokens of a text form documents, each of which is a tree of scalars, sequences and mappings. A
missing value is an empty plain scalar. An alias stands for the node of its anchor.
-/

namespace ChainIndexer.Yaml

/-- A node of a document. -/
inductive Node
  | scalar (text : String) (plain : Bool)
  | sequence (items : List Node)
  | mapping (pairs : List (Node × Node))
  deriving Repr, Inhabited

namespace Node

/-- What stands where a value is missing. -/
def missing : Node := scalar "" true

end Node

/-! ## Reading tokens -/

/-- The tokens left, the nodes with an anchor, and the handles of tags. -/
structure ReaderState where
  tokens : List Token
  anchors : List (String × Node) := []
  handles : List String := ["!", "!!", ""]

/-- Reads nodes from tokens. -/
abbrev Reader := StateT ReaderState Option

namespace Reader

def peek : Reader (Option Token) := do return (← get).tokens.head?

/-- This token comes next. -/
def sees (t : Token) : Reader Bool := do return (← peek) == some t

/-- One of these tokens comes next. -/
def seesOne (ts : List Token) : Reader Bool := do
  match ← peek with
  | some t => return ts.contains t
  | none => return false

/-- Passes the next token. -/
def skip : Reader Unit := modify fun s => { s with tokens := s.tokens.drop 1 }

/-- Passes this token if it comes next. -/
def accept (t : Token) : Reader Bool := do
  if ← sees t then
    skip
    return true
  else return false

/-- Passes this token, which has to come next. -/
def expect (t : Token) : Reader Unit := do
  if !(← accept t) then failure

/-- Reads a tag, whose handle has to be known. -/
def passTag : Reader Bool := do
  match ← peek with
  | some (.tag handle) =>
    skip
    if !(← get).handles.contains handle then failure
    return true
  | _ => return false

def passAnchor : Reader (Option String) := do
  match ← peek with
  | some (.anchor name) =>
    skip
    return some name
  | _ => return none

/-- Reads an anchor and a tag in either order; gives the anchor, and whether there was any. -/
def properties : Reader (Option String × Bool) := do
  match ← passAnchor with
  | some name =>
    let _ ← passTag
    return (some name, true)
  | none =>
    if ← passTag then return (← passAnchor, true)
    else return (none, false)

def resolve (name : String) : Reader Node := do
  match (← get).anchors.lookup name with
  | some node => return node
  | none => failure

/-- Remembers a node under its anchor. -/
def anchored (anchor : Option String) (node : Node) : Reader Node := do
  if let some name := anchor then
    modify fun s => { s with anchors := (name, node) :: s.anchors }
  return node

/-! ## Nodes -/

/-- What follows an entry of a sequence that stands no deeper than its mapping. -/
def afterEntry : List Token := [.blockEntry, .key, .value, .blockEnd]

/-- What follows a key or a value of a block mapping without a node. -/
def afterPart : List Token := [.key, .value, .blockEnd]

mutual

/-- A node; `block` admits block collections, and `flush` a sequence that stands no deeper than its
mapping. -/
def node : Nat → Bool → Bool → Reader Node
  | 0, _, _ => failure
  | fuel + 1, block, flush => do
    match ← peek with
    | some (.reference name) =>
      skip
      resolve name
    | _ =>
      let (anchor, marked) ← properties
      match ← peek with
      | some (.scalar text plain) =>
        skip
        anchored anchor (.scalar text plain)
      | some .flowSequenceStart =>
        skip
        anchored anchor (.sequence (← flowItems fuel true))
      | some .flowMappingStart =>
        skip
        anchored anchor (.mapping (← flowPairs fuel true))
      | t =>
        if flush && t == some .blockEntry then anchored anchor (.sequence (← flushItems fuel))
        else if block && t == some .blockSequenceStart then
          skip
          anchored anchor (.sequence (← blockItems fuel))
        else if block && t == some .blockMappingStart then
          skip
          anchored anchor (.mapping (← blockPairs fuel))
        else if marked then anchored anchor .missing
        else failure

/-- A node, unless one of these tokens comes next. -/
def nodeUnless : Nat → Bool → Bool → List Token → Reader Node
  | 0, _, _, _ => failure
  | fuel + 1, block, flush, ends => do
    if ← seesOne ends then return .missing else node fuel block flush

/-- The entries of a block sequence. -/
def blockItems : Nat → Reader (List Node)
  | 0 => failure
  | fuel + 1 => do
    if ← accept .blockEntry then
      let item ← nodeUnless fuel true false [.blockEntry, .blockEnd]
      return item :: (← blockItems fuel)
    else
      expect .blockEnd
      return []

/-- The entries of a sequence that stands no deeper than its mapping. -/
def flushItems : Nat → Reader (List Node)
  | 0 => failure
  | fuel + 1 => do
    if ← accept .blockEntry then
      let item ← nodeUnless fuel true false afterEntry
      return item :: (← flushItems fuel)
    else return []

def blockPairs : Nat → Reader (List (Node × Node))
  | 0 => failure
  | fuel + 1 => do
    if ← sees .blockEnd then
      skip
      return []
    else
      expect .key
      let key ← nodeUnless fuel true true afterPart
      let value ← if ← accept .value then nodeUnless fuel true true afterPart else pure .missing
      return (key, value) :: (← blockPairs fuel)

/-- The items of a flow sequence; a pair among them is a mapping of its own. -/
def flowItems : Nat → Bool → Reader (List Node)
  | 0, _ => failure
  | fuel + 1, isFirst => do
    if ← accept .flowSequenceEnd then return []
    if !isFirst then expect .flowEntry
    if ← accept .flowSequenceEnd then return []
    let item ←
      if ← accept .key then
        let key ← nodeUnless fuel false false [.value, .flowEntry, .flowSequenceEnd]
        let value ←
          if ← accept .value then nodeUnless fuel false false [.flowEntry, .flowSequenceEnd]
          else pure .missing
        pure (.mapping [(key, value)])
      else node fuel false false
    return item :: (← flowItems fuel false)

def flowPairs : Nat → Bool → Reader (List (Node × Node))
  | 0, _ => failure
  | fuel + 1, isFirst => do
    if ← accept .flowMappingEnd then return []
    if !isFirst then expect .flowEntry
    if ← accept .flowMappingEnd then return []
    let pair ←
      if ← accept .key then
        let key ← nodeUnless fuel false false [.value, .flowEntry, .flowMappingEnd]
        let value ←
          if ← accept .value then nodeUnless fuel false false [.flowEntry, .flowMappingEnd]
          else pure .missing
        pure (key, value)
      else
        pure (← node fuel false false, .missing)
    return pair :: (← flowPairs fuel false)

end

/-! ## Documents -/

/-- Reads the directives before a document. -/
def directives : Nat → Bool → Reader Bool
  | 0, seen => return seen
  | fuel + 1, seen => do
    match ← peek with
    | some (.versionDirective major minor) =>
      if major ≠ 1 || (minor ≠ 1 && minor ≠ 2) then failure
      skip
      directives fuel true
    | some (.tagDirective handle _) =>
      skip
      modify fun s => { s with handles := handle :: s.handles }
      directives fuel true
    | _ => return seen

/-- Passes the ends of documents. -/
def passEnds : Nat → Reader Unit
  | 0 => return ()
  | fuel + 1 => do
    if ← accept .documentEnd then passEnds fuel

/-- What follows a document without a node. -/
def atDocumentEnd : Reader Bool := do
  match ← peek with
  | none => return true
  | some .documentStart => return true
  | some .documentEnd => return true
  | some (.versionDirective _ _) => return true
  | some (.tagDirective _ _) => return true
  | some _ => return false

/-- Reads the only document of a text; none where there is no document at all. -/
def onlyDocument : Reader (Option Node) := do
  let fuel := 4 * (← get).tokens.length + 8
  let marked ← directives fuel false
  if (← peek).isNone && !marked then return none
  let root ←
    if ← accept .documentStart then
      if ← atDocumentEnd then pure .missing else node fuel true false
    else if marked then failure
    else if ← sees .documentEnd then failure
    else node fuel true false
  passEnds fuel
  if (← peek).isSome then failure
  return some root

end Reader

/-- The only document of a text; a text without any document is like one with nothing in it. -/
def Node.ofText? (text : String) : Option Node := do
  let tokens ← tokens? text
  let (root, _) ← Reader.onlyDocument { tokens }
  return root.getD .missing

end ChainIndexer.Yaml
