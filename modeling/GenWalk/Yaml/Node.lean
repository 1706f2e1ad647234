import GenWalk.Yaml.Scalar
import GenWalk.Yaml.Token

/-!
Nodes: a document as a table, in which the parts of a collection are named by their places. Every
part stands before the collection, so that a name that is used many times costs one place, and the
document itself comes last. The table is built from the tokens of the document.
-/

namespace GenWalk.Yaml

inductive Node where
  | scalar (tag : Tag) (text : Text)
  | sequence (tag : Tag) (items : List Nat)
  | mapping (tag : Tag) (entries : List (Nat × Nat))
deriving DecidableEq, Inhabited

namespace Node

def empty : Node := scalar .null []

def tag : Node → Tag
  | scalar tag _ | sequence tag _ | mapping tag _ => tag

end Node

abbrev NodeTable := Array Node

/-- What has been read of the tokens, the names that are known and the nodes so far. -/
structure Outline where
  tokens : List Token
  taken : Nat := 0
  break? : Option TokenBreak := none
  anchors : List (List Char × Nat) := []
  handles : List (List Char × List Char) := []
  nodes : NodeTable := #[]

abbrev Outlining (α : Type) := EStateM YamlFault Outline α

namespace Outlining

def fail : Outlining α := throw .malformed

/-- The next token, unless what stopped the reading of tokens is met before it can be used. -/
def peek : Outlining (Option Token) := do
  let outline ← get
  if let some stop := outline.break? then
    if stop.usable ≤ outline.taken then throw stop.fault
  return outline.tokens.head?

def skip : Outlining Unit := modify fun outline =>
  { outline with tokens := outline.tokens.drop 1, taken := outline.taken + 1 }

def add (node : Node) : Outlining Nat := modifyGet fun outline =>
  (outline.nodes.size, { outline with nodes := outline.nodes.push node })

def isNext (tokens : List Token) : Outlining Bool := do
  return (← peek).any tokens.contains

def expect (token : Token) : Outlining Unit := do
  if (← peek) = some token then skip else fail

def addNamed (anchor? : Option (List Char)) (node : Node) : Outlining Nat := do
  let place ← add node
  if let some anchor := anchor? then
    modify fun outline => { outline with anchors := (anchor, place) :: outline.anchors }
  return place

def properties : Outlining (Option (List Char) × Option TagName) := do
  match ← peek with
  | some (.anchor anchor) =>
    skip
    match ← peek with
    | some (.tag tag) => skip; return (some anchor, some tag)
    | _ => return (some anchor, none)
  | some (.tag tag) =>
    skip
    match ← peek with
    | some (.anchor anchor) => skip; return (some anchor, some tag)
    | _ => return (none, some tag)
  | _ => return (none, none)

def fullName (tag : TagName) : Outlining (List Char) := do
  match tag.handle? with
  | none => return tag.ending
  | some handle => match (← get).handles.lookup handle with
    | some start => return start ++ tag.ending
    | none => fail

def openTag : List Char := ['!']

def scalarTag (name? : Option (List Char)) (text : Text) (plain : Bool) : Tag :=
  match name? with
  | none => if plain then Form.tagOf text else .text
  | some name => if name = openTag then Form.tagOf text else .ofName name

def collectionTag (usual : Tag) : Option (List Char) → Tag
  | none => usual
  | some name => if name = openTag then usual else .ofName name

/-- Builds a collection from its contents. Inside it its name stands for an empty one. -/
def build (anchor? : Option (List Char)) (collection : List α → Node)
    (contents : Outlining (List α)) : Outlining Nat := do
  if anchor?.isSome then discard (addNamed anchor? (collection []))
  addNamed anchor? (collection (← contents))

def started (anchor? : Option (List Char)) (collection : List α → Node)
    (contents : Outlining (List α)) : Outlining Nat := do
  skip
  build anchor? collection contents

mutual

/-- A node. In brackets there are no collections by indentation; `bare` allows a sequence that is
not indented further than the key before it. -/
def node (inBrackets bare : Bool) : (fuel : Nat) → Outlining Nat
  | 0 => fail
  | fuel + 1 => do
    if let some (.alias known) ← peek then
      skip
      match (← get).anchors.lookup known with
      | some node => return node
      | none => fail
    let (anchor?, tag?) ← properties
    let name? ← tag?.mapM fullName
    let next ← peek
    if let some anchor := anchor? then
      if ((← get).anchors.lookup anchor).isSome then fail
    let sequence := Node.sequence (collectionTag .sequence name?)
    let mapping := Node.mapping (collectionTag .mapping name?)
    match next with
    | some (.scalar text plain) =>
      skip
      addNamed anchor? (.scalar (scalarTag name? text plain) text)
    | some .flowSequenceStart => started anchor? sequence (flowItems true fuel)
    | some .flowMappingStart => started anchor? mapping (flowEntries true fuel)
    | some .blockSequenceStart =>
      if inBrackets then fail
      started anchor? sequence (blockItems fuel)
    | some .blockMappingStart =>
      if inBrackets then fail
      started anchor? mapping (blockEntries fuel)
    | next =>
      if bare && next = some .blockEntry then build anchor? sequence (bareItems fuel)
      else if anchor?.isNone && name?.isNone then fail
      else addNamed anchor? (.scalar (scalarTag name? [] true) [])

def nodeUnless (stops : List Token) (inBrackets bare : Bool) : (fuel : Nat) → Outlining Nat
  | 0 => fail
  | fuel + 1 => do
    if ← isNext stops then return (← add .empty)
    node inBrackets bare fuel

def blockItems : (fuel : Nat) → Outlining (List Nat)
  | 0 => fail
  | fuel + 1 => do
    if ← isNext [.blockEntry] then
      skip
      let item ← nodeUnless [.blockEntry, .blockEnd] false false fuel
      return item :: (← blockItems fuel)
    expect .blockEnd
    return []

def bareItems : (fuel : Nat) → Outlining (List Nat)
  | 0 => fail
  | fuel + 1 => do
    if ← isNext [.blockEntry] then
      skip
      let item ← nodeUnless [.blockEntry, .key, .value, .blockEnd] false false fuel
      return item :: (← bareItems fuel)
    return []

def blockEntries : (fuel : Nat) → Outlining (List (Nat × Nat))
  | 0 => fail
  | fuel + 1 => do
    let part (mark : Token) : Outlining Nat := do
      if ← isNext [mark] then
        skip
        nodeUnless [.key, .value, .blockEnd] false true fuel
      else add .empty
    if ← isNext [.key] then
      let key ← part .key
      let value ← part .value
      return (key, value) :: (← blockEntries fuel)
    expect .blockEnd
    return []

/-- A pair that makes an entry of its own in a sequence in brackets. -/
def flowPair : (fuel : Nat) → Outlining Nat
  | 0 => fail
  | fuel + 1 => do
    skip
    let key ← nodeUnless [.value, .flowEntry, .flowSequenceEnd] true false fuel
    let value ← if ← isNext [.value] then do
        skip
        nodeUnless [.flowEntry, .flowSequenceEnd] true false fuel
      else add .empty
    add (.mapping .mapping [(key, value)])

def flowItems (isFirst : Bool) : (fuel : Nat) → Outlining (List Nat)
  | 0 => fail
  | fuel + 1 => do
    if ← isNext [.flowSequenceEnd] then
      skip
      return []
    unless isFirst do expect .flowEntry
    if ← isNext [.flowSequenceEnd] then
      skip
      return []
    let item ← if ← isNext [.key] then flowPair fuel else node true false fuel
    return item :: (← flowItems false fuel)

def flowEntries (isFirst : Bool) : (fuel : Nat) → Outlining (List (Nat × Nat))
  | 0 => fail
  | fuel + 1 => do
    if ← isNext [.flowMappingEnd] then
      skip
      return []
    unless isFirst do expect .flowEntry
    if ← isNext [.flowMappingEnd] then
      skip
      return []
    let entry ← if ← isNext [.key] then do
        skip
        let key ← nodeUnless [.value, .flowEntry, .flowMappingEnd] true false fuel
        let value ← if ← isNext [.value] then do
            skip
            nodeUnless [.flowEntry, .flowMappingEnd] true false fuel
          else add .empty
        pure (key, value)
      else do
        let key ← node true false fuel
        pure (key, ← add .empty)
    return entry :: (← flowEntries false fuel)

end

def usualHandles : List (List Char × List Char) :=
  [(['!'], ['!']), (['!', '!'], Tag.standardStart.toList)]

/-- The directives before a document: one version at most, which must be a first one, and each
handle at most once. -/
def directives : (fuel : Nat) → (seenVersion : Bool) → List (List Char × List Char) →
    Outlining (List (List Char × List Char))
  | 0, _, _ => fail
  | fuel + 1, seenVersion, handles => do
    match ← peek with
    | some (.directive directive) =>
      skip
      match directive with
      | .version major _ =>
        if seenVersion || major ≠ 1 then fail
        directives fuel true handles
      | .tagHandle handle start =>
        if (handles.lookup handle).isSome then fail
        directives fuel seenVersion ((handle, start) :: handles)
      | .other => directives fuel seenVersion handles
    | _ => return handles

def skipEnds : (fuel : Nat) → Outlining Unit
  | 0 => return
  | fuel + 1 => do
    if ← isNext [.documentEnd] then
      skip
      skipEnds fuel

def document (fuel : Nat) : Outlining Unit := do
  let next ← peek
  let isExplicit := match next with
    | some .documentStart | some (.directive _) => true
    | _ => false
  if next.isNone then return
  if isExplicit then
    let handles ← directives fuel false []
    modify fun outline => { outline with handles := handles ++ usualHandles }
    expect .documentStart
    match ← peek with
    | none | some .documentStart | some .documentEnd | some (.directive _) =>
      discard (add .empty)
    | _ => discard (node false false fuel)
  else
    modify fun outline => { outline with handles := usualHandles }
    discard (node false false fuel)
  skipEnds fuel
  if (← peek).isSome then fail

end Outlining

def NodeTable.ofTokens (tokens : List Token) (break? : Option TokenBreak) :
    Except YamlFault NodeTable :=
  match Outlining.document (3 * tokens.length + 4) { tokens, break? } with
  | .ok _ outline => .ok outline.nodes
  | .error fault _ => .error fault

end GenWalk.Yaml
