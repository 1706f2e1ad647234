import GenWalk.Yaml.Node
import GenWalk.Yaml.Token.Lexer

/-!
Documents as data. The collections of a document are looked at from the top on, each of them once
and all of one level before those further down, so that the first fault is the one nearest to the
top; of a document without fault `NodeTable.values` then holds the value of every node.
-/

namespace GenWalk.Yaml

namespace Node

def isCollection (node : Node) : Bool :=
  match node.tag with
  | .sequence | .mapping | .set | .orderedMap | .pairs => true
  | _ => false

def scalarValue (node : Node) (text? : Option Text) : Except YamlFault Value :=
  match node, text? with
  | mapping .timestamp _, some _ => .error (.misfit .timeInParts)
  | _, some text => Scalar.value node.tag text
  | _, none => .error .malformed

/-- The node as a key of a mapping: what stands for the value elsewhere is text there. -/
def asKey (node : Node) : Node :=
  match node with
  | scalar .defaultValue text => scalar .text text
  | mapping .defaultValue entries => mapping .text entries
  | _ => node

end Node

namespace NodeTable

def nodeAt (nodes : NodeTable) (place : Nat) : Node := nodes[place]?.getD .empty

def tabulate (nodes : NodeTable) (find : Array α → Node → α) : Array α :=
  nodes.foldl (fun found node => found.push (find found node)) #[]

def texts (nodes : NodeTable) : Array (Option Text) :=
  nodes.tabulate fun found node => match node with
    | .scalar _ text => some text
    | .sequence _ _ => none
    | .mapping _ entries =>
      (entries.find? fun entry => (nodes.nodeAt entry.1).tag = .defaultValue).bind fun entry =>
        found[entry.2]?.join

/-- The entries of mappings with those that are merged into them before their own, or nothing where
something else than mappings is to be merged. A list of mappings is merged from its end, so that the
first one counts most. -/
def mergedEntries (nodes : NodeTable) : Array (Option (List (Nat × Nat))) :=
  nodes.tabulate fun found node => match node with
    | .mapping _ entries => do
      let isMerge (entry : Nat × Nat) : Bool := (nodes.nodeAt entry.1).tag = .merge
      let merged ← (entries.filter isMerge).mapM fun entry => match nodes.nodeAt entry.2 with
        | .mapping _ _ => found[entry.2]?.join
        | .sequence _ items => do
          let lists ← items.mapM fun item => found[item]?.join
          some lists.reverse.flatten
        | .scalar _ _ => none
      some (merged.flatten ++ entries.filter (!isMerge ·))
    | _ => none

end NodeTable

inductive Part where
  | node (place : Nat) (isKey : Bool)
  | misplaced

/-- A table of nodes with what is found for each of them. -/
structure Survey where
  nodes : NodeTable
  texts : Array (Option Text)
  merged : Array (Option (List (Nat × Nat)))

namespace Survey

def ofNodes (nodes : NodeTable) : Survey where
  nodes
  texts := nodes.texts
  merged := nodes.mergedEntries

def node (survey : Survey) (place : Nat) (isKey : Bool) : Node :=
  let node := survey.nodes.nodeAt place
  if isKey then node.asKey else node

def scalarValue (survey : Survey) (place : Nat) (isKey : Bool) : Except YamlFault Value :=
  (survey.node place isKey).scalarValue survey.texts[place]?.join

def entries? (survey : Survey) (place : Nat) : Option (List (Nat × Nat)) :=
  survey.merged[place]?.join

def parts (survey : Survey) (place : Nat) : List Part :=
  let node := survey.nodes.nodeAt place
  match node.tag, node with
  | .sequence, .sequence _ items => items.map (.node · false)
  | .mapping, .mapping _ _ | .set, .mapping _ _ => match survey.entries? place with
    | some entries => entries.flatMap fun entry => [.node entry.1 true, .node entry.2 false]
    | none => [.misplaced]
  | .orderedMap, .sequence _ items | .pairs, .sequence _ items =>
    items.flatMap fun item => match survey.nodes.nodeAt item with
      | .mapping _ [(key, value)] => [.node key false, .node value false]
      | _ => [.misplaced]
  | _, _ => [.misplaced]

/-- The collections that are met or wait to be looked at. -/
structure Round where
  met : Array Bool
  waiting : Array Nat := #[]

def look (survey : Survey) (round : Round) : Part → Except YamlFault Round
  | .misplaced => .error .malformed
  | .node place isKey =>
    if (survey.node place isKey).isCollection then
      if isKey then .error .malformed
      else if round.met[place]?.getD true then .ok round
      else .ok { met := round.met.setIfInBounds place true, waiting := round.waiting.push place }
    else (survey.scalarValue place isKey).map fun _ => round

def lookFrom (survey : Survey) (position : Nat) : (count : Nat) → Round → Except YamlFault Unit
  | 0, _ => .ok ()
  | count + 1, round => match round.waiting[position]? with
    | none => .ok ()
    | some place => do
      lookFrom survey (position + 1) count (← (survey.parts place).foldlM survey.look round)

def check (survey : Survey) (place : Nat) : Except YamlFault Unit := do
  let round ← survey.look ⟨survey.nodes.map fun _ => false, #[]⟩ (.node place false)
  survey.lookFrom 0 survey.nodes.size round

def valueOf (survey : Survey) (known : Array Value) (node : Node) : Value :=
  let place := known.size
  let scalarAt (place : Nat) (isKey : Bool) : Value :=
    (survey.scalarValue place isKey).toOption.getD .null
  let valueAt (part : Nat) : Value := known[part]?.getD .null
  let keyAt (part : Nat) : Value :=
    if (survey.node part true).isCollection then valueAt part else scalarAt part true
  let entries := ((survey.entries? place).getD []).map fun entry =>
    (keyAt entry.1, valueAt entry.2)
  match node.tag, node with
  | .sequence, .sequence _ items => .list (items.map valueAt)
  | .orderedMap, .sequence _ items | .pairs, .sequence _ items =>
    .list (items.map fun item => match survey.nodes.nodeAt item with
      | .mapping _ [(key, value)] => .list [valueAt key, valueAt value]
      | _ => .null)
  | .set, .mapping _ _ => .set (Value.distinctKeys (entries.map Prod.fst))
  | .mapping, .mapping _ _ => .map entries
  | _, _ => scalarAt place false

def values (survey : Survey) : Array Value := survey.nodes.tabulate survey.valueOf

end Survey

def isAllowed (character : Char) : Bool :=
  let point := character.toNat
  point = 0x09 || point = 0x0A || point = 0x0D || (0x20 ≤ point && point ≤ 0x7E) || point = 0x85 ||
    (0xA0 ≤ point && point ≤ 0xFFFD) || 0x10000 ≤ point

/-- Reads the only document of a text; a text without one holds nothing. -/
def read (characters : List Char) : Except YamlFault Value := do
  unless characters.all isAllowed do throw .malformed
  let (tokens, break?) := Token.ofCharacters characters
  let nodes ← NodeTable.ofTokens tokens break?
  if nodes.isEmpty then return .null
  let survey := Survey.ofNodes nodes
  survey.check (nodes.size - 1)
  return survey.values.back?.getD .null

end GenWalk.Yaml
