import Handover.Value.Order
import Handover.Yaml.Node
import Handover.Yaml.Scalar

namespace Handover.Yaml

/-- What a node has become. Its parts are given by the numbers of their nodes, since they are built
later than itself. -/
inductive Object where
  | value (v : Value)
  | list (items : List Nat)
  | pairs (items : List (Nat × Nat))
  | set (members : List Value)
  | map (entries : List (Value × Nat))

/-- The nodes as they are now, the objects so far, and the collections to be filled on the next level,
from the last one back. Nodes change: merged entries are brought in, and a key that is an equals sign
becomes text. -/
structure Builder where
  nodes : Array Node
  objects : List (Nat × Object) := []
  waiting : List Nat := []

abbrev Building (α : Type) := StateT Builder (Except Fault) α

namespace Building

def malformed : Building α :=
  throw .malformed

def node (n : Nat) : Building Node :=
  return (← get).nodes.getD n .empty

def setNode (n : Nat) (m : Node) : Building Unit :=
  modify fun b => { b with nodes := b.nodes.setIfInBounds n m }

def tag (n : Nat) : Building Tag :=
  return (← node n).tag

def items (n : Nat) : Building (List Nat) := do
  match ← node n with
  | .sequence _ items => return items
  | _ => malformed

def entries (n : Nat) : Building (List (Nat × Nat)) := do
  match ← node n with
  | .mapping _ entries => return entries
  | _ => malformed

def setEntries (n : Nat) (entries : List (Nat × Nat)) : Building Unit := do
  setNode n (.mapping (← tag n) entries)

def put (n : Nat) (o : Object) : Building Unit :=
  modify fun b => { b with objects := (n, o) :: b.objects }

/-- More than a path through the nodes can be long. -/
def depth : Building Nat :=
  return (← get).nodes.size + 1

def text : (fuel : Nat) → Nat → Building Text
  | 0, _ => malformed
  | fuel + 1, n => do
      match ← node n with
      | .scalar _ t => return t
      | .sequence _ _ => malformed
      | .mapping _ es =>
          match ← es.findM? fun e => return (← tag e.1) = .value with
          | some (_, v) => text fuel v
          | none => malformed

def flattenEntry (taken : Nat → Building (List (Nat × Nat))) (e : Nat × Nat) :
    Building (List (Nat × Nat) × List (Nat × Nat)) := do
  match ← tag e.1 with
  | .merge =>
      match ← node e.2 with
      | .sequence _ items => return ((← items.mapM taken).reverse.flatten, [])
      | _ => return (← taken e.2, [])
  | .value =>
      setNode e.1 ((← node e.1).retag .text)
      return ([], [e])
  | _ => return ([], [e])

def flatten : (fuel : Nat) → Nat → Building Unit
  | 0, _ => malformed
  | fuel + 1, n => do
      let taken (m : Nat) : Building (List (Nat × Nat)) := do
        flatten fuel m
        entries m
      let parts ← (← entries n).mapM (flattenEntry taken)
      setEntries n ((parts.map Prod.fst).flatten ++ (parts.map Prod.snd).flatten)

def scalarValue (tag : Tag) (t : Text) : Except Fault Value :=
  match tag with
  | .null => .ok .null
  | .bool => (Scalar.bool t).map .bool
  | .int => (Scalar.integer t).map .int
  | .float => (Scalar.float t).map .float
  | .binary => (Scalar.binary t).map .bytes
  | .timestamp => Scalar.timestamp t
  | .text => .ok (.text t)
  | _ => .error .malformed

/-- A date is not looked for in the default of a mapping, but in the mapping itself. -/
def scalar (n : Nat) : Building Value := do
  let t ← text (← depth) n
  match ← node n with
  | .mapping .timestamp _ => throw .notDateText
  | m => scalarValue m.tag t

def emptyCollection? : Tag → Option Object
  | .sequence => some (.list [])
  | .orderedMap => some (.pairs [])
  | .pairs => some (.pairs [])
  | .set => some (.set [])
  | .mapping => some (.map [])
  | _ => none

/-- Begins the object of a node, unless it is there: a scalar is read at once, a collection waits. -/
def start (n : Nat) : Building Unit := do
  if ((← get).objects.lookup n).isSome then return
  match emptyCollection? (← tag n) with
  | none => put n (.value (← scalar n))
  | some o =>
      put n o
      modify fun b => { b with waiting := n :: b.waiting }

def key (n : Nat) : Building Value := do
  start n
  match (← get).objects.lookup n with
  | some (.value v) => return v
  | _ => malformed

def mapping (n : Nat) : Building (List (Value × Nat)) := do
  flatten (← depth) n
  (← entries n).foldlM (fun before e => do
    let k ← key e.1
    start e.2
    return Value.insertEntry k e.2 before) []

def pair (n : Nat) : Building (Nat × Nat) := do
  match ← entries n with
  | [(k, v)] =>
      start k
      start v
      return (k, v)
  | _ => malformed

def fill (n : Nat) : Building Unit := do
  match ← tag n with
  | .sequence =>
      let items ← items n
      items.forM start
      put n (.list items)
  | .set => put n (.set ((← mapping n).map Prod.fst))
  | .mapping => put n (.map (← mapping n))
  | _ => put n (.pairs (← (← items n).mapM pair))

def fillAll : (fuel : Nat) → Building Unit
  | 0 => return
  | fuel + 1 => do
      let b ← get
      if b.waiting.isEmpty then return
      set { b with waiting := [] }
      b.waiting.reverse.forM fill
      fillAll fuel

end Building

def Object.toValue (objects : List (Nat × Object)) : (fuel : Nat) → Nat → Value
  | 0, _ => .null
  | fuel + 1, n =>
      let part := toValue objects fuel
      match objects.lookup n with
      | some (.value v) => v
      | some (.list items) => .list (items.map part)
      | some (.pairs items) => .list (items.map fun e => .tuple [part e.1, part e.2])
      | some (.set members) => .set members
      | some (.map entries) => .map (entries.map fun e => (e.1, part e.2))
      | none => .null

def Graph.toValue (g : Graph) : Except Fault Value := do
  let depth := g.nodes.size + 1
  let build : Building Unit := do
    Building.start g.root
    Building.fillAll depth
  let (_, b) ← build.run { nodes := g.nodes }
  return Object.toValue b.objects depth g.root

end Handover.Yaml
