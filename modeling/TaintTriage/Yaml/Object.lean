import TaintTriage.Yaml.Merge
import TaintTriage.Yaml.Word

/-!
The objects that the nodes of a document stand for.  A scalar becomes a value where it is met
first; a collection is made empty there and filled in its turn, the collections that were met first
before those that were met later.  Of several faults the one that is met first in this order
counts.
-/

namespace TaintTriage.Yaml

/-- What stands at a place in a collection: a value, or the number of the node of another
collection. -/
inductive Part where
  | value (v : Value)
  | collection (number : Nat)
deriving Inhabited

/-- A collection that has been filled. -/
inductive Collection where
  | list (items : List Part)
  | pairs (items : List (Part × Part))
  | set (members : List Value)
  | map (entries : List (Value × Part))
deriving Inhabited

/-- How far the objects of a document are made. -/
structure Making where
  nodes : Nodes
  /-- What the nodes that were met have become. -/
  parts : Array (Option Part)
  /-- The collections that have been filled. -/
  filled : Array (Option Collection)
  /-- The collections that were met and are not filled, in order. -/
  waiting : List Nat := []

/-- Nothing is made yet. -/
def Making.start (nodes : Nodes) : Making :=
  ⟨nodes, nodes.map fun _ => none, nodes.map fun _ => none, []⟩

namespace Making

/-- The content of a scalar.  A mapping stands for what is under the key for the value of the
mapping itself. -/
def contentOf (nodes : Nodes) : Nat → Nat → Except Fault String
  | 0, _ => .error .malformed
  | fuel + 1, number =>
      match (nodes.node number).content with
      | .scalar text => .ok text
      | .sequence _ => .error .malformed
      | .mapping entries =>
          match entries.find? fun entry => (nodes.node entry.1).tag == .value with
          | some (_, v) => contentOf nodes fuel v
          | none => .error .malformed

/-- The value of a scalar.  A time is looked for in the node itself and not in what it stands
for. -/
def scalarValue (nodes : Nodes) (number : Nat) : Except Fault Value := do
  let node := nodes.node number
  match node.tag with
  | .merge | .value | .other _ => throw .malformed
  | tag =>
      let content ← contentOf nodes (nodes.size + 1) number
      match tag, node.content with
      | .timestamp, .mapping _ => throw (.unfit (.notText .list))
      | _, _ => tag.scalar content

def isCollection : Tag → Bool
  | .seq | .omap | .pairs | .map | .set => true
  | _ => false

/-- What a node becomes.  A collection is filled later. -/
def make (m : Making) (number : Nat) : Except Fault (Part × Making) :=
  match m.parts.getD number none with
  | some part => .ok (part, m)
  | none =>
      if isCollection (m.nodes.node number).tag then
        let part := Part.collection number
        .ok (part, { m with
          parts := m.parts.setIfInBounds number (some part), waiting := m.waiting ++ [number] })
      else do
        let part := Part.value (← scalarValue m.nodes number)
        return (part, { m with parts := m.parts.setIfInBounds number (some part) })

def makeItems (m : Making) : List Nat → Except Fault (List Part × Making)
  | [] => .ok ([], m)
  | number :: rest => do
      let (item, m) ← m.make number
      let (others, m) ← m.makeItems rest
      return (item :: others, m)

/-- The pairs of a list of mappings that have a single entry each. -/
def makePairs (m : Making) : List Nat → Except Fault (List (Part × Part) × Making)
  | [] => .ok ([], m)
  | number :: rest =>
      match m.nodes.entries? number with
      | some [(key, v)] => do
          let (first, m) ← m.make key
          let (second, m) ← m.make v
          let (others, m) ← m.makePairs rest
          return ((first, second) :: others, m)
      | _ => .error .malformed

/-- The entries of a mapping, behind those that have been made.  A key has to be hashable, and the
last of several equal keys wins. -/
def makeEntries (m : Making) (made : List (Value × Part)) :
    List (Nat × Nat) → Except Fault (List (Value × Part) × Making)
  | [] => .ok (made, m)
  | (key, v) :: rest => do
      let (key, m) ← m.make key
      match key with
      | .collection _ => throw .malformed
      | .value key =>
          let (part, m) ← m.make v
          m.makeEntries (Value.insert made key part) rest

def fill (m : Making) (number : Nat) : Except Fault Making := do
  let node := m.nodes.node number
  let (collection, m) ←
    match node.tag, node.content with
    | .seq, .sequence items => do
        let (items, m) ← m.makeItems items
        pure (Collection.list items, m)
    | .omap, .sequence items | .pairs, .sequence items => do
        let (items, m) ← m.makePairs items
        pure (Collection.pairs items, m)
    | .map, .mapping _ => do
        let (entries, nodes) ← m.nodes.mergedEntries number
        let (entries, m) ← { m with nodes }.makeEntries [] entries
        pure (Collection.map entries, m)
    | .set, .mapping _ => do
        let (entries, nodes) ← m.nodes.mergedEntries number
        let (entries, m) ← { m with nodes }.makeEntries [] entries
        pure (Collection.set (entries.map (·.1)), m)
    | _, _ => throw .malformed
  return { m with filled := m.filled.setIfInBounds number (some collection) }

/-- Fill all collections that are waiting.  A collection waits once at most. -/
def fillAll : Nat → Making → Except Fault Making
  | 0, m => .ok m
  | fuel + 1, m =>
      match m.waiting with
      | [] => .ok m
      | number :: rest => do fillAll fuel (← { m with waiting := rest }.fill number)

end Making

def Graph.objects (g : Graph) : Except Fault (Part × Array (Option Collection)) := do
  let (root, m) ← (Making.start g.nodes).make g.root
  let m ← m.fillAll (g.nodes.size + 1)
  return (root, m.filled)

end TaintTriage.Yaml
