import TaintTriage.Yaml.Place
import TaintTriage.Yaml.Graph

/-!
Merging in the nodes of a document.  An entry of a mapping whose key is the mark for merging stands
for the entries of another mapping or of several, of which the first wins.  They come before the
entries of the mapping itself, which win over them.  A mapping that is merged has its own entries
merged first; one that is being merged already counts with what it has left.
-/

namespace TaintTriage.Yaml

/-- The nodes of a document by number. -/
abbrev Nodes := Array Node

namespace Nodes

def node (nodes : Nodes) (number : Nat) : Node := nodes.getD number default

def entries? (nodes : Nodes) (number : Nat) : Option (List (Nat × Nat)) :=
  match (nodes.node number).content with
  | .mapping entries => some entries
  | _ => none

def setEntries (nodes : Nodes) (number : Nat) (entries : List (Nat × Nat)) : Nodes :=
  nodes.setIfInBounds number { nodes.node number with content := .mapping entries }

def isMerge (nodes : Nodes) (entry : Nat × Nat) : Bool :=
  (nodes.node entry.1).tag == .merge

/-- What the first entry for merging of a mapping stands for, and the nodes without that entry. -/
def takeMerge? (nodes : Nodes) (number : Nat) : Option (Nat × Nodes) := do
  let entries ← nodes.entries? number
  let (_, merged) ← entries.find? nodes.isMerge
  return (merged, nodes.setEntries number (entries.eraseP nodes.isMerge))

/-- The nodes with the keys of some entries that stand for the value of the mapping itself taken
for texts. -/
def withTextKeys (nodes : Nodes) (entries : List (Nat × Nat)) : Nodes :=
  entries.foldl (fun nodes (key, _) =>
    if (nodes.node key).tag = .value then
      nodes.setIfInBounds key { nodes.node key with tag := .str }
    else nodes) nodes

mutual

/-- Merge into a mapping what its entries for merging stand for. -/
def flatten : Nat → Nat → Nodes → Except Fault Nodes
  | 0, _, _ => .error .malformed
  | fuel + 1, number, nodes => do
      let (merged, nodes) ← mergedInto fuel number [] nodes
      let own := (nodes.entries? number).getD []
      let nodes := nodes.withTextKeys own
      return if merged.isEmpty then nodes else nodes.setEntries number (merged ++ own)

/-- The entries that are merged into a mapping, behind those that have been found. -/
def mergedInto : Nat → Nat → List (Nat × Nat) → Nodes →
    Except Fault (List (Nat × Nat) × Nodes)
  | 0, _, _, _ => .error .malformed
  | fuel + 1, number, found, nodes =>
      match nodes.takeMerge? number with
      | none => .ok (found, nodes)
      | some (merged, nodes) => do
          let (further, nodes) ←
            match (nodes.node merged).content with
            | .mapping _ => allEntries fuel [merged] nodes
            | .sequence items => allEntries fuel items nodes
            | .scalar _ => .error .malformed
          mergedInto fuel number (found ++ further) nodes

/-- The entries of some mappings after merging, those of the last mapping first. -/
def allEntries : Nat → List Nat → Nodes → Except Fault (List (Nat × Nat) × Nodes)
  | 0, _, _ => .error .malformed
  | _ + 1, [], nodes => .ok ([], nodes)
  | fuel + 1, number :: rest, nodes => do
      if (nodes.entries? number).isNone then throw .malformed
      let nodes ← flatten fuel number nodes
      let entries := (nodes.entries? number).getD []
      let (others, nodes) ← allEntries fuel rest nodes
      return (others ++ entries, nodes)

end

/-- As many steps as merging can go down: every step takes an entry away or goes along a list. -/
def mergeDepth (nodes : Nodes) : Nat :=
  let size := nodes.foldl (fun size node => size +
    match node.content with
    | .mapping entries => entries.length + 2
    | .sequence items => items.length + 2
    | .scalar _ => 0) 2
  size * size

/-- The entries of a mapping after merging, if the node with a number is one. -/
def mergedEntries (nodes : Nodes) (number : Nat) :
    Except Fault (List (Nat × Nat) × Nodes) := do
  if (nodes.entries? number).isNone then throw .malformed
  let nodes ← flatten nodes.mergeDepth number nodes
  return ((nodes.entries? number).getD [], nodes)

end Nodes

end TaintTriage.Yaml
