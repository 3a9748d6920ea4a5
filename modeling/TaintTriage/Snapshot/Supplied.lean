import TaintTriage.Snapshot.Document

/-!
Snapshots from the hands of a caller: checked nodes, and steps between ends that may be any values.
Steps are told apart by their ends; of several between the same ends the last one counts, in the
place of the first.
-/

namespace TaintTriage

/-- A snapshot with the ends of its steps as they were supplied. -/
structure SuppliedSnapshot where
  nodes : List Node
  steps : List (Value × NameSet)
  distinct : (nodes.map (·.id)).Nodup

namespace SuppliedSnapshot

/-- The steps that a caller supplies, each with its ends and its tags, by their ends. -/
def stepsOf (steps : Value) : Except ValueFault (List (Value × Value)) :=
  match steps with
  | .null => .ok []
  | steps => do
      (← steps.items).foldlM (fun found step => do
        let (source, target, tags) ← step.triple
        let ends := Value.pair source target
        ends.requireHashable
        return Value.insert found ends tags) []

def build (nodes : List Node) (steps : Value) : Except SnapshotFault SuppliedSnapshot := do
  let found ← (stepsOf steps).mapError .unusable
  let g ← Snapshot.ofNodes nodes .empty
  let tagged ← found.mapM fun (ends, tags) => do
    return (ends, ← (namesOf tags).mapError .unusable)
  return ⟨g.nodes, tagged, g.distinct⟩

def toDocument (g : SuppliedSnapshot) : Except ValueFault Value := do
  let step (source target : Value) (tags : NameSet) : Value :=
    .object [("from", source), ("to", target), ("tags", .texts tags.names)]
  let nodes ← g.nodes.mapM fun n => n.unchecked.toDocument
  return .object
    [("nodes", .list nodes),
     ("steps", .list (g.steps.map fun entry =>
        match entry.1 with
        | .pair source target => step source target entry.2
        | v => step v v entry.2))]

end SuppliedSnapshot

end TaintTriage
