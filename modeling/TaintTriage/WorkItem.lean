import TaintTriage.Configuration

/-!
Work items: candidate endpoints to be scored, one for each relevant type, with the features of the
node that scorers look at.
-/

namespace TaintTriage

/-- A candidate endpoint to be scored for one endpoint type. -/
structure WorkItem where
  nodeId : String
  type : EndpointType
  features : List (String × Value)

def WorkItem.toDocument (item : WorkItem) : Value :=
  .object
    [("node_id", .str item.nodeId), ("encoding", item.type.encoding.toValue),
     ("kind", .str item.type.kind), ("features", .object item.features)]

/-- The features of a node with a text for its file.  Absent texts are empty, an absent position is
minus one. -/
def NodeRecord.featuresWith (file : String) (n : Node) : List (String × Value) :=
  [("kind", n.kind),
   ("callee_name", n.calleeName.orEmpty),
   ("receiver_name", n.receiverName.orEmpty),
   ("argument_index", match n.argumentIndex with | .null => .int (-1) | v => v),
   ("property_name", n.propertyName.orEmpty),
   ("string_value", n.stringValue.orEmpty),
   ("enclosing_function", n.enclosingFunction.orEmpty),
   ("is_external_call", .bool n.isExternalCall),
   ("file_path", .str file)]

/-- The features of a node.  The text of an absent file is empty, and any other one must have a
text. -/
def NodeRecord.features (n : Node) : Except ValueFault (List (String × Value)) := do
  return n.featuresWith ((← n.filePath.text?).getD "")

namespace Configuration

def itemsOf (c : Configuration) (n : Node) : Except RuleFailure (List WorkItem) := do
  let features ← orFail n.features
  return c.relevantSinkTypes.map fun t => ⟨n.id, t, features⟩

/-- The work items of nodes whose ids have not been seen.  Only the first node with an id counts,
whether it gives items or not. -/
def extractUnseen (c : Configuration) (seen : List String) :
    List Node → Except RuleFailure (List WorkItem)
  | [] => .ok []
  | n :: rest => do
      if seen.contains n.id then c.extractUnseen seen rest
      else
        let isCandidate ← do
          if ← c.isEffectiveSink n then pure !(← c.isKnownSink n) else pure false
        let items ← if isCandidate then c.itemsOf n else pure []
        let others ← c.extractUnseen (n.id :: seen) rest
        return items ++ others

/-- The work items of the effective sinks among some nodes that are no known sinks. -/
def extractWorkItems (c : Configuration) (nodes : List Node) :
    Except RuleFailure (List WorkItem) :=
  c.extractUnseen [] nodes

def workItemsFromPaths (c : Configuration) (paths : List FlowPath) :
    Except RuleFailure (List WorkItem) := do
  let novel ← paths.filterM fun p => c.isSinkCandidateWithFlow p none
  c.extractWorkItems (novel.map (·.sink))

end Configuration

end TaintTriage
