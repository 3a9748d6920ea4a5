import TaintTriage.Configuration
import TaintTriage.Labeller
import TaintTriage.Pool

/-!
Classifying every node of a graph under one configuration: what the node is on both axes, why it
is excluded, its labels and its ambiguity, collected in a report with counts.
-/

namespace TaintTriage

/-- The classification of one node. -/
structure NodeClassification where
  nodeId : String
  sourceStatus : SourceStatus
  sinkStatus : SinkStatus
  reasons : List String
  labels : List String
  ambiguity : Option Ambiguity
deriving DecidableEq

def NodeClassification.isSinkCandidate (c : NodeClassification) : Bool :=
  c.sinkStatus == .effectiveSink

def NodeClassification.toDocument (c : NodeClassification) : Value :=
  .object
    [("node_id", .str c.nodeId), ("source", .str c.sourceStatus.id),
     ("sink", .str c.sinkStatus.id), ("reasons", .texts c.reasons), ("labels", .texts c.labels),
     ("ambiguity", (c.ambiguity.map (·.toDocument)).getD .null)]

/-- How a graph is classified. -/
structure Classifier where
  configuration : Configuration
  registry : LabellerRegistry := .shipped
  includeLabels : Bool := true
  workers : Int := 1

/-- The classification of a graph. -/
structure Report where
  queryId : String
  classifications : List NodeClassification

namespace Report

def withSinkStatus (r : Report) (status : SinkStatus) : List NodeClassification :=
  r.classifications.filter (·.sinkStatus == status)

def withSourceStatus (r : Report) (status : SourceStatus) : List NodeClassification :=
  r.classifications.filter (·.sourceStatus == status)

/-- The ambiguities, in graph order. -/
def ambiguities (r : Report) : List Ambiguity :=
  r.classifications.filterMap (·.ambiguity)

def get? (r : Report) (nodeId : String) : Option NodeClassification :=
  r.classifications.find? (·.nodeId == nodeId)

/-- The counts of a report. -/
structure Summary where
  query : String
  nodes : Nat
  sinks : SinkStatus → Nat
  sources : SourceStatus → Nat
  ambiguous : Nat

/-- The counts by name. -/
def Summary.fields (s : Summary) : List (String × Value) :=
  [("query", .str s.query), ("nodes", .int s.nodes),
   ("sinks", .object (SinkStatus.all.map fun status => (status.id, .int (s.sinks status)))),
   ("sources", .object (SourceStatus.all.map fun status => (status.id, .int (s.sources status)))),
   ("ambiguous", .int s.ambiguous)]

def Summary.toDocument (s : Summary) : Value := .object s.fields

/-- Count what is in the report, in one pass over it. -/
def summary (r : Report) : Summary where
  query := r.queryId
  nodes := r.classifications.length
  sinks := fun status => r.classifications.foldl
    (fun count c => if c.sinkStatus = status then count + 1 else count) 0
  sources := fun status => r.classifications.foldl
    (fun count c => if c.sourceStatus = status then count + 1 else count) 0
  ambiguous := r.ambiguities.length

end Report

namespace Classifier

def logger : Logger := .ofModule "classifier" "endpoints"

/-- The labels of a node: those of the registry, and a label for each refinement of the query that
applies if the registry has labels for characteristics at all. -/
def labels (k : Classifier) (n : Node) : Except RuleFailure (List String) := do
  let registered ← k.registry.labelsFor n
  if k.registry.ranges.contains LabellerRegistry.characteristicRange then
    let refinements ← Characteristic.applicable n k.configuration.refinements
    let named := refinements.map fun c =>
      LabellerRegistry.characteristicRange ++ String.singleton labelSeparator ++ c.name
    return (NameSet.ofList (registered ++ named)).names
  return registered

/-- Classify one node.  Reasons are given for excluded nodes only. -/
def classifyNode (k : Classifier) (n : Node) : Except RuleFailure NodeClassification := do
  let sinkStatus ← k.configuration.sinkStatus n
  let reasons ←
    if sinkStatus = .excluded then k.configuration.exclusionReasons n else pure []
  let labels ← if k.includeLabels then k.labels n else pure []
  let sourceStatus ← k.configuration.sourceStatus n
  let ambiguity ← k.configuration.findAmbiguity n
  return { nodeId := n.id, sourceStatus, sinkStatus, reasons, labels, ambiguity }

/-- What is logged about a report: each ambiguity, then the counts. -/
def reportRecords (r : Report) : List LogRecord :=
  let query : String × Detail := ("query", .text r.queryId)
  (r.ambiguities.map fun a => logger.record .warning a.message [query]) ++
    [logger.record .info "Classified graph"
      [query,
       ("nodes", .count r.summary.nodes),
       ("known", .count (r.summary.sinks .knownSink)),
       ("effective", .count (r.summary.sinks .effectiveSink)),
       ("excluded", .count (r.summary.sinks .excluded))]]

def classifyGraph (k : Classifier) (g : Snapshot) : Logged RuleFailure Report := do
  let classifications ← .ofExcept (Pool.map k.workers k.classifyNode g.nodes)
  let report : Report := ⟨k.configuration.queryId, classifications⟩
  .writeAll (reportRecords report)
  return report

end Classifier

end TaintTriage
