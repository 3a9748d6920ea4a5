import TaintTriage.Classification
import TaintTriage.Query.Shipped
import TaintTriage.QueryTable
import TaintTriage.Scoring
import TaintTriage.Settings

/-!
A triage run over a graph: for every enabled query each node is classified, work items are
collected, and these are scored if there is a scorer.  A query that is enabled twice has one entry
among the results.
-/

namespace TaintTriage

/-- Why a run fails. -/
inductive TriageFailure where
  | rule (cause : RuleFailure)
  | scoring (cause : ScoringFailure)

/-- What a run comes to for one query, in numbers. -/
structure QuerySummary where
  report : Report.Summary
  workItems : Nat
  scored : Nat

def QuerySummary.toDocument (s : QuerySummary) : Value :=
  .object (s.report.fields ++ [("work_items", .int s.workItems), ("scored", .int s.scored)])

/-- The results of a run. -/
structure TriageResult where
  reports : QueryTable Report
  workItems : QueryTable (List WorkItem)
  scored : QueryTable (List ScoredItem)

def TriageResult.summary (r : TriageResult) : QueryTable QuerySummary :=
  r.reports.map fun (kind, report) =>
    (kind, ⟨report.summary, ((r.workItems.get? kind).getD []).length,
      ((r.scored.get? kind).getD []).length⟩)

namespace Triage

def logger : Logger := .ofModule "pipeline"

/-- The configurations of the enabled queries. -/
def configurations (s : Settings) : List Configuration :=
  s.classification.queries.map Configuration.ofKind

/-- How a graph is classified for one query. -/
def classifier (s : Settings) (c : Configuration) : Classifier where
  configuration := c
  includeLabels := s.classification.includeLabels
  workers := Pool.workers Pool.usualWorkers s.classification.maxWorkers

/-- Classify a graph for every enabled query. -/
def classify (s : Settings) (g : Snapshot) : Logged RuleFailure (QueryTable Report) := do
  let reports ← (configurations s).mapM fun c => do
    return (c.kind, ← (classifier s c).classifyGraph g)
  return .ofList reports

/-- The work items of one query.  With an engine, only the sinks of novel paths count. -/
def itemsFor (g : Snapshot) (engine : Option FlowEngine) (c : Configuration) :
    Logged RuleFailure (List WorkItem) :=
  match engine with
  | some engine => do
      let paths ← c.candidatePaths engine g
      .ofExcept (c.workItemsFromPaths paths)
  | none => .ofExcept (c.extractWorkItems g.nodes)

def collectWorkItems (s : Settings) (g : Snapshot) (engine : Option FlowEngine) :
    Logged RuleFailure (QueryTable (List WorkItem)) := do
  let items ← (configurations s).mapM fun c => do
    return (c.kind, ← itemsFor g engine c)
  return .ofList items

/-- Score the work items of one query after another.  `earlier` is the number of batches that the
scorer has seen before. -/
def scoreAll (s : ScoringSettings) (scorer : Scorer) (earlier : Nat) :
    QueryTable (List WorkItem) → Logged ScoringFailure (QueryTable (List ScoredItem))
  | [] => pure []
  | (kind, items) :: rest => do
      let run ← Scoring.score scorer items s.batchSize s.maxConcurrency earlier
      let others ← scoreAll s scorer (earlier + run.sent.length) rest
      return (kind, run.scored) :: others

def run (s : Settings) (g : Snapshot) (engine : Option FlowEngine) (scorer : Option Scorer) :
    Logged TriageFailure TriageResult := do
  .write (logger.record .info "Starting run"
    [("queries", .text (",".intercalate ((configurations s).map (·.queryId)))),
     ("nodes", .count g.size)])
  let reports ← (classify s g).mapFailure .rule
  let workItems ← (collectWorkItems s g engine).mapFailure .rule
  let scored ←
    match scorer with
    | some scorer => (scoreAll s.scoring scorer 0 workItems).mapFailure .scoring
    | none => pure []
  .write (logger.record .info "Run complete" [("queries", .count reports.length)])
  return { reports, workItems, scored }

end Triage

end TaintTriage
