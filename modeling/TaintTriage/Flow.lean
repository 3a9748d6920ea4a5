import TaintTriage.Rule
import TaintTriage.Snapshot

/-!
Flow paths and the engines that find them.  An engine is any function from the four predicates of
an analysis and a graph to paths; a plain one, which goes through a fixed list of flows, is given
as an example and for hosts that have their flows at hand.
-/

namespace TaintTriage

/-- A path from a source to a sink. -/
structure FlowPath where
  source : Node
  sink : Node
  steps : List Value

/-- What tells the paths between two nodes from others: the ids of its ends. -/
def FlowPath.key (p : FlowPath) : String × String :=
  (p.source.id, p.sink.id)

/-- The predicates of an analysis. -/
structure FlowPredicates where
  isSource : Rule
  isSink : Rule
  isSanitizer : Node → Bool
  isAdditionalFlowStep : Node → Node → Bool

/-- An engine that finds the paths under given predicates. -/
abbrev FlowEngine := FlowPredicates → Snapshot → Except RuleFailure (List FlowPath)

/-- A flow that a host knows of: the ids of its ends and, if they are known, its steps. -/
structure Flow where
  source : String
  sink : String
  steps : Option (List Value) := none

namespace Flow

/-- The path of a flow under given predicates, if it is one.  The source is judged before the
sink. -/
def path? (needStep : Bool) (predicates : FlowPredicates) (g : Snapshot) (flow : Flow) :
    Except RuleFailure (Option FlowPath) := do
  match g.get? flow.source, g.get? flow.sink with
  | some source, some sink =>
      if predicates.isSanitizer sink then return none
      if needStep && !predicates.isAdditionalFlowStep source sink then return none
      if !(← predicates.isSource source) then return none
      if !(← predicates.isSink sink) then return none
      return some ⟨source, sink, flow.steps.getD [.str flow.source, .str flow.sink]⟩
  | _, _ => return none

def engine (flows : List Flow) (needStep : Bool) : FlowEngine := fun predicates g => do
  return (← flows.mapM (path? needStep predicates g)).filterMap id

end Flow

end TaintTriage
