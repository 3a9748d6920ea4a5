import TaintTriage.Scoring

/-!
Scorers that are written down as data: hosts without a model use them to try a configuration out.
-/

namespace TaintTriage

/-- A scorer written down as data. -/
inductive ScorerScript where
  /-- The same score for every item. -/
  | constant (score : Value)
  /-- A tenth of the length of a feature. -/
  | featureLength (feature : String)
  /-- The score that is listed for the node. -/
  | byNode (scores : List (String × Value))
  /-- The whole answer to each batch, in the order of starts. -/
  | answers (batches : List Value)
  /-- No answer to one batch, for a reason, and a middling score everywhere else. -/
  | refuseBatch (reason : String) (batch : Int)
  /-- A middling score, given a number of times too often. -/
  | surplus (count : Int)

namespace ScorerScript

/-- The score that stands in the middle of the scale. -/
def middling : Value := .float 0.5

def lengthScore (feature : String) (item : WorkItem) : Except RuleFailure Value := do
  match item.features.lookup feature with
  | none => .error (.unusable (.missingKey feature))
  | some v => return .float ((← orFail v.length).toFloat / 10.0)

def scorer : ScorerScript → Scorer
  | .constant score, _, batch => .ok (.list (batch.map fun _ => score))
  | .featureLength feature, _, batch => do
      return .list (← batch.mapM (lengthScore feature))
  | .byNode scores, _, batch => do
      return .list (← batch.mapM fun item =>
        match scores.lookup item.nodeId with
        | some score => .ok score
        | none => .error (.unusable (.missingKey item.nodeId)))
  | .answers batches, number, _ =>
      match batches[number]? with
      | some answer => .ok answer
      | none => .error (.unusable .missingPosition)
  | .refuseBatch reason refused, number, batch =>
      if (number : Int) = refused then .error (.refused reason)
      else .ok (.list (batch.map fun _ => middling))
  | .surplus count, _, batch =>
      .ok (.list (List.replicate (batch.length + count).toNat middling))

end ScorerScript

end TaintTriage
