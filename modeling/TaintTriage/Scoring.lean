import TaintTriage.Gather
import TaintTriage.WorkItem

/-!
Scoring work items by an external model.  Items are sent in batches, a bounded number of them at a
time; a score stays with the item at its position.
-/

namespace TaintTriage

/-- A scorer answers a batch of items, given the number of the batch in the order of starts.  Its
answer is a loosely typed value: the scores in order, if it is what it should be. -/
abbrev Scorer := Nat → List WorkItem → Except RuleFailure Value

/-- A work item with its score. -/
structure ScoredItem where
  item : WorkItem
  score : Float

/-- Why items cannot be scored. -/
inductive ScoringFailure where
  | batchSize
  | concurrency
  /-- The scorer failed on a batch. -/
  | scorer (cause : RuleFailure)
  /-- The answer has no length or no items, or a score is no number. -/
  | unusable (cause : ValueFault)
  /-- The answer has the wrong number of scores. -/
  | wrongCount (scores items : Nat)

def ScoringFailure.message : ScoringFailure → String
  | .batchSize => "batch_size must be at least 1"
  | .concurrency => "max_concurrency must be at least 1"
  | .scorer cause => cause.message
  | .unusable cause => cause.message
  | .wrongCount scores items =>
      "Scorer returned " ++ toString scores ++ " scores for a batch of " ++ toString items ++
        " items"

namespace Scoring

def logger : Logger := .ofModule "work_items" "ml"

/-- A list cut into pieces of `size + 1` entries; the last one may be shorter. -/
def batches {α : Type} (size : Nat) (items : List α) : List (List α) :=
  match items with
  | [] => []
  | first :: rest => (first :: rest.take size) :: batches size (rest.drop size)
termination_by items.length
decreasing_by
  simp only [List.length_drop, List.length_cons]
  omega

/-- The scored items of one batch. -/
def readAnswer (batch : List WorkItem) (answer : Value) :
    Except ScoringFailure (List ScoredItem) := do
  let count ← answer.length.mapError .unusable
  if count ≠ batch.length then throw (.wrongCount count batch.length)
  let scores ← answer.items.mapError .unusable
  (batch.zip scores).mapM fun (item, score) => do
    return ⟨item, ← score.toDouble.mapError .unusable⟩

/-- What a scoring run did. -/
structure Run where
  scored : List ScoredItem
  sent : List (List WorkItem)
  peak : Nat

/-- Score items, the calls of the scorer finishing in the given order.  `earlier` is the number of
batches that the scorer has seen before. -/
def scoreIn (order : List Nat) (scorer : Scorer) (items : List WorkItem)
    (batchSize maxConcurrency : Int) (earlier : Nat) : Logged ScoringFailure (List ScoredItem) := do
  if batchSize < 1 then .ofExcept (.error .batchSize)
  if maxConcurrency < 1 then .ofExcept (.error .concurrency)
  let sent := batches (batchSize.toNat - 1) items
  let tasks := sent.zipIdx.map fun (batch, i) => scorer (earlier + i) batch
  let answers ← .ofExcept ((Gather.resultsIn order maxConcurrency tasks).mapError fun
    | .failed cause => ScoringFailure.scorer cause
    | _ => .concurrency)
  let scored ← .ofExcept ((sent.zip answers).mapM fun (batch, answer) => readAnswer batch answer)
  .write (logger.record .info "Scored work items"
    [("items", .count scored.flatten.length), ("batches", .count sent.length)])
  return scored.flatten

/-- Score items, the calls of the scorer finishing in the order in which they start. -/
def score (scorer : Scorer) (items : List WorkItem) (batchSize maxConcurrency : Int)
    (earlier : Nat := 0) : Logged ScoringFailure Run := do
  let sent := batches (batchSize.toNat - 1) items
  let scored ← scoreIn (List.range sent.length) scorer items batchSize maxConcurrency earlier
  return ⟨scored, sent, Gather.peak maxConcurrency.toNat sent.length⟩

def scoreWithin (scorer : Scorer) (items : List WorkItem) (batchSize maxConcurrency : Value) :
    Logged ScoringFailure Run := do
  let isBelowOne (v : Value) : Logged ScoringFailure Bool :=
    .ofExcept ((v.isLess (.int 1)).mapError .unusable)
  if ← isBelowOne batchSize then .ofExcept (.error .batchSize)
  if ← isBelowOne maxConcurrency then .ofExcept (.error .concurrency)
  let size ← .ofExcept (match batchSize with
    | .bool _ | .int _ => batchSize.toInt.mapError .unusable
    | v => .error (.unusable (.notInteger v.shape)))
  let bound ← .ofExcept ((Gather.suppliedBound maxConcurrency items.length).mapError .unusable)
  score scorer items size bound

end Scoring

end TaintTriage
