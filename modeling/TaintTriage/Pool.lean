import TaintTriage.Value.Convert

/-!
Mapping a function over many items with a pool of workers.  The workers may finish in any order;
the results are taken in the order of the items, so that the first item that fails decides, as it
does when the items are gone through one by one.
-/

namespace TaintTriage.Pool

variable {ε α β : Type}

/-- The fewest items for which a pool is worth its cost. -/
def minItems : Nat := 64

/-- The number of workers of a pool for which none is given. -/
def usualWorkers : Int := 32

/-- The results of a list of outcomes; the first failure decides. -/
def collect : List (Except ε β) → Except ε (List β)
  | [] => .ok []
  | outcome :: rest => do
      let result ← outcome
      return result :: (← collect rest)

/-- Go through the items one by one, up to the first that fails. -/
def mapInline (f : α → Except ε β) (items : List α) : Except ε (List β) :=
  items.mapM f

/-- What the workers have done when the items with the given numbers are finished. -/
def finished (f : α → Except ε β) (items : List α) (order : List Nat) :
    List (Nat × Except ε β) :=
  order.filterMap fun i => items[i]?.map fun a => (i, f a)

/-- The outcomes of all items in the order of the items, whatever order they were finished in. -/
def inItemOrder (size : Nat) (done : List (Nat × Except ε β)) : List (Except ε β) :=
  (List.range size).filterMap fun i => done.lookup i

/-- Map by a pool whose workers finish the items in the given order. -/
def mapPooled (f : α → Except ε β) (items : List α) (order : List Nat) : Except ε (List β) :=
  collect (inItemOrder items.length (finished f items order))

/-- The number of workers: what was asked for, unless that is nothing or zero. -/
def workers (usual : Int) (requested : Option Int) : Int :=
  match requested with
  | some n => if n = 0 then usual else n
  | none => usual

/-- The number of workers for what was asked for: only numbers can be compared with one. -/
def suppliedWorkers (usual : Int) (requested : Value) : Except ValueFault Int :=
  if !requested.isTruthy then .ok usual
  else
    match requested.isLess (.int 2) with
    | .ok few => .ok (if few then (requested.toInt.toOption.getD 1) else usual)
    | .error _ => .error (.incomparable "<=" requested.shape .int)

/-- Map with some number of workers.  One worker, or few items, need no pool. -/
def map (workers : Int) (f : α → Except ε β) (items : List α) : Except ε (List β) :=
  if workers ≤ 1 ∨ items.length < minItems then mapInline f items
  else mapPooled f items (List.range items.length)

end TaintTriage.Pool
