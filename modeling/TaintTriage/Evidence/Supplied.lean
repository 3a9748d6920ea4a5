import TaintTriage.Characteristic.Supplied
import TaintTriage.Evidence

/-!
What loosely typed characteristics say about a node.  The answers are those for proper ones, except
that a name or a type may turn out not to fit where it is kept in a set, put in order or shown.
Entries are put in order by a comparison that may fail: each at its place among those before it, and
the first comparison that fails decides.
-/

namespace TaintTriage

section Sorting

variable {α ε : Type}

/-- Put an entry before the first one that it is less than. -/
def insertBy (less : α → α → Except ε Bool) (x : α) : List α → Except ε (List α)
  | [] => .ok [x]
  | y :: rest => do
      if ← less x y then return x :: y :: rest else return y :: (← insertBy less x rest)

/-- The entries of a list in increasing order. -/
def sortedBy (less : α → α → Except ε Bool) (xs : List α) : Except ε (List α) :=
  xs.foldlM (fun sorted x => insertBy less x sorted) []

example : (sortedBy (ε := Empty) (fun a b => .ok (decide (a < b))) [3, 1, 2]).toOption =
    some [1, 2, 3] := by decide

end Sorting

namespace SuppliedCharacteristic

open SuppliedType

/-- The characteristics whose rule holds for a node, in order.  The first rule that fails decides
for all. -/
def applicable (n : Node) :
    List (Supplied SuppliedCharacteristic) → Except RuleFailure (List SuppliedCharacteristic)
  | [] => .ok []
  | .other v :: _ => .error (.unusable (.noMember v.shape "applies_to"))
  | .expected c :: rest => do
      let holds ← c.rule n
      let others ← applicable n rest
      return if holds then c :: others else others

/-- The first of equal values in a list of types. -/
def distinctTypes (types : List SuppliedType) : List SuppliedType :=
  types.foldl (fun found t => if found.any t.equals then found else found ++ [t]) []

def knownTypes (n : Node) (characteristics : List (Supplied SuppliedCharacteristic)) :
    Except RuleFailure (List SuppliedType) := do
  let applying ← applicable n characteristics
  let known := ((applying.flatMap (·.implications)).filter (·.isKnown)).map (·.type)
  orFail (known.forM fun t => t.requireHashable)
  return distinctTypes known

def isKnown (n : Node) (type : SuppliedType)
    (characteristics : List (Supplied SuppliedCharacteristic)) : Except RuleFailure Bool := do
  return (← knownTypes n characteristics).any type.equals

/-- The names of types in the order in which types are listed: by encoding, then by name. -/
def listedNames (types : List SuppliedType) : Except ValueFault (List Value) := do
  let keys ← types.mapM fun t => return (← t.encoding, ← t.name)
  let isLess (a b : Value × Value) : Except ValueFault Bool :=
    if a.1.equals b.1 then a.2.isLess b.2 else a.1.isLess b.1
  return (← sortedBy isLess keys).map (·.2)

def orderedNames (names : List Value) : Except ValueFault (List Value) := do
  names.forM (·.requireHashable)
  sortedBy Value.isLess (names.foldl (fun found v =>
    if found.any v.equals then found else found ++ [v]) [])

/-- The names of the characteristics that exclude the node, in increasing order without repeats.
A node that is known to be of a relevant type is never excluded. -/
def exclusionReasons (n : Node) (relevant : List SuppliedType)
    (characteristics : List (Supplied SuppliedCharacteristic)) :
    Except RuleFailure (List Value) := do
  let applying ← applicable n characteristics
  let isKnownRelevant := (applying.flatMap (·.implications)).any fun i =>
    relevant.any i.type.equals && i.isKnown
  if isKnownRelevant then return []
  let opponents (type : SuppliedType) (positive : Bool) : List Value :=
    (applying.filter fun c => c.implies type (.bool positive) .medium).map (·.name)
  let negative := opponents (.ofType .negative) true
  orFail (negative.forM (·.requireHashable))
  orFail (relevant.forM fun t => t.requireHashable)
  let perType := relevant.map fun t => opponents t false
  let all := if perType.all fun names => !names.isEmpty then perType.flatten else []
  orFail (orderedNames (negative ++ all))

def isExcluded (n : Node) (relevant : List SuppliedType)
    (characteristics : List (Supplied SuppliedCharacteristic)) : Except RuleFailure Bool := do
  return !(← exclusionReasons n relevant characteristics).isEmpty

/-- The names of the types of a node that is known to be of two types or more, by encoding. -/
def ambiguousTypes (n : Node) (characteristics : List (Supplied SuppliedCharacteristic)) :
    Except RuleFailure (Option (List Value)) := do
  let types ← knownTypes n characteristics
  if types.length < 2 then return none
  orFail do
    let keys ← types.mapM fun t => return (← t.encoding, t)
    let isLess (a b : Value × SuppliedType) : Except ValueFault Bool :=
      if a.1.equals b.1 then
        match a.2.name, b.2.name with
        | .ok (.str s), .ok (.str t) => .ok (s < t)
        | _, _ => .ok false
      else a.1.isLess b.1
    return some (← (← sortedBy isLess keys).mapM fun key => key.2.name)

end SuppliedCharacteristic

end TaintTriage
