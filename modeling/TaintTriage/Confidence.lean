import TaintTriage.Value
import TaintTriage.Text.Case
import TaintTriage.Value.Convert
import TaintTriage.Value.Literal

/-!
The confidence scale.  The five levels are ordered; they are compared only with one another.
-/

namespace TaintTriage

/-- A level of confidence in a piece of evidence. -/
inductive Confidence where
  | none | low | medium | high | maximal
deriving DecidableEq, Repr

namespace Confidence

/-- The place of a level on the scale. -/
def rank : Confidence → Nat
  | .none => 0
  | .low => 1
  | .medium => 2
  | .high => 3
  | .maximal => 4

instance : LE Confidence := ⟨fun a b => a.rank ≤ b.rank⟩
instance : LT Confidence := ⟨fun a b => a.rank < b.rank⟩
instance (a b : Confidence) : Decidable (a ≤ b) := inferInstanceAs (Decidable (a.rank ≤ b.rank))
instance (a b : Confidence) : Decidable (a < b) := inferInstanceAs (Decidable (a.rank < b.rank))

/-- All levels, in increasing order. -/
def all : List Confidence := [.none, .low, .medium, .high, .maximal]

def name : Confidence → String
  | .none => "NONE"
  | .low => "LOW"
  | .medium => "MEDIUM"
  | .high => "HIGH"
  | .maximal => "MAXIMAL"

/-- The number that a level stands for. -/
def score : Confidence → Float
  | .none => 0.0
  | .low => 0.3
  | .medium => 0.6
  | .high => 0.9
  | .maximal => 1.0

/-- The level with a name, in any case. -/
def ofName (name : String) : Except ValueFault Confidence :=
  let upper := Text.toUpper name
  match all.find? (·.name == upper) with
  | some level => .ok level
  | Option.none => .error (.missingKey upper)

/-- The level with a name as it is written, where any value may stand for the name. -/
def ofKey (key : Value) : Except ValueFault Confidence := do
  key.requireHashable
  match all.find? fun level => key.equals (.str level.name) with
  | some level => return level
  | Option.none => throw (.missingEntry (Value.textOrReason key.literal))

/-- The ways to compare two levels. -/
inductive Relation where
  | less | lessOrEqual | greater | greaterOrEqual
deriving DecidableEq, Repr

def Relation.sign : Relation → String
  | .less => "<"
  | .lessOrEqual => "<="
  | .greater => ">"
  | .greaterOrEqual => ">="

/-- Whether a relation holds between two levels. -/
def Relation.holds (r : Relation) (a b : Confidence) : Bool :=
  match r with
  | .less => a < b
  | .lessOrEqual => a ≤ b
  | .greater => b < a
  | .greaterOrEqual => b ≤ a

/-- Compare a level with what was supplied: anything but a level is refused. -/
def compare (r : Relation) (a : Confidence) : Supplied Confidence → Except ValueFault Bool
  | .expected b => .ok (r.holds a b)
  | .other v => .error (.incomparable r.sign .confidence v.shape)

/-- Whether what was supplied is the level itself. -/
def isSame (a : Confidence) : Supplied Confidence → Bool
  | .expected b => a == b
  | .other _ => false

end Confidence

end TaintTriage
