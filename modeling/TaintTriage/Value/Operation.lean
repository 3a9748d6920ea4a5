import TaintTriage.Decimal.Dyadic
import TaintTriage.Value.Convert
import TaintTriage.Value.Literal

/-!
Operations on loosely typed values: doubling, changing the sign, dividing ten by a number.  Flags
count as the numbers zero and one.
-/

namespace TaintTriage.Value

/-- Twice a value: twice a number, a text or a list put behind itself. -/
def double : Value → Except ValueFault Value
  | .bool b => .ok (.int (2 * b.toInt))
  | .int n => .ok (.int (2 * n))
  | .float x => .ok (.float (x * 2.0))
  | .str s => .ok (.str (s ++ s))
  | .list xs => .ok (.list (xs ++ xs))
  | v => .error (.notOperand "*" v.shape .int)

def displayed (v : Value) : Except ValueFault Value :=
  .str <$> v.display

def size (v : Value) : Except ValueFault Value := do
  return .int (← v.length)

/-- The negative of a number. -/
def negate : Value → Except ValueFault Value
  | .bool b => .ok (.int (-b.toInt))
  | .int n => .ok (.int (-n))
  | .float x => .ok (.float (-x))
  | v => .error (.notNegatable v.shape)

/-- The whole quotient of ten and a number, rounded down. -/
def tenOver : Value → Except ValueFault Value
  | .bool b => if b then .ok (.int 10) else .error (.zeroDivisor false)
  | .int n => if n = 0 then .error (.zeroDivisor false) else .ok (.int (Int.fdiv 10 n))
  | .float x =>
      match DoubleKind.of x with
      | .notANumber => .ok (.float x)
      | .infinite negative => .ok (.float (if negative then -1.0 else 0.0))
      | .finite d =>
          if d.mantissa = 0 then .error (.zeroDivisor true)
          else .ok (.float (Dyadic.floorQuotient ⟨false, 10, 0⟩ d))
  | v => .error (.notOperand "//" .int v.shape)

def operation (name : String) : Value → Except ValueFault Value :=
  match name with
  | "double" => double
  | "str" => displayed
  | "len" => size
  | "neg" => negate
  | _ => tenOver

end TaintTriage.Value
