import TaintTriage.Decimal.Dyadic

/-!
The shortest decimal that reads back as a given double.  For one digit, two digits and so on up
to seventeen, the two neighbours of the value on that decimal grid are compared with the interval
of numbers that round to the double; the first grid with a neighbour inside wins.  All
comparisons are exact.
-/

namespace TaintTriage

/-- A decimal `digits * 10 ^ exponent`. -/
structure DecimalScale where
  digits : Nat
  exponent : Int
deriving DecidableEq, Repr

namespace Dyadic

/-- `n` shifted by a power of ten as part of a quotient: the numerator takes positive powers. -/
private def scaleUp (n : Nat) (power : Int) : Nat :=
  n * Nat.pow 10 power.toNat

/-- The number of decimal digits before the point, if there are any; else minus the number of
zeros behind it.  `fuel` bounds the search among the zeros. -/
def pointPosition (numerator denominator : Nat) (fuel : Nat) : Int :=
  if denominator ≤ numerator then (Nat.toDigits 10 (numerator / denominator)).length
  else
    match fuel with
    | 0 => 0
    | fuel + 1 => pointPosition (numerator * 10) denominator fuel - 1

/-- The neighbour on one decimal grid that rounds to the double, the nearer of two, the even one
of two equally near.  The double is `middle / denominator` and its interval reaches from
`low / denominator` to `high / denominator`, the ends included when `closed`. -/
def gridNeighbour? (low middle high denominator : Nat) (closed : Bool) (exponent : Int) :
    Option Nat :=
  let unit := scaleUp denominator exponent
  let low := scaleUp low (-exponent)
  let middle := scaleUp middle (-exponent)
  let high := scaleUp high (-exponent)
  let below := middle / unit
  let inside (digits : Nat) : Bool :=
    let point := digits * unit
    if closed then low ≤ point && point ≤ high else low < point && point < high
  let distanceBelow := middle - below * unit
  let distanceAbove := (below + 1) * unit - middle
  match inside below, inside (below + 1) with
  | false, false => none
  | true, false => some below
  | false, true => some (below + 1)
  | true, true =>
      if distanceBelow < distanceAbove then some below
      else if distanceAbove < distanceBelow then some (below + 1)
      else if below % 2 = 0 then some below
      else some (below + 1)

/-- The shortest decimal among all that round to the double with this exact magnitude.  Zero is
its own shortest decimal. -/
def shortest (d : Dyadic) : DecimalScale :=
  if d.mantissa = 0 then ⟨0, 0⟩
  else
    let shift := d.exponent - 2
    let scale := 1 <<< shift.toNat
    let denominator := 1 <<< (-shift).toNat
    let middle := 4 * d.mantissa * scale
    let high := (4 * d.mantissa + 2) * scale
    -- Below a power of two the doubles lie twice as dense.
    let dense := d.mantissa = 1 <<< 52 ∧ -1074 < d.exponent
    let low := (4 * d.mantissa - if dense then 1 else 2) * scale
    let position := pointPosition middle denominator 330
    let found := (List.range 17).findSome? fun (n : Nat) =>
      let exponent : Int := position - (n + 1)
      (gridNeighbour? low middle high denominator (d.mantissa % 2 == 0) exponent).map
        fun digits => DecimalScale.mk digits exponent
    found.getD ⟨0, 0⟩

end Dyadic

/-- Drop the zeros at the end of the digits. -/
def DecimalScale.trimZeros (s : DecimalScale) : Nat → DecimalScale
  | 0 => s
  | fuel + 1 =>
      if s.digits ≠ 0 ∧ s.digits % 10 = 0 then
        DecimalScale.trimZeros ⟨s.digits / 10, s.exponent + 1⟩ fuel
      else s

example : (Dyadic.mk false (1 <<< 52) (-52)).shortest = ⟨1, 0⟩ := by decide +kernel

end TaintTriage
