/-!
Doubles taken apart: a finite double is a sign and an exact magnitude `mantissa * 2 ^ exponent`.
Everything that has to be exact about doubles here (their shortest text, their integral value)
starts from this form and works in `Nat` and `Int`.  Division rounded down is done in doubles: the
remainder is exact and the dividend without it is a multiple of the divisor, but the difference and
the quotient are rounded, so the quotient is brought to the nearest integer afterwards.
-/

namespace TaintTriage

/-- The exact value of a finite double. -/
structure Dyadic where
  negative : Bool
  mantissa : Nat
  exponent : Int
deriving DecidableEq, Repr

/-- What a double stands for. -/
inductive DoubleKind where
  | notANumber
  | infinite (negative : Bool)
  | finite (value : Dyadic)
deriving DecidableEq, Repr

/-- Decode the 64 bits of a double: one for the sign, eleven for the exponent, the rest for the
fraction. -/
def DoubleKind.ofBits (bits : Nat) : DoubleKind :=
  let negative := bits >>> 63 % 2 == 1
  let exponent : Nat := bits >>> 52 % 1 <<< 11
  let fraction : Nat := bits % 1 <<< 52
  if exponent = 1 <<< 11 - 1 then
    if fraction = 0 then .infinite negative else .notANumber
  else if exponent = 0 then .finite ⟨negative, fraction, -1074⟩
  else .finite ⟨negative, 1 <<< 52 + fraction, (exponent : Int) - 1075⟩

def DoubleKind.of (x : Float) : DoubleKind :=
  .ofBits x.toBits.toNat

/-- The value of a dyadic with its fraction cut off, so rounded toward zero. -/
def Dyadic.truncate (d : Dyadic) : Int :=
  let magnitude :=
    if 0 ≤ d.exponent then d.mantissa <<< d.exponent.toNat
    else d.mantissa >>> (-d.exponent).toNat
  if d.negative then -(magnitude : Int) else magnitude

/-- A dyadic counted in units of the smallest double, of which each finite double has a whole
number. -/
def Dyadic.leastUnits (d : Dyadic) : Int :=
  let magnitude := d.mantissa <<< (d.exponent + 1074).toNat
  if d.negative then -(magnitude : Int) else magnitude

def Dyadic.isWhole (d : Dyadic) : Bool :=
  0 ≤ d.exponent || d.mantissa % 1 <<< (-d.exponent).toNat == 0

example : DoubleKind.of 1.5 = .finite ⟨false, 3 <<< 51, -52⟩ := by decide
example : (Dyadic.mk true 3 (-1)).truncate = -1 := by decide
example : (Dyadic.mk true 3 (-1073)).leastUnits = -6 := by decide

/-- The double with the value of a dyadic, if there is one. -/
def Dyadic.toFloat (d : Dyadic) : Float :=
  let x := (Float.ofNat d.mantissa).scaleB d.exponent
  if d.negative then -x else x

/-- The remainder of two dyadics, with the sign of the first one; the second one is not zero. -/
def Dyadic.remainder (a b : Dyadic) : Dyadic :=
  let exponent := min a.exponent b.exponent
  let scaled (d : Dyadic) : Nat := d.mantissa <<< (d.exponent - exponent).toNat
  ⟨a.negative, scaled a % scaled b, exponent⟩

/-- The quotient of two dyadics as a double that is a whole number, rounded down; the second one is
not zero. -/
def Dyadic.floorQuotient (a b : Dyadic) : Float :=
  let quotient := (a.toFloat - (a.remainder b).toFloat) / b.toFloat
  let quotient :=
    if (a.remainder b).mantissa != 0 && a.negative != b.negative then quotient - 1.0 else quotient
  if quotient == 0.0 then
    if a.negative != b.negative then -0.0 else 0.0
  else
    let below := quotient.floor
    if quotient - below > 0.5 then below + 1.0 else below

end TaintTriage
