import TaintTriage.Decimal.Shortest

/-!
The written form of numbers: doubles are written with the fewest digits that read back, always
with a point or an exponent so that they can be told from integers.
-/

namespace TaintTriage

/-- How the digits of a double are laid out. -/
structure DoubleLayout where
  /-- The least decimal exponent of the first digit that is still written positionally. -/
  leastPositional : Int
  /-- The first decimal exponent of the first digit that is written with an exponent. -/
  firstScientific : Int
  /-- The least number of digits of an exponent. -/
  exponentDigits : Nat

/-- Values from `1e-4` up to `1e16` are written positionally, others with a signed exponent of
two digits at least. -/
def doubleLayout : DoubleLayout := ⟨-4, 16, 2⟩

def padZeros (width : Nat) (digits : List Char) : List Char :=
  List.replicate (width - digits.length) '0' ++ digits

/-- The text of a positive or zero decimal under a layout. -/
def DecimalScale.write (layout : DoubleLayout) (s : DecimalScale) : List Char :=
  let digits := Nat.toDigits 10 s.digits
  let leading := s.exponent + digits.length - 1
  if s.digits = 0 then "0.0".toList
  else if leading < layout.leastPositional ∨ layout.firstScientific ≤ leading then
    let fraction := if digits.tail.isEmpty then [] else '.' :: digits.tail
    let sign := if leading < 0 then '-' else '+'
    digits.take 1 ++ fraction ++ ['e', sign] ++
      padZeros layout.exponentDigits (Nat.toDigits 10 leading.natAbs)
  else if leading < 0 then
    "0.".toList ++ List.replicate (-leading - 1).toNat '0' ++ digits
  else
    let whole := (leading + 1).toNat
    let fraction := digits.drop whole
    digits.take whole ++ List.replicate (whole - digits.length) '0' ++ ['.'] ++
      (if fraction.isEmpty then ['0'] else fraction)

def writeDouble (x : Float) : String :=
  match DoubleKind.of x with
  | .notANumber => "nan"
  | .infinite negative => if negative then "-inf" else "inf"
  | .finite d =>
      let digits := (d.shortest.trimZeros 20).write doubleLayout
      String.ofList (if d.negative then '-' :: digits else digits)

example : writeDouble 1e16 = "1e+16" ∧ writeDouble 0.0001 = "0.0001" := by decide +kernel
example : writeDouble 2.5 = "2.5" ∧ writeDouble (-0.0) = "-0.0" := by decide +kernel
example : writeDouble 5e-324 = "5e-324" ∧ writeDouble 123456.0 = "123456.0" := by decide +kernel

end TaintTriage
