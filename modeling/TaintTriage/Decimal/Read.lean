import TaintTriage.Decimal.Dyadic
import TaintTriage.Text.Digit

/-!
Reading numbers from text.  Digits of every script count, white space around a number is trimmed,
and single underscores may stand between digits.
-/

namespace TaintTriage

/-- The sign of a number's text, true for minus, and what follows it. -/
def splitSign : List Char → Bool × List Char
  | '-' :: rest => (true, rest)
  | '+' :: rest => (false, rest)
  | s => (false, s)

/-- The digits at the front of a text, and what follows.  An underscore is passed over if a digit
stands before it, which the flag tells, and another one behind it. -/
def digitsAfter : Bool → List Char → List Nat × List Char
  | _, [] => ([], [])
  | afterDigit, c :: rest =>
      match Text.digitValue? c with
      | some d =>
          let (digits, remaining) := digitsAfter true rest
          (d :: digits, remaining)
      | none =>
          if afterDigit && c == '_' then
            match digitsAfter false rest with
            | ([], _) => ([], c :: rest)
            | found => found
          else ([], c :: rest)

/-- The digits at the front of a text, single underscores between two of them left out, and what
follows. -/
def digitRun (s : List Char) : List Nat × List Char :=
  digitsAfter false s

/-- The number that decimal digits stand for. -/
def ofDigits (digits : List Nat) : Nat :=
  digits.foldl (fun n d => 10 * n + d) 0

/-- The most digits that the text of an integer may have. -/
def maxIntegerDigits : Nat := 4300

/-- What a text is, read as an integer. -/
inductive IntegerText where
  | integer (n : Int)
  /-- It begins with more digits than are read. -/
  | tooLong (digits : Nat)
  | malformed
deriving DecidableEq, Repr

/-- Read a text as an integer: a sign, digits and nothing else.  Digits are counted before what
follows them is looked at, unless an underscore follows. -/
def scanInteger (s : List Char) : IntegerText :=
  let (negative, unsigned) := splitSign (Text.trim s)
  let (digits, rest) := digitRun unsigned
  if digits.isEmpty || rest.head? == some '_' then .malformed
  else if maxIntegerDigits < digits.length then .tooLong digits.length
  else if rest.isEmpty then
    let n : Int := ofDigits digits
    .integer (if negative then -n else n)
  else .malformed

/-- The double nearest to `digits * 10 ^ exponent`.  Decimals beyond the range of doubles are
decided by their order of magnitude alone. -/
def doubleOfDecimal (negative : Bool) (digits : Nat) (exponent : Int) : Float :=
  let order := (Nat.toDigits 10 digits).length + exponent
  let magnitude : Float :=
    if digits = 0 ∨ order < -330 then 0.0
    else if 310 < order then 1.0 / 0.0
    else if 0 ≤ exponent then Float.ofScientific (digits * Nat.pow 10 exponent.toNat) false 0
    else Float.ofScientific digits true exponent.natAbs
  if negative then -magnitude else magnitude

/-- The double nearest to an integer, unless it is beyond their range. -/
def doubleOfInteger? (n : Int) : Option Float :=
  if 1 <<< 1024 ≤ n.natAbs then none
  else
    let x := doubleOfDecimal (n < 0) n.natAbs 0
    if DoubleKind.of x = .infinite (n < 0) then none else some x

/-- The exponent at the front of a text, zero if there is none, and what follows. -/
def exponentPart : List Char → Option (Int × List Char)
  | c :: rest =>
      if c = 'e' ∨ c = 'E' then
        let (negative, unsigned) := splitSign rest
        match digitRun unsigned with
        | ([], _) => none
        | (digits, remaining) =>
            let n : Int := ofDigits digits
            some (if negative then -n else n, remaining)
      else some (0, c :: rest)
  | [] => some (0, [])

/-- The double that an unsigned decimal text stands for. -/
def readUnsigned? (negative : Bool) (s : List Char) : Option Float :=
  let (whole, rest) := digitRun s
  let (fraction, rest) :=
    match rest with
    | '.' :: more => digitRun more
    | _ => ([], rest)
  if whole.isEmpty && fraction.isEmpty then none
  else
    match exponentPart rest with
    | some (exponent, []) =>
        some (doubleOfDecimal negative (ofDigits (whole ++ fraction))
          (exponent - fraction.length))
    | _ => none

/-- The double that a text stands for: a decimal, an infinity or the double that is no number,
with an optional sign. -/
def readDouble? (s : List Char) : Option Float :=
  let (negative, unsigned) := splitSign (Text.trim s)
  let word := String.ofList (unsigned.map Char.toLower)
  if word = "inf" ∨ word = "infinity" then
    some (if negative then -1.0 / 0.0 else 1.0 / 0.0)
  else if word = "nan" then some (0.0 / 0.0)
  else readUnsigned? negative unsigned

example : scanInteger " -1_0 ".toList = .integer (-10) := by decide
example : scanInteger "1__0".toList = .malformed := by decide

end TaintTriage
