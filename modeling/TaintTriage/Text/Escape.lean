/-!
What the escapes in quoted texts are made of.  They name a character by a fixed number of lower-case
digits in base sixteen, and so can name half a character: a character beyond the first plane has two
halves in UTF-16, and an escape can name one of them alone.  A text holds such a half as a private
character, which stands for it wherever the text is shown, compared or written; a text that holds
this private character itself is not told apart from one with the half.
-/

namespace TaintTriage.Text

/-- The first code of a half, and the code behind the last one. -/
def halfCodes : Nat × Nat := (0xd800, 0xe000)

/-- The private character that stands for the first half. -/
def firstHalf : Nat := 0x10f000

def isHalfCode (code : Nat) : Bool :=
  halfCodes.1 ≤ code && code < halfCodes.2

/-- The character with a code.  That of a half is the private character that stands for it. -/
def charOf (code : Nat) : Char :=
  if isHalfCode code then Char.ofNat (firstHalf + (code - halfCodes.1)) else Char.ofNat code

/-- Whether a character stands for a half. -/
def isHalf (c : Char) : Bool :=
  firstHalf ≤ c.toNat && isHalfCode (c.toNat - firstHalf + halfCodes.1)

/-- The code of a character, or of the half that it stands for. -/
def codeOf (c : Char) : Nat :=
  if isHalf c then c.toNat - firstHalf + halfCodes.1 else c.toNat

example : codeOf (charOf 0xd83d) = 0xd83d ∧ codeOf (charOf 0x41) = 0x41 := by decide

/-- The last `width` hexadecimal digits of a number. -/
def hexDigits : Nat → Nat → List Char
  | 0, _ => []
  | width + 1, n => hexDigits width (n / 16) ++ [Nat.digitChar (n % 16)]

/-- The value of a hexadecimal digit, in either case. -/
def hexValue? (c : Char) : Option Nat :=
  if '0' ≤ c ∧ c ≤ '9' then some (c.toNat - '0'.toNat)
  else if 'a' ≤ c ∧ c ≤ 'f' then some (c.toNat - 'a'.toNat + 10)
  else if 'A' ≤ c ∧ c ≤ 'F' then some (c.toNat - 'A'.toNat + 10)
  else none

/-- The number that a row of hexadecimal digits stands for. -/
def hexNumber? (digits : List Char) : Option Nat :=
  digits.foldlM (fun n c => (hexValue? c).map (16 * n + ·)) 0

/-- The bytes that pairs of hexadecimal digits stand for. -/
def hexBytes : List Char → List Nat
  | a :: b :: rest => (hexNumber? [a, b]).getD 0 :: hexBytes rest
  | _ => []

example : hexDigits 4 0x1f = ['0', '0', '1', 'f'] := by decide
example : hexNumber? ['1', 'F'] = some 31 ∧ hexNumber? ['g'] = none := by decide

end TaintTriage.Text
