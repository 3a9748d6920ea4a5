/-!
Bytes written as letters, six bits to a letter.  Characters that are no such letters are passed
over.  The text ends where the last bits are filled up with equal signs; bits that are left over
without them are an error.
-/

namespace TaintTriage.Text

def sixBits? (c : Char) : Option Nat :=
  if 'A' ≤ c ∧ c ≤ 'Z' then some (c.toNat - 'A'.toNat)
  else if 'a' ≤ c ∧ c ≤ 'z' then some (c.toNat - 'a'.toNat + 26)
  else if '0' ≤ c ∧ c ≤ '9' then some (c.toNat - '0'.toNat + 52)
  else if c = '+' then some 62
  else if c = '/' then some 63
  else none

/-- The bytes of a text.  `count` letters of the current four have been read, whose bits that have
not become bytes are `bits`, and `signs` equal signs behind them. -/
def base64From : (count bits signs : Nat) → List Char → Option (List UInt8)
  | count, _, _, [] => if count = 0 then some [] else none
  | count, bits, signs, c :: rest =>
      if c = '=' then
        if count < 2 then base64From count bits signs rest
        else if 4 ≤ count + signs + 1 then some []
        else base64From count bits (signs + 1) rest
      else
        match sixBits? c with
        | none => base64From count bits signs rest
        | some n =>
            match count with
            | 0 => base64From 1 n 0 rest
            | 1 => (base64From 2 (n % 16) 0 rest).map (UInt8.ofNat (bits * 4 + n / 16) :: ·)
            | 2 => (base64From 3 (n % 4) 0 rest).map (UInt8.ofNat (bits * 16 + n / 4) :: ·)
            | _ => (base64From 0 0 0 rest).map (UInt8.ofNat (bits * 64 + n) :: ·)

/-- The bytes that a text stands for. -/
def decodeBase64? (s : List Char) : Option (List UInt8) :=
  base64From 0 0 0 s

example : decodeBase64? "AP8=".toList = some [0, 255] := by decide
example : decodeBase64? "e H\nh4".toList = some [120, 120, 120] := by decide
example : decodeBase64? "AP8".toList = none ∧ decodeBase64? "A===".toList = none := by decide

end TaintTriage.Text
