import TaintTriage.Text.Escape

/-!
Reading UTF-8, and what cannot be written in it.  Bytes that are no text are reported with the place
and the reason; a sequence that the end of the bytes cuts off is reported by its place behind the
last complete character.  Of the halves of characters only those can be written that stand for a
byte which is no text.
-/

namespace TaintTriage.Text

/-- Why bytes are no text. -/
inductive Utf8Reason where
  | start | continuation | ending
deriving DecidableEq, Repr

/-- Bytes that are no text: the first one, its position, how many there are, and why. -/
structure Utf8Fault where
  byte : Nat
  position : Nat
  count : Nat
  reason : Utf8Reason
deriving DecidableEq, Repr

def Utf8Fault.message (f : Utf8Fault) : String :=
  let reason :=
    match f.reason with
    | .start => "invalid start byte"
    | .continuation => "invalid continuation byte"
    | .ending => "unexpected end of data"
  let place :=
    if f.count = 1 then
      "byte 0x" ++ String.ofList (hexDigits 2 f.byte) ++ " in position " ++ toString f.position
    else
      "bytes in position " ++ toString f.position ++ "-" ++ toString (f.position + f.count - 1)
  "'utf-8' codec can't decode " ++ place ++ ": " ++ reason

/-- The ranges of the bytes that may follow a first byte, the second byte's first; nothing for a
byte that begins no character. -/
def followers? (first : Nat) : Option (List (Nat × Nat)) :=
  let usual := (0x80, 0xbf)
  if first < 0x80 then some []
  else if first < 0xc2 then none
  else if first < 0xe0 then some [usual]
  else if first = 0xe0 then some [(0xa0, 0xbf), usual]
  else if first = 0xed then some [(0x80, 0x9f), usual]
  else if first < 0xf0 then some [usual, usual]
  else if first = 0xf0 then some [(0x90, 0xbf), usual, usual]
  else if first < 0xf4 then some [usual, usual, usual]
  else if first = 0xf4 then some [(0x80, 0x8f), usual, usual]
  else none

/-- The payload of a first byte with a number of followers. -/
def firstPayload (first : Nat) : Nat → Nat
  | 0 => first
  | 1 => first % 32
  | 2 => first % 16
  | _ => first % 8

/-- Read the followers of a first byte: the code point, or how many bytes were right before one
that is wrong or missing. -/
def readFollowers : Nat → Nat → List (Nat × Nat) → List Nat → Except (Nat × Utf8Reason) Nat
  | code, _, [], _ => .ok code
  | _, right, _ :: _, [] => .error (right, .ending)
  | code, right, (low, high) :: ranges, byte :: rest =>
      if low ≤ byte ∧ byte ≤ high then
        readFollowers (code * 64 + byte % 64) (right + 1) ranges rest
      else .error (right, .continuation)

/-- The characters of some bytes.  `pending` counts further bytes of the current character, which
are passed over. -/
def decodeFrom : Nat → Nat → List Nat → Except Utf8Fault (List Char)
  | _, _, [] => .ok []
  | position, pending + 1, _ :: rest => decodeFrom (position + 1) pending rest
  | position, 0, first :: rest =>
      match followers? first with
      | none => .error ⟨first, position, 1, .start⟩
      | some ranges =>
          match readFollowers (firstPayload first ranges.length) 1 ranges rest with
          | .ok code => do
              return Char.ofNat code :: (← decodeFrom (position + 1) ranges.length rest)
          | .error (right, .ending) => .error ⟨first, 0, right, .ending⟩
          | .error (right, reason) => .error ⟨first, position, right, reason⟩

def decodeUtf8 (bytes : List Nat) : Except Utf8Fault String :=
  (decodeFrom 0 0 bytes).map String.ofList

/-- Halves of characters that cannot be written: the code of the first one, its position, and how
many stand together. -/
structure EncodeFault where
  code : Nat
  position : Nat
  count : Nat
deriving DecidableEq, Repr

def EncodeFault.message (f : EncodeFault) : String :=
  let place :=
    if f.count = 1 then
      " '\\u" ++ String.ofList (hexDigits 4 f.code) ++ "' in position " ++ toString f.position
    else
      "s in position " ++ toString f.position ++ "-" ++ toString (f.position + f.count - 1)
  "'utf-8' codec can't encode character" ++ place ++ ": surrogates not allowed"

def isByteCode (code : Nat) : Bool :=
  0xdc80 ≤ code && code < 0xdd00

/-- The first half that cannot be written among characters from some position on. -/
def encodeFault? (position : Nat) : List Char → Option EncodeFault
  | [] => none
  | c :: rest =>
      if isHalf c && !isByteCode (codeOf c) then
        some ⟨codeOf c, position, 1 + (rest.takeWhile isHalf).length⟩
      else encodeFault? (position + 1) rest

example : (decodeUtf8 [0xc3, 0xa9]).toOption = some "é" := by decide +kernel
example : (decodeUtf8 [0xc3, 0x28]).toOption = none := by decide +kernel
example : (encodeFault? 0 ['a', charOf 0xdc80, charOf 0xd800]).map EncodeFault.message =
    some
      "'utf-8' codec can't encode character '\\ud800' in position 2: surrogates not allowed" := by
  decide +kernel

end TaintTriage.Text
