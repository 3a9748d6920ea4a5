import TaintTriage.Text.Base64
import TaintTriage.Text.Case
import TaintTriage.Value.Convert
import TaintTriage.Yaml.Place
import TaintTriage.Yaml.Look

/-!
What the content of a scalar stands for under its tag.  A scalar with a tag of its own need not
have the look of one: the content is taken for what the tag says, or does not fit it.
-/

namespace TaintTriage.Yaml

/-- The value of a digit to a base: a decimal digit of any script or a letter. -/
def digitTo? (base : Nat) (c : Char) : Option Nat :=
  ((Text.digitValue? c).or (Text.hexValue? c)).filter (· < base)

/-- The letter of a base between a zero and the digits. -/
def baseLetter? (base : Nat) : Option Char :=
  [(2, 'b'), (8, 'o'), (16, 'x')].lookup base

def withoutBase (base : Nat) : List Char → List Char
  | '0' :: c :: rest => if baseLetter? base = some c.toLower then rest else '0' :: c :: rest
  | s => s

/-- The integer that a text stands for to a base other than ten. -/
def integerTo (base : Nat) (s : List Char) : Except ValueFault Int :=
  let (negative, unsigned) := splitSign (Text.trim s)
  match (withoutBase base unsigned).mapM (digitTo? base) with
  | some (d :: digits) =>
      let n := (d :: digits).foldl (fun n d => n * base + d) 0
      .ok (if negative then -(n : Int) else n)
  | _ => .error (.badInteger base (Text.quoted (String.ofList s)))

/-- The integer that decimal digits stand for. -/
def decimal (s : List Char) : Except ValueFault Int :=
  Value.integerOf s (Text.quoted (String.ofList s))

/-- The whole number that a text stands for behind its sign: to the base that its beginning tells,
else in decimal places to the base of sixty. -/
def unsignedWhole (s : List Char) : Except ValueFault Int :=
  match s with
  | [] => .error .missingCharacter
  | ['0'] => .ok 0
  | '0' :: 'b' :: digits => integerTo 2 digits
  | '0' :: 'x' :: digits => integerTo 16 digits
  | '0' :: _ => integerTo 8 s
  | _ => do
      let places ← (Text.pieces ':' s).mapM decimal
      return places.foldl (fun n place => n * 60 + place) 0

/-- The whole number that a content stands for.  Underscores do not count. -/
def whole (content : String) : Except ValueFault Int := do
  let s := content.toList.filter (· != '_')
  if s.isEmpty then throw .missingCharacter
  let (negative, unsigned) := sign s
  let n ← unsignedWhole unsigned
  return if negative then -n else n

def decimalDouble (s : List Char) : Except ValueFault Float :=
  (Value.str (String.ofList s)).toDouble

/-- The sum of places to the base of sixty, the last one first. -/
def placeSum : Nat → Float → List Float → Except ValueFault Float
  | _, sum, [] => .ok sum
  | unit, sum, place :: rest => do
      placeSum (unit * 60) (sum + place * (← (Value.int unit).toDouble)) rest

/-- The double that a text stands for behind its sign. -/
def unsignedDouble (s : List Char) : Except ValueFault Float := do
  if s.contains ':' then
    let places ← (Text.pieces ':' s).mapM decimalDouble
    placeSum 1 0.0 places.reverse
  else decimalDouble s

/-- The double that a content stands for.  Neither underscores nor case count. -/
def double (content : String) : Except ValueFault Float := do
  let s := (Text.toLower (String.ofList (content.toList.filter (· != '_')))).toList
  if s.isEmpty then throw .missingCharacter
  let (negative, unsigned) := sign s
  let word := String.ofList unsigned
  if word = ".nan" then return 0.0 / 0.0
  let x ← if word = ".inf" then pure (1.0 / 0.0) else unsignedDouble unsigned
  return if negative then -x else x

/-- The words for flags, in small letters. -/
def flags : List (String × Bool) :=
  [("yes", true), ("no", false), ("true", true), ("false", false), ("on", true), ("off", false)]

/-- The flag that a content stands for, in any case. -/
def flag (content : String) : Except ValueFault Bool :=
  let word := Text.toLower content
  match flags.lookup word with
  | some b => .ok b
  | none => .error (.missingKey word)

/-- The bytes that a content stands for, which is ASCII. -/
def bytes? (content : String) : Option (List UInt8) :=
  if content.toList.all (·.toNat < 0x80) then Text.decodeBase64? content.toList else none

/-- The digits of a fraction of a second that count, as microseconds. -/
def microseconds (fraction : List Char) : Nat :=
  let digits := fraction.take 6
  ofDigits ((digits ++ List.replicate (6 - digits.length) '0').map fun c => c.toNat - '0'.toNat)

def WrittenTime.value (time : WrittenTime) : Except MomentFault Value :=
  let day := Day.ofNumbers time.day.1 time.day.2.1 time.day.2.2
  match time.clock with
  | none => day.map .day
  | some (hour, minute, second, fraction) =>
      let clock := Clock.ofNumbers hour minute second (microseconds fraction)
      (Moment.ofParts day clock time.offset).map .moment

/-- What a time is looked for in, if there is none. -/
def timeMember : String := "groupdict"

/-- The day or the moment that a content stands for. -/
def time (content : String) : Except ValueFault Value :=
  match writtenTime? (Text.beforeFinalBreak content.toList) with
  | none => .error (.noMember .null timeMember)
  | some time => time.value.mapError .badMoment

/-- What a content stands for under the tag of a scalar.  No scalar has any other tag. -/
def Tag.scalar (content : String) : Tag → Except Fault Value
  | .null => .ok .null
  | .bool => ((flag content).map .bool).mapError .unfit
  | .int => ((whole content).map .int).mapError .unfit
  | .float => ((double content).map .float).mapError .unfit
  | .binary => orMalformed ((bytes? content).map .bytes)
  | .timestamp => (time content).mapError .unfit
  | .str => .ok (.str content)
  | _ => .error .malformed

example : (whole "-0x1F").toOption = some (-31) ∧ (whole "1:30").toOption = some 90 := by
  decide +kernel
example : (whole "0o7").toOption = some 7 ∧ (whole "09").toOption = none := by decide +kernel

end TaintTriage.Yaml
