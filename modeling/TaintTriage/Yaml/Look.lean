import TaintTriage.Text.Escape
import TaintTriage.Text.Letters
import TaintTriage.Text.Pieces
import TaintTriage.Yaml.Tag

/-!
What plain scalars are by their look: nothing, flags, whole numbers in several notations, numbers
with a point, times, marks for merging and texts.  Underscores may stand among digits, and colons
divide digits to the base of sixty.  A look does not depend on a single line break at the end.
-/

namespace TaintTriage.Yaml

/-- A sign at the front of a text, true for minus, and what follows. -/
def sign (s : List Char) : Bool × List Char :=
  match s with
  | '-' :: rest => (true, rest)
  | '+' :: rest => (false, rest)
  | _ => (false, s)

def isDigitTo (base : Nat) (c : Char) : Bool :=
  c == '_' || (match Text.hexValue? c with
    | some n => n < base
    | none => false)

/-- Whether a text is a place to the base of sixty. -/
def isSixtieth (part : List Char) : Bool :=
  match part with
  | [a] => a.isDigit
  | [a, b] => a.isDigit && a.toNat < '6'.toNat && b.isDigit
  | _ => false

/-- Whether a text is a decimal number with underscores that begins with a digit. -/
def isDecimal (part : List Char) : Bool :=
  match part with
  | c :: rest => c.isDigit && rest.all (isDigitTo 10)
  | [] => false

/-- Whether a text has the look of a whole number, apart from its sign. -/
def looksWhole (s : List Char) : Bool :=
  match s with
  | '0' :: 'b' :: digits => !digits.isEmpty && digits.all (isDigitTo 2)
  | '0' :: 'x' :: digits => !digits.isEmpty && digits.all (isDigitTo 16)
  | '0' :: digits => digits.all (isDigitTo 8)
  | _ =>
      match Text.pieces ':' s with
      | first :: rest => isDecimal first && rest.all isSixtieth
      | [] => false

/-- Whether a text is the exponent of a number with a point: a mark, a sign and digits, or
nothing. -/
def isExponent (s : List Char) : Bool :=
  match s with
  | [] => true
  | mark :: sign :: digits =>
      (mark == 'e' || mark == 'E') && (sign == '-' || sign == '+') && !digits.isEmpty &&
        digits.all Char.isDigit
  | _ => false

/-- Whether a text has the look of a decimal with a point.  A sign stands before a digit only. -/
def looksPointed (s : List Char) : Bool :=
  let unsigned := (sign s).2
  let whole := unsigned.takeWhile (isDigitTo 10)
  match unsigned.dropWhile (isDigitTo 10) with
  | '.' :: rest =>
      let fraction := rest.takeWhile (isDigitTo 10)
      isExponent (rest.dropWhile (isDigitTo 10)) &&
        (if whole.isEmpty then s == unsigned && isDecimal fraction else isDecimal whole)
  | _ => false

/-- Whether a text has the look of a number with places to the base of sixty, the last one with a
point. -/
def looksSexagesimal (s : List Char) : Bool :=
  match (Text.pieces ':' (sign s).2).reverse with
  | last :: middle :: more =>
      (match last.dropWhile (· != '.') with
        | '.' :: fraction =>
            isSixtieth (last.takeWhile (· != '.')) && fraction.all (isDigitTo 10)
        | _ => false) &&
      isDecimal ((middle :: more).getLast?.getD []) && (middle :: more).dropLast.all isSixtieth
  | _ => false

def infinityWords : List String := [".inf", ".Inf", ".INF"]

/-- The words for the double that is no number. -/
def notANumberWords : List String := [".nan", ".NaN", ".NAN"]

/-- Whether a text has the look of a number with a point. -/
def looksDouble (s : List Char) : Bool :=
  looksPointed s || looksSexagesimal s ||
    infinityWords.contains (String.ofList (sign s).2) || notANumberWords.contains (String.ofList s)

/-- The number in at least `least` and at most `most` decimal digits at the front of a text, and
what follows. -/
def digitsAtFront? (least most : Nat) (s : List Char) : Option (Nat × List Char) :=
  let digits := (s.take most).takeWhile Char.isDigit
  if least ≤ digits.length then
    some (digits.foldl (fun n c => 10 * n + (c.toNat - '0'.toNat)) 0, s.drop digits.length)
  else none

/-- What follows a character at the front of a text. -/
def after? (c : Char) : List Char → Option (List Char)
  | d :: rest => if d = c then some rest else none
  | [] => none

/-- A time as it is written: the numbers of its day, those of the time by the clock with the digits
of a fraction of a second, and how far the clock is ahead in minutes. -/
structure WrittenTime where
  day : Nat × Nat × Nat
  clock : Option (Nat × Nat × Nat × List Char) := none
  offset : Option Int := none
deriving DecidableEq, Repr

/-- The numbers of the day at the front of a text; `least` is the number of digits that a month and
a day have at least. -/
def writtenDay? (least : Nat) (s : List Char) : Option ((Nat × Nat × Nat) × List Char) := do
  let (year, s) ← digitsAtFront? 4 4 s
  let (month, s) ← digitsAtFront? least 2 (← after? '-' s)
  let (day, s) ← digitsAtFront? least 2 (← after? '-' s)
  return ((year, month, day), s)

/-- What follows the mark between a day and the time by the clock. -/
def afterMark? : List Char → Option (List Char)
  | 'T' :: rest => some rest
  | 't' :: rest => some rest
  | c :: rest =>
      if c = ' ' ∨ c = '\t' then some (rest.dropWhile fun d => d == ' ' || d == '\t') else none
  | [] => none

/-- The numbers of the time by the clock at the front of a text. -/
def writtenClock? (s : List Char) : Option ((Nat × Nat × Nat × List Char) × List Char) := do
  let (hour, s) ← digitsAtFront? 1 2 s
  let (minute, s) ← digitsAtFront? 2 2 (← after? ':' s)
  let (second, s) ← digitsAtFront? 2 2 (← after? ':' s)
  return match s with
    | '.' :: rest =>
        ((hour, minute, second, rest.takeWhile Char.isDigit), rest.dropWhile Char.isDigit)
    | _ => ((hour, minute, second, []), s)

/-- The offset that a text is; nothing at all gives none. -/
def writtenOffset? (s : List Char) : Option (Option Int) :=
  match s.dropWhile fun c => c == ' ' || c == '\t' with
  | [] => if s.isEmpty then some none else none
  | ['Z'] => some (some 0)
  | c :: rest =>
      if c = '-' ∨ c = '+' then do
        let (hours, rest) ← digitsAtFront? 1 2 rest
        let minutes ←
          match rest with
          | [] => some 0
          | ':' :: rest =>
              match digitsAtFront? 2 2 rest with
              | some (minutes, []) => some minutes
              | _ => none
          | _ => none
        let n : Int := 60 * hours + minutes
        return some (if c = '-' then -n else n)
      else none

/-- The time that a text is: a day, with or without a time by the clock. -/
def writtenTime? (s : List Char) : Option WrittenTime := do
  let (day, rest) ← writtenDay? 1 s
  if rest.isEmpty then return { day }
  else
    let (clock, rest) ← writtenClock? (← afterMark? rest)
    return { day, clock := some clock, offset := ← writtenOffset? rest }

/-- Whether a text has the look of a time.  A day alone has two digits for its month and two for
itself. -/
def looksTime (s : List Char) : Bool :=
  match writtenTime? s with
  | some time => time.clock.isSome || (writtenDay? 2 s).isSome
  | none => false

def nullWords : List String := ["", "~", "null", "Null", "NULL"]

def flagWords : List String :=
  ["yes", "Yes", "YES", "no", "No", "NO", "true", "True", "TRUE", "false", "False", "FALSE",
   "on", "On", "ON", "off", "Off", "OFF"]

def Tag.ofLook (content : String) : Tag :=
  let s := Text.beforeFinalBreak content.toList
  let word := String.ofList s
  if s.isEmpty && !content.isEmpty then .str
  else if flagWords.contains word then .bool
  else if looksDouble s then .float
  else if looksWhole (sign s).2 then .int
  else if word = "<<" then .merge
  else if nullWords.contains word then .null
  else if looksTime s then .timestamp
  else if word = "=" then .value
  else if word = "!" ∨ word = "&" ∨ word = "*" then .other (coreAddress ++ "yaml")
  else .str

example : Tag.ofLook "-0x1F" = .int ∧ Tag.ofLook "1:30" = .int ∧ Tag.ofLook "08" = .str := by
  decide +kernel
example : Tag.ofLook "1e5" = .str ∧ Tag.ofLook "1.5\n" = .float ∧ Tag.ofLook "\n" = .str := by
  decide +kernel
example : Tag.ofLook "2001-12-14 21:59:43.10Z" = .timestamp ∧ Tag.ofLook "2001-1-1" = .str := by
  decide +kernel

end TaintTriage.Yaml
