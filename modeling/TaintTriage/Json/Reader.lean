import TaintTriage.Decimal.Read
import TaintTriage.Text.Escape
import TaintTriage.Value

/-!
Reading JSON text.  Number tokens with a point or an exponent become doubles, all others integers,
which may be held to a greatest number of digits; the words for infinities and for the double that
is no number are read too.  Of several entries with one key the last counts.
-/

namespace TaintTriage.Json

/-- Drop the white space at the front of a text. -/
def skipBlank (s : List Char) : List Char :=
  s.dropWhile fun c => c == ' ' || c == '\t' || c == '\n' || c == '\r'

/-- The rest of a text behind a word that it starts with. -/
def afterWord? (word : String) (s : List Char) : Option (List Char) :=
  if word.toList.isPrefixOf s then some (s.drop word.length) else none

/-- The character that one code unit of an escape stands for, together with the second unit of a
pair if the first one needs it.  A half without the other one stands for itself. -/
def unitsToChar (high : Nat) (rest : List Char) : Char × List Char :=
  match rest with
  | '\\' :: 'u' :: a :: b :: c :: d :: more =>
      match Text.hexNumber? [a, b, c, d] with
      | some low =>
          if 0xd800 ≤ high ∧ high < 0xdc00 ∧ 0xdc00 ≤ low ∧ low < 0xe000 then
            (Char.ofNat (0x10000 + (high - 0xd800) * 0x400 + (low - 0xdc00)), more)
          else (Text.charOf high, rest)
      | none => (Text.charOf high, rest)
  | _ => (Text.charOf high, rest)

/-- The character that a letter stands for behind a backslash. -/
def escapeLetter? : Char → Option Char
  | '"' => some '"'
  | '\\' => some '\\'
  | '/' => some '/'
  | 'b' => some '\x08'
  | 'f' => some '\x0c'
  | 'n' => some '\n'
  | 'r' => some '\r'
  | 't' => some '\t'
  | _ => none

/-- The body of a text behind its opening quote, and what follows the closing one.  The characters
read so far come in reverse. -/
def textBody? : Nat → List Char → List Char → Option (String × List Char)
  | 0, _, _ => none
  | fuel + 1, read, s =>
      match s with
      | [] => none
      | '"' :: rest => some (String.ofList read.reverse, rest)
      | '\\' :: 'u' :: a :: b :: c :: d :: rest =>
          match Text.hexNumber? [a, b, c, d] with
          | some unit =>
              let (char, rest) := unitsToChar unit rest
              textBody? fuel (char :: read) rest
          | none => none
      | '\\' :: letter :: rest =>
          match escapeLetter? letter with
          | some char => textBody? fuel (char :: read) rest
          | none => none
      | c :: rest => if c.toNat < 0x20 then none else textBody? fuel (c :: read) rest

/-- The ASCII digits at the front of a text, and what follows. -/
def digits (s : List Char) : List Char × List Char :=
  (s.takeWhile Char.isDigit, s.dropWhile Char.isDigit)

/-- The fraction and the exponent at the front of a text, and what follows.  A point or an exponent
mark without digits is no part of a number. -/
def fractionPart (s : List Char) : List Char × List Char :=
  match s with
  | '.' :: rest =>
      match digits rest with
      | ([], _) => ([], s)
      | (ds, remaining) => ('.' :: ds, remaining)
  | _ => ([], s)

/-- The exponent at the front of a text, and what follows. -/
def exponentPart (s : List Char) : List Char × List Char :=
  match s with
  | c :: rest =>
      if c = 'e' ∨ c = 'E' then
        let sign := rest.takeWhile fun d => d == '+' || d == '-'
        match digits (rest.drop sign.length) with
        | ([], _) => ([], s)
        | (ds, remaining) => if sign.length ≤ 1 then (c :: sign ++ ds, remaining) else ([], s)
      else ([], s)
  | [] => ([], [])

/-- The number at the front of a text, and what follows.  An integer has at most as many digits as
`longest` says. -/
def number? (longest : Option Nat) (s : List Char) : Option (Value × List Char) :=
  let (negative, unsigned) :=
    match s with
    | '-' :: rest => (true, rest)
    | _ => (false, s)
  let (whole, rest) :=
    match unsigned with
    | '0' :: rest => (['0'], rest)
    | _ => digits unsigned
  if whole.isEmpty then none
  else
    let (fraction, rest) := fractionPart rest
    let (exponent, rest) := exponentPart rest
    if fraction.isEmpty && exponent.isEmpty then
      if longest.any (· < whole.length) then none
      else
        let n : Int := (String.ofList whole).toNat?.getD 0
        some (.int (if negative then -n else n), rest)
    else
      (readUnsigned? negative (whole ++ fraction ++ exponent)).map fun x => (.float x, rest)

def words : List (String × Value) :=
  [("null", .null), ("true", .bool true), ("false", .bool false), ("NaN", .float (0.0 / 0.0)),
   ("Infinity", .float (1.0 / 0.0)), ("-Infinity", .float (-1.0 / 0.0))]

/-- The word at the front of a text, and what follows. -/
def word? (s : List Char) : Option (Value × List Char) :=
  words.findSome? fun (word, value) => (afterWord? word s).map fun rest => (value, rest)

variable (longest : Option Nat)

mutual

/-- The value at the front of a text, and what follows. -/
def value? : Nat → List Char → Option (Value × List Char)
  | 0, _ => none
  | fuel + 1, s =>
      match skipBlank s with
      | '"' :: rest => (textBody? (rest.length + 1) [] rest).map fun (t, rest) => (.str t, rest)
      | '[' :: rest =>
          match skipBlank rest with
          | ']' :: rest => some (.list [], rest)
          | rest => items? fuel [] rest
      | '\x7b' :: rest =>
          match skipBlank rest with
          | '\x7d' :: rest => some (.map [], rest)
          | rest => entries? fuel [] rest
      | rest => (word? rest).or (number? longest rest)

/-- The items of a list up to its closing bracket; those read so far come in reverse. -/
def items? : Nat → List Value → List Char → Option (Value × List Char)
  | 0, _, _ => none
  | fuel + 1, read, s =>
      match value? fuel s with
      | none => none
      | some (v, rest) =>
          match skipBlank rest with
          | ',' :: rest => items? fuel (v :: read) rest
          | ']' :: rest => some (.list (v :: read).reverse, rest)
          | _ => none

/-- The entries of a mapping up to its closing brace; those read so far come in reverse. -/
def entries? : Nat → List (Value × Value) → List Char → Option (Value × List Char)
  | 0, _, _ => none
  | fuel + 1, read, s =>
      match skipBlank s with
      | '"' :: rest =>
          match textBody? (rest.length + 1) [] rest with
          | none => none
          | some (key, rest) =>
              match skipBlank rest with
              | ':' :: rest =>
                  match value? fuel rest with
                  | none => none
                  | some (v, rest) =>
                      let read := (.str key, v) :: read
                      match skipBlank rest with
                      | ',' :: rest => entries? fuel read rest
                      | '\x7d' :: rest => some (Value.ofEntries read.reverse, rest)
                      | _ => none
              | _ => none
      | _ => none

end

/-- The value that a JSON text holds, if the text is well formed and its integers are not too
long. -/
def readWithin? (text : String) : Option Value :=
  let s := text.toList
  match value? longest (2 * s.length + 2) s with
  | some (v, rest) => if (skipBlank rest).isEmpty then some v else none
  | none => none

/-- The value that a JSON text holds, with integers as long as a text may have them. -/
def read? (text : String) : Option Value := readWithin? (some maxIntegerDigits) text

end TaintTriage.Json
