import TaintTriage.Yaml.Look
import TaintTriage.Yaml.Scalar

/-!
Writing texts as scalars.  A text is written plain where that reads back as the same text, else in
single quotes, and in double quotes if it holds characters that have to be escaped.  Lines that
have grown too long are broken at blanks; the lines that follow are indented.
-/

namespace TaintTriage.Yaml

/-- The styles of a scalar on few lines. -/
inductive Style where
  | plain | single | double
deriving DecidableEq, Repr

/-- Characters that a plain scalar does not begin with. -/
def leadingMarks : List Char :=
  ['#', ',', '[', ']', '\x7b', '\x7d', '&', '*', '!', '|', '>', '\'', '"', '%', '@', '\x60']

/-- Whether a character ends a word for a writer. -/
def isWordEnd (c : Char) : Bool :=
  c == '\x00' || c == ' ' || c == '\t' || c == '\r' || c == '\x85' || isBreak c

/-- Whether a character can be written without an escape. -/
def isBare (c : Char) : Bool :=
  ' ' ≤ c && c ≤ '~'

/-- Whether the first character gives a plain scalar another meaning. -/
def misleadsAtStart : List Char → Bool
  | [] => false
  | c :: rest =>
      leadingMarks.contains c || ((c == '?' || c == ':' || c == '-') && endsOr isWordEnd rest)

/-- Whether a colon before a gap, or a number sign behind one, stands after the first character. -/
def misleadsInside : List Char → Bool
  | a :: b :: rest =>
      (b == ':' && endsOr isWordEnd rest) || (b == '#' && isWordEnd a) ||
        misleadsInside (b :: rest)
  | _ => false

/-- Whether a pair of neighbours stands in a text. -/
def holdsPair (a b : Char) : List Char → Bool
  | c :: d :: rest => (c == a && d == b) || holdsPair a b (d :: rest)
  | _ => false

/-- Whether a text has the look of a text, so that it reads as itself when it is written plain. -/
def readsAsText (s : List Char) : Bool :=
  Tag.ofLook (String.ofList s) == .str

/-- Whether a text can be written plain. -/
def allowsPlain (s : List Char) : Bool :=
  readsAsText s && s.all isBare && s.head? != some ' ' && s.getLast? != some ' ' &&
    !misleadsAtStart s && !misleadsInside s &&
    s.take 3 != ['-', '-', '-'] && s.take 3 != ['.', '.', '.']

/-- Whether a text can be written in single quotes: all its characters can be written without an
escape, and it has no blanks next to a line end. -/
def allowsSingle (s : List Char) : Bool :=
  (s.all fun c => isBare c || c == '\n') && !holdsPair ' ' '\n' s && !holdsPair '\n' ' ' s

/-- The style that a text is written in. -/
def Style.of (s : List Char) : Style :=
  if allowsPlain s then .plain else if allowsSingle s then .single else .double

/-- The column behind which a line is broken. -/
def lineWidth : Nat := 80

/-- The end of a line and the indentation of the next one. -/
def newLine (indent : Nat) : List Char := '\n' :: List.replicate indent ' '

/-- A text from some column on.  A line is broken at a blank between two other characters, and a
row of line ends gets one more. -/
def foldedBody (indent : Nat) : Option Char → Nat → List Char → List Char
  | _, _, [] => []
  | before, column, c :: rest =>
      if c = '\n' then
        (if before = some '\n' then [] else ['\n']) ++
          (if rest.head? = some '\n' then '\n' :: foldedBody indent (some c) 0 rest
          else newLine indent ++ foldedBody indent (some c) indent rest)
      else if c = ' ' ∧ before.isSome ∧ before ≠ some ' ' ∧ rest ≠ [] ∧ rest.head? ≠ some ' ' ∧
          lineWidth < column then
        newLine indent ++ foldedBody indent (some c) indent rest
      else c :: foldedBody indent (some c) (column + 1) rest

def doubleQuotes (s : List Char) : List Char :=
  s.flatMap fun c => if c = '\'' then [c, c] else [c]

/-- The letter that stands for a character behind a backslash. -/
def escapeLetterOf? (c : Char) : Option Char :=
  ['0', 'a', 'b', 't', 'n', 'v', 'f', 'r', 'e', '"', '\\', 'N', '_', 'L', 'P'].find? fun letter =>
    escapeLetter? letter == some c

/-- A character in hexadecimal digits, as upper-case letters. -/
def upperHex (width : Nat) (c : Char) : List Char :=
  (Text.hexDigits width c.toNat).map Char.toUpper

/-- A character inside double quotes, if it cannot stand there as it is. -/
def escaped? (c : Char) : Option (List Char) :=
  match escapeLetterOf? c with
  | some letter => some ['\\', letter]
  | none =>
      if isBare c then none
      else if c.toNat ≤ 0xff then some ('\\' :: 'x' :: upperHex 2 c)
      else if c.toNat ≤ 0xffff then some ('\\' :: 'u' :: upperHex 4 c)
      else some ('\\' :: 'U' :: upperHex 8 c)

/-- A broken line inside double quotes: the blank that the next line begins with is escaped. -/
def brokenLine (indent : Nat) (rest : List Char) : List Char :=
  '\\' :: newLine indent ++ (if rest.head? = some ' ' then ['\\'] else [])

/-- The body of a scalar in double quotes from some column on.  A line may be broken before a blank
and behind an escape, but neither at its beginning nor at its end; `behindEscape` says that an
escape or nothing at all stands before. -/
def doubleBody (indent : Nat) : Bool → Bool → Nat → List Char → List Char
  | _, _, _, [] => []
  | isFirst, behindEscape, column, c :: rest =>
      match escaped? c with
      | some escape =>
          let column := column + escape.length
          if !isFirst ∧ rest ≠ [] ∧ lineWidth + 1 < column then
            let start := brokenLine indent rest
            escape ++ start ++ doubleBody indent false true (start.length - 2) rest
          else escape ++ doubleBody indent false true column rest
      | none =>
          if !isFirst ∧ rest ≠ [] ∧ (c = ' ' ∨ behindEscape) ∧ lineWidth < column then
            let start := brokenLine indent (c :: rest)
            start ++ c :: doubleBody indent false false (start.length - 1) rest
          else c :: doubleBody indent false false (column + 1) rest

def writeText (indent column : Nat) (text : String) : List Char :=
  let s := text.toList
  match Style.of s with
  | .plain => foldedBody indent none column s
  | .single => '\'' :: foldedBody indent none (column + 1) (doubleQuotes s) ++ ['\'']
  | .double => '"' :: doubleBody indent true true (column + 1) s ++ ['"']

example : writeText 4 8 "a/b.log" = "a/b.log".toList := by decide +kernel
example : writeText 4 8 "no" = "'no'".toList := by decide +kernel
example : writeText 4 8 "it's: so" = "'it''s: so'".toList := by decide +kernel
example : writeText 4 8 "\u00e9\t" = "\"\\xE9\\t\"".toList := by decide +kernel
example : Style.of "2001-01-01".toList = .single ∧ Style.of "2001-1-1".toList = .plain := by
  decide +kernel

end TaintTriage.Yaml
