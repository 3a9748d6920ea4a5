import TaintTriage.Value.Fault

/-!
Characters and places in a YAML text, and why a text holds no value.  A place knows its line and
column, which is what the structure of a document depends on.  Texts are read with their line ends
unified, so that every line end is a single character.  Most texts that cannot be read are just
malformed; a scalar that does not fit its tag, or an escape that stands for no character, has a
cause of its own.
-/

namespace TaintTriage.Yaml

/-- Why a text holds no value. -/
inductive Fault where
  /-- The text is no document that can be read. -/
  | malformed
  /-- A scalar does not fit its tag, or an escape stands for nothing. -/
  | unfit (cause : ValueFault)
deriving DecidableEq

def orMalformed {α : Type} : Option α → Except Fault α
  | some a => .ok a
  | none => .error .malformed

/-- Characters that may stand in a document. -/
def isAllowed (c : Char) : Bool :=
  let n := c.toNat
  c == '\t' || c == '\n' || c == '\r' || (0x20 ≤ n && n ≤ 0x7e) || n == 0x85 ||
    (0xa0 ≤ n && n ≤ 0xd7ff) || (0xe000 ≤ n && n ≤ 0xfffd) || 0x10000 ≤ n

/-- A text in which line feeds stand for carriage returns, for their pairs with line feeds and for
the control character that means a next line. -/
def unifyBreaks : List Char → List Char
  | '\r' :: '\n' :: rest => '\n' :: unifyBreaks rest
  | c :: rest => (if c = '\r' ∨ c = '\x85' then '\n' else c) :: unifyBreaks rest
  | [] => []

/-- Characters that end a line: line feeds and the separators of lines and paragraphs. -/
def isBreak (c : Char) : Bool :=
  c == '\n' || c == '\u2028' || c == '\u2029'

/-- Characters that end a word: blanks, tabs and line ends. -/
def isGap (c : Char) : Bool :=
  c == ' ' || c == '\t' || isBreak c

/-- Whether a text is at its end or goes on with a character of some class. -/
def endsOr (p : Char → Bool) : List Char → Bool
  | [] => true
  | c :: _ => p c

/-- Letters, digits and the two signs of names. -/
def isNameChar (c : Char) : Bool :=
  c.isAlphanum || c == '-' || c == '_'

/-- The mark that may stand in front of a document. -/
def byteOrderMark : Char := '\ufeff'

/-- Whether one of the marks between documents stands at the front of a text. -/
def startsBoundary : List Char → Bool
  | '-' :: '-' :: '-' :: rest => endsOr isGap rest
  | '.' :: '.' :: '.' :: rest => endsOr isGap rest
  | _ => false

/-- A place in a text. -/
structure Place where
  rest : List Char
  index : Nat := 0
  line : Nat := 0
  column : Nat := 0

namespace Place

def next (p : Place) : Place :=
  match p.rest with
  | [] => p
  | c :: rest =>
      if isBreak c then ⟨rest, p.index + 1, p.line + 1, 0⟩
      else if c = byteOrderMark then ⟨rest, p.index + 1, p.line, p.column⟩
      else ⟨rest, p.index + 1, p.line, p.column + 1⟩

/-- The place a number of characters further on. -/
def skip (p : Place) : Nat → Place
  | 0 => p
  | count + 1 => p.next.skip count

/-- The place at which a given rest of the text begins. -/
def moveTo (p : Place) (rest : List Char) : Place :=
  p.skip (p.rest.length - rest.length)

end Place

end TaintTriage.Yaml
