import TaintTriage.Decimal.Read
import TaintTriage.Text.Utf8
import TaintTriage.Yaml.Scalar

/-!
The tokens of a YAML text.  Most structure follows from indentation: collections outside brackets
begin where a line is indented further and end where one is indented less.  A key without a mark of
its own is found late, at the colon behind it, so the token for it is put in at an earlier place.

What cannot be read because it stands for nothing is a token too.  It comes where a reader of the
tokens needs it first, which may be before the tokens of a line that may still turn out to be a key.
-/

namespace TaintTriage.Yaml

/-- A token. -/
inductive Token where
  | versionLine (major : Nat)
  | tagLine (handle uri : String)
  | otherLine
  | documentStart
  | documentEnd
  | blockSequence
  | blockMapping
  | blockEnd
  | flowSequence
  | flowSequenceEnd
  | flowMapping
  | flowMappingEnd
  | entry
  | comma
  | key
  | value
  | alias (name : String)
  | anchor (name : String)
  | tag (handle : Option String) (suffix : String)
  | scalar (content : String) (isPlain : Bool)
  /-- An escape or a number that stands for nothing; no token is read behind it. -/
  | broken (cause : ValueFault)
deriving DecidableEq, Repr

/-- A place where a key without a mark of its own may have begun. -/
structure PossibleKey where
  /-- The number of tokens before it. -/
  position : Nat
  /-- Whether the line cannot be anything but a key. -/
  required : Bool
  index : Nat
  line : Nat
  column : Nat

/-- How far a text has been cut into tokens.  The tokens come in reverse; `keys` holds one possible
key for each depth of brackets at most. -/
structure Scan where
  place : Place
  tokens : List Token := []
  depth : Nat := 0
  indent : Int := -1
  outer : List Int := []
  allowsKey : Bool := true
  keys : List (Nat × PossibleKey) := []

namespace Scan

/-- Whether the text is outside all brackets. -/
def isBlock (s : Scan) : Bool := s.depth == 0

/-- Go on behind the text that a token was made of. -/
def push (s : Scan) (token : Token) (rest : List Char) : Scan :=
  { s with place := s.place.moveTo rest, tokens := token :: s.tokens }

/-- The longest key without a mark of its own. -/
def maxKeyLength : Nat := 1024

/-- Give up the keys that can no longer be one: a key stands in one line and is not too long.  That
is an error for a line that cannot be anything else. -/
def dropStale (s : Scan) : Option Scan :=
  let isStale (k : PossibleKey) : Bool :=
    k.line != s.place.line || maxKeyLength < s.place.index - k.index
  if s.keys.any fun (_, k) => isStale k && k.required then none
  else some { s with keys := s.keys.filter fun (_, k) => !isStale k }

/-- Give up the possible key at this depth. -/
def dropKey (s : Scan) : Option Scan :=
  match s.keys.lookup s.depth with
  | some k => if k.required then none else some { s with keys := s.keys.filter (·.1 != s.depth) }
  | none => some s

/-- Note that a key may begin here. -/
def noteKey (s : Scan) : Option Scan :=
  if s.allowsKey then do
    let s ← s.dropKey
    let k : PossibleKey := {
      position := s.tokens.length
      required := s.isBlock && s.indent == s.place.column
      index := s.place.index, line := s.place.line, column := s.place.column }
    return { s with keys := (s.depth, k) :: s.keys }
  else some s

/-- Close the collections that are indented further than a column. -/
def unwind (column : Int) : List Int → Int → List Token → List Int × Int × List Token
  | [], indent, tokens => ([], indent, tokens)
  | parent :: outer, indent, tokens =>
      if column < indent then unwind column outer parent (.blockEnd :: tokens)
      else (parent :: outer, indent, tokens)

/-- Close the collections that are indented further than a column, outside brackets. -/
def closeTo (s : Scan) (column : Int) : Scan :=
  if s.isBlock then
    let (outer, indent, tokens) := unwind column s.outer s.indent s.tokens
    { s with outer, indent, tokens }
  else s

/-- Open a collection if this column is indented further than the last one; `position` is the
number of tokens before it. -/
def openAt (s : Scan) (column : Nat) (token : Token) (position : Nat) : Scan :=
  if s.isBlock && s.indent < column then
    let later := s.tokens.take (s.tokens.length - position)
    let earlier := s.tokens.drop (s.tokens.length - position)
    { s with
      tokens := later ++ token :: earlier
      outer := s.indent :: s.outer
      indent := column }
  else s

/-- Skip blanks, comments and line ends.  Behind a line end a key may begin. -/
def skipGaps (s : Scan) : Nat → Scan
  | 0 => s
  | fuel + 1 =>
      match skipComment (s.place.rest.dropWhile (· == ' ')) with
      | c :: rest =>
          if isBreak c then
            let s := { s with place := s.place.moveTo rest }
            skipGaps (if s.isBlock then { s with allowsKey := true } else s) fuel
          else { s with place := s.place.moveTo (c :: rest) }
      | [] => { s with place := s.place.moveTo [] }

/-- Characters of the addresses that tags are. -/
def isUriChar (c : Char) : Bool :=
  c.isAlphanum || "-;/?:@&=+$,_.!~*'()[]%".toList.contains c

/-- The handle of a tag at the front of a text: names between exclamation marks. -/
def tagHandle? (s : List Char) : Option (String × List Char) :=
  match s with
  | '!' :: rest =>
      let name := rest.takeWhile isNameChar
      match rest.dropWhile isNameChar with
      | '!' :: behind => some (String.ofList ('!' :: name ++ ['!']), behind)
      | ' ' :: behind => if name.isEmpty then some ("!", ' ' :: behind) else none
      | _ => none
  | _ => none

/-- An address in which percent signs and two digits stand for bytes.  The bytes of a row of them
are read as text; those read so far come in reverse. -/
def unescapeUri? : List Nat → List Char → Option (List Char)
  | bytes, '%' :: a :: b :: rest =>
      match Text.hexNumber? [a, b] with
      | some byte => unescapeUri? (byte :: bytes) rest
      | none => none
  | bytes, s => do
      let meant ← (Text.decodeUtf8 bytes.reverse).toOption
      match s with
      | [] => some meant.toList
      | c :: rest =>
          if c = '%' then none
          else do return meant.toList ++ c :: (← unescapeUri? [] rest)

/-- The address at the front of a text, which is not empty. -/
def tagUri? (s : List Char) : Option (String × List Char) :=
  match s.takeWhile isUriChar with
  | [] => none
  | uri => (unescapeUri? [] uri).map fun meant => (String.ofList meant, s.dropWhile isUriChar)

/-- Whether a tag with a handle of its own stands here: an exclamation mark behind the first one
and before the next gap. -/
def hasHandle (s : List Char) : Bool :=
  (s.takeWhile fun c => c != ' ' && !isBreak c).contains '!'

/-- The tag behind its exclamation mark. -/
def tag? (s : List Char) : Option (Token × List Char) := do
  let (token, rest) ←
    match s with
    | '<' :: rest => do
        let (uri, rest) ← tagUri? rest
        match rest with
        | '>' :: rest => some (Token.tag none uri, rest)
        | _ => none
    | _ =>
        if endsOr isGap s then some (Token.tag none "!", s)
        else if hasHandle s then do
          let (handle, rest) ← tagHandle? ('!' :: s)
          let (suffix, rest) ← tagUri? rest
          some (Token.tag (some handle) suffix, rest)
        else do
          let (suffix, rest) ← tagUri? s
          some (Token.tag (some "!") suffix, rest)
  if endsOr (fun c => c == ' ' || isBreak c) rest then some (token, rest) else none

/-- The name of an anchor or an alias behind its mark. -/
def anchorName? (s : List Char) : Option (String × List Char) :=
  let name := s.takeWhile isNameChar
  let rest := s.dropWhile isNameChar
  if !name.isEmpty && endsOr (fun c => isGap c || "?:,]\x7d%@`".toList.contains c) rest then
    some (String.ofList name, rest)
  else none

/-- A decimal number at the front of a text. -/
def number (s : List Char) : Except Fault (Nat × List Char) :=
  let digits := s.takeWhile Char.isDigit
  if digits.isEmpty then .error .malformed
  else if maxIntegerDigits < digits.length then .error (.unfit (.longInteger digits.length))
  else .ok (ofDigits (digits.map fun c => c.toNat - '0'.toNat), s.dropWhile Char.isDigit)

def endsWord (s : List Char) : Bool :=
  endsOr (fun c => c == ' ' || isBreak c) s

def version (s : List Char) : Except Fault (Token × List Char) := do
  let (major, rest) ← number s
  match rest with
  | '.' :: rest => do
      let (_, rest) ← number rest
      if endsWord rest then return (.versionLine major, rest) else throw .malformed
  | _ => throw .malformed

/-- The handle of a tag in a directive, and the address that it stands for. -/
def tagLine? (s : List Char) : Option (Token × List Char) := do
  let (handle, rest) ← tagHandle? s
  if rest.head? ≠ some ' ' then none
  else
    let (uri, rest) ← tagUri? (rest.dropWhile (· == ' '))
    if endsWord rest then some (.tagLine handle uri, rest) else none

/-- The directive behind its percent sign, up to the end of the line. -/
def directive (s : List Char) : Except Fault (Token × List Char) := do
  let name := s.takeWhile isNameChar
  let rest := s.dropWhile isNameChar
  if name.isEmpty || !endsWord rest then throw .malformed
  let (token, rest) ←
    if name = "YAML".toList then version (rest.dropWhile (· == ' '))
    else if name = "TAG".toList then orMalformed (tagLine? (rest.dropWhile (· == ' ')))
    else pure (.otherLine, rest.dropWhile fun c => !isBreak c)
  match skipComment (rest.dropWhile (· == ' ')) with
  | [] => return (token, [])
  | c :: rest => if isBreak c then return (token, c :: rest) else throw .malformed

def closeAll (s : Scan) : Option Scan := do
  let s ← (s.closeTo (-1)).dropKey
  return { s with allowsKey := false }

/-- A mark between documents. -/
def boundary (s : Scan) (token : Token) (rest : List Char) : Option Scan := do
  return (← s.closeAll).push token rest

/-- A directive behind its percent sign. -/
def directiveLine (s : Scan) (rest : List Char) : Except Fault Scan := do
  let s ← orMalformed s.closeAll
  let (token, rest) ← directive rest
  return s.push token rest

def openFlow (s : Scan) (token : Token) (rest : List Char) : Option Scan := do
  let s ← s.noteKey
  return { s with depth := s.depth + 1, allowsKey := true }.push token rest

def closeFlow (s : Scan) (token : Token) (rest : List Char) : Option Scan := do
  if s.depth = 0 then none
  else
    let s ← s.dropKey
    return { s with depth := s.depth - 1, allowsKey := false }.push token rest

/-- The comma between two entries inside brackets. -/
def commaMark (s : Scan) (rest : List Char) : Option Scan := do
  let s ← { s with allowsKey := true }.dropKey
  return s.push .comma rest

def entryMark (s : Scan) (rest : List Char) : Option Scan := do
  if s.isBlock && !s.allowsKey then none
  else
    let s := s.openAt s.place.column .blockSequence s.tokens.length
    let s ← { s with allowsKey := true }.dropKey
    return s.push .entry rest

def keyMark (s : Scan) (rest : List Char) : Option Scan := do
  if s.isBlock && !s.allowsKey then none
  else
    let s := s.openAt s.place.column .blockMapping s.tokens.length
    let s ← { s with allowsKey := s.isBlock }.dropKey
    return s.push .key rest

/-- The colon between a key and its value.  If a key may have begun before, it did. -/
def valueMark (s : Scan) (rest : List Char) : Option Scan := do
  match s.keys.lookup s.depth with
  | some k =>
      let later := s.tokens.take (s.tokens.length - k.position)
      let earlier := s.tokens.drop (s.tokens.length - k.position)
      let s := { s with
        keys := s.keys.filter (·.1 != s.depth)
        tokens := later ++ Token.key :: earlier
        allowsKey := false }
      return (s.openAt k.column .blockMapping k.position).push .value rest
  | none =>
      if s.isBlock && !s.allowsKey then none
      else
        let s := s.openAt s.place.column .blockMapping s.tokens.length
        let s ← { s with allowsKey := s.isBlock }.dropKey
        return s.push .value rest

/-- A token that may be the beginning of a key. -/
def node (s : Scan) (token : Token) (rest : List Char) : Option Scan := do
  let s ← s.noteKey
  return { s with allowsKey := false }.push token rest

def quoted (s : Scan) (quote : Char) (rest : List Char) : Except Fault Scan := do
  let s ← orMalformed s.noteKey
  let (content, rest) ← quotedScalar quote rest
  return { s with allowsKey := false }.push (.scalar (String.ofList content) false) rest

def block (s : Scan) (folds : Bool) (rest : List Char) : Option Scan := do
  let s ← { s with allowsKey := true }.dropKey
  let (content, rest) ← blockScalar? folds s.indent rest
  return s.push (.scalar (String.ofList content) false) rest

/-- A plain scalar.  If a line has ended behind it, a key may begin there. -/
def plain (s : Scan) : Option Scan := do
  let s ← s.noteKey
  let found := plainScalar (!s.isBlock) (s.indent + 1) s.place.rest
  return { s with allowsKey := found.endsLine }.push
    (.scalar (String.ofList found.content) true) found.rest

/-- Whether a plain scalar can begin with a character that has `rest` behind it. -/
def beginsPlain (isBlock : Bool) (c : Char) (rest : List Char) : Bool :=
  (!isGap c && !"-?:,[]\x7b\x7d#&*!|>'\"%@`".toList.contains c) ||
    (!endsOr isGap rest && (c == '-' || (isBlock && (c == '?' || c == ':'))))

/-- The next token of a text that goes on with a mark, the character `c`, and `rest`. -/
def mark? (s : Scan) (c : Char) (rest : List Char) : Option Scan :=
  match c with
  | '[' => s.openFlow .flowSequence rest
  | '\x7b' => s.openFlow .flowMapping rest
  | ']' => s.closeFlow .flowSequenceEnd rest
  | '\x7d' => s.closeFlow .flowMappingEnd rest
  | ',' => s.commaMark rest
  | '*' => do
      let (name, rest) ← anchorName? rest
      s.node (.alias name) rest
  | '&' => do
      let (name, rest) ← anchorName? rest
      s.node (.anchor name) rest
  | '!' => do
      let (token, rest) ← tag? rest
      s.node token rest
  | _ =>
      if c = '-' ∧ endsOr isGap rest then s.entryMark rest
      else if c = '?' ∧ (!s.isBlock ∨ endsOr isGap rest) then s.keyMark rest
      else if c = ':' ∧ (!s.isBlock ∨ endsOr isGap rest) then s.valueMark rest
      else if c = '|' ∧ s.isBlock then s.block false rest
      else if c = '>' ∧ s.isBlock then s.block true rest
      else if beginsPlain s.isBlock c rest then s.plain
      else none

/-- The next token of a text that goes on with the character `c` and `rest`. -/
def token (s : Scan) (c : Char) (rest : List Char) : Except Fault Scan :=
  if c = '%' ∧ s.place.column = 0 then s.directiveLine rest
  else if s.place.column = 0 ∧ startsBoundary s.place.rest then
    orMalformed (s.boundary (if c = '-' then .documentStart else .documentEnd)
      (s.place.rest.drop 3))
  else if c = '\'' ∨ c = '"' then s.quoted c rest
  else orMalformed (s.mark? c rest)

/-- The tokens, in reverse, that can be read without the next one: those in front of the first
place where a key may have begun. -/
def settled (s : Scan) : List Token :=
  let count := s.keys.foldl (fun count (_, k) => min count k.position) s.tokens.length
  s.tokens.drop (s.tokens.length - count)

/-- All tokens of a text, in reverse. -/
def run : Nat → Scan → Option (List Token)
  | 0, _ => none
  | fuel + 1, s => do
      let before ← s.dropStale
      let s ← (before.skipGaps (before.place.rest.length + 1)).dropStale
      let s := s.closeTo s.place.column
      match s.place.rest with
      | [] => return (← s.closeAll).tokens
      | c :: rest =>
          match s.token c rest with
          | .ok s => run fuel s
          | .error (.unfit cause) => return .broken cause :: before.settled
          | .error .malformed => none

end Scan

/-- The tokens of a text, if it is well formed that far. -/
def tokens? (s : List Char) : Option (List Token) :=
  let s :=
    match s with
    | c :: rest => if c = byteOrderMark then rest else s
    | [] => []
  (Scan.run (s.length + 1) { place := { rest := s } }).map List.reverse

example : tokens? "a: [b]".toList = some [.blockMapping, .key, .scalar "a" true, .value,
    .flowSequence, .scalar "b" true, .flowSequenceEnd, .blockEnd] := by decide +kernel
example : tokens? "- \"\\U00110000\"".toList =
    some [.blockSequence, .entry, .broken .badCode] := by decide +kernel

end TaintTriage.Yaml
