import TaintTriage.Text.Escape
import TaintTriage.Yaml.Place

/-!
The contents of scalars: plain ones, quoted ones and blocks of lines.  Each function takes the
text behind the mark that opens the scalar and gives the content with the rest of the text, unless
the scalar is not well formed.  Lines are folded: a single line end counts as a
blank, and of several the first one is dropped.
-/

namespace TaintTriage.Yaml

/-- What a line end and the empty lines behind it become in a folded text. -/
def foldBreaks (lineEnd : Char) (empty : List Char) : List Char :=
  if lineEnd ≠ '\n' then lineEnd :: empty
  else if empty.isEmpty then [' ']
  else empty

/-- The characters that divide the collections written inside brackets. -/
def isFlowMark (c : Char) : Bool :=
  c == ',' || c == '[' || c == ']' || c == '\x7b' || c == '\x7d'

/-- Whether a plain scalar ends before the character `c` with `rest` behind it. -/
def endsPlain (inFlow : Bool) (c : Char) (rest : List Char) : Bool :=
  isGap c || (c == ':' && endsOr (fun d => isGap d || (inFlow && isFlowMark d)) rest) ||
    (inFlow && (isFlowMark c || c == '?'))

/-- The piece of a plain scalar up to the next gap, and what follows. -/
def plainPiece (inFlow : Bool) : List Char → List Char × List Char
  | [] => ([], [])
  | c :: rest =>
      if endsPlain inFlow c rest then ([], c :: rest)
      else
        let (piece, remaining) := plainPiece inFlow rest
        (c :: piece, remaining)

/-- What stands between two pieces of a plain scalar. -/
structure PlainGap where
  /-- What it becomes in the content. -/
  text : List Char
  rest : List Char
  /-- The column behind it, if a line has ended. -/
  column : Option Nat := none
  /-- Whether the boundary of a document stands behind it. -/
  isBoundary : Bool := false

/-- The empty lines and blanks at the front of a line.  `found` holds the line ends in reverse. -/
def emptyLines (lineEnd : Char) : Nat → List Char → List Char → PlainGap
  | column, found, ' ' :: rest => emptyLines lineEnd (column + 1) found rest
  | column, found, c :: rest =>
      if isBreak c then
        if startsBoundary rest then ⟨[], rest, some 0, true⟩
        else emptyLines lineEnd 0 (c :: found) rest
      else ⟨foldBreaks lineEnd found.reverse, c :: rest, some column, false⟩
  | column, found, [] => ⟨foldBreaks lineEnd found.reverse, [], some column, false⟩

/-- The gap behind a piece of a plain scalar. -/
def plainGap (s : List Char) : PlainGap :=
  let blanks := s.takeWhile (· == ' ')
  match s.dropWhile (· == ' ') with
  | c :: rest =>
      if isBreak c then
        if startsBoundary rest then ⟨[], rest, some 0, true⟩
        else emptyLines c 0 [] rest
      else ⟨blanks, c :: rest, none, false⟩
  | [] => ⟨blanks, [], none, false⟩

/-- A plain scalar as it was read: its content, what follows, and whether a line has ended behind
its last piece. -/
structure PlainScalar where
  content : List Char
  rest : List Char
  endsLine : Bool

/-- The pieces of a plain scalar.  Outside brackets it ends at a line that begins before the column
`least`; a comment ends it anywhere. -/
def plainPieces (inFlow : Bool) (least : Int) :
    Nat → List Char → List Char → List Char → Bool → PlainScalar
  | 0, content, _, s, endsLine => ⟨content, s, endsLine⟩
  | fuel + 1, content, gap, s, endsLine =>
      if s.head? = some '#' then ⟨content, s, endsLine⟩
      else
        match plainPiece inFlow s with
        | ([], _) => ⟨content, s, endsLine⟩
        | (piece, rest) =>
            let content := content ++ gap ++ piece
            let found := plainGap rest
            let endsLine := found.column.isSome
            let isOutside := !inFlow && (match found.column with
              | some column => (column : Int) < least
              | none => false)
            if found.isBoundary || found.text.isEmpty || found.rest.head? == some '#' ||
                isOutside then ⟨content, found.rest, endsLine⟩
            else plainPieces inFlow least fuel content found.text found.rest endsLine

def plainScalar (inFlow : Bool) (least : Int) (s : List Char) : PlainScalar :=
  plainPieces inFlow least (s.length + 1) [] [] s false

/-- The empty lines inside a quoted scalar, and what follows them.  A document may not end here. -/
def quotedLines : Nat → List Char → List Char → Option (List Char × List Char)
  | 0, _, _ => none
  | fuel + 1, found, s =>
      if startsBoundary s then none
      else
        match s.dropWhile fun c => c == ' ' || c == '\t' with
        | c :: rest =>
            if isBreak c then quotedLines fuel (c :: found) rest
            else some (found.reverse, c :: rest)
        | [] => some (found.reverse, [])

/-- The character that a letter stands for behind a backslash. -/
def escapeLetter? : Char → Option Char
  | '0' => some '\x00'
  | 'a' => some '\x07'
  | 'b' => some '\x08'
  | 't' => some '\t'
  | '\t' => some '\t'
  | 'n' => some '\n'
  | 'v' => some '\x0b'
  | 'f' => some '\x0c'
  | 'r' => some '\r'
  | 'e' => some '\x1b'
  | ' ' => some ' '
  | '"' => some '"'
  | '\\' => some '\\'
  | '/' => some '/'
  | 'N' => some '\x85'
  | '_' => some '\xa0'
  | 'L' => some '\u2028'
  | 'P' => some '\u2029'
  | _ => none

/-- The number of hexadecimal digits that follow a letter behind a backslash. -/
def escapeDigits? : Char → Option Nat
  | 'x' => some 2
  | 'u' => some 4
  | 'U' => some 8
  | _ => none

/-- The number in the given count of hexadecimal digits at the front of a text, and what
follows. -/
def escapeCode? (count : Nat) (s : List Char) : Option (Nat × List Char) :=
  let digits := s.take count
  match Text.hexNumber? digits with
  | some code => if digits.length = count then some (code, s.drop count) else none
  | none => none

/-- The greatest code of a character. -/
def maxCode : Nat := 0x10ffff

/-- The greatest number that a code may be at all. -/
def maxCodeNumber : Nat := 0x7fffffff

/-- The character with a code, which may be half of one. -/
def charOfCode (code : Nat) : Except Fault Char :=
  if code ≤ maxCode then .ok (Text.charOf code)
  else .error (.unfit (if code ≤ maxCodeNumber then .badCode else .hugeCode))

/-- What the text behind a backslash stands for, and what follows. -/
def escape (s : List Char) : Except Fault (List Char × List Char) :=
  match s with
  | [] => .error .malformed
  | letter :: rest =>
      match escapeLetter? letter, escapeDigits? letter with
      | some c, _ => .ok ([c], rest)
      | none, some count => do
          let (code, behind) ← orMalformed (escapeCode? count rest)
          return ([← charOfCode code], behind)
      | none, none =>
          if isBreak letter then orMalformed (quotedLines (rest.length + 1) [] rest)
          else .error .malformed

/-- The body of a quoted scalar behind its opening quote, and what follows the closing one. -/
def quotedBody (quote : Char) : Nat → List Char → List Char → Except Fault (List Char × List Char)
  | 0, _, _ => .error .malformed
  | _ + 1, _, [] => .error .malformed
  | fuel + 1, content, c :: rest =>
      if c = quote then
        if quote = '\'' ∧ rest.head? = some '\'' then
          quotedBody quote fuel (content ++ ['\'']) rest.tail
        else .ok (content, rest)
      else if c = '\\' ∧ quote = '"' then do
        let (meant, rest) ← escape rest
        quotedBody quote fuel (content ++ meant) rest
      else if c = ' ' ∨ c = '\t' ∨ isBreak c then
        let isBlank (d : Char) : Bool := d == ' ' || d == '\t'
        match (c :: rest).dropWhile isBlank with
        | [] => .error .malformed
        | d :: behind =>
            if isBreak d then do
              let (empty, behind) ← orMalformed (quotedLines (behind.length + 1) [] behind)
              quotedBody quote fuel (content ++ foldBreaks d empty) behind
            else
              quotedBody quote fuel (content ++ (c :: rest).takeWhile isBlank) (d :: behind)
      else quotedBody quote fuel (content ++ [c]) rest

def quotedScalar (quote : Char) (s : List Char) : Except Fault (List Char × List Char) :=
  quotedBody quote (s.length + 1) [] s

/-- What is done with the line ends behind a block. -/
inductive Chomping where
  | strip | clip | keep
deriving DecidableEq, Repr

/-- The sign for what is done with the last line ends. -/
def chomping? : Char → Option Chomping
  | '+' => some .keep
  | '-' => some .strip
  | _ => none

/-- The digit of an indentation, which is not zero. -/
def indentDigit? (c : Char) : Option Nat :=
  if c.isDigit && c != '0' then some (c.toNat - '0'.toNat) else none

/-- The marks behind the sign of a block, in either order, and what follows. -/
def blockMarks (s : List Char) : Chomping × Option Nat × List Char :=
  match s with
  | [] => (.clip, none, [])
  | c :: rest =>
      match chomping? c, indentDigit? c with
      | some chomping, _ =>
          match rest with
          | d :: behind =>
              match indentDigit? d with
              | some digit => (chomping, some digit, behind)
              | none => (chomping, none, rest)
          | [] => (chomping, none, [])
      | none, some digit =>
          match rest with
          | d :: behind =>
              match chomping? d with
              | some chomping => (chomping, some digit, behind)
              | none => (.clip, some digit, rest)
          | [] => (.clip, some digit, [])
      | none, none => (.clip, none, s)

/-- The text behind a comment, if one stands here. -/
def skipComment (s : List Char) : List Char :=
  match s with
  | '#' :: rest => rest.dropWhile fun c => !isBreak c
  | _ => s

/-- What follows the rest of a line that may hold blanks and a comment only. -/
def restOfLine? (s : List Char) : Option (List Char) :=
  match skipComment (s.dropWhile (· == ' ')) with
  | [] => some []
  | c :: rest => if isBreak c then some rest else none

/-- The head of a block: its marks and what follows its first line. -/
def blockHead? (s : List Char) : Option (Chomping × Option Nat × List Char) :=
  let (chomping, digit, rest) := blockMarks s
  if endsOr (fun c => c == ' ' || isBreak c) rest then
    (restOfLine? rest).map fun body => (chomping, digit, body)
  else none

/-- The empty lines in front of a block whose indentation is not given: the line ends, the column
behind them, the greatest column among them, and what follows. -/
def leadingLines : Nat → Nat → List Char → List Char → List Char × Nat × Nat × List Char
  | column, most, found, c :: rest =>
      if c = ' ' then leadingLines (column + 1) (max most (column + 1)) found rest
      else if isBreak c then leadingLines 0 most (c :: found) rest
      else (found.reverse, column, most, c :: rest)
  | column, most, found, [] => (found.reverse, column, most, [])

/-- The empty lines in front of a line of a block, with up to `indent` blanks in each: the line
ends, the column behind them, and what follows. -/
def blockGap (indent : Nat) : Nat → List Char → List Char → List Char × Nat × List Char
  | column, found, c :: rest =>
      if c = ' ' ∧ column < indent then blockGap indent (column + 1) found rest
      else if isBreak c then blockGap indent 0 (c :: found) rest
      else (found.reverse, column, c :: rest)
  | column, found, [] => (found.reverse, column, [])

/-- The lines of a block.  `column` is the column of the next line and `gap` holds the line ends
before it; the result ends with the last line end, the empty lines behind it and the rest. -/
def blockLines (folds : Bool) (indent : Nat) :
    Nat → List Char → Option Char → List Char → Nat → List Char →
      List Char × Option Char × List Char × List Char
  | 0, content, lineEnd, gap, _, s => (content, lineEnd, gap, s)
  | fuel + 1, content, lineEnd, gap, column, s =>
      if column = indent ∧ s ≠ [] then
        let isText (s : List Char) : Bool := !endsOr (fun c => c == ' ' || c == '\t') s
        let line := s.takeWhile fun c => !isBreak c
        let (lineEnd, rest) :=
          match s.dropWhile fun c => !isBreak c with
          | c :: rest => (some c, rest)
          | [] => (none, [])
        let written := content ++ gap ++ line
        let (empty, after, rest) := blockGap indent 0 [] rest
        if after = indent ∧ rest ≠ [] then
          let joint :=
            if folds ∧ lineEnd = some '\n' ∧ isText s ∧ isText rest then
              if empty.isEmpty then [' '] else []
            else lineEnd.toList
          blockLines folds indent fuel (written ++ joint) none empty after rest
        else (written, lineEnd, empty, rest)
      else (content, lineEnd, gap, s)

/-- The block behind its opening sign.  `parent` is the indentation of what the block belongs to. -/
def blockScalar? (folds : Bool) (parent : Int) (s : List Char) :
    Option (List Char × List Char) :=
  (blockHead? s).map fun (chomping, digit, body) =>
    let least := (max (parent + 1) 1).toNat
    let (indent, gap, column, rest) :=
      match digit with
      | none =>
          let (gap, column, most, rest) := leadingLines 0 0 [] body
          (max least most, gap, column, rest)
      | some digit =>
          let indent := least + digit - 1
          let (gap, column, rest) := blockGap indent 0 [] body
          (indent, gap, column, rest)
    let (content, lineEnd, empty, rest) :=
      blockLines folds indent (rest.length + 1) [] none gap column rest
    let tail :=
      match chomping with
      | .strip => []
      | .clip => lineEnd.toList
      | .keep => lineEnd.toList ++ empty
    (content ++ tail, rest)

example : (quotedScalar '\'' "it''s' x".toList).toOption = some ("it's".toList, " x".toList) := by
  decide +kernel
example : (blockScalar? true 0 "\n a\n b\n\n c\n".toList).map (·.1) = some "a b\nc\n".toList := by
  decide +kernel

end TaintTriage.Yaml
