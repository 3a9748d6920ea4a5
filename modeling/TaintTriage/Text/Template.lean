import TaintTriage.Decimal.Places
import TaintTriage.Text.Escape
import TaintTriage.Value.Convert
import TaintTriage.Value.Literal

/-!
Texts with places for arguments.  A place is a percent sign, perhaps the name of an argument in
parentheses, flags, a least width, a precision and a letter for the conversion; a star in place of
the width or of the precision takes it from the arguments.  Two percent signs stand for one.
-/

namespace TaintTriage.Text

/-- What is wrong with a template or its arguments. -/
inductive TemplateFault where
  /-- The template ends inside a place. -/
  | incomplete
  /-- The parenthesis of a name is not closed. -/
  | openName
  | hugeWidth
  | hugePrecision
  | unknownConversion (letter : Char) (position : Nat)
  | tooFewArguments
  | tooManyArguments
  /-- A named place needs named arguments. -/
  | noNames
  /-- The argument for a star is no integer. -/
  | countNotInteger
  /-- The argument for a width is too large for a number of the machine. -/
  | hugeCount
  | notNumber (letter : Char) (found : Value.Shape)
  | notInteger (letter : Char) (found : Value.Shape)
  | notReal (found : Value.Shape)
  | notCharacter
  /-- There is no character with the code. -/
  | noSuchCharacter
  | unusable (cause : ValueFault)
deriving DecidableEq, Repr

namespace TemplateFault

/-- Whether a fault shows a character as it is. -/
def isShown (c : Char) : Bool :=
  31 ≤ c.toNat && c.toNat ≤ 126

def message : TemplateFault → String
  | .incomplete => "incomplete format"
  | .openName => "incomplete format key"
  | .hugeWidth => "width too big"
  | .hugePrecision => "precision too big"
  | .unknownConversion letter position =>
      "unsupported format character '" ++ String.singleton (if isShown letter then letter else '?')
        ++ "' (0x" ++ String.ofList (Nat.toDigits 16 (codeOf letter)) ++ ") at index " ++
        toString position
  | .tooFewArguments => "not enough arguments for format string"
  | .tooManyArguments => "not all arguments converted during string formatting"
  | .noNames => "format requires a mapping"
  | .countNotInteger => "* wants int"
  | .hugeCount => "Python int too large to convert to C ssize_t"
  | .notNumber letter found =>
      "%" ++ String.singleton letter ++ " format: a real number is required, not " ++ found.word
  | .notInteger letter found =>
      "%" ++ String.singleton letter ++ " format: an integer is required, not " ++ found.word
  | .notReal found => "must be real number, not " ++ found.word
  | .notCharacter => "%c requires int or char"
  | .noSuchCharacter => "%c arg not in range(0x110000)"
  | .unusable cause => cause.message

def category : TemplateFault → ValueFault.Category
  | .incomplete | .openName | .hugeWidth | .hugePrecision | .unknownConversion _ _ => .content
  | .hugeCount | .noSuchCharacter => .range
  | .unusable cause => cause.category
  | _ => .shape

end TemplateFault

/-- The arguments of a template: those that are left of a list, or the entries of one mapping,
which have names, with the argument that comes next. -/
inductive TemplateArguments where
  | listed (remaining : List Value)
  | named (entries : List (Value × Value)) (current : Option Value)

namespace TemplateArguments

/-- Arguments as they are given: a single mapping with entries gives them names, and is itself the
first argument without one. -/
def ofList : List Value → TemplateArguments
  | [.map (entry :: entries)] =>
      .named (entry :: entries) (some (.map (entry :: entries)))
  | values => .listed values

def next : TemplateArguments → Except TemplateFault (Value × TemplateArguments)
  | .listed [] | .named _ none => .error .tooFewArguments
  | .listed (v :: rest) => .ok (v, .listed rest)
  | .named entries (some v) => .ok (v, .named entries none)

def choose (name : String) : TemplateArguments → Except TemplateFault TemplateArguments
  | .listed _ => .error .noNames
  | .named entries _ =>
      match Value.field? entries name with
      | some v => .ok (.named entries (some v))
      | none => .error (.unusable (.missingKey name))

/-- All listed arguments must have been used. -/
def finish : TemplateArguments → Except TemplateFault Unit
  | .listed (_ :: _) => .error .tooManyArguments
  | _ => .ok ()

end TemplateArguments

/-- How an argument is fitted into its place. -/
structure PlaceFormat where
  left : Bool := false
  plus : Bool := false
  blank : Bool := false
  alternate : Bool := false
  zeros : Bool := false
  width : Nat := 0
  precision : Option Nat := none

/-- A shown argument in parts: zeros that fill a place come before the body. -/
structure PlacedText where
  sign : List Char := []
  mark : List Char := []
  body : List Char
  /-- Whether it may be filled with zeros. -/
  isNumber : Bool := true

namespace PlaceFormat

/-- A format with the flags at the front of a text, and what follows. -/
def withFlags (format : PlaceFormat) : List Char → PlaceFormat × List Char
  | '-' :: rest => withFlags { format with left := true } rest
  | '+' :: rest => withFlags { format with plus := true } rest
  | ' ' :: rest => withFlags { format with blank := true } rest
  | '#' :: rest => withFlags { format with alternate := true } rest
  | '0' :: rest => withFlags { format with zeros := true } rest
  | rest => (format, rest)

def fit (format : PlaceFormat) (text : PlacedText) : List Char :=
  let size := text.sign.length + text.mark.length + text.body.length
  let missing := format.width - size
  let shown := text.sign ++ text.mark ++ text.body
  if format.left then shown ++ List.replicate missing ' '
  else if format.zeros && text.isNumber then
    text.sign ++ text.mark ++ List.replicate missing '0' ++ text.body
  else List.replicate missing ' ' ++ shown

def signOf (format : PlaceFormat) (negative : Bool) : List Char :=
  if negative then ['-'] else if format.plus then ['+'] else if format.blank then [' '] else []

def cut (format : PlaceFormat) (s : String) : PlacedText where
  body :=
    match format.precision with
    | some most => s.toList.take most
    | none => s.toList
  isNumber := false

/-- A whole number to a base, with zeros up to the precision. -/
def whole (format : PlaceFormat) (base : Nat) (mark : List Char) (n : Int) : PlacedText where
  sign := format.signOf (n < 0)
  mark := if format.alternate then mark else []
  body := padZeros (format.precision.getD 0) (Nat.toDigits base n.natAbs)

/-- The usual precision of doubles. -/
def usualPlaces : Nat := 6

def double (format : PlaceFormat) (style : PlacesStyle) (x : Float) : PlacedText :=
  match DoubleKind.of x with
  | .notANumber => { sign := format.signOf false, body := "nan".toList }
  | .infinite negative => { sign := format.signOf negative, body := "inf".toList }
  | .finite d =>
      { sign := format.signOf d.negative
        body := style.write (format.precision.getD usualPlaces) format.alternate d }

end PlaceFormat

/-- A shown argument in capital letters. -/
def PlacedText.capital (text : PlacedText) : PlacedText :=
  { text with mark := text.mark.map Char.toUpper, body := text.body.map Char.toUpper }

/-- The whole number in an argument, where any number will do. -/
def numberOf (letter : Char) (v : Value) : Except TemplateFault Int :=
  match v with
  | .bool _ | .int _ | .float _ => v.toInt.mapError .unusable
  | _ => .error (.notNumber letter v.shape)

/-- The whole number in an argument, where only whole numbers will do. -/
def integerOf (letter : Char) (v : Value) : Except TemplateFault Int :=
  match v with
  | .bool _ | .int _ => v.toInt.mapError .unusable
  | _ => .error (.notInteger letter v.shape)

/-- The double in an argument. -/
def realOf (v : Value) : Except TemplateFault Float :=
  match v with
  | .bool _ | .int _ | .float _ => v.toDouble.mapError .unusable
  | _ => .error (.notReal v.shape)

/-- The character in an argument: a text of one character, or its code. -/
def characterOf (v : Value) : Except TemplateFault Char :=
  match v with
  | .str s =>
      match s.toList with
      | [c] => .ok c
      | _ => .error .notCharacter
  | .bool _ | .int _ => do
      let code ← v.toInt.mapError .unusable
      if 0 ≤ code ∧ code < 0x110000 then return charOf code.toNat else throw .noSuchCharacter
  | _ => .error .notCharacter

/-- An argument under a conversion.  `position` is that of the letter in the template. -/
def convertArgument (format : PlaceFormat) (letter : Char) (position : Nat) (v : Value) :
    Except TemplateFault PlacedText :=
  match letter with
  | 's' => return format.cut (← v.display.mapError .unusable)
  | 'r' => return format.cut (← v.literal.mapError .unusable)
  | 'a' => return format.cut (asciiOnly (← v.literal.mapError .unusable))
  | 'd' | 'i' | 'u' => do
      let n ← numberOf letter v
      discard ((Value.integerText n).mapError .unusable)
      return format.whole 10 [] n
  | 'o' => return format.whole 8 ['0', 'o'] (← integerOf letter v)
  | 'x' => return format.whole 16 ['0', 'x'] (← integerOf letter v)
  | 'X' => return (format.whole 16 ['0', 'x'] (← integerOf letter v)).capital
  | 'e' => return format.double .scientific (← realOf v)
  | 'E' => return (format.double .scientific (← realOf v)).capital
  | 'f' => return format.double .positional (← realOf v)
  | 'F' => return (format.double .positional (← realOf v)).capital
  | 'g' => return format.double .shorter (← realOf v)
  | 'G' => return (format.double .shorter (← realOf v)).capital
  | 'c' => return { body := [← characterOf v], isNumber := false }
  | _ => .error (.unknownConversion letter position)

/-- What is left of a template, and the arguments for it. -/
structure TemplateState where
  rest : List Char
  arguments : TemplateArguments

/-- A step in filling a template. -/
abbrev Filling (α : Type) := StateT TemplateState (Except TemplateFault) α

namespace Filling

/-- Take the next argument. -/
def argument : Filling Value := do
  let state ← get
  let (v, arguments) ← state.arguments.next
  set { state with arguments }
  return v

/-- The name at the front of a text up to the parenthesis that closes it, and what follows.
`depth` is the number of parentheses that are open inside the name. -/
def nameUntilClosed : Nat → List Char → List Char → Option (String × List Char)
  | _, _, [] => none
  | 0, read, ')' :: rest => some (String.ofList read.reverse, rest)
  | depth + 1, read, ')' :: rest => nameUntilClosed depth (')' :: read) rest
  | depth, read, '(' :: rest => nameUntilClosed (depth + 1) ('(' :: read) rest
  | depth, read, c :: rest => nameUntilClosed depth (c :: read) rest

/-- Read the name of an argument, if there is one. -/
def name : Filling Unit := do
  let state ← get
  match state.rest with
  | '(' :: rest =>
      if let .listed _ := state.arguments then throw .noNames
      match nameUntilClosed 0 [] rest with
      | none => throw .openName
      | some (name, rest) => set (TemplateState.mk rest (← state.arguments.choose name))
  | _ => return

/-- Read a number, or take it from the arguments where a star stands.  `limit` is the first number
that is too large to be read. -/
def count (limit : Nat) (tooLarge : TemplateFault) (argumentLimit : Nat)
    (argumentTooLarge : TemplateFault) : Filling (Option Int) := do
  let state ← get
  match state.rest with
  | '*' :: rest =>
      set { state with rest }
      match ← argument with
      | .bool b => return some b.toInt
      | .int n =>
          if -(argumentLimit : Int) ≤ n ∧ n < argumentLimit then return some n
          else throw argumentTooLarge
      | _ => throw .countNotInteger
  | rest =>
      let digits := rest.takeWhile Char.isDigit
      if digits.isEmpty then return none
      let n := ofDigits (digits.map fun c => c.toNat - 48)
      if limit ≤ n then throw tooLarge
      set { state with rest := rest.dropWhile Char.isDigit }
      return some n

/-- Go on with what follows. -/
def goOn (rest : List Char) : Filling Unit :=
  modify fun state => { state with rest }

def precision : Filling (Option Nat) := do
  match (← get).rest with
  | '.' :: rest =>
      goOn rest
      let n ← count (1 <<< 31) .hugePrecision (1 <<< 31) (.unusable .hugeCode)
      return some (n.getD 0).toNat
  | _ => return none

/-- Pass over the mark for the size of a number, which has no effect. -/
def sizeMark : Filling Unit := do
  match (← get).rest with
  | 'h' :: rest | 'l' :: rest | 'L' :: rest => goOn rest
  | _ => return

/-- Read flags, width and precision.  A width below zero keeps its text on the left. -/
def format : Filling PlaceFormat := do
  let (flags, rest) := PlaceFormat.withFlags {} (← get).rest
  goOn rest
  let width := (← count (1 <<< 63) .hugeWidth (1 <<< 63) .hugeCount).getD 0
  let precision ← precision
  sizeMark
  return { flags with left := flags.left || width < 0, width := width.natAbs, precision }

/-- Fill one place, behind its percent sign.  `size` is the length of the whole template. -/
def place (size : Nat) : Filling (List Char) := do
  name
  let format ← format
  match (← get).rest with
  | [] => throw .incomplete
  | letter :: rest =>
      goOn rest
      let v ← argument
      return format.fit (← convertArgument format letter (size - rest.length - 1) v)

/-- Fill a template; `fuel` bounds the number of its parts. -/
def parts (size : Nat) : Nat → List Char → Filling (List Char)
  | 0, written => return written
  | fuel + 1, written => do
      match (← get).rest with
      | [] => return written
      | '%' :: '%' :: rest =>
          goOn rest
          parts size fuel (written ++ ['%'])
      | '%' :: rest =>
          goOn rest
          parts size fuel (written ++ (← place size))
      | c :: rest =>
          goOn rest
          parts size fuel (written ++ [c])

end Filling

/-- Fill a template with arguments.  Without arguments it is taken as it is. -/
def fill (template : String) (arguments : List Value) : Except TemplateFault String := do
  if arguments.isEmpty then return template
  let s := template.toList
  let (written, state) ←
    StateT.run (Filling.parts s.length s.length []) ⟨s, .ofList arguments⟩
  state.arguments.finish
  return String.ofList written

/-- Fill a template with loosely typed arguments; what does not count as true gives none. -/
def fillFrom (template arguments : Value) : Except TemplateFault String := do
  let arguments ← if arguments.isTruthy then arguments.items.mapError .unusable else pure []
  fill (← template.display.mapError .unusable) arguments

end TaintTriage.Text
