import TaintTriage.SourcePath
import TaintTriage.Text.Digit
import TaintTriage.Text.Case
import TaintTriage.Text.Utf8
import TaintTriage.Value.Convert

/-!
Reading the fields of settings from loosely typed values.  Numbers and flags may be given as text,
as the environment does.  All fields are read before anything is reported, and every fault comes
with the place it was found at.
-/

namespace TaintTriage.Settings

/-- A step on the way to a value: the name of a field or a position in a list. -/
inductive Step where
  | name (name : String)
  | position (index : Nat)
deriving DecidableEq, Repr

/-- Why a field cannot be read. -/
inductive FieldFault where
  | notInteger
  | unreadableInteger
  | longInteger
  | fraction
  | notFinite
  | notFlag
  | unreadableFlag
  | notText
  | unreadableText
  | notList
  | notPath
  /-- A section is no mapping; the name is that of the section's kind. -/
  | notSection (kind : String)
  /-- The value was read, but makes no sense. -/
  | refused (reason : String)
deriving DecidableEq, Repr

def FieldFault.id : FieldFault → String
  | .notInteger => "int_type"
  | .unreadableInteger => "int_parsing"
  | .longInteger => "int_parsing_size"
  | .fraction => "int_from_float"
  | .notFinite => "finite_number"
  | .notFlag => "bool_type"
  | .unreadableFlag => "bool_parsing"
  | .notText => "string_type"
  | .unreadableText => "string_unicode"
  | .notList => "list_type"
  | .notPath => "path_type"
  | .notSection _ => "model_type"
  | .refused _ => "value_error"

def FieldFault.message : FieldFault → String
  | .notInteger => "Input should be a valid integer"
  | .unreadableInteger =>
      "Input should be a valid integer, unable to parse string as an integer"
  | .longInteger => "Unable to parse input string as an integer, exceeded maximum size"
  | .fraction => "Input should be a valid integer, got a number with a fractional part"
  | .notFinite => "Input should be a finite number"
  | .notFlag => "Input should be a valid boolean"
  | .unreadableFlag => "Input should be a valid boolean, unable to interpret input"
  | .notText => "Input should be a valid string"
  | .unreadableText =>
      "Input should be a valid string, unable to parse raw data as a unicode string"
  | .notList => "Input should be a valid list"
  | .notPath => "Input is not a valid path for <class 'pathlib.Path'>"
  | .notSection kind => "Input should be a valid dictionary or instance of " ++ kind
  | .refused reason => "Value error, " ++ reason

/-- A fault and the place it was found at. -/
structure FieldError where
  place : List Step
  fault : FieldFault
deriving DecidableEq, Repr

/-- What reading a part of the settings gives: a value, or everything that is wrong with it. -/
abbrev Reading (α : Type) := Except (List FieldError) α

/-- Read two parts and report the faults of both. -/
def Reading.both {α β : Type} (a : Reading α) (b : Reading β) : Reading (α × β) :=
  match a, b with
  | .ok x, .ok y => .ok (x, y)
  | .ok _, .error faults => .error faults
  | .error faults, .ok _ => .error faults
  | .error first, .error second => .error (first ++ second)

/-- A fault at the place itself. -/
def Reading.fail {α : Type} (fault : FieldFault) : Reading α :=
  .error [⟨[], fault⟩]

/-- The same reading, found one step further down. -/
def Reading.under {α : Type} (step : Step) (r : Reading α) : Reading α :=
  r.mapError fun faults => faults.map fun f => { f with place := step :: f.place }

/-- The text that a value is, if it is one: bytes are read as text, or found unreadable in a way
of the caller's.  A text with halves of characters is unreadable anyway. -/
def textOf? (unreadable : FieldFault) : Value → Option (Except FieldFault String)
  | .str s => some (if s.toList.any Text.isHalf then .error .unreadableText else .ok s)
  | .bytes content =>
      some (match Text.decodeUtf8 (content.map (·.toNat)) with
        | .ok s => .ok s
        | .error _ => .error unreadable)
  | _ => none

def readText (v : Value) : Reading String :=
  match textOf? .unreadableText v with
  | some (.ok s) => .ok s
  | some (.error fault) => .fail fault
  | none => .fail .notText

/-- A decimal without the zeros in front and the underscores among them.  A zero stays in front of
a point and where there is nothing else; behind zeros there may be a minus sign. -/
def stripZeros : List Char → Option (List Char)
  | '0' :: rest => skipZeros '0' rest
  | c :: rest => if c.isDigit then some (c :: rest) else none
  | [] => none
where
  /-- Skip zeros and underscores behind the character `last`. -/
  skipZeros (last : Char) : List Char → Option (List Char)
    | [] => some [last]
    | c :: rest =>
        if c = '0' ∨ c = '_' then skipZeros c rest
        else if c = '.' then some (last :: c :: rest)
        else if c.isDigit ∨ c = '-' then some (c :: rest)
        else none

/-- A decimal without a fraction that consists of zeros, one at least. -/
def stripFraction (s : List Char) : List Char :=
  match s.dropWhile (· != '.') with
  | '.' :: fraction =>
      if fraction ≠ [] ∧ fraction.all (· == '0') then s.takeWhile (· != '.') else s
  | _ => s

/-- Whether two underscores follow one another. -/
def hasDoubleMark : List Char → Bool
  | '_' :: '_' :: _ => true
  | _ :: rest => hasDoubleMark rest
  | [] => false

/-- Digits without single underscores between them. -/
def stripMarks (s : List Char) : List Char :=
  if s.head? = some '_' ∨ s.getLast? = some '_' ∨ hasDoubleMark s then s
  else s.filter (· != '_')

/-- The longest text of a whole number, its sign included. -/
def maxIntegerLength : Nat := 4300

/-- A decimal with its sign, without zeros in front, a fraction of zeros and underscores. -/
def plainDecimal? (s : List Char) : Option (List Char) := do
  let stripped ←
    match s with
    | '+' :: '-' :: _ => none
    | '+' :: rest => stripZeros rest
    | '-' :: rest => (stripZeros rest).map fun rest => '-' :: rest
    | _ => stripZeros s
  return stripMarks (stripFraction stripped)

/-- The whole number that a text stands for.  Its length is looked at before what follows the
digits is. -/
def readIntegerText (s : String) : Except FieldFault Int :=
  match plainDecimal? (Text.trim s.toList) with
  | none => .error .unreadableInteger
  | some s =>
      let (mark, unsigned) := s.span (· == '-')
      let digits := unsigned.takeWhile Char.isDigit
      if 1 < mark.length || digits.isEmpty || digits.head? == some '0' && 1 < digits.length then
        .error .unreadableInteger
      else if maxIntegerLength < mark.length + digits.length then .error .longInteger
      else if digits.length < unsigned.length then .error .unreadableInteger
      else
        let n : Int := ofDigits (digits.map fun c => c.toNat - '0'.toNat)
        .ok (if mark.isEmpty then n else -n)

/-- The first number that is too large for 64 bits with a sign. -/
def wordBound : Int := (1 <<< 63 : Nat)

/-- Whether a whole number fits into 64 bits with its sign. -/
def fitsWord (n : Int) : Bool :=
  -wordBound ≤ n && n < wordBound

/-- A whole number.  A double has to be one that fits into 64 bits. -/
def readInteger (v : Value) : Reading Int :=
  match v with
  | .int n => .ok n
  | .bool b => .ok b.toInt
  | .float x =>
      match DoubleKind.of x with
      | .finite d =>
          if !d.isWhole then .fail .fraction
          else if fitsWord d.truncate && d.truncate != -wordBound then .ok d.truncate
          else .fail .longInteger
      | _ => .fail .notFinite
  | v =>
      match textOf? .unreadableInteger v with
      | some text =>
          match text.bind readIntegerText with
          | .ok n => .ok n
          | .error fault => .fail fault
      | none => .fail .notInteger

def flagWords : List (String × Bool) :=
  [("true", true), ("yes", true), ("on", true), ("t", true), ("y", true), ("1", true),
   ("false", false), ("no", false), ("off", false), ("f", false), ("n", false), ("0", false)]

def readFlagText (s : String) : Except FieldFault Bool :=
  match flagWords.lookup (String.ofList (s.toList.map Char.toLower)) with
  | some b => .ok b
  | none => .error .unreadableFlag

def readFlag (v : Value) : Reading Bool :=
  match v with
  | .bool b => .ok b
  | .int n =>
      if n = 0 then .ok false
      else if n = 1 then .ok true
      else if fitsWord n then .fail .unreadableFlag
      else .fail .notFlag
  | .float x =>
      match (Value.float x).magnitude? with
      | some (.whole 0) => .ok false
      | some (.whole 1) => .ok true
      | _ => .fail .notFlag
  | v =>
      match textOf? .unreadableFlag v with
      | some text =>
          match text.bind readFlagText with
          | .ok b => .ok b
          | .error fault => .fail fault
      | none => .fail .notFlag

def readTexts (position : Nat) : List Value → Reading (List String)
  | [] => .ok []
  | v :: rest =>
      (Reading.both (Reading.under (.position position) (readText v))
        (readTexts (position + 1) rest)).map fun (s, others) => s :: others

/-- A list of texts, which may be given as another collection without keys. -/
def readTextList (v : Value) : Reading (List String) :=
  match v.opened with
  | .list items | .set items => readTexts 0 items
  | .pair a b => readTexts 0 [a, b]
  | _ => .fail .notList

def readPath : Value → Reading (Option SourcePath)
  | .null => .ok none
  | .str s => if s.toList.any Text.isHalf then .fail .notPath else .ok (some (SourcePath.ofText s))
  | _ => .fail .notPath

/-- A field that may be absent, with the value it has then. -/
def readField {α : Type} (entries : List (Value × Value)) (name : String) (usual : α)
    (read : Value → Reading α) : Reading α :=
  match Value.field? entries name with
  | none => .ok usual
  | some v => Reading.under (.name name) (read v)

example : (readIntegerText " 007 ").toOption = some 7 ∧
    (readIntegerText "4.0").toOption = some 4 := by decide +kernel
example : (readIntegerText "1__0").toOption = none ∧
    (readIntegerText "9.").toOption = none := by decide +kernel
example : (readIntegerText "0-5").toOption = some (-5) ∧
    (readIntegerText "-0__1").toOption = some (-1) := by decide +kernel
example : (readIntegerText "0-05").toOption = none ∧
    (readIntegerText "--5").toOption = none := by decide +kernel

end TaintTriage.Settings
