import TaintTriage.Decimal.Text
import TaintTriage.Text.Escape
import TaintTriage.Text.Quoted
import TaintTriage.Value.Literal

/-!
Writing JSON text: one line and a blank behind commas and colons.  Every character outside ASCII is
escaped, or only those that no quoted text may hold.
-/

namespace TaintTriage.Json

def unitEscape (unit : Nat) : List Char :=
  '\\' :: 'u' :: Text.hexDigits 4 unit

/-- Which characters of a text are escaped. -/
inductive Escapes where
  /-- Quotes, backslashes, control characters and all that is not printable ASCII. -/
  | unprinted
  /-- Quotes, backslashes and control characters. -/
  | needed
deriving DecidableEq, Repr

/-- Whether a character stands for itself. -/
def Escapes.keeps (escapes : Escapes) (c : Char) : Bool :=
  match escapes with
  | .unprinted => 0x20 ≤ c.toNat && c.toNat < 0x7f
  | .needed => 0x20 ≤ c.toNat

/-- One character inside a quoted text. -/
def escapeChar (escapes : Escapes) (c : Char) : List Char :=
  if c = '"' then ['\\', '"']
  else if c = '\\' then ['\\', '\\']
  else if c = '\n' then ['\\', 'n']
  else if c = '\r' then ['\\', 'r']
  else if c = '\t' then ['\\', 't']
  else if c = '\x0c' then ['\\', 'f']
  else if c = '\x08' then ['\\', 'b']
  else if escapes.keeps c then [c]
  else if c.toNat < 0x10000 ∨ Text.isHalf c then unitEscape (Text.codeOf c)
  else
    let n := c.toNat - 0x10000
    unitEscape (0xd800 + n / 0x400) ++ unitEscape (0xdc00 + n % 0x400)

def quoted (escapes : Escapes) (s : String) : String :=
  String.ofList ('"' :: s.toList.flatMap (escapeChar escapes) ++ ['"'])

def doubleText (x : Float) : String :=
  match DoubleKind.of x with
  | .notANumber => "NaN"
  | .infinite negative => if negative then "-Infinity" else "Infinity"
  | .finite _ => writeDouble x

/-- The name under which an entry is written. -/
def keyName (key : Value) : String :=
  match key with
  | .int n => toString n
  | v => Value.textOrReason v.display

mutual

/-- The JSON text of a value.  Bytes and times are written as texts, sets and pairs as lists, and
keys as texts. -/
def writeWith (escapes : Escapes) : Value → String
  | .null | .again _ => "null"
  | .bool b => if b then "true" else "false"
  | .int n => toString n
  | .float x => doubleText x
  | .str s => quoted escapes s
  | .bytes content => quoted escapes (Text.quotedBytes content)
  | .day d => quoted escapes d.text
  | .moment m => quoted escapes m.text
  | .list items | .set items =>
      "[" ++ ", ".intercalate (writeItems escapes items) ++ "]"
  | .pair a b => "[" ++ writeWith escapes a ++ ", " ++ writeWith escapes b ++ "]"
  | .map entries => "\x7b" ++ ", ".intercalate (writeEntries escapes entries) ++ "\x7d"
  | .loop _ body => writeWith escapes body

def writeItems (escapes : Escapes) : List Value → List String
  | [] => []
  | x :: xs => writeWith escapes x :: writeItems escapes xs

/-- The JSON texts of the entries of a mapping. -/
def writeEntries (escapes : Escapes) : List (Value × Value) → List String
  | [] => []
  | (k, v) :: es =>
      (quoted escapes (keyName k) ++ ": " ++ writeWith escapes v) :: writeEntries escapes es

end

/-- The JSON text of a value, in ASCII. -/
def write (v : Value) : String := writeWith .unprinted v

example : write (.list [.str "é", .int 1]) = "[\"\\u00e9\", 1]" := by decide +kernel
example : writeWith .needed (.str "é") = "\"é\"" := by decide +kernel

end TaintTriage.Json
