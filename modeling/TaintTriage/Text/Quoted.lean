import TaintTriage.Text.Escape
import TaintTriage.Text.Printable

/-!
Quoted text for messages: a text in quotes, with escapes for what could not be read back or
shown.  Single quotes are preferred; double quotes are used for a text that holds a single quote
and no double one.
-/

namespace TaintTriage.Text

/-- The quote that a text is put in. -/
def quoteFor (s : List Char) : Char :=
  if s.contains '\'' && !s.contains '"' then '"' else '\''

def numberEscape (c : Char) : List Char :=
  let code := codeOf c
  if code < 0x100 then '\\' :: 'x' :: hexDigits 2 code
  else if code < 0x10000 then '\\' :: 'u' :: hexDigits 4 code
  else '\\' :: 'U' :: hexDigits 8 code

/-- One character as it stands between the given quotes. -/
def quoteChar (quote c : Char) : List Char :=
  if c = quote ∨ c = '\\' then ['\\', c]
  else if c = '\n' then ['\\', 'n']
  else if c = '\r' then ['\\', 'r']
  else if c = '\t' then ['\\', 't']
  else if isPrintable c then [c]
  else numberEscape c

/-- A text in which escapes stand for all characters beyond ASCII. -/
def asciiOnly (s : String) : String :=
  String.ofList (s.toList.flatMap fun c => if c.toNat < 0x80 then [c] else numberEscape c)

/-- One byte as it stands between the given quotes. -/
def quoteByte (quote : Char) (b : UInt8) : List Char :=
  if b.toNat < 0x80 then quoteChar quote (Char.ofNat b.toNat)
  else '\\' :: 'x' :: hexDigits 2 b.toNat

/-- Bytes in quotes, behind the letter that tells them from a text. -/
def quotedBytes (bytes : List UInt8) : String :=
  let quote := quoteFor (bytes.map fun b => Char.ofNat b.toNat)
  String.ofList ('b' :: quote :: bytes.flatMap (quoteByte quote) ++ [quote])

def quoted (s : String) : String :=
  let quote := quoteFor s.toList
  String.ofList (quote :: s.toList.flatMap (quoteChar quote) ++ [quote])

example : quoted "it's" = "\"it's\"" ∧ quoted "a'\"b" = "'a\\'\"b'" := by decide +kernel
example : quotedBytes [0, 0x78, 0xff] = "b'\\x00x\\xff'" := by decide +kernel
example : quoted "é\u200b\n" = "'é\\u200b\\n'" := by decide +kernel

end TaintTriage.Text
