import TaintTriage.Text.Case.Context
import TaintTriage.Text.Case.Table
import TaintTriage.Text.Printable

/-!
Full case mappings: `toUpper` and `toLower` follow Unicode, so that one character may become
several and a sigma at the end of a word has its own lower-case form.
-/

namespace TaintTriage.Text

/-- The character that a table of runs maps a character to, if it maps it at all. -/
def mapByRuns (runs : List (Nat × Nat × Nat × Nat)) (c : Char) : Option Char :=
  (runs.find? fun (first, last, step, _) =>
      first ≤ c.toNat && c.toNat ≤ last && (c.toNat - first) % step == 0).map
    fun (first, _, _, image) => Char.ofNat (image + (c.toNat - first))

/-- The replacement of one character under a table of runs and a table of expansions. -/
def mapCase (runs : List (Nat × Nat × Nat × Nat)) (expansions : List (Nat × List Nat))
    (c : Char) : List Char :=
  match expansions.lookup c.toNat with
  | some codes => codes.map Char.ofNat
  | none => [(mapByRuns runs c).getD c]

/-- The upper case of one character. -/
def upperChar (c : Char) : List Char :=
  if c.toNat < 0x80 then [c.toUpper] else mapCase upperRuns upperExpansions c

/-- The lower case of one character that stands alone. -/
def lowerChar (c : Char) : List Char :=
  if c.toNat < 0x80 then [c.toLower] else mapCase lowerRuns lowerExpansions c

/-- Whether the first character that is not skipped has case. -/
def meetsCased : List Char → Bool
  | [] => false
  | c :: rest =>
      if inRanges caseIgnorableRanges c.toNat then meetsCased rest
      else inRanges casedRanges c.toNat

/-- Lower case of a text whose characters before it are given, the nearest first.  A capital
sigma takes its final form when a character with case stands before it and none after it. -/
def lowerAfter (before : List Char) : List Char → List Char
  | [] => []
  | c :: rest =>
      let lowered :=
        if c = 'Σ' then [if meetsCased before && !meetsCased rest then 'ς' else 'σ']
        else lowerChar c
      lowered ++ lowerAfter (c :: before) rest

/-- The upper case of a text. -/
def toUpper (s : String) : String :=
  String.ofList (s.toList.flatMap upperChar)

/-- The lower case of a text. -/
def toLower (s : String) : String :=
  String.ofList (lowerAfter [] s.toList)

example : toUpper "straße" = "STRASSE" := by decide +kernel
example : toLower "ΟΔΟΣ" = "οδος" := by decide +kernel
example : toLower "Σ" = "σ" := by decide +kernel

end TaintTriage.Text
