import TaintTriage.Settings
import TaintTriage.Yaml.Writer

/-!
The text of settings, as it is saved in a file: a block for each section with one setting a line.
The entries of a list stand on lines of their own, in the column of their name.
-/

namespace TaintTriage

/-- The blanks in front of the settings of a section. -/
def Settings.fieldIndent : Nat := 2

def Setting.written (name : String) : Setting → Except ValueFault (List Char)
  | .absent => .ok " null".toList
  | .flag b => .ok (if b then " true" else " false").toList
  | .number n => do return ' ' :: (← Value.integerText n).toList
  | .text s =>
      let column := Settings.fieldIndent + name.length + 2
      .ok (' ' :: Yaml.writeText (2 * Settings.fieldIndent) column s)
  | .texts [] => .ok " []".toList
  | .texts items =>
      .ok (items.flatMap fun item =>
        Yaml.newLine Settings.fieldIndent ++ "- ".toList ++
          Yaml.writeText (2 * Settings.fieldIndent) (Settings.fieldIndent + 2) item)

namespace Settings

/-- One setting with its name, up to the end of its line. -/
def fieldText (field : String × Setting) : Except ValueFault (List Char) := do
  let written ← field.2.written field.1
  return List.replicate fieldIndent ' ' ++ field.1.toList ++ ':' :: written ++ ['\n']

def sectionText (entry : String × List (String × Setting)) : Except ValueFault (List Char) := do
  return entry.1.toList ++ [':', '\n'] ++ (← entry.2.mapM fieldText).flatten

def toText (s : Settings) : Except ValueFault String := do
  return String.ofList (← s.sections.mapM sectionText).flatten

example : (sectionText ("scoring", ({} : ScoringSettings).fields)).toOption.map String.ofList =
    some "scoring:\n  batch_size: 32\n  max_concurrency: 4\n" := by decide +kernel

end Settings

end TaintTriage
