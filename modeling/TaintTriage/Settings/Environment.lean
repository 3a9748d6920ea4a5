import TaintTriage.Json.Reader
import TaintTriage.Settings.Merge
import TaintTriage.Text.Case
import TaintTriage.Text.Utf8
import TaintTriage.Value.Literal

/-!
Settings in the environment.  A variable holds a whole section as JSON, or a single value under the
section's name and the value's, divided by two underscores; more of them lead further down.  Names
count without regard to case.

What is given with the settings themselves can change these rules: what names begin with, what
divides them and into how many parts, whether their case counts, whether an empty variable counts,
and which text stands for no value.
-/

namespace TaintTriage.Settings

/-- The variables of an environment, in order. -/
abbrev Environment := List (String × String)

/-- What the names of all variables begin with. -/
def variableHead : String := "TAINTBOOST_"

/-- How variables are named and read. -/
structure EnvironmentRules where
  /-- What the names of all variables begin with. -/
  head : String := variableHead
  /-- Whether the case of names counts. -/
  exactCase : Bool := false
  /-- Whether an empty variable counts as none. -/
  skipEmpty : Bool := false
  /-- What divides the parts of a name; if it is empty, only whole sections are read. -/
  divider : String := "__"
  /-- The number of parts behind the name of the section, if there is a limit. -/
  maxParts : Option Nat := none
  /-- Why names cannot be taken apart, if they cannot. -/
  partsFault : Option ValueFault := none
  /-- The text that stands for no value. -/
  nullText : Option String := none

def fieldNames : List (String × List String) :=
  [("classification", ["queries", "max_workers", "include_labels"]),
   ("scoring", ["batch_size", "max_concurrency"]),
   ("logging", ["level", "file", "json_format", "max_file_size_mb", "backup_count"])]

/-- The field whose value is written as JSON in a variable of its own. -/
def jsonField : String × String := ("classification", "queries")

/-- Why the environment gives no settings. -/
inductive EnvironmentFault where
  /-- A section is no JSON. -/
  | malformed (sectionName : String)
  /-- What names begin with is no text, so that there is no name for the section. -/
  | nameless (sectionName : String)
  /-- The name of a variable cannot be taken apart. -/
  | unfit (cause : ValueFault)
deriving DecidableEq, Repr

def EnvironmentFault.message : EnvironmentFault → String
  | .malformed sectionName =>
      "error parsing value for field \"" ++ sectionName ++ "\" from source \"EnvSettingsSource\""
  | .nameless sectionName =>
      "error getting value for field \"" ++ sectionName ++ "\" from source \"EnvSettingsSource\""
  | .unfit cause => cause.message

/-- The parts of a name between dividers.  `left` is the number of parts that may still be begun,
the part read so far comes in reverse. -/
def nameParts (divider : List Char) : Option Nat → List Char → List Char → List String
  | _, read, [] => [String.ofList read.reverse]
  | left, read, c :: rest =>
      if left != some 0 && divider.isPrefixOf (c :: rest) then
        String.ofList read.reverse ::
          nameParts divider (left.map (· - 1)) [] (rest.drop (divider.length - 1))
      else nameParts divider left (c :: read) rest
termination_by _ _ s => s.length
decreasing_by all_goals grind

/-- Nested mappings with a value set at the end of a way of names.  Where the way is blocked by
another value, nothing is set; a null takes the place of nothing but an empty mapping. -/
def setAt (v : Value) : List String → List (Value × Value) → List (Value × Value)
  | [], entries => entries
  | [name], entries =>
      match v, Value.field? entries name with
      | .null, some (.map []) | _, none => Value.insert entries (.str name) v
      | .null, some _ => entries
      | _, some _ => Value.insert entries (.str name) v
  | name :: rest, entries =>
      match Value.field? entries name with
      | none => Value.insert entries (.str name) (.map (setAt v rest []))
      | some (.map inner) => Value.insert entries (.str name) (.map (setAt v rest inner))
      | some _ => entries

namespace EnvironmentRules

/-- A name as it is compared with others. -/
def nameOf (rules : EnvironmentRules) (name : String) : String :=
  if rules.exactCase then name else Text.toLower name

def textValue (rules : EnvironmentRules) (text : String) : Value :=
  if rules.nullText = some text then .null else .str text

def isJsonField (rules : EnvironmentRules) (sectionName : String) (way : List String) : Bool :=
  match way with
  | [name] =>
      sectionName == jsonField.1 &&
        (rules.nameOf name == jsonField.2 ||
          rules.nameOf name == rules.nameOf (rules.head ++ jsonField.2))
  | _ => false

/-- The variables that count, by the names they are compared by.  Of two with one name the last
one counts. -/
def read (rules : EnvironmentRules) (environment : Environment) : Environment :=
  environment.foldl (fun found (name, text) =>
    let name := rules.nameOf name
    if rules.skipEmpty && text.isEmpty then found
    else if found.any (·.1 == name) then
      found.map fun entry => if entry.1 == name then (name, text) else entry
    else found ++ [(name, text)]) []

/-- Entries with a single value set in them: text, but JSON for the one field that is a list. -/
def setVariable (rules : EnvironmentRules) (sectionName : String) (way : List String)
    (text : String) (entries : List (Value × Value)) :
    Except EnvironmentFault (List (Value × Value)) :=
  if rules.isJsonField sectionName way && !text.isEmpty then
    match Json.read? text with
    | some v =>
        let last := way.getLastD ""
        .ok (Value.insert entries (.str last) v)
    | none => .error (.malformed sectionName)
  else .ok (setAt (rules.textValue text) way entries)

def singleValues (rules : EnvironmentRules) (sectionName : String) (given : Environment) :
    Except EnvironmentFault (List (Value × Value)) :=
  let head := (rules.nameOf (rules.head ++ sectionName) ++ rules.divider).toList
  if rules.divider.isEmpty then .ok []
  else
    given.foldlM (fun entries (name, text) => do
      if head.isPrefixOf name.toList then
        if let some cause := rules.partsFault then throw (.unfit cause)
        let way :=
          nameParts rules.divider.toList (rules.maxParts.map (· - 1)) []
            (name.toList.drop head.length)
        rules.setVariable sectionName way text entries
      else return entries) []

/-- Entries with the names of a section's fields in their usual case. -/
def withUsualNames (rules : EnvironmentRules) (fields : List String)
    (entries : List (Value × Value)) : List (Value × Value) :=
  if rules.exactCase then entries
  else
    entries.foldl (fun found (key, v) =>
      let key :=
        match key with
        | .str name =>
            match fields.find? fun field => field == Text.toLower name with
            | some field => Value.str field
            | none => key
        | _ => key
      Value.insert found key v) []

/-- What the environment gives for a section, if anything.  Single values win over those in the
section as a whole. -/
def sectionValue? (rules : EnvironmentRules) (sectionName : String) (fields : List String)
    (given : Environment) : Except EnvironmentFault (Option Value) :=
  match given.lookup (rules.nameOf (rules.head ++ sectionName)) with
  | none => do
      let entries ← rules.singleValues sectionName given
      return if entries.isEmpty then none else some (.map (rules.withUsualNames fields entries))
  | some text =>
      if rules.nullText = some text then .ok (some .null)
      else
        match Json.read? text with
        | none => .error (.malformed sectionName)
        | some .null => .ok none
        | some (.map whole) => do
            let entries := Value.mergeEntries whole (← rules.singleValues sectionName given)
            return some (.map (rules.withUsualNames fields entries))
        | some v => .ok (some v)

/-- What the environment gives for all sections. -/
def entries (rules : EnvironmentRules) (environment : Environment) :
    Except EnvironmentFault (List (Value × Value)) := do
  let given := rules.read environment
  let found ← fieldNames.mapM fun (name, fields) => do
    return (← rules.sectionValue? name fields given).map fun v => (Value.str name, v)
  return found.filterMap id

end EnvironmentRules

/-- Why no variable can be looked for under the names of some entries. -/
inductive NameFault where
  /-- A name has no text. -/
  | unshown (cause : ValueFault)
  /-- A name cannot be written in bytes, as the names of variables are. -/
  | unwritten (fault : Text.EncodeFault)
deriving DecidableEq, Repr

/-- Whether the environment has a variable with exactly this name in capital letters. -/
def isSet (environment : Environment) (name : String) : Except NameFault Bool :=
  let upper := Text.toUpper name
  match Text.encodeFault? 0 upper.toList with
  | some fault => .error (.unwritten fault)
  | none => .ok (environment.any (·.1 == upper))

def nameForSection (head : String) (key : Value) : Except ValueFault String := do
  return head ++ (← key.display)

def nameForField (head : String) (key field : Value) : Except ValueFault String := do
  return (← nameForSection head key) ++ "__" ++ (← field.display)

/-- Whether the environment has the variable of a name that may have no text. -/
def hasVariable (environment : Environment) (name : Except ValueFault String) :
    Except NameFault Bool := do
  isSet environment (← name.mapError .unshown)

/-- What is left of an entry if what single variables override is taken out. -/
def withoutOverridden (environment : Environment) (head : String) (entry : Value × Value) :
    Except NameFault (Option (Value × Value)) := do
  let (key, v) := entry
  match v.opened with
  | .map fields =>
      let kept ← fields.filterM fun (field, _) => do
        return !(← hasVariable environment (nameForField head key field))
      return if kept.isEmpty then none else some (key, .map kept)
  | _ =>
      return if ← hasVariable environment (nameForSection head key) then none else some (key, v)

/-- Entries without those that single variables override.  Sections that become empty are left
out. -/
def dropOverridden (environment : Environment) (head : String)
    (entries : List (Value × Value)) : Except NameFault (List (Value × Value)) := do
  return (← entries.mapM (withoutOverridden environment head)).reduceOption

end TaintTriage.Settings
