import TaintTriage.Settings.Environment
import TaintTriage.Settings.Section
import TaintTriage.Value.Operation
import TaintTriage.Yaml.Unfold

/-!
Loading settings from their layers.  Explicit overrides win over the environment, that over the
file of the project, that over the file of the user, and that over the usual values.

Beside the sections, the files and the overrides may hold entries with names of their own that
change the rules by which the environment is read.
-/

namespace TaintTriage.Settings

/-- Where settings come from.  The files are given by their text, if they are there. -/
structure Layers where
  user : Option String := none
  project : Option String := none
  environment : Environment := []
  overrides : Value := .null

/-- The places of the two files, for messages. -/
structure FilePlaces where
  user : String
  project : String

/-- Why settings cannot be loaded. -/
inductive LoadFault where
  /-- The text of a file is no document. -/
  | malformed
  /-- A scalar in a file does not fit its tag, the overrides are no mapping, or a rule for the
  environment cannot be used. -/
  | unfit (cause : ValueFault)
  /-- A file holds something else than a mapping. -/
  | notMapping (path : String)
  /-- The name of a section is no text. -/
  | unnamedSection
  /-- The name of an entry is the one that the settings themselves have. -/
  | takenName
  | environment (fault : EnvironmentFault)
  /-- No variable can be looked for under the name of an entry. -/
  | unnamed (fault : NameFault)
  | invalid (errors : List FieldError)
deriving DecidableEq, Repr

/-- The name that no entry can have. -/
def selfName : String := "__pydantic_self__"

/-- The wording of a fault, apart from those of single fields. -/
def LoadFault.message : LoadFault → String
  | .malformed => "The file is no document"
  | .unfit cause => cause.message
  | .notMapping path => "Config file " ++ path ++ " must contain a mapping"
  | .unnamedSection => "keywords must be strings"
  | .takenName =>
      "BaseSettings.__init__() got multiple values for argument '" ++ selfName ++ "'"
  | .environment fault => fault.message
  | .unnamed (.unshown cause) => cause.message
  | .unnamed (.unwritten fault) => fault.message
  | .invalid _ => "Some fields are not valid"

/-- The entries of a file; a file that is absent or empty has none. -/
def fileEntries (path : String) (text : Option String) :
    Except LoadFault (List (Value × Value)) :=
  match text with
  | none => .ok []
  | some text =>
      match Yaml.readOrEmpty text with
      | .error .malformed => .error .malformed
      | .error (.unfit cause) => .error (.unfit cause)
      | .ok v =>
          match v.opened with
          | .map entries => .ok entries
          | _ => .error (.notMapping path)

/-- Whether a key is the name of a section. -/
def isNamed (entry : Value × Value) : Bool :=
  match entry.1 with
  | .str _ => true
  | _ => false

/-- An entry that changes the rules for the environment; one that is null changes nothing. -/
def ruleSetting? (entries : List (Value × Value)) (name : String) : Option Value :=
  (Value.field? entries name).filter fun v => v.shape != .null

/-- What the names of variables begin with.  A name cannot be made with something else than a
text. -/
def ruleHead : Option Value → Except LoadFault String
  | none => .ok variableHead
  | some (.str head) => .ok head
  | some v =>
      match v.size with
      | .error cause => .error (.unfit cause)
      | .ok _ => .error (.environment (.nameless "classification"))

/-- What the number of parts of a name behind its section is given by.  Nothing else than a number
can be counted down from. -/
def partsLimit : Option Value → Except LoadFault Value
  | none => .ok (.int 0)
  | some v =>
      if !v.isTruthy then .ok (.int 0)
      else
        match v with
        | .bool _ | .int _ | .float _ => .ok v
        | v => .error (.unfit (.notOperand "-" v.shape .int))

/-- Why names cannot be taken apart at a divider into a number of parts, if they cannot.  Parts are
counted by an integer of the machine. -/
def partsFault? (divider : Option Value) (limit : Value) : Option ValueFault :=
  match limit.toInt, limit with
  | _, .float _ => some (.notInteger .float)
  | .ok n, _ =>
      if !fitsWord (n - 1) then some .hugeCount
      else
        match divider with
        | none | some (.str _) => none
        | some v => some (.notDivider v.shape)
  | .error cause, _ => some cause

/-- The rules for the environment, with what some entries change in them. -/
def environmentRules (entries : List (Value × Value)) : Except LoadFault EnvironmentRules := do
  let isSet (name : String) : Bool := ((ruleSetting? entries name).map Value.isTruthy).getD false
  let limit ← partsLimit (ruleSetting? entries "_env_nested_max_split")
  let divider := ruleSetting? entries "_env_nested_delimiter"
  let dividerText ←
    match divider with
    | none => pure "__"
    | some v => if v.isTruthy then v.display.mapError .unfit else pure ""
  return {
    head := ← ruleHead (ruleSetting? entries "_env_prefix")
    exactCase := isSet "_case_sensitive"
    skipEmpty := isSet "_env_ignore_empty"
    divider := dividerText
    maxParts := (limit.toInt.toOption.map Int.toNat).filter (0 < ·)
    partsFault := partsFault? divider limit
    nullText :=
      match ruleSetting? entries "_env_parse_none_str" with
      | some (.str text) => some text
      | _ => none }

/-- Places of further files are one text or several.  Nothing is read from them. -/
def requirePlaces : Option Value → Except LoadFault Unit
  | none | some (.str _) => .ok ()
  | some v => discard (v.items.mapError .unfit)

/-- The settings of explicit entries over those of the environment. -/
def ofLayers (environment : Environment) (entries : List (Value × Value)) :
    Except LoadFault Settings := do
  if !entries.all isNamed then throw .unnamedSection
  if (Value.field? entries selfName).isSome then throw .takenName
  let rules ← environmentRules entries
  requirePlaces (ruleSetting? entries "_env_file")
  let given ← (rules.entries environment).mapError fun
    | .unfit cause => .unfit cause
    | fault => .environment fault
  requirePlaces (ruleSetting? entries "_secrets_dir")
  (ofEntries (Value.mergeEntries given entries)).mapError .invalid

def valuesByName (kind : String) (values : Value) : Except LoadFault (List (Value × Value)) :=
  match values.opened with
  | .map entries => .ok entries
  | v => .error (.unfit (.notByName ("taintboost.core.config." ++ kind) v.shape))

/-- The settings of values given by name, without an environment. -/
def ofValues : Value → Except LoadFault Settings
  | .null => ofLayers [] []
  | values => do ofLayers [] (← valuesByName "TaintBoostSettings" values)

def sectionOfValues (sectionName : String) (values : Value) :
    Except LoadFault (List (String × Setting)) :=
  match sectionName with
  | "classification" => do
      let entries ← valuesByName classificationKind values
      return (← (readClassification entries).mapError .invalid).fields
  | "scoring" => do
      let entries ← valuesByName scoringKind values
      return (← (readScoring entries).mapError .invalid).fields
  | _ => do
      let entries ← valuesByName loggingKind values
      return (← (readLogging entries).mapError .invalid).fields

/-- Load settings.  Entries of files that single variables override are taken out before the rest
is laid over the environment. -/
def load (places : FilePlaces) (layers : Layers) : Except LoadFault Settings := do
  let user ← fileEntries places.user layers.user
  let project ← fileEntries places.project layers.project
  let files := Value.mergeEntries (Value.mergeEntries [] user) project
  let kept ← (dropOverridden layers.environment variableHead files).mapError .unnamed
  if !layers.overrides.isTruthy then ofLayers layers.environment kept
  else
    let overrides ← layers.overrides.entries.mapError .unfit
    ofLayers layers.environment (Value.mergeEntries kept overrides)

end TaintTriage.Settings
