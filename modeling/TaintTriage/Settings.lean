import TaintTriage.Log
import TaintTriage.QueryKind
import TaintTriage.SourcePath
import TaintTriage.Value

/-!
Settings: what is classified and how, how items are sent to a scorer, and what is logged.  Values
that make no sense, such as a pool without workers, cannot be represented.
-/

namespace TaintTriage

/-- Settings of the classification. -/
structure ClassificationSettings where
  queries : List QueryKind := QueryKind.all
  maxWorkers : Option Int := none
  includeLabels : Bool := true
  workers_pos : ∀ n ∈ maxWorkers, 1 ≤ n := by intro n hn; cases hn

/-- Settings of the boundary to the scorer. -/
structure ScoringSettings where
  batchSize : Int := 32
  maxConcurrency : Int := 4
  batchSize_pos : 1 ≤ batchSize := by decide
  maxConcurrency_pos : 1 ≤ maxConcurrency := by decide

/-- Settings of the log. -/
structure LoggingSettings where
  level : Level := .info
  file : Option SourcePath := none
  jsonFormat : Bool := false
  maxFileSizeMb : Int := 10
  backupCount : Int := 5

/-- All settings. -/
structure Settings where
  classification : ClassificationSettings := {}
  scoring : ScoringSettings := {}
  logging : LoggingSettings := {}

/-- The value of one setting. -/
inductive Setting where
  | absent
  | flag (b : Bool)
  | number (n : Int)
  | text (s : String)
  | texts (items : List String)

def Setting.toValue : Setting → Value
  | .absent => .null
  | .flag b => .bool b
  | .number n => .int n
  | .text s => .str s
  | .texts items => .texts items

def ClassificationSettings.fields (s : ClassificationSettings) : List (String × Setting) :=
  [("queries", .texts (s.queries.map (·.id))),
   ("max_workers", (s.maxWorkers.map Setting.number).getD .absent),
   ("include_labels", .flag s.includeLabels)]

/-- The settings of the boundary to the scorer by name. -/
def ScoringSettings.fields (s : ScoringSettings) : List (String × Setting) :=
  [("batch_size", .number s.batchSize), ("max_concurrency", .number s.maxConcurrency)]

/-- The settings of the log by name. -/
def LoggingSettings.fields (s : LoggingSettings) : List (String × Setting) :=
  [("level", .text s.level.name),
   ("file", (s.file.map fun path => Setting.text path.toText).getD .absent),
   ("json_format", .flag s.jsonFormat),
   ("max_file_size_mb", .number s.maxFileSizeMb),
   ("backup_count", .number s.backupCount)]

namespace Settings

def sectionDocument (fields : List (String × Setting)) : Value :=
  .object (fields.map fun (name, setting) => (name, setting.toValue))

def sections (s : Settings) : List (String × List (String × Setting)) :=
  [("classification", s.classification.fields), ("scoring", s.scoring.fields),
   ("logging", s.logging.fields)]

def toDocument (s : Settings) : Value :=
  .object (s.sections.map fun (name, fields) => (name, sectionDocument fields))

/-- What is allowed, but hardly meant. -/
inductive Warning where
  | noQueries | duplicateQueries | singleWorker
deriving DecidableEq, Repr

def Warning.message : Warning → String
  | .noQueries => "No queries enabled; classification will do nothing"
  | .duplicateQueries => "Duplicate query ids in classification.queries"
  | .singleWorker => "classification.max_workers=1 disables parallel classification"

def warnings (s : Settings) : List Warning :=
  (if s.classification.queries.isEmpty then [.noQueries] else []) ++
  (if s.classification.queries.Nodup then [] else [.duplicateQueries]) ++
  (if s.classification.maxWorkers = some 1 then [.singleWorker] else [])

end Settings

end TaintTriage
