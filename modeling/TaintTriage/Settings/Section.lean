import TaintTriage.Settings
import TaintTriage.Settings.Field

/-!
Reading the sections of settings.  Entries with other names are passed over, absent ones have their
usual values.
-/

namespace TaintTriage.Settings

/-- A number that is not below one. -/
def atLeastOne (reason : String) (n : Int) : Reading { n : Int // 1 ≤ n } :=
  if h : 1 ≤ n then .ok ⟨n, h⟩ else .fail (.refused reason)

/-- The ids of all kinds of queries, in increasing order. -/
def queryIds : List String :=
  ["nosql-injection", "shell-command-injection", "sql-injection", "tainted-path", "xss"]

/-- The wording for a query that there is none of. -/
def unknownQuery (query : String) : String :=
  "Invalid query: " ++ query ++ ". Must be one of " ++
    "[" ++ ", ".intercalate (queryIds.map Text.quoted) ++ "]"

def readQueries : List String → Reading (List QueryKind)
  | [] => .ok []
  | spelling :: rest =>
      match QueryKind.ofSpelling? spelling with
      | none => .fail (.refused (unknownQuery (QueryKind.normalize spelling)))
      | some kind => (readQueries rest).map fun kinds => kind :: kinds

/-- The number of workers, if one is given. -/
def readWorkers : Value → Reading (Option { n : Int // 1 ≤ n })
  | .null => .ok none
  | v => do return some (← atLeastOne "max_workers must be at least 1" (← readInteger v))

/-- A number that is not below one, from a value. -/
def readPositive (v : Value) : Reading { n : Int // 1 ≤ n } := do
  atLeastOne "must be at least 1" (← readInteger v)

/-- The level with a name, in any case. -/
def readLevel (v : Value) : Reading Level := do
  let name ← readText v
  match Level.all.find? (·.name == Text.toUpper name) with
  | some level => return level
  | none => .fail (.refused ("Invalid log level: " ++ name ++ "."))

def readClassification (entries : List (Value × Value)) : Reading ClassificationSettings :=
  let queries := readField entries "queries" QueryKind.all fun v => do
    readQueries (← readTextList v)
  let workers := readField entries "max_workers" none readWorkers
  let labels := readField entries "include_labels" true readFlag
  (Reading.both queries (Reading.both workers labels)).map
    fun (queries, workers, includeLabels) =>
      { queries, includeLabels
        maxWorkers := workers.map (·.1)
        workers_pos := by
          intro n hn
          obtain ⟨checked, _, rfl⟩ := Option.map_eq_some_iff.mp hn
          exact checked.2 }

/-- The settings of the boundary to the scorer. -/
def readScoring (entries : List (Value × Value)) : Reading ScoringSettings :=
  let size := readField entries "batch_size" ⟨32, by decide⟩ readPositive
  let concurrency := readField entries "max_concurrency" ⟨4, by decide⟩ readPositive
  (Reading.both size concurrency).map fun (size, concurrency) =>
    ⟨size.1, concurrency.1, size.2, concurrency.2⟩

def readLogging (entries : List (Value × Value)) : Reading LoggingSettings :=
  let level := readField entries "level" .info readLevel
  let file := readField entries "file" none readPath
  let json := readField entries "json_format" false readFlag
  let size := readField entries "max_file_size_mb" 10 readInteger
  let count := readField entries "backup_count" 5 readInteger
  (Reading.both level (Reading.both file (Reading.both json (Reading.both size count)))).map
    fun (level, file, jsonFormat, maxFileSizeMb, backupCount) =>
      { level, file, jsonFormat, maxFileSizeMb, backupCount }

/-- A section, which is a mapping; `kind` is the name of its kind. -/
def readSection {α : Type} (entries : List (Value × Value)) (name kind : String) (usual : α)
    (read : List (Value × Value) → Reading α) : Reading α :=
  readField entries name usual fun v =>
    match v.opened with
    | .map fields => read fields
    | _ => .fail (.notSection kind)

/-- The names of the kinds of sections. -/
def classificationKind : String := "ClassificationConfig"

@[inherit_doc classificationKind]
def scoringKind : String := "ScoringConfig"

@[inherit_doc classificationKind]
def loggingKind : String := "LoggingConfig"

def ofEntries (entries : List (Value × Value)) : Reading Settings :=
  let classification :=
    readSection entries "classification" classificationKind {} readClassification
  let scoring := readSection entries "scoring" scoringKind {} readScoring
  let logging := readSection entries "logging" loggingKind {} readLogging
  (Reading.both classification (Reading.both scoring logging)).map
    fun (classification, scoring, logging) => { classification, scoring, logging }

end TaintTriage.Settings
