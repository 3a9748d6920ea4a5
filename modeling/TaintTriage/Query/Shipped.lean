import TaintTriage.Configuration
import TaintTriage.Query.Html

/-!
The configurations of the supported queries.
-/

namespace TaintTriage.Configuration

open Characteristic (ofFamily)

/-- The class under which remote input is reported as a source. -/
def remoteFlow : String := "remote-flow"

/-- The class under which values of the environment are reported as a source. -/
def environment : String := "environment"

/-- Known sources: nodes with one of some classes. -/
def knownSourceOf (classes : List String) : Rule := fun n =>
  .ok (n.knownSources.meets (.ofList classes))

/-- A characteristic against one type, for nodes about which a question is answered with no. -/
def refinement (name : String) (type : EndpointType) (question : Rule) : Characteristic :=
  ofFamily name .standardFilter (fun n => do return !(← question n)) [type]

/-- Arguments of library code. -/
def externalCall : Rule := fun n => .ok (Html.isLikelyExternalCallArgument n)

def sqlInjection : Configuration where
  kind := .sqlInjection
  knownSource := knownSourceOf [QueryKind.id .sqlInjection, remoteFlow]
  relevantSinkTypes := [.sqlInjectionSink]
  refinements := []
  effectiveSource := none
  sanitizerClasses := .ofList ["sql-escape", "parameterized-query"]
  flowStepTags := .empty
  description := "User-controlled data reaching a SQL query"
  relevant_ne_nil := by decide
  relevant_positive := by decide
  names_distinct := by decide

/-- NoSQL injection.  Query objects are built by library code. -/
def nosqlInjection : Configuration where
  kind := .nosqlInjection
  knownSource := knownSourceOf [QueryKind.id .nosqlInjection, remoteFlow]
  relevantSinkTypes := [.nosqlInjectionSink]
  refinements :=
    [refinement "not-nosql-external-call-argument" .nosqlInjectionSink externalCall]
  effectiveSource := none
  sanitizerClasses := .ofList ["nosql-sanitize"]
  flowStepTags := .ofList ["json-parse"]
  description := "User-controlled data reaching a NoSQL query object"
  relevant_ne_nil := by decide
  relevant_positive := by decide
  names_distinct := by decide

/-- Cross-site scripting.  Sinks are arguments of library code or look like markup. -/
def xss : Configuration where
  kind := .xss
  knownSource := knownSourceOf [QueryKind.id .xss, remoteFlow]
  relevantSinkTypes := [.xssSink]
  refinements := [refinement "not-likely-xss-sink" .xssSink Html.isLikelyXssSink]
  effectiveSource := none
  sanitizerClasses := .ofList ["html-escape"]
  flowStepTags := .ofList ["dom"]
  description := "User-controlled data written into HTML"
  relevant_ne_nil := by decide
  relevant_positive := by decide
  names_distinct := by decide

/-- Tainted paths.  Files are opened by library code. -/
def taintedPath : Configuration where
  kind := .taintedPath
  knownSource := knownSourceOf [QueryKind.id .taintedPath, remoteFlow]
  relevantSinkTypes := [.taintedPathSink]
  refinements := [refinement "not-path-external-call-argument" .taintedPathSink externalCall]
  effectiveSource := none
  sanitizerClasses := .ofList ["path-normalize"]
  flowStepTags := .ofList ["path-join"]
  description := "User-controlled data used as a file system path"
  relevant_ne_nil := by decide
  relevant_positive := by decide
  names_distinct := by decide

/-- Shell command injection.  Sources are values of the environment, not remote input. -/
def shellCommandInjection : Configuration where
  kind := .shellCommandInjection
  knownSource := knownSourceOf [QueryKind.id .shellCommandInjection, environment]
  relevantSinkTypes := [.shellCommandInjectionSink]
  refinements := []
  effectiveSource := none
  sanitizerClasses := .ofList ["shell-quote"]
  flowStepTags := .empty
  description := "Environment-controlled data reaching a shell command"
  relevant_ne_nil := by decide
  relevant_positive := by decide
  names_distinct := by decide

def ofKind : QueryKind → Configuration
  | .sqlInjection => sqlInjection
  | .nosqlInjection => nosqlInjection
  | .xss => xss
  | .taintedPath => taintedPath
  | .shellCommandInjection => shellCommandInjection

def ofSpelling (spelling : String) : Except QueryKind.Unknown Configuration :=
  (QueryKind.ofSpelling spelling).map ofKind

@[simp] theorem ofKind_kind (kind : QueryKind) : (ofKind kind).kind = kind := by
  cases kind <;> rfl

end TaintTriage.Configuration
