import TaintTriage.Evidence
import TaintTriage.Flow
import TaintTriage.Log
import TaintTriage.QueryKind
import TaintTriage.Snapshot.Document

/-!
Configurations: what one query takes for sources and sinks.  A specification is what the author of
a query supplied; a configuration is a specification that has been checked.  Every question about
the sink axis goes back to the characteristics that apply to the node.
-/

namespace TaintTriage

/-- The specification of a query as its author supplied it, with types and characteristics of some
kind. -/
structure SpecOf (τ χ : Type) where
  kind : Supplied QueryKind
  knownSource : Supplied Rule
  relevantSinkTypes : List (Supplied τ)
  refinements : List (Supplied χ) := []
  effectiveSource : Supplied Rule := .other .null
  sanitizerClasses : NameSet := .empty
  flowStepTags : NameSet := .empty
  description : String := ""

/-- The specification of a query. -/
abbrev QuerySpec := SpecOf EndpointType Characteristic

/-- The configuration of a query as it is shown inside messages. -/
def QueryKind.configurationLiteral (kind : QueryKind) : String :=
  "EndpointConfiguration(" ++ kind.id ++ ")"

/-- What a node is on the source axis. -/
inductive SourceStatus where
  | notASource | knownSource | effectiveSource
deriving DecidableEq, Repr

namespace SourceStatus

/-- All statuses. -/
def all : List SourceStatus := [.notASource, .knownSource, .effectiveSource]

def id : SourceStatus → String
  | .notASource => "not_a_source"
  | .knownSource => "known_source"
  | .effectiveSource => "effective_source"

end SourceStatus

/-- What a node is on the sink axis. -/
inductive SinkStatus where
  | notASink | knownSink | effectiveSink | excluded
deriving DecidableEq, Repr

namespace SinkStatus

/-- All statuses. -/
def all : List SinkStatus := [.notASink, .knownSink, .effectiveSink, .excluded]

def id : SinkStatus → String
  | .notASink => "not_a_sink"
  | .knownSink => "known_sink"
  | .effectiveSink => "effective_sink"
  | .excluded => "excluded"

end SinkStatus

/-- A checked configuration. -/
structure Configuration where
  kind : QueryKind
  knownSource : Rule
  relevantSinkTypes : List EndpointType
  refinements : List Characteristic
  effectiveSource : Option Rule
  sanitizerClasses : NameSet
  flowStepTags : NameSet
  description : String
  relevant_ne_nil : relevantSinkTypes ≠ []
  relevant_positive : ∀ t ∈ relevantSinkTypes, t.isNegative = false
  names_distinct : ((Characteristic.shipped ++ refinements).map (·.name)).Nodup

namespace Configuration

/-- Why a specification is refused. -/
inductive Fault where
  | unknownKind (kind : Value)
  | noKnownSource (kind : QueryKind)
  | noSinkTypes (kind : QueryKind)
  | notAType (kind : QueryKind) (found : Value)
  | negativeType (kind : QueryKind)
  | notACharacteristic (kind : QueryKind) (found : Value)
  | badEffectiveSource (kind : QueryKind)
  | duplicateCharacteristic (name : String)
  /-- What is refused cannot be shown. -/
  | unusable (cause : ValueFault)

def Fault.message : Fault → Except ValueFault String
  | .unknownKind kind => do return "Unknown query kind: " ++ (← kind.literal)
  | .noKnownSource kind => .ok ("Query " ++ kind.id ++ " does not define a known-source rule")
  | .noSinkTypes kind => .ok ("Query " ++ kind.id ++ " selects no relevant sink types")
  | .notAType kind found => do
      return "Query " ++ kind.id ++ " lists " ++ (← found.literal) ++
        ", which is not an endpoint type"
  | .negativeType kind =>
      .ok ("Query " ++ kind.id ++ " cannot select the negative class as a sink type")
  | .notACharacteristic kind found => do
      return "Query " ++ kind.id ++ " has a refinement that is not a characteristic: " ++
        (← found.literal)
  | .badEffectiveSource kind =>
      .ok ("Query " ++ kind.id ++ " has a non-callable effective-source rule")
  | .duplicateCharacteristic name => .ok ("Duplicate characteristic: " ++ name)
  | .unusable cause => .ok cause.message

def Fault.raised (fault : Fault) : Fault :=
  Value.reported fault.message .unusable fault

/-- The parts of a specification that have been checked one by one, with types that are no negative
class. -/
structure Parts {τ : Type} (isNegative : τ → Bool) (χ : Type) where
  kind : QueryKind
  knownSource : Rule
  types : List { t : τ // isNegative t = false }
  refinements : List χ
  effectiveSource : Option Rule
  types_ne_nil : types ≠ []

section Check

variable {τ χ : Type} (isNegative : τ → Bool) (kind : QueryKind)

/-- A relevant type must be an endpoint. -/
def checkType (supplied : Supplied τ) : Except Fault { t : τ // isNegative t = false } :=
  match supplied with
  | .other v => .error (Fault.notAType kind v).raised
  | .expected t =>
      if h : isNegative t = false then .ok ⟨t, h⟩ else .error (.negativeType kind)

/-- A refinement must be a characteristic. -/
def checkRefinement (supplied : Supplied χ) : Except Fault χ :=
  match supplied with
  | .other v => .error (Fault.notACharacteristic kind v).raised
  | .expected c => .ok c

/-- A rule for effective sources may be left out. -/
def checkEffectiveSource (supplied : Supplied Rule) : Except Fault (Option Rule) :=
  match supplied with
  | .other .null => .ok none
  | .other _ => .error (.badEffectiveSource kind)
  | .expected rule => .ok (some rule)

end Check

/-- Check the parts of a specification in the order in which they are listed there, the effective
source after the refinements. -/
def checkParts {τ χ : Type} (isNegative : τ → Bool) (spec : SpecOf τ χ) :
    Except Fault (Parts isNegative χ) :=
  match spec.kind with
  | .other v => .error (Fault.unknownKind v).raised
  | .expected kind =>
      match spec.knownSource with
      | .other _ => .error (.noKnownSource kind)
      | .expected knownSource =>
          match spec.relevantSinkTypes with
          | [] => .error (.noSinkTypes kind)
          | first :: others => do
              let head ← checkType isNegative kind first
              let tail ← others.mapM (checkType isNegative kind)
              let refinements ← spec.refinements.mapM (checkRefinement kind)
              let effectiveSource ← checkEffectiveSource kind spec.effectiveSource
              return {
                kind, knownSource, refinements, effectiveSource
                types := head :: tail
                types_ne_nil := by simp }

/-- The configuration of a specification.  The names of all characteristics are checked last. -/
def ofSpec (spec : QuerySpec) : Except Fault Configuration := do
  let parts ← checkParts EndpointType.isNegative spec
  match h : firstRepeat? [] ((Characteristic.shipped ++ parts.refinements).map (·.name)) with
  | some name => .error (.duplicateCharacteristic name)
  | none =>
      return {
        kind := parts.kind
        knownSource := parts.knownSource
        refinements := parts.refinements
        effectiveSource := parts.effectiveSource
        relevantSinkTypes := parts.types.map (·.1)
        sanitizerClasses := spec.sanitizerClasses
        flowStepTags := spec.flowStepTags
        description := spec.description
        relevant_ne_nil := fun h => parts.types_ne_nil (List.map_eq_nil_iff.mp h)
        relevant_positive := by
          intro t ht
          obtain ⟨checked, _, rfl⟩ := List.mem_map.mp ht
          exact checked.2
        names_distinct := (firstRepeat?_eq_none.mp h).1 }

def logger : Logger := .ofModule "configuration" "endpoints"

/-- The record of a configuration that was built. -/
def buildRecord (kind : QueryKind) (relevant : String) (refinements : Nat) : LogRecord :=
  logger.record .debug "Configuration built"
    [("query", .text kind.id), ("relevant", .text relevant), ("refinements", .count refinements)]

/-- What stands between the names of the relevant types in that record. -/
def typeMark : String := ","

/-- The configuration of a specification, with a record of what was built. -/
def build (spec : QuerySpec) : Logged Fault Configuration := do
  let c ← .ofExcept (ofSpec spec)
  .write (buildRecord c.kind (typeMark.intercalate (c.relevantSinkTypes.map (·.name)))
    c.refinements.length)
  return c

def queryId (c : Configuration) : String := c.kind.id

/-- A configuration as it is shown inside messages. -/
def literal (c : Configuration) : String :=
  c.kind.configurationLiteral

/-- All characteristics of the query: the shared ones, then its own. -/
def characteristics (c : Configuration) : List Characteristic :=
  Characteristic.shipped ++ c.refinements

/-- Whether an analysis without boosting starts at the node. -/
def isKnownSource (c : Configuration) (n : Node) : Except RuleFailure Bool :=
  c.knownSource n

/-- Whether the query takes the node for a source beyond the known ones. -/
def isEffectiveSource (c : Configuration) (n : Node) : Except RuleFailure Bool :=
  match c.effectiveSource with
  | none => .ok false
  | some rule => rule n

/-- Whether a boosted analysis starts at the node. -/
def isSource (c : Configuration) (n : Node) : Except RuleFailure Bool := do
  if ← c.isKnownSource n then return true
  c.isEffectiveSource n

def sourceStatus (c : Configuration) (n : Node) : Except RuleFailure SourceStatus := do
  if ← c.isKnownSource n then return .knownSource
  if ← c.isEffectiveSource n then return .effectiveSource
  return .notASource

def isKnownSink (c : Configuration) (n : Node) : Except RuleFailure Bool := do
  let known ← knownTypes n c.characteristics
  return c.relevantSinkTypes.any known.contains

/-- Whether the node is known to be an endpoint, but of none of the relevant types. -/
def isKnownSinkOfOtherClass (c : Configuration) (n : Node) : Except RuleFailure Bool := do
  let known ← knownTypes n c.characteristics
  if c.relevantSinkTypes.any known.contains then return false
  return known.any fun t => !t.isNegative

/-- The names of the characteristics that exclude the node. -/
def exclusionReasons (c : Configuration) (n : Node) : Except RuleFailure (List String) :=
  TaintTriage.exclusionReasons n c.relevantSinkTypes c.characteristics

def isExcluded (c : Configuration) (n : Node) : Except RuleFailure Bool := do
  return !(← c.exclusionReasons n).isEmpty

/-- Whether nothing speaks against the node as a sink of this query. -/
def isEffectiveSink (c : Configuration) (n : Node) : Except RuleFailure Bool := do
  if ← c.isExcluded n then return false
  return !(← c.isKnownSinkOfOtherClass n)

/-- Whether a boosted analysis ends at the node. -/
def isSink (c : Configuration) (n : Node) : Except RuleFailure Bool := do
  if ← c.isKnownSink n then return true
  c.isEffectiveSink n

def sinkStatus (c : Configuration) (n : Node) : Except RuleFailure SinkStatus := do
  if ← c.isKnownSink n then return .knownSink
  if ← c.isExcluded n then return .excluded
  if ← c.isKnownSinkOfOtherClass n then return .notASink
  return .effectiveSink

/-- The ambiguity of the node, if it is known to be of several types. -/
def findAmbiguity (c : Configuration) (n : Node) : Except RuleFailure (Option Ambiguity) :=
  TaintTriage.findAmbiguity n c.characteristics

/-- Whether a flow of this query ends at the node because its value is sanitized there. -/
def isSanitizer (c : Configuration) (n : Node) : Bool :=
  n.sanitizes.meets (c.sanitizerClasses.insert anyClass)

/-- Whether the graph has a flow step between two nodes that this query follows. -/
def isAdditionalFlowStep (c : Configuration) (g : Snapshot) (source target : Node) : Bool :=
  (g.stepTags source.id target.id).meets (c.flowStepTags.insert anyClass)

/-- The predicates of an analysis without boosting. -/
def knownPredicates (c : Configuration) (g : Snapshot) : FlowPredicates :=
  ⟨c.isKnownSource, c.isKnownSink, c.isSanitizer, c.isAdditionalFlowStep g⟩

/-- The predicates of a boosted analysis. -/
def boostedPredicates (c : Configuration) (g : Snapshot) : FlowPredicates :=
  ⟨c.isSource, c.isSink, c.isSanitizer, c.isAdditionalFlowStep g⟩

/-- Whether an analysis without boosting reports a flow between two nodes, as far as their ends
tell. -/
def isFlowLikelyInBaseQuery (c : Configuration) (source sink : Node) :
    Except RuleFailure Bool := do
  if ← c.isKnownSource source then c.isKnownSink sink else return false

/-- Whether a path is worth scoring: an analysis without boosting does not report it, and it ends
at an effective sink that is no known one.  `known` holds the keys of the paths that such an
analysis found, if the caller has them. -/
def isSinkCandidateWithFlow (c : Configuration) (path : FlowPath)
    (known : Option (List (String × String))) : Except RuleFailure Bool := do
  if (known.getD []).contains path.key then return false
  if ← c.isFlowLikelyInBaseQuery path.source path.sink then return false
  if ← c.isEffectiveSink path.sink then
    return !(← c.isKnownSink path.sink)
  return false

/-- The first path worth scoring to each sink, in order.  A path that is not worth it does not keep
a later one to the same sink from being taken. -/
def selectNovel (c : Configuration) (known : List (String × String)) (seen : List String) :
    List FlowPath → Except RuleFailure (List FlowPath)
  | [] => .ok []
  | path :: rest => do
      if seen.contains path.sink.id then c.selectNovel known seen rest
      else if ← c.isSinkCandidateWithFlow path (some known) then
        return path :: (← c.selectNovel known (path.sink.id :: seen) rest)
      else c.selectNovel known seen rest

def distinctKeys (paths : List FlowPath) : List (String × String) :=
  (paths.map FlowPath.key).eraseDups

/-- Run an engine with both sets of predicates and keep one novel path to each sink. -/
def candidatePaths (c : Configuration) (engine : FlowEngine) (g : Snapshot) :
    Logged RuleFailure (List FlowPath) := do
  let known ← .ofExcept (engine (c.knownPredicates g) g)
  let boosted ← .ofExcept (engine (c.boostedPredicates g) g)
  let selected ← .ofExcept (c.selectNovel (known.map FlowPath.key) [] boosted)
  .write (logger.record .info "Filtered flow paths"
    [("query", .text c.queryId),
     ("known", .count (distinctKeys known).length),
     ("boosted", .count boosted.length),
     ("candidates", .count selected.length)])
  return selected

end Configuration

end TaintTriage
