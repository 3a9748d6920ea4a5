import TaintTriage.Characteristic.Supplied
import TaintTriage.Configuration

/-!
Specifications with loosely typed parts.  They are checked as others are; beyond that, the names of
characteristics are kept in a set and the names of types are put together in a record, for which
they have to fit.
-/

namespace TaintTriage

open EndpointType (CatalogEntry)

/-- The specification of a query with loosely typed types and characteristics. -/
abbrev SuppliedSpec := SpecOf CatalogEntry SuppliedCharacteristic

/-- What a specification with loosely typed parts describes. -/
structure SuppliedConfiguration where
  kind : QueryKind
  relevantSinkTypes : List CatalogEntry
  refinements : List SuppliedCharacteristic

namespace SuppliedConfiguration

/-- A configuration as a caller would describe it. -/
def ofConfiguration (c : Configuration) : SuppliedConfiguration :=
  ⟨c.kind, c.relevantSinkTypes.map (·.toEntry), c.refinements.map .ofCharacteristic⟩

/-- The names of all characteristics of the query: of the shared ones, then of its own. -/
def names (c : SuppliedConfiguration) : List Value :=
  (SuppliedCharacteristic.shipped ++ c.refinements).map (·.name)

/-- A configuration as it is shown inside messages. -/
def literal (c : SuppliedConfiguration) : String :=
  c.kind.configurationLiteral

/-- Why a specification is refused. -/
inductive Fault where
  | unfit (cause : Configuration.Fault)
  /-- The names of the characteristics are not distinct. -/
  | characteristics (cause : SuppliedCharacteristic.Fault)
  | unusable (cause : ValueFault)

/-- The configuration that a specification describes, with a record of what was built. -/
def build (spec : SuppliedSpec) : Logged Fault SuppliedConfiguration := do
  let parts ← .ofExcept ((Configuration.checkParts CatalogEntry.isNegative spec).mapError .unfit)
  let c : SuppliedConfiguration := ⟨parts.kind, parts.types.map (·.1), parts.refinements⟩
  .ofExcept ((SuppliedCharacteristic.validate [] ((SuppliedCharacteristic.shipped ++
    c.refinements).map .expected)).mapError .characteristics)
  let relevant ← .ofExcept ((Value.joined Configuration.typeMark 0
    (c.relevantSinkTypes.map (·.name))).mapError .unusable)
  .write (Configuration.buildRecord c.kind relevant c.refinements.length)
  return c

end SuppliedConfiguration

/-- The specification with the types and the characteristics that the parts of a loosely typed one
are.  A part that is neither stays in its place as a value. -/
def SpecOf.ofSupplied (spec : SuppliedSpec) : QuerySpec where
  kind := spec.kind
  knownSource := spec.knownSource
  relevantSinkTypes := spec.relevantSinkTypes.map fun
    | .expected e => (e.type?.map Supplied.expected).getD (.other e.toValue)
    | .other v => .other v
  refinements := spec.refinements.map fun
    | .expected c => .expected c.characteristic
    | .other v => .other v
  effectiveSource := spec.effectiveSource
  sanitizerClasses := spec.sanitizerClasses
  flowStepTags := spec.flowStepTags
  description := spec.description

end TaintTriage
