import TaintTriage.Characteristic.Shipped

/-!
Characteristics from loosely typed parts.  A name need not be a text, the parts of a type need not
be what they are for, and anything may stand in the place of a type or of the sign of some evidence.
What is supplied is kept as it is; a family looks at its types only if it speaks of them.
-/

namespace TaintTriage

open EndpointType (CatalogEntry)

/-- What a caller gives as an endpoint type. -/
abbrev SuppliedType := Supplied CatalogEntry

namespace SuppliedType

/-- A type as a caller would give it. -/
def ofType (t : EndpointType) : SuppliedType := .expected t.toEntry

/-- Equality of what was given. -/
def equals : SuppliedType → SuppliedType → Bool
  | .expected e, .expected f => e.equals f
  | .other v, .other w => v.equals w
  | _, _ => false

/-- A part of a type, which nothing else has. -/
def part (name : String) (read : CatalogEntry → Value) :
    SuppliedType → Except ValueFault Value
  | .expected e => .ok (read e)
  | .other v => .error (.noMember v.shape name)

def name : SuppliedType → Except ValueFault Value := part "name" (·.name)

def encoding : SuppliedType → Except ValueFault Value := part "encoding" (·.encoding)

def isNegative : SuppliedType → Except ValueFault Bool
  | .expected e => .ok e.isNegative
  | .other v => .error (.noMember v.shape "is_negative")

/-- Refuses what cannot be in a set. -/
def requireHashable : SuppliedType → Except ValueFault Unit
  | .expected e => e.requireHashable
  | .other v => v.requireHashable

/-- Whether one of some types is the negative class.  The first that is decides. -/
def anyNegative : List SuppliedType → Except ValueFault Bool
  | [] => .ok false
  | t :: rest => do if ← isNegative t then return true else anyNegative rest

end SuppliedType

/-- Evidence for or against what was given as a type. -/
structure SuppliedImplication where
  type : SuppliedType
  positive : Value
  confidence : Confidence

namespace SuppliedImplication

/-- An implication as a caller would give it. -/
def ofImplication (i : Implication) : SuppliedImplication :=
  ⟨.ofType i.type, .bool i.positive, i.confidence⟩

/-- Equality of what was given. -/
def equals (i j : SuppliedImplication) : Bool :=
  i.type.equals j.type && i.positive.equals j.positive && i.confidence == j.confidence

/-- Positive evidence that leaves no doubt. -/
def isKnown (i : SuppliedImplication) : Bool :=
  i.positive.isTruthy && decide (Confidence.maximal ≤ i.confidence)

/-- The implication about an endpoint type, if it is about one.  Evidence is for a type if its sign
counts as true. -/
def implication? (i : SuppliedImplication) : Option Implication :=
  (i.type.expected?.bind (·.type?)).map fun t => ⟨t, i.positive.isTruthy, i.confidence⟩

end SuppliedImplication

/-- A characteristic as its author supplied it. -/
structure SuppliedCharacteristic where
  name : Value
  family : Supplied Family
  implications : List SuppliedImplication
  rule : Rule

namespace SuppliedCharacteristic

/-- A characteristic as a caller would give it. -/
def ofCharacteristic (c : Characteristic) : SuppliedCharacteristic :=
  ⟨.str c.name, c.family, c.implications.map .ofImplication, c.rule⟩

/-- The characteristic with the text of a name, and with the implications that are about endpoint
types. -/
def characteristic (c : SuppliedCharacteristic) : Characteristic :=
  ⟨Value.textOrReason c.name.display, c.family, c.implications.filterMap (·.implication?), c.rule⟩

def sameImplications : List SuppliedImplication → List SuppliedImplication → Bool
  | [], [] => true
  | i :: is, j :: js => i.equals j && sameImplications is js
  | _, _ => false

/-- Equality by name, family and implications; rules are not compared. -/
def equals (c d : SuppliedCharacteristic) : Bool :=
  c.name.equals d.name && Characteristic.sameFamily c.family d.family &&
    sameImplications c.implications d.implications

def implies (c : SuppliedCharacteristic) (type : SuppliedType) (positive : Value)
    (least : Confidence) : Bool :=
  c.implications.any fun i =>
    i.type.equals type && i.positive.isLike positive && decide (least ≤ i.confidence)

/-- Why characteristics cannot be made or used. -/
inductive Fault where
  | unfit (cause : Characteristic.Fault)
  | unusable (cause : ValueFault)

def make (name : Value) (family : Supplied Family) (rule : Rule) (types : List SuppliedType) :
    Except Fault SuppliedCharacteristic := do
  if !name.isTruthy then throw (.unfit .emptyName)
  match family with
  | .other v => throw (.unfit (.unknownFamily (← v.display.mapError .unusable)))
  | .expected f =>
      if f.needsTypes then
        if types.isEmpty then throw (.unfit (.noTypes (← name.display.mapError .unusable)))
        if ← (SuppliedType.anyNegative types).mapError .unusable then
          throw (.unfit (.targetsNegative (← name.display.mapError .unusable)))
      return ⟨name, family,
        (f.targets (.ofType .negative) types).map fun t => ⟨t, .bool f.isPositive, f.confidence⟩,
        rule⟩

/-- The characteristic of the sinks of a type that a base analysis reports, if there is a class of
them. -/
def knownSink (type : SuppliedType) : Except ValueFault SuppliedCharacteristic := do
  type.requireHashable
  let found := Characteristic.sinkClasses.find? fun entry => type.equals (.ofType entry.1)
  match found, type with
  | some (t, sinkClass), _ =>
      let c := ofCharacteristic (.knownSinkOfClass t sinkClass)
      return { c with implications := c.implications.map fun i => { i with type } }
  | none, .expected e => throw (.missingEntry (Value.textOrReason e.literal))
  | none, .other v => throw (.missingEntry (Value.textOrReason v.literal))

def nameOf : Supplied SuppliedCharacteristic → Except ValueFault Value
  | .expected c => .ok c.name
  | .other v => .error (.noMember v.shape "name")

/-- The names of some characteristics must be distinct. -/
def validate (seen : List Value) : List (Supplied SuppliedCharacteristic) → Except Fault Unit
  | [] => .ok ()
  | c :: rest => do
      let name ← (nameOf c).mapError .unusable
      name.requireHashable.mapError .unusable
      if seen.any name.equals then
        throw (.unfit (.duplicate (← name.display.mapError .unusable)))
      validate (name :: seen) rest

/-- The shared characteristics as a caller would give them. -/
def shipped : List SuppliedCharacteristic :=
  Characteristic.shipped.map ofCharacteristic

end SuppliedCharacteristic

end TaintTriage
