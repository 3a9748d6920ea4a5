import TaintTriage.Confidence
import TaintTriage.EndpointType
import TaintTriage.Repeat
import TaintTriage.Rule

/-!
Characteristics: named rules over nodes that imply, with a confidence, that a node is or is not of
an endpoint type.  Most belong to one of four families, which fix the shape of what is implied.
-/

namespace TaintTriage

/-- Evidence for or against one endpoint type. -/
structure Implication where
  type : EndpointType
  positive : Bool
  confidence : Confidence

namespace Implication

instance : BEq Implication :=
  ⟨fun i j => i.type == j.type && i.positive == j.positive && i.confidence == j.confidence⟩

/-- Positive evidence that leaves no doubt. -/
def isKnown (i : Implication) : Bool :=
  i.positive && decide (Confidence.maximal ≤ i.confidence)

end Implication

/-- The shapes of characteristics. -/
inductive Family where
  /-- The node is an endpoint of the given types, for certain. -/
  | knownSink
  /-- The node is no endpoint, with high confidence. -/
  | notASink
  /-- The node is no endpoint, with medium confidence. -/
  | likelyNotASink
  /-- The node is not of the given types, with medium confidence. -/
  | standardFilter
deriving DecidableEq, Repr

namespace Family

def all : List Family := [.knownSink, .notASink, .likelyNotASink, .standardFilter]

def id : Family → String
  | .knownSink => "known_sink"
  | .notASink => "not_a_sink"
  | .likelyNotASink => "likely_not_a_sink"
  | .standardFilter => "standard_filter"

def needsTypes : Family → Bool
  | .knownSink | .standardFilter => true
  | .notASink | .likelyNotASink => false

/-- Whether a family speaks for its types, and not against them. -/
def isPositive : Family → Bool
  | .knownSink | .notASink | .likelyNotASink => true
  | .standardFilter => false

/-- How sure a family is of what it says. -/
def confidence : Family → Confidence
  | .knownSink => .maximal
  | .notASink => .high
  | .likelyNotASink | .standardFilter => .medium

/-- The types that a family speaks of: given ones or the negative class. -/
def targets {τ : Type} (family : Family) (negative : τ) (types : List τ) : List τ :=
  if family.needsTypes then types else [negative]

/-- What a characteristic of a family implies. -/
def implications (family : Family) (types : List EndpointType) : List Implication :=
  (family.targets .negative types).map fun t => ⟨t, family.isPositive, family.confidence⟩

end Family

/-- A named rule and what it implies for the nodes it applies to. -/
structure Characteristic where
  name : String
  family : Supplied Family
  implications : List Implication
  rule : Rule

namespace Characteristic

/-- Whether a characteristic implies evidence of at least the given confidence. -/
def implies (c : Characteristic) (type : EndpointType) (positive : Bool)
    (least : Confidence) : Bool :=
  c.implications.any fun i =>
    i.type == type && i.positive == positive && decide (least ≤ i.confidence)

def sameFamily : Supplied Family → Supplied Family → Bool
  | .expected f, .expected g => f == g
  | .other v, .other w => v.equals w
  | _, _ => false

def sameEvidence (c d : Characteristic) : Bool :=
  sameFamily c.family d.family && c.implications == d.implications

/-- Equality by name, family and implications; rules are not compared. -/
def equals (c d : Characteristic) : Bool :=
  c.name == d.name && c.sameEvidence d

/-- Why a characteristic cannot be made, or a list of them not be used. -/
inductive Fault where
  | emptyName
  | noTypes (name : String)
  | targetsNegative (name : String)
  /-- There is no such family; this shows what stands in its place. -/
  | unknownFamily (shown : String)
  | duplicate (name : String)
  /-- What stands in the place of a family cannot be shown. -/
  | unusable (cause : ValueFault)

def Fault.message : Fault → String
  | .emptyName => "Characteristic name must not be empty"
  | .noTypes name => "Characteristic " ++ name ++ " needs at least one endpoint type"
  | .targetsNegative name =>
      "Characteristic " ++ name ++ " cannot target the negative class directly"
  | .unknownFamily shown => "Unhandled characteristic family: " ++ shown
  | .duplicate name => "Duplicate characteristic: " ++ name
  | .unusable cause => cause.message

def make (name : String) (family : Supplied Family) (rule : Rule)
    (types : List EndpointType) : Except Fault Characteristic :=
  if name.isEmpty then .error .emptyName
  else
    match family with
    | .other v => do throw (.unknownFamily (← v.display.mapError .unusable))
    | .expected f =>
        if f.needsTypes && types.isEmpty then .error (.noTypes name)
        else if f.needsTypes && types.any (·.isNegative) then .error (.targetsNegative name)
        else .ok ⟨name, family, f.implications types, rule⟩

/-- A characteristic of a family, for a name and types that are known to be in order. -/
def ofFamily (name : String) (family : Family) (rule : Rule) (types : List EndpointType := []) :
    Characteristic :=
  ⟨name, .expected family, family.implications types, rule⟩

theorem make_eq_ofFamily {name : String} {family : Family} {rule : Rule}
    {types : List EndpointType} (hname : name.isEmpty = false)
    (htypes : family.needsTypes = true → types ≠ [] ∧ ∀ t ∈ types, t.isNegative = false) :
    make name (.expected family) rule types = .ok (ofFamily name family rule types) := by
  unfold make
  cases hneeds : family.needsTypes with
  | false => simp [hname, hneeds, ofFamily]
  | true =>
      obtain ⟨hne, hall⟩ := htypes hneeds
      have hempty : types.isEmpty = false := by simpa using hne
      have hany : types.any (·.isNegative) = false := by simpa using hall
      simp [hname, hneeds, hempty, hany, ofFamily]

/-- The names of characteristics must be distinct. -/
def validate (characteristics : List Characteristic) : Except Fault Unit :=
  match firstRepeat? [] (characteristics.map (·.name)) with
  | some name => .error (.duplicate name)
  | none => .ok ()

/-- The characteristics whose rule holds for a node, in order.  The first rule that fails decides
for all. -/
def applicable (n : Node) : List Characteristic → Except RuleFailure (List Characteristic)
  | [] => .ok []
  | c :: rest => do
      let holds ← c.rule n
      let others ← applicable n rest
      return if holds then c :: others else others

end Characteristic

end TaintTriage
