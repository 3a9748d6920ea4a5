import TaintTriage.Characteristic.Shipped

/-!
What the characteristics that apply to a node say together: the types that the node is known to
be of, the reasons to exclude it, and whether it is known to be of several types at once.
-/

namespace TaintTriage

open Characteristic

/-- A node that is known to be of several endpoint types.  It is reported beside the
classification and does not change it. -/
structure Ambiguity where
  nodeId : String
  typeNames : List String
deriving DecidableEq, Repr

/-- What stands between the names of types. -/
def Ambiguity.typeMark : String := ", "

def Ambiguity.wording (nodeId types : String) : String :=
  "Node " ++ nodeId ++ " is a known endpoint of several types: " ++ types

def Ambiguity.message (a : Ambiguity) : String :=
  wording a.nodeId (typeMark.intercalate a.typeNames)

def Ambiguity.suppliedMessage (nodeId : Value) (types : List Value) :
    Except ValueFault String := do
  let shown ← nodeId.display
  return wording shown (← Value.joined typeMark 0 types)

def Ambiguity.toDocument (a : Ambiguity) : Value :=
  .object [("node_id", .str a.nodeId), ("types", .texts a.typeNames)]

def implicationsOf (characteristics : List Characteristic) : List Implication :=
  characteristics.flatMap (·.implications)

/-- The types that the node is known to be of, without repeats, in the order in which types are
listed. -/
def knownTypes (n : Node) (characteristics : List Characteristic) :
    Except RuleFailure (List EndpointType) := do
  let applying ← applicable n characteristics
  return EndpointType.distinctListed
    (((implicationsOf applying).filter (·.isKnown)).map (·.type))

def isKnown (n : Node) (type : EndpointType) (characteristics : List Characteristic) :
    Except RuleFailure Bool := do
  return (← knownTypes n characteristics).contains type

/-- Whether some characteristic leaves no doubt that the node is of a relevant type. -/
def isKnownRelevant (relevant : List EndpointType) (applying : List Characteristic) : Bool :=
  (implicationsOf applying).any fun i => relevant.contains i.type && i.isKnown

/-- The names of the characteristics that speak against a type with medium confidence or more. -/
def opponents (applying : List Characteristic) (type : EndpointType) : List String :=
  (applying.filter fun c => c.implies type false .medium).map (·.name)

/-- The names of the characteristics that speak for the negative class. -/
def negativeReasons (applying : List Characteristic) : List String :=
  (applying.filter fun c => c.implies .negative true .medium).map (·.name)

/-- The names of the characteristics that speak against relevant types, provided that each relevant
type has some that speaks against it. -/
def filterReasons (relevant : List EndpointType) (applying : List Characteristic) :
    List String :=
  if !relevant.isEmpty && relevant.all fun t => !(opponents applying t).isEmpty then
    relevant.flatMap (opponents applying)
  else []

/-- The names of the characteristics that exclude the node, in increasing order without repeats.
A node that is known to be of a relevant type is never excluded. -/
def exclusionReasons (n : Node) (relevant : List EndpointType)
    (characteristics : List Characteristic) : Except RuleFailure (List String) := do
  let applying ← applicable n characteristics
  if isKnownRelevant relevant applying then return []
  return (NameSet.ofList (negativeReasons applying ++ filterReasons relevant applying)).names

def isExcluded (n : Node) (relevant : List EndpointType)
    (characteristics : List Characteristic) : Except RuleFailure Bool := do
  return !(← exclusionReasons n relevant characteristics).isEmpty

/-- The ambiguity of a node that is known to be of two types or more. -/
def findAmbiguity (n : Node) (characteristics : List Characteristic) :
    Except RuleFailure (Option Ambiguity) := do
  let types ← knownTypes n characteristics
  return if types.length < 2 then none else some ⟨n.id, types.map (·.name)⟩

end TaintTriage
