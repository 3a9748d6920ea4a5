import TaintTriage.NameSet
import TaintTriage.Value.Convert
import TaintTriage.Value.Literal

/-!
Endpoint types.  A type carries the number under which scorers know it and the name of its kind;
number zero is the negative class, of everything that is no endpoint.  Numbers are compared by
value, so that `1` and `1.0` are the same encoding.
-/

namespace TaintTriage

/-- The number of an endpoint type as it was written. -/
inductive Encoding where
  | flag (b : Bool)
  | whole (n : Int)
  | double (x : Float)

namespace Encoding

instance (n : Nat) : OfNat Encoding n := ⟨.whole n⟩

def toValue : Encoding → Value
  | .flag b => .bool b
  | .whole n => .int n
  | .double x => .float x

def ofValue? : Value → Option Encoding
  | .bool b => some (.flag b)
  | .int n => some (.whole n)
  | .float x => some (.double x)
  | _ => none

/-- The number that an encoding stands for. -/
def magnitude : Encoding → Value.Magnitude
  | .flag b => .whole b.toInt
  | .whole n => .whole n
  | .double x => ((Value.float x).magnitude?).getD (.double x)

end Encoding

/-- An endpoint type. -/
structure EndpointType where
  name : String
  encoding : Encoding
  kind : String

namespace EndpointType

/-- What tells two endpoint types apart. -/
def identity (t : EndpointType) : String × Value.Magnitude × String :=
  (t.name, t.encoding.magnitude, t.kind)

instance : BEq EndpointType := ⟨fun t u => decide (t.identity = u.identity)⟩

theorem beq_iff {t u : EndpointType} : (t == u) = true ↔ t.identity = u.identity :=
  decide_eq_true_iff

instance : EquivBEq EndpointType where
  rfl := beq_iff.mpr rfl
  symm h := beq_iff.mpr (beq_iff.mp h).symm
  trans h₁ h₂ := beq_iff.mpr ((beq_iff.mp h₁).trans (beq_iff.mp h₂))

def isNegative (t : EndpointType) : Bool :=
  t.encoding.magnitude == .whole 0

/-- The order in which types are listed: by encoding, then by name, then by kind. -/
def listedBefore (t u : EndpointType) : Bool :=
  if t.encoding.magnitude = u.encoding.magnitude then
    if t.name = u.name then t.kind < u.kind else t.name < u.name
  else t.encoding.magnitude.isLess u.encoding.magnitude

/-- A type put at its place in a list, unless it is there already. -/
def insertListed (t : EndpointType) : List EndpointType → List EndpointType
  | [] => [t]
  | head :: tail =>
      if t == head then head :: tail
      else if t.listedBefore head then t :: head :: tail
      else head :: insertListed t tail

/-- The distinct types of a list, in the order in which types are listed. -/
def distinctListed (types : List EndpointType) : List EndpointType :=
  types.foldl (fun listed t => insertListed t listed) []

/-- Of everything that is no endpoint. -/
def negative : EndpointType := ⟨"NegativeType", 0, ""⟩
/-- Where a SQL query is run. -/
def sqlInjectionSink : EndpointType := ⟨"SqlInjectionSinkType", 1, "sql-injection-sink"⟩
/-- Where a query object is handed to a database. -/
def nosqlInjectionSink : EndpointType := ⟨"NosqlInjectionSinkType", 2, "nosql-injection-sink"⟩
/-- Where text becomes part of a page. -/
def xssSink : EndpointType := ⟨"XssSinkType", 3, "xss-sink"⟩
/-- Where a path of the file system is opened. -/
def taintedPathSink : EndpointType := ⟨"TaintedPathSinkType", 4, "tainted-path-sink"⟩
/-- Where a command line is run. -/
def shellCommandInjectionSink : EndpointType :=
  ⟨"ShellCommandInjectionSinkType", 5, "shell-command-injection-sink"⟩

/-- The shipped types by increasing encoding.  New types come last. -/
def shipped : List EndpointType :=
  [negative, sqlInjectionSink, nosqlInjectionSink, xssSink, taintedPathSink,
   shellCommandInjectionSink]

def shippedPositive : List EndpointType :=
  shipped.filter fun t => !t.isNegative

/-- An entry of a catalog as a caller filled it in. -/
structure CatalogEntry where
  name : Value
  encoding : Value
  kind : Value

def toEntry (t : EndpointType) : CatalogEntry :=
  ⟨.str t.name, t.encoding.toValue, .str t.kind⟩

namespace CatalogEntry

/-- The type that an entry is, if its name and its kind are texts and its encoding is a number. -/
def type? (e : CatalogEntry) : Option EndpointType :=
  match e.name, Encoding.ofValue? e.encoding, e.kind with
  | .str name, some encoding, .str kind => some ⟨name, encoding, kind⟩
  | _, _, _ => none

def toValue (e : CatalogEntry) : Value :=
  .object [("name", e.name), ("encoding", e.encoding), ("kind", e.kind)]

/-- An entry as it is shown inside messages. -/
def literal (e : CatalogEntry) : Except ValueFault String := do
  let name ← e.name.literal
  let encoding ← e.encoding.literal
  let kind ← e.kind.literal
  return "EndpointType(name=" ++ name ++ ", encoding=" ++ encoding ++ ", kind=" ++ kind ++ ")"

/-- Equality of entries, part by part. -/
def equals (e f : CatalogEntry) : Bool :=
  e.name.equals f.name && e.encoding.equals f.encoding && e.kind.equals f.kind

/-- Refuses an entry with a part that cannot be in a set. -/
def requireHashable (e : CatalogEntry) : Except ValueFault Unit := do
  e.name.requireHashable
  e.encoding.requireHashable
  e.kind.requireHashable

def isNegative (e : CatalogEntry) : Bool :=
  e.encoding.isLike (.int 0)

/-- The text that shows an entry: its name, which must be a text for that. -/
def shown (e : CatalogEntry) : Except ValueFault String :=
  match e.name with
  | .str name => .ok name
  | v => .error (.textNotText v.shape)

end CatalogEntry

/-- Why a list of types is no catalog. -/
inductive CatalogFault where
  | duplicateName (name : Value)
  | duplicateEncoding (encoding name : Value)
  | negativeEncoding (name encoding : Value)
  | noKind (name : Value)
  | negativeClasses (count : Nat)
  /-- A name or an encoding cannot be compared with others, or what is refused cannot be shown. -/
  | unusable (cause : ValueFault)

def CatalogFault.message : CatalogFault → Except ValueFault String
  | .duplicateName name => do return "Duplicate endpoint type name: " ++ (← name.display)
  | .duplicateEncoding encoding name => do
      let shown ← encoding.display
      return "Duplicate endpoint encoding " ++ shown ++ " (" ++ (← name.display) ++ ")"
  | .negativeEncoding name encoding => do
      let shown ← name.display
      return "Negative encoding for " ++ shown ++ ": " ++ (← encoding.display)
  | .noKind name => do return "Endpoint type " ++ (← name.display) ++ " has no kind"
  | .negativeClasses count =>
      .ok ("Catalog must contain exactly one negative class, found " ++ toString count)
  | .unusable cause => .ok cause.message

def CatalogFault.raised (fault : CatalogFault) : CatalogFault :=
  Value.reported fault.message .unusable fault

def isAmong (v : Value) (others : List Value) : Except CatalogFault Bool := do
  v.requireSought.mapError .unusable
  return others.any v.equals

/-- Check the entries of a catalog from left to right against those already seen, which are kept in
sets; the result is the number of negative classes. -/
def checkCatalog (names encodings : List Value) (negatives : Nat) :
    List CatalogEntry → Except CatalogFault Nat
  | [] => .ok negatives
  | e :: rest => do
      if ← isAmong e.name names then throw (CatalogFault.duplicateName e.name).raised
      if ← isAmong e.encoding encodings then
        throw (CatalogFault.duplicateEncoding e.encoding e.name).raised
      if ← (e.encoding.isLess (.int 0)).mapError .unusable then
        throw (CatalogFault.negativeEncoding e.name e.encoding).raised
      if !e.isNegative && !e.kind.isTruthy then throw (CatalogFault.noKind e.name).raised
      e.name.requireHashable.mapError .unusable
      e.encoding.requireHashable.mapError .unusable
      checkCatalog (e.name :: names) (e.encoding :: encodings)
        (if e.isNegative then negatives + 1 else negatives) rest

/-- The entries of a catalog have distinct names, distinct encodings of which none is below zero, a
kind for every endpoint and exactly one negative class. -/
def validateEntries (entries : List CatalogEntry) : Except CatalogFault Unit := do
  let negatives ← checkCatalog [] [] 0 entries
  if negatives = 1 then .ok () else .error (.negativeClasses negatives)

def validateCatalog (types : List EndpointType) : Except CatalogFault Unit :=
  validateEntries (types.map toEntry)

/-- The type with an encoding; of several the last. -/
def forEncoding? (types : List EndpointType) (encoding : Value.Magnitude) :
    Option EndpointType :=
  types.reverse.find? (·.encoding.magnitude == encoding)

/-- The endpoint with a kind; of several the last. -/
def forKind? (types : List EndpointType) (kind : String) : Option EndpointType :=
  (types.filter fun t => !t.isNegative).reverse.find? (·.kind == kind)

/-- The version of the list of shipped types. -/
def catalogVersion : String := "1.0.0"

example : (validateCatalog shipped).isOk = true := by decide +kernel

end EndpointType

end TaintTriage
