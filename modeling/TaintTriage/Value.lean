import TaintTriage.Decimal.Dyadic
import TaintTriage.Moment

/-!
Loosely typed values, as documents and callers supply them: the trees of JSON, with integers of
any size apart from doubles and with mappings that keep their order, and what else a document can
hold.  Keys of a mapping are values too, since documents may use numbers as keys.

A document may name a collection that it is still inside of.  Such a collection has a label, and
references by that label stand for it where it is met again.  `opened` puts the collection in for
them, so that what is asked for in it is never a reference.
-/

namespace TaintTriage

/-- A loosely typed value. -/
inductive Value where
  | null
  | bool (b : Bool)
  | int (n : Int)
  | float (x : Float)
  | str (s : String)
  | bytes (content : List UInt8)
  | day (d : Day)
  | moment (m : Moment)
  | list (items : List Value)
  /-- A collection without order and repeats. -/
  | set (members : List Value)
  | pair (first second : Value)
  | map (entries : List (Value × Value))
  /-- A collection that can be met again inside itself. -/
  | loop (label : Nat) (body : Value)
  /-- The enclosing collection with a label. -/
  | again (label : Nat)
deriving Inhabited

namespace Value

/-- The shapes of values, as error texts tell them apart, and of other things that can be found
where a value is used: paths, nodes and what they can do, levels of confidence and loggers. -/
inductive Shape where
  | null | bool | int | float | str | bytes | day | moment | list | set | pair | map
  | path | node | method | confidence | logger | channel
deriving DecidableEq, Repr

def shape : Value → Shape
  | .null => .null
  | .bool _ => .bool
  | .int _ => .int
  | .float _ => .float
  | .str _ => .str
  | .bytes _ => .bytes
  | .day _ => .day
  | .moment _ => .moment
  | .list _ => .list
  | .set _ => .set
  | .pair _ _ => .pair
  | .map _ => .map
  | .loop _ body => body.shape
  | .again _ => .list

def Shape.word : Shape → String
  | .null => "NoneType"
  | .bool => "bool"
  | .int => "int"
  | .float => "float"
  | .str => "str"
  | .bytes => "bytes"
  | .day => "datetime.date"
  | .moment => "datetime.datetime"
  | .list => "list"
  | .set => "set"
  | .pair => "tuple"
  | .map => "dict"
  | .path => "PosixPath"
  | .node => "DataFlowNode"
  | .method => "method"
  | .confidence => "Confidence"
  | .logger => "ComponentLogger"
  | .channel => "Logger"

mutual

/-- A value with another one put in for the references to a label. -/
def putIn (label : Nat) (whole : Value) : Value → Value
  | .again l => if l = label then whole else .again l
  | .list items => .list (putInItems label whole items)
  | .pair a b => .pair (putIn label whole a) (putIn label whole b)
  | .map entries => .map (putInEntries label whole entries)
  | .loop l body => if l = label then .loop l body else .loop l (putIn label whole body)
  | v => v

def putInItems (label : Nat) (whole : Value) : List Value → List Value
  | [] => []
  | v :: rest => putIn label whole v :: putInItems label whole rest

def putInEntries (label : Nat) (whole : Value) : List (Value × Value) → List (Value × Value)
  | [] => []
  | (k, v) :: rest => (k, putIn label whole v) :: putInEntries label whole rest

end

/-- A value as it is looked into: a collection with a label is put in where it is met again. -/
def opened : Value → Value
  | .loop label body => putIn label (.loop label body) body
  | v => v

/-- The number that a value stands for, in a form that does not depend on its spelling: `true`,
`1` and `1.0` all stand for one.  Doubles without an integral value stay what they are. -/
inductive Magnitude where
  | whole (n : Int)
  | double (x : Float)
deriving DecidableEq

/-- The number that a value stands for, if it is one. -/
def magnitude? : Value → Option Magnitude
  | .bool b => some (.whole b.toInt)
  | .int n => some (.whole n)
  | .float x =>
      match DoubleKind.of x with
      | .finite d => some (if d.isWhole then .whole d.truncate else .double x)
      | _ => some (.double x)
  | _ => none

/-- Empty, zero and false values do not count as true. -/
def isTruthy : Value → Bool
  | .null => false
  | .bool b => b
  | .int n => n != 0
  | .float x => DoubleKind.of x != .finite ⟨false, 0, -1074⟩ &&
      DoubleKind.of x != .finite ⟨true, 0, -1074⟩
  | .str s => !s.isEmpty
  | .bytes content => !content.isEmpty
  | .list items => !items.isEmpty
  | .set members => !members.isEmpty
  | .map entries => !entries.isEmpty
  | .loop _ body => body.isTruthy
  | .day _ | .moment _ | .pair _ _ | .again _ => true

mutual

/-- Equality of values.  Numbers and moments are compared by what they stand for, and the order of
the members of a set and of a mapping's entries does not count. -/
def equals : Value → Value → Bool
  | .null, .null => true
  | .bool b, w => w.magnitude? == some (.whole b.toInt)
  | .int n, w => w.magnitude? == some (.whole n)
  | .float x, w => w.magnitude? == (Value.float x).magnitude?
  | .str s, .str t => s == t
  | .bytes s, .bytes t => s == t
  | .day d, .day e => d == e
  | .moment m, .moment n => m.isSame n
  | .list xs, .list ys => equalItems xs ys
  | .set xs, .set ys => xs.length == ys.length && equalMembers xs ys
  | .pair a b, .pair c d => equals a c && equals b d
  | .map es, .map fs => es.length == fs.length && equalEntries es fs
  | .loop l _, .loop m _ => l == m
  | .again l, .again m => l == m
  | _, _ => false
termination_by structural v => v

def equalItems : List Value → List Value → Bool
  | [], [] => true
  | x :: xs, y :: ys => equals x y && equalItems xs ys
  | _, _ => false

/-- Whether every member of the first set is in the second. -/
def equalMembers : List Value → List Value → Bool
  | [], _ => true
  | x :: xs, ys => ys.any (fun y => equals x y) && equalMembers xs ys

/-- Whether every entry of the first mapping has an equal one in the second. -/
def equalEntries : List (Value × Value) → List (Value × Value) → Bool
  | [], _ => true
  | (k, v) :: es, fs => fs.any (fun (k', v') => equals k k' && equals v v') && equalEntries es fs

end

@[simp] theorem equals_str_iff {v : Value} {s : String} :
    v.equals (.str s) = true ↔ v = .str s := by
  cases v with
  | float x =>
      simp only [equals, magnitude?]
      split <;> simp
  | _ => simp [equals, magnitude?]

/-- Whether a value can be the member of a set or a key. -/
def isHashable : Value → Bool
  | .list _ | .set _ | .map _ | .loop _ _ | .again _ => false
  | .pair a b => a.isHashable && b.isHashable
  | _ => true

def isNotANumber : Value → Bool
  | .float x => DoubleKind.of x == .notANumber
  | _ => false

/-- Whether two values compare as equal.  The double that is no number does not compare as equal to
itself, though collections that hold it do. -/
def isLike (v w : Value) : Bool :=
  !v.isNotANumber && v.equals w

/-- A mapping of named values. -/
def object (fields : List (String × Value)) : Value :=
  .map (fields.map fun (name, v) => (.str name, v))

def texts (items : List String) : Value := .list (items.map .str)

/-- The value under a key of an ordered mapping, if the key is there. -/
def find? (entries : List (Value × Value)) (key : Value) : Option Value :=
  (entries.find? fun entry => key.equals entry.1).map (·.2)

/-- The value under a text key of an ordered mapping. -/
def field? (entries : List (Value × Value)) (key : String) : Option Value :=
  (entries.find? fun entry =>
    match entry.1 with
    | .str k => k == key
    | _ => false).map (·.2)

/-- An ordered mapping with a key set: an old key keeps its place, a new one comes last. -/
def insert {α : Type} (entries : List (Value × α)) (key : Value) (value : α) :
    List (Value × α) :=
  if entries.any fun entry => key.equals entry.1 then
    entries.map fun entry => if key.equals entry.1 then (entry.1, value) else entry
  else entries ++ [(key, value)]

/-- Build an ordered mapping from entries in which the last of several equal keys wins. -/
def ofEntries (entries : List (Value × Value)) : Value :=
  .map (entries.foldl (fun built entry => insert built entry.1 entry.2) [])

example : (Value.bool true).equals (.float 1.0) = true := by decide
example : (Value.map [(.int 1, .null)]).equals (.map [(.bool true, .null)]) = true := by decide

end Value

/-- What a caller supplied where an `α` is expected. -/
inductive Supplied (α : Type) where
  | expected (a : α)
  | other (v : Value)

def Supplied.expected? {α : Type} : Supplied α → Option α
  | .expected a => some a
  | .other _ => none

end TaintTriage
