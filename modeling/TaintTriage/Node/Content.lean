import TaintTriage.Node
import TaintTriage.Value.Convert

/-!
The fields of a node by name, as rules that are written down as data see them.  Most fields hold
values; a path, the collections of names and what a node can do are things of their own, which
equal no value.
-/

namespace TaintTriage

/-- What a field of a node holds. -/
inductive FieldContent where
  | value (v : Value)
  | path (p : SourcePath)
  | names (s : NameSet)
  | parts (ps : List String)
  /-- What a node can do, which is known by a name as its fields are. -/
  | method

namespace FieldContent

/-- Whether what a field holds counts as true.  Every path and every method does. -/
def isTruthy : FieldContent → Bool
  | .value v => v.isTruthy
  | .path _ | .method => true
  | .names s => !s.isEmpty
  | .parts ps => !ps.isEmpty

def equals (wanted : Value) : FieldContent → Bool
  | .value v => wanted.isLike v
  | _ => false

/-- Whether something is in what a field holds. -/
def contains (wanted : Value) : FieldContent → Except ValueFault Bool
  | .value v => wanted.contains v
  | .path _ => .error (.notContainer .path)
  | .method => .error (.notContainer .method)
  | .names s => do
      wanted.requireSought
      return s.names.any fun name => wanted.equals (.str name)
  | .parts ps => .ok (ps.any fun part => wanted.equals (.str part))

def items : FieldContent → Except ValueFault (List Value)
  | .value v => v.items
  | .path _ => .error (.notIterable .path)
  | .method => .error (.notIterable .method)
  | .names s => .ok (s.names.map .str)
  | .parts ps => .ok (ps.map .str)

/-- The details that a field gives for labels: none if it holds nothing, one if it holds a text,
else its items. -/
def details : FieldContent → Except ValueFault (List Value)
  | .value .null => .ok []
  | .value (.str s) => .ok [.str s]
  | content => content.items

end FieldContent

/-- The names of what a node can do. -/
def methodNames : List String := ["to_dict", "from_dict"]

def NodeRecord.content (name : String) (n : Node) : Except ValueFault FieldContent :=
  match name with
  | "concatenation_parts" => .ok (.parts n.concatenationParts)
  | "known_sources" => .ok (.names n.knownSources)
  | "known_sinks" => .ok (.names n.knownSinks)
  | "sanitizes" => .ok (.names n.sanitizes)
  | "file_path" =>
      match n.filePath with
      | .path p => .ok (.path p)
      | .other v => .ok (.value v)
  | "is_argument" => .ok (.value (.bool n.isArgument))
  | "is_property_write" => .ok (.value (.bool n.isPropertyWrite))
  | "location_key" => do return .value (.str (← n.unchecked.locationKey))
  | _ =>
      match (n.unchecked.fieldsWith .null).lookup name with
      | some v => .ok (.value v)
      | none => if methodNames.contains name then .ok .method else .error (.noMember .node name)

def NodeRecord.contentOf (name : Value) (n : Node) : Except ValueFault FieldContent :=
  match name with
  | .str name => n.content name
  | v => .error (.notAttribute v.shape)

end TaintTriage
