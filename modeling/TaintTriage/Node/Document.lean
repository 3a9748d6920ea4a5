import TaintTriage.Node
import TaintTriage.Value.Convert

/-!
Reading nodes.  `Node.ofDocument` reads an entry of a graph document: flags are judged by truth,
the line is converted to an integer, collections of names may be a single text.
`UncheckedNode.build` takes the fields from a caller and puts only collections and path into
normal form; both agree on fields that are well typed.
-/

namespace TaintTriage

/-- What a graph document can have wrong. -/
inductive SnapshotFault where
  /-- The root is no mapping. -/
  | notMapping
  /-- An entry has no node id. -/
  | missingNodeId (entry : Value)
  /-- A field of the node with this id cannot be converted. -/
  | invalidField (id : Value) (cause : ValueFault)
  /-- Two nodes have this id. -/
  | duplicateNode (id : String)
  /-- A flow step lacks an end. -/
  | missingEnd (field : String)
  /-- A part of the document has a shape that cannot be gone through at all. -/
  | unusable (cause : ValueFault)
  /-- There is no document. -/
  | notFound (path : String)
  /-- The text is no single document. -/
  | malformed (path : String)
  /-- The bytes are no text. -/
  | notText (cause : String)

def SnapshotFault.message : SnapshotFault → Except ValueFault String
  | .notMapping => .ok "Graph snapshot must be a mapping"
  | .missingNodeId entry => do return "Node entry without node_id: " ++ (← entry.literal)
  | .invalidField id cause => do
      return "Invalid field in node " ++ (← id.literal) ++ ": " ++ cause.message
  | .duplicateNode id => .ok ("Duplicate node id: " ++ id)
  | .missingEnd field => .ok ("Flow step missing field " ++ Text.quoted field)
  | .unusable cause => .ok cause.message
  | .notFound path => .ok ("Snapshot not found: " ++ path)
  | .malformed path => .ok ("Invalid snapshot document " ++ path)
  | .notText cause => .ok cause

def SnapshotFault.raised (fault : SnapshotFault) : SnapshotFault :=
  Value.reported fault.message .unusable fault

/-- The set of names that a value gives: nothing for a value that does not count as true, itself
for a text, else the texts of its items. -/
def namesOf (v : Value) : Except ValueFault NameSet :=
  if !v.isTruthy then .ok .empty
  else
    match v with
    | .str s => .ok (.ofList [s])
    | _ => do return .ofList (← (← v.items).mapM Value.display)

/-- The list of texts that a value gives: nothing for an absent value, itself for a text, else the
texts of its items. -/
def partsOf : Value → Except ValueFault (List String)
  | .null => .ok []
  | .str s => .ok [s]
  | v => do (← v.items).mapM Value.display

namespace NodeRecord

/-- The fields of an entry that need a conversion, converted. -/
def convert (entries : List (Value × Value)) (id : Value) : Except ValueFault Node := do
  let field (name : String) : Value := (Value.field? entries name).getD .null
  let flag (name : String) : Bool := (field name).isTruthy
  let shownId ← id.display
  let parts ← partsOf (field "concatenation_parts")
  let sources ← namesOf (field "known_sources")
  let sinks ← namesOf (field "known_sinks")
  let sanitizers ← namesOf (field "sanitizes")
  let line ← ((Value.field? entries "line").getD (.int 0)).toInt
  return {
    id := shownId
    kind := (Value.field? entries "kind").getD (.str "argument")
    calleeName := field "callee_name"
    receiverName := field "receiver_name"
    argumentIndex := field "argument_index"
    isExternalCall := flag "is_external_call"
    flowsToExternalCall := flag "flows_to_external_call"
    propertyName := field "property_name"
    stringValue := field "string_value"
    concatenationParts := parts
    isHtmlConcatenationLeaf := flag "is_html_concatenation_leaf"
    isConstant := flag "is_constant"
    knownSources := sources
    knownSinks := sinks
    sanitizes := sanitizers
    filePath := .ofValue (field "file_path")
    line := line
    enclosingFunction := field "enclosing_function"
    inTestFile := flag "in_test_file" }

/-- Read an entry of a document.  Faults of shape and content in a field are reported with the
node's id, if that can be shown; an infinite line and an entry that only seems to have an id are
not. -/
def ofDocument (entry : Value) : Except SnapshotFault Node :=
  match (Value.str "node_id").contains entry with
  | .error cause => .error (.unusable cause)
  | .ok false => .error (SnapshotFault.missingNodeId entry).raised
  | .ok true =>
      match entry.opened, entry.named "node_id" with
      | .map entries, .ok id =>
          match convert entries id with
          | .ok n => .ok n
          | .error cause =>
              match cause.category with
              | .shape | .content => .error (SnapshotFault.invalidField id cause).raised
              | _ => .error (.unusable cause)
      | _, .error cause => .error (.unusable cause)
      | _, .ok _ => .error (SnapshotFault.missingNodeId entry).raised

def fieldNames : List String :=
  ["node_id", "kind", "callee_name", "receiver_name", "argument_index", "is_external_call",
   "flows_to_external_call", "property_name", "string_value", "concatenation_parts",
   "is_html_concatenation_leaf", "is_constant", "known_sources", "known_sinks", "sanitizes",
   "file_path", "line", "enclosing_function", "in_test_file"]

/-- Why a caller's fields do not make a node. -/
inductive BuildFault where
  /-- A field that nodes do not have. -/
  | unknownField (name : String)
  /-- The id is not given. -/
  | noId
  /-- A collection cannot be gone through. -/
  | badCollection (cause : ValueFault)

def BuildFault.message : BuildFault → String
  | .unknownField name =>
      "DataFlowNode.__init__() got an unexpected keyword argument '" ++ name ++ "'"
  | .noId => "DataFlowNode.__init__() missing 1 required positional argument: 'node_id'"
  | .badCollection cause => cause.message

/-- A caller's fields as a node, with collections and path in normal form. -/
def build (given : List (String × Value)) : Except BuildFault UncheckedNode := do
  if let some (name, _) := given.find? fun (name, _) => !fieldNames.contains name then
    throw (.unknownField name)
  let some id := given.lookup "node_id" | throw .noId
  let field (name : String) (absent : Value) : Value := (given.lookup name).getD absent
  let collection {α : Type} (read : Value → Except ValueFault α) (name : String) :
      Except BuildFault α :=
    (read (field name .null)).mapError .badCollection
  let sources ← collection namesOf "known_sources"
  let sinks ← collection namesOf "known_sinks"
  let sanitizers ← collection namesOf "sanitizes"
  let parts ← collection partsOf "concatenation_parts"
  return {
    id := id
    kind := field "kind" (.str "argument")
    calleeName := field "callee_name" .null
    receiverName := field "receiver_name" .null
    argumentIndex := field "argument_index" .null
    isExternalCall := field "is_external_call" (.bool false)
    flowsToExternalCall := field "flows_to_external_call" (.bool false)
    propertyName := field "property_name" .null
    stringValue := field "string_value" .null
    concatenationParts := parts
    isHtmlConcatenationLeaf := field "is_html_concatenation_leaf" (.bool false)
    isConstant := field "is_constant" (.bool false)
    knownSources := sources
    knownSinks := sinks
    sanitizes := sanitizers
    filePath := .ofValue (field "file_path" .null)
    line := field "line" (.int 0)
    enclosingFunction := field "enclosing_function" .null
    inTestFile := field "in_test_file" (.bool false) }

end NodeRecord

end TaintTriage
