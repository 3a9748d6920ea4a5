import TaintTriage.NameSet
import TaintTriage.SourcePath
import TaintTriage.Value.Literal

/-!
Nodes of a data-flow graph.  The graph belongs to the analysis that built it: a node is only read
here.  Several fields are passed through as the document gave them, whatever they hold.
-/

namespace TaintTriage

/-- Where a node's code is: a path, or whatever else a document gave in its place. -/
inductive FileRef where
  | path (p : SourcePath)
  | other (v : Value)

namespace FileRef

/-- The reference that a document's value denotes: texts are paths. -/
def ofValue : Value → FileRef
  | .str s => .path (SourcePath.ofText s)
  | v => .other v

/-- The text of a reference that is given, none for one that is absent or does not count as
true. -/
def text? : FileRef → Except ValueFault (Option String)
  | .path p => .ok (some p.toText)
  | .other v => if v.isTruthy then some <$> v.display else .ok none

/-- The text of any reference, the absent one included. -/
def display : FileRef → Except ValueFault String
  | .path p => .ok p.toText
  | .other v => v.display

/-- Equality of references. -/
def equals : FileRef → FileRef → Bool
  | .path p, .path q => p == q
  | .other v, .other w => v.equals w
  | _, _ => false

end FileRef

/-- The fields of a node.  The types of the identity, the flags and the line are parameters,
because a node that a caller fills in by hand need not have them checked. -/
structure NodeRecord (Id Flag Line : Type) where
  id : Id
  kind : Value
  calleeName : Value
  receiverName : Value
  argumentIndex : Value
  isExternalCall : Flag
  flowsToExternalCall : Flag
  propertyName : Value
  stringValue : Value
  concatenationParts : List String
  isHtmlConcatenationLeaf : Flag
  isConstant : Flag
  knownSources : NameSet
  knownSinks : NameSet
  sanitizes : NameSet
  filePath : FileRef
  line : Line
  enclosingFunction : Value
  inTestFile : Flag

/-- A node of a graph.  `knownSources` and `knownSinks` hold the classes that an analysis without
boosting already assigns. -/
abbrev Node := NodeRecord String Bool Int

/-- A node as a caller filled it in: collections and path in normal form, all else unchecked. -/
abbrev UncheckedNode := NodeRecord Value Value Value

namespace NodeRecord

variable {Id Flag Line : Type}

/-- A node with its checked fields seen as values again. -/
def unchecked (n : Node) : UncheckedNode :=
  { n with
    id := .str n.id
    isExternalCall := .bool n.isExternalCall
    flowsToExternalCall := .bool n.flowsToExternalCall
    isHtmlConcatenationLeaf := .bool n.isHtmlConcatenationLeaf
    isConstant := .bool n.isConstant
    line := .int n.line
    inTestFile := .bool n.inTestFile }

def isArgument (n : NodeRecord Id Flag Line) : Bool :=
  n.kind.equals (.str "argument")

def isPropertyWrite (n : NodeRecord Id Flag Line) : Bool :=
  n.kind.equals (.str "property-write")

/-- The place of the node in the source. -/
def locationKey (n : UncheckedNode) : Except ValueFault String := do
  return (← n.filePath.display) ++ ":" ++ (← n.line.display)

/-- The fields of a node with their names, in the order in which they are written, and with what is
written for its file. -/
def fieldsWith (file : Value) (n : UncheckedNode) : List (String × Value) :=
  let names (s : NameSet) : Value := .texts s.names
  [("node_id", n.id),
   ("kind", n.kind),
   ("callee_name", n.calleeName),
   ("receiver_name", n.receiverName),
   ("argument_index", n.argumentIndex),
   ("is_external_call", n.isExternalCall),
   ("flows_to_external_call", n.flowsToExternalCall),
   ("property_name", n.propertyName),
   ("string_value", n.stringValue),
   ("concatenation_parts", .texts n.concatenationParts),
   ("is_html_concatenation_leaf", n.isHtmlConcatenationLeaf),
   ("is_constant", n.isConstant),
   ("known_sources", names n.knownSources),
   ("known_sinks", names n.knownSinks),
   ("sanitizes", names n.sanitizes),
   ("file_path", file),
   ("line", n.line),
   ("enclosing_function", n.enclosingFunction),
   ("in_test_file", n.inTestFile)]

/-- The fields of a node as they are written.  The file must have a text. -/
def fields (n : UncheckedNode) : Except ValueFault (List (String × Value)) := do
  let file ← n.filePath.text?
  return n.fieldsWith ((file.map Value.str).getD .null)

def toDocument (n : UncheckedNode) : Except ValueFault Value := do
  return .object (← n.fields)

/-- Equality of nodes, field by field. -/
def equals (n m : Node) : Bool :=
  n.id == m.id && n.kind.equals m.kind && n.calleeName.equals m.calleeName &&
    n.receiverName.equals m.receiverName && n.argumentIndex.equals m.argumentIndex &&
    n.isExternalCall == m.isExternalCall && n.flowsToExternalCall == m.flowsToExternalCall &&
    n.propertyName.equals m.propertyName && n.stringValue.equals m.stringValue &&
    n.concatenationParts == m.concatenationParts &&
    n.isHtmlConcatenationLeaf == m.isHtmlConcatenationLeaf && n.isConstant == m.isConstant &&
    n.knownSources == m.knownSources && n.knownSinks == m.knownSinks &&
    n.sanitizes == m.sanitizes && n.filePath.equals m.filePath && n.line == m.line &&
    n.enclosingFunction.equals m.enclosingFunction && n.inTestFile == m.inTestFile

end NodeRecord

end TaintTriage
