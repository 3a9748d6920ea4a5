import TaintTriage.Snapshot
import TaintTriage.Text.Utf8
import TaintTriage.Yaml.Unfold

/-!
Snapshots as documents: a mapping with a list of `nodes` and a list of `steps`.  Reading takes the
nodes first, then the steps, and looks for repeated ids last; the tags of several steps between
the same two nodes are united, and a step without tags has the tag for every query.  A file holds
a document in YAML or JSON; an empty one describes an empty graph.
-/

namespace TaintTriage

/-- The tag of a step, and the class of a sanitizer, that every query accepts. -/
def anyClass : String := "*"

namespace Snapshot

def toDocument (g : Snapshot) : Except ValueFault Value := do
  let step (entry : (String × String) × NameSet) : Value :=
    .map [(.str "from", .str entry.1.1), (.str "to", .str entry.1.2),
      (.str "tags", .texts entry.2.names)]
  let nodes ← g.nodes.mapM fun n => n.unchecked.toDocument
  return .map [(.str "nodes", .list nodes), (.str "steps", .list (g.steps.entries.map step))]

/-- One end of a step: the text of the named part. -/
def stepEnd (entry : Value) (field : String) : Except SnapshotFault String :=
  match entry.named field with
  | .ok v => v.display.mapError .unusable
  | .error (.missingKey _) => .error (.missingEnd field)
  | .error cause => .error (.unusable cause)

def stepTagsOf (entry : Value) : Except SnapshotFault NameSet :=
  match entry.opened with
  | .map entries =>
      (namesOf ((Value.field? entries "tags").getD (.list [.str anyClass]))).mapError .unusable
  | _ => .error (.unusable (.noMember entry.shape "get"))

def readStep (table : StepTable) (entry : Value) : Except SnapshotFault StepTable := do
  let source ← stepEnd entry "from"
  let target ← stepEnd entry "to"
  let tags ← stepTagsOf entry
  return table.add (source, target) tags

/-- The items of a field of the document; there are none if the field is absent. -/
def itemsOf (entries : List (Value × Value)) (field : String) :
    Except SnapshotFault (List Value) :=
  ((Value.field? entries field).getD (.list [])).items.mapError .unusable

def ofDocument (document : Value) : Except SnapshotFault Snapshot :=
  match document.opened with
  | .map entries => do
      let nodes ← (← itemsOf entries "nodes").mapM NodeRecord.ofDocument
      let steps ← (← itemsOf entries "steps").foldlM readStep StepTable.empty
      ofNodes nodes steps
  | _ => .error .notMapping

/-- The fault of a file whose text cannot be read. -/
def faultOfText (path : String) : Yaml.Fault → SnapshotFault
  | .malformed => .malformed path
  | .unfit cause => .unusable cause

/-- The snapshot in the file at a path, given the bytes of the file if there is one.  A file is
decoded and checked for characters while it is read: if its bytes are no text or hold a character
that may not stand in a document, `ahead` is the fault of the text in front of them that shows
first, if there is one. -/
def ofFile (path : String) (bytes : Option (List Nat)) (ahead : Option Yaml.Fault) :
    Except SnapshotFault Snapshot := do
  match bytes with
  | none => throw (.notFound path)
  | some bytes =>
      let early := ahead.map (faultOfText path)
      let text ← (Text.decodeUtf8 bytes).mapError fun f => early.getD (.notText f.message)
      if !text.toList.all Yaml.isAllowed then throw (early.getD (.malformed path))
      let document ← (Yaml.readOrEmpty text).mapError (faultOfText path)
      ofDocument document

/-- Equality of snapshots: equal nodes in the same order. -/
def nodesEqual (g h : Snapshot) : Bool :=
  g.nodes.length == h.nodes.length &&
    (g.nodes.zip h.nodes).all fun (n, m) => n.equals m

end Snapshot

end TaintTriage
