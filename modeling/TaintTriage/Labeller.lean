import TaintTriage.Evidence
import TaintTriage.Repeat

/-!
Labels: readable facts about nodes, for audits.  Every labeller owns a range, and all labels it
gives are the range, a colon and a detail.  A range holds no colon, so the part of a label before
its first colon tells who owns it, whatever stands in the detail.  The details of a labeller may be
written down as data: they are the same for every node, or what a field of the node holds.
-/

namespace TaintTriage

/-- What stands between a range and a detail. -/
def labelSeparator : Char := ':'

/-- A rule that gives details about nodes inside a range of its own. -/
structure Labeller where
  range : String
  emit : Node → Except RuleFailure (List Value)
  description : String := ""
  range_ne_empty : range.isEmpty = false
  separator_not_mem : labelSeparator ∉ range.toList

namespace Labeller

/-- Why a labeller or a registry cannot be made. -/
inductive Fault where
  | emptyRange
  /-- The separator stands in a range, which this shows. -/
  | separatorInRange (shown : String)
  | duplicateRange (range : String)
  /-- The range is no text. -/
  | unusable (cause : ValueFault)

def Fault.message : Fault → String
  | .emptyRange => "Labeller range must not be empty"
  | .separatorInRange shown =>
      "Labeller range " ++ shown ++ " must not contain " ++
        Text.quoted (String.singleton labelSeparator)
  | .duplicateRange range => "Duplicate labeller range: " ++ range
  | .unusable cause => cause.message

def make (range : String) (emit : Node → Except RuleFailure (List Value))
    (description : String) : Except Fault Labeller :=
  if hempty : range.isEmpty = false then
    if hmem : labelSeparator ∉ range.toList then .ok ⟨range, emit, description, hempty, hmem⟩
    else .error (.separatorInRange (Text.quoted range))
  else .error .emptyRange

/-- Make a labeller with a range as it was supplied.  Only a text can be told apart from other
ranges. -/
def makeSupplied (range : Value) (emit : Node → Except RuleFailure (List Value))
    (description : String) : Except Fault Labeller :=
  match range with
  | .str range => make range emit description
  | v => do
      if !v.isTruthy then throw .emptyRange
      if ← (Value.contains (.str (String.singleton labelSeparator)) v).mapError .unusable then
        throw (.separatorInRange (← v.literal.mapError .unusable))
      throw (.unusable (.unhashable v.unhashableShape))

/-- What every label of the labeller begins with. -/
def head (l : Labeller) : String :=
  l.range ++ String.singleton labelSeparator

/-- The labels of a node, in increasing order without repeats.  Details that do not count as true
give no label, and all others must have a text. -/
def label (l : Labeller) (n : Node) : Except RuleFailure (List String) := do
  let details ← l.emit n
  let shown ← orFail ((details.filter Value.isTruthy).mapM Value.display)
  return (NameSet.ofList (shown.map fun detail => l.head ++ detail)).names

/-- Whether a label lies in the labeller's range. -/
def owns (l : Labeller) (label : String) : Bool :=
  l.head.toList.isPrefixOf label.toList

end Labeller

/-- Labellers with distinct ranges. -/
structure LabellerRegistry where
  labellers : List Labeller
  distinct : (labellers.map (·.range)).Nodup

namespace LabellerRegistry

def ofList (labellers : List Labeller) : Except Labeller.Fault LabellerRegistry :=
  match h : firstRepeat? [] (labellers.map (·.range)) with
  | some range => .error (.duplicateRange range)
  | none => .ok ⟨labellers, (firstRepeat?_eq_none.mp h).1⟩

def ranges (r : LabellerRegistry) : List String :=
  r.labellers.map (·.range)

def labelsByLabeller (r : LabellerRegistry) (n : Node) :
    Except RuleFailure (List (List String)) :=
  r.labellers.mapM (·.label n)

/-- All labels of the node, in increasing order without repeats. -/
def labelsFor (r : LabellerRegistry) (n : Node) : Except RuleFailure (List String) := do
  return (NameSet.ofList (← r.labelsByLabeller n).flatten).names

/-- The part of a label before its first separator, if it has one. -/
def rangeOf? (label : String) : Option String :=
  if labelSeparator ∈ label.toList then
    some (String.ofList (label.toList.takeWhile (· != labelSeparator)))
  else none

/-- The labeller whose range a label lies in. -/
def ownerOf? (r : LabellerRegistry) (label : String) : Option Labeller :=
  (rangeOf? label).bind fun range => r.labellers.find? (·.range == range)

/-- The ids of the nodes that carry a label, in graph order. -/
def nodesWithLabel (r : LabellerRegistry) (label : String) (nodes : List Node) :
    Except RuleFailure (List String) := do
  match r.ownerOf? label with
  | none => return []
  | some l =>
      let carrying ← nodes.filterM fun n => do return (← l.label n).contains label
      return carrying.map (·.id)

/-- The range of labels that name applicable characteristics. -/
def characteristicRange : String := "characteristic"

/-- The names of the shared characteristics that apply. -/
def characteristicDetails (n : Node) : Except RuleFailure (List Value) := do
  return (← Characteristic.applicable n Characteristic.shipped).map fun c => .str c.name

/-- The classes that an analysis without boosting assigns. -/
def knownDetails (n : Node) : List Value :=
  (n.knownSources.names.map fun c => .str ("source-" ++ c)) ++
    n.knownSinks.names.map fun c => .str ("sink-" ++ c)

/-- A detail with a name behind a mark.  There is none for a name that does not count as true. -/
def namedDetails (mark : String) (name : Value) : Except RuleFailure (List Value) :=
  if name.isTruthy then do return [.str (mark ++ (← orFail name.display))] else .ok []

/-- Where the node stands in the graph. -/
def structureDetails (n : Node) : Except RuleFailure (List Value) := do
  let callee ← if n.isArgument then namedDetails "argument-of-" n.calleeName else pure []
  let property ←
    if n.isPropertyWrite then namedDetails "property-write-" n.propertyName else pure []
  return (if n.isArgument && n.isExternalCall then [.str "external-call-argument"] else []) ++
    (if n.flowsToExternalCall then [.str "flows-to-external-call"] else []) ++
    callee ++ property ++ (if n.isConstant then [.str "constant"] else [])

/-- The classes of the sanitizers that were applied. -/
def sanitizerDetails (n : Node) : List Value :=
  n.sanitizes.names.map .str

def shipped : LabellerRegistry where
  labellers :=
    [⟨characteristicRange, characteristicDetails, "Applicable characteristics",
        by decide +kernel, by decide +kernel⟩,
     ⟨"known", fun n => .ok (knownDetails n), "Classes assigned by the base classifiers",
        by decide +kernel, by decide +kernel⟩,
     ⟨"structure", structureDetails, "Structural position in the graph",
        by decide +kernel, by decide +kernel⟩,
     ⟨"sanitizer", fun n => .ok (sanitizerDetails n), "Sanitizer classes applied to the value",
        by decide +kernel, by decide +kernel⟩]
  distinct := by simp [characteristicRange]

end LabellerRegistry

/-- The details of a labeller, written down as data. -/
inductive DetailTerm where
  /-- The items of a value. -/
  | given (v : Value)
  /-- What a field holds. -/
  | field (name : Value)

namespace DetailTerm

def details : DetailTerm → Node → Except RuleFailure (List Value)
  | .given v, _ => orFail v.items
  | .field name, n => do orFail (← orFail (n.contentOf name)).details

end DetailTerm

end TaintTriage
