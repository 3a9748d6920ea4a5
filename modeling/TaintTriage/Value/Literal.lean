import TaintTriage.Decimal.Read
import TaintTriage.Decimal.Text
import TaintTriage.Value.Fault

/-!
The text of values.  `literal` shows a value so that its shape can be told: texts are quoted and
doubles have a point, and a collection inside itself is shown by dots.  `display` shows texts and
times as they are and everything else by its literal.  A value with an integer of too many digits
in it cannot be shown.
-/

namespace TaintTriage.Value

/-- What stands for a collection inside itself. -/
def dots : Shape → String
  | .map => "\x7b...\x7d"
  | .set => "set(...)"
  | _ => "[...]"

/-- Whether an integer has no more digits than are read. -/
@[irreducible] def isShortInteger (n : Int) : Bool := n.natAbs < Nat.pow 10 maxIntegerDigits

def integerText (n : Int) : Except ValueFault String :=
  if isShortInteger n then .ok (toString n) else .error .unwrittenInteger

mutual

/-- A value as it is shown inside collections, whose labels and shapes are given. -/
def literalIn (outer : List (Nat × Shape)) : Value → Except ValueFault String
  | .null => .ok "None"
  | .bool b => .ok (if b then "True" else "False")
  | .int n => integerText n
  | .float x => .ok (writeDouble x)
  | .str s => .ok (Text.quoted s)
  | .bytes content => .ok (Text.quotedBytes content)
  | .day d => .ok d.literal
  | .moment m => .ok m.literal
  | .list items => do return "[" ++ ", ".intercalate (← itemLiterals outer items) ++ "]"
  | .set members => do
      let shown ← itemLiterals outer members
      return if shown.isEmpty then "set()" else "\x7b" ++ ", ".intercalate shown ++ "\x7d"
  | .pair a b => do
      let first ← literalIn outer a
      let second ← literalIn outer b
      return "(" ++ first ++ ", " ++ second ++ ")"
  | .map entries => do
      return "\x7b" ++ ", ".intercalate (← entryLiterals outer entries) ++ "\x7d"
  | .loop label body =>
      match outer.lookup label with
      | some shape => .ok (dots shape)
      | none => literalIn ((label, body.shape) :: outer) body
  | .again label => .ok (dots ((outer.lookup label).getD .list))

def itemLiterals (outer : List (Nat × Shape)) : List Value → Except ValueFault (List String)
  | [] => .ok []
  | x :: xs => do
      let head ← literalIn outer x
      let rest ← itemLiterals outer xs
      return head :: rest

def entryLiterals (outer : List (Nat × Shape)) :
    List (Value × Value) → Except ValueFault (List String)
  | [] => .ok []
  | (k, v) :: es => do
      let key ← literalIn outer k
      let value ← literalIn outer v
      let rest ← entryLiterals outer es
      return (key ++ ": " ++ value) :: rest

end

/-- A value as it is shown inside messages. -/
def literal (v : Value) : Except ValueFault String :=
  literalIn [] v

/-- A value as text: a text is itself, a day or a moment is written as documents write it, and
anything else is its literal. -/
def display : Value → Except ValueFault String
  | .str s => .ok s
  | .day d => .ok d.text
  | .moment m => .ok m.text
  | v => v.literal

/-- The text that shows something, or the reason why nothing does. -/
def textOrReason (shown : Except ValueFault String) : String :=
  match shown with
  | .ok text => text
  | .error cause => cause.message

/-- What is reported for a fault: the fault itself if its message can be put together, else why it
cannot. -/
def reported {ε : Type} (message : Except ValueFault String) (unusable : ValueFault → ε)
    (fault : ε) : ε :=
  match message with
  | .ok _ => fault
  | .error cause => unusable cause

example : (Value.list [.str "a", .null, .map [(.str "k", .bool true)]]).literal.toOption
    = some "['a', None, \x7b'k': True\x7d]" := by decide +kernel

example : (Value.loop 0 (.map [(.str "k", .again 0)])).literal.toOption =
    some "\x7b'k': \x7b...\x7d\x7d" := by decide +kernel
example : (Value.list [.loop 0 (.list [.loop 0 (.list [.again 0])])]).literal.toOption =
    some "[[[...]]]" := by decide +kernel

end TaintTriage.Value
