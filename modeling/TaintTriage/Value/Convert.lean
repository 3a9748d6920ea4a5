import TaintTriage.Decimal.Read
import TaintTriage.Text.Letters
import TaintTriage.Value.Fault

/-!
Uses of loosely typed values: their items, their length, their integer, their double, a part of
them by name.  Each use either works or reports why the value does not allow it.
-/

namespace TaintTriage.Value

/-- The items of a value: those of a collection, the characters of a text, the numbers of bytes,
the keys of a mapping. -/
def items (v : Value) : Except ValueFault (List Value) :=
  match v.opened with
  | .list xs | .set xs => .ok xs
  | .str s => .ok (s.toList.map fun c => .str (String.singleton c))
  | .bytes content => .ok (content.map fun b => .int b.toNat)
  | .pair a b => .ok [a, b]
  | .map entries => .ok (entries.map (·.1))
  | _ => .error (.notIterable v.shape)

/-- The number of items of a value. -/
def length (v : Value) : Except ValueFault Nat :=
  match v.items with
  | .ok items => .ok items.length
  | .error _ => .error (.unsized v.shape)

/-- The shape of what keeps a value from being a key: its own, or that of a part of a pair. -/
def unhashableShape : Value → Shape
  | .pair a b => if a.isHashable then b.unhashableShape else a.unhashableShape
  | v => v.shape

/-- Refuses what cannot be a key or the member of a set. -/
def requireHashable (v : Value) : Except ValueFault Unit :=
  if v.isHashable then .ok () else .error (.unhashable v.unhashableShape)

/-- Refuses what cannot be looked for in a set.  A set can, though it is no member of any. -/
def requireSought (v : Value) : Except ValueFault Unit :=
  match v with
  | .set _ => .ok ()
  | v => v.requireHashable

/-- Whether something is in a value: a part of a text, an item of a collection, a key of a
mapping. -/
def contains (wanted v : Value) : Except ValueFault Bool :=
  match v.opened with
  | .str s =>
      match wanted with
      | .str part => .ok (Text.hasWord part.toList s.toList)
      | _ => .error (.notPartOfText wanted.shape)
  | .bytes content =>
      match wanted with
      | .int n => .ok (content.any fun b => (b.toNat : Int) == n)
      | .bytes part => .ok ((List.range (content.length + 1)).any fun i =>
          part.isPrefixOf (content.drop i))
      | _ => .error (.notPartOfBytes wanted.shape)
  | .list xs => .ok (xs.any wanted.equals)
  | .set xs => do
      wanted.requireSought
      return xs.any wanted.equals
  | .pair a b => .ok (wanted.equals a || wanted.equals b)
  | .map entries => do
      wanted.requireHashable
      return (find? entries wanted).isSome
  | _ => .error (.notContainer v.shape)

/-- The part of a value with a name: only mappings have named parts. -/
def named (name : String) (v : Value) : Except ValueFault Value :=
  match v.opened with
  | .map entries =>
      match field? entries name with
      | some part => .ok part
      | none => .error (.missingKey name)
  | .str _ | .bytes _ | .list _ | .pair _ _ => .error (.namedPosition v.shape)
  | _ => .error (.notSubscriptable v.shape)

/-- The entries of a value: only mappings have any. -/
def entries (v : Value) : Except ValueFault (List (Value × Value)) :=
  match v.opened with
  | .map entries => .ok entries
  | _ => .error (.noMember v.shape "items")

/-- The integer that a text stands for, which is shown in some way if it stands for none. -/
def integerOf (s : List Char) (shown : String) : Except ValueFault Int :=
  match scanInteger s with
  | .integer n => .ok n
  | .tooLong digits => .error (.longInteger digits)
  | .malformed => .error (.badInteger 10 shown)

/-- Bytes as the text of a number.  Bytes beyond ASCII belong to no number. -/
def bytesAsText (content : List UInt8) : List Char :=
  content.map fun b => if b.toNat < 0x80 then Char.ofNat b.toNat else '?'

/-- The integer that a value stands for.  Doubles lose their fraction. -/
def toInt : Value → Except ValueFault Int
  | .bool b => .ok b.toInt
  | .int n => .ok n
  | .float x =>
      match DoubleKind.of x with
      | .notANumber => .error .integerOfNotANumber
      | .infinite _ => .error .integerOfInfinity
      | .finite d => .ok d.truncate
  | .str s => integerOf s.toList (Text.quoted s)
  | .bytes content => integerOf (bytesAsText content) (Text.quotedBytes content)
  | v => .error (.noInteger v.shape)

def toDouble : Value → Except ValueFault Float
  | .float x => .ok x
  | .bool b => .ok (if b then 1.0 else 0.0)
  | .int n =>
      match doubleOfInteger? n with
      | some x => .ok x
      | none => .error .hugeInteger
  | .str s =>
      match readDouble? s.toList with
      | some x => .ok x
      | none => .error (.badDouble (Text.quoted s))
  | .bytes content =>
      match readDouble? (bytesAsText content) with
      | some x => .ok x
      | none => .error (.badDouble (Text.quotedBytes content))
  | v => .error (.noDouble v.shape)

namespace Magnitude

/-- The number of units of the smallest double in one. -/
def leastUnitsInOne : Int := 1 <<< 1074

/-- Where a number stands among all numbers: an infinite one at an end, a finite one in the middle
at its distance from zero. -/
def place? : Magnitude → Option (Int × Int)
  | .whole n => some (0, n * leastUnitsInOne)
  | .double x =>
      match DoubleKind.of x with
      | .finite d => some (0, d.leastUnits)
      | .infinite negative => some (if negative then -1 else 1, 0)
      | .notANumber => none

/-- Whether one place is before another one. -/
def isBefore (p q : Int × Int) : Bool :=
  p.1 < q.1 || p.1 == q.1 && p.2 < q.2

/-- Whether one number is less than another one. -/
def isLess : Magnitude → Magnitude → Bool
  | .whole a, .whole b => a < b
  | a, b =>
      match a.place?, b.place? with
      | some p, some q => isBefore p q
      | _, _ => false

/-- Numbers are compared by their places; what is no number has none. -/
theorem isLess_iff {a b : Magnitude} :
    a.isLess b = true ↔
      ∃ p q, a.place? = some p ∧ b.place? = some q ∧ isBefore p q = true := by
  have hplaces : (match a.place?, b.place? with
      | some p, some q => isBefore p q
      | _, _ => false) = true ↔
        ∃ p q, a.place? = some p ∧ b.place? = some q ∧ isBefore p q = true := by
    cases a.place? <;> cases b.place? <;> simp
  cases a with
  | double x => exact hplaces
  | whole m =>
      cases b with
      | double y => exact hplaces
      | whole n =>
          have hunits : 0 < leastUnitsInOne := by decide
          rw [← hplaces]
          simp [isLess, place?, isBefore, Int.mul_lt_mul_right hunits]

theorem isLess_irrefl (a : Magnitude) : a.isLess a = false := by
  rw [Bool.eq_false_iff]
  intro h
  obtain ⟨p, q, hp, hq, hbefore⟩ := isLess_iff.mp h
  obtain rfl := Option.some.inj (hp.symm.trans hq)
  simp [isBefore] at hbefore

theorem isLess_trans {a b c : Magnitude} (hab : a.isLess b = true) (hbc : b.isLess c = true) :
    a.isLess c = true := by
  obtain ⟨p, q, hp, hq, hpq⟩ := isLess_iff.mp hab
  obtain ⟨q', r, hq', hr, hqr⟩ := isLess_iff.mp hbc
  obtain rfl := Option.some.inj (hq.symm.trans hq')
  refine isLess_iff.mpr ⟨p, r, hp, hr, ?_⟩
  simp only [isBefore, Bool.or_eq_true, Bool.and_eq_true, decide_eq_true_eq, beq_iff_eq] at *
  omega

end Magnitude

/-- Whether one value is less than another one.  Numbers are compared with numbers and texts with
texts. -/
def isLess (v w : Value) : Except ValueFault Bool :=
  match v.magnitude?, w.magnitude?, v, w with
  | some a, some b, _, _ => .ok (a.isLess b)
  | _, _, .str a, .str b => .ok (a < b)
  | _, _, _, _ => .error (.incomparable "<" v.shape w.shape)

/-- The text in a value that is asked for something that only texts have. -/
def textWith (member : String) : Value → Except ValueFault String
  | .str s => .ok s
  | v => .error (.noMember v.shape member)

/-- Texts put together with a mark between them; `position` is that of the first one. -/
def joined (mark : String) (position : Nat) : List Value → Except ValueFault String
  | [] => .ok ""
  | [.str s] => .ok s
  | .str s :: rest => do return s ++ mark ++ (← joined mark (position + 1) rest)
  | v :: _ => .error (.notJoinable position v.shape)

/-- The texts among some values.  All of them must be able to be members of a set. -/
def textsAmong (items : List Value) : Except ValueFault (List String) := do
  items.forM requireHashable
  return items.filterMap fun
    | .str s => some s
    | _ => none

/-- The three items of a value, where only three will do. -/
def triple (v : Value) : Except ValueFault (Value × Value × Value) := do
  match v.items with
  | .error _ => throw (.notUnpackable v.shape)
  | .ok [a, b, c] => return (a, b, c)
  | .ok items =>
      if items.length < 3 then throw (.tooFewItems 3 items.length) else throw (.tooManyItems 3)

/-- The text in a value, where only text will do. -/
def text : Value → Except ValueFault String
  | .str s => .ok s
  | v => .error (.notText v.shape)

/-- A value, or the empty text in place of one that does not count as true. -/
def orEmpty (v : Value) : Value :=
  if v.isTruthy then v else .str ""

example : (Value.str "x").named "from" = .error (.namedPosition .str) := rfl

end TaintTriage.Value
