import TaintTriage.Value

/-!
Equality of values is decidable.  This is equality of what was written, which tells apart `true`,
`1` and `1.0`; values that stand for one number are compared elsewhere.
-/

namespace TaintTriage.Value

mutual

/-- Whether two values were written alike. -/
def same : Value → Value → Bool
  | .null, .null => true
  | .bool a, .bool b => a == b
  | .int a, .int b => a == b
  | .float a, .float b => decide (a = b)
  | .str a, .str b => a == b
  | .bytes a, .bytes b => a == b
  | .day a, .day b => decide (a = b)
  | .moment a, .moment b => decide (a = b)
  | .list xs, .list ys => sameItems xs ys
  | .set xs, .set ys => sameItems xs ys
  | .pair a b, .pair c d => same a c && same b d
  | .map es, .map fs => sameEntries es fs
  | .loop l a, .loop m b => l == m && same a b
  | .again l, .again m => l == m
  | _, _ => false
termination_by structural v => v

/-- Whether the items of two lists were written alike. -/
def sameItems : List Value → List Value → Bool
  | [], [] => true
  | x :: xs, y :: ys => same x y && sameItems xs ys
  | _, _ => false

/-- Whether the entries of two mappings were written alike. -/
def sameEntries : List (Value × Value) → List (Value × Value) → Bool
  | [], [] => true
  | (k, v) :: es, (l, w) :: fs => same k l && same v w && sameEntries es fs
  | _, _ => false

end

mutual

theorem same_iff : ∀ {v w : Value}, same v w = true ↔ v = w
  | .null, w => by cases w <;> simp [same]
  | .bool _, w => by cases w <;> simp [same]
  | .int _, w => by cases w <;> simp [same]
  | .float _, w => by cases w <;> simp [same]
  | .str _, w => by cases w <;> simp [same]
  | .bytes _, w => by cases w <;> simp [same]
  | .day _, w => by cases w <;> simp [same]
  | .moment _, w => by cases w <;> simp [same]
  | .list xs, w => by cases w <;> simp [same, sameItems_iff]
  | .set xs, w => by cases w <;> simp [same, sameItems_iff]
  | .pair a b, w => by cases w <;> simp [same, @same_iff a, @same_iff b]
  | .map es, w => by cases w <;> simp [same, sameEntries_iff]
  | .loop _ a, w => by cases w <;> simp [same, @same_iff a]
  | .again _, w => by cases w <;> simp [same]

theorem sameItems_iff : ∀ {xs ys : List Value}, sameItems xs ys = true ↔ xs = ys
  | [], ys => by cases ys <;> simp [sameItems]
  | x :: xs, ys => by cases ys <;> simp [sameItems, @same_iff x, @sameItems_iff xs]

theorem sameEntries_iff : ∀ {es fs : List (Value × Value)}, sameEntries es fs = true ↔ es = fs
  | [], fs => by cases fs <;> simp [sameEntries]
  | (k, v) :: es, fs => by
      cases fs with
      | nil => simp [sameEntries]
      | cons f fs =>
          simp [sameEntries, @same_iff k, @same_iff v, @sameEntries_iff es, Prod.ext_iff]

end

instance : DecidableEq Value := fun _ _ => decidable_of_iff _ same_iff

end TaintTriage.Value
