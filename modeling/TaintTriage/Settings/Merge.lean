import TaintTriage.Value.Convert

/-!
Merging nested mappings, as the layers of settings are.  Where both hold a mapping the two are
merged in turn, elsewhere the value of the second one wins.
-/

namespace TaintTriage.Value

mutual

/-- A mapping with the entries of another one merged in.  A key keeps its place, new keys come
last. -/
def mergeEntries (base : List (Value × Value)) : List (Value × Value) → List (Value × Value)
  | [] => base
  | (key, v) :: rest => mergeEntries (insert base key (mergeInto (find? base key) v)) rest

/-- What a value becomes in the place of an older one. -/
def mergeInto (old : Option Value) : Value → Value
  | .map entries =>
      match old.map opened with
      | some (.map older) => .map (mergeEntries older entries)
      | _ => .map entries
  | .loop label body =>
      match old.map opened with
      | some (.map _) => putIn label (.loop label body) (mergeInto old body)
      | _ => .loop label body
  | v => v

end

/-- A value with the entries of another one merged in.  Nothing can be merged into a list, unless
there is nothing to merge. -/
def merge (base override : Value) : Except ValueFault Value :=
  match base.opened with
  | .map older => do return .map (mergeEntries older (← override.entries))
  | .list _ | .set _ => do
      if (← override.entries).isEmpty then return base
      else throw (.namedPosition base.shape)
  | _ => .error (.noMember base.shape "copy")

example : mergeEntries [(.str "a", .map [(.str "b", .int 1)])]
      [(.str "a", .map [(.str "c", .int 2)])] =
    [(.str "a", .map [(.str "b", .int 1), (.str "c", .int 2)])] := by
  rfl

end TaintTriage.Value
