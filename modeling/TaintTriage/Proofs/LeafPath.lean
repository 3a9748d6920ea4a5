import TaintTriage.Proofs.KeyEquality

/-!
Merged mappings of any depth, looked at leaf by leaf.  A leaf is a value that is no mapping, at the
end of a path of keys.  A merge takes each leaf from the later mapping, unless this one has nothing
to say about the path; where a mapping meets a leaf, one or the other vanishes with all that it
holds.
-/

namespace TaintTriage.Value

/-- A nested mapping, or a value in one: the keys of each mapping are distinct, and no value under a
key is met again inside itself. -/
inductive IsNested : Value → Prop where
  | leaf {v : Value} (hleaf : v.mapFields? = none) (hfinite : v.isLoop = false) : IsNested v
  | map {entries : List (Value × Value)} (hkeys : KeysDistinct entries)
      (hvalues : ∀ entry ∈ entries, IsNested entry.2) : IsNested (.map entries)

/-- The value at the end of a path of keys. -/
def valueAt? : Value → List Value → Option Value
  | v, [] => some v
  | .map entries, key :: path => (find? entries key).bind fun v => v.valueAt? path
  | _, _ :: _ => none

/-- The leaf at the end of a path: the value there, if it is no mapping. -/
def leaf? (v : Value) (path : List Value) : Option Value :=
  (v.valueAt? path).filter (·.mapFields?.isNone)

/-- A value overrides a path if it has a leaf there or on the way there, or a mapping there. -/
def Overrides (v : Value) (path : List Value) : Prop :=
  (∃ front, front <+: path ∧ (v.leaf? front).isSome) ∨
    ∃ fields, v.valueAt? path = some (.map fields)

variable {a b v w : Value} {key : Value} {path : List Value}
variable {entries base new : List (Value × Value)}

theorem leaf?_nil_of_leaf (h : v.mapFields? = none) : v.leaf? [] = some v := by
  simp [leaf?, valueAt?, h]

theorem leaf?_cons_of_leaf (h : v.mapFields? = none) : v.leaf? (key :: path) = none := by
  cases v with
  | map fields => exact nomatch h
  | _ => rfl

theorem leaf?_map_cons :
    (Value.map entries).leaf? (key :: path) = (find? entries key).bind fun v => v.leaf? path := by
  rw [leaf?, valueAt?]
  cases find? entries key <;> rfl

/-- Every value overrides itself. -/
theorem overrides_nil (v : Value) : v.Overrides [] := by
  cases hfields : v.mapFields? with
  | none => exact Or.inl ⟨[], List.prefix_rfl, by rw [leaf?_nil_of_leaf hfields]; rfl⟩
  | some fields =>
      cases v with
      | map entries => exact Or.inr ⟨entries, rfl⟩
      | _ => exact nomatch hfields

theorem overrides_of_leaf (h : v.mapFields? = none) (path : List Value) : v.Overrides path :=
  Or.inl ⟨[], List.nil_prefix, by rw [leaf?_nil_of_leaf h]; rfl⟩

theorem overrides_map_cons_iff :
    (Value.map entries).Overrides (key :: path) ↔
      ∃ v, find? entries key = some v ∧ v.Overrides path := by
  constructor
  · rintro (⟨front, hfront, hleaf⟩ | ⟨fields, hfields⟩)
    · cases front with
      | nil => exact nomatch hleaf
      | cons head front =>
          obtain ⟨rfl, hrest⟩ := List.cons_prefix_cons.mp hfront
          rw [leaf?_map_cons, Option.isSome_bind, Option.any_eq_true] at hleaf
          obtain ⟨v, hfind, hleaf⟩ := hleaf
          exact ⟨v, hfind, Or.inl ⟨front, hrest, hleaf⟩⟩
    · rw [valueAt?, Option.bind_eq_some_iff] at hfields
      obtain ⟨v, hfind, hfields⟩ := hfields
      exact ⟨v, hfind, Or.inr ⟨fields, hfields⟩⟩
  · rintro ⟨v, hfind, ⟨front, hfront, hleaf⟩ | ⟨fields, hfields⟩⟩
    · refine Or.inl ⟨key :: front, List.cons_prefix_cons.mpr ⟨rfl, hfront⟩, ?_⟩
      rw [leaf?_map_cons, hfind]
      exact hleaf
    · refine Or.inr ⟨fields, ?_⟩
      rw [valueAt?, hfind]
      exact hfields

theorem overrides_of_leaf? (h : v.leaf? path = some w) : v.Overrides path :=
  Or.inl ⟨path, List.prefix_rfl, by rw [h]; rfl⟩

theorem leaf?_of_not_overrides (h : ¬ v.Overrides path) : v.leaf? path = none :=
  Option.eq_none_iff_forall_ne_some.mpr fun _ hleaf => h (overrides_of_leaf? hleaf)

theorem mergeInto_of_leaf (hleaf : v.mapFields? = none) (hfinite : v.isLoop = false)
    (old : Option Value) : mergeInto old v = v := by
  rcases mergeInto_eq old hfinite with ⟨fields, -, rfl, -⟩ | ⟨-, hsame⟩
  · exact nomatch hleaf
  · exact hsame

theorem mergeInto_map_map :
    mergeInto (some (.map base)) (.map new) = .map (mergeEntries base new) :=
  mergeInto_map_of_map rfl

namespace IsNested

theorem of_mem_some (h : v.IsNested) : ∀ o ∈ some v, o.IsNested :=
  fun _ ho => Option.mem_some.mp ho ▸ h

theorem keysDistinct (h : (Value.map entries).IsNested) : KeysDistinct entries := by
  cases h with
  | leaf hleaf hfinite => exact nomatch hleaf
  | map hkeys hvalues => exact hkeys

theorem value_of_mem (h : (Value.map entries).IsNested) :
    ∀ entry ∈ entries, entry.2.IsNested := by
  cases h with
  | leaf hleaf hfinite => exact nomatch hleaf
  | map hkeys hvalues => exact hvalues

theorem value_of_find? (h : (Value.map entries).IsNested) (hfind : find? entries key = some v) :
    v.IsNested := by
  obtain ⟨entry, hentry, rfl⟩ := mem_of_find? hfind
  exact h.value_of_mem entry hentry

theorem mapFields?_eq_none (h : v.IsNested) (hne : ∀ fields, v ≠ .map fields) :
    v.mapFields? = none := by
  cases h with
  | leaf hleaf hfinite => exact hleaf
  | map hkeys hvalues => exact absurd rfl (hne _)

/-- A mapping that meets no mapping replaces what is there, if anything is. -/
theorem mergeInto_map_of_ne {old : Option Value} (hold : ∀ o ∈ old, o.IsNested)
    (hne : ∀ fields, old ≠ some (.map fields)) : mergeInto old (.map new) = .map new := by
  refine mergeInto_map_of_not_map fun older holder => ?_
  obtain ⟨o, rfl, hopened⟩ := Option.map_eq_some_iff.mp holder
  cases hold o rfl with
  | leaf hleaf hfinite => exact hne older (congrArg some (eq_of_opened hfinite hopened))
  | map hkeys hvalues => exact hne _ rfl

end IsNested

/-- A merge takes the leaf at a path from the later value, if this one overrides the path, and from
the earlier one, if there is one, otherwise. -/
structure MergesAt (old : Option Value) (v : Value) (path : List Value) : Prop where
  later : v.Overrides path → (mergeInto old v).leaf? path = v.leaf? path
  earlier : ¬ v.Overrides path →
    (mergeInto old v).leaf? path = old.bind fun o => o.leaf? path

theorem mergesAt_of_replaced {old : Option Value} (h : mergeInto old v = v)
    (hold : ¬ v.Overrides path → ∀ o ∈ old, o.leaf? path = none) : MergesAt old v path := by
  constructor
  · intro _
    rw [h]
  · intro hnot
    rw [h, leaf?_of_not_overrides hnot]
    exact (Option.bind_eq_none_iff.mpr (hold hnot)).symm

/-- Below a key, mappings merge as what they hold there does. -/
theorem mergesAt_map_cons (hnew : KeysDistinct new)
    (h : ∀ v, find? new key = some v → MergesAt (find? base key) v path) :
    MergesAt (some (.map base)) (.map new) (key :: path) := by
  cases hlater : find? new key with
  | none =>
      constructor
      · intro hover
        obtain ⟨v, hv, -⟩ := overrides_map_cons_iff.mp hover
        exact nomatch hlater.symm.trans hv
      · intro _
        rw [mergeInto_map_map, Option.bind_some, leaf?_map_cons, leaf?_map_cons,
          find?_mergeEntries_of_none hnew hlater]
  | some v =>
      have hmerged : (mergeInto (some (.map base)) (.map new)).leaf? (key :: path) =
          (mergeInto (find? base key) v).leaf? path := by
        rw [mergeInto_map_map, leaf?_map_cons, find?_mergeEntries_of_some hnew hlater]
        rfl
      have hiff : (Value.map new).Overrides (key :: path) ↔ v.Overrides path := by
        rw [overrides_map_cons_iff, hlater]
        simp
      constructor
      · intro hover
        rw [hmerged, (h v hlater).later (hiff.mp hover), leaf?_map_cons, hlater]
        rfl
      · intro hnot
        rw [hmerged, (h v hlater).earlier (hnot ∘ hiff.mpr), Option.bind_some, leaf?_map_cons]

/-- Nested mappings merge leaf by leaf.  The induction is on the path, so that what is merged below
a key is any value into any value or nothing. -/
theorem IsNested.mergesAt {old : Option Value} (hold : ∀ o ∈ old, o.IsNested) (hv : v.IsNested)
    (path : List Value) : MergesAt old v path := by
  induction path generalizing old v with
  | nil =>
      refine ⟨fun _ => ?_, fun hnot => absurd (overrides_nil v) hnot⟩
      cases hv with
      | leaf hleaf hfinite => rw [mergeInto_of_leaf hleaf hfinite]
      | @map new hkeys hvalues =>
          rcases mergeInto_eq old (v := .map new) rfl with ⟨_, merged, -, hmerged⟩ | ⟨hne, -⟩
          · rw [hmerged]
            rfl
          · exact absurd rfl (hne new)
  | cons key path ih =>
      cases hv with
      | leaf hleaf hfinite =>
          exact mergesAt_of_replaced (mergeInto_of_leaf hleaf hfinite old)
            fun hnot => absurd (overrides_of_leaf hleaf _) hnot
      | @map new hkeys hvalues =>
          by_cases hmap : ∃ base, old = some (.map base)
          · obtain ⟨base, rfl⟩ := hmap
            refine mergesAt_map_cons hkeys fun w hw => ih (fun o ho => ?_) ?_
            · exact (hold _ rfl).value_of_find? ho
            · exact (IsNested.map hkeys hvalues).value_of_find? hw
          · rw [not_exists] at hmap
            refine mergesAt_of_replaced (mergeInto_map_of_ne hold hmap) fun _ o ho => ?_
            have hne : ∀ fields, o ≠ .map fields := fun fields h => hmap fields (h ▸ ho)
            exact leaf?_cons_of_leaf ((hold o ho).mapFields?_eq_none hne)

/-- The path with a single leaf at its end. -/
def ofPath (path : List Value) (v : Value) : Value :=
  path.foldr (fun key inner => .map [(key, inner)]) v

theorem leaf?_ofPath (hpath : ∀ key ∈ path, key.isHashable = true) (hleaf : v.mapFields? = none) :
    (ofPath path v).leaf? path = some v := by
  induction path with
  | nil => exact leaf?_nil_of_leaf hleaf
  | cons key path ih =>
      obtain ⟨hkey, hrest⟩ := List.forall_mem_cons.mp hpath
      rw [ofPath, List.foldr_cons, leaf?_map_cons, find?_cons, if_pos (equals_self hkey)]
      exact ih hrest

theorem isNested_ofPath (hpath : ∀ key ∈ path, key.isHashable = true) (hv : v.IsNested) :
    (ofPath path v).IsNested := by
  induction path with
  | nil => exact hv
  | cons key path ih =>
      obtain ⟨hkey, hrest⟩ := List.forall_mem_cons.mp hpath
      refine .map (keysDistinct_cons_iff.mpr ⟨hkey, rfl, ?_⟩)
        (List.forall_mem_singleton.mpr (ih hrest))
      exact ⟨fun _ h => absurd h List.not_mem_nil, List.Pairwise.nil⟩

/-- The keys of a path to a leaf of nested mappings can be keys. -/
theorem IsNested.isHashable_of_leaf? (h : a.IsNested) (hleaf : a.leaf? path = some v) :
    ∀ key ∈ path, key.isHashable = true := by
  induction path generalizing a with
  | nil => exact fun key hkey => absurd hkey List.not_mem_nil
  | cons key path ih =>
      cases h with
      | leaf hnone hfinite => exact nomatch (leaf?_cons_of_leaf hnone).symm.trans hleaf
      | @map entries hkeys hvalues =>
          rw [leaf?_map_cons, Option.bind_eq_some_iff] at hleaf
          obtain ⟨w, hfind, hleaf⟩ := hleaf
          refine List.forall_mem_cons.mpr ⟨hkeys.isHashable_of_find? hfind, ih ?_ hleaf⟩
          exact (IsNested.map hkeys hvalues).value_of_find? hfind

namespace IsNested

theorem nil_mergeEntries (hb : (Value.map new).IsNested) : mergeEntries [] new = new :=
  mergeEntries_of_fresh hb.keysDistinct (fun _ _ => rfl) fun entry _ => mergeInto_none entry.2

/-- A mapping is always merged into some mapping, if only into the empty one. -/
theorem exists_mergeInto_map {old : Option Value} (hold : ∀ o ∈ old, o.IsNested)
    (hnew : (Value.map new).IsNested) :
    ∃ older, (Value.map older).IsNested ∧
      Value.mergeInto old (.map new) = .map (mergeEntries older new) := by
  by_cases hmap : ∃ older, old = some (.map older)
  · obtain ⟨older, rfl⟩ := hmap
    exact ⟨older, hold _ rfl, mergeInto_map_map⟩
  · refine ⟨[], .map ⟨?_, List.Pairwise.nil⟩ ?_, ?_⟩
    · exact fun _ hentry => absurd hentry List.not_mem_nil
    · exact fun _ hentry => absurd hentry List.not_mem_nil
    · rw [mergeInto_map_of_ne hold (not_exists.mp hmap), hnew.nil_mergeEntries]

theorem mergeInto {old : Option Value} (hv : v.IsNested) (hold : ∀ o ∈ old, o.IsNested) :
    (Value.mergeInto old v).IsNested := by
  induction hv generalizing old with
  | leaf hleaf hfinite =>
      rw [mergeInto_of_leaf hleaf hfinite]
      exact .leaf hleaf hfinite
  | @map new hkeys hvalues ih =>
      obtain ⟨older, holder, hmerged⟩ := exists_mergeInto_map hold (.map hkeys hvalues)
      rw [hmerged]
      refine .map (holder.keysDistinct.mergeEntries hkeys) ?_
      exact forall_mem_mergeEntries IsNested holder.value_of_mem fun entry hentry _ hold =>
        ih entry hentry hold

/-- What was merged in already changes nothing more. -/
theorem mergeInto_again {old : Option Value} (hv : v.IsNested) (hold : ∀ o ∈ old, o.IsNested) :
    Value.mergeInto (some (Value.mergeInto old v)) v = Value.mergeInto old v := by
  induction hv generalizing old with
  | leaf hleaf hfinite => rw [mergeInto_of_leaf hleaf hfinite, mergeInto_of_leaf hleaf hfinite]
  | @map new hkeys hvalues ih =>
      obtain ⟨older, holder, hmerged⟩ := exists_mergeInto_map hold (.map hkeys hvalues)
      rw [hmerged, mergeInto_map_map]
      refine congrArg Value.map (mergeEntries_of_absorbed ?_ fun entry hentry => ?_)
      · exact holder.keysDistinct.mergeEntries hkeys
      · have hfind : find? new entry.1 = some entry.2 :=
          hkeys.find?_of_mem hentry (equals_self (hkeys.hashable entry hentry))
        refine ⟨_, find?_mergeEntries_of_some hkeys hfind, ih entry hentry ?_⟩
        exact fun o ho => holder.value_of_find? ho

theorem mergeEntries_again (ha : (Value.map base).IsNested) (hb : (Value.map new).IsNested) :
    mergeEntries (mergeEntries base new) new = mergeEntries base new := by
  have hagain : Value.mergeInto (some (Value.mergeInto (some (.map base)) (.map new))) (.map new) =
      Value.mergeInto (some (.map base)) (.map new) :=
    hb.mergeInto_again ha.of_mem_some
  rw [mergeInto_map_map, mergeInto_map_map] at hagain
  exact Value.map.inj hagain

theorem mergeEntries_self (ha : (Value.map base).IsNested) : mergeEntries base base = base := by
  have hempty : (Value.map []).IsNested :=
    .map ⟨fun _ h => absurd h List.not_mem_nil, List.Pairwise.nil⟩
      fun _ h => absurd h List.not_mem_nil
  calc mergeEntries base base
      = mergeEntries (mergeEntries [] base) base := by rw [ha.nil_mergeEntries]
    _ = mergeEntries [] base := mergeEntries_again hempty ha
    _ = base := ha.nil_mergeEntries

end IsNested

/-- A leaf at the path stays as it is, whatever it is and whatever else the mapping holds, when the
value is merged in. -/
def LeavesAlone (v : Value) (path : List Value) : Prop :=
  ∀ base merged, (Value.map base).IsNested → merge (.map base) v = .ok merged →
    ((Value.map base).leaf? path).isSome → merged.leaf? path = (Value.map base).leaf? path

theorem merge_map_map : merge (.map base) (.map new) = .ok (.map (mergeEntries base new)) := rfl

theorem exists_leaf_ne (found : Option Value) :
    ∃ w : Value, w.mapFields? = none ∧ w.isLoop = false ∧ found ≠ some w := by
  by_cases h : found = some .null
  · subst h
    exact ⟨.bool true, rfl, rfl, nofun⟩
  · exact ⟨.null, rfl, rfl, h⟩

/-- A mapping says nothing about a path just if it leaves every leaf there alone. -/
theorem IsNested.not_overrides_iff (hnew : (Value.map new).IsNested)
    (hpath : ∀ k ∈ key :: path, k.isHashable = true) :
    ¬ (Value.map new).Overrides (key :: path) ↔ (Value.map new).LeavesAlone (key :: path) := by
  constructor
  · intro hnot base merged hbase hmerged _
    obtain rfl := Except.ok.inj (merge_map_map.symm.trans hmerged)
    rw [← mergeInto_map_map]
    exact (mergesAt hbase.of_mem_some hnew _).earlier hnot
  · intro halone hover
    -- A leaf that is not the one of `new` would be lost.
    obtain ⟨w, hleaf, hfinite, hne⟩ := exists_leaf_ne ((Value.map new).leaf? (key :: path))
    have hbase : (ofPath (key :: path) w).IsNested := isNested_ofPath hpath (.leaf hleaf hfinite)
    have hfound : (ofPath (key :: path) w).leaf? (key :: path) = some w := leaf?_ofPath hpath hleaf
    have hkept := halone _ _ hbase merge_map_map (Option.isSome_iff_exists.mpr ⟨w, hfound⟩)
    rw [← mergeInto_map_map] at hkept
    have hlater := (mergesAt hbase.of_mem_some hnew (key :: path)).later hover
    exact hne (hlater.symm.trans (hkept.trans hfound))

/-- The leaves of a merged value, by those of the two it is merged from.  A leaf of the earlier
value is kept just where the later one says nothing about its path; where this one has an equal
leaf, what is there is the later one's, although it cannot be told apart. -/
structure HasLeavesOf (merged base new : Value) : Prop where
  later : ∀ path v, new.leaf? path = some v → merged.leaf? path = some v
  earlier : ∀ path v, base.leaf? path = some v →
    (merged.leaf? path = some v ↔ ¬ new.Overrides path ∨ new.leaf? path = some v)
  kept : ∀ path, (base.leaf? path).isSome → (¬ new.Overrides path ↔ new.LeavesAlone path)
  no_other : ∀ path v, merged.leaf? path = some v →
    new.leaf? path = some v ∨ base.leaf? path = some v ∧ ¬ new.Overrides path

theorem IsNested.hasLeavesOf (hbase : (Value.map base).IsNested) (hnew : (Value.map new).IsNested) :
    HasLeavesOf (.map (mergeEntries base new)) (.map base) (.map new) := by
  have hlater (path) (h : (Value.map new).Overrides path) :
      (Value.map (mergeEntries base new)).leaf? path = (Value.map new).leaf? path := by
    rw [← mergeInto_map_map]
    exact (mergesAt hbase.of_mem_some hnew path).later h
  have hearlier (path) (h : ¬ (Value.map new).Overrides path) :
      (Value.map (mergeEntries base new)).leaf? path = (Value.map base).leaf? path := by
    rw [← mergeInto_map_map]
    exact (mergesAt hbase.of_mem_some hnew path).earlier h
  constructor
  case later =>
    intro path v hleaf
    rw [hlater path (overrides_of_leaf? hleaf), hleaf]
  case earlier =>
    intro path v hleaf
    by_cases hover : (Value.map new).Overrides path
    · simp [hlater path hover, hover]
    · simp [hearlier path hover, hover, hleaf]
  case kept =>
    intro path hleaf
    obtain ⟨v, hleaf⟩ := Option.isSome_iff_exists.mp hleaf
    cases path with
    | nil => exact nomatch hleaf
    | cons key path => exact hnew.not_overrides_iff (hbase.isHashable_of_leaf? hleaf)
  case no_other =>
    intro path v hleaf
    by_cases hover : (Value.map new).Overrides path
    · exact Or.inl ((hlater path hover).symm.trans hleaf)
    · exact Or.inr ⟨(hearlier path hover).symm.trans hleaf, hover⟩

/-- Nested mappings merge leaf by leaf.  Each leaf of the later one is there, each leaf of the
earlier one just where the later one has no leaf there or on the way there and no mapping there, and
there is no other leaf.  So a mapping merged into itself, into nothing or a second time changes
nothing, and nothing merged into it neither. -/
theorem merge_leaves (hbase : (Value.map base).IsNested) (hnew : (Value.map new).IsNested) :
    ∃ merged, merge (.map base) (.map new) = .ok merged ∧ merged.IsNested ∧
      HasLeavesOf merged (.map base) (.map new) ∧
      merge (.map base) (.map base) = .ok (.map base) ∧
      merge (.map base) (.map []) = .ok (.map base) ∧
      merge (.map []) (.map new) = .ok (.map new) ∧
      merge merged (.map new) = .ok merged := by
  refine ⟨_, merge_map_map, ?nested, hbase.hasLeavesOf hnew, ?self, rfl, ?nil, ?again⟩
  case nested =>
    rw [← mergeInto_map_map]
    exact hnew.mergeInto hbase.of_mem_some
  case self => rw [merge_map_map, hbase.mergeEntries_self]
  case nil => rw [merge_map_map, hnew.nil_mergeEntries]
  case again => rw [merge_map_map, hbase.mergeEntries_again hnew]

def writtenLayer : List (Value × Value) :=
  [(.str "llm", .map [(.str "model", .str "small"), (.str "timeout", .int 60)]),
    (.str "output", .str "out"), (.str "scoring", .map [(.str "batch_size", .int 8)])]

/-- A layer in which a mapping meets a mapping, another one a leaf, and a leaf a mapping. -/
def overridingLayer : List (Value × Value) :=
  [(.str "llm", .map [(.str "model", .str "large")]),
    (.str "output", .map [(.str "dir", .str "out")]), (.str "scoring", .null)]

theorem merge_leaves_overridingLayer :
    (Value.map writtenLayer).IsNested ∧ (Value.map overridingLayer).IsNested ∧
      ∃ merged, merge (.map writtenLayer) (.map overridingLayer) = .ok merged ∧
        merged = .map [(.str "llm", .map [(.str "model", .str "large"), (.str "timeout", .int 60)]),
          (.str "output", .map [(.str "dir", .str "out")]), (.str "scoring", .null)] ∧
        HasLeavesOf merged (.map writtenLayer) (.map overridingLayer) := by
  have hwritten : (Value.map writtenLayer).IsNested := by
    refine .map (by decide) ?_
    simp only [writtenLayer, List.forall_mem_cons]
    refine ⟨.map (by decide) ?_, .leaf rfl rfl, .map (by decide) ?_, nofun⟩
    · simp only [List.forall_mem_cons]
      exact ⟨.leaf rfl rfl, .leaf rfl rfl, nofun⟩
    · exact List.forall_mem_singleton.mpr (.leaf rfl rfl)
  have hoverriding : (Value.map overridingLayer).IsNested := by
    refine .map (by decide) ?_
    simp only [overridingLayer, List.forall_mem_cons]
    refine ⟨.map (by decide) ?_, .map (by decide) ?_, .leaf rfl rfl, nofun⟩
    · exact List.forall_mem_singleton.mpr (.leaf rfl rfl)
    · exact List.forall_mem_singleton.mpr (.leaf rfl rfl)
  obtain ⟨merged, hmerged, -, hleaves, -⟩ := merge_leaves hwritten hoverriding
  exact ⟨hwritten, hoverriding, merged, hmerged, (Except.ok.inj hmerged).symm, hleaves⟩

end TaintTriage.Value
