import TaintTriage.Proofs.DocumentFields
import TaintTriage.Settings.Merge

/-!
Merged layers, looked up by text.  What a merge holds under a text is what the later layer holds
there, merged into what the earlier one holds; two levels down, where only mappings are merged
further, the later layer wins.
-/

namespace TaintTriage

namespace Value

variable {entries base new : List (Value × Value)} {key v : Value} {name : String}

theorem field?_cons_self : field? ((.str name, v) :: entries) name = some v := by
  simp [field?]

theorem field?_cons_of_ne (h : key ≠ .str name) :
    field? ((key, v) :: entries) name = field? entries name := by
  have hequals : (Value.str name).equals key = false := by
    rw [Bool.eq_false_iff, ne_eq, str_equals_iff]
    exact h
  rw [← find?_str, ← find?_str, find?, find?, List.find?_cons, hequals]

theorem mem_of_field? (h : field? entries name = some v) : (.str name, v) ∈ entries := by
  induction entries with
  | nil => exact nomatch h
  | cons entry rest ih =>
      obtain ⟨key, w⟩ := entry
      by_cases hkey : key = .str name
      · subst hkey
        rw [field?_cons_self, Option.some.injEq] at h
        exact h ▸ List.mem_cons_self
      · rw [field?_cons_of_ne hkey] at h
        exact List.mem_cons_of_mem _ (ih h)

theorem field?_append (later : List (Value × Value)) :
    field? (entries ++ later) name = (field? entries name).or (field? later name) := by
  induction entries with
  | nil => rfl
  | cons entry rest ih =>
      obtain ⟨key, w⟩ := entry
      by_cases hkey : key = .str name
      · subst hkey
        rw [List.cons_append, field?_cons_self, field?_cons_self, Option.some_or]
      · rw [List.cons_append, field?_cons_of_ne hkey, field?_cons_of_ne hkey, ih]

/-- Only the key itself equals a key that is a text. -/
theorem any_equals_str_iff :
    (entries.any fun entry => (Value.str name).equals entry.1) = (field? entries name).isSome := by
  rw [← find?_str, find?, Option.isSome_map, List.isSome_find?]

theorem field?_map_set (key v : Value) :
    field? (entries.map fun entry => if key.equals entry.1 then (entry.1, v) else entry) name =
      if key.equals (.str name) then (field? entries name).map fun _ => v
      else field? entries name := by
  induction entries with
  | nil => simp [field?]
  | cons entry rest ih =>
      obtain ⟨head, w⟩ := entry
      rw [List.map_cons]
      by_cases hhead : head = .str name
      · subst hhead
        cases hequal : key.equals (.str name) with
        | true => simp [field?_cons_self]
        | false => simp [field?_cons_self]
      · have hcons : field? ((if key.equals head then (head, v) else (head, w)) ::
            rest.map fun entry => if key.equals entry.1 then (entry.1, v) else entry) name =
            field? (rest.map fun entry => if key.equals entry.1 then (entry.1, v) else entry)
              name := by
          split <;> exact field?_cons_of_ne hhead
        rw [hcons, ih, field?_cons_of_ne hhead]

theorem field?_insert_self : field? (insert entries (.str name) v) name = some v := by
  rw [insert, any_equals_str_iff]
  cases hfield : field? entries name with
  | some w => simp [field?_map_set, hfield, equals]
  | none => simp [field?_append, hfield, field?_cons_self]

theorem field?_insert_of_ne (h : key ≠ .str name) :
    field? (insert entries key v) name = field? entries name := by
  have hequals : key.equals (.str name) = false := by
    rw [Bool.eq_false_iff, ne_eq, equals_str_iff]
    exact h
  rw [insert]
  split
  · rw [field?_map_set, hequals]
    rfl
  · rw [field?_append, field?_cons_of_ne h]
    exact Option.or_none

def keyText? : Value → Option String
  | .str name => some name
  | _ => none

theorem keyText?_eq_some_iff : key.keyText? = some name ↔ key = .str name := by
  cases key <;> simp [keyText?]

/-- No text is the key of two entries. -/
def TextKeysDistinct (entries : List (Value × Value)) : Prop :=
  entries.Pairwise fun a b => ∀ name ∈ a.1.keyText?, b.1.keyText? ≠ some name

instance (entries : List (Value × Value)) : Decidable (TextKeysDistinct entries) :=
  inferInstanceAs (Decidable (List.Pairwise _ _))

theorem TextKeysDistinct.field?_rest (h : TextKeysDistinct ((.str name, v) :: entries)) :
    field? entries name = none := by
  cases hfield : field? entries name with
  | none => rfl
  | some w => exact absurd rfl ((List.pairwise_cons.mp h).1 _ (mem_of_field? hfield) name rfl)

theorem TextKeysDistinct.field?_of_mem (h : TextKeysDistinct entries)
    (hmem : (.str name, v) ∈ entries) : field? entries name = some v := by
  induction entries with
  | nil => exact absurd hmem List.not_mem_nil
  | cons entry rest ih =>
      rcases List.mem_cons.mp hmem with rfl | hrest
      · exact field?_cons_self
      · obtain ⟨key, w⟩ := entry
        rw [field?_cons_of_ne]
        · exact ih (List.pairwise_cons.mp h).2 hrest
        · rintro rfl
          exact absurd rfl ((List.pairwise_cons.mp h).1 _ hrest name rfl)

/-- Where all keys are distinct texts, the entries are what stands under the texts. -/
theorem TextKeysDistinct.forall_mem_iff {q : Value × Value → Prop} (h : TextKeysDistinct entries)
    (htexts : ∀ entry ∈ entries, entry.1.keyText?.isSome = true) :
    (∀ entry ∈ entries, q entry) ↔
      ∀ name v, field? entries name = some v → q (.str name, v) := by
  constructor
  · exact fun hall name v hfield => hall _ (mem_of_field? hfield)
  · intro hall entry hentry
    obtain ⟨name, hname⟩ := Option.isSome_iff_exists.mp (htexts entry hentry)
    obtain ⟨key, v⟩ := entry
    obtain rfl := keyText?_eq_some_iff.mp hname
    exact hall name v (h.field?_of_mem hentry)

theorem textKeysDistinct_named {α : Type} {fields : List (String × α)} {f : α → Value}
    (h : (fields.map (·.1)).Nodup) :
    TextKeysDistinct (fields.map fun (name, a) => (.str name, f a)) := by
  refine List.pairwise_map.mpr ((List.pairwise_map.mp h).imp fun {a b} hne other ha hb => ?_)
  obtain rfl : a.1 = other := Option.some.inj ha
  exact hne (Option.some.inj hb).symm

/-- What a merge holds under a text. -/
theorem field?_mergeEntries (hnew : TextKeysDistinct new) :
    field? (mergeEntries base new) name =
      match field? new name with
      | none => field? base name
      | some v => some (mergeInto (field? base name) v) := by
  induction new generalizing base with
  | nil => rfl
  | cons entry rest ih =>
      obtain ⟨key, v⟩ := entry
      rw [mergeEntries, ih (List.pairwise_cons.mp hnew).2]
      by_cases hkey : key = .str name
      · subst hkey
        rw [hnew.field?_rest, field?_cons_self, field?_insert_self, find?_str]
      · rw [field?_cons_of_ne hkey, field?_insert_of_ne hkey]

theorem field?_mergeEntries_of_none (hnew : TextKeysDistinct new) (h : field? new name = none) :
    field? (mergeEntries base new) name = field? base name := by
  rw [field?_mergeEntries hnew, h]

theorem field?_mergeEntries_of_some (hnew : TextKeysDistinct new) (h : field? new name = some v) :
    field? (mergeEntries base new) name = some (mergeInto (field? base name) v) := by
  rw [field?_mergeEntries hnew, h]

section Kept

variable {p : Value → Prop}

/-- What the entries have, and have still with another value, they have after one was set. -/
theorem forall_mem_insert {q : Value × Value → Prop} (hentries : ∀ entry ∈ entries, q entry)
    (hset : ∀ entry ∈ entries, q (entry.1, v)) (hlast : q (key, v)) :
    ∀ entry ∈ insert entries key v, q entry := by
  intro entry hentry
  rw [insert] at hentry
  split at hentry
  · obtain ⟨old, hold, rfl⟩ := List.mem_map.mp hentry
    split
    · exact hset old hold
    · exact hentries old hold
  · rcases List.mem_append.mp hentry with hold | hnew
    · exact hentries entry hold
    · rw [List.mem_singleton.mp hnew]
      exact hlast

theorem mem_of_find? {found : Value} (h : find? entries key = some found) :
    ∃ entry ∈ entries, entry.2 = found := by
  obtain ⟨entry, hentry, hfound⟩ := Option.map_eq_some_iff.mp h
  exact ⟨entry, List.mem_of_find?_eq_some hentry, hfound⟩

/-- What the entries of the earlier layer have, and every value of the later one has when it is
merged in, the entries of the merge have. -/
theorem forall_mem_mergeEntries (p : Value → Prop) (hbase : ∀ entry ∈ base, p entry.2)
    (hnew : ∀ entry ∈ new, ∀ old, (∀ o ∈ old, p o) → p (mergeInto old entry.2)) :
    ∀ entry ∈ mergeEntries base new, p entry.2 := by
  induction new generalizing base with
  | nil => exact hbase
  | cons entry rest ih =>
      obtain ⟨key, v⟩ := entry
      obtain ⟨hentry, hrest⟩ := List.forall_mem_cons.mp hnew
      have hmerged : p (mergeInto (find? base key) v) := by
        refine hentry _ fun old hold => ?_
        obtain ⟨found, hfound, rfl⟩ := mem_of_find? hold
        exact hbase found hfound
      rw [mergeEntries]
      exact ih (forall_mem_insert hbase (fun _ _ => hmerged) hmerged) hrest

/-- The keys of a merge are those of the two layers. -/
theorem forall_key_mergeEntries (hbase : ∀ entry ∈ base, p entry.1)
    (hnew : ∀ entry ∈ new, p entry.1) : ∀ entry ∈ mergeEntries base new, p entry.1 := by
  induction new generalizing base with
  | nil => exact hbase
  | cons entry rest ih =>
      obtain ⟨key, v⟩ := entry
      rw [mergeEntries]
      apply ih
      · exact forall_mem_insert hbase hbase (hnew (key, v) List.mem_cons_self)
      · exact fun entry hentry => hnew entry (List.mem_cons_of_mem _ hentry)

theorem forall_key_of_insert (h : ∀ entry ∈ insert entries key v, p entry.1) :
    ∀ entry ∈ entries, p entry.1 := by
  intro entry hentry
  rw [insert] at h
  split at h
  · have hmem := h _ (List.mem_map_of_mem hentry)
    split at hmem <;> exact hmem
  · exact h entry (List.mem_append_left _ hentry)

/-- The keys of the earlier layer are among those of a merge. -/
theorem forall_key_of_mergeEntries (h : ∀ entry ∈ mergeEntries base new, p entry.1) :
    ∀ entry ∈ base, p entry.1 := by
  induction new generalizing base with
  | nil => exact h
  | cons entry rest ih => exact forall_key_of_insert (ih h)

end Kept

theorem TextKeysDistinct.insert (h : TextKeysDistinct entries) :
    TextKeysDistinct (insert entries key v) := by
  rw [Value.insert]
  split
  · refine List.pairwise_map.mpr (h.imp fun {a b} hab name ha hb => ?_)
    have hkeys (entry : Value × Value) :
        (if key.equals entry.1 = true then (entry.1, v) else entry).1 = entry.1 := by
      split <;> rfl
    rw [hkeys] at ha hb
    exact hab name ha hb
  · rename_i hnew
    refine List.pairwise_append.mpr ⟨h, List.pairwise_singleton _ _, ?_⟩
    intro entry hentry last hlast name hname hkey
    rw [List.mem_singleton.mp hlast] at hkey
    apply hnew
    refine List.any_eq_true.mpr ⟨entry, hentry, ?_⟩
    rw [keyText?_eq_some_iff.mp hname]
    exact equals_str_iff.mpr (keyText?_eq_some_iff.mp hkey)

theorem TextKeysDistinct.mergeEntries (h : TextKeysDistinct base) :
    TextKeysDistinct (mergeEntries base new) := by
  induction new generalizing base with
  | nil => exact h
  | cons entry rest ih =>
      rw [Value.mergeEntries]
      exact ih h.insert

/-- Whether a value is a collection that can be met again inside itself. -/
def isLoop : Value → Bool
  | .loop _ _ => true
  | _ => false

/-- The entries of a mapping. -/
def mapFields? : Value → Option (List (Value × Value))
  | .map fields => some fields
  | _ => none

/-- A section of a layer: if it is a mapping, its names are distinct, and nothing in it is met again
inside itself. -/
structure IsPlainSection (v : Value) : Prop where
  finite : v.isLoop = false
  distinct : ∀ fields ∈ v.mapFields?, TextKeysDistinct fields
  fields_finite : ∀ fields ∈ v.mapFields?, ∀ field ∈ fields, field.2.isLoop = false

instance (v : Value) : Decidable v.IsPlainSection :=
  decidable_of_iff (v.isLoop = false ∧ (∀ fields ∈ v.mapFields?, TextKeysDistinct fields) ∧
      ∀ fields ∈ v.mapFields?, ∀ field ∈ fields, field.2.isLoop = false)
    ⟨fun h => ⟨h.1, h.2.1, h.2.2⟩, fun h => ⟨h.finite, h.distinct, h.fields_finite⟩⟩

theorem isPlainSection_map_iff {fields : List (Value × Value)} :
    (Value.map fields).IsPlainSection ↔
      TextKeysDistinct fields ∧ ∀ field ∈ fields, field.2.isLoop = false := by
  constructor
  · intro h
    exact ⟨h.distinct fields rfl, h.fields_finite fields rfl⟩
  · rintro ⟨hdistinct, hfinite⟩
    refine ⟨rfl, fun found hfound => ?_, fun found hfound => ?_⟩
    · exact Option.some.inj hfound ▸ hdistinct
    · exact Option.some.inj hfound ▸ hfinite

/-- A value that is no loop is looked into as it is. -/
theorem eq_of_opened {fields : List (Value × Value)} (h : v.isLoop = false)
    (hopened : v.opened = .map fields) : v = .map fields := by
  cases v with
  | loop label body => exact Bool.noConfusion h
  | _ => exact hopened

/-- A layer: sections under distinct names. -/
structure IsPlainLayer (entries : List (Value × Value)) : Prop where
  distinct : TextKeysDistinct entries
  plain : ∀ entry ∈ entries, entry.2.IsPlainSection

instance (entries : List (Value × Value)) : Decidable (IsPlainLayer entries) :=
  decidable_of_iff (TextKeysDistinct entries ∧ ∀ entry ∈ entries, entry.2.IsPlainSection)
    ⟨fun h => ⟨h.1, h.2⟩, fun h => ⟨h.distinct, h.plain⟩⟩

theorem mergeInto_map_of_not_map {old : Option Value} {fields : List (Value × Value)}
    (hold : ∀ older, old.map opened ≠ some (.map older)) :
    mergeInto old (.map fields) = .map fields := by
  rw [mergeInto]
  split
  · rename_i older holder
    exact absurd holder (hold older)
  · rfl

/-- A value without an older one stays what it is. -/
theorem mergeInto_none (v : Value) : mergeInto none v = v := by
  cases v <;> simp [mergeInto]

theorem mergeInto_map_of_map {old : Option Value} {older fields : List (Value × Value)}
    (hold : old.map opened = some (.map older)) :
    mergeInto old (.map fields) = .map (mergeEntries older fields) := by
  rw [mergeInto, hold]

/-- A mapping stays one when it is merged in, and another value wins. -/
theorem mergeInto_eq (old : Option Value) (hv : v.isLoop = false) :
    (∃ fields merged, v = .map fields ∧ mergeInto old v = .map merged) ∨
      (∀ fields, v ≠ .map fields) ∧ mergeInto old v = v := by
  cases v with
  | map fields =>
      left
      by_cases hold : ∃ older, old.map opened = some (.map older)
      · obtain ⟨older, hold⟩ := hold
        exact ⟨fields, _, rfl, mergeInto_map_of_map hold⟩
      · exact ⟨fields, _, rfl, mergeInto_map_of_not_map fun older h => hold ⟨older, h⟩⟩
  | loop label body => exact Bool.noConfusion hv
  | _ =>
      right
      constructor
      · intro fields h
        exact nomatch h
      · rfl

theorem isLoop_mergeInto (old : Option Value) (hv : v.isLoop = false) :
    (mergeInto old v).isLoop = false := by
  rcases mergeInto_eq old hv with ⟨fields, merged, -, hmerged⟩ | ⟨-, hsame⟩
  · rw [hmerged]
    rfl
  · rwa [hsame]

theorem IsPlainSection.mergeInto {old : Option Value} (hold : ∀ o ∈ old, o.IsPlainSection)
    (hv : v.IsPlainSection) : (Value.mergeInto old v).IsPlainSection := by
  rcases mergeInto_eq old hv.finite with ⟨fields, merged, rfl, hmerged⟩ | ⟨-, hsame⟩
  · by_cases hmap : ∃ older, old.map opened = some (.map older)
    · obtain ⟨older, holder⟩ := hmap
      obtain ⟨o, rfl, hopened⟩ := Option.map_eq_some_iff.mp holder
      have ho := hold o rfl
      obtain rfl : o = .map older := eq_of_opened ho.finite hopened
      obtain ⟨hdistinct, hfinite⟩ := isPlainSection_map_iff.mp ho
      rw [mergeInto_map_of_map holder]
      refine isPlainSection_map_iff.mpr ⟨hdistinct.mergeEntries, ?_⟩
      exact forall_mem_mergeEntries (·.isLoop = false) hfinite fun field hfield old _ =>
        isLoop_mergeInto old ((isPlainSection_map_iff.mp hv).2 field hfield)
    · rw [mergeInto_map_of_not_map fun older h => hmap ⟨older, h⟩]
      exact hv
  · rwa [hsame]

theorem IsPlainLayer.mergeEntries (hbase : IsPlainLayer base) (hnew : IsPlainLayer new) :
    IsPlainLayer (mergeEntries base new) :=
  ⟨hbase.distinct.mergeEntries,
    forall_mem_mergeEntries IsPlainSection hbase.plain fun entry hentry _ hold =>
      (hnew.plain entry hentry).mergeInto hold⟩

theorem isPlainLayer_nil : IsPlainLayer [] :=
  ⟨List.Pairwise.nil, fun _ hentry => nomatch hentry⟩

def fieldAt? (entries : List (Value × Value)) (sectionName name : String) : Option Value :=
  match (field? entries sectionName).map opened with
  | some (.map fields) => field? fields name
  | _ => none

/-- A value as it counts where no mapping is wanted: mappings are not told apart. -/
def flat : Value → Value
  | .map _ => .map []
  | v => v

theorem flat_mergeInto (old : Option Value) (hv : v.isLoop = false) :
    (mergeInto old v).flat = v.flat := by
  rcases mergeInto_eq old hv with ⟨fields, merged, rfl, hmerged⟩ | ⟨-, hsame⟩
  · rw [hmerged]
    rfl
  · rw [hsame]

/-- The value under a name in a section, as it counts where no mapping is wanted. -/
def leafAt? (entries : List (Value × Value)) (sectionName name : String) : Option Value :=
  (fieldAt? entries sectionName name).map flat

variable {sectionName : String}

theorem fieldAt?_of_section {fields : List (Value × Value)}
    (h : field? entries sectionName = some (.map fields)) :
    fieldAt? entries sectionName name = field? fields name := by
  rw [fieldAt?, h]
  rfl

theorem fieldAt?_of_none (h : field? entries sectionName = none) :
    fieldAt? entries sectionName name = none := by
  rw [fieldAt?, h]
  rfl

theorem leafAt?_of_section {fields : List (Value × Value)}
    (h : field? entries sectionName = some (.map fields)) :
    leafAt? entries sectionName name = (field? fields name).map flat := by
  rw [leafAt?, fieldAt?_of_section h]

theorem leafAt?_of_not_map
    (h : ∀ fields, (field? entries sectionName).map opened ≠ some (.map fields)) :
    leafAt? entries sectionName name = none := by
  rw [leafAt?, fieldAt?]
  split
  · rename_i fields hfields
    exact absurd hfields (h fields)
  · rfl

/-- The fields of a section win over those of another mapping. -/
theorem map_flat_field?_mergeEntries {older fields : List (Value × Value)}
    (hdistinct : TextKeysDistinct fields) (hfinite : ∀ field ∈ fields, field.2.isLoop = false) :
    (field? (mergeEntries older fields) name).map flat =
      ((field? fields name).map flat).or ((field? older name).map flat) := by
  rw [field?_mergeEntries hdistinct]
  cases hfield : field? fields name with
  | none => rfl
  | some w => exact congrArg some (flat_mergeInto _ (hfinite _ (mem_of_field? hfield)))

/-- The later one of two layers wins wherever it gives a value, if its section is a mapping. -/
theorem leafAt?_mergeEntries (hnew : IsPlainLayer new)
    (hsection : ∀ v, field? new sectionName = some v → ∃ fields, v = .map fields) :
    leafAt? (mergeEntries base new) sectionName name =
      (leafAt? new sectionName name).or (leafAt? base sectionName name) := by
  cases hfield : field? new sectionName with
  | none =>
      have hmerged : field? (mergeEntries base new) sectionName = field? base sectionName :=
        field?_mergeEntries_of_none hnew.distinct hfield
      have hnone : leafAt? new sectionName name = none := by
        rw [leafAt?, fieldAt?_of_none hfield]
        rfl
      rw [hnone, Option.none_or, leafAt?, leafAt?, fieldAt?, fieldAt?, hmerged]
  | some v =>
      obtain ⟨fields, rfl⟩ := hsection v hfield
      obtain ⟨hdistinct, hfinite⟩ :=
        isPlainSection_map_iff.mp (hnew.plain _ (mem_of_field? hfield))
      have hmerged : field? (mergeEntries base new) sectionName =
          some (mergeInto (field? base sectionName) (.map fields)) :=
        field?_mergeEntries_of_some hnew.distinct hfield
      rw [leafAt?_of_section hfield]
      by_cases hmap : ∃ older, (field? base sectionName).map opened = some (.map older)
      · obtain ⟨older, holder⟩ := hmap
        have hbase : leafAt? base sectionName name = (field? older name).map flat := by
          rw [leafAt?, fieldAt?, holder]
        rw [mergeInto_map_of_map holder] at hmerged
        rw [leafAt?_of_section hmerged, hbase]
        exact map_flat_field?_mergeEntries hdistinct hfinite
      · have hbase : leafAt? base sectionName name = none :=
          leafAt?_of_not_map fun older holder => hmap ⟨older, holder⟩
        rw [mergeInto_map_of_not_map fun older h => hmap ⟨older, h⟩] at hmerged
        rw [leafAt?_of_section hmerged, hbase, Option.or_none]

theorem field?_filter {keep : Value × Value → Bool} {kept : Bool}
    (hkeep : ∀ v, keep (.str name, v) = kept) :
    field? (entries.filter keep) name = if kept then field? entries name else none := by
  induction entries with
  | nil => cases kept <;> rfl
  | cons entry rest ih =>
      obtain ⟨key, v⟩ := entry
      by_cases hkey : key = .str name
      · subst hkey
        cases kept with
        | true => rw [List.filter_cons_of_pos (hkeep v), field?_cons_self, field?_cons_self]; rfl
        | false => rw [List.filter_cons_of_neg (by simp [hkeep]), ih]; rfl
      · rw [field?_cons_of_ne hkey, ← ih, List.filter_cons]
        split
        · rw [field?_cons_of_ne hkey]
        · rfl

/-- Where entries are changed one by one, and their keys kept, what stands under a text is what
stood there, changed. -/
theorem field?_filterMap {change : Value × Value → Option (Value × Value)}
    (hkeys : ∀ entry changed, change entry = some changed → changed.1 = entry.1)
    (hdistinct : TextKeysDistinct entries) :
    field? (entries.filterMap change) name =
      (field? entries name).bind fun v => (change (.str name, v)).map (·.2) := by
  induction entries with
  | nil => rfl
  | cons entry rest ih =>
      obtain ⟨key, v⟩ := entry
      have hrest := ih (List.pairwise_cons.mp hdistinct).2
      by_cases hkey : key = .str name
      · subst hkey
        rw [hdistinct.field?_rest] at hrest
        rw [field?_cons_self]
        cases hchange : change (.str name, v) with
        | none =>
            rw [List.filterMap_cons_none hchange, hrest, Option.bind_some, hchange]
            rfl
        | some changed =>
            obtain ⟨key, w⟩ := changed
            obtain rfl : key = .str name := hkeys _ _ hchange
            rw [List.filterMap_cons_some hchange, field?_cons_self, Option.bind_some, hchange]
            rfl
      · rw [field?_cons_of_ne hkey]
        cases hchange : change (key, v) with
        | none => rw [List.filterMap_cons_none hchange, hrest]
        | some changed =>
            obtain ⟨key', w⟩ := changed
            obtain rfl : key' = key := hkeys _ _ hchange
            rw [List.filterMap_cons_some hchange, field?_cons_of_ne hkey, hrest]

end Value

end TaintTriage
