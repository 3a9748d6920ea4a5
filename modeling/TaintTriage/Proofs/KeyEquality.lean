import TaintTriage.Proofs.MergeLayers

/-!
Keys of mappings.  Keys are looked up by equality of values, which does not see how a number or a
moment was written.  On values that can be keys it is an equivalence, so that setting an entry, and
merging one mapping into another, change what is found under their own keys and nothing else.
-/

namespace TaintTriage

/-- Moments that are the same are the same as the same others. -/
theorem Moment.isSame_congr {m n : Moment} (h : m.isSame n = true) (t : Moment) :
    n.isSame t = m.isSame t := by
  rw [Moment.isSame] at h ⊢
  rw [Moment.isSame]
  cases hm : m.instant? with
  | none =>
      cases hn : n.instant? with
      | none =>
          rw [hm, hn, beq_iff_eq] at h
          rw [h]
      | some b =>
          rw [hm, hn] at h
          exact nomatch h
  | some a =>
      cases hn : n.instant? with
      | none =>
          rw [hm, hn] at h
          exact nomatch h
      | some b =>
          rw [hm, hn, beq_iff_eq] at h
          rw [h]
          cases t.instant? <;> rfl

theorem Moment.isSame_refl (m : Moment) : m.isSame m = true := by
  rw [Moment.isSame]
  cases m.instant? with
  | none => exact beq_self_eq_true _
  | some a => exact beq_self_eq_true a

namespace Value

variable {key other v w : Value} {entries base new : List (Value × Value)}

/-- A number equals just the values that stand for the same number. -/
theorem equals_of_magnitude? {m : Magnitude} (h : v.magnitude? = some m) (w : Value) :
    v.equals w = (w.magnitude? == some m) := by
  cases v with
  | bool | int =>
      obtain rfl := Option.some.inj h
      rw [equals]
  | float x => rw [equals, h]
  | _ => cases h

theorem exists_magnitude?_float (x : Float) : ∃ m, (Value.float x).magnitude? = some m := by
  rw [magnitude?]
  split <;> exact ⟨_, rfl⟩

theorem equals_self : ∀ {v : Value}, v.isHashable = true → v.equals v = true
  | .null, _ => rfl
  | .bool _, _ | .int _, _ | .float _, _ => by
      rw [equals]
      exact beq_self_eq_true _
  | .str _, _ | .bytes _, _ | .day _, _ => by
      rw [equals]
      exact beq_self_eq_true _
  | .moment m, _ => by
      rw [equals]
      exact m.isSame_refl
  | .pair a b, h => by
      obtain ⟨ha, hb⟩ := Bool.and_eq_true_iff.mp h
      rw [equals, equals_self ha, equals_self hb]
      rfl

/-- A key that equals another one equals what this one does. -/
theorem equals_congr : ∀ {v w : Value}, v.isHashable = true → v.equals w = true →
    ∀ u : Value, w.equals u = v.equals u
  | .null, w, _, h, u => by
      cases w with
      | null => rfl
      | _ => cases h
  | .bool b, w, _, h, u => by
      have hnumber : w.magnitude? = some (.whole b.toInt) := beq_iff_eq.mp h
      rw [equals_of_magnitude? hnumber, equals]
  | .int n, w, _, h, u => by
      have hnumber : w.magnitude? = some (.whole n) := beq_iff_eq.mp h
      rw [equals_of_magnitude? hnumber, equals]
  | .float x, w, _, h, u => by
      obtain ⟨m, hm⟩ := exists_magnitude?_float x
      rw [equals_of_magnitude? hm, beq_iff_eq] at h
      rw [equals_of_magnitude? hm, equals_of_magnitude? h]
  | .str s, w, _, h, u => by
      rw [str_equals_iff.mp h]
  | .bytes s, w, _, h, u => by
      cases w with
      | bytes t => rw [beq_iff_eq.mp (show (s == t) = true from h)]
      | _ => cases h
  | .day d, w, _, h, u => by
      cases w with
      | day e => rw [beq_iff_eq.mp (show (d == e) = true from h)]
      | _ => cases h
  | .moment m, w, _, h, u => by
      cases w with
      | moment n =>
          cases u with
          | moment t => exact Moment.isSame_congr h t
          | _ => rfl
      | _ => cases h
  | .pair a b, w, hhash, h, u => by
      obtain ⟨ha, hb⟩ := Bool.and_eq_true_iff.mp hhash
      cases w with
      | pair c d =>
          obtain ⟨hc, hd⟩ := Bool.and_eq_true_iff.mp h
          cases u with
          | pair e f => rw [equals, equals, equals_congr ha hc, equals_congr hb hd]
          | _ => rfl
      | _ => cases h

theorem equals_symm (hv : v.isHashable = true) (h : v.equals w = true) : w.equals v = true := by
  rw [equals_congr hv h, equals_self hv]

/-- Only what can be a key itself equals a key. -/
theorem isHashable_of_equals : ∀ {v w : Value}, w.isHashable = true → v.equals w = true →
    v.isHashable = true
  | .null, _, _, _ | .bool _, _, _, _ | .int _, _, _, _ | .float _, _, _, _ | .str _, _, _, _
  | .bytes _, _, _, _ | .day _, _, _, _ | .moment _, _, _, _ => rfl
  | .pair a b, w, hw, h => by
      cases w with
      | pair c d =>
          obtain ⟨hc, hd⟩ := Bool.and_eq_true_iff.mp hw
          obtain ⟨hac, hbd⟩ := Bool.and_eq_true_iff.mp h
          rw [isHashable, isHashable_of_equals hc hac, isHashable_of_equals hd hbd]
          rfl
      | _ => cases h
  | .list _, w, hw, h | .set _, w, hw, h | .map _, w, hw, h | .loop _ _, w, hw, h
  | .again _, w, hw, h => by
      cases w <;> simp [equals, isHashable] at hw h

theorem equals_comm (hv : v.isHashable = true) (w : Value) : v.equals w = w.equals v := by
  rw [Bool.eq_iff_iff]
  constructor
  · exact equals_symm hv
  · intro h
    exact equals_symm (isHashable_of_equals hv h) h

/-- A key equals both of two equal values or none of them. -/
theorem equals_eq_of_equals (hkey : key.isHashable = true) (h : v.equals w = true) :
    key.equals w = key.equals v := by
  rw [Bool.eq_iff_iff]
  constructor
  · intro hw
    have hhash : w.isHashable = true := isHashable_of_equals hkey (equals_symm hkey hw)
    rw [← equals_congr hkey hw v, equals_comm hhash, h]
  · intro hv
    rw [← equals_congr hkey hv w, h]

theorem find?_cons : find? ((other, v) :: entries) key =
    if key.equals other then some v else find? entries key := by
  rw [find?, find?, List.find?_cons]
  cases key.equals other <;> rfl

theorem find?_append (later : List (Value × Value)) :
    find? (entries ++ later) key = (find? entries key).or (find? later key) := by
  rw [find?, find?, find?, List.find?_append, Option.map_or]

theorem any_equals_iff :
    (entries.any fun entry => key.equals entry.1) = (find? entries key).isSome := by
  rw [find?, Option.isSome_map, List.isSome_find?]

theorem find?_eq_none_iff :
    find? entries key = none ↔ ∀ entry ∈ entries, key.equals entry.1 = false := by
  simp [find?]

/-- Equal keys find the same. -/
theorem find?_congr (hkey : key.isHashable = true) (h : key.equals other = true) :
    find? entries other = find? entries key := by
  have hsame : other.equals = key.equals := funext (equals_congr hkey h)
  rw [find?, find?, hsame]

theorem find?_map_set (hkey : key.isHashable = true) :
    find? (entries.map fun entry => if key.equals entry.1 then (entry.1, v) else entry) other =
      if key.equals other then (find? entries other).map fun _ => v else find? entries other := by
  induction entries with
  | nil => simp [find?]
  | cons entry rest ih =>
      obtain ⟨head, w⟩ := entry
      have hset : (if key.equals head then (head, v) else (head, w)) =
          (head, if key.equals head then v else w) := by
        split <;> rfl
      rw [List.map_cons, hset, find?_cons, find?_cons, ih]
      cases hfound : other.equals head with
      | false => rfl
      | true =>
          -- The entry found has an equal key, so it was set if `other` equals the key that was.
          rw [equals_eq_of_equals hkey hfound]
          cases key.equals other <;> rfl

/-- Setting an entry changes what is found under its key and nothing else. -/
theorem find?_insert (hkey : key.isHashable = true) :
    find? (insert entries key v) other =
      if key.equals other then some v else find? entries other := by
  rw [insert]
  split
  · rename_i hany
    rw [find?_map_set hkey]
    cases hother : key.equals other with
    | false => rfl
    | true =>
        rw [any_equals_iff, ← find?_congr hkey hother] at hany
        obtain ⟨w, hw⟩ := Option.isSome_iff_exists.mp hany
        rw [hw]
        rfl
  · rename_i hnew
    rw [any_equals_iff, Option.not_isSome_iff_eq_none] at hnew
    rw [find?_append, find?_cons, ← equals_comm hkey]
    cases hother : key.equals other with
    | false => exact Option.or_none
    | true =>
        rw [find?_congr hkey hother, hnew]
        rfl

/-- The keys of a mapping can be keys, and no two of them are equal. -/
structure KeysDistinct (entries : List (Value × Value)) : Prop where
  hashable : ∀ entry ∈ entries, entry.1.isHashable = true
  distinct : entries.Pairwise fun a b => a.1.equals b.1 = false

instance (entries : List (Value × Value)) : Decidable (KeysDistinct entries) :=
  decidable_of_iff ((∀ entry ∈ entries, entry.1.isHashable = true) ∧
      entries.Pairwise fun a b => a.1.equals b.1 = false)
    ⟨fun h => ⟨h.1, h.2⟩, fun h => ⟨h.hashable, h.distinct⟩⟩

theorem keysDistinct_cons_iff :
    KeysDistinct ((key, v) :: entries) ↔
      key.isHashable = true ∧ find? entries key = none ∧ KeysDistinct entries := by
  rw [find?_eq_none_iff]
  constructor
  · rintro ⟨hhashable, hdistinct⟩
    obtain ⟨hkey, hrest⟩ := List.forall_mem_cons.mp hhashable
    obtain ⟨hnew, hothers⟩ := List.pairwise_cons.mp hdistinct
    exact ⟨hkey, hnew, hrest, hothers⟩
  · rintro ⟨hkey, hnew, hrest, hothers⟩
    exact ⟨List.forall_mem_cons.mpr ⟨hkey, hrest⟩, List.pairwise_cons.mpr ⟨hnew, hothers⟩⟩

theorem KeysDistinct.find?_of_mem (h : KeysDistinct entries) (hmem : (other, v) ∈ entries)
    (hequal : key.equals other = true) : find? entries key = some v := by
  induction entries with
  | nil => exact absurd hmem List.not_mem_nil
  | cons entry rest ih =>
      obtain ⟨head, w⟩ := entry
      obtain ⟨hhead, hnew, hrest⟩ := keysDistinct_cons_iff.mp h
      rw [find?_cons]
      rcases List.mem_cons.mp hmem with heq | hmem
      · obtain ⟨rfl, rfl⟩ := Prod.mk.inj heq
        rw [if_pos hequal]
      · have hother : head.equals other = false := find?_eq_none_iff.mp hnew _ hmem
        rw [equals_eq_of_equals hhead hequal, equals_comm hhead] at hother
        rw [if_neg (Bool.not_eq_true _ ▸ hother)]
        exact ih hrest hmem

theorem KeysDistinct.isHashable_of_find? (h : KeysDistinct entries)
    (hfind : find? entries key = some v) : key.isHashable = true := by
  obtain ⟨entry, hfound, -⟩ := Option.map_eq_some_iff.mp hfind
  have hentry : entry ∈ entries := List.mem_of_find?_eq_some hfound
  have hequal := List.find?_some hfound
  exact isHashable_of_equals (h.hashable entry hentry) hequal

theorem KeysDistinct.insert (h : KeysDistinct entries) (hkey : key.isHashable = true) :
    KeysDistinct (insert entries key v) := by
  rw [Value.insert]
  split
  · have hkeys (entry : Value × Value) :
        (if key.equals entry.1 = true then (entry.1, v) else entry).1 = entry.1 := by
      split <;> rfl
    constructor
    · intro entry hentry
      obtain ⟨old, hold, rfl⟩ := List.mem_map.mp hentry
      rw [hkeys]
      exact h.hashable old hold
    · refine List.pairwise_map.mpr (h.distinct.imp fun {a b} hab => ?_)
      rw [hkeys, hkeys]
      exact hab
  · rename_i hnew
    rw [any_equals_iff, Option.not_isSome_iff_eq_none, find?_eq_none_iff] at hnew
    constructor
    · exact List.forall_mem_append.mpr ⟨h.hashable, List.forall_mem_singleton.mpr hkey⟩
    · refine List.pairwise_append.mpr ⟨h.distinct, List.pairwise_singleton _ _, ?_⟩
      intro entry hentry last hlast
      rw [List.mem_singleton.mp hlast, ← equals_comm hkey]
      exact hnew entry hentry

theorem KeysDistinct.mergeEntries (h : KeysDistinct base) (hnew : KeysDistinct new) :
    KeysDistinct (mergeEntries base new) := by
  induction new generalizing base with
  | nil => exact h
  | cons entry rest ih =>
      obtain ⟨key, v⟩ := entry
      obtain ⟨hkey, -, hrest⟩ := keysDistinct_cons_iff.mp hnew
      rw [Value.mergeEntries]
      exact ih (h.insert hkey) hrest

/-- What a merge holds under a key. -/
theorem find?_mergeEntries (hnew : KeysDistinct new) :
    find? (mergeEntries base new) key =
      match find? new key with
      | none => find? base key
      | some v => some (mergeInto (find? base key) v) := by
  induction new generalizing base with
  | nil => rfl
  | cons entry rest ih =>
      obtain ⟨head, v⟩ := entry
      obtain ⟨hhead, hfresh, hrest⟩ := keysDistinct_cons_iff.mp hnew
      rw [mergeEntries, ih hrest, find?_cons, find?_insert hhead, ← equals_comm hhead]
      cases hequal : head.equals key with
      | false => rfl
      | true =>
          rw [find?_congr hhead hequal, find?_congr hhead hequal, hfresh]
          rfl

theorem find?_mergeEntries_of_none (hnew : KeysDistinct new) (h : find? new key = none) :
    find? (mergeEntries base new) key = find? base key := by
  rw [find?_mergeEntries hnew, h]

theorem find?_mergeEntries_of_some (hnew : KeysDistinct new) (h : find? new key = some v) :
    find? (mergeEntries base new) key = some (mergeInto (find? base key) v) := by
  rw [find?_mergeEntries hnew, h]

/-- Setting what is there already changes nothing. -/
theorem insert_of_find? (h : KeysDistinct entries) (hfind : find? entries key = some v) :
    insert entries key v = entries := by
  have hany : (entries.any fun entry => key.equals entry.1) = true := by
    rw [any_equals_iff, hfind]
    rfl
  rw [Value.insert, if_pos hany]
  refine (List.map_congr_left fun entry hentry => ?_).trans (List.map_id entries)
  split
  · rename_i hequal
    have hfound := h.find?_of_mem hentry hequal
    rw [hfind, Option.some.injEq] at hfound
    rw [hfound]
    rfl
  · rfl

/-- A merge in which every entry leaves what is there is no change. -/
theorem mergeEntries_of_absorbed (h : KeysDistinct base)
    (hnew : ∀ entry ∈ new, ∃ old, find? base entry.1 = some old ∧
      mergeInto (some old) entry.2 = old) : mergeEntries base new = base := by
  induction new with
  | nil => rfl
  | cons entry rest ih =>
      obtain ⟨key, v⟩ := entry
      obtain ⟨⟨old, hfind, hsame⟩, hrest⟩ := List.forall_mem_cons.mp hnew
      rw [mergeEntries, hfind, hsame, insert_of_find? h hfind]
      exact ih hrest

/-- A merge in which every key is new puts the entries behind the others. -/
theorem mergeEntries_of_fresh (hnew : KeysDistinct new)
    (hfresh : ∀ entry ∈ new, find? base entry.1 = none)
    (hvalues : ∀ entry ∈ new, mergeInto none entry.2 = entry.2) :
    mergeEntries base new = base ++ new := by
  induction new generalizing base with
  | nil => rw [mergeEntries, List.append_nil]
  | cons entry rest ih =>
      obtain ⟨key, v⟩ := entry
      obtain ⟨hkey, hunequal, hrest⟩ := keysDistinct_cons_iff.mp hnew
      obtain ⟨hfreshKey, hfreshRest⟩ := List.forall_mem_cons.mp hfresh
      obtain ⟨hvalue, hvaluesRest⟩ := List.forall_mem_cons.mp hvalues
      have hinsert : insert base key v = base ++ [(key, v)] := by
        have hany : ¬ (base.any fun entry => key.equals entry.1) = true := by
          rw [any_equals_iff, hfreshKey]
          exact Bool.false_ne_true
        rw [Value.insert, if_neg hany]
      have hfreshLater : ∀ entry ∈ rest, find? (base ++ [(key, v)]) entry.1 = none := by
        intro entry hentry
        rw [find?_append, hfreshRest entry hentry, find?_cons, ← equals_comm hkey,
          find?_eq_none_iff.mp hunequal entry hentry]
        rfl
      rw [mergeEntries, hfreshKey, hvalue, hinsert, ih hrest hfreshLater hvaluesRest,
        List.append_assoc]
      rfl

end Value

end TaintTriage
