import TaintTriage.Proofs.MergeLayers
import TaintTriage.Proofs.Outcome
import TaintTriage.Settings.Environment

/-!
What single variables take out of the entries of files.  A variable is looked for under each name,
which only works where the name has a text and can be written in bytes; where all names are such,
a field is taken out of its section exactly if it has a variable of its own.
-/

namespace TaintTriage.Settings

open Value

section Names

variable {environment : Environment} {head : String} {name : String}

/-- A name that can be looked for among those of variables. -/
def IsVariableName (name : String) : Prop :=
  Text.encodeFault? 0 (Text.toUpper name).toList = none

instance (name : String) : Decidable (IsVariableName name) :=
  inferInstanceAs (Decidable (_ = none))

theorem exists_isSet_iff : (∃ found, isSet environment name = .ok found) ↔ IsVariableName name := by
  rw [isSet, IsVariableName]
  cases Text.encodeFault? 0 (Text.toUpper name).toList <;> simp

theorem hasVariable_ok (environment : Environment) (name : String) :
    hasVariable environment (.ok name) = isSet environment name := rfl

/-- There is a name, and it can be looked for. -/
def IsFindable (shown : Except ValueFault String) : Prop :=
  ∃ name, shown = .ok name ∧ IsVariableName name

theorem exists_hasVariable_iff (environment : Environment) {shown : Except ValueFault String} :
    (∃ found, hasVariable environment shown = .ok found) ↔ IsFindable shown := by
  cases shown with
  | error cause => simp [hasVariable, IsFindable]
  | ok name => simpa [hasVariable, IsFindable] using exists_isSet_iff

theorem nameForSection_str (head sectionName : String) :
    nameForSection head (.str sectionName) = .ok (head ++ sectionName) := rfl

theorem nameForField_str (head sectionName name : String) :
    nameForField head (.str sectionName) (.str name) =
      .ok (head ++ sectionName ++ "__" ++ name) := rfl

theorem exists_append_of_nameForField {key field : Value}
    (h : nameForField head key field = .ok name) : ∃ rest, name = head ++ rest := by
  obtain ⟨start, hstart, hname⟩ := bind_eq_ok_iff.mp h
  obtain ⟨sectionName, -, hsection⟩ := bind_eq_ok_iff.mp hstart
  obtain ⟨fieldName, -, hfield⟩ := bind_eq_ok_iff.mp hname
  obtain rfl := Except.ok.inj hsection
  obtain rfl := Except.ok.inj hfield
  exact ⟨sectionName ++ "__" ++ fieldName, by simp only [String.append_assoc]⟩

/-- The names under which variables are looked for that override an entry, or a part of it. -/
def namesFor (head : String) (entry : Value × Value) : Except ValueFault (List String) :=
  match entry.2.opened with
  | .map fields => fields.mapM fun field => nameForField head entry.1 field.1
  | _ => do return [← nameForSection head entry.1]

/-- Variables can be looked for under all names of an entry. -/
def IsSearchable (head : String) (entry : Value × Value) : Prop :=
  ∃ names, namesFor head entry = .ok names ∧ ∀ name ∈ names, IsVariableName name

instance (head : String) (entry : Value × Value) : Decidable (IsSearchable head entry) :=
  decidableExistsOk (namesFor head entry)

theorem isSearchable_of_map_iff {key v : Value} {fields : List (Value × Value)}
    (hopened : v.opened = .map fields) :
    IsSearchable head (key, v) ↔ ∀ field ∈ fields,
      IsFindable (nameForField head key field.1) := by
  rw [IsSearchable, namesFor, hopened]
  constructor
  · rintro ⟨names, hnames, hvariable⟩ field hfield
    obtain ⟨name, hmem, hname⟩ := exists_mem_of_mapM hnames hfield
    exact ⟨name, hname, hvariable name hmem⟩
  · intro h
    obtain ⟨names, hnames⟩ := exists_mapM_eq_ok fun field hfield =>
      (h field hfield).imp fun name hname => hname.1
    refine ⟨names, hnames, fun name hmem => ?_⟩
    obtain ⟨field, hfield, hname⟩ := exists_of_mem_mapM hnames hmem
    obtain ⟨other, hother, hvariable⟩ := h field hfield
    exact Except.ok.inj (hother.symm.trans hname) ▸ hvariable

theorem isSearchable_of_not_map_iff {key v : Value} (h : ∀ fields, v.opened ≠ .map fields) :
    IsSearchable head (key, v) ↔ IsFindable (nameForSection head key) := by
  have hnames : namesFor head (key, v) = (do return [← nameForSection head key]) := by
    rw [namesFor]
    split
    · rename_i fields hopened
      exact absurd hopened (h fields)
    · rfl
  rw [IsSearchable, hnames]
  cases nameForSection head key <;> simp [IsFindable]

end Names

section Dropped

variable {environment : Environment} {head : String}

/-- Whether the environment has a variable, if it can be looked for. -/
def isOverridden (environment : Environment) (name : Except ValueFault String) : Bool :=
  (hasVariable environment name).toOption.getD false

theorem exists_isSet_of_isOverridden {shown : Except ValueFault String}
    (h : isOverridden environment shown = true) :
    ∃ name, shown = .ok name ∧ isSet environment name = .ok true := by
  cases shown with
  | error cause => exact Bool.noConfusion h
  | ok name =>
      rw [isOverridden, hasVariable_ok] at h
      cases hset : isSet environment name with
      | error fault =>
          rw [hset] at h
          exact Bool.noConfusion h
      | ok found =>
          rw [hset] at h
          exact ⟨name, rfl, hset.trans (congrArg Except.ok h)⟩

theorem hasVariable_eq_ok {shown : Except ValueFault String} (h : IsFindable shown) :
    hasVariable environment shown = .ok (isOverridden environment shown) := by
  obtain ⟨found, hfound⟩ := (exists_hasVariable_iff environment).mpr h
  rw [isOverridden, hfound]
  rfl

/-- The fields of a section for which there is no variable of their own. -/
def keptFields (environment : Environment) (head : String) (key : Value)
    (fields : List (Value × Value)) : List (Value × Value) :=
  fields.filter fun field => !isOverridden environment (nameForField head key field.1)

theorem field?_keptFields {fields : List (Value × Value)} {key : Value} {name : String} :
    field? (keptFields environment head key fields) name =
      if isOverridden environment (nameForField head key (.str name)) then none
      else field? fields name := by
  have hkeep (v : Value) : (fun field : Value × Value =>
      !isOverridden environment (nameForField head key field.1)) (.str name, v) =
        !isOverridden environment (nameForField head key (.str name)) := rfl
  rw [keptFields, field?_filter hkeep]
  cases isOverridden environment (nameForField head key (.str name)) <;> rfl

/-- An entry without what single variables override. -/
def keptEntry (environment : Environment) (head : String) (entry : Value × Value) :
    Option (Value × Value) :=
  match entry.2.opened with
  | .map fields =>
      let kept := keptFields environment head entry.1 fields
      if kept.isEmpty then none else some (entry.1, .map kept)
  | _ => if isOverridden environment (nameForSection head entry.1) then none else some entry

theorem keptEntry_of_map {key v : Value} {fields : List (Value × Value)}
    (hopened : v.opened = .map fields) :
    keptEntry environment head (key, v) =
      if (keptFields environment head key fields).isEmpty then none
      else some (key, .map (keptFields environment head key fields)) := by
  rw [keptEntry, hopened]

theorem keptEntry_of_not_map {key v : Value} (h : ∀ fields, v.opened ≠ .map fields) :
    keptEntry environment head (key, v) =
      if isOverridden environment (nameForSection head key) then none else some (key, v) := by
  rw [keptEntry]
  split
  · rename_i fields hopened
    exact absurd hopened (h fields)
  · rfl

/-- The test by which fields are kept in a section. -/
def keepsField (environment : Environment) (head : String) (key : Value) (field : Value × Value) :
    Except NameFault Bool := do
  return !(← hasVariable environment (nameForField head key field.1))

theorem exists_keepsField_iff {key : Value} {field : Value × Value} :
    (∃ keeps, keepsField environment head key field = .ok keeps) ↔
      IsFindable (nameForField head key field.1) := by
  rw [← exists_hasVariable_iff environment, keepsField]
  cases hasVariable environment (nameForField head key field.1) <;> simp

theorem filterM_keepsField_eq_ok_iff {key : Value} {fields kept : List (Value × Value)} :
    fields.filterM (keepsField environment head key) = .ok kept ↔
      (∀ field ∈ fields, IsFindable (nameForField head key field.1)) ∧
        keptFields environment head key fields = kept := by
  rw [filterM_eq_ok_iff]
  simp only [exists_keepsField_iff]
  refine and_congr_right fun hnames => ?_
  have hfilter : fields.filter
      (fun field => (keepsField environment head key field).toOption.getD false) =
        keptFields environment head key fields := by
    refine List.filter_congr fun field hfield => ?_
    rw [keepsField, hasVariable_eq_ok (hnames field hfield)]
    rfl
  rw [hfilter]

theorem withoutOverridden_of_map {key v : Value} {fields : List (Value × Value)}
    (hopened : v.opened = .map fields) :
    withoutOverridden environment head (key, v) = (do
      let kept ← fields.filterM (keepsField environment head key)
      return if kept.isEmpty then none else some (key, .map kept)) := by
  rw [withoutOverridden]
  dsimp only
  rw [hopened]
  rfl

theorem withoutOverridden_of_not_map {key v : Value} (h : ∀ fields, v.opened ≠ .map fields) :
    withoutOverridden environment head (key, v) = (do
      return if ← hasVariable environment (nameForSection head key) then none
        else some (key, v)) := by
  rw [withoutOverridden]
  dsimp only
  split
  · rename_i fields hopened
    exact absurd hopened (h fields)
  · rfl

/-- Where variables can be looked for under all names of an entry, it is left without what they
override; elsewhere the search fails. -/
theorem withoutOverridden_eq_ok_iff {entry : Value × Value} {left : Option (Value × Value)} :
    withoutOverridden environment head entry = .ok left ↔
      IsSearchable head entry ∧ keptEntry environment head entry = left := by
  obtain ⟨key, v⟩ := entry
  by_cases hmap : ∃ fields, v.opened = .map fields
  · obtain ⟨fields, hopened⟩ := hmap
    rw [isSearchable_of_map_iff hopened, withoutOverridden_of_map hopened, keptEntry_of_map hopened,
      bind_eq_ok_iff]
    constructor
    · rintro ⟨kept, hfiltered, hleft⟩
      obtain ⟨hnames, rfl⟩ := filterM_keepsField_eq_ok_iff.mp hfiltered
      exact ⟨hnames, Except.ok.inj hleft⟩
    · rintro ⟨hnames, rfl⟩
      exact ⟨_, filterM_keepsField_eq_ok_iff.mpr ⟨hnames, rfl⟩, rfl⟩
  · have hnot (fields : List (Value × Value)) : v.opened ≠ .map fields :=
      fun hopened => hmap ⟨fields, hopened⟩
    rw [isSearchable_of_not_map_iff hnot, withoutOverridden_of_not_map hnot,
      keptEntry_of_not_map hnot, bind_eq_ok_iff]
    constructor
    · rintro ⟨found, hfound, hleft⟩
      have hname := (exists_hasVariable_iff environment).mp ⟨found, hfound⟩
      obtain rfl := Except.ok.inj ((hasVariable_eq_ok hname).symm.trans hfound)
      exact ⟨hname, Except.ok.inj hleft⟩
    · rintro ⟨hname, rfl⟩
      exact ⟨_, hasVariable_eq_ok hname, rfl⟩

/-- The entries of a layer without what single variables override. -/
def keptEntries (environment : Environment) (head : String) (entries : List (Value × Value)) :
    List (Value × Value) :=
  entries.filterMap (keptEntry environment head)

/-- Where variables can be looked for under all names, the entries are left without what they
override; elsewhere the search fails. -/
theorem dropOverridden_eq_ok_iff {entries kept : List (Value × Value)} :
    dropOverridden environment head entries = .ok kept ↔
      (∀ entry ∈ entries, IsSearchable head entry) ∧
        keptEntries environment head entries = kept := by
  have hmapM (h : ∀ entry ∈ entries, IsSearchable head entry) :
      entries.mapM (withoutOverridden environment head) =
        .ok (entries.map (keptEntry environment head)) := by
    rw [mapM_eq_ok_iff, List.map_map]
    refine List.map_congr_left fun entry hentry => ?_
    exact withoutOverridden_eq_ok_iff.mpr ⟨h entry hentry, rfl⟩
  have hreduce : (entries.map (keptEntry environment head)).reduceOption =
      keptEntries environment head entries := by
    change (entries.map (keptEntry environment head)).filterMap id = _
    rw [List.filterMap_map]
    rfl
  rw [dropOverridden, bind_eq_ok_iff, ← hreduce]
  constructor
  · rintro ⟨left, hleft, hkept⟩
    have hentries : ∀ entry ∈ entries, IsSearchable head entry := by
      intro entry hentry
      obtain ⟨_, -, hone⟩ := exists_mem_of_mapM hleft hentry
      exact (withoutOverridden_eq_ok_iff.mp hone).1
    obtain rfl := Except.ok.inj ((hmapM hentries).symm.trans hleft)
    exact ⟨hentries, Except.ok.inj hkept⟩
  · rintro ⟨hentries, rfl⟩
    exact ⟨_, hmapM hentries, rfl⟩

theorem fst_keptEntry {entry changed : Value × Value}
    (h : keptEntry environment head entry = some changed) : changed.1 = entry.1 := by
  rw [keptEntry] at h
  split at h
  · simp only [Option.ite_none_left_eq_some, Option.some.injEq] at h
    rw [← h.2]
  · simp only [Option.ite_none_left_eq_some, Option.some.injEq] at h
    rw [← h.2]

theorem isPlainSection_keptEntry {entry changed : Value × Value} (hentry : entry.2.IsPlainSection)
    (h : keptEntry environment head entry = some changed) : changed.2.IsPlainSection := by
  obtain ⟨key, v⟩ := entry
  rw [keptEntry] at h
  split at h
  · rename_i fields hopened
    obtain rfl : v = .map fields := eq_of_opened hentry.finite hopened
    obtain ⟨hdistinct, hfinite⟩ := isPlainSection_map_iff.mp hentry
    simp only [Option.ite_none_left_eq_some, Option.some.injEq] at h
    rw [← h.2]
    exact isPlainSection_map_iff.mpr ⟨hdistinct.filter _,
      fun field hfield => hfinite field (List.mem_filter.mp hfield).1⟩
  · simp only [Option.ite_none_left_eq_some, Option.some.injEq] at h
    rw [← h.2]
    exact hentry

theorem textKeysDistinct_keptEntries {entries : List (Value × Value)}
    (h : TextKeysDistinct entries) : TextKeysDistinct (keptEntries environment head entries) := by
  refine List.pairwise_filterMap.mpr (h.imp fun {a b} hab a' ha b' hb name hname => ?_)
  rw [fst_keptEntry ha] at hname
  rw [fst_keptEntry hb]
  exact hab name hname

/-- What the keys of a layer have, those that are left have. -/
theorem forall_key_keptEntries {p : Value → Prop} {entries : List (Value × Value)}
    (h : ∀ entry ∈ entries, p entry.1) :
    ∀ entry ∈ keptEntries environment head entries, p entry.1 := by
  intro changed hchanged
  obtain ⟨entry, hentry, hchange⟩ := List.mem_filterMap.mp hchanged
  rw [fst_keptEntry hchange]
  exact h entry hentry

theorem isPlainLayer_keptEntries {entries : List (Value × Value)} (h : IsPlainLayer entries) :
    IsPlainLayer (keptEntries environment head entries) := by
  refine ⟨textKeysDistinct_keptEntries h.distinct, fun changed hchanged => ?_⟩
  obtain ⟨entry, hentry, hchange⟩ := List.mem_filterMap.mp hchanged
  exact isPlainSection_keptEntry (h.plain entry hentry) hchange

section Leaf

variable {entries : List (Value × Value)} {sectionName name : String}

theorem field?_keptEntries (h : TextKeysDistinct entries) :
    field? (keptEntries environment head entries) sectionName =
      (field? entries sectionName).bind fun v =>
        (keptEntry environment head (.str sectionName, v)).map (·.2) :=
  field?_filterMap (fun _ _ => fst_keptEntry) h

/-- A mapping that loses all of its fields is taken out itself, which its fields do not show. -/
theorem leafAt?_keptEntries_of_section {fields : List (Value × Value)}
    (h : TextKeysDistinct entries) (hfield : field? entries sectionName = some (.map fields)) :
    leafAt? (keptEntries environment head entries) sectionName name =
      (field? (keptFields environment head (.str sectionName) fields) name).map flat := by
  have hkeptEntries : field? (keptEntries environment head entries) sectionName = _ :=
    field?_keptEntries h
  rw [hfield, Option.bind_some, keptEntry_of_map rfl] at hkeptEntries
  cases hkept : keptFields environment head (.str sectionName) fields with
  | nil =>
      rw [hkept] at hkeptEntries
      rw [leafAt?, fieldAt?_of_none hkeptEntries]
      rfl
  | cons first rest =>
      rw [hkept] at hkeptEntries
      exact leafAt?_of_section hkeptEntries

theorem leafAt?_keptEntries_of_not_map (h : TextKeysDistinct entries)
    (hfield : ∀ fields, (field? entries sectionName).map opened ≠ some (.map fields)) :
    leafAt? (keptEntries environment head entries) sectionName name = none := by
  apply leafAt?_of_not_map
  intro fields hfields
  rw [field?_keptEntries h] at hfields
  cases hsection : field? entries sectionName with
  | none =>
      rw [hsection] at hfields
      exact nomatch hfields
  | some v =>
      have hnot (fields : List (Value × Value)) : v.opened ≠ .map fields := by
        intro hopened
        apply hfield fields
        rw [hsection, Option.map_some, hopened]
      rw [hsection, Option.bind_some, keptEntry_of_not_map hnot] at hfields
      split at hfields
      · exact nomatch hfields
      · exact hnot fields (Option.some.inj hfields)

/-- A value is taken out of its section exactly if there is a variable of its own for it. -/
theorem leafAt?_keptEntries (h : IsPlainLayer entries) :
    leafAt? (keptEntries environment head entries) sectionName name =
      if isOverridden environment (.ok (head ++ sectionName ++ "__" ++ name)) then none
      else leafAt? entries sectionName name := by
  by_cases hmap : ∃ fields, (field? entries sectionName).map opened = some (.map fields)
  · obtain ⟨fields, hopened⟩ := hmap
    obtain ⟨v, hfield, hv⟩ := Option.map_eq_some_iff.mp hopened
    obtain rfl : v = .map fields := eq_of_opened (h.plain _ (mem_of_field? hfield)).finite hv
    rw [leafAt?_keptEntries_of_section h.distinct hfield, field?_keptFields, nameForField_str,
      leafAt?_of_section hfield]
    split <;> rfl
  · have hnot (fields : List (Value × Value)) :
        (field? entries sectionName).map opened ≠ some (.map fields) :=
      fun hopened => hmap ⟨fields, hopened⟩
    rw [leafAt?_keptEntries_of_not_map h.distinct hnot, leafAt?_of_not_map hnot, ite_self]

end Leaf

end Dropped

end TaintTriage.Settings
