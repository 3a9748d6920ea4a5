import TaintTriage.Evidence.Supplied
import TaintTriage.Proofs.Evidence

/-!
The evidence of loosely typed parts, all of which are of the right types after all.  The engine that
looks at loosely typed parts gives the reasons that the other one gives, as values, or it fails as
the other one does.
-/

namespace TaintTriage

namespace Encoding

theorem magnitude?_toValue (a : Encoding) : a.toValue.magnitude? = some a.magnitude := by
  cases a with
  | flag b => rfl
  | whole n => rfl
  | double x =>
      simp only [toValue, magnitude, Value.magnitude?]
      cases DoubleKind.of x <;> rfl

theorem toValue_equals (a : Encoding) (w : Value) :
    a.toValue.equals w = (w.magnitude? == some a.magnitude) := by
  rw [← a.magnitude?_toValue]
  cases a with
  | flag b => rw [toValue, Value.equals, Value.magnitude?]
  | whole n => rw [toValue, Value.equals, Value.magnitude?]
  | double x => rw [toValue, Value.equals]

end Encoding

theorem EndpointType.toEntry_equals (t u : EndpointType) :
    t.toEntry.equals u.toEntry = (t == u) := by
  have hencoding : t.encoding.toValue.equals u.encoding.toValue = true ↔
      t.encoding.magnitude = u.encoding.magnitude := by
    rw [Encoding.toValue_equals, Encoding.magnitude?_toValue, beq_iff_eq, Option.some.injEq]
    exact eq_comm
  rw [Bool.eq_iff_iff, beq_iff, identity, identity, Prod.mk.injEq, Prod.mk.injEq]
  simp [toEntry, CatalogEntry.equals, hencoding, and_assoc]

namespace SuppliedCharacteristic

open SuppliedType

@[simp] theorem ofType_equals (t u : EndpointType) :
    SuppliedType.equals (ofType t) (ofType u) = (t == u) :=
  t.toEntry_equals u

theorem requireHashable_ofType (t : EndpointType) : (ofType t).requireHashable = .ok () := by
  obtain ⟨name, encoding, kind⟩ := t
  cases encoding <;> rfl

theorem bool_isLike_bool (a b : Bool) : (Value.bool a).isLike (.bool b) = (a == b) := by
  cases a <;> cases b <;> rfl

theorem ofCharacteristic_implies (c : Characteristic) (t : EndpointType) (positive : Bool)
    (least : Confidence) :
    (ofCharacteristic c).implies (ofType t) (.bool positive) least =
      c.implies t positive least := by
  rw [implies, ofCharacteristic, List.any_map, Characteristic.implies]
  refine congrArg _ (funext fun i => ?_)
  simp only [Function.comp_apply, SuppliedImplication.ofImplication, ofType_equals,
    bool_isLike_bool]
  rfl

/-- A text that is not there yet is put where a name is put. -/
theorem insertBy_str {name : String} {names : List String} (h : name ∉ names) :
    insertBy Value.isLess (.str name) (names.map .str) =
      .ok ((NameSet.insertName name names).map .str) := by
  induction names with
  | nil => rfl
  | cons head tail ih =>
      rw [List.mem_cons, not_or] at h
      have hless : (Value.str name).isLess (.str head) = .ok (decide (name < head)) := rfl
      rw [List.map_cons, insertBy, hless, ok_bind, NameSet.insertName]
      by_cases hlt : name < head
      · simp [hlt]
      · simp [hlt, h.1, ih h.2]

/-- Sorting texts, of which none is there yet, into increasing ones. -/
theorem exists_foldlM_insertBy {names sorted : List String} (hnodup : names.Nodup)
    (hfresh : ∀ name ∈ names, name ∉ sorted) (hsorted : sorted.Pairwise (· < ·)) :
    ∃ ordered : List String,
      (names.map Value.str).foldlM (fun sorted v => insertBy Value.isLess v sorted)
          (sorted.map Value.str) = .ok (ordered.map .str) ∧
        ordered.Pairwise (· < ·) ∧ ∀ name, name ∈ ordered ↔ name ∈ sorted ∨ name ∈ names := by
  induction names generalizing sorted with
  | nil => exact ⟨sorted, rfl, hsorted, fun name => by simp⟩
  | cons first rest ih =>
      obtain ⟨hfirst, hrest⟩ := List.nodup_cons.mp hnodup
      have hnext : ∀ name ∈ rest, name ∉ NameSet.insertName first sorted := by
        intro name hname hmem
        rcases NameSet.mem_insertName.mp hmem with rfl | hmem
        · exact hfirst hname
        · exact hfresh name (List.mem_cons_of_mem first hname) hmem
      obtain ⟨ordered, heq, hordered, hmem⟩ :=
        ih hrest hnext (NameSet.pairwise_insertName first hsorted)
      refine ⟨ordered, ?_, hordered, fun name => ?_⟩
      · rw [List.map_cons, List.foldlM_cons, insertBy_str (hfresh first List.mem_cons_self)]
        exact heq
      · rw [hmem, NameSet.mem_insertName, List.mem_cons]
        constructor
        · rintro ((h | h) | h) <;> simp [h]
        · rintro (h | h | h) <;> simp [h]

/-- The first ones of equal texts. -/
theorem exists_distinct_str (names : List String) {found : List String} (hfound : found.Nodup) :
    ∃ distinct : List String,
      (names.map Value.str).foldl
          (fun found v => if found.any v.equals then found else found ++ [v])
          (found.map Value.str) = distinct.map .str ∧
        distinct.Nodup ∧ ∀ name, name ∈ distinct ↔ name ∈ found ∨ name ∈ names := by
  induction names generalizing found with
  | nil => exact ⟨found, rfl, hfound, fun name => by simp⟩
  | cons first rest ih =>
      have hany : (found.map Value.str).any (Value.str first).equals = decide (first ∈ found) := by
        rw [Bool.eq_iff_iff]
        simp
      rw [List.map_cons, List.foldl_cons, hany]
      by_cases hmem : first ∈ found
      · obtain ⟨distinct, heq, hdistinct, hiff⟩ := ih hfound
        refine ⟨distinct, by simpa [hmem] using heq, hdistinct, fun name => ?_⟩
        rw [hiff, List.mem_cons]
        constructor
        · rintro (h | h) <;> simp [h]
        · rintro (h | rfl | h)
          · exact Or.inl h
          · exact Or.inl hmem
          · exact Or.inr h
      · have hnext : (found ++ [first]).Nodup := by
          rw [List.nodup_append]
          refine ⟨hfound, by simp, fun a ha b hb => ?_⟩
          obtain rfl := List.mem_singleton.mp hb
          exact fun heq => hmem (heq ▸ ha)
        obtain ⟨distinct, heq, hdistinct, hiff⟩ := ih hnext
        refine ⟨distinct, by simpa [hmem] using heq, hdistinct, fun name => ?_⟩
        rw [hiff, List.mem_append, List.mem_singleton, List.mem_cons, or_assoc]

theorem forM_requireHashable_str (names : List String) :
    (names.map Value.str).forM Value.requireHashable = .ok () := by
  refine forM_eq_ok fun v hv => ?_
  obtain ⟨name, -, rfl⟩ := List.mem_map.mp hv
  rfl

theorem forM_requireHashable_ofType (types : List EndpointType) :
    (types.map ofType).forM SuppliedType.requireHashable = .ok () := by
  refine forM_eq_ok fun v hv => ?_
  obtain ⟨t, -, rfl⟩ := List.mem_map.mp hv
  exact requireHashable_ofType t

theorem orderedNames_str (names : List String) :
    orderedNames (names.map .str) = .ok ((NameSet.ofList names).names.map .str) := by
  obtain ⟨distinct, hdistinct, hnodup, hfound⟩ := exists_distinct_str names List.nodup_nil
  obtain ⟨ordered, hordered, hincreasing, hmem⟩ :=
    exists_foldlM_insertBy hnodup (fun _ _ => List.not_mem_nil) List.Pairwise.nil
  have heq : ordered = (NameSet.ofList names).names := by
    refine NameSet.eq_of_pairwise_of_mem_iff hincreasing (NameSet.increasing _) fun name => ?_
    rw [← NameSet.mem_def, NameSet.mem_ofList, hmem, hfound]
    simp
  rw [orderedNames, forM_requireHashable_str, ok_bind]
  rw [List.map_nil] at hdistinct hordered
  rw [hdistinct, sortedBy, hordered, heq]

theorem applicable_ofCharacteristic (n : Node) (characteristics : List Characteristic) :
    applicable n (characteristics.map fun c => .expected (ofCharacteristic c)) =
      (Characteristic.applicable n characteristics).map (List.map ofCharacteristic) := by
  induction characteristics with
  | nil => rfl
  | cons c rest ih =>
      have hrule : (ofCharacteristic c).rule = c.rule := rfl
      rw [List.map_cons, applicable, Characteristic.applicable, ih, hrule]
      cases c.rule n with
      | error e => rfl
      | ok holds =>
          cases Characteristic.applicable n rest with
          | error e => rfl
          | ok others => cases holds <;> rfl

/-- The names of those that imply some evidence. -/
theorem map_name_filter_implies (applying : List Characteristic) (t : EndpointType)
    (positive : Bool) :
    ((applying.map ofCharacteristic).filter
        fun c => c.implies (ofType t) (.bool positive) .medium).map (·.name) =
      ((applying.filter fun c => c.implies t positive .medium).map (·.name)).map .str := by
  rw [List.filter_map, List.map_map, List.map_map]
  have hfilter : (fun c : SuppliedCharacteristic =>
      c.implies (ofType t) (.bool positive) .medium) ∘ ofCharacteristic =
        fun c => c.implies t positive .medium :=
    funext fun c => ofCharacteristic_implies c t positive .medium
  rw [hfilter]
  rfl

theorem any_known_ofCharacteristic (relevant : List EndpointType)
    (applying : List Characteristic) :
    (((applying.map ofCharacteristic).flatMap (·.implications)).any fun i =>
        (relevant.map ofType).any i.type.equals && i.isKnown) =
      isKnownRelevant relevant applying := by
  rw [isKnownRelevant, implicationsOf, List.any_flatMap, List.any_flatMap, List.any_map]
  refine congrArg _ (funext fun c => ?_)
  rw [Function.comp_apply, ofCharacteristic, List.any_map]
  refine congrArg _ (funext fun i => ?_)
  rw [Function.comp_apply, List.any_map, List.contains_eq_any_beq]
  simp only [SuppliedImplication.ofImplication, Function.comp_def, ofType_equals]
  rfl

theorem perType_ofCharacteristic (relevant : List EndpointType) (applying : List Characteristic) :
    ((relevant.map ofType).map fun t => ((applying.map ofCharacteristic).filter
        fun c => c.implies t (.bool false) .medium).map (·.name)) =
      relevant.map fun t => (opponents applying t).map .str := by
  rw [List.map_map]
  exact List.map_congr_left fun t _ => map_name_filter_implies applying t false

/-- Without relevant types there is nothing to be put together. -/
theorem filterReasons_str (relevant : List EndpointType) (applying : List Characteristic) :
    (if (relevant.map fun t => (opponents applying t).map Value.str).all (!·.isEmpty) then
        (relevant.map fun t => (opponents applying t).map Value.str).flatten
      else []) = (filterReasons relevant applying).map .str := by
  have hall : (relevant.map fun t => (opponents applying t).map Value.str).all (!·.isEmpty) =
      relevant.all fun t => !(opponents applying t).isEmpty := by
    rw [List.all_map]
    exact congrArg _ (funext fun t => by simp)
  rw [hall, filterReasons]
  cases relevant with
  | nil => rfl
  | cons head tail =>
      rw [List.isEmpty_cons, Bool.not_false, Bool.true_and]
      split
      · rw [List.map_flatMap, List.flatMap_def]
      · rfl

/-- The reasons of the two engines are the same, and so are their failures. -/
theorem exclusionReasons_ofCharacteristic (n : Node) (relevant : List EndpointType)
    (characteristics : List Characteristic) :
    exclusionReasons n (relevant.map ofType)
        (characteristics.map fun c => .expected (ofCharacteristic c)) =
      (TaintTriage.exclusionReasons n relevant characteristics).map (List.map .str) := by
  rw [exclusionReasons, TaintTriage.exclusionReasons, applicable_ofCharacteristic]
  cases Characteristic.applicable n characteristics with
  | error e => rfl
  | ok applying =>
      have happlying : (Except.ok applying : Except RuleFailure _).map (List.map ofCharacteristic) =
          .ok (applying.map ofCharacteristic) := rfl
      rw [happlying, ok_bind, ok_bind]
      -- All names are texts by now, so nothing is refused where they are kept or put in order.
      simp only [any_known_ofCharacteristic, perType_ofCharacteristic, map_name_filter_implies,
        filterReasons_str]
      rw [forM_requireHashable_str, forM_requireHashable_ofType, ← List.map_append,
        orderedNames_str]
      cases isKnownRelevant relevant applying <;> rfl

end SuppliedCharacteristic

open Characteristic

/-- The reasons are the names, in increasing order, of the applicable characteristics that speak for
the negative class and, if every relevant type is spoken against, of those that speak against one.
There are none if an applicable characteristic leaves no doubt about a relevant type.  The engine
for loosely typed parts gives the same names. -/
theorem exclusionReasons_exact (n : Node) (relevant : List EndpointType)
    (characteristics : List Characteristic) (h : AllAnswer characteristics n) :
    ∃ names, exclusionReasons n relevant characteristics = .ok names ∧
      SuppliedCharacteristic.exclusionReasons n (relevant.map .ofType)
        (characteristics.map fun c => .expected (.ofCharacteristic c)) =
          .ok (names.map .str) ∧
      names.Pairwise (· < ·) ∧
      ∀ name, name ∈ names ↔
        (¬ ∃ c ∈ characteristics, c.AppliesTo n ∧ ∃ t ∈ relevant, c.Speaks true t .maximal) ∧
          ∃ c ∈ characteristics, c.AppliesTo n ∧ c.name = name ∧
            (c.Speaks true .negative .medium ∨
              (relevant ≠ [] ∧ ∀ t ∈ relevant,
                ∃ d ∈ characteristics, d.AppliesTo n ∧ d.Speaks false t .medium) ∧
              ∃ t ∈ relevant, c.Speaks false t .medium) := by
  obtain ⟨applying, happlying⟩ := h.exists_applicable
  have hreasons : exclusionReasons n relevant characteristics =
      .ok (reasonsAmong relevant applying) := exclusionReasons_eq happlying
  have hloose := SuppliedCharacteristic.exclusionReasons_ofCharacteristic n relevant characteristics
  rw [hreasons] at hloose
  refine ⟨reasonsAmong relevant applying, hreasons, hloose,
    reasonsAmong_pairwise relevant applying, fun name => ?_⟩
  rw [mem_reasonsAmong_iff]
  simp only [AllOpposed, mem_applicable_iff happlying, and_assoc]

/-- Two filters against one type each, and one that does not apply. -/
def opposingFilters : List Characteristic :=
  [⟨"no-query", .expected .standardFilter, [⟨.sqlInjectionSink, false, .medium⟩],
    fun _ => .ok true⟩,
   ⟨"no-markup", .expected .standardFilter,
    [⟨.xssSink, false, .high⟩, ⟨.sqlInjectionSink, true, .high⟩], fun _ => .ok true⟩,
   ⟨"no-path", .expected .standardFilter, [⟨.xssSink, false, .maximal⟩], fun _ => .ok false⟩]

/-- Together the two filters cover both relevant types, so each of them gives a reason. -/
theorem exclusionReasons_opposingFilters :
    AllAnswer opposingFilters (.bare "n" "argument") ∧
      ∃ names, exclusionReasons (.bare "n" "argument") [.sqlInjectionSink, .xssSink]
        opposingFilters = .ok names ∧ names.Pairwise (· < ·) ∧
        "no-query" ∈ names ∧ "no-markup" ∈ names ∧ "no-path" ∉ names := by
  have h : AllAnswer opposingFilters (.bare "n" "argument") := by decide
  obtain ⟨names, hnames, -, hincreasing, hmem⟩ :=
    exclusionReasons_exact (.bare "n" "argument") [.sqlInjectionSink, .xssSink] opposingFilters h
  refine ⟨h, names, hnames, hincreasing, ?_, ?_, ?_⟩
  · exact (hmem "no-query").mpr (by decide)
  · exact (hmem "no-markup").mpr (by decide)
  · exact mt (hmem "no-path").mp (by decide)

end TaintTriage
