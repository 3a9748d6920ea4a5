import Mathlib.Data.List.Nodup
import Mathlib.Data.List.Duplicate
import TaintTriage.Proofs.LooseEvidence
import TaintTriage.Proofs.ShownValue

/-!
Catalogs of endpoint types.  The check goes through a list once, against what it has seen, and stops
at the first type that it refuses; only then does it ask for the negative class.  What it accepts
can still be said of the list as a whole: the types are apart from each other by name and by
encoding, each of them fits by itself, and one of them is the negative class.  None of this depends
on the order, and what is reported of any other list is true of it, unless the encoding in question
is too long to be shown.
-/

namespace TaintTriage

def Encoding.IsWhole (a : Encoding) : Prop :=
  ∃ n, a.magnitude = .whole n

namespace EndpointType

variable {seen types others : List EndpointType} {t u : EndpointType} {fault : CatalogFault}

/-- Two types differ in their names and in their encodings. -/
def Apart (t u : EndpointType) : Prop :=
  t.name ≠ u.name ∧ t.encoding.magnitude ≠ u.encoding.magnitude

theorem Apart.symm (h : Apart t u) : Apart u t :=
  ⟨Ne.symm h.1, Ne.symm h.2⟩

/-- What a type of a catalog is by itself: its encoding is not below zero, and it has a kind unless
it is the negative class. -/
structure Fits (t : EndpointType) : Prop where
  not_below_zero : t.encoding.magnitude.isLess (.whole 0) = false
  has_kind : t.isNegative = false → t.kind ≠ ""

/-- Why a type that comes after others is refused, if it is. -/
def refusal? (seen : List EndpointType) (t : EndpointType) : Option CatalogFault :=
  if t.name ∈ seen.map (·.name) then
    some (.duplicateName (.str t.name))
  else if t.encoding.magnitude ∈ seen.map (·.encoding.magnitude) then
    some (.duplicateEncoding t.encoding.toValue (.str t.name))
  else if t.encoding.magnitude.isLess (.whole 0) = true then
    some (.negativeEncoding (.str t.name) t.encoding.toValue)
  else if t.isNegative = false ∧ t.kind = "" then
    some (.noKind (.str t.name))
  else none

theorem forall_apart_iff :
    (∀ s ∈ seen, s.Apart t) ↔ t.name ∉ seen.map (·.name) ∧
      t.encoding.magnitude ∉ seen.map (·.encoding.magnitude) := by
  simp only [Apart, List.mem_map, not_exists, not_and]
  exact forall₂_and

theorem refusal?_eq_none_iff :
    refusal? seen t = none ↔ (∀ s ∈ seen, s.Apart t) ∧ t.Fits := by
  have hfits : t.Fits ↔ ¬ t.encoding.magnitude.isLess (.whole 0) = true ∧
      ¬ (t.isNegative = false ∧ t.kind = "") := by
    rw [Bool.not_eq_true, not_and]
    exact ⟨fun h => ⟨h.1, h.2⟩, fun h => ⟨h.1, h.2⟩⟩
  rw [forall_apart_iff, hfits, refusal?]
  split_ifs <;> simp [*]

/-- The check of some types when others have been seen. -/
def checkAfter (seen : List EndpointType) (negatives : Nat) (types : List EndpointType) :
    Except CatalogFault Nat :=
  checkCatalog (seen.map fun s => .str s.name) (seen.map fun s => s.encoding.toValue) negatives
    (types.map toEntry)

theorem isAmong_name (name : String) :
    isAmong (.str name) (seen.map fun s => .str s.name) =
      .ok (decide (name ∈ seen.map (·.name))) := by
  have hany : (seen.map fun s => Value.str s.name).any (Value.str name).equals =
      decide (name ∈ seen.map (·.name)) := by
    rw [Bool.eq_iff_iff]
    simp [eq_comm (a := name)]
  rw [isAmong, hany]
  rfl

theorem isAmong_encoding (a : Encoding) :
    isAmong a.toValue (seen.map fun s => s.encoding.toValue) =
      .ok (decide (a.magnitude ∈ seen.map (·.encoding.magnitude))) := by
  have hsought : a.toValue.requireSought = .ok () := by
    cases a <;> rfl
  have hany : (seen.map fun s => s.encoding.toValue).any a.toValue.equals =
      decide (a.magnitude ∈ seen.map (·.encoding.magnitude)) := by
    rw [Bool.eq_iff_iff]
    simp [Encoding.toValue_equals, Encoding.magnitude?_toValue]
  rw [isAmong, hsought, hany]
  rfl

theorem isLess_zero_toValue (a : Encoding) :
    a.toValue.isLess (.int 0) = .ok (a.magnitude.isLess (.whole 0)) := by
  simp only [Value.isLess, a.magnitude?_toValue]
  rfl

/-- The double that is no number does not stand for zero anyway. -/
theorem isNegative_toEntry (t : EndpointType) : t.toEntry.isNegative = t.isNegative := by
  have hzero : t.encoding.toValue.equals (.int 0) = t.isNegative := by
    rw [Encoding.toValue_equals, isNegative]
    exact Bool.beq_comm
  have hnan : t.encoding.toValue.isNotANumber = true → t.isNegative = false := by
    intro h
    obtain ⟨name, encoding, kind⟩ := t
    cases encoding with
    | double x =>
        have hkind : DoubleKind.of x = .notANumber := beq_iff_eq.mp h
        simp [isNegative, Encoding.magnitude, Value.magnitude?, hkind]
    | _ => cases h
  change (!t.encoding.toValue.isNotANumber && t.encoding.toValue.equals (.int 0)) = t.isNegative
  rw [hzero]
  cases hnumber : t.encoding.toValue.isNotANumber with
  | false => rfl
  | true => rw [hnan hnumber]; rfl

/-- One type is checked: it is refused, or the rest is checked when it has been seen too. -/
theorem checkAfter_cons (negatives : Nat) :
    checkAfter seen negatives (t :: types) =
      match refusal? seen t with
      | some fault => .error fault.raised
      | none => checkAfter (t :: seen) (negatives + if t.isNegative then 1 else 0) types := by
  rw [checkAfter, List.map_cons, checkCatalog, isNegative_toEntry]
  have hkind : (!t.isNegative && !(Value.str t.kind).isTruthy) = true ↔
      t.isNegative = false ∧ t.kind = "" := by
    simp [Value.isTruthy]
  have hcount : (if t.isNegative then negatives + 1 else negatives) =
      negatives + if t.isNegative then 1 else 0 := by
    cases t.isNegative <;> rfl
  have hname : (Value.str t.name).requireHashable = .ok () := rfl
  have hencoding : t.encoding.toValue.requireHashable = .ok () := by
    cases t.encoding <;> rfl
  simp only [toEntry, isAmong_name, isAmong_encoding, isLess_zero_toValue, mapError_ok, ok_bind,
    decide_eq_true_eq, hkind, hcount, hname, hencoding, refusal?]
  -- The tests are the same on both sides, in the same order.
  by_cases hname : t.name ∈ seen.map (·.name)
  · rw [if_pos hname, if_pos hname]
    rfl
  · rw [if_neg hname, if_neg hname]
    by_cases hencoding : t.encoding.magnitude ∈ seen.map (·.encoding.magnitude)
    · rw [if_pos hencoding, if_pos hencoding]
      rfl
    · rw [if_neg hencoding, if_neg hencoding]
      by_cases hless : t.encoding.magnitude.isLess (.whole 0) = true
      · rw [if_pos hless, if_pos hless]
        rfl
      · rw [if_neg hless, if_neg hless]
        split <;> rfl

/-- A check that works through some types admits each of them after all before it. -/
theorem checkAfter_eq_ok_iff {negatives count : Nat} :
    checkAfter seen negatives types = .ok count ↔
      types.Pairwise Apart ∧ (∀ t ∈ types, (∀ s ∈ seen, s.Apart t) ∧ t.Fits) ∧
        count = negatives + types.countP (·.isNegative) := by
  induction types generalizing seen negatives with
  | nil => simp [checkAfter, checkCatalog, eq_comm]
  | cons t rest ih =>
      rw [checkAfter_cons]
      cases hrefusal : refusal? seen t with
      | some fault =>
          constructor
          · intro h
            exact nomatch h
          · intro ⟨_, hadmitted, _⟩
            have hnone := refusal?_eq_none_iff.mpr (hadmitted t List.mem_cons_self)
            exact nomatch hrefusal.symm.trans hnone
      | none =>
          obtain ⟨hapart, hfits⟩ := refusal?_eq_none_iff.mp hrefusal
          have hcount : negatives + (t :: rest).countP (·.isNegative) =
              (negatives + if t.isNegative then 1 else 0) + rest.countP (·.isNegative) := by
            rw [List.countP_cons]
            omega
          simp only [ih, hcount, List.pairwise_cons, List.forall_mem_cons]
          constructor
          · intro ⟨hpairwise, hrest, hnegatives⟩
            exact ⟨⟨fun u hu => (hrest u hu).1.1, hpairwise⟩,
              ⟨⟨hapart, hfits⟩, fun u hu => ⟨(hrest u hu).1.2, (hrest u hu).2⟩⟩, hnegatives⟩
          · intro ⟨⟨hhead, hpairwise⟩, ⟨_, hrest⟩, hnegatives⟩
            exact ⟨hpairwise, fun u hu => ⟨⟨hhead u hu, (hrest u hu).1⟩, (hrest u hu).2⟩,
              hnegatives⟩

/-- What a fault says of a list of types.  The fault of a use of a value says nothing of any. -/
def CatalogFault.IsTrueOf (types : List EndpointType) : CatalogFault → Prop
  | .duplicateName name =>
      ∃ t ∈ types, name = .str t.name ∧ 2 ≤ (types.map (·.name)).count t.name
  | .duplicateEncoding encoding name =>
      ∃ t ∈ types, name = .str t.name ∧ encoding = t.encoding.toValue ∧
        2 ≤ (types.map (·.encoding.magnitude)).count t.encoding.magnitude
  | .negativeEncoding name encoding =>
      ∃ t ∈ types, name = .str t.name ∧ encoding = t.encoding.toValue ∧
        t.encoding.magnitude.isLess (.whole 0) = true
  | .noKind name => ∃ t ∈ types, name = .str t.name ∧ t.isNegative = false ∧ t.kind = ""
  | .negativeClasses count => count = types.countP (·.isNegative) ∧ count ≠ 1
  | .unusable _ => False

/-- Faults of the list, as against those of the use of a value. -/
def CatalogFault.isViolation : CatalogFault → Bool
  | .unusable _ => false
  | _ => true

theorem CatalogFault.IsTrueOf.isViolation (h : fault.IsTrueOf types) :
    fault.isViolation = true := by
  cases fault with
  | unusable cause => exact h.elim
  | _ => rfl

/-- The encoding that a fault shows, if it shows one, is short enough for that. -/
def CatalogFault.showsShort : CatalogFault → Bool
  | .duplicateEncoding encoding _ | .negativeEncoding _ encoding => encoding.isShort
  | _ => true

/-- What is true of types is reported as it is if its encoding can be shown. -/
theorem CatalogFault.IsTrueOf.raised_eq (h : fault.IsTrueOf types) :
    fault.raised = if fault.showsShort then fault else .unusable .unwrittenInteger := by
  cases fault with
  | duplicateName name =>
      obtain ⟨t, -, rfl, -⟩ := h
      rfl
  | noKind name =>
      obtain ⟨t, -, rfl, -⟩ := h
      rfl
  | duplicateEncoding encoding name =>
      obtain ⟨t, -, rfl, rfl, -⟩ := h
      rw [showsShort]
      cases hshort : t.encoding.toValue.isShort with
      | true =>
          obtain ⟨text, htext⟩ := Value.exists_display_iff.mpr hshort
          simp [raised, message, htext, Value.reported]
      | false =>
          simp [raised, message, Value.display_eq_error_iff.mpr hshort, Value.reported]
  | negativeEncoding name encoding =>
      obtain ⟨t, -, rfl, rfl, -⟩ := h
      rw [showsShort]
      cases hshort : t.encoding.toValue.isShort with
      | true =>
          obtain ⟨text, htext⟩ := Value.exists_display_iff.mpr hshort
          simp [raised, message, htext, Value.reported]
      | false =>
          simp [raised, message, Value.display_eq_error_iff.mpr hshort, Value.reported]
  | negativeClasses count => rfl
  | unusable cause => exact h.elim

theorem two_le_count_of_mem {α β : Type} [BEq β] [LawfulBEq β] {key : α → β} {xs ys : List α}
    {x : α} (h : key x ∈ xs.map key) : 2 ≤ ((xs.reverse ++ x :: ys).map key).count (key x) := by
  have hbefore : 0 < (xs.reverse.map key).count (key x) := by
    rw [List.count_pos_iff, List.map_reverse, List.mem_reverse]
    exact h
  rw [List.map_append, List.count_append, List.map_cons, List.count_cons_self]
  omega

/-- What a type is refused for is true of every list in which it comes after these others. -/
theorem isTrueOf_of_refusal (h : refusal? seen t = some fault) (after : List EndpointType) :
    fault.IsTrueOf (seen.reverse ++ t :: after) := by
  have hmem : t ∈ seen.reverse ++ t :: after :=
    List.mem_append_right _ List.mem_cons_self
  rw [refusal?] at h
  split_ifs at h with hname hencoding hless hkind
  · obtain rfl := Option.some.inj h
    exact ⟨t, hmem, rfl, two_le_count_of_mem hname⟩
  · obtain rfl := Option.some.inj h
    exact ⟨t, hmem, rfl, rfl, two_le_count_of_mem hencoding⟩
  · obtain rfl := Option.some.inj h
    exact ⟨t, hmem, rfl, rfl, hless⟩
  · obtain rfl := Option.some.inj h
    exact ⟨t, hmem, rfl, hkind⟩

/-- The check stops with what is reported for something that is true of all the types. -/
theorem exists_of_checkAfter {negatives : Nat} {reported : CatalogFault}
    (h : checkAfter seen negatives types = .error reported) :
    ∃ fault : CatalogFault, fault.IsTrueOf (seen.reverse ++ types) ∧ reported = fault.raised := by
  induction types generalizing seen negatives with
  | nil => exact nomatch h
  | cons t rest ih =>
      rw [checkAfter_cons] at h
      cases hrefusal : refusal? seen t with
      | some found =>
          rw [hrefusal] at h
          exact ⟨found, isTrueOf_of_refusal hrefusal rest, (Except.error.inj h).symm⟩
      | none =>
          rw [hrefusal] at h
          have hrest := ih h
          rwa [List.reverse_cons, List.append_assoc] at hrest

/-- A list of types is accepted exactly if its types are apart, each of them fits, and one of them
is the negative class. -/
theorem validateCatalog_eq_ok_iff :
    validateCatalog types = .ok () ↔ types.Pairwise Apart ∧ (∀ t ∈ types, t.Fits) ∧
      types.countP (·.isNegative) = 1 := by
  have hcheck (count : Nat) : checkCatalog [] [] 0 (types.map toEntry) = .ok count ↔
      types.Pairwise Apart ∧ (∀ t ∈ types, t.Fits) ∧ count = types.countP (·.isNegative) := by
    change checkAfter [] 0 types = .ok count ↔ _
    simp [checkAfter_eq_ok_iff]
  rw [validateCatalog, validateEntries, bind_eq_ok_iff]
  simp only [hcheck]
  constructor
  · intro ⟨count, ⟨hapart, hfits, hcount⟩, hone⟩
    split at hone
    · exact ⟨hapart, hfits, by omega⟩
    · exact nomatch hone
  · intro ⟨hapart, hfits, hone⟩
    exact ⟨1, ⟨hapart, hfits, hone.symm⟩, rfl⟩

/-- What is reported of a list that is not accepted is true of it, or is that it cannot be shown. -/
theorem exists_of_validateCatalog {reported : CatalogFault}
    (h : validateCatalog types = .error reported) :
    ∃ fault : CatalogFault, fault.IsTrueOf types ∧ reported = fault.raised := by
  rcases bind_eq_error_iff.mp h with hcheck | ⟨count, hcheck, hone⟩
  · have hstopped : checkAfter [] 0 types = .error reported := hcheck
    exact exists_of_checkAfter hstopped
  · have hwhole : checkAfter [] 0 types = .ok count := hcheck
    obtain ⟨-, -, hcount⟩ := checkAfter_eq_ok_iff.mp hwhole
    split at hone
    · exact nomatch hone
    · rename_i hne
      obtain rfl := Except.error.inj hone
      exact ⟨.negativeClasses count, ⟨hcount.trans (Nat.zero_add _), hne⟩, rfl⟩

/-- Acceptance does not depend on the order of the types. -/
theorem validateCatalog_perm (h : types.Perm others) :
    validateCatalog types = .ok () ↔ validateCatalog others = .ok () := by
  rw [validateCatalog_eq_ok_iff, validateCatalog_eq_ok_iff, h.countP_eq,
    h.pairwise_iff Apart.symm]
  simp only [h.mem_iff]

/-- A type is accepted behind a catalog exactly if it is apart from all types of it, fits, and is
not the negative class. -/
theorem validateCatalog_concat_iff (h : validateCatalog types = .ok ()) :
    validateCatalog (types ++ [t]) = .ok () ↔
      (∀ s ∈ types, s.Apart t) ∧ t.Fits ∧ t.isNegative = false := by
  obtain ⟨hapart, hfits, hone⟩ := validateCatalog_eq_ok_iff.mp h
  have hsingle : [t].countP (·.isNegative) = 0 ↔ t.isNegative = false := by
    cases hnegative : t.isNegative <;> simp [hnegative]
  rw [validateCatalog_eq_ok_iff, List.pairwise_append, List.countP_append, hone,
    Nat.add_eq_left, hsingle, List.forall_mem_append]
  simp only [List.forall_mem_singleton]
  constructor
  · intro ⟨⟨_, _, hbefore⟩, ⟨_, ht⟩, hpositive⟩
    exact ⟨hbefore, ht, hpositive⟩
  · intro ⟨hbefore, ht, hpositive⟩
    exact ⟨⟨hapart, List.pairwise_singleton _ _, hbefore⟩, ⟨hfits, ht⟩, hpositive⟩

/-- A catalog of types with whole encodings: names and encodings are distinct, no encoding is below
zero and exactly one is zero, and every type above zero has a kind. -/
structure IsCatalog (types : List EndpointType) : Prop where
  names_nodup : (types.map (·.name)).Nodup
  encodings_nodup : (types.map (·.encoding.magnitude)).Nodup
  nonnegative : ∀ t ∈ types, ∀ n, t.encoding.magnitude = .whole n → 0 ≤ n
  one_zero : (types.map (·.encoding.magnitude)).count (.whole 0) = 1
  kinds : ∀ t ∈ types, ∀ n, t.encoding.magnitude = .whole n → 0 < n → t.kind ≠ ""

theorem pairwise_apart_iff :
    types.Pairwise Apart ↔
      (types.map (·.name)).Nodup ∧ (types.map (·.encoding.magnitude)).Nodup := by
  rw [List.Nodup, List.Nodup, List.pairwise_map, List.pairwise_map, ← List.pairwise_and_iff]
  rfl

theorem isNegative_iff_of_whole {n : Int} (h : t.encoding.magnitude = .whole n) :
    t.isNegative = true ↔ n = 0 := by
  simp [isNegative, h]

theorem fits_iff_of_whole {n : Int} (h : t.encoding.magnitude = .whole n) :
    t.Fits ↔ 0 ≤ n ∧ (0 < n → t.kind ≠ "") := by
  have hbelow : t.encoding.magnitude.isLess (.whole 0) = false ↔ 0 ≤ n := by
    rw [h]
    exact decide_eq_false_iff_not.trans Int.not_lt
  have hpositive : t.isNegative = false ↔ n ≠ 0 := by
    rw [← Bool.not_eq_true, isNegative_iff_of_whole h]
  constructor
  · intro hfits
    exact ⟨hbelow.mp hfits.not_below_zero,
      fun hn => hfits.has_kind (hpositive.mpr (Int.ne_of_gt hn))⟩
  · intro ⟨hn, hkind⟩
    exact ⟨hbelow.mpr hn, fun hne => hkind (by have := hpositive.mp hne; omega)⟩

theorem count_zero_eq :
    (types.map (·.encoding.magnitude)).count (.whole 0) = types.countP (·.isNegative) := by
  rw [List.count_eq_countP, List.countP_map]
  rfl

theorem isCatalog_iff (h : ∀ t ∈ types, t.encoding.IsWhole) :
    IsCatalog types ↔ types.Pairwise Apart ∧ (∀ t ∈ types, t.Fits) ∧
      types.countP (·.isNegative) = 1 := by
  rw [pairwise_apart_iff, ← count_zero_eq]
  constructor
  · intro hcatalog
    refine ⟨⟨hcatalog.names_nodup, hcatalog.encodings_nodup⟩, fun t ht => ?_, hcatalog.one_zero⟩
    obtain ⟨n, hn⟩ := h t ht
    exact (fits_iff_of_whole hn).mpr ⟨hcatalog.nonnegative t ht n hn, hcatalog.kinds t ht n hn⟩
  · intro ⟨⟨hnames, hencodings⟩, hfits, hone⟩
    exact ⟨hnames, hencodings, fun t ht n hn => ((fits_iff_of_whole hn).mp (hfits t ht)).1, hone,
      fun t ht n hn => ((fits_iff_of_whole hn).mp (hfits t ht)).2⟩

/-- A sink with an encoding that is too long to be shown. -/
def longSink : EndpointType :=
  ⟨"LongSinkType", .whole Value.firstLong, "long-sink"⟩

/-- A sink for code that is run, with an encoding beyond all numbers of a machine. -/
def codeSink : EndpointType :=
  ⟨"CodeInjectionSinkType", .whole 10000000000000000000000000000000000000000,
    "code-injection-sink"⟩

end EndpointType

end TaintTriage
