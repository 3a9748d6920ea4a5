import TaintTriage.Proofs.Catalog
import TaintTriage.Repeat

/-!
Looking up the types of a catalog.  The tables for it keep the last of several types under one key.
Encodings of an accepted catalog are distinct, so that each type is found under its own, whatever is
appended.  Kinds need not be distinct: a type is found under its kind exactly if none of the later
endpoints has the same kind.
-/

namespace TaintTriage

section LastEntry

variable {α κ : Type} [BEq κ] [LawfulBEq κ] {key : α → κ} {xs : List α} {k : κ} {a : α}

/-- Where no key is repeated, the last entry under a key is the only one. -/
theorem find?_reverse_key_eq_some_iff (h : (xs.map key).Nodup) :
    xs.reverse.find? (key · == k) = some a ↔ a ∈ xs ∧ key a = k := by
  have hreverse : (xs.reverse.map key).Nodup := by
    rw [List.map_reverse]
    exact List.nodup_reverse.mpr h
  rw [find?_key_eq_some_iff hreverse, List.mem_reverse]

/-- All entries of a list are the last ones under their keys exactly if no key is repeated. -/
theorem forall_find?_reverse_key_iff (h : xs.Nodup) :
    (∀ a ∈ xs, xs.reverse.find? (key · == key a) = some a) ↔ (xs.map key).Nodup := by
  constructor
  · intro hlast
    refine h.map_on fun a ha b hb hkey => ?_
    have hfound := hlast a ha
    rw [hkey, hlast b hb] at hfound
    exact (Option.some.inj hfound).symm
  · intro hkeys a ha
    exact (find?_reverse_key_eq_some_iff hkeys).mpr ⟨ha, rfl⟩

end LastEntry

namespace EndpointType

variable {types : List EndpointType} {t u : EndpointType} {kind : String}

def positive (types : List EndpointType) : List EndpointType :=
  types.filter fun t => !t.isNegative

theorem mem_positive_iff : t ∈ positive types ↔ t ∈ types ∧ t.isNegative = false := by
  simp [positive]

/-- None of the later endpoints of a list has the kind of this one. -/
def IsLastOfKind (types : List EndpointType) (t : EndpointType) : Prop :=
  ∃ before after, types = before ++ t :: after ∧
    ∀ u ∈ after, u.isNegative = false → u.kind ≠ t.kind

theorem encodings_nodup_of_validateCatalog (h : validateCatalog types = .ok ()) :
    (types.map (·.encoding.magnitude)).Nodup :=
  (pairwise_apart_iff.mp (validateCatalog_eq_ok_iff.mp h).1).2

theorem forEncoding?_eq_some_iff (h : validateCatalog types = .ok ()) {m : Value.Magnitude} :
    forEncoding? types m = some t ↔ t ∈ types ∧ t.encoding.magnitude = m :=
  find?_reverse_key_eq_some_iff (encodings_nodup_of_validateCatalog h)

theorem forKind?_eq_some_iff :
    forKind? types kind = some t ↔
      t.isNegative = false ∧ t.kind = kind ∧ IsLastOfKind types t := by
  rw [forKind?, ← List.filter_reverse, List.find?_filter, List.find?_eq_some_iff_append]
  simp only [Bool.not_eq_true', beq_iff_eq, decide_eq_true_eq, decide_eq_false_iff_not, not_and,
    and_assoc]
  constructor
  · intro ⟨hpositive, hkind, after, before, hsplit, hlater⟩
    refine ⟨hpositive, hkind, before.reverse, after.reverse, ?_, fun u hu hne heq => ?_⟩
    · rw [List.reverse_eq_iff.mp hsplit, List.reverse_append, List.reverse_cons, List.append_assoc]
      rfl
    · exact hlater u (List.mem_reverse.mp hu) hne (heq.trans hkind)
  · intro ⟨hpositive, hkind, before, after, hsplit, hlater⟩
    refine ⟨hpositive, hkind, after.reverse, before.reverse, ?_, fun u hu hne heq => ?_⟩
    · rw [hsplit, List.reverse_append, List.reverse_cons, List.append_assoc]
      rfl
    · exact hlater u (List.mem_reverse.mp hu) hne (heq.trans hkind.symm)

/-- The kind of an endpoint leads to some endpoint of this kind. -/
theorem exists_forKind? (ht : t ∈ types) (hpositive : t.isNegative = false) :
    ∃ u ∈ types, u.isNegative = false ∧ u.kind = t.kind ∧ forKind? types t.kind = some u := by
  have hsome : (forKind? types t.kind).isSome = true :=
    List.find?_isSome.mpr ⟨t, List.mem_reverse.mpr (mem_positive_iff.mpr ⟨ht, hpositive⟩),
      beq_self_eq_true t.kind⟩
  obtain ⟨u, hfound⟩ := Option.isSome_iff_exists.mp hsome
  obtain ⟨hu, hkind, before, after, rfl, -⟩ := forKind?_eq_some_iff.mp hfound
  exact ⟨u, List.mem_append_right before List.mem_cons_self, hu, hkind, hfound⟩

theorem forall_forKind?_iff (h : validateCatalog types = .ok ()) :
    (∀ t ∈ types, t.isNegative = false → forKind? types t.kind = some t) ↔
      ((positive types).map (·.kind)).Nodup := by
  have hnodup : (positive types).Nodup :=
    (encodings_nodup_of_validateCatalog h).of_map.filter _
  rw [← forall_find?_reverse_key_iff hnodup]
  simp only [mem_positive_iff, and_imp]
  rfl

/-- An endpoint that is appended is found under its kind, and other kinds lead where they did. -/
theorem forKind?_concat (h : u.isNegative = false) :
    forKind? (types ++ [u]) kind = if u.kind = kind then some u else forKind? types kind := by
  have hfilter : [u].filter (fun t => !t.isNegative) = [u] := by
    simp [h]
  rw [forKind?, List.filter_append, hfilter, List.reverse_concat]
  split
  · rename_i hkind
    exact List.find?_cons_of_pos (beq_iff_eq.mpr hkind)
  · rename_i hkind
    exact List.find?_cons_of_neg (mt beq_iff_eq.mp hkind)

/-- In a catalog that is accepted, an encoding leads to the type that has it, and a kind to the last
endpoint that has it; so a type is found under its kind if no other endpoint has the same kind, and
all are exactly if no kind is repeated.  One more accepted type never makes another one unreachable
by its encoding, and by its kind only if both have the same kind. -/
theorem lookups_invert_catalog (h : validateCatalog types = .ok ()) :
    (∀ m t, forEncoding? types m = some t ↔ t ∈ types ∧ t.encoding.magnitude = m) ∧
    (∀ kind t, forKind? types kind = some t ↔
      t.isNegative = false ∧ t.kind = kind ∧ IsLastOfKind types t) ∧
    (∀ t ∈ types, t.isNegative = false →
      (∀ u ∈ types, u.isNegative = false → u.kind = t.kind → u = t) →
        forKind? types t.kind = some t) ∧
    ((∀ t ∈ types, t.isNegative = false → forKind? types t.kind = some t) ↔
      ((positive types).map (·.kind)).Nodup) ∧
    ∀ u, validateCatalog (types ++ [u]) = .ok () → ∀ t ∈ types,
      forEncoding? (types ++ [u]) t.encoding.magnitude = some t ∧
        (forKind? types t.kind = some t →
          (forKind? (types ++ [u]) t.kind = some t ↔ u.kind ≠ t.kind)) := by
  refine ⟨fun m t => forEncoding?_eq_some_iff h, fun kind t => forKind?_eq_some_iff, ?_,
    forall_forKind?_iff h, ?_⟩
  · intro t ht hpositive hunique
    obtain ⟨u, hmem, hu, hkind, hfound⟩ := exists_forKind? ht hpositive
    rw [hfound, hunique u hmem hu hkind]
  · intro u haccepted t ht
    refine ⟨(forEncoding?_eq_some_iff haccepted).mpr ⟨List.mem_append_left _ ht, rfl⟩, ?_⟩
    intro hfound
    obtain ⟨hapart, -, hpositive⟩ := (validateCatalog_concat_iff h).mp haccepted
    rw [forKind?_concat hpositive]
    constructor
    · intro hstill hkind
      rw [if_pos hkind] at hstill
      obtain rfl := Option.some.inj hstill
      exact (hapart u ht).1 rfl
    · intro hne
      rw [if_neg hne]
      exact hfound

/-- Each shipped endpoint is found under its kind, and stays to be found beside a type of a new
kind. -/
theorem lookups_invert_catalog_shipped :
    validateCatalog shipped = .ok () ∧
      (∀ t ∈ shipped, t.isNegative = false → forKind? shipped t.kind = some t) ∧
      validateCatalog (shipped ++ [codeSink]) = .ok () ∧
      forEncoding? (shipped ++ [codeSink]) (.whole 3) = some xssSink ∧
      forKind? (shipped ++ [codeSink]) "xss-sink" = some xssSink := by
  have haccepted : validateCatalog shipped = .ok () := rfl
  have happended : validateCatalog (shipped ++ [codeSink]) = .ok () := rfl
  obtain ⟨-, -, -, hkinds, happend⟩ := lookups_invert_catalog haccepted
  have hall := hkinds.mpr (by decide)
  have hmem : xssSink ∈ shipped := by simp [shipped]
  obtain ⟨hencoding, hkind⟩ := happend codeSink happended xssSink hmem
  exact ⟨haccepted, hall, happended, hencoding, (hkind (hall xssSink hmem rfl)).mpr (by decide)⟩

/-- A sink in pages that has the kind of another type. -/
def domSink : EndpointType := ⟨"DomSinkType", 6, "xss-sink"⟩

/-- A type with the kind of another one is accepted behind the shipped types, and hides it. -/
theorem not_found_by_kind_domSink :
    validateCatalog (shipped ++ [domSink]) = .ok () ∧
      forKind? shipped "xss-sink" = some xssSink ∧
      forKind? (shipped ++ [domSink]) "xss-sink" = some domSink ∧
      ¬ ∀ t ∈ shipped ++ [domSink], t.isNegative = false →
        forKind? (shipped ++ [domSink]) t.kind = some t := by
  refine ⟨rfl, rfl, rfl, fun hall => ?_⟩
  have hmem : xssSink ∈ shipped ++ [domSink] := by simp [shipped]
  have hfound : some domSink = some xssSink := hall xssSink hmem rfl
  have hname : domSink.name = xssSink.name := congrArg name (Option.some.inj hfound)
  exact absurd hname (by decide)

end EndpointType

end TaintTriage
