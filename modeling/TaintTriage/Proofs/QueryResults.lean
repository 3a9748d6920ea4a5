import Mathlib.Data.List.Induction
import TaintTriage.Proofs.Outcome
import TaintTriage.Triage

/-!
Tables of the results of the enabled queries.  A query that is enabled several times is computed
several times, always with the same result, so that the table holds what each query comes to by
itself, at the place where it first came up.
-/

namespace TaintTriage

section FirstOccurrences

variable {α β : Type} [BEq α] [LawfulBEq α] [BEq β] [LawfulBEq β]

theorem eraseDups_concat_of_mem {xs : List α} {x : α} (h : x ∈ xs) :
    (xs ++ [x]).eraseDups = xs.eraseDups := by
  simp [List.eraseDups_append, List.removeAll, h]

theorem eraseDups_concat_of_not_mem {xs : List α} {x : α} (h : x ∉ xs) :
    (xs ++ [x]).eraseDups = xs.eraseDups ++ [x] := by
  simp [List.eraseDups_append, List.eraseDups_cons, List.removeAll, h]

/-- Entries that are told apart by what they are mapped to can be mapped before or after. -/
theorem eraseDups_map {f : α → β} (hf : ∀ x y, f x = f y → x = y) (xs : List α) :
    (xs.map f).eraseDups = xs.eraseDups.map f := by
  induction xs using List.reverseRecOn with
  | nil => rfl
  | append_singleton xs x ih =>
      rw [List.map_append, List.map_singleton]
      by_cases hx : x ∈ xs
      · rw [eraseDups_concat_of_mem (List.mem_map_of_mem hx), eraseDups_concat_of_mem hx, ih]
      · have hfx : f x ∉ xs.map f := by
          intro hmem
          obtain ⟨y, hy, heq⟩ := List.mem_map.mp hmem
          exact hx (hf y x heq ▸ hy)
        rw [eraseDups_concat_of_not_mem hfx, eraseDups_concat_of_not_mem hx, ih, List.map_append]
        rfl

end FirstOccurrences

namespace QueryTable

variable {α : Type} {t : QueryTable α} {kind : QueryKind} {a : α} {entry : QueryKind × α}
variable {entries : List (QueryKind × α)}

theorem mem_or_eq_of_mem_insert (h : entry ∈ t.insert kind a) : entry = (kind, a) ∨ entry ∈ t := by
  induction t with
  | nil => exact Or.inl (List.mem_singleton.mp h)
  | cons head rest ih =>
      obtain ⟨k, old⟩ := head
      rw [insert] at h
      split at h
      · rcases List.mem_cons.mp h with heq | hrest
        · exact Or.inl heq
        · exact Or.inr (List.mem_cons_of_mem _ hrest)
      · rcases List.mem_cons.mp h with heq | hrest
        · exact Or.inr (heq ▸ List.mem_cons_self)
        · exact (ih hrest).imp_right (List.mem_cons_of_mem _)

theorem mem_of_mem_foldl_insert
    (h : entry ∈ entries.foldl (fun t (kind, a) => t.insert kind a) t) :
    entry ∈ t ∨ entry ∈ entries := by
  induction entries generalizing t with
  | nil => exact Or.inl h
  | cons head rest ih =>
      rcases ih h with hinsert | hrest
      · rcases mem_or_eq_of_mem_insert hinsert with rfl | ht
        · exact Or.inr List.mem_cons_self
        · exact Or.inl ht
      · exact Or.inr (List.mem_cons_of_mem head hrest)

theorem mem_of_mem_ofList (h : entry ∈ ofList entries) : entry ∈ entries :=
  (mem_of_mem_foldl_insert h).resolve_left List.not_mem_nil

/-- The kinds of a table come in the order in which they first came up. -/
theorem kinds_ofList (entries : List (QueryKind × α)) :
    (ofList entries).kinds = (entries.map (·.1)).eraseDups := by
  induction entries using List.reverseRecOn with
  | nil => rfl
  | append_singleton entries entry ih =>
      have hinsert : ofList (entries ++ [entry]) = (ofList entries).insert entry.1 entry.2 := by
        rw [ofList, List.foldl_append]
        rfl
      rw [hinsert, kinds_insert, ih, List.map_append, List.map_singleton]
      split
      next hmem => rw [eraseDups_concat_of_mem (List.mem_eraseDups.mp hmem)]
      next hnot => rw [eraseDups_concat_of_not_mem (mt List.mem_eraseDups.mpr hnot)]

theorem mem_kinds_ofList_iff : kind ∈ (ofList entries).kinds ↔ kind ∈ entries.map (·.1) := by
  rw [kinds_ofList, List.mem_eraseDups]

theorem mem_of_get?_eq_some (h : t.get? kind = some a) : (kind, a) ∈ t := by
  induction t with
  | nil => simp [get?] at h
  | cons head rest ih =>
      obtain ⟨k, old⟩ := head
      rw [get?_cons] at h
      split at h
      next heq =>
        obtain rfl := Option.some.inj h
        exact heq ▸ List.mem_cons_self
      next => exact List.mem_cons_of_mem _ (ih h)

theorem exists_get?_of_mem_kinds (h : kind ∈ t.kinds) : ∃ a, t.get? kind = some a := by
  induction t with
  | nil => exact absurd h List.not_mem_nil
  | cons head rest ih =>
      obtain ⟨k, old⟩ := head
      rw [get?_cons]
      split
      next => exact ⟨old, rfl⟩
      next hne => exact ih ((List.mem_cons.mp h).resolve_left hne)

end QueryTable

/-- A table holds what a computation comes to for each of some kinds of queries. -/
structure QueryTable.Tabulates {ε α : Type} (t : QueryTable α) (kinds : List QueryKind)
    (compute : Configuration → Except ε α) : Prop where
  computed : ∀ kind a, (kind, a) ∈ t → kind ∈ kinds ∧ compute (.ofKind kind) = .ok a
  complete : ∀ kind ∈ kinds, ∃ a, t.get? kind = some a ∧ compute (.ofKind kind) = .ok a

namespace Triage

variable {ε α : Type} {s : Settings} {compute : Configuration → Logged ε α} {t : QueryTable α}

def tabulate (s : Settings) (compute : Configuration → Logged ε α) :
    Logged ε (QueryTable α) := do
  let entries ← (configurations s).mapM fun c => do return (c.kind, ← compute c)
  return .ofList entries

theorem classify_eq_tabulate (s : Settings) (g : Snapshot) :
    classify s g = tabulate s fun c => (classifier s c).classifyGraph g := rfl

theorem collectWorkItems_eq_tabulate (s : Settings) (g : Snapshot) (engine : Option FlowEngine) :
    collectWorkItems s g engine = tabulate s (itemsFor g engine) := rfl

theorem outcome_tabulate_eq_ok_iff :
    (tabulate s compute).outcome = .ok t ↔ ∃ entries,
      (s.classification.queries.mapM fun kind => do
        return (kind, ← (compute (.ofKind kind)).outcome)) = .ok entries ∧
      QueryTable.ofList entries = t := by
  have hentry : ((fun c => (do return (c.kind, ← compute c) : Logged ε _).outcome) ∘
      Configuration.ofKind) = fun kind => do return (kind, ← (compute (.ofKind kind)).outcome) := by
    funext kind
    rw [Function.comp_apply, Logged.outcome_bind, Configuration.ofKind_kind]
    rfl
  rw [tabulate, Logged.outcome_bind, Logged.outcome_mapM, configurations, List.mapM_map, hentry,
    bind_eq_ok_iff]
  simp

theorem exists_tabulate
    (h : ∀ kind ∈ s.classification.queries, ∃ a, (compute (.ofKind kind)).outcome = .ok a) :
    ∃ t, (tabulate s compute).outcome = .ok t := by
  have hentry : ∀ kind ∈ s.classification.queries, ∃ entry : QueryKind × α,
      (do return (kind, ← (compute (.ofKind kind)).outcome)) = (.ok entry : Except ε _) := by
    intro kind hkind
    obtain ⟨a, ha⟩ := h kind hkind
    exact ⟨(kind, a), by rw [ha]; rfl⟩
  obtain ⟨entries, hentries⟩ := exists_mapM_eq_ok hentry
  exact ⟨_, outcome_tabulate_eq_ok_iff.mpr ⟨entries, hentries, rfl⟩⟩

theorem failsOnly_tabulate {p : ε → Prop}
    (h : ∀ kind ∈ s.classification.queries, FailsOnly p (compute (.ofKind kind)).outcome) :
    FailsOnly p (tabulate s compute).outcome := by
  rw [tabulate, Logged.outcome_bind, Logged.outcome_mapM, configurations, List.mapM_map]
  refine FailsOnly.bind (failsOnly_mapM fun kind hkind => ?_) fun entries => failsOnly_ok _
  rw [Function.comp_apply, Logged.outcome_bind]
  exact (h kind hkind).bind fun a => failsOnly_ok _

theorem tabulates_of_outcome (h : (tabulate s compute).outcome = .ok t) :
    t.Tabulates s.classification.queries fun c => (compute c).outcome := by
  obtain ⟨entries, hentries, rfl⟩ := outcome_tabulate_eq_ok_iff.mp h
  have hcomputed : ∀ kind a, (kind, a) ∈ entries →
      kind ∈ s.classification.queries ∧ (compute (.ofKind kind)).outcome = .ok a := by
    intro kind a hmem
    obtain ⟨k, hk, hentry⟩ := exists_of_mem_mapM hentries hmem
    obtain ⟨b, hb, heq⟩ := bind_eq_ok_iff.mp hentry
    obtain ⟨rfl, rfl⟩ := Prod.mk.inj (Except.ok.inj heq)
    exact ⟨hk, hb⟩
  refine ⟨fun kind a hmem => hcomputed kind a (QueryTable.mem_of_mem_ofList hmem), ?_⟩
  intro kind hkind
  obtain ⟨entry, hentry, hcompute⟩ := exists_mem_of_mapM hentries hkind
  obtain ⟨b, hb, heq⟩ := bind_eq_ok_iff.mp hcompute
  have hkinds : kind ∈ (QueryTable.ofList entries).kinds := by
    rw [QueryTable.mem_kinds_ofList_iff]
    exact List.mem_map.mpr ⟨entry, hentry, by rw [← Except.ok.inj heq]⟩
  obtain ⟨a, ha⟩ := QueryTable.exists_get?_of_mem_kinds hkinds
  have hmem := QueryTable.mem_of_mem_ofList (QueryTable.mem_of_get?_eq_some ha)
  exact ⟨a, ha, (hcomputed kind a hmem).2⟩

theorem exists_tabulate_iff : (∃ t, (tabulate s compute).outcome = .ok t) ↔
    ∀ kind ∈ s.classification.queries, ∃ a, (compute (.ofKind kind)).outcome = .ok a := by
  constructor
  · rintro ⟨t, h⟩ kind hkind
    obtain ⟨a, -, ha⟩ := (tabulates_of_outcome h).complete kind hkind
    exact ⟨a, ha⟩
  · exact exists_tabulate

end Triage

end TaintTriage
