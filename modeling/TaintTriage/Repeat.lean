/-!
The first repeated entry of a list, which is what refusals of repeats report, and what can be looked
up where nothing is repeated.
-/

namespace TaintTriage

/-- The first entry of a list that stands in it a second time, in the order of the second
places. -/
def firstRepeat? {α : Type} [BEq α] (seen : List α) : List α → Option α
  | [] => none
  | x :: rest => if seen.contains x then some x else firstRepeat? (x :: seen) rest

theorem firstRepeat?_eq_none {α : Type} [BEq α] [LawfulBEq α] {seen xs : List α} :
    firstRepeat? seen xs = none ↔ xs.Nodup ∧ ∀ x ∈ xs, x ∉ seen := by
  induction xs generalizing seen with
  | nil => simp [firstRepeat?]
  | cons head tail ih =>
      by_cases hseen : head ∈ seen
      · simp [firstRepeat?, hseen]
      · simp only [firstRepeat?, List.contains_eq_mem, hseen, decide_false, Bool.false_eq_true,
          ↓reduceIte, ih, List.nodup_cons, List.mem_cons]
        constructor
        · rintro ⟨hnodup, htail⟩
          refine ⟨⟨fun h => (htail head h) (Or.inl rfl), hnodup⟩, ?_⟩
          rintro x (rfl | hx)
          · exact hseen
          · exact fun hmem => htail x hx (Or.inr hmem)
        · rintro ⟨⟨hhead, hnodup⟩, hall⟩
          refine ⟨hnodup, fun x hx => ?_⟩
          rintro (rfl | hmem)
          · exact hhead hx
          · exact hall x (Or.inr hx) hmem

/-- Where nothing was repeated before, the first repeated entry ends the longest beginning of the
list with which this stays so. -/
theorem firstRepeat?_eq_some_iff_of_nodup {α : Type} [BEq α] [LawfulBEq α] {seen xs : List α}
    {x : α} (h : seen.Nodup) :
    firstRepeat? seen xs = some x ↔
      ∃ i, xs[i]? = some x ∧ x ∈ seen ++ xs.take i ∧ (seen ++ xs.take i).Nodup := by
  induction xs generalizing seen with
  | nil => simp [firstRepeat?]
  | cons head rest ih =>
      rw [firstRepeat?]
      by_cases hhead : head ∈ seen
      · rw [if_pos (List.contains_iff_mem.mpr hhead), Option.some.injEq]
        constructor
        · rintro rfl
          exact ⟨0, rfl, List.mem_append_left _ hhead, by simpa using h⟩
        · intro ⟨i, hx, _, hnodup⟩
          cases i with
          | zero => exact Option.some.inj hx
          | succ i =>
              exact absurd rfl
                ((List.nodup_append.mp hnodup).2.2 head hhead head List.mem_cons_self)
      · rw [if_neg (mt List.contains_iff_mem.mp hhead), ih (List.nodup_cons.mpr ⟨hhead, h⟩)]
        -- What was seen grows by the head, which the beginning of the list has lost.
        have hperm (i : Nat) :
            ((head :: seen) ++ rest.take i).Perm (seen ++ (head :: rest).take (i + 1)) := by
          rw [List.take_succ_cons]
          exact List.perm_middle.symm
        constructor
        · intro ⟨i, hx, hmem, hnodup⟩
          exact ⟨i + 1, hx, (hperm i).mem_iff.mp hmem, (hperm i).nodup_iff.mp hnodup⟩
        · intro ⟨i, hx, hmem, hnodup⟩
          cases i with
          | zero =>
              obtain rfl := Option.some.inj hx
              exact absurd (by simpa using hmem) hhead
          | succ i => exact ⟨i, hx, (hperm i).mem_iff.mpr hmem, (hperm i).nodup_iff.mpr hnodup⟩

/-- The first repeated entry ends the longest beginning of a list without repeats. -/
theorem firstRepeat?_eq_some_iff {α : Type} [BEq α] [LawfulBEq α] {xs : List α} {x : α} :
    firstRepeat? [] xs = some x ↔
      ∃ i, xs[i]? = some x ∧ x ∈ xs.take i ∧ (xs.take i).Nodup :=
  firstRepeat?_eq_some_iff_of_nodup List.nodup_nil

/-- Where no key is repeated, a look-up finds exactly the entries, each by its own key. -/
theorem find?_key_eq_some_iff {α κ : Type} [BEq κ] [LawfulBEq κ] {key : α → κ} {xs : List α}
    (h : (xs.map key).Nodup) {k : κ} {a : α} :
    xs.find? (key · == k) = some a ↔ a ∈ xs ∧ key a = k := by
  induction xs with
  | nil => simp
  | cons head rest ih =>
      rw [List.map_cons, List.nodup_cons] at h
      by_cases heq : key head = k
      · rw [List.find?_cons_of_pos (by simpa using heq), Option.some.injEq, List.mem_cons]
        constructor
        · rintro rfl
          exact ⟨Or.inl rfl, heq⟩
        · rintro ⟨rfl | ha, hkey⟩
          · rfl
          · exact absurd (List.mem_map.mpr ⟨a, ha, hkey.trans heq.symm⟩) h.1
      · rw [List.find?_cons_of_neg (by simpa using heq), ih h.2, List.mem_cons]
        constructor
        · rintro ⟨ha, hkey⟩
          exact ⟨Or.inr ha, hkey⟩
        · rintro ⟨rfl | ha, hkey⟩
          · exact absurd hkey heq
          · exact ⟨ha, hkey⟩

/-- Where no key is repeated, the entries with a key are the one that a look-up finds. -/
theorem filter_key_eq_toList_find? {α κ : Type} [BEq κ] [LawfulBEq κ] {key : α → κ} {xs : List α}
    (h : (xs.map key).Nodup) (k : κ) :
    xs.filter (key · == k) = (xs.find? (key · == k)).toList := by
  induction xs with
  | nil => rfl
  | cons head rest ih =>
      rw [List.map_cons, List.nodup_cons] at h
      by_cases heq : key head = k
      · have hrest : rest.filter (key · == k) = [] := by
          rw [List.filter_eq_nil_iff]
          intro a ha hkey
          exact h.1 (List.mem_map.mpr ⟨a, ha, (beq_iff_eq.mp hkey).trans heq.symm⟩)
        rw [List.filter_cons_of_pos (by simpa using heq), hrest,
          List.find?_cons_of_pos (by simpa using heq)]
        rfl
      · rw [List.filter_cons_of_neg (by simpa using heq), ih h.2,
          List.find?_cons_of_neg (by simpa using heq)]

end TaintTriage
