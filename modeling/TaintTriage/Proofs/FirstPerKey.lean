/-!
The first entry with each key, of those that a test accepts.  A rejected entry does not keep a later
one with its key from being taken.  The loop over entries with the keys seen so far is compared with
the positions of the entries in the list.
-/

namespace TaintTriage

section

variable {α : Type} (key : α → String) (accepts : α → Bool)

/-- The accepted entries of a list whose key has not been seen; only the first one with a key. -/
def firstPerKey (seen : List String) : List α → List α
  | [] => []
  | x :: rest =>
      if accepts x = true ∧ key x ∉ seen then x :: firstPerKey (key x :: seen) rest
      else firstPerKey seen rest

/-- The entry at a position is accepted, its key has not been seen, and no accepted entry before it
has its key. -/
def FirstAt (seen : List String) (xs : List α) (i : Nat) : Prop :=
  ∃ x, xs[i]? = some x ∧ accepts x = true ∧ key x ∉ seen ∧
    ∀ j y, j < i → xs[j]? = some y → accepts y = true → key y ≠ key x

variable {key accepts}
variable {seen : List String} {x : α} {rest xs : List α}

theorem firstPerKey_cons_of_kept (h : accepts x = true ∧ key x ∉ seen) :
    firstPerKey key accepts seen (x :: rest) =
      x :: firstPerKey key accepts (key x :: seen) rest := by
  rw [firstPerKey, if_pos h]

theorem firstPerKey_cons_of_passed (h : ¬ (accepts x = true ∧ key x ∉ seen)) :
    firstPerKey key accepts seen (x :: rest) = firstPerKey key accepts seen rest := by
  rw [firstPerKey, if_neg h]

theorem firstPerKey_sublist (seen : List String) (xs : List α) :
    (firstPerKey key accepts seen xs).Sublist xs := by
  induction xs generalizing seen with
  | nil => exact List.Sublist.slnil
  | cons x rest ih =>
      by_cases h : accepts x = true ∧ key x ∉ seen
      · rw [firstPerKey_cons_of_kept h]
        exact (ih _).cons_cons x
      · rw [firstPerKey_cons_of_passed h]
        exact (ih seen).cons x

theorem accepts_of_mem_firstPerKey (h : x ∈ firstPerKey key accepts seen xs) :
    accepts x = true ∧ key x ∉ seen := by
  induction xs generalizing seen with
  | nil => exact absurd h List.not_mem_nil
  | cons y rest ih =>
      by_cases hkept : accepts y = true ∧ key y ∉ seen
      · rw [firstPerKey_cons_of_kept hkept] at h
        rcases List.mem_cons.mp h with rfl | hrest
        · exact hkept
        · obtain ⟨haccepts, hseen⟩ := ih hrest
          exact ⟨haccepts, fun hmem => hseen (List.mem_cons_of_mem _ hmem)⟩
      · rw [firstPerKey_cons_of_passed hkept] at h
        exact ih h

/-- The keys of the entries that are kept are distinct: the key of each is seen in the rest. -/
theorem firstPerKey_keys_nodup (seen : List String) (xs : List α) :
    ((firstPerKey key accepts seen xs).map key).Nodup := by
  induction xs generalizing seen with
  | nil => exact List.nodup_nil
  | cons x rest ih =>
      by_cases h : accepts x = true ∧ key x ∉ seen
      · rw [firstPerKey_cons_of_kept h, List.map_cons, List.nodup_cons]
        refine ⟨fun hmem => ?_, ih _⟩
        obtain ⟨y, hy, heq⟩ := List.mem_map.mp hmem
        have hseen := (accepts_of_mem_firstPerKey hy).2
        exact hseen (heq ▸ List.mem_cons_self)
      · rw [firstPerKey_cons_of_passed h]
        exact ih seen

/-- Every key of an accepted entry is seen or kept. -/
theorem exists_mem_firstPerKey (hx : x ∈ xs) (haccepts : accepts x = true)
    (hseen : key x ∉ seen) : ∃ y ∈ firstPerKey key accepts seen xs, key y = key x := by
  induction xs generalizing seen with
  | nil => exact absurd hx List.not_mem_nil
  | cons z rest ih =>
      by_cases h : accepts z = true ∧ key z ∉ seen
      · rw [firstPerKey_cons_of_kept h]
        by_cases heq : key z = key x
        · exact ⟨z, List.mem_cons_self, heq⟩
        · have hrest : x ∈ rest :=
            (List.mem_cons.mp hx).resolve_left fun hz => heq (by rw [hz])
          have hseen' : key x ∉ key z :: seen := by
            rw [List.mem_cons, not_or]
            exact ⟨fun hz => heq hz.symm, hseen⟩
          obtain ⟨y, hy, hkey⟩ := ih hrest hseen'
          exact ⟨y, List.mem_cons_of_mem z hy, hkey⟩
      · rw [firstPerKey_cons_of_passed h]
        have hrest : x ∈ rest :=
          (List.mem_cons.mp hx).resolve_left fun hz => h (hz ▸ ⟨haccepts, hseen⟩)
        exact ih hrest hseen

theorem mem_keys_firstPerKey_iff {k : String} :
    k ∈ (firstPerKey key accepts [] xs).map key ↔ ∃ x ∈ xs, accepts x = true ∧ key x = k := by
  constructor
  · intro h
    obtain ⟨x, hx, rfl⟩ := List.mem_map.mp h
    exact ⟨x, (firstPerKey_sublist [] xs).subset hx, (accepts_of_mem_firstPerKey hx).1, rfl⟩
  · rintro ⟨x, hx, haccepts, rfl⟩
    obtain ⟨y, hy, hkey⟩ := exists_mem_firstPerKey hx haccepts List.not_mem_nil
    exact List.mem_map.mpr ⟨y, hy, hkey⟩

theorem firstPerKey_eq_self (hdistinct : (xs.map key).Nodup) (hseen : ∀ x ∈ xs, key x ∉ seen) :
    firstPerKey key (fun _ => true) seen xs = xs := by
  induction xs generalizing seen with
  | nil => rfl
  | cons x rest ih =>
      rw [List.map_cons, List.nodup_cons] at hdistinct
      rw [firstPerKey_cons_of_kept ⟨rfl, hseen x List.mem_cons_self⟩]
      refine congrArg (x :: ·) (ih hdistinct.2 fun y hy => ?_)
      rw [List.mem_cons, not_or]
      exact ⟨fun heq => hdistinct.1 (heq ▸ List.mem_map_of_mem hy),
        hseen y (List.mem_cons_of_mem x hy)⟩

/-- The entries that are not accepted may be dropped beforehand. -/
theorem firstPerKey_filter (seen : List String) (xs : List α) :
    firstPerKey key (fun _ => true) seen (xs.filter accepts) =
      firstPerKey key accepts seen xs := by
  induction xs generalizing seen with
  | nil => rfl
  | cons x rest ih =>
      cases haccepts : accepts x with
      | false =>
          rw [List.filter_cons_of_neg (by simp [haccepts]),
            firstPerKey_cons_of_passed (by simp [haccepts]), ih]
      | true =>
          rw [List.filter_cons_of_pos haccepts]
          by_cases hseen : key x ∈ seen
          · rw [firstPerKey_cons_of_passed fun h => h.2 hseen,
              firstPerKey_cons_of_passed fun h => h.2 hseen, ih]
          · rw [firstPerKey_cons_of_kept ⟨rfl, hseen⟩,
              firstPerKey_cons_of_kept ⟨haccepts, hseen⟩, ih]

/-- Entries may be mapped before or after, as long as their keys stay. -/
theorem firstPerKey_map {β : Type} (f : β → α) (seen : List String) (ys : List β) :
    firstPerKey key (fun _ => true) seen (ys.map f) =
      (firstPerKey (key ∘ f) (fun _ => true) seen ys).map f := by
  induction ys generalizing seen with
  | nil => rfl
  | cons y rest ih =>
      by_cases hseen : key (f y) ∈ seen
      · have hleft : firstPerKey (key ∘ f) (fun _ => true) seen (y :: rest) =
            firstPerKey (key ∘ f) (fun _ => true) seen rest :=
          firstPerKey_cons_of_passed fun h => h.2 hseen
        rw [hleft, ← ih, List.map_cons, firstPerKey_cons_of_passed fun h => h.2 hseen]
      · have hleft : firstPerKey (key ∘ f) (fun _ => true) seen (y :: rest) =
            y :: firstPerKey (key ∘ f) (fun _ => true) (key (f y) :: seen) rest :=
          firstPerKey_cons_of_kept ⟨rfl, hseen⟩
        rw [hleft, List.map_cons, List.map_cons, ← ih, firstPerKey_cons_of_kept ⟨rfl, hseen⟩]

theorem firstAt_zero_iff :
    FirstAt key accepts seen (x :: rest) 0 ↔ accepts x = true ∧ key x ∉ seen := by
  constructor
  · rintro ⟨y, hy, haccepts, hseen, -⟩
    obtain rfl : x = y := by simpa using hy
    exact ⟨haccepts, hseen⟩
  · rintro ⟨haccepts, hseen⟩
    exact ⟨x, rfl, haccepts, hseen, fun j _ hj => absurd hj (Nat.not_lt_zero j)⟩

theorem firstAt_succ_iff_of_kept {i : Nat} (h : accepts x = true ∧ key x ∉ seen) :
    FirstAt key accepts seen (x :: rest) (i + 1) ↔ FirstAt key accepts (key x :: seen) rest i := by
  constructor
  · rintro ⟨y, hy, haccepts, hseen, hfirst⟩
    refine ⟨y, by simpa using hy, haccepts, ?_, fun j z hj hz => ?_⟩
    · rw [List.mem_cons, not_or]
      exact ⟨fun heq => hfirst 0 x (Nat.succ_pos i) rfl h.1 heq.symm, hseen⟩
    · exact hfirst (j + 1) z (Nat.succ_lt_succ hj) (by simpa using hz)
  · rintro ⟨y, hy, haccepts, hseen, hfirst⟩
    rw [List.mem_cons, not_or] at hseen
    refine ⟨y, by simpa using hy, haccepts, hseen.2, fun j z hj hz hz' => ?_⟩
    cases j with
    | zero =>
        obtain rfl : x = z := by simpa using hz
        exact fun heq => hseen.1 heq.symm
    | succ j => exact hfirst j z (Nat.lt_of_succ_lt_succ hj) (by simpa using hz) hz'

theorem firstAt_succ_iff_of_passed {i : Nat} (h : ¬ (accepts x = true ∧ key x ∉ seen)) :
    FirstAt key accepts seen (x :: rest) (i + 1) ↔ FirstAt key accepts seen rest i := by
  constructor
  · rintro ⟨y, hy, haccepts, hseen, hfirst⟩
    exact ⟨y, by simpa using hy, haccepts, hseen, fun j z hj hz =>
      hfirst (j + 1) z (Nat.succ_lt_succ hj) (by simpa using hz)⟩
  · rintro ⟨y, hy, haccepts, hseen, hfirst⟩
    refine ⟨y, by simpa using hy, haccepts, hseen, fun j z hj hz hz' => ?_⟩
    cases j with
    | zero =>
        obtain rfl : x = z := by simpa using hz
        exact fun heq => h ⟨hz', heq ▸ hseen⟩
    | succ j => exact hfirst j z (Nat.lt_of_succ_lt_succ hj) (by simpa using hz) hz'

variable (key accepts) in
/-- What is kept are the entries at the positions that are first, in the order of the list. -/
theorem firstPerKey_positions (seen : List String) (xs : List α) :
    ∃ positions : List Nat, positions.Pairwise (· < ·) ∧
      positions.map (xs[·]?) = (firstPerKey key accepts seen xs).map some ∧
      ∀ i, i ∈ positions ↔ FirstAt key accepts seen xs i := by
  induction xs generalizing seen with
  | nil => exact ⟨[], List.Pairwise.nil, rfl, fun i => by simp [FirstAt]⟩
  | cons x rest ih =>
      -- The positions in the rest are one less than those in the whole list.
      by_cases h : accepts x = true ∧ key x ∉ seen
      · obtain ⟨positions, hlt, hget, hmem⟩ := ih (key x :: seen)
        refine ⟨0 :: positions.map (· + 1), ?_, ?_, ?_⟩
        · rw [List.pairwise_cons, List.pairwise_map]
          refine ⟨fun i hi => ?_, hlt.imp Nat.succ_lt_succ⟩
          obtain ⟨j, -, rfl⟩ := List.mem_map.mp hi
          exact Nat.succ_pos j
        · rw [firstPerKey_cons_of_kept h, List.map_cons, List.map_cons, ← hget, List.map_map]
          rfl
        · intro i
          cases i with
          | zero => simp [firstAt_zero_iff, h]
          | succ i => simp [firstAt_succ_iff_of_kept h, hmem]
      · obtain ⟨positions, hlt, hget, hmem⟩ := ih seen
        refine ⟨positions.map (· + 1), ?_, ?_, ?_⟩
        · rw [List.pairwise_map]
          exact hlt.imp Nat.succ_lt_succ
        · rw [firstPerKey_cons_of_passed h, ← hget, List.map_map]
          rfl
        · intro i
          cases i with
          | zero => simp [firstAt_zero_iff, h]
          | succ i => simp [firstAt_succ_iff_of_passed h, hmem]

end

end TaintTriage
