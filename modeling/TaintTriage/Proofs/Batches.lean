import Mathlib.Data.List.Basic
import TaintTriage.Scoring

/-!
The arithmetic of cutting a list into batches: which entries a batch has, and in which batch, and
where there, an entry of the whole is found.
-/

namespace TaintTriage.Scoring

variable {α β : Type}

/-- The batch with a number, counted from zero: the entries from there on that fit into it. -/
def batchAt (size number : Nat) (items : List α) : List α :=
  (items.drop (number * size)).take size

theorem batchAt_zero (size : Nat) (items : List α) : batchAt size 0 items = items.take size := by
  rw [batchAt, Nat.zero_mul, List.drop_zero]

theorem batchAt_succ (size number : Nat) (items : List α) :
    batchAt size (number + 1) items = batchAt size number (items.drop size) := by
  rw [batchAt, batchAt, List.drop_drop, Nat.add_mul, Nat.one_mul, Nat.add_comm]

theorem batches_cons (size : Nat) (first : α) (rest : List α) :
    batches size (first :: rest) =
      (first :: rest).take (size + 1) :: batches size ((first :: rest).drop (size + 1)) := by
  rw [batches]
  rfl

theorem flatten_batches (size : Nat) (items : List α) : (batches size items).flatten = items := by
  fun_induction batches size items with
  | case1 => rfl
  | case2 first rest ih =>
      rw [List.flatten_cons, ih, List.cons_append, List.take_append_drop]

theorem ne_nil_of_mem_batches {size : Nat} {items batch : List α} (h : batch ∈ batches size items) :
    batch ≠ [] := by
  fun_induction batches size items with
  | case1 => exact absurd h List.not_mem_nil
  | case2 first rest ih =>
      rcases List.mem_cons.mp h with rfl | hlater
      · exact List.cons_ne_nil first _
      · exact ih hlater

theorem length_le_of_mem_batches {size : Nat} {items batch : List α}
    (h : batch ∈ batches size items) : batch.length ≤ size + 1 := by
  fun_induction batches size items with
  | case1 => exact absurd h List.not_mem_nil
  | case2 first rest ih =>
      rcases List.mem_cons.mp h with rfl | hlater
      · exact Nat.succ_le_succ (List.length_take_le size rest)
      · exact ih hlater

/-- There is a batch for each number of which the entries begin before the end of the list. -/
theorem getElem?_batches (size : Nat) (items : List α) (number : Nat) :
    (batches size items)[number]? =
      if number * (size + 1) < items.length then some (batchAt (size + 1) number items)
      else none := by
  induction number generalizing items with
  | zero =>
      cases items with
      | nil => simp [batches]
      | cons first rest =>
          have hnonempty : 0 * (size + 1) < (first :: rest).length := by simp
          rw [batches_cons, List.getElem?_cons_zero, batchAt_zero, if_pos hnonempty]
  | succ number ih =>
      cases items with
      | nil => simp [batches]
      | cons first rest =>
          have hnext : number * (size + 1) < ((first :: rest).drop (size + 1)).length ↔
              (number + 1) * (size + 1) < (first :: rest).length := by
            rw [List.length_drop, Nat.add_mul, Nat.one_mul]
            omega
          rw [batches_cons, List.getElem?_cons_succ, ih, batchAt_succ]
          simp only [hnext]

theorem getElem?_batches_eq_some_iff {size number : Nat} {items batch : List α} :
    (batches size items)[number]? = some batch ↔
      number * (size + 1) < items.length ∧ batchAt (size + 1) number items = batch := by
  rw [getElem?_batches]
  split
  next h => simp [h]
  next h => simp [h]

theorem getElem?_full {size : Nat} {part : List β} {others : List (List β)} {i : Nat}
    (hlength : part.length = size + 1)
    (hothers : ∀ j, others.flatten[j]? = others[j / (size + 1)]?.bind (·[j % (size + 1)]?)) :
    (part :: others).flatten[i]? = (part :: others)[i / (size + 1)]?.bind (·[i % (size + 1)]?) := by
  rw [List.flatten_cons]
  by_cases hi : i < size + 1
  · rw [List.getElem?_append_left (hlength ▸ hi), Nat.div_eq_of_lt hi, Nat.mod_eq_of_lt hi]
    rfl
  · have hle : size + 1 ≤ i := Nat.le_of_not_lt hi
    rw [List.getElem?_append_right (hlength ▸ hle), hlength, hothers,
      Nat.div_eq_sub_div (Nat.succ_pos size) hle, Nat.mod_eq_sub_mod hle, List.getElem?_cons_succ]

theorem getElem?_last {size : Nat} {part : List β} {i : Nat} (hlength : part.length ≤ size + 1) :
    [part].flatten[i]? = [part][i / (size + 1)]?.bind (·[i % (size + 1)]?) := by
  rw [List.flatten_singleton]
  by_cases hi : i < size + 1
  · rw [Nat.div_eq_of_lt hi, Nat.mod_eq_of_lt hi]
    rfl
  · have hle : size + 1 ≤ i := Nat.le_of_not_lt hi
    rw [Nat.div_eq_sub_div (Nat.succ_pos size) hle, List.getElem?_cons_succ,
      List.getElem?_eq_none (Nat.le_trans hlength hle)]
    rfl

/-- Where lists are as long as the batches, an entry of the whole has the quotient of its position
for its list and the remainder for its place there. -/
theorem getElem?_flatten_of_lengths {size : Nat} {items : List α} {parts : List (List β)}
    (h : parts.map List.length = (batches size items).map List.length) (i : Nat) :
    parts.flatten[i]? = parts[i / (size + 1)]?.bind (·[i % (size + 1)]?) := by
  fun_induction batches size items generalizing parts i with
  | case1 =>
      obtain rfl := List.map_eq_nil_iff.mp h
      rfl
  | case2 first rest ih =>
      cases parts with
      | nil => exact absurd h (List.cons_ne_nil _ _).symm
      | cons part others =>
          rw [List.map_cons, List.map_cons, List.cons.injEq, List.length_cons, List.length_take]
            at h
          obtain ⟨hlength, hothers⟩ := h
          -- A batch that is not full is the last one.
          by_cases hfull : size ≤ rest.length
          · exact getElem?_full (by omega) fun j => ih hothers j
          · have hnone : rest.drop size = [] := List.drop_eq_nil_of_le (by omega)
            rw [hnone, batches, List.map_nil, List.map_eq_nil_iff] at hothers
            rw [hothers]
            exact getElem?_last (by omega)

end TaintTriage.Scoring
