import TaintTriage.Pool
import TaintTriage.Proofs.Outcome

/-!
Pools whose workers finish in any order.  As long as every item is finished, the results are those
of going through the items one by one, failures included.
-/

namespace TaintTriage.Pool

variable {ε α β : Type} {f : α → Except ε β} {items : List α} {order : List Nat}

theorem collect_map (f : α → Except ε β) (items : List α) :
    collect (items.map f) = items.mapM f := by
  induction items with
  | nil => rfl
  | cons a rest ih =>
      rw [List.map_cons, collect, ih, List.mapM_cons]

/-- An item that is finished is found with its outcome, even if it was finished twice. -/
theorem lookup_finished (f : α → Except ε β) (items : List α) (order : List Nat) (i : Nat) :
    (finished f items order).lookup i = if i ∈ order then items[i]?.map f else none := by
  induction order with
  | nil => rfl
  | cons j rest ih =>
      rw [finished] at ih ⊢
      cases hj : items[j]? with
      | none =>
          rw [List.filterMap_cons_none (by rw [hj]; rfl), ih]
          by_cases heq : i = j
          · subst heq
            simp [hj]
          · simp [heq]
      | some a =>
          rw [List.filterMap_cons_some (by rw [hj]; rfl), List.lookup_cons, ih]
          by_cases heq : i = j
          · subst heq
            simp [hj]
          · simp [heq, beq_false_of_ne heq]

theorem filterMap_getElem?_range {γ : Type} (xs : List γ) :
    (List.range xs.length).filterMap (xs[·]?) = xs := by
  induction xs with
  | nil => rfl
  | cons x rest ih =>
      rw [List.length_cons, List.range_succ_eq_map, List.filterMap_cons, List.filterMap_map]
      exact congrArg (x :: ·) ih

/-- The order in which the items were finished is forgotten. -/
theorem inItemOrder_finished (h : ∀ i < items.length, i ∈ order) :
    inItemOrder items.length (finished f items order) = items.map f := by
  have hlookup : (fun i => (finished f items order).lookup i) = fun i => (items.map f)[i]? := by
    funext i
    rw [lookup_finished, List.getElem?_map]
    split
    next => rfl
    next hnot =>
      have hlength : items.length ≤ i := Nat.le_of_not_lt (mt (h i) hnot)
      rw [List.getElem?_eq_none hlength]
      rfl
  have hrange := filterMap_getElem?_range (items.map f)
  rw [List.length_map] at hrange
  rw [inItemOrder, hlookup, hrange]

theorem mapPooled_eq_mapInline (h : ∀ i < items.length, i ∈ order) :
    mapPooled f items order = mapInline f items := by
  rw [mapPooled, inItemOrder_finished h, collect_map]
  rfl

/-- The number of workers does not change the results. -/
theorem map_eq_mapM (workers : Int) (f : α → Except ε β) (items : List α) :
    Pool.map workers f items = items.mapM f := by
  rw [Pool.map]
  split
  · rfl
  · exact mapPooled_eq_mapInline fun i hi => List.mem_range.mpr hi

end TaintTriage.Pool
