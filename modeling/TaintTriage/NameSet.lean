/-!
Finite sets of names, kept in increasing order of their code points and without repeats, so that
two sets with the same members are equal.
-/

namespace TaintTriage

/-- A set of names. -/
structure NameSet where
  names : List String
  increasing : names.Pairwise (· < ·) := by simp
deriving DecidableEq

namespace NameSet

/-- A name put at its place in an increasing list, unless it is there already. -/
def insertName (name : String) : List String → List String
  | [] => [name]
  | head :: tail =>
      if name < head then name :: head :: tail
      else if name = head then head :: tail
      else head :: insertName name tail

theorem mem_insertName {name other : String} {names : List String} :
    other ∈ insertName name names ↔ other = name ∨ other ∈ names := by
  induction names with
  | nil => simp [insertName]
  | cons head tail ih =>
      by_cases hlt : name < head
      · simp [insertName, hlt]
      · by_cases heq : name = head
        · subst heq
          simp [insertName]
        · simp only [insertName, hlt, heq, ↓reduceIte, List.mem_cons, ih]
          constructor
          · rintro (h | h | h) <;> simp [h]
          · rintro (h | h | h) <;> simp [h]

theorem pairwise_insertName (name : String) {names : List String}
    (h : names.Pairwise (· < ·)) : (insertName name names).Pairwise (· < ·) := by
  induction names with
  | nil => simp [insertName]
  | cons head tail ih =>
      have htail := List.pairwise_cons.mp h
      by_cases hlt : name < head
      · simp only [insertName, hlt, ↓reduceIte]
        refine List.pairwise_cons.mpr ⟨?_, h⟩
        intro other hother
        rcases List.mem_cons.mp hother with rfl | hother
        · exact hlt
        · exact String.lt_trans hlt (htail.1 other hother)
      · by_cases heq : name = head
        · subst heq
          simpa [insertName, String.lt_irrefl] using h
        · simp only [insertName, hlt, heq, ↓reduceIte]
          refine List.pairwise_cons.mpr ⟨?_, ih htail.2⟩
          intro other hother
          rcases mem_insertName.mp hother with rfl | hother
          · rcases String.le_total head other with hle | hle
            · by_cases hback : head < other
              · exact hback
              · exact absurd (String.le_antisymm (String.not_lt.mp hback) hle) heq
            · by_cases hback : head < other
              · exact hback
              · have hle' := String.not_lt.mp hlt
                exact absurd (String.le_antisymm hle hle') heq
          · exact htail.1 other hother

/-- The set without members. -/
def empty : NameSet := ⟨[], by simp⟩

/-- A set with one more member. -/
def insert (name : String) (s : NameSet) : NameSet :=
  ⟨insertName name s.names, pairwise_insertName name s.increasing⟩

def ofList (names : List String) : NameSet :=
  names.foldr insert empty

def union (s t : NameSet) : NameSet :=
  s.names.foldr insert t

def contains (s : NameSet) (name : String) : Bool :=
  s.names.contains name

/-- Whether two sets have a common member. -/
def meets (s t : NameSet) : Bool :=
  s.names.any t.contains

def isEmpty (s : NameSet) : Bool :=
  s.names.isEmpty

instance : Membership String NameSet where
  mem s name := name ∈ s.names

theorem mem_def {s : NameSet} {name : String} : name ∈ s ↔ name ∈ s.names := Iff.rfl

instance (name : String) (s : NameSet) : Decidable (name ∈ s) :=
  inferInstanceAs (Decidable (name ∈ s.names))

@[simp] theorem contains_eq_true_iff {s : NameSet} {name : String} :
    s.contains name = true ↔ name ∈ s := by
  simp [contains, mem_def]

@[simp] theorem mem_insert {s : NameSet} {name other : String} :
    other ∈ s.insert name ↔ other = name ∨ other ∈ s :=
  mem_insertName

@[simp] theorem not_mem_empty {name : String} : name ∉ empty := by
  simp [mem_def, empty]

@[simp] theorem mem_ofList {names : List String} {name : String} :
    name ∈ ofList names ↔ name ∈ names := by
  induction names with
  | nil => simp [ofList]
  | cons head tail ih =>
      have : ofList (head :: tail) = (ofList tail).insert head := rfl
      simp [this, ih]

@[simp] theorem mem_union {s t : NameSet} {name : String} :
    name ∈ s.union t ↔ name ∈ s ∨ name ∈ t := by
  have h (names : List String) :
      name ∈ names.foldr insert t ↔ name ∈ names ∨ name ∈ t := by
    induction names with
    | nil => simp
    | cons head tail ih => simp [ih, or_assoc]
  exact h s.names

theorem isEmpty_eq_false_iff {s : NameSet} : s.isEmpty = false ↔ ∃ name, name ∈ s := by
  cases h : s.names with
  | nil => simp [isEmpty, mem_def, h]
  | cons head tail =>
      simp only [isEmpty, mem_def, h, List.isEmpty_cons, true_iff]
      exact ⟨head, List.mem_cons_self⟩

theorem meets_eq_true_iff {s t : NameSet} :
    s.meets t = true ↔ ∃ name, name ∈ s ∧ name ∈ t := by
  simp [meets, mem_def]

/-- An increasing list is determined by its members. -/
theorem eq_of_pairwise_of_mem_iff {xs ys : List String} (hxs : xs.Pairwise (· < ·))
    (hys : ys.Pairwise (· < ·)) (h : ∀ name, name ∈ xs ↔ name ∈ ys) : xs = ys := by
  induction xs generalizing ys with
  | nil =>
      cases ys with
      | nil => rfl
      | cons y ys => exact absurd ((h y).mpr List.mem_cons_self) (by simp)
  | cons x xs ih =>
      cases ys with
      | nil => exact absurd ((h x).mp List.mem_cons_self) (by simp)
      | cons y ys =>
          have hx := List.pairwise_cons.mp hxs
          have hy := List.pairwise_cons.mp hys
          have hxy : x = y := by
            rcases List.mem_cons.mp ((h x).mp List.mem_cons_self) with heq | hmem
            · exact heq
            · rcases List.mem_cons.mp ((h y).mpr List.mem_cons_self) with heq | hmem'
              · exact heq.symm
              · exact absurd (hy.1 x hmem) (String.lt_asymm (hx.1 y hmem'))
          subst hxy
          have htail : ∀ name, name ∈ xs ↔ name ∈ ys := by
            intro name
            constructor
            · intro hname
              rcases List.mem_cons.mp ((h name).mp (List.mem_cons_of_mem x hname)) with rfl | hm
              · exact absurd (hx.1 name hname) (String.lt_irrefl name)
              · exact hm
            · intro hname
              rcases List.mem_cons.mp ((h name).mpr (List.mem_cons_of_mem x hname)) with rfl | hm
              · exact absurd (hy.1 name hname) (String.lt_irrefl name)
              · exact hm
          rw [ih hx.2 hy.2 htail]

/-- Sets with the same members are equal. -/
theorem ext {s t : NameSet} (h : ∀ name, name ∈ s ↔ name ∈ t) : s = t := by
  cases s with
  | mk xs hxs =>
      cases t with
      | mk ys hys =>
          have := eq_of_pairwise_of_mem_iff hxs hys h
          subst this
          rfl

/-- A set is the set of the names it lists. -/
theorem ofList_names (s : NameSet) : ofList s.names = s :=
  ext fun _ => mem_ofList

end NameSet

end TaintTriage
