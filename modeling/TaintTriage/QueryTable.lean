import TaintTriage.QueryKind

/-!
Tables with one entry for each of some kinds of queries, in the order in which the kinds first
came up.
-/

namespace TaintTriage

/-- Entries for kinds of queries. -/
abbrev QueryTable (α : Type) := List (QueryKind × α)

namespace QueryTable

variable {α β : Type}

/-- Set the entry of a kind.  A kind that has one keeps its place. -/
def insert (kind : QueryKind) (a : α) : QueryTable α → QueryTable α
  | [] => [(kind, a)]
  | (k, old) :: rest => if k = kind then (kind, a) :: rest else (k, old) :: insert kind a rest

def kinds (t : QueryTable α) : List QueryKind := t.map (·.1)

def get? (t : QueryTable α) (kind : QueryKind) : Option α := t.lookup kind

/-- The table of a list of entries, of which the last one for a kind counts. -/
def ofList (entries : List (QueryKind × α)) : QueryTable α :=
  entries.foldl (fun t (kind, a) => t.insert kind a) []

theorem kinds_insert (t : QueryTable α) (kind : QueryKind) (a : α) :
    (t.insert kind a).kinds = if kind ∈ t.kinds then t.kinds else t.kinds ++ [kind] := by
  induction t with
  | nil => simp [insert, kinds]
  | cons entry rest ih =>
      obtain ⟨k, old⟩ := entry
      by_cases h : k = kind
      · simp [insert, kinds, h]
      · have hne : kind ≠ k := fun e => h e.symm
        by_cases hmem : kind ∈ kinds rest <;> rw [kinds] at ih hmem <;>
          simp [insert, kinds, h, hne, hmem, ih]

theorem get?_cons (k kind : QueryKind) (old : α) (rest : QueryTable α) :
    get? ((k, old) :: rest) kind = if kind = k then some old else get? rest kind := by
  by_cases h : kind = k
  · simp [get?, h]
  · simp [get?, List.lookup_cons, beq_false_of_ne h, h]

end QueryTable

end TaintTriage
