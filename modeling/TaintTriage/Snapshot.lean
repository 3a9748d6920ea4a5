import TaintTriage.Node.Document
import TaintTriage.Repeat

/-!
Graph snapshots: nodes in document order, told apart by their ids, and the tags of the additional
flow steps between them.
-/

namespace TaintTriage

/-- The tags of flow steps, by the ids of the step's two ends. -/
structure StepTable where
  entries : List ((String × String) × NameSet)
  distinct : (entries.map (·.1)).Nodup := by simp

namespace StepTable

def empty : StepTable := ⟨[], by simp⟩

/-- The tags of the steps between two nodes; none if there is no step. -/
def tags (table : StepTable) (ends : String × String) : NameSet :=
  (table.entries.lookup ends).getD .empty

/-- The entries with the tags of one pair changed; a new pair comes last. -/
def updateEntries (ends : String × String) (change : NameSet → NameSet) :
    List ((String × String) × NameSet) → List ((String × String) × NameSet)
  | [] => [(ends, change .empty)]
  | (head, tags) :: rest =>
      if head = ends then (head, change tags) :: rest
      else (head, tags) :: updateEntries ends change rest

theorem mem_keys_updateEntries {ends other : String × String} {change : NameSet → NameSet}
    {entries : List ((String × String) × NameSet)} :
    other ∈ (updateEntries ends change entries).map (·.1) ↔
      other = ends ∨ other ∈ entries.map (·.1) := by
  induction entries with
  | nil => simp [updateEntries]
  | cons entry rest ih =>
      obtain ⟨head, tags⟩ := entry
      by_cases h : head = ends
      · subst h
        simp only [updateEntries, ↓reduceIte, List.map_cons, List.mem_cons]
        constructor
        · rintro (h | h)
          · exact Or.inl h
          · exact Or.inr (Or.inr h)
        · rintro (h | h | h)
          · exact Or.inl h
          · exact Or.inl h
          · exact Or.inr h
      · simp only [updateEntries, h, ↓reduceIte, List.map_cons, List.mem_cons, ih]
        constructor
        · rintro (h | h | h)
          · exact Or.inr (Or.inl h)
          · exact Or.inl h
          · exact Or.inr (Or.inr h)
        · rintro (h | h | h)
          · exact Or.inr (Or.inl h)
          · exact Or.inl h
          · exact Or.inr (Or.inr h)

theorem nodup_updateEntries (ends : String × String) (change : NameSet → NameSet)
    {entries : List ((String × String) × NameSet)} (h : (entries.map (·.1)).Nodup) :
    ((updateEntries ends change entries).map (·.1)).Nodup := by
  induction entries with
  | nil => simp [updateEntries]
  | cons entry rest ih =>
      obtain ⟨head, tags⟩ := entry
      have hcons := List.nodup_cons.mp h
      by_cases heq : head = ends
      · subst heq
        simpa [updateEntries] using h
      · simp only [updateEntries, heq, ↓reduceIte, List.map_cons]
        refine List.nodup_cons.mpr ⟨?_, ih hcons.2⟩
        intro hmem
        rcases mem_keys_updateEntries.mp hmem with h' | h'
        · exact heq h'
        · exact hcons.1 h'

def update (table : StepTable) (ends : String × String) (change : NameSet → NameSet) :
    StepTable :=
  ⟨updateEntries ends change table.entries, nodup_updateEntries ends change table.distinct⟩

def add (table : StepTable) (ends : String × String) (tags : NameSet) : StepTable :=
  table.update ends fun old => old.union tags

theorem lookup_updateEntries (ends other : String × String) (change : NameSet → NameSet)
    (entries : List ((String × String) × NameSet)) :
    (updateEntries ends change entries).lookup other =
      if other = ends then some (change ((entries.lookup ends).getD .empty))
      else entries.lookup other := by
  induction entries with
  | nil =>
      by_cases h : other = ends
      · subst h
        simp [updateEntries]
      · have hne : (other == ends) = false := by simpa using h
        simp [updateEntries, List.lookup_cons, h, hne]
  | cons entry rest ih =>
      obtain ⟨head, tags⟩ := entry
      by_cases heq : head = ends
      · subst heq
        by_cases h : other = head
        · subst h
          simp [updateEntries]
        · have hne : (other == head) = false := by simpa using h
          simp [updateEntries, List.lookup_cons, h, hne]
      · by_cases h : other = ends
        · subst h
          have hne : (other == head) = false := by simpa using fun h => heq h.symm
          simp only [updateEntries, heq, ↓reduceIte, List.lookup_cons, hne] at ih ⊢
          exact ih
        · simp only [updateEntries, heq, ↓reduceIte, List.lookup_cons, ih, h]

/-- A change is seen at its pair and nowhere else. -/
theorem tags_update (table : StepTable) (ends other : String × String)
    (change : NameSet → NameSet) :
    (table.update ends change).tags other =
      if other = ends then change (table.tags ends) else table.tags other := by
  simp only [tags, update, lookup_updateEntries]
  split <;> simp

end StepTable

/-- A graph snapshot. -/
structure Snapshot where
  nodes : List Node
  steps : StepTable
  distinct : (nodes.map (·.id)).Nodup

namespace Snapshot

def ofNodes (nodes : List Node) (steps : StepTable) : Except SnapshotFault Snapshot :=
  match h : firstRepeat? [] (nodes.map (·.id)) with
  | some id => .error (.duplicateNode id)
  | none => .ok ⟨nodes, steps, (firstRepeat?_eq_none.mp h).1⟩

def get? (g : Snapshot) (id : String) : Option Node :=
  g.nodes.find? (·.id == id)

/-- A look-up finds exactly the nodes of the graph, each by its own id. -/
theorem get?_eq_some_iff {g : Snapshot} {id : String} {n : Node} :
    g.get? id = some n ↔ n ∈ g.nodes ∧ n.id = id :=
  find?_key_eq_some_iff g.distinct

theorem eq_of_id_eq (g : Snapshot) {m n : Node} (hm : m ∈ g.nodes) (hn : n ∈ g.nodes)
    (h : m.id = n.id) : m = n :=
  Option.some.inj ((get?_eq_some_iff.mpr ⟨hm, h⟩).symm.trans (get?_eq_some_iff.mpr ⟨hn, rfl⟩))

/-- The tags of the additional flow steps from one node to another. -/
def stepTags (g : Snapshot) (source target : String) : NameSet :=
  g.steps.tags (source, target)

def getSupplied? (g : Snapshot) (id : Value) : Except ValueFault (Option Node) := do
  id.requireHashable
  match id with
  | .str id => return g.get? id
  | _ => return none

/-- The tags of the additional flow steps between ends that may be any values. -/
def stepTagsSupplied (g : Snapshot) (source target : Value) : Except ValueFault NameSet := do
  (Value.pair source target).requireHashable
  match source, target with
  | .str source, .str target => return g.stepTags source target
  | _, _ => return .empty

/-- The number of nodes. -/
def size (g : Snapshot) : Nat :=
  g.nodes.length

end Snapshot

end TaintTriage
