import TaintTriage.Proofs.ShippedRule
import TaintTriage.Snapshot.Document

/-!
What documents hold and what is read from them.  A mapping made of named fields is looked up as the
list of fields is; a snapshot that was read has its nodes from the entries under `nodes`, one by one
and in order, and its steps from those under `steps`.
-/

namespace TaintTriage

namespace Value

theorem field?_object (fields : List (String × Value)) (name : String) :
    field? (fields.map fun (name, v) => (.str name, v)) name = fields.lookup name := by
  induction fields with
  | nil => rfl
  | cons entry rest ih =>
      obtain ⟨head, v⟩ := entry
      by_cases h : name = head
      · subst h
        simp [field?]
      · have hne : (name == head) = false := by simpa using h
        have hne' : (head == name) = false := by simpa using Ne.symm h
        rw [List.lookup_cons, hne, ← ih]
        simp [field?, hne']

theorem str_equals_iff {s : String} {v : Value} : (Value.str s).equals v = true ↔ v = .str s := by
  cases v with
  | str t =>
      rw [equals, beq_iff_eq, str.injEq]
      exact eq_comm
  | _ => simp [equals]

/-- Among keys of any kind, a text is looked for as it is among texts. -/
theorem find?_str (fields : List (Value × Value)) (name : String) :
    find? fields (.str name) = field? fields name := by
  rw [find?, field?]
  apply congrArg fun test => (fields.find? test).map Prod.snd
  funext entry
  rw [Bool.eq_iff_iff, str_equals_iff]
  split
  · rename_i k hk
    simp [hk]
  · rename_i hother
    simp only [Bool.false_eq_true, iff_false]
    exact hother name

theorem named_eq_ok_iff {v part : Value} {name : String} :
    v.named name = .ok part ↔
      ∃ fields, v.opened = .map fields ∧ field? fields name = some part := by
  rw [named]
  cases hopened : v.opened with
  | map fields =>
      cases hfield : field? fields name with
      | none => simp [hfield]
      | some found => simp [hfield]
  | _ => simp

end Value

namespace NodeRecord

/-- An entry is asked for its id with success exactly if it is a mapping with one. -/
theorem contains_nodeId_of_map {entry : Value} {fields : List (Value × Value)}
    (hopened : entry.opened = .map fields) :
    (Value.str "node_id").contains entry = .ok (Value.field? fields "node_id").isSome := by
  rw [Value.contains, hopened]
  simp [Value.requireHashable, Value.isHashable, Value.find?_str]

theorem ofDocument_of_map {entry : Value} {fields : List (Value × Value)}
    (hopened : entry.opened = .map fields) :
    ofDocument entry =
      match Value.field? fields "node_id" with
      | none => .error (SnapshotFault.missingNodeId entry).raised
      | some id =>
          match convert fields id with
          | .ok n => .ok n
          | .error cause =>
              match cause.category with
              | .shape | .content => .error (SnapshotFault.invalidField id cause).raised
              | _ => .error (.unusable cause) := by
  rw [ofDocument, contains_nodeId_of_map hopened]
  cases hid : Value.field? fields "node_id" with
  | none => rfl
  | some id =>
      have hnamed : entry.named "node_id" = .ok id :=
        Value.named_eq_ok_iff.mpr ⟨fields, hopened, hid⟩
      cases hread : convert fields id with
      | ok n => simp only [Option.isSome_some, hopened, hnamed, hread]
      | error cause =>
          cases hcategory : cause.category <;>
            simp only [Option.isSome_some, hopened, hnamed, hread, hcategory]

/-- Only mappings are read as nodes. -/
theorem ofDocument_eq_ok_iff {entry : Value} {n : Node} :
    ofDocument entry = .ok n ↔ ∃ fields id, entry.opened = .map fields ∧
      Value.field? fields "node_id" = some id ∧ convert fields id = .ok n := by
  constructor
  · intro h
    cases hopened : entry.opened with
    | map fields =>
        rw [ofDocument_of_map hopened] at h
        split at h
        · cases h
        · rename_i id hid
          split at h
          · rename_i read hread
            obtain rfl := Except.ok.inj h
            exact ⟨fields, id, rfl, hid, hread⟩
          · split at h <;> cases h
    | _ =>
        rw [ofDocument] at h
        simp only [hopened] at h
        split at h
        · cases h
        · cases h
        · split at h
          · rename_i heq _
            cases heq
          · cases h
          · cases h
  · rintro ⟨fields, id, hopened, hid, hread⟩
    simp only [ofDocument_of_map hopened, hid, hread]

/-- The id of a node is the text of what stands there, and the path is kept as it is. -/
theorem id_and_filePath_of_convert {fields : List (Value × Value)} {id : Value} {n : Node}
    (h : convert fields id = .ok n) :
    id.display = .ok n.id ∧
      n.filePath = .ofValue ((Value.field? fields "file_path").getD .null) := by
  simp only [convert, bind_eq_ok_iff] at h
  obtain ⟨shownId, hid, parts, -, sources, -, sinks, -, sanitizers, -, line, -, hnode⟩ := h
  obtain rfl := Except.ok.inj hnode
  exact ⟨hid, rfl⟩

/-- The path of a node that was read comes from the field of that name. -/
theorem filePath_of_ofDocument {entry : Value} {n : Node} (h : ofDocument entry = .ok n) :
    ∃ fields, entry.opened = .map fields ∧
      n.filePath = .ofValue ((Value.field? fields "file_path").getD .null) := by
  obtain ⟨fields, id, hopened, -, hread⟩ := ofDocument_eq_ok_iff.mp h
  exact ⟨fields, hopened, (id_and_filePath_of_convert hread).2⟩

end NodeRecord

namespace Snapshot

theorem ofNodes_eq_ok_iff {nodes : List Node} {steps : StepTable} {g : Snapshot} :
    ofNodes nodes steps = .ok g ↔ g.nodes = nodes ∧ g.steps = steps := by
  rw [ofNodes]
  split
  · rename_i id hrepeat
    constructor
    · intro h
      exact nomatch h
    · rintro ⟨rfl, -⟩
      have hnone := firstRepeat?_eq_none.mpr ⟨g.distinct, fun x _ => List.not_mem_nil⟩
      exact nomatch hrepeat.symm.trans hnone
  · constructor
    · intro h
      obtain rfl := Except.ok.inj h
      exact ⟨rfl, rfl⟩
    · rintro ⟨rfl, rfl⟩
      rfl

theorem itemsOf_eq_ok_iff {fields : List (Value × Value)} {name : String} {items : List Value} :
    itemsOf fields name = .ok items ↔
      ((Value.field? fields name).getD (.list [])).items = .ok items :=
  mapError_eq_ok_iff

/-- The ends and the tags that one entry of the list of steps gives. -/
def stepOf (entry : Value) : Except SnapshotFault ((String × String) × NameSet) := do
  let source ← stepEnd entry "from"
  let target ← stepEnd entry "to"
  let tags ← stepTagsOf entry
  return ((source, target), tags)

theorem readStep_eq (table : StepTable) (entry : Value) :
    readStep table entry = (stepOf entry).map fun step => table.add step.1 step.2 := by
  rw [readStep, stepOf]
  cases stepEnd entry "from" with
  | error fault => rfl
  | ok source =>
      cases stepEnd entry "to" with
      | error fault => rfl
      | ok target => cases stepTagsOf entry <;> rfl

def addSteps (table : StepTable) (steps : List ((String × String) × NameSet)) : StepTable :=
  steps.foldl (fun table step => table.add step.1 step.2) table

/-- Whether an entry is read does not depend on the steps before it. -/
theorem foldlM_readStep (table : StepTable) (entries : List Value) :
    entries.foldlM readStep table = (entries.mapM stepOf).map (addSteps table) := by
  induction entries generalizing table with
  | nil => rfl
  | cons entry rest ih =>
      rw [List.foldlM_cons, List.mapM_cons, readStep_eq]
      cases stepOf entry with
      | error fault => rfl
      | ok step =>
          rw [map_ok, ok_bind, ok_bind, ih]
          cases rest.mapM stepOf <;> rfl

theorem ofDocument_of_map {document : Value} {fields : List (Value × Value)}
    (hopened : document.opened = .map fields) :
    ofDocument document = (do
      let entries ← itemsOf fields "nodes"
      let nodes ← entries.mapM NodeRecord.ofDocument
      let entries ← itemsOf fields "steps"
      let steps ← entries.mapM stepOf
      ofNodes nodes (addSteps .empty steps)) := by
  rw [ofDocument, hopened]
  simp only [foldlM_readStep]
  refine bind_congr fun entries => bind_congr fun nodes => bind_congr fun entries => ?_
  cases entries.mapM stepOf <;> rfl

/-- A document is read exactly if it is a mapping whose nodes are all read, whose steps are all
read, and whose nodes have distinct ids. -/
theorem ofDocument_eq_ok_iff {document : Value} {g : Snapshot} :
    ofDocument document = .ok g ↔ ∃ fields entries stepEntries steps,
      document.opened = .map fields ∧
      itemsOf fields "nodes" = .ok entries ∧ entries.mapM NodeRecord.ofDocument = .ok g.nodes ∧
      itemsOf fields "steps" = .ok stepEntries ∧ stepEntries.mapM stepOf = .ok steps ∧
      addSteps .empty steps = g.steps := by
  cases hopened : document.opened with
  | map fields =>
      rw [ofDocument_of_map hopened]
      simp only [bind_eq_ok_iff, ofNodes_eq_ok_iff]
      constructor
      · rintro ⟨entries, hentries, nodes, hnodes, stepEntries, hsteps, steps, hread, rfl, heq⟩
        exact ⟨fields, entries, stepEntries, steps, rfl, hentries, hnodes, hsteps, hread, heq.symm⟩
      · rintro ⟨_, entries, stepEntries, steps, hfields, hentries, hnodes, hsteps, hread, heq⟩
        obtain rfl := Value.map.inj hfields
        exact ⟨entries, hentries, g.nodes, hnodes, stepEntries, hsteps, steps, hread, rfl, heq.symm⟩
  | _ =>
      rw [ofDocument, hopened]
      simp

end Snapshot

end TaintTriage
