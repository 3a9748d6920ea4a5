import TaintTriage.Proofs.FaultReport
import TaintTriage.Proofs.MergeLayers
import TaintTriage.Proofs.Reload

/-!
The grammar of graph documents.  A JSON value describes a graph if it is an object whose lists of
nodes and of steps hold objects with the right fields, and whose nodes have distinct ids; and a
snapshot is read from exactly these values.  Ids and names are taken as texts, which integers that
are too long do not have.  What makes it so is which JSON values have items: texts
have their characters and objects their keys, but none of these can be an entry, so that only lists
and what is empty can stand for a list of entries.
-/

namespace TaintTriage

namespace Value

/-- Values that are read from JSON texts. -/
inductive IsJson : Value → Prop where
  | null : IsJson .null
  | bool (b : Bool) : IsJson (.bool b)
  | int (n : Int) : IsJson (.int n)
  | float (x : Float) : IsJson (.float x)
  | str (s : String) : IsJson (.str s)
  | list {items : List Value} (items_json : ∀ item ∈ items, IsJson item) : IsJson (.list items)
  | object {fields : List (String × Value)} (distinct : (fields.map (·.1)).Nodup)
      (fields_json : ∀ field ∈ fields, IsJson field.2) : IsJson (.object fields)

attribute [simp] IsJson.null IsJson.bool IsJson.int IsJson.float IsJson.str IsJson.object

@[simp] theorem isJson_list_iff {items : List Value} :
    IsJson (.list items) ↔ ∀ item ∈ items, item.IsJson := by
  constructor
  · intro h
    cases h with
    | list hitems => exact hitems
  · exact .list

/-- Values that are gone through for texts: a text by its characters and a mapping by its keys. -/
inductive IsCollection : Value → Prop where
  | str (s : String) : IsCollection (.str s)
  | list {items : List Value} (short : ∀ item ∈ items, item.isShort = true) :
      IsCollection (.list items)
  | map (entries : List (Value × Value)) : IsCollection (.map entries)

variable {v : Value}

theorem IsJson.opened (h : v.IsJson) : v.opened = v := by
  cases h <;> rfl

theorem IsJson.hasShortItems_iff (h : v.IsJson) : v.HasShortItems ↔ v.IsCollection := by
  constructor
  · intro hitems
    obtain ⟨items, hitems, hshort⟩ := hitems
    cases h with
    | str s => exact .str s
    | list =>
        obtain rfl := Except.ok.inj hitems
        exact .list hshort
    | object => exact .map _
    | _ => exact nomatch hitems
  · intro hcollection
    cases hcollection with
    | str s => exact hasShortItems_str s
    | list hshort => exact ⟨_, rfl, hshort⟩
    | map entries =>
        refine ⟨_, rfl, fun key hkey => ?_⟩
        cases h with
        | object =>
            rw [List.map_map] at hkey
            obtain ⟨field, -, rfl⟩ := List.mem_map.mp hkey
            rfl

theorem IsJson.givesNames_iff (h : v.IsJson) :
    v.GivesNames ↔ v.isTruthy = false ∨ v.IsCollection := by
  rw [GivesNames, h.hasShortItems_iff]
  cases v.isTruthy <;> simp

theorem IsJson.givesParts_iff (h : v.IsJson) : v.GivesParts ↔ v = .null ∨ v.IsCollection := by
  rw [GivesParts, h.hasShortItems_iff, Classical.or_iff_not_imp_left]

/-- What is gone through in a JSON value is JSON again. -/
theorem IsJson.items (h : v.IsJson) {items : List Value} (hitems : v.items = .ok items) :
    ∀ item ∈ items, item.IsJson := by
  intro item hitem
  cases h with
  | str s =>
      obtain rfl := Except.ok.inj hitems
      obtain ⟨c, -, rfl⟩ := List.mem_map.mp hitem
      exact .str _
  | list hjson =>
      obtain rfl := Except.ok.inj hitems
      exact hjson item hitem
  | object =>
      obtain rfl := Except.ok.inj hitems
      rw [List.map_map] at hitem
      obtain ⟨field, -, rfl⟩ := List.mem_map.mp hitem
      exact .str _
  | _ => exact nomatch hitems

theorem IsJson.field {fields : List (Value × Value)} {name : String} (h : (map fields).IsJson)
    (hfield : field? fields name = some v) : v.IsJson := by
  have hmem := mem_of_field? hfield
  cases h with
  | object hdistinct hjson =>
      obtain ⟨⟨other, w⟩, hin, heq⟩ := List.mem_map.mp hmem
      obtain ⟨-, rfl⟩ := Prod.mk.inj heq
      exact hjson _ hin

/-- A list of entries: mappings with fields of some kind.  An empty text and an empty mapping are
gone through as an empty list is. -/
inductive IsListing (isEntry : List (Value × Value) → Prop) : Value → Prop where
  | list {entries : List Value}
      (entries_fit : ∀ entry ∈ entries, ∃ fields, entry = .map fields ∧ isEntry fields) :
      IsListing isEntry (.list entries)
  | emptyText : IsListing isEntry (.str "")
  | emptyMap : IsListing isEntry (.map [])

def entriesUnder (fields : List (Value × Value)) (name : String) : List Value :=
  match field? fields name with
  | some (.list entries) => entries
  | _ => []

variable {isEntry : List (Value × Value) → Prop} {fields : List (Value × Value)} {name : String}

/-- Characters and keys are no entries. -/
theorem IsJson.isListing (h : v.IsJson) {items : List Value} (hitems : v.items = .ok items)
    (hentries : ∀ item ∈ items, ∃ fields, item = .map fields ∧ isEntry fields) :
    v.IsListing isEntry := by
  cases h with
  | list =>
      obtain rfl := Except.ok.inj hitems
      exact .list hentries
  | str s =>
      obtain rfl := Except.ok.inj hitems
      cases hchars : s.toList with
      | nil =>
          obtain rfl : s = "" := String.toList_eq_nil_iff.mp hchars
          exact .emptyText
      | cons c rest =>
          rw [hchars] at hentries
          obtain ⟨fields, hfields, -⟩ := hentries _ List.mem_cons_self
          exact nomatch hfields
  | @object fields =>
      obtain rfl := Except.ok.inj hitems
      cases fields with
      | nil => exact .emptyMap
      | cons field rest =>
          obtain ⟨fields, hfields, -⟩ := hentries _ List.mem_cons_self
          exact nomatch hfields
  | _ => exact nomatch hitems

/-- The entries of a listing are gone through, and those under an absent name are none. -/
theorem items_eq_entriesUnder
    (h : ∀ v, field? fields name = some v → v.IsListing isEntry) :
    ((field? fields name).getD (.list [])).items = .ok (entriesUnder fields name) ∧
      ∀ entry ∈ entriesUnder fields name, ∃ fields, entry = .map fields ∧ isEntry fields := by
  rw [entriesUnder]
  cases hfield : field? fields name with
  | none => exact ⟨rfl, fun entry hentry => absurd hentry List.not_mem_nil⟩
  | some v =>
      cases h v hfield with
      | list hentries => exact ⟨rfl, hentries⟩
      | emptyText => exact ⟨rfl, fun entry hentry => absurd hentry List.not_mem_nil⟩
      | emptyMap => exact ⟨rfl, fun entry hentry => absurd hentry List.not_mem_nil⟩

/-- In a JSON object, what is gone through under a name is a listing exactly if all of it are
entries. -/
theorem IsJson.isListing_field_iff (h : (map fields).IsJson) :
    (∀ v, field? fields name = some v → v.IsListing isEntry) ↔
      ∃ items, ((field? fields name).getD (.list [])).items = .ok items ∧
        ∀ item ∈ items, ∃ fields, item = .map fields ∧ isEntry fields := by
  constructor
  · intro hlisting
    exact ⟨_, items_eq_entriesUnder hlisting⟩
  · intro hitems v hv
    obtain ⟨items, hitems, hentries⟩ := hitems
    rw [hv] at hitems
    exact (h.field hv).isListing hitems hentries

end Value

namespace NodeRecord

def nameFields : List String := ["known_sources", "known_sinks", "sanitizes"]

/-- The fields of an entry for a node: an id with a text, a line that can be converted if there is
one, names and parts that can be gone through for texts if there are any. -/
structure IsEntry (fields : List (Value × Value)) : Prop where
  id : ∃ v, Value.field? fields "node_id" = some v ∧ v.isShort = true
  line : ∀ v, Value.field? fields "line" = some v → ∃ n, v.toInt = .ok n
  names : ∀ name ∈ nameFields, ∀ v, Value.field? fields name = some v →
    v.isTruthy = false ∨ v.IsCollection
  parts : ∀ v, Value.field? fields "concatenation_parts" = some v → v = .null ∨ v.IsCollection

/-- An entry is converted if its id has a text, all collections can be gone through and the line is
a number. -/
theorem exists_convert_iff {fields : List (Value × Value)} {id : Value} :
    (∃ n, convert fields id = .ok n) ↔ id.isShort = true ∧ CollectionsGiven fields ∧
      ∃ line, ((Value.field? fields "line").getD (.int 0)).toInt = .ok line := by
  simp only [convert, bind_eq_ok_iff]
  constructor
  · intro h
    obtain ⟨n, shownId, hid, parts, hparts, sources, hsources, sinks, hsinks, sanitizers,
      hsanitizers, line, hline, -⟩ := h
    exact ⟨Value.exists_display_iff.mp ⟨shownId, hid⟩,
      ⟨exists_partsOf_iff.mp ⟨parts, hparts⟩, exists_namesOf_iff.mp ⟨sources, hsources⟩,
        exists_namesOf_iff.mp ⟨sinks, hsinks⟩,
        exists_namesOf_iff.mp ⟨sanitizers, hsanitizers⟩⟩,
      line, hline⟩
  · intro h
    obtain ⟨hid, hgiven, line, hline⟩ := h
    obtain ⟨shownId, hid⟩ := Value.exists_display_iff.mpr hid
    obtain ⟨parts, hparts⟩ := exists_partsOf_iff.mpr hgiven.parts
    obtain ⟨sources, hsources⟩ := exists_namesOf_iff.mpr hgiven.sources
    obtain ⟨sinks, hsinks⟩ := exists_namesOf_iff.mpr hgiven.sinks
    obtain ⟨sanitizers, hsanitizers⟩ := exists_namesOf_iff.mpr hgiven.sanitizers
    exact ⟨_, shownId, hid, parts, hparts, sources, hsources, sinks, hsinks, sanitizers,
      hsanitizers, line, hline, rfl⟩

/-- In a JSON object, collections are given as the grammar has them. -/
theorem collectionsGiven_iff {fields : List (Value × Value)} (h : (Value.map fields).IsJson) :
    CollectionsGiven fields ↔
      (∀ name ∈ nameFields, ∀ v, Value.field? fields name = some v →
        v.isTruthy = false ∨ v.IsCollection) ∧
      ∀ v, Value.field? fields "concatenation_parts" = some v → v = .null ∨ v.IsCollection := by
  have hnames (name : String) : ((Value.field? fields name).getD .null).GivesNames ↔
      ∀ v, Value.field? fields name = some v → v.isTruthy = false ∨ v.IsCollection := by
    cases hfield : Value.field? fields name with
    | none => simp [Value.GivesNames, Value.isTruthy]
    | some v => simp [(h.field hfield).givesNames_iff]
  have hparts : ((Value.field? fields "concatenation_parts").getD .null).GivesParts ↔
      ∀ v, Value.field? fields "concatenation_parts" = some v → v = .null ∨ v.IsCollection := by
    cases hfield : Value.field? fields "concatenation_parts" with
    | none => simp [Value.GivesParts]
    | some v => simp [(h.field hfield).givesParts_iff]
  simp only [nameFields, List.forall_mem_cons, ← hnames, ← hparts]
  constructor
  · intro hgiven
    exact ⟨⟨hgiven.sources, hgiven.sinks, hgiven.sanitizers, fun _ h => absurd h List.not_mem_nil⟩,
      hgiven.parts⟩
  · intro hgiven
    exact ⟨hgiven.2, hgiven.1.1, hgiven.1.2.1, hgiven.1.2.2.1⟩

/-- A node is read from a JSON value exactly if it is an object with the fields of an entry. -/
theorem exists_ofDocument_iff {entry : Value} (h : entry.IsJson) :
    (∃ n, ofDocument entry = .ok n) ↔ ∃ fields, entry = .map fields ∧ IsEntry fields := by
  have hline (fields : List (Value × Value)) :
      (∃ line, ((Value.field? fields "line").getD (.int 0)).toInt = .ok line) ↔
        ∀ v, Value.field? fields "line" = some v → ∃ line, v.toInt = .ok line := by
    cases Value.field? fields "line" <;> simp [Value.toInt]
  constructor
  · intro hread
    obtain ⟨n, hread⟩ := hread
    obtain ⟨fields, id, hopened, hid, hconvert⟩ := ofDocument_eq_ok_iff.mp hread
    obtain rfl : entry = .map fields := h.opened.symm.trans hopened
    obtain ⟨hshort, hgiven, line⟩ := exists_convert_iff.mp ⟨n, hconvert⟩
    obtain ⟨hnames, hparts⟩ := (collectionsGiven_iff h).mp hgiven
    exact ⟨fields, rfl, ⟨id, hid, hshort⟩, (hline fields).mp line, hnames, hparts⟩
  · intro hentry
    obtain ⟨fields, rfl, hfields⟩ := hentry
    obtain ⟨id, hid, hshort⟩ := hfields.id
    have hgiven := (collectionsGiven_iff h).mpr ⟨hfields.names, hfields.parts⟩
    obtain ⟨n, hconvert⟩ :=
      exists_convert_iff.mpr ⟨hshort, hgiven, (hline fields).mpr hfields.line⟩
    exact ⟨n, ofDocument_eq_ok_iff.mpr ⟨fields, id, rfl, hid, hconvert⟩⟩

/-- The text of the id that an entry gives, if it gives any. -/
def idOf? (entry : Value) : Option String :=
  (entry.named "node_id").toOption.bind (·.display.toOption)

theorem idOf?_of_ofDocument {entry : Value} {n : Node} (h : ofDocument entry = .ok n) :
    idOf? entry = some n.id := by
  obtain ⟨fields, id, hopened, hid, hread⟩ := ofDocument_eq_ok_iff.mp h
  have hnamed := Value.named_eq_ok_iff.mpr ⟨fields, hopened, hid⟩
  change (entry.named "node_id").toOption.bind _ = _
  rw [hnamed]
  exact congrArg Except.toOption (id_and_filePath_of_convert hread).1

/-- Nodes that were read have the ids that their entries give. -/
theorem map_id_of_mapM {entries : List Value} {nodes : List Node}
    (h : entries.mapM ofDocument = .ok nodes) : nodes.map (·.id) = entries.filterMap idOf? := by
  have hids : nodes.map (fun n => some n.id) = entries.map idOf? :=
    map_eq_map_of_mapM h fun entry n hread => (idOf?_of_ofDocument hread).symm
  calc nodes.map (·.id)
      = (nodes.map fun n => some n.id).filterMap fun given => given := by
        rw [List.filterMap_map]
        exact (congrFun List.filterMap_eq_map nodes).symm
    _ = (entries.map idOf?).filterMap fun given => given := by rw [hids]
    _ = entries.filterMap idOf? := List.filterMap_map

end NodeRecord

namespace Snapshot

/-- The fields of an entry for a step: both ends with a text, and tags that can be gone through for
texts if there are any. -/
structure IsStepEntry (fields : List (Value × Value)) : Prop where
  source : ∃ v, Value.field? fields "from" = some v ∧ v.isShort = true
  target : ∃ v, Value.field? fields "to" = some v ∧ v.isShort = true
  tags : ∀ v, Value.field? fields "tags" = some v → v.isTruthy = false ∨ v.IsCollection

/-- An entry gives a step if it has both ends and its tags can be gone through. -/
theorem exists_stepOf_of_map_iff {entry : Value} {fields : List (Value × Value)}
    (hopened : entry.opened = .map fields) :
    (∃ step, stepOf entry = .ok step) ↔
      EndGiven fields "from" ∧ EndGiven fields "to" ∧
        ((Value.field? fields "tags").getD (.list [.str anyClass])).GivesNames := by
  rw [← exists_stepEnd_iff hopened, ← exists_stepEnd_iff hopened, ← exists_namesOf_iff]
  simp only [stepOf, stepTagsOf, hopened, bind_eq_ok_iff, mapError_eq_ok_iff]
  constructor
  · intro h
    obtain ⟨step, source, hsource, target, htarget, tags, htags, -⟩ := h
    exact ⟨⟨source, hsource⟩, ⟨target, htarget⟩, tags, htags⟩
  · intro h
    obtain ⟨⟨source, hsource⟩, ⟨target, htarget⟩, tags, htags⟩ := h
    exact ⟨_, source, hsource, target, htarget, tags, htags, rfl⟩

/-- Both ends of a step are asked for in a mapping. -/
theorem exists_map_of_stepOf {entry : Value} {step : (String × String) × NameSet}
    (h : stepOf entry = .ok step) : ∃ fields, entry.opened = .map fields := by
  apply Classical.byContradiction
  intro hother
  obtain ⟨source, hsource, -⟩ := bind_eq_ok_iff.mp h
  have hbreaks : BreaksOff (stepEnd entry "from") :=
    breaksOff_stepEnd_of_other fun fields hfields => hother ⟨fields, hfields⟩
  rw [hsource] at hbreaks
  exact failsWith_ok hbreaks

/-- A step is read from a JSON value exactly if it is an object with the fields of an entry. -/
theorem exists_stepOf_iff {entry : Value} (h : entry.IsJson) :
    (∃ step, stepOf entry = .ok step) ↔ ∃ fields, entry = .map fields ∧ IsStepEntry fields := by
  have htags {fields : List (Value × Value)} (hjson : (Value.map fields).IsJson) :
      ((Value.field? fields "tags").getD (.list [.str anyClass])).GivesNames ↔
        ∀ v, Value.field? fields "tags" = some v → v.isTruthy = false ∨ v.IsCollection := by
    cases hfield : Value.field? fields "tags" with
    | none => simp [Value.GivesNames, Value.HasShortItems, Value.items, Value.opened]
    | some v => simp [(hjson.field hfield).givesNames_iff]
  constructor
  · intro hread
    obtain ⟨step, hstep⟩ := hread
    obtain ⟨fields, hopened⟩ := exists_map_of_stepOf hstep
    obtain rfl : entry = .map fields := h.opened.symm.trans hopened
    obtain ⟨hsource, htarget, hgiven⟩ := (exists_stepOf_of_map_iff rfl).mp ⟨step, hstep⟩
    exact ⟨fields, rfl, hsource, htarget, (htags h).mp hgiven⟩
  · intro hentry
    obtain ⟨fields, rfl, hfields⟩ := hentry
    exact (exists_stepOf_of_map_iff rfl).mpr
      ⟨hfields.source, hfields.target, (htags h).mpr hfields.tags⟩

/-- The fields of a document that describes a graph: lists of entries for nodes and for steps, and
ids of the nodes that are distinct as texts. -/
structure IsGraph (fields : List (Value × Value)) : Prop where
  nodes : ∀ v, Value.field? fields "nodes" = some v → v.IsListing NodeRecord.IsEntry
  steps : ∀ v, Value.field? fields "steps" = some v → v.IsListing IsStepEntry
  distinct : ((Value.entriesUnder fields "nodes").filterMap NodeRecord.idOf?).Nodup

/-- In a JSON object, a list is read exactly if it is a listing of entries that are read. -/
theorem exists_mapM_iff_isListing {α : Type} {read : Value → Except SnapshotFault α}
    {isEntry : List (Value × Value) → Prop} {fields : List (Value × Value)} {name : String}
    (hread : ∀ entry : Value, entry.IsJson →
      ((∃ a, read entry = .ok a) ↔ ∃ fields, entry = .map fields ∧ isEntry fields))
    (h : (Value.map fields).IsJson) :
    (∃ entries results, itemsOf fields name = .ok entries ∧ entries.mapM read = .ok results) ↔
      ∀ v, Value.field? fields name = some v → v.IsListing isEntry := by
  have hjson {items : List Value}
      (hitems : ((Value.field? fields name).getD (.list [])).items = .ok items) :
      ∀ item ∈ items, item.IsJson := by
    cases hfield : Value.field? fields name with
    | none =>
        rw [hfield] at hitems
        obtain rfl := Except.ok.inj hitems
        exact fun item hitem => absurd hitem List.not_mem_nil
    | some v =>
        rw [hfield] at hitems
        exact (h.field hfield).items hitems
  rw [h.isListing_field_iff]
  constructor
  · intro hresults
    obtain ⟨entries, results, hentries, hresults⟩ := hresults
    have hitems := itemsOf_eq_ok_iff.mp hentries
    refine ⟨entries, hitems, fun entry hentry => ?_⟩
    exact (hread entry (hjson hitems entry hentry)).mp
      (exists_mapM_eq_ok_iff.mp ⟨results, hresults⟩ entry hentry)
  · intro hlisted
    obtain ⟨entries, hitems, hentries⟩ := hlisted
    obtain ⟨results, hresults⟩ := exists_mapM_eq_ok_iff.mpr fun entry hentry =>
      (hread entry (hjson hitems entry hentry)).mpr (hentries entry hentry)
    exact ⟨entries, results, itemsOf_eq_ok_iff.mpr hitems, hresults⟩

/-- The entries that are gone through are those that are listed. -/
theorem eq_entriesUnder {isEntry : List (Value × Value) → Prop} {fields : List (Value × Value)}
    {name : String} {entries : List Value} (hentries : itemsOf fields name = .ok entries)
    (h : ∀ v, Value.field? fields name = some v → v.IsListing isEntry) :
    entries = Value.entriesUnder fields name :=
  Except.ok.inj ((itemsOf_eq_ok_iff.mp hentries).symm.trans (Value.items_eq_entriesUnder h).1)

/-- What a document gives that was read: one node for each entry, in order. -/
theorem nodes_of_ofDocument {fields : List (Value × Value)} {g : Snapshot}
    (h : (Value.map fields).IsJson) (hg : ofDocument (.map fields) = .ok g) :
    IsGraph fields ∧
      (Value.entriesUnder fields "nodes").map NodeRecord.ofDocument = g.nodes.map .ok := by
  obtain ⟨fields', entries, stepEntries, steps, hopened, hentries, hnodes, hstepEntries, hsteps,
    -⟩ := ofDocument_eq_ok_iff.mp hg
  obtain rfl : fields = fields' := Value.map.inj hopened
  have hlisting := (exists_mapM_iff_isListing (fun _ => NodeRecord.exists_ofDocument_iff) h).mp
    ⟨entries, g.nodes, hentries, hnodes⟩
  have hstepListing := (exists_mapM_iff_isListing (fun _ => exists_stepOf_iff) h).mp
    ⟨stepEntries, steps, hstepEntries, hsteps⟩
  obtain rfl := eq_entriesUnder hentries hlisting
  refine ⟨⟨hlisting, hstepListing, ?_⟩, mapM_eq_ok_iff.mp hnodes⟩
  rw [← NodeRecord.map_id_of_mapM hnodes]
  exact g.distinct

/-- A document with the fields of a graph is read. -/
theorem IsGraph.exists_ofDocument {fields : List (Value × Value)} (hgraph : IsGraph fields)
    (h : (Value.map fields).IsJson) : ∃ g, ofDocument (.map fields) = .ok g := by
  obtain ⟨entries, nodes, hentries, hnodes⟩ :=
    (exists_mapM_iff_isListing (fun _ => NodeRecord.exists_ofDocument_iff) h).mpr hgraph.nodes
  obtain ⟨stepEntries, steps, hstepEntries, hsteps⟩ :=
    (exists_mapM_iff_isListing (fun _ => exists_stepOf_iff) h).mpr hgraph.steps
  have hdistinct : (nodes.map (·.id)).Nodup := by
    rw [NodeRecord.map_id_of_mapM hnodes, eq_entriesUnder hentries hgraph.nodes]
    exact hgraph.distinct
  exact ⟨⟨nodes, addSteps .empty steps, hdistinct⟩, ofDocument_eq_ok_iff.mpr
    ⟨fields, entries, stepEntries, steps, rfl, hentries, hnodes, hstepEntries, hsteps, rfl⟩⟩

/-- A snapshot is read from a JSON value exactly if it is an object with the fields of a graph.  It
then has one node for each entry, in order and with the id that the entry gives, and each node is
found by its id. -/
theorem exists_ofDocument_iff_isGraph (v : Value) (h : v.IsJson) :
    ((∃ g, ofDocument v = .ok g) ↔ ∃ fields, v = .map fields ∧ IsGraph fields) ∧
    ∀ fields g, v = .map fields → ofDocument v = .ok g →
      (Value.entriesUnder fields "nodes").map NodeRecord.ofDocument = g.nodes.map .ok ∧
      (Value.entriesUnder fields "nodes").filterMap NodeRecord.idOf? = g.nodes.map (·.id) ∧
      g.size = (Value.entriesUnder fields "nodes").length ∧
      ∀ id n, g.get? id = some n ↔ n ∈ g.nodes ∧ n.id = id := by
  refine ⟨⟨?_, ?_⟩, ?_⟩
  · intro haccepted
    obtain ⟨g, hg⟩ := haccepted
    obtain ⟨fields, -, -, -, hopened, -⟩ := ofDocument_eq_ok_iff.mp hg
    obtain rfl : v = .map fields := h.opened.symm.trans hopened
    exact ⟨fields, rfl, (nodes_of_ofDocument h hg).1⟩
  · intro hgraph
    obtain ⟨fields, rfl, hgraph⟩ := hgraph
    exact hgraph.exists_ofDocument h
  · intro fields g hfields hg
    obtain rfl := hfields
    have hnodes := (nodes_of_ofDocument h hg).2
    have hlength := congrArg List.length hnodes
    rw [List.length_map, List.length_map] at hlength
    exact ⟨hnodes, (NodeRecord.map_id_of_mapM (mapM_eq_ok_iff.mpr hnodes)).symm, hlength.symm,
      fun id n => get?_eq_some_iff⟩

/-- A node whose id is an integer that is too long to be shown. -/
def longId : Value :=
  .object [("nodes", .list [.object [("node_id", .int Value.firstLong)]])]

/-- It has an id, but no snapshot is read. -/
theorem not_ofDocument_longId :
    longId.IsJson ∧ (∃ id, longId = .object [("nodes", .list [.object [("node_id", id)]])]) ∧
      ¬ ∃ g, ofDocument longId = .ok g := by
  refine ⟨by simp [longId], ⟨_, rfl⟩, ?_⟩
  rintro ⟨g, hg⟩
  obtain ⟨fields, entries, stepEntries, steps, hopened, hentries, hnodes, -⟩ :=
    ofDocument_eq_ok_iff.mp hg
  obtain rfl := Value.map.inj hopened
  obtain rfl := Except.ok.inj hentries
  obtain ⟨n, -, hn⟩ := exists_mem_of_mapM hnodes List.mem_cons_self
  obtain ⟨fields, hfields, hentry⟩ :=
    (NodeRecord.exists_ofDocument_iff (by simp)).mp ⟨n, hn⟩
  obtain rfl := Value.map.inj hfields
  obtain ⟨id, hid, hshort⟩ := hentry.id
  obtain rfl := Option.some.inj hid
  exact Bool.noConfusion (hshort.symm.trans Value.isShortInteger_firstLong)

/-- Two nodes whose ids are the same text. -/
def repeatedId : Value :=
  .object [("nodes", .list [.object [("node_id", .int 7)], .object [("node_id", .str "7")]])]

/-- A JSON document that is read, with a number and a text for ids, and one that is not: its ids
are apart as values, but not as texts. -/
theorem exists_ofDocument_iff_isGraph_spelledPaths :
    (spelledPaths.IsJson ∧ (∃ fields, spelledPaths = .map fields ∧ IsGraph fields) ∧
      ∃ g, ofDocument spelledPaths = .ok g ∧ g.size = 2 ∧ ∃ n, g.get? "7" = some n) ∧
    repeatedId.IsJson ∧ ¬ ∃ fields, repeatedId = .map fields ∧ IsGraph fields := by
  have hspelled : spelledPaths.IsJson := by simp [spelledPaths, Value.texts]
  have hrepeated : repeatedId.IsJson := by simp [repeatedId]
  obtain ⟨g, hg⟩ : ∃ g, ofDocument spelledPaths = .ok g :=
    isOk_eq_true_iff.mp (by decide +kernel)
  obtain ⟨haccepted, hread⟩ := exists_ofDocument_iff_isGraph spelledPaths hspelled
  obtain ⟨-, hids, hsize, hget⟩ := hread _ g rfl hg
  have hseven : "7" ∈ g.nodes.map (·.id) := by
    rw [← hids]
    decide +kernel
  obtain ⟨n, hn, hid⟩ := List.mem_map.mp hseven
  refine ⟨⟨hspelled, haccepted.mp ⟨g, hg⟩, g, hg, hsize, n, (hget "7" n).mpr ⟨hn, hid⟩⟩, hrepeated,
    ?_⟩
  rw [← (exists_ofDocument_iff_isGraph repeatedId hrepeated).1, ← isOk_eq_true_iff]
  decide +kernel

end Snapshot

end TaintTriage
