import TaintTriage.Proofs.DocumentFields
import TaintTriage.Proofs.PathText
import TaintTriage.Proofs.ShownValue

/-!
Snapshots that are written as documents and read again.  Everything comes back as it was, but for
paths that were no texts: what was found in their place comes back as its text, or as nothing.  What
has no text cannot be written, and the snapshot with it.
-/

namespace TaintTriage

namespace FileRef

/-- What stands for a reference in a document; nothing for one that has no text. -/
def written (r : FileRef) : Value :=
  match r.text? with
  | .ok (some text) => .str text
  | _ => .null

/-- A reference as it comes back from a document. -/
def reloaded (r : FileRef) : FileRef := .ofValue r.written

theorem reloaded_ofValue {v : Value} (h : v.IsOptionalText) :
    (ofValue v).reloaded = ofValue v := by
  obtain rfl | ⟨s, rfl⟩ := h
  · rfl
  · change FileRef.path (.ofText (SourcePath.ofText s).toText) = .path (.ofText s)
    rw [SourcePath.ofText_toText (SourcePath.isNormal_ofText s)]

/-- What is no text does not come back. -/
theorem reloaded_ofValue_ne {v : Value} (h : ¬ v.IsOptionalText) :
    (ofValue v).reloaded ≠ ofValue v ∧ (ofValue v).reloaded.equals (ofValue v) = false := by
  have hnull : v ≠ .null := fun heq => h (Or.inl heq)
  have hother : ofValue v = .other v := by
    cases v with
    | str s => exact absurd (Or.inr ⟨s, rfl⟩) h
    | _ => rfl
  have hwritten : (FileRef.other v).written = .null ∨
      ∃ text, (FileRef.other v).written = .str text := by
    rw [written]
    split
    · exact Or.inr ⟨_, rfl⟩
    · exact Or.inl rfl
  rw [hother, reloaded]
  obtain hwritten | ⟨text, hwritten⟩ := hwritten
  · rw [hwritten]
    constructor
    · intro heq
      exact hnull (FileRef.other.inj heq).symm
    · cases v with
      | null => exact absurd rfl hnull
      | _ => rfl
  · rw [hwritten]
    constructor
    · intro heq
      exact nomatch heq
    · rfl

theorem reloaded_ofValue_iff {v : Value} :
    (ofValue v).reloaded = ofValue v ↔ v.IsOptionalText := by
  constructor
  · intro heq
    apply Classical.byContradiction
    intro h
    exact (reloaded_ofValue_ne h).1 heq
  · exact reloaded_ofValue

end FileRef

namespace NodeRecord

/-- A node as it comes back from a document. -/
def reloaded (n : Node) : Node :=
  { n with filePath := n.filePath.reloaded }

theorem mapM_display_str (texts : List String) :
    (texts.map Value.str).mapM Value.display = .ok texts := by
  rw [mapM_eq_ok_iff, List.map_map]
  rfl

theorem partsOf_texts (texts : List String) : partsOf (.texts texts) = .ok texts :=
  mapM_display_str texts

theorem namesOf_texts (s : NameSet) : namesOf (.texts s.names) = .ok s := by
  have hset : NameSet.ofList s.names = s := NameSet.ofList_names s
  change (if !(!(s.names.map Value.str).isEmpty) then Except.ok NameSet.empty
    else (do return NameSet.ofList (← (s.names.map Value.str).mapM Value.display))) = _
  rw [mapM_display_str, ok_bind, hset]
  cases hnames : s.names with
  | nil =>
      rw [hnames] at hset
      exact congrArg Except.ok hset
  | cons name rest => rfl

theorem convert_fieldsWith (n : Node) :
    convert ((n.unchecked.fieldsWith n.filePath.written).map fun (name, v) => (.str name, v))
      (.str n.id) = .ok n.reloaded := by
  simp only [convert, Value.field?_object]
  simp [fieldsWith, unchecked, List.lookup_cons, partsOf_texts, namesOf_texts]
  rfl

/-- A node is written as an entry exactly if there is a text for its path, where one is needed. -/
theorem toDocument_eq (n : Node) :
    n.unchecked.toDocument =
      if n.filePath.isShort then .ok (.object (n.unchecked.fieldsWith n.filePath.written))
      else .error .unwrittenInteger := by
  have hpath : n.unchecked.filePath = n.filePath := rfl
  cases hshort : n.filePath.isShort with
  | true =>
      obtain ⟨text, htext⟩ := n.filePath.text?_shownIf.exists_iff.mpr hshort
      rw [toDocument, fields, hpath, htext, FileRef.written, htext]
      cases text <;> rfl
  | false =>
      rw [toDocument, fields, hpath, n.filePath.text?_shownIf.eq_error_iff.mpr hshort]
      rfl

theorem toDocument_shownIf (n : Node) :
    Value.ShownIf n.filePath.isShort n.unchecked.toDocument := by
  rw [toDocument_eq]
  cases n.filePath.isShort with
  | true => exact Value.shownIf_ok _
  | false => rfl

/-- The entry that a node is written as is read as the node, but for its path. -/
theorem ofDocument_toDocument {n : Node} {entry : Value} (h : n.unchecked.toDocument = .ok entry) :
    ofDocument entry = .ok n.reloaded := by
  rw [toDocument_eq] at h
  split at h
  · obtain rfl := Except.ok.inj h
    refine ofDocument_eq_ok_iff.mpr ⟨_, .str n.id, rfl, ?_, convert_fieldsWith n⟩
    rw [Value.field?_object]
    rfl
  · exact nomatch h

theorem reloaded_eq_iff {n : Node} : n.reloaded = n ↔ n.filePath.reloaded = n.filePath := by
  cases n
  simp [reloaded]

end NodeRecord

namespace StepTable

theorem updateEntries_of_not_mem {ends : String × String} {change : NameSet → NameSet}
    {entries : List ((String × String) × NameSet)} (h : ends ∉ entries.map (·.1)) :
    updateEntries ends change entries = entries ++ [(ends, change .empty)] := by
  induction entries with
  | nil => rfl
  | cons entry rest ih =>
      obtain ⟨head, tags⟩ := entry
      rw [List.map_cons, List.mem_cons, not_or] at h
      rw [updateEntries, if_neg (Ne.symm h.1), ih h.2, List.cons_append]

def entryDocument (entry : (String × String) × NameSet) : Value :=
  .map [(.str "from", .str entry.1.1), (.str "to", .str entry.1.2),
    (.str "tags", .texts entry.2.names)]

theorem stepOf_entryDocument (entry : (String × String) × NameSet) :
    Snapshot.stepOf (entryDocument entry) = .ok entry := by
  obtain ⟨⟨source, target⟩, tags⟩ := entry
  have htags : Snapshot.stepTagsOf (entryDocument ((source, target), tags)) = .ok tags := by
    change (namesOf (.texts tags.names)).mapError SnapshotFault.unusable = _
    rw [NodeRecord.namesOf_texts]
    rfl
  have hsource : Snapshot.stepEnd (entryDocument ((source, target), tags)) "from" =
      .ok source := rfl
  have htarget : Snapshot.stepEnd (entryDocument ((source, target), tags)) "to" =
      .ok target := rfl
  rw [Snapshot.stepOf, hsource, htarget, htags]
  rfl

/-- Steps between new pairs are put behind the old ones, as they are. -/
theorem entries_addSteps {table : StepTable} {entries : List ((String × String) × NameSet)}
    (h : ((table.entries ++ entries).map (·.1)).Nodup) :
    (Snapshot.addSteps table entries).entries = table.entries ++ entries := by
  induction entries generalizing table with
  | nil => exact (List.append_nil _).symm
  | cons entry rest ih =>
      have hnew : entry.1 ∉ table.entries.map (·.1) := by
        intro hmem
        rw [List.map_append, List.map_cons] at h
        exact (List.nodup_append.mp h).2.2 _ hmem _ List.mem_cons_self rfl
      have hadd : (table.add entry.1 entry.2).entries = table.entries ++ [entry] :=
        updateEntries_of_not_mem hnew
      have happend : (table.add entry.1 entry.2).entries ++ rest =
          table.entries ++ entry :: rest := by
        rw [hadd, List.append_assoc]
        rfl
      exact (ih (happend ▸ h)).trans happend

/-- A table is made again of its own entries. -/
theorem addSteps_entries (table : StepTable) :
    Snapshot.addSteps .empty table.entries = table := by
  have hentries : (Snapshot.addSteps .empty table.entries).entries =
      StepTable.empty.entries ++ table.entries := entries_addSteps table.distinct
  cases hsteps : Snapshot.addSteps .empty table.entries with
  | mk entries distinct =>
      rw [hsteps] at hentries
      cases table
      obtain rfl := hentries
      rfl

end StepTable

namespace Value

def EveryPath (p : Value → Prop) (document : Value) : Prop :=
  ∀ nodes entries, document.named "nodes" = .ok nodes → nodes.items = .ok entries →
    ∀ entry ∈ entries, ∀ path, entry.named "file_path" = .ok path → p path

/-- Every path that a document gives for a node is a text or absent. -/
def PathsAreTexts : Value → Prop :=
  EveryPath IsOptionalText

/-- Every path that a document gives for a node can be written. -/
def PathsAreShort : Value → Prop :=
  EveryPath (·.isShort = true)

/-- What an entry gives as a path has a property that null has exactly if it has it when given. -/
theorem path_iff {p : Value → Prop} (hnull : p .null) {entry : Value}
    {fields : List (Value × Value)} (hopened : entry.opened = .map fields) :
    p ((field? fields "file_path").getD .null) ↔
      ∀ path, entry.named "file_path" = .ok path → p path := by
  simp only [named_eq_ok_iff, hopened, map.injEq, exists_eq_left']
  cases field? fields "file_path" with
  | none => simp [hnull]
  | some path => simp

end Value

namespace NodeRecord

variable {entry : Value} {n : Node}

theorem reloaded_equals_of_ofDocument (h : ofDocument entry = .ok n) (hne : n.reloaded ≠ n) :
    n.reloaded.equals n = false := by
  obtain ⟨fields, -, hpath⟩ := filePath_of_ofDocument h
  rw [ne_eq, reloaded_eq_iff, hpath, FileRef.reloaded_ofValue_iff] at hne
  have hfile : n.reloaded.filePath.equals n.filePath = false := by
    rw [reloaded, hpath]
    exact (FileRef.reloaded_ofValue_ne hne).2
  rw [equals, hfile]
  simp only [Bool.and_false, Bool.false_and]

end NodeRecord

namespace Snapshot

/-- A snapshot can be written exactly if the paths of its nodes can. -/
theorem toDocument_shownIf (g : Snapshot) :
    Value.ShownIf (g.nodes.all (·.filePath.isShort)) g.toDocument :=
  (Value.ShownIf.mapM NodeRecord.toDocument_shownIf g.nodes).map _

/-- A snapshot that is written is read again, with the same steps and with each node as it comes
back. -/
theorem exists_ofDocument_toDocument {g : Snapshot} {written : Value}
    (h : g.toDocument = .ok written) :
    ∃ again, ofDocument written = .ok again ∧
      again.nodes = g.nodes.map NodeRecord.reloaded ∧ again.steps = g.steps := by
  obtain ⟨entries, hentries, hwritten⟩ := bind_eq_ok_iff.mp h
  obtain rfl := Except.ok.inj hwritten
  have hids : (g.nodes.map NodeRecord.reloaded).map (·.id) = g.nodes.map (·.id) := by
    rw [List.map_map]
    rfl
  refine ⟨⟨g.nodes.map NodeRecord.reloaded, g.steps, hids ▸ g.distinct⟩, ?_, rfl, rfl⟩
  refine ofDocument_eq_ok_iff.mpr ⟨_, entries, g.steps.entries.map StepTable.entryDocument,
    g.steps.entries, rfl, rfl, ?_, rfl, ?_, g.steps.addSteps_entries⟩
  · refine mapM_eq_ok_iff.mpr ?_
    rw [List.map_map]
    exact map_eq_map_of_mapM hentries fun n entry hentry => NodeRecord.ofDocument_toDocument hentry
  · refine mapM_eq_ok_iff.mpr ?_
    rw [List.map_map]
    exact List.map_congr_left fun entry _ => StepTable.stepOf_entryDocument entry

theorem nodesEqual_reloaded {g again : Snapshot}
    (hnodes : again.nodes = g.nodes.map NodeRecord.reloaded) {n : Node} (hn : n ∈ g.nodes)
    (hne : n.reloaded.equals n = false) : again.nodesEqual g = false := by
  have hzip : again.nodes.zip g.nodes = g.nodes.map fun n => (n.reloaded, n) := by
    rw [hnodes, List.map_prod_right_eq_zip]
  rw [nodesEqual, hzip, Bool.and_eq_false_iff]
  right
  rw [List.all_eq_false]
  exact ⟨(n.reloaded, n), List.mem_map_of_mem hn, by simp [hne]⟩

variable {document : Value} {g : Snapshot}

theorem everyPath_iff {p : Value → Prop} {fields : List (Value × Value)} {entries : List Value}
    (hopened : document.opened = .map fields) (hentries : itemsOf fields "nodes" = .ok entries) :
    document.EveryPath p ↔
      ∀ entry ∈ entries, ∀ path, entry.named "file_path" = .ok path → p path := by
  rw [itemsOf_eq_ok_iff] at hentries
  constructor
  · intro hpaths entry hentry
    cases hfield : Value.field? fields "nodes" with
    | none =>
        rw [hfield] at hentries
        obtain rfl := Except.ok.inj hentries
        exact nomatch hentry
    | some nodes =>
        rw [hfield] at hentries
        have hnamed := Value.named_eq_ok_iff.mpr ⟨fields, hopened, hfield⟩
        exact hpaths nodes entries hnamed hentries entry hentry
  · intro hpaths nodes others hnamed hothers
    obtain ⟨fields', hopened', hfield⟩ := Value.named_eq_ok_iff.mp hnamed
    obtain rfl := Value.map.inj (hopened.symm.trans hopened')
    rw [hfield] at hentries
    obtain rfl := Except.ok.inj (hentries.symm.trans hothers)
    exact hpaths

/-- What is asked of the paths of a document shows in the nodes that are read. -/
theorem forall_filePath_iff {p : Value → Prop} {q : FileRef → Prop} (hnull : p .null)
    (hq : ∀ v, q (.ofValue v) ↔ p v) (h : ofDocument document = .ok g) :
    (∀ n ∈ g.nodes, q n.filePath) ↔ document.EveryPath p := by
  obtain ⟨fields, entries, stepEntries, steps, hopened, hentries, hnodes, -⟩ :=
    ofDocument_eq_ok_iff.mp h
  have hentry {entry : Value} {n : Node} (hread : NodeRecord.ofDocument entry = .ok n) :
      q n.filePath ↔ ∀ path, entry.named "file_path" = .ok path → p path := by
    obtain ⟨fields, hopened, hpath⟩ := NodeRecord.filePath_of_ofDocument hread
    rw [hpath, hq]
    exact Value.path_iff hnull hopened
  rw [everyPath_iff hopened hentries]
  constructor
  · intro hall entry hmem
    obtain ⟨n, hn, hread⟩ := exists_mem_of_mapM hnodes hmem
    exact (hentry hread).mp (hall n hn)
  · intro hall n hn
    obtain ⟨entry, hmem, hread⟩ := exists_of_mem_mapM hnodes hn
    exact (hentry hread).mpr (hall entry hmem)

/-- All nodes come back as they were exactly if the document gave texts for their paths. -/
theorem map_reloaded_eq_iff (h : ofDocument document = .ok g) :
    g.nodes.map NodeRecord.reloaded = g.nodes ↔ document.PathsAreTexts := by
  have hself : g.nodes.map NodeRecord.reloaded = g.nodes ↔ ∀ n ∈ g.nodes, n.reloaded = n := by
    have hinj := @List.map_inj_left _ _ g.nodes NodeRecord.reloaded id
    rwa [List.map_id] at hinj
  rw [hself, Value.PathsAreTexts, ← forall_filePath_iff (q := fun r => r.reloaded = r) (Or.inl rfl)
    (fun v => FileRef.reloaded_ofValue_iff) h]
  simp only [NodeRecord.reloaded_eq_iff]

/-- A snapshot that was read can be written exactly if the paths that the document gave can. -/
theorem exists_toDocument_iff (h : ofDocument document = .ok g) :
    (∃ written, g.toDocument = .ok written) ↔ document.PathsAreShort := by
  rw [g.toDocument_shownIf.exists_iff, List.all_eq_true, Value.PathsAreShort]
  exact forall_filePath_iff (q := fun r => r.isShort = true) rfl (fun v => by cases v <;> rfl) h

/-- A node that compares as equal to what comes back of it has come back as it was. -/
theorem map_reloaded_of_nodesEqual (h : ofDocument document = .ok g) {again : Snapshot}
    (hnodes : again.nodes = g.nodes.map NodeRecord.reloaded)
    (hequal : again.nodesEqual g = true) : again.nodes = g.nodes := by
  obtain ⟨fields, entries, stepEntries, steps, -, -, hread, -⟩ := ofDocument_eq_ok_iff.mp h
  have hsame : ∀ n ∈ g.nodes, n.reloaded = n := by
    intro n hn
    apply Classical.byContradiction
    intro hne
    obtain ⟨entry, -, hentry⟩ := exists_of_mem_mapM hread hn
    have hdiffers := NodeRecord.reloaded_equals_of_ofDocument hentry hne
    rw [nodesEqual_reloaded hnodes hn hdiffers] at hequal
    cases hequal
  rw [hnodes, List.map_congr_left hsame]
  exact List.map_id g.nodes

/-- A snapshot that was read from a document can be written and read again, if the paths of its
nodes can be written; otherwise that is reported.  Nodes and steps are then the same, in the same
order, exactly if the document gave texts for the paths of its nodes, or none; otherwise the nodes
do not even compare as equal. -/
theorem reload_eq_iff_pathsAreTexts (document : Value) (g : Snapshot)
    (h : ofDocument document = .ok g) :
    (document.PathsAreShort → ∃ written again, g.toDocument = .ok written ∧
      ofDocument written = .ok again ∧
      (again.nodes = g.nodes ∧ again.steps = g.steps ↔ document.PathsAreTexts) ∧
      (document.PathsAreTexts → again.toDocument = .ok written) ∧
      (again.nodesEqual g = true → document.PathsAreTexts)) ∧
    (¬ document.PathsAreShort → g.toDocument = .error .unwrittenInteger) ∧
    (document.PathsAreTexts → document.PathsAreShort) := by
  refine ⟨?_, ?_, ?_⟩
  · intro hshort
    obtain ⟨written, hwritten⟩ := (exists_toDocument_iff h).mpr hshort
    obtain ⟨again, hagain, hnodes, hsteps⟩ := exists_ofDocument_toDocument hwritten
    have hsame : again.nodes = g.nodes ↔ document.PathsAreTexts := by
      rw [hnodes]
      exact map_reloaded_eq_iff h
    refine ⟨written, again, hwritten, hagain, ?_, ?_, ?_⟩
    · rw [← hsame]
      exact and_iff_left hsteps
    · intro htexts
      rw [← hwritten, toDocument, toDocument, hsame.mpr htexts, hsteps]
    · intro hequal
      exact hsame.mp (map_reloaded_of_nodesEqual h hnodes hequal)
  · intro hlong
    rw [g.toDocument_shownIf.eq_error_iff, ← Bool.not_eq_true, ← g.toDocument_shownIf.exists_iff]
    exact fun hwritten => hlong ((exists_toDocument_iff h).mp hwritten)
  · intro htexts nodes entries hnodes hentries entry hentry path hpath
    obtain rfl | ⟨s, rfl⟩ := htexts nodes entries hnodes hentries entry hentry path hpath
    · rfl
    · rfl

/-- A node with an integer for its path that is too long to be written. -/
def longPath : Value :=
  .object [("nodes", .list [.object [("node_id", .str "a"), ("file_path", .int Value.firstLong)]])]

/-- It is read, but what was read cannot be written. -/
theorem not_reload_longPath :
    ∃ g, ofDocument longPath = .ok g ∧ ¬ ∃ written, g.toDocument = .ok written := by
  obtain ⟨g, hg⟩ : ∃ g, ofDocument longPath = .ok g :=
    isOk_eq_true_iff.mp (by decide +kernel)
  refine ⟨g, hg, fun hwritten => ?_⟩
  have hpaths := (everyPath_iff rfl rfl).mp ((exists_toDocument_iff hg).mp hwritten)
  have hshort := hpaths _ List.mem_cons_self (.int Value.firstLong) rfl
  exact Bool.noConfusion (hshort.symm.trans Value.isShortInteger_firstLong)

/-- Two nodes whose paths have other spellings, and steps between them in several entries. -/
def spelledPaths : Value :=
  .object
    [("nodes", .list
      [.object [("node_id", .int 7), ("file_path", .str "./src//app.js"), ("line", .str " 12 "),
        ("known_sinks", .str "xss"), ("sanitizes", .texts ["b", "a", "b"]),
        ("concatenation_parts", .str "<b>"), ("callee_name", .list [.null])],
       .object [("node_id", .str "w"), ("file_path", .str ""), ("known_sources", .bool false)]]),
     ("steps", .list
      [.object [("from", .str "7"), ("to", .str "w")],
       .object [("from", .str "w"), ("to", .int 7), ("tags", .null)],
       .object [("from", .int 7), ("to", .str "w"), ("tags", .str "dom")]])]

def numberedPath : Value :=
  .object [("nodes", .list [.object [("node_id", .str "a"), ("file_path", .int 5)]])]

theorem reload_eq_iff_pathsAreTexts_spelledPaths :
    (∃ g written again, ofDocument spelledPaths = .ok g ∧ g.toDocument = .ok written ∧
      ofDocument written = .ok again ∧ spelledPaths.PathsAreTexts ∧ again.nodes = g.nodes ∧
      again.steps = g.steps ∧ again.toDocument = .ok written) ∧
    ∃ g written again, ofDocument numberedPath = .ok g ∧ g.toDocument = .ok written ∧
      ofDocument written = .ok again ∧ ¬ numberedPath.PathsAreTexts ∧
      again.nodesEqual g = false := by
  constructor
  · obtain ⟨g, hg⟩ : ∃ g, ofDocument spelledPaths = .ok g :=
      isOk_eq_true_iff.mp (by decide +kernel)
    have htexts : spelledPaths.PathsAreTexts := by
      refine (everyPath_iff rfl rfl).mpr ?_
      intro entry hentry path hpath
      rcases List.mem_cons.mp hentry with rfl | hentry
      · exact Or.inr ⟨_, (Except.ok.inj hpath).symm⟩
      · obtain rfl := List.mem_singleton.mp hentry
        exact Or.inr ⟨_, (Except.ok.inj hpath).symm⟩
    obtain ⟨hwritten, -, hshort⟩ := reload_eq_iff_pathsAreTexts spelledPaths g hg
    obtain ⟨written, again, hwritten, hagain, hsame, hdocument, -⟩ := hwritten (hshort htexts)
    exact ⟨g, written, again, hg, hwritten, hagain, htexts, (hsame.mpr htexts).1,
      (hsame.mpr htexts).2, hdocument htexts⟩
  · obtain ⟨g, hg⟩ : ∃ g, ofDocument numberedPath = .ok g :=
      isOk_eq_true_iff.mp (by decide +kernel)
    have hshort : numberedPath.PathsAreShort := by
      refine (everyPath_iff rfl rfl).mpr ?_
      intro entry hentry path hpath
      obtain rfl := List.mem_singleton.mp hentry
      obtain rfl := Except.ok.inj hpath
      decide +kernel
    have hnumber : ¬ numberedPath.PathsAreTexts := by
      intro htexts
      have hpath := (everyPath_iff rfl rfl).mp htexts _ List.mem_cons_self (.int 5) rfl
      obtain hnull | ⟨s, hs⟩ := hpath
      · exact nomatch hnull
      · exact nomatch hs
    obtain ⟨hwritten, -⟩ := reload_eq_iff_pathsAreTexts numberedPath g hg
    obtain ⟨written, again, hwritten, hagain, -, -, hequal⟩ := hwritten hshort
    exact ⟨g, written, again, hg, hwritten, hagain, hnumber,
      Bool.eq_false_iff.mpr fun h => hnumber (hequal h)⟩

end Snapshot

end TaintTriage
