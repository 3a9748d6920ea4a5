import TaintTriage.Proofs.MergeLayers
import TaintTriage.Settings.Environment
import TaintTriage.Settings.Section

/-!
Each setting by itself.  Settings are read section by section and field by field, so that what a
setting becomes depends on its own value only: it is what the value alone would be read as, with all
other settings left out.
-/

namespace TaintTriage

def Settings.setting? (s : Settings) (sectionName name : String) : Option Setting :=
  (s.sections.lookup sectionName).bind (·.lookup name)

namespace Settings

open Value

section Reading

variable {α β : Type}

theorem Reading.both_eq_ok_iff {a : Reading α} {b : Reading β} {x : α} {y : β} :
    Reading.both a b = .ok (x, y) ↔ a = .ok x ∧ b = .ok y := by
  cases a <;> cases b <;> simp [Reading.both]

/-- The fields of a section with one value, if there is one. -/
def only (name : String) : Option Value → List (Value × Value)
  | none => []
  | some v => [(.str name, v)]

def alone (sectionName name : String) : Option Value → List (Value × Value)
  | none => []
  | some v => [(.str sectionName, .map [(.str name, v)])]

variable {entries : List (Value × Value)} {name other : String} {usual : α}
variable {read : Value → Reading α}

theorem field?_only_self (v : Option Value) : field? (only name v) name = v := by
  cases v with
  | none => rfl
  | some v => exact field?_cons_self

theorem field?_only_of_ne (h : name ≠ other) (v : Option Value) :
    field? (only name v) other = none := by
  cases v with
  | none => rfl
  | some v =>
      rw [only, field?_cons_of_ne]
      · rfl
      · exact fun heq => h (Value.str.inj heq)

/-- A reader that wants no mapping does not tell mappings apart. -/
def IsFlatReader (read : Value → Reading α) : Prop :=
  ∀ v, read v.flat = read v

theorem readField_only_self (hread : IsFlatReader read) {a : α}
    (h : readField entries name usual read = .ok a) :
    readField (only name ((field? entries name).map flat)) name usual read = .ok a := by
  rw [← h, readField, readField, field?_only_self]
  cases field? entries name with
  | none => rfl
  | some v => exact congrArg (Reading.under (.name name)) (hread v)

theorem readField_only_of_ne (h : name ≠ other) (v : Option Value) :
    readField (only name v) other usual read = .ok usual := by
  rw [readField, field?_only_of_ne h]

end Reading

theorem isFlatReader_readInteger : IsFlatReader readInteger := by
  intro v
  cases v <;> rfl

theorem isFlatReader_readFlag : IsFlatReader readFlag := by
  intro v
  cases v <;> rfl

theorem isFlatReader_readPath : IsFlatReader readPath := by
  intro v
  cases v <;> rfl

theorem isFlatReader_readLevel : IsFlatReader readLevel := by
  intro v
  cases v <;> rfl

theorem isFlatReader_readPositive : IsFlatReader readPositive := by
  intro v
  cases v <;> rfl

theorem isFlatReader_readWorkers : IsFlatReader readWorkers := by
  intro v
  cases v <;> rfl

theorem isFlatReader_readQueries :
    IsFlatReader fun v => readTextList v >>= fun spellings => readQueries spellings := by
  intro v
  cases v <;> rfl

section Queries

variable {spelling : String} {spellings : List String} {kind : QueryKind}

def readQuery (spelling : String) : Reading QueryKind :=
  match QueryKind.ofSpelling? spelling with
  | none => .fail (.refused (unknownQuery (QueryKind.normalize spelling)))
  | some kind => .ok kind

theorem readQueries_eq_mapM : readQueries spellings = spellings.mapM readQuery := by
  induction spellings with
  | nil => rfl
  | cons spelling rest ih =>
      rw [readQueries, ih, List.mapM_cons, readQuery]
      cases QueryKind.ofSpelling? spelling with
      | none => rfl
      | some kind => rfl

theorem readQuery_eq_ok_iff :
    readQuery spelling = .ok kind ↔ QueryKind.ofSpelling? spelling = some kind := by
  rw [readQuery]
  cases QueryKind.ofSpelling? spelling with
  | none => simp [Reading.fail]
  | some found => simp

end Queries

/-- Where a section was read, each of its settings is read in the same way from its own value. -/
def ReadsSingly {α : Type} (read : List (Value × Value) → Reading α)
    (fieldsOf : α → List (String × Setting)) (names : List String) : Prop :=
  ∀ entries a, read entries = .ok a → ∀ name ∈ names, ∃ b,
    read (only name ((field? entries name).map flat)) = .ok b ∧
      (fieldsOf a).lookup name = (fieldsOf b).lookup name

theorem readScoring_eq_ok_iff {entries : List (Value × Value)} {a : ScoringSettings} :
    readScoring entries = .ok a ↔
      readField entries "batch_size" ⟨32, by decide⟩ readPositive =
          .ok ⟨a.batchSize, a.batchSize_pos⟩ ∧
        readField entries "max_concurrency" ⟨4, by decide⟩ readPositive =
          .ok ⟨a.maxConcurrency, a.maxConcurrency_pos⟩ := by
  constructor
  · intro h
    obtain ⟨⟨size, concurrency⟩, hboth, rfl⟩ := map_eq_ok_iff.mp h
    exact Reading.both_eq_ok_iff.mp hboth
  · intro h
    exact map_eq_ok_iff.mpr ⟨_, Reading.both_eq_ok_iff.mpr h, rfl⟩

theorem readClassification_eq_ok_iff {entries : List (Value × Value)}
    {a : ClassificationSettings} :
    readClassification entries = .ok a ↔
      readField entries "queries" QueryKind.all
          (fun v => readTextList v >>= fun spellings => readQueries spellings) = .ok a.queries ∧
        (∃ workers, readField entries "max_workers" none readWorkers = .ok workers ∧
          workers.map (·.1) = a.maxWorkers) ∧
        readField entries "include_labels" true readFlag = .ok a.includeLabels := by
  constructor
  · intro h
    obtain ⟨⟨queries, workers, labels⟩, hboth, rfl⟩ := map_eq_ok_iff.mp h
    obtain ⟨hqueries, hboth⟩ := Reading.both_eq_ok_iff.mp hboth
    obtain ⟨hworkers, hlabels⟩ := Reading.both_eq_ok_iff.mp hboth
    exact ⟨hqueries, ⟨workers, hworkers, rfl⟩, hlabels⟩
  · rintro ⟨hqueries, ⟨workers, hworkers, hsame⟩, hlabels⟩
    cases a
    obtain rfl := hsame
    exact map_eq_ok_iff.mpr ⟨_, Reading.both_eq_ok_iff.mpr
      ⟨hqueries, Reading.both_eq_ok_iff.mpr ⟨hworkers, hlabels⟩⟩, rfl⟩

theorem readLogging_eq_ok_iff {entries : List (Value × Value)} {a : LoggingSettings} :
    readLogging entries = .ok a ↔
      readField entries "level" .info readLevel = .ok a.level ∧
        readField entries "file" none readPath = .ok a.file ∧
        readField entries "json_format" false readFlag = .ok a.jsonFormat ∧
        readField entries "max_file_size_mb" 10 readInteger = .ok a.maxFileSizeMb ∧
        readField entries "backup_count" 5 readInteger = .ok a.backupCount := by
  simp only [← Reading.both_eq_ok_iff]
  constructor
  · intro h
    obtain ⟨values, hvalues, rfl⟩ := map_eq_ok_iff.mp h
    exact hvalues
  · intro h
    exact map_eq_ok_iff.mpr ⟨_, h, rfl⟩

theorem readsSingly_scoring :
    ReadsSingly readScoring ScoringSettings.fields ["batch_size", "max_concurrency"] := by
  intro entries a h name hname
  obtain ⟨hsize, hconcurrency⟩ := readScoring_eq_ok_iff.mp h
  simp only [List.mem_cons, List.not_mem_nil, or_false] at hname
  rcases hname with rfl | rfl
  · exact ⟨⟨a.batchSize, 4, a.batchSize_pos, by decide⟩, readScoring_eq_ok_iff.mpr
      ⟨readField_only_self isFlatReader_readPositive hsize,
        readField_only_of_ne (by decide) _⟩, rfl⟩
  · exact ⟨⟨32, a.maxConcurrency, by decide, a.maxConcurrency_pos⟩, readScoring_eq_ok_iff.mpr
      ⟨readField_only_of_ne (by decide) _,
        readField_only_self isFlatReader_readPositive hconcurrency⟩, rfl⟩

theorem readsSingly_classification :
    ReadsSingly readClassification ClassificationSettings.fields
      ["queries", "max_workers", "include_labels"] := by
  intro entries a h name hname
  obtain ⟨hqueries, ⟨workers, hworkers, hsame⟩, hlabels⟩ := readClassification_eq_ok_iff.mp h
  simp only [List.mem_cons, List.not_mem_nil, or_false] at hname
  rcases hname with rfl | rfl | rfl
  · exact ⟨{ queries := a.queries }, readClassification_eq_ok_iff.mpr
      ⟨readField_only_self isFlatReader_readQueries hqueries,
        ⟨none, readField_only_of_ne (by decide) _, rfl⟩, readField_only_of_ne (by decide) _⟩, rfl⟩
  · exact ⟨{ maxWorkers := a.maxWorkers, workers_pos := a.workers_pos },
      readClassification_eq_ok_iff.mpr ⟨readField_only_of_ne (by decide) _,
        ⟨workers, readField_only_self isFlatReader_readWorkers hworkers, hsame⟩,
        readField_only_of_ne (by decide) _⟩, rfl⟩
  · exact ⟨{ includeLabels := a.includeLabels }, readClassification_eq_ok_iff.mpr
      ⟨readField_only_of_ne (by decide) _, ⟨none, readField_only_of_ne (by decide) _, rfl⟩,
        readField_only_self isFlatReader_readFlag hlabels⟩, rfl⟩

theorem readsSingly_logging :
    ReadsSingly readLogging LoggingSettings.fields
      ["level", "file", "json_format", "max_file_size_mb", "backup_count"] := by
  intro entries a h name hname
  obtain ⟨hlevel, hfile, hjson, hsize, hcount⟩ := readLogging_eq_ok_iff.mp h
  simp only [List.mem_cons, List.not_mem_nil, or_false] at hname
  rcases hname with rfl | rfl | rfl | rfl | rfl
  · refine ⟨{ level := a.level }, readLogging_eq_ok_iff.mpr ?_, rfl⟩
    exact ⟨readField_only_self isFlatReader_readLevel hlevel, readField_only_of_ne (by decide) _,
      readField_only_of_ne (by decide) _, readField_only_of_ne (by decide) _,
      readField_only_of_ne (by decide) _⟩
  · refine ⟨{ file := a.file }, readLogging_eq_ok_iff.mpr ?_, rfl⟩
    exact ⟨readField_only_of_ne (by decide) _, readField_only_self isFlatReader_readPath hfile,
      readField_only_of_ne (by decide) _, readField_only_of_ne (by decide) _,
      readField_only_of_ne (by decide) _⟩
  · refine ⟨{ jsonFormat := a.jsonFormat }, readLogging_eq_ok_iff.mpr ?_, rfl⟩
    exact ⟨readField_only_of_ne (by decide) _, readField_only_of_ne (by decide) _,
      readField_only_self isFlatReader_readFlag hjson, readField_only_of_ne (by decide) _,
      readField_only_of_ne (by decide) _⟩
  · refine ⟨{ maxFileSizeMb := a.maxFileSizeMb }, readLogging_eq_ok_iff.mpr ?_, rfl⟩
    exact ⟨readField_only_of_ne (by decide) _, readField_only_of_ne (by decide) _,
      readField_only_of_ne (by decide) _, readField_only_self isFlatReader_readInteger hsize,
      readField_only_of_ne (by decide) _⟩
  · refine ⟨{ backupCount := a.backupCount }, readLogging_eq_ok_iff.mpr ?_, rfl⟩
    exact ⟨readField_only_of_ne (by decide) _, readField_only_of_ne (by decide) _,
      readField_only_of_ne (by decide) _, readField_only_of_ne (by decide) _,
      readField_only_self isFlatReader_readInteger hcount⟩

section Section

variable {α : Type} {entries : List (Value × Value)} {sectionName name kind : String} {usual : α}
variable {read : List (Value × Value) → Reading α} {fieldsOf : α → List (String × Setting)}
variable {names : List String}

/-- A section that was read has its usual value, or is read from a mapping. -/
theorem readSection_eq_ok_iff {a : α} :
    readSection entries sectionName kind usual read = .ok a ↔
      field? entries sectionName = none ∧ usual = a ∨
        ∃ v fields, field? entries sectionName = some v ∧ v.opened = .map fields ∧
          read fields = .ok a := by
  rw [readSection, readField]
  cases field? entries sectionName with
  | none => simp
  | some v =>
      simp only [Reading.under, mapError_eq_ok_iff, reduceCtorEq, false_and, false_or,
        Option.some.injEq]
      cases hopened : v.opened with
      | map fields => simp [hopened]
      | _ => simp [Reading.fail, hopened]

theorem field?_alone_self (v : Option Value) :
    field? (alone sectionName name v) sectionName =
      v.map fun v => .map (only name (some v)) := by
  cases v with
  | none => rfl
  | some v => exact field?_cons_self

theorem field?_alone_of_ne {other : String} (h : sectionName ≠ other) (v : Option Value) :
    field? (alone sectionName name v) other = none := by
  cases v with
  | none => rfl
  | some v =>
      rw [alone, field?_cons_of_ne]
      · rfl
      · exact fun heq => h (Value.str.inj heq)

/-- The settings of a section that was read are each read in the same way from its own value. -/
theorem exists_readSection_alone (hreads : ReadsSingly read fieldsOf names)
    (husual : read [] = .ok usual) (hname : name ∈ names) {a : α}
    (h : readSection entries sectionName kind usual read = .ok a) :
    ∃ b, readSection (alone sectionName name (leafAt? entries sectionName name)) sectionName kind
        usual read = .ok b ∧ (fieldsOf a).lookup name = (fieldsOf b).lookup name := by
  rcases readSection_eq_ok_iff.mp h with ⟨hnone, rfl⟩ | ⟨v, fields, hfield, hopened, hread⟩
  · have hleaf : leafAt? entries sectionName name = none := by
      rw [leafAt?, fieldAt?_of_none hnone]
      rfl
    rw [hleaf]
    exact ⟨usual, readSection_eq_ok_iff.mpr (Or.inl ⟨rfl, rfl⟩), rfl⟩
  · obtain ⟨b, hb, hlookup⟩ := hreads fields a hread name hname
    have hleaf : leafAt? entries sectionName name = (field? fields name).map flat := by
      rw [leafAt?, fieldAt?, hfield, Option.map_some, hopened]
    rw [hleaf]
    cases hvalue : field? fields name with
    | none =>
        rw [hvalue] at hb
        obtain rfl := Except.ok.inj (husual.symm.trans hb)
        exact ⟨usual, readSection_eq_ok_iff.mpr (Or.inl ⟨rfl, rfl⟩), hlookup⟩
    | some w =>
        rw [hvalue] at hb
        have hsection : field? (alone sectionName name (some w.flat)) sectionName =
            some (.map (only name (some w.flat))) := field?_alone_self (some w.flat)
        exact ⟨b, readSection_eq_ok_iff.mpr (Or.inr ⟨_, _, hsection, rfl, hb⟩), hlookup⟩

theorem readSection_alone_of_ne {other : String} (h : sectionName ≠ other) (v : Option Value) :
    readSection (alone sectionName name v) other kind usual read = .ok usual :=
  readSection_eq_ok_iff.mpr (Or.inl ⟨field?_alone_of_ne h v, rfl⟩)

end Section

theorem readClassification_nil : readClassification [] = .ok {} := rfl

theorem ofEntries_eq_ok_iff {entries : List (Value × Value)} {s : Settings} :
    ofEntries entries = .ok s ↔
      readSection entries "classification" classificationKind {} readClassification =
          .ok s.classification ∧
        readSection entries "scoring" scoringKind {} readScoring = .ok s.scoring ∧
        readSection entries "logging" loggingKind {} readLogging = .ok s.logging := by
  simp only [← Reading.both_eq_ok_iff]
  constructor
  · intro h
    obtain ⟨sections, hsections, rfl⟩ := map_eq_ok_iff.mp h
    exact hsections
  · intro h
    exact map_eq_ok_iff.mpr ⟨_, h, rfl⟩

/-- Where settings were read, each of them is read in the same way from its own value alone. -/
theorem exists_ofEntries_alone {entries : List (Value × Value)} {s : Settings}
    (h : ofEntries entries = .ok s) :
    ∀ entry ∈ fieldNames, ∀ name ∈ entry.2, ∃ one,
      ofEntries (alone entry.1 name (leafAt? entries entry.1 name)) = .ok one ∧
        s.setting? entry.1 name = one.setting? entry.1 name := by
  obtain ⟨hclassification, hscoring, hlogging⟩ := ofEntries_eq_ok_iff.mp h
  intro entry hentry name hname
  simp only [fieldNames, List.mem_cons, List.not_mem_nil, or_false] at hentry
  rcases hentry with rfl | rfl | rfl
  · obtain ⟨b, hb, hlookup⟩ := exists_readSection_alone readsSingly_classification
      readClassification_nil hname hclassification
    refine ⟨{ classification := b }, ofEntries_eq_ok_iff.mpr ⟨hb, ?_, ?_⟩, hlookup⟩
    · exact readSection_alone_of_ne (by decide) _
    · exact readSection_alone_of_ne (by decide) _
  · obtain ⟨b, hb, hlookup⟩ := exists_readSection_alone readsSingly_scoring rfl hname hscoring
    refine ⟨{ scoring := b }, ofEntries_eq_ok_iff.mpr ⟨?_, hb, ?_⟩, hlookup⟩
    · exact readSection_alone_of_ne (by decide) _
    · exact readSection_alone_of_ne (by decide) _
  · obtain ⟨b, hb, hlookup⟩ := exists_readSection_alone readsSingly_logging rfl hname hlogging
    refine ⟨{ logging := b }, ofEntries_eq_ok_iff.mpr ⟨?_, ?_, hb⟩, hlookup⟩
    · exact readSection_alone_of_ne (by decide) _
    · exact readSection_alone_of_ne (by decide) _

/-- No setting is a mapping, so that mappings are not told apart. -/
theorem ofEntries_alone_flat :
    ∀ entry ∈ fieldNames, ∀ name ∈ entry.2, ∀ v : Option Value,
      ofEntries (alone entry.1 name (v.map flat)) = ofEntries (alone entry.1 name v) := by
  intro entry hentry name hname v
  cases v with
  | none => rfl
  | some v =>
      cases v with
      | map fields =>
          simp only [fieldNames, List.mem_cons, List.not_mem_nil, or_false] at hentry
          rcases hentry with rfl | rfl | rfl <;>
            simp only [List.mem_cons, List.not_mem_nil, or_false] at hname
          · rcases hname with rfl | rfl | rfl <;> rfl
          · rcases hname with rfl | rfl <;> rfl
          · rcases hname with rfl | rfl | rfl | rfl | rfl <;> rfl
      | _ => rfl

end Settings

end TaintTriage
