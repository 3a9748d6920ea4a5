import TaintTriage.Proofs.PathText
import TaintTriage.Proofs.QuietEnvironment
import TaintTriage.Proofs.SettingsPriority
import TaintTriage.Proofs.ShownValue
import TaintTriage.Proofs.ValueEquality
import TaintTriage.Settings.Text

/-!
Settings that were saved are loaded again.  The saved text names every setting, and a setting that
a project's file names wins over the file of the user; so all that is read are saved values, and
each reader gives back the setting that was written.
-/

namespace TaintTriage.Settings

open Value

/-- Entries hold settings under their names, whatever else they hold. -/
def Hold (entries : List (Value × Value)) (fields : List (String × Setting)) : Prop :=
  ∀ field ∈ fields, field? entries field.1 = some field.2.toValue

theorem hold_cons_iff {entries : List (Value × Value)} {field : String × Setting}
    {fields : List (String × Setting)} :
    Hold entries (field :: fields) ↔
      field? entries field.1 = some field.2.toValue ∧ Hold entries fields :=
  List.forall_mem_cons

theorem readField_of_field? {α : Type} {entries : List (Value × Value)} {name : String}
    {usual a : α} {read : Value → Reading α} {v : Value} (h : field? entries name = some v)
    (hread : read v = .ok a) : readField entries name usual read = .ok a := by
  rw [readField, h]
  exact mapError_eq_ok_iff.mpr hread

theorem readText_str {text : String} (h : text.toList.any Text.isHalf = false) :
    readText (.str text) = .ok text := by
  rw [readText, textOf?, h]
  rfl

theorem readTexts_map_str {items : List String}
    (h : ∀ item ∈ items, item.toList.any Text.isHalf = false) (position : Nat) :
    readTexts position (items.map .str) = .ok items := by
  induction items generalizing position with
  | nil => rfl
  | cons item rest ih =>
      have hrest := ih (fun other hother => h other (List.mem_cons_of_mem _ hother)) (position + 1)
      rw [List.map_cons, readTexts, readText_str (h item List.mem_cons_self), hrest]
      rfl

theorem readQueries_map_id (queries : List QueryKind) :
    readQueries (queries.map (·.id)) = .ok queries := by
  rw [readQueries_eq_mapM, mapM_eq_ok_iff, List.map_map]
  refine List.map_congr_left fun kind _ => ?_
  rw [Function.comp_apply, readQuery_eq_ok_iff, QueryKind.ofSpelling?_id]

theorem any_isHalf_id (kind : QueryKind) : kind.id.toList.any Text.isHalf = false := by
  cases kind <;> rfl

theorem readWorkers_toValue {workers : Option Int} (h : ∀ n ∈ workers, 1 ≤ n) :
    ∃ checked, readWorkers ((workers.map Setting.number).getD .absent).toValue = .ok checked ∧
      checked.map (·.1) = workers := by
  cases workers with
  | none => exact ⟨none, rfl, rfl⟩
  | some n =>
      refine ⟨some ⟨n, h n rfl⟩, ?_, rfl⟩
      change (atLeastOne _ n >>= fun checked => pure (some checked)) = _
      rw [atLeastOne, dif_pos (h n rfl)]
      rfl

theorem readPositive_int {n : Int} (h : 1 ≤ n) : readPositive (.int n) = .ok ⟨n, h⟩ := by
  change atLeastOne _ n = _
  rw [atLeastOne, dif_pos h]

theorem readLevel_name (level : Level) : readLevel (.str level.name) = .ok level := by
  cases level <;> rfl

section Sections

variable {entries : List (Value × Value)}

theorem readClassification_of_hold {a : ClassificationSettings} (h : Hold entries a.fields) :
    readClassification entries = .ok a := by
  rw [ClassificationSettings.fields, hold_cons_iff, hold_cons_iff, hold_cons_iff] at h
  obtain ⟨hqueries, hworkers, hlabels, -⟩ := h
  obtain ⟨checked, hchecked, hsame⟩ := readWorkers_toValue a.workers_pos
  refine readClassification_eq_ok_iff.mpr ⟨readField_of_field? hqueries ?_,
    ⟨checked, readField_of_field? hworkers hchecked, hsame⟩, readField_of_field? hlabels rfl⟩
  have htexts : readTextList (Setting.texts (a.queries.map (·.id))).toValue =
      .ok (a.queries.map (·.id)) := by
    refine readTexts_map_str (fun item hitem => ?_) 0
    obtain ⟨kind, -, rfl⟩ := List.mem_map.mp hitem
    exact any_isHalf_id kind
  rw [htexts]
  exact readQueries_map_id a.queries

theorem readScoring_of_hold {a : ScoringSettings} (h : Hold entries a.fields) :
    readScoring entries = .ok a := by
  rw [ScoringSettings.fields, hold_cons_iff, hold_cons_iff] at h
  obtain ⟨hsize, hconcurrency, -⟩ := h
  exact readScoring_eq_ok_iff.mpr
    ⟨readField_of_field? hsize (readPositive_int a.batchSize_pos),
      readField_of_field? hconcurrency (readPositive_int a.maxConcurrency_pos)⟩

/-- A path that was read from something is read from its text. -/
theorem readPath_toText {v : Value} {path : SourcePath} (h : readPath v = .ok (some path)) :
    readPath (.str path.toText) = .ok (some path) := by
  cases v with
  | str text =>
      rw [readPath] at h
      split at h
      · exact nomatch h
      · rename_i hhalf
        obtain rfl := Option.some.inj (Except.ok.inj h)
        have hno : (SourcePath.ofText text).toText.toList.any Text.isHalf = false := by
          rw [List.any_eq_false]
          intro c hc hchalf
          rcases SourcePath.mem_toText_ofText hc with hmem | rfl | rfl
          · exact hhalf (List.any_eq_true.mpr ⟨c, hmem, hchalf⟩)
          · exact absurd hchalf (by decide)
          · exact absurd hchalf (by decide)
        rw [readPath, hno, SourcePath.ofText_toText (SourcePath.isNormal_ofText text)]
        rfl
  | null => exact nomatch Except.ok.inj h
  | _ => exact nomatch h

theorem readLogging_of_hold {a : LoggingSettings} (h : Hold entries a.fields)
    (hfile : ∀ path ∈ a.file, ∃ v, readPath v = .ok (some path)) :
    readLogging entries = .ok a := by
  rw [LoggingSettings.fields, hold_cons_iff, hold_cons_iff, hold_cons_iff, hold_cons_iff,
    hold_cons_iff] at h
  obtain ⟨hlevel, hpath, hjson, hsize, hcount, -⟩ := h
  refine readLogging_eq_ok_iff.mpr ⟨readField_of_field? hlevel (readLevel_name a.level),
    readField_of_field? hpath ?_, readField_of_field? hjson rfl, readField_of_field? hsize rfl,
    readField_of_field? hcount rfl⟩
  cases hsome : a.file with
  | none => rfl
  | some path =>
      obtain ⟨v, hv⟩ := hfile path hsome
      exact readPath_toText hv

end Sections

/-- The path of settings that were read was read from something. -/
theorem exists_readPath_of_ofEntries {entries : List (Value × Value)} {s : Settings}
    (h : ofEntries entries = .ok s) :
    ∀ path ∈ s.logging.file, ∃ v, readPath v = .ok (some path) := by
  intro path hpath
  obtain ⟨-, -, hlogging⟩ := ofEntries_eq_ok_iff.mp h
  rcases readSection_eq_ok_iff.mp hlogging with ⟨-, husual⟩ | ⟨-, fields, -, -, hread⟩
  · rw [← husual] at hpath
    exact absurd hpath (Option.not_mem_none path)
  · obtain ⟨-, hfile, -⟩ := readLogging_eq_ok_iff.mp hread
    rw [readField] at hfile
    split at hfile
    · obtain hnone := Except.ok.inj hfile
      rw [← hnone] at hpath
      exact absurd hpath (Option.not_mem_none path)
    · rename_i v _
      exact ⟨v, (mapError_eq_ok_iff.mp hfile).trans (congrArg _ hpath)⟩

/-- Entries carry settings: each section is a mapping that holds its settings. -/
def Carry (entries : List (Value × Value)) (s : Settings) : Prop :=
  ∀ part ∈ s.sections, ∃ fields, field? entries part.1 = some (.map fields) ∧ Hold fields part.2

/-- The entries of a section that was saved. -/
def savedFields (fields : List (String × Setting)) : List (Value × Value) :=
  fields.map fun (name, setting) => (.str name, setting.toValue)

def savedEntries (s : Settings) : List (Value × Value) :=
  s.sections.map fun (name, fields) => (.str name, .map (savedFields fields))

theorem toDocument_eq_map (s : Settings) : s.toDocument = .map s.savedEntries := by
  rw [toDocument, object, savedEntries, List.map_map]
  refine congrArg Value.map (List.map_congr_left fun part _ => ?_)
  obtain ⟨name, fields⟩ := part
  change (Value.str name, sectionDocument fields) = (Value.str name, Value.map (savedFields fields))
  rw [sectionDocument, object, List.map_map]
  rfl

variable {s : Settings} {entries base : List (Value × Value)} {environment : Environment}

/-- The names of the sections and of their settings are always the same. -/
theorem map_names_sections (s : Settings) :
    (s.sections.map fun part => (part.1, part.2.map (·.1))) = fieldNames := rfl

theorem names_mem_fieldNames {part : String × List (String × Setting)} (h : part ∈ s.sections) :
    (part.1, part.2.map (·.1)) ∈ fieldNames := by
  rw [← map_names_sections s]
  exact List.mem_map_of_mem h

theorem names_nodup_of_mem_sections {part : String × List (String × Setting)}
    (h : part ∈ s.sections) : (part.2.map (·.1)).Nodup := by
  have hnames : ∀ entry ∈ fieldNames, entry.2.Nodup := by decide
  exact hnames _ (names_mem_fieldNames h)

theorem fields_ne_nil_of_mem_sections {part : String × List (String × Setting)}
    (h : part ∈ s.sections) : part.2 ≠ [] := by
  have hnames : ∀ entry ∈ fieldNames, entry.2 ≠ [] := by decide
  intro hnil
  exact hnames _ (names_mem_fieldNames h) (List.map_eq_nil_iff.mpr hnil)

theorem section_names_nodup (s : Settings) : (s.sections.map (·.1)).Nodup := by
  have hnames : (fieldNames.map (·.1)).Nodup := by decide
  rwa [← map_names_sections s, List.map_map] at hnames

theorem textKeysDistinct_savedEntries (s : Settings) : TextKeysDistinct s.savedEntries :=
  textKeysDistinct_named (f := fun fields => .map (savedFields fields)) (section_names_nodup s)

theorem textKeysDistinct_savedFields {part : String × List (String × Setting)}
    (h : part ∈ s.sections) : TextKeysDistinct (savedFields part.2) :=
  textKeysDistinct_named (names_nodup_of_mem_sections h)

theorem field?_savedEntries {part : String × List (String × Setting)} (h : part ∈ s.sections) :
    field? s.savedEntries part.1 = some (.map (savedFields part.2)) :=
  (textKeysDistinct_savedEntries s).field?_of_mem (List.mem_map_of_mem h)

theorem hold_savedFields {part : String × List (String × Setting)} (h : part ∈ s.sections) :
    Hold (savedFields part.2) part.2 := by
  intro field hfield
  exact (textKeysDistinct_savedFields h).field?_of_mem (List.mem_map_of_mem hfield)

/-- No setting is a mapping, so that a setting takes the place of whatever was there. -/
theorem mergeInto_toValue (old : Option Value) (setting : Setting) :
    mergeInto old setting.toValue = setting.toValue := by
  cases setting <;> rfl

/-- Saved settings win over whatever they are merged into. -/
theorem hold_mergeEntries_savedFields {part : String × List (String × Setting)}
    (h : part ∈ s.sections) (older : List (Value × Value)) :
    Hold (mergeEntries older (savedFields part.2)) part.2 := by
  intro field hfield
  rw [field?_mergeEntries_of_some (textKeysDistinct_savedFields h)
    (hold_savedFields h field hfield), mergeInto_toValue]

theorem carry_mergeEntries_savedEntries (base : List (Value × Value)) :
    Carry (mergeEntries base s.savedEntries) s := by
  intro part hpart
  rw [field?_mergeEntries_of_some (textKeysDistinct_savedEntries s) (field?_savedEntries hpart)]
  by_cases hmap : ∃ older, (field? base part.1).map opened = some (.map older)
  · obtain ⟨older, holder⟩ := hmap
    rw [mergeInto_map_of_map holder]
    exact ⟨_, rfl, hold_mergeEntries_savedFields hpart older⟩
  · rw [mergeInto_map_of_not_map fun older holder => hmap ⟨older, holder⟩]
    exact ⟨_, rfl, hold_savedFields hpart⟩

/-- A quiet environment takes nothing out of the sections. -/
theorem Carry.keptEntries (h : Carry entries s) (hdistinct : TextKeysDistinct entries)
    (hquiet : Quiet environment) :
    Carry (keptEntries environment variableHead entries) s := by
  intro part hpart
  obtain ⟨fields, hfields, hhold⟩ := h part hpart
  have hne : fields.isEmpty = false := by
    obtain ⟨field, hfield⟩ := List.exists_mem_of_ne_nil _ (fields_ne_nil_of_mem_sections hpart)
    rw [List.isEmpty_eq_false_iff]
    exact List.ne_nil_of_mem (mem_of_field? (hhold field hfield))
  refine ⟨fields, ?_, hhold⟩
  rw [field?_keptEntries hdistinct, hfields, Option.bind_some, keptEntry_of_map rfl,
    hquiet.keptFields_eq, hne]
  rfl

/-- Merged into nothing, sections stay what they are. -/
theorem Carry.mergeEntries_nil (h : Carry entries s) (hdistinct : TextKeysDistinct entries) :
    Carry (mergeEntries [] entries) s := by
  intro part hpart
  obtain ⟨fields, hfields, hhold⟩ := h part hpart
  exact ⟨fields, field?_mergeEntries_of_some hdistinct hfields, hhold⟩

theorem readSection_of_field? {α : Type} {sectionName kind : String} {usual a : α}
    {read : List (Value × Value) → Reading α} {fields : List (Value × Value)}
    (h : field? entries sectionName = some (.map fields)) (hread : read fields = .ok a) :
    readSection entries sectionName kind usual read = .ok a :=
  readSection_eq_ok_iff.mpr (Or.inr ⟨_, fields, h, rfl, hread⟩)

/-- Entries that carry settings are read as these settings. -/
theorem Carry.ofEntries (h : Carry entries s)
    (hfile : ∀ path ∈ s.logging.file, ∃ v, readPath v = .ok (some path)) :
    ofEntries entries = .ok s := by
  obtain ⟨_, hclassification, hholdClassification⟩ := h _ List.mem_cons_self
  obtain ⟨_, hscoring, hholdScoring⟩ := h _ (List.mem_cons_of_mem _ List.mem_cons_self)
  obtain ⟨_, hlogging, hholdLogging⟩ :=
    h _ (List.mem_cons_of_mem _ (List.mem_cons_of_mem _ List.mem_cons_self))
  exact ofEntries_eq_ok_iff.mpr
    ⟨readSection_of_field? hclassification (readClassification_of_hold hholdClassification),
      readSection_of_field? hscoring (readScoring_of_hold hholdScoring),
      readSection_of_field? hlogging (readLogging_of_hold hholdLogging hfile)⟩

theorem isPlainName_savedEntries : ∀ entry ∈ s.savedEntries, IsPlainName entry.1 := by
  have hnames : ∀ entry ∈ fieldNames, entry.1.toList.head? ≠ some '_' := by decide
  intro entry hentry
  obtain ⟨part, hpart, rfl⟩ := List.mem_map.mp hentry
  exact ⟨part.1, rfl, hnames _ (names_mem_fieldNames hpart)⟩

theorem isPlainName_fileLayers {user : List (Value × Value)}
    (hplain : ∀ entry ∈ user, IsPlainName entry.1) :
    ∀ entry ∈ fileLayers user s.savedEntries, IsPlainName entry.1 := by
  refine forall_key_mergeEntries (forall_key_mergeEntries ?_ hplain) isPlainName_savedEntries
  exact fun entry hentry => absurd hentry List.not_mem_nil

section Searchable

variable {user : List (Value × Value)} {part : String × List (String × Setting)}

theorem isFindable_savedFields (h : part ∈ s.sections) :
    ∀ field ∈ savedFields part.2,
      IsFindable (nameForField variableHead (.str part.1) field.1) := by
  intro field hfield
  obtain ⟨setting, hsetting, rfl⟩ := List.mem_map.mp hfield
  rw [nameForField_str]
  exact ⟨_, rfl, isVariableName_of_mem_fieldNames _ (names_mem_fieldNames h) setting.1
    (List.mem_map_of_mem hsetting)⟩

theorem isVariableName_of_section :
    ∀ entry ∈ fieldNames, IsVariableName (variableHead ++ entry.1) := by
  decide +kernel

theorem isSearchable_of_not_map {v : Value} (h : part ∈ s.sections)
    (hnot : ∀ fields, v.opened ≠ .map fields) : IsSearchable variableHead (.str part.1, v) := by
  rw [isSearchable_of_not_map_iff hnot, nameForSection_str]
  exact ⟨_, rfl, isVariableName_of_section (part.1, part.2.map (·.1)) (names_mem_fieldNames h)⟩

/-- Saved settings bring in no name under which variables cannot be looked for. -/
theorem isSearchable_mergeInto_savedFields_iff (h : part ∈ s.sections) (old : Option Value) :
    IsSearchable variableHead (.str part.1, mergeInto old (.map (savedFields part.2))) ↔
      ∀ v ∈ old, IsSearchable variableHead (.str part.1, v) := by
  by_cases hmap : ∃ older, old.map opened = some (.map older)
  · obtain ⟨older, holder⟩ := hmap
    obtain ⟨v, rfl, hopened⟩ := Option.map_eq_some_iff.mp holder
    let p (key : Value) : Prop := IsFindable (nameForField variableHead (.str part.1) key)
    have hkeys : (∀ field ∈ mergeEntries older (savedFields part.2), p field.1) ↔
        ∀ field ∈ older, p field.1 :=
      ⟨forall_key_of_mergeEntries,
        fun hall => forall_key_mergeEntries hall (isFindable_savedFields h)⟩
    rw [mergeInto_map_of_map holder, isSearchable_of_map_iff rfl]
    simpa only [Option.mem_some_iff, forall_eq', isSearchable_of_map_iff hopened] using hkeys
  · have hnot (fields : List (Value × Value)) : old.map opened ≠ some (.map fields) :=
      fun hopened => hmap ⟨fields, hopened⟩
    rw [mergeInto_map_of_not_map hnot]
    refine iff_of_true ((isSearchable_of_map_iff rfl).mpr (isFindable_savedFields h)) ?_
    intro v hv
    obtain rfl := Option.mem_def.mp hv
    exact isSearchable_of_not_map h fun fields hopened => hnot fields (congrArg some hopened)

/-- Whether variables can be looked for under the names of both files is decided by the file of the
user. -/
theorem forall_isSearchable_fileLayers_iff (hdistinct : TextKeysDistinct user)
    (hplain : ∀ entry ∈ user, IsPlainName entry.1) :
    (∀ entry ∈ fileLayers user s.savedEntries, IsSearchable variableHead entry) ↔
      ∀ entry ∈ user, IsSearchable variableHead entry := by
  have htexts {entries : List (Value × Value)} (h : ∀ entry ∈ entries, IsPlainName entry.1) :
      ∀ entry ∈ entries, entry.1.keyText?.isSome = true := by
    intro entry hentry
    obtain ⟨name, hname, -⟩ := h entry hentry
    rw [hname]
    rfl
  have hfiles := isPlainName_fileLayers (s := s) hplain
  have hfilesDistinct : TextKeysDistinct (fileLayers user s.savedEntries) :=
    TextKeysDistinct.mergeEntries (TextKeysDistinct.mergeEntries List.Pairwise.nil)
  have hfirst (name : String) : field? (mergeEntries [] user) name = field? user name := by
    rw [field?_mergeEntries hdistinct]
    cases field? user name with
    | none => rfl
    | some v => exact congrArg some (mergeInto_none v)
  rw [hfilesDistinct.forall_mem_iff (htexts hfiles), hdistinct.forall_mem_iff (htexts hplain)]
  refine forall_congr' fun name => ?_
  rw [fileLayers, field?_mergeEntries (textKeysDistinct_savedEntries s), hfirst]
  cases hsaved : field? s.savedEntries name with
  | none => exact Iff.rfl
  | some saved =>
      obtain ⟨part, hpart, heq⟩ := List.mem_map.mp (mem_of_field? hsaved)
      obtain ⟨rfl, rfl⟩ := heq
      simpa using isSearchable_mergeInto_savedFields_iff hpart (field? user part.1)

end Searchable

def isWritten : Setting → Bool
  | .number n => isShortInteger n
  | _ => true

/-- No setting is an integer that is too long to be written. -/
def isShort (s : Settings) : Bool :=
  s.sections.all fun part => part.2.all fun field => isWritten field.2

theorem written_shownIf (name : String) (setting : Setting) :
    ShownIf (isWritten setting) (setting.written name) := by
  cases setting with
  | number n => exact (integerText_shownIf n).map _
  | texts items => cases items <;> exact shownIf_ok _
  | _ => exact shownIf_ok _

theorem fieldText_shownIf (field : String × Setting) :
    ShownIf (isWritten field.2) (fieldText field) :=
  (written_shownIf field.1 field.2).map _

theorem sectionText_shownIf (part : String × List (String × Setting)) :
    ShownIf (part.2.all fun field => isWritten field.2) (sectionText part) :=
  (ShownIf.mapM fieldText_shownIf part.2).map _

/-- Settings have a text exactly if their integers have one. -/
theorem toText_shownIf (s : Settings) : ShownIf s.isShort s.toText :=
  (ShownIf.mapM sectionText_shownIf s.sections).map _

/-- The text of settings is put together from its characters, so reading need not take it apart. -/
theorem toText_of_characters {parts : List (List Char)} {v : Value}
    (hparts : s.sections.mapM sectionText = .ok parts)
    (hread : Yaml.readCharacters parts.flatten = .ok v) :
    s.toText = .ok (String.ofList parts.flatten) ∧
      Yaml.read (String.ofList parts.flatten) = .ok v := by
  constructor
  · rw [toText, hparts]
    rfl
  · rw [Yaml.read, String.toList_ofList, hread]

theorem fileEntries_toText {place text : String} (h : Yaml.read text = .ok s.toDocument) :
    fileEntries place (some text) = .ok s.savedEntries := by
  rw [toDocument_eq_map] at h
  have hread : Yaml.readOrEmpty text = .ok (.map s.savedEntries) := by
    rw [Yaml.readOrEmpty, h]
    rfl
  rw [fileEntries, hread]
  rfl

/-- Where the file of the project holds settings that were saved, nothing but a name under which no
variable can be looked for keeps them from being loaded. -/
theorem load_of_savedEntries (layers : Layers) {places : FilePlaces}
    {user read : List (Value × Value)} (hvalid : Settings.ofEntries read = .ok s)
    (huser : fileEntries places.user layers.user = .ok user)
    (hplain : ∀ entry ∈ user, IsPlainName entry.1) (hquiet : Quiet layers.environment)
    (hproject : fileEntries places.project layers.project = .ok s.savedEntries)
    (hoverrides : layers.overrides = .null) :
    load places layers = (dropOverridden layers.environment variableHead
      (fileLayers user s.savedEntries)).mapError .unnamed >>= fun _ => .ok s := by
  have hdistinct : TextKeysDistinct (fileLayers user s.savedEntries) :=
    TextKeysDistinct.mergeEntries (TextKeysDistinct.mergeEntries List.Pairwise.nil)
  have hcarry : Carry (Settings.keptEntries layers.environment variableHead
      (fileLayers user s.savedEntries)) s :=
    (carry_mergeEntries_savedEntries _).keptEntries hdistinct hquiet
  have hread := (hcarry.mergeEntries_nil (textKeysDistinct_keptEntries hdistinct)).ofEntries
    (exists_readPath_of_ofEntries hvalid)
  have hnone : layers.overrideEntries = .ok [] := by
    rw [Layers.overrideEntries, hoverrides]
    rfl
  rw [load_eq, huser, ok_bind, hproject, ok_bind, hnone]
  cases hdrop : dropOverridden layers.environment variableHead (fileLayers user s.savedEntries) with
  | error fault => rfl
  | ok kept =>
      obtain ⟨-, rfl⟩ := dropOverridden_eq_ok_iff.mp hdrop
      change ofLayers layers.environment (Settings.keptEntries layers.environment variableHead
        (fileLayers user s.savedEntries)) = .ok s
      rw [ofLayers_of_quiet (forall_key_keptEntries (isPlainName_fileLayers hplain)) hquiet,
        hread]
      rfl

/-- A file of the user with half of a character in the name of a field. -/
def halfNamed : String := "scoring: \x7b\"\\ud800\": 1\x7d\n"

/-- Entries with spellings that are not those of saved settings. -/
def looseEntries : List (Value × Value) :=
  [(.str "classification", .map [(.str "queries", .texts ["XSS", "sql_injection", "xss"]),
      (.str "max_workers", .str "2")]),
   (.str "logging", .map [(.str "level", .str "debug"), (.str "file", .str "./logs//run.log")])]

/-- A file of the user that gives other values and further names. -/
def otherUser : String :=
  "logging:\n  level: error\n  rotate: weekly\nscoring: [1]\n"

def otherVariables : Environment := [("PATH", "/usr/bin"), ("Taint", "1")]

end TaintTriage.Settings
