import TaintTriage.Proofs.OverriddenEntries
import TaintTriage.Proofs.SettingAlone
import TaintTriage.Settings.Load

/-!
Which layer decides a setting.  Files are laid over the environment, after what single variables in
capital letters stand for was taken out of them; so the environment wins over a file only where it
gives the setting by such a variable.
-/

namespace TaintTriage.Settings

open Value

/-- What the layers give for one setting. -/
structure Sources where
  overrides : Option Value
  environment : Option Value
  project : Option Value
  user : Option Value

/-- The documented order: the overrides, the environment, the file of the project, that of the
user. -/
def Sources.documented (s : Sources) : Option Value :=
  s.overrides.or (s.environment.or (s.project.or s.user))

/-- The order that counts.  The files come before the environment, unless the setting has a variable
of its own. -/
def Sources.deciding (s : Sources) (ownVariable : Bool) : Option Value :=
  s.overrides.or ((if ownVariable then none else s.project.or s.user).or s.environment)

/-- The documented order is kept where the environment gives a setting by its own variable only. -/
theorem Sources.deciding_eq_documented {s : Sources} {ownVariable : Bool}
    (h : ownVariable = s.environment.isSome) : s.deciding ownVariable = s.documented := by
  rw [deciding, documented, h]
  cases s.environment with
  | none => simp
  | some v => simp

/-- What is given for a setting in each of the layers. -/
def sourcesOf (given overrides project user : List (Value × Value)) (sectionName name : String) :
    Sources where
  overrides := fieldAt? overrides sectionName name
  environment := fieldAt? given sectionName name
  project := fieldAt? project sectionName name
  user := fieldAt? user sectionName name

/-- The entries of a file whose sections are mappings. -/
structure IsSectionLayer (entries : List (Value × Value)) : Prop extends IsPlainLayer entries where
  sections : ∀ entry ∈ fieldNames, ∀ v ∈ field? entries entry.1, v.mapFields?.isSome = true

instance (entries : List (Value × Value)) : Decidable (IsSectionLayer entries) :=
  decidable_of_iff (IsPlainLayer entries ∧
      ∀ entry ∈ fieldNames, ∀ v ∈ field? entries entry.1, v.mapFields?.isSome = true)
    ⟨fun h => ⟨h.1, h.2⟩, fun h => ⟨h.toIsPlainLayer, h.sections⟩⟩

/-- The entries of the overrides; what does not count as true has none. -/
def Layers.overrideEntries (layers : Layers) : Except LoadFault (List (Value × Value)) :=
  if layers.overrides.isTruthy then layers.overrides.entries.mapError .unfit else .ok []

/-- The entries of both files. -/
def fileLayers (user project : List (Value × Value)) : List (Value × Value) :=
  mergeEntries (mergeEntries [] user) project

/-- What is laid over the environment. -/
def explicitEntries (environment : Environment) (user project overrides : List (Value × Value)) :
    List (Value × Value) :=
  mergeEntries (keptEntries environment variableHead (fileLayers user project)) overrides

theorem load_eq (places : FilePlaces) (layers : Layers) :
    load places layers = (do
      let user ← fileEntries places.user layers.user
      let project ← fileEntries places.project layers.project
      let kept ← (dropOverridden layers.environment variableHead
        (fileLayers user project)).mapError .unnamed
      let overrides ← layers.overrideEntries
      ofLayers layers.environment (mergeEntries kept overrides)) := by
  refine bind_congr fun user => bind_congr fun project => bind_congr fun kept => ?_
  rw [Layers.overrideEntries]
  cases layers.overrides.isTruthy with
  | false => rfl
  | true =>
      simp only [Bool.not_true, Bool.false_eq_true, ↓reduceIte]

/-- Settings that were loaded were read from the explicit entries over those of the environment. -/
theorem exists_given_of_ofLayers {environment : Environment} {entries : List (Value × Value)}
    {s : Settings} (h : ofLayers environment entries = .ok s) :
    ∃ rules given, environmentRules entries = .ok rules ∧ rules.entries environment = .ok given ∧
      ofEntries (mergeEntries given entries) = .ok s := by
  rw [ofLayers] at h
  split at h
  · exact nomatch h
  dsimp only at h
  split at h
  · exact nomatch h
  obtain ⟨rules, hrules, h⟩ := bind_eq_ok_iff.mp h
  obtain ⟨-, -, h⟩ := bind_eq_ok_iff.mp h
  obtain ⟨given, hgiven, h⟩ := bind_eq_ok_iff.mp h
  obtain ⟨-, -, h⟩ := bind_eq_ok_iff.mp h
  exact ⟨rules, given, hrules, mapError_eq_ok_iff.mp hgiven, mapError_eq_ok_iff.mp h⟩

/-- A section that was read is a mapping. -/
theorem exists_map_of_ofEntries {entries : List (Value × Value)} {s : Settings}
    (h : ofEntries entries = .ok s) :
    ∀ entry ∈ fieldNames, ∀ v, field? entries entry.1 = some v →
      ∃ fields, v.opened = .map fields := by
  have hsection {α : Type} {sectionName kind : String} {usual a : α}
      {read : List (Value × Value) → Reading α}
      (hread : readSection entries sectionName kind usual read = .ok a) (v : Value)
      (hfield : field? entries sectionName = some v) : ∃ fields, v.opened = .map fields := by
    rcases readSection_eq_ok_iff.mp hread with ⟨hnone, -⟩ | ⟨w, fields, hw, hopened, -⟩
    · exact nomatch hnone.symm.trans hfield
    · obtain rfl := Option.some.inj (hw.symm.trans hfield)
      exact ⟨fields, hopened⟩
  obtain ⟨hclassification, hscoring, hlogging⟩ := ofEntries_eq_ok_iff.mp h
  intro entry hentry
  simp only [fieldNames, List.mem_cons, List.not_mem_nil, or_false] at hentry
  rcases hentry with rfl | rfl | rfl
  · exact hsection hclassification
  · exact hsection hscoring
  · exact hsection hlogging

/-- A mapping comes of merging mappings only. -/
theorem exists_map_of_mergeInto {old : Option Value} {v : Value} (hv : v.isLoop = false)
    (h : ∃ fields, (mergeInto old v).opened = .map fields) : ∃ fields, v = .map fields := by
  obtain ⟨fields, hopened⟩ := h
  have hmerged := eq_of_opened (isLoop_mergeInto old hv) hopened
  rcases mergeInto_eq old hv with ⟨fields, -, rfl, -⟩ | ⟨-, hsame⟩
  · exact ⟨fields, rfl⟩
  · exact ⟨_, hsame.symm.trans hmerged⟩

section Priority

variable {places : FilePlaces} {layers : Layers} {s : Settings}
variable {user project overrides : List (Value × Value)}

theorem IsSectionLayer.exists_map {entries : List (Value × Value)} (h : IsSectionLayer entries) :
    ∀ entry ∈ fieldNames, ∀ v, field? entries entry.1 = some v → ∃ fields, v = .map fields := by
  intro entry hentry v hfield
  have hmap := h.sections entry hentry v hfield
  cases v with
  | map fields => exact ⟨fields, rfl⟩
  | _ => exact Bool.noConfusion hmap

theorem isPlainLayer_fileLayers (huser : IsPlainLayer user) (hproject : IsPlainLayer project) :
    IsPlainLayer (fileLayers user project) :=
  (isPlainLayer_nil.mergeEntries huser).mergeEntries hproject

theorem leafAt?_fileLayers (huser : IsSectionLayer user) (hproject : IsSectionLayer project) :
    ∀ entry ∈ fieldNames, ∀ name,
      leafAt? (fileLayers user project) entry.1 name =
        (leafAt? project entry.1 name).or (leafAt? user entry.1 name) := by
  intro entry hentry name
  rw [fileLayers,
    leafAt?_mergeEntries hproject.toIsPlainLayer (hproject.exists_map entry hentry),
    leafAt?_mergeEntries huser.toIsPlainLayer (huser.exists_map entry hentry)]
  have hnil : leafAt? [] entry.1 name = none := rfl
  rw [hnil, Option.or_none]

/-- What settings are read from holds, for each of them, the value that decides. -/
theorem leafAt?_explicitEntries {environment : Environment} {given : List (Value × Value)}
    (huser : IsSectionLayer user) (hproject : IsSectionLayer project)
    (hoverrides : IsPlainLayer overrides)
    (hread : ofEntries (mergeEntries given (explicitEntries environment user project overrides)) =
      .ok s) :
    ∀ entry ∈ fieldNames, ∀ name,
      leafAt? (mergeEntries given (explicitEntries environment user project overrides))
          entry.1 name =
        ((sourcesOf given overrides project user entry.1 name).deciding
          (isOverridden environment (.ok (variableHead ++ entry.1 ++ "__" ++ name)))).map flat := by
  intro entry hentry name
  have hfiles := isPlainLayer_fileLayers huser.toIsPlainLayer hproject.toIsPlainLayer
  have hexplicit : IsPlainLayer (explicitEntries environment user project overrides) :=
    (isPlainLayer_keptEntries hfiles).mergeEntries hoverrides
  have hsection : ∀ v, field? (explicitEntries environment user project overrides) entry.1 =
      some v → ∃ fields, v = .map fields := by
    intro v hv
    have hfinite := (hexplicit.plain _ (mem_of_field? hv)).finite
    apply exists_map_of_mergeInto hfinite
    exact exists_map_of_ofEntries hread entry hentry _
      (field?_mergeEntries_of_some hexplicit.distinct hv)
  -- A section of the overrides that is no mapping would have made the whole section one.
  have hoverridesSection : ∀ v, field? overrides entry.1 = some v → ∃ fields, v = .map fields := by
    intro v hv
    obtain ⟨fields, hfields⟩ := hsection _ (field?_mergeEntries_of_some hoverrides.distinct hv)
    apply exists_map_of_mergeInto (hoverrides.plain _ (mem_of_field? hv)).finite
    exact ⟨fields, by rw [hfields]; rfl⟩
  rw [leafAt?_mergeEntries hexplicit hsection, explicitEntries,
    leafAt?_mergeEntries hoverrides hoverridesSection, leafAt?_keptEntries hfiles,
    leafAt?_fileLayers huser hproject entry hentry]
  simp only [leafAt?, Sources.deciding, sourcesOf, Option.map_or, Option.or_assoc]
  split <;> simp only [Option.map_none, Option.map_or]

/-- A variable can be looked for under the name of each setting. -/
theorem isVariableName_of_mem_fieldNames :
    ∀ entry ∈ fieldNames, ∀ name ∈ entry.2,
      IsVariableName (variableHead ++ entry.1 ++ "__" ++ name) := by
  decide +kernel

theorem isSet_of_mem_fieldNames (environment : Environment) :
    ∀ entry ∈ fieldNames, ∀ name ∈ entry.2,
      isSet environment (variableHead ++ entry.1 ++ "__" ++ name) =
        .ok (isOverridden environment (.ok (variableHead ++ entry.1 ++ "__" ++ name))) := by
  intro entry hentry name hname
  rw [← hasVariable_ok]
  exact hasVariable_eq_ok ⟨_, rfl, isVariableName_of_mem_fieldNames entry hentry name hname⟩

/-- Where the sections of both files are mappings, a setting that was loaded is what is read from
the value that decides, by itself, or its usual value if no layer gives one; and the documented
order is kept for a setting that the environment gives by its own variable, or not at all. -/
theorem load_priority (huser : fileEntries places.user layers.user = .ok user)
    (hproject : fileEntries places.project layers.project = .ok project)
    (hoverrides : layers.overrideEntries = .ok overrides)
    (huserSections : IsSectionLayer user) (hprojectSections : IsSectionLayer project)
    (hoverridesPlain : IsPlainLayer overrides) (hload : load places layers = .ok s) :
    ∃ rules given,
      environmentRules (explicitEntries layers.environment user project overrides) = .ok rules ∧
      rules.entries layers.environment = .ok given ∧
      ∀ entry ∈ fieldNames, ∀ name ∈ entry.2,
        let sources := sourcesOf given overrides project user entry.1 name
        ∃ ownVariable one,
          isSet layers.environment (variableHead ++ entry.1 ++ "__" ++ name) = .ok ownVariable ∧
          ofEntries (alone entry.1 name (sources.deciding ownVariable)) = .ok one ∧
          s.setting? entry.1 name = one.setting? entry.1 name ∧
          (ownVariable = sources.environment.isSome →
            sources.deciding ownVariable = sources.documented) := by
  rw [load_eq, huser, ok_bind, hproject, ok_bind, hoverrides] at hload
  obtain ⟨kept, hkept, hload⟩ := bind_eq_ok_iff.mp hload
  obtain ⟨-, rfl⟩ := dropOverridden_eq_ok_iff.mp (mapError_eq_ok_iff.mp hkept)
  obtain ⟨rules, given, hrules, hgiven, hread⟩ := exists_given_of_ofLayers hload
  refine ⟨rules, given, hrules, hgiven, fun entry hentry name hname => ?_⟩
  obtain ⟨one, hone, hsetting⟩ := exists_ofEntries_alone hread entry hentry name hname
  have hleaf := leafAt?_explicitEntries huserSections hprojectSections hoverridesPlain hread
    entry hentry name
  rw [explicitEntries] at hleaf
  rw [hleaf, ofEntries_alone_flat entry hentry name hname] at hone
  exact ⟨_, one, isSet_of_mem_fieldNames _ entry hentry name hname, hone, hsetting,
    Sources.deciding_eq_documented⟩

end Priority

def usualPlaces : FilePlaces := ⟨"~/.taintboost/config.yml", ".taintboost.yml"⟩

/-- Each layer gives something that the others do not decide. -/
def everyLayer : Layers where
  user := some "scoring: \x7bbatch_size: 8, max_concurrency: 2\x7d"
  project := some "scoring: \x7bbatch_size: 16\x7d"
  environment := [("TAINTBOOST_SCORING__MAX_CONCURRENCY", "5")]
  overrides := .object [("logging", .object [("level", .str "debug")])]

/-- The file of the project decides the size of batches, and a variable of its own how many there
are at once. -/
theorem load_priority_everyLayer :
    ∃ s, load usualPlaces everyLayer = .ok s ∧ s.scoring.batchSize = 16 ∧
      s.scoring.maxConcurrency = 5 ∧
      ∃ user, fileEntries usualPlaces.user everyLayer.user = .ok user ∧ IsSectionLayer user ∧
      ∃ project, fileEntries usualPlaces.project everyLayer.project = .ok project ∧
        IsSectionLayer project ∧
      ∃ overrides, everyLayer.overrideEntries = .ok overrides ∧ IsPlainLayer overrides ∧
      ∃ given one, ofEntries (alone "scoring" "max_concurrency"
          ((sourcesOf given overrides project user "scoring" "max_concurrency").deciding true)) =
            .ok one ∧
        s.setting? "scoring" "max_concurrency" = one.setting? "scoring" "max_concurrency" := by
  obtain ⟨s, hs, hsize, hconcurrency⟩ : ∃ s, load usualPlaces everyLayer = .ok s ∧
      s.scoring.batchSize = 16 ∧ s.scoring.maxConcurrency = 5 := by decide +kernel
  obtain ⟨user, huser, huserSections⟩ : ∃ user,
      fileEntries usualPlaces.user everyLayer.user = .ok user ∧ IsSectionLayer user := by
    decide +kernel
  obtain ⟨project, hproject, hprojectSections⟩ : ∃ project,
      fileEntries usualPlaces.project everyLayer.project = .ok project ∧
        IsSectionLayer project := by decide +kernel
  obtain ⟨overrides, hoverrides, hoverridesPlain⟩ : ∃ overrides,
      everyLayer.overrideEntries = .ok overrides ∧ IsPlainLayer overrides := by decide +kernel
  refine ⟨s, hs, hsize, hconcurrency, user, huser, huserSections, project, hproject,
    hprojectSections, overrides, hoverrides, hoverridesPlain, ?_⟩
  obtain ⟨rules, given, hrules, hgiven, hsettings⟩ := load_priority huser hproject hoverrides
    huserSections hprojectSections hoverridesPlain hs
  obtain ⟨ownVariable, one, hset, hone, hsetting, -⟩ :=
    hsettings _ (List.mem_cons_of_mem _ List.mem_cons_self) "max_concurrency"
      (List.mem_cons_of_mem _ List.mem_cons_self)
  have hown : isSet everyLayer.environment
      (variableHead ++ "scoring" ++ "__" ++ "max_concurrency") = .ok true := by rfl
  obtain rfl := Except.ok.inj (hset.symm.trans hown)
  exact ⟨given, one, hone, hsetting⟩

/-- The environment gives a whole section, and the file of the project the same setting in it. -/
def sectionVariable : Layers where
  project := some "scoring: \x7bbatch_size: 3, max_concurrency: 7\x7d"
  environment := [("TAINTBOOST_SCORING", "\x7b\"batch_size\": \"9\"\x7d")]

/-- The file wins over the environment, against the documented order. -/
theorem load_sectionVariable :
    ∃ s, load usualPlaces sectionVariable = .ok s ∧ s.scoring.batchSize = 3 ∧
      ∃ project, fileEntries usualPlaces.project sectionVariable.project = .ok project ∧
        IsSectionLayer project ∧
      ∃ given, ({} : EnvironmentRules).entries sectionVariable.environment = .ok given ∧
      ∃ one, ofEntries (alone "scoring" "batch_size"
          (sourcesOf given [] project [] "scoring" "batch_size").documented) = .ok one ∧
        one.scoring.batchSize = 9 := by
  decide +kernel

end TaintTriage.Settings
