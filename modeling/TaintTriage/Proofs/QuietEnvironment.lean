import TaintTriage.Proofs.OverriddenEntries
import TaintTriage.Settings.Load

/-!
Environments without settings.  If no variable has a name that begins like those of settings, in
whatever case, the environment gives nothing for any section and overrides no setting of a file.
Entries that do not change the rules for the environment then decide alone.
-/

namespace TaintTriage.Settings

variable {environment : Environment} {rules : EnvironmentRules}

/-- What the names of all variables of settings begin with, as names are compared. -/
def comparedHead : List Char := (Text.toLower variableHead).toList

/-- No variable has a name that begins like those of settings, in whatever case. -/
def Quiet (environment : Environment) : Prop :=
  ∀ v ∈ environment, ¬ comparedHead <+: (Text.toLower v.1).toList

instance (environment : Environment) : Decidable (Quiet environment) :=
  inferInstanceAs (Decidable (∀ v ∈ environment, ¬ comparedHead <+: (Text.toLower v.1).toList))

/-- Where no sigma is, lower case goes character by character. -/
theorem lowerAfter_append {xs : List Char} (h : 'Σ' ∉ xs) (before ys : List Char) :
    Text.lowerAfter before (xs ++ ys) =
      xs.flatMap Text.lowerChar ++ Text.lowerAfter (xs.reverse ++ before) ys := by
  induction xs generalizing before with
  | nil => rfl
  | cons c rest ih =>
      rw [List.mem_cons, not_or] at h
      rw [List.cons_append, Text.lowerAfter, if_neg (Ne.symm h.1), ih h.2, List.flatMap_cons,
        List.append_assoc, List.reverse_cons, List.append_assoc]
      rfl

theorem toList_toLower_variableHead_append (name : String) :
    (Text.toLower (variableHead ++ name)).toList =
      variableHead.toList.flatMap Text.lowerChar ++
        Text.lowerAfter variableHead.toList.reverse name.toList := by
  have hsigma : 'Σ' ∉ variableHead.toList := by decide
  rw [Text.toLower, String.toList_ofList, String.toList_append, lowerAfter_append hsigma,
    List.append_nil]

theorem comparedHead_prefix (name : String) :
    comparedHead <+: (Text.toLower (variableHead ++ name)).toList := by
  have hhead := toList_toLower_variableHead_append ""
  rw [String.append_empty, String.toList_empty, Text.lowerAfter, List.append_nil] at hhead
  rw [comparedHead, hhead, toList_toLower_variableHead_append]
  exact List.prefix_append _ _

theorem toUpper_variableHead_append (name : String) :
    Text.toUpper (variableHead ++ name) = variableHead ++ Text.toUpper name := by
  have hhead : variableHead.toList.flatMap Text.upperChar = variableHead.toList := by decide
  rw [Text.toUpper, Text.toUpper, String.toList_append, List.flatMap_append, hhead,
    String.ofList_append, String.ofList_toList]

namespace EnvironmentRules

/-- The variables that count with one more of them. -/
def readOne (rules : EnvironmentRules) (found : Environment) (v : String × String) :
    Environment :=
  if rules.skipEmpty && v.2.isEmpty then found
  else if found.any (·.1 == rules.nameOf v.1) then
    found.map fun entry => if entry.1 == rules.nameOf v.1 then (rules.nameOf v.1, v.2) else entry
  else found ++ [(rules.nameOf v.1, v.2)]

theorem read_eq_foldl : rules.read environment = environment.foldl rules.readOne [] := rfl

/-- One more variable brings in its own name at most. -/
theorem fst_of_mem_readOne {found : Environment} {v entry : String × String}
    (h : entry ∈ rules.readOne found v) : entry ∈ found ∨ entry.1 = rules.nameOf v.1 := by
  rw [readOne] at h
  split at h
  · exact Or.inl h
  split at h
  · obtain ⟨old, hold, rfl⟩ := List.mem_map.mp h
    split
    · exact Or.inr rfl
    · exact Or.inl hold
  · rcases List.mem_append.mp h with hold | hlast
    · exact Or.inl hold
    · exact Or.inr (congrArg Prod.fst (List.mem_singleton.mp hlast))

/-- The variables that count have the names of variables, as names are compared. -/
theorem exists_mem_of_mem_foldl {found : Environment} {entry : String × String}
    (h : entry ∈ environment.foldl rules.readOne found) :
    entry ∈ found ∨ ∃ v ∈ environment, entry.1 = rules.nameOf v.1 := by
  induction environment generalizing found with
  | nil => exact Or.inl h
  | cons v rest ih =>
      rcases ih h with hone | ⟨w, hw, hname⟩
      · rcases fst_of_mem_readOne hone with hold | hname
        · exact Or.inl hold
        · exact Or.inr ⟨v, List.mem_cons_self, hname⟩
      · exact Or.inr ⟨w, List.mem_cons_of_mem v hw, hname⟩

theorem exists_mem_of_mem_read {entry : String × String} (h : entry ∈ rules.read environment) :
    ∃ v ∈ environment, entry.1 = rules.nameOf v.1 := by
  rw [read_eq_foldl] at h
  rcases exists_mem_of_mem_foldl h with hnone | hmem
  · exact absurd hnone List.not_mem_nil
  · exact hmem

/-- Variables whose names do not begin like those of a section are passed over. -/
theorem singleValues_eq_nil {sectionName : String} {given : Environment}
    (h : ∀ v ∈ given,
      (rules.nameOf (rules.head ++ sectionName) ++ rules.divider).toList.isPrefixOf
        v.1.toList = false) :
    rules.singleValues sectionName given = .ok [] := by
  rw [singleValues]
  dsimp only
  split
  · rfl
  · induction given with
    | nil => rfl
    | cons v rest ih =>
        rw [List.foldlM_cons, h v List.mem_cons_self]
        exact ih fun w hw => h w (List.mem_cons_of_mem v hw)

end EnvironmentRules

theorem Quiet.sectionValue?_eq_none (h : Quiet environment) (sectionName : String)
    (fields : List String) :
    ({} : EnvironmentRules).sectionValue? sectionName fields
      (({} : EnvironmentRules).read environment) = .ok none := by
  have hhead := comparedHead_prefix sectionName
  have hquiet : ∀ v ∈ ({} : EnvironmentRules).read environment,
      ¬ comparedHead <+: v.1.toList := by
    intro v hv
    obtain ⟨w, hw, hname⟩ := EnvironmentRules.exists_mem_of_mem_read hv
    rw [hname]
    exact h w hw
  have hlookup : (({} : EnvironmentRules).read environment).lookup
      (({} : EnvironmentRules).nameOf (variableHead ++ sectionName)) = none := by
    rw [List.lookup_eq_none_iff]
    intro v hv
    rw [bne_iff_ne]
    intro hname
    exact hquiet v hv (hname ▸ hhead)
  have hsingle : ({} : EnvironmentRules).singleValues sectionName
      (({} : EnvironmentRules).read environment) = .ok [] := by
    apply EnvironmentRules.singleValues_eq_nil
    intro v hv
    rw [Bool.eq_false_iff, ne_eq, List.isPrefixOf_iff_prefix, String.toList_append]
    intro hprefix
    exact hquiet v hv ((hhead.trans (List.prefix_append _ _)).trans hprefix)
  rw [EnvironmentRules.sectionValue?, hlookup]
  dsimp only
  rw [hsingle]
  rfl

/-- A quiet environment gives nothing. -/
theorem Quiet.entries_eq_nil (h : Quiet environment) :
    ({} : EnvironmentRules).entries environment = .ok [] := by
  rw [EnvironmentRules.entries]
  simp only [h.sectionValue?_eq_none]
  rfl

theorem Quiet.isSet_ne_true (h : Quiet environment) (name : String) :
    isSet environment (variableHead ++ name) ≠ .ok true := by
  rw [isSet, toUpper_variableHead_append]
  split
  · intro hset
    cases hset
  · rw [ne_eq, Except.ok.injEq, List.any_eq_true]
    rintro ⟨v, hv, hequal⟩
    have hhead := comparedHead_prefix (Text.toUpper name)
    rw [← beq_iff_eq.mp hequal] at hhead
    exact h v hv hhead

theorem Quiet.isOverridden_nameForField (h : Quiet environment) (key field : Value) :
    isOverridden environment (nameForField variableHead key field) = false := by
  rw [Bool.eq_false_iff]
  intro hoverridden
  obtain ⟨name, hname, hset⟩ := exists_isSet_of_isOverridden hoverridden
  obtain ⟨rest, rfl⟩ := exists_append_of_nameForField hname
  exact h.isSet_ne_true rest hset

/-- A quiet environment overrides no field of a file. -/
theorem Quiet.keptFields_eq (h : Quiet environment) (key : Value)
    (fields : List (Value × Value)) :
    keptFields environment variableHead key fields = fields := by
  rw [keptFields, List.filter_eq_self]
  intro field _
  rw [h.isOverridden_nameForField]
  rfl

/-- The name of an entry that is no rule for the environment: those of the rules begin with an
underscore. -/
def IsPlainName (key : Value) : Prop :=
  ∃ name, key.keyText? = some name ∧ name.toList.head? ≠ some '_'

instance (key : Value) : Decidable (IsPlainName key) :=
  decidable_of_iff (∃ name ∈ key.keyText?, name.toList.head? ≠ some '_') Iff.rfl

variable {entries : List (Value × Value)}

section Plain

variable (hplain : ∀ entry ∈ entries, IsPlainName entry.1)
include hplain

theorem field?_eq_none_of_isPlainName (name : String) (hname : name.toList.head? = some '_') :
    Value.field? entries name = none := by
  cases hfield : Value.field? entries name with
  | none => rfl
  | some v =>
      obtain ⟨plain, hsame, hhead⟩ := hplain _ (Value.mem_of_field? hfield)
      obtain rfl : name = plain := Option.some.inj hsame
      exact absurd hname hhead

theorem ruleSetting?_eq_none (name : String) (hname : name.toList.head? = some '_') :
    ruleSetting? entries name = none := by
  rw [ruleSetting?, field?_eq_none_of_isPlainName hplain name hname]
  rfl

theorem environmentRules_of_isPlainName : environmentRules entries = .ok {} := by
  have hnone := ruleSetting?_eq_none hplain
  simp only [environmentRules, hnone "_env_prefix" (by decide),
    hnone "_case_sensitive" (by decide), hnone "_env_ignore_empty" (by decide),
    hnone "_env_nested_delimiter" (by decide), hnone "_env_nested_max_split" (by decide),
    hnone "_env_parse_none_str" (by decide)]
  rfl

theorem all_isNamed_of_isPlainName : entries.all isNamed = true := by
  rw [List.all_eq_true]
  intro entry hentry
  obtain ⟨name, hname, -⟩ := hplain entry hentry
  rw [isNamed, Value.keyText?_eq_some_iff.mp hname]

/-- In a quiet environment, settings are read from such entries alone. -/
theorem ofLayers_of_quiet (hquiet : Quiet environment) :
    ofLayers environment entries =
      (ofEntries (Value.mergeEntries [] entries)).mapError .invalid := by
  have hnone := ruleSetting?_eq_none hplain
  simp only [ofLayers, all_isNamed_of_isPlainName hplain,
    field?_eq_none_of_isPlainName hplain selfName (by decide),
    environmentRules_of_isPlainName hplain, hnone "_env_file" (by decide),
    hnone "_secrets_dir" (by decide), requirePlaces, Bool.not_true, Bool.false_eq_true,
    Option.isSome_none, ↓reduceIte, ok_bind, hquiet.entries_eq_nil, mapError_ok]

end Plain

end TaintTriage.Settings
