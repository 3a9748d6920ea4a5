import TaintTriage.Configuration.Supplied
import TaintTriage.Proofs.AcceptedSpec
import TaintTriage.Proofs.ShownValue

/-!
Specifications that are refused.  What is asked of the parts of a specification is asked in a fixed
order, and of the entries of a list from the left, so that of several faults one is reported; the
names of the characteristics come last.  A specification without faults is accepted.  The same holds
of loosely typed parts as long as the names among them are texts.  What is reported for a fault is
the fault, unless the value in question is too long to be shown.
-/

namespace TaintTriage

section

variable {τ χ : Type}

/-- What is accepted as a relevant type: a type that is no negative class. -/
def FitsType (isNegative : τ → Bool) (supplied : Supplied τ) : Prop :=
  ∃ t, supplied = .expected t ∧ isNegative t = false

def FitsRefinement (supplied : Supplied χ) : Prop :=
  ∃ r, supplied = .expected r

/-- What is asked of the parts of a specification one by one. -/
structure SpecOf.WellFormed (isNegative : τ → Bool) (spec : SpecOf τ χ) : Prop where
  kind : ∃ kind, spec.kind = .expected kind
  knownSource : ∃ rule, spec.knownSource = .expected rule
  types_ne_nil : spec.relevantSinkTypes ≠ []
  types : ∀ supplied ∈ spec.relevantSinkTypes, FitsType isNegative supplied
  refinements : ∀ supplied ∈ spec.refinements, FitsRefinement supplied
  effectiveSource : spec.effectiveSource = .other .null ∨
    ∃ rule, spec.effectiveSource = .expected rule

def SpecOf.refinementNames (nameOf : χ → String) (spec : SpecOf τ χ) : List String :=
  (spec.refinements.filterMap Supplied.expected?).map nameOf

/-- The names of all characteristics of a specification, the shared ones first. -/
def SpecOf.names (nameOf : χ → String) (spec : SpecOf τ χ) : List String :=
  Characteristic.shipped.map (·.name) ++ spec.refinementNames nameOf

/-- What is asked of a specification: each part is in order, and the names of the refinements are
told apart and are not those of shared characteristics. -/
structure SpecOf.IsAccepted (isNegative : τ → Bool) (nameOf : χ → String) (spec : SpecOf τ χ) :
    Prop extends spec.WellFormed isNegative where
  names_nodup : (spec.refinementNames nameOf).Nodup
  names_new : ∀ name ∈ spec.refinementNames nameOf,
    name ∉ Characteristic.shipped.map (·.name)

/-- The first fault among the parts of a specification.  Whatever is asked earlier is in order. -/
inductive SpecOf.PartFault (isNegative : τ → Bool) (spec : SpecOf τ χ) :
    Configuration.Fault → Prop where
  | unknownKind {v : Value} (hkind : spec.kind = .other v) :
      PartFault isNegative spec (.unknownKind v)
  | noKnownSource {kind : QueryKind} {v : Value} (hkind : spec.kind = .expected kind)
      (hsource : spec.knownSource = .other v) : PartFault isNegative spec (.noKnownSource kind)
  | noSinkTypes {kind : QueryKind} {rule : Rule} (hkind : spec.kind = .expected kind)
      (hsource : spec.knownSource = .expected rule) (htypes : spec.relevantSinkTypes = []) :
      PartFault isNegative spec (.noSinkTypes kind)
  | notAType {kind : QueryKind} {rule : Rule} {i : Nat} {v : Value}
      (hkind : spec.kind = .expected kind) (hsource : spec.knownSource = .expected rule)
      (htype : spec.relevantSinkTypes[i]? = some (.other v))
      (hbefore : ∀ j < i, ∀ earlier, spec.relevantSinkTypes[j]? = some earlier →
        FitsType isNegative earlier) :
      PartFault isNegative spec (.notAType kind v)
  | negativeType {kind : QueryKind} {rule : Rule} {i : Nat} {t : τ}
      (hkind : spec.kind = .expected kind) (hsource : spec.knownSource = .expected rule)
      (htype : spec.relevantSinkTypes[i]? = some (.expected t)) (hnegative : isNegative t = true)
      (hbefore : ∀ j < i, ∀ earlier, spec.relevantSinkTypes[j]? = some earlier →
        FitsType isNegative earlier) :
      PartFault isNegative spec (.negativeType kind)
  | notACharacteristic {kind : QueryKind} {rule : Rule} {i : Nat} {v : Value}
      (hkind : spec.kind = .expected kind) (hsource : spec.knownSource = .expected rule)
      (hne : spec.relevantSinkTypes ≠ [])
      (htypes : ∀ supplied ∈ spec.relevantSinkTypes, FitsType isNegative supplied)
      (hrefinement : spec.refinements[i]? = some (.other v))
      (hbefore : ∀ j < i, ∀ earlier, spec.refinements[j]? = some earlier →
        FitsRefinement earlier) :
      PartFault isNegative spec (.notACharacteristic kind v)
  | badEffectiveSource {kind : QueryKind} {rule : Rule} {v : Value}
      (hkind : spec.kind = .expected kind) (hsource : spec.knownSource = .expected rule)
      (hne : spec.relevantSinkTypes ≠ [])
      (htypes : ∀ supplied ∈ spec.relevantSinkTypes, FitsType isNegative supplied)
      (hrefinements : ∀ supplied ∈ spec.refinements, FitsRefinement supplied)
      (heffective : spec.effectiveSource = .other v) (hv : v ≠ .null) :
      PartFault isNegative spec (.badEffectiveSource kind)

/-- The first fault of a specification.  A name that stands a second time is one only where all
parts are in order. -/
def SpecOf.FirstFault (isNegative : τ → Bool) (nameOf : χ → String) (spec : SpecOf τ χ)
    (fault : Configuration.Fault) : Prop :=
  spec.PartFault isNegative fault ∨
    spec.WellFormed isNegative ∧ ∃ i name, (spec.names nameOf)[i]? = some name ∧
      name ∈ (spec.names nameOf).take i ∧ ((spec.names nameOf).take i).Nodup ∧
      fault = .duplicateCharacteristic name

end

namespace Configuration

/-- The value that a fault shows, if it shows one, is short enough for that. -/
def Fault.showsShort : Fault → Bool
  | .unknownKind v | .notAType _ v | .notACharacteristic _ v => v.isShort
  | _ => true

theorem raised_eq_of_message {v : Value} {fault : Fault} (wording : String → String)
    (h : fault.message = do return wording (← v.literal)) :
    fault.raised = if v.isShort then fault else .unusable .unwrittenInteger := by
  rw [Fault.raised, h]
  cases hshort : v.isShort with
  | true =>
      obtain ⟨text, htext⟩ := v.literal_shownIf.exists_iff.mpr hshort
      rw [htext]
      rfl
  | false =>
      rw [v.literal_shownIf.eq_error_iff.mpr hshort]
      rfl

theorem Fault.raised_eq (fault : Fault) :
    fault.raised = if fault.showsShort then fault else .unusable .unwrittenInteger := by
  cases fault with
  | unknownKind v => exact raised_eq_of_message ("Unknown query kind: " ++ ·) rfl
  | notAType kind v =>
      exact raised_eq_of_message (fun text =>
        "Query " ++ kind.id ++ " lists " ++ text ++ ", which is not an endpoint type") rfl
  | notACharacteristic kind v =>
      exact raised_eq_of_message (fun text =>
        "Query " ++ kind.id ++ " has a refinement that is not a characteristic: " ++ text) rfl
  | _ => rfl

section Parts

variable {τ χ : Type} {isNegative : τ → Bool} {spec : SpecOf τ χ} {kind : QueryKind} {rule : Rule}
variable {fault : Fault}

theorem ne_nil_of_getElem? {α : Type} {xs : List α} {i : Nat} {x : α} (h : xs[i]? = some x) :
    xs ≠ [] :=
  List.ne_nil_of_mem (List.mem_of_getElem? h)

theorem eq_expected_of_checkType {supplied : Supplied τ}
    {checked : { t : τ // isNegative t = false }}
    (h : checkType isNegative kind supplied = .ok checked) : supplied = .expected checked.1 := by
  cases supplied with
  | other v => exact nomatch h
  | expected t =>
      rw [checkType] at h
      split at h
      next => exact Except.ok.inj h ▸ rfl
      next => exact nomatch h

theorem exists_checkType_iff {supplied : Supplied τ} :
    (∃ checked, checkType isNegative kind supplied = .ok checked) ↔
      FitsType isNegative supplied := by
  constructor
  · intro ⟨checked, h⟩
    exact ⟨checked.1, eq_expected_of_checkType h, checked.2⟩
  · intro ⟨t, ht, hpositive⟩
    exact ⟨⟨t, hpositive⟩, by rw [ht, checkType, dif_pos hpositive]⟩

theorem checkType_eq_error_iff {supplied : Supplied τ} :
    checkType isNegative kind supplied = .error fault ↔
      (∃ v, supplied = .other v ∧ fault = (Fault.notAType kind v).raised) ∨
        ∃ t, supplied = .expected t ∧ isNegative t = true ∧ fault = .negativeType kind := by
  cases supplied with
  | other v =>
      simp only [checkType, Except.error.injEq, Supplied.other.injEq, reduceCtorEq, false_and,
        exists_false, or_false, exists_eq_left']
      exact eq_comm
  | expected t =>
      cases ht : isNegative t with
      | false => simp [checkType, ht]
      | true =>
          simp only [checkType, ht, Supplied.expected.injEq, reduceCtorEq, ↓reduceDIte,
            Except.error.injEq, false_and, exists_false, false_or, exists_eq_left', true_and]
          exact eq_comm

theorem exists_checkRefinement_iff {supplied : Supplied χ} :
    (∃ r, checkRefinement kind supplied = .ok r) ↔ FitsRefinement supplied := by
  cases supplied <;> simp [checkRefinement, FitsRefinement]

theorem checkRefinement_eq_error_iff {supplied : Supplied χ} :
    checkRefinement kind supplied = .error fault ↔
      ∃ v, supplied = .other v ∧ fault = (Fault.notACharacteristic kind v).raised := by
  cases supplied <;> simp [checkRefinement, eq_comm]

theorem exists_checkEffectiveSource_iff {supplied : Supplied Rule} :
    (∃ checked, checkEffectiveSource kind supplied = .ok checked) ↔
      supplied = .other .null ∨ ∃ rule, supplied = .expected rule := by
  cases supplied with
  | expected rule => simp [checkEffectiveSource]
  | other v => cases v <;> simp [checkEffectiveSource]

theorem checkEffectiveSource_eq_error_iff {supplied : Supplied Rule} :
    checkEffectiveSource kind supplied = .error fault ↔
      ∃ v, supplied = .other v ∧ v ≠ .null ∧ fault = .badEffectiveSource kind := by
  cases supplied with
  | expected rule => simp [checkEffectiveSource]
  | other v => cases v <;> simp [checkEffectiveSource, eq_comm]

theorem exists_checkTypes_iff {types : List (Supplied τ)} :
    (∃ checked, types.mapM (checkType isNegative kind) = .ok checked) ↔
      ∀ supplied ∈ types, FitsType isNegative supplied := by
  simp only [exists_mapM_eq_ok_iff, exists_checkType_iff]

theorem checkTypes_eq_error_iff {types : List (Supplied τ)} :
    types.mapM (checkType isNegative kind) = .error fault ↔
      ∃ (i : Nat) (supplied : Supplied τ), types[i]? = some supplied ∧
        ((∃ v, supplied = .other v ∧ fault = (Fault.notAType kind v).raised) ∨
          ∃ t, supplied = .expected t ∧ isNegative t = true ∧ fault = .negativeType kind) ∧
        ∀ j < i, ∀ earlier, types[j]? = some earlier → FitsType isNegative earlier := by
  simp only [mapM_eq_error_iff, checkType_eq_error_iff, exists_checkType_iff]

theorem exists_checkRefinements_iff {refinements : List (Supplied χ)} :
    (∃ checked, refinements.mapM (checkRefinement kind) = .ok checked) ↔
      ∀ supplied ∈ refinements, FitsRefinement supplied := by
  simp only [exists_mapM_eq_ok_iff, exists_checkRefinement_iff]

theorem checkRefinements_eq_error_iff {refinements : List (Supplied χ)} :
    refinements.mapM (checkRefinement kind) = .error fault ↔
      ∃ (i : Nat) (supplied : Supplied χ), refinements[i]? = some supplied ∧
        (∃ v, supplied = .other v ∧ fault = (Fault.notACharacteristic kind v).raised) ∧
        ∀ j < i, ∀ earlier, refinements[j]? = some earlier → FitsRefinement earlier := by
  simp only [mapM_eq_error_iff, checkRefinement_eq_error_iff, exists_checkRefinement_iff]

theorem exists_checkParts_iff :
    (∃ parts, checkParts isNegative spec = .ok parts) ↔ spec.WellFormed isNegative := by
  constructor
  · intro ⟨parts, hparts⟩
    obtain ⟨hkind, hsource, htypes, hrefinements, heffective⟩ := checkParts_eq_ok_iff.mp hparts
    refine ⟨⟨_, hkind⟩, ⟨_, hsource⟩, ?_, exists_checkTypes_iff.mp ⟨_, htypes⟩,
      exists_checkRefinements_iff.mp ⟨_, hrefinements⟩,
      exists_checkEffectiveSource_iff.mp ⟨_, heffective⟩⟩
    intro hnil
    rw [hnil] at htypes
    exact parts.types_ne_nil (Except.ok.inj htypes).symm
  · intro h
    obtain ⟨kind, hkind⟩ := h.kind
    obtain ⟨rule, hsource⟩ := h.knownSource
    obtain ⟨types, htypes⟩ :
        ∃ types, spec.relevantSinkTypes.mapM (checkType isNegative kind) = .ok types :=
      exists_checkTypes_iff.mpr h.types
    obtain ⟨refinements, hrefinements⟩ :
        ∃ refinements, spec.refinements.mapM (checkRefinement kind) = .ok refinements :=
      exists_checkRefinements_iff.mpr h.refinements
    obtain ⟨effectiveSource, heffective⟩ :
        ∃ checked, checkEffectiveSource kind spec.effectiveSource = .ok checked :=
      exists_checkEffectiveSource_iff.mpr h.effectiveSource
    have hne : types ≠ [] := by
      rintro rfl
      exact h.types_ne_nil (List.map_eq_nil_iff.mp (mapM_eq_ok_iff.mp htypes))
    exact ⟨⟨kind, rule, types, refinements, effectiveSource, hne⟩,
      checkParts_eq_ok_iff.mpr ⟨hkind, hsource, htypes, hrefinements, heffective⟩⟩

/-- Where there is something in the first places, the lists and the effective source decide. -/
theorem checkParts_eq_error_iff_of_expected (hkind : spec.kind = .expected kind)
    (hsource : spec.knownSource = .expected rule) (hne : spec.relevantSinkTypes ≠ []) :
    checkParts isNegative spec = .error fault ↔
      (do
        let _ ← spec.relevantSinkTypes.mapM (checkType isNegative kind)
        let _ ← spec.refinements.mapM (checkRefinement kind)
        checkEffectiveSource kind spec.effectiveSource) = .error fault := by
  rw [checkParts, hkind, hsource]
  cases htypes : spec.relevantSinkTypes with
  | nil => exact absurd htypes hne
  | cons first others =>
      dsimp only
      rw [List.mapM_cons]
      cases checkType isNegative kind first with
      | error e => simp
      | ok head =>
          cases others.mapM (checkType isNegative kind) with
          | error e => simp
          | ok tail =>
              cases spec.refinements.mapM (checkRefinement kind) with
              | error e => simp
              | ok refinements =>
                  cases checkEffectiveSource kind spec.effectiveSource <;> simp

theorem exists_partFault_of_checkParts {reported : Fault}
    (h : checkParts isNegative spec = .error reported) :
    ∃ fault, spec.PartFault isNegative fault ∧ reported = fault.raised := by
  cases hkind : spec.kind with
  | other v =>
      rw [checkParts, hkind] at h
      exact ⟨_, .unknownKind hkind, (Except.error.inj h).symm⟩
  | expected kind =>
      cases hsource : spec.knownSource with
      | other v =>
          rw [checkParts, hkind, hsource] at h
          exact ⟨_, .noKnownSource hkind hsource, (Except.error.inj h).symm⟩
      | expected rule =>
          by_cases hne : spec.relevantSinkTypes = []
          · rw [checkParts, hkind, hsource, hne] at h
            exact ⟨_, .noSinkTypes hkind hsource hne, (Except.error.inj h).symm⟩
          rw [checkParts_eq_error_iff_of_expected hkind hsource hne] at h
          -- The first of the three checks that are left and that fails decides.
          rcases bind_eq_error_iff.mp h with htypes | ⟨types, htypes, h⟩
          · rcases checkTypes_eq_error_iff.mp htypes with ⟨i, supplied, hat, hfault, hbefore⟩
            rcases hfault with ⟨v, rfl, hraised⟩ | ⟨t, rfl, hnegative, hraised⟩
            · exact ⟨_, .notAType hkind hsource hat hbefore, hraised⟩
            · exact ⟨_, .negativeType hkind hsource hat hnegative hbefore, hraised⟩
          have hfit := exists_checkTypes_iff.mp ⟨types, htypes⟩
          rcases bind_eq_error_iff.mp h with hrefinements | ⟨refinements, hrefinements, h⟩
          · rcases checkRefinements_eq_error_iff.mp hrefinements with
              ⟨i, supplied, hat, ⟨v, rfl, hraised⟩, hbefore⟩
            exact ⟨_, .notACharacteristic hkind hsource hne hfit hat hbefore, hraised⟩
          have hrefined := exists_checkRefinements_iff.mp ⟨refinements, hrefinements⟩
          rcases checkEffectiveSource_eq_error_iff.mp h with ⟨v, heffective, hv, hraised⟩
          exact ⟨_, .badEffectiveSource hkind hsource hne hfit hrefined heffective hv, hraised⟩

theorem checkParts_of_partFault (h : spec.PartFault isNegative fault) :
    checkParts isNegative spec = .error fault.raised := by
  cases h with
  | unknownKind hkind => rw [checkParts, hkind]
  | noKnownSource hkind hsource =>
      rw [checkParts, hkind, hsource]
      rfl
  | noSinkTypes hkind hsource htypes =>
      rw [checkParts, hkind, hsource, htypes]
      rfl
  | notAType hkind hsource hat hbefore =>
      apply (checkParts_eq_error_iff_of_expected hkind hsource (ne_nil_of_getElem? hat)).mpr
      apply bind_eq_error_iff.mpr
      exact Or.inl (checkTypes_eq_error_iff.mpr ⟨_, _, hat, Or.inl ⟨_, rfl, rfl⟩, hbefore⟩)
  | negativeType hkind hsource hat hnegative hbefore =>
      apply (checkParts_eq_error_iff_of_expected hkind hsource (ne_nil_of_getElem? hat)).mpr
      apply bind_eq_error_iff.mpr
      exact Or.inl
        (checkTypes_eq_error_iff.mpr ⟨_, _, hat, Or.inr ⟨_, rfl, hnegative, rfl⟩, hbefore⟩)
  | notACharacteristic hkind hsource hne htypes hat hbefore =>
      obtain ⟨types, htypes⟩ := exists_checkTypes_iff.mpr htypes
      apply (checkParts_eq_error_iff_of_expected hkind hsource hne).mpr
      rw [htypes, ok_bind]
      apply bind_eq_error_iff.mpr
      exact Or.inl (checkRefinements_eq_error_iff.mpr ⟨_, _, hat, ⟨_, rfl, rfl⟩, hbefore⟩)
  | badEffectiveSource hkind hsource hne htypes hrefinements heffective hv =>
      obtain ⟨types, htypes⟩ := exists_checkTypes_iff.mpr htypes
      obtain ⟨refinements, hrefinements⟩ := exists_checkRefinements_iff.mpr hrefinements
      apply (checkParts_eq_error_iff_of_expected hkind hsource hne).mpr
      rw [htypes, ok_bind, hrefinements, ok_bind]
      exact checkEffectiveSource_eq_error_iff.mpr ⟨_, heffective, hv, rfl⟩

/-- A specification is refused for the first fault among its parts, if there is one. -/
theorem checkParts_eq_error_iff {reported : Fault} :
    checkParts isNegative spec = .error reported ↔
      ∃ fault, spec.PartFault isNegative fault ∧ reported = fault.raised := by
  refine ⟨exists_partFault_of_checkParts, ?_⟩
  rintro ⟨fault, hfault, rfl⟩
  exact checkParts_of_partFault hfault

/-- The names of the refinements are those of the checked parts. -/
theorem refinementNames_of_checkParts {parts : Parts isNegative χ} (nameOf : χ → String)
    (h : checkParts isNegative spec = .ok parts) :
    spec.refinementNames nameOf = parts.refinements.map nameOf := by
  obtain ⟨-, -, -, hrefinements, -⟩ := checkParts_eq_ok_iff.mp h
  have hexpected : parts.refinements.map some = spec.refinements.map Supplied.expected? := by
    apply map_eq_map_of_mapM hrefinements
    intro supplied r hr
    cases supplied with
    | other v => exact nomatch hr
    | expected c => exact congrArg some (Except.ok.inj hr).symm
  have hfiltered := congrArg (List.filterMap id) hexpected
  rw [List.filterMap_map, List.filterMap_map] at hfiltered
  rw [SpecOf.refinementNames]
  exact congrArg (List.map nameOf) (hfiltered.symm.trans List.filterMap_some)

end Parts

end Configuration

/-- The verdict on a specification: its parts are checked, then the names of its characteristics. -/
def SpecOf.verdict {τ χ : Type} (isNegative : τ → Bool) (nameOf : χ → String) (spec : SpecOf τ χ) :
    Except Configuration.Fault Unit := do
  let _ ← Configuration.checkParts isNegative spec
  match firstRepeat? [] (spec.names nameOf) with
  | some name => .error (.duplicateCharacteristic name)
  | none => .ok ()

section Verdict

variable {τ χ : Type} {isNegative : τ → Bool} {nameOf : χ → String} {spec : SpecOf τ χ}

theorem SpecOf.verdict_eq_error_iff {reported : Configuration.Fault} :
    spec.verdict isNegative nameOf = .error reported ↔
      ∃ fault, spec.FirstFault isNegative nameOf fault ∧ reported = fault.raised := by
  simp only [verdict, bind_eq_error_iff, Configuration.checkParts_eq_error_iff, FirstFault,
    ← Configuration.exists_checkParts_iff]
  constructor
  · rintro (⟨fault, hfault, hraised⟩ | ⟨parts, hparts, h⟩)
    · exact ⟨fault, Or.inl hfault, hraised⟩
    · split at h
      next name hrepeat =>
        obtain ⟨i, hat, hbefore, hnodup⟩ := firstRepeat?_eq_some_iff.mp hrepeat
        exact ⟨_, Or.inr ⟨⟨parts, hparts⟩, i, name, hat, hbefore, hnodup, rfl⟩,
          (Except.error.inj h).symm⟩
      next => exact nomatch h
  · rintro ⟨fault, hfault | ⟨⟨parts, hparts⟩, i, name, hat, hbefore, hnodup, rfl⟩, hraised⟩
    · exact Or.inl ⟨fault, hfault, hraised⟩
    · refine Or.inr ⟨parts, hparts, ?_⟩
      rw [firstRepeat?_eq_some_iff.mpr ⟨i, hat, hbefore, hnodup⟩, hraised]
      rfl

theorem names_nodup_shipped : (Characteristic.shipped.map (·.name)).Nodup := by
  decide +kernel

theorem SpecOf.verdict_eq_ok_iff :
    spec.verdict isNegative nameOf = .ok () ↔ spec.IsAccepted isNegative nameOf := by
  have hnames : firstRepeat? [] (spec.names nameOf) = none ↔
      (spec.refinementNames nameOf).Nodup ∧
        ∀ name ∈ spec.refinementNames nameOf, name ∉ Characteristic.shipped.map (·.name) := by
    rw [firstRepeat?_eq_none, names, List.nodup_append]
    constructor
    · intro ⟨⟨_, hnodup, hapart⟩, _⟩
      exact ⟨hnodup, fun name hname hshared => hapart name hshared name hname rfl⟩
    · intro ⟨hnodup, hnew⟩
      refine ⟨⟨names_nodup_shipped, hnodup, ?_⟩, fun _ _ => List.not_mem_nil⟩
      intro shared hshared name hname heq
      exact hnew name hname (heq ▸ hshared)
  rw [verdict, bind_eq_ok_iff]
  constructor
  · intro ⟨parts, hparts, h⟩
    split at h
    next => exact nomatch h
    next hnone =>
      have ⟨hnodup, hnew⟩ := hnames.mp hnone
      exact ⟨Configuration.exists_checkParts_iff.mp ⟨parts, hparts⟩, hnodup, hnew⟩
  · intro h
    obtain ⟨parts, hparts⟩ := Configuration.exists_checkParts_iff.mpr h.toWellFormed
    refine ⟨parts, hparts, ?_⟩
    rw [hnames.mpr ⟨h.names_nodup, h.names_new⟩]

end Verdict

namespace Configuration

theorem map_ofSpec (spec : QuerySpec) :
    (ofSpec spec).map (fun _ => ()) = spec.verdict EndpointType.isNegative (·.name) := by
  rw [ofSpec, SpecOf.verdict]
  cases hparts : checkParts EndpointType.isNegative spec with
  | error fault => rfl
  | ok parts =>
      have hnames : (Characteristic.shipped ++ parts.refinements).map (·.name) =
          spec.names (·.name) := by
        rw [SpecOf.names, refinementNames_of_checkParts _ hparts, List.map_append]
      rw [ok_bind, ok_bind]
      split
      next name hrepeat =>
        rw [hnames] at hrepeat
        rw [hrepeat]
        rfl
      next hnone =>
        rw [hnames] at hnone
        rw [hnone]
        rfl

theorem failsQuietly_build (spec : QuerySpec) : (build spec).FailsQuietly := by
  apply Logged.failsQuietly_ofExcept_bind
  intro c
  exact Logged.failsQuietly_of_ok rfl

theorem outcome_build (spec : QuerySpec) : (build spec).outcome = ofSpec spec := by
  rw [build]
  cases ofSpec spec <;> rfl

end Configuration

/-- The names among loosely typed parts are texts. -/
structure SpecOf.HasTextNames (spec : SuppliedSpec) : Prop where
  types : ∀ e, .expected e ∈ spec.relevantSinkTypes → ∃ name, e.name = .str name
  refinements : ∀ c, .expected c ∈ spec.refinements → ∃ name, c.name = .str name

namespace SuppliedCharacteristic

/-- Texts are told apart as the names of characteristics are. -/
theorem validate_map_expected {characteristics : List SuppliedCharacteristic}
    {names seen : List String} (h : characteristics.map (·.name) = names.map .str) :
    validate (seen.map .str) (characteristics.map .expected) =
      match firstRepeat? seen names with
      | some name => .error (.unfit (.duplicate name))
      | none => .ok () := by
  induction characteristics generalizing names seen with
  | nil =>
      obtain rfl := List.map_eq_nil_iff.mp h.symm
      rfl
  | cons c rest ih =>
      cases names with
      | nil => exact nomatch h
      | cons name others =>
          have hname : c.name = .str name := (List.cons.inj h).1
          have hhashable : (Value.str name).requireHashable = .ok () := rfl
          have hseen : (seen.map Value.str).any (Value.str name).equals = seen.contains name := by
            rw [List.any_map, List.contains_eq_any_beq]
            rfl
          simp only [List.map_cons, validate, nameOf, hname, hhashable, hseen, firstRepeat?,
            mapError_ok, ok_bind]
          by_cases hrepeat : seen.contains name = true
          · rw [if_pos hrepeat, if_pos hrepeat]
            rfl
          · rw [if_neg hrepeat, if_neg hrepeat]
            exact @ih others (name :: seen) (List.cons.inj h).2

end SuppliedCharacteristic

theorem exists_joined_str (mark : String) (names : List String) (position : Nat) :
    ∃ text, Value.joined mark position (names.map .str) = .ok text := by
  induction names generalizing position with
  | nil => exact ⟨"", rfl⟩
  | cons name rest ih =>
      obtain ⟨text, htext⟩ := ih (position + 1)
      cases rest with
      | nil => exact ⟨name, rfl⟩
      | cons next others =>
          refine ⟨name ++ mark ++ text, ?_⟩
          rw [List.map_cons, List.map_cons, Value.joined, ← List.map_cons, htext]
          · rfl
          · simp

namespace SuppliedConfiguration

open EndpointType (CatalogEntry)

variable {spec : SuppliedSpec}

/-- The fault of loosely typed parts that stands for a fault of a specification. -/
def Fault.ofFault : Configuration.Fault → Fault
  | .duplicateCharacteristic name => .characteristics (.unfit (.duplicate name))
  | fault => .unfit fault

theorem map_name_refinements (h : spec.HasTextNames)
    {parts : Configuration.Parts CatalogEntry.isNegative SuppliedCharacteristic}
    (hparts : Configuration.checkParts CatalogEntry.isNegative spec = .ok parts) :
    parts.refinements.map (·.name) = (spec.refinementNames (·.characteristic.name)).map .str := by
  rw [Configuration.refinementNames_of_checkParts _ hparts, List.map_map]
  obtain ⟨-, -, -, hrefinements, -⟩ := Configuration.checkParts_eq_ok_iff.mp hparts
  refine List.map_congr_left fun c hc => ?_
  obtain ⟨supplied, hsupplied, hchecked⟩ := exists_of_mem_mapM hrefinements hc
  cases supplied with
  | other v => exact nomatch hchecked
  | expected d =>
      obtain rfl := Except.ok.inj hchecked
      obtain ⟨name, hname⟩ := h.refinements d hsupplied
      rw [Function.comp, SuppliedCharacteristic.characteristic, hname]
      rfl

theorem map_name_types (h : spec.HasTextNames)
    {parts : Configuration.Parts CatalogEntry.isNegative SuppliedCharacteristic}
    (hparts : Configuration.checkParts CatalogEntry.isNegative spec = .ok parts) :
    (parts.types.map (·.1)).map (·.name) =
      (parts.types.map fun t => Value.textOrReason t.1.name.display).map .str := by
  obtain ⟨-, -, htypes, -, -⟩ := Configuration.checkParts_eq_ok_iff.mp hparts
  rw [List.map_map, List.map_map]
  refine List.map_congr_left fun checked hchecked => ?_
  obtain ⟨supplied, hsupplied, hfits⟩ := exists_of_mem_mapM htypes hchecked
  obtain rfl := Configuration.eq_expected_of_checkType hfits
  obtain ⟨name, hname⟩ := h.types checked.1 hsupplied
  rw [Function.comp, Function.comp, hname]
  rfl

theorem ofFault_raised {fault : Configuration.Fault}
    (h : spec.PartFault CatalogEntry.isNegative fault) :
    Fault.ofFault fault.raised = .unfit fault.raised := by
  rw [fault.raised_eq]
  split
  · cases h <;> rfl
  · rfl

/-- What is loosely typed is checked as a specification is, as far as names are texts. -/
theorem map_outcome_build (h : spec.HasTextNames) :
    (build spec).outcome.map (fun _ => ()) =
      (spec.verdict CatalogEntry.isNegative (·.characteristic.name)).mapError .ofFault := by
  rw [build, SpecOf.verdict]
  cases hparts : Configuration.checkParts CatalogEntry.isNegative spec with
  | error reported =>
      obtain ⟨fault, hfault, rfl⟩ := Configuration.checkParts_eq_error_iff.mp hparts
      exact congrArg Except.error (ofFault_raised hfault).symm
  | ok parts =>
      have hnames : (SuppliedCharacteristic.shipped ++ parts.refinements).map (·.name) =
          (spec.names (·.characteristic.name)).map .str := by
        rw [List.map_append, SpecOf.names, List.map_append, map_name_refinements h hparts]
        rfl
      obtain ⟨relevant, hrelevant⟩ := exists_joined_str Configuration.typeMark
        (parts.types.map fun t => Value.textOrReason t.1.name.display) 0
      rw [← map_name_types h hparts] at hrelevant
      have hvalid := @SuppliedCharacteristic.validate_map_expected _ _ [] hnames
      rw [List.map_nil] at hvalid
      simp only [mapError_ok, Logged.outcome_bind, Logged.outcome_ofExcept, ok_bind, hvalid,
        hrelevant, Logged.outcome_write, Logged.outcome_pure]
      cases firstRepeat? [] (spec.names (·.characteristic.name)) <;> rfl

/-- All checks come before the record. -/
theorem failsQuietly_build (spec : SuppliedSpec) : (build spec).FailsQuietly := by
  apply Logged.failsQuietly_ofExcept_bind
  intro parts
  apply Logged.failsQuietly_ofExcept_bind
  intro _
  apply Logged.failsQuietly_ofExcept_bind
  intro relevant
  exact Logged.failsQuietly_of_ok rfl

end SuppliedConfiguration

/-- A specification whose kind is an integer that is too long to be shown. -/
def longKind : SuppliedSpec where
  kind := .other (.int Value.firstLong)
  knownSource := .expected fun _ => .ok false
  relevantSinkTypes := [.expected EndpointType.xssSink.toEntry]
  refinements := []
  effectiveSource := .other .null

/-- A specification with several faults: the negative class behind a number among the types, a
refinement that is none and an effective source that is none. -/
def severalFaults : SuppliedSpec where
  kind := .expected .xss
  knownSource := .expected fun _ => .ok false
  relevantSinkTypes :=
    [.expected EndpointType.xssSink.toEntry, .other (.int 7),
     .expected EndpointType.negative.toEntry]
  refinements := [.other (.str "filter")]
  effectiveSource := .other (.bool true)

end TaintTriage
