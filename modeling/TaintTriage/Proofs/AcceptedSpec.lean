import TaintTriage.Configuration
import TaintTriage.Proofs.Outcome

/-!
Specifications that are accepted.  The configuration of one holds the parts that were checked, and
nothing is asked of them together but that the names of all characteristics are distinct; so one
more refinement is accepted if its name is new.
-/

namespace TaintTriage

/-- A specification with one more refinement. -/
def SpecOf.refinedBy (spec : QuerySpec) (r : Characteristic) : QuerySpec :=
  { spec with refinements := spec.refinements ++ [.expected r] }

/-- A query for cross-site scripting with some relevant types, and nothing else of its own. -/
def QuerySpec.ofTypes (types : List EndpointType) : QuerySpec where
  kind := .expected .xss
  knownSource := .expected fun _ => .ok false
  relevantSinkTypes := types.map .expected

namespace Configuration

variable {spec : QuerySpec} {c : Configuration}

/-- A configuration with one more refinement, whose name is new. -/
def refinedBy (c : Configuration) (r : Characteristic)
    (h : r.name ∉ c.characteristics.map (·.name)) : Configuration :=
  { c with
    refinements := c.refinements ++ [r]
    names_distinct := by
      rw [← List.append_assoc, List.map_append, List.nodup_append]
      refine ⟨c.names_distinct, by simp, ?_⟩
      intro name hname other hother heq
      rw [List.map_singleton, List.mem_singleton] at hother
      exact h (hother ▸ heq ▸ hname) }

/-- The configuration of a specification has the parts that were checked. -/
theorem ofSpec_eq_ok_iff :
    ofSpec spec = .ok c ↔
      ∃ parts, checkParts EndpointType.isNegative spec = .ok parts ∧ parts.kind = c.kind ∧
        parts.knownSource = c.knownSource ∧ parts.types.map (·.1) = c.relevantSinkTypes ∧
        parts.refinements = c.refinements ∧ parts.effectiveSource = c.effectiveSource ∧
        spec.sanitizerClasses = c.sanitizerClasses ∧ spec.flowStepTags = c.flowStepTags ∧
        spec.description = c.description := by
  constructor
  · intro h
    obtain ⟨parts, hparts, h⟩ := bind_eq_ok_iff.mp h
    split at h
    · exact nomatch h
    · obtain rfl := Except.ok.inj h
      exact ⟨parts, hparts, rfl, rfl, rfl, rfl, rfl, rfl, rfl, rfl⟩
  · rintro ⟨parts, hparts, hkind, hsource, htypes, hrefinements, heffective, hsanitizers, htags,
      hdescription⟩
    refine bind_eq_ok_iff.mpr ⟨parts, hparts, ?_⟩
    have hdistinct : firstRepeat? []
        ((Characteristic.shipped ++ parts.refinements).map (·.name)) = none := by
      rw [firstRepeat?_eq_none, hrefinements]
      exact ⟨c.names_distinct, fun _ _ => List.not_mem_nil⟩
    split
    · rename_i name hrepeat
      exact nomatch hdistinct.symm.trans hrepeat
    · cases c
      simp_all

/-- The parts of a specification, whatever its types and characteristics are, are checked with
success exactly if each of them is. -/
theorem checkParts_eq_ok_iff {τ χ : Type} {isNegative : τ → Bool} {spec : SpecOf τ χ}
    {parts : Parts isNegative χ} :
    checkParts isNegative spec = .ok parts ↔
      spec.kind = .expected parts.kind ∧ spec.knownSource = .expected parts.knownSource ∧
        spec.relevantSinkTypes.mapM (checkType isNegative parts.kind) = .ok parts.types ∧
        spec.refinements.mapM (checkRefinement parts.kind) = .ok parts.refinements ∧
        checkEffectiveSource parts.kind spec.effectiveSource = .ok parts.effectiveSource := by
  constructor
  · intro h
    rw [checkParts] at h
    cases hkind : spec.kind with
    | other v =>
        rw [hkind] at h
        exact nomatch h
    | expected kind =>
        cases hsource : spec.knownSource with
        | other v =>
            rw [hkind, hsource] at h
            exact nomatch h
        | expected knownSource =>
            cases htypes : spec.relevantSinkTypes with
            | nil =>
                rw [hkind, hsource, htypes] at h
                exact nomatch h
            | cons first others =>
                rw [hkind, hsource, htypes] at h
                obtain ⟨head, hhead, h⟩ := bind_eq_ok_iff.mp h
                obtain ⟨tail, htail, h⟩ := bind_eq_ok_iff.mp h
                obtain ⟨refinements, hrefinements, h⟩ := bind_eq_ok_iff.mp h
                obtain ⟨effectiveSource, heffective, h⟩ := bind_eq_ok_iff.mp h
                obtain rfl := Except.ok.inj h
                refine ⟨rfl, rfl, ?_, hrefinements, heffective⟩
                rw [List.mapM_cons, hhead, ok_bind, htail]
                rfl
  · obtain ⟨kind, knownSource, types, refinements, effectiveSource, hne⟩ := parts
    rintro ⟨hkind, hsource, htypes, hrefinements, heffective⟩
    dsimp only at hkind hsource htypes hrefinements heffective
    rw [checkParts, hkind, hsource]
    cases hsupplied : spec.relevantSinkTypes with
    | nil =>
        rw [hsupplied] at htypes
        exact absurd (Except.ok.inj htypes).symm hne
    | cons first others =>
        rw [hsupplied, List.mapM_cons] at htypes
        obtain ⟨head, hhead, htypes⟩ := bind_eq_ok_iff.mp htypes
        obtain ⟨tail, htail, htypes⟩ := bind_eq_ok_iff.mp htypes
        obtain rfl := Except.ok.inj htypes
        simp only [hhead, htail, hrefinements, heffective, ok_bind]
        rfl

/-- One more refinement is checked after the others, and accepted. -/
theorem checkParts_refinedBy {parts : Parts EndpointType.isNegative Characteristic}
    {r : Characteristic} (h : checkParts EndpointType.isNegative spec = .ok parts) :
    checkParts EndpointType.isNegative (spec.refinedBy r) =
      .ok { parts with refinements := parts.refinements ++ [r] } := by
  obtain ⟨hkind, hsource, htypes, hrefinements, heffective⟩ := checkParts_eq_ok_iff.mp h
  refine checkParts_eq_ok_iff.mpr ⟨hkind, hsource, htypes, ?_, heffective⟩
  rw [SpecOf.refinedBy, List.mapM_append, hrefinements]
  rfl

/-- An accepted specification with one more refinement is accepted if the name is new. -/
theorem ofSpec_refinedBy {r : Characteristic} (h : ofSpec spec = .ok c)
    (hnew : r.name ∉ c.characteristics.map (·.name)) :
    ofSpec (spec.refinedBy r) = .ok (c.refinedBy r hnew) := by
  obtain ⟨parts, hparts, hkind, hsource, htypes, hrefinements, heffective, hrest⟩ :=
    ofSpec_eq_ok_iff.mp h
  refine ofSpec_eq_ok_iff.mpr ⟨_, checkParts_refinedBy hparts, hkind, hsource, htypes, ?_,
    heffective, hrest⟩
  exact congrArg (· ++ [r]) hrefinements

end Configuration

end TaintTriage
