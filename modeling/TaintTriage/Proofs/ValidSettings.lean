import TaintTriage.Proofs.AcceptedSpec
import TaintTriage.Proofs.RunFailure
import TaintTriage.Proofs.Spelling

/-!
Settings that were accepted do not fail later.  The queries that settings hold are those that the
registry finds, each of them has a configuration that is accepted, and the limits of scoring are
such that no run is refused for them.
-/

namespace TaintTriage

namespace Configuration

/-- The specification that has the parts of a configuration. -/
def spec (c : Configuration) : QuerySpec where
  kind := .expected c.kind
  knownSource := .expected c.knownSource
  relevantSinkTypes := c.relevantSinkTypes.map .expected
  refinements := c.refinements.map .expected
  effectiveSource := (c.effectiveSource.map Supplied.expected).getD (.other .null)
  sanitizerClasses := c.sanitizerClasses
  flowStepTags := c.flowStepTags
  description := c.description

/-- The specification of a configuration is accepted, and describes just this configuration. -/
theorem ofSpec_spec (c : Configuration) : ofSpec c.spec = .ok c := by
  have hpositive (t : { t // t ∈ c.relevantSinkTypes }) : t.1.isNegative = false :=
    c.relevant_positive t.1 t.2
  have hne : c.relevantSinkTypes.attach.map (fun t => ⟨t.1, hpositive t⟩) ≠
      ([] : List { t : EndpointType // t.isNegative = false }) := by
    simpa using c.relevant_ne_nil
  refine ofSpec_eq_ok_iff.mpr ⟨⟨c.kind, c.knownSource, _, c.refinements, c.effectiveSource, hne⟩,
    checkParts_eq_ok_iff.mpr ⟨rfl, rfl, ?_, ?_, ?_⟩, rfl, rfl, ?_, rfl, rfl, rfl, rfl, rfl⟩
  · rw [mapM_eq_ok_iff, spec, List.map_map, ← List.attach_map_val, List.map_map]
    exact List.map_congr_left fun t _ => dif_pos (hpositive t)
  · rw [mapM_eq_ok_iff, spec, List.map_map]
    rfl
  · rw [spec]
    cases c.effectiveSource <;> rfl
  · simp

theorem outcome_build_spec (c : Configuration) : (build c.spec).outcome = .ok c := by
  rw [build, Logged.outcome_bind, Logged.outcome_ofExcept, ofSpec_spec]
  rfl

end Configuration

namespace Settings

open Value

variable {spellings : List String} {a : ClassificationSettings}

/-- What settings hold for the queries that they were read from. -/
theorem holds_of_readClassification_queries
    (h : readClassification (only "queries" (some (.texts spellings))) = .ok a) :
    spellings.mapM QueryKind.ofSpelling = .ok a.queries ∧
      a.fields.lookup "queries" = some (.texts (spellings.map QueryKind.normalize)) ∧
      readClassification (only "queries" (some (.texts (spellings.map QueryKind.normalize)))) =
        .ok a := by
  obtain ⟨queries, hqueries, rfl⟩ := readClassification_queries_eq_ok_iff.mp h
  have hids : queries.map QueryKind.id = spellings.map QueryKind.normalize :=
    map_id_of_readQueries (readQueries_eq_ok_iff.mpr hqueries)
  refine ⟨hqueries, ?_, readClassification_queries_eq_ok_iff.mpr ⟨queries, ?_, rfl⟩⟩
  · rw [← hids]
    rfl
  · rw [← hids]
    exact readQueries_eq_ok_iff.mp (readQueries_map_id queries)

end Settings

namespace Triage

/-- The ids that settings hold for their queries lead back to the configurations of a run. -/
theorem mapM_ofSpelling_configurations (s : Settings) :
    ((configurations s).map (·.queryId)).mapM Configuration.ofSpelling =
      .ok (configurations s) := by
  rw [mapM_eq_ok_iff, configurations, List.map_map, List.map_map, List.map_map]
  refine List.map_congr_left fun kind _ => ?_
  have hid : (Configuration.ofKind kind).queryId = kind.id := by
    rw [Configuration.queryId, Configuration.ofKind_kind]
  rw [Function.comp_apply, Function.comp_apply, Function.comp_apply, hid,
    Configuration.ofSpelling,
    QueryKind.ofSpelling_eq_ok_iff.mpr (QueryKind.ofSpelling?_id kind), map_ok]

theorem lookup_queries_fields (s : Settings) :
    s.classification.fields.lookup "queries" =
      some (.texts ((configurations s).map (·.queryId))) := by
  have hids : (configurations s).map (·.queryId) = s.classification.queries.map (·.id) := by
    rw [configurations, List.map_map]
    refine List.map_congr_left fun kind _ => ?_
    rw [Function.comp_apply, Configuration.queryId, Configuration.ofKind_kind]
  rw [hids]
  rfl

end Triage

/-- Settings accept just the spellings that the registry of queries knows, which are those whose
normal form is an id, and hold these ids; reading them once more changes nothing.  The ids that any
settings hold are those of the configurations of a run, in order, and each of these is accepted when
it is built.  No run under any settings is refused for its limits of scoring, nor for anything else
that is not a value it cannot use or the fault of the engine or the scorer. -/
theorem valid_settings_do_not_fail_later :
    (∀ spellings : List String,
      (∃ a, Settings.readClassification
          (Settings.only "queries" (some (.texts spellings))) = .ok a) ↔
        ∀ spelling ∈ spellings, ∃ kind, QueryKind.ofSpelling spelling = .ok kind) ∧
    (∀ (spellings : List String) (a : ClassificationSettings),
      Settings.readClassification (Settings.only "queries" (some (.texts spellings))) = .ok a →
      spellings.mapM QueryKind.ofSpelling = .ok a.queries ∧
        a.fields.lookup "queries" = some (.texts (spellings.map QueryKind.normalize)) ∧
        Settings.readClassification
          (Settings.only "queries" (some (.texts (spellings.map QueryKind.normalize)))) = .ok a) ∧
    (∀ (spelling : String) (kind : QueryKind),
      (QueryKind.ofSpelling spelling = .ok kind ↔ QueryKind.normalize spelling = kind.id) ∧
        (QueryKind.ofSpelling spelling = .ok kind ↔ QueryKind.plainForm spelling = kind.id)) ∧
    (∀ s : Settings,
      s.classification.fields.lookup "queries" =
          some (.texts ((Triage.configurations s).map (·.queryId))) ∧
        ((Triage.configurations s).map (·.queryId)).mapM Configuration.ofSpelling =
          .ok (Triage.configurations s) ∧
        ∀ c ∈ Triage.configurations s, (Configuration.build c.spec).outcome = .ok c) ∧
    ∀ (s : Settings) (g : Snapshot) (engine : Option FlowEngine) (scorer : Option Scorer)
      (failure : TriageFailure), (Triage.run s g engine scorer).outcome = .error failure →
      failure ≠ .scoring .batchSize ∧ failure ≠ .scoring .concurrency ∧
        Triage.Cause g engine scorer failure := by
  refine ⟨fun spellings => ?_, fun spellings a => Settings.holds_of_readClassification_queries,
    fun spelling kind => ?_, fun s => ?_, fun s g engine scorer failure h => ?_⟩
  · rw [← exists_mapM_eq_ok_iff]
    simp only [Settings.readClassification_queries_eq_ok_iff]
    constructor
    · rintro ⟨a, queries, hqueries, -⟩
      exact ⟨queries, hqueries⟩
    · rintro ⟨queries, hqueries⟩
      exact ⟨_, queries, hqueries, rfl⟩
  · rw [QueryKind.ofSpelling_eq_ok_iff]
    exact ⟨QueryKind.ofSpelling?_eq_some_iff, QueryKind.ofSpelling?_eq_some_iff_plainForm⟩
  · exact ⟨Triage.lookup_queries_fields s, Triage.mapM_ofSpelling_configurations s,
      fun c _ => c.outcome_build_spec⟩
  · have hcause := Triage.failsOnly_run s g engine scorer failure h
    refine ⟨?_, ?_, hcause⟩
    · rintro rfl
      cases hcause
    · rintro rfl
      cases hcause

/-- A scorer that cannot be reached. -/
def unreachableScorer : Scorer :=
  fun _ _ => .error (.refused "scorer is offline")

/-- Two spellings are held as ids.  A run under the narrowest limits goes on until it asks the
scorer, and fails of that. -/
theorem valid_settings_do_not_fail_later_narrowSettings :
    ∃ s : Settings, s.scoring.batchSize = 1 ∧ s.scoring.maxConcurrency = 1 ∧
      (Settings.readClassification
          (Settings.only "queries" (some (.texts ["XSS", "Sql_Injection"]))) =
            .ok s.classification ∧
        (Triage.run s knownBesideUnknown none (some unreachableScorer)).outcome =
          .error (.scoring (.scorer (.refused "scorer is offline")))) ∧
      s.classification.fields.lookup "queries" = some (.texts ["xss", "sql-injection"]) ∧
      Triage.Cause knownBesideUnknown none (some unreachableScorer)
        (.scoring (.scorer (.refused "scorer is offline"))) := by
  let s : Settings :=
    { classification := { queries := [.xss, .sqlInjection] }
      scoring := { batchSize := 1, maxConcurrency := 1 } }
  have hread : Settings.readClassification
      (Settings.only "queries" (some (.texts ["XSS", "Sql_Injection"]))) =
        .ok s.classification := by rfl
  have hrun : (Triage.run s knownBesideUnknown none (some unreachableScorer)).outcome =
      .error (.scoring (.scorer (.refused "scorer is offline"))) := by with_unfolding_all rfl
  obtain ⟨-, hholds, -, -, hruns⟩ := valid_settings_do_not_fail_later
  obtain ⟨-, -, hcause⟩ := hruns s knownBesideUnknown none _ _ hrun
  have hnormal : ["XSS", "Sql_Injection"].map QueryKind.normalize = ["xss", "sql-injection"] := by
    decide +kernel
  exact ⟨s, rfl, rfl, ⟨hread, hrun⟩, hnormal ▸ (hholds _ _ hread).2.1, hcause⟩

end TaintTriage
