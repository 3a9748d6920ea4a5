import Mathlib.Data.List.Flatten
import Mathlib.Data.List.Nodup
import Mathlib.Data.List.Perm.Subperm
import TaintTriage.Proofs.ListedFlow
import TaintTriage.Proofs.QueryResults
import TaintTriage.Proofs.ShippedQuery

/-!
Work items behind an engine that is not trusted.  Whatever paths it reports between the nodes of a
graph, each candidate path gives its items once, all of them are items of effective sinks, and no
item is made that would not be made without an engine.
-/

namespace TaintTriage

open Characteristic

/-- The engine returns some paths between nodes of the graph, whatever it makes of the predicates.
-/
def FlowEngine.StaysIn (engine : FlowEngine) (predicates : FlowPredicates) (g : Snapshot) : Prop :=
  ∃ paths, engine predicates g = .ok paths ∧ ∀ p ∈ paths, p.source ∈ g.nodes ∧ p.sink ∈ g.nodes

namespace Configuration

variable {c : Configuration} {g : Snapshot} {engine : FlowEngine} {n : Node}

theorem knownSinkOfClass_mem_shipped (kind : QueryKind) :
    knownSinkOfClass kind.sinkType kind.id ∈ shipped := by
  have hclass : (kind.sinkType, kind.id) ∈ sinkClasses := by
    cases kind <;> simp [sinkClasses, QueryKind.sinkType, QueryKind.id]
  exact List.mem_append_left _ (List.mem_append_left _ (List.mem_append_left _
    (List.mem_map.mpr ⟨_, hclass, rfl⟩)))

/-- A node with the class of any query is known to be of some type, so that it is a known sink of
this query or of another class. -/
theorem not_mem_knownSinks_of_isCandidate (h : c.IsCandidate n) (kind : QueryKind) :
    kind.id ∉ n.knownSinks := by
  intro hclass
  obtain ⟨applying, happlying⟩ := (SinkRulesAnswer.of_sinkStatus h).exists_applicable
  obtain ⟨heffective, hknown⟩ := (isCandidate_iff (shows_evidenceOf happlying)).mp h
  have hother := ((c.evidenceOf applying).effective_eq_true_iff.mp heffective).2
  have happlies : knownSinkOfClass kind.sinkType kind.id ∈ applying :=
    (mem_applicable_iff happlying).mpr
      ⟨List.mem_append_left _ (knownSinkOfClass_mem_shipped kind),
        knownSinkOfClass_appliesTo_iff.mpr hclass⟩
  have hspeaks : (knownSinkOfClass kind.sinkType kind.id).Speaks true kind.sinkType .maximal :=
    knownSinkOfClass_speaks_iff.mpr ⟨BEq.rfl, rfl⟩
  have hpositive : kind.sinkType.isNegative = false := by cases kind <;> decide
  have htrue : (c.evidenceOf applying).otherClass = true :=
    (c.evidenceOf_otherClass_eq_true_iff).mpr
      ⟨by rw [hknown]; exact Bool.false_ne_true, kind.sinkType, hpositive, _, happlies, hspeaks⟩
  rw [htrue] at hother
  exact Bool.noConfusion hother

/-- What the candidate paths of an engine come to if no rule fails: distinct candidates of the
graph, each with its items. -/
theorem exists_candidatePaths (hrules : ∀ n ∈ g.nodes, c.SinkRulesAnswer n)
    (hsources : ∀ n ∈ g.nodes, c.knownSource.Answers n)
    (hknown : engine.StaysIn (c.knownPredicates g) g)
    (hboosted : engine.StaysIn (c.boostedPredicates g) g) :
    ∃ paths, (c.candidatePaths engine g).outcome = .ok paths ∧
      (∀ p ∈ paths, p.sink ∈ g.nodes ∧ c.IsCandidate p.sink) ∧
      (paths.map FlowPath.sinkId).Nodup ∧
      c.workItemsFromPaths paths = c.itemsOfEach (paths.map (·.sink)) := by
  obtain ⟨known, hknownPaths, -⟩ := hknown
  obtain ⟨boosted, hboostedPaths, hends⟩ := hboosted
  have hanswer : ∀ p ∈ boosted, c.EndRulesAnswer p := by
    intro p hp
    obtain ⟨hsource, hsink⟩ := hends p hp
    exact ⟨hsources p.source hsource, hrules p.sink hsink⟩
  obtain ⟨accepts, hselect, hnovel⟩ := exists_selectNovel hanswer known
  have hselected : ∀ p ∈ firstPerKey FlowPath.sinkId accepts [] boosted, p ∈ boosted :=
    fun p hp => (firstPerKey_sublist [] boosted).subset hp
  have hcandidates : ∀ p ∈ firstPerKey FlowPath.sinkId accepts [] boosted,
      c.IsCandidate p.sink :=
    fun p hp => ((hnovel p).mp (accepts_of_mem_firstPerKey hp).1).2
  refine ⟨_, candidatePaths_outcome hknownPaths hboostedPaths hselect,
    fun p hp => ⟨(hends p (hselected p hp)).2, hcandidates p hp⟩,
    firstPerKey_keys_nodup [] boosted, ?_⟩
  exact workItemsFromPaths_of_distinct (fun p hp => hanswer p (hselected p hp)) hcandidates
    (firstPerKey_keys_nodup [] boosted)

/-- Distinct candidates of a graph are some of all its candidates, and so are their items. -/
theorem flatMap_shownItems_subperm {paths : List FlowPath}
    (hcandidates : ∀ p ∈ paths, p.sink ∈ g.nodes ∧ c.IsCandidate p.sink)
    (hdistinct : (paths.map FlowPath.sinkId).Nodup) :
    ((paths.map (·.sink)).flatMap c.shownItems).Subperm
      ((g.nodes.filter fun n => decide (c.IsCandidate n)).flatMap c.shownItems) := by
  have hids : ((paths.map (·.sink)).map NodeRecord.id).Nodup := by
    rw [List.map_map]
    exact hdistinct
  have hnodup : (paths.map (·.sink)).Nodup := hids.of_map _
  have hsubset : ∀ n ∈ paths.map (·.sink),
      n ∈ g.nodes.filter fun n => decide (c.IsCandidate n) := by
    intro n hn
    obtain ⟨p, hp, rfl⟩ := List.mem_map.mp hn
    obtain ⟨hmem, hcandidate⟩ := hcandidates p hp
    exact List.mem_filter.mpr ⟨hmem, decide_eq_true hcandidate⟩
  obtain ⟨sinks, hperm, hsublist⟩ := List.subperm_of_subset hnodup hsubset
  exact ⟨sinks.flatMap c.shownItems, hperm.flatMap_right c.shownItems,
    hsublist.flatMap c.shownItems⟩

theorem knownSource_answers_ofKind (kind : QueryKind) (n : Node) :
    (ofKind kind).knownSource.Answers n := by
  cases kind <;> exact ⟨_, rfl⟩

end Configuration

namespace Triage

variable {s : Settings} {g : Snapshot} {engine : Option FlowEngine}

theorem outcome_itemsFor_engine {c : Configuration} {e : FlowEngine} {paths : List FlowPath}
    (hpaths : (c.candidatePaths e g).outcome = .ok paths) :
    (itemsFor g (some e) c).outcome = c.workItemsFromPaths paths := by
  rw [itemsFor, Logged.outcome_bind, hpaths]
  rfl

/-- Where the items of each enabled query are those of some nodes, collecting them works exactly if
all of these nodes have features. -/
theorem collectWorkItems_worksIf {nodesOf : QueryKind → List Node}
    (h : ∀ kind ∈ s.classification.queries,
      (itemsFor g engine (.ofKind kind)).outcome =
        (Configuration.ofKind kind).itemsOfEach (nodesOf kind)) :
    WorksIf (∀ kind ∈ s.classification.queries, ∀ n ∈ nodesOf kind, n.HasFeatures)
      (collectWorkItems s g engine).outcome := by
  rw [collectWorkItems_eq_tabulate]
  refine .of_iff ?_ (failsOnly_tabulate fun kind hkind => ?_)
  · rw [exists_tabulate_iff]
    refine forall₂_congr fun kind hkind => ?_
    rw [h kind hkind, Configuration.exists_itemsOfEach_iff]
  · rw [h kind hkind]
    exact Configuration.failsOnly_itemsOfEach _ _

end Triage

/-- For an engine that need not be trusted, the work items of each enabled query are those of its
candidate paths, one for each path and relevant type; their nodes are effective sinks and known
sinks of no query; and they are among the items that are collected without an engine.  Items are
collected unless one of the sinks of these paths has no features, and without an engine unless one
of the effective sinks has none; a node has features if its file is given as declared. -/
theorem collectWorkItems_untrustedEngine (s : Settings) (g : Snapshot) (engine : FlowEngine)
    (hclassified : ∀ kind ∈ s.classification.queries, ∀ n ∈ g.nodes,
      ∃ entry, (Triage.classifier s (.ofKind kind)).classifyNode n = .ok entry)
    (hengine : ∀ kind ∈ s.classification.queries,
      engine.StaysIn ((Configuration.ofKind kind).knownPredicates g) g ∧
        engine.StaysIn ((Configuration.ofKind kind).boostedPredicates g) g) :
    ∃ paths : QueryKind → List FlowPath,
      (∀ kind ∈ s.classification.queries,
        ((Configuration.ofKind kind).candidatePaths engine g).outcome = .ok (paths kind)) ∧
      WorksIf
        (∀ kind ∈ s.classification.queries, ∀ n ∈ (paths kind).map (·.sink), n.HasFeatures)
        (Triage.collectWorkItems s g (some engine)).outcome ∧
      WorksIf
        (∀ kind ∈ s.classification.queries, ∀ n ∈ g.nodes,
          (Configuration.ofKind kind).IsCandidate n → n.HasFeatures)
        (Triage.collectWorkItems s g none).outcome ∧
      ∀ found, (Triage.collectWorkItems s g (some engine)).outcome = .ok found →
        ∀ kind ∈ s.classification.queries, ∃ items, found.get? kind = some items ∧
          (items.map Except.ok = (paths kind).flatMap fun p =>
            (Configuration.ofKind kind).relevantSinkTypes.map p.sink.workItem) ∧
          (∀ item ∈ items, ∃ n ∈ g.nodes, n.id = item.nodeId ∧
            (Configuration.ofKind kind).sinkStatus n = .ok .effectiveSink ∧
            ∀ k : QueryKind, k.id ∉ n.knownSinks) ∧
          ∀ all, (Triage.collectWorkItems s g none).outcome = .ok all →
            ∃ allItems, all.get? kind = some allItems ∧ items.Subperm allItems := by
  have hrules : ∀ kind ∈ s.classification.queries, ∀ n ∈ g.nodes,
      (Configuration.ofKind kind).SinkRulesAnswer n := by
    intro kind hkind n hn
    obtain ⟨entry, hentry⟩ := hclassified kind hkind n hn
    exact Classifier.sinkRulesAnswer_of_classifyNode hentry
  let paths (kind : QueryKind) : List FlowPath :=
    ((Configuration.ofKind kind).candidatePaths engine g).outcome.toOption.getD []
  have hpaths : ∀ kind ∈ s.classification.queries,
      ((Configuration.ofKind kind).candidatePaths engine g).outcome = .ok (paths kind) ∧
        (∀ p ∈ paths kind, p.sink ∈ g.nodes ∧ (Configuration.ofKind kind).IsCandidate p.sink) ∧
        ((paths kind).map FlowPath.sinkId).Nodup ∧
        (Configuration.ofKind kind).workItemsFromPaths (paths kind) =
          (Configuration.ofKind kind).itemsOfEach ((paths kind).map (·.sink)) := by
    intro kind hkind
    obtain ⟨selected, hselected, hrest⟩ := Configuration.exists_candidatePaths (hrules kind hkind)
      (fun n _ => Configuration.knownSource_answers_ofKind kind n) (hengine kind hkind).1
      (hengine kind hkind).2
    have heq : paths kind = selected := by simp [paths, hselected, Except.toOption]
    rw [heq]
    exact ⟨hselected, hrest⟩
  have hfound : ∀ kind ∈ s.classification.queries,
      (Triage.itemsFor g (some engine) (.ofKind kind)).outcome =
        (Configuration.ofKind kind).itemsOfEach ((paths kind).map (·.sink)) := by
    intro kind hkind
    obtain ⟨hcandidatePaths, -, -, hitems⟩ := hpaths kind hkind
    exact (Triage.outcome_itemsFor_engine hcandidatePaths).trans hitems
  have hall : ∀ kind ∈ s.classification.queries,
      (Triage.itemsFor g none (.ofKind kind)).outcome =
        (Configuration.ofKind kind).itemsOfEach
          (g.nodes.filter fun n => decide ((Configuration.ofKind kind).IsCandidate n)) :=
    fun kind hkind => Configuration.extractWorkItems_eq (hrules kind hkind) g.distinct
  have hallWorks := Triage.collectWorkItems_worksIf hall
  simp only [Configuration.forall_mem_candidates_iff] at hallWorks
  refine ⟨paths, fun kind hkind => (hpaths kind hkind).1, Triage.collectWorkItems_worksIf hfound,
    hallWorks, fun found hcollected kind hkind => ?_⟩
  obtain ⟨-, hcandidates, hdistinct, -⟩ := hpaths kind hkind
  obtain ⟨items, hget, hcompute⟩ :=
    (Triage.tabulates_of_outcome hcollected).complete kind hkind
  have hitems := (hfound kind hkind).symm.trans hcompute
  obtain ⟨-, rfl⟩ := Configuration.itemsOfEach_eq_ok_iff.mp hitems
  refine ⟨_, hget, ?_, fun item hitem => ?_, fun all hcollectedAll => ?_⟩
  · rw [Configuration.map_ok_of_itemsOfEach hitems, List.flatMap_map]
  · obtain ⟨n, hn, hofSink⟩ := List.mem_flatMap.mp hitem
    obtain ⟨p, hp, rfl⟩ := List.mem_map.mp hn
    obtain ⟨t, -, rfl⟩ := List.mem_map.mp hofSink
    obtain ⟨hmem, hcandidate⟩ := hcandidates p hp
    exact ⟨p.sink, hmem, rfl, hcandidate,
      Configuration.not_mem_knownSinks_of_isCandidate hcandidate⟩
  · obtain ⟨allItems, hgetAll, hcomputeAll⟩ :=
      (Triage.tabulates_of_outcome hcollectedAll).complete kind hkind
    obtain ⟨-, rfl⟩ :=
      Configuration.itemsOfEach_eq_ok_iff.mp ((hall kind hkind).symm.trans hcomputeAll)
    exact ⟨_, hgetAll, Configuration.flatMap_shownItems_subperm hcandidates hdistinct⟩

/-- An engine that reports a path between any two nodes, twice, once some unknown argument is a
sink, and nothing before that. -/
def carelessEngine : FlowEngine := fun predicates g => do
  if ← predicates.isSink (.bare "report" "argument") then
    let paths := g.nodes.flatMap fun source => g.nodes.map fun sink => ⟨source, sink, []⟩
    return paths ++ paths
  else return []

theorem carelessEngine_staysIn {predicates : FlowPredicates} (g : Snapshot)
    (h : predicates.isSink.Answers (.bare "report" "argument")) :
    carelessEngine.StaysIn predicates g := by
  obtain ⟨holds, hholds⟩ := h
  cases holds with
  | false => exact ⟨[], by rw [carelessEngine, hholds]; rfl, fun p hp => absurd hp List.not_mem_nil⟩
  | true =>
      refine ⟨_, by rw [carelessEngine, hholds]; rfl, fun p hp => ?_⟩
      obtain ⟨source, hsource, hmem⟩ := List.mem_flatMap.mp ((List.mem_append.mp hp).elim id id)
      obtain ⟨sink, hsink, rfl⟩ := List.mem_map.mp hmem
      exact ⟨hsource, hsink⟩

/-- Of the many paths, also into the known sink, each effective sink is kept once. -/
theorem collectWorkItems_untrustedEngine_carelessEngine :
    ∃ s : Settings, s.classification.queries = [.sqlInjection, .sqlInjection] ∧
      (∀ kind ∈ s.classification.queries, ∀ n ∈ knownBesideUnknown.nodes,
        ∃ entry, (Triage.classifier s (.ofKind kind)).classifyNode n = .ok entry) ∧
      (∀ kind ∈ s.classification.queries,
        carelessEngine.StaysIn
            ((Configuration.ofKind kind).knownPredicates knownBesideUnknown) knownBesideUnknown ∧
          carelessEngine.StaysIn
            ((Configuration.ofKind kind).boostedPredicates knownBesideUnknown)
            knownBesideUnknown) ∧
      ∃ found items,
        (Triage.collectWorkItems s knownBesideUnknown (some carelessEngine)).outcome = .ok found ∧
        found.get? .sqlInjection = some items ∧ items.map (·.nodeId) = ["in", "report"] := by
  obtain ⟨s, hs⟩ : ∃ s : Settings, s.classification.queries = [.sqlInjection, .sqlInjection] :=
    ⟨{ classification := { queries := [.sqlInjection, .sqlInjection] } }, rfl⟩
  have hqueries : ∀ kind ∈ s.classification.queries, kind = .sqlInjection := by
    rw [hs]
    decide
  have henabled : QueryKind.sqlInjection ∈ s.classification.queries := by simp [hs]
  have hrules : ∀ n ∈ knownBesideUnknown.nodes, Configuration.sqlInjection.RulesAnswer n := by
    decide
  have hnames : ∀ n ∈ knownBesideUnknown.nodes, n.HasShortNames := by decide
  have hclassified : ∀ kind ∈ s.classification.queries, ∀ n ∈ knownBesideUnknown.nodes,
      ∃ entry, (Triage.classifier s (.ofKind kind)).classifyNode n = .ok entry := by
    intro kind hkind n hn
    obtain rfl := hqueries kind hkind
    exact (Classifier.exists_classifyNode_iff (hrules n hn)).mpr
      ((Classifier.labellersAnswer_shipped_iff rfl (hrules n hn).2).mpr fun _ => hnames n hn)
  have hengine : ∀ kind ∈ s.classification.queries,
      carelessEngine.StaysIn
          ((Configuration.ofKind kind).knownPredicates knownBesideUnknown) knownBesideUnknown ∧
        carelessEngine.StaysIn
          ((Configuration.ofKind kind).boostedPredicates knownBesideUnknown)
          knownBesideUnknown := by
    intro kind hkind
    obtain rfl := hqueries kind hkind
    exact ⟨carelessEngine_staysIn _ ⟨false, rfl⟩, carelessEngine_staysIn _ ⟨true, rfl⟩⟩
  obtain ⟨paths, hpaths, hworks, -, heach⟩ :=
    collectWorkItems_untrustedEngine s knownBesideUnknown carelessEngine hclassified hengine
  have hselected : (Configuration.sqlInjection.candidatePaths carelessEngine
      knownBesideUnknown).outcome = .ok (paths .sqlInjection) := hpaths .sqlInjection henabled
  have hsinks : ((Configuration.sqlInjection.candidatePaths carelessEngine
      knownBesideUnknown).outcome).map (fun paths => (paths.map FlowPath.sinkId,
        (paths.map (·.sink)).all (·.filePath.isShort))) = .ok (["in", "report"], true) := rfl
  rw [hselected] at hsinks
  obtain ⟨hids, hshort⟩ := Prod.mk.inj (Except.ok.inj hsinks)
  rw [List.all_eq_true] at hshort
  obtain ⟨found, hfound⟩ := hworks.works fun kind hkind n hn => by
    obtain rfl := hqueries kind hkind
    exact NodeRecord.hasFeatures_iff.mpr (hshort n hn)
  obtain ⟨items, hget, hitems, -⟩ := heach found hfound .sqlInjection henabled
  have hshown := Configuration.map_ok_of_itemsOfEach (c := .sqlInjection)
    (Configuration.itemsOfEach_eq_ok_iff.mpr ⟨hshort, rfl⟩)
  have hitems : items.map Except.ok = ((paths .sqlInjection).map (·.sink)).flatMap fun n =>
      Configuration.sqlInjection.relevantSinkTypes.map n.workItem := by
    rw [List.flatMap_map]
    exact hitems
  refine ⟨s, hs, hclassified, hengine, found, items, hfound, hget, ?_⟩
  rw [List.map_injective_iff.mpr (fun _ _ => Except.ok.inj) (hitems.trans hshown.symm), ← hids,
    List.map_flatMap, List.flatMap_map]
  exact List.flatMap_pure_eq_map FlowPath.sinkId (paths .sqlInjection)

end TaintTriage
