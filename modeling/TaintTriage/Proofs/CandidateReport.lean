import TaintTriage.Proofs.Extraction
import TaintTriage.Proofs.ListedFlow
import TaintTriage.Proofs.PoolOrder
import TaintTriage.Proofs.QueryResults
import TaintTriage.Proofs.SinkAxis

/-!
Reports beside work items.  The classifier goes by the status of a node, extraction by two questions
about it; both take the same nodes for candidates, so that the counts of a report tell how many work
items there are, for one configuration and for every query of a run without an engine.
-/

namespace TaintTriage

namespace Report

theorem foldl_count (entries : List NodeClassification) (holds : NodeClassification → Prop)
    [DecidablePred holds] (count : Nat) :
    entries.foldl (fun count c => if holds c then count + 1 else count) count =
      count + (entries.filter fun c => holds c).length := by
  induction entries generalizing count with
  | nil => rfl
  | cons c rest ih =>
      rw [List.foldl_cons, ih, List.filter_cons]
      by_cases hc : holds c
      · simp only [hc, ↓reduceIte, decide_true, List.length_cons]
        omega
      · simp only [hc, ↓reduceIte, decide_false, Bool.false_eq_true]

/-- The count of a status is the number of entries that have it. -/
theorem summary_sinks (r : Report) (status : SinkStatus) :
    r.summary.sinks status = (r.withSinkStatus status).length := by
  have hcount := foldl_count r.classifications (·.sinkStatus = status) 0
  rw [Nat.zero_add] at hcount
  exact hcount

end Report

namespace Classifier

variable {k : Classifier} {g : Snapshot} {n : Node} {r : Report}

/-- The classifier takes a node for a candidate exactly if the configuration does. -/
theorem isSinkCandidate_of_classifyNode {entry : NodeClassification}
    (h : k.classifyNode n = .ok entry) :
    entry.isSinkCandidate = decide (k.configuration.IsCandidate n) := by
  rw [NodeClassification.isSinkCandidate, Bool.eq_iff_iff, beq_iff_eq, decide_eq_true_iff,
    Configuration.IsCandidate, (classifyNode_eq_ok_iff.mp h).sinkStatus_eq, Except.ok.injEq]

/-- However many workers there are, a report has the classification of each node at its place. -/
theorem outcome_classifyGraph_eq_ok_iff :
    (k.classifyGraph g).outcome = .ok r ↔
      k.configuration.queryId = r.queryId ∧
        g.nodes.mapM k.classifyNode = .ok r.classifications := by
  rw [classifyGraph, Logged.outcome_bind, Logged.outcome_ofExcept, Pool.map_eq_mapM, bind_eq_ok_iff]
  constructor
  · rintro ⟨entries, hentries, hreport⟩
    obtain rfl := Except.ok.inj hreport
    exact ⟨rfl, hentries⟩
  · rintro ⟨hid, hentries⟩
    refine ⟨r.classifications, hentries, ?_⟩
    rw [hid]
    rfl

/-- There is a report exactly if every node is classified. -/
theorem exists_classifyGraph_iff :
    (∃ report, (k.classifyGraph g).outcome = .ok report) ↔
      ∀ n ∈ g.nodes, ∃ entry, k.classifyNode n = .ok entry := by
  rw [← exists_mapM_eq_ok_iff]
  constructor
  · rintro ⟨report, hreport⟩
    exact ⟨_, (outcome_classifyGraph_eq_ok_iff.mp hreport).2⟩
  · rintro ⟨entries, hentries⟩
    exact ⟨⟨k.configuration.queryId, entries⟩,
      outcome_classifyGraph_eq_ok_iff.mpr ⟨rfl, hentries⟩⟩

section Classified

variable (h : g.nodes.mapM k.classifyNode = .ok r.classifications)

include h

theorem sinkRulesAnswer_of_mapM : ∀ n ∈ g.nodes, k.configuration.SinkRulesAnswer n := by
  intro n hn
  obtain ⟨entry, -, hentry⟩ := exists_mem_of_mapM h hn
  exact sinkRulesAnswer_of_classifyNode hentry

theorem nodeIds_eq : r.classifications.map (·.nodeId) = g.nodes.map (·.id) :=
  map_eq_map_of_mapM h fun _ _ hentry => (classifyNode_eq_ok_iff.mp hentry).nodeId_eq

theorem get?_eq_some_iff {id : String} {entry : NodeClassification} :
    r.get? id = some entry ↔ entry ∈ r.classifications ∧ entry.nodeId = id :=
  have hdistinct : (r.classifications.map (·.nodeId)).Nodup := nodeIds_eq h ▸ g.distinct
  find?_key_eq_some_iff hdistinct

theorem isSinkCandidate_get? (hn : n ∈ g.nodes) :
    (r.get? n.id).any (·.isSinkCandidate) = decide (k.configuration.IsCandidate n) := by
  obtain ⟨entry, hmem, hentry⟩ := exists_mem_of_mapM h hn
  have hget : r.get? n.id = some entry :=
    (get?_eq_some_iff h).mpr ⟨hmem, (classifyNode_eq_ok_iff.mp hentry).nodeId_eq⟩
  rw [hget]
  exact isSinkCandidate_of_classifyNode hentry

/-- There are as many entries with the status of candidates as there are candidates. -/
theorem length_withSinkStatus_effectiveSink :
    (r.withSinkStatus .effectiveSink).length =
      (g.nodes.filter fun n => decide (k.configuration.IsCandidate n)).length := by
  have hcandidates : r.classifications.map (·.isSinkCandidate) =
      g.nodes.map fun n => decide (k.configuration.IsCandidate n) :=
    map_eq_map_of_mapM h fun _ _ hentry => isSinkCandidate_of_classifyNode hentry
  calc (r.withSinkStatus .effectiveSink).length
      = (r.classifications.map (·.isSinkCandidate)).countP id := by
        rw [List.countP_map, Report.withSinkStatus, List.countP_eq_length_filter]
        rfl
    _ = (g.nodes.filter fun n => decide (k.configuration.IsCandidate n)).length := by
        rw [hcandidates, List.countP_map, List.countP_eq_length_filter]
        rfl

end Classified

end Classifier

/-- Work items follow a report on a graph if they are made of the nodes that it takes for
candidates, in graph order, with one item for each relevant type. -/
structure Report.Yields (r : Report) (c : Configuration) (g : Snapshot)
    (items : List WorkItem) : Prop where
  nodeIds_eq : r.classifications.map (·.nodeId) = g.nodes.map (·.id)
  items_eq : items.map Except.ok =
    (g.nodes.filter fun n => (r.get? n.id).any (·.isSinkCandidate)).flatMap fun n =>
      c.relevantSinkTypes.map n.workItem
  length_eq : items.length = r.summary.sinks .effectiveSink * c.relevantSinkTypes.length
  nodeId_ne : ∀ entry ∈ r.classifications, entry.sinkStatus ≠ .effectiveSink →
    ∀ item ∈ items, item.nodeId ≠ entry.nodeId

theorem Configuration.length_flatMap_shownItems (c : Configuration) (nodes : List Node) :
    (nodes.flatMap c.shownItems).length = nodes.length * c.relevantSinkTypes.length := by
  have hlengths : nodes.map (fun n => (c.shownItems n).length) =
      nodes.map fun _ => c.relevantSinkTypes.length :=
    List.map_congr_left fun n _ => List.length_map _
  rw [List.length_flatMap, hlengths, List.map_const', List.sum_replicate_nat]

theorem Classifier.yields {k : Classifier} {g : Snapshot} {report : Report} {items : List WorkItem}
    (hreport : (k.classifyGraph g).outcome = .ok report)
    (hitems : k.configuration.extractWorkItems g.nodes = .ok items) :
    report.Yields k.configuration g items := by
  obtain ⟨-, h⟩ := outcome_classifyGraph_eq_ok_iff.mp hreport
  have hextracted := Configuration.extractWorkItems_eq (sinkRulesAnswer_of_mapM h) g.distinct
  have hitems := hextracted.symm.trans hitems
  have hcandidates : (g.nodes.filter fun n => (report.get? n.id).any (·.isSinkCandidate)) =
      g.nodes.filter fun n => decide (k.configuration.IsCandidate n) :=
    List.filter_congr fun n hn => isSinkCandidate_get? h hn
  have hitemsEq := Configuration.map_ok_of_itemsOfEach hitems
  obtain ⟨-, rfl⟩ := Configuration.itemsOfEach_eq_ok_iff.mp hitems
  refine ⟨nodeIds_eq h, ?_, ?_, ?_⟩
  · rw [hcandidates]
    exact hitemsEq
  · rw [Configuration.length_flatMap_shownItems, Report.summary_sinks,
      length_withSinkStatus_effectiveSink h]
  · intro entry hentry hother item hitem hid
    obtain ⟨n, hn, hofNode⟩ := List.mem_flatMap.mp hitem
    obtain ⟨t, -, rfl⟩ := List.mem_map.mp hofNode
    obtain ⟨hmem, hcandidate⟩ := List.mem_filter.mp hn
    have hget : report.get? n.id = some entry := (get?_eq_some_iff h).mpr ⟨hentry, hid.symm⟩
    rw [← isSinkCandidate_get? h hmem, hget] at hcandidate
    exact hother (beq_iff_eq.mp hcandidate)

namespace Triage

variable {s : Settings} {g : Snapshot} {engine : Option FlowEngine} {scorer : Option Scorer}
variable {result : TriageResult}

def scoresOf (s : ScoringSettings) (scorer : Option Scorer) (items : QueryTable (List WorkItem)) :
    Except ScoringFailure (QueryTable (List ScoredItem)) :=
  match scorer with
  | some scorer => (scoreAll s scorer 0 items).outcome
  | none => .ok []

theorem outcome_run (s : Settings) (g : Snapshot) (engine : Option FlowEngine)
    (scorer : Option Scorer) :
    (run s g engine scorer).outcome = (do
      let reports ← (classify s g).outcome.mapError TriageFailure.rule
      let workItems ← (collectWorkItems s g engine).outcome.mapError .rule
      let scored ← (scoresOf s.scoring scorer workItems).mapError .scoring
      return { reports, workItems, scored }) := by
  cases scorer with
  | none => simp only [run, scoresOf, Logged.outcome_bind, Logged.outcome_write,
      Logged.outcome_pure, Logged.outcome_mapFailure, mapError_ok, ok_bind, pure_eq_ok]
  | some scorer => simp only [run, scoresOf, Logged.outcome_bind, Logged.outcome_write,
      Logged.outcome_pure, Logged.outcome_mapFailure, ok_bind, pure_eq_ok]

/-- A run ends well exactly if its three parts do. -/
theorem outcome_run_eq_ok_iff :
    (run s g engine scorer).outcome = .ok result ↔
      (classify s g).outcome = .ok result.reports ∧
      (collectWorkItems s g engine).outcome = .ok result.workItems ∧
      scoresOf s.scoring scorer result.workItems = .ok result.scored := by
  simp only [outcome_run, bind_eq_ok_iff, mapError_eq_ok_iff]
  constructor
  · rintro ⟨reports, hreports, items, hitems, scored, hscored, hresult⟩
    obtain rfl := Except.ok.inj hresult
    exact ⟨hreports, hitems, hscored⟩
  · rintro ⟨hreports, hitems, hscored⟩
    exact ⟨_, hreports, _, hitems, _, hscored, rfl⟩

/-- Where the rules answer, a run without an engine and a scorer works exactly if labels can be
shown and candidates have features. -/
theorem exists_run_iff
    (h : ∀ kind ∈ s.classification.queries, ∀ n ∈ g.nodes,
      (Configuration.ofKind kind).RulesAnswer n) :
    (∃ result, (run s g none none).outcome = .ok result) ↔
      ∀ kind ∈ s.classification.queries, ∀ n ∈ g.nodes,
        (s.classification.includeLabels = true → n.HasShortNames) ∧
          ((Configuration.ofKind kind).IsCandidate n → n.HasFeatures) := by
  have hreports : (∃ reports, (classify s g).outcome = .ok reports) ↔
      ∀ kind ∈ s.classification.queries, ∀ n ∈ g.nodes,
        s.classification.includeLabels = true → n.HasShortNames := by
    rw [classify_eq_tabulate, exists_tabulate_iff]
    refine forall₂_congr fun kind hkind => ?_
    rw [Classifier.exists_classifyGraph_iff]
    refine forall₂_congr fun n hn => ?_
    have hrules := h kind hkind n hn
    rw [Classifier.exists_classifyNode_iff hrules,
      Classifier.labellersAnswer_shipped_iff rfl hrules.2]
    rfl
  have hitems : (∃ items, (collectWorkItems s g none).outcome = .ok items) ↔
      ∀ kind ∈ s.classification.queries, ∀ n ∈ g.nodes,
        (Configuration.ofKind kind).IsCandidate n → n.HasFeatures := by
    rw [collectWorkItems_eq_tabulate, exists_tabulate_iff]
    refine forall₂_congr fun kind hkind => ?_
    exact (Configuration.extractWorkItems_worksIf
      (fun n hn => (h kind hkind n hn).2) g.distinct).exists_iff
  constructor
  · rintro ⟨result, hresult⟩ kind hkind n hn
    obtain ⟨hclassified, hcollected, -⟩ := outcome_run_eq_ok_iff.mp hresult
    exact ⟨hreports.mp ⟨_, hclassified⟩ kind hkind n hn,
      hitems.mp ⟨_, hcollected⟩ kind hkind n hn⟩
  · intro hall
    obtain ⟨reports, hreports⟩ := hreports.mpr fun kind hkind n hn => (hall kind hkind n hn).1
    obtain ⟨items, hitems⟩ := hitems.mpr fun kind hkind n hn => (hall kind hkind n hn).2
    exact ⟨⟨reports, items, []⟩, outcome_run_eq_ok_iff.mpr ⟨hreports, hitems, rfl⟩⟩

/-- The numbers of a query in a run without an engine come from a report and the work items that
follow it. -/
theorem exists_yields_of_mem_summary (h : (run s g none scorer).outcome = .ok result)
    {kind : QueryKind} {numbers : QuerySummary} (hmem : (kind, numbers) ∈ result.summary) :
    ∃ report items, result.reports.get? kind = some report ∧
      result.workItems.get? kind = some items ∧
      report.Yields (.ofKind kind) g items ∧
      numbers.report = report.summary ∧ numbers.workItems = items.length := by
  obtain ⟨hreports, hitems, -⟩ := outcome_run_eq_ok_iff.mp h
  have hreportOf := tabulates_of_outcome (classify_eq_tabulate s g ▸ hreports)
  have hitemsOf := tabulates_of_outcome (collectWorkItems_eq_tabulate s g none ▸ hitems)
  obtain ⟨⟨kind', report⟩, hentry, heq⟩ := List.mem_map.mp hmem
  obtain ⟨rfl, rfl⟩ := Prod.mk.inj heq
  -- The entry is the one that a look-up finds, since both were computed for the same query.
  obtain ⟨hkind, hcompute⟩ := hreportOf.computed kind' report hentry
  obtain ⟨report', hget, hcompute'⟩ := hreportOf.complete kind' hkind
  obtain rfl := Except.ok.inj (hcompute.symm.trans hcompute')
  obtain ⟨items, hgetItems, hextracted⟩ := hitemsOf.complete kind' hkind
  refine ⟨report, items, hget, hgetItems, Classifier.yields hcompute hextracted, rfl, ?_⟩
  rw [hgetItems]
  rfl

theorem mem_kinds_summary (h : (run s g engine scorer).outcome = .ok result) :
    ∀ kind ∈ s.classification.queries, kind ∈ result.summary.kinds := by
  intro kind hkind
  obtain ⟨hreports, -, -⟩ := outcome_run_eq_ok_iff.mp h
  have hreportOf := tabulates_of_outcome (classify_eq_tabulate s g ▸ hreports)
  obtain ⟨report, hget, -⟩ := hreportOf.complete kind hkind
  have hentry := QueryTable.mem_of_get?_eq_some hget
  exact List.mem_map.mpr ⟨_, List.mem_map_of_mem hentry, rfl⟩

end Triage

/-- Where the rules of a configuration answer, and the labellers as well, there is a report; work
items are extracted unless a candidate has no features, as it has if its file is given as declared,
and they follow the report.  A run over a graph works where nothing fails, and in the numbers of any
run without an engine, every enabled query has as many work items as there are effective sinks in
its report, times its relevant types. -/
theorem workItems_follow_report (g : Snapshot) :
    (∀ k : Classifier, (∀ n ∈ g.nodes, k.configuration.RulesAnswer n) →
      (k.registry = .shipped ∧ (∀ n ∈ g.nodes, n.HasShortNames) ∨
        ∀ n ∈ g.nodes, k.LabellersAnswer n) →
      ∃ report, (k.classifyGraph g).outcome = .ok report ∧
        WorksIf (∀ n ∈ g.nodes, k.configuration.IsCandidate n → n.HasFeatures)
          (k.configuration.extractWorkItems g.nodes) ∧
        ∀ items, k.configuration.extractWorkItems g.nodes = .ok items →
          report.Yields k.configuration g items) ∧
    (∀ s : Settings,
      (∀ kind ∈ s.classification.queries, ∀ n ∈ g.nodes,
        (Configuration.ofKind kind).RulesAnswer n) →
      ((∃ result, (Triage.run s g none none).outcome = .ok result) ↔
        ∀ kind ∈ s.classification.queries, ∀ n ∈ g.nodes,
          (s.classification.includeLabels = true → n.HasShortNames) ∧
            ((Configuration.ofKind kind).IsCandidate n → n.HasFeatures))) ∧
    ∀ (s : Settings) (scorer : Option Scorer) (result : TriageResult),
      (Triage.run s g none scorer).outcome = .ok result →
      (∀ kind ∈ s.classification.queries, kind ∈ result.summary.kinds) ∧
      ∀ kind numbers, (kind, numbers) ∈ result.summary →
        numbers.workItems =
          numbers.report.sinks .effectiveSink *
            (Configuration.ofKind kind).relevantSinkTypes.length ∧
        ∃ report items, result.reports.get? kind = some report ∧
          result.workItems.get? kind = some items ∧
          report.Yields (.ofKind kind) g items ∧
          numbers.report = report.summary ∧ numbers.workItems = items.length := by
  refine ⟨fun k h hlabellers => ?_, fun s h => Triage.exists_run_iff h,
    fun s scorer result h => ?_⟩
  · have hanswers : ∀ n ∈ g.nodes, k.LabellersAnswer n := by
      rcases hlabellers with ⟨hshipped, hnames⟩ | hothers
      · exact fun n hn =>
          (Classifier.labellersAnswer_shipped_iff hshipped (h n hn).2).mpr fun _ => hnames n hn
      · exact hothers
    obtain ⟨report, hreport⟩ := Classifier.exists_classifyGraph_iff.mpr fun n hn =>
      (Classifier.exists_classifyNode_iff (h n hn)).mpr (hanswers n hn)
    exact ⟨report, hreport,
      Configuration.extractWorkItems_worksIf (fun n hn => (h n hn).2) g.distinct,
      fun items hitems => Classifier.yields hreport hitems⟩
  · refine ⟨Triage.mem_kinds_summary h, fun kind numbers hmem => ?_⟩
    obtain ⟨report, items, hreport, hitems, hyields, hnumbers, hcount⟩ :=
      Triage.exists_yields_of_mem_summary h hmem
    refine ⟨?_, report, items, hreport, hitems, hyields, hnumbers, hcount⟩
    rw [hcount, hnumbers, hyields.length_eq]

/-- A query for either kind of injection, with two relevant types. -/
def eitherInjection : Classifier where
  configuration :=
    { Configuration.sqlInjection with
      relevantSinkTypes := [.sqlInjectionSink, .nosqlInjectionSink]
      relevant_ne_nil := by decide
      relevant_positive := by decide }

/-- Two of three nodes are effective sinks, which makes four work items for two types; a query that
is enabled twice is counted once. -/
theorem workItems_follow_report_eitherInjection :
    (∀ n ∈ knownBesideUnknown.nodes, eitherInjection.configuration.RulesAnswer n) ∧
      eitherInjection.registry = .shipped ∧
      (∀ n ∈ knownBesideUnknown.nodes, n.HasShortNames ∧ n.HasFeatures) ∧
      (∃ items,
        eitherInjection.configuration.extractWorkItems knownBesideUnknown.nodes = .ok items ∧
        items.length = 4) ∧
      ∃ s : Settings, s.classification.queries = [.sqlInjection, .sqlInjection] ∧
        (∀ kind ∈ s.classification.queries, ∀ n ∈ knownBesideUnknown.nodes,
          (Configuration.ofKind kind).RulesAnswer n) ∧
        ∃ result, (Triage.run s knownBesideUnknown none none).outcome = .ok result ∧
          ∃ numbers, (.sqlInjection, numbers) ∈ result.summary ∧
            numbers.workItems = numbers.report.sinks .effectiveSink := by
  have hrules : ∀ n ∈ knownBesideUnknown.nodes,
      eitherInjection.configuration.RulesAnswer n := by decide
  obtain ⟨s, hs⟩ : ∃ s : Settings, s.classification.queries = [.sqlInjection, .sqlInjection] :=
    ⟨{ classification := { queries := [.sqlInjection, .sqlInjection] } }, rfl⟩
  have hqueries : ∀ kind ∈ s.classification.queries, ∀ n ∈ knownBesideUnknown.nodes,
      (Configuration.ofKind kind).RulesAnswer n := by
    rw [hs]
    decide
  have henabled : QueryKind.sqlInjection ∈ s.classification.queries := by simp [hs]
  have hnames : ∀ n ∈ knownBesideUnknown.nodes, n.HasShortNames := by decide
  have hfeatures : ∀ n ∈ knownBesideUnknown.nodes, n.HasFeatures := by
    have hdeclared : ∀ n ∈ knownBesideUnknown.nodes, n.filePath.isDeclared = true := by decide
    exact fun n hn => NodeRecord.hasFeatures_of_isDeclared (hdeclared n hn)
  obtain ⟨hconfiguration, hruns, hsummaries⟩ := workItems_follow_report knownBesideUnknown
  obtain ⟨report, hreport, hworks, hfollow⟩ :=
    hconfiguration eitherInjection hrules (Or.inl ⟨rfl, hnames⟩)
  obtain ⟨items, hitems⟩ := hworks.works fun n hn _ => hfeatures n hn
  have hyields := hfollow items hitems
  obtain ⟨result, hresult⟩ := (hruns s hqueries).mpr fun kind _ n hn =>
    ⟨fun _ => hnames n hn, fun _ => hfeatures n hn⟩
  obtain ⟨hkinds, hnumbers⟩ := hsummaries s none result hresult
  obtain ⟨⟨kind, numbers⟩, hmem, heq⟩ := List.mem_map.mp (hkinds .sqlInjection henabled)
  obtain rfl : kind = .sqlInjection := heq
  have hcount : (eitherInjection.classifyGraph knownBesideUnknown).outcome.map
      (·.summary.sinks .effectiveSink) = .ok 2 := rfl
  rw [hreport] at hcount
  have hcount : report.summary.sinks .effectiveSink = 2 := Except.ok.inj hcount
  refine ⟨hrules, rfl, fun n hn => ⟨hnames n hn, hfeatures n hn⟩, ⟨items, hitems, ?_⟩, s, hs,
    hqueries, result, hresult, numbers, hmem, ?_⟩
  · rw [hyields.length_eq, hcount]
    rfl
  · rw [(hnumbers .sqlInjection numbers hmem).1]
    exact Nat.mul_one _

end TaintTriage
