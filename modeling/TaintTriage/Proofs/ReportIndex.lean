import Mathlib.Algebra.GroupWithZero.Nat
import TaintTriage.Proofs.CandidateReport

/-!
Reports as indexes of their graphs.  A report keeps the nodes in graph order and finds them by the
ids that the graph finds them by; its views by status share the entries out, which is what its
counts count; what is logged follows the same list; and labels are beside all this.
-/

namespace TaintTriage

/-- The entries of a list, shared out by keys that do not repeat, are those with one of the keys. -/
theorem flatMap_filter_perm {α κ : Type} [DecidableEq κ] (key : α → κ) {keys : List κ}
    (hkeys : keys.Nodup) (xs : List α) :
    (keys.flatMap fun k => xs.filter (key · == k)).Perm
      (xs.filter fun a => decide (key a ∈ keys)) := by
  induction keys with
  | nil => simp
  | cons k rest ih =>
      have ⟨hk, hrest⟩ := List.nodup_cons.mp hkeys
      have hsplit := List.filter_append_perm (key · == k)
        (xs.filter fun a => decide (key a ∈ k :: rest))
      have hfirst : (xs.filter fun a => decide (key a ∈ k :: rest)).filter (key · == k) =
          xs.filter (key · == k) := by
        rw [List.filter_filter]
        refine List.filter_congr fun a _ => ?_
        by_cases ha : key a = k <;> simp [ha]
      have hothers : (xs.filter fun a => decide (key a ∈ k :: rest)).filter (!key · == k) =
          xs.filter fun a => decide (key a ∈ rest) := by
        rw [List.filter_filter]
        refine List.filter_congr fun a _ => ?_
        by_cases ha : key a = k
        · simp [ha, hk]
        · simp [ha]
      rw [hfirst, hothers] at hsplit
      rw [List.flatMap_cons]
      exact ((ih hrest).append_left _).trans hsplit

theorem flatMap_filter_perm_self {α κ : Type} [DecidableEq κ] (key : α → κ) {keys : List κ}
    (hkeys : keys.Nodup) (hall : ∀ k, k ∈ keys) (xs : List α) :
    (keys.flatMap fun k => xs.filter (key · == k)).Perm xs := by
  have hperm := flatMap_filter_perm key hkeys xs
  rwa [List.filter_eq_self.mpr fun a _ => decide_eq_true (hall (key a))] at hperm

theorem SinkStatus.mem_all (status : SinkStatus) : status ∈ SinkStatus.all := by
  cases status <;> decide

theorem SourceStatus.mem_all (status : SourceStatus) : status ∈ SourceStatus.all := by
  cases status <;> decide

namespace Report

/-- The count of a status is the number of entries that have it. -/
theorem summary_sources (r : Report) (status : SourceStatus) :
    r.summary.sources status = (r.withSourceStatus status).length := by
  have hcount := foldl_count r.classifications (·.sourceStatus = status) 0
  rw [Nat.zero_add] at hcount
  exact hcount

theorem flatMap_withSinkStatus_perm (r : Report) :
    (SinkStatus.all.flatMap r.withSinkStatus).Perm r.classifications :=
  flatMap_filter_perm_self _ (by decide) SinkStatus.mem_all r.classifications

theorem flatMap_withSourceStatus_perm (r : Report) :
    (SourceStatus.all.flatMap r.withSourceStatus).Perm r.classifications :=
  flatMap_filter_perm_self _ (by decide) SourceStatus.mem_all r.classifications

/-- The views of a report by status share its entries out, and its counts are those of the views. -/
structure Tallies (r : Report) : Prop where
  sinks_perm : (SinkStatus.all.flatMap r.withSinkStatus).Perm r.classifications
  sources_perm : (SourceStatus.all.flatMap r.withSourceStatus).Perm r.classifications
  mem_sinks_iff : ∀ status entry,
    entry ∈ r.withSinkStatus status ↔ entry ∈ r.classifications ∧ entry.sinkStatus = status
  mem_sources_iff : ∀ status entry,
    entry ∈ r.withSourceStatus status ↔ entry ∈ r.classifications ∧ entry.sourceStatus = status
  sinks_eq : ∀ status, r.summary.sinks status = (r.withSinkStatus status).length
  sources_eq : ∀ status, r.summary.sources status = (r.withSourceStatus status).length
  sum_sinks_eq : (SinkStatus.all.map r.summary.sinks).sum = r.summary.nodes
  sum_sources_eq : (SourceStatus.all.map r.summary.sources).sum = r.summary.nodes

theorem tallies (r : Report) : r.Tallies where
  sinks_perm := r.flatMap_withSinkStatus_perm
  sources_perm := r.flatMap_withSourceStatus_perm
  mem_sinks_iff := fun status entry => by simp [withSinkStatus]
  mem_sources_iff := fun status entry => by simp [withSourceStatus]
  sinks_eq := r.summary_sinks
  sources_eq := r.summary_sources
  sum_sinks_eq := by
    have hlength := r.flatMap_withSinkStatus_perm.length_eq
    rw [List.length_flatMap] at hlength
    rw [List.map_congr_left fun status _ => r.summary_sinks status]
    exact hlength
  sum_sources_eq := by
    have hlength := r.flatMap_withSourceStatus_perm.length_eq
    rw [List.length_flatMap] at hlength
    rw [List.map_congr_left fun status _ => r.summary_sources status]
    exact hlength

end Report

namespace Classifier

variable {k : Classifier} {g : Snapshot} {r : Report} {n : Node} {entry : NodeClassification}

/-- A report stands for a graph if it has the classification of each node at the node's place and
under the node's id. -/
structure Indexes (k : Classifier) (g : Snapshot) (r : Report) : Prop where
  queryId_eq : r.queryId = k.configuration.queryId
  classifications_eq : g.nodes.map k.classifyNode = r.classifications.map .ok
  nodeIds_eq : r.classifications.map (·.nodeId) = g.nodes.map (·.id)
  get?_eq_none_iff : ∀ id, r.get? id = none ↔ g.get? id = none
  classifyNode_eq : ∀ id n entry, g.get? id = some n → r.get? id = some entry →
    k.classifyNode n = .ok entry
  nodes_eq : r.summary.nodes = g.size

theorem exists_get?_of_get? (h : g.nodes.mapM k.classifyNode = .ok r.classifications) {id : String}
    (hn : g.get? id = some n) : ∃ entry, r.get? id = some entry ∧ k.classifyNode n = .ok entry := by
  obtain ⟨hmem, hid⟩ := Snapshot.get?_eq_some_iff.mp hn
  obtain ⟨entry, hentry, hclassified⟩ := exists_mem_of_mapM h hmem
  refine ⟨entry, (get?_eq_some_iff h).mpr ⟨hentry, ?_⟩, hclassified⟩
  rw [(classifyNode_eq_ok_iff.mp hclassified).nodeId_eq, hid]

theorem get?_isSome_of_get? (h : g.nodes.mapM k.classifyNode = .ok r.classifications) {id : String}
    (hentry : r.get? id = some entry) : ∃ n, g.get? id = some n := by
  obtain ⟨hmem, hid⟩ := (get?_eq_some_iff h).mp hentry
  obtain ⟨n, hn, hclassified⟩ := exists_of_mem_mapM h hmem
  refine ⟨n, Snapshot.get?_eq_some_iff.mpr ⟨hn, ?_⟩⟩
  rw [← (classifyNode_eq_ok_iff.mp hclassified).nodeId_eq, hid]

theorem indexes (h : (k.classifyGraph g).outcome = .ok r) : k.Indexes g r := by
  obtain ⟨hid, hentries⟩ := outcome_classifyGraph_eq_ok_iff.mp h
  have hclassifications := mapM_eq_ok_iff.mp hentries
  refine ⟨hid.symm, hclassifications, nodeIds_eq hentries, ?_, ?_, ?_⟩
  · intro id
    rw [Option.eq_none_iff_forall_ne_some, Option.eq_none_iff_forall_ne_some]
    constructor
    · intro hnone n hn
      obtain ⟨entry, hentry, -⟩ := exists_get?_of_get? hentries hn
      exact hnone entry hentry
    · intro hnone entry hentry
      obtain ⟨n, hn⟩ := get?_isSome_of_get? hentries hentry
      exact hnone n hn
  · intro id n entry hn hentry
    obtain ⟨found, hfound, hclassified⟩ := exists_get?_of_get? hentries hn
    rwa [Option.some.inj (hentry.symm.trans hfound)]
  · have hlength := congrArg List.length hclassifications
    rw [List.length_map, List.length_map] at hlength
    exact hlength.symm

def warning? (k : Classifier) (n : Node) : Option LogRecord :=
  match k.configuration.findAmbiguity n with
  | .ok (some a) =>
      some (logger.record .warning a.message [("query", .text k.configuration.queryId)])
  | _ => none

theorem warning?_of_classifyNode (h : k.classifyNode n = .ok entry) :
    k.warning? n = entry.ambiguity.map fun a =>
      logger.record .warning a.message [("query", .text k.configuration.queryId)] := by
  rw [warning?, (classifyNode_eq_ok_iff.mp h).ambiguity_eq]
  cases entry.ambiguity <;> rfl

def countsRecord (r : Report) : LogRecord :=
  logger.record .info "Classified graph"
    [("query", .text r.queryId),
     ("nodes", .count r.summary.nodes),
     ("known", .count (r.summary.sinks .knownSink)),
     ("effective", .count (r.summary.sinks .effectiveSink)),
     ("excluded", .count (r.summary.sinks .excluded))]

/-- What is logged about a report: a warning for each ambiguous node, in graph order, and then one
record with the counts. -/
structure Logs (k : Classifier) (g : Snapshot) (r : Report) (records : List LogRecord) : Prop where
  records_eq : records = g.nodes.filterMap k.warning? ++ [countsRecord r]
  levels_eq : records.map (·.level) = List.replicate r.summary.ambiguous .warning ++ [.info]
  known_eq : (countsRecord r).context.lookup "known" = some (.int (r.summary.sinks .knownSink))
  effective_eq :
    (countsRecord r).context.lookup "effective" = some (.int (r.summary.sinks .effectiveSink))
  excluded_eq : (countsRecord r).context.lookup "excluded" = some (.int (r.summary.sinks .excluded))

theorem records_classifyGraph (h : (k.classifyGraph g).outcome = .ok r) :
    (k.classifyGraph g).records = reportRecords r := by
  obtain ⟨hid, hentries⟩ := outcome_classifyGraph_eq_ok_iff.mp h
  rw [classifyGraph, Pool.map_eq_mapM, hentries, hid]
  exact List.append_nil (reportRecords r)

/-- The nodes that are warned about are those with an ambiguity in the report. -/
theorem filterMap_warning? (h : (k.classifyGraph g).outcome = .ok r) :
    g.nodes.filterMap k.warning? = r.ambiguities.map fun a =>
      logger.record .warning a.message [("query", .text r.queryId)] := by
  obtain ⟨hid, hentries⟩ := outcome_classifyGraph_eq_ok_iff.mp h
  have hwarnings : r.classifications.map (fun entry => entry.ambiguity.map fun a =>
      logger.record .warning a.message [("query", .text k.configuration.queryId)]) =
      g.nodes.map k.warning? :=
    map_eq_map_of_mapM hentries fun _ _ hentry => (warning?_of_classifyNode hentry).symm
  calc g.nodes.filterMap k.warning?
      = (g.nodes.map k.warning?).filterMap id := by
        rw [List.filterMap_map]
        rfl
    _ = r.ambiguities.map fun a =>
          logger.record .warning a.message [("query", .text r.queryId)] := by
        rw [← hwarnings, List.filterMap_map, Report.ambiguities, List.map_filterMap, hid]
        rfl

theorem logs (h : (k.classifyGraph g).outcome = .ok r) :
    k.Logs g r (k.classifyGraph g).records := by
  have hrecords := records_classifyGraph h
  refine ⟨?_, ?_, rfl, rfl, rfl⟩
  · rw [hrecords, filterMap_warning? h]
    rfl
  · rw [hrecords, reportRecords, List.map_append, List.map_map]
    exact congrArg (· ++ [Level.info]) List.map_const'

end Classifier

def NodeClassification.withoutLabels (c : NodeClassification) : NodeClassification :=
  { c with labels := [] }

namespace Report

def withoutLabels (r : Report) : Report :=
  ⟨r.queryId, r.classifications.map (·.withoutLabels)⟩

theorem ambiguities_withoutLabels (r : Report) : r.withoutLabels.ambiguities = r.ambiguities := by
  rw [ambiguities, withoutLabels, List.filterMap_map]
  rfl

theorem summary_withoutLabels (r : Report) : r.withoutLabels.summary = r.summary := by
  rw [summary, ambiguities_withoutLabels]
  simp only [withoutLabels, List.length_map, List.foldl_map]
  rfl

end Report

namespace Classifier

variable {k : Classifier} {g : Snapshot} {r r' : Report} {n : Node} {entry : NodeClassification}

def withLabels (k : Classifier) (wanted : Bool) : Classifier :=
  { k with includeLabels := wanted }

theorem reportRecords_withoutLabels (r : Report) :
    reportRecords r.withoutLabels = reportRecords r := by
  rw [reportRecords, Report.ambiguities_withoutLabels, Report.summary_withoutLabels]
  rfl

/-- A node that is classified with labels is classified without them, and alike. -/
theorem classifyNode_without (h : k.classifyNode n = .ok entry) :
    (k.withLabels false).classifyNode n = .ok entry.withoutLabels := by
  have hfound := classifyNode_eq_ok_iff.mp h
  apply classifyNode_eq_ok_iff.mpr
  exact ⟨hfound.nodeId_eq, hfound.sinkStatus_eq, hfound.reasons_eq, rfl, hfound.sourceStatus_eq,
    hfound.ambiguity_eq⟩

theorem classifyGraph_without (h : (k.classifyGraph g).outcome = .ok r) :
    (k.withLabels false).classifyGraph g = ⟨(k.classifyGraph g).records, .ok r.withoutLabels⟩ := by
  obtain ⟨hid, hentries⟩ := outcome_classifyGraph_eq_ok_iff.mp h
  have hwithout : r.classifications.map (fun entry => Except.ok entry.withoutLabels) =
      g.nodes.map (k.withLabels false).classifyNode :=
    map_eq_map_of_mapM hentries fun _ _ hentry => (classifyNode_without hentry).symm
  have houtcome : ((k.withLabels false).classifyGraph g).outcome = .ok r.withoutLabels := by
    apply outcome_classifyGraph_eq_ok_iff.mpr
    refine ⟨hid, mapM_eq_ok_iff.mpr ?_⟩
    rw [← hwithout, Report.withoutLabels, List.map_map]
    rfl
  have hrecords := records_classifyGraph houtcome
  rw [reportRecords_withoutLabels, ← records_classifyGraph h] at hrecords
  rw [← hrecords, ← houtcome]

/-- Two runs that differ in whether labels are wanted agree in everything else. -/
theorem alike_of_classifyGraph {wanted : Bool} (h : (k.classifyGraph g).outcome = .ok r)
    (h' : ((k.withLabels wanted).classifyGraph g).outcome = .ok r') :
    r'.withoutLabels = r.withoutLabels ∧
      ((k.withLabels wanted).classifyGraph g).records = (k.classifyGraph g).records := by
  -- Both come down to the run without labels.
  have hwithout : ((k.withLabels wanted).withLabels false).classifyGraph g =
      ⟨(k.classifyGraph g).records, .ok r.withoutLabels⟩ := classifyGraph_without h
  have hwithout' := classifyGraph_without h'
  have heq := hwithout'.symm.trans hwithout
  have hrecords := congrArg Logged.records heq
  exact ⟨Except.ok.inj (congrArg Logged.outcome heq), hrecords⟩

end Classifier

/-- A report on a graph has the classification of each node at the node's place and under its id;
its views by status share its entries out, as its counts say; and what is logged are the ambiguities
in graph order and the counts.  Whether labels are wanted changes nothing but the labels. -/
theorem report_indexes_graph (k : Classifier) (g : Snapshot) :
    ((∀ n ∈ g.nodes, k.configuration.RulesAnswer n ∧ k.LabellersAnswer n) →
      ∃ report, (k.classifyGraph g).outcome = .ok report) ∧
    ∀ report, (k.classifyGraph g).outcome = .ok report →
      k.Indexes g report ∧ report.Tallies ∧ k.Logs g report (k.classifyGraph g).records ∧
      (∃ report', ((k.withLabels false).classifyGraph g).outcome = .ok report') ∧
      ∀ wanted report', ((k.withLabels wanted).classifyGraph g).outcome = .ok report' →
        report'.withoutLabels = report.withoutLabels ∧ report'.summary = report.summary ∧
        ((k.withLabels wanted).classifyGraph g).records = (k.classifyGraph g).records := by
  refine ⟨fun h => Classifier.exists_classifyGraph_iff.mpr fun n hn =>
    (Classifier.exists_classifyNode_iff (h n hn).1).mpr (h n hn).2, ?_⟩
  intro report h
  refine ⟨Classifier.indexes h, report.tallies, Classifier.logs h, ?_, ?_⟩
  · rw [Classifier.classifyGraph_without h]
    exact ⟨_, rfl⟩
  · intro wanted report' h'
    obtain ⟨halike, hrecords⟩ := Classifier.alike_of_classifyGraph h h'
    refine ⟨halike, ?_, hrecords⟩
    rw [← report'.summary_withoutLabels, halike, report.summary_withoutLabels]

/-- An argument of which nothing is known, and one that is known to be a sink of two classes. -/
def ambiguousBesideUnknown : Snapshot where
  nodes :=
    [.bare "report" "argument",
     { NodeRecord.bare "mixed" "argument" with knownSinks := .ofList ["sql-injection", "xss"] }]
  steps := .empty
  distinct := by decide

/-- The shipped query for SQL injections, with labels. -/
def labelledSqlInjection : Classifier where
  configuration := .sqlInjection

/-- One warning and the counts are logged, and the node that is warned about is found by its id. -/
theorem report_indexes_graph_ambiguousBesideUnknown :
    (∀ n ∈ ambiguousBesideUnknown.nodes,
      labelledSqlInjection.configuration.RulesAnswer n ∧ labelledSqlInjection.LabellersAnswer n) ∧
    ∃ report, (labelledSqlInjection.classifyGraph ambiguousBesideUnknown).outcome = .ok report ∧
      (labelledSqlInjection.classifyGraph ambiguousBesideUnknown).records.map (·.level) =
        [.warning, .info] ∧
      ∃ entry, report.get? "mixed" = some entry ∧ entry.sinkStatus = .knownSink := by
  have hanswer : ∀ n ∈ ambiguousBesideUnknown.nodes,
      labelledSqlInjection.configuration.RulesAnswer n ∧
        labelledSqlInjection.LabellersAnswer n := by decide
  obtain ⟨hexists, hreports⟩ := report_indexes_graph labelledSqlInjection ambiguousBesideUnknown
  obtain ⟨report, hreport⟩ := hexists hanswer
  obtain ⟨hindexes, -, hlogs, -⟩ := hreports report hreport
  have hcount : (labelledSqlInjection.classifyGraph ambiguousBesideUnknown).outcome.map
      (·.summary.ambiguous) = .ok 1 := rfl
  rw [hreport] at hcount
  have hcount : report.summary.ambiguous = 1 := Except.ok.inj hcount
  refine ⟨hanswer, report, hreport, ?_, ?_⟩
  · rw [hlogs.levels_eq, hcount]
    rfl
  · have hfound := mt (hindexes.get?_eq_none_iff "mixed").mp (Option.some_ne_none _)
    obtain ⟨entry, hentry⟩ := Option.ne_none_iff_exists'.mp hfound
    have hclassified := hindexes.classifyNode_eq "mixed" _ entry rfl hentry
    have hstatus := (Classifier.classifyNode_eq_ok_iff.mp hclassified).sinkStatus_eq
    exact ⟨entry, hentry, Except.ok.inj (hstatus.symm.trans rfl)⟩

end TaintTriage
