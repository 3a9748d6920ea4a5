import TaintTriage.Proofs.BoundedCalls
import TaintTriage.Proofs.CandidateReport
import TaintTriage.Proofs.SettingAlone

/-!
Runs over several queries and runs over one of them.  The queries of a run share the graph, the
engine and the scorer, but nothing that one of them leaves behind: what a run comes to for a query
is what a run over that query alone comes to, wherever the query stands in the list and however
often.
-/

namespace TaintTriage

/-- A scorer is pure if its answer does not depend on how many batches it has seen before. -/
def Scorer.IsPure (scorer : Scorer) : Prop :=
  ∀ i j batch, scorer i batch = scorer j batch

namespace Scoring

variable {scorer : Scorer} {items batch : List WorkItem} {size bound : Int} {earlier : Nat}
variable {scored part : List ScoredItem} {answer : Value}

/-- The items with their scores, if a scorer is asked about nothing else before. -/
def scoresFor (scorer : Scorer) (size bound : Int) (items : List WorkItem) :
    Except ScoringFailure (List ScoredItem) :=
  (score scorer items size bound).outcome.map (·.scored)

/-- An answer of any shape is read as the list of its items. -/
theorem readAnswer_eq_list {scores : List Value} (h : answer.items = .ok scores) :
    readAnswer batch answer = readAnswer batch (.list scores) := by
  have hlength : answer.length = .ok scores.length := by
    rw [Value.length, h]
  have hitems : (Value.list scores).items = .ok scores := rfl
  rw [readAnswer, readAnswer, hlength, length_list, h, hitems]

theorem map_item_of_readAnswer (h : readAnswer batch answer = .ok part) :
    part.map (·.item) = batch := by
  cases hitems : answer.items with
  | error fault =>
      -- What has no items has no length either.
      rw [readAnswer, Value.length, hitems] at h
      cases h
  | ok scores => exact (readAnswer_eq_ok (readAnswer_eq_list hitems ▸ h)).1

theorem map_item_of_scoresFor (hsize : 1 ≤ size) (hbound : 1 ≤ bound)
    (h : scoresFor scorer size bound items = .ok scored) : scored.map (·.item) = items := by
  obtain ⟨size, rfl⟩ := Int.eq_ofNat_of_zero_le (show 0 ≤ size by omega)
  obtain ⟨bound, rfl⟩ := Int.eq_ofNat_of_zero_le (show 0 ≤ bound by omega)
  obtain ⟨run, hrun, rfl⟩ := map_eq_ok_iff.mp h
  obtain ⟨-, -, answers, parts, hcalls, hparts, hscored⟩ :=
    exists_answers_of_score (by omega) (by omega) hrun
  have hlength := congrArg List.length hcalls
  rw [length_calls, List.length_map] at hlength
  have hbatches : parts.map (·.map (·.item)) = batches (size - 1) items := by
    calc parts.map (·.map (·.item)) = ((batches (size - 1) items).zip answers).map Prod.fst :=
          map_eq_map_of_mapM hparts fun _ _ hpart => map_item_of_readAnswer hpart
      _ = batches (size - 1) items := List.map_fst_zip (Nat.le_of_eq hlength)
  rw [← hscored, List.map_flatten, hbatches, flatten_batches]

/-- A pure scorer may have been asked before. -/
theorem score_eq_of_isPure (h : scorer.IsPure) :
    score scorer items size bound earlier = score scorer items size bound := by
  have htasks : (fun entry : List WorkItem × Nat => scorer (earlier + entry.2) entry.1) =
      fun entry => scorer (0 + entry.2) entry.1 := by
    funext entry
    exact h _ _ _
  simp only [score, scoreIn, htasks]

end Scoring

namespace QueryTable

variable {ε α β : Type} {t : QueryTable α} {u : QueryTable β} {kind : QueryKind} {a : α}

/-- The ids of the kinds that have entries. -/
def ids (t : QueryTable α) : List String :=
  t.kinds.map QueryKind.id

def mapEntries (f : α → Except ε β) (t : QueryTable α) : Except ε (QueryTable β) :=
  t.mapM fun entry => (f entry.2).map fun b => (entry.1, b)

theorem mapEntries_cons {f : α → Except ε β} :
    mapEntries f ((kind, a) :: t) = (do
      let b ← f a
      return (kind, b) :: (← mapEntries f t)) := by
  rw [mapEntries, List.mapM_cons]
  cases f a with
  | error e => rfl
  | ok b => rfl

theorem kinds_of_mapEntries {f : α → Except ε β} (h : mapEntries f t = .ok u) :
    u.kinds = t.kinds := by
  apply map_eq_map_of_mapM h
  intro entry other hother
  obtain ⟨b, -, rfl⟩ := map_eq_ok_iff.mp hother
  rfl

theorem exists_get?_of_mapEntries {f : α → Except ε β} (h : mapEntries f t = .ok u)
    (ha : t.get? kind = some a) : ∃ b, f a = .ok b ∧ u.get? kind = some b := by
  induction t generalizing u with
  | nil => exact nomatch ha
  | cons head rest ih =>
      obtain ⟨k, old⟩ := head
      rw [mapEntries_cons] at h
      obtain ⟨b, hb, hrest⟩ := bind_eq_ok_iff.mp h
      obtain ⟨others, hothers, heq⟩ := bind_eq_ok_iff.mp hrest
      obtain rfl := Except.ok.inj heq
      rw [get?_cons] at ha ⊢
      split at ha
      next hkind =>
        obtain rfl := Option.some.inj ha
        exact ⟨b, hb, if_pos hkind⟩
      next hkind =>
        rw [if_neg hkind]
        exact ih hothers ha

theorem get?_map (f : QueryKind → α → β) (t : QueryTable α) (kind : QueryKind) :
    get? (t.map fun entry => (entry.1, f entry.1 entry.2)) kind = (t.get? kind).map (f kind) := by
  induction t with
  | nil => rfl
  | cons head rest ih =>
      rw [List.map_cons, get?_cons, get?_cons, ih]
      split
      next hkind => rw [hkind]; rfl
      next => rfl

end QueryTable

/-- The numbers have the queries of the reports. -/
theorem TriageResult.ids_summary (r : TriageResult) : r.summary.ids = r.reports.ids := by
  have hkinds : r.summary.kinds = r.reports.kinds := List.map_map
  rw [QueryTable.ids, QueryTable.ids, hkinds]

theorem TriageResult.get?_summary {r : TriageResult} {kind : QueryKind} {report : Report}
    (h : r.reports.get? kind = some report) :
    r.summary.get? kind = some ⟨report.summary, ((r.workItems.get? kind).getD []).length,
      ((r.scored.get? kind).getD []).length⟩ := by
  have hmap : r.summary.get? kind = (r.reports.get? kind).map _ :=
    QueryTable.get?_map (fun kind (report : Report) => QuerySummary.mk report.summary
      ((r.workItems.get? kind).getD []).length ((r.scored.get? kind).getD []).length) r.reports kind
  rw [hmap, h]
  rfl

namespace QueryKind

theorem eq_of_id_eq {k l : QueryKind} (h : k.id = l.id) : k = l := by
  have hspelling := congrArg ofSpelling? h
  rw [ofSpelling?_id, ofSpelling?_id] at hspelling
  exact Option.some.inj hspelling

theorem id_eq_normalize {spelling : String} {kind : QueryKind}
    (h : ofSpelling? spelling = some kind) : kind.id = normalize spelling := by
  rw [ofSpelling?] at h
  have hfound := List.find?_some h
  exact beq_iff_eq.mp hfound

end QueryKind

namespace Settings

variable {spelling : String} {spellings : List String} {kind : QueryKind}
variable {queries : List QueryKind}

def withQueries (s : Settings) (queries : List QueryKind) : Settings :=
  { s with classification := { s.classification with queries } }

/-- The ids of the queries are their spellings in normal form. -/
theorem map_id_of_readQueries (h : readQueries spellings = .ok queries) :
    queries.map QueryKind.id = spellings.map QueryKind.normalize := by
  rw [readQueries_eq_mapM] at h
  apply map_eq_map_of_mapM h
  intro spelling kind hkind
  exact QueryKind.id_eq_normalize (readQuery_eq_ok_iff.mp hkind)

theorem exists_readQueries_singleton (h : readQueries spellings = .ok queries)
    (hspelling : spelling ∈ spellings) :
    ∃ kind ∈ queries, readQueries [spelling] = .ok [kind] := by
  rw [readQueries_eq_mapM] at h
  obtain ⟨kind, hkind, hread⟩ := exists_mem_of_mapM h hspelling
  refine ⟨kind, hkind, ?_⟩
  rw [readQueries_eq_mapM, List.mapM_cons, hread]
  rfl

end Settings

namespace Triage

variable {ε α : Type} {s : Settings} {queries : List QueryKind} {kind : QueryKind}
variable {scorer : Option Scorer}

theorem ids_of_tabulate {compute : Configuration → Logged ε α} {t : QueryTable α}
    (h : (tabulate s compute).outcome = .ok t) :
    t.ids = (s.classification.queries.map QueryKind.id).eraseDups := by
  obtain ⟨entries, hentries, rfl⟩ := outcome_tabulate_eq_ok_iff.mp h
  have hkinds : entries.map Prod.fst = s.classification.queries.map fun kind => kind := by
    apply map_eq_map_of_mapM hentries
    intro kind entry hentry
    obtain ⟨a, -, heq⟩ := bind_eq_ok_iff.mp hentry
    exact congrArg Prod.fst (Except.ok.inj heq).symm
  rw [QueryTable.ids, QueryTable.kinds_ofList, hkinds, List.map_id',
    eraseDups_map fun _ _ => QueryKind.eq_of_id_eq]

/-- What is computed for a query of some settings is computed for the query alone as well. -/
theorem tabulate_alone {compute : Configuration → Logged ε α} {t : QueryTable α}
    (h : (tabulate (s.withQueries queries) compute).outcome = .ok t) (hkind : kind ∈ queries) :
    ∃ a, t.get? kind = some a ∧
      (tabulate (s.withQueries [kind]) compute).outcome = .ok [(kind, a)] := by
  obtain ⟨a, hget, hcompute⟩ := (tabulates_of_outcome h).complete kind hkind
  refine ⟨a, hget, outcome_tabulate_eq_ok_iff.mpr ⟨[(kind, a)], ?_, rfl⟩⟩
  change [kind].mapM _ = _
  rw [List.mapM_cons, hcompute]
  rfl

theorem outcome_scoreAll {sc : Scorer} (h : sc.IsPure) (settings : ScoringSettings) (earlier : Nat)
    (items : QueryTable (List WorkItem)) :
    (scoreAll settings sc earlier items).outcome =
      items.mapEntries (Scoring.scoresFor sc settings.batchSize settings.maxConcurrency) := by
  induction items generalizing earlier with
  | nil => rfl
  | cons head rest ih =>
      obtain ⟨kind, items⟩ := head
      rw [scoreAll, QueryTable.mapEntries_cons, Scoring.scoresFor, Scoring.score_eq_of_isPure h]
      simp only [Logged.outcome_bind, Logged.outcome_pure, ih]
      cases (Scoring.score sc items settings.batchSize settings.maxConcurrency).outcome with
      | error failure => rfl
      | ok run => rfl

/-- The work items of each query are scored as they are without the other queries. -/
theorem scoresOf_alone (hpure : ∀ sc ∈ scorer, sc.IsPure) {items : QueryTable (List WorkItem)}
    {scored : QueryTable (List ScoredItem)} {own : List WorkItem}
    (hscored : scoresOf s.scoring scorer items = .ok scored) (hown : items.get? kind = some own) :
    ∃ alone, scoresOf s.scoring scorer [(kind, own)] = .ok alone ∧
      (∀ sc, scorer = some sc → ∃ part, scored.get? kind = some part ∧ alone = [(kind, part)] ∧
        part.map (·.item) = own) ∧
      ((scored.get? kind).getD []).length = if scorer.isSome then own.length else 0 := by
  cases scorer with
  | none =>
      obtain rfl := Except.ok.inj hscored
      exact ⟨[], rfl, nofun, rfl⟩
  | some sc =>
      have hsc : sc.IsPure := hpure sc rfl
      rw [scoresOf, outcome_scoreAll hsc] at hscored
      obtain ⟨part, hpart, hget⟩ := QueryTable.exists_get?_of_mapEntries hscored hown
      have hkept := Scoring.map_item_of_scoresFor s.scoring.batchSize_pos
        s.scoring.maxConcurrency_pos hpart
      refine ⟨[(kind, part)], ?_, ?_, ?_⟩
      · rw [scoresOf, outcome_scoreAll hsc, QueryTable.mapEntries_cons, hpart]
        rfl
      · intro _ _
        exact ⟨part, hget, rfl, hkept⟩
      · rw [hget, ← hkept, List.length_map]
        rfl

end Triage

/-- The queries of a run do not interfere.  Its tables have the queries in the order in which they
are first spelled, and for each query what a run over it alone has; with a pure scorer this holds of
the scores too, which stand beside the work items in order, and the numbers count just these. -/
theorem queries_do_not_interfere (s : Settings) (spellings : List String)
    (queries : List QueryKind) (hqueries : Settings.readQueries spellings = .ok queries)
    (g : Snapshot) (engine : Option FlowEngine) (scorer : Option Scorer)
    (hpure : ∀ sc ∈ scorer, sc.IsPure) (result : TriageResult)
    (hrun : (Triage.run (s.withQueries queries) g engine scorer).outcome = .ok result) :
    result.reports.ids = (spellings.map QueryKind.normalize).eraseDups ∧
    result.workItems.ids = (spellings.map QueryKind.normalize).eraseDups ∧
    result.summary.ids = (spellings.map QueryKind.normalize).eraseDups ∧
    (∀ sc, scorer = some sc →
      result.scored.ids = (spellings.map QueryKind.normalize).eraseDups) ∧
    (scorer = none → result.scored = []) ∧
    ∀ spelling ∈ spellings, ∃ kind report items alone,
      Settings.readQueries [spelling] = .ok [kind] ∧ kind.id = QueryKind.normalize spelling ∧
      result.reports.get? kind = some report ∧ result.workItems.get? kind = some items ∧
      (Triage.run (s.withQueries [kind]) g engine scorer).outcome = .ok alone ∧
      alone.reports = [(kind, report)] ∧ alone.workItems = [(kind, items)] ∧
      (∀ sc, scorer = some sc → ∃ scored, result.scored.get? kind = some scored ∧
        alone.scored = [(kind, scored)] ∧ scored.map (·.item) = items) ∧
      result.summary.get? kind =
        some ⟨report.summary, items.length, if scorer.isSome then items.length else 0⟩ := by
  obtain ⟨hreports, hitems, hscored⟩ := Triage.outcome_run_eq_ok_iff.mp hrun
  rw [Triage.classify_eq_tabulate] at hreports
  rw [Triage.collectWorkItems_eq_tabulate] at hitems
  have hids : (queries.map QueryKind.id).eraseDups =
      (spellings.map QueryKind.normalize).eraseDups := by
    rw [Settings.map_id_of_readQueries hqueries]
  have hreportIds := (Triage.ids_of_tabulate hreports).trans hids
  have hitemIds := (Triage.ids_of_tabulate hitems).trans hids
  refine ⟨hreportIds, hitemIds, ?_, ?_, ?_, ?_⟩
  · exact result.ids_summary.trans hreportIds
  · rintro sc rfl
    rw [Triage.scoresOf, Triage.outcome_scoreAll (hpure sc rfl)] at hscored
    rw [← hitemIds, QueryTable.ids, QueryTable.ids, QueryTable.kinds_of_mapEntries hscored]
  · rintro rfl
    exact (Except.ok.inj hscored).symm
  · intro spelling hspelling
    obtain ⟨kind, hkind, hread⟩ := Settings.exists_readQueries_singleton hqueries hspelling
    obtain ⟨report, hreport, hreportAlone⟩ := Triage.tabulate_alone hreports hkind
    obtain ⟨items, hitem, hitemsAlone⟩ := Triage.tabulate_alone hitems hkind
    obtain ⟨scoredAlone, hscoredAlone, hscores, hlength⟩ :=
      Triage.scoresOf_alone hpure hscored hitem
    have hid := List.singleton_inj.mp (Settings.map_id_of_readQueries hread)
    refine ⟨kind, report, items, ⟨[(kind, report)], [(kind, items)], scoredAlone⟩, hread, hid,
      hreport, hitem, ?_, rfl, rfl, hscores, ?_⟩
    · exact Triage.outcome_run_eq_ok_iff.mpr ⟨hreportAlone, hitemsAlone, hscoredAlone⟩
    · rw [TriageResult.get?_summary hreport, hitem, hlength]
      rfl

/-- A scorer that has the same answer for every item. -/
def evenScorer : Scorer :=
  fun _ batch => .ok (.list (batch.map fun _ => .int 1))

/-- A query that is spelled twice has one entry, and what it comes to is what it comes to alone. -/
theorem queries_do_not_interfere_spelledTwice :
    (Settings.readQueries ["xss", "SQL_INJECTION", "sql-injection"] =
        .ok [.xss, .sqlInjection, .sqlInjection] ∧
      (∀ sc ∈ some evenScorer, sc.IsPure) ∧
      ∃ result, (Triage.run (Settings.withQueries {} [.xss, .sqlInjection, .sqlInjection])
        knownBesideUnknown none (some evenScorer)).outcome = .ok result) ∧
    ∃ result, (Triage.run (Settings.withQueries {} [.xss, .sqlInjection, .sqlInjection])
        knownBesideUnknown none (some evenScorer)).outcome = .ok result ∧
      result.scored.ids = ["xss", "sql-injection"] ∧
      ∃ scored alone, result.scored.get? .sqlInjection = some scored ∧
        (Triage.run (Settings.withQueries {} [.sqlInjection]) knownBesideUnknown none
          (some evenScorer)).outcome = .ok alone ∧
        alone.scored = [(.sqlInjection, scored)] ∧
        (scored.map (·.item)).map (·.nodeId) = ["in", "report"] := by
  have hqueries : Settings.readQueries ["xss", "SQL_INJECTION", "sql-injection"] =
      .ok [.xss, .sqlInjection, .sqlInjection] := by rfl
  have hpure : ∀ sc ∈ some evenScorer, sc.IsPure := by
    intro sc hsc i j batch
    obtain rfl := Option.some.inj hsc
    rfl
  obtain ⟨result, hrun⟩ := isOk_eq_true_iff.mp (show (Triage.run
    (Settings.withQueries {} [.xss, .sqlInjection, .sqlInjection]) knownBesideUnknown none
      (some evenScorer)).outcome.isOk = true by decide +kernel)
  have hids : (["xss", "SQL_INJECTION", "sql-injection"].map QueryKind.normalize).eraseDups =
      ["xss", "sql-injection"] := by
    rw [← Settings.map_id_of_readQueries hqueries]
    decide
  have hitems : ∃ alone, (Triage.run (Settings.withQueries {} [.sqlInjection]) knownBesideUnknown
      none (some evenScorer)).outcome = .ok alone ∧
        alone.workItems.map (fun entry => entry.2.map (·.nodeId)) = [["in", "report"]] := by
    decide +kernel
  obtain ⟨-, -, -, hscored, -, halone⟩ :=
    queries_do_not_interfere {} ["xss", "SQL_INJECTION", "sql-injection"]
      [.xss, .sqlInjection, .sqlInjection] hqueries knownBesideUnknown none (some evenScorer) hpure
      result hrun
  obtain ⟨kind, report, items, alone, hread, -, -, -, hrunAlone, -, hitem, hscores, -⟩ :=
    halone "SQL_INJECTION" (by decide)
  have hkind : Settings.readQueries ["SQL_INJECTION"] = .ok [.sqlInjection] := by rfl
  obtain ⟨rfl, -⟩ := List.cons.inj (Except.ok.inj (hkind.symm.trans hread))
  obtain ⟨scored, hget, hscoredAlone, hkept⟩ := hscores evenScorer rfl
  obtain ⟨decided, hsame, hnodeIds⟩ := hitems
  obtain rfl := Except.ok.inj (hrunAlone.symm.trans hsame)
  refine ⟨⟨hqueries, hpure, result, hrun⟩, result, hrun, (hscored evenScorer rfl).trans hids,
    scored, alone, hget, hrunAlone, hscoredAlone, ?_⟩
  rw [hitem] at hnodeIds
  rw [hkept]
  exact List.singleton_inj.mp hnodeIds

end TaintTriage
