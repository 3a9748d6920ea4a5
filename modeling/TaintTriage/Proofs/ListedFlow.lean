import TaintTriage.Proofs.Extraction

/-!
The engine that goes through a list of flows, under the two sets of predicates of a configuration.
What the known analysis reports, the boosted one reports as well, and what is beyond the known
paths ends exactly at the sinks that are not known.
-/

namespace TaintTriage

/-- The rules of some predicates answer about every node of a graph. -/
def FlowPredicates.AnswerOn (predicates : FlowPredicates) (g : Snapshot) : Prop :=
  ∀ n ∈ g.nodes, predicates.isSource.Answers n ∧ predicates.isSink.Answers n

namespace Flow

variable {needStep : Bool} {predicates wider : FlowPredicates} {g : Snapshot}
variable {flow : Flow} {flows : List Flow} {p : FlowPath} {paths widerPaths : List FlowPath}

def pathBetween (flow : Flow) (source sink : Node) : FlowPath :=
  ⟨source, sink, flow.steps.getD [.str flow.source, .str flow.sink]⟩

/-- Whether nothing stops a flow between two nodes, whatever is taken for a source or a sink. -/
def passes (needStep : Bool) (predicates : FlowPredicates) (source sink : Node) : Bool :=
  !predicates.isSanitizer sink && (!needStep || predicates.isAdditionalFlowStep source sink)

/-- A flow is reported as a path if its ends are the nodes of the path, nothing stops it and both
ends are taken. -/
structure Reports (needStep : Bool) (predicates : FlowPredicates) (g : Snapshot) (flow : Flow)
    (p : FlowPath) : Prop where
  source : g.get? flow.source = some p.source
  sink : g.get? flow.sink = some p.sink
  passes : Flow.passes needStep predicates p.source p.sink = true
  isSource : predicates.isSource p.source = .ok true
  isSink : predicates.isSink p.sink = .ok true
  path : flow.pathBetween p.source p.sink = p

theorem path?_of_nodes {source sink : Node} {atSource atSink : Bool}
    (hsource : g.get? flow.source = some source) (hsink : g.get? flow.sink = some sink)
    (hatSource : predicates.isSource source = .ok atSource)
    (hatSink : predicates.isSink sink = .ok atSink) :
    path? needStep predicates g flow =
      .ok (if passes needStep predicates source sink && atSource && atSink then
        some (flow.pathBetween source sink) else none) := by
  simp only [path?, hsource, hsink, hatSource, hatSink, ok_bind, pure_eq_ok, passes]
  by_cases hsanitized : predicates.isSanitizer sink = true
  · simp [hsanitized]
  · by_cases hstep : predicates.isAdditionalFlowStep source sink = true
    · cases atSource <;> cases atSink <;> simp [hsanitized, hstep, pathBetween]
    · cases needStep <;> cases atSource <;> cases atSink <;>
        simp [hsanitized, hstep, pathBetween]

theorem path?_of_no_node (h : g.get? flow.source = none ∨ g.get? flow.sink = none) :
    path? needStep predicates g flow = .ok none := by
  rw [path?]
  split
  next hsource hsink => simp [hsource, hsink] at h
  next => rfl

/-- If the predicates answer about all nodes, every flow is decided, and what is found is what the
flow is reported as. -/
theorem exists_path? (h : predicates.AnswerOn g) (flow : Flow) :
    ∃ found, path? needStep predicates g flow = .ok found ∧
      ∀ p, found = some p ↔ Reports needStep predicates g flow p := by
  cases hsource : g.get? flow.source with
  | none =>
      refine ⟨none, path?_of_no_node (Or.inl hsource), fun p => ?_⟩
      simpa using fun hp : Reports needStep predicates g flow p => by simp [hp.source] at hsource
  | some source =>
      cases hsink : g.get? flow.sink with
      | none =>
          refine ⟨none, path?_of_no_node (Or.inr hsink), fun p => ?_⟩
          simpa using fun hp : Reports needStep predicates g flow p => by simp [hp.sink] at hsink
      | some sink =>
          obtain ⟨atSource, hatSource⟩ := (h source (Snapshot.get?_eq_some_iff.mp hsource).1).1
          obtain ⟨atSink, hatSink⟩ := (h sink (Snapshot.get?_eq_some_iff.mp hsink).1).2
          refine ⟨_, path?_of_nodes hsource hsink hatSource hatSink, fun p => ?_⟩
          constructor
          · intro hfound
            simp only [Bool.and_eq_true, Option.ite_none_right_eq_some, Option.some.injEq] at hfound
            obtain ⟨⟨⟨hpasses, rfl⟩, rfl⟩, rfl⟩ := hfound
            exact ⟨hsource, hsink, hpasses, hatSource, hatSink, rfl⟩
          · intro hp
            obtain rfl : source = p.source := Option.some.inj (hsource.symm.trans hp.source)
            obtain rfl : sink = p.sink := Option.some.inj (hsink.symm.trans hp.sink)
            obtain rfl : atSource = true := Except.ok.inj (hatSource.symm.trans hp.isSource)
            obtain rfl : atSink = true := Except.ok.inj (hatSink.symm.trans hp.isSink)
            simp [hp.passes, hp.path]

theorem engine_cons_eq_ok_iff :
    engine (flow :: flows) needStep predicates g = .ok paths ↔
      ∃ found others, path? needStep predicates g flow = .ok found ∧
        engine flows needStep predicates g = .ok others ∧ paths = found.toList ++ others := by
  simp only [engine, List.mapM_cons, bind_eq_ok_iff, pure_eq_ok, Except.ok.injEq]
  constructor
  · rintro ⟨_, ⟨found, hfound, rest, hrest, rfl⟩, rfl⟩
    exact ⟨found, rest.filterMap id, hfound, ⟨rest, hrest, rfl⟩, by cases found <;> rfl⟩
  · rintro ⟨found, _, hfound, ⟨rest, hrest, rfl⟩, rfl⟩
    exact ⟨found :: rest, ⟨found, hfound, rest, hrest, rfl⟩, by cases found <;> rfl⟩

/-- The engine reports the paths of the flows, one flow after another. -/
theorem exists_engine (h : predicates.AnswerOn g) (flows : List Flow) (needStep : Bool) :
    ∃ paths, engine flows needStep predicates g = .ok paths ∧
      ∀ p, p ∈ paths ↔ ∃ flow ∈ flows, Reports needStep predicates g flow p := by
  induction flows with
  | nil => exact ⟨[], rfl, fun p => by simp⟩
  | cons flow rest ih =>
      obtain ⟨found, hfound, hreports⟩ := exists_path? h flow
      obtain ⟨others, hothers, hmem⟩ := ih
      refine ⟨_, engine_cons_eq_ok_iff.mpr ⟨found, others, hfound, hothers, rfl⟩, fun p => ?_⟩
      rw [List.mem_append, Option.mem_toList, hreports, hmem]
      simp

/-- Predicates that take more ends find the same paths and more, in the same order. -/
theorem engine_sublist (h : predicates.AnswerOn g) (hwider : wider.AnswerOn g)
    (hmono : ∀ flow p, Reports needStep predicates g flow p → Reports needStep wider g flow p)
    (hpaths : engine flows needStep predicates g = .ok paths)
    (hwiderPaths : engine flows needStep wider g = .ok widerPaths) :
    paths.Sublist widerPaths := by
  induction flows generalizing paths widerPaths with
  | nil =>
      obtain rfl : [] = paths := Except.ok.inj hpaths
      exact List.nil_sublist _
  | cons flow rest ih =>
      obtain ⟨found, others, hfound, hothers, rfl⟩ := engine_cons_eq_ok_iff.mp hpaths
      obtain ⟨more, widerOthers, hmore, hwiderOthers, rfl⟩ := engine_cons_eq_ok_iff.mp hwiderPaths
      refine List.Sublist.append ?_ (ih hothers hwiderOthers)
      obtain ⟨_, hfound', hreports⟩ := exists_path? h flow
      obtain ⟨_, hmore', hwiderReports⟩ := exists_path? hwider flow
      obtain rfl := Except.ok.inj (hfound.symm.trans hfound')
      obtain rfl := Except.ok.inj (hmore.symm.trans hmore')
      cases found with
      | none => exact List.nil_sublist _
      | some p =>
          have hsome := (hwiderReports p).mpr (hmono flow p ((hreports p).mp rfl))
          exact hsome ▸ List.Sublist.refl _

end Flow

namespace Configuration

variable {c : Configuration} {g : Snapshot} {needStep : Bool} {flow : Flow} {flows : List Flow}
variable {p : FlowPath} {known boosted : List FlowPath}

theorem knownPredicates_answerOn (h : ∀ n ∈ g.nodes, c.RulesAnswer n) :
    (c.knownPredicates g).AnswerOn g := by
  intro n hn
  obtain ⟨hsource, hsink⟩ := h n hn
  obtain ⟨e, he⟩ := hsink.exists_shows
  exact ⟨hsource.1, _, he.isKnownSink⟩

theorem boostedPredicates_answerOn (h : ∀ n ∈ g.nodes, c.RulesAnswer n) :
    (c.boostedPredicates g).AnswerOn g := by
  intro n hn
  obtain ⟨hsource, hsink⟩ := h n hn
  obtain ⟨e, he⟩ := hsink.exists_shows
  exact ⟨hsource.exists_isSource, _, he.isSink⟩

/-- A known path is a boosted one: known ends are taken by both analyses. -/
theorem reports_boosted_of_known
    (h : Flow.Reports needStep (c.knownPredicates g) g flow p) :
    Flow.Reports needStep (c.boostedPredicates g) g flow p where
  source := h.source
  sink := h.sink
  passes := h.passes
  isSource := isSource_of_isKnownSource h.isSource
  isSink := isSink_of_isKnownSink h.isSink
  path := h.path

/-- What is known of a boosted path from its ends: it is a path of the graph, and unless it ends at
a known sink it ends at a candidate. -/
structure Boosted (c : Configuration) (g : Snapshot) (p : FlowPath) : Prop where
  endRulesAnswer : c.EndRulesAnswer p
  sink_mem : p.sink ∈ g.nodes
  isCandidate_iff : c.IsCandidate p.sink ↔ c.isKnownSink p.sink ≠ .ok true

theorem boosted_of_reports (h : ∀ n ∈ g.nodes, c.RulesAnswer n)
    (hp : Flow.Reports needStep (c.boostedPredicates g) g flow p) : c.Boosted g p := by
  have hsource := Snapshot.get?_eq_some_iff.mp hp.source
  have hsink := Snapshot.get?_eq_some_iff.mp hp.sink
  have hends : c.EndRulesAnswer p := ⟨(h p.source hsource.1).1.1, (h p.sink hsink.1).2⟩
  refine ⟨hends, hsink.1, ?_⟩
  obtain ⟨e, he⟩ := hends.2.exists_shows
  have htaken : (e.known || e.effective) = true := Except.ok.inj (he.isSink.symm.trans hp.isSink)
  rw [isCandidate_iff he, he.isKnownSink, ne_eq, Except.ok.injEq, Bool.not_eq_true]
  cases hknown : e.known with
  | true => simp
  | false => simpa [hknown] using htaken

/-- No boosted path to a candidate has the ends of a known path. -/
theorem Boosted.key_not_mem (hp : c.Boosted g p) (hcandidate : c.IsCandidate p.sink)
    (hknown : ∀ q ∈ known, ∃ flow ∈ flows,
      Flow.Reports needStep (c.knownPredicates g) g flow q) :
    p.key ∉ known.map FlowPath.key := by
  intro hmem
  obtain ⟨q, hq, hkey⟩ := List.mem_map.mp hmem
  obtain ⟨flow, -, hreports⟩ := hknown q hq
  have hqsink : q.sink ∈ g.nodes := (Snapshot.get?_eq_some_iff.mp hreports.sink).1
  have hid : q.sink.id = p.sink.id := congrArg Prod.snd hkey
  have hsame : q.sink = p.sink := g.eq_of_id_eq hqsink hp.sink_mem hid
  exact hp.isCandidate_iff.mp hcandidate (hsame ▸ hreports.isSink)

/-- Both analyses of a list of flows, and what is known of their paths. -/
theorem exists_known_boosted (h : ∀ n ∈ g.nodes, c.RulesAnswer n) (flows : List Flow)
    (needStep : Bool) :
    ∃ known boosted, Flow.engine flows needStep (c.knownPredicates g) g = .ok known ∧
      Flow.engine flows needStep (c.boostedPredicates g) g = .ok boosted ∧
      known.Sublist boosted ∧ (∀ p ∈ boosted, c.Boosted g p) ∧
      ∀ p ∈ boosted, c.IsCandidate p.sink → p.key ∉ known.map FlowPath.key := by
  have hknownRules := knownPredicates_answerOn h
  have hboostedRules := boostedPredicates_answerOn h
  obtain ⟨known, hknown, hknownMem⟩ := Flow.exists_engine hknownRules flows needStep
  obtain ⟨boosted, hboosted, hboostedMem⟩ := Flow.exists_engine hboostedRules flows needStep
  have hpaths : ∀ p ∈ boosted, c.Boosted g p := by
    intro p hp
    obtain ⟨flow, -, hreports⟩ := (hboostedMem p).mp hp
    exact boosted_of_reports h hreports
  refine ⟨known, boosted, hknown, hboosted, ?_, hpaths, ?_⟩
  · exact Flow.engine_sublist hknownRules hboostedRules
      (fun _ _ => reports_boosted_of_known) hknown hboosted
  · intro p hp hcandidate
    exact (hpaths p hp).key_not_mem hcandidate fun q hq => (hknownMem q).mp hq

/-- The first paths to candidates end at the sinks of boosted paths that are not known. -/
theorem mem_sinkIds_firstToCandidates_iff (hboosted : ∀ p ∈ boosted, c.Boosted g p) {id : String} :
    id ∈ (c.firstToCandidates boosted).map FlowPath.sinkId ↔
      id ∈ boosted.map FlowPath.sinkId ∧
        ¬ ∃ n ∈ g.nodes, n.id = id ∧ c.isKnownSink n = .ok true := by
  rw [firstToCandidates, mem_keys_firstPerKey_iff]
  constructor
  · rintro ⟨p, hp, hcandidate, rfl⟩
    have hnot := (hboosted p hp).isCandidate_iff.mp (of_decide_eq_true hcandidate)
    refine ⟨List.mem_map_of_mem hp, ?_⟩
    rintro ⟨n, hn, hid, hknown⟩
    obtain rfl := g.eq_of_id_eq hn (hboosted p hp).sink_mem hid
    exact hnot hknown
  · rintro ⟨hmem, hnot⟩
    obtain ⟨p, hp, rfl⟩ := List.mem_map.mp hmem
    refine ⟨p, hp, decide_eq_true ((hboosted p hp).isCandidate_iff.mpr fun hknown => ?_), rfl⟩
    exact hnot ⟨p.sink, (hboosted p hp).sink_mem, rfl, hknown⟩

end Configuration

/-- With the engine that goes through a list of flows, the known paths are among the boosted ones,
the candidate paths end at each sink of a boosted path that is not known, once each, none of them
has the key of a known path, and the known paths need not be asked for, neither for the candidates
nor for their work items. -/
theorem candidatePaths_listedFlows (c : Configuration) (g : Snapshot) (flows : List Flow)
    (needStep : Bool) (h : ∀ n ∈ g.nodes, c.RulesAnswer n) :
    ∃ known boosted selected,
      Flow.engine flows needStep (c.knownPredicates g) g = .ok known ∧
      Flow.engine flows needStep (c.boostedPredicates g) g = .ok boosted ∧
      (c.candidatePaths (Flow.engine flows needStep) g).outcome = .ok selected ∧
      known.Sublist boosted ∧
      (∀ id, id ∈ selected.map FlowPath.sinkId ↔ id ∈ boosted.map FlowPath.sinkId ∧
        ¬ ∃ n ∈ g.nodes, n.id = id ∧ c.isKnownSink n = .ok true) ∧
      (selected.map FlowPath.sinkId).Nodup ∧
      (∀ p ∈ selected, p.key ∉ known.map FlowPath.key) ∧
      (∀ p ∈ boosted, c.isSinkCandidateWithFlow p none =
        c.isSinkCandidateWithFlow p (some (known.map FlowPath.key))) ∧
      c.selectNovel [] [] boosted = .ok selected ∧
      c.workItemsFromPaths boosted = c.workItemsFromPaths selected ∧
      ((∀ n ∈ g.nodes, n.HasFeatures) → ∃ items, c.workItemsFromPaths selected = .ok items) := by
  obtain ⟨known, boosted, hknown, hboosted, hsublist, hpaths, hfresh⟩ :=
    Configuration.exists_known_boosted h flows needStep
  have hends : ∀ p ∈ boosted, c.EndRulesAnswer p := fun p hp => (hpaths p hp).endRulesAnswer
  have hselected : ∀ p ∈ c.firstToCandidates boosted, p ∈ boosted :=
    fun p hp => Configuration.firstToCandidates_sublist.subset hp
  have hitems : c.workItemsFromPaths (c.firstToCandidates boosted) =
      c.itemsOfEach ((c.firstToCandidates boosted).map (·.sink)) :=
    Configuration.workItemsFromPaths_of_distinct (fun p hp => hends p (hselected p hp))
      (fun p hp => Configuration.isCandidate_of_mem_firstToCandidates hp)
      Configuration.firstToCandidates_sinkIds_nodup
  refine ⟨known, boosted, c.firstToCandidates boosted, hknown, hboosted,
    Configuration.candidatePaths_outcome hknown hboosted
      (Configuration.selectNovel_of_fresh hends hfresh),
    hsublist, fun id => Configuration.mem_sinkIds_firstToCandidates_iff hpaths,
    Configuration.firstToCandidates_sinkIds_nodup, ?_, ?_,
    Configuration.selectNovel_of_fresh hends fun _ _ _ => List.not_mem_nil,
    (Configuration.workItemsFromPaths_eq hends).trans hitems.symm, fun hfeatures => ?_⟩
  · intro p hp
    exact hfresh p (hselected p hp) (Configuration.isCandidate_of_mem_firstToCandidates hp)
  · intro p hp
    rw [Configuration.isSinkCandidateWithFlow_none (hends p hp),
      Configuration.isSinkCandidateWithFlow_of_fresh (hends p hp) (hfresh p hp)]
  · rw [hitems, Configuration.exists_itemsOfEach_iff, List.forall_mem_map]
    exact fun p hp => hfeatures p.sink (hpaths p (hselected p hp)).sink_mem

/-- A graph with a source, a known sink and an argument of which nothing is known. -/
def knownBesideUnknown : Snapshot where
  nodes :=
    [{ NodeRecord.bare "in" "parameter" with knownSources := .ofList ["remote-flow"] },
     { NodeRecord.bare "query" "argument" with knownSinks := .ofList ["sql-injection"] },
     .bare "report" "argument"]
  steps := .empty
  distinct := by decide

/-- A flow into the known sink and a repeated one into the unknown argument. -/
def flowsBesideUnknown : List Flow :=
  [⟨"in", "query", none⟩, ⟨"in", "report", none⟩, ⟨"in", "report", none⟩]

/-- One candidate is left of the flows, at the argument of which nothing is known. -/
theorem candidatePaths_listedFlows_knownBesideUnknown :
    (∀ n ∈ knownBesideUnknown.nodes, Configuration.sqlInjection.RulesAnswer n) ∧
      ∃ selected,
        (Configuration.sqlInjection.candidatePaths (Flow.engine flowsBesideUnknown false)
          knownBesideUnknown).outcome = .ok selected ∧
        "report" ∈ selected.map FlowPath.sinkId ∧ "query" ∉ selected.map FlowPath.sinkId ∧
        (selected.map FlowPath.sinkId).Nodup := by
  have h : ∀ n ∈ knownBesideUnknown.nodes, Configuration.sqlInjection.RulesAnswer n := by decide
  obtain ⟨known, boosted, selected, -, hboosted, hselected, -, hsinks, hnodup, -⟩ :=
    candidatePaths_listedFlows .sqlInjection knownBesideUnknown flowsBesideUnknown false h
  have hids : (Flow.engine flowsBesideUnknown false
      (Configuration.sqlInjection.boostedPredicates knownBesideUnknown) knownBesideUnknown).map
        (·.map FlowPath.sinkId) = .ok ["query", "report", "report"] := rfl
  rw [hboosted] at hids
  have hids : boosted.map FlowPath.sinkId = ["query", "report", "report"] := Except.ok.inj hids
  refine ⟨h, selected, hselected, (hsinks _).mpr ⟨by simp [hids], ?_⟩, fun hmem => ?_, hnodup⟩
  · rintro ⟨n, hn, hid, hknown⟩
    obtain rfl := knownBesideUnknown.eq_of_id_eq (n := .bare "report" "argument") hn
      (by simp [knownBesideUnknown]) hid
    exact nomatch Except.ok.inj hknown
  · exact ((hsinks _).mp hmem).2 ⟨_, List.mem_cons_of_mem _ List.mem_cons_self, rfl, rfl⟩

end TaintTriage
