import TaintTriage.Proofs.CandidateReport
import TaintTriage.Proofs.FailingRule
import TaintTriage.Proofs.FinishOrder
import TaintTriage.Proofs.ShippedQuery

/-!
What a run fails of.  The shipped rules give up only on values that they cannot use, and the limits
of scoring are checked where settings are read; so whatever else goes wrong in a run has gone wrong
in the engine or in the scorer.
-/

namespace TaintTriage

/-- Tasks that may run fail only as one of them does. -/
theorem Gather.failsOnly_resultsIn {ε α : Type} {p : ε → Prop} {order : List Nat} {bound : Nat}
    (hbound : 0 < bound) {tasks : List (Except ε α)} (h : ∀ task ∈ tasks, FailsOnly p task) :
    FailsOnly (fun fault => ∃ e, fault = .failed e ∧ p e)
      (Gather.resultsIn order (bound : Int) tasks) := by
  have hfailed (task : Except ε α) (htask : task ∈ tasks) :
      FailsOnly (fun fault => ∃ e, fault = .failed e ∧ p e)
        (task.mapError Gather.Fault.failed) :=
    (h task htask).mapError fun e he => ⟨e, rfl, he⟩
  rw [Gather.resultsIn, Gather.boundOf_eq_ok hbound, ok_bind]
  refine FailsOnly.bind (failsOnly_mapM fun entry hentry => hfailed _ ?_) fun _ =>
    failsOnly_mapM fun outcome houtcome => hfailed _ ?_
  · obtain ⟨i, -, hfound⟩ := List.mem_filterMap.mp hentry
    obtain ⟨task, htask, rfl⟩ := Option.map_eq_some_iff.mp hfound
    exact List.mem_of_getElem? htask
  · obtain ⟨i, -, hfound⟩ := List.mem_filterMap.mp houtcome
    rw [Pool.lookup_finished, Option.ite_none_right_eq_some] at hfound
    obtain ⟨task, htask, rfl⟩ := Option.map_eq_some_iff.mp hfound.2
    exact List.mem_of_getElem? htask

/-- A rule gives up only on values that it cannot use. -/
def RuleFailure.IsUnusable (failure : RuleFailure) : Prop :=
  ∃ cause, failure = .unusable cause

theorem failsOnly_orFail {α : Type} (result : Except ValueFault α) :
    FailsOnly RuleFailure.IsUnusable (orFail result) :=
  failsOnly_mapError (fun cause => ⟨cause, rfl⟩) result

open RuleFailure (IsUnusable)

namespace Characteristic

variable {n : Node}

theorem failsOnly_calleeIn (names : List String) (n : Node) :
    FailsOnly IsUnusable (calleeIn names n) := by
  rw [calleeIn]
  split
  · exact (failsOnly_orFail _).bind fun _ => failsOnly_ok _
  · exact failsOnly_ok _

theorem failsOnly_isLoggerArgument (n : Node) : FailsOnly IsUnusable (isLoggerArgument n) := by
  rw [isLoggerArgument]
  split
  · exact failsOnly_ok _
  · split
    · exact failsOnly_ok _
    · refine (failsOnly_orFail _).bind fun receiver => ?_
      split
      · exact (failsOnly_orFail _).bind fun callee => failsOnly_ok _
      · exact failsOnly_ok _

theorem failsOnly_hasCryptoName (v : Value) : FailsOnly IsUnusable (hasCryptoName v) := by
  rw [hasCryptoName]
  split
  · exact (failsOnly_orFail _).bind fun _ => failsOnly_ok _
  · exact failsOnly_ok _

theorem failsOnly_orElse {rule other : Rule} (h : FailsOnly IsUnusable (rule n))
    (hother : FailsOnly IsUnusable (other n)) : FailsOnly IsUnusable (rule.orElse other n) :=
  h.bind fun holds => by
    cases holds with
    | true => exact failsOnly_ok _
    | false => exact hother

theorem failsOnly_isCryptoArgument (n : Node) : FailsOnly IsUnusable (isCryptoArgument n) := by
  cases hargument : n.isArgument with
  | false =>
      rw [isCryptoArgument, hargument]
      exact failsOnly_ok false
  | true =>
      rw [isCryptoArgument_eq hargument]
      exact failsOnly_orElse (failsOnly_hasCryptoName _) (failsOnly_hasCryptoName _)

end Characteristic

namespace Html

theorem failsOnly_hasAnyWord (words : List String) (v : Value) :
    FailsOnly IsUnusable (hasAnyWord words v) :=
  (failsOnly_orFail _).bind fun _ => failsOnly_ok _

theorem failsOnly_matchesHtmlTag (n : Node) : FailsOnly IsUnusable (matchesHtmlTag n) := by
  rw [matchesHtmlTag]
  split
  · exact (failsOnly_orFail _).bind fun _ => failsOnly_ok _
  · exact failsOnly_ok _

theorem failsOnly_isRenderCallArgument (n : Node) :
    FailsOnly IsUnusable (isRenderCallArgument n) := by
  rw [isRenderCallArgument]
  split
  · exact failsOnly_hasAnyWord _ _
  · exact failsOnly_ok _

theorem failsOnly_isHtmlPropertyWrite (n : Node) :
    FailsOnly IsUnusable (isHtmlPropertyWrite n) := by
  rw [isHtmlPropertyWrite]
  split
  · exact failsOnly_hasAnyWord _ _
  · exact failsOnly_ok _

theorem failsOnly_isLikelyXssSink (n : Node) : FailsOnly IsUnusable (isLikelyXssSink n) := by
  rw [isLikelyXssSink]
  split
  · exact failsOnly_ok _
  · refine (failsOnly_matchesHtmlTag n).bind fun tag => ?_
    split
    · exact failsOnly_ok _
    · refine (failsOnly_isRenderCallArgument n).bind fun rendered => ?_
      split
      · exact failsOnly_ok _
      · exact failsOnly_isHtmlPropertyWrite n

end Html

theorem Ground.failsOnly_rule (ground : Ground) (n : Node) :
    FailsOnly IsUnusable (ground.rule n) := by
  cases ground with
  | logger => exact Characteristic.failsOnly_isLoggerArgument n
  | crypto => exact Characteristic.failsOnly_isCryptoArgument n
  | timer | stringTest | eventRegistration | eventDispatch | date | builtin =>
      exact Characteristic.failsOnly_calleeIn _ n
  | receiverStorage | constant | testFile | sanitized => exact failsOnly_ok _
  | noCallOfNosql | noCallOfPath => exact (failsOnly_ok _).bind fun _ => failsOnly_ok _
  | noSignOfMarkup =>
      exact (Html.failsOnly_isLikelyXssSink n).bind fun _ => failsOnly_ok _

namespace Configuration

theorem failsOnly_rule_of_mem {kind : QueryKind} {c : Characteristic}
    (h : c ∈ (ofKind kind).characteristics) (n : Node) : FailsOnly IsUnusable (c.rule n) := by
  rw [Ground.characteristics_ofKind, List.mem_append] at h
  rcases h with hclass | hground
  · obtain ⟨k, -, rfl⟩ := List.mem_map.mp hclass
    exact failsOnly_ok _
  · obtain ⟨ground, -, rfl⟩ := List.mem_map.mp hground
    exact ground.failsOnly_rule n

theorem failsOnly_applicable (kind : QueryKind) {some : List Characteristic}
    (h : some ⊆ (ofKind kind).characteristics) (n : Node) :
    FailsOnly IsUnusable (Characteristic.applicable n some) := by
  intro failure hfails
  obtain ⟨before, c, after, rfl, -, hrule⟩ := Characteristic.applicable_eq_error_iff.mp hfails
  have hmem : c ∈ before ++ c :: after := List.mem_append_right before List.mem_cons_self
  exact failsOnly_rule_of_mem (h hmem) n failure hrule

/-- A question about a node that fails together with those about sinks, and is answered where all
rules about sinks answer. -/
theorem failsOnly_of_sinkQuestions (kind : QueryKind) (n : Node) {α : Type}
    {question : Except RuleFailure α}
    (hfails : ∀ failure, (ofKind kind).SinkQuestionsFail n failure → question = .error failure)
    (hanswers : (ofKind kind).SinkRulesAnswer n → ∃ a, question = .ok a) :
    FailsOnly IsUnusable question := by
  cases happlying : Characteristic.applicable n (ofKind kind).characteristics with
  | error failure =>
      rw [hfails failure (.of_applicable happlying)]
      exact failsOnly_error (failsOnly_applicable kind (List.Subset.refl _) n failure happlying)
  | ok applying =>
      obtain ⟨a, ha⟩ := hanswers (Characteristic.AllAnswer.of_applicable happlying)
      rw [ha]
      exact failsOnly_ok a

theorem failsOnly_sinkStatus (kind : QueryKind) (n : Node) :
    FailsOnly IsUnusable ((ofKind kind).sinkStatus n) :=
  failsOnly_of_sinkQuestions kind n (fun _ h => h.sinkStatus) fun h =>
    let ⟨_, hshows⟩ := h.exists_shows
    ⟨_, hshows.sinkStatus⟩

theorem failsOnly_exclusionReasons (kind : QueryKind) (n : Node) :
    FailsOnly IsUnusable ((ofKind kind).exclusionReasons n) :=
  failsOnly_of_sinkQuestions kind n (fun _ h => h.exclusionReasons) fun h =>
    let ⟨_, hshows⟩ := h.exists_shows
    ⟨_, hshows.exclusionReasons⟩

theorem failsOnly_findAmbiguity (kind : QueryKind) (n : Node) :
    FailsOnly IsUnusable ((ofKind kind).findAmbiguity n) :=
  failsOnly_of_sinkQuestions kind n (fun _ h => h.findAmbiguity) fun h => h.exists_findAmbiguity

theorem failsOnly_isEffectiveSink (kind : QueryKind) (n : Node) :
    FailsOnly IsUnusable ((ofKind kind).isEffectiveSink n) :=
  failsOnly_of_sinkQuestions kind n (fun _ h => h.isEffectiveSink) fun h =>
    let ⟨_, hshows⟩ := h.exists_shows
    ⟨_, hshows.isEffectiveSink⟩

theorem failsOnly_isKnownSink (kind : QueryKind) (n : Node) :
    FailsOnly IsUnusable ((ofKind kind).isKnownSink n) :=
  failsOnly_of_sinkQuestions kind n (fun _ h => h.isKnownSink) fun h =>
    let ⟨_, hshows⟩ := h.exists_shows
    ⟨_, hshows.isKnownSink⟩

/-- The sources of a shipped query are told by their classes, which takes no value that could be
unusable. -/
theorem sourceRulesAnswer_ofKind (kind : QueryKind) (n : Node) :
    (ofKind kind).SourceRulesAnswer n := by
  cases kind <;> exact ⟨⟨_, rfl⟩, nofun⟩

theorem failsOnly_extractWorkItems (kind : QueryKind) (nodes : List Node) :
    FailsOnly IsUnusable ((ofKind kind).extractWorkItems nodes) := by
  have hunseen : ∀ seen, FailsOnly IsUnusable ((ofKind kind).extractUnseen seen nodes) := by
    induction nodes with
    | nil => exact fun seen => failsOnly_ok []
    | cons n rest ih =>
        intro seen
        rw [extractUnseen]
        split
        · exact ih seen
        · have hitems : FailsOnly IsUnusable ((ofKind kind).itemsOf n) :=
            (failsOnly_orFail _).bind fun features => failsOnly_ok _
          have hrest (isCandidate : Bool) : FailsOnly IsUnusable (do
              let items ← if isCandidate then (ofKind kind).itemsOf n else pure []
              let others ← (ofKind kind).extractUnseen (n.id :: seen) rest
              return items ++ others) := by
            cases isCandidate with
            | true => exact hitems.bind fun items => (ih _).bind fun others => failsOnly_ok _
            | false => exact (ih _).bind fun others => failsOnly_ok _
          refine (failsOnly_isEffectiveSink kind n).bind fun effective => ?_
          cases effective with
          | true => exact (failsOnly_isKnownSink kind n).bind fun known => hrest !known
          | false => exact hrest false
  exact hunseen []

theorem failsOnly_isSinkCandidateWithFlow (kind : QueryKind) (path : FlowPath)
    (known : Option (List (String × String))) :
    FailsOnly IsUnusable ((ofKind kind).isSinkCandidateWithFlow path known) := by
  obtain ⟨holds, hsource⟩ := (sourceRulesAnswer_ofKind kind path.source).1
  have hlikely : FailsOnly IsUnusable
      ((ofKind kind).isFlowLikelyInBaseQuery path.source path.sink) := by
    rw [isFlowLikelyInBaseQuery, isKnownSource, hsource]
    cases holds with
    | true => exact failsOnly_isKnownSink kind path.sink
    | false => exact failsOnly_ok false
  rw [isSinkCandidateWithFlow]
  split
  · exact failsOnly_ok _
  · refine hlikely.bind fun likely => ?_
    split
    · exact failsOnly_ok _
    · refine (failsOnly_isEffectiveSink kind path.sink).bind fun effective => ?_
      split
      · exact (failsOnly_isKnownSink kind path.sink).bind fun known => failsOnly_ok _
      · exact failsOnly_ok _

theorem failsOnly_selectNovel (kind : QueryKind) (known : List (String × String))
    (paths : List FlowPath) :
    ∀ seen, FailsOnly IsUnusable ((ofKind kind).selectNovel known seen paths) := by
  induction paths with
  | nil => exact fun seen => failsOnly_ok []
  | cons path rest ih =>
      intro seen
      rw [selectNovel]
      split
      · exact ih seen
      · refine (failsOnly_isSinkCandidateWithFlow kind path _).bind fun candidate => ?_
        split
        · exact (ih _).bind fun others => failsOnly_ok _
        · exact ih seen

theorem failsOnly_workItemsFromPaths (kind : QueryKind) (paths : List FlowPath) :
    FailsOnly IsUnusable ((ofKind kind).workItemsFromPaths paths) :=
  (failsOnly_filterM fun path _ => failsOnly_isSinkCandidateWithFlow kind path none).bind
    fun _ => failsOnly_extractWorkItems kind _

end Configuration

namespace Triage

/-- What can go wrong in a run over a graph. -/
inductive Cause (g : Snapshot) (engine : Option FlowEngine) (scorer : Option Scorer) :
    TriageFailure → Prop where
  /-- A rule cannot use a value of a node. -/
  | value (cause : ValueFault) : Cause g engine scorer (.rule (.unusable cause))
  /-- The engine fails. -/
  | engine {e : FlowEngine} {predicates : FlowPredicates} {failure : RuleFailure}
      (hengine : engine = some e) (hfails : e predicates g = .error failure) :
      Cause g engine scorer (.rule failure)
  /-- The scorer fails on a batch. -/
  | scorer {sc : Scorer} {number : Nat} {batch : List WorkItem} {failure : RuleFailure}
      (hscorer : scorer = some sc) (hfails : sc number batch = .error failure) :
      Cause g engine scorer (.scoring (.scorer failure))
  /-- The scorer's answer is no collection of numbers. -/
  | answer (cause : ValueFault) : Cause g engine scorer (.scoring (.unusable cause))
  /-- The scorer's answer has too few or too many scores. -/
  | count {scores items : Nat} (hne : scores ≠ items) :
      Cause g engine scorer (.scoring (.wrongCount scores items))

variable {s : Settings} {g : Snapshot} {engine : Option FlowEngine} {scorer : Option Scorer}

/-- Labels fail with the rules of characteristics, or since a name cannot be shown. -/
theorem failsOnly_labelsFor_shipped (kind : QueryKind) (n : Node) :
    FailsOnly IsUnusable (LabellerRegistry.shipped.labelsFor n) := by
  have hnamed (mark : String) (name : Value) :
      FailsOnly IsUnusable (LabellerRegistry.namedDetails mark name) := by
    rw [LabellerRegistry.namedDetails]
    split
    · exact (failsOnly_orFail _).bind fun shown => failsOnly_ok _
    · exact failsOnly_ok _
  have hstructure : FailsOnly IsUnusable (LabellerRegistry.structureDetails n) :=
    FailsOnly.ite_bind (hnamed _ _) (failsOnly_ok _) fun callee =>
      FailsOnly.ite_bind (hnamed _ _) (failsOnly_ok _) fun property => failsOnly_ok _
  have hdetails : ∀ l ∈ LabellerRegistry.shipped.labellers, FailsOnly IsUnusable (l.emit n) := by
    simp only [LabellerRegistry.shipped, List.forall_mem_cons]
    refine ⟨?_, failsOnly_ok _, hstructure, failsOnly_ok _, List.forall_mem_nil _⟩
    exact (Configuration.failsOnly_applicable kind
      (List.subset_append_left _ _) n).bind fun applying => failsOnly_ok _
  refine FailsOnly.bind (failsOnly_mapM fun l hl => ?_) fun groups => failsOnly_ok _
  exact (hdetails l hl).bind fun details => (failsOnly_orFail _).bind fun shown => failsOnly_ok _

theorem failsOnly_classifyNode (s : Settings) (kind : QueryKind) (n : Node) :
    FailsOnly IsUnusable ((classifier s (.ofKind kind)).classifyNode n) := by
  have hlabels : FailsOnly IsUnusable ((classifier s (.ofKind kind)).labels n) := by
    refine (failsOnly_labelsFor_shipped kind n).bind fun registered => ?_
    split
    · exact (Configuration.failsOnly_applicable kind
        (List.subset_append_right _ _) n).bind fun refinements => failsOnly_ok _
    · exact failsOnly_ok registered
  obtain ⟨source, hsource⟩ := (Configuration.sourceRulesAnswer_ofKind kind n).exists_sourceStatus
  have hsource : FailsOnly IsUnusable ((Configuration.ofKind kind).sourceStatus n) := by
    rw [hsource]
    exact failsOnly_ok source
  exact (Configuration.failsOnly_sinkStatus kind n).bind fun status =>
    FailsOnly.ite_bind (Configuration.failsOnly_exclusionReasons kind n) (failsOnly_ok _)
      fun reasons => FailsOnly.ite_bind hlabels (failsOnly_ok _) fun labels =>
        hsource.bind fun source => (Configuration.failsOnly_findAmbiguity kind n).bind
          fun ambiguity => failsOnly_ok _

theorem failsOnly_classifyGraph (s : Settings) (kind : QueryKind) (g : Snapshot) :
    FailsOnly IsUnusable ((classifier s (.ofKind kind)).classifyGraph g).outcome := by
  rw [Classifier.classifyGraph, Logged.outcome_bind, Logged.outcome_ofExcept, Pool.map_eq_mapM]
  exact (failsOnly_mapM fun n _ => failsOnly_classifyNode s kind n).bind fun entries =>
    failsOnly_ok _

theorem failsOnly_itemsFor (kind : QueryKind) (g : Snapshot) (engine : Option FlowEngine)
    (scorer : Option Scorer) :
    FailsOnly (fun failure => Cause g engine scorer (.rule failure))
      (itemsFor g engine (.ofKind kind)).outcome := by
  have hvalue : ∀ failure, IsUnusable failure → Cause g engine scorer (.rule failure) := by
    rintro failure ⟨cause, rfl⟩
    exact .value cause
  cases engine with
  | none =>
      exact fun failure h =>
        hvalue failure (Configuration.failsOnly_extractWorkItems kind _ failure h)
  | some e =>
      have hengine : ∀ predicates, FailsOnly
          (fun failure => Cause g (some e) scorer (.rule failure)) (e predicates g) :=
        fun predicates failure h => .engine rfl h
      simp only [itemsFor, Configuration.candidatePaths, Logged.outcome_bind,
        Logged.outcome_ofExcept, Logged.outcome_write, Logged.outcome_pure, ok_bind]
      refine FailsOnly.bind ?_ fun paths failure h =>
        hvalue failure (Configuration.failsOnly_workItemsFromPaths kind paths failure h)
      refine (hengine _).bind fun known => (hengine _).bind fun boosted => ?_
      refine FailsOnly.bind ?_ fun selected => failsOnly_ok selected
      exact fun failure h =>
        hvalue failure (Configuration.failsOnly_selectNovel kind _ boosted _ failure h)

/-- Scoring fails as the scorer does, or in reading its answers; the limits are never at fault. -/
theorem failsOnly_scoreIn {sc : Scorer} (hscorer : scorer = some sc) (order : List Nat)
    (items : List WorkItem) (s : ScoringSettings) (earlier : Nat) :
    FailsOnly (fun failure => Cause g engine scorer (.scoring failure))
      (Scoring.scoreIn order sc items s.batchSize s.maxConcurrency earlier).outcome := by
  have hunusable {α : Type} (result : Except ValueFault α) :
      FailsOnly (fun failure => Cause g engine scorer (.scoring failure))
        (result.mapError .unusable) :=
    failsOnly_mapError (fun cause => .answer cause) result
  have hread (batch : List WorkItem) (answer : Value) :
      FailsOnly (fun failure => Cause g engine scorer (.scoring failure))
        (Scoring.readAnswer batch answer) := by
    refine (hunusable _).bind fun count => ?_
    split
    · rename_i hne
      exact failsOnly_error (.count hne)
    · refine (hunusable _).bind fun scores => failsOnly_mapM fun entry _ => ?_
      exact (hunusable _).bind fun score => failsOnly_ok _
  have hsize : ¬ s.batchSize < 1 := Int.not_lt.mpr s.batchSize_pos
  have hconcurrency : ¬ s.maxConcurrency < 1 := Int.not_lt.mpr s.maxConcurrency_pos
  obtain ⟨bound, hbound⟩ := Int.eq_ofNat_of_zero_le (show 0 ≤ s.maxConcurrency by omega)
  rw [Scoring.scoreIn, if_neg hsize, if_neg hconcurrency, hbound]
  simp only [Logged.outcome_bind, Logged.outcome_ofExcept, Logged.outcome_write,
    Logged.outcome_pure, ok_bind]
  refine FailsOnly.bind ?_ fun answers =>
    (failsOnly_mapM fun entry _ => hread _ _).bind fun parts => failsOnly_ok _
  refine FailsOnly.mapError (Gather.failsOnly_resultsIn (by omega)
    (p := fun failure => Cause g engine scorer (.scoring (.scorer failure))) ?_) ?_
  · intro task htask failure hfails
    obtain ⟨entry, -, rfl⟩ := List.mem_map.mp htask
    exact .scorer hscorer hfails
  · rintro _ ⟨failure, rfl, hcause⟩
    exact hcause

theorem failsOnly_scoreAll {sc : Scorer} (hscorer : scorer = some sc) (s : ScoringSettings)
    (items : QueryTable (List WorkItem)) :
    ∀ earlier, FailsOnly (fun failure => Cause g engine scorer (.scoring failure))
      (scoreAll s sc earlier items).outcome := by
  induction items with
  | nil => exact fun earlier => failsOnly_ok []
  | cons entry rest ih =>
      intro earlier
      simp only [scoreAll, Scoring.score, Logged.outcome_bind, Logged.outcome_pure]
      refine FailsOnly.bind ?_ fun run => (ih _).bind fun others => failsOnly_ok _
      exact (failsOnly_scoreIn hscorer _ _ s earlier).bind fun scored => failsOnly_ok _

/-- Whatever goes wrong in a run has gone wrong in the engine, in the scorer, or in a value that a
rule of a query or the reading of an answer cannot use. -/
theorem failsOnly_run (s : Settings) (g : Snapshot) (engine : Option FlowEngine)
    (scorer : Option Scorer) :
    FailsOnly (Cause g engine scorer) (run s g engine scorer).outcome := by
  rw [outcome_run]
  refine FailsOnly.bind ?_ fun reports => FailsOnly.bind ?_ fun items =>
    FailsOnly.bind ?_ fun scored => failsOnly_ok _
  · refine FailsOnly.mapError (failsOnly_tabulate fun kind _ => failsOnly_classifyGraph s kind g) ?_
    rintro _ ⟨cause, rfl⟩
    exact .value cause
  · exact FailsOnly.mapError
      (failsOnly_tabulate fun kind _ => failsOnly_itemsFor kind g engine scorer) fun _ h => h
  · refine FailsOnly.mapError (p := fun failure => Cause g engine scorer (.scoring failure)) ?_
      fun _ h => h
    cases hscorer : scorer with
    | none => exact failsOnly_ok _
    | some sc => exact failsOnly_scoreAll rfl s.scoring items 0

end Triage

end TaintTriage
