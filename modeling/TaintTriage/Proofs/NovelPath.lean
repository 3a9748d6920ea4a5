import TaintTriage.Proofs.FirstPerKey
import TaintTriage.Proofs.SinkAxis
import TaintTriage.Query.Shipped

/-!
The candidate paths of a configuration, whatever the engine.  A path is novel if the known analysis
reports no path between its ends and it ends at an effective sink.  The test of the known analysis
on both ends adds nothing to that, since an effective sink is no known one.
-/

namespace TaintTriage

def FlowPath.sinkId (p : FlowPath) : String := p.sink.id

namespace Configuration

variable (c : Configuration)

def EndRulesAnswer (p : FlowPath) : Prop :=
  c.knownSource.Answers p.source ∧ c.SinkRulesAnswer p.sink

instance (p : FlowPath) : Decidable (c.EndRulesAnswer p) :=
  inferInstanceAs (Decidable (_ ∧ _))

/-- None of some known paths has the ends of the path, and it ends at an effective sink. -/
def IsNovel (known : List FlowPath) (p : FlowPath) : Prop :=
  p.key ∉ known.map FlowPath.key ∧ c.sinkStatus p.sink = .ok .effectiveSink

/-- There is a novel path at the position, and no earlier novel one ends at the same sink. -/
def IsFirstNovel (known boosted : List FlowPath) (i : Nat) : Prop :=
  ∃ p, boosted[i]? = some p ∧ c.IsNovel known p ∧
    ∀ j q, j < i → boosted[j]? = some q → c.IsNovel known q → q.sinkId ≠ p.sinkId

variable {c} {p : FlowPath} {known boosted : List FlowPath}

theorem isNovel_iff {e : SinkEvidence} (hshows : c.Shows p.sink e) :
    c.IsNovel known p ↔ p.key ∉ known.map FlowPath.key ∧ e.effective = true ∧ e.known = false := by
  rw [IsNovel, hshows.sinkStatus, Except.ok.injEq, e.status_eq_effectiveSink_iff]

theorem isFlowLikelyInBaseQuery_eq {e : SinkEvidence} {source sink : Node} {atSource : Bool}
    (hshows : c.Shows sink e) (hsource : c.knownSource source = .ok atSource) :
    c.isFlowLikelyInBaseQuery source sink = .ok (atSource && e.known) := by
  simp only [isFlowLikelyInBaseQuery, isKnownSource, hsource, hshows.isKnownSink, ok_bind,
    pure_eq_ok]
  cases atSource <;> rfl

/-- The test of a path is decided by its key and by its sink. -/
theorem isSinkCandidateWithFlow_eq {e : SinkEvidence} {keys : List (String × String)}
    (hshows : c.Shows p.sink e) (hsource : c.knownSource.Answers p.source) :
    c.isSinkCandidateWithFlow p (some keys) =
      .ok (!keys.contains p.key && e.effective && !e.known) := by
  obtain ⟨atSource, hatSource⟩ := hsource
  simp only [isSinkCandidateWithFlow, Option.getD_some,
    isFlowLikelyInBaseQuery_eq hshows hatSource, hshows.isEffectiveSink, hshows.isKnownSink,
    ok_bind, pure_eq_ok]
  cases keys.contains p.key with
  | true => rfl
  | false => cases atSource <;> cases e.known <;> cases e.effective <;> rfl

theorem EndRulesAnswer.exists_isSinkCandidateWithFlow (h : c.EndRulesAnswer p)
    (known : List FlowPath) :
    ∃ holds, c.isSinkCandidateWithFlow p (some (known.map FlowPath.key)) = .ok holds ∧
      (holds = true ↔ c.IsNovel known p) := by
  obtain ⟨e, he⟩ := h.2.exists_shows
  refine ⟨_, isSinkCandidateWithFlow_eq he h.1, ?_⟩
  rw [isNovel_iff he]
  simp [and_assoc]

theorem selectNovel_eq {keys : List (String × String)} {accepts : FlowPath → Bool}
    (h : ∀ p ∈ boosted, c.isSinkCandidateWithFlow p (some keys) = .ok (accepts p))
    (seen : List String) :
    c.selectNovel keys seen boosted = .ok (firstPerKey FlowPath.sinkId accepts seen boosted) := by
  induction boosted generalizing seen with
  | nil => rfl
  | cons p rest ih =>
      have hrest := ih fun q hq => h q (List.mem_cons_of_mem p hq)
      rw [selectNovel, h p List.mem_cons_self]
      change (if seen.contains p.sinkId then _ else _) = _
      -- A path to a sink that was taken is passed over before it is tested.
      by_cases hseen : p.sinkId ∈ seen
      · rw [firstPerKey_cons_of_passed fun hkept => hkept.2 hseen, ← hrest seen]
        exact if_pos (List.contains_iff_mem.mpr hseen)
      · rw [if_neg (mt List.contains_iff_mem.mp hseen), ok_bind]
        cases haccepts : accepts p with
        | true =>
            rw [firstPerKey_cons_of_kept ⟨haccepts, hseen⟩]
            simp [FlowPath.sinkId, hrest]
        | false =>
            rw [firstPerKey_cons_of_passed (by simp [haccepts])]
            simp [hrest]

/-- The loop over paths on which all rules answer, with novelty as the test. -/
theorem exists_selectNovel (h : ∀ p ∈ boosted, c.EndRulesAnswer p) (known : List FlowPath) :
    ∃ accepts : FlowPath → Bool,
      c.selectNovel (known.map FlowPath.key) [] boosted =
          .ok (firstPerKey FlowPath.sinkId accepts [] boosted) ∧
        ∀ p, accepts p = true ↔ c.IsNovel known p := by
  classical
  refine ⟨fun p => decide (c.IsNovel known p), ?_, fun p => decide_eq_true_iff⟩
  refine selectNovel_eq (fun p hp => ?_) []
  obtain ⟨holds, hholds, hiff⟩ := (h p hp).exists_isSinkCandidateWithFlow known
  rw [hholds, Except.ok.injEq, Bool.eq_iff_iff, hiff, decide_eq_true_iff]

theorem candidatePaths_outcome {engine : FlowEngine} {g : Snapshot} {selected : List FlowPath}
    (hknown : engine (c.knownPredicates g) g = .ok known)
    (hboosted : engine (c.boostedPredicates g) g = .ok boosted)
    (hselected : c.selectNovel (known.map FlowPath.key) [] boosted = .ok selected) :
    (c.candidatePaths engine g).outcome = .ok selected := by
  simp only [candidatePaths, hknown, hboosted, Logged.ofExcept, Logged.bind_eq, Logged.andThen_ok,
    hselected]
  rfl

theorem firstAt_iff_isFirstNovel {accepts : FlowPath → Bool}
    (h : ∀ p, accepts p = true ↔ c.IsNovel known p) {i : Nat} :
    FirstAt FlowPath.sinkId accepts [] boosted i ↔ c.IsFirstNovel known boosted i := by
  simp [FirstAt, IsFirstNovel, h]

end Configuration

/-- For every engine, the test of a path holds exactly for the novel ones, and the candidate paths
are the boosted paths at the positions where a novel path ends at a sink for the first time. -/
theorem candidatePaths_firstNovel (c : Configuration) (engine : FlowEngine) (g : Snapshot)
    (known boosted : List FlowPath)
    (hknown : engine (c.knownPredicates g) g = .ok known)
    (hboosted : engine (c.boostedPredicates g) g = .ok boosted)
    (h : ∀ p ∈ boosted, c.EndRulesAnswer p) :
    (∀ p, c.EndRulesAnswer p →
      ∃ holds, c.isSinkCandidateWithFlow p (some (known.map FlowPath.key)) = .ok holds ∧
        (holds = true ↔ c.IsNovel known p)) ∧
      ∃ selected, (c.candidatePaths engine g).outcome = .ok selected ∧
        (∃ positions : List Nat, positions.Pairwise (· < ·) ∧
          positions.map (boosted[·]?) = selected.map some ∧
          ∀ i, i ∈ positions ↔ c.IsFirstNovel known boosted i) ∧
        selected.Sublist boosted ∧ (selected.map FlowPath.sinkId).Nodup ∧
        (∀ p ∈ selected, c.IsNovel known p) ∧
        ∀ p ∈ boosted, c.IsNovel known p → ∃ q ∈ selected, q.sinkId = p.sinkId := by
  refine ⟨fun p hp => hp.exists_isSinkCandidateWithFlow known, ?_⟩
  obtain ⟨accepts, hselect, haccepts⟩ := Configuration.exists_selectNovel h known
  obtain ⟨positions, hlt, hget, hmem⟩ :=
    firstPerKey_positions FlowPath.sinkId accepts [] boosted
  refine ⟨_, Configuration.candidatePaths_outcome hknown hboosted hselect,
    ⟨positions, hlt, hget, fun i => ?_⟩, firstPerKey_sublist [] boosted,
    firstPerKey_keys_nodup [] boosted, fun p hp => ?_, fun p hp hnovel => ?_⟩
  · exact (hmem i).trans (Configuration.firstAt_iff_isFirstNovel haccepts)
  · exact (haccepts p).mp (accepts_of_mem_firstPerKey hp).1
  · exact exists_mem_firstPerKey hp ((haccepts p).mpr hnovel) List.not_mem_nil

/-- A path between two nodes of which nothing is known. -/
def unknownPath (source sink : String) : FlowPath :=
  ⟨.bare source "parameter", .bare sink "argument", []⟩

/-- An engine that reports one path whatever the predicates, and two more if they take its sink. -/
def generousEngine : FlowEngine := fun predicates _ => do
  if ← predicates.isSink (.bare "s" "argument") then
    return [unknownPath "a" "s", unknownPath "b" "s", unknownPath "a" "t", unknownPath "c" "s"]
  else return [unknownPath "a" "s"]

/-- The first path to a sink is no novel one, and still a later path to that sink is kept. -/
theorem candidatePaths_firstNovel_generousEngine :
    ∃ known boosted,
      generousEngine (Configuration.sqlInjection.knownPredicates ⟨[], .empty, .nil⟩)
          ⟨[], .empty, .nil⟩ = .ok known ∧
        generousEngine (Configuration.sqlInjection.boostedPredicates ⟨[], .empty, .nil⟩)
          ⟨[], .empty, .nil⟩ = .ok boosted ∧
        (∀ p ∈ boosted, Configuration.sqlInjection.EndRulesAnswer p) ∧
        ∃ selected,
          (Configuration.sqlInjection.candidatePaths generousEngine
            ⟨[], .empty, .nil⟩).outcome = .ok selected ∧
          ∃ p ∈ selected, p.sinkId = "s" ∧ p.key ≠ ("a", "s") := by
  have h : ∀ p ∈ [unknownPath "a" "s", unknownPath "b" "s", unknownPath "a" "t",
      unknownPath "c" "s"], Configuration.sqlInjection.EndRulesAnswer p := by
    decide
  obtain ⟨-, selected, hselected, -, -, -, hnovel, hreached⟩ :=
    candidatePaths_firstNovel .sqlInjection generousEngine ⟨[], .empty, .nil⟩ _ _ rfl rfl h
  obtain ⟨p, hp, hsink⟩ := hreached (unknownPath "b" "s") (by simp) ⟨by decide, rfl⟩
  refine ⟨_, _, rfl, rfl, h, selected, hselected, p, hp, hsink, fun heq => ?_⟩
  exact (hnovel p hp).1 (heq ▸ List.mem_cons_self)

end TaintTriage
