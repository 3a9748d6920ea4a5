import TaintTriage.Proofs.NovelPath
import TaintTriage.WorkItem

/-!
The nodes that work items are made of.  The effective sinks that are no known sinks are the nodes
with the status of an effective sink, so that extraction goes by the status, after repeated ids are
dropped.  It works unless one of these nodes has no features, since what stands for its file has no
text.
-/

namespace TaintTriage

def NodeRecord.shownFeatures (n : Node) : List (String × Value) :=
  n.features.toOption.getD []

theorem NodeRecord.features_eq (n : Node) :
    n.features =
      if n.filePath.isShort then .ok n.shownFeatures else .error .unwrittenInteger := by
  have hshown : Value.ShownIf n.filePath.isShort n.features :=
    n.filePath.text?_shownIf.map fun file => n.featuresWith (file.getD "")
  cases hshort : n.filePath.isShort with
  | false => simpa [hshort] using hshown.eq_error_iff.mpr hshort
  | true =>
      obtain ⟨features, hfeatures⟩ := hshown.exists_iff.mpr hshort
      rw [shownFeatures, hfeatures]
      rfl

theorem NodeRecord.features_eq_ok {n : Node} (h : n.filePath.isShort = true) :
    n.features = .ok n.shownFeatures := by
  rw [n.features_eq, if_pos h]

def NodeRecord.HasFeatures (n : Node) : Prop :=
  ∃ features, n.features = .ok features

theorem NodeRecord.hasFeatures_iff {n : Node} : n.HasFeatures ↔ n.filePath.isShort = true := by
  rw [HasFeatures, n.features_eq]
  cases n.filePath.isShort <;> simp

/-- A file is given as it is declared: by a path, or not at all. -/
def FileRef.isDeclared : FileRef → Bool
  | .path _ | .other .null => true
  | .other _ => false

/-- A node whose file is given as it is declared has features; only a number in its place, with too
many digits, keeps a node from having them. -/
theorem NodeRecord.hasFeatures_of_isDeclared {n : Node} (h : n.filePath.isDeclared = true) :
    n.HasFeatures := by
  rw [hasFeatures_iff]
  cases hfile : n.filePath with
  | path p => rfl
  | other v =>
      rw [hfile] at h
      cases v with
      | null => rfl
      | _ => exact Bool.noConfusion h

def NodeRecord.workItem (n : Node) (t : EndpointType) : Except ValueFault WorkItem :=
  n.features.map fun features => ⟨n.id, t, features⟩

/-- An outcome that depends on whether features can be told: it is there exactly if some nodes have
them. -/
structure WorksIf {α : Type} (haveFeatures : Prop) (outcome : Except RuleFailure α) : Prop where
  works : haveFeatures → ∃ a, outcome = .ok a
  fails : ¬ haveFeatures → outcome = .error (.unusable .unwrittenInteger)

theorem WorksIf.exists_iff {α : Type} {haveFeatures : Prop} {outcome : Except RuleFailure α}
    (h : WorksIf haveFeatures outcome) : (∃ a, outcome = .ok a) ↔ haveFeatures := by
  refine ⟨fun ⟨a, ha⟩ => ?_, h.works⟩
  exact Classical.byContradiction fun hnot => nomatch ha.symm.trans (h.fails hnot)

theorem WorksIf.of_iff {α : Type} {haveFeatures : Prop} {outcome : Except RuleFailure α}
    (h : (∃ a, outcome = .ok a) ↔ haveFeatures)
    (hfails : FailsOnly (· = .unusable .unwrittenInteger) outcome) :
    WorksIf haveFeatures outcome :=
  ⟨h.mpr, fun hnot => hfails.eq_error (mt h.mp hnot)⟩

namespace Configuration

def shownItems (c : Configuration) (n : Node) : List WorkItem :=
  c.relevantSinkTypes.map fun t => ⟨n.id, t, n.shownFeatures⟩

theorem itemsOf_eq (c : Configuration) (n : Node) :
    c.itemsOf n =
      if n.filePath.isShort then .ok (c.shownItems n)
      else .error (.unusable .unwrittenInteger) := by
  rw [itemsOf, n.features_eq]
  cases n.filePath.isShort <;> rfl

def itemsOfEach (c : Configuration) (nodes : List Node) : Except RuleFailure (List WorkItem) :=
  if nodes.all (·.filePath.isShort) then .ok (nodes.flatMap c.shownItems)
  else .error (.unusable .unwrittenInteger)

theorem itemsOfEach_cons (c : Configuration) (n : Node) (rest : List Node) :
    c.itemsOfEach (n :: rest) = do
      let items ← c.itemsOf n
      let others ← c.itemsOfEach rest
      return items ++ others := by
  rw [itemsOf_eq, itemsOfEach, itemsOfEach, List.all_cons]
  cases n.filePath.isShort with
  | false => rfl
  | true => cases rest.all (·.filePath.isShort) <;> rfl

theorem itemsOfEach_eq_ok_iff {c : Configuration} {nodes : List Node} {items : List WorkItem} :
    c.itemsOfEach nodes = .ok items ↔
      (∀ n ∈ nodes, n.filePath.isShort = true) ∧ nodes.flatMap c.shownItems = items := by
  rw [itemsOfEach, ← List.all_eq_true]
  cases nodes.all (·.filePath.isShort) <;> simp

theorem exists_itemsOfEach_iff {c : Configuration} {nodes : List Node} :
    (∃ items, c.itemsOfEach nodes = .ok items) ↔ ∀ n ∈ nodes, n.HasFeatures := by
  simp only [itemsOfEach_eq_ok_iff, exists_and_left, exists_eq', and_true,
    NodeRecord.hasFeatures_iff]

theorem failsOnly_itemsOfEach (c : Configuration) (nodes : List Node) :
    FailsOnly (· = .unusable .unwrittenInteger) (c.itemsOfEach nodes) := by
  rw [itemsOfEach]
  split
  · exact failsOnly_ok _
  · exact failsOnly_error rfl

theorem itemsOfEach_worksIf (c : Configuration) (nodes : List Node) :
    WorksIf (∀ n ∈ nodes, n.HasFeatures) (c.itemsOfEach nodes) :=
  .of_iff exists_itemsOfEach_iff (c.failsOnly_itemsOfEach nodes)

/-- There is one item for each node and relevant type, in order. -/
theorem map_ok_of_itemsOfEach {c : Configuration} {nodes : List Node} {items : List WorkItem}
    (h : c.itemsOfEach nodes = .ok items) :
    items.map Except.ok = nodes.flatMap fun n => c.relevantSinkTypes.map n.workItem := by
  obtain ⟨hshort, rfl⟩ := itemsOfEach_eq_ok_iff.mp h
  rw [List.map_flatMap, List.flatMap_def, List.flatMap_def]
  refine congrArg List.flatten (List.map_congr_left fun n hn => ?_)
  rw [shownItems, List.map_map]
  refine List.map_congr_left fun t _ => ?_
  rw [NodeRecord.workItem, NodeRecord.features_eq_ok (hshort n hn)]
  rfl

/-- A node is a candidate if it is an effective sink that is not known. -/
def IsCandidate (c : Configuration) (n : Node) : Prop :=
  c.sinkStatus n = .ok .effectiveSink

instance (c : Configuration) (n : Node) : Decidable (c.IsCandidate n) :=
  match h : c.sinkStatus n with
  | .ok .effectiveSink => isTrue h
  | .ok .knownSink => isFalse fun hn => nomatch Except.ok.inj (h.symm.trans hn)
  | .ok .excluded => isFalse fun hn => nomatch Except.ok.inj (h.symm.trans hn)
  | .ok .notASink => isFalse fun hn => nomatch Except.ok.inj (h.symm.trans hn)
  | .error _ => isFalse fun hn => nomatch h.symm.trans hn

variable {c : Configuration} {nodes : List Node}

theorem isCandidate_iff {n : Node} {e : SinkEvidence} (hshows : c.Shows n e) :
    c.IsCandidate n ↔ e.effective = true ∧ e.known = false := by
  rw [IsCandidate, hshows.sinkStatus, Except.ok.injEq, e.status_eq_effectiveSink_iff]

theorem decide_isCandidate {n : Node} {e : SinkEvidence} (hshows : c.Shows n e) :
    decide (c.IsCandidate n) = (e.effective && !e.known) := by
  rw [Bool.eq_iff_iff, decide_eq_true_iff, isCandidate_iff hshows]
  simp

/-- What is extracted are the items of the candidates among the first nodes with each id. -/
theorem extractUnseen_eq (h : ∀ n ∈ nodes, c.SinkRulesAnswer n) (seen : List String) :
    c.extractUnseen seen nodes =
      c.itemsOfEach ((firstPerKey NodeRecord.id (fun _ => true) seen nodes).filter
        fun n => decide (c.IsCandidate n)) := by
  induction nodes generalizing seen with
  | nil => rfl
  | cons n rest ih =>
      have hrest := ih fun m hm => h m (List.mem_cons_of_mem n hm)
      rw [extractUnseen]
      by_cases hseen : n.id ∈ seen
      · rw [if_pos (List.contains_iff_mem.mpr hseen), hrest,
          firstPerKey_cons_of_passed fun hkept => hkept.2 hseen]
      · obtain ⟨e, he⟩ := (h n List.mem_cons_self).exists_shows
        rw [if_neg (mt List.contains_iff_mem.mp hseen), firstPerKey_cons_of_kept ⟨rfl, hseen⟩]
        simp only [he.isEffectiveSink, he.isKnownSink, ok_bind, hrest, List.filter_cons,
          decide_isCandidate he]
        cases e.effective <;> cases e.known <;> simp [itemsOfEach_cons, -pure_eq_ok]

/-- Extraction works where the rules answer and the nodes have features. -/
theorem exists_extractWorkItems (h : ∀ n ∈ nodes, c.SinkRulesAnswer n)
    (hfeatures : ∀ n ∈ nodes, n.HasFeatures) : ∃ items, c.extractWorkItems nodes = .ok items := by
  rw [extractWorkItems, extractUnseen_eq h, exists_itemsOfEach_iff]
  intro n hn
  exact hfeatures n ((firstPerKey_sublist [] nodes).subset (List.mem_filter.mp hn).1)

/-- Where all ids are distinct, every candidate gives its items, in order. -/
theorem extractWorkItems_eq (h : ∀ n ∈ nodes, c.SinkRulesAnswer n)
    (hdistinct : (nodes.map (·.id)).Nodup) :
    c.extractWorkItems nodes =
      c.itemsOfEach (nodes.filter fun n => decide (c.IsCandidate n)) := by
  rw [extractWorkItems, extractUnseen_eq h,
    firstPerKey_eq_self hdistinct fun _ _ => List.not_mem_nil]

theorem forall_mem_candidates_iff {p : Node → Prop} :
    (∀ n ∈ nodes.filter fun n => decide (c.IsCandidate n), p n) ↔
      ∀ n ∈ nodes, c.IsCandidate n → p n := by
  simp [List.mem_filter]

theorem extractWorkItems_worksIf (h : ∀ n ∈ nodes, c.SinkRulesAnswer n)
    (hdistinct : (nodes.map (·.id)).Nodup) :
    WorksIf (∀ n ∈ nodes, c.IsCandidate n → n.HasFeatures) (c.extractWorkItems nodes) := by
  rw [extractWorkItems_eq h hdistinct, ← forall_mem_candidates_iff]
  exact c.itemsOfEach_worksIf _

variable {paths : List FlowPath}

/-- Where no path to a candidate has a known key, the test of a path goes by its sink alone. -/
theorem isSinkCandidateWithFlow_of_fresh {p : FlowPath} {keys : List (String × String)}
    (h : c.EndRulesAnswer p) (hfresh : c.IsCandidate p.sink → p.key ∉ keys) :
    c.isSinkCandidateWithFlow p (some keys) = .ok (decide (c.IsCandidate p.sink)) := by
  obtain ⟨e, he⟩ := h.2.exists_shows
  rw [isSinkCandidateWithFlow_eq he h.1, Except.ok.injEq, Bool.and_assoc, ← decide_isCandidate he]
  by_cases hcandidate : c.IsCandidate p.sink
  · have hkey : keys.contains p.key = false := by simpa using hfresh hcandidate
    rw [hkey]
    rfl
  · rw [decide_eq_false hcandidate, Bool.and_false]

theorem isSinkCandidateWithFlow_none {p : FlowPath} (h : c.EndRulesAnswer p) :
    c.isSinkCandidateWithFlow p none = .ok (decide (c.IsCandidate p.sink)) :=
  isSinkCandidateWithFlow_of_fresh h fun _ => List.not_mem_nil

/-- The first path to each candidate. -/
def firstToCandidates (c : Configuration) (paths : List FlowPath) : List FlowPath :=
  firstPerKey FlowPath.sinkId (fun p => decide (c.IsCandidate p.sink)) [] paths

theorem firstToCandidates_sublist : (c.firstToCandidates paths).Sublist paths :=
  firstPerKey_sublist [] paths

theorem firstToCandidates_sinkIds_nodup :
    ((c.firstToCandidates paths).map FlowPath.sinkId).Nodup :=
  firstPerKey_keys_nodup [] paths

theorem isCandidate_of_mem_firstToCandidates {p : FlowPath} (h : p ∈ c.firstToCandidates paths) :
    c.IsCandidate p.sink :=
  of_decide_eq_true (accepts_of_mem_firstPerKey h).1

theorem selectNovel_of_fresh {keys : List (String × String)} (h : ∀ p ∈ paths, c.EndRulesAnswer p)
    (hfresh : ∀ p ∈ paths, c.IsCandidate p.sink → p.key ∉ keys) :
    c.selectNovel keys [] paths = .ok (c.firstToCandidates paths) :=
  selectNovel_eq (fun p hp => isSinkCandidateWithFlow_of_fresh (h p hp) (hfresh p hp)) []

/-- Paths give the items of their sinks; only the first path to each candidate counts. -/
theorem workItemsFromPaths_eq (h : ∀ p ∈ paths, c.EndRulesAnswer p) :
    c.workItemsFromPaths paths = c.itemsOfEach ((c.firstToCandidates paths).map (·.sink)) := by
  have hnovel := filterM_eq_ok fun p hp => isSinkCandidateWithFlow_none (h p hp)
  have hsinks : ∀ n ∈ (paths.filter fun p => decide (c.IsCandidate p.sink)).map (·.sink),
      c.SinkRulesAnswer n := by
    intro n hn
    obtain ⟨p, hp, rfl⟩ := List.mem_map.mp hn
    exact (h p (List.mem_filter.mp hp).1).2
  have hfirst : firstPerKey (NodeRecord.id ∘ fun p : FlowPath => p.sink) (fun _ => true) []
      (paths.filter fun p => decide (c.IsCandidate p.sink)) = c.firstToCandidates paths :=
    firstPerKey_filter [] paths
  have hcandidates : ∀ n ∈ (c.firstToCandidates paths).map (·.sink),
      decide (c.IsCandidate n) = true := by
    intro n hn
    obtain ⟨p, hp, rfl⟩ := List.mem_map.mp hn
    exact decide_eq_true (isCandidate_of_mem_firstToCandidates hp)
  rw [workItemsFromPaths, hnovel, ok_bind, extractWorkItems, extractUnseen_eq hsinks,
    firstPerKey_map, hfirst, List.filter_eq_self.mpr hcandidates]

/-- Paths to distinct candidates give the items of their sinks, one path after another. -/
theorem workItemsFromPaths_of_distinct (h : ∀ p ∈ paths, c.EndRulesAnswer p)
    (hcandidates : ∀ p ∈ paths, c.IsCandidate p.sink)
    (hdistinct : (paths.map FlowPath.sinkId).Nodup) :
    c.workItemsFromPaths paths = c.itemsOfEach (paths.map (·.sink)) := by
  have hall : paths.filter (fun p => decide (c.IsCandidate p.sink)) = paths :=
    List.filter_eq_self.mpr fun p hp => decide_eq_true (hcandidates p hp)
  rw [workItemsFromPaths_eq h, firstToCandidates, ← firstPerKey_filter, hall,
    firstPerKey_eq_self hdistinct fun _ _ => List.not_mem_nil]

end Configuration

end TaintTriage
