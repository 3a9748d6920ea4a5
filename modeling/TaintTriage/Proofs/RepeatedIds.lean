import Mathlib.Data.List.Basic
import TaintTriage.Proofs.Extraction
import TaintTriage.Proofs.FailingRule

/-!
Extraction from nodes that share ids.  Of the nodes with one id only the first counts, whatever the
others are: the loop over the ids seen so far is compared with the nodes whose id is that of no node
before them, and so is a list that is extended, or put together from two lists.
-/

namespace TaintTriage

section

variable {α : Type} {key : α → String} {seen : List String} {x : α} {xs ys : List α}

/-- The entries of a list whose key is the key of no entry before them. -/
def firstOccurrences (key : α → String) (xs : List α) : List α :=
  (List.range xs.length).filterMap fun i =>
    xs[i]?.filter fun x => key x ∉ (xs.take i).map key

/-- The first occurrences in two lists are those in the first one, and those in the second one whose
key is not in the first one. -/
theorem firstOccurrences_append (xs ys : List α) :
    firstOccurrences key (xs ++ ys) =
      firstOccurrences key xs ++
        (firstOccurrences key ys).filter fun y => key y ∉ xs.map key := by
  rw [firstOccurrences, List.length_append, List.range_add, List.filterMap_append,
    List.filterMap_map, firstOccurrences, firstOccurrences, List.filter_filterMap]
  congr 1
  · apply List.filterMap_congr
    intro i hi
    have hlt : i < xs.length := List.mem_range.mp hi
    rw [List.getElem?_append_left hlt, List.take_append_of_le_length (Nat.le_of_lt hlt)]
  · apply List.filterMap_congr
    intro j _
    rw [Function.comp_apply, List.getElem?_append_right (Nat.le_add_right _ j),
      Nat.add_sub_cancel_left, List.take_length_add_append, List.map_append, Option.filter_filter]
    congr 1
    funext y
    rw [← Bool.decide_and, decide_eq_decide, List.mem_append, not_or, and_comm]

theorem firstOccurrences_subset : firstOccurrences key xs ⊆ xs := by
  intro x hx
  obtain ⟨i, -, hfirst⟩ := List.mem_filterMap.mp hx
  exact List.mem_of_getElem? (Option.eq_some_of_filter_eq_some hfirst)

theorem firstOccurrences_append_of_subset (h : ∀ y ∈ ys, key y ∈ xs.map key) :
    firstOccurrences key (xs ++ ys) = firstOccurrences key xs := by
  have hnone : (firstOccurrences key ys).filter (fun y => key y ∉ xs.map key) = [] :=
    List.filter_eq_nil_iff.mpr fun y hy => by simpa using h y (firstOccurrences_subset hy)
  rw [firstOccurrences_append, hnone, List.append_nil]

theorem firstOccurrences_append_of_disjoint (h : (xs.map key).Disjoint (ys.map key)) :
    firstOccurrences key (xs ++ ys) = firstOccurrences key xs ++ firstOccurrences key ys := by
  have hall : (firstOccurrences key ys).filter (fun y => key y ∉ xs.map key) =
      firstOccurrences key ys := by
    apply List.filter_eq_self.mpr
    intro y hy
    have hmem : key y ∈ ys.map key := List.mem_map_of_mem (firstOccurrences_subset hy)
    exact decide_eq_true fun hseen => h hseen hmem
  rw [firstOccurrences_append, hall]

/-- The loop keeps the first occurrences of the keys that it has not seen. -/
theorem firstPerKey_eq_filter (seen : List String) (xs : List α) :
    firstPerKey key (fun _ => true) seen xs =
      (firstOccurrences key xs).filter fun x => key x ∉ seen := by
  induction xs generalizing seen with
  | nil => rfl
  | cons x rest ih =>
      have hcons : firstOccurrences key (x :: rest) =
          x :: (firstOccurrences key rest).filter fun y => key y ∉ [key x] :=
        firstOccurrences_append [x] rest
      rw [hcons]
      by_cases hseen : key x ∈ seen
      · rw [firstPerKey_cons_of_passed fun hkept => hkept.2 hseen, ih,
          List.filter_cons_of_neg (by simpa using hseen), List.filter_filter]
        apply List.filter_congr
        intro y _
        have hother : key y ∉ seen → key y ≠ key x := fun hy heq => hy (heq ▸ hseen)
        by_cases hy : key y ∈ seen
        · simp [hy]
        · simp [hy, hother hy]
      · rw [firstPerKey_cons_of_kept ⟨rfl, hseen⟩, ih,
          List.filter_cons_of_pos (by simpa using hseen), List.filter_filter]
        congr 1
        apply List.filter_congr
        intro y _
        rw [← Bool.decide_and, decide_eq_decide, List.mem_cons, not_or, List.mem_singleton,
          and_comm]

theorem firstPerKey_nil_eq (xs : List α) :
    firstPerKey key (fun _ => true) [] xs = firstOccurrences key xs := by
  rw [firstPerKey_eq_filter]
  exact List.filter_eq_self.mpr fun x _ => decide_eq_true List.not_mem_nil

end

namespace Configuration

variable {c : Configuration} {n : Node} {nodes : List Node}

/-- The work items of a node by its status: one for each relevant type if it is an effective sink,
none else. -/
def itemsByStatus (c : Configuration) (n : Node) : Except RuleFailure (List WorkItem) := do
  if (← c.sinkStatus n) = .effectiveSink then
    let features ← orFail n.features
    return c.relevantSinkTypes.map fun t => ⟨n.id, t, features⟩
  else return []

theorem itemsByStatus_of_shows {e : SinkEvidence} (h : c.Shows n e) :
    c.itemsByStatus n = if e.effective && !e.known then c.itemsOf n else .ok [] := by
  have hstatus : (e.effective && !e.known) = true ↔ e.status = .effectiveSink := by
    rw [e.status_eq_effectiveSink_iff, Bool.and_eq_true, Bool.not_eq_true']
  rw [itemsByStatus, h.sinkStatus, ok_bind]
  simp only [hstatus]
  rfl

/-- A node whose status can be told gives its items if it is a candidate, and none else. -/
theorem itemsByStatus_of_features {features : List (String × Value)} (h : c.SinkRulesAnswer n)
    (hfeatures : c.IsCandidate n → n.features = .ok features) :
    c.itemsByStatus n =
      .ok (if c.IsCandidate n then c.relevantSinkTypes.map fun t => ⟨n.id, t, features⟩
        else []) := by
  obtain ⟨e, he⟩ := h.exists_shows
  simp only [itemsByStatus_of_shows he, ← decide_isCandidate he, decide_eq_true_eq]
  by_cases hcandidate : c.IsCandidate n
  · rw [if_pos hcandidate, if_pos hcandidate, itemsOf, hfeatures hcandidate]
    rfl
  · rw [if_neg hcandidate, if_neg hcandidate]

/-- Where the rules answer and the candidates have features, the items of some nodes are those of
the candidates among them. -/
theorem flatten_mapM_itemsByStatus {features : Node → List (String × Value)}
    (h : ∀ n ∈ nodes, c.SinkRulesAnswer n)
    (hfeatures : ∀ n ∈ nodes, c.IsCandidate n → n.features = .ok (features n)) :
    (nodes.mapM c.itemsByStatus).map List.flatten =
      .ok ((nodes.filter fun n => decide (c.IsCandidate n)).flatMap
        fun n => c.relevantSinkTypes.map fun t => ⟨n.id, t, features n⟩) := by
  have hitems : nodes.mapM c.itemsByStatus = .ok (nodes.map fun n =>
      if c.IsCandidate n then c.relevantSinkTypes.map fun t => ⟨n.id, t, features n⟩ else []) := by
    rw [mapM_eq_ok_iff, List.map_map]
    exact List.map_congr_left fun n hn => itemsByStatus_of_features (h n hn) (hfeatures n hn)
  rw [hitems, map_ok]
  clear hitems h hfeatures
  induction nodes with
  | nil => rfl
  | cons n rest ih =>
      rw [Except.ok.injEq] at ih ⊢
      by_cases hcandidate : c.IsCandidate n
      · simp [hcandidate, ih]
      · simp [hcandidate, ih]

/-- Extraction goes through the first occurrences of the ids, and takes the items of each by its
status; the first one that has none, or no features where it needs them, decides. -/
theorem extractUnseen_eq_mapM (seen : List String) (nodes : List Node) :
    c.extractUnseen seen nodes =
      ((firstPerKey NodeRecord.id (fun _ => true) seen nodes).mapM c.itemsByStatus).map
        List.flatten := by
  induction nodes generalizing seen with
  | nil => rfl
  | cons n rest ih =>
      rw [extractUnseen]
      by_cases hseen : n.id ∈ seen
      · rw [if_pos (List.contains_iff_mem.mpr hseen), ih,
          firstPerKey_cons_of_passed fun hkept => hkept.2 hseen]
      · rw [if_neg (mt List.contains_iff_mem.mp hseen), ih, firstPerKey_cons_of_kept ⟨rfl, hseen⟩,
          List.mapM_cons]
        rcases c.sinkQuestionsFail_or_shows n with ⟨failure, hfail⟩ | ⟨e, he⟩
        · rw [hfail.isEffectiveSink, itemsByStatus, hfail.sinkStatus]
          rfl
        · rw [itemsByStatus_of_shows he, he.isEffectiveSink, he.isKnownSink]
          cases (firstPerKey NodeRecord.id (fun _ => true) (n.id :: seen) rest).mapM
              c.itemsByStatus <;>
            cases c.itemsOf n <;> cases e.effective <;> cases e.known <;> rfl

theorem extractWorkItems_eq_mapM (nodes : List Node) :
    c.extractWorkItems nodes =
      ((firstOccurrences NodeRecord.id nodes).mapM c.itemsByStatus).map List.flatten := by
  rw [extractWorkItems, extractUnseen_eq_mapM, firstPerKey_nil_eq]

theorem extractWorkItems_append (c : Configuration) {xs ys : List Node}
    (h : (xs.map (·.id)).Disjoint (ys.map (·.id))) :
    c.extractWorkItems (xs ++ ys) = (do
      let first ← c.extractWorkItems xs
      let second ← c.extractWorkItems ys
      return first ++ second) := by
  rw [extractWorkItems_eq_mapM, extractWorkItems_eq_mapM, extractWorkItems_eq_mapM,
    firstOccurrences_append_of_disjoint h, List.mapM_append]
  cases (firstOccurrences NodeRecord.id xs).mapM c.itemsByStatus with
  | error failure => rfl
  | ok first =>
      cases (firstOccurrences NodeRecord.id ys).mapM c.itemsByStatus with
      | error failure => rfl
      | ok second => exact congrArg Except.ok List.flatten_append

end Configuration

/-- Whatever rules fail, extraction goes by the status of the first node with each id, and fails as
the first of these nodes that has none, or no features as an effective sink.  So where the rules
answer about these nodes and the effective sinks among them have features, the items are those of
these sinks, one for each relevant type; more nodes with ids that occur already change nothing; and
extraction from two lists without a common id is extraction from one after the other. -/
theorem extractWorkItems_firstOccurrences (c : Configuration) :
    (∀ nodes, c.extractWorkItems nodes =
      ((firstOccurrences NodeRecord.id nodes).mapM c.itemsByStatus).map List.flatten) ∧
    (∀ nodes (features : Node → List (String × Value)),
      (∀ n ∈ firstOccurrences NodeRecord.id nodes, c.SinkRulesAnswer n) →
      (∀ n ∈ firstOccurrences NodeRecord.id nodes,
        c.IsCandidate n → n.features = .ok (features n)) →
      c.extractWorkItems nodes =
        .ok (((firstOccurrences NodeRecord.id nodes).filter
            fun n => decide (c.IsCandidate n)).flatMap
          fun n => c.relevantSinkTypes.map fun t => ⟨n.id, t, features n⟩)) ∧
    (∀ nodes more, (∀ n ∈ more, n.id ∈ nodes.map (·.id)) →
      c.extractWorkItems (nodes ++ more) = c.extractWorkItems nodes) ∧
    ∀ xs ys, (xs.map (·.id)).Disjoint (ys.map (·.id)) →
      c.extractWorkItems (xs ++ ys) = (do
        let first ← c.extractWorkItems xs
        let second ← c.extractWorkItems ys
        return first ++ second) := by
  refine ⟨c.extractWorkItems_eq_mapM, fun nodes features h hfeatures => ?_,
    fun nodes more h => ?_, fun xs ys h => c.extractWorkItems_append h⟩
  · rw [c.extractWorkItems_eq_mapM, Configuration.flatten_mapM_itemsByStatus h hfeatures]
  · rw [c.extractWorkItems_eq_mapM, firstOccurrences_append_of_subset h,
      ← c.extractWorkItems_eq_mapM]

/-- An excluded constant, and after it a node with its id that would be an effective sink. -/
def constantBeforeArgument : List Node :=
  [{ NodeRecord.bare "a" "argument" with isConstant := true }, .bare "b" "argument",
    .bare "a" "argument"]

/-- The later node does not count, two more nodes with the ids change nothing, and one with another
id adds its own item. -/
theorem extractWorkItems_firstOccurrences_constantFirst :
    (∀ n ∈ firstOccurrences NodeRecord.id constantBeforeArgument,
      Configuration.sqlInjection.SinkRulesAnswer n) ∧
    (∀ n ∈ constantBeforeArgument.tail, n.id ∈ constantBeforeArgument.map (·.id)) ∧
    (constantBeforeArgument.map (·.id)).Disjoint ([NodeRecord.bare "c" "argument"].map (·.id)) ∧
    (∃ items, Configuration.sqlInjection.extractWorkItems (constantBeforeArgument ++
        constantBeforeArgument.tail) = .ok items ∧ items.map (·.nodeId) = ["b"]) ∧
    ∃ items, Configuration.sqlInjection.extractWorkItems (constantBeforeArgument ++
        [NodeRecord.bare "c" "argument"]) = .ok items ∧ items.map (·.nodeId) = ["b", "c"] := by
  have hrules : ∀ n ∈ firstOccurrences NodeRecord.id constantBeforeArgument,
      Configuration.sqlInjection.SinkRulesAnswer n := by decide
  have hids : ∀ n ∈ constantBeforeArgument.tail,
      n.id ∈ constantBeforeArgument.map (·.id) := by decide
  have hfeatures : ∀ n ∈ firstOccurrences NodeRecord.id constantBeforeArgument,
      Configuration.sqlInjection.IsCandidate n → n.features = .ok n.shownFeatures := by
    intro n hn _
    have hshort : ∀ m ∈ firstOccurrences NodeRecord.id constantBeforeArgument,
        m.filePath.isShort = true := by decide
    exact NodeRecord.features_eq_ok (hshort n hn)
  have hdisjoint : (constantBeforeArgument.map (·.id)).Disjoint
      ([NodeRecord.bare "c" "argument"].map (·.id)) := List.disjoint_left.mpr (by decide)
  have hother : ∀ n ∈ firstOccurrences NodeRecord.id [NodeRecord.bare "c" "argument"],
      Configuration.sqlInjection.SinkRulesAnswer n := by decide
  have hotherFeatures : ∀ n ∈ firstOccurrences NodeRecord.id [NodeRecord.bare "c" "argument"],
      Configuration.sqlInjection.IsCandidate n → n.features = .ok n.shownFeatures := by
    intro n hn _
    obtain rfl := List.mem_singleton.mp hn
    exact NodeRecord.features_eq_ok rfl
  obtain ⟨-, hextracted, hmore, happend⟩ :=
    extractWorkItems_firstOccurrences Configuration.sqlInjection
  refine ⟨hrules, hids, hdisjoint,
    ⟨_, (hmore _ _ hids).trans (hextracted _ _ hrules hfeatures), by decide⟩, ?_⟩
  rw [happend _ _ hdisjoint, hextracted _ _ hrules hfeatures, hextracted _ _ hother hotherFeatures]
  exact ⟨_, rfl, by decide⟩

end TaintTriage
