import Mathlib.Data.List.Nodup
import TaintTriage.Proofs.AcceptedSpec
import TaintTriage.Proofs.Extraction

/-!
What a scorer can tell work items apart by: the id of the node and the encoding of the type.  Items
of two nodes differ in the id, since only the first node with an id counts.  Items of one node
differ in the encoding exactly if no two relevant types share one, which a checked configuration
need not meet.
-/

namespace TaintTriage

/-- What a scorer can tell a work item apart by. -/
def WorkItem.key (item : WorkItem) : String × Value.Magnitude :=
  (item.nodeId, item.type.encoding.magnitude)

namespace Configuration

def relevantEncodings (c : Configuration) : List Value.Magnitude :=
  c.relevantSinkTypes.map (·.encoding.magnitude)

variable {c : Configuration} {nodes : List Node} {items : List WorkItem}

/-- What was extracted, from whatever nodes, are the items of the candidates among the first nodes
with each id; the others were not asked about. -/
theorem itemsOfEach_of_extractUnseen {seen : List String}
    (h : c.extractUnseen seen nodes = .ok items) :
    c.itemsOfEach ((firstPerKey NodeRecord.id (fun _ => true) seen nodes).filter
      fun n => decide (c.IsCandidate n)) = .ok items := by
  induction nodes generalizing seen items with
  | nil =>
      obtain rfl : [] = items := Except.ok.inj h
      rfl
  | cons n rest ih =>
      rw [extractUnseen] at h
      by_cases hseen : n.id ∈ seen
      · rw [if_pos (List.contains_iff_mem.mpr hseen)] at h
        rw [firstPerKey_cons_of_passed fun hkept => hkept.2 hseen]
        exact ih h
      · rw [if_neg (mt List.contains_iff_mem.mp hseen)] at h
        -- That the first test gave an answer tells that the second one does.
        obtain ⟨effective, heffective, -⟩ := bind_eq_ok_iff.mp h
        obtain ⟨e, he⟩ := (SinkRulesAnswer.of_isEffectiveSink heffective).exists_shows
        have hitems : (do
            let own ← if e.effective && !e.known then c.itemsOf n else pure []
            let others ← c.extractUnseen (n.id :: seen) rest
            return own ++ others) = .ok items := by
          rw [← h]
          simp only [he.isEffectiveSink, he.isKnownSink, ok_bind, pure_eq_ok]
          cases e.effective <;> cases e.known <;> rfl
        obtain ⟨own, hown, hrest⟩ := ite_bind_eq_ok_iff.mp hitems
        obtain ⟨others, hothers, hitems⟩ := bind_eq_ok_iff.mp hrest
        rw [firstPerKey_cons_of_kept ⟨rfl, hseen⟩, List.filter_cons, decide_isCandidate he]
        have hlater := ih hothers
        split at hown
        next htest => rw [if_pos htest, itemsOfEach_cons, hown, hlater]; exact hitems
        next htest =>
          obtain rfl := Except.ok.inj hown
          obtain rfl := Except.ok.inj hitems
          rw [if_neg htest]
          exact hlater

/-- Work items are those of some candidates with distinct ids, in the order of the nodes. -/
theorem exists_chosen_of_extractWorkItems (h : c.extractWorkItems nodes = .ok items) :
    ∃ chosen : List Node, chosen.Sublist nodes ∧ (chosen.map (·.id)).Nodup ∧
      (∀ n ∈ chosen, c.IsCandidate n) ∧ c.itemsOfEach chosen = .ok items := by
  refine ⟨_, List.filter_sublist.trans (firstPerKey_sublist [] nodes), ?_, ?_,
    itemsOfEach_of_extractUnseen h⟩
  · exact (firstPerKey_keys_nodup [] nodes).sublist (List.filter_sublist.map _)
  · intro n hn
    exact of_decide_eq_true (List.mem_filter.mp hn).2

theorem map_key_shownItems (n : Node) :
    (c.shownItems n).map WorkItem.key =
      c.relevantEncodings.map fun encoding => (n.id, encoding) := by
  rw [shownItems, relevantEncodings, List.map_map, List.map_map]
  rfl

theorem shownItems_ne_nil (n : Node) : c.shownItems n ≠ [] := by
  rw [shownItems, ne_eq, List.map_eq_nil_iff]
  exact c.relevant_ne_nil

/-- The items of one node have distinct keys exactly if the relevant encodings are distinct. -/
theorem keys_shownItems_nodup_iff (n : Node) :
    ((c.shownItems n).map WorkItem.key).Nodup ↔ c.relevantEncodings.Nodup := by
  rw [map_key_shownItems, List.nodup_map_iff]
  intro a b hab
  exact congrArg Prod.snd hab

theorem id_eq_of_mem_keys {n : Node} {key : String × Value.Magnitude}
    (h : key ∈ (c.shownItems n).map WorkItem.key) : key.1 = n.id := by
  rw [map_key_shownItems] at h
  obtain ⟨encoding, -, rfl⟩ := List.mem_map.mp h
  rfl

/-- The items of nodes with distinct ids have distinct keys exactly if those of each node have. -/
theorem keys_flatMap_shownItems_nodup_iff {chosen : List Node} (h : (chosen.map (·.id)).Nodup) :
    ((chosen.flatMap c.shownItems).map WorkItem.key).Nodup ↔
      chosen = [] ∨ c.relevantEncodings.Nodup := by
  rw [List.map_flatMap, List.nodup_flatMap]
  constructor
  · rintro ⟨heach, -⟩
    rcases chosen with _ | ⟨n, rest⟩
    · exact Or.inl rfl
    · exact Or.inr ((keys_shownItems_nodup_iff n).mp (heach n List.mem_cons_self))
  · intro hdistinct
    constructor
    · intro n hn
      rcases hdistinct with rfl | hdistinct
      · exact absurd hn List.not_mem_nil
      · exact (keys_shownItems_nodup_iff n).mpr hdistinct
    · refine (List.pairwise_map.mp h).imp fun {n m} hne key hn hm => ?_
      exact hne ((id_eq_of_mem_keys hn).symm.trans (id_eq_of_mem_keys hm))

/-- Extraction gives one item for each relevant type of some candidates with distinct ids.  No two
of the items share both the id and the encoding exactly if there is no item or no two relevant
types share an encoding. -/
theorem workItems_keys_nodup_iff (h : c.extractWorkItems nodes = .ok items) :
    ((items.map WorkItem.key).Nodup ↔ items = [] ∨ c.relevantEncodings.Nodup) ∧
      ∃ chosen : List Node, chosen.Sublist nodes ∧ (chosen.map (·.id)).Nodup ∧
        (∀ n ∈ chosen, c.IsCandidate n) ∧
        items.map Except.ok = chosen.flatMap fun n => c.relevantSinkTypes.map n.workItem := by
  obtain ⟨chosen, hsublist, hids, hcandidates, hitems⟩ := exists_chosen_of_extractWorkItems h
  refine ⟨?_, chosen, hsublist, hids, hcandidates, map_ok_of_itemsOfEach hitems⟩
  obtain ⟨-, rfl⟩ := itemsOfEach_eq_ok_iff.mp hitems
  have hempty : chosen.flatMap c.shownItems = [] ↔ chosen = [] := by
    rw [List.flatMap_eq_nil_iff]
    constructor
    · intro hnil
      exact List.eq_nil_iff_forall_not_mem.mpr fun n hn => shownItems_ne_nil n (hnil n hn)
    · rintro rfl n hn
      exact absurd hn List.not_mem_nil
  rw [hempty, keys_flatMap_shownItems_nodup_iff hids]

end Configuration

def frameSink : EndpointType := ⟨"FrameSinkType", 3, "frame-sink"⟩

/-- One candidate and two types with distinct encodings give two items with distinct keys. -/
theorem workItems_keys_nodup_iff_twoTypes :
    ∃ c, Configuration.ofSpec (.ofTypes [.xssSink, .sqlInjectionSink]) = .ok c ∧
      ∃ items, c.extractWorkItems [.bare "n" "argument"] = .ok items ∧ items.length = 2 ∧
        (items.map WorkItem.key).Nodup := by
  obtain ⟨c, hc, hlength, hdistinct⟩ : ∃ c,
      Configuration.ofSpec (.ofTypes [.xssSink, .sqlInjectionSink]) = .ok c ∧
        (∃ items, c.extractWorkItems [.bare "n" "argument"] = .ok items ∧ items.length = 2) ∧
          c.relevantEncodings.Nodup := by decide +kernel
  obtain ⟨items, hitems, hlength⟩ := hlength
  exact ⟨c, hc, items, hitems, hlength,
    (Configuration.workItems_keys_nodup_iff hitems).1.mpr (Or.inr hdistinct)⟩

/-- A type that is listed twice is accepted, and so are two types with one encoding; the items of a
node then share their key. -/
theorem not_workItems_keys_nodup_sharedEncoding :
    (∃ c, Configuration.ofSpec (.ofTypes [.xssSink, .xssSink]) = .ok c ∧
      ∃ items, c.extractWorkItems [.bare "n" "argument"] = .ok items ∧
        ¬ (items.map WorkItem.key).Nodup) ∧
    ∃ c, Configuration.ofSpec (.ofTypes [.xssSink, frameSink]) = .ok c ∧
      ∃ items, c.extractWorkItems [.bare "n" "argument"] = .ok items ∧
        ¬ (items.map WorkItem.key).Nodup := by
  decide +kernel

end TaintTriage
