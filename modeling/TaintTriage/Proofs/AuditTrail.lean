import TaintTriage.Proofs.LabelOwner

/-!
The trail that an exclusion leaves.  Labels of characteristics come from two places, the shared
characteristics from the registry and those of the query from the classifier; together they name
exactly the characteristics that apply.  Reasons name some of these, so each reason has its label,
and distinct names lead from it back to one characteristic.
-/

namespace TaintTriage

open Characteristic

namespace LabellerRegistry

variable {r : LabellerRegistry} {l : Labeller} {n : Node} {label : String} {own : List String}

theorem filter_owns_eq_singleton (hl : l ∈ r.labellers) (howns : l.owns label = true) :
    r.labellers.filter (·.owns label) = [l] := by
  rw [r.filter_owns label, ownerOf?_eq_some_iff.mpr ⟨hl, howns⟩]
  rfl

/-- Ranges are distinct, so the owner has the range of a labeller only if it is that labeller. -/
theorem map_range_ownerOf?_eq_some_iff (hl : l ∈ r.labellers) :
    (r.ownerOf? label).map (·.range) = some l.range ↔ l.owns label = true := by
  constructor
  · intro h
    obtain ⟨other, hother, hrange⟩ := Option.map_eq_some_iff.mp h
    have howns := (ownerOf?_eq_some_iff.mp hother).2
    rw [Labeller.owns_iff_rangeOf?] at howns ⊢
    rw [howns, hrange]
  · intro howns
    rw [ownerOf?_eq_some_iff.mpr ⟨hl, howns⟩]
    rfl

theorem characteristicRange_ne_empty : characteristicRange.isEmpty = false := by
  decide +kernel

theorem separator_not_mem_characteristicRange : labelSeparator ∉ characteristicRange.toList := by
  decide +kernel

def characteristicLabeller : Labeller :=
  ⟨characteristicRange, characteristicDetails, "Applicable characteristics",
    characteristicRange_ne_empty, separator_not_mem_characteristicRange⟩

theorem characteristicLabeller_mem_shipped : characteristicLabeller ∈ shipped.labellers :=
  List.mem_cons_self

theorem head_characteristicLabeller : characteristicLabeller.head = "characteristic:" := by
  decide +kernel

theorem name_ne_empty_of_mem_shipped : ∀ c ∈ Characteristic.shipped, c.name.isEmpty = false := by
  decide

/-- The shared characteristics that apply are named, each one: none has the empty name, which would
give no label. -/
theorem mem_label_characteristicLabeller_iff (h : characteristicLabeller.label n = .ok own) :
    label ∈ own ↔ ∃ c ∈ Characteristic.shipped,
      c.AppliesTo n ∧ characteristicLabeller.head ++ c.name = label := by
  rw [Labeller.mem_label_iff h]
  constructor
  · rintro ⟨details, hdetails, detail, hdetail, -, text, htext, rfl⟩
    obtain ⟨applying, happlying, heq⟩ := bind_eq_ok_iff.mp hdetails
    obtain rfl := Except.ok.inj heq
    obtain ⟨c, hc, rfl⟩ := List.mem_map.mp hdetail
    obtain ⟨hmem, happlies⟩ := (mem_applicable_iff happlying).mp hc
    obtain rfl : c.name = text := Except.ok.inj htext
    exact ⟨c, hmem, happlies, rfl⟩
  · rintro ⟨c, hmem, happlies, rfl⟩
    obtain ⟨details, hdetails, -⟩ := bind_eq_ok_iff.mp h
    obtain ⟨applying, happlying, heq⟩ := bind_eq_ok_iff.mp hdetails
    obtain rfl := Except.ok.inj heq
    have hc := (mem_applicable_iff happlying).mpr ⟨hmem, happlies⟩
    have htruthy : (Value.str c.name).isTruthy = true := by
      simp [Value.isTruthy, name_ne_empty_of_mem_shipped c hmem]
    exact ⟨_, hdetails, .str c.name, List.mem_map_of_mem hc, htruthy, c.name, rfl, rfl⟩

end LabellerRegistry

namespace Classifier

open LabellerRegistry

variable {k : Classifier} {n : Node} {labels : List String} {label : String}

theorem pairwise_labels (h : k.labels n = .ok labels) : labels.Pairwise (· < ·) := by
  obtain ⟨registered, hregistered, hrest⟩ := bind_eq_ok_iff.mp h
  split at hrest
  · obtain ⟨refinements, -, hlabels⟩ := bind_eq_ok_iff.mp hrest
    obtain rfl := Except.ok.inj hlabels
    exact NameSet.increasing _
  · obtain rfl := Except.ok.inj hrest
    obtain ⟨groups, -, hlabels⟩ := bind_eq_ok_iff.mp hregistered
    obtain rfl := Except.ok.inj hlabels
    exact NameSet.increasing _

section Named

variable (hnamed : characteristicLabeller ∈ k.registry.labellers) (h : k.labels n = .ok labels)
include hnamed h

/-- To a registry that names characteristics, those of the query are added. -/
theorem mem_labels_iff :
    ∃ registered, k.registry.labelsFor n = .ok registered ∧
      ∀ label, label ∈ labels ↔ label ∈ registered ∨
        ∃ c ∈ k.configuration.refinements,
          c.AppliesTo n ∧ characteristicLabeller.head ++ c.name = label := by
  have hrange : k.registry.ranges.contains characteristicRange = true :=
    List.contains_iff_mem.mpr (List.mem_map_of_mem hnamed)
  obtain ⟨registered, hregistered, hrest⟩ := bind_eq_ok_iff.mp h
  rw [if_pos hrange] at hrest
  obtain ⟨refinements, hrefinements, hlabels⟩ := bind_eq_ok_iff.mp hrest
  obtain rfl := Except.ok.inj hlabels
  refine ⟨registered, hregistered, ?_⟩
  intro label
  rw [← NameSet.mem_def, NameSet.mem_ofList, List.mem_append, List.mem_map]
  apply or_congr Iff.rfl
  constructor
  · rintro ⟨c, hc, rfl⟩
    obtain ⟨hmem, happlies⟩ := (mem_applicable_iff hrefinements).mp hc
    exact ⟨c, hmem, happlies, rfl⟩
  · rintro ⟨c, hmem, happlies, rfl⟩
    exact ⟨c, (mem_applicable_iff hrefinements).mpr ⟨hmem, happlies⟩, rfl⟩

theorem exists_filter_owns_of_mem_labels (hlabel : label ∈ labels) :
    ∃ l, k.registry.labellers.filter (·.owns label) = [l] := by
  obtain ⟨registered, hregistered, hmem⟩ := mem_labels_iff hnamed h
  rcases (hmem label).mp hlabel with hlabel | ⟨c, -, -, rfl⟩
  · obtain ⟨l, hl, own, hown, hlabel⟩ := (mem_labelsFor_iff hregistered).mp hlabel
    exact ⟨l, filter_owns_eq_singleton hl (Labeller.owns_of_mem_label hown hlabel)⟩
  · exact ⟨characteristicLabeller,
      filter_owns_eq_singleton hnamed (Labeller.owns_head_append c.name)⟩

/-- The characteristics that apply, shared or not, are exactly those that have a label. -/
theorem mem_labels_and_owns_iff :
    label ∈ labels ∧ characteristicLabeller.owns label = true ↔
      ∃ c ∈ k.configuration.characteristics,
        c.AppliesTo n ∧ characteristicLabeller.head ++ c.name = label := by
  obtain ⟨registered, hregistered, hmem⟩ := mem_labels_iff hnamed h
  rw [hmem label]
  constructor
  · rintro ⟨hlabel | ⟨c, hc, happlies, hname⟩, howns⟩
    · -- A registered label in this range was given by the labeller of this range.
      obtain ⟨l, own, howner, hown, hlabel⟩ := (mem_labelsFor_iff_owner hregistered).mp hlabel
      rw [ownerOf?_eq_some_iff.mpr ⟨hnamed, howns⟩, Option.some.injEq] at howner
      subst howner
      obtain ⟨c, hc, happlies, hname⟩ := (mem_label_characteristicLabeller_iff hown).mp hlabel
      exact ⟨c, List.mem_append_left _ hc, happlies, hname⟩
    · exact ⟨c, List.mem_append_right _ hc, happlies, hname⟩
  · rintro ⟨c, hc, happlies, rfl⟩
    refine ⟨?_, Labeller.owns_head_append c.name⟩
    rcases List.mem_append.mp hc with hshared | hrefinement
    · left
      obtain ⟨groups, hgroups, -⟩ := bind_eq_ok_iff.mp hregistered
      obtain ⟨own, -, hown⟩ := exists_mem_of_mapM hgroups hnamed
      have hlabel := (mem_label_characteristicLabeller_iff hown).mpr ⟨c, hshared, happlies, rfl⟩
      exact (mem_labelsFor_iff hregistered).mpr
        ⟨characteristicLabeller, hnamed, own, hown, hlabel⟩
    · right
      exact ⟨c, hrefinement, happlies, rfl⟩

end Named

end Classifier

namespace Configuration

variable {c : Configuration} {n : Node} {applying : List Characteristic} {reason : String}

/-- Distinct names lead from a reason back to one characteristic. -/
theorem exists_characteristic_of_reason (h : applicable n c.characteristics = .ok applying)
    (hreason : reason ∈ (c.evidenceOf applying).reasons) :
    ∃ d, c.characteristics.filter (·.name == reason) = [d] ∧ d.AppliesTo n := by
  rw [evidenceOf_reasons, mem_reasonsAmong_iff] at hreason
  obtain ⟨-, d, hd, hname, -⟩ := hreason
  obtain ⟨hmem, happlies⟩ := (mem_applicable_iff h).mp hd
  have hdistinct : (c.characteristics.map (·.name)).Nodup := c.names_distinct
  have hfound := (find?_key_eq_some_iff hdistinct).mpr ⟨hmem, hname⟩
  refine ⟨d, ?_, happlies⟩
  rw [filter_key_eq_toList_find? hdistinct, hfound]
  rfl

end Configuration

/-- Every exclusion can be audited.  A node is classified with labels where the rules answer and the
names in its labels can be shown.  The labels are increasing, each in the range of one shipped
labeller, and those about characteristics name exactly the characteristics that apply; each reason
to exclude the node has its label and is the name of one characteristic, which applies. -/
theorem exclusions_leave_labels (c : Configuration) (n : Node) (h : c.RulesAnswer n)
    (workers : Int) :
    ((∃ entry, Classifier.classifyNode { configuration := c, workers } n = .ok entry) ↔
      n.HasShortNames) ∧
    ∀ entry, Classifier.classifyNode { configuration := c, workers } n = .ok entry →
      (entry.sinkStatus = .excluded ↔ entry.reasons ≠ []) ∧
      entry.labels.Pairwise (· < ·) ∧
      (∀ label ∈ entry.labels,
        ∃ l, LabellerRegistry.shipped.labellers.filter (·.owns label) = [l]) ∧
      (∀ label, label ∈ entry.labels ∧
          (LabellerRegistry.shipped.ownerOf? label).map (·.range) = some "characteristic" ↔
        ∃ d ∈ c.characteristics, d.AppliesTo n ∧ "characteristic:" ++ d.name = label) ∧
      ∀ reason ∈ entry.reasons, "characteristic:" ++ reason ∈ entry.labels ∧
        ∃ d, c.characteristics.filter (·.name == reason) = [d] ∧ d.AppliesTo n := by
  let k : Classifier := { configuration := c, workers }
  have hclassified : (∃ entry, k.classifyNode n = .ok entry) ↔ n.HasShortNames := by
    rw [Classifier.exists_classifyNode_iff h, Classifier.labellersAnswer_shipped_iff rfl h.2]
    exact forall_prop_of_true rfl
  refine ⟨hclassified, fun entry hentry => ?_⟩
  obtain ⟨applying, happlying⟩ := h.2.exists_applicable
  obtain ⟨hstatus, hreasons⟩ :=
    Classifier.evidence_of_classifyNode (k := k) (Configuration.shows_evidenceOf happlying) hentry
  have hlabels : k.labels n = .ok entry.labels :=
    (Classifier.classifyNode_eq_ok_iff.mp hentry).labels_eq
  have hnamed (label : String) : label ∈ entry.labels ∧
      LabellerRegistry.characteristicLabeller.owns label = true ↔
        ∃ d ∈ c.characteristics, d.AppliesTo n ∧ "characteristic:" ++ d.name = label := by
    rw [← LabellerRegistry.head_characteristicLabeller]
    exact Classifier.mem_labels_and_owns_iff LabellerRegistry.characteristicLabeller_mem_shipped
      hlabels
  refine ⟨?_, Classifier.pairwise_labels hlabels, ?_, ?_, ?_⟩
  · rw [hstatus, hreasons, SinkEvidence.status_eq_excluded_iff, SinkEvidence.excluded_eq_true_iff]
  · intro label hlabel
    exact Classifier.exists_filter_owns_of_mem_labels
      LabellerRegistry.characteristicLabeller_mem_shipped hlabels hlabel
  · intro label
    rw [← hnamed label]
    exact and_congr_right fun _ => LabellerRegistry.map_range_ownerOf?_eq_some_iff
      LabellerRegistry.characteristicLabeller_mem_shipped
  · intro reason hreason
    rw [hreasons] at hreason
    obtain ⟨d, hfilter, happlies⟩ :=
      Configuration.exists_characteristic_of_reason happlying hreason
    have hd : d ∈ c.characteristics.filter (·.name == reason) := hfilter ▸ List.mem_cons_self
    obtain ⟨hmem, hname⟩ := List.mem_filter.mp hd
    obtain rfl := beq_iff_eq.mp hname
    exact ⟨((hnamed _).mpr ⟨d, hmem, happlies, rfl⟩).1, d, hfilter, happlies⟩

/-- A configuration with a characteristic of its own whose name looks like a label of another
range. -/
def quotedRefinement : Configuration :=
  { Configuration.xss with
    refinements := [ofFamily "known:sink-xss" .notASink fun _ => .ok true]
    names_distinct := by decide }

/-- The node is excluded for that characteristic alone, and the label says so. -/
theorem exclusions_leave_labels_quotedRefinement :
    quotedRefinement.RulesAnswer (NodeRecord.bare "n" "argument") ∧
      ∃ entry, Classifier.classifyNode { configuration := quotedRefinement, workers := 4 }
          (NodeRecord.bare "n" "argument") = .ok entry ∧
        entry.sinkStatus = .excluded ∧ entry.reasons = ["known:sink-xss"] ∧
        "characteristic:known:sink-xss" ∈ entry.labels := by
  have h : quotedRefinement.RulesAnswer (NodeRecord.bare "n" "argument") := by decide
  obtain ⟨entry, hentry, hreason⟩ : ∃ entry,
      Classifier.classifyNode { configuration := quotedRefinement, workers := 4 }
        (NodeRecord.bare "n" "argument") = .ok entry ∧ entry.reasons = ["known:sink-xss"] := by
    decide +kernel
  obtain ⟨-, haudited⟩ :=
    exclusions_leave_labels quotedRefinement (NodeRecord.bare "n" "argument") h 4
  obtain ⟨hexcluded, -, -, -, hreasons⟩ := haudited entry hentry
  have hmem : "known:sink-xss" ∈ entry.reasons := by simp [hreason]
  refine ⟨h, entry, hentry, ?_, hreason, (hreasons _ hmem).1⟩
  exact hexcluded.mpr (List.ne_nil_of_mem hmem)

end TaintTriage
