import TaintTriage.Proofs.SinkAxis

/-!
Owners of labels.  A labeller is asked whether a label begins with its range and a separator; a
registry cuts the label at its first separator and looks the range up.  Ranges hold no separator, so
both find the same owner, whatever the details hold, and what the owner gives a node is all that the
registry has to look at.
-/

namespace TaintTriage

/-- A part without marks begins a text, with a mark after it, exactly if it is what stands before
the first mark of the text. -/
theorem isPrefixOf_mark_iff {α : Type} [BEq α] [LawfulBEq α] {mark : α} {part text : List α}
    (hpart : mark ∉ part) :
    (part ++ [mark]).isPrefixOf text = true ↔
      mark ∈ text ∧ text.takeWhile (· != mark) = part := by
  induction text generalizing part with
  | nil => cases part <;> simp
  | cons c rest ih =>
      by_cases hc : c = mark
      · -- The first mark stands at the beginning, so the part has to be empty.
        subst hc
        cases part with
        | nil => simp
        | cons p part =>
            have hne : p ≠ c := fun heq => hpart (heq ▸ List.mem_cons_self)
            simp [hne]
      · cases part with
        | nil => simp [hc, Ne.symm hc]
        | cons p part =>
            have hfree : mark ∉ part := fun hmem => hpart (List.mem_cons_of_mem p hmem)
            have hmem : mark ∈ c :: rest ↔ mark ∈ rest := by simp [Ne.symm hc]
            have htake : (c :: rest).takeWhile (· != mark) = c :: rest.takeWhile (· != mark) := by
              simp [hc]
            rw [hmem, htake, List.cons_append, List.isPrefixOf_cons_cons, Bool.and_eq_true,
              ih hfree, List.cons.injEq, beq_iff_eq]
            constructor
            · rintro ⟨rfl, hrestMem, hrestTake⟩
              exact ⟨hrestMem, rfl, hrestTake⟩
            · rintro ⟨hrestMem, rfl, hrestTake⟩
              exact ⟨rfl, hrestMem, hrestTake⟩

namespace Labeller

variable {l : Labeller} {n : Node} {label : String} {own : List String}

/-- To begin with a range is to have that range before the first separator. -/
theorem owns_iff_rangeOf? :
    l.owns label = true ↔ LabellerRegistry.rangeOf? label = some l.range := by
  have hhead : l.head.toList = l.range.toList ++ [labelSeparator] := by
    rw [head, String.toList_append, String.toList_singleton]
  rw [owns, hhead, isPrefixOf_mark_iff l.separator_not_mem, LabellerRegistry.rangeOf?]
  split
  next hmem =>
    rw [Option.some.injEq, ← String.toList_inj, String.toList_ofList]
    exact and_iff_right hmem
  next hnot => simp [hnot]

theorem owns_head_append (detail : String) : l.owns (l.head ++ detail) = true := by
  rw [owns, String.toList_append, List.isPrefixOf_iff_prefix]
  exact List.prefix_append _ _

/-- The labels of a labeller are its details behind its range. -/
theorem mem_label_iff (h : l.label n = .ok own) :
    label ∈ own ↔ ∃ details, l.emit n = .ok details ∧
      ∃ detail ∈ details, detail.isTruthy = true ∧
        ∃ text, detail.display = .ok text ∧ l.head ++ text = label := by
  obtain ⟨details, hdetails, hown⟩ := bind_eq_ok_iff.mp h
  obtain ⟨texts, htexts, hown⟩ := bind_eq_ok_iff.mp hown
  obtain rfl := Except.ok.inj hown
  have hshown (text : String) := mem_iff_of_mapM (y := text) (mapError_eq_ok_iff.mp htexts)
  rw [← NameSet.mem_def, NameSet.mem_ofList, List.mem_map]
  constructor
  · rintro ⟨text, htext, rfl⟩
    obtain ⟨detail, hdetail, hdisplay⟩ := (hshown text).mp htext
    obtain ⟨hmem, htruthy⟩ := List.mem_filter.mp hdetail
    exact ⟨details, hdetails, detail, hmem, htruthy, text, hdisplay, rfl⟩
  · rintro ⟨others, hothers, detail, hmem, htruthy, text, hdisplay, rfl⟩
    obtain rfl := Except.ok.inj (hdetails.symm.trans hothers)
    exact ⟨text, (hshown text).mpr ⟨detail, List.mem_filter.mpr ⟨hmem, htruthy⟩, hdisplay⟩, rfl⟩

/-- A labeller owns what it gives, whatever stands in the details. -/
theorem owns_of_mem_label (h : l.label n = .ok own) (hlabel : label ∈ own) :
    l.owns label = true := by
  obtain ⟨details, -, detail, -, -, text, -, rfl⟩ := (mem_label_iff h).mp hlabel
  exact owns_head_append text

end Labeller

namespace LabellerRegistry

variable {r : LabellerRegistry} {l : Labeller} {n : Node} {label : String} {labels : List String}

/-- A registry is made of its labellers, and of no others. -/
theorem ofList_eq_ok_iff {labellers : List Labeller} :
    ofList labellers = .ok r ↔ r.labellers = labellers := by
  constructor
  · intro h
    rw [ofList] at h
    split at h
    next => exact nomatch h
    next => exact Except.ok.inj h ▸ rfl
  · rintro rfl
    have hnone : firstRepeat? [] (r.labellers.map (·.range)) = none :=
      firstRepeat?_eq_none.mpr ⟨r.distinct, fun _ _ => List.not_mem_nil⟩
    rw [ofList]
    split
    next range hsome => exact nomatch hnone.symm.trans hsome
    next => rfl

theorem ownerOf?_eq_some_iff :
    r.ownerOf? label = some l ↔ l ∈ r.labellers ∧ l.owns label = true := by
  rw [ownerOf?, Option.bind_eq_some_iff, Labeller.owns_iff_rangeOf?]
  constructor
  · rintro ⟨range, hrange, hfound⟩
    obtain ⟨hmem, rfl⟩ := (find?_key_eq_some_iff r.distinct).mp hfound
    exact ⟨hmem, hrange⟩
  · rintro ⟨hmem, hrange⟩
    exact ⟨l.range, hrange, (find?_key_eq_some_iff r.distinct).mpr ⟨hmem, rfl⟩⟩

/-- The labellers that own a label are the owner that is looked up, if there is one. -/
theorem filter_owns (r : LabellerRegistry) (label : String) :
    r.labellers.filter (·.owns label) = (r.ownerOf? label).toList := by
  have howns : ∀ l : Labeller, l.owns label = (rangeOf? label == some l.range) := by
    intro l
    rw [Bool.eq_iff_iff, beq_iff_eq]
    exact Labeller.owns_iff_rangeOf?
  simp only [howns, ownerOf?]
  cases rangeOf? label with
  | none => simp
  | some range =>
      rw [Option.bind_some, ← filter_key_eq_toList_find? r.distinct range]
      apply List.filter_congr
      intro l _
      rw [Bool.eq_iff_iff, beq_iff_eq, beq_iff_eq, Option.some.injEq]
      exact eq_comm

theorem mem_labelsFor_iff (h : r.labelsFor n = .ok labels) :
    label ∈ labels ↔ ∃ l ∈ r.labellers, ∃ own, l.label n = .ok own ∧ label ∈ own := by
  obtain ⟨groups, hgroups, hlabels⟩ := bind_eq_ok_iff.mp h
  obtain rfl := Except.ok.inj hlabels
  rw [← NameSet.mem_def, NameSet.mem_ofList, List.mem_flatten]
  constructor
  · rintro ⟨own, hown, hlabel⟩
    obtain ⟨l, hl, hgiven⟩ := exists_of_mem_mapM hgroups hown
    exact ⟨l, hl, own, hgiven, hlabel⟩
  · rintro ⟨l, hl, own, hgiven, hlabel⟩
    obtain ⟨given, hmem, heq⟩ := exists_mem_of_mapM hgroups hl
    obtain rfl := Except.ok.inj (hgiven.symm.trans heq)
    exact ⟨own, hmem, hlabel⟩

/-- A node has a label exactly if the owner of the label gives it. -/
theorem mem_labelsFor_iff_owner (h : r.labelsFor n = .ok labels) :
    label ∈ labels ↔ ∃ l own, r.ownerOf? label = some l ∧ l.label n = .ok own ∧ label ∈ own := by
  rw [mem_labelsFor_iff h]
  constructor
  · rintro ⟨l, hl, own, hown, hlabel⟩
    have howns := Labeller.owns_of_mem_label hown hlabel
    exact ⟨l, own, ownerOf?_eq_some_iff.mpr ⟨hl, howns⟩, hown, hlabel⟩
  · rintro ⟨l, own, howner, hown, hlabel⟩
    exact ⟨l, (ownerOf?_eq_some_iff.mp howner).1, own, hown, hlabel⟩

/-- The test for a label that asks its owner alone. -/
theorem exists_mem_labelsFor_iff (h : ∀ l ∈ r.labellers, l.Answers n) :
    (∃ labels, r.labelsFor n = .ok labels ∧ label ∈ labels) ↔
      ∃ l own, r.ownerOf? label = some l ∧ l.label n = .ok own ∧ label ∈ own := by
  obtain ⟨labels, hlabels⟩ := exists_labelsFor_iff.mpr h
  rw [← mem_labelsFor_iff_owner hlabels]
  constructor
  · rintro ⟨others, hothers, hlabel⟩
    obtain rfl := Except.ok.inj (hlabels.symm.trans hothers)
    exact hlabel
  · intro hlabel
    exact ⟨labels, hlabels, hlabel⟩

theorem nodesWithLabel_eq {nodes : List Node}
    (h : ∀ n ∈ nodes, ∀ l ∈ r.labellers, l.Answers n) :
    r.nodesWithLabel label nodes = .ok ((nodes.filter fun n =>
      decide (∃ labels, r.labelsFor n = .ok labels ∧ label ∈ labels)).map (·.id)) := by
  cases howner : r.ownerOf? label with
  | none =>
      have hnone : (nodes.filter fun n =>
          decide (∃ labels, r.labelsFor n = .ok labels ∧ label ∈ labels)) = [] := by
        rw [List.filter_eq_nil_iff]
        intro n hn
        rw [decide_eq_true_eq, exists_mem_labelsFor_iff (h n hn), howner]
        rintro ⟨l, -, hsome, -⟩
        exact nomatch hsome
      rw [nodesWithLabel, howner, hnone]
      rfl
  | some l =>
      have hl := (ownerOf?_eq_some_iff.mp howner).1
      have htest : ∀ n ∈ nodes, (do return (← l.label n).contains label) =
          (.ok (decide (∃ labels, r.labelsFor n = .ok labels ∧ label ∈ labels)) :
            Except RuleFailure Bool) := by
        intro n hn
        obtain ⟨own, hown⟩ := h n hn l hl
        rw [hown, ok_bind, pure_eq_ok, Except.ok.injEq, Bool.eq_iff_iff, decide_eq_true_eq,
          exists_mem_labelsFor_iff (h n hn), howner, List.contains_iff_mem]
        constructor
        · intro hlabel
          exact ⟨l, own, rfl, hown, hlabel⟩
        · rintro ⟨other, others, hother, hothers, hlabel⟩
          obtain rfl := Option.some.inj hother
          obtain rfl := Except.ok.inj (hown.symm.trans hothers)
          exact hlabel
      simp only [nodesWithLabel, howner]
      rw [filterM_eq_ok htest]
      rfl

end LabellerRegistry

/-- Ranges do not overlap, and looking a label up inverts giving it: a label has one owner at most,
the owner is the labeller whose range the label begins with, and asking the owner alone tells which
nodes have the label. -/
theorem labels_follow_owner (labellers : List Labeller) (r : LabellerRegistry)
    (h : LabellerRegistry.ofList labellers = .ok r) (label : String) :
    (labellers.filter (·.owns label)).length ≤ 1 ∧
    (∀ l, r.ownerOf? label = some l ↔ l ∈ labellers ∧ l.owns label = true) ∧
    (∀ l ∈ labellers, (∀ detail : String, r.ownerOf? (l.head ++ detail) = some l) ∧
      ∀ n own, l.label n = .ok own → ∀ given ∈ own, l.owns given = true) ∧
    (∀ n, (∀ l ∈ labellers, l.Answers n) →
      ∃ labels, r.labelsFor n = .ok labels ∧
        (label ∈ labels ↔
          ∃ l own, r.ownerOf? label = some l ∧ l.label n = .ok own ∧ label ∈ own)) ∧
    ∀ nodes : List Node, (∀ n ∈ nodes, ∀ l ∈ labellers, l.Answers n) →
      r.nodesWithLabel label nodes = .ok ((nodes.filter fun n =>
        decide (∃ labels, r.labelsFor n = .ok labels ∧ label ∈ labels)).map (·.id)) := by
  obtain rfl := LabellerRegistry.ofList_eq_ok_iff.mp h
  refine ⟨?_, fun l => LabellerRegistry.ownerOf?_eq_some_iff, ?_, ?_, ?_⟩
  · rw [r.filter_owns label]
    cases r.ownerOf? label with
    | none => exact Nat.zero_le 1
    | some l => exact Nat.le_refl 1
  · intro l hl
    refine ⟨?_, fun n own hown given hgiven => Labeller.owns_of_mem_label hown hgiven⟩
    intro detail
    exact LabellerRegistry.ownerOf?_eq_some_iff.mpr ⟨hl, Labeller.owns_head_append detail⟩
  · intro n hanswers
    obtain ⟨labels, hlabels⟩ := LabellerRegistry.exists_labelsFor_iff.mpr hanswers
    exact ⟨labels, hlabels, LabellerRegistry.mem_labelsFor_iff_owner hlabels⟩
  · intro nodes hanswers
    exact LabellerRegistry.nodesWithLabel_eq hanswers

/-- Labellers of which the second one gives a detail that looks like a label of the first one. -/
def quotingLabellers : LabellerRegistry where
  labellers :=
    [⟨"sink", fun n => .ok (n.knownSinks.names.map .str), "", by decide +kernel, by decide +kernel⟩,
     ⟨"sinks", fun _ => .ok [.str "sink:xss", .str ""], "", by decide +kernel, by decide +kernel⟩]
  distinct := by simp

/-- The quoted label belongs to the labeller that quotes it, and is looked for there only. -/
theorem labels_follow_owner_quotingLabellers :
    (LabellerRegistry.ofList quotingLabellers.labellers = .ok quotingLabellers ∧
      ∀ n ∈ [knownConstant, NodeRecord.bare "m" "argument"],
        ∀ l ∈ quotingLabellers.labellers, l.Answers n) ∧
    (quotingLabellers.labellers.filter (·.owns "sinks:sink:xss")).length ≤ 1 ∧
    (quotingLabellers.ownerOf? "sinks:sink:xss").map (·.range) = some "sinks" ∧
    (quotingLabellers.ownerOf? "sink:xss").map (·.range) = some "sink" ∧
    quotingLabellers.labelsFor knownConstant = .ok ["sink:xss", "sinks:sink:xss"] ∧
    quotingLabellers.nodesWithLabel "sink:xss" [knownConstant, NodeRecord.bare "m" "argument"] =
      .ok ["n"] := by
  have hmade : LabellerRegistry.ofList quotingLabellers.labellers = .ok quotingLabellers :=
    LabellerRegistry.ofList_eq_ok_iff.mpr rfl
  have hanswers : ∀ n ∈ [knownConstant, NodeRecord.bare "m" "argument"],
      ∀ l ∈ quotingLabellers.labellers, l.Answers n := by decide
  obtain ⟨hone, -, hquoted, -, -⟩ :=
    labels_follow_owner quotingLabellers.labellers quotingLabellers hmade "sinks:sink:xss"
  obtain ⟨-, -, -, -, hnodes⟩ :=
    labels_follow_owner quotingLabellers.labellers quotingLabellers hmade "sink:xss"
  refine ⟨⟨hmade, hanswers⟩, hone, ?_, ?_, by rfl, ?_⟩
  · have howner := (hquoted _ (List.mem_cons_of_mem _ List.mem_cons_self)).1 "sink:xss"
    exact congrArg _ howner
  · exact congrArg _ ((hquoted _ List.mem_cons_self).1 "xss")
  · rw [hnodes _ hanswers]
    exact congrArg Except.ok (by decide +kernel)

end TaintTriage
