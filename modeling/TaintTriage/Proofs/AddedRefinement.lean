import Mathlib.Data.List.Basic
import Mathlib.Data.List.Flatten
import TaintTriage.Proofs.AcceptedSpec
import TaintTriage.Proofs.Extraction

/-!
One more refinement.  Three of the four families speak against nodes: a characteristic of theirs
leaves the known types alone and adds reasons to exclude, so that candidates only become fewer.  One
that knows sinks adds known types, and takes all reasons away or none.
-/

namespace TaintTriage

open Characteristic

namespace Characteristic

variable {name : String} {family : Family} {rule : Rule} {types : List EndpointType}
variable {r : Characteristic} {n : Node}

/-- A characteristic that was made is the one of its family, and no type that it speaks of is the
negative class. -/
theorem eq_ofFamily_of_make (h : make name (.expected family) rule types = .ok r) :
    r = ofFamily name family rule types ∧
      (family.needsTypes = true → ∀ t ∈ types, t.isNegative = false) := by
  rw [make] at h
  split at h
  · exact nomatch h
  · split at h
    · exact nomatch h
    · split at h
      · exact nomatch h
      · rename_i hnegative
        refine ⟨(Except.ok.inj h).symm, fun hneeds => ?_⟩
        simpa [hneeds] using hnegative

/-- Only known sinks are spoken for beyond doubt. -/
theorem not_speaks_maximal_ofFamily (h : family ≠ .knownSink) (t : EndpointType) :
    ¬ (ofFamily name family rule types).Speaks true t .maximal := by
  rw [speaks_ofFamily_iff]
  rintro ⟨-, hpositive, hconfidence⟩
  cases family with
  | knownSink => exact h rfl
  | notASink => exact absurd hconfidence (by decide)
  | likelyNotASink => exact absurd hconfidence (by decide)
  | standardFilter => exact Bool.noConfusion hpositive

/-- A characteristic that knows sinks speaks neither for the negative class nor against a type. -/
theorem not_speaks_negative_knownSink (h : ∀ t ∈ types, t.isNegative = false) :
    ¬ (ofFamily name .knownSink rule types).Speaks true .negative .medium := by
  rw [speaks_ofFamily_iff]
  rintro ⟨hmem, -, -⟩
  obtain ⟨t, ht, hequal⟩ := List.contains_iff_exists_mem_beq.mp hmem
  have hnegative : EndpointType.negative.isNegative = true := rfl
  rw [EndpointType.isNegative_congr hequal, h t ht] at hnegative
  exact Bool.noConfusion hnegative

theorem not_speaks_against_knownSink (t : EndpointType) :
    ¬ (ofFamily name .knownSink rule types).Speaks false t .medium := by
  rw [speaks_ofFamily_iff]
  rintro ⟨-, hpositive, -⟩
  exact Bool.noConfusion hpositive

/-- One more characteristic is asked last. -/
theorem applicable_concat {characteristics applying : List Characteristic} {holds : Bool}
    (h : applicable n characteristics = .ok applying) (hr : r.rule n = .ok holds) :
    applicable n (characteristics ++ [r]) =
      .ok (applying ++ if holds then [r] else []) := by
  induction characteristics generalizing applying with
  | nil =>
      obtain rfl : [] = applying := Except.ok.inj h
      rw [List.nil_append, applicable_cons, hr]
      rfl
  | cons c rest ih =>
      rw [applicable_cons] at h
      obtain ⟨applies, happlies, h⟩ := bind_eq_ok_iff.mp h
      obtain ⟨others, hothers, h⟩ := bind_eq_ok_iff.mp h
      obtain rfl := Except.ok.inj h
      rw [List.cons_append, applicable_cons, happlies, ok_bind, ih hothers]
      cases applies <;> rfl

end Characteristic

section Applying

variable {applying : List Characteristic} {relevant : List EndpointType} {r : Characteristic}

theorem mem_concat_iff {c : Characteristic} : c ∈ applying ++ [r] ↔ c ∈ applying ∨ c = r := by
  rw [List.mem_append, List.mem_singleton]

/-- What leaves no doubt about any type changes no known type. -/
theorem typesKnownTo_concat (h : ∀ t, ¬ r.Speaks true t .maximal) :
    typesKnownTo (applying ++ [r]) = typesKnownTo applying := by
  have hnone : r.implications.filter (·.isKnown) = [] := by
    rw [List.filter_eq_nil_iff]
    intro i hi hknown
    obtain ⟨hpositive, hconfidence⟩ := Bool.and_eq_true_iff.mp hknown
    exact h i.type ⟨i, hi, BEq.rfl, hpositive, of_decide_eq_true hconfidence⟩
  rw [typesKnownTo, typesKnownTo, implicationsOf, implicationsOf, List.flatMap_append,
    List.flatMap_singleton, List.filter_append, hnone, List.append_nil]

theorem contains_typesKnownTo_concat {t : EndpointType}
    (h : (typesKnownTo applying).contains t = true) :
    (typesKnownTo (applying ++ [r])).contains t = true := by
  obtain ⟨c, hc, hspeaks⟩ := contains_typesKnownTo_iff.mp h
  exact contains_typesKnownTo_iff.mpr ⟨c, mem_concat_iff.mpr (Or.inl hc), hspeaks⟩

/-- Where no known type comes in, every reason stays. -/
theorem reasonsAmong_subset_concat (h : ∀ t, ¬ r.Speaks true t .maximal) :
    reasonsAmong relevant applying ⊆ reasonsAmong relevant (applying ++ [r]) := by
  intro name hname
  obtain ⟨hknown, c, hc, hcname, hspeaks⟩ := mem_reasonsAmong_iff.mp hname
  refine mem_reasonsAmong_iff.mpr ⟨?_, c, mem_concat_iff.mpr (Or.inl hc), hcname, ?_⟩
  · rintro ⟨d, hd, t, ht, hdt⟩
    rcases mem_concat_iff.mp hd with hd | rfl
    · exact hknown ⟨d, hd, t, ht, hdt⟩
    · exact h t hdt
  · rcases hspeaks with hnegative | ⟨⟨hne, hall⟩, hagainst⟩
    · exact Or.inl hnegative
    · refine Or.inr ⟨⟨hne, fun t ht => ?_⟩, hagainst⟩
      obtain ⟨d, hd, hdt⟩ := hall t ht
      exact ⟨d, mem_concat_iff.mpr (Or.inl hd), hdt⟩

/-- What speaks neither for the negative class nor against a type takes all reasons away, or
none. -/
theorem reasonsAmong_concat_of_favourable (hnegative : ¬ r.Speaks true .negative .medium)
    (hagainst : ∀ t, ¬ r.Speaks false t .medium) :
    reasonsAmong relevant (applying ++ [r]) = reasonsAmong relevant applying ∨
      reasonsAmong relevant (applying ++ [r]) = [] := by
  have hreasons : negativeReasons (applying ++ [r]) = negativeReasons applying := by
    rw [negativeReasons, List.filter_append, List.filter_cons_of_neg, List.filter_nil,
      List.append_nil, negativeReasons]
    rwa [implies_eq_true_iff]
  have hopponents : opponents (applying ++ [r]) = opponents applying := by
    funext t
    rw [opponents, List.filter_append, List.filter_cons_of_neg, List.filter_nil,
      List.append_nil, opponents]
    rw [implies_eq_true_iff]
    exact hagainst t
  have hfilter : filterReasons relevant (applying ++ [r]) = filterReasons relevant applying := by
    rw [filterReasons, filterReasons, hopponents]
  rw [reasonsAmong, hreasons, hfilter]
  by_cases hknown : isKnownRelevant relevant (applying ++ [r]) = true
  · exact Or.inr (if_pos hknown)
  · left
    have hbefore : ¬ isKnownRelevant relevant applying = true := by
      rw [isKnownRelevant_eq_any] at hknown ⊢
      intro hany
      obtain ⟨t, ht, hcontains⟩ := List.any_eq_true.mp hany
      exact hknown (List.any_eq_true.mpr ⟨t, ht, contains_typesKnownTo_concat hcontains⟩)
    rw [if_neg hknown, reasonsAmong, if_neg hbefore]

end Applying

/-- More reasons, and nothing else, can only exclude. -/
theorem SinkEvidence.status_of_more_reasons {e f : SinkEvidence} (hknown : f.known = e.known)
    (hother : f.otherClass = e.otherClass) (hreasons : e.reasons ⊆ f.reasons) :
    f.status = e.status ∨
      (e.status = .effectiveSink ∨ e.status = .notASink) ∧ f.status = .excluded := by
  cases hexcluded : f.excluded with
  | true =>
      have hf := f.status_eq_excluded_iff.mpr hexcluded
      cases hbefore : e.excluded with
      | true => exact Or.inl (hf.trans (e.status_eq_excluded_iff.mpr hbefore).symm)
      | false =>
          refine Or.inr ⟨?_, hf⟩
          have hnot : e.known = false := by
            rw [← hknown, Bool.eq_false_iff]
            intro hk
            rw [f.excluded_of_known hk] at hexcluded
            exact Bool.noConfusion hexcluded
          rw [status, hnot, hbefore]
          cases e.otherClass
          · exact Or.inl rfl
          · exact Or.inr rfl
  | false =>
      have hbefore : e.excluded = false := by
        rw [Bool.eq_false_iff, ne_eq, e.excluded_eq_true_iff, not_not]
        have hnone : f.reasons = [] := by simpa [excluded] using hexcluded
        exact List.subset_nil.mp (hnone ▸ hreasons)
      left
      rw [status, status, hknown, hother, hexcluded, hbefore]

namespace Configuration

variable {spec : QuerySpec} {c c' : Configuration} {n : Node} {r : Characteristic}

/-- From one configuration to another, a node may get more reasons to be excluded.  If it does, an
effective sink or an endpoint of another class may become excluded. -/
structure OnlyExcludes (c c' : Configuration) (n : Node) : Prop where
  knownTypes : ∃ types, knownTypes n c.characteristics = .ok types ∧
    TaintTriage.knownTypes n c'.characteristics = .ok types
  findAmbiguity : c'.findAmbiguity n = c.findAmbiguity n
  exclusionReasons : ∃ before after, c.exclusionReasons n = .ok before ∧
    c'.exclusionReasons n = .ok after ∧ before ⊆ after
  sinkStatus : ∃ before after, c.sinkStatus n = .ok before ∧ c'.sinkStatus n = .ok after ∧
    (after = before ∨ (before = .effectiveSink ∨ before = .notASink) ∧ after = .excluded)

/-- From one configuration to another, a node may become known to be of more types, and may lose all
reasons to be excluded. -/
structure OnlyMakesKnown (c c' : Configuration) (n : Node) : Prop where
  knownTypes : ∃ before after, knownTypes n c.characteristics = .ok before ∧
    TaintTriage.knownTypes n c'.characteristics = .ok after ∧
      ∀ t, before.contains t = true → after.contains t = true
  exclusionReasons : ∃ before after, c.exclusionReasons n = .ok before ∧
    c'.exclusionReasons n = .ok after ∧ (after = before ∨ after = [])

/-- The ambiguity of a node depends on what it is known to be. -/
theorem findAmbiguity_congr (h : TaintTriage.knownTypes n c'.characteristics =
    TaintTriage.knownTypes n c.characteristics) : c'.findAmbiguity n = c.findAmbiguity n := by
  rw [Configuration.findAmbiguity, Configuration.findAmbiguity, TaintTriage.findAmbiguity,
    TaintTriage.findAmbiguity, h]

theorem OnlyExcludes.of_applicable {applying applying' : List Characteristic}
    (hrelevant : c'.relevantSinkTypes = c.relevantSinkTypes)
    (h : applicable n c.characteristics = .ok applying)
    (h' : applicable n c'.characteristics = .ok applying')
    (htypes : typesKnownTo applying' = typesKnownTo applying)
    (hreasons : reasonsAmong c.relevantSinkTypes applying ⊆
      reasonsAmong c.relevantSinkTypes applying') : c.OnlyExcludes c' n := by
  have hshows := shows_evidenceOf h
  have hshows' := shows_evidenceOf h'
  have hknownTypes : TaintTriage.knownTypes n c'.characteristics = .ok (typesKnownTo applying) :=
    htypes ▸ knownTypes_eq h'
  have hknown : isKnownRelevant c'.relevantSinkTypes applying' =
      isKnownRelevant c.relevantSinkTypes applying := by
    rw [isKnownRelevant_eq_any, isKnownRelevant_eq_any, htypes, hrelevant]
  have hsubset : (c.evidenceOf applying).reasons ⊆ (c'.evidenceOf applying').reasons := by
    rwa [evidenceOf_reasons, evidenceOf_reasons, hrelevant]
  refine ⟨⟨_, knownTypes_eq h, hknownTypes⟩,
    findAmbiguity_congr (hknownTypes.trans (knownTypes_eq h).symm),
    ⟨_, _, hshows.exclusionReasons, hshows'.exclusionReasons, hsubset⟩,
    ⟨_, _, hshows.sinkStatus, hshows'.sinkStatus, ?_⟩⟩
  apply SinkEvidence.status_of_more_reasons hknown _ hsubset
  rw [evidenceOf_otherClass, evidenceOf_otherClass, hknown, htypes]

/-- Who is a candidate where reasons came in was one before. -/
theorem OnlyExcludes.isCandidate (h : c.OnlyExcludes c' n) (hcandidate : c'.IsCandidate n) :
    c.IsCandidate n := by
  obtain ⟨before, after, hbefore, hafter, hsame | ⟨-, hexcluded⟩⟩ := h.sinkStatus
  · rw [IsCandidate, hbefore, ← hsame, ← hafter]
    exact hcandidate
  · rw [IsCandidate, hafter, hexcluded] at hcandidate
    exact absurd (Except.ok.inj hcandidate) (by decide)

theorem characteristics_refinedBy (hnew : r.name ∉ c.characteristics.map (·.name)) :
    (c.refinedBy r hnew).characteristics = c.characteristics ++ [r] :=
  (List.append_assoc _ _ _).symm

theorem sinkRulesAnswer_refinedBy_iff (hnew : r.name ∉ c.characteristics.map (·.name)) :
    (c.refinedBy r hnew).SinkRulesAnswer n ↔ c.SinkRulesAnswer n ∧ r.rule.Answers n := by
  rw [SinkRulesAnswer, characteristics_refinedBy, AllAnswer, List.forall_mem_append,
    List.forall_mem_singleton]
  rfl

theorem exists_applicable_refinedBy (hnew : r.name ∉ c.characteristics.map (·.name))
    {holds : Bool} (h : c.SinkRulesAnswer n) (hr : r.rule n = .ok holds) :
    ∃ applying, applicable n c.characteristics = .ok applying ∧
      applicable n (c.refinedBy r hnew).characteristics =
        .ok (applying ++ if holds then [r] else []) := by
  obtain ⟨applying, happlying⟩ := AllAnswer.exists_applicable h
  rw [characteristics_refinedBy]
  exact ⟨applying, happlying, applicable_concat happlying hr⟩

/-- A refinement that leaves no doubt about any type can only exclude. -/
theorem onlyExcludes_refinedBy (hnew : r.name ∉ c.characteristics.map (·.name))
    (hr : ∀ t, ¬ r.Speaks true t .maximal) (h : c.SinkRulesAnswer n)
    (hrule : r.rule.Answers n) : c.OnlyExcludes (c.refinedBy r hnew) n := by
  obtain ⟨holds, hholds⟩ := hrule
  obtain ⟨applying, happlying, happlying'⟩ := exists_applicable_refinedBy hnew h hholds
  refine OnlyExcludes.of_applicable rfl happlying happlying' ?_ ?_
  · cases holds with
    | true => exact typesKnownTo_concat hr
    | false => exact congrArg typesKnownTo (List.append_nil applying)
  · cases holds with
    | true => exact reasonsAmong_subset_concat hr
    | false =>
        rw [if_neg Bool.false_ne_true, List.append_nil]
        exact List.Subset.refl _

/-- A refinement that speaks neither for the negative class nor against a type can only make types
known. -/
theorem onlyMakesKnown_refinedBy (hnew : r.name ∉ c.characteristics.map (·.name))
    (hnegative : ¬ r.Speaks true .negative .medium) (hagainst : ∀ t, ¬ r.Speaks false t .medium)
    (h : c.SinkRulesAnswer n) (hrule : r.rule.Answers n) :
    c.OnlyMakesKnown (c.refinedBy r hnew) n := by
  obtain ⟨holds, hholds⟩ := hrule
  obtain ⟨applying, happlying, happlying'⟩ := exists_applicable_refinedBy hnew h hholds
  refine ⟨⟨_, _, knownTypes_eq happlying, knownTypes_eq happlying', fun t ht => ?_⟩,
    ⟨_, _, exclusionReasons_eq happlying, exclusionReasons_eq happlying', ?_⟩⟩
  · cases holds with
    | true => exact contains_typesKnownTo_concat ht
    | false => rwa [if_neg Bool.false_ne_true, List.append_nil]
  · cases holds with
    | true => exact reasonsAmong_concat_of_favourable hnegative hagainst
    | false => exact Or.inl (congrArg _ (List.append_nil applying))

/-- A refinement that does not apply to a node changes no answer about it. -/
theorem sameSinkAnswers_refinedBy (hnew : r.name ∉ c.characteristics.map (·.name))
    (h : c.SinkRulesAnswer n) (hrule : r.rule n = .ok false) :
    SameSinkAnswers (c.refinedBy r hnew) n c n := by
  obtain ⟨applying, happlying, happlying'⟩ := exists_applicable_refinedBy hnew h hrule
  refine SameSinkAnswers.of_applicable rfl ?_
  rw [happlying, happlying', if_neg Bool.false_ne_true, List.append_nil]

/-- Nor does it change the labels of the node. -/
theorem labels_refinedBy {k : Classifier}
    (hnew : r.name ∉ k.configuration.characteristics.map (·.name))
    (h : k.configuration.SinkRulesAnswer n) (hrule : r.rule n = .ok false) :
    Classifier.labels { k with configuration := k.configuration.refinedBy r hnew } n =
      k.labels n := by
  have hrefinements : AllAnswer k.configuration.refinements n := by
    intro d hd
    exact h d (List.mem_append_right _ hd)
  obtain ⟨applying, happlying⟩ := hrefinements.exists_applicable
  have happlying' : applicable n (k.configuration.refinements ++ [r]) = .ok applying := by
    rw [applicable_concat happlying hrule, if_neg Bool.false_ne_true, List.append_nil]
  rw [Classifier.labels, Classifier.labels, happlying, refinedBy, happlying']

/-- Nor does it change how the node is classified. -/
theorem classifyNode_refinedBy (hnew : r.name ∉ c.characteristics.map (·.name))
    (h : c.SinkRulesAnswer n) (hrule : r.rule n = .ok false) (k : Classifier)
    (hk : k.configuration = c) :
    Classifier.classifyNode { k with configuration := c.refinedBy r hnew } n =
      k.classifyNode n := by
  subst hk
  have hsame := sameSinkAnswers_refinedBy hnew h hrule
  have hlabels := labels_refinedBy hnew h hrule
  rw [Classifier.classifyNode, Classifier.classifyNode, hsame.sinkStatus, hsame.exclusionReasons,
    hlabels, findAmbiguity_congr hsame.knownTypes]
  rfl

/-- Where candidates only become fewer, work items do, and keep their order. -/
theorem extractWorkItems_sublist {nodes : List Node} {before : List WorkItem}
    (hrelevant : c'.relevantSinkTypes = c.relevantSinkTypes)
    (h : ∀ n ∈ nodes, c.SinkRulesAnswer n) (h' : ∀ n ∈ nodes, c'.SinkRulesAnswer n)
    (hfewer : ∀ n, c'.IsCandidate n → c.IsCandidate n)
    (hbefore : c.extractWorkItems nodes = .ok before) :
    ∃ after, c'.extractWorkItems nodes = .ok after ∧ after.Sublist before := by
  rw [extractWorkItems, extractUnseen_eq h] at hbefore
  obtain ⟨hshort, rfl⟩ := itemsOfEach_eq_ok_iff.mp hbefore
  have hsublist := List.monotone_filter_right
    (firstPerKey NodeRecord.id (fun _ => true) [] nodes) fun n hn =>
      (decide_eq_true (hfewer n (of_decide_eq_true hn)) : decide (c.IsCandidate n) = true)
  have hitems : c'.shownItems = c.shownItems := by
    funext n
    rw [shownItems, shownItems, hrelevant]
  refine ⟨_, (extractUnseen_eq h' []).trans (itemsOfEach_eq_ok_iff.mpr
    ⟨fun n hn => hshort n (hsublist.subset hn), rfl⟩), ?_⟩
  rw [hitems]
  exact hsublist.flatMap _

theorem extractWorkItems_refinedBy_sublist (hnew : r.name ∉ c.characteristics.map (·.name))
    (hr : ∀ t, ¬ r.Speaks true t .maximal) {nodes : List Node} {before : List WorkItem}
    (h : ∀ n ∈ nodes, c.SinkRulesAnswer n ∧ r.rule.Answers n)
    (hbefore : c.extractWorkItems nodes = .ok before) :
    ∃ after, (c.refinedBy r hnew).extractWorkItems nodes = .ok after ∧ after.Sublist before := by
  have hrelevant : (c.refinedBy r hnew).relevantSinkTypes = c.relevantSinkTypes := rfl
  refine extractWorkItems_sublist hrelevant
    (fun n hn => (h n hn).1) (fun n hn => (sinkRulesAnswer_refinedBy_iff hnew).mpr (h n hn)) ?_
    hbefore
  intro n hcandidate
  -- That a candidate was found tells that all rules answered.
  have hanswers := SinkRulesAnswer.of_sinkStatus hcandidate
  rw [sinkRulesAnswer_refinedBy_iff] at hanswers
  exact (onlyExcludes_refinedBy hnew hr hanswers.1 hanswers.2).isCandidate hcandidate

/-- An accepted specification with one more refinement, made for a family and with a new name, is
accepted.  If the family speaks against nodes, each node has the known types and the ambiguity that
it had and all its reasons, can only become excluded, and of the work items that were extracted some
can only be dropped.  If the family knows sinks, no known type is lost and the reasons stay or all
go.  Nodes that the refinement does not apply to are classified as before. -/
theorem ofSpec_refinedBy_monotone {name : String} {family : Family} {rule : Rule}
    {types : List EndpointType} (hspec : ofSpec spec = .ok c)
    (hmake : Characteristic.make name (.expected family) rule types = .ok r)
    (hnew : name ∉ c.characteristics.map (·.name)) :
    ∃ c', ofSpec (spec.refinedBy r) = .ok c' ∧
      (∀ n, c.SinkRulesAnswer n → rule.Answers n →
        (family ≠ .knownSink → c.OnlyExcludes c' n) ∧
        (family = .knownSink → c.OnlyMakesKnown c' n) ∧
        (rule n = .ok false → SameSinkAnswers c' n c n ∧ ∀ k : Classifier, k.configuration = c →
          Classifier.classifyNode { k with configuration := c' } n = k.classifyNode n)) ∧
      (family ≠ .knownSink → ∀ nodes, (∀ n ∈ nodes, c.SinkRulesAnswer n ∧ rule.Answers n) →
        ((∀ n ∈ nodes, n.HasFeatures) → ∃ before, c.extractWorkItems nodes = .ok before) ∧
        ∀ before, c.extractWorkItems nodes = .ok before →
          ∃ after, c'.extractWorkItems nodes = .ok after ∧ after.Sublist before) := by
  obtain ⟨rfl, hpositive⟩ := eq_ofFamily_of_make hmake
  refine ⟨c.refinedBy _ hnew, ofSpec_refinedBy hspec hnew, fun n h hrule => ⟨?_, ?_, ?_⟩, ?_⟩
  · intro hfamily
    exact onlyExcludes_refinedBy hnew (not_speaks_maximal_ofFamily hfamily) h hrule
  · rintro rfl
    exact onlyMakesKnown_refinedBy hnew (not_speaks_negative_knownSink (hpositive rfl))
      not_speaks_against_knownSink h hrule
  · intro hfalse
    exact ⟨sameSinkAnswers_refinedBy hnew h hfalse, classifyNode_refinedBy hnew h hfalse⟩
  · intro hfamily nodes hnodes
    refine ⟨fun hfeatures => ?_, fun before hbefore => ?_⟩
    · exact exists_extractWorkItems (fun n hn => (hnodes n hn).1) hfeatures
    · exact extractWorkItems_refinedBy_sublist hnew (not_speaks_maximal_ofFamily hfamily) hnodes
        hbefore

end Configuration

/-- A filter for arguments of a function that escapes text for pages. -/
def escapedArgument : Characteristic :=
  ofFamily "escaped-argument" .standardFilter (fun n => .ok (n.calleeName.equals (.str "escape")))
    [.xssSink]

/-- An argument of such a function. -/
def escaped : Node := { NodeRecord.bare "escaped" "argument" with calleeName := .str "escape" }

/-- Of two candidates, the filter excludes the one that it applies to; what is known of the other
stays. -/
theorem ofSpec_refinedBy_monotone_escapedArgument :
    ∃ c c' : Configuration, Configuration.ofSpec (.ofTypes [.xssSink]) = .ok c ∧
      Configuration.ofSpec (SpecOf.refinedBy (.ofTypes [.xssSink]) escapedArgument) = .ok c' ∧
      (c.OnlyExcludes c' escaped ∧ c.sinkStatus escaped = .ok .effectiveSink ∧
        c'.sinkStatus escaped = .ok .excluded) ∧
      Configuration.SameSinkAnswers c' (.bare "plain" "argument") c (.bare "plain" "argument") ∧
      ∃ before after : List WorkItem,
        c.extractWorkItems [escaped, .bare "plain" "argument"] = .ok before ∧
        c'.extractWorkItems [escaped, .bare "plain" "argument"] = .ok after ∧
        after.Sublist before ∧ before.length = 2 ∧ after.length = 1 := by
  obtain ⟨c, hc, hnew, hescaped, hplain, hstatus, before, hbefore, htwo⟩ : ∃ c,
      Configuration.ofSpec (.ofTypes [.xssSink]) = .ok c ∧
        escapedArgument.name ∉ c.characteristics.map (·.name) ∧ c.SinkRulesAnswer escaped ∧
        c.SinkRulesAnswer (.bare "plain" "argument") ∧
        c.sinkStatus escaped = .ok .effectiveSink ∧
        ∃ before, c.extractWorkItems [escaped, .bare "plain" "argument"] = .ok before ∧
          before.length = 2 := by decide +kernel
  obtain ⟨d, hd, hexcluded, after, hafter, hone⟩ : ∃ d,
      Configuration.ofSpec (SpecOf.refinedBy (.ofTypes [.xssSink]) escapedArgument) = .ok d ∧
        d.sinkStatus escaped = .ok .excluded ∧
        ∃ after, d.extractWorkItems [escaped, .bare "plain" "argument"] = .ok after ∧
          after.length = 1 := by decide +kernel
  have hmake : Characteristic.make "escaped-argument" (.expected .standardFilter)
      escapedArgument.rule [.xssSink] = .ok escapedArgument := rfl
  obtain ⟨c', hc', hnodes, hitems⟩ := Configuration.ofSpec_refinedBy_monotone hc hmake hnew
  obtain rfl : d = c' := Except.ok.inj (hd.symm.trans hc')
  have hanswers : ∀ n ∈ [escaped, .bare "plain" "argument"],
      c.SinkRulesAnswer n ∧ escapedArgument.rule.Answers n := by
    intro n hn
    rcases List.mem_pair.mp hn with rfl | rfl
    · exact ⟨hescaped, _, rfl⟩
    · exact ⟨hplain, _, rfl⟩
  have hfamily : Family.standardFilter ≠ .knownSink := by decide
  obtain ⟨after', hafter', hsublist⟩ := (hitems hfamily _ hanswers).2 before hbefore
  obtain rfl : after = after' := Except.ok.inj (hafter.symm.trans hafter')
  refine ⟨c, d, hc, hd, ⟨?_, hstatus, hexcluded⟩, ?_, before, after, hbefore, hafter, hsublist,
    htwo, hone⟩
  · exact (hnodes escaped hescaped ⟨_, rfl⟩).1 hfamily
  · exact ((hnodes _ hplain ⟨_, rfl⟩).2.2 rfl).1

end TaintTriage
