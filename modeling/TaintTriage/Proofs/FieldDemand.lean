import TaintTriage.Proofs.CandidateReport
import TaintTriage.Proofs.DocumentFields
import TaintTriage.Proofs.UntrustedEngine

/-!
What the shipped queries demand of the fields that a node takes from its document unchanged.  Every
rule is asked about every node, so that one field of the wrong shape is enough for a graph not to be
classified; the fields that do no harm are described here exactly.
-/

namespace TaintTriage

namespace Value

/-- What a search for words takes: a text, or what does not count as true. -/
def IsEmptyOrText (v : Value) : Prop :=
  v.isTruthy = true → ∃ s, v = .str s

theorem requireSought_iff_of_falsy {v : Value} (h : v.isTruthy = false) :
    v.requireSought = .ok () ↔ v.isHashable = true ∨ v = .set [] := by
  cases v with
  | set members =>
      obtain rfl : members = [] := by simpa [isTruthy] using h
      simp [requireSought]
  | _ => simp [requireSought, requireHashable]

end Value

namespace Rule

variable {rule other : Rule} {n : Node}

theorem answers_iff : rule.Answers n ↔ rule n = .ok true ∨ rule n = .ok false := by
  constructor
  · rintro ⟨holds, h⟩
    cases holds with
    | true => exact Or.inl h
    | false => exact Or.inr h
  · rintro (h | h)
    · exact ⟨true, h⟩
    · exact ⟨false, h⟩

/-- Only where the first question is answered with no, the second one has to be answered. -/
theorem answers_orElse_iff :
    (rule.orElse other).Answers n ↔
      rule n = .ok true ∨ rule n = .ok false ∧ other.Answers n := by
  rcases h : rule n with failure | _ | _
  · simp [Answers, Rule.orElse, h]
  · simp [Answers, Rule.orElse, h]
  · simp [Answers, Rule.orElse, h]

end Rule

namespace Characteristic

variable {n : Node}

theorem calleeIn_answers_iff {names : List String} (hargument : n.isArgument = true) :
    (calleeIn names).Answers n ↔ n.calleeName.requireSought = .ok () := by
  simp only [Rule.Answers, calleeIn, hargument, ↓reduceIte, isOneOf]
  cases n.calleeName.requireSought <;> simp [orFail]

theorem isLoggerArgument_answers_iff {callee : String} (hargument : n.isArgument = true)
    (hcallee : n.calleeName = .str callee) (hne : callee ≠ "") :
    isLoggerArgument.Answers n ↔ n.receiverName.IsOptionalText := by
  simp only [Rule.Answers, isLoggerArgument, hargument, hcallee, Value.isTruthy,
    Value.IsOptionalText]
  cases n.receiverName with
  | null => simp [hne]
  | str receiver => cases hlogger : isLoggerReceiver receiver <;>
      simp [hne, Value.text, hlogger]
  | _ => simp [hne, Value.text, orFail]

theorem isLoggerArgument_answers_of_falsy (hcallee : n.calleeName.isTruthy = false) :
    isLoggerArgument.Answers n :=
  ⟨false, by simp [isLoggerArgument, hcallee]⟩

theorem hasCryptoName_answers_iff {v : Value} :
    (∃ holds, hasCryptoName v = .ok holds) ↔ v.IsEmptyOrText := by
  rw [hasCryptoName, Value.IsEmptyOrText]
  cases v.isTruthy with
  | false => simp
  | true => cases v <;> simp [Value.text, orFail]

/-- The callee and the receiver of a call are such that every shared rule answers: with a callee, a
receiver has to be a text; without one, only what counts as true does.  An empty list or mapping in
place of a callee cannot be looked for among names, an empty set can. -/
def CallReadable (n : Node) : Prop :=
  (∃ callee, n.calleeName = .str callee ∧ callee ≠ "" ∧ n.receiverName.IsOptionalText) ∨
    (n.calleeName.isTruthy = false ∧
      (n.calleeName.isHashable = true ∨ n.calleeName = .set []) ∧
      n.receiverName.IsEmptyOrText)

theorem callReadable_of_answers (hargument : n.isArgument = true)
    (hcallee : n.calleeName.requireSought = .ok ()) (hlogger : isLoggerArgument.Answers n)
    (hcrypto : isCryptoArgument.Answers n) : CallReadable n := by
  rw [Rule.Answers, isCryptoArgument_eq hargument] at hcrypto
  have hnames := Rule.answers_orElse_iff.mp hcrypto
  cases htruth : n.calleeName.isTruthy with
  | true =>
      have hanswers : ∃ holds, hasCryptoName n.calleeName = .ok holds :=
        hnames.elim (fun h => ⟨true, h⟩) fun h => ⟨false, h.1⟩
      obtain ⟨callee, htext⟩ := hasCryptoName_answers_iff.mp hanswers htruth
      have hne : callee ≠ "" := by
        rintro rfl
        rw [htext] at htruth
        cases htruth
      exact Or.inl ⟨callee, htext, hne,
        (isLoggerArgument_answers_iff hargument htext hne).mp hlogger⟩
  | false =>
      have hno : hasCryptoName n.calleeName = .ok false := by simp [hasCryptoName, htruth]
      rcases hnames with hyes | ⟨-, hreceiver⟩
      · cases hno.symm.trans hyes
      · exact Or.inr ⟨htruth, (Value.requireSought_iff_of_falsy htruth).mp hcallee,
          hasCryptoName_answers_iff.mp hreceiver⟩

theorem CallReadable.requireSought_eq_ok (h : CallReadable n) :
    n.calleeName.requireSought = .ok () := by
  rcases h with ⟨callee, hcallee, -⟩ | ⟨hfalsy, hsought, -⟩
  · rw [hcallee]
    rfl
  · exact (Value.requireSought_iff_of_falsy hfalsy).mpr hsought

theorem CallReadable.isEmptyOrText (h : CallReadable n) : n.calleeName.IsEmptyOrText := by
  rcases h with ⟨callee, hcallee, -⟩ | ⟨hfalsy, -⟩
  · exact fun _ => ⟨callee, hcallee⟩
  · intro htruth
    cases hfalsy.symm.trans htruth

theorem CallReadable.isLoggerArgument_answers (hargument : n.isArgument = true)
    (h : CallReadable n) : isLoggerArgument.Answers n := by
  rcases h with ⟨callee, hcallee, hne, hreceiver⟩ | ⟨hfalsy, -⟩
  · exact (isLoggerArgument_answers_iff hargument hcallee hne).mpr hreceiver
  · exact isLoggerArgument_answers_of_falsy hfalsy

theorem CallReadable.isCryptoArgument_answers (hargument : n.isArgument = true)
    (h : CallReadable n) : isCryptoArgument.Answers n := by
  have hreceiver : n.receiverName.IsEmptyOrText := by
    rcases h with ⟨-, -, -, hnull | htext⟩ | ⟨-, -, hreceiver⟩
    · rw [hnull]
      exact fun htruth => nomatch htruth
    · exact fun _ => htext
    · exact hreceiver
  obtain ⟨holds, hholds⟩ := hasCryptoName_answers_iff.mpr h.isEmptyOrText
  rw [Rule.Answers, isCryptoArgument_eq hargument]
  refine Rule.answers_orElse_iff.mpr ?_
  cases holds with
  | true => exact Or.inl hholds
  | false => exact Or.inr ⟨hholds, hasCryptoName_answers_iff.mpr hreceiver⟩

end Characteristic

namespace Html

variable {n : Node}

/-- The text of a node, and the property that it is written to, can be searched for markup, as far
as they are: each sign of markup ends the search. -/
def MarkupReadable (n : Node) : Prop :=
  (isLikelyExternalCallArgument n || isHtmlConcatenation n || n.isHtmlConcatenationLeaf) = true ∨
    n.stringValue.IsEmptyOrText ∧
      ((∃ s, n.stringValue = .str s ∧ hasTagStart s.toList = true) ∨
        (n.isPropertyWrite = true → n.propertyName.IsEmptyOrText))

theorem matchesHtmlTag_answers_iff :
    Rule.Answers matchesHtmlTag n ↔ n.stringValue.IsEmptyOrText := by
  rw [Rule.Answers, matchesHtmlTag, Value.IsEmptyOrText]
  cases n.stringValue.isTruthy with
  | false => simp
  | true => cases n.stringValue <;> simp [Value.text, orFail]

theorem matchesHtmlTag_eq_ok_true_iff :
    matchesHtmlTag n = .ok true ↔
      ∃ s, n.stringValue = .str s ∧ hasTagStart s.toList = true := by
  by_cases htext : n.stringValue.IsOptionalText
  · exact (matchesHtmlTag_decides htext).eq_ok_true_iff
  · have hnone (s : String) : n.stringValue ≠ .str s := fun h => htext (Or.inr ⟨s, h⟩)
    have hno : matchesHtmlTag n ≠ .ok true := by
      rw [matchesHtmlTag]
      cases n.stringValue.isTruthy with
      | false => simp
      | true =>
          cases hvalue : n.stringValue with
          | str s => exact absurd hvalue (hnone s)
          | _ => simp [Value.text, orFail]
    simp [hno, hnone]

theorem hasAnyWord_answers_iff {words : List String} {v : Value} :
    (∃ holds, hasAnyWord words v = .ok holds) ↔ v.IsEmptyOrText := by
  rw [hasAnyWord, Value.orEmpty, Value.IsEmptyOrText]
  cases v.isTruthy with
  | false => simp [Value.text]
  | true => cases v <;> simp [Value.text, orFail]

theorem not_isPropertyWrite_of_isArgument (h : n.isArgument = true) :
    n.isPropertyWrite = false := by
  have hkind : n.kind = .str "argument" := Value.equals_str_iff.mp h
  simp [NodeRecord.isPropertyWrite, hkind, Value.equals]

theorem isHtmlPropertyWrite_answers_iff :
    Rule.Answers isHtmlPropertyWrite n ↔
      (n.isPropertyWrite = true → n.propertyName.IsEmptyOrText) := by
  rw [Rule.Answers, isHtmlPropertyWrite]
  cases n.isPropertyWrite with
  | false => simp
  | true => simp only [↓reduceIte, hasAnyWord_answers_iff, forall_const]

/-- No node is both an argument and written to a property, so only one name is looked at. -/
theorem answers_after_text_iff (hcallee : n.isArgument = true → n.calleeName.IsEmptyOrText) :
    Rule.Answers (Rule.orElse isRenderCallArgument isHtmlPropertyWrite) n ↔
      (n.isPropertyWrite = true → n.propertyName.IsEmptyOrText) := by
  rw [Rule.answers_orElse_iff, isHtmlPropertyWrite_answers_iff]
  cases hargument : n.isArgument with
  | false => simp [isRenderCallArgument, hargument]
  | true =>
      have hno := not_isPropertyWrite_of_isArgument hargument
      obtain ⟨holds, hholds⟩ : Rule.Answers isRenderCallArgument n := by
        obtain ⟨holds, hholds⟩ := hasAnyWord_answers_iff.mpr (hcallee hargument)
        exact ⟨holds, by rw [isRenderCallArgument, if_pos hargument]; exact hholds⟩
      cases holds <;> simp [hholds, hno]

theorem isLikelyXssSink_answers_iff (hcallee : n.isArgument = true → n.calleeName.IsEmptyOrText) :
    Rule.Answers isLikelyXssSink n ↔ MarkupReadable n := by
  rw [isLikelyXssSink_eq, Rule.answers_orElse_iff, Rule.answers_orElse_iff,
    answers_after_text_iff hcallee, matchesHtmlTag_eq_ok_true_iff, MarkupReadable,
    ← matchesHtmlTag_answers_iff, Rule.answers_iff, matchesHtmlTag_eq_ok_true_iff]
  cases hshape : isLikelyExternalCallArgument n || isHtmlConcatenation n ||
      n.isHtmlConcatenationLeaf with
  | true => simp
  | false =>
      simp only [Except.ok.injEq, Bool.false_eq_true, false_or, true_and]
      constructor
      · rintro (htag | ⟨hno, hproperty⟩)
        · exact ⟨Or.inl htag, Or.inl htag⟩
        · exact ⟨Or.inr hno, Or.inr hproperty⟩
      · rintro ⟨htag | hno, htag' | hproperty⟩
        · exact Or.inl htag
        · exact Or.inl htag
        · exact Or.inl htag'
        · exact Or.inr ⟨hno, hproperty⟩

end Html

open Characteristic

/-- The fields of a node are such that all rules of a query answer about it. -/
structure NodeRecord.ReadableFor (kind : QueryKind) (n : Node) : Prop where
  call : n.isArgument = true → CallReadable n
  markup : kind = .xss → Html.MarkupReadable n

namespace Ground

variable {kind : QueryKind} {n : Node}

theorem rule_answers_of_readableFor {g : Ground} (hg : g ∈ listed kind) (h : n.ReadableFor kind) :
    g.rule.Answers n := by
  have hcall (names : List String) : (calleeIn names).Answers n := by
    cases hargument : n.isArgument with
    | false => exact ⟨false, by simp [calleeIn, hargument]⟩
    | true => exact (calleeIn_answers_iff hargument).mpr (h.call hargument).requireSought_eq_ok
  cases g with
  | timer | stringTest | eventRegistration | eventDispatch | date | builtin => exact hcall _
  | receiverStorage | constant | testFile | sanitized => exact ⟨_, rfl⟩
  | noCallOfNosql | noCallOfPath => exact ⟨_, rfl⟩
  | logger =>
      cases hargument : n.isArgument with
      | false => exact ⟨false, by simp [rule, isLoggerArgument, hargument]⟩
      | true => exact (h.call hargument).isLoggerArgument_answers hargument
  | crypto =>
      cases hargument : n.isArgument with
      | false => exact ⟨false, by simp [rule, isCryptoArgument, hargument]⟩
      | true => exact (h.call hargument).isCryptoArgument_answers hargument
  | noSignOfMarkup =>
      have hxss : kind = .xss := by
        revert hg
        cases kind <;> decide
      obtain ⟨holds, hholds⟩ := (Html.isLikelyXssSink_answers_iff
        fun hargument => (h.call hargument).isEmptyOrText).mpr (h.markup hxss)
      exact ⟨!holds, by simp [rule, hholds]⟩

theorem readableFor_of_answers (h : ∀ g ∈ listed kind, g.rule.Answers n) :
    n.ReadableFor kind := by
  have hcall : n.isArgument = true → CallReadable n := by
    intro hargument
    have hsought := (calleeIn_answers_iff hargument).mp
      (h .timer (by cases kind <;> decide))
    exact callReadable_of_answers hargument hsought
      (h .logger (by cases kind <;> decide)) (h .crypto (by cases kind <;> decide))
  refine ⟨hcall, ?_⟩
  rintro rfl
  obtain ⟨holds, hholds⟩ := h .noSignOfMarkup (by decide)
  obtain ⟨found, hfound, -⟩ := bind_eq_ok_iff.mp hholds
  exact (Html.isLikelyXssSink_answers_iff
    fun hargument => (hcall hargument).isEmptyOrText).mp ⟨found, hfound⟩

end Ground

/-- All rules about sinks answer about a node exactly if its fields can be read for the query. -/
theorem sinkRulesAnswer_ofKind_iff {kind : QueryKind} {n : Node} :
    (Configuration.ofKind kind).SinkRulesAnswer n ↔ n.ReadableFor kind := by
  constructor
  · intro h
    apply Ground.readableFor_of_answers
    intro g hg
    apply h g.characteristic
    rw [Ground.characteristics_ofKind]
    exact List.mem_append_right _ (List.mem_map_of_mem hg)
  · intro h c hc
    rw [Ground.characteristics_ofKind, List.mem_append, List.mem_map, List.mem_map] at hc
    obtain ⟨k, -, rfl⟩ | ⟨g, hg, rfl⟩ := hc
    · exact ⟨_, rfl⟩
    · exact Ground.rule_answers_of_readableFor hg h

namespace Classifier

/-- A shipped query has a report on all nodes of a graph exactly if the fields of each of them can
be read for it, with any number of workers; with labels, the names in them have to be shown as
well. -/
theorem exists_report_iff (g : Snapshot) (kind : QueryKind) (includeLabels : Bool)
    (workers : Int) :
    (∃ report, (classifyGraph ⟨.ofKind kind, .shipped, includeLabels, workers⟩ g).outcome =
        .ok report ∧ report.classifications.map (·.nodeId) = g.nodes.map (·.id)) ↔
      ∀ n ∈ g.nodes, n.ReadableFor kind ∧ (includeLabels = true → n.HasShortNames) := by
  have hsources (n : Node) : (Configuration.ofKind kind).SourceRulesAnswer n := by
    refine ⟨Configuration.knownSource_answers_ofKind kind n, ?_⟩
    cases kind <;> exact fun rule hrule => nomatch hrule
  constructor
  · rintro ⟨report, hreport, -⟩ n hn
    have hclassified := (outcome_classifyGraph_eq_ok_iff.mp hreport).2
    have hsinks := sinkRulesAnswer_of_mapM hclassified n hn
    have hlabellers :=
      (exists_classifyNode_iff ⟨hsources n, hsinks⟩).mp
        (exists_mapM_eq_ok_iff.mp ⟨_, hclassified⟩ n hn)
    exact ⟨sinkRulesAnswer_ofKind_iff.mp hsinks,
      (labellersAnswer_shipped_iff rfl hsinks).mp hlabellers⟩
  · intro h
    have hclassified : ∀ n ∈ g.nodes, ∃ entry,
        classifyNode ⟨.ofKind kind, .shipped, includeLabels, workers⟩ n = .ok entry := by
      intro n hn
      have hsinks := sinkRulesAnswer_ofKind_iff.mpr (h n hn).1
      exact (exists_classifyNode_iff ⟨hsources n, hsinks⟩).mpr
        ((labellersAnswer_shipped_iff rfl hsinks).mpr (h n hn).2)
    obtain ⟨report, hreport⟩ :
        ∃ report, (classifyGraph ⟨.ofKind kind, .shipped, includeLabels, workers⟩ g).outcome =
          .ok report := exists_classifyGraph_iff.mpr hclassified
    exact ⟨report, hreport, nodeIds_eq (outcome_classifyGraph_eq_ok_iff.mp hreport).2⟩

/-- A document with an argument of a callee whose name is a number. -/
def numberedCallee : Value :=
  .object [("nodes", .list [.object [("node_id", .str "a"), ("callee_name", .int 5)]])]

/-- The document is accepted, and no shipped query has a report on it. -/
theorem not_exists_report_numberedCallee :
    ∃ g, Snapshot.ofDocument numberedCallee = .ok g ∧
      ∀ kind : QueryKind, ¬ ∃ report,
        (classifyGraph { configuration := .ofKind kind } g).outcome = .ok report := by
  refine ⟨_, rfl, fun kind => ?_⟩
  rintro ⟨report, hreport⟩
  cases kind <;> exact nomatch hreport

end Classifier

end TaintTriage
