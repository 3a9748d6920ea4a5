import TaintTriage.Classification
import TaintTriage.Proofs.Evidence
import TaintTriage.Proofs.LabelAnswer
import TaintTriage.Query.Shipped

/-!
The sink axis of a configuration.  All its questions are answered from three facts about a node:
whether it is a known sink, whether it is a known endpoint of another class, and the reasons to
exclude it.  The facts are coherent, which makes the statuses a partition.
-/

namespace TaintTriage

open Characteristic

/-- What speaks for and against a node as a sink.  A known sink is neither excluded nor an endpoint
of another class. -/
structure SinkEvidence where
  known : Bool
  otherClass : Bool
  reasons : List String
  otherClass_of_known : known = true → otherClass = false
  reasons_of_known : known = true → reasons = []

namespace SinkEvidence

def excluded (e : SinkEvidence) : Bool := !e.reasons.isEmpty

/-- Whether nothing speaks against the node. -/
def effective (e : SinkEvidence) : Bool := !e.excluded && !e.otherClass

/-- What the node is on the sink axis. -/
def status (e : SinkEvidence) : SinkStatus :=
  if e.known then .knownSink
  else if e.excluded then .excluded
  else if e.otherClass then .notASink
  else .effectiveSink

variable (e : SinkEvidence)

theorem excluded_eq_true_iff : e.excluded = true ↔ e.reasons ≠ [] := by
  simp [excluded]

theorem excluded_of_known (h : e.known = true) : e.excluded = false := by
  simp [excluded, e.reasons_of_known h]

theorem effective_of_known (h : e.known = true) : e.effective = true := by
  simp [effective, e.excluded_of_known h, e.otherClass_of_known h]

theorem effective_eq_true_iff :
    e.effective = true ↔ e.excluded = false ∧ e.otherClass = false := by
  simp [effective]

theorem status_eq_knownSink_iff : e.status = .knownSink ↔ e.known = true := by
  rw [status]
  cases e.known <;> cases e.excluded <;> cases e.otherClass <;> decide

theorem status_eq_excluded_iff : e.status = .excluded ↔ e.excluded = true := by
  cases hknown : e.known with
  | true => simp [status, hknown, e.excluded_of_known hknown]
  | false =>
      rw [status, hknown]
      cases e.excluded <;> cases e.otherClass <;> decide

theorem reasons_eq_nil_of_status_ne (h : e.status ≠ .excluded) : e.reasons = [] := by
  rw [ne_eq, status_eq_excluded_iff, excluded] at h
  simpa using h

theorem status_eq_notASink_iff :
    e.status = .notASink ↔ e.otherClass = true ∧ e.excluded = false := by
  cases hknown : e.known with
  | true => simp [status, hknown, e.otherClass_of_known hknown]
  | false =>
      rw [status, hknown]
      cases e.excluded <;> cases e.otherClass <;> decide

theorem status_eq_effectiveSink_iff :
    e.status = .effectiveSink ↔ e.effective = true ∧ e.known = false := by
  rw [effective_eq_true_iff, status]
  cases e.known <;> cases e.excluded <;> cases e.otherClass <;> decide

end SinkEvidence

namespace Configuration

variable (c : Configuration)

def SinkRulesAnswer (n : Node) : Prop :=
  AllAnswer c.characteristics n

instance (n : Node) : Decidable (c.SinkRulesAnswer n) :=
  inferInstanceAs (Decidable (AllAnswer c.characteristics n))

/-- The evidence that characteristics which apply give together. -/
def evidenceOf (applying : List Characteristic) : SinkEvidence where
  known := isKnownRelevant c.relevantSinkTypes applying
  otherClass := !isKnownRelevant c.relevantSinkTypes applying &&
    (typesKnownTo applying).any fun t => !t.isNegative
  reasons := reasonsAmong c.relevantSinkTypes applying
  otherClass_of_known := fun h => by simp [h]
  reasons_of_known := fun h => by simp [reasonsAmong, h]

@[simp] theorem evidenceOf_known (applying : List Characteristic) :
    (c.evidenceOf applying).known = isKnownRelevant c.relevantSinkTypes applying := rfl

theorem evidenceOf_otherClass (applying : List Characteristic) :
    (c.evidenceOf applying).otherClass = (!isKnownRelevant c.relevantSinkTypes applying &&
      (typesKnownTo applying).any fun t => !t.isNegative) := rfl

theorem evidenceOf_otherClass_eq_true_iff {applying : List Characteristic} :
    (c.evidenceOf applying).otherClass = true ↔
      ¬ (c.evidenceOf applying).known = true ∧
        ∃ t, t.isNegative = false ∧ ∃ d ∈ applying, d.Speaks true t .maximal := by
  rw [← any_endpoint_typesKnownTo_iff, Bool.not_eq_true, ← Bool.not_eq_true', ← Bool.and_eq_true]
  rfl

@[simp] theorem evidenceOf_reasons (applying : List Characteristic) :
    (c.evidenceOf applying).reasons = reasonsAmong c.relevantSinkTypes applying := rfl

/-- Every question of the sink axis about a node is answered from some evidence. -/
structure Shows (n : Node) (e : SinkEvidence) : Prop where
  isKnownSink : c.isKnownSink n = .ok e.known
  isKnownSinkOfOtherClass : c.isKnownSinkOfOtherClass n = .ok e.otherClass
  exclusionReasons : c.exclusionReasons n = .ok e.reasons
  isExcluded : c.isExcluded n = .ok e.excluded
  isEffectiveSink : c.isEffectiveSink n = .ok e.effective
  isSink : c.isSink n = .ok (e.known || e.effective)
  sinkStatus : c.sinkStatus n = .ok e.status

variable {c} {n : Node}

theorem shows_evidenceOf {applying : List Characteristic}
    (h : applicable n c.characteristics = .ok applying) : c.Shows n (c.evidenceOf applying) := by
  have htypes := knownTypes_eq h
  have hknown : c.isKnownSink n = .ok (c.evidenceOf applying).known := by
    simp [Configuration.isKnownSink, htypes, evidenceOf, isKnownRelevant_eq_any]
  have hother : c.isKnownSinkOfOtherClass n = .ok (c.evidenceOf applying).otherClass := by
    simp only [Configuration.isKnownSinkOfOtherClass, htypes, ok_bind, evidenceOf,
      isKnownRelevant_eq_any]
    cases c.relevantSinkTypes.any (typesKnownTo applying).contains <;> simp
  have hreasons : c.exclusionReasons n = .ok (c.evidenceOf applying).reasons :=
    exclusionReasons_eq h
  have hexcluded : c.isExcluded n = .ok (c.evidenceOf applying).excluded := by
    simp [Configuration.isExcluded, hreasons, SinkEvidence.excluded]
  have heffective : c.isEffectiveSink n = .ok (c.evidenceOf applying).effective := by
    simp only [Configuration.isEffectiveSink, hexcluded, hother, ok_bind, pure_eq_ok,
      SinkEvidence.effective]
    cases (c.evidenceOf applying).excluded <;> simp
  refine ⟨hknown, hother, hreasons, hexcluded, heffective, ?_, ?_⟩
  · simp only [Configuration.isSink, hknown, heffective, ok_bind, pure_eq_ok]
    cases (c.evidenceOf applying).known <;> simp
  · simp only [Configuration.sinkStatus, hknown, hexcluded, hother, ok_bind, pure_eq_ok,
      SinkEvidence.status]
    cases (c.evidenceOf applying).known <;> cases (c.evidenceOf applying).excluded <;>
      cases (c.evidenceOf applying).otherClass <;> rfl

theorem SinkRulesAnswer.exists_shows (h : c.SinkRulesAnswer n) : ∃ e, c.Shows n e := by
  obtain ⟨applying, happlying⟩ := AllAnswer.exists_applicable h
  exact ⟨c.evidenceOf applying, shows_evidenceOf happlying⟩

theorem SinkRulesAnswer.exists_findAmbiguity (h : c.SinkRulesAnswer n) :
    ∃ ambiguity, c.findAmbiguity n = .ok ambiguity := by
  obtain ⟨applying, happlying⟩ := AllAnswer.exists_applicable h
  exact ⟨_, by rw [findAmbiguity, TaintTriage.findAmbiguity, knownTypes_eq happlying]; rfl⟩

/-- Where a status was found, no rule about sinks failed. -/
theorem SinkRulesAnswer.of_sinkStatus {status : SinkStatus} (h : c.sinkStatus n = .ok status) :
    c.SinkRulesAnswer n := by
  obtain ⟨known, hknown, -⟩ := bind_eq_ok_iff.mp h
  obtain ⟨types, htypes, -⟩ := bind_eq_ok_iff.mp hknown
  obtain ⟨applying, happlying, -⟩ := bind_eq_ok_iff.mp htypes
  exact AllAnswer.of_applicable happlying

theorem SinkRulesAnswer.of_isEffectiveSink {effective : Bool}
    (h : c.isEffectiveSink n = .ok effective) : c.SinkRulesAnswer n := by
  obtain ⟨excluded, hexcluded, -⟩ := bind_eq_ok_iff.mp h
  obtain ⟨reasons, hreasons, -⟩ := bind_eq_ok_iff.mp hexcluded
  obtain ⟨applying, happlying, -⟩ := bind_eq_ok_iff.mp hreasons
  exact AllAnswer.of_applicable happlying

/-- Two nodes, each under a configuration, have the same answers on the sink axis.  Failures are
answers here. -/
structure SameSinkAnswers (c : Configuration) (n : Node) (d : Configuration) (m : Node) :
    Prop where
  knownTypes : knownTypes n c.characteristics = knownTypes m d.characteristics
  ambiguousNames : (c.findAmbiguity n).map (·.map (·.typeNames)) =
    (d.findAmbiguity m).map (·.map (·.typeNames))
  isKnownSink : c.isKnownSink n = d.isKnownSink m
  isKnownSinkOfOtherClass : c.isKnownSinkOfOtherClass n = d.isKnownSinkOfOtherClass m
  exclusionReasons : c.exclusionReasons n = d.exclusionReasons m
  isExcluded : c.isExcluded n = d.isExcluded m
  isEffectiveSink : c.isEffectiveSink n = d.isEffectiveSink m
  isSink : c.isSink n = d.isSink m
  sinkStatus : c.sinkStatus n = d.sinkStatus m

theorem map_typeNames_findAmbiguity (c : Configuration) (n : Node) :
    (c.findAmbiguity n).map (·.map (·.typeNames)) =
      (TaintTriage.knownTypes n c.characteristics).map fun types =>
        if types.length < 2 then none else some (types.map (·.name)) := by
  rw [Configuration.findAmbiguity, TaintTriage.findAmbiguity]
  cases TaintTriage.knownTypes n c.characteristics with
  | error failure => rfl
  | ok types =>
      refine congrArg Except.ok ?_
      change Option.map Ambiguity.typeNames
          (if types.length < 2 then none else some ⟨n.id, types.map (·.name)⟩) =
        if types.length < 2 then none else some (types.map (·.name))
      rw [apply_ite (Option.map Ambiguity.typeNames)]
      rfl

/-- The answers go by the characteristics that apply and the relevant types. -/
theorem SameSinkAnswers.of_applicable {c d : Configuration} {n m : Node}
    (hrelevant : c.relevantSinkTypes = d.relevantSinkTypes)
    (h : applicable n c.characteristics = applicable m d.characteristics) :
    SameSinkAnswers c n d m := by
  have htypes : TaintTriage.knownTypes n c.characteristics =
      TaintTriage.knownTypes m d.characteristics := by
    rw [TaintTriage.knownTypes, TaintTriage.knownTypes, h]
  have hknown : c.isKnownSink n = d.isKnownSink m := by
    rw [Configuration.isKnownSink, Configuration.isKnownSink, htypes, hrelevant]
  have hother : c.isKnownSinkOfOtherClass n = d.isKnownSinkOfOtherClass m := by
    rw [Configuration.isKnownSinkOfOtherClass, Configuration.isKnownSinkOfOtherClass, htypes,
      hrelevant]
  have hreasons : c.exclusionReasons n = d.exclusionReasons m := by
    rw [Configuration.exclusionReasons, Configuration.exclusionReasons,
      TaintTriage.exclusionReasons, TaintTriage.exclusionReasons, h, hrelevant]
  have hexcluded : c.isExcluded n = d.isExcluded m := by
    rw [Configuration.isExcluded, Configuration.isExcluded, hreasons]
  have heffective : c.isEffectiveSink n = d.isEffectiveSink m := by
    rw [Configuration.isEffectiveSink, Configuration.isEffectiveSink, hexcluded, hother]
  refine ⟨htypes, ?_, hknown, hother, hreasons, hexcluded, heffective, ?_, ?_⟩
  · rw [map_typeNames_findAmbiguity, map_typeNames_findAmbiguity, htypes]
  · rw [Configuration.isSink, Configuration.isSink, hknown, heffective]
  · rw [Configuration.sinkStatus, Configuration.sinkStatus, hknown, hexcluded, hother]

def SourceRulesAnswer (c : Configuration) (n : Node) : Prop :=
  c.knownSource.Answers n ∧ ∀ rule ∈ c.effectiveSource, rule.Answers n

instance (c : Configuration) (n : Node) : Decidable (c.SourceRulesAnswer n) :=
  inferInstanceAs (Decidable (_ ∧ ∀ rule ∈ c.effectiveSource, rule.Answers n))

theorem SourceRulesAnswer.exists_sourceStatus (h : c.SourceRulesAnswer n) :
    ∃ status, c.sourceStatus n = .ok status := by
  obtain ⟨known, hknown⟩ := h.1
  have heffective : ∃ effective, c.isEffectiveSource n = .ok effective := by
    cases hrule : c.effectiveSource with
    | none => exact ⟨false, by simp [isEffectiveSource, hrule]⟩
    | some rule =>
        obtain ⟨effective, heffective⟩ := h.2 rule hrule
        exact ⟨effective, by simpa [isEffectiveSource, hrule] using heffective⟩
  obtain ⟨effective, heffective⟩ := heffective
  simp only [sourceStatus, isKnownSource, hknown, heffective, ok_bind, pure_eq_ok]
  cases known with
  | true => exact ⟨_, rfl⟩
  | false => cases effective <;> exact ⟨_, rfl⟩

def RulesAnswer (c : Configuration) (n : Node) : Prop :=
  c.SourceRulesAnswer n ∧ c.SinkRulesAnswer n

instance (c : Configuration) (n : Node) : Decidable (c.RulesAnswer n) :=
  inferInstanceAs (Decidable (_ ∧ _))

theorem isSource_of_isKnownSource (h : c.isKnownSource n = .ok true) : c.isSource n = .ok true := by
  rw [isSource, h]
  rfl

theorem isSink_of_isKnownSink (h : c.isKnownSink n = .ok true) : c.isSink n = .ok true := by
  rw [isSink, h]
  rfl

theorem SourceRulesAnswer.exists_isSource (h : c.SourceRulesAnswer n) :
    ∃ holds, c.isSource n = .ok holds := by
  obtain ⟨status, hstatus⟩ := h.exists_sourceStatus
  rw [sourceStatus] at hstatus
  obtain ⟨known, hknown, hrest⟩ := bind_eq_ok_iff.mp hstatus
  cases known with
  | true => exact ⟨true, isSource_of_isKnownSource hknown⟩
  | false =>
      obtain ⟨effective, heffective, -⟩ := bind_eq_ok_iff.mp hrest
      exact ⟨effective, by rw [isSource, hknown]; exact heffective⟩

end Configuration

namespace Classifier

variable {k : Classifier} {n : Node}

def LabellersAnswer (k : Classifier) (n : Node) : Prop :=
  k.includeLabels = true → ∀ l ∈ k.registry.labellers, l.Answers n

instance : Decidable (k.LabellersAnswer n) :=
  inferInstanceAs (Decidable (_ → ∀ l ∈ k.registry.labellers, l.Answers n))

theorem exists_labels (hrules : k.configuration.SinkRulesAnswer n)
    (h : ∀ l ∈ k.registry.labellers, l.Answers n) : ∃ labels, k.labels n = .ok labels := by
  obtain ⟨registered, hregistered⟩ := LabellerRegistry.exists_labelsFor_iff.mpr h
  have hrefinements : AllAnswer k.configuration.refinements n :=
    fun c hc => hrules c (List.mem_append_right _ hc)
  obtain ⟨applying, happlying⟩ := hrefinements.exists_applicable
  simp only [labels, hregistered, happlying, ok_bind, pure_eq_ok]
  split
  · exact ⟨_, rfl⟩
  · exact ⟨_, rfl⟩

/-- A classification describes a node if it says what was found for the node. -/
structure Describes (k : Classifier) (n : Node) (entry : NodeClassification) : Prop where
  nodeId_eq : entry.nodeId = n.id
  sinkStatus_eq : k.configuration.sinkStatus n = .ok entry.sinkStatus
  reasons_eq : (if entry.sinkStatus = .excluded then k.configuration.exclusionReasons n
    else .ok []) = .ok entry.reasons
  labels_eq : (if k.includeLabels then k.labels n else .ok []) = .ok entry.labels
  sourceStatus_eq : k.configuration.sourceStatus n = .ok entry.sourceStatus
  ambiguity_eq : k.configuration.findAmbiguity n = .ok entry.ambiguity

theorem classifyNode_eq_ok_iff {entry : NodeClassification} :
    k.classifyNode n = .ok entry ↔ k.Describes n entry := by
  constructor
  · intro h
    obtain ⟨status, hstatus, hrest⟩ := bind_eq_ok_iff.mp h
    obtain ⟨reasons, hreasons, hrest⟩ := ite_bind_eq_ok_iff.mp hrest
    obtain ⟨labels, hlabels, hrest⟩ := ite_bind_eq_ok_iff.mp hrest
    obtain ⟨source, hsource, hrest⟩ := bind_eq_ok_iff.mp hrest
    obtain ⟨ambiguity, hambiguity, hrest⟩ := bind_eq_ok_iff.mp hrest
    obtain rfl := Except.ok.inj hrest
    exact ⟨rfl, hstatus, hreasons, hlabels, hsource, hambiguity⟩
  · intro h
    apply bind_eq_ok_iff.mpr
    refine ⟨entry.sinkStatus, h.sinkStatus_eq, ?_⟩
    apply ite_bind_eq_ok_iff.mpr
    refine ⟨entry.reasons, h.reasons_eq, ?_⟩
    apply ite_bind_eq_ok_iff.mpr
    refine ⟨entry.labels, h.labels_eq, ?_⟩
    apply bind_eq_ok_iff.mpr
    refine ⟨entry.sourceStatus, h.sourceStatus_eq, ?_⟩
    rw [h.ambiguity_eq, ok_bind, ← h.nodeId_eq]
    rfl

/-- Where a node was classified, no rule about sinks failed. -/
theorem sinkRulesAnswer_of_classifyNode {entry : NodeClassification}
    (h : k.classifyNode n = .ok entry) : k.configuration.SinkRulesAnswer n :=
  Configuration.SinkRulesAnswer.of_sinkStatus (classifyNode_eq_ok_iff.mp h).sinkStatus_eq

/-- The reasons of a classified node are those of the configuration, whatever its status: nodes that
are not excluded have none. -/
theorem evidence_of_classifyNode {e : SinkEvidence} {entry : NodeClassification}
    (hshows : k.configuration.Shows n e) (h : k.classifyNode n = .ok entry) :
    entry.sinkStatus = e.status ∧ entry.reasons = e.reasons := by
  have hentry := classifyNode_eq_ok_iff.mp h
  have hstatus : entry.sinkStatus = e.status :=
    Except.ok.inj (hentry.sinkStatus_eq.symm.trans hshows.sinkStatus)
  have hreasons := hentry.reasons_eq
  rw [hstatus] at hreasons
  refine ⟨hstatus, ?_⟩
  split at hreasons
  next => exact Except.ok.inj (hreasons.symm.trans hshows.exclusionReasons)
  next hother => rw [e.reasons_eq_nil_of_status_ne hother, ← Except.ok.inj hreasons]

/-- Where the rules answer about a node, it is classified exactly if the labellers do as well. -/
theorem exists_classifyNode_iff (h : k.configuration.RulesAnswer n) :
    (∃ entry, k.classifyNode n = .ok entry) ↔ k.LabellersAnswer n := by
  constructor
  · rintro ⟨entry, hentry⟩ hinclude
    have hlabels := (classifyNode_eq_ok_iff.mp hentry).labels_eq
    rw [if_pos hinclude] at hlabels
    obtain ⟨registered, hregistered, -⟩ := bind_eq_ok_iff.mp hlabels
    exact LabellerRegistry.exists_labelsFor_iff.mp ⟨registered, hregistered⟩
  · intro hlabellers
    obtain ⟨applying, happlying⟩ := AllAnswer.exists_applicable h.2
    have hshows := Configuration.shows_evidenceOf happlying
    have hreasons : ∃ reasons, (if (k.configuration.evidenceOf applying).status = .excluded then
        k.configuration.exclusionReasons n else .ok []) = .ok reasons := by
      split
      next => exact ⟨_, hshows.exclusionReasons⟩
      next => exact ⟨[], rfl⟩
    have hlabels : ∃ labels, (if k.includeLabels then k.labels n else .ok []) = .ok labels := by
      split
      next hinclude => exact exists_labels h.2 (hlabellers hinclude)
      next => exact ⟨[], rfl⟩
    obtain ⟨reasons, hreasons⟩ := hreasons
    obtain ⟨labels, hlabels⟩ := hlabels
    obtain ⟨source, hsource⟩ := h.1.exists_sourceStatus
    obtain ⟨ambiguity, hambiguity⟩ := h.2.exists_findAmbiguity
    exact ⟨⟨n.id, source, (k.configuration.evidenceOf applying).status, reasons, labels, ambiguity⟩,
      classifyNode_eq_ok_iff.mpr
        ⟨rfl, hshows.sinkStatus, hreasons, hlabels, hsource, hambiguity⟩⟩

/-- The shipped labellers ask no rules but those of the shared characteristics, so that it only
matters whether the names in their labels can be shown. -/
theorem labellersAnswer_shipped_iff (hregistry : k.registry = .shipped)
    (h : k.configuration.SinkRulesAnswer n) :
    k.LabellersAnswer n ↔ (k.includeLabels = true → n.HasShortNames) := by
  have hshared : Characteristic.AllAnswer Characteristic.shipped n :=
    fun c hc => h c (List.mem_append_left _ hc)
  rw [LabellersAnswer, hregistry, LabellerRegistry.shipped_answers_iff,
    and_iff_right hshared.exists_applicable]

end Classifier

/-- The questions of the sink axis agree on one partition of the nodes into known sinks, excluded
nodes, endpoints of another class and effective sinks; a classified node has reasons exactly if it
is excluded. -/
theorem sinkAxis_partition (c : Configuration) (n : Node) (h : c.SinkRulesAnswer n) :
    ∃ status known otherClass reasons excluded effective sink,
      c.sinkStatus n = .ok status ∧ c.isKnownSink n = .ok known ∧
      c.isKnownSinkOfOtherClass n = .ok otherClass ∧ c.exclusionReasons n = .ok reasons ∧
      c.isExcluded n = .ok excluded ∧ c.isEffectiveSink n = .ok effective ∧
      c.isSink n = .ok sink ∧
      (status = .knownSink ↔ known = true) ∧
      (status = .excluded ↔ excluded = true) ∧ (excluded = true ↔ reasons ≠ []) ∧
      (status = .notASink ↔ otherClass = true ∧ excluded = false) ∧
      (status = .effectiveSink ↔ effective = true ∧ known = false) ∧
      (known = true → effective = true ∧ excluded = false) ∧
      (sink = true ↔ status = .knownSink ∨ status = .effectiveSink) ∧
      ∀ k : Classifier, k.configuration = c → c.SourceRulesAnswer n → k.LabellersAnswer n →
        ∃ entry, k.classifyNode n = .ok entry ∧ entry.sinkStatus = status ∧
          (excluded = true ↔ entry.reasons ≠ []) := by
  obtain ⟨e, he⟩ := h.exists_shows
  refine ⟨e.status, e.known, e.otherClass, e.reasons, e.excluded, e.effective,
    e.known || e.effective, he.sinkStatus, he.isKnownSink, he.isKnownSinkOfOtherClass,
    he.exclusionReasons, he.isExcluded, he.isEffectiveSink, he.isSink,
    e.status_eq_knownSink_iff, e.status_eq_excluded_iff, e.excluded_eq_true_iff,
    e.status_eq_notASink_iff, e.status_eq_effectiveSink_iff,
    fun hknown => ⟨e.effective_of_known hknown, e.excluded_of_known hknown⟩, ?_, ?_⟩
  · rw [e.status_eq_knownSink_iff, e.status_eq_effectiveSink_iff]
    cases e.known <;> simp
  · rintro k rfl hsources hlabellers
    obtain ⟨entry, hentry⟩ := (Classifier.exists_classifyNode_iff ⟨hsources, h⟩).mpr hlabellers
    obtain ⟨hstatus, hreasons⟩ := Classifier.evidence_of_classifyNode he hentry
    exact ⟨entry, hentry, hstatus, by rw [hreasons, e.excluded_eq_true_iff]⟩

/-- A constant argument that is already known as a sink of cross-site scripting. -/
def knownConstant : Node :=
  { NodeRecord.bare "n" "argument" with
    knownSinks := .ofList ["xss"]
    isConstant := true }

/-- A constant that is a known sink is not excluded, and is classified without reasons. -/
theorem sinkAxis_partition_knownConstant :
    (Configuration.xss.SinkRulesAnswer knownConstant ∧
        Configuration.xss.SourceRulesAnswer knownConstant ∧
        Classifier.LabellersAnswer ⟨.xss, .shipped, true, 1⟩ knownConstant) ∧
      Configuration.xss.isEffectiveSink knownConstant = .ok true ∧
      ∃ entry, Classifier.classifyNode ⟨.xss, .shipped, true, 1⟩ knownConstant = .ok entry ∧
        entry.sinkStatus = .knownSink ∧ entry.reasons = [] := by
  have h : Configuration.xss.SinkRulesAnswer knownConstant := by decide
  have hsources : Configuration.xss.SourceRulesAnswer knownConstant := by decide
  have hlabellers : Classifier.LabellersAnswer ⟨.xss, .shipped, true, 1⟩ knownConstant := by decide
  have hisKnown : Configuration.xss.isKnownSink knownConstant = .ok true := rfl
  obtain ⟨status, known, otherClass, reasons, excluded, effective, sink, -, hknown, -, -, -,
    heffective, -, hknownSink, -, -, -, -, hknownSinks, -, hclassified⟩ :=
    sinkAxis_partition .xss knownConstant h
  obtain ⟨entry, hentry, hstatus, hentryReasons⟩ :=
    hclassified ⟨.xss, .shipped, true, 1⟩ rfl hsources hlabellers
  obtain rfl : true = known := by simpa [hisKnown] using hknown
  obtain ⟨rfl, rfl⟩ := hknownSinks rfl
  refine ⟨⟨h, hsources, hlabellers⟩, heffective, entry, hentry, ?_, ?_⟩
  · rw [hstatus, hknownSink]
  · simpa using hentryReasons

end TaintTriage
