import TaintTriage.Proofs.ShippedRule
import TaintTriage.Proofs.SinkAxis

/-!
The shipped queries as one table.  A ground is a condition under which a query excludes nodes; each
query has the grounds that speak for the negative class and a few of its own.  With the classes of
known sinks, the grounds that hold decide what a node is for a query.
-/

namespace TaintTriage

open Characteristic

def QueryKind.sinkType : QueryKind → EndpointType
  | .sqlInjection => .sqlInjectionSink
  | .nosqlInjection => .nosqlInjectionSink
  | .xss => .xssSink
  | .taintedPath => .taintedPathSink
  | .shellCommandInjection => .shellCommandInjectionSink

/-- A condition under which shipped queries exclude nodes. -/
inductive Ground where
  | logger | timer | receiverStorage | stringTest | eventRegistration | eventDispatch | crypto
  | date | constant | builtin | testFile | sanitized
  | noCallOfNosql | noSignOfMarkup | noCallOfPath
deriving DecidableEq

namespace Ground

def name : Ground → String
  | .logger => "logger-method-argument"
  | .timer => "timeout-argument"
  | .receiverStorage => "receiver-storage"
  | .stringTest => "string-test-argument"
  | .eventRegistration => "event-registration-argument"
  | .eventDispatch => "event-dispatch-argument"
  | .crypto => "cryptographic-argument"
  | .date => "date-argument"
  | .constant => "constant-value"
  | .builtin => "builtin-function-argument"
  | .testFile => "in-test-file"
  | .sanitized => "sanitized-value"
  | .noCallOfNosql => "not-nosql-external-call-argument"
  | .noSignOfMarkup => "not-likely-xss-sink"
  | .noCallOfPath => "not-path-external-call-argument"

/-- When a ground holds for a node. -/
def HoldsFor : Ground → Node → Prop
  | .logger, n => IsLogged n
  | .timer, n => IsArgumentOf timerCallees n
  | .receiverStorage, n => IsSelf n
  | .stringTest, n => IsArgumentOf stringTestCallees n
  | .eventRegistration, n => IsArgumentOf eventRegistrationCallees n
  | .eventDispatch, n => IsArgumentOf eventDispatchCallees n
  | .crypto, n => IsEncrypted n
  | .date, n => IsArgumentOf dateCallees n
  | .constant, n => n.isConstant = true
  | .builtin, n => IsArgumentOf builtinCallees n
  | .testFile, n => n.inTestFile = true
  | .sanitized, n => ∃ sanitizer, sanitizer ∈ n.sanitizes
  | .noCallOfNosql, n | .noCallOfPath, n => Html.isLikelyExternalCallArgument n = false
  | .noSignOfMarkup, n => ¬ Html.LooksLikeMarkup n

/-- The grounds for which a node is no endpoint of any query. -/
def negatives : List Ground :=
  [.logger, .timer, .receiverStorage, .stringTest, .eventRegistration, .eventDispatch, .crypto,
   .date, .constant, .builtin, .testFile]

/-- The grounds of a query beyond those of the negative class. -/
def special : QueryKind → List Ground
  | .sqlInjection => [.sanitized]
  | .nosqlInjection => [.sanitized, .noCallOfNosql]
  | .xss => [.sanitized, .noSignOfMarkup]
  | .taintedPath => [.noCallOfPath]
  | .shellCommandInjection => []

def ofQuery (kind : QueryKind) : List Ground :=
  negatives ++ special kind

/-- The shape of the characteristic of a ground. -/
def family : Ground → Family
  | .constant | .builtin | .testFile => .likelyNotASink
  | .sanitized | .noCallOfNosql | .noSignOfMarkup | .noCallOfPath => .standardFilter
  | _ => .notASink

def types : Ground → List EndpointType
  | .sanitized => [.sqlInjectionSink, .nosqlInjectionSink, .xssSink]
  | .noCallOfNosql => [.nosqlInjectionSink]
  | .noSignOfMarkup => [.xssSink]
  | .noCallOfPath => [.taintedPathSink]
  | _ => []

def rule : Ground → Rule
  | .logger => isLoggerArgument
  | .timer => calleeIn timerCallees
  | .receiverStorage => isReceiverStorage
  | .stringTest => calleeIn stringTestCallees
  | .eventRegistration => calleeIn eventRegistrationCallees
  | .eventDispatch => calleeIn eventDispatchCallees
  | .crypto => isCryptoArgument
  | .date => calleeIn dateCallees
  | .constant => fun n => .ok n.isConstant
  | .builtin => calleeIn builtinCallees
  | .testFile => fun n => .ok n.inTestFile
  | .sanitized => fun n => .ok (!n.sanitizes.isEmpty)
  | .noCallOfNosql | .noCallOfPath => fun n => do return !(← Configuration.externalCall n)
  | .noSignOfMarkup => fun n => do return !(← Html.isLikelyXssSink n)

def characteristic (g : Ground) : Characteristic :=
  ofFamily g.name g.family g.rule g.types

theorem rule_decides (g : Ground) {n : Node} (h : n.HasTexts) :
    g.rule.Decides n (g.HoldsFor n) := by
  cases g with
  | logger => exact isLoggerArgument_decides h
  | receiverStorage => exact isReceiverStorage_decides n
  | crypto => exact isCryptoArgument_decides h
  | timer | stringTest | eventRegistration | eventDispatch | date | builtin =>
      exact calleeIn_decides _ h.callee
  | constant | testFile => exact Rule.decides_ok _ n
  | sanitized =>
      refine (Rule.decides_ok _ n).congr ?_
      rw [HoldsFor, Bool.not_eq_true', NameSet.isEmpty_eq_false_iff]
  | noCallOfNosql | noCallOfPath =>
      refine (Rule.decides_ok Html.isLikelyExternalCallArgument n).not.congr ?_
      rw [HoldsFor, Bool.not_eq_true]
  | noSignOfMarkup => exact (Html.isLikelyXssSink_decides h).not

theorem not_speaks_known (g : Ground) (t : EndpointType) :
    ¬ g.characteristic.Speaks true t .maximal := by
  rw [characteristic, speaks_ofFamily_iff]
  rintro ⟨-, hpositive, hleast⟩
  revert hpositive hleast
  cases g <;> decide

/-- The grounds whose rules a query goes through.  That of sanitized values is among them for every
query, though it does not concern all. -/
def listed (kind : QueryKind) : List Ground :=
  negatives ++ .sanitized :: (special kind).erase .sanitized

theorem characteristics_ofKind (kind : QueryKind) :
    (Configuration.ofKind kind).characteristics =
      (QueryKind.all.map fun k => knownSinkOfClass k.sinkType k.id) ++
        (listed kind).map characteristic := by
  cases kind <;> rfl

theorem relevantSinkTypes_ofKind (kind : QueryKind) :
    (Configuration.ofKind kind).relevantSinkTypes = [kind.sinkType] := by
  cases kind <;> rfl

theorem subset_listed {kind : QueryKind} {g : Ground} (h : g ∈ ofQuery kind) :
    g ∈ listed kind := by
  revert h
  cases kind <;> cases g <;> decide

/-- Of the grounds that a query goes through, those speak against its sinks on which it excludes
nodes. -/
theorem speaks_against_iff {kind : QueryKind} {g : Ground} (h : g ∈ listed kind) :
    g.characteristic.Speaks true .negative .medium ∨
        g.characteristic.Speaks false kind.sinkType .medium ↔ g ∈ ofQuery kind := by
  revert h
  cases kind <;> cases g <;> decide

end Ground

theorem QueryKind.mem_all (kind : QueryKind) : kind ∈ QueryKind.all := by
  cases kind <;> decide

theorem QueryKind.sinkType_beq_iff {k kind : QueryKind} :
    (k.sinkType == kind.sinkType) = true ↔ k = kind := by
  cases k <;> cases kind <;> decide

section Verdict

variable {kind : QueryKind} {n : Node} {applying : List Characteristic}

theorem knownSinkOfClass_appliesTo_iff {type : EndpointType} {sinkClass : String} :
    (knownSinkOfClass type sinkClass).AppliesTo n ↔ sinkClass ∈ n.knownSinks :=
  ((Rule.decides_ok (fun n => n.knownSinks.contains sinkClass) n).congr
    NameSet.contains_eq_true_iff).eq_ok_true_iff

theorem sinkRulesAnswer_ofKind (kind : QueryKind) (h : n.HasTexts) :
    (Configuration.ofKind kind).SinkRulesAnswer n := by
  intro c hc
  rw [Ground.characteristics_ofKind, List.mem_append, List.mem_map, List.mem_map] at hc
  obtain ⟨k, -, rfl⟩ | ⟨g, -, rfl⟩ := hc
  · exact ⟨_, rfl⟩
  · exact (g.rule_decides h).answers

/-- What applies to a node: the known sinks of its classes and the grounds that hold. -/
theorem mem_applicable_ofKind_iff (h : n.HasTexts)
    (happlying : applicable n (Configuration.ofKind kind).characteristics = .ok applying)
    {c : Characteristic} :
    c ∈ applying ↔
      (∃ k : QueryKind, k.id ∈ n.knownSinks ∧ knownSinkOfClass k.sinkType k.id = c) ∨
        ∃ g ∈ Ground.listed kind, g.HoldsFor n ∧ g.characteristic = c := by
  rw [mem_applicable_iff happlying, Ground.characteristics_ofKind, List.mem_append,
    List.mem_map, List.mem_map]
  constructor
  · rintro ⟨⟨k, -, rfl⟩ | ⟨g, hg, rfl⟩, happlies⟩
    · exact Or.inl ⟨k, knownSinkOfClass_appliesTo_iff.mp happlies, rfl⟩
    · exact Or.inr ⟨g, hg, (g.rule_decides h).eq_ok_true_iff.mp happlies, rfl⟩
  · rintro (⟨k, hk, rfl⟩ | ⟨g, hg, hholds, rfl⟩)
    · exact ⟨Or.inl ⟨k, k.mem_all, rfl⟩, knownSinkOfClass_appliesTo_iff.mpr hk⟩
    · exact ⟨Or.inr ⟨g, hg, rfl⟩, (g.rule_decides h).eq_ok_true_iff.mpr hholds⟩

theorem knownSinkOfClass_speaks_iff {type t : EndpointType} {sinkClass : String}
    {positive : Bool} {least : Confidence} :
    (knownSinkOfClass type sinkClass).Speaks positive t least ↔
      (type == t) = true ∧ positive = true := by
  have hleast : least ≤ Confidence.maximal := by cases least <;> decide
  rw [knownSinkOfClass, speaks_ofFamily_iff]
  simp only [Family.targets, Family.needsTypes, Family.isPositive, Family.confidence, hleast,
    ↓reduceIte, List.contains_cons, List.contains_nil, Bool.or_false, and_true]
  exact and_congr ⟨BEq.symm, BEq.symm⟩ eq_comm

/-- Only the classes of known sinks leave no doubt about a type. -/
theorem exists_speaks_known_iff
    (happlying : applicable n (Configuration.ofKind kind).characteristics = .ok applying)
    {t : EndpointType} :
    (∃ c ∈ applying, c.Speaks true t .maximal) ↔
      ∃ k : QueryKind, k.id ∈ n.knownSinks ∧ (k.sinkType == t) = true := by
  simp only [mem_applicable_iff happlying, Ground.characteristics_ofKind, List.mem_append,
    List.mem_map]
  constructor
  · rintro ⟨_, ⟨⟨k, -, rfl⟩ | ⟨g, -, rfl⟩, happlies⟩, hspeaks⟩
    · exact ⟨k, knownSinkOfClass_appliesTo_iff.mp happlies,
        (knownSinkOfClass_speaks_iff.mp hspeaks).1⟩
    · exact absurd hspeaks (g.not_speaks_known t)
  · rintro ⟨k, hk, htype⟩
    exact ⟨_, ⟨Or.inl ⟨k, k.mem_all, rfl⟩, knownSinkOfClass_appliesTo_iff.mpr hk⟩,
      knownSinkOfClass_speaks_iff.mpr ⟨htype, rfl⟩⟩

theorem evidenceOf_known_iff
    (happlying : applicable n (Configuration.ofKind kind).characteristics = .ok applying) :
    ((Configuration.ofKind kind).evidenceOf applying).known = true ↔
      kind.id ∈ n.knownSinks := by
  rw [Configuration.evidenceOf_known, Ground.relevantSinkTypes_ofKind,
    isKnownRelevant_eq_any, List.any_cons, List.any_nil, Bool.or_false,
    contains_typesKnownTo_iff, exists_speaks_known_iff happlying]
  simp only [QueryKind.sinkType_beq_iff, exists_eq_right]

theorem evidenceOf_otherClass_iff
    (happlying : applicable n (Configuration.ofKind kind).characteristics = .ok applying) :
    ((Configuration.ofKind kind).evidenceOf applying).otherClass = true ↔
      kind.id ∉ n.knownSinks ∧ ∃ k : QueryKind, k ≠ kind ∧ k.id ∈ n.knownSinks := by
  rw [Configuration.evidenceOf_otherClass_eq_true_iff, evidenceOf_known_iff happlying]
  simp only [exists_speaks_known_iff happlying]
  refine and_congr_right fun hnot => ?_
  constructor
  · rintro ⟨t, -, k, hk, -⟩
    exact ⟨k, fun heq => hnot (heq ▸ hk), hk⟩
  · rintro ⟨k, -, hk⟩
    exact ⟨k.sinkType, by cases k <;> decide, k, hk, BEq.rfl⟩

theorem mem_evidenceOf_reasons_iff (h : n.HasTexts)
    (happlying : applicable n (Configuration.ofKind kind).characteristics = .ok applying)
    (name : String) :
    name ∈ ((Configuration.ofKind kind).evidenceOf applying).reasons ↔
      kind.id ∉ n.knownSinks ∧ ∃ g ∈ Ground.ofQuery kind, g.HoldsFor n ∧ g.name = name := by
  rw [← evidenceOf_known_iff happlying, Configuration.evidenceOf_known,
    Configuration.evidenceOf_reasons, Ground.relevantSinkTypes_ofKind, mem_reasonsAmong_iff,
    ← isKnownRelevant_eq_true_iff]
  refine and_congr_right fun _ => ?_
  constructor
  · rintro ⟨c, hc, rfl, hspeaks⟩
    have hagainst : c.Speaks true .negative .medium ∨ c.Speaks false kind.sinkType .medium := by
      refine hspeaks.imp_right ?_
      rintro ⟨-, t, ht, hfalse⟩
      exact List.mem_singleton.mp ht ▸ hfalse
    obtain ⟨k, -, rfl⟩ | ⟨g, hg, hholds, rfl⟩ := (mem_applicable_ofKind_iff h happlying).mp hc
    · simp only [knownSinkOfClass_speaks_iff, Bool.false_eq_true, and_false, or_false] at hagainst
      exact absurd hagainst.1 (by cases k <;> decide)
    · exact ⟨g, (Ground.speaks_against_iff hg).mp hagainst, hholds, rfl⟩
  · rintro ⟨g, hg, hholds, rfl⟩
    have hlisted := Ground.subset_listed hg
    have hc := (mem_applicable_ofKind_iff h happlying).mpr (Or.inr ⟨g, hlisted, hholds, rfl⟩)
    refine ⟨g.characteristic, hc, rfl, ?_⟩
    refine ((Ground.speaks_against_iff hlisted).mpr hg).imp_right fun hfalse => ?_
    refine ⟨⟨List.cons_ne_nil _ _, fun t ht => ?_⟩, kind.sinkType, List.mem_cons_self, hfalse⟩
    obtain rfl := List.mem_singleton.mp ht
    exact ⟨g.characteristic, hc, hfalse⟩

theorem evidenceOf_excluded_iff (h : n.HasTexts)
    (happlying : applicable n (Configuration.ofKind kind).characteristics = .ok applying) :
    ((Configuration.ofKind kind).evidenceOf applying).excluded = true ↔
      kind.id ∉ n.knownSinks ∧ ∃ g ∈ Ground.ofQuery kind, g.HoldsFor n := by
  rw [SinkEvidence.excluded_eq_true_iff]
  constructor
  · intro hne
    obtain ⟨name, hname⟩ := List.exists_mem_of_ne_nil _ hne
    obtain ⟨hnot, g, hg, hholds, -⟩ := (mem_evidenceOf_reasons_iff h happlying _).mp hname
    exact ⟨hnot, g, hg, hholds⟩
  · rintro ⟨hnot, g, hg, hholds⟩
    exact List.ne_nil_of_mem
      ((mem_evidenceOf_reasons_iff h happlying _).mpr ⟨hnot, g, hg, hholds, rfl⟩)

end Verdict

/-- On nodes whose names and text are texts or absent, a shipped query never fails.  A node of its
own class is a known sink, another one with a ground against it is excluded for all grounds that
hold, another one of some other class is no sink, and what is left is an effective sink. -/
theorem sinkStatus_ofKind (kind : QueryKind) (n : Node) (h : n.HasTexts) :
    ∃ status reasons, (Configuration.ofKind kind).sinkStatus n = .ok status ∧
      (Configuration.ofKind kind).exclusionReasons n = .ok reasons ∧
      (status = .knownSink ↔ kind.id ∈ n.knownSinks) ∧
      (status = .excluded ↔
        kind.id ∉ n.knownSinks ∧ ∃ g ∈ Ground.ofQuery kind, g.HoldsFor n) ∧
      (status = .notASink ↔
        kind.id ∉ n.knownSinks ∧ (¬ ∃ g ∈ Ground.ofQuery kind, g.HoldsFor n) ∧
          ∃ k : QueryKind, k ≠ kind ∧ k.id ∈ n.knownSinks) ∧
      (status = .effectiveSink ↔
        kind.id ∉ n.knownSinks ∧ (¬ ∃ g ∈ Ground.ofQuery kind, g.HoldsFor n) ∧
          ¬ ∃ k : QueryKind, k ≠ kind ∧ k.id ∈ n.knownSinks) ∧
      (status = .excluded → reasons.Pairwise (· < ·) ∧
        ∀ name, name ∈ reasons ↔ ∃ g ∈ Ground.ofQuery kind, g.HoldsFor n ∧ g.name = name) := by
  obtain ⟨applying, happlying⟩ := AllAnswer.exists_applicable (sinkRulesAnswer_ofKind kind h)
  have hshows := Configuration.shows_evidenceOf happlying
  have hknown := evidenceOf_known_iff happlying
  have hother := evidenceOf_otherClass_iff happlying
  have hexcluded := evidenceOf_excluded_iff h happlying
  have hreasons (name : String) := mem_evidenceOf_reasons_iff h happlying name
  have hincreasing := reasonsAmong_pairwise (Configuration.ofKind kind).relevantSinkTypes applying
  rw [← Configuration.evidenceOf_reasons] at hincreasing
  -- From here on only what is known of the evidence counts, not where it comes from.
  generalize (Configuration.ofKind kind).evidenceOf applying = e at *
  refine ⟨e.status, e.reasons, hshows.sinkStatus, hshows.exclusionReasons,
    e.status_eq_knownSink_iff.trans hknown, e.status_eq_excluded_iff.trans hexcluded, ?_, ?_, ?_⟩
  · rw [e.status_eq_notASink_iff, hother, ← Bool.not_eq_true, hexcluded]
    constructor
    · rintro ⟨⟨hnot, hk⟩, hground⟩
      exact ⟨hnot, fun hg => hground ⟨hnot, hg⟩, hk⟩
    · rintro ⟨hnot, hground, hk⟩
      exact ⟨⟨hnot, hk⟩, fun hg => hground hg.2⟩
  · rw [e.status_eq_effectiveSink_iff, e.effective_eq_true_iff, ← Bool.not_eq_true,
      ← Bool.not_eq_true, ← Bool.not_eq_true, hexcluded, hother, hknown]
    constructor
    · rintro ⟨⟨hground, hk⟩, hnot⟩
      exact ⟨hnot, fun hg => hground ⟨hnot, hg⟩, fun hother => hk ⟨hnot, hother⟩⟩
    · rintro ⟨hnot, hground, hk⟩
      exact ⟨⟨fun hg => hground hg.2, fun hother => hk hother.2⟩, hnot⟩
  · intro hstatus
    refine ⟨hincreasing, fun name => ?_⟩
    rw [hreasons, and_iff_right (hexcluded.mp (e.status_eq_excluded_iff.mp hstatus)).1]

/-- A sanitized argument of a function that is no library code, already known as a sink of another
class. -/
def sanitizedArgument : Node :=
  { NodeRecord.bare "n" "argument" with
    calleeName := .str "find"
    knownSinks := .ofList ["xss"]
    sanitizes := .ofList ["nosql-sanitize"] }

/-- Both grounds that hold are reported, and the other class does not count beside them. -/
theorem sinkStatus_ofKind_sanitizedArgument :
    sanitizedArgument.HasTexts ∧
      ∃ reasons, Configuration.nosqlInjection.sinkStatus sanitizedArgument = .ok .excluded ∧
        Configuration.nosqlInjection.exclusionReasons sanitizedArgument = .ok reasons ∧
        "sanitized-value" ∈ reasons ∧ "not-nosql-external-call-argument" ∈ reasons := by
  have h : sanitizedArgument.HasTexts :=
    ⟨Or.inr ⟨_, rfl⟩, Or.inl rfl, Or.inl rfl, Or.inl rfl⟩
  have hsanitized : Ground.HoldsFor .sanitized sanitizedArgument := ⟨"nosql-sanitize", by decide⟩
  have hcall : Ground.HoldsFor .noCallOfNosql sanitizedArgument := by
    show Html.isLikelyExternalCallArgument sanitizedArgument = false
    decide
  obtain ⟨status, reasons, hstatus, hreasons, -, hexcluded, -, -, hnames⟩ :=
    sinkStatus_ofKind .nosqlInjection sanitizedArgument h
  have hexcluded : status = .excluded :=
    hexcluded.mpr ⟨by decide, .sanitized, by decide, hsanitized⟩
  subst hexcluded
  refine ⟨h, reasons, hstatus, hreasons, ?_, ?_⟩
  · exact ((hnames rfl).2 _).mpr ⟨.sanitized, by decide, hsanitized, rfl⟩
  · exact ((hnames rfl).2 _).mpr ⟨.noCallOfNosql, by decide, hcall, rfl⟩

end TaintTriage
