import TaintTriage.Proofs.AcceptedSpec
import TaintTriage.Proofs.SinkAxis

/-!
Rules that fail.  A question about sinks is answered from the characteristics that apply to the
node, and these are looked for before any evidence is: one failing rule fails every question,
whatever the other characteristics know of the node, and each with the failure of the first rule
that fails.
-/

namespace TaintTriage

namespace Characteristic

variable {characteristics : List Characteristic} {n : Node} {failure : RuleFailure}

/-- The first rule that fails, in the order of the characteristics, fails with a failure: all rules
before it answer. -/
def FailsFirst (characteristics : List Characteristic) (n : Node) (failure : RuleFailure) : Prop :=
  ∃ before c after, characteristics = before ++ c :: after ∧ AllAnswer before n ∧
    c.rule n = .error failure

theorem not_failsFirst_nil : ¬ FailsFirst [] n failure := by
  intro h
  obtain ⟨before, c, after, hsplit, -⟩ := h
  exact List.append_ne_nil_of_right_ne_nil before (List.cons_ne_nil c after) hsplit.symm

/-- The first rule of a list fails, or it answers and the first failure is among the others. -/
theorem failsFirst_cons_iff {head : Characteristic} {rest : List Characteristic} :
    FailsFirst (head :: rest) n failure ↔
      head.rule n = .error failure ∨ head.rule.Answers n ∧ FailsFirst rest n failure := by
  constructor
  · intro h
    obtain ⟨before, c, after, hsplit, hbefore, hfails⟩ := h
    cases before with
    | nil =>
        rw [List.nil_append, List.cons.injEq] at hsplit
        exact Or.inl (hsplit.1 ▸ hfails)
    | cons first others =>
        rw [List.cons_append, List.cons.injEq] at hsplit
        have hfirst := hbefore first List.mem_cons_self
        have hothers : AllAnswer others n :=
          fun d hd => hbefore d (List.mem_cons_of_mem first hd)
        exact Or.inr ⟨hsplit.1 ▸ hfirst, others, c, after, hsplit.2, hothers, hfails⟩
  · intro h
    rcases h with hfails | ⟨hanswers, before, c, after, hsplit, hbefore, hfails⟩
    · exact ⟨[], head, rest, rfl, fun d hd => absurd hd List.not_mem_nil, hfails⟩
    · refine ⟨head :: before, c, after, congrArg (head :: ·) hsplit, ?_, hfails⟩
      intro d hd
      rcases List.mem_cons.mp hd with rfl | hd
      · exact hanswers
      · exact hbefore d hd

/-- The characteristics that apply are not found exactly if a rule fails, and the first one that
does gives the failure. -/
theorem applicable_eq_error_iff :
    applicable n characteristics = .error failure ↔ FailsFirst characteristics n failure := by
  induction characteristics with
  | nil =>
      apply iff_of_false
      · intro h
        exact nomatch h
      · exact not_failsFirst_nil
  | cons head rest ih =>
      rw [failsFirst_cons_iff, ← ih, applicable_cons]
      cases hhead : head.rule n with
      | error cause => simp [Rule.Answers, hhead]
      | ok holds => cases applicable n rest <;> simp [Rule.Answers, hhead]

/-- A rule that fails keeps the characteristics that apply from being found. -/
theorem exists_failsFirst_iff :
    (∃ failure, FailsFirst characteristics n failure) ↔ ¬ AllAnswer characteristics n := by
  constructor
  · intro h hanswers
    obtain ⟨failure, hfails⟩ := h
    obtain ⟨applying, happlying⟩ := hanswers.exists_applicable
    exact nomatch happlying.symm.trans (applicable_eq_error_iff.mpr hfails)
  · intro h
    cases happlying : applicable n characteristics with
    | ok applying => exact absurd (AllAnswer.of_applicable happlying) h
    | error failure => exact ⟨failure, applicable_eq_error_iff.mp happlying⟩

end Characteristic

open Characteristic

namespace Configuration

variable {c : Configuration} {n : Node} {failure : RuleFailure}

/-- Every question about the node as a sink, its ambiguity included, fails with the same failure. -/
structure SinkQuestionsFail (c : Configuration) (n : Node) (failure : RuleFailure) : Prop where
  isKnownSink : c.isKnownSink n = .error failure
  isKnownSinkOfOtherClass : c.isKnownSinkOfOtherClass n = .error failure
  exclusionReasons : c.exclusionReasons n = .error failure
  isExcluded : c.isExcluded n = .error failure
  isEffectiveSink : c.isEffectiveSink n = .error failure
  isSink : c.isSink n = .error failure
  sinkStatus : c.sinkStatus n = .error failure
  findAmbiguity : c.findAmbiguity n = .error failure

/-- The questions start from two results, the known types and the reasons, and both of them start
from the characteristics that apply. -/
theorem SinkQuestionsFail.of_applicable
    (h : applicable n c.characteristics = .error failure) : c.SinkQuestionsFail n failure := by
  have htypes : knownTypes n c.characteristics = .error failure := by
    rw [knownTypes, h, error_bind]
  have hreasons : c.exclusionReasons n = .error failure := by
    rw [Configuration.exclusionReasons, TaintTriage.exclusionReasons, h, error_bind]
  have hknown : c.isKnownSink n = .error failure := by
    rw [Configuration.isKnownSink, htypes, error_bind]
  have hexcluded : c.isExcluded n = .error failure := by
    rw [Configuration.isExcluded, hreasons, error_bind]
  apply SinkQuestionsFail.mk hknown ?_ hreasons hexcluded
  · rw [Configuration.isEffectiveSink, hexcluded, error_bind]
  · rw [Configuration.isSink, hknown, error_bind]
  · rw [Configuration.sinkStatus, hknown, error_bind]
  · rw [Configuration.findAmbiguity, TaintTriage.findAmbiguity, htypes, error_bind]
  · rw [Configuration.isKnownSinkOfOtherClass, htypes, error_bind]

/-- A node whose status cannot be found is not classified. -/
theorem SinkQuestionsFail.classifyNode {k : Classifier}
    (h : k.configuration.SinkQuestionsFail n failure) : k.classifyNode n = .error failure := by
  rw [Classifier.classifyNode, h.sinkStatus, error_bind]

/-- The characteristics that apply are found or not, and everything about the node follows. -/
theorem sinkQuestionsFail_or_shows (c : Configuration) (n : Node) :
    (∃ failure, c.SinkQuestionsFail n failure) ∨ ∃ e, c.Shows n e := by
  cases happlying : applicable n c.characteristics with
  | error failure => exact Or.inl ⟨failure, .of_applicable happlying⟩
  | ok applying => exact Or.inr ⟨_, shows_evidenceOf happlying⟩

/-- Either some rule fails on the node; then every question about it as a sink fails, and so does
its classification with any labellers, each with the failure of the first rule that fails, the
shared characteristics coming before those of the query.  Or every rule answers; then every question
is answered. -/
theorem sinkQuestions_fail_alike (c : Configuration) (n : Node) :
    (∃ failure, FailsFirst (Characteristic.shipped ++ c.refinements) n failure ∧
      c.SinkQuestionsFail n failure ∧
      ∀ registry includeLabels workers,
        Classifier.classifyNode ⟨c, registry, includeLabels, workers⟩ n = .error failure) ∨
    c.SinkRulesAnswer n ∧ (∃ e, c.Shows n e) ∧ ∃ ambiguity, c.findAmbiguity n = .ok ambiguity := by
  by_cases hanswers : c.SinkRulesAnswer n
  · exact Or.inr ⟨hanswers, hanswers.exists_shows, hanswers.exists_findAmbiguity⟩
  · obtain ⟨failure, hfirst⟩ := exists_failsFirst_iff.mpr hanswers
    have hfail : c.SinkQuestionsFail n failure :=
      SinkQuestionsFail.of_applicable (applicable_eq_error_iff.mpr hfirst)
    exact Or.inl ⟨failure, hfirst, hfail, fun registry includeLabels workers =>
      SinkQuestionsFail.classifyNode (k := ⟨c, registry, includeLabels, workers⟩) hfail⟩

end Configuration

/-- A refinement that has no answer about any node. -/
def unanswered : Characteristic :=
  ⟨"unanswered", .expected .standardFilter, [], fun _ => .error (.refused "no answer")⟩

/-- That a node is a known sink does not keep the last rule from failing all questions about it. -/
example :
    Configuration.xss.isKnownSink knownConstant = .ok true ∧
      (Configuration.xss.refinedBy unanswered (by decide +kernel)).isKnownSink knownConstant =
        .error (.refused "no answer") :=
  ⟨rfl, rfl⟩

end TaintTriage
