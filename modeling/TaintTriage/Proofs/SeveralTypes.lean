import TaintTriage.Proofs.AddedRefinement
import TaintTriage.Proofs.EvidenceOrder
import TaintTriage.Proofs.ShippedQuery

/-!
Nodes that are known to be of several types.  The known types of a node are those that some
characteristic leaves no doubt about, each listed once and in the order of encodings, so that a node
is ambiguous exactly if there are two of them.  None of them is the negative class, which is why an
ambiguous node is never left to be scored.  For the shipped queries the known types are those whose
classes a node has among its known sinks, whichever query asks.
-/

namespace TaintTriage

open Characteristic EndpointType

/-- A list in which each type stands once has two entries exactly if it contains two types. -/
theorem EndpointType.IsListing.two_le_length_iff {types : List EndpointType}
    (h : IsListing types) :
    2 ≤ types.length ↔
      ∃ t u, (t == u) = false ∧ types.contains t = true ∧ types.contains u = true := by
  constructor
  · intro hlength
    cases types with
    | nil => exact absurd hlength (by simp)
    | cons t rest =>
        cases rest with
        | nil => exact absurd hlength (by simp)
        | cons u others =>
            have hapart := (List.pairwise_cons.mp h).1 u List.mem_cons_self
            exact ⟨t, u, hapart.1, by simp, by simp⟩
  · intro ⟨t, u, hne, ht, hu⟩
    cases types with
    | nil => exact absurd ht (by simp)
    | cons first rest =>
        cases rest with
        | cons second others => exact Nat.le_add_left 2 others.length
        | nil =>
            -- Both would be the only entry.
            rw [List.contains_cons, List.contains_nil, Bool.or_false] at ht hu
            rw [BEq.trans ht (BEq.symm hu)] at hne
            exact Bool.noConfusion hne

namespace Characteristic

def IsMade (r : Characteristic) : Prop :=
  ∃ name family rule types, make name family rule types = .ok r

variable {r : Characteristic} {t : EndpointType}

/-- What is made speaks for no negative class beyond doubt: only families of known sinks leave no
doubt, and their types are endpoints. -/
theorem IsMade.isNegative_eq_false (h : r.IsMade) (hspeaks : r.Speaks true t .maximal) :
    t.isNegative = false := by
  obtain ⟨name, supplied, rule, types, hmade⟩ := h
  cases supplied with
  | other v =>
      rw [make] at hmade
      split at hmade
      · cases hmade
      · obtain ⟨shown, -, hrefused⟩ := bind_eq_ok_iff.mp hmade
        cases hrefused
  | expected family =>
      obtain ⟨rfl, hpositive⟩ := eq_ofFamily_of_make hmade
      by_cases hfamily : family = .knownSink
      · subst hfamily
        obtain ⟨hmem, -, -⟩ := speaks_ofFamily_iff.mp hspeaks
        obtain ⟨u, hu, htype⟩ := List.contains_iff_exists_mem_beq.mp hmem
        rw [isNegative_congr htype]
        exact hpositive rfl u hu
      · exact absurd hspeaks (not_speaks_maximal_ofFamily hfamily t)

theorem isNegative_eq_false_of_mem_shipped (hr : r ∈ shipped)
    (hspeaks : r.Speaks true t .maximal) : t.isNegative = false := by
  have hknown : ∀ c ∈ shipped, ∀ i ∈ c.implications,
      i.isKnown = true → i.type.isNegative = false := by decide
  obtain ⟨i, hi, htype, hpositive, hconfidence⟩ := hspeaks
  rw [← isNegative_congr htype]
  apply hknown r hr i hi
  simp [Implication.isKnown, hpositive, hconfidence]

end Characteristic

namespace Configuration

variable {c : Configuration} {n : Node} {t : EndpointType} {applying : List Characteristic}

/-- A characteristic that applies to a node leaves no doubt that it is of a type. -/
def Knows (c : Configuration) (n : Node) (t : EndpointType) : Prop :=
  ∃ d ∈ c.characteristics, d.AppliesTo n ∧ d.Speaks true t .maximal

theorem exists_speaks_iff_knows (happlying : applicable n c.characteristics = .ok applying) :
    (∃ d ∈ applying, d.Speaks true t .maximal) ↔ c.Knows n t := by
  simp only [mem_applicable_iff happlying, and_assoc, Knows]

theorem Knows.isNegative_eq_false (hmade : ∀ r ∈ c.refinements, r.IsMade) (h : c.Knows n t) :
    t.isNegative = false := by
  obtain ⟨d, hd, -, hspeaks⟩ := h
  rcases List.mem_append.mp hd with hshared | hown
  · exact isNegative_eq_false_of_mem_shipped hshared hspeaks
  · exact (hmade d hown).isNegative_eq_false hspeaks

/-- An endpoint that is known, of a relevant type or of another one, is not left to be scored. -/
theorem sinkStatus_of_knows (hanswer : c.SinkRulesAnswer n) (h : c.Knows n t)
    (hpositive : t.isNegative = false) :
    ∃ status, c.sinkStatus n = .ok status ∧ status ≠ .effectiveSink := by
  obtain ⟨applying, happlying⟩ := AllAnswer.exists_applicable hanswer
  have hspeaks := (exists_speaks_iff_knows happlying).mpr h
  refine ⟨_, (shows_evidenceOf happlying).sinkStatus, ?_⟩
  intro heffective
  rw [SinkEvidence.status_eq_effectiveSink_iff, SinkEvidence.effective_eq_true_iff] at heffective
  obtain ⟨⟨-, hother⟩, hknown⟩ := heffective
  have hotherClass : (c.evidenceOf applying).otherClass = true :=
    (c.evidenceOf_otherClass_eq_true_iff).mpr
      ⟨Bool.eq_false_iff.mp hknown, t, hpositive, hspeaks⟩
  exact Bool.false_ne_true (hother.symm.trans hotherClass)

/-- What is found about a node whose known types are listed: an ambiguity, if there are two of them,
with the name of each. -/
structure FindsSeveral (c : Configuration) (n : Node) (types : List EndpointType)
    (ambiguity : Option Ambiguity) : Prop where
  findAmbiguity_eq : c.findAmbiguity n = .ok ambiguity
  contains_iff : ∀ t, types.contains t = true ↔ c.Knows n t
  pairwise : types.Pairwise fun t u => (t == u) = false ∧ ¬ u.IsBelow t
  isSome_iff : ambiguity.isSome = true ↔ ∃ t u, (t == u) = false ∧ c.Knows n t ∧ c.Knows n u
  eq_of_some : ∀ a, ambiguity = some a → a = ⟨n.id, types.map (·.name)⟩

theorem findAmbiguity_eq_of_applicable (happlying : applicable n c.characteristics = .ok applying) :
    c.findAmbiguity n = .ok (if (typesKnownTo applying).length < 2 then none
      else some ⟨n.id, (typesKnownTo applying).map (·.name)⟩) := by
  rw [Configuration.findAmbiguity, TaintTriage.findAmbiguity, knownTypes_eq happlying]
  rfl

theorem SinkRulesAnswer.exists_findsSeveral (h : c.SinkRulesAnswer n) :
    ∃ ambiguity types, c.FindsSeveral n types ambiguity := by
  obtain ⟨applying, happlying⟩ := AllAnswer.exists_applicable h
  have hlisting : IsListing (typesKnownTo applying) := isListing_distinctListed _
  have hcontains (t : EndpointType) : (typesKnownTo applying).contains t = true ↔ c.Knows n t := by
    rw [contains_typesKnownTo_iff, exists_speaks_iff_knows happlying]
  have hseveral := hlisting.two_le_length_iff
  simp only [hcontains] at hseveral
  refine ⟨_, typesKnownTo applying, findAmbiguity_eq_of_applicable happlying, hcontains, ?_, ?_, ?_⟩
  · refine hlisting.imp fun hlisted => ⟨hlisted.1, fun hbelow => ?_⟩
    exact absurd (listedBefore_of_isBelow hbelow) (Bool.eq_false_iff.mp hlisted.2)
  · rw [← hseveral]
    split
    next hfew => exact iff_of_false Bool.false_ne_true (Nat.not_le_of_lt hfew)
    next hmany => exact iff_of_true rfl (Nat.le_of_not_lt hmany)
  · intro a ha
    split at ha
    next => exact nomatch ha
    next => exact (Option.some.inj ha).symm

end Configuration

/-- The shipped endpoints whose class a node has among its known sinks, in the order of the
catalog. -/
def knownShipped (n : Node) : List EndpointType :=
  shippedPositive.filter fun t => (sinkClass? t).any n.knownSinks.contains

section Shipped

variable {n : Node} {kind : QueryKind} {t : EndpointType}

theorem QueryKind.id_injective {k k' : QueryKind} (h : k.id = k'.id) : k = k' := by
  revert h
  cases k <;> cases k' <;> decide

theorem knownShipped_eq (n : Node) :
    knownShipped n =
      (QueryKind.all.filter fun k => n.knownSinks.contains k.id).map QueryKind.sinkType := by
  have hcatalog : shippedPositive = QueryKind.all.map QueryKind.sinkType := rfl
  have hclass (k : QueryKind) : sinkClass? k.sinkType = some k.id := by cases k <;> rfl
  rw [knownShipped, hcatalog, List.filter_map]
  refine congrArg (List.map QueryKind.sinkType) (List.filter_congr fun k _ => ?_)
  rw [Function.comp, hclass]
  rfl

theorem contains_knownShipped_iff :
    (knownShipped n).contains t = true ↔
      ∃ k : QueryKind, k.id ∈ n.knownSinks ∧ (k.sinkType == t) = true := by
  rw [knownShipped_eq, List.contains_iff_exists_mem_beq]
  simp only [List.mem_map, List.mem_filter, NameSet.contains_eq_true_iff]
  constructor
  · rintro ⟨_, ⟨k, ⟨-, hk⟩, rfl⟩, htype⟩
    exact ⟨k, hk, BEq.symm htype⟩
  · rintro ⟨k, hk, htype⟩
    exact ⟨k.sinkType, ⟨k, ⟨k.mem_all, hk⟩, rfl⟩, BEq.symm htype⟩

theorem knows_ofKind_iff (h : (Configuration.ofKind kind).SinkRulesAnswer n) :
    (Configuration.ofKind kind).Knows n t ↔
      ∃ k : QueryKind, k.id ∈ n.knownSinks ∧ (k.sinkType == t) = true := by
  obtain ⟨applying, happlying⟩ := AllAnswer.exists_applicable h
  rw [← Configuration.exists_speaks_iff_knows happlying, exists_speaks_known_iff happlying]

theorem encodingsApart_knownShipped (n : Node) : EncodingsApart (knownShipped n) := by
  have hcatalog : EncodingsApart shippedPositive := by decide
  intro t ht u hu
  exact hcatalog t (List.mem_of_mem_filter ht) u (List.mem_of_mem_filter hu)

theorem pairwise_knownShipped (n : Node) : (knownShipped n).Pairwise IsBelow := by
  have hcatalog : shippedPositive.Pairwise IsBelow := by decide
  exact hcatalog.filter _

/-- Which query asks does not matter. -/
theorem findAmbiguity_ofKind (h : (Configuration.ofKind kind).SinkRulesAnswer n) :
    (Configuration.ofKind kind).findAmbiguity n =
      .ok (if (knownShipped n).length < 2 then none
        else some ⟨n.id, (knownShipped n).map (·.name)⟩) := by
  obtain ⟨applying, happlying⟩ := AllAnswer.exists_applicable h
  have hsame : SameTypes (knownShipped n) (typesKnownTo applying) := by
    intro t
    rw [Bool.eq_iff_iff, contains_knownShipped_iff, contains_typesKnownTo_iff,
      exists_speaks_known_iff happlying]
  have happart := (encodingsApart_knownShipped n).congr hsame
  have hidentities := map_identity_eq hsame (pairwise_knownShipped n)
    (pairwise_typesKnownTo happart)
  have hlength := congrArg List.length hidentities
  rw [List.length_map, List.length_map] at hlength
  have hfirst := congrArg (List.map Prod.fst) hidentities
  rw [List.map_map, List.map_map] at hfirst
  have hnames : (knownShipped n).map (·.name) = (typesKnownTo applying).map (·.name) := hfirst
  rw [Configuration.findAmbiguity_eq_of_applicable happlying, ← hlength, ← hnames]

/-- A shipped query knows two types of a node exactly if two classes are among the known sinks. -/
theorem exists_knows_ofKind_iff (h : (Configuration.ofKind kind).SinkRulesAnswer n) :
    (∃ t u, (t == u) = false ∧ (Configuration.ofKind kind).Knows n t ∧
        (Configuration.ofKind kind).Knows n u) ↔
      ∃ a ∈ sinkClasses.map Prod.snd, ∃ b ∈ sinkClasses.map Prod.snd,
        a ≠ b ∧ a ∈ n.knownSinks ∧ b ∈ n.knownSinks := by
  have hclasses : sinkClasses.map Prod.snd = QueryKind.all.map QueryKind.id := rfl
  simp only [knows_ofKind_iff h, hclasses]
  constructor
  · intro ⟨t, u, hne, ⟨k, hk, ht⟩, k', hk', hu⟩
    refine ⟨k.id, List.mem_map_of_mem k.mem_all, k'.id, List.mem_map_of_mem k'.mem_all, ?_, hk, hk'⟩
    intro heq
    obtain rfl := QueryKind.id_injective heq
    rw [BEq.trans (BEq.symm ht) hu] at hne
    exact Bool.noConfusion hne
  · intro ⟨a, ha, b, hb, hne, hka, hkb⟩
    obtain ⟨k, -, rfl⟩ := List.mem_map.mp ha
    obtain ⟨k', -, rfl⟩ := List.mem_map.mp hb
    refine ⟨k.sinkType, k'.sinkType, ?_, ⟨k, hka, BEq.rfl⟩, k', hkb, BEq.rfl⟩
    rw [Bool.eq_false_iff]
    intro htype
    exact hne (congrArg QueryKind.id (QueryKind.sinkType_beq_iff.mp htype))

end Shipped

/-- A node on which no rule fails is ambiguous exactly if two types are known for it, which are
named in the order of encodings; where all refinements were made by their families, an ambiguous
node is no effective sink.  The shipped queries find the same ambiguity, by the classes of the known
sinks and in the order of the catalog. -/
theorem findAmbiguity_severalTypes :
    (∀ (c : Configuration) (n : Node), c.SinkRulesAnswer n →
      (∀ r ∈ c.refinements, r.IsMade) →
      ∃ ambiguity types, c.FindsSeveral n types ambiguity ∧
        (ambiguity.isSome = true →
          ∃ status, c.sinkStatus n = .ok status ∧ status ≠ .effectiveSink)) ∧
    ∀ n : Node, ∃ ambiguity : Option Ambiguity,
      (∀ kind, (Configuration.ofKind kind).SinkRulesAnswer n →
        (Configuration.ofKind kind).findAmbiguity n = .ok ambiguity ∧
        (ambiguity.isSome = true ↔ ∃ a ∈ sinkClasses.map Prod.snd,
          ∃ b ∈ sinkClasses.map Prod.snd, a ≠ b ∧ a ∈ n.knownSinks ∧ b ∈ n.knownSinks)) ∧
      ∀ a, ambiguity = some a → a = ⟨n.id, (knownShipped n).map (·.name)⟩ := by
  refine ⟨?_, ?_⟩
  · intro c n hanswer hmade
    obtain ⟨ambiguity, types, hfinds⟩ := hanswer.exists_findsSeveral
    refine ⟨ambiguity, types, hfinds, ?_⟩
    intro hsome
    obtain ⟨t, -, -, hknows, -⟩ := hfinds.isSome_iff.mp hsome
    exact Configuration.sinkStatus_of_knows hanswer hknows (hknows.isNegative_eq_false hmade)
  · intro n
    refine ⟨_, fun kind hanswer => ⟨findAmbiguity_ofKind hanswer, ?_⟩, ?_⟩
    · obtain ⟨ambiguity, types, hfinds⟩ := hanswer.exists_findsSeveral
      rw [← exists_knows_ofKind_iff hanswer, ← hfinds.isSome_iff]
      have heq := hfinds.findAmbiguity_eq.symm.trans (findAmbiguity_ofKind hanswer)
      rw [Except.ok.inj heq]
    · intro a ha
      split at ha
      next => exact nomatch ha
      next => exact (Option.some.inj ha).symm

/-- A refinement that knows the arguments of one callee for sinks of a further type. -/
def rawCallSink : Characteristic :=
  ofFamily "raw-call-sink" .knownSink (calleeIn ["raw"]) [.shellCommandInjectionSink]

/-- The query for SQL injections with that refinement. -/
def rawCallQuery : Configuration :=
  Configuration.sqlInjection.refinedBy rawCallSink (by decide)

/-- An argument of that callee that is known to be a sink of two classes. -/
def rawArgument : Node :=
  { NodeRecord.bare "n" "argument" with
    calleeName := .str "raw"
    knownSinks := .ofList ["xss", "sql-injection"] }

/-- The refinement adds a type to those that every shipped query knows. -/
theorem findAmbiguity_severalTypes_rawCallQuery :
    (rawCallQuery.SinkRulesAnswer rawArgument ∧ ∀ r ∈ rawCallQuery.refinements, r.IsMade) ∧
      (∃ types, rawCallQuery.FindsSeveral rawArgument types
          (some ⟨"n", ["SqlInjectionSinkType", "XssSinkType", "ShellCommandInjectionSinkType"]⟩) ∧
        ∃ status, rawCallQuery.sinkStatus rawArgument = .ok status ∧ status ≠ .effectiveSink) ∧
      ∀ kind, (Configuration.ofKind kind).SinkRulesAnswer rawArgument ∧
        (Configuration.ofKind kind).findAmbiguity rawArgument =
          .ok (some ⟨"n", ["SqlInjectionSinkType", "XssSinkType"]⟩) := by
  have hanswer : rawCallQuery.SinkRulesAnswer rawArgument := by decide
  have hmade : ∀ r ∈ rawCallQuery.refinements, r.IsMade := by
    intro r hr
    obtain rfl : r = rawCallSink := List.mem_singleton.mp hr
    exact ⟨_, _, _, _, make_eq_ofFamily (by decide) (by decide)⟩
  have hshipped : ∀ kind, (Configuration.ofKind kind).SinkRulesAnswer rawArgument := by
    intro kind
    cases kind <;> decide
  obtain ⟨hgeneral, hqueries⟩ := findAmbiguity_severalTypes
  obtain ⟨ambiguity, types, hfinds, hstatus⟩ := hgeneral rawCallQuery rawArgument hanswer hmade
  obtain rfl : _ = ambiguity := Except.ok.inj (rfl.trans hfinds.findAmbiguity_eq)
  obtain ⟨ambiguity, hambiguity, -⟩ := hqueries rawArgument
  obtain rfl : _ = ambiguity := Except.ok.inj (rfl.trans (hambiguity .xss (hshipped .xss)).1)
  exact ⟨⟨hanswer, hmade⟩, ⟨types, hfinds, hstatus rfl⟩,
    fun kind => ⟨hshipped kind, (hambiguity kind (hshipped kind)).1⟩⟩

end TaintTriage
