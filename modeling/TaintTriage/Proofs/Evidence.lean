import TaintTriage.Evidence
import TaintTriage.Proofs.Outcome

/-!
What the characteristics that apply to a node say together, stated without the order in which they
are gone through.  Every answer is a function of the list of those that apply; the names of the
reasons are then read off that list as a set.
-/

namespace TaintTriage

namespace Characteristic

/-- A characteristic applies to a node if its rule holds there. -/
def AppliesTo (c : Characteristic) (n : Node) : Prop :=
  c.rule n = .ok true

instance (c : Characteristic) (n : Node) : Decidable (c.AppliesTo n) :=
  match h : c.rule n with
  | .ok true => isTrue h
  | .ok false => isFalse fun happlies => nomatch Except.ok.inj (h.symm.trans happlies)
  | .error _ => isFalse fun happlies => nomatch h.symm.trans happlies

/-- A characteristic has evidence for a type, or against it, of at least some confidence. -/
def Speaks (c : Characteristic) (positive : Bool) (type : EndpointType)
    (least : Confidence) : Prop :=
  ∃ i ∈ c.implications, (i.type == type) = true ∧ i.positive = positive ∧ least ≤ i.confidence

def AllAnswer (characteristics : List Characteristic) (n : Node) : Prop :=
  ∀ c ∈ characteristics, c.rule.Answers n

instance (characteristics : List Characteristic) (n : Node) :
    Decidable (AllAnswer characteristics n) :=
  inferInstanceAs (Decidable (∀ c ∈ characteristics, c.rule.Answers n))

theorem implies_eq_true_iff {c : Characteristic} {type : EndpointType} {positive : Bool}
    {least : Confidence} :
    c.implies type positive least = true ↔ c.Speaks positive type least := by
  simp [implies, Speaks, and_assoc]

instance (c : Characteristic) (positive : Bool) (type : EndpointType) (least : Confidence) :
    Decidable (c.Speaks positive type least) :=
  decidable_of_iff (c.implies type positive least = true) implies_eq_true_iff

theorem speaks_ofFamily_iff {name : String} {family : Family} {rule : Rule}
    {types : List EndpointType} {positive : Bool} {type : EndpointType} {least : Confidence} :
    (ofFamily name family rule types).Speaks positive type least ↔
      (family.targets .negative types).contains type = true ∧
        family.isPositive = positive ∧ least ≤ family.confidence := by
  simp only [Speaks, ofFamily, Family.implications, List.mem_map,
    List.contains_iff_exists_mem_beq]
  constructor
  · rintro ⟨_, ⟨t, ht, rfl⟩, htype, hpositive, hleast⟩
    exact ⟨⟨t, ht, BEq.symm htype⟩, hpositive, hleast⟩
  · rintro ⟨⟨t, ht, htype⟩, hpositive, hleast⟩
    exact ⟨_, ⟨t, ht, rfl⟩, BEq.symm htype, hpositive, hleast⟩

theorem applicable_cons (n : Node) (c : Characteristic) (rest : List Characteristic) :
    applicable n (c :: rest) = (do
      let holds ← c.rule n
      let others ← applicable n rest
      return if holds then c :: others else others) := rfl

/-- If all rules answer, the applicable characteristics are found; they are those that apply. -/
theorem AllAnswer.exists_applicable {characteristics : List Characteristic} {n : Node}
    (h : AllAnswer characteristics n) :
    ∃ applying, applicable n characteristics = .ok applying := by
  induction characteristics with
  | nil => exact ⟨[], rfl⟩
  | cons c rest ih =>
      obtain ⟨holds, hholds⟩ := h c List.mem_cons_self
      obtain ⟨others, hothers⟩ := ih fun d hd => h d (List.mem_cons_of_mem c hd)
      exact ⟨if holds then c :: others else others, by simp [applicable_cons, hholds, hothers]⟩

/-- If the applicable characteristics are found, no rule failed: all of them were asked. -/
theorem AllAnswer.of_applicable {characteristics applying : List Characteristic} {n : Node}
    (h : applicable n characteristics = .ok applying) : AllAnswer characteristics n := by
  induction characteristics generalizing applying with
  | nil => exact fun c hc => absurd hc List.not_mem_nil
  | cons head rest ih =>
      rw [applicable_cons] at h
      obtain ⟨holds, hholds, h⟩ := bind_eq_ok_iff.mp h
      obtain ⟨others, hothers, -⟩ := bind_eq_ok_iff.mp h
      intro c hc
      rcases List.mem_cons.mp hc with rfl | hrest
      · exact ⟨holds, hholds⟩
      · exact ih hothers c hrest

theorem mem_applicable_iff {characteristics applying : List Characteristic} {n : Node}
    (h : applicable n characteristics = .ok applying) {c : Characteristic} :
    c ∈ applying ↔ c ∈ characteristics ∧ c.AppliesTo n := by
  induction characteristics generalizing applying with
  | nil =>
      obtain rfl : [] = applying := Except.ok.inj h
      simp
  | cons head rest ih =>
      rw [applicable_cons] at h
      obtain ⟨holds, hholds, h⟩ := bind_eq_ok_iff.mp h
      obtain ⟨others, hothers, h⟩ := bind_eq_ok_iff.mp h
      obtain rfl := Except.ok.inj h
      cases holds with
      | true =>
          simp only [↓reduceIte, List.mem_cons, ih hothers]
          constructor
          · rintro (rfl | ⟨hmem, happlies⟩)
            · exact ⟨Or.inl rfl, hholds⟩
            · exact ⟨Or.inr hmem, happlies⟩
          · rintro ⟨rfl | hmem, happlies⟩
            · exact Or.inl rfl
            · exact Or.inr ⟨hmem, happlies⟩
      | false =>
          simp only [Bool.false_eq_true, ↓reduceIte, List.mem_cons, ih hothers]
          constructor
          · rintro ⟨hmem, happlies⟩
            exact ⟨Or.inr hmem, happlies⟩
          · rintro ⟨rfl | hmem, happlies⟩
            · rw [AppliesTo, hholds] at happlies
              exact nomatch Except.ok.inj happlies
            · exact ⟨hmem, happlies⟩

end Characteristic

open Characteristic

namespace EndpointType

theorem isNegative_congr {t u : EndpointType} (h : (t == u) = true) :
    t.isNegative = u.isNegative := by
  have hmagnitude : t.encoding.magnitude = u.encoding.magnitude :=
    congrArg (fun identity => identity.2.1) (beq_iff.mp h)
  rw [isNegative, isNegative, hmagnitude]

theorem contains_insertListed {t u : EndpointType} {listed : List EndpointType} :
    (insertListed t listed).contains u = true ↔ (u == t) = true ∨ listed.contains u = true := by
  induction listed with
  | nil => simp [insertListed]
  | cons head tail ih =>
      by_cases heq : (t == head) = true
      · simp only [insertListed, heq, ↓reduceIte, List.contains_cons, Bool.or_eq_true]
        constructor
        · exact Or.inr
        · rintro (h | h)
          · exact Or.inl (BEq.trans h heq)
          · exact h
      · by_cases hbefore : t.listedBefore head = true
        · simp [insertListed, heq, hbefore]
        · simp only [insertListed, heq, hbefore, Bool.false_eq_true, ↓reduceIte,
            List.contains_cons, Bool.or_eq_true, ih]
          exact or_left_comm

theorem contains_foldl_insertListed {types listed : List EndpointType} {u : EndpointType} :
    (types.foldl (fun listed t => insertListed t listed) listed).contains u = true ↔
      types.contains u = true ∨ listed.contains u = true := by
  induction types generalizing listed with
  | nil => simp
  | cons head tail ih =>
      simp only [List.foldl_cons, ih, contains_insertListed, List.contains_cons, Bool.or_eq_true]
      rw [← or_assoc, @or_comm (tail.contains u = true)]

@[simp] theorem contains_distinctListed {types : List EndpointType} {u : EndpointType} :
    (distinctListed types).contains u = types.contains u := by
  rw [Bool.eq_iff_iff, distinctListed, contains_foldl_insertListed]
  simp

end EndpointType

/-- The types that characteristics which apply leave no doubt about. -/
def typesKnownTo (applying : List Characteristic) : List EndpointType :=
  EndpointType.distinctListed (((implicationsOf applying).filter (·.isKnown)).map (·.type))

theorem knownTypes_eq {n : Node} {characteristics applying : List Characteristic}
    (h : applicable n characteristics = .ok applying) :
    knownTypes n characteristics = .ok (typesKnownTo applying) := by
  rw [knownTypes, h]
  rfl

theorem contains_typesKnownTo_iff {applying : List Characteristic} {type : EndpointType} :
    (typesKnownTo applying).contains type = true ↔
      ∃ c ∈ applying, c.Speaks true type .maximal := by
  simp only [typesKnownTo, EndpointType.contains_distinctListed, implicationsOf,
    List.contains_iff_exists_mem_beq, List.mem_map, List.mem_filter, List.mem_flatMap, Speaks,
    Implication.isKnown, Bool.and_eq_true, decide_eq_true_eq]
  constructor
  · rintro ⟨_, ⟨i, ⟨⟨c, hc, hi⟩, hpositive, hconfidence⟩, rfl⟩, htype⟩
    exact ⟨c, hc, i, hi, BEq.symm htype, hpositive, hconfidence⟩
  · rintro ⟨c, hc, i, hi, htype, hpositive, hconfidence⟩
    exact ⟨i.type, ⟨i, ⟨⟨c, hc, hi⟩, hpositive, hconfidence⟩, rfl⟩, BEq.symm htype⟩

theorem any_endpoint_typesKnownTo_iff {applying : List Characteristic} :
    ((typesKnownTo applying).any fun t => !t.isNegative) = true ↔
      ∃ t, t.isNegative = false ∧ ∃ c ∈ applying, c.Speaks true t .maximal := by
  simp only [List.any_eq_true, Bool.not_eq_true', ← contains_typesKnownTo_iff,
    List.contains_iff_exists_mem_beq]
  constructor
  · rintro ⟨t, ht, hpositive⟩
    exact ⟨t, hpositive, t, ht, BEq.rfl⟩
  · rintro ⟨t, hpositive, u, hu, htype⟩
    exact ⟨u, hu, EndpointType.isNegative_congr htype ▸ hpositive⟩

/-- The test that goes through the implications one by one and the test against the set of known
types agree. -/
theorem isKnownRelevant_eq_any (relevant : List EndpointType) (applying : List Characteristic) :
    isKnownRelevant relevant applying = relevant.any (typesKnownTo applying).contains := by
  rw [Bool.eq_iff_iff]
  simp only [List.any_eq_true, contains_typesKnownTo_iff, Speaks]
  simp only [isKnownRelevant, implicationsOf, List.any_eq_true, List.mem_flatMap,
    Bool.and_eq_true, List.contains_iff_exists_mem_beq, Implication.isKnown, decide_eq_true_eq]
  constructor
  · rintro ⟨i, ⟨c, hc, hi⟩, ⟨t, ht, htype⟩, hpositive, hconfidence⟩
    exact ⟨t, ht, c, hc, i, hi, htype, hpositive, hconfidence⟩
  · rintro ⟨t, ht, c, hc, i, hi, htype, hpositive, hconfidence⟩
    exact ⟨i, ⟨c, hc, hi⟩, ⟨t, ht, htype⟩, hpositive, hconfidence⟩

theorem isKnownRelevant_eq_true_iff {relevant : List EndpointType}
    {applying : List Characteristic} :
    isKnownRelevant relevant applying = true ↔
      ∃ c ∈ applying, ∃ t ∈ relevant, c.Speaks true t .maximal := by
  simp only [isKnownRelevant_eq_any, List.any_eq_true, contains_typesKnownTo_iff]
  constructor
  · rintro ⟨t, ht, c, hc, hspeaks⟩
    exact ⟨c, hc, t, ht, hspeaks⟩
  · rintro ⟨c, hc, t, ht, hspeaks⟩
    exact ⟨t, ht, c, hc, hspeaks⟩

theorem mem_negativeReasons_iff {applying : List Characteristic} {name : String} :
    name ∈ negativeReasons applying ↔
      ∃ c ∈ applying, c.name = name ∧ c.Speaks true .negative .medium := by
  simp only [negativeReasons, List.mem_map, List.mem_filter, implies_eq_true_iff]
  constructor
  · rintro ⟨c, ⟨hc, hspeaks⟩, hname⟩
    exact ⟨c, hc, hname, hspeaks⟩
  · rintro ⟨c, hc, hname, hspeaks⟩
    exact ⟨c, ⟨hc, hspeaks⟩, hname⟩

theorem mem_opponents_iff {applying : List Characteristic} {type : EndpointType}
    {name : String} :
    name ∈ opponents applying type ↔
      ∃ c ∈ applying, c.name = name ∧ c.Speaks false type .medium := by
  simp only [opponents, List.mem_map, List.mem_filter, implies_eq_true_iff]
  constructor
  · rintro ⟨c, ⟨hc, hspeaks⟩, hname⟩
    exact ⟨c, hc, hname, hspeaks⟩
  · rintro ⟨c, hc, hname, hspeaks⟩
    exact ⟨c, ⟨hc, hspeaks⟩, hname⟩

theorem opponents_ne_nil_iff {applying : List Characteristic} {type : EndpointType} :
    opponents applying type ≠ [] ↔ ∃ c ∈ applying, c.Speaks false type .medium := by
  constructor
  · intro hne
    obtain ⟨name, hname⟩ := List.exists_mem_of_ne_nil _ hne
    obtain ⟨c, hc, -, hspeaks⟩ := mem_opponents_iff.mp hname
    exact ⟨c, hc, hspeaks⟩
  · rintro ⟨c, hc, hspeaks⟩
    exact List.ne_nil_of_mem (mem_opponents_iff.mpr ⟨c, hc, rfl, hspeaks⟩)

/-- Every type of a non-empty list is spoken against, perhaps by different characteristics. -/
def AllOpposed (relevant : List EndpointType) (applying : List Characteristic) : Prop :=
  relevant ≠ [] ∧ ∀ t ∈ relevant, ∃ c ∈ applying, c.Speaks false t .medium

theorem mem_filterReasons_iff {relevant : List EndpointType} {applying : List Characteristic}
    {name : String} :
    name ∈ filterReasons relevant applying ↔
      AllOpposed relevant applying ∧
        ∃ c ∈ applying, c.name = name ∧ ∃ t ∈ relevant, c.Speaks false t .medium := by
  have htest : (!relevant.isEmpty &&
      relevant.all fun t => !(opponents applying t).isEmpty) = true ↔
        AllOpposed relevant applying := by
    simp [AllOpposed, ← opponents_ne_nil_iff]
  rw [filterReasons]
  split
  next hall =>
    simp only [htest.mp hall, true_and, List.mem_flatMap, mem_opponents_iff]
    constructor
    · rintro ⟨t, ht, c, hc, hname, hspeaks⟩
      exact ⟨c, hc, hname, t, ht, hspeaks⟩
    · rintro ⟨c, hc, hname, t, ht, hspeaks⟩
      exact ⟨t, ht, c, hc, hname, hspeaks⟩
  next hnot =>
    simp [mt htest.mpr hnot]

/-- The reasons that characteristics which apply give together. -/
def reasonsAmong (relevant : List EndpointType) (applying : List Characteristic) :
    List String :=
  if isKnownRelevant relevant applying then []
  else (NameSet.ofList (negativeReasons applying ++ filterReasons relevant applying)).names

theorem exclusionReasons_eq {n : Node} {relevant : List EndpointType}
    {characteristics applying : List Characteristic}
    (h : applicable n characteristics = .ok applying) :
    exclusionReasons n relevant characteristics = .ok (reasonsAmong relevant applying) := by
  rw [exclusionReasons, h, reasonsAmong]
  by_cases hknown : isKnownRelevant relevant applying = true
  · simp [hknown]
  · simp [hknown]

theorem reasonsAmong_pairwise (relevant : List EndpointType)
    (applying : List Characteristic) : (reasonsAmong relevant applying).Pairwise (· < ·) := by
  rw [reasonsAmong]
  split
  · exact List.Pairwise.nil
  · exact NameSet.increasing _

theorem mem_reasonsAmong_iff {relevant : List EndpointType} {applying : List Characteristic}
    {name : String} :
    name ∈ reasonsAmong relevant applying ↔
      (¬ ∃ c ∈ applying, ∃ t ∈ relevant, c.Speaks true t .maximal) ∧
        ∃ c ∈ applying, c.name = name ∧
          (c.Speaks true .negative .medium ∨
            AllOpposed relevant applying ∧ ∃ t ∈ relevant, c.Speaks false t .medium) := by
  rw [reasonsAmong, ← isKnownRelevant_eq_true_iff]
  by_cases hknown : isKnownRelevant relevant applying = true
  · simp [hknown]
  · simp only [hknown, Bool.false_eq_true, ↓reduceIte, not_false_eq_true, true_and]
    rw [← NameSet.mem_def, NameSet.mem_ofList, List.mem_append, mem_negativeReasons_iff,
      mem_filterReasons_iff]
    constructor
    · rintro (⟨c, hc, hname, hspeaks⟩ | ⟨hall, c, hc, hname, hspeaks⟩)
      · exact ⟨c, hc, hname, Or.inl hspeaks⟩
      · exact ⟨c, hc, hname, Or.inr ⟨hall, hspeaks⟩⟩
    · rintro ⟨c, hc, hname, hspeaks | ⟨hall, hspeaks⟩⟩
      · exact Or.inl ⟨c, hc, hname, hspeaks⟩
      · exact Or.inr ⟨hall, c, hc, hname, hspeaks⟩

end TaintTriage
