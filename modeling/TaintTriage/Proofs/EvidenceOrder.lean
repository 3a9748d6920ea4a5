import Mathlib.Data.List.Perm.Basic
import TaintTriage.Proofs.AcceptedSpec
import TaintTriage.Proofs.SinkAxis

/-!
Evidence in any order.  What characteristics say together depends on which of them apply and on
which types are relevant, not on the order in which either are listed nor on how often a type is.
The types that a node is known to be of are listed by encoding, so that the wording of an ambiguity
does not depend on the order either, as long as their encodings are apart.
-/

namespace TaintTriage

namespace Value.Magnitude

variable {a b : Magnitude}

/-- Both are numbers, and they are not the same one. -/
def DiffersFrom (a b : Magnitude) : Prop :=
  ∃ p q, a.place? = some p ∧ b.place? = some q ∧ p ≠ q

theorem differsFrom_iff : a.DiffersFrom b ↔ a.isLess b = true ∨ b.isLess a = true := by
  rw [isLess_iff, isLess_iff]
  simp only [isBefore, Bool.or_eq_true, Bool.and_eq_true, decide_eq_true_eq, beq_iff_eq]
  constructor
  · intro h
    obtain ⟨p, q, hp, hq, hne⟩ := h
    rw [ne_eq, Prod.ext_iff] at hne
    have hordered : (p.1 < q.1 ∨ p.1 = q.1 ∧ p.2 < q.2) ∨ (q.1 < p.1 ∨ q.1 = p.1 ∧ q.2 < p.2) := by
      omega
    exact hordered.imp (fun hlt => ⟨p, q, hp, hq, hlt⟩) fun hlt => ⟨q, p, hq, hp, hlt⟩
  · intro h
    rcases h with ⟨p, q, hp, hq, hlt⟩ | ⟨q, p, hq, hp, hlt⟩
    all_goals
      refine ⟨p, q, hp, hq, ?_⟩
      rintro rfl
      omega

instance (a b : Magnitude) : Decidable (a.DiffersFrom b) :=
  decidable_of_iff _ differsFrom_iff.symm

end Value.Magnitude

namespace EndpointType

variable {t u : EndpointType} {ts us : List EndpointType}

/-- Two lists have the same types, in any order and with any repeats. -/
def SameTypes (ts us : List EndpointType) : Prop :=
  ∀ t, ts.contains t = us.contains t

theorem SameTypes.exists_beq (h : SameTypes ts us) (ht : t ∈ ts) : ∃ u ∈ us, (t == u) = true := by
  have hcontains : us.contains t = true := by
    rw [← h t]
    exact List.contains_iff_exists_mem_beq.mpr ⟨t, ht, BEq.rfl⟩
  exact List.contains_iff_exists_mem_beq.mp hcontains

theorem SameTypes.symm (h : SameTypes ts us) : SameTypes us ts :=
  fun t => (h t).symm

/-- A list contains a type if it has one with the same identity. -/
theorem contains_iff_identity_mem : ts.contains t = true ↔ t.identity ∈ ts.map identity := by
  rw [List.contains_iff_exists_mem_beq, List.mem_map]
  apply exists_congr
  intro u
  rw [beq_iff, eq_comm]

theorem SameTypes.identity_mem (h : SameTypes ts us) {i : String × Value.Magnitude × String}
    (hi : i ∈ ts.map identity) : i ∈ us.map identity := by
  obtain ⟨t, ht, rfl⟩ := List.mem_map.mp hi
  rw [← contains_iff_identity_mem, ← h t, contains_iff_identity_mem]
  exact List.mem_map_of_mem ht

/-- A type has a smaller encoding than another one. -/
def IsBelow (t u : EndpointType) : Prop :=
  t.encoding.magnitude.isLess u.encoding.magnitude = true

instance (t u : EndpointType) : Decidable (t.IsBelow u) :=
  inferInstanceAs (Decidable (_ = true))

theorem IsBelow.trans {v : EndpointType} (htu : t.IsBelow u) (huv : u.IsBelow v) : t.IsBelow v :=
  Value.Magnitude.isLess_trans htu huv

theorem IsBelow.ne (h : t.IsBelow u) : t.encoding.magnitude ≠ u.encoding.magnitude := by
  intro heq
  rw [IsBelow, heq, Value.Magnitude.isLess_irrefl] at h
  exact Bool.false_ne_true h

theorem magnitude_eq_of_beq (h : (t == u) = true) :
    t.encoding.magnitude = u.encoding.magnitude :=
  congrArg (fun identity => identity.2.1) (beq_iff.mp h)

/-- Different types have different numbers for encodings. -/
def EncodingsApart (types : List EndpointType) : Prop :=
  ∀ t ∈ types, ∀ u ∈ types,
    (t == u) = true ∨ t.encoding.magnitude.DiffersFrom u.encoding.magnitude

instance (types : List EndpointType) : Decidable (EncodingsApart types) :=
  inferInstanceAs (Decidable (∀ t ∈ types, ∀ u ∈ types, _ ∨ _))

/-- Of two types with different encodings one is below the other. -/
theorem EncodingsApart.isBelow (h : EncodingsApart ts) (ht : t ∈ ts) (hu : u ∈ ts) :
    (t == u) = true ∨ t.IsBelow u ∨ u.IsBelow t :=
  (h t ht u hu).imp_right Value.Magnitude.differsFrom_iff.mp

theorem EncodingsApart.congr (hsame : SameTypes ts us) (h : EncodingsApart ts) :
    EncodingsApart us := by
  intro t ht u hu
  obtain ⟨t', ht', htt'⟩ := hsame.symm.exists_beq ht
  obtain ⟨u', hu', huu'⟩ := hsame.symm.exists_beq hu
  have happart := h t' ht' u' hu'
  rw [← magnitude_eq_of_beq htt', ← magnitude_eq_of_beq huu'] at happart
  exact happart.imp_left fun heq => BEq.trans htt' (BEq.trans heq (BEq.symm huu'))

theorem listedBefore_irrefl (t : EndpointType) : t.listedBefore t = false := by
  rw [listedBefore, if_pos rfl, if_pos rfl]
  exact decide_eq_false (String.lt_irrefl t.kind)

theorem listedBefore_of_isBelow (h : t.IsBelow u) : t.listedBefore u = true := by
  rw [listedBefore, if_neg h.ne]
  exact h

/-- By encoding, and by the two texts where encodings are equal. -/
theorem listedBefore_iff :
    t.listedBefore u = true ↔ t.IsBelow u ∨ t.encoding.magnitude = u.encoding.magnitude ∧
      (t.name < u.name ∨ t.name = u.name ∧ t.kind < u.kind) := by
  rw [listedBefore]
  by_cases hmagnitude : t.encoding.magnitude = u.encoding.magnitude
  · have hnot : ¬ t.IsBelow u := fun h => h.ne hmagnitude
    rw [if_pos hmagnitude, or_iff_right hnot, and_iff_right hmagnitude]
    by_cases hname : t.name = u.name
    · have hnotName : ¬ t.name < u.name := by
        rw [hname]
        exact String.lt_irrefl u.name
      rw [if_pos hname, or_iff_right hnotName, and_iff_right hname, decide_eq_true_iff]
    · rw [if_neg hname, or_iff_left fun h => hname h.1, decide_eq_true_iff]
  · rw [if_neg hmagnitude, or_iff_left fun h => hmagnitude h.1]
    rfl

theorem listedBefore_trans {v : EndpointType} (htu : t.listedBefore u = true)
    (huv : u.listedBefore v = true) : t.listedBefore v = true := by
  rw [listedBefore_iff] at htu huv ⊢
  rcases htu with htu | ⟨htu, htexts⟩
  · rcases huv with huv | ⟨huv, -⟩
    · exact Or.inl (htu.trans huv)
    · rw [IsBelow, huv] at htu
      exact Or.inl htu
  · rcases huv with huv | ⟨huv, hutexts⟩
    · rw [IsBelow, ← htu] at huv
      exact Or.inl huv
    · refine Or.inr ⟨htu.trans huv, ?_⟩
      rcases htexts with htname | ⟨htname, htkind⟩
      · rcases hutexts with huname | ⟨huname, -⟩
        · exact Or.inl (String.lt_trans htname huname)
        · exact Or.inl (huname ▸ htname)
      · rcases hutexts with huname | ⟨huname, hukind⟩
        · exact Or.inl (htname ▸ huname)
        · exact Or.inr ⟨htname.trans huname, String.lt_trans htkind hukind⟩

theorem listedBefore_congr {v : EndpointType} (h : (t == u) = true) :
    t.listedBefore v = u.listedBefore v := by
  have hidentity := beq_iff.mp h
  simp only [identity, Prod.mk.injEq] at hidentity
  rw [listedBefore, listedBefore, hidentity.1, hidentity.2.1, hidentity.2.2]

/-- Each type stands once in a list, and none behind one that it is listed before. -/
def IsListing (ts : List EndpointType) : Prop :=
  ts.Pairwise fun t u => (t == u) = false ∧ u.listedBefore t = false

theorem mem_insertListed (h : u ∈ insertListed t ts) : u = t ∨ u ∈ ts := by
  induction ts with
  | nil => exact Or.inl (List.mem_singleton.mp h)
  | cons head tail ih =>
      rw [insertListed] at h
      split at h
      · exact Or.inr h
      · split at h
        · exact List.mem_cons.mp h
        · rcases List.mem_cons.mp h with rfl | hmem
          · exact Or.inr List.mem_cons_self
          · exact (ih hmem).imp_right (List.mem_cons_of_mem head)

/-- One more type is put at its place. -/
theorem IsListing.insertListed (h : IsListing ts) (t : EndpointType) :
    IsListing (insertListed t ts) := by
  induction ts with
  | nil => exact List.pairwise_singleton _ t
  | cons head tail ih =>
      have htail := List.pairwise_cons.mp h
      rw [EndpointType.insertListed]
      split
      next => exact h
      next hne =>
        split
        next hbefore =>
          apply List.pairwise_cons.mpr
          refine ⟨?_, h⟩
          -- What stands behind the head is not listed before it, so it is neither `t` nor
          -- before it.
          have hbehind : ∀ u ∈ head :: tail, u.listedBefore head = false := by
            intro u hu
            rcases List.mem_cons.mp hu with rfl | hu
            · exact listedBefore_irrefl u
            · exact (htail.1 u hu).2
          intro u hu
          constructor
          · rw [Bool.eq_false_iff]
            intro heq
            have hfalse := hbehind u hu
            rw [← listedBefore_congr heq, hbefore] at hfalse
            exact Bool.noConfusion hfalse
          · rw [Bool.eq_false_iff]
            intro hless
            have hfalse := hbehind u hu
            rw [listedBefore_trans hless hbefore] at hfalse
            exact Bool.noConfusion hfalse
        next hnot =>
          apply List.pairwise_cons.mpr
          refine ⟨?_, ih htail.2⟩
          intro u hu
          rcases mem_insertListed hu with rfl | hu
          · exact ⟨Bool.eq_false_iff.mpr fun heq => hne (BEq.symm heq), Bool.eq_false_iff.mpr hnot⟩
          · exact htail.1 u hu

theorem isListing_distinctListed (types : List EndpointType) :
    IsListing (distinctListed types) := by
  suffices general : ∀ listed, IsListing listed →
      IsListing (types.foldl (fun listed t => EndpointType.insertListed t listed) listed) from
    general [] List.Pairwise.nil
  induction types with
  | nil => exact fun listed hlisted => hlisted
  | cons t rest ih => exact fun listed hlisted => ih _ (hlisted.insertListed t)

/-- Types whose encodings are apart are listed by encoding alone. -/
theorem IsListing.pairwise_isBelow (h : IsListing ts) (happart : EncodingsApart ts) :
    ts.Pairwise IsBelow := by
  refine h.imp_of_mem fun {t u} ht hu hlisted => ?_
  rcases happart.isBelow ht hu with heq | hbelow | hbelow
  · exact absurd heq (Bool.eq_false_iff.mp hlisted.1)
  · exact hbelow
  · exact absurd (listedBefore_of_isBelow hbelow) (Bool.eq_false_iff.mp hlisted.2)

/-- Two lists in the order of encodings that have the same types have them at the same places. -/
theorem map_identity_eq (hsame : SameTypes ts us) (hts : ts.Pairwise IsBelow)
    (hus : us.Pairwise IsBelow) : ts.map identity = us.map identity := by
  have hordered {vs : List EndpointType} (h : vs.Pairwise IsBelow) :
      (vs.map identity).Pairwise fun i j => i.2.1.isLess j.2.1 = true :=
    List.pairwise_map.mpr h
  have hnodup {vs : List EndpointType} (h : vs.Pairwise IsBelow) : (vs.map identity).Nodup := by
    apply (hordered h).imp
    intro i j hless heq
    rw [heq, Value.Magnitude.isLess_irrefl] at hless
    exact Bool.false_ne_true hless
  have hperm : (ts.map identity).Perm (us.map identity) :=
    (List.perm_ext_iff_of_nodup (hnodup hts) (hnodup hus)).mpr fun i =>
      ⟨hsame.identity_mem, hsame.symm.identity_mem⟩
  apply hperm.eq_of_pairwise ?_ (hordered hts) (hordered hus)
  intro i j _ _ hij hji
  have hself := Value.Magnitude.isLess_trans hij hji
  rw [Value.Magnitude.isLess_irrefl] at hself
  exact absurd hself Bool.false_ne_true

end EndpointType

open EndpointType Characteristic

/-- A characteristic speaks about a type as it does about an equal one. -/
theorem Characteristic.Speaks.congr {c : Characteristic} {positive : Bool} {t u : EndpointType}
    {least : Confidence} (htype : (t == u) = true) (h : c.Speaks positive t least) :
    c.Speaks positive u least := by
  obtain ⟨i, hi, hit, hrest⟩ := h
  exact ⟨i, hi, BEq.trans hit htype, hrest⟩

section SameEvidence

variable {applying others : List Characteristic} {relevant wanted : List EndpointType}

theorem isKnownRelevant_congr (hrelevant : SameTypes relevant wanted)
    (happlying : ∀ c, c ∈ applying ↔ c ∈ others) :
    isKnownRelevant relevant applying = isKnownRelevant wanted others := by
  have himp {ts us : List EndpointType} (hsame : SameTypes ts us)
      (h : ∃ c ∈ others, ∃ t ∈ ts, c.Speaks true t .maximal) :
      ∃ c ∈ others, ∃ u ∈ us, c.Speaks true u .maximal := by
    obtain ⟨c, hc, t, ht, hspeaks⟩ := h
    obtain ⟨u, hu, htype⟩ := hsame.exists_beq ht
    exact ⟨c, hc, u, hu, hspeaks.congr htype⟩
  rw [Bool.eq_iff_iff, isKnownRelevant_eq_true_iff, isKnownRelevant_eq_true_iff]
  simp only [happlying]
  exact ⟨himp hrelevant, himp hrelevant.symm⟩

theorem AllOpposed.congr (hrelevant : SameTypes relevant wanted)
    (happlying : ∀ c, c ∈ applying ↔ c ∈ others) (h : AllOpposed relevant applying) :
    AllOpposed wanted others := by
  obtain ⟨t, ht⟩ := List.exists_mem_of_ne_nil relevant h.1
  obtain ⟨u, hu, -⟩ := hrelevant.exists_beq ht
  refine ⟨List.ne_nil_of_mem hu, fun v hv => ?_⟩
  obtain ⟨t, ht, htype⟩ := hrelevant.symm.exists_beq hv
  obtain ⟨c, hc, hspeaks⟩ := h.2 t ht
  exact ⟨c, (happlying c).mp hc, hspeaks.congr (BEq.symm htype)⟩

theorem mem_reasonsAmong_congr (hrelevant : SameTypes relevant wanted)
    (happlying : ∀ c, c ∈ applying ↔ c ∈ others) {name : String}
    (h : name ∈ reasonsAmong relevant applying) : name ∈ reasonsAmong wanted others := by
  rw [mem_reasonsAmong_iff, ← isKnownRelevant_eq_true_iff] at h ⊢
  rw [← isKnownRelevant_congr hrelevant happlying]
  obtain ⟨hunknown, c, hc, hname, hspeaks⟩ := h
  refine ⟨hunknown, c, (happlying c).mp hc, hname, ?_⟩
  rcases hspeaks with hnegative | ⟨hall, t, ht, hagainst⟩
  · exact Or.inl hnegative
  · obtain ⟨u, hu, htype⟩ := hrelevant.exists_beq ht
    exact Or.inr ⟨hall.congr hrelevant happlying, u, hu, hagainst.congr htype⟩

/-- The reasons are increasing, so that they are equal where they have the same members. -/
theorem reasonsAmong_congr (hrelevant : SameTypes relevant wanted)
    (happlying : ∀ c, c ∈ applying ↔ c ∈ others) :
    reasonsAmong relevant applying = reasonsAmong wanted others := by
  apply NameSet.eq_of_pairwise_of_mem_iff (reasonsAmong_pairwise relevant applying)
    (reasonsAmong_pairwise wanted others)
  intro name
  constructor
  · exact mem_reasonsAmong_congr hrelevant happlying
  · exact mem_reasonsAmong_congr hrelevant.symm fun c => (happlying c).symm

theorem sameTypes_typesKnownTo (happlying : ∀ c, c ∈ applying ↔ c ∈ others) :
    SameTypes (typesKnownTo applying) (typesKnownTo others) := by
  intro t
  rw [Bool.eq_iff_iff, contains_typesKnownTo_iff, contains_typesKnownTo_iff]
  simp only [happlying]

/-- Where the encodings of the known types are apart, they are listed by them. -/
theorem pairwise_typesKnownTo (h : EncodingsApart (typesKnownTo applying)) :
    (typesKnownTo applying).Pairwise IsBelow :=
  (isListing_distinctListed _).pairwise_isBelow h

/-- The known types are then the same at each place, and with them their number and their names. -/
theorem map_identity_typesKnownTo (happlying : ∀ c, c ∈ applying ↔ c ∈ others)
    (h : EncodingsApart (typesKnownTo applying)) :
    (typesKnownTo applying).map identity = (typesKnownTo others).map identity :=
  have hsame := sameTypes_typesKnownTo happlying
  map_identity_eq hsame (pairwise_typesKnownTo h) (pairwise_typesKnownTo (h.congr hsame))

theorem Configuration.evidenceOf_congr {c d : Configuration}
    (hrelevant : SameTypes c.relevantSinkTypes d.relevantSinkTypes)
    (happlying : ∀ c, c ∈ applying ↔ c ∈ others) : c.evidenceOf applying = d.evidenceOf others := by
  have hknown := isKnownRelevant_congr hrelevant happlying
  have hreasons := reasonsAmong_congr hrelevant happlying
  have hendpoint : (typesKnownTo applying).any (fun t => !t.isNegative) =
      (typesKnownTo others).any fun t => !t.isNegative := by
    rw [Bool.eq_iff_iff, any_endpoint_typesKnownTo_iff, any_endpoint_typesKnownTo_iff]
    simp only [happlying]
  simp only [Configuration.evidenceOf, hknown, hreasons, hendpoint]

end SameEvidence

/-- The ambiguity goes by the names of the known types in the order of their encodings. -/
theorem findAmbiguity_eq {n : Node} {characteristics applying : List Characteristic}
    (h : applicable n characteristics = .ok applying) :
    findAmbiguity n characteristics =
      .ok (if ((typesKnownTo applying).map identity).length < 2 then none
        else some ⟨n.id, ((typesKnownTo applying).map identity).map (·.1)⟩) := by
  rw [findAmbiguity, knownTypes_eq h, List.length_map, List.map_map]
  rfl

/-- Characteristics in any order and relevant types in any order and with any repeats give a node
the same known types, the same reasons and the same status; its ambiguity is the same wherever the
encodings of the known types are apart. -/
theorem evidence_ignores_order (n : Node) {characteristics others : List Characteristic}
    {relevant wanted : List EndpointType} (hperm : characteristics.Perm others)
    (hrelevant : SameTypes relevant wanted) (h : AllAnswer characteristics n) :
    ∃ types types' reasons excluded,
      (knownTypes n characteristics = .ok types ∧ knownTypes n others = .ok types' ∧
        SameTypes types types') ∧
      (exclusionReasons n relevant characteristics = .ok reasons ∧
        exclusionReasons n wanted others = .ok reasons) ∧
      (isExcluded n relevant characteristics = .ok excluded ∧
        isExcluded n wanted others = .ok excluded) ∧
      (EncodingsApart types → ∃ ambiguity, findAmbiguity n characteristics = .ok ambiguity ∧
        findAmbiguity n others = .ok ambiguity) ∧
      ∀ c d : Configuration, c.characteristics = characteristics → c.relevantSinkTypes = relevant →
        d.characteristics = others → d.relevantSinkTypes = wanted →
          ∃ status, c.sinkStatus n = .ok status ∧ d.sinkStatus n = .ok status := by
  have hothers : AllAnswer others n := fun c hc => h c (hperm.mem_iff.mpr hc)
  obtain ⟨applying, happlying⟩ := h.exists_applicable
  obtain ⟨applying', happlying'⟩ := hothers.exists_applicable
  have hsame : ∀ c, c ∈ applying ↔ c ∈ applying' := by
    intro c
    rw [mem_applicable_iff happlying, mem_applicable_iff happlying', hperm.mem_iff]
  have hreasons : exclusionReasons n relevant characteristics =
      .ok (reasonsAmong relevant applying) := exclusionReasons_eq happlying
  have hreasons' : exclusionReasons n wanted others = .ok (reasonsAmong relevant applying) := by
    rw [exclusionReasons_eq happlying', reasonsAmong_congr hrelevant hsame]
  refine ⟨typesKnownTo applying, typesKnownTo applying', reasonsAmong relevant applying, _,
    ⟨knownTypes_eq happlying, knownTypes_eq happlying', sameTypes_typesKnownTo hsame⟩,
    ⟨hreasons, hreasons'⟩, ⟨by rw [isExcluded, hreasons]; rfl, by rw [isExcluded, hreasons']; rfl⟩,
    ?_, ?_⟩
  · intro happart
    refine ⟨_, findAmbiguity_eq happlying, ?_⟩
    rw [findAmbiguity_eq happlying', map_identity_typesKnownTo hsame happart]
  · rintro c d rfl rfl rfl rfl
    have hevidence := Configuration.evidenceOf_congr hrelevant hsame
    have hstatus := (Configuration.shows_evidenceOf happlying).sinkStatus
    have hstatus' := (Configuration.shows_evidenceOf happlying').sinkStatus
    rw [← hevidence] at hstatus'
    exact ⟨_, hstatus, hstatus'⟩

def doubt (type : EndpointType) : Characteristic :=
  ofFamily ("doubt-" ++ type.kind) .standardFilter (fun _ => .ok true) [type]

/-- A query for two types, and a doubt about each of them. -/
def doubtedQuery : QuerySpec :=
  (SpecOf.refinedBy (.ofTypes [.xssSink, .sqlInjectionSink]) (doubt .xssSink)).refinedBy
    (doubt .sqlInjectionSink)

/-- The same types, one of them twice, and the same doubts, the other one first. -/
def reorderedQuery : QuerySpec :=
  (SpecOf.refinedBy (.ofTypes [.sqlInjectionSink, .xssSink, .sqlInjectionSink])
    (doubt .sqlInjectionSink)).refinedBy (doubt .xssSink)

/-- An argument that is known to be of both types. -/
def twiceKnown : Node :=
  { NodeRecord.bare "n" "argument" with knownSinks := .ofList ["sql-injection", "xss"] }

/-- Both queries give it the same status and name its types in the same order. -/
theorem evidence_ignores_order_reorderedQuery :
    ∃ c d : Configuration, (Configuration.ofSpec doubtedQuery = .ok c ∧
        Configuration.ofSpec reorderedQuery = .ok d) ∧
      (c.characteristics.Perm d.characteristics ∧
        SameTypes c.relevantSinkTypes d.relevantSinkTypes ∧
        AllAnswer c.characteristics twiceKnown) ∧
      d.sinkStatus twiceKnown = .ok .knownSink ∧
      d.findAmbiguity twiceKnown = .ok (some ⟨"n", ["SqlInjectionSinkType", "XssSinkType"]⟩) := by
  obtain ⟨c, hc, hanswers, ⟨types, htypes, happart⟩, hstatus, hambiguity⟩ : ∃ c,
      Configuration.ofSpec doubtedQuery = .ok c ∧ AllAnswer c.characteristics twiceKnown ∧
        (∃ types, knownTypes twiceKnown c.characteristics = .ok types ∧ EncodingsApart types) ∧
        c.sinkStatus twiceKnown = .ok .knownSink ∧ c.findAmbiguity twiceKnown =
          .ok (some ⟨"n", ["SqlInjectionSinkType", "XssSinkType"]⟩) := by decide +kernel
  obtain ⟨d, hd⟩ : ∃ d, Configuration.ofSpec reorderedQuery = .ok d := ⟨_, rfl⟩
  have hcParts : (Configuration.ofSpec doubtedQuery).map
      (fun c => (c.refinements, c.relevantSinkTypes)) =
    .ok ([doubt .xssSink, doubt .sqlInjectionSink], [.xssSink, .sqlInjectionSink]) := rfl
  have hdParts : (Configuration.ofSpec reorderedQuery).map
      (fun d => (d.refinements, d.relevantSinkTypes)) =
    .ok ([doubt .sqlInjectionSink, doubt .xssSink],
      [.sqlInjectionSink, .xssSink, .sqlInjectionSink]) := rfl
  rw [hc, map_ok, Except.ok.injEq, Prod.mk.injEq] at hcParts
  rw [hd, map_ok, Except.ok.injEq, Prod.mk.injEq] at hdParts
  have hperm : c.characteristics.Perm d.characteristics := by
    rw [Configuration.characteristics, Configuration.characteristics, hcParts.1, hdParts.1]
    exact (List.Perm.swap _ _ _).append_left _
  have hsame : SameTypes c.relevantSinkTypes d.relevantSinkTypes := by
    intro t
    rw [hcParts.2, hdParts.2, Bool.eq_iff_iff]
    simp [or_comm]
  obtain ⟨types', -, reasons, excluded, ⟨htypes', -⟩, -, -, hambiguities, hstatuses⟩ :=
    evidence_ignores_order twiceKnown hperm hsame hanswers
  obtain rfl := Except.ok.inj (htypes.symm.trans htypes')
  obtain ⟨status, hcStatus, hdStatus⟩ := hstatuses c d rfl rfl rfl rfl
  obtain ⟨ambiguity, hcAmbiguity, hdAmbiguity⟩ := hambiguities happart
  obtain rfl := Except.ok.inj (hstatus.symm.trans hcStatus)
  obtain rfl := Except.ok.inj (hambiguity.symm.trans hcAmbiguity)
  exact ⟨c, d, ⟨hc, hd⟩, ⟨hperm, hsame, hanswers⟩, hdStatus, hdAmbiguity⟩

end TaintTriage
