import TaintTriage.Classification
import TaintTriage.Proofs.ShownValue

/-!
Labellers that answer.  A labeller gives labels about a node if its details can be found and shown;
of the shipped ones only the labeller of the structure shows names that the node takes from its
document unchanged.
-/

namespace TaintTriage

def Labeller.Answers (l : Labeller) (n : Node) : Prop :=
  ∃ own, l.label n = .ok own

instance (l : Labeller) (n : Node) : Decidable (l.Answers n) :=
  decidable_of_iff ((l.label n).isOk = true) isOk_eq_true_iff

/-- Details that are texts make labels. -/
theorem Labeller.answers_of_texts {l : Labeller} {n : Node} {details : List Value}
    (h : l.emit n = .ok details) (htexts : ∀ v ∈ details, ∃ s, v = .str s) : l.Answers n := by
  have hshort : ∀ v ∈ details.filter Value.isTruthy, v.isShort = true := by
    intro v hv
    obtain ⟨s, rfl⟩ := htexts v (List.mem_filter.mp hv).1
    rfl
  obtain ⟨shown, hshown⟩ := Value.exists_mapM_display_iff.mpr hshort
  exact ⟨_, by rw [Labeller.label, h, ok_bind, hshown]; rfl⟩

namespace NodeRecord

/-- The names that labels show have a text. -/
def HasShortNames (n : Node) : Prop :=
  (n.isArgument = true → n.calleeName.isShort = true) ∧
    (n.isPropertyWrite = true → n.propertyName.isShort = true)

instance (n : Node) : Decidable n.HasShortNames :=
  inferInstanceAs (Decidable (_ ∧ _))

end NodeRecord

namespace LabellerRegistry

variable {n : Node}

/-- The detail with a name, if there is one, shows the name. -/
theorem exists_namedDetails_iff {mark : String} {name : Value} :
    (∃ details, namedDetails mark name = .ok details) ↔ name.isShort = true := by
  cases htruthy : name.isTruthy with
  | false => simp [namedDetails, htruthy, Value.isShort_of_isTruthy_eq_false htruthy]
  | true =>
      rw [← Value.exists_display_iff]
      cases hshown : name.display <;> simp [namedDetails, htruthy, hshown, orFail]

theorem texts_of_namedDetails {mark : String} {name : Value} {details : List Value}
    (h : namedDetails mark name = .ok details) : ∀ v ∈ details, ∃ s, v = .str s := by
  rw [namedDetails] at h
  split at h
  · obtain ⟨text, -, htext⟩ := bind_eq_ok_iff.mp h
    obtain rfl := Except.ok.inj htext
    simp
  · obtain rfl := Except.ok.inj h
    simp

theorem exists_structureDetails_iff :
    (∃ details, structureDetails n = .ok details) ↔ n.HasShortNames := by
  have hguarded (isAsked : Bool) (mark : String) (name : Value) :
      (∃ details, (if isAsked then namedDetails mark name else pure []) = .ok details) ↔
        (isAsked = true → name.isShort = true) := by
    cases isAsked with
    | true => simpa using exists_namedDetails_iff
    | false => simp
  rw [NodeRecord.HasShortNames, ← hguarded n.isArgument "argument-of-",
    ← hguarded n.isPropertyWrite "property-write-"]
  constructor
  · rintro ⟨details, h⟩
    obtain ⟨callee, hcallee, hrest⟩ := ite_bind_eq_ok_iff.mp h
    obtain ⟨property, hproperty, -⟩ := ite_bind_eq_ok_iff.mp hrest
    exact ⟨⟨callee, hcallee⟩, ⟨property, hproperty⟩⟩
  · rintro ⟨⟨callee, hcallee⟩, ⟨property, hproperty⟩⟩
    exact ⟨_, ite_bind_eq_ok_iff.mpr
      ⟨callee, hcallee, ite_bind_eq_ok_iff.mpr ⟨property, hproperty, rfl⟩⟩⟩

theorem texts_of_structureDetails {details : List Value} (h : structureDetails n = .ok details) :
    ∀ v ∈ details, ∃ s, v = .str s := by
  have hguarded {isAsked : Bool} {mark : String} {name : Value} {named : List Value}
      (hnamed : (if isAsked then namedDetails mark name else pure []) = .ok named) :
      ∀ v ∈ named, ∃ s, v = .str s := by
    cases isAsked with
    | true => exact texts_of_namedDetails hnamed
    | false =>
        obtain rfl := Except.ok.inj hnamed
        simp
  obtain ⟨callee, hcallee, hrest⟩ := ite_bind_eq_ok_iff.mp h
  obtain ⟨property, hproperty, hdetails⟩ := ite_bind_eq_ok_iff.mp hrest
  obtain rfl := Except.ok.inj hdetails
  intro v hv
  simp only [List.mem_append] at hv
  obtain (((hv | hv) | hv) | hv) | hv := hv
  · split at hv <;> simp_all
  · split at hv <;> simp_all
  · exact hguarded hcallee v hv
  · exact hguarded hproperty v hv
  · split at hv <;> simp_all

/-- The shipped labellers answer about a node exactly if the rules of the shared characteristics do
and the names that are shown are short. -/
theorem shipped_answers_iff :
    (∀ l ∈ shipped.labellers, l.Answers n) ↔
      (∃ applying, Characteristic.applicable n Characteristic.shipped = .ok applying) ∧
        n.HasShortNames := by
  simp only [shipped, List.forall_mem_cons, List.not_mem_nil, false_implies, implies_true, and_true]
  constructor
  · rintro ⟨⟨_, hshared⟩, -, ⟨_, hstructure⟩, -⟩
    obtain ⟨details, hdetails, -⟩ := bind_eq_ok_iff.mp hshared
    obtain ⟨applying, happlying, -⟩ := bind_eq_ok_iff.mp hdetails
    obtain ⟨placed, hplaced, -⟩ := bind_eq_ok_iff.mp hstructure
    exact ⟨⟨applying, happlying⟩, exists_structureDetails_iff.mp ⟨placed, hplaced⟩⟩
  · rintro ⟨⟨applying, happlying⟩, hnames⟩
    obtain ⟨placed, hplaced⟩ := exists_structureDetails_iff.mpr hnames
    have hdetails : characteristicDetails n = .ok (applying.map fun c => .str c.name) := by
      rw [characteristicDetails, happlying]
      rfl
    refine ⟨Labeller.answers_of_texts hdetails (by simp), Labeller.answers_of_texts rfl ?_,
      Labeller.answers_of_texts hplaced (texts_of_structureDetails hplaced),
      Labeller.answers_of_texts rfl (by simp [sanitizerDetails])⟩
    simp only [knownDetails, List.mem_append, List.mem_map]
    rintro v (⟨c, -, rfl⟩ | ⟨c, -, rfl⟩)
    · exact ⟨_, rfl⟩
    · exact ⟨_, rfl⟩

/-- A registry gives labels exactly if all of its labellers do. -/
theorem exists_labelsFor_iff {r : LabellerRegistry} :
    (∃ labels, r.labelsFor n = .ok labels) ↔ ∀ l ∈ r.labellers, l.Answers n := by
  have hgiven : (∃ groups, r.labellers.mapM (·.label n) = .ok groups) ↔
      ∀ l ∈ r.labellers, l.Answers n := exists_mapM_eq_ok_iff
  rw [← hgiven]
  constructor
  · rintro ⟨labels, hlabels⟩
    obtain ⟨groups, hgroups, -⟩ := bind_eq_ok_iff.mp hlabels
    exact ⟨groups, hgroups⟩
  · rintro ⟨groups, hgroups⟩
    exact ⟨_, by rw [labelsFor, labelsByLabeller, hgroups]; rfl⟩

end LabellerRegistry

end TaintTriage
