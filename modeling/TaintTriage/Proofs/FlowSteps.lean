import Mathlib.Data.List.Forall2
import TaintTriage.Configuration
import TaintTriage.Proofs.DocumentGrammar

/-!
Flow steps as a union over entries.  Steps are read one after the other into a table, where the tags
of a pair of ids are taken out and put back with further ones; in the end a pair has the tags of all
entries between its ids, whatever their order and however often one is repeated.  The same holds of
the elements of tags and of the names that nodes list.
-/

namespace TaintTriage

namespace Value

/-- What a value names: nothing if it does not count as true, itself if it is a text, else its
items. -/
def elements (v : Value) : Except ValueFault (List Value) :=
  if v.isTruthy then
    match v with
    | .str s => .ok [.str s]
    | _ => v.items
  else .ok []

/-- A name is the text of an element. -/
def HasName (v : Value) (name : String) : Prop :=
  ∃ elements, v.elements = .ok elements ∧ ∃ element ∈ elements, element.display = .ok name

/-- Two values have the same elements, in any order and with any repeats. -/
def SameElements (v w : Value) : Prop :=
  ∃ elements others, v.elements = .ok elements ∧ w.elements = .ok others ∧
    ∀ element, element ∈ elements ↔ element ∈ others

theorem elements_list (items : List Value) : (list items).elements = .ok items := by
  cases items <;> rfl

theorem sameElements_list_iff {items others : List Value} :
    (list items).SameElements (list others) ↔ ∀ item, item ∈ items ↔ item ∈ others := by
  simp [SameElements, elements_list]

end Value

theorem namesOf_eq_elements_bind (v : Value) :
    namesOf v = v.elements >>= fun elements => (elements.mapM Value.display).map .ofList := by
  unfold namesOf Value.elements
  cases v.isTruthy with
  | false => rfl
  | true => cases v <;> rfl

theorem mem_namesOf_iff {v : Value} {names : NameSet} {name : String}
    (h : namesOf v = .ok names) : name ∈ names ↔ v.HasName name := by
  rw [namesOf_eq_elements_bind] at h
  obtain ⟨elements, helements, hnames⟩ := bind_eq_ok_iff.mp h
  obtain ⟨texts, htexts, rfl⟩ := map_eq_ok_iff.mp hnames
  simp [Value.HasName, helements, mem_iff_of_mapM htexts]

/-- The same elements have the same texts; if one of them has none, neither list is gone through. -/
theorem Value.map_ofList_mapM_display {elements others : List Value}
    (hsame : ∀ element, element ∈ elements ↔ element ∈ others) :
    (others.mapM display).map NameSet.ofList = (elements.mapM display).map NameSet.ofList := by
  have hshown (values : List Value) := ShownIf.mapM display_shownIf values
  have hall : elements.all isShort = others.all isShort := by
    rw [Bool.eq_iff_iff]
    simp [hsame]
  cases hshort : others.all isShort with
  | false =>
      rw [(hshown elements).eq_error_iff.mpr (hall.trans hshort),
        (hshown others).eq_error_iff.mpr hshort]
  | true =>
      obtain ⟨texts, htexts⟩ := (hshown elements).exists_iff.mpr (hall.trans hshort)
      obtain ⟨names, hnames⟩ := (hshown others).exists_iff.mpr hshort
      rw [htexts, hnames, map_ok, map_ok]
      apply congrArg Except.ok
      apply NameSet.ext
      intro name
      simp [mem_iff_of_mapM htexts, mem_iff_of_mapM hnames, hsame]

theorem Value.SameElements.namesOf_eq {v w : Value} (h : v.SameElements w) :
    namesOf w = namesOf v := by
  obtain ⟨elements, others, helements, hothers, hsame⟩ := h
  rw [namesOf_eq_elements_bind, namesOf_eq_elements_bind, helements, hothers]
  exact Value.map_ofList_mapM_display hsame

namespace Snapshot

/-- A pair has the tags that it had before and those of all steps between its ends. -/
theorem mem_tags_addSteps {table : StepTable} {steps : List ((String × String) × NameSet)}
    {ends : String × String} {tag : String} :
    tag ∈ (addSteps table steps).tags ends ↔
      tag ∈ table.tags ends ∨ ∃ step ∈ steps, step.1 = ends ∧ tag ∈ step.2 := by
  induction steps generalizing table with
  | nil => simp [addSteps]
  | cons step rest ih =>
      have hadd : tag ∈ (table.add step.1 step.2).tags ends ↔
          tag ∈ table.tags ends ∨ step.1 = ends ∧ tag ∈ step.2 := by
        rw [StepTable.add, StepTable.tags_update]
        by_cases hends : ends = step.1
        · subst hends
          simp
        · simp [hends, Ne.symm hends]
      change tag ∈ (addSteps (table.add step.1 step.2) rest).tags ends ↔ _
      rw [ih, hadd, or_assoc]
      simp

/-- An entry is a step between two ids, with tags or without any. -/
def IsStep (entry : Value) (ends : String × String) (tags : Option Value) : Prop :=
  ∃ fields source target, entry.opened = .map fields ∧
    Value.field? fields "from" = some source ∧ Value.field? fields "to" = some target ∧
    source.display = .ok ends.1 ∧ target.display = .ok ends.2 ∧
    Value.field? fields "tags" = tags

theorem IsStep.unique {entry : Value} {ends others : String × String} {tags given : Option Value}
    (h : IsStep entry ends tags) (hother : IsStep entry others given) :
    ends = others ∧ tags = given := by
  obtain ⟨fields, source, target, hopened, hsource, htarget, hfrom, hto, rfl⟩ := h
  obtain ⟨fields', source', target', hopened', hsource', htarget', hfrom', hto', rfl⟩ := hother
  obtain rfl := Value.map.inj (hopened.symm.trans hopened')
  obtain rfl := Option.some.inj (hsource.symm.trans hsource')
  obtain rfl := Option.some.inj (htarget.symm.trans htarget')
  exact ⟨Prod.ext (Except.ok.inj (hfrom.symm.trans hfrom')) (Except.ok.inj (hto.symm.trans hto')),
    rfl⟩

/-- The tags that an entry gives: a step without tags has the tag for every query. -/
def GivesTag : Option Value → String → Prop
  | none, tag => tag = anyClass
  | some v, tag => v.HasName tag

theorem stepEnd_eq_ok_iff {entry : Value} {field text : String} :
    stepEnd entry field = .ok text ↔ ∃ v, entry.named field = .ok v ∧ v.display = .ok text := by
  rw [stepEnd]
  rcases entry.named field with cause | v
  · cases cause <;> simp
  · simp

theorem stepOf_eq_ok_iff {entry : Value} {ends : String × String} {names : NameSet} :
    stepOf entry = .ok (ends, names) ↔
      ∃ tags, IsStep entry ends tags ∧
        namesOf (tags.getD (.list [.str anyClass])) = .ok names := by
  simp only [stepOf, bind_eq_ok_iff, stepEnd_eq_ok_iff, Value.named_eq_ok_iff]
  constructor
  · intro h
    obtain ⟨from', ⟨source, ⟨fields, hopened, hsource⟩, hfrom⟩, to',
      ⟨target, ⟨fields', hopened', htarget⟩, hto⟩, names', hnames, heq⟩ := h
    obtain rfl := Value.map.inj (hopened.symm.trans hopened')
    obtain ⟨rfl, rfl⟩ := Prod.mk.inj (Except.ok.inj heq)
    rw [stepTagsOf, hopened] at hnames
    exact ⟨_, ⟨fields, source, target, hopened, hsource, htarget, hfrom, hto, rfl⟩,
      mapError_eq_ok_iff.mp hnames⟩
  · intro h
    obtain ⟨tags, ⟨fields, source, target, hopened, hsource, htarget, hfrom, hto, rfl⟩, hnames⟩ := h
    refine ⟨_, ⟨source, ⟨fields, hopened, hsource⟩, hfrom⟩, _,
      ⟨target, ⟨fields, hopened, htarget⟩, hto⟩, names, ?_, rfl⟩
    rw [stepTagsOf, hopened]
    exact mapError_eq_ok_iff.mpr hnames

/-- The default of a missing list has one name. -/
theorem givesTag_iff {tags : Option Value} {names : NameSet} {tag : String}
    (h : namesOf (tags.getD (.list [.str anyClass])) = .ok names) :
    tag ∈ names ↔ GivesTag tags tag := by
  rw [mem_namesOf_iff h]
  cases tags with
  | none => simp [GivesTag, Value.HasName, Value.elements_list, eq_comm]
  | some v => rfl

/-- A step has the tags that its entry gives. -/
theorem mem_stepOf_iff {entry : Value} {step : (String × String) × NameSet}
    (h : stepOf entry = .ok step) {ends : String × String} {tag : String} :
    step.1 = ends ∧ tag ∈ step.2 ↔ ∃ tags, IsStep entry ends tags ∧ GivesTag tags tag := by
  obtain ⟨tags, hstep, hnames⟩ := stepOf_eq_ok_iff.mp h
  rw [givesTag_iff hnames]
  constructor
  · intro hgives
    obtain ⟨rfl, hgives⟩ := hgives
    exact ⟨tags, hstep, hgives⟩
  · intro hgives
    obtain ⟨others, hother, hgives⟩ := hgives
    obtain ⟨rfl, rfl⟩ := hstep.unique hother
    exact ⟨rfl, hgives⟩

end Snapshot

def Value.Lists (document : Value) (name : String) (entries : List Value) : Prop :=
  ∃ fields, document.opened = .map fields ∧ Snapshot.itemsOf fields name = .ok entries

namespace Snapshot

variable {document : Value} {g : Snapshot} {entries : List Value}

theorem ofDocument_eq_ok_iff_lists :
    ofDocument document = .ok g ↔ ∃ entries stepEntries steps,
      document.Lists "nodes" entries ∧ entries.mapM NodeRecord.ofDocument = .ok g.nodes ∧
      document.Lists "steps" stepEntries ∧ stepEntries.mapM stepOf = .ok steps ∧
      addSteps .empty steps = g.steps := by
  rw [ofDocument_eq_ok_iff]
  constructor
  · intro h
    obtain ⟨fields, entries, stepEntries, steps, hopened, hentries, hnodes, hsteps, hrest⟩ := h
    exact ⟨entries, stepEntries, steps, ⟨fields, hopened, hentries⟩, hnodes,
      ⟨fields, hopened, hsteps⟩, hrest⟩
  · intro h
    obtain ⟨entries, stepEntries, steps, ⟨fields, hopened, hentries⟩, hnodes,
      ⟨fields', hopened', hsteps⟩, hrest⟩ := h
    obtain rfl := Value.map.inj (hopened.symm.trans hopened')
    exact ⟨fields, entries, stepEntries, steps, hopened, hentries, hnodes, hsteps, hrest⟩

/-- The tags between two nodes are those of all entries between their ids. -/
theorem mem_tags_of_mapM {steps : List ((String × String) × NameSet)}
    (h : entries.mapM stepOf = .ok steps) {ends : String × String} {tag : String} :
    tag ∈ (addSteps .empty steps).tags ends ↔
      ∃ entry ∈ entries, ∃ tags, IsStep entry ends tags ∧ GivesTag tags tag := by
  have hnone : tag ∉ StepTable.empty.tags ends := NameSet.not_mem_empty
  rw [mem_tags_addSteps, or_iff_right hnone]
  constructor
  · intro hstep
    obtain ⟨step, hmem, hgives⟩ := hstep
    obtain ⟨entry, hentry, hread⟩ := exists_of_mem_mapM h hmem
    exact ⟨entry, hentry, (mem_stepOf_iff hread).mp hgives⟩
  · intro hentry
    obtain ⟨entry, hentry, hgives⟩ := hentry
    obtain ⟨step, hmem, hread⟩ := exists_mem_of_mapM h hentry
    exact ⟨step, hmem, (mem_stepOf_iff hread).mpr hgives⟩

/-- A query follows a step if some entry between the ids has no tags, or has one for every query or
one of this query. -/
theorem isAdditionalFlowStep_iff (c : Configuration) {m n : Node}
    (h : ∀ tag, tag ∈ g.stepTags m.id n.id ↔
      ∃ entry ∈ entries, ∃ tags, IsStep entry (m.id, n.id) tags ∧ GivesTag tags tag) :
    c.isAdditionalFlowStep g m n = true ↔
      ∃ entry ∈ entries, ∃ tags, IsStep entry (m.id, n.id) tags ∧
        (tags = none ∨ ∃ v tag, tags = some v ∧ v.HasName tag ∧
          (tag = anyClass ∨ tag ∈ c.flowStepTags)) := by
  simp only [Configuration.isAdditionalFlowStep, NameSet.meets_eq_true_iff, NameSet.mem_insert, h]
  constructor
  · intro hmeets
    obtain ⟨tag, ⟨entry, hentry, tags, hstep, hgives⟩, hfollowed⟩ := hmeets
    refine ⟨entry, hentry, tags, hstep, ?_⟩
    cases tags with
    | none => exact Or.inl rfl
    | some v => exact Or.inr ⟨v, tag, rfl, hgives, hfollowed⟩
  · intro hentry
    obtain ⟨entry, hentry, tags, hstep, hgives⟩ := hentry
    rcases hgives with rfl | ⟨v, tag, rfl, hname, hfollowed⟩
    · exact ⟨anyClass, ⟨entry, hentry, none, hstep, rfl⟩, Or.inl rfl⟩
    · exact ⟨tag, ⟨entry, hentry, some v, hstep, hname⟩, hfollowed⟩

end Snapshot

/-- Two lists of fields agree, but that some lists of names may be rearranged: their elements may be
in another order and repeated. -/
def SameFields (loose : List String) (fields others : List (Value × Value)) : Prop :=
  ∀ name, Value.field? fields name = Value.field? others name ∨
    name ∈ loose ∧ ∃ v w, Value.field? fields name = some v ∧ Value.field? others name = some w ∧
      v.SameElements w

/-- Two entries have the same fields, but for some rearranged lists of names. -/
def SameEntry (loose : List String) (entry other : Value) : Prop :=
  ∃ fields others, entry.opened = .map fields ∧ other.opened = .map others ∧
    SameFields loose fields others

section SameFields

variable {loose : List String} {fields others : List (Value × Value)}

theorem SameFields.field?_eq (h : SameFields loose fields others) {name : String}
    (hname : name ∉ loose) : Value.field? others name = Value.field? fields name := by
  rcases h name with heq | ⟨hmem, -⟩
  · exact heq.symm
  · exact absurd hmem hname

theorem SameFields.namesOf_eq (h : SameFields loose fields others) (name : String)
    (default : Value) :
    namesOf ((Value.field? others name).getD default) =
      namesOf ((Value.field? fields name).getD default) := by
  rcases h name with heq | ⟨-, v, w, hv, hw, hsame⟩
  · rw [heq]
  · rw [hv, hw]
    exact hsame.namesOf_eq

/-- Fields agree if they do one by one. -/
theorem SameFields.of_forall₂
    (h : List.Forall₂ (fun field other => field.1 = other.1 ∧
      (field.2 = other.2 ∨ (∃ name ∈ loose, field.1 = .str name) ∧ field.2.SameElements other.2))
      fields others) : SameFields loose fields others := by
  intro name
  induction h with
  | nil => exact Or.inl rfl
  | @cons field other rest _ hfield hrest ih =>
      obtain ⟨key, v⟩ := field
      obtain ⟨other, w⟩ := other
      obtain ⟨rfl, hagree⟩ := hfield
      by_cases hkey : key = .str name
      · subst hkey
        rw [Value.field?_cons_self, Value.field?_cons_self]
        rcases hagree with rfl | ⟨⟨found, hfound, heq⟩, hsame⟩
        · exact Or.inl rfl
        · obtain rfl := Value.str.inj heq
          exact Or.inr ⟨hfound, v, w, rfl, rfl, hsame⟩
      · rw [Value.field?_cons_of_ne hkey, Value.field?_cons_of_ne hkey]
        exact ih

theorem NodeRecord.convert_congr (h : SameFields nameFields fields others) (id : Value) :
    convert others id = convert fields id := by
  have hplain (name : String) (hname : name ∉ nameFields) := h.field?_eq hname
  simp only [convert, h.namesOf_eq]
  simp [hplain, nameFields]

end SameFields

section SameEntry

variable {entry other : Value}

/-- An entry is the same as itself. -/
theorem SameEntry.refl {loose : List String} {fields : List (Value × Value)}
    (hopened : entry.opened = .map fields) : SameEntry loose entry entry :=
  ⟨fields, fields, hopened, hopened, fun _ => Or.inl rfl⟩

/-- The same node is read from the same entry. -/
theorem NodeRecord.ofDocument_of_sameEntry {n : Node} (h : SameEntry nameFields entry other)
    (hread : ofDocument entry = .ok n) : ofDocument other = .ok n := by
  obtain ⟨fields, others, hopened, hother, hsame⟩ := h
  obtain ⟨fields', id, hopened', hid, hconvert⟩ := ofDocument_eq_ok_iff.mp hread
  obtain rfl := Value.map.inj (hopened.symm.trans hopened')
  rw [← hsame.field?_eq (by decide)] at hid
  rw [← convert_congr hsame] at hconvert
  exact ofDocument_eq_ok_iff.mpr ⟨others, id, hother, hid, hconvert⟩

/-- The same step is read from the same entry. -/
theorem Snapshot.stepOf_of_sameEntry {step : (String × String) × NameSet}
    (h : SameEntry ["tags"] entry other) (hread : stepOf entry = .ok step) :
    stepOf other = .ok step := by
  obtain ⟨fields, others, hopened, hother, hsame⟩ := h
  obtain ⟨tags, ⟨fields', source, target, hopened', hsource, htarget, hfrom, hto, rfl⟩, hnames⟩ :=
    stepOf_eq_ok_iff.mp hread
  obtain rfl := Value.map.inj (hopened.symm.trans hopened')
  rw [← hsame.field?_eq (by decide)] at hsource htarget
  rw [← hsame.namesOf_eq] at hnames
  exact stepOf_eq_ok_iff.mpr
    ⟨_, ⟨others, source, target, hother, hsource, htarget, hfrom, hto, rfl⟩, hnames⟩

end SameEntry

/-- A document with the same nodes in the same order, and with the same steps in any order and with
any repeats; in all entries, the elements of lists of names may be rearranged as well. -/
structure Value.Rearranged (document other : Value) : Prop where
  nodes : ∃ entries others, document.Lists "nodes" entries ∧ other.Lists "nodes" others ∧
    List.Forall₂ (SameEntry NodeRecord.nameFields) entries others
  steps : ∃ entries others, document.Lists "steps" entries ∧ other.Lists "steps" others ∧
    (∀ entry ∈ entries, ∃ copy ∈ others, SameEntry ["tags"] entry copy) ∧
    ∀ copy ∈ others, ∃ entry ∈ entries, SameEntry ["tags"] entry copy

theorem Value.Lists.unique {document : Value} {name : String} {entries others : List Value}
    (h : document.Lists name entries) (hother : document.Lists name others) :
    entries = others := by
  obtain ⟨fields, hopened, hentries⟩ := h
  obtain ⟨fields', hopened', hothers⟩ := hother
  obtain rfl := Value.map.inj (hopened.symm.trans hopened')
  exact Except.ok.inj (hentries.symm.trans hothers)

namespace Snapshot

variable {document other : Value} {g : Snapshot} {entries others : List Value}

theorem mapM_of_forall₂ {nodes : List Node}
    (hsame : List.Forall₂ (SameEntry NodeRecord.nameFields) entries others)
    (h : entries.mapM NodeRecord.ofDocument = .ok nodes) :
    others.mapM NodeRecord.ofDocument = .ok nodes := by
  induction hsame generalizing nodes with
  | nil => exact h
  | cons hentry hrest ih =>
      rw [List.mapM_cons] at h
      obtain ⟨n, hn, h⟩ := bind_eq_ok_iff.mp h
      obtain ⟨rest, hread, h⟩ := bind_eq_ok_iff.mp h
      rw [List.mapM_cons, NodeRecord.ofDocument_of_sameEntry hentry hn, ok_bind, ih hread]
      exact h

/-- The copies of steps that are read give the same steps, in some order and with some repeats. -/
theorem exists_mapM_stepOf {steps : List ((String × String) × NameSet)}
    (hcopied : ∀ entry ∈ entries, ∃ copy ∈ others, SameEntry ["tags"] entry copy)
    (hcopies : ∀ copy ∈ others, ∃ entry ∈ entries, SameEntry ["tags"] entry copy)
    (h : entries.mapM stepOf = .ok steps) :
    ∃ copies, others.mapM stepOf = .ok copies ∧ ∀ step, step ∈ copies ↔ step ∈ steps := by
  have hread (copy : Value) (hcopy : copy ∈ others) :
      ∃ step ∈ steps, stepOf copy = .ok step := by
    obtain ⟨entry, hentry, hsame⟩ := hcopies copy hcopy
    obtain ⟨step, hstep, hread⟩ := exists_mem_of_mapM h hentry
    exact ⟨step, hstep, stepOf_of_sameEntry hsame hread⟩
  obtain ⟨copies, hall⟩ := exists_mapM_eq_ok fun copy hcopy =>
    (hread copy hcopy).imp fun _ hstep => hstep.2
  refine ⟨copies, hall, fun step => ?_⟩
  constructor
  · intro hstep
    obtain ⟨copy, hcopy, hfound⟩ := exists_of_mem_mapM hall hstep
    obtain ⟨found, hmem, hread⟩ := hread copy hcopy
    exact Except.ok.inj (hread.symm.trans hfound) ▸ hmem
  · intro hstep
    obtain ⟨entry, hentry, hread⟩ := exists_of_mem_mapM h hstep
    obtain ⟨copy, hcopy, hsame⟩ := hcopied entry hentry
    obtain ⟨found, hmem, hfound⟩ := exists_mem_of_mapM hall hcopy
    rw [stepOf_of_sameEntry hsame hread] at hfound
    exact Except.ok.inj hfound ▸ hmem

/-- A rearranged document is read, with the same nodes and with the same tags for each pair. -/
theorem exists_ofDocument_of_rearranged (hg : ofDocument document = .ok g)
    (h : document.Rearranged other) :
    ∃ again, ofDocument other = .ok again ∧ again.nodes = g.nodes ∧
      ∀ source target, again.stepTags source target = g.stepTags source target := by
  obtain ⟨entries, stepEntries, steps, hentries, hnodes, hstepEntries, hsteps, htable⟩ :=
    ofDocument_eq_ok_iff_lists.mp hg
  obtain ⟨entries', others, hentries', hothers, hsame⟩ := h.nodes
  obtain ⟨stepEntries', stepOthers, hstepEntries', hstepOthers, hcopied, hcopies⟩ := h.steps
  obtain rfl := hentries.unique hentries'
  obtain rfl := hstepEntries.unique hstepEntries'
  obtain ⟨copies, hread, hmem⟩ := exists_mapM_stepOf hcopied hcopies hsteps
  refine ⟨⟨g.nodes, addSteps .empty copies, g.distinct⟩, ofDocument_eq_ok_iff_lists.mpr
    ⟨others, stepOthers, copies, hothers, mapM_of_forall₂ hsame hnodes, hstepOthers, hread, rfl⟩,
    rfl, fun source target => ?_⟩
  apply NameSet.ext
  intro tag
  simp only [stepTags, ← htable, mem_tags_addSteps, hmem]

/-- The tags from one node to another are the union of those of all entries between their ids, where
a missing list counts as the tag for every query; so a query follows a step if some entry between
the ids has no tags, or has one for every query or one of this query.  Neither tags nor steps nor
nodes depend on how steps and names are arranged. -/
theorem stepTags_union_of_ofDocument (document : Value) (g : Snapshot)
    (hg : ofDocument document = .ok g) :
    (∃ entries, document.Lists "steps" entries ∧
      (∀ source target tag, tag ∈ g.stepTags source target ↔
        ∃ entry ∈ entries, ∃ tags, IsStep entry (source, target) tags ∧ GivesTag tags tag) ∧
      ∀ (c : Configuration) (m n : Node), c.isAdditionalFlowStep g m n = true ↔
        ∃ entry ∈ entries, ∃ tags, IsStep entry (m.id, n.id) tags ∧
          (tags = none ∨ ∃ v tag, tags = some v ∧ v.HasName tag ∧
            (tag = anyClass ∨ tag ∈ c.flowStepTags))) ∧
    ∀ other : Value, document.Rearranged other →
      ∃ again, ofDocument other = .ok again ∧ again.nodes = g.nodes ∧
        (∀ source target, again.stepTags source target = g.stepTags source target) ∧
        ∀ (c : Configuration) (m n : Node),
          c.isAdditionalFlowStep again m n = c.isAdditionalFlowStep g m n := by
  obtain ⟨-, entries, steps, -, -, hentries, hsteps, htable⟩ := ofDocument_eq_ok_iff_lists.mp hg
  have hunion (source target tag : String) : tag ∈ g.stepTags source target ↔
      ∃ entry ∈ entries, ∃ tags, IsStep entry (source, target) tags ∧ GivesTag tags tag := by
    rw [stepTags, ← htable]
    exact mem_tags_of_mapM hsteps
  refine ⟨⟨entries, hentries, hunion, fun c m n => isAdditionalFlowStep_iff c (hunion m.id n.id)⟩,
    fun other hother => ?_⟩
  obtain ⟨again, hagain, hnodes, htags⟩ := exists_ofDocument_of_rearranged hg hother
  refine ⟨again, hagain, hnodes, htags, fun c m n => ?_⟩
  rw [Configuration.isAdditionalFlowStep, Configuration.isAdditionalFlowStep, htags]

/-- A document with the classes of a node in another order, with a text of tags as a list that has
it twice, and with its steps in another order, one of them twice. -/
def rearrangedPaths : Value :=
  .object
    [("nodes", .list
      [.object [("node_id", .int 7), ("file_path", .str "./src//app.js"), ("line", .str " 12 "),
        ("known_sinks", .str "xss"), ("sanitizes", .texts ["a", "b"]),
        ("concatenation_parts", .str "<b>"), ("callee_name", .list [.null])],
       .object [("node_id", .str "w"), ("file_path", .str ""), ("known_sources", .bool false)]]),
     ("steps", .list
      [.object [("from", .int 7), ("to", .str "w"), ("tags", .texts ["dom", "dom"])],
       .object [("from", .str "w"), ("to", .int 7), ("tags", .null)],
       .object [("from", .str "7"), ("to", .str "w")],
       .object [("from", .str "w"), ("to", .int 7), ("tags", .null)]])]

theorem rearranged_spelledPaths : spelledPaths.Rearranged rearrangedPaths := by
  have hclasses : (Value.texts ["b", "a", "b"]).SameElements (.texts ["a", "b"]) :=
    Value.sameElements_list_iff.mpr (by simp [or_comm])
  have htags : (Value.str "dom").SameElements (.texts ["dom", "dom"]) :=
    ⟨_, _, rfl, rfl, by simp⟩
  constructor
  · refine ⟨_, _, ⟨_, rfl, rfl⟩, ⟨_, rfl, rfl⟩, .cons ?_ (.cons (SameEntry.refl rfl) .nil)⟩
    refine ⟨_, _, rfl, rfl, SameFields.of_forall₂ ?_⟩
    simp [hclasses, NodeRecord.nameFields]
  · have hstep : SameEntry ["tags"]
        (.object [("from", .int 7), ("to", .str "w"), ("tags", .str "dom")])
        (.object [("from", .int 7), ("to", .str "w"), ("tags", .texts ["dom", "dom"])]) :=
      ⟨_, _, rfl, rfl, SameFields.of_forall₂ (by simp [htags])⟩
    refine ⟨_, _, ⟨_, rfl, rfl⟩, ⟨_, rfl, rfl⟩, ?_, ?_⟩
    · intro entry hentry
      rcases hentry with _ | ⟨_, _ | ⟨_, _ | ⟨_, hnone⟩⟩⟩
      · exact ⟨_, .tail _ (.tail _ (.head _)), SameEntry.refl rfl⟩
      · exact ⟨_, .tail _ (.head _), SameEntry.refl rfl⟩
      · exact ⟨_, .head _, hstep⟩
      · exact absurd hnone List.not_mem_nil
    · intro copy hcopy
      rcases hcopy with _ | ⟨_, _ | ⟨_, _ | ⟨_, _ | ⟨_, hnone⟩⟩⟩⟩
      · exact ⟨_, .tail _ (.tail _ (.head _)), hstep⟩
      · exact ⟨_, .tail _ (.head _), SameEntry.refl rfl⟩
      · exact ⟨_, .head _, SameEntry.refl rfl⟩
      · exact ⟨_, .tail _ (.head _), SameEntry.refl rfl⟩
      · exact absurd hnone List.not_mem_nil

/-- From one node to the other there are two steps, one of them without tags and one with a tag that
the query follows. -/
theorem stepTags_union_of_ofDocument_spelledPaths :
    ∃ g again, ofDocument spelledPaths = .ok g ∧ ofDocument rearrangedPaths = .ok again ∧
      spelledPaths.Rearranged rearrangedPaths ∧ again.nodes = g.nodes ∧
      "dom" ∈ again.stepTags "7" "w" ∧ ∀ m n : Node, m.id = "7" → n.id = "w" →
        Configuration.xss.isAdditionalFlowStep again m n = true := by
  obtain ⟨g, hg⟩ : ∃ g, ofDocument spelledPaths = .ok g :=
    isOk_eq_true_iff.mp (by decide +kernel)
  obtain ⟨⟨entries, hentries, hunion, hfollowed⟩, hrearranged⟩ :=
    stepTags_union_of_ofDocument spelledPaths g hg
  obtain ⟨again, hagain, hnodes, htags, hsteps⟩ := hrearranged _ rearranged_spelledPaths
  obtain rfl := hentries.unique ⟨_, rfl, rfl⟩
  have hseven : (Value.int 7).display = .ok "7" := by decide +kernel
  refine ⟨g, again, hg, hagain, rearranged_spelledPaths, hnodes, ?_, fun m n hm hn => ?_⟩
  · rw [htags, hunion]
    exact ⟨_, .tail _ (.tail _ (.head _)), _, ⟨_, _, _, rfl, rfl, rfl, hseven, rfl, rfl⟩, _, rfl, _,
      .head _, rfl⟩
  · rw [hsteps, hfollowed, hm, hn]
    exact ⟨_, .head _, none, ⟨_, _, _, rfl, rfl, rfl, rfl, rfl, rfl⟩, Or.inl rfl⟩

end Snapshot

end TaintTriage
