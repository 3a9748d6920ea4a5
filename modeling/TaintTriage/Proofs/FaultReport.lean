import TaintTriage.Proofs.DocumentFields
import TaintTriage.Proofs.ShownValue
import TaintTriage.Snapshot.Document

/-!
Which malformed documents are reported.  A fault of the document says what is wrong with it; but
some uses of its parts break off with the fault of the use, and these are listed here exactly: a
list that is none, an entry that is no mapping, an infinite line, tags that cannot be gone through,
and integers that are too long to be shown.  The first entry that fails decides.
-/

namespace TaintTriage

section FailsWith

variable {ε δ α β : Type} {bad : ε → Prop}

/-- The outcome is a fault of a certain kind. -/
def FailsWith (bad : ε → Prop) (outcome : Except ε α) : Prop :=
  ∃ e, outcome = .error e ∧ bad e

@[simp] theorem failsWith_ok {a : α} : ¬ FailsWith bad (.ok a) := by
  rintro ⟨e, h, -⟩
  exact nomatch h

@[simp] theorem failsWith_error {e : ε} :
    FailsWith bad (.error e : Except ε α) ↔ bad e := by
  constructor
  · rintro ⟨found, h, hbad⟩
    obtain rfl := Except.error.inj h
    exact hbad
  · intro h
    exact ⟨e, rfl, h⟩

instance [DecidablePred bad] (outcome : Except ε α) : Decidable (FailsWith bad outcome) :=
  match outcome with
  | .ok _ => isFalse failsWith_ok
  | .error e => decidable_of_iff (bad e) failsWith_error.symm

theorem failsWith_bind {first : Except ε α} {next : α → Except ε β} :
    FailsWith bad (first >>= next) ↔
      FailsWith bad first ∨ ∃ a, first = .ok a ∧ FailsWith bad (next a) := by
  cases first with
  | error e => simp
  | ok a => simp

theorem failsWith_map {f : α → β} {outcome : Except ε α} :
    FailsWith bad (outcome.map f) ↔ FailsWith bad outcome := by
  cases outcome <;> simp

theorem exists_map_eq_ok_iff {f : α → β} {outcome : Except ε α} :
    (∃ b, outcome.map f = .ok b) ↔ ∃ a, outcome = .ok a := by
  cases outcome <;> simp

/-- Going through a list fails as its first entry does that fails. -/
theorem failsWith_mapM {f : α → Except ε β} {xs : List α} :
    FailsWith bad (xs.mapM f) ↔ ∃ (i : Nat) (x : α), xs[i]? = some x ∧ FailsWith bad (f x) ∧
      ∀ j < i, ∀ y, xs[j]? = some y → ∃ b, f y = .ok b := by
  constructor
  · rintro ⟨e, hfails, hbad⟩
    obtain ⟨i, x, hx, he, hbefore⟩ := mapM_eq_error_iff.mp hfails
    exact ⟨i, x, hx, ⟨e, he, hbad⟩, hbefore⟩
  · rintro ⟨i, x, hx, ⟨e, he, hbad⟩, hbefore⟩
    exact ⟨e, mapM_eq_error_iff.mpr ⟨i, x, hx, he, hbefore⟩, hbad⟩

/-- A step that never fails in the given way only has to work. -/
theorem failsWith_bind_of_not {first : Except ε α} {next : α → Except ε β} {p : Prop}
    (hfirst : ¬ FailsWith bad first) (hnext : ∀ a, FailsWith bad (next a) ↔ p) :
    FailsWith bad (first >>= next) ↔ (∃ a, first = .ok a) ∧ p := by
  rw [failsWith_bind]
  constructor
  · rintro (h | ⟨a, ha, h⟩)
    · exact absurd h hfirst
    · exact ⟨⟨a, ha⟩, (hnext a).mp h⟩
  · rintro ⟨⟨a, ha⟩, h⟩
    exact Or.inr ⟨a, ha, (hnext a).mpr h⟩

end FailsWith

namespace Value

def HasItems (v : Value) : Prop :=
  ∃ items, v.items = .ok items

/-- Values with items that all have a text. -/
def HasShortItems (v : Value) : Prop :=
  ∃ items, v.items = .ok items ∧ ∀ x ∈ items, x.isShort = true

theorem hasShortItems_str (s : String) : (Value.str s).HasShortItems := by
  refine ⟨_, rfl, fun x hx => ?_⟩
  obtain ⟨c, -, rfl⟩ := List.mem_map.mp hx
  rfl

def IsInfinite (v : Value) : Prop :=
  ∃ x negative, v = .float x ∧ DoubleKind.of x = .infinite negative

end Value

/-- Causes for which the entry of a node is reported. -/
def ValueFault.IsOfField (cause : ValueFault) : Prop :=
  cause.category = .shape ∨ cause.category = .content

theorem Value.not_failsWith_items {v : Value} :
    ¬ FailsWith (fun cause => ¬ cause.IsOfField) v.items := by
  rw [items]
  split <;> simp [ValueFault.IsOfField, ValueFault.category]

/-- Only an infinite number is converted to an integer with a fault that is not reported. -/
theorem Value.failsWith_toInt {v : Value} :
    FailsWith (fun cause => ¬ cause.IsOfField) v.toInt ↔ v.IsInfinite := by
  have hinteger (s : List Char) (shown : String) :
      ¬ FailsWith (fun cause => ¬ cause.IsOfField) (integerOf s shown) := by
    rw [integerOf]
    split <;> simp [ValueFault.IsOfField, ValueFault.category]
  cases v with
  | float x =>
      have hinfinite : (Value.float x).IsInfinite ↔
          ∃ negative, DoubleKind.of x = .infinite negative := by
        simp [IsInfinite]
      rw [hinfinite, toInt]
      cases DoubleKind.of x <;> simp [ValueFault.IsOfField, ValueFault.category]
  | str s => simp [toInt, hinteger, IsInfinite]
  | bytes content => simp [toInt, hinteger, IsInfinite]
  | _ => simp [toInt, ValueFault.IsOfField, ValueFault.category, IsInfinite]

/-- What is taken for a set of names: anything that does not count as true, else what has items. -/
def Value.GivesNames (v : Value) : Prop :=
  v.isTruthy = true → v.HasShortItems

/-- What is taken for a list of parts: nothing, or what has items. -/
def Value.GivesParts (v : Value) : Prop :=
  v ≠ .null → v.HasShortItems

def Value.itemTexts (v : Value) : Except ValueFault (List String) := do
  (← v.items).mapM Value.display

theorem Value.exists_itemTexts_iff {v : Value} :
    (∃ texts, v.itemTexts = .ok texts) ↔ v.HasShortItems := by
  simp only [itemTexts, bind_eq_ok_iff, HasShortItems, ← exists_mapM_display_iff]
  constructor
  · rintro ⟨texts, items, hitems, htexts⟩
    exact ⟨items, hitems, texts, htexts⟩
  · rintro ⟨items, hitems, texts, htexts⟩
    exact ⟨texts, items, hitems, htexts⟩

theorem Value.not_failsWith_display {v : Value} :
    ¬ FailsWith (fun cause => ¬ cause.IsOfField) v.display := by
  rintro ⟨cause, hdisplay, hcause⟩
  obtain rfl := eq_unwrittenInteger_of_display hdisplay
  exact hcause (Or.inr rfl)

theorem Value.not_failsWith_itemTexts {v : Value} :
    ¬ FailsWith (fun cause => ¬ cause.IsOfField) v.itemTexts := by
  rw [itemTexts, failsWith_bind]
  rintro (hitems | ⟨items, -, htexts⟩)
  · exact not_failsWith_items hitems
  · obtain ⟨i, x, -, hx, -⟩ := failsWith_mapM.mp htexts
    exact not_failsWith_display hx

/-- Names and parts are made of the texts of the items of a value, if it is asked for any. -/
theorem namesOf_eq {v : Value} (htruth : v.isTruthy = true) (h : ∀ s, v ≠ .str s) :
    namesOf v = v.itemTexts.map .ofList := by
  have hmap (texts : Except ValueFault (List String)) :
      (do return NameSet.ofList (← texts)) = texts.map NameSet.ofList := by
    cases texts <;> rfl
  cases v with
  | str s => exact absurd rfl (h s)
  | _ =>
      rw [Value.itemTexts, ← hmap, bind_assoc]
      simp only [namesOf, htruth]
      rfl

theorem partsOf_eq {v : Value} (hnull : v ≠ .null) (h : ∀ s, v ≠ .str s) :
    partsOf v = v.itemTexts := by
  cases v with
  | null => exact absurd rfl hnull
  | str s => exact absurd rfl (h s)
  | _ => rfl

theorem exists_namesOf_iff {v : Value} : (∃ s, namesOf v = .ok s) ↔ v.GivesNames := by
  rw [Value.GivesNames]
  cases htruth : v.isTruthy with
  | false => simp [namesOf, htruth]
  | true =>
      by_cases htext : ∃ s, v = .str s
      · obtain ⟨s, rfl⟩ := htext
        simp [namesOf, htruth, Value.hasShortItems_str]
      · simp only [namesOf_eq htruth fun s hs => htext ⟨s, hs⟩, exists_map_eq_ok_iff,
          Value.exists_itemTexts_iff, forall_const]

theorem exists_partsOf_iff {v : Value} : (∃ parts, partsOf v = .ok parts) ↔ v.GivesParts := by
  rw [Value.GivesParts]
  by_cases hnull : v = .null
  · subst hnull
    simp [partsOf]
  · by_cases htext : ∃ s, v = .str s
    · obtain ⟨s, rfl⟩ := htext
      simp [partsOf, Value.hasShortItems_str]
    · simp only [partsOf_eq hnull fun s hs => htext ⟨s, hs⟩, Value.exists_itemTexts_iff, ne_eq,
        hnull, not_false_eq_true, forall_const]

theorem not_failsWith_namesOf {v : Value} :
    ¬ FailsWith (fun cause => ¬ cause.IsOfField) (namesOf v) := by
  cases htruth : v.isTruthy with
  | false => simp [namesOf, htruth]
  | true =>
      by_cases htext : ∃ s, v = .str s
      · obtain ⟨s, rfl⟩ := htext
        simp [namesOf, htruth]
      · rw [namesOf_eq htruth fun s hs => htext ⟨s, hs⟩, failsWith_map]
        exact Value.not_failsWith_itemTexts

theorem not_failsWith_partsOf {v : Value} :
    ¬ FailsWith (fun cause => ¬ cause.IsOfField) (partsOf v) := by
  by_cases hnull : v = .null
  · subst hnull
    simp [partsOf]
  · by_cases htext : ∃ s, v = .str s
    · obtain ⟨s, rfl⟩ := htext
      simp [partsOf]
    · rw [partsOf_eq hnull fun s hs => htext ⟨s, hs⟩]
      exact Value.not_failsWith_itemTexts

/-- Faults that say what is wrong with the document.  The other ones are those of the use of a
value, or of bytes that are no text. -/
def SnapshotFault.isReport : SnapshotFault → Bool
  | .unusable _ | .notText _ => false
  | _ => true

@[simp] theorem SnapshotFault.isReport_unusable (cause : ValueFault) :
    (unusable cause).isReport = false := rfl

/-- What is wrong with a node is reported if the entry or the id can be shown. -/
theorem SnapshotFault.isReport_raised_missingNodeId (entry : Value) :
    (missingNodeId entry).raised.isReport = entry.isShort := by
  rw [raised, message]
  cases hshort : entry.isShort with
  | true =>
      obtain ⟨text, htext⟩ := entry.literal_shownIf.exists_iff.mpr hshort
      rw [htext]
      rfl
  | false =>
      rw [entry.literal_shownIf.eq_error_iff.mpr hshort]
      rfl

theorem SnapshotFault.isReport_raised_invalidField (id : Value) (cause : ValueFault) :
    (invalidField id cause).raised.isReport = id.isShort := by
  rw [raised, message]
  cases hshort : id.isShort with
  | true =>
      obtain ⟨text, htext⟩ := id.literal_shownIf.exists_iff.mpr hshort
      rw [htext]
      rfl
  | false =>
      rw [id.literal_shownIf.eq_error_iff.mpr hshort]
      rfl

/-- Reading breaks off: it ends in a fault that is no report. -/
abbrev BreaksOff {α : Type} (outcome : Except SnapshotFault α) : Prop :=
  FailsWith (fun fault => fault.isReport = false) outcome

theorem breaksOff_unusable_iff {α : Type} {outcome : Except ValueFault α} :
    BreaksOff (outcome.mapError .unusable) ↔ ¬ ∃ a, outcome = .ok a := by
  cases outcome <;> simp [BreaksOff, SnapshotFault.isReport]

/-- Reading is answered: with a result, or with a report. -/
def Answered {α : Type} (outcome : Except SnapshotFault α) : Prop :=
  (∃ a, outcome = .ok a) ∨ ∃ fault, outcome = .error fault ∧ fault.isReport = true

theorem answered_iff_not_breaksOff {α : Type} {outcome : Except SnapshotFault α} :
    Answered outcome ↔ ¬ BreaksOff outcome := by
  cases outcome <;> simp [Answered, BreaksOff]

instance {α : Type} (outcome : Except SnapshotFault α) : Decidable (Answered outcome) :=
  decidable_of_iff _ answered_iff_not_breaksOff.symm

namespace NodeRecord

/-- The collections among the fields of an entry can all be gone through. -/
structure CollectionsGiven (fields : List (Value × Value)) : Prop where
  parts : ((Value.field? fields "concatenation_parts").getD .null).GivesParts
  sources : ((Value.field? fields "known_sources").getD .null).GivesNames
  sinks : ((Value.field? fields "known_sinks").getD .null).GivesNames
  sanitizers : ((Value.field? fields "sanitizes").getD .null).GivesNames

/-- The line is converted last, so that a fault of the id or of a collection is met before it. -/
theorem failsWith_convert {fields : List (Value × Value)} {id : Value} :
    FailsWith (fun cause => ¬ cause.IsOfField) (convert fields id) ↔
      id.isShort = true ∧ CollectionsGiven fields ∧
        ((Value.field? fields "line").getD (.int 0)).IsInfinite := by
  have hline (n : Int → Node) :
      FailsWith (fun cause => ¬ cause.IsOfField)
          (((Value.field? fields "line").getD (.int 0)).toInt >>= fun line => pure (n line)) ↔
        ((Value.field? fields "line").getD (.int 0)).IsInfinite := by
    rw [failsWith_bind, Value.failsWith_toInt]
    simp
  rw [convert]
  simp only []
  rw [failsWith_bind_of_not Value.not_failsWith_display fun shownId =>
    failsWith_bind_of_not not_failsWith_partsOf fun parts =>
    failsWith_bind_of_not not_failsWith_namesOf fun sources =>
    failsWith_bind_of_not not_failsWith_namesOf fun sinks =>
    failsWith_bind_of_not not_failsWith_namesOf fun sanitizers => hline _]
  simp only [exists_partsOf_iff, exists_namesOf_iff, Value.exists_display_iff]
  constructor
  · rintro ⟨hid, hparts, hsources, hsinks, hsanitizers, hinfinite⟩
    exact ⟨hid, ⟨hparts, hsources, hsinks, hsanitizers⟩, hinfinite⟩
  · rintro ⟨hid, ⟨hparts, hsources, hsinks, hsanitizers⟩, hinfinite⟩
    exact ⟨hid, hparts, hsources, hsinks, hsanitizers, hinfinite⟩

/-- The id is converted first. -/
theorem convert_of_long {fields : List (Value × Value)} {id : Value} (h : id.isShort = false) :
    convert fields id = .error .unwrittenInteger := by
  rw [convert, Value.display_eq_error_iff.mpr h]
  rfl

/-- Entries whose reading breaks off: those with an id that cannot be shown or with nothing wrong
before an infinite line, those without an id that cannot be shown as a whole, and those that are no
mapping, unless they can be searched, do not hold the name of the id and can be shown. -/
def EntryBreaks (entry : Value) : Prop :=
  match entry.opened with
  | .map fields =>
      match Value.field? fields "node_id" with
      | some id => id.isShort = false ∨
          CollectionsGiven fields ∧ ((Value.field? fields "line").getD (.int 0)).IsInfinite
      | none => entry.isShort = false
  | _ => (Value.str "node_id").contains entry ≠ .ok false ∨ entry.isShort = false

theorem breaksOff_ofDocument_of_id {entry id : Value} {fields : List (Value × Value)}
    (hopened : entry.opened = .map fields) (hid : Value.field? fields "node_id" = some id) :
    BreaksOff (ofDocument entry) ↔ id.isShort = false ∨ CollectionsGiven fields ∧
      ((Value.field? fields "line").getD (.int 0)).IsInfinite := by
  simp only [ofDocument_of_map hopened, hid]
  cases hshort : id.isShort with
  | false =>
      simp [convert_of_long hshort, BreaksOff, ValueFault.category,
        SnapshotFault.isReport_raised_invalidField, hshort]
  | true =>
      have hconvert := @failsWith_convert fields id
      simp only [hshort, true_and] at hconvert
      simp only [reduceCtorEq, false_or, ← hconvert]
      cases convert fields id with
      | ok n => simp [BreaksOff]
      | error cause =>
          simp only [BreaksOff, failsWith_error, ValueFault.IsOfField]
          cases cause.category <;>
            simp [SnapshotFault.isReport_raised_invalidField, hshort]

theorem breaksOff_ofDocument_iff {entry : Value} :
    BreaksOff (ofDocument entry) ↔ EntryBreaks entry := by
  rw [EntryBreaks]
  split
  · rename_i fields hopened
    cases hid : Value.field? fields "node_id" with
    | none => simp [ofDocument_of_map hopened, hid, BreaksOff,
        SnapshotFault.isReport_raised_missingNodeId]
    | some id => exact breaksOff_ofDocument_of_id hopened hid
  · rename_i hother
    have hnamed (part : Value) : entry.named "node_id" ≠ .ok part := by
      intro h
      obtain ⟨fields, hopened, -⟩ := Value.named_eq_ok_iff.mp h
      exact hother fields hopened
    rw [ofDocument]
    rcases hcontains : (Value.str "node_id").contains entry with cause | _ | _
    · simp [BreaksOff, SnapshotFault.isReport]
    · simp [BreaksOff, SnapshotFault.isReport_raised_missingNodeId]
    · cases hpart : entry.named "node_id" with
      | ok part => exact absurd hpart (hnamed part)
      | error cause =>
          cases hopened : entry.opened with
          | map fields => exact absurd hopened (hother fields)
          | _ => simp [BreaksOff, SnapshotFault.isReport]

end NodeRecord

namespace Snapshot

/-- A field of some fields that is there and can be shown. -/
def EndGiven (fields : List (Value × Value)) (field : String) : Prop :=
  ∃ v, Value.field? fields field = some v ∧ v.isShort = true

/-- A field of some fields that is there and cannot be shown. -/
def EndLong (fields : List (Value × Value)) (field : String) : Prop :=
  ∃ v, Value.field? fields field = some v ∧ v.isShort = false

/-- Both ends of a step can only be asked for in a mapping, and they must have a text. -/
theorem breaksOff_stepEnd_of_map {entry : Value} {fields : List (Value × Value)} {field : String}
    (hopened : entry.opened = .map fields) :
    BreaksOff (stepEnd entry field) ↔ EndLong fields field := by
  rw [stepEnd, Value.named, hopened, EndLong]
  cases hfield : Value.field? fields field with
  | none => simp [hfield, BreaksOff, SnapshotFault.isReport]
  | some v =>
      simp only [hfield, breaksOff_unusable_iff, Value.exists_display_iff, Bool.not_eq_true,
        Option.some.injEq, exists_eq_left']

theorem breaksOff_stepEnd_of_other {entry : Value} {field : String}
    (hother : ∀ fields, entry.opened ≠ .map fields) : BreaksOff (stepEnd entry field) := by
  rw [stepEnd, Value.named]
  cases hopened : entry.opened with
  | map fields => exact absurd hopened (hother fields)
  | _ => simp [BreaksOff, SnapshotFault.isReport]

theorem exists_stepEnd_iff {entry : Value} {fields : List (Value × Value)} {field : String}
    (hopened : entry.opened = .map fields) :
    (∃ text, stepEnd entry field = .ok text) ↔ EndGiven fields field := by
  rw [stepEnd, Value.named, hopened, EndGiven]
  cases hfield : Value.field? fields field with
  | none => simp [hfield]
  | some v => simp [hfield, Value.exists_display_iff]

/-- Steps whose reading breaks off: those that are no mapping, and those in which the first end, the
second end or the tags cannot be used when they are asked for in this order. -/
def StepBreaks (entry : Value) : Prop :=
  match entry.opened with
  | .map fields => EndLong fields "from" ∨ EndGiven fields "from" ∧
      (EndLong fields "to" ∨ EndGiven fields "to" ∧
        ¬ ((Value.field? fields "tags").getD (.list [.str anyClass])).GivesNames)
  | _ => True

theorem breaksOff_stepOf_iff {entry : Value} : BreaksOff (stepOf entry) ↔ StepBreaks entry := by
  rw [StepBreaks]
  split
  · rename_i fields hopened
    have htags (ends : String × String) :
        FailsWith (fun fault => fault.isReport = false)
            (stepTagsOf entry >>= fun tags => pure (ends, tags)) ↔
          ¬ ((Value.field? fields "tags").getD (.list [.str anyClass])).GivesNames := by
      rw [failsWith_bind, stepTagsOf, hopened]
      simp only [breaksOff_unusable_iff, exists_namesOf_iff]
      simp
    simp only [stepOf, BreaksOff, @failsWith_bind _ _ _ _ (stepEnd entry _), htags,
      exists_and_right]
    rw [← breaksOff_stepEnd_of_map hopened, ← breaksOff_stepEnd_of_map hopened,
      ← exists_stepEnd_iff hopened, ← exists_stepEnd_iff hopened]
  · rename_i hother
    rw [stepOf, BreaksOff, failsWith_bind, iff_true]
    exact Or.inl (breaksOff_stepEnd_of_other hother)

theorem not_breaksOff_ofNodes {nodes : List Node} {steps : StepTable} :
    ¬ BreaksOff (ofNodes nodes steps) := by
  rw [ofNodes]
  split <;> simp [BreaksOff, SnapshotFault.isReport]

theorem breaksOff_itemsOf_iff {fields : List (Value × Value)} {name : String} :
    BreaksOff (itemsOf fields name) ↔
      ¬ ((Value.field? fields name).getD (.list [])).HasItems :=
  breaksOff_unusable_iff

def NodesRead (fields : List (Value × Value)) : Prop :=
  ∃ entries nodes, itemsOf fields "nodes" = .ok entries ∧
    entries.mapM NodeRecord.ofDocument = .ok nodes

/-- The first entry of a list that cannot be read has a property. -/
def FirstUnread {α : Type} (read : Value → Except SnapshotFault α) (property : Value → Prop)
    (entries : List Value) : Prop :=
  ∃ (i : Nat) (entry : Value), entries[i]? = some entry ∧ property entry ∧
    ∀ j < i, ∀ earlier, entries[j]? = some earlier → ∃ a, read earlier = .ok a

/-- Documents whose reading breaks off, by the place where it does. -/
inductive DocumentBreaks (document : Value) : Prop where
  | nodes {fields : List (Value × Value)} (opened : document.opened = .map fields)
      (unlisted : ¬ ((Value.field? fields "nodes").getD (.list [])).HasItems)
  | node {fields : List (Value × Value)} {entries : List Value}
      (opened : document.opened = .map fields) (listed : itemsOf fields "nodes" = .ok entries)
      (first : FirstUnread NodeRecord.ofDocument NodeRecord.EntryBreaks entries)
  | steps {fields : List (Value × Value)} (opened : document.opened = .map fields)
      (before : NodesRead fields)
      (unlisted : ¬ ((Value.field? fields "steps").getD (.list [])).HasItems)
  | step {fields : List (Value × Value)} {entries : List Value}
      (opened : document.opened = .map fields) (before : NodesRead fields)
      (listed : itemsOf fields "steps" = .ok entries)
      (first : FirstUnread stepOf StepBreaks entries)

theorem breaksOff_mapM_iff {α : Type} {read : Value → Except SnapshotFault α}
    {breaks : Value → Prop} (hread : ∀ entry, BreaksOff (read entry) ↔ breaks entry)
    {entries : List Value} :
    BreaksOff (entries.mapM read) ↔ FirstUnread read breaks entries := by
  rw [BreaksOff, failsWith_mapM, FirstUnread]
  simp only [hread]

/-- Repeated ids are looked for last, and they are reported. -/
theorem breaksOff_ofDocument_iff {document : Value} :
    BreaksOff (ofDocument document) ↔ DocumentBreaks document := by
  constructor
  · intro h
    cases hopened : document.opened with
    | map fields =>
        rw [ofDocument_of_map hopened] at h
        rcases failsWith_bind.mp h with hnodes | ⟨entries, hentries, h⟩
        · exact .nodes hopened (breaksOff_itemsOf_iff.mp hnodes)
        rcases failsWith_bind.mp h with hnode | ⟨nodes, hnodes, h⟩
        · exact .node hopened hentries
            ((breaksOff_mapM_iff fun _ => NodeRecord.breaksOff_ofDocument_iff).mp hnode)
        have hbefore : NodesRead fields := ⟨entries, nodes, hentries, hnodes⟩
        rcases failsWith_bind.mp h with hsteps | ⟨stepEntries, hstepEntries, h⟩
        · exact .steps hopened hbefore (breaksOff_itemsOf_iff.mp hsteps)
        rcases failsWith_bind.mp h with hstep | ⟨steps, -, h⟩
        · exact .step hopened hbefore hstepEntries
            ((breaksOff_mapM_iff fun _ => breaksOff_stepOf_iff).mp hstep)
        exact absurd h not_breaksOff_ofNodes
    | _ =>
        rw [ofDocument, hopened] at h
        simp [BreaksOff, SnapshotFault.isReport] at h
  · intro h
    cases h with
    | nodes hopened hunlisted =>
        rw [ofDocument_of_map hopened]
        exact failsWith_bind.mpr (Or.inl (breaksOff_itemsOf_iff.mpr hunlisted))
    | node hopened hlisted hfirst =>
        rw [ofDocument_of_map hopened, hlisted, ok_bind]
        exact failsWith_bind.mpr
          (Or.inl ((breaksOff_mapM_iff fun _ => NodeRecord.breaksOff_ofDocument_iff).mpr hfirst))
    | steps hopened hbefore hunlisted =>
        obtain ⟨entries, nodes, hentries, hnodes⟩ := hbefore
        rw [ofDocument_of_map hopened, hentries, ok_bind, hnodes, ok_bind]
        exact failsWith_bind.mpr (Or.inl (breaksOff_itemsOf_iff.mpr hunlisted))
    | step hopened hbefore hlisted hfirst =>
        obtain ⟨entries, nodes, hentries, hnodes⟩ := hbefore
        rw [ofDocument_of_map hopened, hentries, ok_bind, hnodes, ok_bind, hlisted, ok_bind]
        exact failsWith_bind.mpr
          (Or.inl ((breaksOff_mapM_iff fun _ => breaksOff_stepOf_iff).mpr hfirst))

/-- Files whose reading breaks off: bytes that are no text, unless the text in front of them is
malformed, a scalar that does not fit its tag, be it in front of a character that may not stand in a
document, and a document whose reading breaks off. -/
inductive FileBreaks (bytes : List Nat) (ahead : Option Yaml.Fault) : Prop where
  | noText (fault : Text.Utf8Fault) (h : Text.decodeUtf8 bytes = .error fault)
      (quiet : ahead ≠ some .malformed)
  | barred {text : String} (decoded : Text.decodeUtf8 bytes = .ok text)
      (barred : text.toList.all Yaml.isAllowed = false) (cause : ValueFault)
      (h : ahead = some (.unfit cause))
  | unfit {text : String} (decoded : Text.decodeUtf8 bytes = .ok text) (cause : ValueFault)
      (h : Yaml.read text = .error (.unfit cause))
  | document {text : String} {root : Value} (decoded : Text.decodeUtf8 bytes = .ok text)
      (held : Yaml.read text = .ok root) (given : root.isTruthy = true)
      (breaks : DocumentBreaks root)

def documentOf (root : Value) : Value :=
  if root.isTruthy then root else .map []

/-- Whatever else is made of a text, its characters may all stand in a document. -/
theorem allowed_of_read {text : String} {found : Except Yaml.Fault Value}
    (hread : Yaml.read text = found) (h : found ≠ .error .malformed) :
    text.toList.all Yaml.isAllowed = true := by
  cases hallowed : text.toList.all Yaml.isAllowed with
  | true => rfl
  | false =>
      refine absurd ?_ h
      rw [← hread, Yaml.read, Yaml.readCharacters, hallowed]
      rfl

theorem ofFile_some (path : String) (bytes : List Nat) (ahead : Option Yaml.Fault) :
    ofFile path (some bytes) ahead =
      match Text.decodeUtf8 bytes with
      | .error fault => .error ((ahead.map (faultOfText path)).getD (.notText fault.message))
      | .ok text =>
          if text.toList.all Yaml.isAllowed then
            match Yaml.read text with
            | .error fault => .error (faultOfText path fault)
            | .ok root => ofDocument (documentOf root)
          else .error ((ahead.map (faultOfText path)).getD (.malformed path)) := by
  simp only [ofFile, Yaml.readOrEmpty]
  cases Text.decodeUtf8 bytes with
  | error fault => rfl
  | ok text =>
      simp only [mapError_ok, ok_bind]
      cases text.toList.all Yaml.isAllowed with
      | false => rfl
      | true => cases Yaml.read text <;> rfl

/-- A document without fields describes the empty graph. -/
theorem not_documentBreaks_empty : ¬ DocumentBreaks (.map []) := by
  rw [← breaksOff_ofDocument_iff]
  exact failsWith_ok

theorem breaksOff_ofFile_iff (path : String) (bytes : List Nat) (ahead : Option Yaml.Fault) :
    BreaksOff (ofFile path (some bytes) ahead) ↔ FileBreaks bytes ahead := by
  rw [ofFile_some]
  constructor
  · intro h
    split at h
    · rename_i fault hbytes
      refine .noText fault hbytes ?_
      rintro rfl
      simp [BreaksOff, faultOfText, SnapshotFault.isReport] at h
    · rename_i text hbytes
      split at h
      · split at h
        · rename_i fault hread
          cases fault with
          | malformed => simp [BreaksOff, faultOfText, SnapshotFault.isReport] at h
          | unfit cause => exact .unfit hbytes cause hread
        · rename_i root hread
          rw [breaksOff_ofDocument_iff, documentOf] at h
          split at h
          · rename_i hgiven
            exact .document hbytes hread hgiven h
          · exact absurd h not_documentBreaks_empty
      · rename_i hbarred
        rw [Bool.not_eq_true] at hbarred
        rcases ahead with _ | _ | cause
        · simp [BreaksOff, SnapshotFault.isReport] at h
        · simp [BreaksOff, faultOfText, SnapshotFault.isReport] at h
        · exact .barred hbytes hbarred cause rfl
  · intro h
    cases h with
    | noText fault hbytes hquiet =>
        rcases ahead with _ | _ | cause
        · simp [hbytes, BreaksOff, SnapshotFault.isReport]
        · exact absurd rfl hquiet
        · simp [hbytes, BreaksOff, faultOfText, SnapshotFault.isReport]
    | barred hbytes hbarred cause hahead =>
        simp [hbytes, hbarred, hahead, BreaksOff, faultOfText, SnapshotFault.isReport]
    | unfit hbytes cause hread =>
        have hallowed := allowed_of_read hread (by simp)
        simp [hbytes, hallowed, hread, BreaksOff, faultOfText, SnapshotFault.isReport]
    | document hbytes hread hgiven hbreaks =>
        have hallowed := allowed_of_read hread (by simp)
        simp only [hbytes, hallowed, hread, breaksOff_ofDocument_iff, documentOf, hgiven,
          ↓reduceIte]
        exact hbreaks

/-- A snapshot is read from a mapping, or from a root that does not count as true. -/
theorem exists_ofFile_iff (path : String) (bytes : List Nat) (ahead : Option Yaml.Fault) :
    (∃ g, ofFile path (some bytes) ahead = .ok g) ↔
      ∃ text root, Text.decodeUtf8 bytes = .ok text ∧ Yaml.read text = .ok root ∧
        (root.isTruthy = false ∨
          ∃ fields g, root.opened = .map fields ∧ ofDocument root = .ok g) := by
  rw [ofFile_some]
  constructor
  · rintro ⟨g, h⟩
    split at h
    · exact nomatch h
    · rename_i text hbytes
      split at h
      · split at h
        · exact nomatch h
        · rename_i root hread
          refine ⟨text, root, hbytes, hread, ?_⟩
          cases hgiven : root.isTruthy with
          | false => exact Or.inl rfl
          | true =>
              rw [documentOf, if_pos hgiven] at h
              obtain ⟨fields, -, -, -, hopened, -⟩ := ofDocument_eq_ok_iff.mp h
              exact Or.inr ⟨fields, g, hopened, h⟩
      · exact nomatch h
  · rintro ⟨text, root, hbytes, hread, hroot⟩
    have hallowed := allowed_of_read hread (by simp)
    simp only [hbytes, hread, documentOf, hallowed, ↓reduceIte]
    rcases hroot with hgiven | ⟨fields, g, hopened, hg⟩
    · exact ⟨_, by rw [hgiven]; rfl⟩
    · by_cases hgiven : root.isTruthy = true
      · exact ⟨g, by rw [if_pos hgiven]; exact hg⟩
      · exact ⟨_, by rw [if_neg hgiven]; rfl⟩

/-- An empty list in place of the mapping is read as the empty graph. -/
example : (ofFile "graph.yaml" (some ("[]".toList.map Char.toNat)) none).isOk = true := by
  decide +kernel

end Snapshot

end TaintTriage
