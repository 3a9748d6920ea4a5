import TaintTriage.Node
import TaintTriage.Proofs.Outcome
import TaintTriage.Value.Literal

/-!
Which values have a text.  What keeps a value from having one is an integer of too many digits, in
it or as the value itself; what stands inside a collection that is shown by dots does not count.
-/

namespace TaintTriage

namespace Value

variable {v : Value} {text : String} {cause : ValueFault}

mutual

/-- All integers of a value can be written.  A collection inside itself, whose label is among the
outer ones, is not looked into again. -/
def isShortIn (outer : List Nat) : Value → Bool
  | .int n => isShortInteger n
  | .list items => areShortIn outer items
  | .set members => areShortIn outer members
  | .pair a b => isShortIn outer a && isShortIn outer b
  | .map entries => entriesAreShortIn outer entries
  | .loop label body => outer.contains label || isShortIn (label :: outer) body
  | _ => true

def areShortIn (outer : List Nat) : List Value → Bool
  | [] => true
  | x :: xs => isShortIn outer x && areShortIn outer xs

def entriesAreShortIn (outer : List Nat) : List (Value × Value) → Bool
  | [] => true
  | (k, v) :: es => isShortIn outer k && isShortIn outer v && entriesAreShortIn outer es

end

/-- No integer in a value is too long to be written. -/
def isShort (v : Value) : Bool := isShortIn [] v

/-- A result that is there exactly under a condition, and is else the fault of an integer that is
too long. -/
def ShownIf {α : Type} (isShown : Bool) (result : Except ValueFault α) : Prop :=
  if isShown then ∃ shown, result = .ok shown else result = .error .unwrittenInteger

theorem ShownIf.bind {α β : Type} {p q : Bool} {first : Except ValueFault α}
    {next : α → Except ValueFault β} (h : ShownIf p first) (hnext : ∀ a, ShownIf q (next a)) :
    ShownIf (p && q) (first >>= next) := by
  cases p with
  | false => simpa [ShownIf] using congrArg (· >>= next) h
  | true =>
      obtain ⟨a, ha⟩ := h
      simpa [ha] using hnext a

theorem shownIf_ok {α : Type} (shown : α) : ShownIf true (.ok shown) := ⟨shown, rfl⟩

theorem ShownIf.map {α β : Type} {p : Bool} {first : Except ValueFault α} (h : ShownIf p first)
    (f : α → β) : ShownIf p (first >>= fun a => pure (f a)) := by
  simpa using h.bind (q := true) fun a => shownIf_ok (f a)

theorem ShownIf.mapM {α β : Type} {p : α → Bool} {f : α → Except ValueFault β}
    (h : ∀ x, ShownIf (p x) (f x)) (xs : List α) : ShownIf (xs.all p) (xs.mapM f) := by
  induction xs with
  | nil => exact shownIf_ok []
  | cons x rest ih =>
      rw [List.mapM_cons, List.all_cons]
      exact (h x).bind fun _ => ih.map _

theorem ShownIf.eq_error_iff {α : Type} {p : Bool} {result : Except ValueFault α}
    (h : ShownIf p result) : result = .error .unwrittenInteger ↔ p = false := by
  cases p with
  | false => simpa [ShownIf] using h
  | true =>
      obtain ⟨shown, rfl⟩ := h
      simp

theorem ShownIf.exists_iff {α : Type} {p : Bool} {result : Except ValueFault α}
    (h : ShownIf p result) : (∃ shown, result = .ok shown) ↔ p = true := by
  cases p with
  | false =>
      obtain rfl : result = .error .unwrittenInteger := h
      simp
  | true => simpa [ShownIf] using h

theorem integerText_shownIf (n : Int) :
    ShownIf (isShortInteger n) (integerText n) := by
  cases h : isShortInteger n <;> simp [ShownIf, integerText, h]

/-- The least positive integer that cannot be written. -/
@[irreducible] def firstLong : Int := Nat.pow 10 maxIntegerDigits

theorem isShortInteger_firstLong : isShortInteger firstLong = false := by decide +kernel

theorem firstLong_pos : 0 < firstLong := by decide +kernel

example : isShortInteger (firstLong - 1) = true := by decide +kernel

theorem isShortInteger_zero : isShortInteger 0 = true := by decide +kernel

theorem contains_map_fst (outer : List (Nat × Shape)) (label : Nat) :
    (outer.map (·.1)).contains label = (outer.lookup label).isSome := by
  induction outer with
  | nil => rfl
  | cons entry rest ih =>
      obtain ⟨l, shape⟩ := entry
      by_cases h : label = l
      · simp [h]
      · have hne : (label == l) = false := by simpa using h
        simp only [List.map_cons, List.contains_cons, hne, Bool.false_or, List.lookup_cons, ih]

mutual

theorem literalIn_shownIf (outer : List (Nat × Shape)) :
    ∀ v, ShownIf (isShortIn (outer.map (·.1)) v) (literalIn outer v)
  | .int n => integerText_shownIf n
  | .list items => (itemLiterals_shownIf outer items).map _
  | .set members => (itemLiterals_shownIf outer members).map _
  | .pair a b => (literalIn_shownIf outer a).bind fun _ => (literalIn_shownIf outer b).map _
  | .map entries => (entryLiterals_shownIf outer entries).map _
  | .loop label body => by
      rw [isShortIn, literalIn, contains_map_fst]
      cases h : outer.lookup label with
      | some shape => exact shownIf_ok _
      | none => exact literalIn_shownIf ((label, body.shape) :: outer) body
  | .null | .bool _ | .float _ | .str _ | .bytes _ | .day _ | .moment _ | .again _ => shownIf_ok _

theorem itemLiterals_shownIf (outer : List (Nat × Shape)) :
    ∀ xs, ShownIf (areShortIn (outer.map (·.1)) xs) (itemLiterals outer xs)
  | [] => shownIf_ok _
  | x :: xs => (literalIn_shownIf outer x).bind fun _ => (itemLiterals_shownIf outer xs).map _

theorem entryLiterals_shownIf (outer : List (Nat × Shape)) :
    ∀ es, ShownIf (entriesAreShortIn (outer.map (·.1)) es) (entryLiterals outer es)
  | [] => shownIf_ok _
  | (k, v) :: es => by
      rw [entriesAreShortIn, Bool.and_assoc]
      exact (literalIn_shownIf outer k).bind fun _ => (literalIn_shownIf outer v).bind fun _ =>
        (entryLiterals_shownIf outer es).map _

end

theorem literal_shownIf (v : Value) : ShownIf v.isShort v.literal :=
  literalIn_shownIf [] v

theorem display_shownIf (v : Value) : ShownIf v.isShort v.display := by
  cases v with
  | str _ | day _ | moment _ => exact shownIf_ok _
  | _ => exact literal_shownIf _

theorem exists_display_iff : (∃ text, v.display = .ok text) ↔ v.isShort = true :=
  (display_shownIf v).exists_iff

theorem display_eq_error_iff : v.display = .error .unwrittenInteger ↔ v.isShort = false :=
  (display_shownIf v).eq_error_iff

theorem eq_unwrittenInteger_of_display (h : v.display = .error cause) :
    cause = .unwrittenInteger := by
  cases hshort : v.isShort with
  | true =>
      obtain ⟨text, htext⟩ := exists_display_iff.mpr hshort
      exact nomatch h.symm.trans htext
  | false => exact Except.error.inj (h.symm.trans (display_eq_error_iff.mpr hshort))

@[simp] theorem isShort_str (s : String) : (Value.str s).isShort = true := rfl

@[simp] theorem display_str (s : String) : (Value.str s).display = .ok s := rfl

theorem isShortIn_of_isTruthy_eq_false {outer : List Nat} :
    ∀ {v : Value}, v.isTruthy = false → isShortIn outer v = true
  | .null, _ | .bool _, _ | .float _, _ | .str _, _ | .bytes _, _ | .day _, _ | .moment _, _
  | .again _, _ => rfl
  | .int n, h => by
      obtain rfl : n = 0 := by simpa [isTruthy] using h
      exact isShortInteger_zero
  | .list items, h | .set items, h => by
      obtain rfl : items = [] := by simpa [isTruthy] using h
      rfl
  | .map entries, h => by
      obtain rfl : entries = [] := by simpa [isTruthy] using h
      rfl
  | .loop label body, h => by
      rw [isShortIn, isShortIn_of_isTruthy_eq_false (v := body) h, Bool.or_true]

/-- A value that does not count as true has a text. -/
theorem isShort_of_isTruthy_eq_false (h : v.isTruthy = false) : v.isShort = true :=
  isShortIn_of_isTruthy_eq_false h

/-- Some values have texts exactly if each of them has one. -/
theorem exists_mapM_display_iff {values : List Value} :
    (∃ texts, values.mapM display = .ok texts) ↔ ∀ v ∈ values, v.isShort = true := by
  simp only [exists_mapM_eq_ok_iff, exists_display_iff]

end Value

namespace FileRef

/-- A reference with a text, or without need of one. -/
def isShort : FileRef → Bool
  | .path _ => true
  | .other v => v.isShort

theorem text?_shownIf (r : FileRef) : Value.ShownIf r.isShort r.text? := by
  cases r with
  | path p => exact Value.shownIf_ok _
  | other v =>
      rw [text?, isShort]
      cases htruthy : v.isTruthy with
      | true =>
          simp only [↓reduceIte, map_eq_pure_bind]
          exact (Value.display_shownIf v).map some
      | false =>
          rw [Value.isShort_of_isTruthy_eq_false htruthy]
          exact Value.shownIf_ok none

end FileRef

end TaintTriage
