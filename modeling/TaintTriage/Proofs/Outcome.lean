import TaintTriage.Log
import TaintTriage.Rule

/-!
Outcomes of computations that may fail, one step at a time: what a sequence does after a step that
worked, after a step that failed, and what is known of its steps when the whole of it worked.  The
outcome of a computation that logs is that of its steps, whatever they log.
-/

namespace TaintTriage

variable {ε α β : Type}

@[simp] theorem ok_bind (a : α) (next : α → Except ε β) :
    (Except.ok a >>= next) = next a := rfl

@[simp] theorem error_bind (e : ε) (next : α → Except ε β) :
    (Except.error e >>= next) = .error e := rfl

@[simp] theorem pure_eq_ok (a : α) : (pure a : Except ε α) = .ok a := rfl

@[simp] theorem orFail_ok (a : α) : orFail (.ok a) = .ok a := rfl

theorem bind_eq_ok_iff {first : Except ε α} {next : α → Except ε β} {b : β} :
    (first >>= next) = .ok b ↔ ∃ a, first = .ok a ∧ next a = .ok b := by
  cases first with
  | error e => simp
  | ok a => simp

theorem bind_eq_error_iff {first : Except ε α} {next : α → Except ε β} {e : ε} :
    (first >>= next) = .error e ↔ first = .error e ∨ ∃ a, first = .ok a ∧ next a = .error e := by
  cases first with
  | error cause => simp
  | ok a => simp

@[simp] theorem map_ok (f : α → β) (a : α) :
    (Except.ok a : Except ε α).map f = .ok (f a) := rfl

@[simp] theorem map_error (f : α → β) (e : ε) :
    (Except.error e : Except ε α).map f = .error e := rfl

theorem map_of_bind {γ : Type} (first : Except ε α) (next : α → Except ε β) (f : β → γ) :
    (first >>= next).map f = first >>= fun a => (next a).map f := by
  cases first <;> rfl

theorem bind_of_map {γ : Type} (first : Except ε α) (f : α → β) (next : β → Except ε γ) :
    (first.map f >>= next) = first >>= fun a => next (f a) := by
  cases first <;> rfl

theorem map_eq_ok_iff {f : α → β} {outcome : Except ε α} {b : β} :
    outcome.map f = .ok b ↔ ∃ a, outcome = .ok a ∧ f a = b := by
  cases outcome <;> simp

theorem map_eq_error_iff {f : α → β} {outcome : Except ε α} {e : ε} :
    outcome.map f = .error e ↔ outcome = .error e := by
  cases outcome <;> simp

@[simp] theorem mapError_ok {δ : Type} (f : ε → δ) (a : α) :
    (Except.ok a : Except ε α).mapError f = .ok a := rfl

@[simp] theorem mapError_error {δ : Type} (f : ε → δ) (e : ε) :
    (Except.error e : Except ε α).mapError f = .error (f e) := rfl

@[simp] theorem mapError_eq_ok_iff {δ : Type} {f : ε → δ} {outcome : Except ε α} {a : α} :
    outcome.mapError f = .ok a ↔ outcome = .ok a := by
  cases outcome <;> simp

/-- What follows both branches of a test follows the result of the branch that was taken. -/
theorem ite_bind_eq_ok_iff {test : Prop} [Decidable test] {yes no : Except ε α}
    {next : α → Except ε β} {b : β} :
    (if test then yes >>= next else no >>= next) = .ok b ↔
      ∃ a, (if test then yes else no) = .ok a ∧ next a = .ok b := by
  split <;> exact bind_eq_ok_iff

theorem isOk_eq_true_iff {outcome : Except ε α} :
    outcome.isOk = true ↔ ∃ a, outcome = .ok a := by
  cases outcome with
  | error e => simp [Except.isOk, Except.toBool]
  | ok a => simp [Except.isOk, Except.toBool]

instance decidableExistsOk {p : α → Prop} [DecidablePred p] (outcome : Except ε α) :
    Decidable (∃ a, outcome = .ok a ∧ p a) :=
  match outcome with
  | .ok a => decidable_of_iff (p a)
      ⟨fun h => ⟨a, rfl, h⟩, fun ⟨_, hb, h⟩ => Except.ok.inj hb ▸ h⟩
  | .error _ => isFalse fun ⟨_, h, _⟩ => nomatch h

instance decidableEqError [DecidableEq ε] (outcome : Except ε α) (e : ε) :
    Decidable (outcome = .error e) :=
  match outcome with
  | .ok _ => isFalse fun h => nomatch h
  | .error cause => decidable_of_iff (cause = e) (by rw [Except.error.injEq])

theorem exists_mapM_eq_ok {f : α → Except ε β} {xs : List α}
    (h : ∀ x ∈ xs, ∃ y, f x = .ok y) : ∃ ys, xs.mapM f = .ok ys := by
  induction xs with
  | nil => exact ⟨[], rfl⟩
  | cons x rest ih =>
      obtain ⟨y, hy⟩ := h x List.mem_cons_self
      obtain ⟨ys, hys⟩ := ih fun z hz => h z (List.mem_cons_of_mem x hz)
      exact ⟨y :: ys, by simp [List.mapM_cons, hy, hys]⟩

theorem mapM_congr {f g : α → Except ε β} {xs : List α} (h : ∀ x ∈ xs, f x = g x) :
    xs.mapM f = xs.mapM g := by
  induction xs with
  | nil => rfl
  | cons x rest ih =>
      rw [List.mapM_cons, List.mapM_cons, h x List.mem_cons_self,
        ih fun y hy => h y (List.mem_cons_of_mem x hy)]

/-- A list is gone through with success exactly if each step has the result at its place. -/
theorem mapM_eq_ok_iff {f : α → Except ε β} {xs : List α} {ys : List β} :
    xs.mapM f = .ok ys ↔ xs.map f = ys.map .ok := by
  induction xs generalizing ys with
  | nil => cases ys <;> simp
  | cons x rest ih =>
      rw [List.mapM_cons, bind_eq_ok_iff]
      constructor
      · rintro ⟨y, hy, hrest⟩
        obtain ⟨others, hothers, hcons⟩ := bind_eq_ok_iff.mp hrest
        obtain rfl := Except.ok.inj hcons
        rw [List.map_cons, List.map_cons, hy, ih.mp hothers]
      · intro h
        cases ys with
        | nil => simp at h
        | cons y others =>
            rw [List.map_cons, List.map_cons, List.cons.injEq] at h
            refine ⟨y, h.1, ?_⟩
            rw [ih.mpr h.2]
            rfl

theorem exists_of_mem_mapM {f : α → Except ε β} {xs : List α} {ys : List β}
    (h : xs.mapM f = .ok ys) {y : β} (hy : y ∈ ys) : ∃ x ∈ xs, f x = .ok y := by
  have hmem : Except.ok y ∈ xs.map f := mapM_eq_ok_iff.mp h ▸ List.mem_map_of_mem hy
  obtain ⟨x, hx, hfx⟩ := List.mem_map.mp hmem
  exact ⟨x, hx, hfx⟩

theorem exists_mem_of_mapM {f : α → Except ε β} {xs : List α} {ys : List β}
    (h : xs.mapM f = .ok ys) {x : α} (hx : x ∈ xs) : ∃ y ∈ ys, f x = .ok y := by
  have hmem : f x ∈ ys.map Except.ok := mapM_eq_ok_iff.mp h ▸ List.mem_map_of_mem hx
  obtain ⟨y, hy, hfx⟩ := List.mem_map.mp hmem
  exact ⟨y, hy, hfx.symm⟩

theorem mem_iff_of_mapM {f : α → Except ε β} {xs : List α} {ys : List β} (h : xs.mapM f = .ok ys)
    {y : β} : y ∈ ys ↔ ∃ x ∈ xs, f x = .ok y := by
  constructor
  · exact exists_of_mem_mapM h
  · rintro ⟨x, hx, hy⟩
    obtain ⟨found, hmem, hfound⟩ := exists_mem_of_mapM h hx
    exact Except.ok.inj (hfound.symm.trans hy) ▸ hmem

theorem exists_mapM_eq_ok_iff {f : α → Except ε β} {xs : List α} :
    (∃ ys, xs.mapM f = .ok ys) ↔ ∀ x ∈ xs, ∃ y, f x = .ok y := by
  constructor
  · rintro ⟨ys, h⟩ x hx
    obtain ⟨y, -, hy⟩ := exists_mem_of_mapM h hx
    exact ⟨y, hy⟩
  · exact exists_mapM_eq_ok

/-- What each step keeps of an entry is kept of the whole list, in order. -/
theorem map_eq_map_of_mapM {γ : Type} {f : α → Except ε β} {xs : List α} {ys : List β}
    {read : β → γ} {written : α → γ} (h : xs.mapM f = .ok ys)
    (hstep : ∀ x y, f x = .ok y → read y = written x) : ys.map read = xs.map written := by
  induction xs generalizing ys with
  | nil =>
      obtain rfl := Except.ok.inj h
      rfl
  | cons x rest ih =>
      rw [List.mapM_cons] at h
      obtain ⟨y, hy, hrest⟩ := bind_eq_ok_iff.mp h
      obtain ⟨others, hothers, heq⟩ := bind_eq_ok_iff.mp hrest
      obtain rfl := Except.ok.inj heq
      rw [List.map_cons, List.map_cons, hstep x y hy, ih hothers]

/-- Pieces of a list are gone through as the whole of it is. -/
theorem mapM_flatten (f : α → Except ε β) (pieces : List (List α)) :
    (pieces.mapM (List.mapM f)).map List.flatten = pieces.flatten.mapM f := by
  induction pieces with
  | nil => rfl
  | cons piece rest ih =>
      rw [List.flatten_cons, List.mapM_append, ← ih, List.mapM_cons]
      cases piece.mapM f with
      | error e => rfl
      | ok ys => cases rest.mapM (List.mapM f) <;> rfl

/-- A list is gone through up to the first entry that fails, and this one decides. -/
theorem mapM_eq_error_iff {f : α → Except ε β} {xs : List α} {e : ε} :
    xs.mapM f = .error e ↔ ∃ (i : Nat) (x : α), xs[i]? = some x ∧ f x = .error e ∧
      ∀ j < i, ∀ y, xs[j]? = some y → ∃ b, f y = .ok b := by
  induction xs with
  | nil => simp
  | cons head rest ih =>
      rw [List.mapM_cons]
      cases hhead : f head with
      | error cause =>
          rw [error_bind, Except.error.injEq]
          constructor
          · rintro rfl
            exact ⟨0, head, rfl, hhead, fun j hj => absurd hj (Nat.not_lt_zero j)⟩
          · rintro ⟨i, x, hx, hfails, hbefore⟩
            cases i with
            | zero =>
                obtain rfl := Option.some.inj hx
                exact Except.error.inj (hhead.symm.trans hfails)
            | succ i =>
                obtain ⟨b, hb⟩ := hbefore 0 (Nat.succ_pos i) head rfl
                exact nomatch hhead.symm.trans hb
      | ok b =>
          have hcons : ((Except.ok b >>= fun b => rest.mapM f >>= fun bs => pure (b :: bs)) :
              Except ε (List β)) = .error e ↔ rest.mapM f = .error e := by
            cases rest.mapM f <;> simp
          rw [hcons, ih]
          constructor
          · rintro ⟨i, x, hx, hfails, hbefore⟩
            refine ⟨i + 1, x, hx, hfails, fun j hj y hy => ?_⟩
            cases j with
            | zero => exact ⟨b, Option.some.inj hy ▸ hhead⟩
            | succ j => exact hbefore j (Nat.lt_of_succ_lt_succ hj) y hy
          · rintro ⟨i, x, hx, hfails, hbefore⟩
            cases i with
            | zero =>
                obtain rfl := Option.some.inj hx
                exact nomatch hhead.symm.trans hfails
            | succ i =>
                exact ⟨i, x, hx, hfails, fun j hj => hbefore (j + 1) (Nat.succ_lt_succ hj)⟩

theorem filterAuxM_eq_ok {f : α → Except ε Bool} {holds : α → Bool} {xs : List α}
    (h : ∀ x ∈ xs, f x = .ok (holds x)) (kept : List α) :
    xs.filterAuxM f kept = .ok ((xs.filter holds).reverse ++ kept) := by
  induction xs generalizing kept with
  | nil => rfl
  | cons x rest ih =>
      have hrest := ih fun y hy => h y (List.mem_cons_of_mem x hy)
      rw [List.filterAuxM, h x List.mem_cons_self, ok_bind, hrest]
      cases hx : holds x with
      | true => simp [List.filter_cons_of_pos hx]
      | false => simp [hx]

/-- Filtering by a test that answers everywhere is filtering by its answers. -/
theorem filterM_eq_ok {f : α → Except ε Bool} {holds : α → Bool} {xs : List α}
    (h : ∀ x ∈ xs, f x = .ok (holds x)) : xs.filterM f = .ok (xs.filter holds) := by
  rw [List.filterM, filterAuxM_eq_ok h, ok_bind]
  simp

theorem exists_of_filterAuxM {f : α → Except ε Bool} {xs kept found : List α}
    (h : xs.filterAuxM f kept = .ok found) : ∀ x ∈ xs, ∃ holds, f x = .ok holds := by
  induction xs generalizing kept with
  | nil => exact fun x hx => absurd hx List.not_mem_nil
  | cons x rest ih =>
      rw [List.filterAuxM] at h
      obtain ⟨holds, hx, hrest⟩ := bind_eq_ok_iff.mp h
      exact List.forall_mem_cons.mpr ⟨⟨holds, hx⟩, ih hrest⟩

/-- Filtering works exactly if the test answers everywhere. -/
theorem filterM_eq_ok_iff {f : α → Except ε Bool} {xs kept : List α} :
    xs.filterM f = .ok kept ↔ (∀ x ∈ xs, ∃ holds, f x = .ok holds) ∧
      xs.filter (fun x => (f x).toOption.getD false) = kept := by
  have hfilter (h : ∀ x ∈ xs, ∃ holds, f x = .ok holds) :
      xs.filterM f = .ok (xs.filter fun x => (f x).toOption.getD false) := by
    refine filterM_eq_ok fun x hx => ?_
    obtain ⟨holds, hholds⟩ := h x hx
    rw [hholds]
    rfl
  constructor
  · intro h
    obtain ⟨found, hfound, -⟩ := bind_eq_ok_iff.mp h
    have hanswers := exists_of_filterAuxM hfound
    exact ⟨hanswers, Except.ok.inj ((hfilter hanswers).symm.trans h)⟩
  · rintro ⟨h, rfl⟩
    exact hfilter h

theorem forM_eq_ok {f : α → Except ε Unit} {xs : List α} (h : ∀ x ∈ xs, f x = .ok ()) :
    forM xs f = .ok () := by
  induction xs with
  | nil => rfl
  | cons x rest ih =>
      rw [List.forM_cons, h x List.mem_cons_self]
      exact ih fun y hy => h y (List.mem_cons_of_mem x hy)

section FailsOnly

variable {δ : Type} {p : ε → Prop}

/-- Where a computation fails, it fails in one of some ways. -/
def FailsOnly (p : ε → Prop) (outcome : Except ε α) : Prop :=
  ∀ e, outcome = .error e → p e

theorem FailsOnly.eq_error {outcome : Except ε α} {e : ε} (h : FailsOnly (· = e) outcome)
    (hfails : ¬ ∃ a, outcome = .ok a) : outcome = .error e := by
  cases outcome with
  | ok a => exact absurd ⟨a, rfl⟩ hfails
  | error cause => exact congrArg Except.error (h cause rfl)

theorem failsOnly_ok (a : α) : FailsOnly p (.ok a) :=
  fun _ h => nomatch h

theorem failsOnly_error {e : ε} (h : p e) : FailsOnly p (.error e : Except ε α) :=
  fun _ heq => Except.error.inj heq ▸ h

theorem FailsOnly.bind {first : Except ε α} {next : α → Except ε β} (h : FailsOnly p first)
    (hnext : ∀ a, FailsOnly p (next a)) : FailsOnly p (first >>= next) := by
  intro e he
  rcases bind_eq_error_iff.mp he with hfirst | ⟨a, -, hlater⟩
  · exact h e hfirst
  · exact hnext a e hlater

theorem FailsOnly.ite_bind {test : Prop} [Decidable test] {yes no : Except ε α}
    {next : α → Except ε β} (hyes : FailsOnly p yes) (hno : FailsOnly p no)
    (hnext : ∀ a, FailsOnly p (next a)) :
    FailsOnly p (if test then yes >>= next else no >>= next) := by
  split
  · exact hyes.bind hnext
  · exact hno.bind hnext

theorem FailsOnly.map {outcome : Except ε α} (h : FailsOnly p outcome) (f : α → β) :
    FailsOnly p (outcome.map f) := by
  intro e he
  exact h e (map_eq_error_iff.mp he)

theorem FailsOnly.mapError {q : δ → Prop} {f : ε → δ} {outcome : Except ε α}
    (h : FailsOnly p outcome) (hf : ∀ e, p e → q (f e)) : FailsOnly q (outcome.mapError f) := by
  cases outcome with
  | ok a => exact failsOnly_ok a
  | error e => exact failsOnly_error (hf e (h e rfl))

theorem failsOnly_mapError {q : δ → Prop} {f : ε → δ} (h : ∀ e, q (f e)) (outcome : Except ε α) :
    FailsOnly q (outcome.mapError f) :=
  FailsOnly.mapError (p := fun _ => True) (fun _ _ => trivial) fun e _ => h e

theorem failsOnly_mapM {f : α → Except ε β} {xs : List α} (h : ∀ x ∈ xs, FailsOnly p (f x)) :
    FailsOnly p (xs.mapM f) := by
  intro e he
  obtain ⟨i, x, hx, hfails, -⟩ := mapM_eq_error_iff.mp he
  exact h x (List.mem_of_getElem? hx) e hfails

theorem failsOnly_filterM {f : α → Except ε Bool} {xs : List α} (h : ∀ x ∈ xs, FailsOnly p (f x)) :
    FailsOnly p (xs.filterM f) := by
  have hkept : ∀ kept, FailsOnly p (xs.filterAuxM f kept) := by
    induction xs with
    | nil => exact fun kept => failsOnly_ok kept
    | cons x rest ih =>
        obtain ⟨hx, hrest⟩ := List.forall_mem_cons.mp h
        exact fun kept => hx.bind fun holds => ih hrest _
  exact (hkept []).bind fun kept => failsOnly_ok _

end FailsOnly

namespace Logged

variable {δ : Type}

@[simp] theorem outcome_bind (first : Logged ε α) (next : α → Logged ε β) :
    (first >>= next).outcome = first.outcome >>= fun a => (next a).outcome := by
  obtain ⟨records, outcome⟩ := first
  cases outcome <;> rfl

@[simp] theorem outcome_pure (a : α) : (pure a : Logged ε α).outcome = .ok a := rfl

@[simp] theorem outcome_ofExcept (outcome : Except ε α) :
    (Logged.ofExcept outcome).outcome = outcome := rfl

@[simp] theorem outcome_write (record : LogRecord) :
    (Logged.write record : Logged ε Unit).outcome = .ok () := rfl

@[simp] theorem outcome_mapFailure (f : ε → δ) (run : Logged ε α) :
    (run.mapFailure f).outcome = run.outcome.mapError f := rfl

/-- The outcome of going through a list does not depend on what is logged on the way. -/
theorem outcome_mapM (f : α → Logged ε β) (xs : List α) :
    (xs.mapM f).outcome = xs.mapM fun x => (f x).outcome := by
  induction xs with
  | nil => rfl
  | cons x rest ih =>
      rw [List.mapM_cons, List.mapM_cons, outcome_bind]
      refine bind_congr fun y => ?_
      rw [outcome_bind, ih]
      rfl

/-- A computation fails quietly if nothing is logged where it fails. -/
def FailsQuietly (run : Logged ε α) : Prop :=
  ∀ e, run.outcome = .error e → run.records = []

theorem FailsQuietly.eq_error_iff {run : Logged ε α} (h : run.FailsQuietly) {e : ε} :
    run = ⟨[], .error e⟩ ↔ run.outcome = .error e := by
  constructor
  · intro heq
    rw [heq]
  · intro hfails
    have hrecords := h e hfails
    rw [← hrecords, ← hfails]

theorem failsQuietly_of_ok {run : Logged ε α} {a : α} (h : run.outcome = .ok a) :
    run.FailsQuietly := by
  intro e hfails
  exact nomatch h.symm.trans hfails

/-- A check that logs nothing may come first. -/
theorem failsQuietly_ofExcept_bind {outcome : Except ε α} {next : α → Logged ε β}
    (h : ∀ a, (next a).FailsQuietly) : (Logged.ofExcept outcome >>= next).FailsQuietly := by
  cases outcome with
  | error cause =>
      intro e _
      rfl
  | ok a => exact h a

end Logged

def Rule.Answers (rule : Rule) (n : Node) : Prop :=
  ∃ holds, rule n = .ok holds

instance (rule : Rule) (n : Node) : Decidable (rule.Answers n) :=
  decidable_of_iff ((rule n).isOk = true) isOk_eq_true_iff

def NodeRecord.bare (id kind : String) : Node where
  id := id
  kind := .str kind
  calleeName := .null
  receiverName := .null
  argumentIndex := .null
  isExternalCall := false
  flowsToExternalCall := false
  propertyName := .null
  stringValue := .null
  concatenationParts := []
  isHtmlConcatenationLeaf := false
  isConstant := false
  knownSources := .empty
  knownSinks := .empty
  sanitizes := .empty
  filePath := .other .null
  line := 0
  enclosingFunction := .null
  inTestFile := false

end TaintTriage
