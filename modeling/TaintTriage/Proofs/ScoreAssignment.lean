import TaintTriage.Proofs.Batches
import TaintTriage.Proofs.FinishOrder

/-!
Scores beside their items.  A scorer that answers each batch with a list gives every item the score
at its place, whatever order the calls finish in; an answer with the wrong number of scores, or with
one that is no number, is found by the first batch that has it, and nothing is scored.
-/

namespace TaintTriage

def Scorer.ofLists (answer : Nat → List WorkItem → List Value) : Scorer :=
  fun number batch => .ok (.list (answer number batch))

namespace Scoring

section Answer

variable {batch : List WorkItem} {scores : List Value} {part : List ScoredItem}
variable {item : WorkItem} {score : Value} {failure : ScoringFailure}

/-- An item with its score, if the score is a number. -/
def attach (item : WorkItem) (score : Value) : Except ScoringFailure ScoredItem := do
  return ⟨item, ← score.toDouble.mapError .unusable⟩

theorem attach_eq_ok_iff {entry : ScoredItem} :
    attach item score = .ok entry ↔ entry.item = item ∧ score.toDouble = .ok entry.score := by
  rw [attach, bind_eq_ok_iff]
  constructor
  · rintro ⟨x, hx, heq⟩
    obtain rfl := Except.ok.inj heq
    exact ⟨rfl, mapError_eq_ok_iff.mp hx⟩
  · rintro ⟨rfl, hx⟩
    exact ⟨entry.score, mapError_eq_ok_iff.mpr hx, rfl⟩

theorem attach_eq_error_iff :
    attach item score = .error failure ↔
      ∃ cause, score.toDouble = .error cause ∧ .unusable cause = failure := by
  rw [attach]
  cases score.toDouble <;> simp

theorem exists_attach_iff :
    (∃ entry, attach item score = .ok entry) ↔ ∃ x, score.toDouble = .ok x := by
  constructor
  · rintro ⟨entry, h⟩
    exact ⟨entry.score, (attach_eq_ok_iff.mp h).2⟩
  · rintro ⟨x, hx⟩
    exact ⟨⟨item, x⟩, attach_eq_ok_iff.mpr ⟨rfl, hx⟩⟩

/-- An answer fits a batch if it has a score for each item and all of them are numbers. -/
structure Fits (batch : List WorkItem) (scores : List Value) : Prop where
  length_eq : scores.length = batch.length
  numbers : ∀ score ∈ scores, ∃ x, score.toDouble = .ok x

/-- How an answer fails that does not fit: by its length before anything else, then by the first
score that is no number. -/
inductive Spoils (batch : List WorkItem) (scores : List Value) : ScoringFailure → Prop
  | wrongCount (hlength : scores.length ≠ batch.length) :
      Spoils batch scores (.wrongCount scores.length batch.length)
  | unusable {i : Nat} {score : Value} {cause : ValueFault}
      (hlength : scores.length = batch.length) (hscore : scores[i]? = some score)
      (hcause : score.toDouble = .error cause)
      (hbefore : ∀ j < i, ∀ earlier, scores[j]? = some earlier → ∃ x, earlier.toDouble = .ok x) :
      Spoils batch scores (.unusable cause)

theorem length_list (scores : List Value) : (Value.list scores).length = .ok scores.length := rfl

theorem readAnswer_of_length_eq (h : scores.length = batch.length) :
    readAnswer batch (.list scores) =
      (batch.zip scores).mapM fun entry => attach entry.1 entry.2 := by
  rw [readAnswer, length_list, mapError_ok, ok_bind, if_neg (not_not.mpr h)]
  rfl

theorem readAnswer_of_length_ne (h : scores.length ≠ batch.length) :
    readAnswer batch (.list scores) = .error (.wrongCount scores.length batch.length) := by
  rw [readAnswer, length_list, mapError_ok, ok_bind, if_pos h]
  rfl

theorem exists_readAnswer_iff :
    (∃ part, readAnswer batch (.list scores) = .ok part) ↔ Fits batch scores := by
  by_cases h : scores.length = batch.length
  · have hscores : (batch.zip scores).map Prod.snd = scores := List.map_snd_zip (Nat.le_of_eq h)
    rw [readAnswer_of_length_eq h, exists_mapM_eq_ok_iff]
    constructor
    · intro hentries
      refine ⟨h, fun score hscore => ?_⟩
      rw [← hscores] at hscore
      obtain ⟨entry, hentry, rfl⟩ := List.mem_map.mp hscore
      exact exists_attach_iff.mp (hentries entry hentry)
    · intro hfits entry hentry
      exact exists_attach_iff.mpr (hfits.numbers entry.2 (List.of_mem_zip hentry).2)
  · rw [readAnswer_of_length_ne h]
    constructor
    · rintro ⟨part, hpart⟩
      exact nomatch hpart
    · intro hfits
      exact absurd hfits.length_eq h

theorem readAnswer_eq_error_iff :
    readAnswer batch (.list scores) = .error failure ↔ Spoils batch scores failure := by
  by_cases h : scores.length = batch.length
  · rw [readAnswer_of_length_eq h, mapM_eq_error_iff]
    constructor
    · rintro ⟨i, entry, hentry, hfails, hbefore⟩
      obtain ⟨cause, hcause, rfl⟩ := attach_eq_error_iff.mp hfails
      obtain ⟨-, hscore⟩ := List.getElem?_zip_eq_some.mp hentry
      refine .unusable h hscore hcause fun j hj earlier hearlier => ?_
      have hlt : j < batch.length := by
        rw [← h]
        exact (List.getElem?_eq_some_iff.mp hearlier).1
      have hzip : (batch.zip scores)[j]? = some (batch[j], earlier) :=
        List.getElem?_zip_eq_some.mpr ⟨List.getElem?_eq_getElem hlt, hearlier⟩
      exact exists_attach_iff.mp (hbefore j hj _ hzip)
    · intro hspoils
      cases hspoils with
      | wrongCount hlength => exact absurd h hlength
      | @unusable i score cause _ hscore hcause hbefore =>
          have hlt : i < batch.length := by
            rw [← h]
            exact (List.getElem?_eq_some_iff.mp hscore).1
          refine ⟨i, (batch[i], score), ?_, attach_eq_error_iff.mpr ⟨cause, hcause, rfl⟩, ?_⟩
          · exact List.getElem?_zip_eq_some.mpr ⟨List.getElem?_eq_getElem hlt, hscore⟩
          · intro j hj entry hentry
            obtain ⟨-, hearlier⟩ := List.getElem?_zip_eq_some.mp hentry
            exact exists_attach_iff.mpr (hbefore j hj _ hearlier)
  · rw [readAnswer_of_length_ne h, Except.error.injEq]
    constructor
    · rintro rfl
      exact .wrongCount h
    · intro hspoils
      cases hspoils with
      | wrongCount => rfl
      | unusable hlength => exact absurd hlength h

/-- The scored items of a batch are its items, each with the number that its score stands for. -/
theorem readAnswer_eq_ok (h : readAnswer batch (.list scores) = .ok part) :
    part.map (·.item) = batch ∧
      part.map (fun entry => Except.ok entry.score) = scores.map Value.toDouble := by
  have hlength := (exists_readAnswer_iff.mp ⟨part, h⟩).length_eq
  rw [readAnswer_of_length_eq hlength] at h
  constructor
  · calc part.map (·.item) = (batch.zip scores).map Prod.fst :=
        map_eq_map_of_mapM h fun entry _ hattach => (attach_eq_ok_iff.mp hattach).1
      _ = batch := List.map_fst_zip (Nat.le_of_eq hlength.symm)
  · calc part.map (fun entry => Except.ok entry.score)
          = (batch.zip scores).map (Value.toDouble ∘ Prod.snd) :=
        map_eq_map_of_mapM h fun entry _ hattach => (attach_eq_ok_iff.mp hattach).2.symm
      _ = ((batch.zip scores).map Prod.snd).map Value.toDouble := List.map_map.symm
      _ = scores.map Value.toDouble := by rw [List.map_snd_zip (Nat.le_of_eq hlength)]

end Answer

section Run

variable {answer : Nat → List WorkItem → List Value} {items : List WorkItem}
variable {size bound earlier : Nat} {order : List Nat}

def readAll (answer : Nat → List WorkItem → List Value) (sent : List (List WorkItem)) :
    Except ScoringFailure (List (List ScoredItem)) :=
  sent.zipIdx.mapM fun entry => readAnswer entry.1 (.list (answer entry.2 entry.1))

theorem zip_map_zipIdx {α β : Type} (xs : List α) (f : α × Nat → β) :
    xs.zip (xs.zipIdx.map f) = xs.zipIdx.map fun entry => (entry.1, f entry) := by
  calc xs.zip (xs.zipIdx.map f) = (xs.zipIdx.map Prod.fst).zip (xs.zipIdx.map f) := by
        rw [List.zipIdx_map_fst]
    _ = xs.zipIdx.map fun entry => (entry.1, f entry) := List.zip_map' ..

/-- The order in which the calls finish does not matter. -/
theorem outcome_scoreIn (hbound : 0 < bound)
    (horder : Gather.FinishesIn bound (batches size items).length order) :
    (scoreIn order (.ofLists answer) items (size + 1 : Nat) bound earlier).outcome =
      (readAll (fun number => answer (earlier + number)) (batches size items)).map
        List.flatten := by
  have htasks : ((batches size items).zipIdx.map fun entry =>
      Scorer.ofLists answer (earlier + entry.2) entry.1) =
        (((batches size items).zipIdx.map fun entry =>
          Value.list (answer (earlier + entry.2) entry.1)).map Except.ok) := by
    rw [List.map_map]
    rfl
  have hanswers := Gather.resultsIn_map_ok (ε := RuleFailure) hbound
    ((batches size items).zipIdx.map fun entry => Value.list (answer (earlier + entry.2) entry.1))
    (fun i hi => horder.mem_of_lt (by rwa [List.length_map, List.length_zipIdx] at hi))
  have hsize : ¬ ((size + 1 : Nat) : Int) < 1 := by omega
  have hconcurrency : ¬ (bound : Int) < 1 := by omega
  rw [scoreIn, if_neg hsize, if_neg hconcurrency]
  simp only [Int.toNat_natCast, Nat.add_sub_cancel, Logged.outcome_bind, Logged.outcome_ofExcept,
    Logged.outcome_write, Logged.outcome_pure, htasks, hanswers, mapError_ok, ok_bind,
    zip_map_zipIdx, List.mapM_map]
  change (readAll (fun number => answer (earlier + number)) (batches size items) >>= fun parts =>
    .ok parts.flatten) = _
  cases readAll (fun number => answer (earlier + number)) (batches size items) <;> rfl

/-- Scoring lets the calls finish in the order in which they start, which is one of the possible
orders. -/
theorem outcome_score (hbound : 0 < bound) :
    ((score (.ofLists answer) items (size + 1 : Nat) bound earlier).outcome.map (·.scored)) =
      (readAll (fun number => answer (earlier + number)) (batches size items)).map
        List.flatten := by
  have hordered : (scoreIn (List.range (batches size items).length) (.ofLists answer) items
      (size + 1 : Nat) bound earlier).outcome =
        (readAll (fun number => answer (earlier + number)) (batches size items)).map
          List.flatten :=
    outcome_scoreIn hbound (Gather.finishesIn_range hbound (batches size items).length)
  simp only [score, Int.toNat_natCast, Nat.add_sub_cancel, Logged.outcome_bind,
    Logged.outcome_pure, hordered]
  cases readAll (fun number => answer (earlier + number)) (batches size items) <;> rfl

theorem exists_readAll_iff :
    (∃ parts, readAll answer (batches size items) = .ok parts) ↔
      ∀ number, number * (size + 1) < items.length →
        Fits (batchAt (size + 1) number items)
          (answer number (batchAt (size + 1) number items)) := by
  rw [readAll, exists_mapM_eq_ok_iff]
  constructor
  · intro h number hnumber
    have hmem : (batchAt (size + 1) number items, number) ∈ (batches size items).zipIdx :=
      List.mk_mem_zipIdx_iff_getElem?.mpr (getElem?_batches_eq_some_iff.mpr ⟨hnumber, rfl⟩)
    exact exists_readAnswer_iff.mp (h _ hmem)
  · rintro h ⟨batch, number⟩ hmem
    obtain ⟨hnumber, rfl⟩ :=
      getElem?_batches_eq_some_iff.mp (List.mk_mem_zipIdx_iff_getElem?.mp hmem)
    exact exists_readAnswer_iff.mpr (h number hnumber)

theorem getElem?_zipIdx_batches_eq_some_iff {entry : List WorkItem × Nat} {number : Nat} :
    (batches size items).zipIdx[number]? = some entry ↔
      number * (size + 1) < items.length ∧ entry = (batchAt (size + 1) number items, number) := by
  rw [List.getElem?_zipIdx, Option.map_eq_some_iff, Nat.zero_add]
  constructor
  · rintro ⟨batch, hbatch, rfl⟩
    obtain ⟨hnumber, rfl⟩ := getElem?_batches_eq_some_iff.mp hbatch
    exact ⟨hnumber, rfl⟩
  · rintro ⟨hnumber, rfl⟩
    exact ⟨_, getElem?_batches_eq_some_iff.mpr ⟨hnumber, rfl⟩, rfl⟩

/-- The first batch that does not fit its answer decides. -/
theorem readAll_eq_error_iff {failure : ScoringFailure} :
    readAll answer (batches size items) = .error failure ↔
      ∃ number, number * (size + 1) < items.length ∧
        (∀ j < number,
          Fits (batchAt (size + 1) j items) (answer j (batchAt (size + 1) j items))) ∧
        Spoils (batchAt (size + 1) number items) (answer number (batchAt (size + 1) number items))
          failure := by
  rw [readAll, mapM_eq_error_iff]
  constructor
  · rintro ⟨number, entry, hentry, hfails, hbefore⟩
    obtain ⟨hnumber, rfl⟩ := getElem?_zipIdx_batches_eq_some_iff.mp hentry
    refine ⟨number, hnumber, fun j hj => ?_, readAnswer_eq_error_iff.mp hfails⟩
    have hearlier : j * (size + 1) < items.length :=
      Nat.lt_of_le_of_lt (Nat.mul_le_mul_right _ (Nat.le_of_lt hj)) hnumber
    exact exists_readAnswer_iff.mp
      (hbefore j hj _ (getElem?_zipIdx_batches_eq_some_iff.mpr ⟨hearlier, rfl⟩))
  · rintro ⟨number, hnumber, hbefore, hspoils⟩
    refine ⟨number, _, getElem?_zipIdx_batches_eq_some_iff.mpr ⟨hnumber, rfl⟩,
      readAnswer_eq_error_iff.mpr hspoils, fun j hj entry hentry => ?_⟩
    obtain ⟨-, rfl⟩ := getElem?_zipIdx_batches_eq_some_iff.mp hentry
    exact exists_readAnswer_iff.mpr (hbefore j hj)

section Read

variable {parts : List (List ScoredItem)}

theorem readAll_items (h : readAll answer (batches size items) = .ok parts) :
    parts.map (·.map (·.item)) = batches size items := by
  calc parts.map (·.map (·.item)) = (batches size items).zipIdx.map Prod.fst :=
        map_eq_map_of_mapM h fun _ _ hpart => (readAnswer_eq_ok hpart).1
    _ = batches size items := List.zipIdx_map_fst ..

theorem readAll_scores (h : readAll answer (batches size items) = .ok parts) :
    parts.map (·.map fun entry => Except.ok entry.score) =
      (batches size items).zipIdx.map fun entry => (answer entry.2 entry.1).map Value.toDouble :=
  map_eq_map_of_mapM h fun _ _ hpart => (readAnswer_eq_ok hpart).2

/-- The items come back in order, each with the score that the answer to its batch has at its
place. -/
theorem readAll_eq_ok (h : readAll answer (batches size items) = .ok parts) :
    parts.flatten.map (·.item) = items ∧
      ∀ i entry, parts.flatten[i]? = some entry →
        ((answer (i / (size + 1)) (batchAt (size + 1) (i / (size + 1)) items))[i %
          (size + 1)]?).map Value.toDouble = some (.ok entry.score) := by
  have hitems := readAll_items h
  refine ⟨by rw [List.map_flatten, hitems, flatten_batches], fun i entry hentry => ?_⟩
  have hlengths : parts.map List.length = (batches size items).map List.length := by
    rw [← hitems, List.map_map]
    exact List.map_congr_left fun part _ => (List.length_map _).symm
  -- The quotient leads to the batch, and its answer has the score of the entry at the remainder.
  rw [getElem?_flatten_of_lengths hlengths, Option.bind_eq_some_iff] at hentry
  obtain ⟨part, hpart, hplace⟩ := hentry
  have hscores := congrArg (·[i / (size + 1)]?) (readAll_scores h)
  simp only [List.getElem?_map, hpart, Option.map_some] at hscores
  obtain ⟨⟨batch, number⟩, hbatch, hanswer⟩ := Option.map_eq_some_iff.mp hscores.symm
  obtain ⟨-, heq⟩ := getElem?_zipIdx_batches_eq_some_iff.mp hbatch
  obtain ⟨rfl, rfl⟩ := Prod.mk.inj heq
  rw [← List.getElem?_map, hanswer, List.getElem?_map, hplace]
  rfl

end Read

/-- Scoring item by item knows nothing of batches. -/
theorem readAll_itemByItem (scoreOf : WorkItem → Value) (size : Nat) (items : List WorkItem) :
    (readAll (fun _ batch => batch.map scoreOf) (batches size items)).map List.flatten =
      items.mapM fun item => attach item (scoreOf item) := by
  have hread : ∀ batch : List WorkItem, readAnswer batch (.list (batch.map scoreOf)) =
      batch.mapM fun item => attach item (scoreOf item) := by
    intro batch
    rw [readAnswer_of_length_eq (List.length_map _), ← List.map_prod_left_eq_zip, List.mapM_map]
    rfl
  have hbatches : readAll (fun _ batch => batch.map scoreOf) (batches size items) =
      (batches size items).mapM fun batch => batch.mapM fun item => attach item (scoreOf item) := by
    simp only [readAll, hread]
    rw [← List.zipIdx_map_fst 0 (batches size items), List.mapM_map, List.zipIdx_map_fst]
    rfl
  rw [hbatches, mapM_flatten, flatten_batches]

end Run

/-- Where every batch is answered with a list, the outcome is the same in every order in which the
calls may finish.  It is a result exactly if all answers fit their batches, and then has the items
in order, each with its score; otherwise the first batch whose answer does not fit gives the
failure.  A scorer that goes item by item gives the same outcome for all sizes and bounds. -/
theorem scoreIn_keeps_assignment (answer : Nat → List WorkItem → List Value)
    (items : List WorkItem) (size bound earlier : Nat) (order : List Nat) (hsize : 0 < size)
    (hbound : 0 < bound)
    (horder : Gather.FinishesIn bound (batches (size - 1) items).length order) :
    ∃ outcome : Except ScoringFailure (List ScoredItem),
      (scoreIn order (.ofLists answer) items size bound earlier).outcome = outcome ∧
      (score (.ofLists answer) items size bound earlier).outcome.map (·.scored) = outcome ∧
      ((∃ scored, outcome = .ok scored) ↔ ∀ number, number * size < items.length →
        Fits (batchAt size number items)
          (answer (earlier + number) (batchAt size number items))) ∧
      (∀ scored, outcome = .ok scored → scored.map (·.item) = items ∧
        ∀ i entry, scored[i]? = some entry →
          ((answer (earlier + i / size) (batchAt size (i / size) items))[i % size]?).map
            Value.toDouble = some (.ok entry.score)) ∧
      (∀ failure, outcome = .error failure ↔ ∃ number, number * size < items.length ∧
        (∀ j < number,
          Fits (batchAt size j items) (answer (earlier + j) (batchAt size j items))) ∧
        Spoils (batchAt size number items)
          (answer (earlier + number) (batchAt size number items)) failure) ∧
      ∀ scoreOf : WorkItem → Value, answer = (fun _ batch => batch.map scoreOf) →
        outcome = items.mapM fun item => do
          return ⟨item, ← (scoreOf item).toDouble.mapError .unusable⟩ := by
  obtain ⟨size, rfl⟩ := Nat.exists_eq_succ_of_ne_zero (Nat.ne_of_gt hsize)
  rw [Nat.succ_sub_one] at horder
  refine ⟨_, outcome_scoreIn hbound horder, outcome_score hbound, ?_, ?_, ?_, ?_⟩
  · rw [← exists_readAll_iff]
    constructor
    · rintro ⟨scored, hscored⟩
      obtain ⟨parts, hparts, -⟩ := map_eq_ok_iff.mp hscored
      exact ⟨parts, hparts⟩
    · rintro ⟨parts, hparts⟩
      exact ⟨parts.flatten, map_eq_ok_iff.mpr ⟨parts, hparts, rfl⟩⟩
  · intro scored hscored
    obtain ⟨parts, hparts, rfl⟩ := map_eq_ok_iff.mp hscored
    exact readAll_eq_ok hparts
  · intro failure
    rw [map_eq_error_iff]
    exact readAll_eq_error_iff
  · rintro scoreOf rfl
    exact readAll_itemByItem scoreOf size items

def threeItems : List WorkItem :=
  ["first", "second", "third"].map fun id => ⟨id, .sqlInjectionSink, []⟩

/-- The answers to a full batch and to a last one with a single item. -/
def twoAnswers (number : Nat) (_ : List WorkItem) : List Value :=
  if number = 0 then [.float 0.25, .float 0.5] else [.float 0.75]

/-- The call for the short batch finishes first, and its score stays with the third item. -/
theorem scoreIn_keeps_assignment_shortBatchFirst :
    Gather.FinishesIn 2 (batches (2 - 1) threeItems).length [1, 0] ∧
      ∃ scored, (scoreIn [1, 0] (.ofLists twoAnswers) threeItems 2 2 0).outcome = .ok scored ∧
        scored.map (·.item.nodeId) = ["first", "second", "third"] ∧
        ∀ entry, scored[2]? = some entry → entry.score = 0.75 := by
  have horder : Gather.FinishesIn 2 (batches (2 - 1) threeItems).length [1, 0] := by
    have hcount : (batches (2 - 1) threeItems).length = 2 := by
      simp [batches, threeItems]
    rw [hcount]
    have hfirst : Gather.Step 2 ⟨[0, 1], [], []⟩ ⟨[1], [0], []⟩ := .start rfl
    have hsecond : Gather.Step 2 ⟨[1], [0], []⟩ ⟨[], [0, 1], []⟩ := .start rfl
    have hshort : Gather.Step 2 ⟨[], [0, 1], []⟩ ⟨[], [0], [1]⟩ := .finish 1 rfl
    have hfull : Gather.Step 2 ⟨[], [0], [1]⟩ ⟨[], [], [1, 0]⟩ := .finish 0 rfl
    exact .head hfirst (.head hsecond (.head hshort (.single hfull)))
  obtain ⟨outcome, hin, -, hok, hscored, -⟩ :=
    scoreIn_keeps_assignment twoAnswers threeItems 2 2 0 [1, 0] (by decide) (by decide) horder
  have hfits : ∀ number, number * 2 < threeItems.length →
      Fits (batchAt 2 number threeItems)
        (twoAnswers (0 + number) (batchAt 2 number threeItems)) := by
    intro number hnumber
    have hnumber : number * 2 < 3 := hnumber
    obtain rfl | rfl : number = 0 ∨ number = 1 := by omega
    · exact ⟨rfl, by simp [twoAnswers, Value.toDouble]⟩
    · exact ⟨rfl, by simp [twoAnswers, Value.toDouble]⟩
  obtain ⟨scored, rfl⟩ := hok.mpr hfits
  obtain ⟨hitems, hscores⟩ := hscored scored rfl
  refine ⟨horder, scored, hin, ?_, fun entry hentry => ?_⟩
  · calc scored.map (·.item.nodeId) = (scored.map (·.item)).map (·.nodeId) := List.map_map.symm
      _ = ["first", "second", "third"] := by rw [hitems]; rfl
  · have hscore := Option.some.inj (hscores 2 entry hentry)
    exact (Except.ok.inj hscore).symm

end Scoring

end TaintTriage
