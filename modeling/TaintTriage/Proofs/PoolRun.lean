import TaintTriage.Proofs.BoundedCalls
import TaintTriage.Proofs.CandidateReport

/-!
Runs of a pool of workers.  The workers take the items in order and finish them in any order; the
outcomes are asked for in the order of the items, and the first failure ends the asking, so that an
answer may be there before all items are finished.  Every run ends, and whenever an answer is there,
it is the one of going through the items one by one, for a map and for the report of a classifier.
-/

namespace TaintTriage

namespace Pool

variable {ε α β : Type} {f : α → Except ε β} {items : List α} {order : List Nat}
variable {outcome : Except ε (List β)}

/-- Take outcomes in order.  The first failure decides, whatever is missing behind it, and there is
no answer while an outcome that is asked for is missing. -/
def taken : List (Option (Except ε β)) → Option (Except ε (List β))
  | [] => some (.ok [])
  | none :: _ => none
  | some (.error e) :: _ => some (.error e)
  | some (.ok b) :: rest => (taken rest).map (Except.map (b :: ·))

/-- The answer of a pool that has the given outcomes, if they are enough for one. -/
def answer? (size : Nat) (done : List (Nat × Except ε β)) : Option (Except ε (List β)) :=
  taken ((List.range size).map fun i => done.lookup i)

/-- The outcome of an item is asked for if all items before it succeed. -/
def IsAsked (f : α → Except ε β) (items : List α) (i : Nat) : Prop :=
  i < items.length ∧ ∀ j < i, ∀ a, items[j]? = some a → ∃ b, f a = .ok b

theorem isAsked_zero (f : α → Except ε β) (a : α) (rest : List α) : IsAsked f (a :: rest) 0 :=
  ⟨Nat.succ_pos rest.length, fun j hj => absurd hj (Nat.not_lt_zero j)⟩

theorem isAsked_succ_iff {a : α} {rest : List α} {i : Nat} :
    IsAsked f (a :: rest) (i + 1) ↔ (∃ b, f a = .ok b) ∧ IsAsked f rest i := by
  constructor
  · intro ⟨hlt, hbefore⟩
    refine ⟨hbefore 0 (Nat.succ_pos i) a rfl, Nat.lt_of_succ_lt_succ hlt, ?_⟩
    intro j hj
    exact hbefore (j + 1) (Nat.succ_lt_succ hj)
  · intro ⟨hfirst, hlt, hbefore⟩
    refine ⟨Nat.succ_lt_succ hlt, ?_⟩
    intro j hj y hy
    cases j with
    | zero => exact Option.some.inj hy ▸ hfirst
    | succ j => exact hbefore j (Nat.lt_of_succ_lt_succ hj) y hy

/-- The first item is always asked for, the others only if it succeeds. -/
theorem forall_isAsked_cons_iff {a : α} {rest : List α} {p : Nat → Prop} :
    (∀ i, IsAsked f (a :: rest) i → p i) ↔
      p 0 ∧ ((∃ b, f a = .ok b) → ∀ i, IsAsked f rest i → p (i + 1)) := by
  constructor
  · intro h
    exact ⟨h 0 (isAsked_zero f a rest),
      fun hfirst i hi => h (i + 1) (isAsked_succ_iff.mpr ⟨hfirst, hi⟩)⟩
  · intro ⟨hzero, hlater⟩ i hi
    cases i with
    | zero => exact hzero
    | succ i =>
        obtain ⟨hfirst, hrest⟩ := isAsked_succ_iff.mp hi
        exact hlater hfirst i hrest

/-- The outcome of an item, if the item is among those that are finished. -/
def outcomeIn (f : α → Except ε β) (order : List Nat) (entry : α × Nat) : Option (Except ε β) :=
  if entry.2 ∈ order then some (f entry.1) else none

theorem map_lookup_finished (f : α → Except ε β) (items : List α) (order : List Nat) :
    ((List.range items.length).map fun i => (finished f items order).lookup i) =
      items.zipIdx.map (outcomeIn f order) := by
  apply List.ext_getElem?
  intro i
  rw [List.getElem?_map, List.getElem?_map, List.getElem?_zipIdx, Nat.zero_add]
  by_cases hi : i < items.length
  · rw [List.getElem?_range hi, List.getElem?_eq_getElem hi]
    simp [lookup_finished, outcomeIn, hi]
  · rw [List.getElem?_eq_none (by simpa using hi), List.getElem?_eq_none (by omega)]
    rfl

/-- There is an answer exactly if every item that is asked for is finished. -/
theorem taken_eq_some_iff (first : Nat) :
    taken ((items.zipIdx first).map (outcomeIn f order)) = some outcome ↔
      outcome = items.mapM f ∧ ∀ i, IsAsked f items i → first + i ∈ order := by
  induction items generalizing first outcome with
  | nil =>
      constructor
      · intro h
        exact ⟨(Option.some.inj h).symm, fun i hi => absurd hi.1 (Nat.not_lt_zero i)⟩
      · rintro ⟨houtcome, -⟩
        exact congrArg some houtcome.symm
  | cons a rest ih =>
      rw [List.zipIdx_cons, List.map_cons, List.mapM_cons, outcomeIn, forall_isAsked_cons_iff]
      by_cases hmem : first ∈ order
      · rw [if_pos hmem]
        cases hfirst : f a with
        | error e =>
            rw [taken, error_bind, Option.some.injEq, eq_comm, iff_self_and]
            intro _
            refine ⟨hmem, ?_⟩
            rintro ⟨b, hb⟩
            cases hb
        | ok b =>
            have hlater : (∀ i, IsAsked f rest i → first + (i + 1) ∈ order) ↔
                ∀ i, IsAsked f rest i → first + 1 + i ∈ order :=
              forall₂_congr fun i _ => by rw [Nat.add_assoc, Nat.add_comm 1 i]
            have hcons : (rest.mapM f).map (b :: ·) =
                rest.mapM f >>= fun others => pure (b :: others) := by
              cases rest.mapM f <;> rfl
            rw [taken, ok_bind, hlater, ← hcons, Option.map_eq_some_iff]
            constructor
            · rintro ⟨others, hothers, heq⟩
              obtain ⟨rfl, hasked⟩ := (ih (first + 1)).mp hothers
              exact ⟨heq.symm, hmem, fun _ => hasked⟩
            · rintro ⟨heq, -, hasked⟩
              exact ⟨rest.mapM f, (ih (first + 1)).mpr ⟨rfl, hasked ⟨b, rfl⟩⟩, heq.symm⟩
      · rw [if_neg hmem, taken]
        constructor
        · intro h
          cases h
        · rintro ⟨-, hfirst, -⟩
          exact absurd hfirst hmem

theorem answer?_eq_some_iff :
    answer? items.length (finished f items order) = some outcome ↔
      outcome = mapInline f items ∧ ∀ i, IsAsked f items i → i ∈ order := by
  rw [answer?, map_lookup_finished, taken_eq_some_iff]
  simp only [Nat.zero_add]
  rfl

/-- The failure of the second item is the answer as soon as the first two are finished. -/
example : answer? 3 (finished (fun n : Nat => if n = 0 then Except.error "zero" else .ok n)
    [4, 0, 5] [1, 0]) = some (.error "zero") := rfl

end Pool

namespace Gather

variable {bound count : Nat} {s : State}

/-- No step is left in a state. -/
def State.IsFinal (bound : Nat) (s : State) : Prop :=
  ∀ t, ¬ Step bound s t

theorem wellFounded_step (bound : Nat) : WellFounded fun t s : State => Step bound s t :=
  Subrelation.wf Step.remaining_lt (measure State.remaining).wf

theorem isFinal_finished (bound : Nat) (order : List Nat) :
    State.IsFinal bound ⟨[], [], order⟩ := by
  intro t hstep
  cases hstep with
  | start h =>
      obtain ⟨task, rest, hwaiting, -⟩ := State.start?_eq_some h
      exact absurd hwaiting (List.cons_ne_nil task rest).symm
  | finish task h => exact absurd (State.finish?_eq_some h).1 List.not_mem_nil

/-- Where no step is left, every task has finished. -/
theorem State.IsFinal.mem_finished (hbound : 0 < bound) (hfinal : s.IsFinal bound)
    (h : Relation.ReflTransGen (Step bound) (.initial count) s) {i : Nat} (hi : i < count) :
    i ∈ s.finished := by
  have hnext : s.next? bound = none := by
    cases hnext : s.next? bound with
    | none => rfl
    | some t => exact absurd (State.step_of_next? hnext) (hfinal t)
  have htasks := tasks_perm_of_run h
  obtain ⟨hwaiting, hrunning⟩ := State.eq_nil_of_next?_eq_none hbound hnext
  simp only [State.tasks, State.initial, hwaiting, hrunning, List.nil_append, List.append_nil]
    at htasks
  exact htasks.mem_iff.mpr (List.mem_range.mpr hi)

end Gather

open Gather

namespace Pool

variable {ε α β : Type} {f : α → Except ε β} {items : List α} {workers : Int}
variable {outcome : Except ε (List β)}

/-- A pool settles on an outcome if its workers come to an end whatever they do, that outcome is
there when they do, and no other one is ever there on the way. -/
structure Settles (bound : Nat) (f : α → Except ε β) (items : List α)
    (outcome : Except ε (List β)) : Prop where
  stops : WellFounded fun t s : State => Step bound s t
  answered : ∀ s, Relation.ReflTransGen (Step bound) (.initial items.length) s →
    s.IsFinal bound → answer? items.length (finished f items s.finished) = some outcome
  only : ∀ s, Relation.ReflTransGen (Step bound) (.initial items.length) s →
    ∀ other, answer? items.length (finished f items s.finished) = some other → other = outcome

theorem settles_iff {bound : Nat} (hbound : 0 < bound) :
    Settles bound f items outcome ↔ outcome = mapInline f items := by
  constructor
  · intro h
    -- One run there is for certain: each item is finished before the next one is taken.
    have hrun := finishesIn_range hbound items.length
    have hanswer := h.answered _ hrun (isFinal_finished bound _)
    exact (answer?_eq_some_iff.mp hanswer).1
  · intro h
    refine ⟨wellFounded_step bound, ?_, ?_⟩
    · intro s hrun hfinal
      apply answer?_eq_some_iff.mpr
      exact ⟨h, fun i hi => hfinal.mem_finished hbound hrun hi.1⟩
    · intro s _ other hother
      rw [h]
      exact (answer?_eq_some_iff.mp hother).1

/-- How a map with some number of workers ends: at once with the outcome of going through the items
if no pool is used, and else with what the pool settles on. -/
def EndsWith (workers : Int) (f : α → Except ε β) (items : List α)
    (outcome : Except ε (List β)) : Prop :=
  if workers ≤ 1 ∨ items.length < minItems then outcome = mapInline f items
  else Settles workers.toNat f items outcome

theorem endsWith_iff : EndsWith workers f items outcome ↔ outcome = mapInline f items := by
  rw [EndsWith]
  split
  next => rfl
  next hpool => exact settles_iff (by omega)

end Pool

namespace Classifier

variable {k : Classifier} {g : Snapshot}

def reportOn (k : Classifier) (outcome : Except RuleFailure (List NodeClassification)) :
    Logged RuleFailure Report := do
  let classifications ← .ofExcept outcome
  let report : Report := ⟨k.configuration.queryId, classifications⟩
  .writeAll (reportRecords report)
  return report

theorem classifyGraph_eq_reportOn (k : Classifier) (g : Snapshot) :
    k.classifyGraph g = k.reportOn (Pool.mapInline k.classifyNode g.nodes) := by
  rw [classifyGraph, Pool.map_eq_mapM]
  rfl

/-- A failure keeps everything from the log. -/
theorem failsQuietly_classifyGraph (k : Classifier) (g : Snapshot) :
    (k.classifyGraph g).FailsQuietly := by
  apply Logged.failsQuietly_ofExcept_bind
  intro entries
  exact Logged.failsQuietly_of_ok rfl

theorem classifyGraph_eq_error_iff {failure : RuleFailure} :
    k.classifyGraph g = ⟨[], .error failure⟩ ↔ g.nodes.mapM k.classifyNode = .error failure := by
  rw [(failsQuietly_classifyGraph k g).eq_error_iff, classifyGraph_eq_reportOn, reportOn,
    Logged.outcome_bind, Logged.outcome_ofExcept, bind_eq_error_iff]
  constructor
  · intro h
    rcases h with hfails | ⟨entries, -, hfails⟩
    · exact hfails
    · exact nomatch hfails
  · intro h
    exact Or.inl h

end Classifier

/-- However many workers are asked for, and whichever of them finish first, a map gives the results
in the order of the items, or the failure of the first item that fails; two numbers of workers never
differ.  So the reports on a graph are the same, and the first node that fails keeps everything from
the log. -/
theorem map_endsWith_alike (usual usual' : Int) (requested requested' : Option Int) :
    (∀ {ε α β : Type} (f : α → Except ε β) (items : List α),
      (∀ outcome, Pool.EndsWith (Pool.workers usual requested) f items outcome ↔
        outcome = Pool.map (Pool.workers usual' requested') f items) ∧
      (∀ order, order.Perm (List.range items.length) →
        Pool.mapPooled f items order = Pool.map (Pool.workers usual' requested') f items) ∧
      (∀ results, Pool.EndsWith (Pool.workers usual requested) f items (.ok results) ↔
        items.map f = results.map .ok) ∧
      ∀ failure, Pool.EndsWith (Pool.workers usual requested) f items (.error failure) ↔
        ∃ (i : Nat) (a : α), items[i]? = some a ∧ f a = .error failure ∧
          ∀ j < i, ∀ earlier, items[j]? = some earlier → ∃ b, f earlier = .ok b) ∧
    ∀ (k : Classifier) (g : Snapshot),
      (∃ outcome, Pool.EndsWith (Pool.workers usual requested) k.classifyNode g.nodes outcome ∧
        k.reportOn outcome =
          { k with workers := Pool.workers usual' requested' }.classifyGraph g) ∧
      (∀ report, (k.classifyGraph g).outcome = .ok report ↔
        report.queryId = k.configuration.queryId ∧
        g.nodes.map k.classifyNode = report.classifications.map .ok) ∧
      ∀ failure, k.classifyGraph g = ⟨[], .error failure⟩ ↔
        ∃ (i : Nat) (n : Node), g.nodes[i]? = some n ∧ k.classifyNode n = .error failure ∧
          ∀ j < i, ∀ earlier, g.nodes[j]? = some earlier →
            ∃ entry, k.classifyNode earlier = .ok entry := by
  refine ⟨?_, ?_⟩
  · intro ε α β f items
    refine ⟨?_, ?_, ?_, ?_⟩
    · intro outcome
      rw [Pool.endsWith_iff, Pool.map_eq_mapM]
      rfl
    · intro order horder
      rw [Pool.map_eq_mapM]
      exact Pool.mapPooled_eq_mapInline fun i hi => horder.mem_iff.mpr (List.mem_range.mpr hi)
    · intro results
      rw [Pool.endsWith_iff, eq_comm]
      exact mapM_eq_ok_iff
    · intro failure
      rw [Pool.endsWith_iff, eq_comm]
      exact mapM_eq_error_iff
  · intro k g
    refine ⟨?_, ?_, ?_⟩
    · refine ⟨Pool.mapInline k.classifyNode g.nodes, Pool.endsWith_iff.mpr rfl, ?_⟩
      exact (Classifier.classifyGraph_eq_reportOn
        { k with workers := Pool.workers usual' requested' } g).symm
    · intro report
      rw [Classifier.outcome_classifyGraph_eq_ok_iff, mapM_eq_ok_iff,
        eq_comm (a := k.configuration.queryId)]
    · intro failure
      rw [Classifier.classifyGraph_eq_error_iff, mapM_eq_error_iff]

/-- A check that fails for one number in fifty. -/
def failsAtTimes (n : Nat) : Except Nat Nat :=
  if n % 50 = 1 then .error n else .ok n

/-- The second of a hundred items fails, and a later one that may be finished before it does not
matter: not with eight workers and not when the last item is finished first. -/
theorem map_endsWith_alike_failsAtTimes :
    (List.range 100).reverse.Perm (List.range (List.range 100).length) ∧
      Pool.EndsWith (Pool.workers 32 (some 8)) failsAtTimes (List.range 100) (.error 1) ∧
      Pool.mapPooled failsAtTimes (List.range 100) (List.range 100).reverse = .error 1 := by
  have hperm : (List.range 100).reverse.Perm (List.range (List.range 100).length) := by
    rw [List.length_range]
    exact List.reverse_perm _
  obtain ⟨hends, horders, -, hfails⟩ :=
    (map_endsWith_alike 32 32 (some 8) none).1 failsAtTimes (List.range 100)
  have hsecond : Pool.EndsWith (Pool.workers 32 (some 8)) failsAtTimes (List.range 100)
      (.error 1) := by
    apply (hfails 1).mpr
    refine ⟨1, 1, rfl, rfl, ?_⟩
    intro j hj earlier hearlier
    obtain rfl : j = 0 := by omega
    obtain rfl : 0 = earlier := Option.some.inj hearlier
    exact ⟨0, rfl⟩
  refine ⟨hperm, hsecond, ?_⟩
  rw [horders _ hperm]
  exact ((hends (.error 1)).mp hsecond).symm

end TaintTriage
