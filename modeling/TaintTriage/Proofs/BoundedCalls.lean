import TaintTriage.Proofs.Permits
import TaintTriage.Proofs.ScoreAssignment

/-!
Calls of which a bounded number is active at any time.  Runs that start tasks in order are runs of
tasks with permits, among them the one that is carried out; the calls of a scorer are such tasks,
one for each batch.
-/

namespace TaintTriage

namespace Gather

variable {ε α : Type} {bound count fuel : Nat} {s t : State}
variable {tasks : List (Except ε α)} {p : Progress ε α}

/-- A state of tasks that start in order, beside a state of tasks that need permits. -/
structure State.Matches (s : State) (p : Progress ε α) : Prop where
  waiting_eq : p.waiting = s.waiting
  running_eq : p.running = s.running
  finished_eq : p.settled.map Prod.fst = s.finished

/-- Starting the next task is calling the first one that waits, and the bound leaves it a permit. -/
theorem Step.exists_advance (h : Step bound s t) (hp : p.Coherent bound tasks)
    (hmatches : s.Matches p) : ∃ q, Advance tasks p q ∧ t.Matches q := by
  obtain ⟨hwaiting, hrunning, hfinished⟩ := hmatches
  cases h with
  | start h =>
      obtain ⟨task, rest, hnext, hlt, rfl⟩ := State.start?_eq_some h
      have hmem : task ∈ p.waiting := by
        rw [hwaiting, hnext]
        exact List.mem_cons_self
      have hfree : 0 < p.free := by
        have hpermits := hp.permits_eq
        rw [hrunning] at hpermits
        omega
      refine ⟨p.call task, .call task hmem hfree, ?_, ?_, hfinished⟩
      · change p.waiting.erase task = rest
        rw [hwaiting, hnext, List.erase_cons_head]
      · change p.running ++ [task] = s.running ++ [task]
        rw [hrunning]
  | finish task h =>
      obtain ⟨hmem, rfl⟩ := State.finish?_eq_some h
      have hmem : task ∈ p.running := hrunning ▸ hmem
      obtain ⟨outcome, houtcome⟩ := hp.exists_outcome hmem
      refine ⟨p.settle task outcome, .settle task outcome hmem houtcome, hwaiting, ?_, ?_⟩
      · change p.running.erase task = s.running.erase task
        rw [hrunning]
      · change (p.settled ++ [(task, outcome)]).map Prod.fst = s.finished ++ [task]
        rw [List.map_append, hfinished]
        rfl

theorem exists_reaches_of_run (tasks : List (Except ε α))
    (h : Relation.ReflTransGen (Step bound) (.initial tasks.length) s) :
    ∃ p, Reaches bound tasks p ∧ s.Matches p := by
  induction h with
  | refl => exact ⟨.initial bound tasks.length, .refl, rfl, rfl, rfl⟩
  | tail _ hstep ih =>
      obtain ⟨p, hreaches, hmatches⟩ := ih
      obtain ⟨q, hadvance, hnext⟩ := hstep.exists_advance hreaches.coherent hmatches
      exact ⟨q, .tail hreaches hadvance, hnext⟩

theorem running_length_le_of_run (h : Relation.ReflTransGen (Step bound) (.initial count) s) :
    s.running.length ≤ bound := by
  have htasks : (List.replicate count (.ok () : Except Unit Unit)).length = count :=
    List.length_replicate
  obtain ⟨p, hreaches, hmatches⟩ :=
    exists_reaches_of_run (List.replicate count (.ok () : Except Unit Unit)) (htasks.symm ▸ h)
  rw [← hmatches.running_eq]
  exact hreaches.coherent.running_length_le

namespace State

theorem step_of_next? (h : s.next? bound = some t) : Step bound s t := by
  rw [next?, Option.or_eq_some_iff] at h
  rcases h with hstart | ⟨-, hfinish⟩
  · exact .start hstart
  · split at hfinish
    next => exact absurd hfinish (Option.some_ne_none t).symm
    next task _ _ => exact .finish task hfinish

/-- Without a next step nothing runs, since the oldest running task could finish, and nothing waits,
since there would be a place for it. -/
theorem eq_nil_of_next?_eq_none (hbound : 0 < bound) (h : s.next? bound = none) :
    s.waiting = [] ∧ s.running = [] := by
  rw [next?, Option.or_eq_none_iff] at h
  obtain ⟨hstart, hfinish⟩ := h
  have hrunning : s.running = [] := by
    cases hrunning : s.running with
    | nil => rfl
    | cons task rest => simp [hrunning, finish?] at hfinish
  refine ⟨?_, hrunning⟩
  cases hwaiting : s.waiting with
  | nil => rfl
  | cons task rest => simp [start?, hwaiting, hrunning, hbound] at hstart

/-- The number of steps that are left. -/
def remaining (s : State) : Nat :=
  2 * s.waiting.length + s.running.length

end State

/-- Every step leaves fewer steps. -/
theorem Step.remaining_lt (h : Step bound s t) : t.remaining < s.remaining := by
  cases h with
  | start h =>
      obtain ⟨task, rest, hwaiting, -, rfl⟩ := State.start?_eq_some h
      simp only [State.remaining, hwaiting, List.length_append, List.length_cons, List.length_nil]
      omega
  | finish task h =>
      obtain ⟨hmem, rfl⟩ := State.finish?_eq_some h
      have hpos : 0 < s.running.length := List.length_pos_of_mem hmem
      simp only [State.remaining, List.length_erase_of_mem hmem]
      omega

theorem reaches_of_mem_run (h : t ∈ run bound fuel s) :
    Relation.ReflTransGen (Step bound) s t := by
  induction fuel generalizing s with
  | zero =>
      obtain rfl := List.mem_singleton.mp h
      exact .refl
  | succ fuel ih =>
      rw [run] at h
      cases hnext : s.next? bound with
      | none =>
          rw [hnext] at h
          obtain rfl := List.mem_singleton.mp h
          exact .refl
      | some next =>
          rw [hnext] at h
          rcases List.mem_cons.mp h with rfl | hlater
          · exact .refl
          · exact .head (State.step_of_next? hnext) (ih hlater)

/-- With enough fuel a run goes on to a state without a next step. -/
theorem exists_getLast?_run (bound : Nat) (h : s.remaining ≤ fuel) :
    ∃ t, (run bound fuel s).getLast? = some t ∧ t.next? bound = none := by
  induction fuel generalizing s with
  | zero =>
      refine ⟨s, rfl, ?_⟩
      cases hnext : s.next? bound with
      | none => rfl
      | some next =>
          have hlt := (State.step_of_next? hnext).remaining_lt
          omega
  | succ fuel ih =>
      rw [run]
      cases hnext : s.next? bound with
      | none => exact ⟨s, rfl, hnext⟩
      | some next =>
          have hlt := (State.step_of_next? hnext).remaining_lt
          obtain ⟨t, hlast, hend⟩ := ih (s := next) (by omega)
          exact ⟨t, by rw [List.getLast?_cons, hlast]; rfl, hend⟩

theorem foldl_max_le {counts : List Nat} {least : Nat} (h : ∀ n ∈ counts, n ≤ bound)
    (hleast : least ≤ bound) : counts.foldl max least ≤ bound := by
  induction counts generalizing least with
  | nil => exact hleast
  | cons n rest ih =>
      rw [List.foldl_cons]
      exact ih (fun m hm => h m (List.mem_cons_of_mem n hm))
        (Nat.max_le.mpr ⟨hleast, h n List.mem_cons_self⟩)

theorem peak_le (bound count : Nat) : peak bound count ≤ bound := by
  refine foldl_max_le ?_ (Nat.zero_le bound)
  intro n hn
  obtain ⟨s, hs, rfl⟩ := List.mem_map.mp hn
  exact running_length_le_of_run (reaches_of_mem_run hs)

/-- Every task is started once. -/
theorem starts_perm (hbound : 0 < bound) (count : Nat) :
    (starts bound count).Perm (List.range count) := by
  have hfuel : (State.initial count).remaining ≤ 2 * count := by
    simp [State.remaining, State.initial]
  obtain ⟨t, hlast, hend⟩ := exists_getLast?_run bound hfuel
  have hrun := reaches_of_mem_run (List.mem_of_getLast? hlast)
  have htasks := tasks_perm_of_run hrun
  obtain ⟨hwaiting, hrunning⟩ := State.eq_nil_of_next?_eq_none hbound hend
  have hstarts : starts bound count = t.finished ++ t.running := by
    rw [starts, states, hlast]
  rw [hstarts, hrunning, List.append_nil]
  simpa [State.tasks, State.initial, hwaiting, hrunning] using htasks

end Gather

namespace Scoring

variable {scorer : Scorer} {items : List WorkItem} {sent : List (List WorkItem)}
variable {size bound earlier : Nat} {order : List Nat}

def calls (scorer : Scorer) (sent : List (List WorkItem)) (earlier : Nat) :
    List (Except RuleFailure Value) :=
  sent.zipIdx.map fun (batch, i) => scorer (earlier + i) batch

theorem length_calls : (calls scorer sent earlier).length = sent.length := by
  rw [calls, List.length_map, List.length_zipIdx]

/-- Scoring that ends well has an answer to each call, and reads the answers batch by batch. -/
theorem exists_answers_of_scoreIn {scored : List ScoredItem} (hsize : 0 < size) (hbound : 0 < bound)
    (horder : ∀ i < (batches (size - 1) items).length, i ∈ order)
    (h : (scoreIn order scorer items size bound earlier).outcome = .ok scored) :
    ∃ answers parts, calls scorer (batches (size - 1) items) earlier = answers.map .ok ∧
      (((batches (size - 1) items).zip answers).mapM fun entry =>
        readAnswer entry.1 entry.2) = .ok parts ∧ parts.flatten = scored := by
  have hsize : ¬ (size : Int) < 1 := by omega
  have hconcurrency : ¬ (bound : Int) < 1 := by omega
  rw [scoreIn, if_neg hsize, if_neg hconcurrency] at h
  simp only [Int.toNat_natCast, Logged.outcome_bind, Logged.outcome_ofExcept, Logged.outcome_write,
    Logged.outcome_pure, ok_bind] at h
  obtain ⟨answers, hanswers, hrest⟩ := bind_eq_ok_iff.mp h
  obtain ⟨parts, hparts, hscored⟩ := bind_eq_ok_iff.mp hrest
  have hcalls := Gather.eq_map_ok_of_resultsIn (fun i hi => horder i (length_calls ▸ hi))
    (mapError_eq_ok_iff.mp hanswers)
  exact ⟨answers, parts, hcalls, hparts, Except.ok.inj hscored⟩

theorem range_filterMap_batches (sent : List (List WorkItem)) :
    (List.range (calls scorer sent earlier).length).filterMap (sent[·]?) = sent := by
  rw [length_calls]
  exact Pool.filterMap_getElem?_range sent

/-- What a scoring run that ends well sends, how many batches it sends at a time, and what it makes
of the answers. -/
theorem exists_answers_of_score {run : Run} (hsize : 0 < size) (hbound : 0 < bound)
    (h : (score scorer items size bound earlier).outcome = .ok run) :
    run.sent = batches (size - 1) items ∧ run.peak ≤ bound ∧
      ∃ answers parts, calls scorer (batches (size - 1) items) earlier = answers.map .ok ∧
        (((batches (size - 1) items).zip answers).mapM fun entry =>
          readAnswer entry.1 entry.2) = .ok parts ∧ parts.flatten = run.scored := by
  rw [score, Logged.outcome_bind] at h
  obtain ⟨scored, hscored, hrun⟩ := bind_eq_ok_iff.mp h
  obtain rfl := Except.ok.inj hrun
  exact ⟨rfl, Gather.peak_le _ _,
    exists_answers_of_scoreIn hsize hbound (fun i hi => List.mem_range.mpr hi) hscored⟩

end Scoring

open Gather Scoring

/-- In any run with some permits, tasks that were called and have not settled are never more than
the permits, and no task is called twice.  Every run comes to an end; then each task was called
once, and the outcomes in the order of the tasks are theirs, which makes the results if no task
failed.  The run that is carried out keeps to this as well.  For the calls of a scorer it means that
the batches, which are the items cut into pieces of a limited size, are sent once each, a limited
number of them at a time. -/
theorem permits_bound_calls {ε α : Type} (bound : Nat) (hbound : 0 < bound) :
    (∀ (tasks : List (Except ε α)) (p : Progress ε α), Reaches bound tasks p →
      p.called.Perm (p.running ++ p.settled.map Prod.fst) ∧ p.running.length ≤ bound ∧
      p.called.Nodup ∧
      (∃ q, Relation.ReflTransGen (Advance tasks) p q ∧ q.IsFinal tasks) ∧
      (p.IsFinal tasks →
        p.called.Perm (List.range tasks.length) ∧
        Pool.inItemOrder tasks.length p.settled = tasks ∧
        outcomes bound tasks = .ok (Pool.inItemOrder tasks.length p.settled) ∧
        ∀ results, tasks = results.map .ok →
          resultsIn (p.settled.map Prod.fst) bound tasks = .ok results)) ∧
    (∀ count, peak bound count ≤ bound ∧ (starts bound count).Perm (List.range count)) ∧
    ∀ (scorer : Scorer) (items : List WorkItem) (size earlier : Nat), 0 < size →
      (batches (size - 1) items).flatten = items ∧
      (∀ batch ∈ batches (size - 1) items, batch ≠ [] ∧ batch.length ≤ size) ∧
      (∀ p, Reaches bound (calls scorer (batches (size - 1) items) earlier) p →
        p.running.length ≤ bound ∧
        (p.called.filterMap ((batches (size - 1) items)[·]?)).Subperm (batches (size - 1) items) ∧
        (p.IsFinal (calls scorer (batches (size - 1) items) earlier) →
          (p.called.filterMap ((batches (size - 1) items)[·]?)).Perm (batches (size - 1) items))) ∧
      ∀ run, (score scorer items size bound earlier).outcome = .ok run →
        run.sent = batches (size - 1) items ∧ run.peak ≤ bound ∧
        ∃ answers : List Value,
          calls scorer (batches (size - 1) items) earlier = answers.map .ok := by
  refine ⟨?_, ?_, ?_⟩
  · intro tasks p hreaches
    have hp := hreaches.coherent
    refine ⟨hp.called_perm, hp.running_length_le, hp.called_nodup, exists_isFinal tasks p, ?_⟩
    intro hfinal
    have hordered := hp.inItemOrder_settled hbound hfinal
    refine ⟨hp.called_perm_range hbound hfinal, hordered, ?_, ?_⟩
    · rw [hordered, outcomes, boundOf_eq_ok hbound]
      rfl
    · intro results hresults
      exact hp.resultsIn_settled hbound hfinal hresults
  · intro count
    exact ⟨peak_le bound count, starts_perm hbound count⟩
  · intro scorer items size earlier hsize
    refine ⟨flatten_batches _ items, ?_, ?_, ?_⟩
    · intro batch hbatch
      have hlength := length_le_of_mem_batches hbatch
      exact ⟨ne_nil_of_mem_batches hbatch, by omega⟩
    · intro p hreaches
      have hp := hreaches.coherent
      refine ⟨hp.running_length_le, ?_, ?_⟩
      · obtain ⟨called, hperm, hsublist⟩ := hp.called_subperm
        have hsent := (hsublist.filterMap ((batches (size - 1) items)[·]?)).subperm
        rw [range_filterMap_batches] at hsent
        exact ((hperm.symm.filterMap _).subperm).trans hsent
      · intro hfinal
        have hsent :=
          (hp.called_perm_range hbound hfinal).filterMap ((batches (size - 1) items)[·]?)
        rwa [range_filterMap_batches] at hsent
    · intro run hrun
      obtain ⟨hsent, hpeak, answers, -, hcalls, -, -⟩ := exists_answers_of_score hsize hbound hrun
      exact ⟨hsent, hpeak, answers, hcalls⟩

def secondFails : List (Except String Nat) :=
  [.ok 7, .error "lost", .ok 9]

/-- The third task takes the first permit, the second one has to wait for it and fails, and still
all outcomes are there in order. -/
theorem permits_bound_calls_secondFails :
    0 < 2 ∧ ∃ p, Reaches 2 secondFails p ∧ p.called = [2, 0, 1] ∧
      p.settled.map Prod.fst = [2, 1, 0] ∧ p.IsFinal secondFails ∧
      p.called.Perm (List.range 3) ∧
      Pool.inItemOrder 3 p.settled = [.ok 7, .error "lost", .ok 9] ∧
      outcomes 2 secondFails = .ok (Pool.inItemOrder 3 p.settled) := by
  let p : Progress String Nat :=
    ((((((Progress.initial 2 3).call 2).call 0).settle 2 (.ok 9)).call 1).settle 1
      (.error "lost")).settle 0 (.ok 7)
  have hreaches : Reaches 2 secondFails p := by
    apply Relation.ReflTransGen.tail _ (.settle 0 _ (by decide) rfl)
    apply Relation.ReflTransGen.tail _ (.settle 1 _ (by decide) rfl)
    apply Relation.ReflTransGen.tail _ (.call 1 (by decide) (by decide))
    apply Relation.ReflTransGen.tail _ (.settle 2 _ (by decide) rfl)
    apply Relation.ReflTransGen.tail _ (.call 0 (by decide) (by decide))
    exact .single (.call 2 (by decide) (by decide))
  have hfinal : p.IsFinal secondFails := by
    intro q hstep
    cases hstep with
    | call task hwaiting _ => exact absurd hwaiting List.not_mem_nil
    | settle task outcome hrunning _ => exact absurd hrunning List.not_mem_nil
  obtain ⟨hruns, -, -⟩ := permits_bound_calls (ε := String) (α := Nat) 2 (by decide)
  obtain ⟨-, -, -, -, hend⟩ := hruns secondFails p hreaches
  obtain ⟨hcalled, hordered, houtcomes, -⟩ := hend hfinal
  exact ⟨by decide, p, hreaches, rfl, rfl, hfinal, hcalled, hordered, houtcomes⟩

end TaintTriage
