import Mathlib.Data.List.Perm.Basic
import Mathlib.Logic.Relation
import TaintTriage.Gather
import TaintTriage.Proofs.PoolOrder

/-!
The orders in which tasks may finish when a bounded number of them runs at once.  No step loses a
task or runs one twice, so that each task has finished once when a run is at its end, and results of
tasks that do not fail are the same in every order.
-/

namespace TaintTriage.Gather

variable {bound count : Nat} {s t : State} {order : List Nat}

namespace State

def tasks (s : State) : List Nat :=
  s.waiting ++ s.running ++ s.finished

theorem start?_eq_some (h : s.start? bound = some t) :
    ∃ task rest, s.waiting = task :: rest ∧ s.running.length < bound ∧
      t = ⟨rest, s.running ++ [task], s.finished⟩ := by
  rw [start?] at h
  cases hwaiting : s.waiting with
  | nil => simp [hwaiting] at h
  | cons task rest =>
      simp only [hwaiting] at h
      split at h
      next hfree => exact ⟨task, rest, rfl, hfree, (Option.some.inj h).symm⟩
      next => exact absurd h (Option.some_ne_none t).symm

theorem finish?_eq_some {task : Nat} (h : s.finish? task = some t) :
    task ∈ s.running ∧ t = ⟨s.waiting, s.running.erase task, s.finished ++ [task]⟩ := by
  rw [finish?] at h
  split at h
  next hrunning => exact ⟨hrunning, (Option.some.inj h).symm⟩
  next => exact absurd h (Option.some_ne_none t).symm

end State

/-- A step moves one task on and keeps all of them. -/
theorem Step.tasks_perm (h : Step bound s t) : t.tasks.Perm s.tasks := by
  cases h with
  | start h =>
      obtain ⟨task, rest, hwaiting, -, rfl⟩ := State.start?_eq_some h
      rw [State.tasks, State.tasks, hwaiting]
      -- From the front of those that wait to the back of those that run.
      have hmove : (rest ++ (s.running ++ [task])).Perm (task :: (rest ++ s.running)) := by
        rw [← List.append_assoc]
        exact List.perm_append_singleton task (rest ++ s.running)
      exact hmove.append_right s.finished
  | finish task h =>
      obtain ⟨hrunning, rfl⟩ := State.finish?_eq_some h
      have hlast : (s.running.erase task ++ (s.finished ++ [task])).Perm
          (task :: (s.running.erase task ++ s.finished)) := by
        rw [← List.append_assoc]
        exact List.perm_append_singleton task (s.running.erase task ++ s.finished)
      have hback : (task :: (s.running.erase task ++ s.finished)).Perm (s.running ++ s.finished) :=
        (List.perm_cons_erase hrunning).symm.append_right s.finished
      rw [State.tasks, State.tasks, List.append_assoc, List.append_assoc]
      exact (hlast.trans hback).append_left s.waiting

theorem tasks_perm_of_run (h : Relation.ReflTransGen (Step bound) s t) :
    t.tasks.Perm s.tasks := by
  induction h with
  | refl => exact List.Perm.refl s.tasks
  | tail _ hstep ih => exact hstep.tasks_perm.trans ih

/-- A number of tasks may finish in an order if some run with the bound leads there. -/
def FinishesIn (bound count : Nat) (order : List Nat) : Prop :=
  Relation.ReflTransGen (Step bound) (.initial count) ⟨[], [], order⟩

theorem FinishesIn.perm_range (h : FinishesIn bound count order) :
    order.Perm (List.range count) := by
  have htasks := tasks_perm_of_run h
  simpa [State.tasks, State.initial] using htasks

theorem FinishesIn.mem_of_lt (h : FinishesIn bound count order) {i : Nat} (hi : i < count) :
    i ∈ order :=
  h.perm_range.mem_iff.mpr (List.mem_range.mpr hi)

theorem run_one_by_one (hbound : 0 < bound) (waiting finished : List Nat) :
    Relation.ReflTransGen (Step bound) ⟨waiting, [], finished⟩ ⟨[], [], finished ++ waiting⟩ := by
  induction waiting generalizing finished with
  | nil => simpa using Relation.ReflTransGen.refl
  | cons task rest ih =>
      -- Nothing else runs, so that the task has a place and is the next one to finish.
      have hstart : Step bound ⟨task :: rest, [], finished⟩ ⟨rest, [task], finished⟩ :=
        .start (if_pos hbound)
      have hfinish : Step bound ⟨rest, [task], finished⟩ ⟨rest, [], finished ++ [task]⟩ :=
        .finish task (by simp [State.finish?])
      have hrest := ih (finished ++ [task])
      rw [List.append_assoc] at hrest
      exact .head hstart (.head hfinish hrest)

/-- Tasks may finish in the order in which they start, whatever the bound is. -/
theorem finishesIn_range (hbound : 0 < bound) (count : Nat) :
    FinishesIn bound count (List.range count) :=
  run_one_by_one hbound (List.range count) []

section Results

variable {ε α : Type}

theorem boundOf_eq_ok (hbound : 0 < bound) :
    boundOf (ε := ε) bound count = .ok bound := by
  rw [boundOf, if_neg (by omega), if_neg (by omega)]
  rfl

/-- Tasks that do not fail give their results, each at its place, in whatever order they finish. -/
theorem resultsIn_map_ok (hbound : 0 < bound) (results : List α)
    (hall : ∀ i < results.length, i ∈ order) :
    resultsIn order bound (results.map (Except.ok : α → Except ε α)) = .ok results := by
  have hlength : ∀ i < (results.map (Except.ok : α → Except ε α)).length, i ∈ order := by
    intro i hi
    exact hall i (List.length_map _ ▸ hi)
  have hdone : ∀ entry ∈ Pool.finished id (results.map (Except.ok : α → Except ε α)) order,
      ∃ a, entry.2.mapError Fault.failed = .ok a := by
    intro entry hentry
    obtain ⟨i, -, hfound⟩ := List.mem_filterMap.mp hentry
    rw [List.getElem?_map, Option.map_map] at hfound
    obtain ⟨a, -, rfl⟩ := Option.map_eq_some_iff.mp hfound
    exact ⟨a, rfl⟩
  obtain ⟨others, hothers⟩ := exists_mapM_eq_ok hdone
  have hresults : (results.map (Except.ok : α → Except ε α)).mapM
      (fun outcome => outcome.mapError Fault.failed) = .ok results := by
    rw [mapM_eq_ok_iff, List.map_map]
    rfl
  simp only [resultsIn, boundOf_eq_ok hbound, ok_bind, hothers, Pool.inItemOrder_finished hlength,
    List.map_id, hresults]

/-- Where there are results, every task has one, at its place. -/
theorem eq_map_ok_of_resultsIn {bound : Int} {tasks : List (Except ε α)} {results : List α}
    (hall : ∀ i < tasks.length, i ∈ order) (h : resultsIn order bound tasks = .ok results) :
    tasks = results.map .ok := by
  obtain ⟨-, -, hrest⟩ := bind_eq_ok_iff.mp h
  obtain ⟨-, -, hordered⟩ := bind_eq_ok_iff.mp hrest
  rw [Pool.inItemOrder_finished hall, List.map_id] at hordered
  have hresults : results.map (Except.ok : α → Except ε α) = tasks.map id :=
    map_eq_map_of_mapM hordered fun _ _ ha => (mapError_eq_ok_iff.mp ha).symm
  rw [hresults, List.map_id]

end Results

end TaintTriage.Gather
