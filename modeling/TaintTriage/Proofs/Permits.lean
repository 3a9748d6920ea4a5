import TaintTriage.Proofs.Batches
import TaintTriage.Proofs.FinishOrder

/-!
Tasks that need a permit to run.  Any waiting task may take a free permit, and any running task may
end, with a result or with a failure; either way it gives its permit back.  Permits are neither lost
nor made on the way, and each task is called at most once, so that no more tasks run than there are
permits, and a run that is at its end has called each task once and has its outcome.  The runs that
start tasks in order are among these runs, and so are the calls that send batches to a scorer.
-/

namespace TaintTriage.Gather

variable {ε α : Type}

/-- How far tasks have come that need permits to run: those that have been called run or are
settled, each with its outcome. -/
structure Progress (ε α : Type) where
  free : Nat
  waiting : List Nat
  called : List Nat
  running : List Nat
  settled : List (Nat × Except ε α)

namespace Progress

/-- All permits are free, and all tasks wait. -/
def initial (permits count : Nat) : Progress ε α :=
  ⟨permits, List.range count, [], [], []⟩

def call (task : Nat) (p : Progress ε α) : Progress ε α where
  free := p.free - 1
  waiting := p.waiting.erase task
  called := p.called ++ [task]
  running := p.running ++ [task]
  settled := p.settled

/-- A task ends and gives its permit back. -/
def settle (task : Nat) (outcome : Except ε α) (p : Progress ε α) : Progress ε α where
  free := p.free + 1
  waiting := p.waiting
  called := p.called
  running := p.running.erase task
  settled := p.settled ++ [(task, outcome)]

end Progress

/-- One step of any run of tasks with the given outcomes. -/
inductive Advance (tasks : List (Except ε α)) : Progress ε α → Progress ε α → Prop where
  | call {p : Progress ε α} (task : Nat) (hwaiting : task ∈ p.waiting) (hfree : 0 < p.free) :
      Advance tasks p (p.call task)
  | settle {p : Progress ε α} (task : Nat) (outcome : Except ε α) (hrunning : task ∈ p.running)
      (houtcome : tasks[task]? = some outcome) : Advance tasks p (p.settle task outcome)

/-- Some run with a number of permits leads to a state. -/
def Reaches (permits : Nat) (tasks : List (Except ε α)) (p : Progress ε α) : Prop :=
  Relation.ReflTransGen (Advance tasks) (.initial permits tasks.length) p

/-- No step is left. -/
def Progress.IsFinal (tasks : List (Except ε α)) (p : Progress ε α) : Prop :=
  ∀ q, ¬ Advance tasks p q

/-- Every permit is free or taken, every task waits or was called, once, and every task that was
called runs or is settled with its own outcome. -/
structure Progress.Coherent (permits : Nat) (tasks : List (Except ε α)) (p : Progress ε α) :
    Prop where
  permits_eq : p.free + p.running.length = permits
  tasks_perm : (p.waiting ++ p.called).Perm (List.range tasks.length)
  called_perm : p.called.Perm (p.running ++ p.settled.map Prod.fst)
  outcome_eq : ∀ entry ∈ p.settled, tasks[entry.1]? = some entry.2

variable {permits : Nat} {tasks : List (Except ε α)} {p q : Progress ε α} {task : Nat}

namespace Progress.Coherent

theorem initial (permits : Nat) (tasks : List (Except ε α)) :
    (Progress.initial permits tasks.length).Coherent permits tasks where
  permits_eq := Nat.add_zero permits
  tasks_perm := by rw [Progress.initial, List.append_nil]
  called_perm := List.Perm.refl []
  outcome_eq := fun _ hentry => absurd hentry List.not_mem_nil

theorem call (h : p.Coherent permits tasks) (hwaiting : task ∈ p.waiting) (hfree : 0 < p.free) :
    (p.call task).Coherent permits tasks where
  permits_eq := by
    have hpermits := h.permits_eq
    simp only [Progress.call, List.length_append, List.length_singleton]
    omega
  tasks_perm := by
    -- The task moves from those that wait to the end of those that were called.
    have hmoved : (p.waiting.erase task ++ (p.called ++ [task])).Perm
        (task :: (p.waiting.erase task ++ p.called)) := by
      rw [← List.append_assoc]
      exact List.perm_append_singleton task _
    have hback : (task :: (p.waiting.erase task ++ p.called)).Perm (p.waiting ++ p.called) :=
      (List.perm_cons_erase hwaiting).symm.append_right p.called
    exact (hmoved.trans hback).trans h.tasks_perm
  called_perm := by
    have hlast : (p.called ++ [task]).Perm (task :: (p.running ++ p.settled.map Prod.fst)) :=
      (List.perm_append_singleton task p.called).trans (h.called_perm.cons task)
    have hmiddle : (task :: (p.running ++ p.settled.map Prod.fst)).Perm
        ((p.running ++ [task]) ++ p.settled.map Prod.fst) := by
      rw [List.append_assoc, List.singleton_append]
      exact List.perm_middle.symm
    exact hlast.trans hmiddle
  outcome_eq := h.outcome_eq

theorem settle (h : p.Coherent permits tasks) {outcome : Except ε α} (hrunning : task ∈ p.running)
    (houtcome : tasks[task]? = some outcome) : (p.settle task outcome).Coherent permits tasks where
  permits_eq := by
    have hpermits := h.permits_eq
    have hpos : 0 < p.running.length := List.length_pos_of_mem hrunning
    simp only [Progress.settle, List.length_erase_of_mem hrunning]
    omega
  tasks_perm := h.tasks_perm
  called_perm := by
    have hback : (p.running ++ p.settled.map Prod.fst).Perm
        (task :: (p.running.erase task ++ p.settled.map Prod.fst)) :=
      (List.perm_cons_erase hrunning).append_right _
    have hlast : (task :: (p.running.erase task ++ p.settled.map Prod.fst)).Perm
        (p.running.erase task ++ (p.settled ++ [(task, outcome)]).map Prod.fst) := by
      rw [List.map_append, ← List.append_assoc]
      exact (List.perm_append_singleton task _).symm
    exact (h.called_perm.trans hback).trans hlast
  outcome_eq := by
    intro entry hentry
    rcases List.mem_append.mp hentry with hearlier | hlast
    · exact h.outcome_eq entry hearlier
    · obtain rfl := List.mem_singleton.mp hlast
      exact houtcome

end Progress.Coherent

theorem Advance.coherent (h : Advance tasks p q) (hp : p.Coherent permits tasks) :
    q.Coherent permits tasks := by
  cases h with
  | call task hwaiting hfree => exact hp.call hwaiting hfree
  | settle task outcome hrunning houtcome => exact hp.settle hrunning houtcome

theorem Reaches.coherent (h : Reaches permits tasks p) : p.Coherent permits tasks := by
  induction h with
  | refl => exact .initial permits tasks
  | tail _ hstep ih => exact hstep.coherent ih

namespace Progress.Coherent

theorem running_length_le (h : p.Coherent permits tasks) : p.running.length ≤ permits := by
  have hpermits := h.permits_eq
  omega

theorem called_subperm (h : p.Coherent permits tasks) :
    p.called.Subperm (List.range tasks.length) :=
  (List.sublist_append_right p.waiting p.called).subperm.trans h.tasks_perm.subperm

theorem called_nodup (h : p.Coherent permits tasks) : p.called.Nodup := by
  have hall : (p.waiting ++ p.called).Nodup := h.tasks_perm.nodup_iff.mpr List.nodup_range
  exact (List.nodup_append.mp hall).2.1

theorem exists_outcome (h : p.Coherent permits tasks) (hrunning : task ∈ p.running) :
    ∃ outcome, tasks[task]? = some outcome := by
  have hcalled : task ∈ p.called :=
    h.called_perm.mem_iff.mpr (List.mem_append_left _ hrunning)
  have hlt : task < tasks.length := List.mem_range.mp (h.called_subperm.subset hcalled)
  exact ⟨tasks[task], List.getElem?_eq_getElem hlt⟩

/-- As long as a task runs it may end, and if none runs all permits are free. -/
theorem eq_nil_of_isFinal (h : p.Coherent permits tasks) (hpermits : 0 < permits)
    (hfinal : p.IsFinal tasks) : p.running = [] ∧ p.waiting = [] := by
  have hrunning : p.running = [] := by
    apply List.eq_nil_iff_forall_not_mem.mpr
    intro task htask
    obtain ⟨outcome, houtcome⟩ := h.exists_outcome htask
    exact hfinal _ (.settle task outcome htask houtcome)
  refine ⟨hrunning, List.eq_nil_iff_forall_not_mem.mpr fun task htask => ?_⟩
  have hfree : p.free = permits := by
    have hall := h.permits_eq
    rwa [hrunning, List.length_nil, Nat.add_zero] at hall
  exact hfinal _ (.call task htask (hfree ▸ hpermits))

theorem called_perm_range (h : p.Coherent permits tasks) (hpermits : 0 < permits)
    (hfinal : p.IsFinal tasks) : p.called.Perm (List.range tasks.length) := by
  have htasks := h.tasks_perm
  rwa [(h.eq_nil_of_isFinal hpermits hfinal).2, List.nil_append] at htasks

theorem settled_perm_range (h : p.Coherent permits tasks) (hpermits : 0 < permits)
    (hfinal : p.IsFinal tasks) : (p.settled.map Prod.fst).Perm (List.range tasks.length) := by
  have hcalled := h.called_perm
  rw [(h.eq_nil_of_isFinal hpermits hfinal).1, List.nil_append] at hcalled
  exact hcalled.symm.trans (h.called_perm_range hpermits hfinal)

/-- What has settled is what is known once the tasks have finished in that order. -/
theorem finished_eq_settled (h : p.Coherent permits tasks) :
    Pool.finished id tasks (p.settled.map Prod.fst) = p.settled := by
  have hentry : ∀ entry ∈ p.settled,
      (tasks[entry.1]?.map fun outcome => (entry.1, id outcome)) = some entry := by
    intro entry hentry
    rw [h.outcome_eq entry hentry]
    rfl
  rw [Pool.finished, List.filterMap_map]
  calc p.settled.filterMap _ = p.settled.filterMap some := List.filterMap_congr hentry
    _ = p.settled := List.filterMap_some

/-- The outcomes that settled, put in the order of the tasks, are the outcomes of the tasks. -/
theorem inItemOrder_settled (h : p.Coherent permits tasks) (hpermits : 0 < permits)
    (hfinal : p.IsFinal tasks) : Pool.inItemOrder tasks.length p.settled = tasks := by
  have hall : ∀ i < tasks.length, i ∈ p.settled.map Prod.fst := fun i hi =>
    (h.settled_perm_range hpermits hfinal).mem_iff.mpr (List.mem_range.mpr hi)
  have hordered := Pool.inItemOrder_finished (f := id) hall
  rwa [h.finished_eq_settled, List.map_id] at hordered

/-- If no task fails, the results are those of the tasks, whatever order they settled in. -/
theorem resultsIn_settled (h : p.Coherent permits tasks) (hpermits : 0 < permits)
    (hfinal : p.IsFinal tasks) {results : List α} (hresults : tasks = results.map .ok) :
    resultsIn (p.settled.map Prod.fst) permits tasks = .ok results := by
  have hlength : tasks.length = results.length := by rw [hresults, List.length_map]
  have hall : ∀ i < results.length, i ∈ p.settled.map Prod.fst := fun i hi =>
    (h.settled_perm_range hpermits hfinal).mem_iff.mpr (List.mem_range.mpr (hlength ▸ hi))
  rw [hresults]
  exact resultsIn_map_ok hpermits results hall

end Progress.Coherent

/-- The number of steps that are left. -/
def Progress.remaining (p : Progress ε α) : Nat :=
  2 * p.waiting.length + p.running.length

theorem Advance.remaining_lt (h : Advance tasks p q) : q.remaining < p.remaining := by
  cases h with
  | call task hwaiting _ =>
      have hpos : 0 < p.waiting.length := List.length_pos_of_mem hwaiting
      simp only [Progress.remaining, Progress.call, List.length_erase_of_mem hwaiting,
        List.length_append, List.length_singleton]
      omega
  | settle task outcome hrunning _ =>
      have hpos : 0 < p.running.length := List.length_pos_of_mem hrunning
      simp only [Progress.remaining, Progress.settle, List.length_erase_of_mem hrunning]
      omega

/-- Every run comes to an end, whichever steps it takes. -/
theorem exists_isFinal (tasks : List (Except ε α)) (p : Progress ε α) :
    ∃ q, Relation.ReflTransGen (Advance tasks) p q ∧ q.IsFinal tasks := by
  induction hsteps : p.remaining using Nat.strongRecOn generalizing p with
  | ind steps ih =>
      by_cases hfinal : p.IsFinal tasks
      · exact ⟨p, .refl, hfinal⟩
      · obtain ⟨q, hstep⟩ := not_forall_not.mp hfinal
        obtain ⟨last, hrun, hlast⟩ := ih q.remaining (hsteps ▸ hstep.remaining_lt) q rfl
        exact ⟨last, .head hstep hrun, hlast⟩

end TaintTriage.Gather
