import TaintTriage.Pool

/-!
Running tasks with a bound on how many run at once.  A state tells which tasks wait, run and are
finished; the next waiting task may start when fewer than the bound run, and any running task may
finish.  The results are those of the tasks in order, whatever order they finished in.
-/

namespace TaintTriage.Gather

/-- The progress of a number of tasks. -/
structure State where
  waiting : List Nat
  running : List Nat
  finished : List Nat
deriving DecidableEq, Repr

/-- Nothing has started yet. -/
def State.initial (count : Nat) : State :=
  ⟨List.range count, [], []⟩

/-- The next waiting task starts. -/
def State.start? (bound : Nat) (s : State) : Option State :=
  match s.waiting with
  | [] => none
  | task :: rest =>
      if s.running.length < bound then some ⟨rest, s.running ++ [task], s.finished⟩ else none

def State.finish? (task : Nat) (s : State) : Option State :=
  if task ∈ s.running then some ⟨s.waiting, s.running.erase task, s.finished ++ [task]⟩
  else none

/-- One step of any run with the given bound. -/
inductive Step (bound : Nat) : State → State → Prop where
  | start {s t : State} : s.start? bound = some t → Step bound s t
  | finish {s t : State} (task : Nat) : s.finish? task = some t → Step bound s t

/-- One step of the run that starts tasks as early as it can and lets the oldest finish first. -/
def State.next? (bound : Nat) (s : State) : Option State :=
  (s.start? bound).or
    (match s.running with
    | [] => none
    | task :: _ => s.finish? task)

/-- The states of that run, the first one included. -/
def run (bound : Nat) : Nat → State → List State
  | 0, s => [s]
  | fuel + 1, s =>
      match s.next? bound with
      | none => [s]
      | some t => s :: run bound fuel t

/-- The states of the run of a number of tasks; each task takes two steps. -/
def states (bound count : Nat) : List State :=
  run bound (2 * count) (.initial count)

/-- The most tasks that run at once. -/
def peak (bound count : Nat) : Nat :=
  ((states bound count).map (·.running.length)).foldl max 0

/-- The tasks in the order in which they start. -/
def starts (bound count : Nat) : List Nat :=
  match (states bound count).getLast? with
  | some s => s.finished ++ s.running
  | none => []

/-- Why tasks are not run to their end. -/
inductive Fault (ε : Type) where
  /-- The bound is below zero. -/
  | negativeBound
  /-- No task may run, and there are some. -/
  | stuck
  /-- A task failed. -/
  | failed (cause : ε)

def Fault.message {ε : Type} (wording : ε → String) : Fault ε → String
  | .negativeBound => "Semaphore initial value must be >= 0"
  | .stuck => "No task can be started"
  | .failed cause => wording cause

variable {ε α : Type}

/-- The bound as a number of tasks. -/
def boundOf (bound : Int) (count : Nat) : Except (Fault ε) Nat :=
  if bound < 0 then .error .negativeBound
  else if bound = 0 ∧ count ≠ 0 then .error .stuck
  else .ok bound.toNat

/-- The bound that was supplied, for a number of tasks.  Tasks are counted down from it to zero, so
a number with a fraction never stops any. -/
def suppliedBound (bound : Value) (count : Nat) : Except ValueFault Int := do
  if ← bound.isLess (.int 0) then return -1
  match bound.magnitude? with
  | some (.whole n) => return n
  | _ => return max count 1

/-- The outcomes of all tasks in order, failures included. -/
def outcomes (bound : Int) (tasks : List (Except ε α)) :
    Except (Fault ε) (List (Except ε α)) := do
  let _ ← boundOf bound tasks.length
  return tasks

/-- The results of all tasks in order, when they finish in the given order.  The first one to fail
decides, and the others are not waited for. -/
def resultsIn (order : List Nat) (bound : Int) (tasks : List (Except ε α)) :
    Except (Fault ε) (List α) := do
  let _ ← boundOf bound tasks.length
  let done := Pool.finished id tasks order
  let _ ← done.mapM fun entry => entry.2.mapError Fault.failed
  (Pool.inItemOrder tasks.length done).mapM fun outcome => outcome.mapError Fault.failed

/-- The results of all tasks when they finish in the order in which they start. -/
def results (bound : Int) (tasks : List (Except ε α)) : Except (Fault ε) (List α) :=
  resultsIn (List.range tasks.length) bound tasks

example : peak 2 5 = 2 ∧ starts 2 5 = [0, 1, 2, 3, 4] := by decide

end TaintTriage.Gather
