/-
# The threads of a thread pool

`ThreadPool` as its threads run it, from a successful `start` on. Worker threads wait on a
condition variable, take tasks and run them; other threads, and the tasks themselves, call
`submit` and `stop`. The mutex makes each critical section one step; between two sections
of a call, and between a push and its `notify_one`, every other thread may go on.

What a task does besides such calls is not modelled, and it ends in any way. `view` is the
pool as `ThreadPool` has it: what the router was proved against is what these threads do.
-/

import LiteIM.Concurrency.ThreadPool
import LiteIM.Foundation.Transition
import Mathlib.Algebra.BigOperators.Group.Finset.Piecewise
import Mathlib.Algebra.Order.Group.Multiset
import Mathlib.Data.Fintype.Basic

namespace LiteIM

open Foundation Function

namespace ThreadPool

/-- A worker of the pool, or a thread outside of it. -/
inductive Thread (ι : Type) (n : Nat) where
  | worker (w : Fin n)
  | outside (i : ι)
  deriving DecidableEq

/-- Where a worker is in `workerLoop`. -/
inductive WorkerPoint (τ : Type) where
  /-- About to lock the mutex and look at the queue. -/
  | waking
  /-- Waiting on the condition variable. -/
  | blocked
  | running (task : τ)
  | left

/-- Where a thread is in a call of `submit` or `stop`. -/
inductive Call where
  | idle
  /-- `submit` has queued the task; `notify_one` comes next. -/
  | submitted
  /-- `stop` has cleared `running_`; `notify_all` comes next. -/
  | stopping
  /-- `stop` waits for `stop_mutex_`. -/
  | locking
  /-- `stop` holds it, and looks whether there are workers to join. -/
  | locked
  /-- `stop` has joined the first `count` workers. -/
  | joining (count : Nat)
  deriving DecidableEq

/-- How a task ends; the worker catches what it throws. -/
inductive TaskEnding where
  | returned
  | threw
  deriving DecidableEq, Repr

/-- A started pool with `n` workers. -/
structure Threads (ι τ : Type) (n : Nat) where
  maxPendingTasks : Nat
  running : Bool := true
  tasks : List τ := []
  /-- `workers_` is empty: all its threads were joined. -/
  cleared : Bool := false
  stopMutex : Bool := false
  points : Fin n → WorkerPoint τ := fun _ => .waking
  calls : Thread ι n → Call := fun _ => .idle

namespace WorkerPoint

variable {τ : Type}

/-- The task the worker runs. -/
def task? : WorkerPoint τ → Multiset τ
  | .running task => {task}
  | _ => 0

/-- What `notify_all` does to a worker. -/
def notified : WorkerPoint τ → WorkerPoint τ
  | .blocked => .waking
  | point => point

theorem notified_task? (point : WorkerPoint τ) : point.notified.task? = point.task? := by
  cases point <;> rfl

theorem notified_ne_blocked (point : WorkerPoint τ) : point.notified ≠ .blocked := by
  cases point <;> exact nofun

end WorkerPoint

namespace Threads

variable {ι τ : Type} {n : Nat}

/-- The tasks that workers at these points run. -/
def tasksAt (points : Fin n → WorkerPoint τ) : Multiset τ := ∑ w, (points w).task?

/-- The tasks being run. -/
def busy (threads : Threads ι τ n) : Multiset τ := tasksAt threads.points

/-- What `submit` sees of the pool. -/
def shared (threads : Threads ι τ n) : ThreadPool τ where
  workerCount := n
  maxPendingTasks := threads.maxPendingTasks
  running := threads.running
  tasks := threads.tasks
  workers := if threads.cleared then 0 else n

/-- A thread may begin a call: it is in none, and a worker is in a task. -/
def MayCall (threads : Threads ι τ n) (thread : Thread ι n) : Prop :=
  threads.calls thread = .idle ∧ ∀ w, thread = .worker w →
    ∃ task, threads.points w = .running task

inductive Label (ι τ : Type) (n : Nat) where
  | accept (thread : Thread ι n) (task : τ)
  | reject (thread : Thread ι n) (task : Option τ) (status : Error)
  /-- `notify_one` wakes a worker, if one is blocked, and `submit` returns. -/
  | notify (thread : Thread ι n) (woken : Option (Fin n))
  /-- `stop` clears `running_`. -/
  | requestStop (thread : Thread ι n)
  | notifyAll (thread : Thread ι n)
  | lockStop (thread : Thread ι n)
  | startJoining (thread : Thread ι n)
  | join (thread : Thread ι n) (w : Fin n)
  | stopReturns (thread : Thread ι n)
  | take (w : Fin n) (task : τ)
  | block (w : Fin n)
  | leave (w : Fin n)
  /-- A condition variable may wake a thread for no reason. -/
  | spurious (w : Fin n)
  | finish (w : Fin n) (task : τ) (ending : TaskEnding)

/-- One critical section, or one call of the system. -/
inductive Step [DecidableEq ι] (threads : Threads ι τ n) :
    Label ι τ n → Threads ι τ n → Prop where
  | accept {thread : Thread ι n} {task : τ} (may : threads.MayCall thread)
      (accepted : (threads.shared.submit (some task)).1 = .ok ()) :
      Step threads (.accept thread task) { threads with
        tasks := (threads.shared.submit (some task)).2.tasks
        calls := update threads.calls thread .submitted }
  | reject {thread : Thread ι n} {task : Option τ} {status : Error}
      (may : threads.MayCall thread)
      (rejected : (threads.shared.submit task).1 = .error status) :
      Step threads (.reject thread task status) threads
  | notify {thread : Thread ι n} {w : Fin n} (call : threads.calls thread = .submitted)
      (blocked : threads.points w = .blocked) :
      Step threads (.notify thread (some w)) { threads with
        points := update threads.points w .waking
        calls := update threads.calls thread .idle }
  | notifyNone {thread : Thread ι n} (call : threads.calls thread = .submitted)
      (unblocked : ∀ w, threads.points w ≠ .blocked) :
      Step threads (.notify thread none) { threads with
        calls := update threads.calls thread .idle }
  | stopIgnored {thread : Thread ι n} (may : threads.MayCall thread)
      (stopped : threads.running = false) (empty : threads.cleared = true) :
      Step threads (.stopReturns thread) threads
  | requestStop {thread : Thread ι n} (may : threads.MayCall thread)
      (started : threads.running = true ∨ threads.cleared = false) :
      Step threads (.requestStop thread) { threads with
        running := false
        calls := update threads.calls thread .stopping }
  | notifyAll {i : ι} (call : threads.calls (.outside i) = .stopping) :
      Step threads (.notifyAll (.outside i)) { threads with
        points := fun w => (threads.points w).notified
        calls := update threads.calls (.outside i) .locking }
  -- A worker does not join, and `stop` returns.
  | notifyAllByWorker {w : Fin n} (call : threads.calls (.worker w) = .stopping) :
      Step threads (.stopReturns (.worker w)) { threads with
        points := fun w => (threads.points w).notified
        calls := update threads.calls (.worker w) .idle }
  | lockStop {thread : Thread ι n} (call : threads.calls thread = .locking)
      (free : threads.stopMutex = false) :
      Step threads (.lockStop thread) { threads with
        stopMutex := true
        calls := update threads.calls thread .locked }
  | alreadyJoined {thread : Thread ι n} (call : threads.calls thread = .locked)
      (empty : threads.cleared = true) :
      Step threads (.stopReturns thread) { threads with
        stopMutex := false
        calls := update threads.calls thread .idle }
  | startJoining {thread : Thread ι n} (call : threads.calls thread = .locked)
      (present : threads.cleared = false) :
      Step threads (.startJoining thread) { threads with
        calls := update threads.calls thread (.joining 0) }
  | join {thread : Thread ι n} {w : Fin n} (call : threads.calls thread = .joining w)
      (ended : threads.points w = .left) :
      Step threads (.join thread w) { threads with
        calls := update threads.calls thread (.joining (w + 1)) }
  | joined {thread : Thread ι n} (call : threads.calls thread = .joining n) :
      Step threads (.stopReturns thread) { threads with
        cleared := true
        stopMutex := false
        calls := update threads.calls thread .idle }
  | take {w : Fin n} {task : τ} {rest : List τ} (point : threads.points w = .waking)
      (queued : threads.tasks = task :: rest) :
      Step threads (.take w task) { threads with
        tasks := rest
        points := update threads.points w (.running task) }
  | block {w : Fin n} (point : threads.points w = .waking) (runs : threads.running = true)
      (empty : threads.tasks = []) :
      Step threads (.block w) { threads with
        points := update threads.points w .blocked }
  | leave {w : Fin n} (point : threads.points w = .waking) (stopped : threads.running = false)
      (empty : threads.tasks = []) :
      Step threads (.leave w) { threads with
        points := update threads.points w .left }
  | spurious {w : Fin n} (point : threads.points w = .blocked) :
      Step threads (.spurious w) { threads with
        points := update threads.points w .waking }
  | finish {w : Fin n} {task : τ} {ending : TaskEnding}
      (point : threads.points w = .running task) (idle : threads.calls (.worker w) = .idle) :
      Step threads (.finish w task ending) { threads with
        points := update threads.points w .waking }

/-- The pool when `start` has returned. -/
def started (maxPendingTasks : Nat) : Threads ι τ n := { maxPendingTasks }

/-! ## What happened -/

def Label.accepted? : Label ι τ n → Option τ
  | .accept _ task => some task
  | _ => none

def Label.taken? : Label ι τ n → Option τ
  | .take _ task => some task
  | _ => none

def Label.finished? : Label ι τ n → Option τ
  | .finish _ task _ => some task
  | _ => none

def accepted (past : List (Label ι τ n)) : List τ := past.filterMap Label.accepted?

def taken (past : List (Label ι τ n)) : List τ := past.filterMap Label.taken?

def finished (past : List (Label ι τ n)) : List τ := past.filterMap Label.finished?

theorem accepted_snoc (past : List (Label ι τ n)) (label : Label ι τ n) :
    accepted (past ++ [label]) = accepted past ++ label.accepted?.toList := filterMap_snoc ..

theorem taken_snoc (past : List (Label ι τ n)) (label : Label ι τ n) :
    taken (past ++ [label]) = taken past ++ label.taken?.toList := filterMap_snoc ..

theorem finished_snoc (past : List (Label ι τ n)) (label : Label ι τ n) :
    finished (past ++ [label]) = finished past ++ label.finished?.toList := filterMap_snoc ..

/-! ## Accepted, taken, finished -/

section Accounting

variable {threads after : Threads ι τ n} {past : List (Label ι τ n)} {label : Label ι τ n}

/-- Every accepted task is queued, being run, or finished. -/
structure Accounted (past : List (Label ι τ n)) (threads : Threads ι τ n) : Prop where
  queued : accepted past = taken past ++ threads.tasks
  ran : (taken past : Multiset τ) = finished past + threads.busy

/-- The queue is no longer than allowed. -/
def Bounded (limit : Nat) (threads : Threads ι τ n) : Prop :=
  threads.maxPendingTasks = limit ∧ (0 < limit → threads.tasks.length ≤ limit)

/-- A worker that moves to another point puts down its task and picks up the other's. -/
theorem tasksAt_update (points : Fin n → WorkerPoint τ) (w : Fin n) (point : WorkerPoint τ) :
    tasksAt (update points w point) + (points w).task? =
      tasksAt points + point.task? := by
  have hcomp : (fun v => (update points w point v).task?) =
      update (fun v => (points v).task?) w point.task? := by
    funext v
    exact apply_update (fun _ => WorkerPoint.task?) points w point v
  rw [tasksAt, tasksAt, hcomp, Finset.sum_update_of_mem (Finset.mem_univ w),
    Finset.sdiff_singleton_eq_erase,
    ← Finset.add_sum_erase _ (fun v => (points v).task?) (Finset.mem_univ w)]
  ac_rfl

/-- A worker that moves between points without a task. -/
theorem tasksAt_update_of_none {points : Fin n → WorkerPoint τ} {w : Fin n}
    {before : WorkerPoint τ} (point : WorkerPoint τ) (hpoint : points w = before)
    (hbefore : before.task? = 0) (hafter : point.task? = 0) :
    tasksAt (update points w point) = tasksAt points := by
  have hmoved := tasksAt_update points w point
  rw [hpoint, hbefore, hafter, add_zero, add_zero] at hmoved
  exact hmoved

theorem tasksAt_eq_zero {points : Fin n → WorkerPoint τ} (hnone : ∀ w, (points w).task? = 0) :
    tasksAt points = 0 :=
  Finset.sum_eq_zero fun w _ => hnone w

theorem tasksAt_notified (points : Fin n → WorkerPoint τ) :
    tasksAt (fun w => (points w).notified) = tasksAt points := by
  apply Finset.sum_congr rfl
  intro w _
  exact (points w).notified_task?

variable [DecidableEq ι]

/-- What a step does to the tasks being run. -/
theorem Step.busy_eq (htaken : Step threads label after) :
    after.busy + (label.finished?.toList : Multiset τ) =
      threads.busy + (label.taken?.toList : Multiset τ) := by
  cases htaken with
  | @take w task rest point queued =>
    have hmoved := tasksAt_update threads.points w (.running task)
    rw [point] at hmoved
    exact hmoved
  | @finish w task ending point idle =>
    have hmoved := tasksAt_update threads.points w .waking
    rw [point] at hmoved
    exact hmoved
  | notify call blocked => exact congrArg (· + 0) (tasksAt_update_of_none .waking blocked rfl rfl)
  | notifyAll | notifyAllByWorker => exact congrArg (· + 0) (tasksAt_notified threads.points)
  | block point =>
    exact congrArg (· + 0) (tasksAt_update_of_none .blocked point rfl rfl)
  | leave point =>
    exact congrArg (· + 0) (tasksAt_update_of_none .left point rfl rfl)
  | spurious point => exact congrArg (· + 0) (tasksAt_update_of_none .waking point rfl rfl)
  | _ => rfl

theorem Accounted.step (haccounted : Accounted past threads) (htaken : Step threads label after) :
    Accounted (past ++ [label]) after := by
  obtain ⟨hqueued, hran⟩ := haccounted
  refine ⟨?_, ?_⟩
  · rw [accepted_snoc, taken_snoc, hqueued]
    cases htaken with
    | accept may accepted =>
      rw [(submit_accepted accepted).2.2]
      simp [Label.accepted?, Label.taken?, shared]
    | take point queued => simp [Label.accepted?, Label.taken?, queued]
    | _ => simp [Label.accepted?, Label.taken?]
  · rw [taken_snoc, finished_snoc, ← Multiset.coe_add, ← Multiset.coe_add, hran, add_assoc,
      ← htaken.busy_eq, add_assoc, add_comm after.busy]

theorem Bounded.step {limit : Nat} (hbounded : Bounded limit threads)
    (htaken : Step threads label after) : Bounded limit after := by
  obtain ⟨hlimit, hlength⟩ := hbounded
  cases htaken with
  | accept may accepted =>
    obtain ⟨-, hroom, hafter⟩ := submit_accepted accepted
    refine ⟨hlimit, fun hpositive => ?_⟩
    rw [← hlimit] at hpositive
    have hshorter : threads.tasks.length < threads.maxPendingTasks := hroom hpositive
    rw [hafter, List.length_append, ← hlimit]
    exact hshorter
  | take point queued =>
    refine ⟨hlimit, fun hpositive => ?_⟩
    have hlonger := hlength hpositive
    rw [queued, List.length_cons] at hlonger
    exact Nat.le_of_succ_le hlonger
  | _ => exact ⟨hlimit, hlength⟩

end Accounting

end Threads

end ThreadPool

end LiteIM
