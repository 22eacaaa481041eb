/-
# The thread pool

`ThreadPool`: a bounded queue of tasks, worker threads that take tasks off its front, and
`stop`, after which no task is accepted and the workers leave once the queue is empty.
Every access holds the pool's mutex, so each operation here is one step.

What matters to whoever submits a task is that an accepted task is not left behind: as
long as the pool runs, or a task is queued, there is a worker that has not left.
-/

import LiteIM.Base.Status
import Mathlib.Data.List.Basic

namespace LiteIM

open Status

/-- A pool. `workers` counts the threads that were not joined yet; of these, `idle` wait
for a task, each of `busy` runs one, and the others have left their loop. -/
structure ThreadPool (τ : Type) where
  workerCount : Nat
  maxPendingTasks : Nat := 0
  running : Bool := false
  tasks : List τ := []
  workers : Nat := 0
  idle : Nat := 0
  busy : List τ := []

namespace ThreadPool

variable {τ : Type}

/-- `start`; `created` says whether the system could create the threads. -/
def start (pool : ThreadPool τ) (created : Bool) : Except Error Unit × ThreadPool τ :=
  if pool.workerCount = 0 then
    (error .invalidArgument "thread pool worker count must be greater than zero", pool)
  else if pool.running = true ∨ pool.workers ≠ 0 then
    (error .invalidArgument "thread pool has already started", pool)
  else if created then
    (.ok (), { pool with
      running := true, workers := pool.workerCount, idle := pool.workerCount })
  else
    (error .internalError "failed to start thread pool workers", { pool with tasks := [] })

def submit (pool : ThreadPool τ) (task : Option τ) : Except Error Unit × ThreadPool τ :=
  match task with
  | none => (error .invalidArgument "thread pool task must not be empty", pool)
  | some task =>
    if pool.running = false then
      (error .invalidArgument "thread pool is not accepting new tasks", pool)
    else if pool.maxPendingTasks > 0 ∧ pool.tasks.length ≥ pool.maxPendingTasks then
      (error .resourceExhausted "thread pool pending task queue is full", pool)
    else (.ok (), { pool with tasks := pool.tasks ++ [task] })

/-- `stop` up to where it waits for the workers. -/
def requestStop (pool : ThreadPool τ) : ThreadPool τ :=
  if pool.running = false ∧ pool.workers = 0 then pool else { pool with running := false }

/-- A turn of `workerLoop` up to the call of the task. -/
def take (pool : ThreadPool τ) : Option (τ × ThreadPool τ) :=
  match pool.tasks with
  | [] => none
  | task :: rest =>
    if pool.idle = 0 then none
    else some (task, { pool with
      tasks := rest, idle := pool.idle - 1, busy := task :: pool.busy })

/-- A worker returns from a task to its loop. -/
def finish (pool : ThreadPool τ) (isTask : τ → Bool) : ThreadPool τ :=
  if pool.busy.any isTask then
    { pool with busy := pool.busy.eraseP isTask, idle := pool.idle + 1 }
  else pool

/-- What happens to a pool besides its tasks. -/
inductive Change (pool : ThreadPool τ) : ThreadPool τ → Prop where
  | start (created : Bool) : Change pool (pool.start created).2
  | stop : Change pool pool.requestStop
  /-- A worker leaves its loop. -/
  | leave (stopped : pool.running = false) (empty : pool.tasks = []) (some : 0 < pool.idle) :
      Change pool { pool with idle := pool.idle - 1 }
  /-- The end of `stop`. -/
  | joined (none : pool.idle = 0) (idle : pool.busy = []) :
      Change pool { pool with workers := 0 }

/-! ## No task is left behind -/

/-- A pool that accepts tasks, or has some, has workers. -/
structure Staffed (pool : ThreadPool τ) : Prop where
  present : pool.running = true ∨ pool.tasks ≠ [] → 0 < pool.idle + pool.busy.length
  counted : pool.idle + pool.busy.length ≤ pool.workers

variable {pool : ThreadPool τ}

/-- When the last worker has left, the queue is empty. -/
theorem Staffed.tasks_eq_nil (hstaffed : pool.Staffed) (hjoined : pool.workers = 0) :
    pool.tasks = [] := by
  by_contra htasks
  have hpresent := hstaffed.present (Or.inr htasks)
  have hcounted := hstaffed.counted
  omega

theorem submit_cases (pool : ThreadPool τ) (task : τ) :
    (pool.submit (some task) = (.ok (), { pool with tasks := pool.tasks ++ [task] }) ∧
      pool.running = true) ∨
    ∃ status, pool.submit (some task) = (.error status, pool) ∧
      (status = ⟨.invalidArgument, "thread pool is not accepting new tasks"⟩ ∨
        status = ⟨.resourceExhausted, "thread pool pending task queue is full"⟩) := by
  by_cases hrunning : pool.running = false
  · refine Or.inr ⟨_, ?_, Or.inl rfl⟩
    simp [submit, hrunning, error]
  · by_cases hfull : pool.maxPendingTasks > 0 ∧ pool.tasks.length ≥ pool.maxPendingTasks
    · refine Or.inr ⟨_, ?_, Or.inr rfl⟩
      simp only [submit, if_neg hrunning, if_pos hfull, error]
    · refine Or.inl ⟨?_, eq_true_of_ne_false hrunning⟩
      simp only [submit, if_neg hrunning, if_neg hfull]

variable {task : τ}

/-- What `submit` found when it accepts a task. -/
theorem submit_accepted (haccepted : (pool.submit (some task)).1 = .ok ()) :
    pool.running = true ∧ (0 < pool.maxPendingTasks → pool.tasks.length < pool.maxPendingTasks) ∧
      (pool.submit (some task)).2 = { pool with tasks := pool.tasks ++ [task] } := by
  by_cases hrunning : pool.running = false
  · simp [submit, hrunning, error] at haccepted
  · by_cases hfull : pool.maxPendingTasks > 0 ∧ pool.tasks.length ≥ pool.maxPendingTasks
    · simp [submit, hrunning, hfull, error] at haccepted
    · refine ⟨eq_true_of_ne_false hrunning, fun hbounded => ?_, ?_⟩
      · exact Nat.lt_of_not_le fun hlong => hfull ⟨hbounded, hlong⟩
      · simp only [submit, if_neg hrunning, if_neg hfull]

variable {after : ThreadPool τ}

theorem take_eq_some_iff :
    pool.take = some (task, after) ↔ ∃ rest, pool.tasks = task :: rest ∧ pool.idle ≠ 0 ∧
      after = { pool with tasks := rest, idle := pool.idle - 1, busy := task :: pool.busy } := by
  cases htasks : pool.tasks with
  | nil => simp [take, htasks]
  | cons first rest =>
    by_cases hidle : pool.idle = 0
    · simp [take, htasks, hidle]
    · simp only [take, htasks, if_neg hidle, Option.some.injEq, Prod.mk.injEq, List.cons.injEq]
      refine ⟨fun ⟨hfirst, hafter⟩ => ⟨rest, ⟨hfirst, rfl⟩, hidle, ?_⟩, ?_⟩
      · rw [← hafter, hfirst]
      · rintro ⟨-, ⟨rfl, rfl⟩, -, rfl⟩
        exact ⟨rfl, rfl⟩

/-- A worker that returns from a task leaves the queue as it is. -/
theorem finish_sublist (pool : ThreadPool τ) (isTask : τ → Bool) :
    (pool.finish isTask).busy.Sublist pool.busy ∧ (pool.finish isTask).tasks = pool.tasks := by
  rw [finish]
  split_ifs
  · exact ⟨List.eraseP_sublist, rfl⟩
  · exact ⟨List.Sublist.refl _, rfl⟩

section Staffed

variable {pool : ThreadPool τ} (hstaffed : pool.Staffed)
include hstaffed

theorem Staffed.submit (task : τ) : (pool.submit (some task)).2.Staffed := by
  rcases pool.submit_cases task with ⟨haccepted, hrunning⟩ | ⟨status, hrefused, -⟩
  · rw [haccepted]
    exact ⟨fun _ => hstaffed.present (Or.inl hrunning), hstaffed.counted⟩
  · rw [hrefused]
    exact hstaffed

theorem Staffed.take (htake : pool.take = some (task, after)) : after.Staffed := by
  obtain ⟨rest, -, hidle, rfl⟩ := take_eq_some_iff.mp htake
  have hcounted := hstaffed.counted
  refine ⟨fun _ => ?_, ?_⟩
  · show 0 < pool.idle - 1 + (pool.busy.length + 1)
    omega
  · show pool.idle - 1 + (pool.busy.length + 1) ≤ pool.workers
    omega

theorem Staffed.finish (isTask : τ → Bool) : (pool.finish isTask).Staffed := by
  by_cases hany : pool.busy.any isTask = true
  · have hlength : (pool.busy.eraseP isTask).length + 1 = pool.busy.length := by
      rw [List.length_eraseP, if_pos hany]
      have hsome : 0 < pool.busy.length := by
        cases hbusy : pool.busy with
        | nil => simp [hbusy] at hany
        | cons => exact Nat.succ_pos _
      omega
    have hsum : pool.idle + 1 + (pool.busy.eraseP isTask).length =
        pool.idle + pool.busy.length := by omega
    rw [ThreadPool.finish, if_pos hany]
    exact ⟨fun hneeded => hsum ▸ hstaffed.present hneeded, hsum ▸ hstaffed.counted⟩
  · rw [ThreadPool.finish, if_neg hany]
    exact hstaffed

theorem Staffed.start (created : Bool) : (pool.start created).2.Staffed := by
  rw [ThreadPool.start]
  split_ifs with hcount hstarted hcreated
  · exact hstaffed
  · exact hstaffed
  · have hcounted := hstaffed.counted
    have hworkers : pool.workers = 0 := by_contra fun hworkers => hstarted (Or.inr hworkers)
    refine ⟨fun _ => ?_, ?_⟩
    · show 0 < pool.workerCount + pool.busy.length
      omega
    · show pool.workerCount + pool.busy.length ≤ pool.workerCount
      omega
  · refine ⟨fun hneeded => ?_, hstaffed.counted⟩
    exact hstaffed.present (Or.inl (hneeded.resolve_right fun hne => hne rfl))

theorem Staffed.change (hchange : pool.Change after) : after.Staffed := by
  cases hchange with
  | start created => exact hstaffed.start created
  | stop =>
    rw [requestStop]
    split_ifs
    · exact hstaffed
    · refine ⟨fun hneeded => ?_, hstaffed.counted⟩
      exact hstaffed.present (Or.inr (hneeded.resolve_left Bool.false_ne_true))
  | leave hstopped hempty =>
    have hcounted := hstaffed.counted
    refine ⟨fun hneeded => ?_, ?_⟩
    · rcases hneeded with hrunning | htasks
      · exact nomatch hstopped.symm.trans hrunning
      · exact (htasks hempty).elim
    · show pool.idle - 1 + pool.busy.length ≤ pool.workers
      omega
  | joined hnone hidle =>
    refine ⟨hstaffed.present, ?_⟩
    rw [hnone, hidle]
    exact Nat.le_refl 0

end Staffed

/-- Nobody but workers and submitters touches the queue. -/
theorem Staffed.change_tasks (hstaffed : pool.Staffed) (hchange : pool.Change after) :
    after.tasks = pool.tasks ∧ after.busy = pool.busy := by
  cases hchange with
  | start =>
    rw [ThreadPool.start]
    split_ifs with hcount hstarted hcreated
    · exact ⟨rfl, rfl⟩
    · exact ⟨rfl, rfl⟩
    · exact ⟨rfl, rfl⟩
    · have hworkers : pool.workers = 0 := by_contra fun hworkers => hstarted (Or.inr hworkers)
      exact ⟨(hstaffed.tasks_eq_nil hworkers).symm, rfl⟩
  | stop =>
    rw [requestStop]
    split_ifs
    · exact ⟨rfl, rfl⟩
    · exact ⟨rfl, rfl⟩
  | leave | joined => exact ⟨rfl, rfl⟩

end ThreadPool

end LiteIM
