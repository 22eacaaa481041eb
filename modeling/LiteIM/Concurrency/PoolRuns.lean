/-
# Runs of a thread pool

What holds in every state that the threads of a started pool reach: workers leave only
when no task will come, a call of `stop` returns only when they all have left, and a queued
task has a worker that will look at the queue, or a thread that is about to wake one.
-/

import LiteIM.Concurrency.PoolThreads

namespace LiteIM

open Foundation Function

namespace ThreadPool

namespace Threads

variable {ι τ : Type} {n : Nat} [DecidableEq ι]
variable {threads after : Threads ι τ n} {past : List (Label ι τ n)} {label : Label ι τ n}

/-! ## Leaving -/

/-- A change elsewhere, to an entry that is not the one asked for. -/
theorem update_of_value_ne {α β : Type} [DecidableEq α] {f : α → β} {a b : α} {value : β}
    (hvalue : f a = value) (hne : f b ≠ value) (next : β) : update f b next a = value := by
  rw [update_of_ne]
  · exact hvalue
  · rintro rfl
    exact hne hvalue

/-- An entry that is not the value put there was there before. -/
theorem of_update_value {α β : Type} [DecidableEq α] {f : α → β} {a b : α} {value next : β}
    (hupdate : update f b next a = value) (hne : next ≠ value) : f a = value := by
  by_cases hsame : a = b
  · rw [hsame, update_self] at hupdate
    exact (hne hupdate).elim
  · rwa [update_of_ne hsame] at hupdate

variable {w : Fin n}

/-- A worker that has left stays away. -/
theorem Step.left (htaken : Step threads label after) (hleft : threads.points w = .left) :
    after.points w = .left := by
  cases htaken with
  | notify call blocked => exact update_of_value_ne hleft (by simp [blocked]) _
  | notifyAll | notifyAllByWorker =>
    show (threads.points w).notified = .left
    rw [hleft]
    rfl
  | take point | block point | leave point | spurious point | finish point =>
    exact update_of_value_ne hleft (by simp [point]) _
  | _ => exact hleft

/-- A worker is away because it was, or because it leaves in this step. -/
theorem Step.left_cases (htaken : Step threads label after) (hleft : after.points w = .left) :
    threads.points w = .left ∨ label = .leave w := by
  have hnotified : (threads.points w).notified = .left → threads.points w = .left := by
    cases threads.points w with
    | left => exact fun _ => rfl
    | waking | blocked | running => exact nofun
  cases htaken with
  | notify | take | block | spurious | finish => exact Or.inl (of_update_value hleft nofun)
  | notifyAll | notifyAllByWorker => exact Or.inl (hnotified hleft)
  | @leave v point stopped empty =>
    by_cases hsame : w = v
    · exact Or.inr (hsame ▸ rfl)
    · refine Or.inl ?_
      change update _ _ _ _ = _ at hleft
      rwa [update_of_ne hsame] at hleft
  | _ => exact Or.inl hleft

/-- Where workers and calls of `stop` can be. -/
structure Orderly (threads : Threads ι τ n) : Prop where
  left : ∀ w, threads.points w = .left → threads.running = false ∧ threads.tasks = []
  cleared : threads.cleared = true → ∀ w, threads.points w = .left
  joining : ∀ thread count, threads.calls thread = .joining count →
    ∀ w : Fin n, w < count → threads.points w = .left

omit [DecidableEq ι] in
theorem orderly_started (maxPendingTasks : Nat) :
    (started maxPendingTasks : Threads ι τ n).Orderly :=
  ⟨nofun, nofun, nofun⟩

theorem Orderly.left_step (horderly : threads.Orderly) (htaken : Step threads label after)
    (w : Fin n) (hleft : after.points w = .left) : after.running = false ∧ after.tasks = [] := by
  rcases htaken.left_cases hleft with hbefore | rfl
  · obtain ⟨hstopped, hempty⟩ := horderly.left w hbefore
    cases htaken with
    | accept may accepted =>
      exact nomatch hstopped.symm.trans (submit_accepted accepted).1
    | take point queued => exact nomatch hempty.symm.trans queued
    | requestStop => exact ⟨rfl, hempty⟩
    | _ => exact ⟨hstopped, hempty⟩
  · cases htaken with
    | leave point stopped empty => exact ⟨stopped, empty⟩

theorem Orderly.step (horderly : threads.Orderly) (htaken : Step threads label after) :
    after.Orderly := by
  have hkept : ∀ thread count, threads.calls thread = .joining count →
      ∀ w : Fin n, w < count → after.points w = .left :=
    fun thread count hjoining w hlt => htaken.left (horderly.joining thread count hjoining w hlt)
  have hstep := htaken
  refine ⟨horderly.left_step htaken, ?_, ?_⟩
  · intro hcleared w
    cases htaken with
    | @joined thread call => exact horderly.joining thread n call w w.isLt
    | _ => exact hstep.left (horderly.cleared hcleared w)
  · intro thread count hjoining w hlt
    cases htaken with
    | @startJoining starter call present =>
      by_cases hsame : thread = starter
      · subst hsame
        have hzero : count = 0 := by
          change update _ _ _ _ = _ at hjoining
          rw [update_self] at hjoining
          exact (Call.joining.inj hjoining).symm
        exact absurd hlt (by omega)
      · change update _ _ _ _ = _ at hjoining
        rw [update_of_ne hsame] at hjoining
        exact hkept thread count hjoining w hlt
    | @join joiner v call ended =>
      by_cases hsame : thread = joiner
      · subst hsame
        have hnext : count = v + 1 := by
          change update _ _ _ _ = _ at hjoining
          rw [update_self] at hjoining
          exact (Call.joining.inj hjoining).symm
        rcases Nat.lt_succ_iff_lt_or_eq.mp (hnext ▸ hlt) with hearlier | hlast
        · exact hkept thread v call w hearlier
        · rw [Fin.ext hlast]
          exact hstep.left ended
      · change update _ _ _ _ = _ at hjoining
        rw [update_of_ne hsame] at hjoining
        exact hkept thread count hjoining w hlt
    | reject | stopIgnored | take | block | leave | spurious | finish =>
      exact hkept thread count hjoining w hlt
    | _ => exact hkept thread count (of_update_value hjoining nofun) w hlt

/-! ## Waking -/

/-- A worker runs its task until it finishes it. -/
theorem Step.keeps_running (htaken : Step threads label after) {task : τ}
    (hrunning : threads.points w = .running task) :
    after.points w = .running task ∨ ∃ ending, label = .finish w task ending := by
  have hnotified : (threads.points w).notified = .running task := by
    rw [hrunning]
    rfl
  cases htaken with
  | notify call blocked => exact Or.inl (update_of_value_ne hrunning (by simp [blocked]) _)
  | notifyAll | notifyAllByWorker => exact Or.inl hnotified
  | take point | block point | leave point | spurious point =>
    exact Or.inl (update_of_value_ne hrunning (by simp [point]) _)
  | @finish v other ending point idle =>
    by_cases hsame : w = v
    · subst hsame
      obtain rfl := WorkerPoint.running.inj (point.symm.trans hrunning)
      exact Or.inr ⟨ending, rfl⟩
    · refine Or.inl ?_
      show update _ _ _ _ = _
      rwa [update_of_ne hsame]
  | _ => exact Or.inl hrunning

/-- A worker calls only from a task, and does not wait in a call. -/
def WorkersCall (threads : Threads ι τ n) : Prop :=
  ∀ w, threads.calls (.worker w) ≠ .idle → (∃ task, threads.points w = .running task) ∧
    (threads.calls (.worker w) = .submitted ∨ threads.calls (.worker w) = .stopping)

/-- A worker is in the call it was in, unless the step is one of its own calls. -/
theorem WorkersCall.of_calls (hworkers : threads.WorkersCall) (htaken : Step threads label after)
    (hsame : after.calls (.worker w) = threads.calls (.worker w))
    (hbusy : after.calls (.worker w) ≠ .idle) : (∃ task, after.points w = .running task) ∧
      (after.calls (.worker w) = .submitted ∨ after.calls (.worker w) = .stopping) := by
  rw [hsame] at hbusy ⊢
  obtain ⟨⟨task, hrunning⟩, hcall⟩ := hworkers w hbusy
  refine ⟨⟨task, ?_⟩, hcall⟩
  rcases htaken.keeps_running hrunning with hstill | ⟨ending, rfl⟩
  · exact hstill
  · cases htaken with
    | finish point idle => exact (hbusy idle).elim

theorem WorkersCall.step (hworkers : threads.WorkersCall) (htaken : Step threads label after) :
    after.WorkersCall := by
  intro w hbusy
  have hsame := fun hcalls => hworkers.of_calls htaken hcalls hbusy
  -- A call that a worker is never in is the call of another thread.
  have hother : ∀ {thread : Thread ι n} {call : Call} (next : Call), threads.calls thread = call →
      call ≠ .idle → call ≠ .submitted → call ≠ .stopping →
      update threads.calls thread next (.worker w) = threads.calls (.worker w) := by
    intro thread call next hcall hidle hsubmitted hstopping
    have hdistinct : Thread.worker w ≠ thread := by
      rintro rfl
      rcases (hworkers w (hcall ▸ hidle)).2 with hin | hin
      · exact hsubmitted (hcall.symm.trans hin)
      · exact hstopping (hcall.symm.trans hin)
    exact update_of_ne hdistinct _ _
  cases htaken with
  | @accept thread task may accepted =>
    by_cases hown : Thread.worker w = thread
    · subst hown
      exact ⟨may.2 w rfl, Or.inl (update_self ..)⟩
    · exact hsame (update_of_ne hown _ _)
  | @requestStop thread may started =>
    by_cases hown : Thread.worker w = thread
    · subst hown
      exact ⟨may.2 w rfl, Or.inr (update_self ..)⟩
    · exact hsame (update_of_ne hown _ _)
  | @notify thread v call blocked | @notifyNone thread call unblocked =>
    by_cases hown : Thread.worker w = thread
    · exact (hbusy (hown ▸ update_self ..)).elim
    · exact hsame (update_of_ne hown _ _)
  | @notifyAllByWorker v call =>
    by_cases hown : (Thread.worker w : Thread ι n) = .worker v
    · exact (hbusy (hown ▸ update_self ..)).elim
    · exact hsame (update_of_ne hown _ _)
  | @notifyAll i call =>
    have hdistinct : Thread.worker w ≠ .outside i := nofun
    exact hsame (update_of_ne hdistinct .locking threads.calls)
  | lockStop call | alreadyJoined call | startJoining call | join call | joined call =>
    exact hsame (hother _ call nofun nofun nofun)
  | _ => exact hsame rfl

/-- The worker looks at the queue before it blocks. -/
def Attends (threads : Threads ι τ n) (w : Fin n) : Prop :=
  threads.points w = .waking ∨ ∃ task, threads.points w = .running task

/-- A queued task is going to be seen: by a worker that is not blocked, or by one that is
about to be notified. -/
def Signalled (threads : Threads ι τ n) : Prop :=
  threads.tasks ≠ [] → (∃ w, threads.Attends w) ∨ ∃ thread, threads.calls thread = .submitted

omit [DecidableEq ι] in
/-- While a task is queued, a worker that is not blocked attends to the queue. -/
theorem Orderly.attends (horderly : threads.Orderly) (hqueued : threads.tasks ≠ [])
    (hunblocked : threads.points w ≠ .blocked) : threads.Attends w := by
  cases hpoint : threads.points w with
  | waking => exact Or.inl hpoint
  | running task => exact Or.inr ⟨task, hpoint⟩
  | blocked => exact (hunblocked hpoint).elim
  | left => exact (hqueued (horderly.left w hpoint).2).elim

theorem Signalled.step (hsignalled : threads.Signalled) (horderly : threads.Orderly)
    (hpositive : 0 < n) (htaken : Step threads label after) : after.Signalled := by
  intro hqueued
  have hafter := horderly.step htaken
  -- A thread in another call does not take the signal away.
  have hother : ∀ {thread : Thread ι n} {call : Call} (next : Call), threads.tasks ≠ [] →
      threads.calls thread = call → call ≠ .submitted → (∃ w, threads.Attends w) ∨
        ∃ other, update threads.calls thread next other = .submitted := by
    intro thread call next hqueued hcall hne
    rcases hsignalled hqueued with hattends | ⟨other, hsubmitted⟩
    · exact Or.inl hattends
    · exact Or.inr ⟨other, update_of_value_ne hsubmitted (hcall ▸ hne) _⟩
  cases htaken with
  | @accept thread task may accepted => exact Or.inr ⟨thread, update_self ..⟩
  | @notify thread w call blocked | @finish w task ending point idle | @spurious w point =>
    exact Or.inl ⟨w, Or.inl (update_self ..)⟩
  | notifyNone call unblocked =>
    exact Or.inl ⟨⟨0, hpositive⟩, hafter.attends hqueued (unblocked ⟨0, hpositive⟩)⟩
  | notifyAll | notifyAllByWorker =>
    refine Or.inl ⟨⟨0, hpositive⟩, hafter.attends hqueued ?_⟩
    exact WorkerPoint.notified_ne_blocked _
  | @take w task rest point queued => exact Or.inl ⟨w, Or.inr ⟨task, update_self ..⟩⟩
  | block _ _ empty | leave _ _ empty => exact (hqueued empty).elim
  | reject | stopIgnored => exact hsignalled hqueued
  | requestStop may => exact hother _ hqueued may.1 nofun
  | lockStop call | alreadyJoined call | startJoining call | join call | joined call =>
    exact hother _ hqueued call nofun

/-! ## Every run -/

/-- What holds in every state of every run. -/
structure Sound (limit : Nat) (past : List (Label ι τ n)) (threads : Threads ι τ n) : Prop where
  accounted : Accounted past threads
  bounded : Bounded limit threads
  orderly : threads.Orderly
  workersCall : threads.WorkersCall
  signalled : threads.Signalled

theorem sound_of_path {maxPendingTasks : Nat} (hpositive : 0 < n)
    (hpath : Path Step (started maxPendingTasks) past threads) :
    Sound maxPendingTasks past threads := by
  apply hpath.invariant (Sound maxPendingTasks)
  · have hbusy : (started maxPendingTasks : Threads ι τ n).busy = 0 :=
      tasksAt_eq_zero fun _ => rfl
    refine ⟨⟨rfl, ?_⟩, ⟨rfl, fun _ => Nat.zero_le _⟩, orderly_started maxPendingTasks,
      fun _ hcall => (hcall rfl).elim, fun hqueued => (hqueued rfl).elim⟩
    rw [hbusy]
    rfl
  · intro past before label after _ hsound htaken
    exact ⟨hsound.accounted.step htaken, hsound.bounded.step htaken,
      hsound.orderly.step htaken, hsound.workersCall.step htaken,
      hsound.signalled.step hsound.orderly hpositive htaken⟩

/-- Once cleared, `running_` stays so, and nothing is accepted. -/
theorem Step.stays_stopped (htaken : Step threads label after)
    (hstopped : threads.running = false) :
    after.running = false ∧ label.accepted? = none := by
  cases htaken with
  | accept may accepted => exact nomatch hstopped.symm.trans (submit_accepted accepted).1
  | requestStop => exact ⟨rfl, rfl⟩
  | _ => exact ⟨hstopped, rfl⟩

theorem accepted_eq_nil_of_stopped (hpath : Path Step threads past after)
    (hstopped : threads.running = false) : after.running = false ∧ accepted past = [] := by
  apply hpath.invariant fun past threads => threads.running = false ∧ accepted past = []
  · exact ⟨hstopped, rfl⟩
  · intro past before label after _ hbefore htaken
    obtain ⟨hrunning, hnone⟩ := htaken.stays_stopped hbefore.1
    rw [accepted_snoc, hbefore.2, hnone]
    exact ⟨hrunning, rfl⟩

omit [DecidableEq ι] in
/-- When all workers have left, no task is queued or being run. -/
theorem Sound.finished_of_left {limit : Nat} (hsound : Sound limit past threads) (hpositive : 0 < n)
    (hleft : ∀ w, threads.points w = .left) :
    threads.tasks = [] ∧ (accepted past : Multiset τ) = finished past := by
  have hempty := (hsound.orderly.left ⟨0, hpositive⟩ (hleft ⟨0, hpositive⟩)).2
  have hbusy : threads.busy = 0 := by
    apply tasksAt_eq_zero
    intro w
    rw [hleft w]
    rfl
  refine ⟨hempty, ?_⟩
  rw [hsound.accounted.queued, hempty, List.append_nil, hsound.accounted.ran, hbusy, add_zero]

/-- A call of `stop` from outside returns when all workers have left. -/
theorem Sound.left_of_stopReturns {limit : Nat} (hsound : Sound limit past threads) {i : ι}
    (hreturns : Step threads (.stopReturns (.outside i)) after) (w : Fin n) :
    threads.points w = .left := by
  cases hreturns with
  | stopIgnored _ _ empty | alreadyJoined _ empty => exact hsound.orderly.cleared empty w
  | joined call => exact hsound.orderly.joining _ n call w w.isLt

end Threads

end ThreadPool

end LiteIM
