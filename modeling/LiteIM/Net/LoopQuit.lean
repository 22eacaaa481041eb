/-
# Leaving the event loop

`loop` leaves after it has called the queued tasks and then finds `quit_` set. Taking the
tasks and testing the flag are two steps. A task that is queued between them, and the flag
set after it, are seen in the wrong order: the loop leaves and the task stays queued. This
also happens on one thread, when a task queues another one and then calls `quit`.

When the flag is not set at such a moment, every task queued before is called.
-/

import LiteIM.Net.EventLoop

namespace LiteIM

open Foundation List

namespace EventLoop

section Quit

variable {ι τ κ : Type}

/-- Every task whose `queueInLoop` returned before the first call of `quit` was called. -/
def RunsQueued (past : List (Label ι τ κ)) : Prop :=
  ∀ before user rest, past = before ++ .quit user :: rest →
    (∀ label ∈ before, label.isQuit = false) →
    ∀ k, QueueReturned before k → k < (ran past).length

/-- The first call of `quit` does not come while the loop thread has taken the tasks and
more are queued. -/
def Unhurried (loop : EventLoop ι τ κ) (label : Label ι τ κ) : Prop :=
  label.isQuit = true → loop.quit = false → loop.point.testsFirst = true →
    loop.pendingTasks = []

theorem QueueReturned.lt_length {past : List (Label ι τ κ)} {k : Nat}
    (hreturned : QueueReturned past k) : k < (pushed past).length := by
  obtain ⟨before, user, task, between, after, label, rfl, -, rfl⟩ := hreturned
  simp [pushed, Label.pushed?]

/-- The task is called before the loop can leave. -/
def Due (loop : EventLoop ι τ κ) (task : τ) : Prop :=
  task ∈ loop.point.batch ∨ (loop.point.testsFirst = false ∧ task ∈ loop.pendingTasks)

variable {task : τ}

/-- A queued task is due, unless it was queued behind those that are taken. -/
theorem due_of_queued {loop : EventLoop ι τ κ} (hqueued : task ∈ loop.queued)
    (hpending : loop.point.testsFirst = true → loop.pendingTasks = []) : loop.Due task := by
  rcases mem_append.mp hqueued with hbatch | hwaits
  · exact Or.inl hbatch
  · cases htests : loop.point.testsFirst with
    | false => exact Or.inr ⟨htests, hwaits⟩
    | true =>
      rw [hpending htests] at hwaits
      exact nomatch hwaits

variable [DecidableEq ι]

variable {label : Label ι τ κ}

/-- A task that is due is called, or stays due. -/
theorem Due.step {loop after : EventLoop ι τ κ} (hdue : loop.Due task)
    (htaken : Step loop label after) : after.Due task ∨ label.ran? = some task := by
  cases htaken with
  | push =>
    refine Or.inl (hdue.imp id fun hwaits => ⟨hwaits.1, ?_⟩)
    exact mem_append_left _ hwaits.2
  | swap point =>
    rw [Due, point] at hdue
    rcases hdue with hnone | hwaits
    · exact nomatch hnone
    · exact Or.inl (Or.inl hwaits.2)
  | @run polled first rest point =>
    rw [Due, point] at hdue
    rcases hdue with hbatch | ⟨hnone, -⟩
    · rcases mem_cons.mp hbatch with rfl | hrest
      · exact Or.inr rfl
      · exact Or.inl (Or.inl hrest)
    · exact nomatch hnone
  | goOn point | loopReturns point =>
    rw [Due, point] at hdue
    rcases hdue with hnone | ⟨hnone, -⟩
    · exact nomatch hnone
    · exact nomatch hnone
  | _ => exact Or.inl (by simp_all [Due, Point.batch, Point.testsFirst])

/-- The loop leaves when nothing is due. -/
theorem not_due_of_loopReturns {loop after : EventLoop ι τ κ}
    (hreturns : Step loop .loopReturns after) : ¬ loop.Due task := by
  intro hdue
  cases hreturns with
  | loopReturns point =>
    rw [Due, point] at hdue
    rcases hdue with hnone | ⟨hnone, -⟩
    · exact nomatch hnone
    · exact nomatch hnone

/-- Steps that call `quit` at a good moment. -/
def QuietStep (loop : EventLoop ι τ κ) (label : Label ι τ κ) (after : EventLoop ι τ κ) : Prop :=
  Step loop label after ∧ loop.Unhurried label

theorem quietStep_step (loop : EventLoop ι τ κ) (label : Label ι τ κ) (after : EventLoop ι τ κ)
    (hquiet : QuietStep loop label after) : Step loop label after := hquiet.1

variable {ready : List κ} {past rest : List (Label ι τ κ)} {loop last after : EventLoop ι τ κ}

theorem quit_eq_false (hpath : Path Step (created ready) past loop)
    (hnone : ∀ label ∈ past, label.isQuit = false) : loop.quit = false := by
  revert hnone
  apply hpath.invariant fun past loop => (∀ label ∈ past, label.isQuit = false) →
    loop.quit = false
  · exact fun _ => rfl
  · intro past before label after _ ih htaken hnone
    have hbefore : before.quit = false :=
      ih fun other hmem => hnone other (mem_append_left _ hmem)
    have hlabel : label.isQuit = false :=
      hnone label (mem_append_right _ (mem_singleton_self label))
    cases htaken with
    | quit => exact nomatch hlabel
    | _ => exact hbefore

/-- The first `count` queued tasks are taken before the flag is tested. -/
def Covered (count : Nat) (past : List (Label ι τ κ)) (loop : EventLoop ι τ κ) : Prop :=
  loop.point.testsFirst = true → count ≤ (ran past).length + loop.point.batch.length

omit [DecidableEq ι] in
/-- A step that calls no task and keeps those in the hands of the loop thread. -/
theorem Covered.of_point {count : Nat} (hcovered : Covered count past loop)
    (hran : label.ran? = none) (hpoint : after.point.testsFirst = true →
      loop.point.testsFirst = true ∧ after.point.batch = loop.point.batch) :
    Covered count (past ++ [label]) after := by
  intro htests
  obtain ⟨hbefore, hbatch⟩ := hpoint htests
  rw [ran_snoc, hran, Option.toList_none, append_nil, hbatch]
  exact hcovered hbefore

theorem Covered.step {count : Nat} (hcovered : Covered count past loop)
    (horder : InOrder past loop) (hcount : count ≤ (pushed past).length)
    (htaken : Step loop label after) : Covered count (past ++ [label]) after := by
  cases htaken with
  | @swap polled point =>
    -- Everything queued so far is taken.
    intro _
    rw [horder, point] at hcount
    simpa [ran_snoc, Label.ran?, Point.batch] using hcount
  | @run polled task rest point =>
    intro _
    have hbatch := hcovered (by rw [point]; rfl)
    rw [point, Point.batch, length_cons] at hbatch
    rw [ran_snoc, length_append]
    show count ≤ (ran past).length + 1 + rest.length
    omega
  | startCalling point | taskEnds point | stopCalling point =>
    exact hcovered.of_point rfl fun _ => by rw [point]; exact ⟨rfl, rfl⟩
  | push | alert | skip | wakeup | quit | events =>
    exact hcovered.of_point rfl fun htests => ⟨htests, rfl⟩
  | @goOn polled point stays =>
    intro htests
    cases polled with
    | true | false => cases htests
  | _ =>
    intro htests
    cases htests

/-- From the first call of `quit` on, all tasks queued before it are called before the loop
leaves. -/
theorem Covered.path {before : List (Label ι τ κ)} (hbefore : Path Step (created ready) before loop)
    (hrest : Path Step loop rest last) (hcovered : Covered (pushed before).length before loop) :
    Covered (pushed before).length (before ++ rest) last := by
  apply hrest.invariant fun rest last => Covered (pushed before).length (before ++ rest) last
  · rwa [append_nil]
  · intro rest mid label after hrest hmid htaken
    rw [← append_assoc]
    refine hmid.step (sound_of_path (hbefore.trans hrest)).order ?_ htaken
    exact ((sublist_append_left before rest).filterMap _).length_le

/-- When `quit` is first called at a good moment, every task queued before it has been
called when `loop` returns. -/
theorem runs_queued_before_quit (hpath : Path QuietStep (created ready) past loop)
    (hreturns : Step loop .loopReturns after) : RunsQueued past := by
  intro before user rest hpast hfirst k hqueued
  subst hpast
  obtain ⟨mid, hbefore, hmid⟩ := hpath.split
  obtain ⟨set, ⟨hquit, hunhurried⟩, hrest⟩ := hmid.head
  have hbefore := hbefore.mono quietStep_step
  have hsound := sound_of_path hbefore
  have hcovered : Covered (pushed before).length before mid := by
    intro htests
    have hpending := hunhurried rfl (quit_eq_false hbefore hfirst) htests
    apply Nat.le_of_eq
    rw [hsound.order, hpending, append_nil, length_append]
  have hlast := hcovered.path hbefore
    ((Path.single hquit).trans (hrest.mono quietStep_step))
  cases hreturns with
  | loopReturns point =>
    have hall := hlast (by rw [point]; rfl)
    rw [point] at hall
    exact Nat.lt_of_lt_of_le hqueued.lt_length hall

end Quit

/-! ## A task and `quit` between the two steps -/

/-- Another thread queues a task and calls `quit` after the loop thread took the tasks for
the first time and before it tests the flag. -/
def betweenSwapAndTest : List (Label Unit Nat Unit) :=
  [.loop, .swap, .push (.other ()) 7, .alert (.other ()), .wakeup (.other ()),
    .quit (.other ()), .wakeup (.other ()), .startCalling, .stopCalling]

theorem betweenSwapAndTest_path : ∃ loop : EventLoop Unit Nat Unit,
    Path Step (created []) betweenSwapAndTest loop ∧
      ∃ after, Step loop .loopReturns after ∧ after.pendingTasks = [7] :=
  ⟨_, .cons (.loop rfl rfl) (.cons (.swap rfl) (.cons (.push ⟨rfl, nofun⟩)
    (.cons (.alert rfl (Or.inl nofun)) (.cons (.wakeup (Or.inl rfl))
    (.cons (.quit ⟨rfl, nofun⟩) (.cons (.wakeup (Or.inr rfl)) (.cons (.startCalling rfl)
    (.cons (.stopCalling rfl) .nil)))))))), _, .loopReturns rfl rfl, rfl⟩

/-- The loop leaves, and the task that was queued before `quit` has not been called. -/
theorem not_runs_queued_betweenSwapAndTest :
    ∃ past, ∃ loop after : EventLoop Unit Nat Unit, Path Step (created []) past loop ∧
      Step loop .loopReturns after ∧ ¬ RunsQueued past ∧ after.pendingTasks = [7] := by
  obtain ⟨loop, hpath, after, hreturns, hpending⟩ := betweenSwapAndTest_path
  refine ⟨_, loop, after, hpath, hreturns, fun hruns => ?_, hpending⟩
  have hqueued : QueueReturned (betweenSwapAndTest.take 5) 0 :=
    ⟨[.loop, .swap], .other (), 7, [.alert (.other ())], [], _, rfl, Or.inr rfl, rfl⟩
  have hfirst : ∀ label ∈ betweenSwapAndTest.take 5, label.isQuit = false := by
    simp [betweenSwapAndTest, Label.isQuit]
  exact nomatch hruns _ (.other ()) _ rfl hfirst 0 hqueued

/-- The loop thread waits when another thread queues a task and calls `quit`. -/
def whileWaiting : List (Label Unit Nat Unit) :=
  [.loop, .swap, .startCalling, .stopCalling, .goOn, .push (.other ()) 7, .alert (.other ()),
    .wakeup (.other ()), .quit (.other ()), .wakeup (.other ()), .polled [.wakeup],
    .handleWakeup, .dispatched, .swap, .startCalling, .run 7, .taskEnds .threwOther,
    .stopCalling]

theorem whileWaiting_path : ∃ loop : EventLoop Unit Nat Unit,
    Path QuietStep (created []) whileWaiting loop ∧ ∃ after, Step loop .loopReturns after :=
  ⟨_, .cons ⟨.loop rfl rfl, nofun⟩ (.cons ⟨.swap rfl, nofun⟩ (.cons ⟨.startCalling rfl, nofun⟩
    (.cons ⟨.stopCalling rfl, nofun⟩ (.cons ⟨.goOn rfl rfl, nofun⟩
    (.cons ⟨.push ⟨rfl, nofun⟩, nofun⟩ (.cons ⟨.alert rfl (Or.inl nofun), nofun⟩
    (.cons ⟨.wakeup (Or.inl rfl), nofun⟩ (.cons ⟨.quit ⟨rfl, nofun⟩, nofun⟩
    (.cons ⟨.wakeup (Or.inr rfl), nofun⟩
    (.cons ⟨.polled rfl (by simp [IsReady, eventfdWrite, maxWakeups, created]), nofun⟩
    (.cons ⟨.handleWakeup rfl, nofun⟩ (.cons ⟨.dispatched rfl, nofun⟩ (.cons ⟨.swap rfl, nofun⟩
    (.cons ⟨.startCalling rfl, nofun⟩ (.cons ⟨.run rfl, nofun⟩ (.cons ⟨.taskEnds rfl rfl, nofun⟩
    (.cons ⟨.stopCalling rfl, nofun⟩ .nil))))))))))))))))), _, .loopReturns rfl rfl⟩

theorem runs_queued_before_quit_whileWaiting :
    RunsQueued whileWaiting ∧ ran whileWaiting = [7] := by
  obtain ⟨loop, hpath, after, hreturns⟩ := whileWaiting_path
  exact ⟨runs_queued_before_quit hpath hreturns, rfl⟩

end EventLoop

end LiteIM
