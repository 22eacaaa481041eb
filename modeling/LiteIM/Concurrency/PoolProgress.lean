/-
# A thread pool does what it accepts

A queued task is not stuck: the workers can always bring everything that was accepted to
its end, without a thread being woken for no reason. With the invariants of the runs this
sums up what the pool promises to those who submit tasks and to those who stop it.
-/

import LiteIM.Concurrency.PoolRuns

namespace LiteIM

open Foundation Multiset List Function

namespace ThreadPool

namespace Threads

variable {ι τ : Type} {n : Nat}

def Label.isSpurious : Label ι τ n → Bool
  | .spurious _ => true
  | _ => false

variable [DecidableEq ι] {threads last : Threads ι τ n} {past rest : List (Label ι τ n)}

/-- A path on which nothing is accepted and no worker wakes for no reason. -/
structure Quiet (threads : Threads ι τ n) (rest : List (Label ι τ n)) (last : Threads ι τ n) :
    Prop where
  path : Path Step threads rest last
  accepted : accepted rest = []
  spurious : ∀ label ∈ rest, label.isSpurious = false

theorem Quiet.refl (threads : Threads ι τ n) : Quiet threads [] threads :=
  ⟨.nil, rfl, fun _ hmem => nomatch hmem⟩

theorem Quiet.single {label : Label ι τ n} (htaken : Step threads label last)
    (haccepted : label.accepted? = none) (hspurious : label.isSpurious = false) :
    Quiet threads [label] last := by
  refine ⟨.single htaken, ?_, ?_⟩
  · simp [Threads.accepted, haccepted]
  · intro other hmem
    rw [List.mem_singleton.mp hmem]
    exact hspurious

theorem Quiet.trans {mid : Threads ι τ n} {first second : List (Label ι τ n)}
    (hfirst : Quiet threads first mid) (hsecond : Quiet mid second last) :
    Quiet threads (first ++ second) last := by
  refine ⟨hfirst.path.trans hsecond.path, ?_, ?_⟩
  · rw [Threads.accepted, filterMap_append, ← Threads.accepted, ← Threads.accepted,
      hfirst.accepted, hsecond.accepted, append_nil]
  · intro label hmem
    rcases mem_append.mp hmem with hleft | hright
    · exact hfirst.spurious label hleft
    · exact hsecond.spurious label hright

/-- A call of `submit` can notify: a blocked worker, or nobody if none is blocked. -/
theorem exists_notify {thread : Thread ι n} (hcall : threads.calls thread = .submitted) :
    ∃ woken last, Step threads (.notify thread woken) last ∧ last.tasks = threads.tasks ∧
      last.calls thread = .idle ∧ ((∃ w, last.points w = .waking) ∨
        last.points = threads.points ∧ ∀ w, threads.points w ≠ .blocked) := by
  by_cases hblocked : ∃ w, threads.points w = .blocked
  · obtain ⟨w, hw⟩ := hblocked
    exact ⟨some w, _, .notify hcall hw, rfl, update_self ..,
      Or.inl ⟨w, update_self ..⟩⟩
  · have hnone : ∀ w, threads.points w ≠ .blocked := fun w hw => hblocked ⟨w, hw⟩
    exact ⟨none, _, .notifyNone hcall hnone, rfl, update_self .., Or.inr ⟨rfl, hnone⟩⟩

variable {w : Fin n}

/-- A worker can come back from the call its task is in. -/
theorem exists_idle (hworkers : threads.WorkersCall) {task : τ}
    (hrunning : threads.points w = .running task) :
    ∃ rest last, Quiet threads rest last ∧ last.tasks = threads.tasks ∧
      last.busy = threads.busy ∧ last.points w = .running task ∧
      last.calls (.worker w) = .idle := by
  have hstep : ∀ {label last}, Step threads label last → label.accepted? = none →
      label.isSpurious = false → label.taken? = none → label.finished? = none →
      last.tasks = threads.tasks → last.calls (.worker w) = .idle →
      ∃ rest last, Quiet threads rest last ∧ last.tasks = threads.tasks ∧
        last.busy = threads.busy ∧ last.points w = .running task ∧
        last.calls (.worker w) = .idle := by
    intro label last htaken haccepted hspurious hnone hunfinished htasks hidle
    have hbusy := htaken.busy_eq
    rw [hnone, hunfinished] at hbusy
    refine ⟨_, last, Quiet.single htaken haccepted hspurious, htasks, ?_, ?_, hidle⟩
    · simpa using hbusy
    · rcases htaken.keeps_running hrunning with hstill | ⟨ending, rfl⟩
      · exact hstill
      · exact nomatch hunfinished
  by_cases hidle : threads.calls (.worker w) = .idle
  · exact ⟨[], threads, Quiet.refl threads, rfl, rfl, hrunning, hidle⟩
  · rcases (hworkers w hidle).2 with hsubmitted | hstopping
    · obtain ⟨woken, last, htaken, htasks, hreturned, -⟩ := exists_notify hsubmitted
      exact hstep htaken rfl rfl rfl rfl htasks hreturned
    · exact hstep (.notifyAllByWorker hstopping) rfl rfl rfl rfl rfl (update_self ..)

/-- A worker can finish its task. -/
theorem exists_finish (hworkers : threads.WorkersCall) {task : τ}
    (hrunning : threads.points w = .running task) :
    ∃ rest last, Quiet threads rest last ∧ last.tasks = threads.tasks ∧
      card last.busy < card threads.busy := by
  obtain ⟨rest, mid, hquiet, htasks, hbusy, hstill, hidle⟩ := exists_idle hworkers hrunning
  have htaken : Step mid (.finish w task .returned) _ := .finish hstill hidle
  have hfinished := congrArg card htaken.busy_eq
  rw [card_add, card_add, hbusy] at hfinished
  refine ⟨_, _, hquiet.trans (Quiet.single htaken rfl rfl), htasks, ?_⟩
  simp only [Label.finished?, Label.taken?, Option.toList_some, Option.toList_none,
    coe_card, length_singleton, length_nil] at hfinished
  omega

/-- A worker that is awake can take the first task. -/
theorem exists_take (hwaking : threads.points w = .waking) (hqueued : threads.tasks ≠ []) :
    ∃ rest last, Quiet threads rest last ∧
      2 * last.tasks.length + card last.busy <
        2 * threads.tasks.length + card threads.busy := by
  cases htasks : threads.tasks with
  | nil => exact (hqueued htasks).elim
  | cons task =>
    have htaken : Step threads (.take w task) _ := .take hwaking htasks
    have htook := congrArg card htaken.busy_eq
    rw [card_add, card_add] at htook
    refine ⟨_, _, Quiet.single htaken rfl rfl, ?_⟩
    simp only [Label.finished?, Label.taken?, Option.toList_some, Option.toList_none,
      coe_card, length_nil, length_cons] at htook ⊢
    omega

/-- While something is queued or being run, the workers can bring it nearer to its end. -/
theorem Sound.exists_nearer {limit : Nat} (hsound : Sound limit past threads) (hpositive : 0 < n)
    (hwork : threads.tasks ≠ [] ∨ threads.busy ≠ 0) :
    ∃ rest last, Quiet threads rest last ∧
      2 * last.tasks.length + card last.busy <
        2 * threads.tasks.length + card threads.busy := by
  by_cases hrunning : ∃ w task, threads.points w = .running task
  · obtain ⟨w, task, hw⟩ := hrunning
    obtain ⟨rest, last, hquiet, htasks, hfewer⟩ := exists_finish hsound.workersCall hw
    refine ⟨rest, last, hquiet, ?_⟩
    rw [htasks]
    omega
  · have hbusy : threads.busy = 0 := by
      apply tasksAt_eq_zero
      intro w
      cases hpoint : threads.points w with
      | running task => exact (hrunning ⟨w, task, hpoint⟩).elim
      | waking | blocked | left => rfl
    have hqueued : threads.tasks ≠ [] := hwork.resolve_right fun hne => hne hbusy
    rcases hsound.signalled hqueued with ⟨w, hwaking | ⟨task, hw⟩⟩ | ⟨thread, hsubmitted⟩
    · exact exists_take hwaking hqueued
    · exact (hrunning ⟨w, task, hw⟩).elim
    · obtain ⟨woken, mid, htaken, htasks, -, hnotified⟩ := exists_notify hsubmitted
      have hbusy : mid.busy = threads.busy := by
        simpa [Label.finished?, Label.taken?] using htaken.busy_eq
      have hwaking : ∃ w, mid.points w = .waking := by
        rcases hnotified with hwoken | ⟨hsame, hunblocked⟩
        · exact hwoken
        · rcases hsound.orderly.attends hqueued (hunblocked ⟨0, hpositive⟩) with
            hwaking | ⟨task, hw⟩
          · exact ⟨_, hsame ▸ hwaking⟩
          · exact (hrunning ⟨_, task, hw⟩).elim
      obtain ⟨w, hw⟩ := hwaking
      obtain ⟨rest, last, hquiet, hnearer⟩ := exists_take hw (htasks ▸ hqueued)
      rw [htasks, hbusy] at hnearer
      exact ⟨_, last, (Quiet.single htaken rfl rfl).trans hquiet, hnearer⟩

/-- The workers can bring everything that was accepted to its end. -/
theorem exists_all_finished {maxPendingTasks : Nat} (hpositive : 0 < n)
    (hpath : Path Step (started maxPendingTasks) past threads) :
    ∃ rest last, Quiet threads rest last ∧ last.tasks = [] ∧ last.busy = 0 := by
  induction hmeasure : 2 * threads.tasks.length + card threads.busy
    using Nat.strongRecOn generalizing past threads with
  | ind measure ih =>
    by_cases hwork : threads.tasks ≠ [] ∨ threads.busy ≠ 0
    · obtain ⟨first, mid, hfirst, hnearer⟩ :=
        (sound_of_path hpositive hpath).exists_nearer hpositive hwork
      obtain ⟨second, last, hsecond, hended⟩ :=
        ih _ (hmeasure ▸ hnearer) (hpath.trans hfirst.path) rfl
      exact ⟨_, last, hfirst.trans hsecond, hended⟩
    · have hnone := not_or.mp hwork
      exact ⟨[], threads, Quiet.refl threads, not_not.mp hnone.1, not_not.mp hnone.2⟩

/-- A pool does what it accepts. The queue keeps its bound, a rejected task changes nothing,
nothing is accepted once `running_` is cleared, and accepted tasks are taken in their order,
each once, and finished by the worker that took them. When a `stop` from outside returns,
all are finished; and they can always be brought to their end. -/
theorem executes_accepted {maxPendingTasks : Nat}
    (hstart : (({ workerCount := n, maxPendingTasks } : ThreadPool τ).start true).1 = .ok ())
    (hpath : Path Step (started maxPendingTasks : Threads ι τ n) past threads) :
    (0 < maxPendingTasks → threads.tasks.length ≤ maxPendingTasks) ∧
    (∀ thread task status after, Step threads (.reject thread task status) after →
      after = threads) ∧
    (∀ before thread rest, past = before ++ .requestStop thread :: rest → accepted rest = []) ∧
    accepted past = taken past ++ threads.tasks ∧
    (taken past : Multiset τ) = finished past + threads.busy ∧
    (∀ i after, Step threads (.stopReturns (.outside i)) after →
      threads.tasks = [] ∧ (accepted past : Multiset τ) = finished past) ∧
    ∃ rest last, Path Step threads rest last ∧ (∀ label ∈ rest, label.isSpurious = false) ∧
      (accepted past : Multiset τ) = finished (past ++ rest) := by
  have hpositive : 0 < n := by
    by_contra hnone
    have hzero : n = 0 := by omega
    rw [ThreadPool.start, if_pos hzero] at hstart
    cases hstart
  have hsound := sound_of_path hpositive hpath
  refine ⟨hsound.bounded.2, ?_, ?_, hsound.accounted.queued, hsound.accounted.ran, ?_, ?_⟩
  · intro thread task status after hrejected
    cases hrejected
    rfl
  · intro before thread rest hpast
    subst hpast
    obtain ⟨mid, hbefore, hmid⟩ := hpath.split
    obtain ⟨stopped, hstop, hrest⟩ := hmid.head
    cases hstop with
    | requestStop => exact (accepted_eq_nil_of_stopped hrest rfl).2
  · intro i after hreturns
    exact hsound.finished_of_left hpositive (hsound.left_of_stopReturns hreturns)
  · obtain ⟨rest, last, hquiet, hempty, hidle⟩ := exists_all_finished hpositive hpath
    refine ⟨rest, last, hquiet.path, hquiet.spurious, ?_⟩
    have hlast := (sound_of_path hpositive (hpath.trans hquiet.path)).accounted
    have hsame : accepted (past ++ rest) = accepted past := by
      rw [accepted, filterMap_append, ← accepted, ← accepted, hquiet.accepted,
        append_nil]
    rw [← hsame, hlast.queued, hempty, append_nil, hlast.ran, hidle, add_zero]

/-! ## One task, and a stop -/

/-- A thread submits a task to a pool with one worker and stops the pool. -/
def submitAndStop : List (Label Unit Nat 1) :=
  [.accept (.outside ()) 7, .notify (.outside ()) none, .take 0 7, .requestStop (.outside ()),
    .finish 0 7 .threw, .notifyAll (.outside ()), .leave 0, .lockStop (.outside ()),
    .startJoining (.outside ()), .join (.outside ()) 0]

theorem submitAndStop_path : ∃ threads : Threads Unit Nat 1,
    Path Step (started 5) submitAndStop threads ∧
      ∃ after, Step threads (.stopReturns (.outside ())) after := by
  have hunblocked : ∀ w : Fin 1, (started 5 : Threads Unit Nat 1).points w ≠ .blocked := nofun
  exact ⟨_, .cons (.accept ⟨rfl, nofun⟩ rfl) (.cons (.notifyNone rfl hunblocked)
    (.cons (.take rfl rfl) (.cons (.requestStop ⟨rfl, nofun⟩ (Or.inl rfl))
    (.cons (.finish rfl rfl) (.cons (.notifyAll rfl) (.cons (.leave rfl rfl rfl)
    (.cons (.lockStop rfl rfl) (.cons (.startJoining rfl rfl) (.cons (.join rfl rfl) .nil))))))))),
    _, .joined rfl⟩

theorem executes_accepted_submitAndStop :
    (accepted submitAndStop : Multiset Nat) = finished submitAndStop ∧
      accepted submitAndStop = [7] := by
  obtain ⟨threads, hpath, after, hreturns⟩ := submitAndStop_path
  have hpool := executes_accepted rfl hpath
  exact ⟨(hpool.2.2.2.2.2.1 () after hreturns).2, rfl⟩

end Threads

end ThreadPool

end LiteIM
