/-
# The event loop

`EventLoop`: one thread runs queued tasks and the callbacks of ready channels, any thread
queues tasks, and an eventfd wakes the loop thread out of its wait. What the threads share
is the vector of tasks, behind a mutex, the two flags and the counter of the eventfd, so a
step here is one access to one of them: the loop thread can be overtaken between any two.

Tasks and callbacks are code of others. On the loop thread they may queue tasks and call
`quit`, any number of times, and they end in any way.
-/

import LiteIM.Foundation.Transition
import Mathlib.Algebra.Group.Nat.Defs
import Mathlib.Logic.Function.Basic

namespace LiteIM

open Foundation Function List

namespace EventLoop

/-- The thread of the loop, and the other threads. -/
inductive User (ι : Type) where
  | owner
  | other (i : ι)
  deriving DecidableEq

/-- Where a thread is in its calls of `queueInLoop` and `quit`. -/
inductive Call where
  | idle
  /-- The task is queued; whether to wake the loop comes next. -/
  | pushed
  /-- `queueInLoop` is about to write the eventfd. -/
  | waking
  /-- `quit` is about to write the eventfd. -/
  | quitting
  deriving DecidableEq, Repr

/-- What `poll` reports: the eventfd, or another channel. -/
inductive Source (κ : Type) where
  | wakeup
  | channel (channel : κ)
  deriving DecidableEq

/-- How a task or a callback ends; the loop catches what it throws. -/
inductive Ending where
  | returned
  | threwException
  | threwOther
  deriving DecidableEq, Repr

/-- Where the loop thread is. `polled` tells the second `doPendingTasks` of a turn of the
loop from the first one. -/
inductive Point (τ κ : Type) where
  | outside
  | swap (polled : Bool)
  /-- The tasks are taken; `calling_pending_tasks_` is not set yet. -/
  | swapped (polled : Bool) (tasks : List τ)
  | tasks (polled : Bool) (tasks : List τ)
  | inTask (polled : Bool) (rest : List τ)
  | testQuit (polled : Bool)
  | poll
  | channels (rest : List (Source κ))
  | inCallback (rest : List (Source κ))

namespace Point

variable {τ κ : Type}

/-- The tasks that are taken and not yet called. -/
def batch : Point τ κ → List τ
  | .swapped _ rest => rest
  | .tasks _ rest => rest
  | .inTask _ rest => rest
  | _ => []

/-- The loop thread is in the loop over the tasks. -/
def calling : Point τ κ → Bool
  | .tasks _ _ => true
  | .inTask _ _ => true
  | _ => false

/-- The loop thread runs code of others. -/
def foreign : Point τ κ → Bool
  | .outside => true
  | .inTask _ _ => true
  | .inCallback _ => true
  | _ => false

/-- The loop thread takes the queued tasks once more before it waits. -/
def takesFirst : Point τ κ → Bool
  | .swapped polled _ => polled
  | .tasks polled _ => polled
  | .inTask polled _ => polled
  | .testQuit polled => polled
  | .poll => false
  | _ => true

/-- The loop thread has taken the queued tasks, and tests `quit_` before it takes more. -/
def testsFirst : Point τ κ → Bool
  | .swapped _ _ => true
  | .tasks _ _ => true
  | .inTask _ _ => true
  | .testQuit _ => true
  | _ => false

/-- The sources that were reported and whose callbacks are still to be called. -/
def undispatched : Point τ κ → Option (List (Source κ))
  | .channels rest => some rest
  | .inCallback rest => some rest
  | _ => none

end Point

end EventLoop

/-- A loop and its users. `wakeups` is the counter of the eventfd, `ready` the other
channels that have an event. -/
structure EventLoop (ι τ κ : Type) where
  point : EventLoop.Point τ κ := .outside
  pendingTasks : List τ := []
  quit : Bool := false
  callingPendingTasks : Bool := false
  wakeups : Nat := 0
  ready : List κ := []
  calls : EventLoop.User ι → EventLoop.Call := fun _ => .idle

namespace EventLoop

/-- The greatest value of an eventfd counter; a write that would exceed it fails. -/
def maxWakeups : Nat := 2 ^ 64 - 2

/-- `eventfd_write` of 1. -/
def eventfdWrite (wakeups : Nat) : Nat := if wakeups < maxWakeups then wakeups + 1 else wakeups

/-- What a thread does next. -/
inductive Label (ι τ κ : Type) where
  /-- `queueInLoop` puts the task into the vector. -/
  | push (user : User ι) (task : τ)
  /-- `queueInLoop` goes on to wake the loop. -/
  | alert (user : User ι)
  /-- `queueInLoop` returns without. -/
  | skip (user : User ι)
  /-- The eventfd is written, and `queueInLoop` or `quit` returns. -/
  | wakeup (user : User ι)
  /-- `quit` sets the flag. -/
  | quit (user : User ι)
  | loop
  | swap
  | startCalling
  | run (task : τ)
  | taskEnds (ending : Ending)
  | stopCalling
  | goOn
  | loopReturns
  | polled (active : List (Source κ))
  | pollFails
  | handleWakeup
  | dispatch (channel : κ)
  | callbackEnds (ending : Ending)
  | dispatched
  /-- Channels get ready, or are no longer. -/
  | events (ready : List κ)

variable {ι τ κ : Type}

def IsReady (loop : EventLoop ι τ κ) : Source κ → Prop
  | .wakeup => 0 < loop.wakeups
  | .channel channel => channel ∈ loop.ready

/-- A thread may begin a call: it is in none, and the loop thread is in code that calls. -/
def MayCall (loop : EventLoop ι τ κ) (user : User ι) : Prop :=
  loop.calls user = .idle ∧ (user = .owner → loop.point.foreign = true)

/-- One access to what the threads share. -/
inductive Step [DecidableEq ι] (loop : EventLoop ι τ κ) : Label ι τ κ → EventLoop ι τ κ → Prop where
  | push {user : User ι} {task : τ} (may : loop.MayCall user) :
      Step loop (.push user task) { loop with
        pendingTasks := loop.pendingTasks ++ [task]
        calls := update loop.calls user .pushed }
  | alert {user : User ι} (call : loop.calls user = .pushed)
      (needed : user ≠ .owner ∨ loop.callingPendingTasks = true) :
      Step loop (.alert user) { loop with calls := update loop.calls user .waking }
  | skip (call : loop.calls .owner = .pushed) (needless : loop.callingPendingTasks = false) :
      Step loop (.skip .owner) { loop with calls := update loop.calls .owner .idle }
  | wakeup {user : User ι} (call : loop.calls user = .waking ∨ loop.calls user = .quitting) :
      Step loop (.wakeup user) { loop with
        wakeups := eventfdWrite loop.wakeups
        calls := update loop.calls user .idle }
  | quit {user : User ι} (may : loop.MayCall user) :
      Step loop (.quit user) { loop with
        quit := true
        calls := update loop.calls user
          (if user = .owner then .idle else .quitting) }
  | loop (point : loop.point = .outside) (idle : loop.calls .owner = .idle) :
      Step loop .loop { loop with point := .swap false }
  | swap {polled : Bool} (point : loop.point = .swap polled) :
      Step loop .swap { loop with
        pendingTasks := [], point := .swapped polled loop.pendingTasks }
  | startCalling {polled : Bool} {tasks : List τ} (point : loop.point = .swapped polled tasks) :
      Step loop .startCalling { loop with
        callingPendingTasks := true, point := .tasks polled tasks }
  | run {polled : Bool} {task : τ} {rest : List τ}
      (point : loop.point = .tasks polled (task :: rest)) :
      Step loop (.run task) { loop with point := .inTask polled rest }
  | taskEnds {polled : Bool} {rest : List τ} {ending : Ending}
      (point : loop.point = .inTask polled rest) (idle : loop.calls .owner = .idle) :
      Step loop (.taskEnds ending) { loop with point := .tasks polled rest }
  | stopCalling {polled : Bool} (point : loop.point = .tasks polled []) :
      Step loop .stopCalling { loop with
        callingPendingTasks := false, point := .testQuit polled }
  | goOn {polled : Bool} (point : loop.point = .testQuit polled) (stays : loop.quit = false) :
      Step loop .goOn { loop with point := if polled then .swap false else .poll }
  | loopReturns {polled : Bool} (point : loop.point = .testQuit polled)
      (leaves : loop.quit = true) : Step loop .loopReturns { loop with point := .outside }
  -- An interrupted wait reports nothing.
  | polled {active : List (Source κ)} (point : loop.point = .poll)
      (ready : ∀ source ∈ active, loop.IsReady source) :
      Step loop (.polled active) { loop with point := .channels active }
  | pollFails (point : loop.point = .poll) :
      Step loop .pollFails { loop with point := .outside }
  | handleWakeup {rest : List (Source κ)} (point : loop.point = .channels (.wakeup :: rest)) :
      Step loop .handleWakeup { loop with wakeups := 0, point := .channels rest }
  | dispatch {channel : κ} {rest : List (Source κ)}
      (point : loop.point = .channels (.channel channel :: rest)) :
      Step loop (.dispatch channel) { loop with point := .inCallback rest }
  | callbackEnds {rest : List (Source κ)} {ending : Ending}
      (point : loop.point = .inCallback rest) (idle : loop.calls .owner = .idle) :
      Step loop (.callbackEnds ending) { loop with point := .channels rest }
  | dispatched (point : loop.point = .channels []) :
      Step loop .dispatched { loop with point := .swap true }
  | events {ready : List κ} : Step loop (.events ready) { loop with ready }

/-! ## What happened -/

def Label.pushed? : Label ι τ κ → Option τ
  | .push _ task => some task
  | _ => none

def Label.ran? : Label ι τ κ → Option τ
  | .run task => some task
  | _ => none

/-- The source whose callback is called. -/
def Label.dispatched? : Label ι τ κ → Option (Source κ)
  | .handleWakeup => some .wakeup
  | .dispatch channel => some (.channel channel)
  | _ => none

def Label.isPolled : Label ι τ κ → Bool
  | .polled _ => true
  | _ => false

def Label.isQuit : Label ι τ κ → Bool
  | .quit _ => true
  | _ => false

/-- A step of a call, or an event: the loop thread stays where it is. -/
def Label.isCall : Label ι τ κ → Bool
  | .push _ _ => true
  | .alert _ => true
  | .skip _ => true
  | .wakeup _ => true
  | .quit _ => true
  | .events _ => true
  | _ => false

/-- The tasks that were queued, in the order of the pushes. -/
def pushed (past : List (Label ι τ κ)) : List τ := past.filterMap Label.pushed?

/-- The tasks that were called, in the order of the calls. -/
def ran (past : List (Label ι τ κ)) : List τ := past.filterMap Label.ran?

theorem pushed_snoc (past : List (Label ι τ κ)) (label : Label ι τ κ) :
    pushed (past ++ [label]) = pushed past ++ label.pushed?.toList := filterMap_snoc ..

theorem ran_snoc (past : List (Label ι τ κ)) (label : Label ι τ κ) :
    ran (past ++ [label]) = ran past ++ label.ran?.toList := filterMap_snoc ..

/-- The call of `queueInLoop` that made the push number `k` has returned. -/
def QueueReturned (past : List (Label ι τ κ)) (k : Nat) : Prop :=
  ∃ before user task between after label,
    past = before ++ .push user task :: (between ++ label :: after) ∧
      (label = .skip user ∨ label = .wakeup user) ∧ (pushed before).length = k

/-! ## The queue -/

section Invariants

variable {past : List (Label ι τ κ)} {loop after : EventLoop ι τ κ} {label : Label ι τ κ}

/-- The tasks that are to be called: those in the hands of the loop thread come first. -/
def queued (loop : EventLoop ι τ κ) : List τ := loop.point.batch ++ loop.pendingTasks

/-- What was queued was called, or is in the hands of the loop thread, or is queued. -/
def InOrder (past : List (Label ι τ κ)) (loop : EventLoop ι τ κ) : Prop :=
  pushed past = ran past ++ loop.point.batch ++ loop.pendingTasks

/-- The flag is set while tasks are called, and the loop thread is in a call only while it
runs code of others. -/
structure Coherent (loop : EventLoop ι τ κ) : Prop where
  calling : loop.callingPendingTasks = loop.point.calling
  idle : loop.point.foreign = false → loop.calls .owner = .idle

/-- Some thread is between its push and its write of the eventfd. -/
def Notifying (loop : EventLoop ι τ κ) : Prop :=
  ∃ user, loop.calls user = .pushed ∨ loop.calls user = .waking

/-- Queued tasks are going to be seen: a thread is about to wake the loop, or the eventfd
is readable, or the loop thread takes the tasks before it waits. -/
def Awake (loop : EventLoop ι τ κ) : Prop :=
  loop.pendingTasks ≠ [] →
    loop.Notifying ∨ 0 < loop.wakeups ∨ loop.point.takesFirst = true

/-- The callbacks called since the last wait, and those still to be called, are those of
the sources it reported. -/
def Dispatching (past : List (Label ι τ κ)) (loop : EventLoop ι τ κ) : Prop :=
  ∀ rest, loop.point.undispatched = some rest → ∃ before active since,
    past = before ++ .polled active :: since ∧ (∀ label ∈ since, label.isPolled = false) ∧
      active = since.filterMap Label.dispatched? ++ rest

/-- A step of the loop thread that leaves the queue and the eventfd alone keeps tasks in
view, if it does not make the loop thread wait. -/
theorem Awake.of_point (hawake : loop.Awake) (hpending : after.pendingTasks = loop.pendingTasks)
    (hcalls : after.calls = loop.calls) (hwakeups : after.wakeups = loop.wakeups)
    (hpoint : loop.point.takesFirst = true → after.point.takesFirst = true) : after.Awake := by
  intro hqueued
  rw [hpending] at hqueued
  rcases hawake hqueued with hnotifying | hreadable | htakes
  · exact Or.inl (by rwa [Notifying, hcalls])
  · exact Or.inr (Or.inl (hwakeups ▸ hreadable))
  · exact Or.inr (Or.inr (hpoint htakes))

/-- A step calls the next callback, or none. -/
theorem Dispatching.extend (hdispatching : Dispatching past loop) (hpolled : label.isPolled = false)
    (hpoint : ∀ rest, after.point.undispatched = some rest →
      loop.point.undispatched = some (label.dispatched?.toList ++ rest)) :
    Dispatching (past ++ [label]) after := by
  intro rest hrest
  obtain ⟨before, active, since, hpast, hsince, hactive⟩ := hdispatching _ (hpoint rest hrest)
  refine ⟨before, active, since ++ [label], ?_, ?_, ?_⟩
  · rw [hpast, append_assoc, cons_append]
  · intro other hmem
    rcases mem_append.mp hmem with hold | hlast
    · exact hsince other hold
    · rw [mem_singleton.mp hlast]
      exact hpolled
  · rw [filterMap_snoc, hactive, append_assoc]

variable [DecidableEq ι]

/-- A step takes a task off the front of the queue, or puts one to its end, or neither. -/
theorem Step.queued (htaken : Step loop label after) :
    loop.queued ++ label.pushed?.toList = label.ran?.toList ++ after.queued := by
  cases htaken with
  | push | alert | skip | wakeup | quit | events =>
    simp [EventLoop.queued, Label.pushed?, Label.ran?]
  | @goOn polled point stays =>
    cases polled <;> simp [EventLoop.queued, Label.pushed?, Label.ran?, point, Point.batch]
  | _ => simp [EventLoop.queued, Label.pushed?, Label.ran?, Point.batch, *]

theorem Step.mem_queued {task : τ} (htaken : Step loop label after) (htask : task ∈ after.queued) :
    task ∈ loop.queued ∨ label.pushed? = some task := by
  have hmem : task ∈ loop.queued ++ label.pushed?.toList := by
    rw [htaken.queued]
    exact mem_append_right _ htask
  rwa [mem_append, Option.mem_toList] at hmem

theorem Step.mem_queued_or_ran {task : τ} (htaken : Step loop label after)
    (htask : task ∈ loop.queued) : label.ran? = some task ∨ task ∈ after.queued := by
  have hmem : task ∈ label.ran?.toList ++ after.queued := by
    rw [← htaken.queued]
    exact mem_append_left _ htask
  rwa [mem_append, Option.mem_toList] at hmem

theorem Step.quit_cases (htaken : Step loop label after) (hquit : after.quit = true) :
    loop.quit = true ∨ label.isQuit = true := by
  cases htaken with
  | quit => exact Or.inr rfl
  | _ => exact Or.inl hquit

theorem InOrder.step (horder : InOrder past loop) (htaken : Step loop label after) :
    InOrder (past ++ [label]) after := by
  rw [InOrder, append_assoc] at horder ⊢
  rw [pushed_snoc, ran_snoc, horder, append_assoc (ran past), append_assoc (ran past)]
  exact congrArg (ran past ++ ·) htaken.queued

theorem Coherent.step (hcoherent : loop.Coherent) (htaken : Step loop label after) :
    after.Coherent := by
  obtain ⟨hcalling, hidle⟩ := hcoherent
  have hother : ∀ user call, loop.MayCall user ∨ loop.calls user ≠ .idle →
      loop.point.foreign = false → update loop.calls user call .owner = .idle := by
    intro user call huser hforeign
    have hne : User.owner ≠ user := by
      rintro rfl
      rcases huser with hmay | hbusy
      · exact nomatch hforeign.symm.trans (hmay.2 rfl)
      · exact hbusy (hidle hforeign)
    rw [update_of_ne hne]
    exact hidle hforeign
  cases htaken with
  | push may | quit may => exact ⟨hcalling, hother _ _ (Or.inl may)⟩
  | alert call => exact ⟨hcalling, hother _ _ (Or.inr (by simp [call]))⟩
  | skip call => exact ⟨hcalling, hother .owner _ (Or.inr (by simp [call]))⟩
  | wakeup call =>
    refine ⟨hcalling, hother _ _ (Or.inr ?_)⟩
    rcases call with hwaking | hquitting
    · simp [hwaking]
    · simp [hquitting]
  | events => exact ⟨hcalling, hidle⟩
  | @goOn polled point stays =>
    rw [point] at hcalling hidle
    cases polled with
    | true | false => exact ⟨hcalling, hidle⟩
  | _ => exact ⟨by simp_all [Point.calling], by simp_all [Point.foreign]⟩

theorem Awake.step (hawake : loop.Awake) (hcoherent : loop.Coherent)
    (htaken : Step loop label after) : after.Awake := by
  cases htaken with
  | @push user task may =>
    exact fun _ => Or.inl ⟨user, Or.inl (update_self ..)⟩
  | @alert user call needed =>
    exact fun _ => Or.inl ⟨user, Or.inr (update_self ..)⟩
  | skip call needless =>
    -- The loop thread is not in a task, so it comes to take the tasks.
    intro _
    refine Or.inr (Or.inr ?_)
    have hforeign : loop.point.foreign = true := by
      by_contra hforeign
      rw [hcoherent.idle (eq_false_of_ne_true hforeign)] at call
      exact nomatch call
    have hcalling := hcoherent.calling.symm.trans needless
    cases hpoint : loop.point <;>
      simp_all [Point.foreign, Point.calling, Point.takesFirst]
  | wakeup =>
    intro _
    refine Or.inr (Or.inl ?_)
    rw [eventfdWrite]
    split_ifs with hroom
    · exact Nat.succ_pos _
    · exact Nat.lt_of_lt_of_le (by decide) (Nat.le_of_not_lt hroom)
  | @quit user may =>
    intro hqueued
    rcases hawake hqueued with ⟨other, hother⟩ | hreadable | htakes
    · have hne : other ≠ user := by
        rintro rfl
        rcases hother with hpushed | hwaking
        · exact nomatch may.1.symm.trans hpushed
        · exact nomatch may.1.symm.trans hwaking
      refine Or.inl ⟨other, ?_⟩
      show update _ _ _ other = _ ∨ update _ _ _ other = _
      rwa [update_of_ne hne]
    · exact Or.inr (Or.inl hreadable)
    · exact Or.inr (Or.inr htakes)
  | swap => exact fun hqueued => (hqueued rfl).elim
  | handleWakeup => exact fun _ => Or.inr (Or.inr rfl)
  | events => exact hawake
  | @goOn polled point stays =>
    refine hawake.of_point rfl rfl rfl ?_
    rw [point]
    cases polled with
    | true => exact fun _ => rfl
    | false => exact fun htakes => nomatch htakes
  | _ => exact hawake.of_point rfl rfl rfl (by simp_all [Point.takesFirst])

theorem Dispatching.step (hdispatching : Dispatching past loop) (htaken : Step loop label after) :
    Dispatching (past ++ [label]) after := by
  cases htaken with
  | @polled active point ready =>
    intro rest hrest
    obtain rfl := Option.some.inj hrest
    exact ⟨past, active, [], rfl, fun _ hmem => (nomatch hmem), rfl⟩
  | handleWakeup point =>
    apply hdispatching.extend rfl
    intro rest hrest
    rw [point]
    exact congrArg (fun rest => some (.wakeup :: rest)) (Option.some.inj hrest)
  | @dispatch channel _ point =>
    apply hdispatching.extend rfl
    intro rest hrest
    rw [point]
    exact congrArg (fun rest => some (.channel channel :: rest)) (Option.some.inj hrest)
  | callbackEnds point =>
    apply hdispatching.extend rfl
    intro rest hrest
    rw [point]
    exact hrest
  | push | alert | skip | wakeup | quit | events => exact hdispatching.extend rfl fun _ => id
  | @goOn polled point stays =>
    intro rest hrest
    cases polled with
    | true | false => exact nomatch hrest
  | _ => exact fun rest hrest => nomatch hrest

end Invariants

/-! ## Every run -/

/-- A loop that was just constructed. -/
def created (ready : List κ) : EventLoop ι τ κ := { ready }

/-- What holds in every state of every run. -/
structure Sound (past : List (Label ι τ κ)) (loop : EventLoop ι τ κ) : Prop where
  order : InOrder past loop
  coherent : loop.Coherent
  awake : loop.Awake
  dispatching : Dispatching past loop

/-- The loop thread waits in `poll`, and nothing it waits for has happened. -/
def Blocked (loop : EventLoop ι τ κ) : Prop :=
  loop.point = .poll ∧ ∀ source, ¬ loop.IsReady source

section Runs

variable [DecidableEq ι] {ready : List κ} {past : List (Label ι τ κ)} {loop : EventLoop ι τ κ}

theorem sound_of_path (hpath : Path Step (created ready) past loop) : Sound past loop := by
  apply hpath.invariant Sound
  · exact ⟨rfl, ⟨rfl, fun _ => rfl⟩, fun hqueued => (hqueued rfl).elim, fun rest hrest =>
      nomatch hrest⟩
  · intro past before label after _ hsound htaken
    exact ⟨hsound.order.step htaken, hsound.coherent.step htaken,
      hsound.awake.step hsound.coherent htaken, hsound.dispatching.step htaken⟩

/-- No wakeup is lost: while the loop thread waits and nothing is ready, nothing is queued,
or a thread is about to wake it. Tasks are called in the order of the pushes, each once, and
however tasks end, the loop thread calls all it has taken; so it does with the callbacks of
what was reported to it. -/
theorem no_lost_wakeup (hpath : Path Step (created ready) past loop) :
    (loop.Blocked → loop.pendingTasks = [] ∨
      ∃ user, loop.calls user = .pushed ∨ loop.calls user = .waking) ∧
    ran past <+: pushed past ∧
    (loop.point.testsFirst = false ∨ (∃ polled, loop.point = .testQuit polled) →
      pushed past = ran past ++ loop.pendingTasks) ∧
    ∀ rest, loop.point = .channels rest ∨ loop.point = .inCallback rest →
      ∃ before active since, past = before ++ .polled active :: since ∧
        (∀ label ∈ since, label.isPolled = false) ∧
        active = since.filterMap Label.dispatched? ++ rest := by
  have hsound := sound_of_path hpath
  refine ⟨?_, ?_, ?_, ?_⟩
  · intro ⟨hpoll, hquiet⟩
    by_cases hqueued : loop.pendingTasks = []
    · exact Or.inl hqueued
    · rcases hsound.awake hqueued with hnotifying | hreadable | htakes
      · exact Or.inr hnotifying
      · exact (hquiet .wakeup hreadable).elim
      · rw [hpoll] at htakes
        exact nomatch htakes
  · rw [hsound.order, append_assoc]
    exact prefix_append _ _
  · intro hpoint
    have hbatch : loop.point.batch = [] := by
      rcases hpoint with htests | ⟨polled, htest⟩
      · cases hpoint : loop.point <;> simp_all [Point.testsFirst, Point.batch]
      · rw [htest]
        rfl
    rw [hsound.order, hbatch, append_nil]
  · intro rest hrest
    apply hsound.dispatching rest
    rcases hrest with hchannels | hcallback
    · rw [hchannels]
      rfl
    · rw [hcallback]
      rfl

end Runs

/-- The loop thread waits for the first time when another thread has queued task 7. -/
theorem overtaken_path : ∃ past, ∃ loop : EventLoop Unit Nat Unit,
    Path Step (created []) past loop ∧ loop.Blocked ∧ loop.pendingTasks = [7] := by
  refine ⟨_, _, (((((Path.nil.snoc (.loop rfl rfl)).snoc (.swap rfl)).snoc
    (.startCalling rfl)).snoc (.stopCalling rfl)).snoc (.goOn rfl rfl)).snoc
    (.push ⟨rfl, nofun⟩ : Step _ (.push (.other ()) 7) _), ⟨rfl, ?_⟩, rfl⟩
  intro source
  cases source with
  | wakeup => exact Nat.lt_irrefl 0
  | channel => exact nofun

theorem no_lost_wakeup_overtaken : ∃ loop : EventLoop Unit Nat Unit,
    loop.Blocked ∧ loop.pendingTasks ≠ [] ∧
      ∃ user, loop.calls user = .pushed ∨ loop.calls user = .waking := by
  obtain ⟨past, loop, hpath, hblocked, hpending⟩ := overtaken_path
  have hqueued : loop.pendingTasks ≠ [] := by
    rw [hpending]
    exact cons_ne_nil _ _
  exact ⟨loop, hblocked, hqueued, ((no_lost_wakeup hpath).1 hblocked).resolve_left hqueued⟩

end EventLoop

end LiteIM
