/-
# Where the task of a request is

Any number of packets are routed at once, while sessions close, handlers are registered,
and the business pool is started, stopped and used by others. The invariant of such runs
says where the task of a request is: queued, being run, or done. So a task that was
accepted is not lost, and none is run twice.
-/

import LiteIM.Foundation.Pool
import LiteIM.Service.MessageRouter

namespace LiteIM

open Foundation List ThreadPool

namespace MessageRouter

/-- The two parts of a request. -/
inductive Part (ι : Type) where
  | route (i : ι)
  | work (i : ι)
  deriving DecidableEq

abbrev RouterLog (H ι : Type) := List (Part ι × Event (router H ι))

section Jobs

variable {H ι : Type}

/-- The task of a request was accepted by the pool. -/
def Submitted (log : RouterLog H ι) (i : ι) (task : Task H) : Prop :=
  (.route i, ⟨.submit i task, .ok ()⟩) ∈ log

/-- A worker took the task of a request. -/
def Taken (log : RouterLog H ι) (i : ι) (task : Task H) : Prop :=
  (.work i, ⟨.take i, task⟩) ∈ log

/-- A worker returned from the task of a request. -/
def Finished (log : RouterLog H ι) (i : ι) : Prop :=
  (.work i, ⟨.finish i, ()⟩) ∈ log

section Append

variable {log : RouterLog H ι} {part : Part ι} {event : Event (router H ι)} {i : ι} {task : Task H}

theorem submitted_append : Submitted (log ++ [(part, event)]) i task ↔
    Submitted log i task ∨ part = .route i ∧ event = ⟨.submit i task, .ok ()⟩ := by
  rw [Submitted, mem_append, mem_singleton, Prod.mk.injEq, eq_comm (b := part),
    eq_comm (b := event), Submitted]

theorem taken_append : Taken (log ++ [(part, event)]) i task ↔
    Taken log i task ∨ part = .work i ∧ event = ⟨.take i, task⟩ := by
  rw [Taken, mem_append, mem_singleton, Prod.mk.injEq, eq_comm (b := part),
    eq_comm (b := event), Taken]

theorem finished_append : Finished (log ++ [(part, event)]) i ↔
    Finished log i ∨ part = .work i ∧ event = ⟨.finish i, ()⟩ := by
  rw [Finished, mem_append, mem_singleton, Prod.mk.injEq, eq_comm (b := part),
    eq_comm (b := event), Finished]

end Append

variable [DecidableEq ι]

/-- The pool holds what was submitted and not taken, and runs what was taken and is not
finished. -/
structure Sound (log : RouterLog H ι) (pool : ThreadPool (Job H ι)) : Prop where
  staffed : pool.Staffed
  once : ∀ i, (pool.tasks ++ pool.busy).countP (Job.isRequest i) ≤ 1
  queued : ∀ i task, .request i task ∈ pool.tasks →
    Submitted log i task ∧ ∀ other, ¬ Taken log i other
  running : ∀ i task, .request i task ∈ pool.busy → Taken log i task ∧ ¬ Finished log i
  accepted : ∀ i task, Submitted log i task →
    .request i task ∈ pool.tasks ∨ Taken log i task
  taken : ∀ i task, Taken log i task → Submitted log i task
  finished : ∀ i, Finished log i → ∃ task, Taken log i task

/-- A pool that holds no request, and nothing has happened yet. -/
theorem sound_start {pool : ThreadPool (Job H ι)} (hstaffed : pool.Staffed)
    (hothers : ∀ job ∈ pool.tasks ++ pool.busy, job = .other) : Sound [] pool where
  staffed := hstaffed
  once i := by
    rw [countP_eq_zero.mpr]
    · exact Nat.zero_le 1
    · intro job hjob
      rw [hothers job hjob]
      exact Bool.false_ne_true
  queued i task hmem := nomatch hothers _ (mem_append_left _ hmem)
  running i task hmem := nomatch hothers _ (mem_append_right _ hmem)
  accepted i task hsubmitted := nomatch hsubmitted
  taken i task htaken := nomatch htaken
  finished i hfinished := nomatch hfinished

variable {i : ι}

theorem isRequest_iff {job : Job H ι} :
    Job.isRequest i job = true ↔ ∃ task, job = .request i task := by
  cases job with
  | request j task =>
    simp only [Job.isRequest, decide_eq_true_eq, Job.request.injEq]
    refine ⟨fun hsame => ⟨task, hsame, rfl⟩, fun ⟨_, hsame, _⟩ => hsame⟩
  | other => simp [Job.isRequest]

/-- Events that concern no task. -/
def Idle (event : Event (router H ι)) : Prop :=
  match event with
  | ⟨.submit _ _, .ok _⟩ => False
  | ⟨.take _, _⟩ => False
  | ⟨.finish _, _⟩ => False
  | _ => True

section Steps

variable {log : RouterLog H ι} {pool : ThreadPool (Job H ι)} (hsound : Sound log pool)
include hsound

theorem Sound.idle (part : Part ι) {event : Event (router H ι)} (hidle : Idle event) :
    Sound (log ++ [(part, event)]) pool := by
  have hsubmitted : ∀ i task, Submitted (log ++ [(part, event)]) i task ↔
      Submitted log i task := by
    intro i task
    rw [submitted_append, or_iff_left]
    rintro ⟨-, rfl⟩
    exact hidle
  have htaken : ∀ i task, Taken (log ++ [(part, event)]) i task ↔ Taken log i task := by
    intro i task
    rw [taken_append, or_iff_left]
    rintro ⟨-, rfl⟩
    exact hidle
  have hfinished : ∀ i, Finished (log ++ [(part, event)]) i ↔ Finished log i := by
    intro i
    rw [finished_append, or_iff_left]
    rintro ⟨-, rfl⟩
    exact hidle
  refine ⟨hsound.staffed, hsound.once, ?_, ?_, ?_, ?_, ?_⟩
  · simpa only [hsubmitted, htaken] using hsound.queued
  · simpa only [htaken, hfinished] using hsound.running
  · simpa only [hsubmitted, htaken] using hsound.accepted
  · simpa only [hsubmitted, htaken] using hsound.taken
  · simpa only [hfinished, htaken] using hsound.finished

/-- The pool may change as long as it keeps the tasks of requests. -/
theorem Sound.keeps {after : ThreadPool (Job H ι)} (hstaffed : after.Staffed)
    (htasks : ∀ i task, Job.request i task ∈ after.tasks ↔ .request i task ∈ pool.tasks)
    (hbusy : ∀ i task, Job.request i task ∈ after.busy ↔ .request i task ∈ pool.busy)
    (honce : ∀ i, (after.tasks ++ after.busy).countP (Job.isRequest i) ≤
      (pool.tasks ++ pool.busy).countP (Job.isRequest i)) : Sound log after where
  staffed := hstaffed
  once i := (honce i).trans (hsound.once i)
  queued i task hmem := hsound.queued i task ((htasks i task).mp hmem)
  running i task hmem := hsound.running i task ((hbusy i task).mp hmem)
  accepted i task hsubmitted :=
    (hsound.accepted i task hsubmitted).imp_left (htasks i task).mpr
  taken := hsound.taken
  finished := hsound.finished

variable {task : Task H}

/-- A request that the pool holds was submitted. -/
theorem Sound.exists_submitted (hmem : .request i task ∈ pool.tasks ++ pool.busy) :
    Submitted log i task := by
  rcases mem_append.mp hmem with hqueued | hrunning
  · exact (hsound.queued i task hqueued).1
  · exact hsound.taken i task (hsound.running i task hrunning).1

/-- A request is accepted that was not submitted before. -/
theorem Sound.submit (hrunning : pool.running = true) (hnew : ∀ other, ¬ Submitted log i other) :
    Sound (log ++ [(.route i, ⟨.submit i task, .ok ()⟩)])
      { pool with tasks := pool.tasks ++ [.request i task] } := by
  have htaken : ∀ j other, Taken (log ++ [(.route i, ⟨.submit i task, .ok ()⟩)]) j other ↔
      Taken log j other := by simp [taken_append]
  have hfinished : ∀ j, Finished (log ++ [(.route i, ⟨.submit i task, .ok ()⟩)]) j ↔
      Finished log j := by simp [finished_append]
  refine ⟨⟨fun _ => hsound.staffed.present (Or.inl hrunning), hsound.staffed.counted⟩,
    fun j => ?_, fun j other hmem => ?_, fun j other hmem => ?_, fun j other hsubmitted => ?_,
    fun j other hother => ?_, ?_⟩
  · have honce := hsound.once j
    simp only [countP_append, countP_singleton] at honce ⊢
    by_cases hsame : j = i
    · subst hsame
      have hnone : (pool.tasks ++ pool.busy).countP (Job.isRequest j) = 0 := by
        apply countP_eq_zero.mpr
        intro job hjob hrequest
        obtain ⟨other, rfl⟩ := isRequest_iff.mp hrequest
        exact hnew other (hsound.exists_submitted hjob)
      rw [countP_append] at hnone
      split_ifs <;> omega
    · have hdifferent : Job.isRequest j (.request i task : Job H ι) = false :=
        decide_eq_false (Ne.symm hsame)
      rw [hdifferent]
      simpa using honce
  · rw [submitted_append]
    simp only [htaken]
    rcases mem_append.mp hmem with hold | hlast
    · exact ⟨Or.inl (hsound.queued j other hold).1, (hsound.queued j other hold).2⟩
    · obtain ⟨rfl, rfl⟩ := Job.request.inj (mem_singleton.mp hlast)
      exact ⟨Or.inr ⟨rfl, rfl⟩, fun third hthird => hnew third (hsound.taken _ _ hthird)⟩
  · rw [htaken, hfinished]
    exact hsound.running j other hmem
  · rw [htaken]
    rcases submitted_append.mp hsubmitted with hold | ⟨hpart, hevent⟩
    · exact (hsound.accepted j other hold).imp_left (mem_append_left _)
    · cases hpart
      cases hevent
      exact Or.inl (mem_append_right _ (mem_singleton_self _))
  · exact submitted_append.mpr (Or.inl (hsound.taken j other ((htaken j other).mp hother)))
  · simpa only [hfinished, htaken] using hsound.finished

/-- A worker takes the task of a request. -/
theorem Sound.take {after : ThreadPool (Job H ι)}
    (htake : pool.take = some (.request i task, after)) :
    Sound (log ++ [(.work i, ⟨.take i, task⟩)]) after := by
  have hstaffed := hsound.staffed.take htake
  obtain ⟨rest, htasks, -, rfl⟩ := take_eq_some_iff.mp htake
  have hfront : .request i task ∈ pool.tasks := htasks ▸ mem_cons_self
  have hsubmitted : ∀ j other, Submitted (log ++ [(.work i, ⟨.take i, task⟩)]) j other ↔
      Submitted log j other := by simp [submitted_append]
  have hfinished : ∀ j, Finished (log ++ [(.work i, ⟨.take i, task⟩)]) j ↔ Finished log j := by
    simp [finished_append]
  have htaken : ∀ j other, Taken log j other →
      Taken (log ++ [(.work i, ⟨.take i, task⟩)]) j other :=
    fun j other hold => taken_append.mpr (Or.inl hold)
  -- The queue holds no second task of the request.
  have hrest : ∀ j other, .request j other ∈ rest → j ≠ i := by
    rintro j other hmem rfl
    have hsecond : 0 < rest.countP (Job.isRequest j) :=
      countP_pos_iff.mpr ⟨_, hmem, isRequest_iff.mpr ⟨other, rfl⟩⟩
    have honce := hsound.once j
    rw [htasks, countP_append, countP_cons_of_pos (isRequest_iff.mpr ⟨task, rfl⟩)]
      at honce
    omega
  refine ⟨hstaffed, fun j => ?_, fun j other hmem => ?_, fun j other hmem => ?_,
    fun j other hother => ?_, fun j other hother => ?_, fun j hdone => ?_⟩
  · have honce := hsound.once j
    simp only [htasks, countP_append, countP_cons] at honce ⊢
    omega
  · have hold := hsound.queued j other (htasks ▸ mem_cons_of_mem _ hmem)
    refine ⟨(hsubmitted j other).mpr hold.1, fun third hthird => ?_⟩
    rcases taken_append.mp hthird with hearlier | ⟨hpart, -⟩
    · exact hold.2 third hearlier
    · exact hrest j other hmem (Part.work.inj hpart).symm
  · rw [hfinished]
    cases hmem with
    | head =>
      refine ⟨taken_append.mpr (Or.inr ⟨rfl, rfl⟩), fun hdone => ?_⟩
      obtain ⟨earlier, hearlier⟩ := hsound.finished i hdone
      exact (hsound.queued i task hfront).2 earlier hearlier
    | tail _ hold =>
      exact ⟨htaken j other (hsound.running j other hold).1, (hsound.running j other hold).2⟩
  · rcases hsound.accepted j other ((hsubmitted j other).mp hother) with hqueued | hold
    · rw [htasks] at hqueued
      cases hqueued with
      | head => exact Or.inr (taken_append.mpr (Or.inr ⟨rfl, rfl⟩))
      | tail _ hlater => exact Or.inl hlater
    · exact Or.inr (htaken j other hold)
  · rw [hsubmitted]
    rcases taken_append.mp hother with hold | ⟨hpart, hevent⟩
    · exact hsound.taken j other hold
    · cases hpart
      cases hevent
      exact (hsound.queued i task hfront).1
  · obtain ⟨earlier, hearlier⟩ := hsound.finished j ((hfinished j).mp hdone)
    exact ⟨earlier, htaken j earlier hearlier⟩

/-- After that, nobody runs the task. -/
theorem Sound.not_mem_finish (i : ι) (task : Task H) :
    .request i task ∉ (pool.finish (Job.isRequest i)).busy := by
  intro hmem
  have honce := hsound.once i
  by_cases hany : pool.busy.any (Job.isRequest i) = true
  · obtain ⟨first, hfirst, hrequest⟩ := any_eq_true.mp hany
    obtain ⟨job, before, after, hbefore, hjob, hbusy, herase⟩ :=
      exists_of_eraseP hfirst hrequest
    rw [finish, if_pos hany] at hmem
    have hafter : .request i task ∈ after := by
      rcases mem_append.mp (herase ▸ hmem) with hearly | hlate
      · exact (hbefore _ hearly (isRequest_iff.mpr ⟨task, rfl⟩)).elim
      · exact hlate
    have hsecond : 0 < after.countP (Job.isRequest i) :=
      countP_pos_iff.mpr ⟨_, hafter, isRequest_iff.mpr ⟨task, rfl⟩⟩
    rw [countP_append, hbusy, countP_append, countP_cons_of_pos hjob] at honce
    omega
  · rw [finish, if_neg hany] at hmem
    exact hany (any_eq_true.mpr ⟨_, hmem, isRequest_iff.mpr ⟨task, rfl⟩⟩)

/-- The worker returns from a task. -/
theorem Sound.finish (htaken : ∃ task, Taken log i task) :
    Sound (log ++ [(.work i, ⟨.finish i, ()⟩)]) (pool.finish (Job.isRequest i)) := by
  have hstaffed := hsound.staffed.finish (Job.isRequest i)
  obtain ⟨hsublist, htasks⟩ := pool.finish_sublist (Job.isRequest i)
  have hsubmitted : ∀ j other, Submitted (log ++ [(.work i, ⟨.finish i, ()⟩)]) j other ↔
      Submitted log j other := by simp [submitted_append]
  have hsame : ∀ j other, Taken (log ++ [(.work i, ⟨.finish i, ()⟩)]) j other ↔
      Taken log j other := by simp [taken_append]
  refine ⟨hstaffed, fun j => ?_, ?_, fun j other hmem => ?_, ?_, ?_, fun j hdone => ?_⟩
  · rw [htasks]
    exact ((Sublist.refl _).append hsublist).countP_le.trans (hsound.once j)
  · simpa only [htasks, hsubmitted, hsame] using hsound.queued
  · have hold := hsound.running j other (hsublist.subset hmem)
    refine ⟨(hsame j other).mpr hold.1, fun hdone => ?_⟩
    rcases finished_append.mp hdone with hearlier | ⟨hpart, -⟩
    · exact hold.2 hearlier
    · cases hpart
      exact hsound.not_mem_finish i other hmem
  · simpa only [htasks, hsubmitted, hsame] using hsound.accepted
  · simpa only [hsubmitted, hsame] using hsound.taken
  · simp only [hsame]
    rcases finished_append.mp hdone with hearlier | ⟨hpart, -⟩
    · exact hsound.finished j hearlier
    · cases hpart
      exact htaken

end Steps

/-! ## Whole runs -/

/-- The programs of the two parts. -/
def program (arrivals : ι → Arrival) : Part ι → Router H ι Unit
  | .route i => route i (arrivals i).session (arrivals i).packet
  | .work i => work i

def Justified (arrivals : ι → Arrival) :
    Part ι → List (Event (router H ι)) → Event (router H ι) → Prop
  | .route i => RouteJustified i (arrivals i)
  | .work i => WorkJustified i

def End (arrivals : ι → Arrival) : Part ι → List (Event (router H ι)) → Unit → Prop
  | .route i => fun history _ => RouteEnd i (arrivals i) history
  | .work i => fun history _ => WorkEnd i history

omit [DecidableEq ι] in
theorem program_follows (arrivals : ι → Arrival) (part : Part ι) :
    Program.Follows (Justified arrivals part) (End arrivals part) []
      (program arrivals part : Router H ι Unit) := by
  cases part with
  | route i => exact route_follows i (arrivals i)
  | work i => exact work_follows i

abbrev RouterPool (H ι : Type) := Pool (router H ι) (Part ι) Unit (RouterWorld H ι)

/-- Packets have arrived and `route` is called for each. -/
def arriving (arrivals : ι → Arrival) (world : RouterWorld H ι) : RouterPool H ι :=
  Pool.start (program arrivals) world

abbrev Runs (outcomes : H → RouterRequest → HandlerOutcome → Prop) :
    RouterPool H ι → RouterPool H ι → Prop :=
  Pool.Reaches (RouterWorld.machine outcomes) RouterWorld.Elsewhere fun _ _ _ => True

section Runs

variable {outcomes : H → RouterRequest → HandlerOutcome → Prop} {arrivals : ι → Arrival}
variable {world : RouterWorld H ι} {first last : RouterPool H ι}

/-- What goes on besides keeps the tasks of requests where they are. -/
theorem Sound.elsewhere {log : RouterLog H ι} {before after : RouterWorld H ι}
    (hsound : Sound log before.businessPool) (helsewhere : before.Elsewhere after) :
    Sound log after.businessPool := by
  cases helsewhere with
  | sessions | register => exact hsound
  | pool change =>
    obtain ⟨htasks, hbusy⟩ := hsound.staffed.change_tasks change
    apply hsound.keeps (hsound.staffed.change change)
    · intro i task
      rw [htasks]
    · intro i task
      rw [hbusy]
    · intro i
      rw [htasks, hbusy]
  | submit =>
    have hstaffed := hsound.staffed.submit .other
    rcases before.businessPool.submit_cases .other with ⟨haccepted, -⟩ | ⟨status, hrefused, -⟩
    · rw [haccepted] at hstaffed ⊢
      apply hsound.keeps hstaffed
      · simp
      · simp
      · simp [Job.isRequest]
    · rw [hrefused]
      exact hsound
  | take taken =>
    have hstaffed := hsound.staffed.take taken
    obtain ⟨rest, htasks, -, rfl⟩ := take_eq_some_iff.mp taken
    apply hsound.keeps hstaffed
    · simp [htasks]
    · simp
    · simp [htasks, Job.isRequest]
  | finish =>
    obtain ⟨hsublist, htasks⟩ := before.businessPool.finish_sublist Job.isOther
    apply hsound.keeps (hsound.staffed.finish Job.isOther)
    · intro i task
      rw [htasks]
    · intro i task
      rw [ThreadPool.finish]
      split_ifs
      · exact mem_eraseP_of_neg Bool.false_ne_true
      · rfl
    · intro i
      rw [htasks]
      exact ((Sublist.refl _).append hsublist).countP_le

theorem Runs.sound (hruns : Runs outcomes (arriving arrivals world) last)
    (hstart : Sound [] world.businessPool) : Sound last.log last.world.businessPool := by
  apply Pool.Reaches.justified_invariant hruns (program_follows arrivals)
    fun pool => Sound pool.log pool.world.businessPool
  · exact hstart
  · rintro pool part ⟨call, reply⟩ next after hsound hjustified hanswer
    have hsame : after = pool.world → Idle ⟨call, reply⟩ →
        Sound (pool.log ++ [(part, ⟨call, reply⟩)]) after.businessPool := by
      rintro rfl hidle
      exact hsound.idle part hidle
    cases call with
    | closed | lock | findHandler | handle => exact hsame hanswer.2 trivial
    | sendPacket => exact hsame hanswer trivial
    | submit i =>
      cases part with
      | work => exact hjustified.elim
      | route =>
        obtain ⟨rfl, -, -, -, hnew⟩ := hjustified
        have hunsubmitted : ∀ other, ¬ Submitted pool.log i other :=
          fun other hold => countP_eq_zero.mp hnew _ (Pool.mem_history.mpr hold) rfl
        rcases RouterWorld.machine_submit hanswer with
          ⟨rfl, hrunning, rfl⟩ | ⟨status, rfl, hworld, -⟩
        · exact hsound.submit hrunning hunsubmitted
        · exact hsame hworld trivial
    | take =>
      cases part with
      | route => exact hjustified.elim
      | work =>
        obtain ⟨rfl, -⟩ := hjustified
        obtain ⟨businessPool, htake, rfl⟩ := hanswer
        exact hsound.take htake
    | finish =>
      cases part with
      | route => exact hjustified.elim
      | work =>
        obtain ⟨rfl, task, hbegun⟩ := hjustified
        obtain rfl : after = _ := hanswer
        exact hsound.finish ⟨task, Pool.mem_history.mp hbegun⟩
  · exact fun pool after hsound helsewhere => hsound.elsewhere helsewhere

end Runs

end Jobs

end MessageRouter

end LiteIM
