/-
# Requests come to their end

A request that was accepted by the business pool is not left behind, also by a pool that
was told to stop: a worker can run what is queued before it, and then its own task. With
that, routing is summed up: one response for each packet, from `route` or from a worker.
-/

import LiteIM.Service.RouterResponses

namespace LiteIM

open Foundation Pool List ThreadPool Function

namespace MessageRouter

/-! ## Parts that do not wait -/

section Programs

variable {H ι : Type}

/-- Calls that are answered at any time: all but taking a task. -/
def RouterCall.Answerable : RouterCall H ι → Prop
  | .take _ => False
  | _ => True

/-- The program makes only such calls. -/
abbrev Unblocked (program : Router H ι Unit) : Prop :=
  program.Throughout fun (call : RouterCall H ι) _ => call.Answerable

theorem sendResponse_unblocked (session : Option SessionRef) (seqId : UInt64)
    (response : Packet) : Unblocked (sendResponse session seqId response : Router H ι Unit) := by
  cases session with
  | none => trivial
  | some =>
    refine ⟨trivial, fun closed => ?_⟩
    cases closed with
    | true => trivial
    | false => exact ⟨trivial, fun _ => trivial⟩

theorem sendError_unblocked (session : Option SessionRef) (seqId : UInt64) (status : Error) :
    Unblocked (sendError session seqId status : Router H ι Unit) := by
  rw [sendError]
  split
  · trivial
  · exact sendResponse_unblocked session seqId _

theorem executeHandler_unblocked (handler : H) (request : RouterRequest) :
    Unblocked (executeHandler handler request : Router H ι Unit) := by
  obtain ⟨session, packet, fields⟩ := request
  cases session with
  | none => trivial
  | some =>
    refine ⟨trivial, fun closed => ?_⟩
    cases closed with
    | true => trivial
    | false =>
      refine ⟨trivial, fun outcome => ?_⟩
      simp only [Program.bind]
      cases outcome.status with
      | ok response => exact sendResponse_unblocked _ _ response
      | error status => exact sendError_unblocked _ _ status

theorem submitTask_unblocked (i : ι) (task : Task H) : Unblocked (submitTask i task) := by
  refine ⟨trivial, fun submitted => ?_⟩
  cases submitted with
  | ok => trivial
  | error status => exact sendError_unblocked _ _ status

theorem route_unblocked (i : ι) (session : Option SessionRef) (packet : Packet) :
    Unblocked (route i session packet : Router H ι Unit) := by
  cases session with
  | none => trivial
  | some session =>
    refine ⟨trivial, fun closed => ?_⟩
    cases closed with
    | true => trivial
    | false =>
      simp only [Program.bind, Bool.false_eq_true, if_false]
      split_ifs
      · exact sendError_unblocked _ _ _
      · cases parseTlvMap packet.body with
        | error status => exact sendError_unblocked _ _ status
        | ok fields =>
          refine ⟨trivial, fun found => ?_⟩
          rcases found with _ | ⟨handler, mode⟩
          · exact sendError_unblocked (some session) packet.header.seqId noHandlerStatus
          · cases mode with
            | inline =>
              exact executeHandler_unblocked handler
                { session := some session, packet, fields }
            | businessThread =>
              exact submitTask_unblocked i { session, handler, packet, fields }

theorem runTask_unblocked (task : Task H) : Unblocked (runTask task : Router H ι Unit) := by
  refine ⟨trivial, fun locked => ?_⟩
  cases locked with
  | false => trivial
  | true =>
    refine ⟨trivial, fun closed => ?_⟩
    cases closed with
    | true => trivial
    | false =>
      exact executeHandler_unblocked task.handler
        { session := some task.session, packet := task.packet, fields := task.fields }

/-- After its first call, each part goes on without waiting. -/
theorem program_next_unblocked {arrivals : ι → Arrival} {part : Part ι} {call : RouterCall H ι}
    {next : call.Reply → Router H ι Unit} (hcall : program arrivals part = .call call next)
    (reply : call.Reply) : Unblocked (next reply) := by
  cases part with
  | route i =>
    have hunblocked := route_unblocked i (arrivals i).session (arrivals i).packet (H := H)
    have hsame : route i (arrivals i).session (arrivals i).packet = .call call next := hcall
    rw [hsame] at hunblocked
    exact hunblocked.2 reply
  | work i =>
    cases hcall
    show Unblocked (runTask reply >>= fun _ => perform (.finish i))
    exact Program.Throughout.bind (runTask_unblocked reply) fun _ => ⟨trivial, fun _ => trivial⟩

end Programs

/-! ## Bringing a request to its end -/

section Progress

variable {H ι : Type} [DecidableEq ι] {outcomes : H → RouterRequest → HandlerOutcome → Prop}
variable {arrivals : ι → Arrival} {world : RouterWorld H ι} {last : RouterPool H ι} {i : ι}

theorem machine_answers (houtcomes : ∀ handler request, ∃ outcome, outcomes handler request outcome)
    (call : RouterCall H ι) (world : RouterWorld H ι) (hanswerable : call.Answerable) :
    ∃ reply next, RouterWorld.machine outcomes call world reply next := by
  cases call with
  | closed | lock | findHandler | submit => exact ⟨_, _, rfl, rfl⟩
  | handle handler request =>
    obtain ⟨outcome, houtcome⟩ := houtcomes handler request
    exact ⟨outcome, world, houtcome, rfl⟩
  | take => exact hanswerable.elim
  | finish => exact ⟨(), _, rfl⟩
  | sendPacket => exact ⟨.ok (), world, rfl⟩

variable {task : Task H} {rest : List (Job H ι)}

/-- A worker that has taken a task leaves the pool alone until it returns. -/
theorem workStep_pool {past : List (Event (router H ι))} {event : Event (router H ι)}
    {before after : RouterWorld H ι} (hjustified : WorkJustified i past event) (hpast : past ≠ [])
    (hanswer : RouterWorld.machine outcomes event.call before event.reply after) :
    (event ≠ ⟨.finish i, ()⟩ ∧ after.businessPool = before.businessPool) ∨
      (event = ⟨.finish i, ()⟩ ∧
        after.businessPool = before.businessPool.finish (Job.isRequest i)) := by
  obtain ⟨call, reply⟩ := event
  cases call with
  | closed | lock | handle =>
    obtain ⟨-, rfl⟩ := hanswer
    exact Or.inl ⟨fun hevent => (nomatch hevent), rfl⟩
  | sendPacket =>
    obtain rfl : after = before := hanswer
    exact Or.inl ⟨fun hevent => (nomatch hevent), rfl⟩
  | finish =>
    obtain ⟨rfl, -⟩ := hjustified
    obtain rfl : after = _ := hanswer
    exact Or.inr ⟨rfl, rfl⟩
  | take => exact (hpast hjustified.2).elim
  | findHandler | submit => exact hjustified.elim

theorem length_finish_lt {pool : ThreadPool (Job H ι)} (hbusy : .request i task ∈ pool.busy) :
    (pool.finish (Job.isRequest i)).busy.length < pool.busy.length := by
  have hany : pool.busy.any (Job.isRequest i) = true :=
    any_eq_true.mpr ⟨_, hbusy, isRequest_iff.mpr ⟨task, rfl⟩⟩
  rw [finish, if_pos hany, length_eraseP, if_pos hany]
  exact Nat.sub_lt (length_pos_of_mem hbusy) Nat.one_pos

/-- A part that does not wait can be run to its end. -/
theorem Runs.exists_ended
    (houtcomes : ∀ handler request, ∃ outcome, outcomes handler request outcome)
    {part : Part ι} (hunblocked : Unblocked (last.threads part)) :
    ∃ later, Runs outcomes last later ∧ later.threads part = .ret () := by
  obtain ⟨trace, value, after, hexec⟩ :=
    hunblocked.exists_exec (machine_answers houtcomes) last.world
  refine ⟨_, Reaches.exec last part hexec rfl rfl fun _ _ _ => trivial, ?_⟩
  exact update_self ..

/-- A worker can return from a task that something else submitted. -/
theorem exists_other_returned (hbusy : last.world.businessPool.busy = .other :: rest) :
    ∃ later, Runs outcomes last later ∧
      later.world.businessPool.tasks = last.world.businessPool.tasks ∧
      later.world.businessPool.busy = rest := by
  have hany : last.world.businessPool.busy.any Job.isOther = true := by
    rw [hbusy]
    rfl
  refine ⟨_, .single (.outside .finish), (finish_sublist _ _).2, ?_⟩
  rw [finish, if_pos hany, hbusy, eraseP_cons_of_pos]
  rfl

section Always

variable (hruns : Runs outcomes (arriving arrivals world) last)
include hruns

/-- A part that has made a call does not wait any more. -/
theorem Runs.unblocked (part : Part ι) :
    (history last.log part = [] ∧ last.threads part = program arrivals part) ∨
      (history last.log part ≠ [] ∧ Unblocked (last.threads part)) := by
  revert part
  apply Reaches.invariant hruns fun pool => ∀ part,
    (history pool.log part = [] ∧ pool.threads part = program arrivals part) ∨
      (history pool.log part ≠ [] ∧ Unblocked (pool.threads part))
  · exact fun part => Or.inl ⟨rfl, rfl⟩
  · intro pool part call next reply after hpool hthread _ _ other
    by_cases hsame : other = part
    · subst hsame
      rw [history_advance_self]
      refine Or.inr ⟨append_ne_nil_of_right_ne_nil _ (cons_ne_nil _ _), ?_⟩
      rw [show (pool.advance other _ (next reply) after).threads other = next reply from
        update_self ..]
      rcases hpool other with ⟨-, hstart⟩ | ⟨-, hunblocked⟩
      · exact program_next_unblocked (hstart.symm.trans hthread) reply
      · rw [hthread] at hunblocked
        exact hunblocked.2 reply
    · rw [history_advance_of_ne _ _ _ _ _ hsame,
        show (pool.advance part _ (next reply) after).threads other = pool.threads other from
          update_of_ne hsame ..]
      exact hpool other
  · exact fun pool after hpool _ => hpool

variable (hsound : Sound [] world.businessPool)
include hsound

/-- A worker can take the task of a request that is first in the queue. -/
theorem Runs.exists_taken (htasks : last.world.businessPool.tasks = .request i task :: rest)
    (hidle : last.world.businessPool.idle ≠ 0) :
    ∃ later, Runs outcomes last later ∧ later.world.businessPool.tasks = rest ∧
      later.world.businessPool.busy = .request i task :: last.world.businessPool.busy ∧
      history later.log (.work i) ≠ [] := by
  have huntaken := ((hruns.sound hsound).queued i task (htasks ▸ mem_cons_self)).2
  have hstart : last.threads (.work i) = work i := by
    apply Reaches.threads_of_history_nil hruns
    apply eq_nil_iff_forall_not_mem.mpr
    intro event hmem
    obtain ⟨earlier, htaken⟩ := (hruns.histories i).2.begun event hmem
    exact huntaken earlier (mem_history.mp htaken)
  have htake := take_eq_some_iff.mpr ⟨rest, htasks, hidle, rfl⟩
  have hanswer : RouterWorld.machine outcomes (.take i) last.world task _ := ⟨_, htake, rfl⟩
  refine ⟨_, .single (.thread (.work i) hstart trivial hanswer), rfl, rfl, ?_⟩
  rw [history_advance_self]
  exact append_ne_nil_of_right_ne_nil _ (cons_ne_nil _ _)

variable (houtcomes : ∀ handler request, ∃ outcome, outcomes handler request outcome)
include houtcomes

/-- A worker that runs the task of a request can return from it. -/
theorem Runs.exists_returned
    (hbusy : .request i task ∈ last.world.businessPool.busy) : ∃ later, Runs outcomes last later ∧
      later.world.businessPool.tasks = last.world.businessPool.tasks ∧
      later.world.businessPool.busy.length < last.world.businessPool.busy.length := by
  obtain ⟨htaken, hunfinished⟩ := (hruns.sound hsound).running i task hbusy
  have htaken := mem_history.mpr htaken
  have hstarted := ne_nil_of_mem htaken
  have hunblocked := (hruns.unblocked (.work i)).resolve_left fun hnone => hstarted hnone.1
  obtain ⟨trace, value, after, hexec⟩ :=
    hunblocked.2.exists_exec (machine_answers houtcomes) last.world
  have hfollows := Reaches.follows hruns (program_follows arrivals) (.work i)
  -- The queue stays; the task is run until the worker returns from it.
  have hkept := hexec.justified_invariant hfollows
    (fun past world => past ≠ [] ∧
      world.businessPool.tasks = last.world.businessPool.tasks ∧
      ((⟨.finish i, ()⟩ ∉ past ∧ world.businessPool.busy = last.world.businessPool.busy) ∨
        world.businessPool.busy.length < last.world.businessPool.busy.length))
    ⟨hstarted, rfl, Or.inl ⟨fun hmem => hunfinished (mem_history.mp hmem), rfl⟩⟩ ?_
  · have hend : WorkEnd i (history last.log (.work i) ++ trace) := hexec.follows hfollows
    refine ⟨_, Reaches.exec last (.work i) hexec rfl rfl fun _ _ _ => trivial, hkept.2.1, ?_⟩
    exact hkept.2.2.resolve_left fun hrunning => hrunning.1 hend.1
  · rintro past event before next ⟨hpast, htasks, hjobs⟩ hjustified hanswer
    refine ⟨append_ne_nil_of_left_ne_nil hpast _, ?_⟩
    rcases workStep_pool hjustified hpast hanswer with ⟨hother, hpool⟩ | ⟨-, hpool⟩
    · rw [hpool]
      refine ⟨htasks, hjobs.imp_left fun ⟨hunfinished, hsame⟩ => ⟨fun hmem => ?_, hsame⟩⟩
      rcases mem_append.mp hmem with hold | hnew
      · exact hunfinished hold
      · exact hother (mem_singleton.mp hnew).symm
    · obtain ⟨hsublist, hqueue⟩ := before.businessPool.finish_sublist (Job.isRequest i)
      rw [hpool, hqueue]
      refine ⟨htasks, Or.inr ?_⟩
      rcases hjobs with ⟨-, hsame⟩ | hshorter
      · rw [← hsame] at hbusy ⊢
        exact length_finish_lt hbusy
      · exact Nat.lt_of_le_of_lt hsublist.length_le hshorter

/-- When all workers are busy, one of them can return. -/
theorem Runs.exists_idle
    (htasks : last.world.businessPool.tasks ≠ []) (hidle : last.world.businessPool.idle = 0) :
    ∃ later, Runs outcomes last later ∧
      later.world.businessPool.tasks = last.world.businessPool.tasks ∧
      later.world.businessPool.busy.length < last.world.businessPool.busy.length := by
  have hpresent := (hruns.sound hsound).staffed.present (Or.inr htasks)
  cases hbusy : last.world.businessPool.busy with
  | nil =>
    rw [hidle, hbusy] at hpresent
    exact (Nat.lt_irrefl 0 hpresent).elim
  | cons job =>
    cases job with
    | other =>
      obtain ⟨later, hlater, hqueue, hrest⟩ := exists_other_returned hbusy
      refine ⟨later, hlater, hqueue, ?_⟩
      rw [hrest]
      exact Nat.lt_succ_self _
    | request =>
      rw [← hbusy]
      exact hruns.exists_returned hsound houtcomes (hbusy ▸ mem_cons_self)

/-- A free worker can run the first task of the queue. -/
theorem Runs.exists_run_first {job : Job H ι} (htasks : last.world.businessPool.tasks = job :: rest)
    (hidle : last.world.businessPool.idle ≠ 0) :
    ∃ later, Runs outcomes last later ∧ later.world.businessPool.tasks = rest ∧
      later.world.businessPool.busy.length ≤ last.world.businessPool.busy.length := by
  cases job with
  | other =>
    have htake := take_eq_some_iff.mpr ⟨rest, htasks, hidle, rfl⟩
    obtain ⟨mid, hmid, hqueue, hbusy⟩ : ∃ mid, Runs outcomes last mid ∧
        mid.world.businessPool.tasks = rest ∧
        mid.world.businessPool.busy = .other :: last.world.businessPool.busy :=
      ⟨_, .single (.outside (.take htake)), rfl, rfl⟩
    obtain ⟨later, hlater, hsame, hrest⟩ := exists_other_returned hbusy
    exact ⟨later, hmid.trans hlater, hsame.trans hqueue, hrest ▸ Nat.le_refl _⟩
  | request =>
    obtain ⟨mid, hmid, hqueue, hbusy, -⟩ := hruns.exists_taken hsound htasks hidle
    obtain ⟨later, hlater, hsame, hshorter⟩ :=
      Runs.exists_returned (hruns.trans hmid) hsound houtcomes (hbusy ▸ mem_cons_self)
    rw [hbusy] at hshorter
    exact ⟨later, hmid.trans hlater, hsame.trans hqueue, Nat.le_of_lt_succ hshorter⟩

/-- What is queued before the task of a request can be run, and then the task. -/
theorem Runs.exists_work_ended {before after : List (Job H ι)}
    (htasks : last.world.businessPool.tasks = before ++ .request i task :: after) :
    ∃ later, Runs outcomes last later ∧ later.threads (.work i) = .ret () := by
  -- Either the queue before the task gets shorter, or a worker gets free.
  induction hmeasure : before.length + last.world.businessPool.busy.length
    using Nat.strongRecOn generalizing last before with
  | ind measure ih =>
    by_cases hidle : last.world.businessPool.idle = 0
    · obtain ⟨mid, hmid, hqueue, hshorter⟩ :=
        hruns.exists_idle hsound houtcomes (by simp [htasks]) hidle
      obtain ⟨later, hlater, hended⟩ :=
        ih _ (by omega) (hruns.trans hmid) (hqueue.trans htasks) rfl
      exact ⟨later, hmid.trans hlater, hended⟩
    · cases before with
      | nil =>
        obtain ⟨mid, hmid, -, -, hstarted⟩ := hruns.exists_taken hsound htasks hidle
        have hunblocked := (Runs.unblocked (hruns.trans hmid) (.work i)).resolve_left
          fun hnone => hstarted hnone.1
        obtain ⟨later, hlater, hended⟩ := Runs.exists_ended houtcomes hunblocked.2
        exact ⟨later, hmid.trans hlater, hended⟩
      | cons =>
        obtain ⟨mid, hmid, hqueue, hbusy⟩ :=
          hruns.exists_run_first hsound houtcomes htasks hidle
        rw [length_cons] at hmeasure
        obtain ⟨later, hlater, hended⟩ := ih _ (by omega) (hruns.trans hmid) hqueue rfl
        exact ⟨later, hmid.trans hlater, hended⟩

/-- Every request can be brought to its end. -/
theorem Runs.exists_request_ended (i : ι) :
    ∃ later, Runs outcomes last later ∧ Ended later i := by
  have hroute : Unblocked (last.threads (.route i)) := by
    rcases hruns.unblocked (.route i) with ⟨-, hstart⟩ | ⟨-, hunblocked⟩
    · rw [hstart]
      exact route_unblocked i (arrivals i).session (arrivals i).packet
    · exact hunblocked
  obtain ⟨mid, hmid, hreturned⟩ := Runs.exists_ended houtcomes hroute
  have hruns : Runs outcomes (arriving arrivals world) mid := hruns.trans hmid
  by_cases hsubmitted : ∃ task, Submitted mid.log i task
  · obtain ⟨task, hsubmitted⟩ := hsubmitted
    have hwork : ∃ later, Runs outcomes mid later ∧ later.threads (.work i) = .ret () := by
      rcases (hruns.sound hsound).accepted i task hsubmitted with hqueued | htaken
      · obtain ⟨before, after, htasks⟩ := append_of_mem hqueued
        exact hruns.exists_work_ended hsound houtcomes htasks
      · have hstarted := ne_nil_of_mem (mem_history.mpr htaken)
        have hunblocked := (hruns.unblocked (.work i)).resolve_left fun hnone => hstarted hnone.1
        exact Runs.exists_ended houtcomes hunblocked.2
    obtain ⟨later, hlater, hended⟩ := hwork
    exact ⟨later, hmid.trans hlater, Reaches.ret hlater hreturned, Or.inr hended⟩
  · exact ⟨mid, hmid, hreturned, Or.inl fun task htask => hsubmitted ⟨task, htask⟩⟩

end Always

/-- Every packet gets one response. When its session is open at the end of its processing,
one packet was handed to the session, and it answers what came of the request; when the
session was closed at the call of `route`, no handler was run and nothing was sent. And the
processing of a packet can always be brought to its end. -/
theorem one_response (hruns : Runs outcomes (arriving arrivals world) last)
    (hstaffed : world.businessPool.Staffed)
    (hothers : ∀ job ∈ world.businessPool.tasks ++ world.businessPool.busy, job = .other)
    (houtcomes : ∀ handler request, ∃ outcome, outcomes handler request outcome)
    (hfits : ∀ handler request outcome status, outcomes handler request outcome →
      outcome.status = .error status → Fits status) (i : ι) :
    (∀ session, (arrivals i).session = some session → Ended last i →
      last.world.sessions.closed session = false →
      ∃ response, (events last.log i).filterMap sentPacket = [(session, response)] ∧
        (∃ result, Result i (arrivals i) (events last.log i) result) ∧
        ∀ result, Result i (arrivals i) (events last.log i) result →
          Responds (arrivals i).packet.header.seqId result response) ∧
    (∀ mid, Runs outcomes (arriving arrivals world) mid → Runs outcomes mid last →
      history mid.log (.route i) = [] →
      (∀ session, (arrivals i).session = some session →
        mid.world.sessions.closed session = true) →
      ∀ event ∈ events last.log i, Acts event = false) ∧
    ∃ later, Runs outcomes last later ∧ Ended later i := by
  have hsound : Sound [] world.businessPool := sound_start hstaffed hothers
  refine ⟨?_, ?_, hruns.exists_request_ended hsound houtcomes i⟩
  · intro session hsession hended hopen
    obtain ⟨response, hone, result, hresult, hreply⟩ :=
      hruns.responds hsound hfits hended hsession hopen
    refine ⟨response, hone, ⟨result, hresult⟩, fun other hother => ?_⟩
    rw [hruns.result_unique hsound hother hresult]
    exact responds_of_replyTo hreply
  · intro mid hmid hrest huncalled hclosed
    exact Runs.silent hmid hrest hsound huncalled hclosed

end Progress

/-! ## A heartbeat by the business pool -/

/-- A heartbeat request with sequence number 7. -/
def heartbeat : Arrival where
  session := some ⟨1⟩
  packet := { header := { msgType := .heartbeatRequest, seqId := 7 } }

/-- The only handler answers heartbeats, in the business pool. -/
def heartbeatOutcome : Unit → RouterRequest → HandlerOutcome → Prop :=
  fun _ _ outcome => outcome = .returned (.ok { header := { msgType := .heartbeatResponse } })

def oneWorker : RouterWorld Unit Unit where
  sessions := fun _ => {}
  handlers := fun key =>
    if key = 1 then some { handler := (), mode := .businessThread } else none
  businessPool := { workerCount := 1, running := true, workers := 1, idle := 1 }

def heartbeatTask : Task Unit where
  session := ⟨1⟩
  handler := ()
  packet := heartbeat.packet
  fields := fun _ => none

/-- The pool has taken the task of the heartbeat into its queue. -/
def heartbeatQueued : RouterWorld Unit Unit :=
  { oneWorker with businessPool := { oneWorker.businessPool with
    tasks := [.request () heartbeatTask] } }

theorem heartbeat_route : Program.Exec (RouterWorld.machine heartbeatOutcome)
    (route () heartbeat.session heartbeat.packet) oneWorker [⟨.closed ⟨1⟩, false⟩,
      ⟨.findHandler .heartbeatRequest, some { handler := (), mode := .businessThread }⟩,
      ⟨.submit () heartbeatTask, .ok ()⟩] () heartbeatQueued := by
  have hparse : parseTlvMap heartbeat.packet.body = .ok fun _ => none :=
    @parseTlvMap_encodeFields [] (by simp)
  unfold route
  rw [hparse]
  exact .call ⟨rfl, rfl⟩ (.call ⟨rfl, rfl⟩ (.call ⟨rfl, rfl⟩ (.ret _ _)))

theorem heartbeat_work : Program.Exec (RouterWorld.machine heartbeatOutcome) (work ())
    heartbeatQueued [⟨.take (), heartbeatTask⟩, ⟨.lock ⟨1⟩, true⟩, ⟨.closed ⟨1⟩, false⟩,
      ⟨.closed ⟨1⟩, false⟩,
      ⟨.handle () ⟨some ⟨1⟩, heartbeat.packet, fun _ => none⟩,
        .returned (.ok { header := { msgType := .heartbeatResponse } })⟩,
      ⟨.closed ⟨1⟩, false⟩,
      ⟨.sendPacket ⟨1⟩ (stamped 7 { header := { msgType := .heartbeatResponse } }), .ok ()⟩,
      ⟨.finish (), ()⟩] () oneWorker :=
  .call ⟨_, rfl, rfl⟩ (.call ⟨rfl, rfl⟩ (.call ⟨rfl, rfl⟩ (.call ⟨rfl, rfl⟩
    (.call ⟨rfl, rfl⟩ (.call ⟨rfl, rfl⟩ (.call rfl (.call rfl (.ret _ _))))))))

/-- `route` returns, and then the worker runs the task. -/
theorem heartbeat_runs :
    ∃ last, Runs heartbeatOutcome (arriving (fun _ => heartbeat) oneWorker) last ∧
      Ended last () ∧ last.world = oneWorker := by
  have hroute : Runs heartbeatOutcome (arriving (fun _ => heartbeat) oneWorker) _ :=
    Reaches.exec _ (.route ()) heartbeat_route rfl rfl fun _ _ _ => trivial
  exact ⟨_, hroute.trans (Reaches.exec _ (.work ()) heartbeat_work rfl rfl
    fun _ _ _ => trivial), ⟨rfl, Or.inr rfl⟩, rfl⟩

theorem one_response_heartbeat :
    ∃ last, Runs heartbeatOutcome (arriving (fun _ => heartbeat) oneWorker) last ∧
      ∃ response, (events last.log ()).filterMap sentPacket = [(⟨1⟩, response)] := by
  obtain ⟨last, hruns, hended, hworld⟩ := heartbeat_runs
  have hstaffed : oneWorker.businessPool.Staffed := ⟨by decide, by decide⟩
  have hsent := one_response hruns hstaffed (fun _ hmem => nomatch hmem)
    (fun _ _ => ⟨_, rfl⟩) (fun _ _ _ _ houtcome hstatus => by cases houtcome; cases hstatus) ()
  obtain ⟨response, hone, -⟩ := hsent.1 ⟨1⟩ rfl hended (by rw [hworld]; rfl)
  exact ⟨last, hruns, response, hone⟩

end MessageRouter

end LiteIM
