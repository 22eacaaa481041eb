/-
# Online requests at the same time

Any number of bind and unbind requests, interleaved at every single call. The
Redis record and the binding of a user are written by separate calls, in one order
by a bind and in the other by an unbind, so that requests for one user can leave
them apart: a late removal deletes the record of a newer login.

A user whose record and binding may be apart has a request that is about to settle
them, by writing the binding or by removing the record. `Safe` says when such a call
settles anything; in runs in which every one of them is safe, nobody who is online
lacks a record once the requests are done.
-/

import LiteIM.Foundation.Pool
import LiteIM.Service.OnlineRecords

namespace LiteIM.OnlineService

open Foundation SessionManager World Redis Function

/-- The requests that change who is online. -/
inductive Update where
  | bindUser (userId : UInt64) (session : Option SessionRef)
  | unbindUser (userId sessionId : UInt64)
  | unbindSession (sessionId : UInt64)
  deriving DecidableEq, Repr

def Update.program (service : OnlineService) : Update → Service Unit
  | .bindUser userId session => service.bindUser userId session
  | .unbindUser userId sessionId => OnlineService.unbindUser userId sessionId
  | .unbindSession sessionId => OnlineService.unbindSession sessionId

/-! ## What the requests do, call by call -/

/-- A record is written directly before the binding, and removed again if there is no
binding. -/
def Disciplined : (call : Call) → (call.Reply → Program services (Except Error Unit)) → Prop
  | .session (.closed _), _ => True
  | .session (.lastActiveTimeMilliseconds _), _ => True
  | .session (.getUserBySession _), _ => True
  | .session (.getBoundUserBySession _), _ => True
  | .session (.unbindUser _ _), _ => True
  | .session (.bindUser userId _), next => ∀ status, ∃ rest,
      next (.error status) = .call (.cache (.setUserOffline userId)) rest
  | .cache (.setUserOnline record _), next => ∃ session rest,
      next (.ok ()) = .call (.session (.bindUser record.userId session)) rest
  | .cache (.setUserOffline _), _ => True
  | _, _ => False

theorem announce_disciplined (service : OnlineService) (userId : UInt64) (session : SessionRef) :
    (service.announce userId session).run.Throughout Disciplined := by
  refine ⟨trivial, fun time => ⟨⟨_, _, rfl⟩, fun written => ?_⟩⟩
  cases written with
  | error => trivial
  | ok =>
    refine ⟨fun status => ⟨_, rfl⟩, fun bound => ?_⟩
    cases bound with
    | ok => trivial
    | error => exact ⟨trivial, fun _ => trivial⟩

theorem unbindUser_disciplined (userId sessionId : UInt64) :
    (OnlineService.unbindUser userId sessionId).run.Throughout Disciplined := by
  refine ⟨trivial, fun removed => ?_⟩
  cases removed with
  | error => trivial
  | ok removed =>
    cases removed with
    | false => trivial
    | true => exact ⟨trivial, fun _ => trivial⟩

/-- A bind makes no call if its arguments are refused; else it begins by asking the
session whether it is closed. -/
theorem bindUser_run (service : OnlineService) (userId : UInt64) (session : Option SessionRef) :
    (∃ status, (service.bindUser userId session).run = .ret (.error status)) ∨
    ∃ found next, (service.bindUser userId session).run =
      .call (.session (.closed found)) next ∧ ∀ reply, (next reply).Throughout Disciplined := by
  by_cases huser : userId = 0
  · exact Or.inl ⟨_, by rw [bindUser, validateSession.eq_def, if_pos huser]; rfl⟩
  · cases session with
    | none => exact Or.inl ⟨_, by rw [bindUser, validateSession.eq_def, if_neg huser]; rfl⟩
    | some session =>
      by_cases hid : session.id = 0
      · exact Or.inl ⟨_, by
          simp only [bindUser, validateSession.eq_def, if_neg huser, if_pos hid]
          rfl⟩
      · right
        simp only [bindUser, validateSession.eq_def, if_neg huser, if_neg hid]
        refine ⟨session, _, rfl, fun closed => ?_⟩
        cases closed with
        | true => trivial
        | false =>
          refine ⟨trivial, fun bound => ?_⟩
          show Program.Throughout Disciplined (ExceptT.run
            (Fallible.ofExcept (checkBound userId bound) >>= fun _ =>
              service.announce userId session))
          cases checkBound userId bound with
          | error => trivial
          | ok => exact announce_disciplined service userId session

theorem program_disciplined (service : OnlineService) (update : Update) :
    (update.program service).run.Throughout Disciplined := by
  cases update with
  | bindUser userId session =>
    rw [Update.program]
    rcases bindUser_run service userId session with ⟨status, hrun⟩ | ⟨found, next, hrun, hnext⟩
    · rw [hrun]
      trivial
    · rw [hrun]
      exact ⟨trivial, hnext⟩
  | unbindUser userId sessionId => exact unbindUser_disciplined userId sessionId
  | unbindSession sessionId =>
    refine ⟨trivial, fun found => ?_⟩
    cases found with
    | ok userId => exact unbindUser_disciplined userId sessionId
    | error status =>
      show (if status.code = .notFound then pure () else throw status :
        Service Unit).run.Throughout Disciplined
      split
      · trivial
      · trivial

/-! ## Presence -/

/-- A user who is online has a record of the session. -/
def Present (world : World) (userId : UInt64) : Prop :=
  ∀ session, world.onlineSession userId = some session → world.redis.Names userId session.id

variable {userId : UInt64}

theorem Present.of_le {before after : World} (hpresent : Present before userId)
    (honline : ∀ session, after.onlineSession userId = some session →
      before.onlineSession userId = some session)
    (hrecord : after.redis.onlineRecord userId = before.redis.onlineRecord userId) :
    Present after userId := by
  intro session hsession
  rw [Names, hrecord]
  exact hpresent session (honline session hsession)

/-- Calls that write the record or the binding of the user. -/
def Touches (userId : UInt64) : Call → Prop
  | .session (.bindUser other _) => other = userId
  | .cache (.setUserOnline record _) => record.userId = userId
  | .cache (.refreshUserOnline other _) => other = userId
  | .cache (.setUserOffline other) => other = userId
  | _ => False

variable {world : World}

theorem Present.answerSession (hpresent : Present world userId) {call : SessionCall}
    (huntouched : ¬ Touches userId (.session call)) :
    Present (world.answerSession (fun _ _ => .ok ()) call).2 userId := by
  cases call with
  | closed | lastActiveTimeMilliseconds | sendPacket | getBoundUserBySession => exact hpresent
  | bindUser other session =>
    apply hpresent.of_le
    · intro found
      apply onlineSession_of_users
      · intro binding hbinding
        rwa [← users_bindUser_of_ne (Ne.symm huntouched) session]
      · intro bound hlive
        rwa [← bindUser_life world.sessions world.sessions world.sessions
          world.manager other session]
    · rfl
  | unbindUser =>
    apply hpresent.of_le
    · intro found
      apply onlineSession_of_users
      · exact fun _ hbinding => users_of_unbindUser hbinding
      · exact fun _ hlive => hlive
    · rfl
  | getSessionByUser other =>
    apply hpresent.of_le
    · intro found honline
      exact (onlineSession_getSessionByUser _ _ other userId).symm.trans honline
    · rfl
  | getUserBySession sessionId =>
    apply hpresent.of_le
    · intro found honline
      exact (onlineSession_getUserBySession _ _ sessionId userId).symm.trans
        honline
    · rfl

theorem Present.answerCache (hpresent : Present world userId) {call : CacheCall}
    (huntouched : ¬ Touches userId (.cache call)) : Present (world.answerCache call).2 userId := by
  cases call with
  | setUserOnline =>
    exact hpresent.of_le (fun _ honline => honline)
      (onlineRecord_setUserOnline_of_ne (Ne.symm huntouched))
  | refreshUserOnline =>
    exact hpresent.of_le (fun _ honline => honline)
      (onlineRecord_refreshUserOnline_of_ne (Ne.symm huntouched))
  | setUserOffline =>
    exact hpresent.of_le (fun _ honline => honline)
      (onlineRecord_setUserOffline_of_ne (Ne.symm huntouched))
  | incrUnread key delta =>
    exact hpresent.of_le (fun _ honline => honline)
      (onlineRecord_incrUnread _ key delta userId)
  | clearUnread key =>
    exact hpresent.of_le (fun _ honline => honline)
      (onlineRecord_clearUnread _ key userId)
  | isUserOnline | allowLoginAttempt => exact hpresent
  | recordLoginFailure key ttl =>
    exact hpresent.of_le (fun _ honline => honline)
      (onlineRecord_recordLoginFailure _ key ttl userId)
  | clearLoginFailure key =>
    exact hpresent.of_le (fun _ honline => honline)
      (onlineRecord_clearLoginFailure _ key userId)

variable {call : Call}

/-- A call that does not write for the user leaves the user present. -/
theorem Present.answer (hpresent : Present world userId) (huntouched : ¬ Touches userId call) :
    Present (answer (fun _ _ => .ok ()) call world).2 userId := by
  cases call with
  | session => exact hpresent.answerSession huntouched
  | cache => exact hpresent.answerCache huntouched
  | storage call => cases call <;> exact hpresent

/-! ## Interleavings -/

/-- Calls that settle a user whose record and binding may be apart. -/
def Settles (userId : UInt64) : Call → Prop
  | .session (.bindUser other _) => other = userId
  | .cache (.setUserOffline other) => other = userId
  | _ => False

theorem Settles.touches (hsettles : Settles userId call) : Touches userId call := by
  cases call with
  | session call => cases call <;> exact hsettles
  | cache call =>
    cases call with
    | setUserOffline => exact hsettles
    | _ => exact hsettles.elim
  | storage => exact hsettles.elim

variable {ι : Type} [DecidableEq ι]

/-- Requests in progress. -/
abbrev Requests (ι : Type) := Pool services ι (Except Error Unit) World

/-- Some request is about to make a call that settles the user. -/
def Pending (pool : Requests ι) (userId : UInt64) : Prop :=
  ∃ i call next, pool.threads i = .call call next ∧ Settles userId call

/-- A request other than `i` wrote the record of the user and is about to write the
binding. -/
def Binding (pool : Requests ι) (i : ι) (userId : UInt64) : Prop :=
  ∃ j session next, j ≠ i ∧ pool.threads j = .call (.session (.bindUser userId session)) next

/-- When a call that settles a user is made in time. A binding is written while the
record is that of the same session. A record is removed while the user is not online.
Neither matters if another bind of the user comes later. -/
def Safe (pool : Requests ι) (i : ι) : Call → Prop
  | .session (.bindUser userId (some session)) =>
    pool.world.redis.Names userId session.id ∨
      (pool.world.sessions session).life ≠ .live ∨ Binding pool i userId
  | .cache (.setUserOffline userId) =>
    pool.world.onlineSession userId = none ∨ Binding pool i userId
  | _ => True

theorem Present.closes {next : World} (hpresent : Present world userId)
    (hcloses : world.Closes next) : Present next userId := by
  cases hcloses with
  | sessions hlater =>
    apply hpresent.of_le
    · intro found
      exact onlineSession_of_users (fun _ hbinding => hbinding) hlater.live
    · rfl

variable {pool : Requests ι} {i : ι}

/-- A step of another request leaves a pending call pending. -/
theorem Pending.advance (hpending : Pending pool userId)
    {next : call.Reply → Program services (Except Error Unit)}
    (hthread : pool.threads i = .call call next) (hother : ¬ Settles userId call)
    (reply : call.Reply) (world : World) :
    Pending (pool.advance i ⟨call, reply⟩ (next reply) world) userId := by
  obtain ⟨j, pending, rest, hpending, hsettles⟩ := hpending
  have hne : j ≠ i := by
    rintro rfl
    rw [hthread] at hpending
    cases hpending
    exact hother hsettles
  exact ⟨j, pending, rest, (update_of_ne hne _ _).trans hpending, hsettles⟩

theorem Binding.advance (hbinding : Binding pool i userId) (event : Event services)
    (next : Program services (Except Error Unit)) (world : World) :
    Pending (pool.advance i event next world) userId := by
  obtain ⟨j, session, rest, hne, hthread⟩ := hbinding
  exact ⟨j, _, rest, (update_of_ne hne _ _).trans hthread, rfl⟩

/-- A request that goes on with a call that settles the user. -/
theorem pending_advance_self {event : Event services} {next : Program services (Except Error Unit)}
    {rest : call.Reply → Program services (Except Error Unit)} (hnext : next = .call call rest)
    (hsettles : Settles userId call) : Pending (pool.advance i event next world) userId :=
  ⟨i, call, rest, by simpa [Pool.advance] using hnext, hsettles⟩

section Step

variable {faults : Faults} {pool : Requests ι} {i : ι} {world : World} {userId : UInt64}

variable {reply : Except Error Unit}

/-- Writing the binding: the record is of the same session, or the user stays
pending. -/
theorem bindUser_settles {session : Option SessionRef}
    {next : Except Error Unit → Program services (Except Error Unit)}
    (hdisciplined : Disciplined (.session (.bindUser userId session)) next)
    (hsafe : Safe pool i (.session (.bindUser userId session)))
    (hmachine : machine faults (.session (.bindUser userId session)) pool.world reply
      world) : Present world userId ∨
      Pending (pool.advance i ⟨.session (.bindUser userId session), reply⟩ (next reply) world)
        userId := by
  cases reply with
  | error status =>
    obtain ⟨rest, hrest⟩ := hdisciplined status
    exact Or.inr (pending_advance_self hrest rfl)
  | ok =>
    have hbind : (SessionManager.bindUser pool.world.sessions pool.world.sessions
        pool.world.sessions pool.world.manager userId session).1 = .ok () :=
      (congrArg Prod.fst hmachine).symm
    obtain ⟨found, old, rfl, -, -, hlive, -, heq⟩ := bindUser_ok hbind
    rcases hsafe with hnames | hdead | hbinding
    · left
      obtain rfl : world = _ := congrArg Prod.snd hmachine
      intro session honline
      obtain ⟨binding, hbinding, rfl, -⟩ :=
        onlineSession_eq_some_iff.mp honline
      simp only [answerSession, heq, rebind, update_self,
        Option.some.injEq] at hbinding
      rw [← hbinding]
      exact hnames
    · exact (hdead hlive).elim
    · exact Or.inr (hbinding.advance _ _ _)

/-- Writing the record: the binding is written next. -/
theorem setUserOnline_settles {record : OnlineSession} {ttl : Nat}
    {next : Except Error Unit → Program services (Except Error Unit)} (hcache : ¬ faults.cache)
    (hbefore : Present pool.world userId ∨ Pending pool userId)
    (hthread : pool.threads i = .call (.cache (.setUserOnline record ttl)) next)
    (hdisciplined : Disciplined (.cache (.setUserOnline record ttl)) next)
    (huser : record.userId = userId)
    (hmachine : machine faults (.cache (.setUserOnline record ttl)) pool.world reply world) :
    Present world userId ∨
      Pending (pool.advance i ⟨.cache (.setUserOnline record ttl), reply⟩ (next reply) world)
        userId := by
  cases reply with
  | ok =>
    obtain ⟨session, rest, hrest⟩ := hdisciplined
    exact Or.inr (pending_advance_self hrest huser)
  | error status =>
    rcases hmachine with hanswer | ⟨hfault, -⟩
    · have hset : (pool.world.redis.setUserOnline record ttl).1 = .error status :=
        (congrArg Prod.fst hanswer).symm
      have hsame : world = pool.world :=
        (congrArg Prod.snd hanswer).trans (by
          simp only [answerCache, setUserOnline_error hset])
      rw [hsame]
      exact hbefore.imp id fun hpending => hpending.advance hthread id _ _
    · exact (hcache hfault).elim

/-- Removing the record: the user is offline, or stays pending. -/
theorem setUserOffline_settles {next : Except Error Unit → Program services (Except Error Unit)}
    (hcache : ¬ faults.cache) (hsafe : Safe pool i (.cache (.setUserOffline userId)))
    (hmachine : machine faults (.cache (.setUserOffline userId)) pool.world reply world) :
    Present world userId ∨
      Pending (pool.advance i ⟨.cache (.setUserOffline userId), reply⟩ (next reply) world)
        userId := by
  rcases hsafe with hoffline | hbinding
  · left
    rcases hmachine with hanswer | ⟨hfault, -⟩
    · obtain rfl : world = _ := congrArg Prod.snd hanswer
      intro session honline
      have honline : pool.world.onlineSession userId = some session := honline
      rw [hoffline] at honline
      cases honline
    · exact (hcache hfault).elim
  · exact Or.inr (hbinding.advance _ _ _)

/-- A safe step leaves every user present or pending. -/
theorem step_settles {next : call.Reply → Program services (Except Error Unit)}
    {reply : call.Reply} (hcache : ¬ faults.cache)
    (hbefore : Present pool.world userId ∨ Pending pool userId)
    (hthread : pool.threads i = .call call next) (hdisciplined : Disciplined call next)
    (hsafe : Safe pool i call) (hmachine : machine faults call pool.world reply world) :
    Present world userId ∨
      Pending (pool.advance i ⟨call, reply⟩ (next reply) world) userId := by
  by_cases htouches : Touches userId call
  · cases call with
    | storage => exact htouches.elim
    | session call =>
      cases call with
      | bindUser other =>
        obtain rfl : other = userId := htouches
        exact bindUser_settles hdisciplined hsafe hmachine
      | _ => exact htouches.elim
    | cache call =>
      cases call with
      | setUserOnline =>
        exact setUserOnline_settles hcache hbefore hthread hdisciplined htouches hmachine
      | setUserOffline other =>
        obtain rfl : other = userId := htouches
        exact setUserOffline_settles hcache hsafe hmachine
      | refreshUserOnline => exact hdisciplined.elim
      | _ => exact htouches.elim
  · rcases hbefore with hpresent | hpending
    · left
      rcases machine_next hmachine with rfl | rfl
      · exact hpresent
      · exact hpresent.answer htouches
    · exact Or.inr (hpending.advance hthread (fun hsettles => htouches hsettles.touches) _ _)

end Step

/-! ## Runs of interleaved requests -/

/-- The requests before any of them made a call. -/
def started (service : OnlineService) (updates : ι → Update) (world : World) : Requests ι :=
  Pool.start (fun i => ((updates i).program service).run) world

/-- No request begins with a call that settles a user. -/
theorem not_settles_first (service : OnlineService) (update : Update)
    {next : call.Reply → Program services (Except Error Unit)}
    (hrun : (update.program service).run = .call call next) : ¬ Settles userId call := by
  cases update with
  | bindUser other session =>
    rw [Update.program] at hrun
    rcases bindUser_run service other session with ⟨status, hfirst⟩ | ⟨found, rest, hfirst, -⟩
    · rw [hfirst] at hrun
      cases hrun
    · rw [hfirst] at hrun
      cases hrun
      exact id
  | unbindUser | unbindSession =>
    cases hrun
    exact id

/-- Along a run of safe steps every user is present or pending. -/
theorem reaches_settled {service : OnlineService} {updates : ι → Update} {first : World}
    {faults : Faults} (hcache : ¬ faults.cache) (hfirst : first.manager = {})
    (hreaches : Pool.Reaches (machine faults) Closes Safe
      (started service updates first) pool) (userId : UInt64) :
    Present pool.world userId ∨ Pending pool userId := by
  apply Pool.Reaches.throughout_invariant hreaches
    (fun i => program_disciplined service (updates i))
    (fun pool => Present pool.world userId ∨ Pending pool userId)
  · left
    intro session honline
    have honline : first.manager.onlineSession first.sessions userId = some session := honline
    rw [hfirst] at honline
    cases honline
  · intro pool i call next reply world hbefore hthread hdisciplined hsafe hmachine
    exact step_settles hcache hbefore hthread hdisciplined hsafe hmachine
  · intro pool world hbefore hcloses
    exact hbefore.imp (fun hpresent => hpresent.closes hcloses) id

/-- **No false offline.** If every call that settles a user is made in time, then
whenever no request is in progress each user who is bound to an open session has an
online record that names it. -/
theorem updates_keep_present {service : OnlineService} {updates : ι → Update} {first : World}
    {faults : Faults} {pool : Requests ι} (hcache : ¬ faults.cache)
    (hfirst : first.manager = {}) (hreaches : Pool.Reaches (machine faults) Closes Safe
      (started service updates first) pool)
    (hrest : pool.AtRest) {userId : UInt64} {session : SessionRef}
    (honline : pool.world.onlineSession userId = some session) :
    pool.world.redis.Names userId session.id := by
  rcases reaches_settled hcache hfirst hreaches userId with
    hpresent | ⟨i, call, next, hthread, hsettles⟩
  · exact hpresent session honline
  · -- At rest the pending call would be the first of its request.
    rcases hrest i with hnil | ⟨value, hended⟩
    · rw [Pool.Reaches.threads_of_history_nil hreaches hnil] at hthread
      exact (not_settles_first service (updates i) hthread hsettles).elim
    · rw [hended] at hthread
      cases hthread

/-! ## A login that races the cleanup of the one before -/

/-- Two logins of user 1, and the cleanup of the session of the first. -/
def relogin : Fin 3 → Update
  | 0 => .bindUser 1 (some ⟨7⟩)
  | 1 => .unbindSession 7
  | 2 => .bindUser 1 (some ⟨8⟩)

/-- Run the three requests in a given order of calls. -/
def reloginBy (order : List (Fin 3)) : Requests (Fin 3) :=
  (started oneServer relogin noLogins).schedule (answer fun _ _ => .ok ()) order

theorem reaches_reloginBy {outside : World → World → Prop}
    {guard : Requests (Fin 3) → Fin 3 → Call → Prop} {order : List (Fin 3)}
    (hmeets : (started oneServer relogin noLogins).Meets (answer fun _ _ => .ok ()) guard
      order) :
    Pool.Reaches (machine .none) outside guard (started oneServer relogin noLogins)
      (reloginBy order) :=
  Pool.reaches_schedule (machine_answer fun _ _ => rfl) hmeets

/-- Only the first login runs. -/
def firstLogin : List (Fin 3) := [0, 0, 0, 0, 0]

/-- The cleanup ends before the second login begins. -/
def cleanupFirst : List (Fin 3) := [0, 0, 0, 0, 0, 1, 1, 1, 2, 2, 2, 2, 2]

/-- The cleanup erases the binding, and removes the record after the second login. -/
def cleanupLate : List (Fin 3) := [0, 0, 0, 0, 0, 1, 1, 2, 2, 2, 2, 2, 1]

/-- The record of user 1 that the login on session 8 writes. -/
def eighthRecord : OnlineSession := ⟨1, 8, [108], 0⟩

theorem meets_cleanupFirst : (started oneServer relogin noLogins).Meets
    (answer fun _ _ => .ok ()) Safe cleanupFirst :=
  ⟨trivial, trivial, trivial, trivial, Or.inl ⟨seventhRecord, by decide, rfl⟩,
    trivial, trivial, Or.inl rfl,
    trivial, trivial, trivial, trivial, Or.inl ⟨eighthRecord, by decide, rfl⟩, trivial⟩

/-- With the cleanup out of the way, the second login has its record. -/
theorem updates_keep_present_cleanupFirst :
    (reloginBy cleanupFirst).world.onlineSession 1 = some ⟨8⟩ ∧
      (reloginBy cleanupFirst).world.redis.Names 1 8 := by
  have hrest : (reloginBy cleanupFirst).AtRest
    | 0 => Or.inr ⟨_, rfl⟩
    | 1 => Or.inr ⟨_, rfl⟩
    | 2 => Or.inr ⟨_, rfl⟩
  have honline : (reloginBy cleanupFirst).world.onlineSession 1 = some ⟨8⟩ := by decide
  exact ⟨honline, updates_keep_present (show ¬ Faults.none.cache from id) rfl
    (reaches_reloginBy meets_cleanupFirst) hrest honline⟩

/-- The late cleanup deletes the record of the second login. -/
theorem late_cleanup_removes_record :
    ∃ pool, Pool.Reaches (machine .none) Closes (fun _ _ _ => True)
        (started oneServer relogin noLogins) pool ∧
      pool.AtRest ∧ pool.world.onlineSession 1 = some ⟨8⟩ ∧ ¬ pool.world.redis.Names 1 8 := by
  have hrest : (reloginBy cleanupLate).AtRest
    | 0 => Or.inr ⟨_, rfl⟩
    | 1 => Or.inr ⟨_, rfl⟩
    | 2 => Or.inr ⟨_, rfl⟩
  exact ⟨reloginBy cleanupLate,
    reaches_reloginBy (Pool.meets_of_forall (fun _ _ _ => trivial) _ _), hrest, by decide,
    not_names_of_onlineRecord_eq_none (by decide) 8⟩

end LiteIM.OnlineService
