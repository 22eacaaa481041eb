/-
# Online requests one after another

The requests of `OnlineService`, each handled to its end before the next one
begins, with sessions closing and time passing in between and no failing call.

`Change` says what one request can do to the bindings and the online records
together. Most of it keeps the two in step. The exception is a lookup that finds a
session dead: it erases the binding and leaves the record. When the session's own
cleanup comes later it no longer finds out whose record to remove.
-/

import LiteIM.Service.OnlineService

namespace LiteIM.OnlineService

open Foundation SessionManager World Function

inductive Request where
  | bindUser (userId : UInt64) (session : Option SessionRef)
  | unbindUser (userId sessionId : UInt64)
  | unbindSession (sessionId : UInt64)
  | refreshUserOnline (userId sessionId : UInt64)
  | getSessionByUser (userId : UInt64)
  | getUserBySession (sessionId : UInt64)
  deriving DecidableEq, Repr

/-- The world after a request. -/
def handle (service : OnlineService) (world : World) : Request → World
  | .bindUser userId session => (world.serve (service.bindUser userId session)).2
  | .unbindUser userId sessionId => (world.serve (unbindUser userId sessionId)).2
  | .unbindSession sessionId => (world.serve (unbindSession sessionId)).2
  | .refreshUserOnline userId sessionId =>
    (world.serve (service.refreshUserOnline userId sessionId)).2
  | .getSessionByUser userId => (world.serve (getSessionByUser userId)).2
  | .getUserBySession sessionId => (world.serve (getUserBySession sessionId)).2

/-- The request looks up a binding to the session. -/
def LooksUp (manager : SessionManager) (sessionId : UInt64) : Request → Prop
  | .getSessionByUser userId => manager.boundSession userId = some sessionId
  | .getUserBySession asked => asked = sessionId ∧ manager.sessions sessionId ≠ none
  | .refreshUserOnline _ asked => asked = sessionId ∧ manager.sessions sessionId ≠ none
  | .bindUser _ _ => False
  | .unbindUser _ _ => False
  | .unbindSession _ => False

/-! ## What one request does -/

/-- What a request can do to the bindings and the records. -/
inductive Change (before : World) (request : Request) (after : World) : Prop where
  | bound {userId : UInt64} {session : SessionRef} (userId_ne : userId ≠ 0)
      (sessionId_ne : session.id ≠ 0) (live : (before.sessions session).life = .live)
      (free : ∀ other, before.manager.sessions session.id = some other → other = userId)
      (manager : after.manager = before.manager.rebind userId session)
      (records : ∀ other sessionId, after.redis.Records other sessionId →
        (other = userId ∧ sessionId = session.id) ∨
          (other ≠ userId ∧ before.redis.Records other sessionId))
  | unbound {userId sessionId : UInt64}
      (bound : before.manager.boundSession userId = some sessionId)
      (manager : after.manager = before.manager.eraseBindingLocked userId sessionId)
      (records : ∀ other sessionId, after.redis.Records other sessionId →
        other ≠ userId ∧ before.redis.Records other sessionId)
  | erased {userId : UInt64} {session : SessionRef}
      (bound : before.manager.boundSession userId = some session.id)
      (dead : (before.sessions session).life ≠ .live)
      (looksUp : LooksUp before.manager session.id request)
      (manager : after.manager = before.manager.eraseBindingLocked userId session.id)
      (records : ∀ other sessionId, after.redis.Records other sessionId →
        before.redis.Records other sessionId)
  | none (manager : after.manager = before.manager)
      (records : ∀ other sessionId, after.redis.Records other sessionId →
        before.redis.Records other sessionId)

theorem validateSession_served (world : World) (userId : UInt64) (session : Option SessionRef) :
    (∃ status, world.serve (validateSession userId session) = (.error status, world)) ∨
    ∃ found, session = some found ∧ userId ≠ 0 ∧ found.id ≠ 0 ∧
      (world.sessions found).life = .live ∧
      world.serve (validateSession userId session) = (.ok found, world) := by
  by_cases huser : userId = 0
  · exact Or.inl ⟨_, by simp only [validateSession.eq_def, if_pos huser]; rfl⟩
  · simp only [validateSession.eq_def, if_neg huser]
    cases session with
    | none => exact Or.inl ⟨_, serve_throw world _⟩
    | some session =>
      by_cases hid : session.id = 0
      · exact Or.inl ⟨_, by simp only [if_pos hid]; rfl⟩
      · simp only [if_neg hid, serve_bind, serve_closed]
        cases hclosed : world.sessions.closed session with
        | true => exact Or.inl ⟨_, serve_throw world _⟩
        | false =>
          exact Or.inr ⟨session, rfl, huser, hid, Sessions.closed_eq_false_iff.mp hclosed, rfl⟩

variable {session : SessionRef}

/-- The record and the binding are both written. -/
theorem announce_served (service : OnlineService) (world : World) {userId : UInt64}
    (huser : userId ≠ 0) (hid : session.id ≠ 0) (hlive : (world.sessions session).life = .live)
    (hfree : ∀ other, world.manager.sessions session.id = some other → other = userId) :
    ∃ old stored, stored.userId = userId ∧ stored.sessionId = session.id ∧
      world.serve (service.announce userId session) =
        (.ok (), { world with
          manager := world.manager.rebind userId session
          sessions := closeOld world.sessions session old
          redis := world.redis.setex stored service.onlineTtl }) := by
  obtain ⟨old, hbind⟩ := bindUser_of_free huser hid hlive hfree
  obtain ⟨stored, hstoredUser, hstoredSession, hset⟩ := world.redis.setUserOnline_eq
    (show OnlineSession.userId ⟨userId, session.id, service.serverId,
      (world.sessions session).lastActiveTimeMs⟩ ≠ 0 from huser)
    hid service.serverId_ne service.onlineTtl_pos
  refine ⟨old, stored, hstoredUser, hstoredSession, ?_⟩
  have hcache : world.serve (Service.setUserOnline
      ⟨userId, session.id, service.serverId, (world.sessions session).lastActiveTimeMs⟩
      service.onlineTtl) =
        (.ok (), { world with redis := world.redis.setex stored service.onlineTtl }) := by
    rw [serve_setUserOnline, hset]
  have hmanager : ({ world with redis := world.redis.setex stored service.onlineTtl } :
      World).serve (Service.bindUser userId (some session)) =
        (.ok (), { world with
          manager := world.manager.rebind userId session
          sessions := closeOld world.sessions session old
          redis := world.redis.setex stored service.onlineTtl }) := by
    rw [serve_bindUser, hbind]
  simp only [announce, serve_bind, serve_lastActiveTimeMilliseconds, hcache,
    serve_outcome, hmanager, serve_pure]

/-- The lookup of an open session changes nothing, and if its outcome passes the
check no other user has the session. -/
theorem getUserBySession_of_live {table : Sessions} {manager : SessionManager}
    (hone : manager.OneToOne) (hid : session.id ≠ 0) (hlive : (table session).life = .live)
    (userId : UInt64) : ∃ result, manager.getUserBySession table session.id = (result, manager) ∧
      (checkBound userId result = .ok () →
        ∀ other, manager.sessions session.id = some other → other = userId) := by
  rcases hone.getUserBySession_cases table session.id with
    ⟨bound, binding, hbinding, hsame, -, heq⟩ | ⟨hzero | hfree, status, heq⟩ |
      ⟨bound, binding, status, hbinding, hsame, hdead, -, heq⟩
  · refine ⟨_, heq, ?_⟩
    intro hcheck other hother
    have hbound : bound = userId := by
      by_contra hne
      simp [checkBound, hne, Status.error] at hcheck
    have hinverse := (hone.inverse bound session.id).mp
      (boundSession_eq_some_iff.mpr ⟨binding, hbinding, hsame⟩)
    rw [hother] at hinverse
    rw [Option.some.inj hinverse, hbound]
  · exact (hid hzero).elim
  · refine ⟨_, heq, ?_⟩
    intro _ other hother
    simp [hfree] at hother
  · have hpointer : binding.session = session :=
      SessionRef.ext ((hone.named bound binding hbinding).trans hsame)
    rw [hpointer] at hdead
    exact (hdead hlive).elim

variable {world : World}

theorem bindUser_served (service : OnlineService) (hone : world.manager.OneToOne)
    (userId : UInt64) (session : Option SessionRef) : Change world (.bindUser userId session)
      (world.serve (service.bindUser userId session)).2 := by
  rw [bindUser, serve_bind]
  rcases validateSession_served world userId session with
    ⟨status, hserved⟩ | ⟨found, rfl, huser, hid, hlive, hserved⟩
  · rw [hserved]
    exact .none rfl fun _ _ hrecords => hrecords
  · obtain ⟨result, hlookup, hfree⟩ := getUserBySession_of_live hone hid hlive userId
    simp only [hserved, serve_bind, serve_outcome, serve_getUserBySession,
      hlookup, serve_ofExcept]
    cases hcheck : checkBound userId result with
    | error => exact .none rfl fun _ _ hrecords => hrecords
    | ok =>
      obtain ⟨old, stored, hstoredUser, hstoredSession, hannounced⟩ :=
        announce_served service world huser hid hlive (hfree hcheck)
      show Change world _ (world.serve (service.announce userId found)).2
      rw [hannounced]
      apply Change.bound huser hid hlive (hfree hcheck) rfl
      intro other sessionId hrecords
      rw [← hstoredUser, ← hstoredSession]
      exact Redis.records_setex.mp hrecords

/-- The world after a user is unbound: neither the binding nor a record is left. -/
def takenOffline (world : World) (userId sessionId : UInt64) : World :=
  { world with
    manager := world.manager.eraseBindingLocked userId sessionId
    redis := world.redis.del userId }

theorem unbindUser_served (hone : world.manager.OneToOne) (userId sessionId : UInt64) :
    (world.manager.boundSession userId ≠ some sessionId ∧
      (world.serve (unbindUser userId sessionId)).2 = world) ∨
    (world.manager.boundSession userId = some sessionId ∧
      (world.serve (unbindUser userId sessionId)).2 = takenOffline world userId sessionId) := by
  rw [unbindUser, serve_bind, serve_unbindUser]
  by_cases hbound : world.manager.boundSession userId = some sessionId
  · right
    obtain ⟨binding, hbinding, -⟩ := boundSession_eq_some_iff.mp hbound
    have huser := (hone.positive userId binding hbinding).1
    refine ⟨hbound, ?_⟩
    simp only [hone.unbindUser_of_bound hbound, if_true, serve_setUserOffline,
      world.redis.setUserOffline_eq huser, takenOffline]
  · left
    refine ⟨hbound, ?_⟩
    rcases unbindUser_cases world.manager userId sessionId with
      (⟨status, heq⟩ | ⟨-, heq⟩) | ⟨hcontra, -⟩
    · simp only [heq]
    · simp only [heq]
      rfl
    · exact (hbound hcontra).elim

theorem unbindSession_served (hone : world.manager.OneToOne) (sessionId : UInt64) :
    ((∀ userId, world.manager.boundSession userId ≠ some sessionId) ∧
      (world.serve (unbindSession sessionId)).2 = world) ∨
    ∃ userId, world.manager.boundSession userId = some sessionId ∧
      (world.serve (unbindSession sessionId)).2 = takenOffline world userId sessionId := by
  rw [unbindSession, serve_bind, serve_outcome, serve_getBoundUserBySession]
  cases hsession : world.manager.sessions sessionId with
  | none =>
    left
    refine ⟨?_, ?_⟩
    · intro userId hbound
      rw [(hone.inverse userId sessionId).mp hbound] at hsession
      cases hsession
    · by_cases hzero : sessionId = 0
      · simp only [getBoundUserBySession, if_pos hzero]
        rfl
      · simp only [getBoundUserBySession, if_neg hzero, hsession]
        rfl
  | some userId =>
    right
    have hbound := (hone.inverse userId sessionId).mpr hsession
    obtain ⟨binding, hbinding, rfl⟩ := boundSession_eq_some_iff.mp hbound
    have hid := (hone.positive userId binding hbinding).2
    refine ⟨userId, hbound, ?_⟩
    simp only [getBoundUserBySession, if_neg hid, hsession]
    rcases unbindUser_served hone userId binding.sessionId with ⟨hother, -⟩ | ⟨-, hserved⟩
    · exact (hother hbound).elim
    · exact hserved

theorem change_takenOffline {request : Request} {userId sessionId : UInt64}
    (hbound : world.manager.boundSession userId = some sessionId) :
    Change world request (takenOffline world userId sessionId) :=
  .unbound hbound rfl fun _ _ hrecords => Redis.records_del.mp hrecords

/-- A lookup by session, with whatever it does to the expiry of records. -/
theorem change_getUserBySession (hone : world.manager.OneToOne) {request : Request}
    {sessionId : UInt64} {redis : Redis}
    (hlooks : world.manager.sessions sessionId ≠ none → LooksUp world.manager sessionId request)
    (hrecords : ∀ other sessionId, redis.Records other sessionId →
      world.redis.Records other sessionId) : Change world request { world with
        manager := (world.manager.getUserBySession world.sessions sessionId).2
        redis } := by
  rcases hone.getUserBySession_cases world.sessions sessionId with
    ⟨_, _, _, _, _, heq⟩ | ⟨_, status, heq⟩ |
      ⟨userId, binding, status, hbinding, rfl, hdead, -, heq⟩
  · exact .none (congrArg Prod.snd heq) hrecords
  · exact .none (congrArg Prod.snd heq) hrecords
  · have hbound := hone.boundSession_eq hbinding
    have hinverse := (hone.inverse userId binding.session.id).mp hbound
    rw [← hone.named userId binding hbinding] at heq hlooks ⊢
    exact .erased hbound hdead (hlooks (by simp [hinverse])) (congrArg Prod.snd heq) hrecords

theorem getSessionByUser_served (hone : world.manager.OneToOne) (userId : UInt64) :
    Change world (.getSessionByUser userId) (world.serve (getSessionByUser userId)).2 := by
  rw [getSessionByUser, serve_getSessionByUser]
  rcases getSessionByUser_cases world.sessions world.manager userId with
    ⟨_, _, _, heq⟩ | ⟨status, heq⟩ | ⟨binding, status, hbinding, hdead, heq⟩
  · exact .none (congrArg Prod.snd heq) fun _ _ hrecords => hrecords
  · exact .none (congrArg Prod.snd heq) fun _ _ hrecords => hrecords
  · have hbound := hone.boundSession_eq hbinding
    rw [← hone.named userId binding hbinding] at heq
    exact .erased hbound hdead hbound (congrArg Prod.snd heq) fun _ _ hrecords => hrecords

/-- A refresh is a lookup that may move an expiry. -/
theorem refreshUserOnline_served (service : OnlineService) (hone : world.manager.OneToOne)
    (userId sessionId : UInt64) :
    ∃ redis : Redis, (∀ other sessionId, redis.Records other sessionId →
        world.redis.Records other sessionId) ∧
      (world.serve (service.refreshUserOnline userId sessionId)).2 =
        { world with
          manager := (world.manager.getUserBySession world.sessions sessionId).2
          redis } := by
  rw [refreshUserOnline, serve_bind, serve_getUserBySession]
  rcases hone.getUserBySession_cases world.sessions sessionId with
    ⟨bound, binding, hbinding, _, _, heq⟩ | ⟨_, status, heq⟩ | ⟨_, _, status, _, _, _, _, heq⟩
  · by_cases hsame : bound = userId
    · subst hsame
      have huser := (hone.positive bound binding hbinding).1
      refine ⟨(world.redis.refreshUserOnline bound service.onlineTtl).2,
        fun _ _ => Redis.records_refreshUserOnline huser service.onlineTtl_pos, ?_⟩
      simp only [heq, ne_eq, not_true_eq_false, if_false, serve_refreshUserOnline]
    · refine ⟨world.redis, fun _ _ hrecords => hrecords, ?_⟩
      simp only [heq, ne_eq, hsame, not_false_eq_true, if_true, serve_throw]
  · exact ⟨world.redis, fun _ _ hrecords => hrecords, by simp only [heq]⟩
  · exact ⟨world.redis, fun _ _ hrecords => hrecords, by simp only [heq]⟩

theorem handle_change (service : OnlineService) (hone : world.manager.OneToOne)
    (request : Request) : Change world request (service.handle world request) := by
  cases request with
  | bindUser userId session => exact bindUser_served service hone userId session
  | unbindUser userId sessionId =>
    rw [handle]
    rcases unbindUser_served hone userId sessionId with ⟨-, hserved⟩ | ⟨hbound, hserved⟩
    · rw [hserved]
      exact .none rfl fun _ _ hrecords => hrecords
    · rw [hserved]
      exact change_takenOffline hbound
  | unbindSession sessionId =>
    rw [handle]
    rcases unbindSession_served hone sessionId with ⟨-, hserved⟩ | ⟨userId, hbound, hserved⟩
    · rw [hserved]
      exact .none rfl fun _ _ hrecords => hrecords
    · rw [hserved]
      exact change_takenOffline hbound
  | refreshUserOnline userId sessionId =>
    obtain ⟨redis, hrecords, hserved⟩ := refreshUserOnline_served service hone userId sessionId
    rw [handle, hserved]
    exact change_getUserBySession hone (fun hbound => ⟨rfl, hbound⟩) hrecords
  | getSessionByUser userId => exact getSessionByUser_served hone userId
  | getUserBySession =>
    exact change_getUserBySession hone (fun hbound => ⟨rfl, hbound⟩) fun _ _ hrecords => hrecords

/-! ## Runs -/

/-- One request, or something that happens between requests. -/
inductive Step (service : OnlineService) (guard : World → Request → Prop) :
    World → World → Prop where
  | request {world : World} (request : Request) (hguard : guard world request) :
      Step service guard world (service.handle world request)
  | elapses {world next : World} (helapses : world.Elapses next) : Step service guard world next

/-- A run of requests, each of which meets the guard. -/
abbrev Run (service : OnlineService) (guard : World → Request → Prop) : World → World → Prop :=
  Relation.ReflTransGen (Step service guard)

theorem handle_oneToOne (service : OnlineService) (hone : world.manager.OneToOne)
    (request : Request) : (service.handle world request).manager.OneToOne := by
  cases request <;> exact serve_oneToOne hone _

theorem handle_life (service : OnlineService) (world : World) (request : Request)
    (session : SessionRef) :
    ((service.handle world request).sessions session).life = (world.sessions session).life := by
  cases request <;> exact serve_life world _ session

variable {service : OnlineService} {next : World}

theorem Step.oneToOne {guard : World → Request → Prop} (hstep : Step service guard world next)
    (hone : world.manager.OneToOne) : next.manager.OneToOne := by
  cases hstep with
  | request request => exact handle_oneToOne service hone request
  | elapses helapses =>
    rw [helapses.manager]
    exact hone

/-- The request does not look up a binding to the session once that is dead. -/
def Spares (session : SessionRef) (world : World) (request : Request) : Prop :=
  (world.sessions session).life ≠ .live → ¬ LooksUp world.manager session.id request

/-- Whoever has a record on the session is bound to it. -/
structure Tracked (session : SessionRef) (world : World) : Prop where
  oneToOne : world.manager.OneToOne
  bound : ∀ userId, world.redis.Records userId session.id →
    world.manager.boundSession userId = some session.id

theorem Tracked.step (htracked : Tracked session world)
    (hstep : Step service (Spares session) world next) : Tracked session next := by
  refine ⟨hstep.oneToOne htracked.oneToOne, ?_⟩
  intro userId hrecords
  cases hstep with
  | elapses helapses =>
    rw [helapses.manager]
    exact htracked.bound userId (helapses.records hrecords)
  | request request hspares =>
    cases service.handle_change htracked.oneToOne request with
    | @bound newUser newSession _ _ live free manager records =>
      rw [manager, boundSession_rebind]
      rcases records userId session.id hrecords with ⟨rfl, hsame⟩ | ⟨hother, hbefore⟩
      · rw [update_self, hsame]
      · rw [update_of_ne hother]
        exact htracked.bound userId hbefore
    | @unbound oldUser oldSession bound manager records =>
      obtain ⟨hother, hbefore⟩ := records userId session.id hrecords
      rw [manager, boundSession_eraseBindingLocked, update_of_ne hother]
      exact htracked.bound userId hbefore
    | @erased oldUser oldSession bound dead looksUp manager records =>
      have hbound := htracked.bound userId (records userId session.id hrecords)
      have hother : userId ≠ oldUser := by
        rintro rfl
        rw [hbound] at bound
        obtain rfl : session = oldSession := SessionRef.ext (Option.some.inj bound)
        exact hspares dead looksUp
      rw [manager, boundSession_eraseBindingLocked, update_of_ne hother]
      exact hbound
    | none manager records =>
      rw [manager]
      exact htracked.bound userId (records userId session.id hrecords)

theorem Tracked.run {last : World} (htracked : Tracked session world)
    (hrun : Run service (Spares session) world last) : Tracked session last := by
  induction hrun with
  | refl => exact htracked
  | tail _ hstep ih => exact ih.step hstep

/-- The session is dead and no record is left that names it. -/
structure Cleared (session : SessionRef) (world : World) : Prop where
  oneToOne : world.manager.OneToOne
  dead : (world.sessions session).life ≠ .live
  cleared : ∀ userId, ¬ world.redis.Records userId session.id

/-- Nothing brings such a record back, since a dead session cannot be bound. -/
theorem Cleared.step {guard : World → Request → Prop} (hcleared : Cleared session world)
    (hstep : Step service guard world next) : Cleared session next := by
  refine ⟨hstep.oneToOne hcleared.oneToOne, ?_, ?_⟩
  · cases hstep with
    | request =>
      rw [handle_life]
      exact hcleared.dead
    | elapses helapses => exact fun hlive => hcleared.dead (helapses.live hlive)
  · intro userId hrecords
    cases hstep with
    | elapses helapses => exact hcleared.cleared userId (helapses.records hrecords)
    | request request =>
      cases service.handle_change hcleared.oneToOne request with
      | @bound newUser newSession _ _ live _ _ records =>
        rcases records userId session.id hrecords with ⟨-, hsame⟩ | ⟨-, hbefore⟩
        · obtain rfl : session = newSession := SessionRef.ext hsame
          exact hcleared.dead live
        · exact hcleared.cleared userId hbefore
      | unbound _ _ records =>
        exact hcleared.cleared userId (records userId session.id hrecords).2
      | erased _ _ _ _ records | none _ records =>
        exact hcleared.cleared userId (records _ _ hrecords)

theorem Cleared.run {guard : World → Request → Prop} {last : World}
    (hcleared : Cleared session world) (hrun : Run service guard world last) :
    Cleared session last := by
  induction hrun with
  | refl => exact hcleared
  | tail _ hstep ih => exact ih.step hstep

/-- The cleanup of a dead session removes the record that names it. -/
theorem Tracked.unbindSession (htracked : Tracked session world)
    (hdead : (world.sessions session).life ≠ .live) :
    Cleared session (service.handle world (.unbindSession session.id)) := by
  refine ⟨handle_oneToOne service htracked.oneToOne _, by rwa [handle_life], ?_⟩
  intro userId hrecords
  rw [handle] at hrecords
  rcases unbindSession_served htracked.oneToOne session.id with
    ⟨hfree, hserved⟩ | ⟨bound, hbound, hserved⟩
  · rw [hserved] at hrecords
    exact hfree userId (htracked.bound userId hrecords)
  · rw [hserved] at hrecords
    obtain ⟨hother, hbefore⟩ := Redis.records_del.mp hrecords
    exact hother (htracked.oneToOne.inverse.injective (htracked.bound userId hbefore) hbound)

/-- A server without logins. -/
structure Fresh (world : World) : Prop where
  manager : world.manager = {}
  online : ∀ userId, world.redis.online userId = none

theorem Fresh.tracked (hfresh : Fresh world) (session : SessionRef) : Tracked session world where
  oneToOne := by
    rw [hfresh.manager]
    exact oneToOne_empty
  bound userId hrecords := by
    obtain ⟨entry, hentry, -⟩ := hrecords
    rw [hfresh.online userId] at hentry
    cases hentry

/-- **No stale record.** In a run in which no request looks up the binding of a
session after it died, the cleanup of the session leaves no online record that
names it, then or later. -/
theorem unbindSession_leaves_no_record {service : OnlineService} (session : SessionRef)
    {first world last : World} (hfresh : Fresh first)
    (hbefore : Run service (Spares session) first world)
    (hclosed : (world.sessions session).life ≠ .live) (hafter : Run service (fun _ _ => True)
      (service.handle world (.unbindSession session.id)) last) (userId : UInt64) :
    ¬ last.redis.Names userId session.id := by
  intro hnames
  have htracked := (hfresh.tracked session).run hbefore
  have hcleared := (htracked.unbindSession hclosed).run hafter
  exact hcleared.cleared userId hnames.records

/-! ## A closed session -/

/-- A server whose online records live for a minute and a half. -/
def oneServer : OnlineService where
  serverId := [108]
  onlineTtl := 90
  serverId_ne := by decide
  onlineTtl_pos := by decide

/-- Every session is open and nobody is logged in. -/
def noLogins : World where
  sessions := fun _ => {}
  manager := {}
  redis := {}
  database := ⟨{ collation := ⟨id⟩ },
    Tables.keyed_of_no_messages (by decide) rfl rfl rfl (by simp) (by simp)⟩

theorem fresh_noLogins : Fresh noLogins := ⟨rfl, fun _ => rfl⟩

/-- The sessions after session 7 closed. -/
def closeSeventh (sessions : Sessions) : Sessions :=
  update sessions ⟨7⟩ { sessions ⟨7⟩ with life := .closed }

theorem later_closeSeventh (sessions : Sessions) (hopen : (sessions ⟨7⟩).life = .live) :
    sessions.Later (closeSeventh sessions) where
  live session hlive := by
    by_cases hsame : session = ⟨7⟩
    · rw [hsame, hopen]
    · simpa [closeSeventh, hsame] using hlive
  expired session hexpired := by
    by_cases hsame : session = ⟨7⟩
    · rw [hsame, hopen] at hexpired
      cases hexpired
    · simpa [closeSeventh, hsame] using hexpired
  closeRequested session hrequested := by
    by_cases hsame : session = ⟨7⟩
    · simpa [closeSeventh, hsame] using hrequested
    · simpa [closeSeventh, hsame] using hrequested

/-- User 1 logged in on session 7, which then closed. -/
def closedLogin : World :=
  let world := oneServer.handle noLogins (.bindUser 1 (some ⟨7⟩))
  { world with sessions := closeSeventh world.sessions }

theorem run_closedLogin {guard : World → Request → Prop}
    (hguard : guard noLogins (.bindUser 1 (some ⟨7⟩))) :
    Run oneServer guard noLogins closedLogin :=
  .tail (.tail .refl (.request (.bindUser 1 (some ⟨7⟩)) hguard))
    (.elapses (.closes (.sessions (later_closeSeventh _ rfl))))

/-- The record of user 1 that a login on session 7 writes. -/
def seventhRecord : OnlineSession := ⟨1, 7, [108], 0⟩

/-- Without a lookup in between, the cleanup removes the record of user 1. -/
theorem unbindSession_leaves_no_record_closedLogin :
    closedLogin.redis.Names 1 7 ∧
      ¬ (oneServer.handle closedLogin (.unbindSession 7)).redis.Names 1 7 :=
  ⟨⟨seventhRecord, by decide, rfl⟩, unbindSession_leaves_no_record ⟨7⟩ fresh_noLogins
    (run_closedLogin fun _ => not_false) (by decide) .refl 1⟩

/-- A lookup of user 1 between the close and the cleanup leaves the record behind. -/
theorem unbindSession_leaves_record_after_lookup :
    ∃ world, Run oneServer (fun _ _ => True) noLogins world ∧
      (world.sessions ⟨7⟩).life ≠ .live ∧
      (oneServer.handle world (.unbindSession 7)).redis.Names 1 7 :=
  ⟨oneServer.handle closedLogin (.getSessionByUser 1),
    .tail (run_closedLogin trivial) (.request (.getSessionByUser 1) trivial), by decide,
    ⟨seventhRecord, by decide, rfl⟩⟩

end LiteIM.OnlineService
