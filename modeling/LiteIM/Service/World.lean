/-
# The world the services act on

A service is a program that calls sessions, the session manager, the cache and
storage. This module fixes those calls and what each does: one call is one atomic
step, and between two calls of a service other threads and the session loops may
act.

A call on a session or on the session manager does what its model says. A cache or
storage call does too, or it fails; which calls may fail, and what `sendPacket` may
answer, is a parameter. A storage call that fails was rolled back. It reports one of
three codes, and never that something is missing or already there. A cache call
that fails may have taken effect before its answer was lost.
-/

import LiteIM.Cache.LoginRateLimiter
import LiteIM.Foundation.Triple
import LiteIM.Protocol.Packet
import LiteIM.Service.SessionBinding
import LiteIM.Storage.FriendTables
import LiteIM.Storage.MessageHistory

namespace LiteIM

open Foundation SessionManager Database

structure World where
  sessions : Sessions
  manager : SessionManager
  redis : Redis
  database : Database

/-- The open session a user is bound to. -/
def World.onlineSession (world : World) (userId : UInt64) : Option SessionRef :=
  world.manager.onlineSession world.sessions userId

inductive SessionCall where
  | closed (session : SessionRef)
  | lastActiveTimeMilliseconds (session : SessionRef)
  | sendPacket (session : SessionRef) (packet : Packet)
  | bindUser (userId : UInt64) (session : Option SessionRef)
  | unbindUser (userId sessionId : UInt64)
  | getSessionByUser (userId : UInt64)
  | getUserBySession (sessionId : UInt64)
  | getBoundUserBySession (sessionId : UInt64)

inductive CacheCall where
  | setUserOnline (session : OnlineSession) (ttl : Nat)
  | refreshUserOnline (userId : UInt64) (ttl : Nat)
  | setUserOffline (userId : UInt64)
  | incrUnread (key : UnreadKey) (delta : UInt64)
  | clearUnread (key : UnreadKey)
  | isUserOnline (userId : UInt64)
  | allowLoginAttempt (key : LoginAttemptKey) (maxFailures : Nat)
  | recordLoginFailure (key : LoginAttemptKey) (ttl : Nat)
  | clearLoginFailure (key : LoginAttemptKey)

/-- The `INSERT` and the query of `createUser` use a connection each, so they are two
calls here. -/
inductive StorageCall where
  | findUserById (userId : UInt64)
  | areFriends (userId friendId : UInt64)
  | findGroupById (groupId : UInt64)
  | getGroupMembers (groupId : UInt64)
  | saveMessageWithOfflineRecipients (message : MessageRecord) (offlineUserIds : List UInt64)
  | findMessageByClientMessageId (senderId : UInt64) (clientMsgId : Bytes)
  | findDeliveryStatus (userId messageId : UInt64)
  | saveOfflineMessage (userId messageId : UInt64)
  | getOfflineMessages (userId : UInt64) (limit : Nat)
  | ackOfflineMessages (userId : UInt64) (messageIds : List UInt64)
  | ackPrivateMessageDelivery (userId messageId : UInt64)
  | getHistory (query : HistoryQuery)
  | insertUser (request : CreateUserRequest)
  | findUserByUsername (username : Bytes)
  | createFriendRequest (requesterId targetUserId : UInt64)
  | acceptFriendRequest (requesterId targetUserId : UInt64)
  | rejectFriendRequest (requesterId targetUserId : UInt64)
  | getFriends (userId : UInt64)
  | createGroup (request : CreateGroupRequest)
  | addGroupMember (groupId userId : UInt64)
  | getGroupsForUser (userId : UInt64)

inductive Call where
  | session (call : SessionCall)
  | cache (call : CacheCall)
  | storage (call : StorageCall)

@[reducible]
def SessionCall.Reply : SessionCall → Type
  | .closed _ => Bool
  | .lastActiveTimeMilliseconds _ => Int
  | .sendPacket _ _ => Except Error Unit
  | .bindUser _ _ => Except Error Unit
  | .unbindUser _ _ => Except Error Bool
  | .getSessionByUser _ => Except Error SessionRef
  | .getUserBySession _ => Except Error UInt64
  | .getBoundUserBySession _ => Except Error UInt64

@[reducible]
def CacheCall.Result : CacheCall → Type
  | .setUserOnline _ _ => Unit
  | .refreshUserOnline _ _ => Unit
  | .setUserOffline _ => Unit
  | .incrUnread _ _ => UInt64
  | .clearUnread _ => Unit
  | .isUserOnline _ => Bool
  | .allowLoginAttempt _ _ => Bool
  | .recordLoginFailure _ _ => Unit
  | .clearLoginFailure _ => Unit

@[reducible]
def StorageCall.Result : StorageCall → Type
  | .findUserById _ => UserRecord
  | .areFriends _ _ => Bool
  | .findGroupById _ => GroupRecord
  | .getGroupMembers _ => List GroupMemberRecord
  | .saveMessageWithOfflineRecipients _ _ => MessageRecord
  | .findMessageByClientMessageId _ _ => MessageRecord
  | .findDeliveryStatus _ _ => DeliveryStatus
  | .saveOfflineMessage _ _ => Unit
  | .getOfflineMessages _ _ => List OfflineMessageRecord
  | .ackOfflineMessages _ _ => List OfflineMessageRecord
  | .ackPrivateMessageDelivery _ _ => MessageRecord
  | .getHistory _ => List MessageRecord
  | .insertUser _ => Unit
  | .findUserByUsername _ => UserRecord
  | .createFriendRequest _ _ => FriendRequestRecord
  | .acceptFriendRequest _ _ => Unit
  | .rejectFriendRequest _ _ => Unit
  | .getFriends _ => List UserProfileRecord
  | .createGroup _ => GroupRecord
  | .addGroupMember _ _ => Unit
  | .getGroupsForUser _ => List GroupRecord

@[reducible]
def Call.Reply : Call → Type
  | .session call => call.Reply
  | .cache call => Except Error call.Result
  | .storage call => Except Error call.Result

/-- The calls a service makes. -/
@[reducible]
def services : Signature := ⟨Call, Call.Reply⟩

abbrev Service := Fallible services Error

/-! ## What a call does -/

variable {world : World} {call : StorageCall}

namespace World

/-- What `sendPacket` answers. -/
abbrev Network := SessionRef → Packet → Except Error Unit

def answerSession (network : Network) (world : World) :
    (call : SessionCall) → call.Reply × World
  | .closed session => (world.sessions.closed session, world)
  | .lastActiveTimeMilliseconds session => ((world.sessions session).lastActiveTimeMs, world)
  | .sendPacket session packet => (network session packet, world)
  | .bindUser userId session =>
    let (result, manager, sessions) := bindUser world.sessions world.sessions
      world.sessions world.manager userId session
    (result, { world with manager, sessions })
  | .unbindUser userId sessionId =>
    let (result, manager) := world.manager.unbindUser userId sessionId
    (result, { world with manager })
  | .getSessionByUser userId =>
    let (result, manager) := world.manager.getSessionByUser world.sessions userId
    (result, { world with manager })
  | .getUserBySession sessionId =>
    let (result, manager) := world.manager.getUserBySession world.sessions sessionId
    (result, { world with manager })
  | .getBoundUserBySession sessionId => (world.manager.getBoundUserBySession sessionId, world)

def answerCache (world : World) : (call : CacheCall) → Except Error call.Result × World
  | .setUserOnline session ttl =>
    let (result, redis) := world.redis.setUserOnline session ttl
    (result, { world with redis })
  | .refreshUserOnline userId ttl =>
    let (result, redis) := world.redis.refreshUserOnline userId ttl
    (result, { world with redis })
  | .setUserOffline userId =>
    let (result, redis) := world.redis.setUserOffline userId
    (result, { world with redis })
  | .incrUnread key delta =>
    let (result, redis) := world.redis.incrUnread key delta
    (result, { world with redis })
  | .clearUnread key =>
    let (result, redis) := world.redis.clearUnread key
    (result, { world with redis })
  | .isUserOnline userId => (world.redis.isUserOnline userId, world)
  | .allowLoginAttempt key maxFailures => (world.redis.allowLoginAttempt key maxFailures, world)
  | .recordLoginFailure key ttl =>
    let (result, redis) := world.redis.recordLoginFailure key ttl
    (result, { world with redis })
  | .clearLoginFailure key =>
    let (result, redis) := world.redis.clearLoginFailure key
    (result, { world with redis })

def answerStorage (world : World) : (call : StorageCall) → Except Error call.Result × World
  | .findUserById userId => (world.database.1.findUserById userId, world)
  | .areFriends userId friendId => (world.database.1.areFriends userId friendId, world)
  | .findGroupById groupId => (world.database.1.findGroupById groupId, world)
  | .getGroupMembers groupId => (world.database.1.getGroupMembers groupId, world)
  | .saveMessageWithOfflineRecipients message offlineUserIds =>
    let (result, database) := saveMessageWithOfflineRecipients world.database
      world.redis.nowMs message offlineUserIds
    (result, { world with database })
  | .findMessageByClientMessageId senderId clientMsgId =>
    (world.database.1.findMessageByClientMessageId senderId clientMsgId, world)
  | .findDeliveryStatus userId messageId =>
    (world.database.1.findDeliveryStatus userId messageId, world)
  | .saveOfflineMessage userId messageId =>
    let (result, database) := saveOfflineMessage world.database world.redis.nowMs
      userId messageId
    (result, { world with database })
  | .getOfflineMessages userId limit => (world.database.1.getOfflineMessages userId limit, world)
  | .ackOfflineMessages userId messageIds =>
    let (result, database) := ackOfflineMessages world.database world.redis.nowMs
      userId messageIds
    (result, { world with database })
  | .ackPrivateMessageDelivery userId messageId =>
    let (result, database) := ackPrivateMessageDelivery world.database
      world.redis.nowMs userId messageId
    (result, { world with database })
  | .getHistory query => (world.database.1.getHistoryByConversation query, world)
  | .insertUser request =>
    let (result, database) := insertUser world.database world.redis.nowMs request
    (result, { world with database })
  | .findUserByUsername username => (world.database.1.findUserByUsername username, world)
  | .createFriendRequest requesterId targetUserId =>
    let (result, database) := createFriendRequest world.database world.redis.nowMs
      requesterId targetUserId
    (result, { world with database })
  | .acceptFriendRequest requesterId targetUserId =>
    let (result, database) := acceptFriendRequest world.database world.redis.nowMs
      requesterId targetUserId
    (result, { world with database })
  | .rejectFriendRequest requesterId targetUserId =>
    let (result, database) := rejectFriendRequest world.database world.redis.nowMs
      requesterId targetUserId
    (result, { world with database })
  | .getFriends userId => (world.database.1.getFriends userId, world)
  | .createGroup request =>
    let (result, database) := createGroup world.database world.redis.nowMs request
    (result, { world with database })
  | .addGroupMember groupId userId =>
    let (result, database) := addGroupMember world.database world.redis.nowMs
      groupId userId
    (result, { world with database })
  | .getGroupsForUser userId => (world.database.1.getGroupsForUser userId, world)

/-- The answers when no call fails. -/
def answer (network : Network) : (call : Call) → World → call.Reply × World
  | .session call, world => world.answerSession network call
  | .cache call, world => world.answerCache call
  | .storage call, world => world.answerStorage call

/-- What may go wrong. -/
structure Faults where
  /-- Storage calls may fail. -/
  storage : Prop
  /-- Cache calls may fail. -/
  cache : Prop
  /-- The answers `sendPacket` may give. -/
  send : SessionRef → Packet → Except Error Unit → Prop

/-- Everything may fail and `sendPacket` may answer anything. -/
def Faults.any : Faults := ⟨True, True, fun _ _ _ => True⟩

/-- Nothing fails. -/
def Faults.none : Faults := ⟨False, False, fun _ _ reply => reply = .ok ()⟩

/-- The codes of a storage call that could not be carried out. -/
def StorageFault (status : Error) : Prop :=
  status.code = .ioError ∨ status.code = .invalidArgument ∨ status.code = .internalError

/-- The machine that answers the services. -/
def machine (faults : Faults) : Machine services World
  | .session (.sendPacket session packet), world, reply, next =>
    faults.send session packet reply ∧ next = world
  | .session call, world, reply, next =>
    (reply, next) = world.answerSession (fun _ _ => .ok ()) call
  | .cache call, world, reply, next =>
    (reply, next) = world.answerCache call ∨
      (faults.cache ∧ (∃ status, reply = .error status) ∧
        (next = world ∨ next = (world.answerCache call).2))
  | .storage call, world, reply, next =>
    (reply, next) = world.answerStorage call ∨
      (faults.storage ∧ (∃ status, StorageFault status ∧ reply = .error status) ∧ next = world)

variable {faults : Faults}

/-- Running without failures is one of the machine's behaviours. -/
theorem machine_answer {network : Network}
    (hsend : ∀ session packet, faults.send session packet (network session packet)) (call : Call)
    (world : World) :
    machine faults call world (answer network call world).1 (answer network call world).2 := by
  cases call with
  | session call =>
    cases call with
    | sendPacket session packet => exact ⟨hsend session packet, rfl⟩
    | closed | lastActiveTimeMilliseconds | bindUser | unbindUser | getSessionByUser
    | getUserBySession | getBoundUserBySession => rfl
  | cache | storage => exact Or.inl rfl

/-! ## What happens by itself -/

/-- Sessions close. -/
inductive Closes (world : World) : World → Prop where
  | sessions {sessions : Sessions} (later : world.sessions.Later sessions) :
      Closes world { world with sessions }

/-- Sessions close and time passes, by which records expire. -/
inductive Elapses (world : World) : World → Prop where
  | closes {next : World} (closes : Closes world next) : Elapses world next
  | time {nowMs : Nat} (later : world.redis.nowMs ≤ nowMs) :
      Elapses world { world with redis := { world.redis with nowMs } }

variable {next : World}

theorem Elapses.manager (helapses : Elapses world next) : next.manager = world.manager := by
  cases helapses with
  | time => rfl
  | closes hcloses =>
    cases hcloses
    rfl

theorem Elapses.records (helapses : Elapses world next) {userId sessionId : UInt64}
    (hrecords : next.redis.Records userId sessionId) : world.redis.Records userId sessionId := by
  cases helapses with
  | time => exact hrecords
  | closes hcloses =>
    cases hcloses
    exact hrecords

/-- No session comes back to life. -/
theorem Elapses.live (helapses : Elapses world next) {session : SessionRef}
    (hlive : (next.sessions session).life = .live) : (world.sessions session).life = .live := by
  cases helapses with
  | time => exact hlive
  | closes hcloses =>
    cases hcloses with
    | sessions hlater => exact hlater.live session hlive

/-! ## What no call does -/

/-- A call does what it does without failures, or nothing. -/
theorem machine_next {call : Call} {reply : call.Reply}
    (hmachine : machine faults call world reply next) :
    next = world ∨ next = (answer (fun _ _ => .ok ()) call world).2 := by
  cases call with
  | session call =>
    cases call with
    | sendPacket => exact Or.inl hmachine.2
    | closed | lastActiveTimeMilliseconds | bindUser | unbindUser | getSessionByUser
    | getUserBySession | getBoundUserBySession => exact Or.inr (congrArg Prod.snd hmachine)
  | cache =>
    rcases hmachine with hanswer | ⟨-, -, hfailed⟩
    · exact Or.inr (congrArg Prod.snd hanswer)
    · exact hfailed
  | storage =>
    rcases hmachine with hanswer | ⟨-, -, hfailed⟩
    · exact Or.inr (congrArg Prod.snd hanswer)
    · exact Or.inl hfailed

/-- A storage call that succeeds was answered from the tables. -/
theorem answered_of_ok {value : call.Result}
    (hanswer : machine faults (.storage call) world (.ok value) next) :
    (world.answerStorage call).1 = .ok value := by
  rcases hanswer with hanswer | ⟨-, ⟨status, -, herror⟩, -⟩
  · exact (congrArg Prod.fst hanswer).symm
  · cases herror

theorem answerCache_manager (world : World) (call : CacheCall) :
    (world.answerCache call).2.manager = world.manager := by
  cases call <;> rfl

theorem answerStorage_manager (world : World) (call : StorageCall) :
    (world.answerStorage call).2.manager = world.manager := by
  cases call <;> rfl

/-- Every binding was there before a call, or was made by it. -/
theorem machine_users {call : Call} {reply : call.Reply}
    (hmachine : machine faults call world reply next) {userId : UInt64} {binding : UserBinding}
    (hbinding : next.manager.users userId = some binding) :
    world.manager.users userId = some binding ∨
      ∃ session : SessionRef, binding.sessionId = session.id ∧
        (⟨call, reply⟩ : Event services) =
          ⟨.session (.bindUser userId (some session)), .ok ()⟩ := by
  cases call with
  | cache call =>
    rcases machine_next hmachine with rfl | rfl
    · exact Or.inl hbinding
    · exact Or.inl (answerCache_manager world call ▸ hbinding)
  | storage call =>
    rcases machine_next hmachine with rfl | rfl
    · exact Or.inl hbinding
    · exact Or.inl (answerStorage_manager world call ▸ hbinding)
  | session call =>
    cases call with
    | sendPacket =>
      obtain ⟨-, rfl⟩ := hmachine
      exact Or.inl hbinding
    | bindUser bound session =>
      cases hmachine
      rcases users_of_bindUser hbinding with hold | ⟨found, rfl, rfl, hid, hok⟩
      · exact Or.inl hold
      · exact Or.inr ⟨found, hid,
          congrArg (Event.mk (S := services) (.session (.bindUser userId (some found)))) hok⟩
    | unbindUser =>
      cases hmachine
      exact Or.inl (users_of_unbindUser hbinding)
    | getSessionByUser =>
      cases hmachine
      exact Or.inl (users_of_getSessionByUser hbinding)
    | getUserBySession =>
      cases hmachine
      exact Or.inl ((getUserBySession_spec _ _ _).1 _ _ hbinding)
    | _ =>
      cases hmachine
      exact Or.inl hbinding

theorem answerCache_sessions (world : World) (call : CacheCall) :
    (world.answerCache call).2.sessions = world.sessions := by
  cases call <;> rfl

theorem answerStorage_sessions (world : World) (call : StorageCall) :
    (world.answerStorage call).2.sessions = world.sessions := by
  cases call <;> rfl

theorem answerSession_redis (network : Network) (world : World) (call : SessionCall) :
    (world.answerSession network call).2.redis = world.redis := by
  cases call <;> rfl

theorem answerStorage_redis (world : World) (call : StorageCall) :
    (world.answerStorage call).2.redis = world.redis := by
  cases call <;> rfl

theorem machine_session_redis {call : SessionCall} {reply : call.Reply}
    (hmachine : machine faults (.session call) world reply next) : next.redis = world.redis := by
  rcases machine_next hmachine with rfl | rfl
  · rfl
  · exact answerSession_redis _ world call

theorem machine_storage_redis {reply : Except Error call.Result}
    (hmachine : machine faults (.storage call) world reply next) : next.redis = world.redis := by
  rcases machine_next hmachine with rfl | rfl
  · rfl
  · exact answerStorage_redis world call

theorem answer_life (network : Network) (call : Call) (world : World) (session : SessionRef) :
    ((answer network call world).2.sessions session).life = (world.sessions session).life := by
  cases call with
  | session call =>
    cases call with
    | bindUser userId bound => exact bindUser_life _ _ _ _ userId bound session
    | sendPacket | closed | lastActiveTimeMilliseconds | unbindUser | getSessionByUser
    | getUserBySession | getBoundUserBySession => rfl
  | cache call =>
    show ((world.answerCache call).2.sessions session).life = _
    rw [answerCache_sessions]
  | storage call =>
    show ((world.answerStorage call).2.sessions session).life = _
    rw [answerStorage_sessions]

/-- Every call keeps the tables of the session manager in step. -/
theorem answer_oneToOne (network : Network) (call : Call) (hone : world.manager.OneToOne) :
    (answer network call world).2.manager.OneToOne := by
  cases call with
  | session call =>
    cases call with
    | sendPacket | closed | lastActiveTimeMilliseconds | getBoundUserBySession => exact hone
    | bindUser userId session => exact hone.bindUser _ _ _ userId session
    | unbindUser userId sessionId => exact hone.unbindUser userId sessionId
    | getSessionByUser userId => exact hone.getSessionByUser _ userId
    | getUserBySession sessionId => exact hone.getUserBySession _ sessionId
  | cache call =>
    show (world.answerCache call).2.manager.OneToOne
    rwa [answerCache_manager]
  | storage call =>
    show (world.answerStorage call).2.manager.OneToOne
    rwa [answerStorage_manager]

theorem machine_oneToOne {call : Call} {reply : call.Reply}
    (hmachine : machine faults call world reply next) (hone : world.manager.OneToOne) :
    next.manager.OneToOne := by
  rcases machine_next hmachine with rfl | rfl
  · exact hone
  · exact answer_oneToOne _ call hone

end World

/-! ## Calls as programs -/

namespace Service

def closed (session : SessionRef) : Service Bool :=
  ExceptT.mk (.call (.session (.closed session)) fun reply => .ret (.ok reply))

def lastActiveTimeMilliseconds (session : SessionRef) : Service Int :=
  ExceptT.mk
    (.call (.session (.lastActiveTimeMilliseconds session)) fun reply => .ret (.ok reply))

def sendPacket (session : SessionRef) (packet : Packet) : Service Unit :=
  ExceptT.mk (.call (.session (.sendPacket session packet)) .ret)

def bindUser (userId : UInt64) (session : Option SessionRef) : Service Unit :=
  ExceptT.mk (.call (.session (.bindUser userId session)) .ret)

def unbindUser (userId sessionId : UInt64) : Service Bool :=
  ExceptT.mk (.call (.session (.unbindUser userId sessionId)) .ret)

def getSessionByUser (userId : UInt64) : Service SessionRef :=
  ExceptT.mk (.call (.session (.getSessionByUser userId)) .ret)

def getUserBySession (sessionId : UInt64) : Service UInt64 :=
  ExceptT.mk (.call (.session (.getUserBySession sessionId)) .ret)

def getBoundUserBySession (sessionId : UInt64) : Service UInt64 :=
  ExceptT.mk (.call (.session (.getBoundUserBySession sessionId)) .ret)

def cache (call : CacheCall) : Service call.Result :=
  ExceptT.mk (.call (.cache call) .ret)

def setUserOnline (session : OnlineSession) (ttl : Nat) : Service Unit :=
  cache (.setUserOnline session ttl)

def refreshUserOnline (userId : UInt64) (ttl : Nat) : Service Unit :=
  cache (.refreshUserOnline userId ttl)

def setUserOffline (userId : UInt64) : Service Unit := cache (.setUserOffline userId)

def storage (call : StorageCall) : Service call.Result :=
  ExceptT.mk (.call (.storage call) .ret)

/-- A storage call with its answer, as the last event. -/
theorem storage_yields {justified : List (Event services) → Event services → Prop}
    {history : List (Event services)}
    (hjustified : ∀ reply, justified history ⟨.storage call, reply⟩) : Fallible.Yields justified
      (fun later value => later = history ++ [⟨.storage call, .ok value⟩]) history
      (storage call) := by
  intro reply
  refine ⟨hjustified reply, fun value hvalue => ?_⟩
  show _ = history ++ [⟨.storage call, .ok value⟩]
  rw [← hvalue]

variable {M : Machine services World} {pre : World → Prop}

theorem storage_triple {post : Except Error call.Result → World → Prop}
    (hcall : ∀ world reply next, pre world → M (.storage call) world reply next →
      post reply next) : Program.Triple M pre (storage call).run post :=
  Program.triple_call post hcall fun _ => Program.triple_ret fun _ => id

theorem cache_triple {call : CacheCall} {post : Except Error call.Result → World → Prop}
    (hcall : ∀ world reply next, pre world → M (.cache call) world reply next →
      post reply next) : Program.Triple M pre (cache call).run post :=
  Program.triple_call post hcall fun _ => Program.triple_ret fun _ => id

end Service

/-! ## One request by itself -/

namespace World

variable {α β : Type}

/-- Handle a request while nothing else happens and no call fails. -/
def serve (world : World) (program : Service α) : Except Error α × World :=
  (program.run.run (answer fun _ _ => .ok ()) world).2

/-- Handling a request by itself is one of its runs. -/
theorem exec_of_serve {after : World} {program : Service α} {result : Except Error α}
    (hserve : world.serve program = (result, after)) :
    ∃ trace, program.run.Exec (machine .none) world trace result after := by
  have hanswer : ∀ call world, machine .none call world
      (answer (fun _ _ => .ok ()) call world).1 (answer (fun _ _ => .ok ()) call world).2 :=
    machine_answer fun _ _ => rfl
  have hexec := Program.exec_run hanswer program.run world
  obtain ⟨hresult, hafter⟩ := Prod.mk.inj hserve
  rw [← hresult, ← hafter]
  exact ⟨_, hexec⟩

theorem serve_oneToOne (hone : world.manager.OneToOne) (program : Service α) :
    (world.serve program).2.manager.OneToOne := by
  apply Program.run_invariant (fun world : World => world.manager.OneToOne) _ program.run hone
  intro call world hone
  exact answer_oneToOne _ call hone

/-- A request neither closes nor revives a session. -/
theorem serve_life (world : World) (program : Service α) (session : SessionRef) :
    ((world.serve program).2.sessions session).life = (world.sessions session).life := by
  apply Program.run_invariant
    (fun later : World => (later.sessions session).life = (world.sessions session).life)
    _ program.run rfl
  intro call later hlater
  rw [answer_life, hlater]

variable (world) (userId sessionId : UInt64) (session : SessionRef)

@[simp]
theorem serve_pure (value : α) : world.serve (pure value) = (.ok value, world) := rfl

@[simp]
theorem serve_throw (status : Error) :
    world.serve (throw status : Service α) = (.error status, world) := rfl

@[simp]
theorem serve_ofExcept (result : Except Error α) :
    world.serve (Fallible.ofExcept result) = (result, world) := rfl

/-- A success is continued, an error ends the request. -/
theorem serve_bind (program : Service α) (f : α → Service β) :
    world.serve (program >>= f) =
      match world.serve program with
      | (.ok value, mid) => mid.serve (f value)
      | (.error status, mid) => (.error status, mid) := by
  rcases hserved : world.serve program with ⟨result, mid⟩
  have hrun : (program.run.run (answer fun _ _ => .ok ()) world).2 = (result, mid) := hserved
  rw [serve, ExceptT.run_bind, Program.run_bind, hrun]
  cases result with
  | ok | error => rfl

theorem serve_bind_ok {world mid : World} {program : Service α} {value : α}
    (hserve : world.serve program = (.ok value, mid)) (f : α → Service β) :
    world.serve (program >>= f) = mid.serve (f value) := by
  rw [serve_bind, hserve]

@[simp]
theorem serve_outcome (program : Service α) :
    world.serve program.outcome = (.ok (world.serve program).1, (world.serve program).2) := by
  rw [serve, Fallible.outcome, ExceptT.run_mk, Program.run_bind]
  rfl

@[simp]
theorem serve_closed :
    world.serve (Service.closed session) = (.ok (world.sessions.closed session), world) := rfl

@[simp]
theorem serve_lastActiveTimeMilliseconds :
    world.serve (Service.lastActiveTimeMilliseconds session) =
      (.ok (world.sessions session).lastActiveTimeMs, world) := rfl

@[simp]
theorem serve_bindUser (session : Option SessionRef) :
    world.serve (Service.bindUser userId session) =
      let bound := bindUser world.sessions world.sessions world.sessions
        world.manager userId session
      (bound.1, { world with manager := bound.2.1, sessions := bound.2.2 }) := rfl

@[simp]
theorem serve_unbindUser :
    world.serve (Service.unbindUser userId sessionId) =
      let unbound := world.manager.unbindUser userId sessionId
      (unbound.1, { world with manager := unbound.2 }) := rfl

@[simp]
theorem serve_getSessionByUser :
    world.serve (Service.getSessionByUser userId) =
      let found := world.manager.getSessionByUser world.sessions userId
      (found.1, { world with manager := found.2 }) := rfl

@[simp]
theorem serve_getUserBySession :
    world.serve (Service.getUserBySession sessionId) =
      let found := world.manager.getUserBySession world.sessions sessionId
      (found.1, { world with manager := found.2 }) := rfl

@[simp]
theorem serve_getBoundUserBySession :
    world.serve (Service.getBoundUserBySession sessionId) =
      (world.manager.getBoundUserBySession sessionId, world) := rfl

@[simp]
theorem serve_setUserOnline (session : OnlineSession) (ttl : Nat) :
    world.serve (Service.setUserOnline session ttl) =
      let done := world.redis.setUserOnline session ttl
      (done.1, { world with redis := done.2 }) := rfl

@[simp]
theorem serve_setUserOffline :
    world.serve (Service.setUserOffline userId) =
      let done := world.redis.setUserOffline userId
      (done.1, { world with redis := done.2 }) := rfl

@[simp]
theorem serve_refreshUserOnline (ttl : Nat) :
    world.serve (Service.refreshUserOnline userId ttl) =
      let done := world.redis.refreshUserOnline userId ttl
      (done.1, { world with redis := done.2 }) := rfl

end World

end LiteIM
