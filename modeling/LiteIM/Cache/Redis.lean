/-
# The Redis tables

The part of Redis that online status, unread counts and login failures live in, and the
cache operations on the first two. A key holds at most one value; an online record and a
count of login failures carry the time at which they expire, and from then on it is as if
they were not there.

An operation here is what the cache does when Redis answers. That a call can fail
instead is a matter of the machine that runs the services.
-/

import LiteIM.Base.Status
import LiteIM.Storage.Types
import Mathlib.Logic.Function.Basic

namespace LiteIM

open Foundation Status Function

structure OnlineSession where
  userId : UInt64 := 0
  sessionId : UInt64 := 0
  serverId : Bytes := []
  lastActiveTimeMs : Int := 0
  deriving DecidableEq, Repr

@[ext]
structure UnreadKey where
  userId : UInt64
  conversation : ConversationKey
  deriving DecidableEq, Repr

/-- An online record under the key of its user, until it expires. -/
structure OnlineEntry where
  session : OnlineSession
  expiresAtMs : Nat
  deriving DecidableEq, Repr

/-- A count of login failures, until it expires. -/
structure FailureEntry where
  count : Nat
  expiresAtMs : Nat
  deriving DecidableEq, Repr

structure Redis where
  nowMs : Nat := 0
  online : UInt64 → Option OnlineEntry := fun _ => none
  unread : UnreadKey → Nat := fun _ => 0
  loginFailures : Bytes → Option FailureEntry := fun _ => none

namespace Redis

/-- The record Redis returns for a user: expired entries are gone. -/
def onlineRecord (redis : Redis) (userId : UInt64) : Option OnlineSession :=
  match redis.online userId with
  | some entry => if redis.nowMs < entry.expiresAtMs then some entry.session else none
  | none => none

def validateUserId (userId : UInt64) : Except Error Unit :=
  if userId = 0 then
    error .invalidArgument "online cache user_id must be greater than zero"
  else .ok ()

/-- A time to live is a number of seconds. -/
def validateTtl (ttl : Nat) : Except Error Unit :=
  if ttl = 0 then error .invalidArgument "online cache ttl must be positive" else .ok ()

def validateSession (session : OnlineSession) : Except Error Unit := do
  validateUserId session.userId
  if session.sessionId = 0 then
    error .invalidArgument "online cache session_id must be greater than zero"
  else if session.serverId = [] then
    error .invalidArgument "online cache server_id must not be empty"
  else .ok ()

/-- `SETEX` replaces whatever the key held. -/
def setex (redis : Redis) (session : OnlineSession) (ttl : Nat) : Redis :=
  { redis with
    online := update redis.online session.userId
      (some ⟨session, redis.nowMs + ttl * 1000⟩) }

/-- `EXPIRE` moves the expiry of a key that is there. -/
def expire (redis : Redis) (userId : UInt64) (session : OnlineSession) (ttl : Nat) : Redis :=
  { redis with
    online := update redis.online userId (some ⟨session, redis.nowMs + ttl * 1000⟩) }

/-- `DEL`. -/
def del (redis : Redis) (userId : UInt64) : Redis :=
  { redis with online := update redis.online userId none }

def setUserOnline (redis : Redis) (session : OnlineSession) (ttl : Nat) :
    Except Error Unit × Redis :=
  let stored := if session.lastActiveTimeMs ≤ 0 then
    { session with lastActiveTimeMs := redis.nowMs } else session
  match validateSession stored with
  | .error status => (.error status, redis)
  | .ok () =>
    match validateTtl ttl with
    | .error status => (.error status, redis)
    | .ok () => (.ok (), redis.setex stored ttl)

def refreshUserOnline (redis : Redis) (userId : UInt64) (ttl : Nat) : Except Error Unit × Redis :=
  match validateUserId userId with
  | .error status => (.error status, redis)
  | .ok () =>
    match validateTtl ttl with
    | .error status => (.error status, redis)
    | .ok () =>
      match redis.onlineRecord userId with
      | none => (error .notFound s!"user is offline: {userId}", redis)
      | some session => (.ok (), redis.expire userId session ttl)

def setUserOffline (redis : Redis) (userId : UInt64) : Except Error Unit × Redis :=
  match validateUserId userId with
  | .error status => (.error status, redis)
  | .ok () => (.ok (), redis.del userId)

/-- Whether there is a record. -/
def isUserOnline (redis : Redis) (userId : UInt64) : Except Error Bool :=
  match validateUserId userId with
  | .error status => .error status
  | .ok () => .ok (redis.onlineRecord userId).isSome

def validateUnreadKey (key : UnreadKey) : Except Error Unit :=
  if key.userId = 0 then
    error .invalidArgument "unread counter user_id must be greater than zero"
  else if key.conversation.id = 0 then
    error .invalidArgument "unread counter conversation is invalid"
  else .ok ()

/-- Redis integers are signed 64-bit. -/
def maxInteger : Nat := 2 ^ 63 - 1

/-- `incrUnread(key, delta, unread_count)`, which returns the new count. -/
def incrUnread (redis : Redis) (key : UnreadKey) (delta : UInt64) :
    Except Error UInt64 × Redis :=
  match validateUnreadKey key with
  | .error status => (.error status, redis)
  | .ok () =>
    if delta = 0 then
      (error .invalidArgument "unread counter delta must be greater than zero", redis)
    else if delta.toNat > maxInteger then
      (error .invalidArgument
        "unread counter delta exceeds Redis signed integer range", redis)
    else if redis.unread key + delta.toNat > maxInteger then
      (error .ioError
        "Redis EVAL failed: ERR increment or decrement would overflow", redis)
    else
      (.ok (UInt64.ofNat (redis.unread key + delta.toNat)),
        { redis with
          unread := update redis.unread key (redis.unread key + delta.toNat) })

/-- `DEL`, whether there is a count or not. -/
def clearUnread (redis : Redis) (key : UnreadKey) : Except Error Unit × Redis :=
  match validateUnreadKey key with
  | .error status => (.error status, redis)
  | .ok () => (.ok (), { redis with unread := update redis.unread key 0 })

variable {redis : Redis}

theorem incrUnread_ok {after : Redis} {key : UnreadKey} {delta count : UInt64}
    (hincr : redis.incrUnread key delta = (.ok count, after)) :
    after.unread = update redis.unread key (redis.unread key + delta.toNat) := by
  rw [incrUnread] at hincr
  cases hvalid : validateUnreadKey key with
  | error => simp [hvalid] at hincr
  | ok =>
    simp only [hvalid, error] at hincr
    split_ifs at hincr with hzero hlarge hoverflow
    · cases hincr
    · cases hincr
    · cases hincr
    · rw [← (Prod.mk.inj hincr).2]

theorem clearUnread_ok {after : Redis} {key : UnreadKey}
    (hclear : redis.clearUnread key = (.ok (), after)) :
    after.unread = update redis.unread key 0 := by
  rw [clearUnread] at hclear
  cases hvalid : validateUnreadKey key with
  | error => simp [hvalid] at hclear
  | ok =>
    rw [hvalid] at hclear
    rw [← (Prod.mk.inj hclear).2]

/-! ## Who is recorded where -/

/-- There is a record, expired or not, that has the user on the session. -/
def Records (redis : Redis) (userId sessionId : UInt64) : Prop :=
  ∃ entry, redis.online userId = some entry ∧ entry.session.sessionId = sessionId

/-- Redis returns a record that has the user on the session. -/
def Names (redis : Redis) (userId sessionId : UInt64) : Prop :=
  ∃ record, redis.onlineRecord userId = some record ∧ record.sessionId = sessionId

variable {userId : UInt64}

theorem onlineRecord_eq_some_iff {record : OnlineSession} :
    redis.onlineRecord userId = some record ↔
      ∃ entry, redis.online userId = some entry ∧ redis.nowMs < entry.expiresAtMs ∧
        entry.session = record := by
  cases hentry : redis.online userId with
  | none | some => simp [onlineRecord, hentry]

variable {sessionId : UInt64}

theorem Names.records (hnames : redis.Names userId sessionId) : redis.Records userId sessionId := by
  obtain ⟨record, hrecord, hid⟩ := hnames
  obtain ⟨entry, hentry, -, rfl⟩ := onlineRecord_eq_some_iff.mp hrecord
  exact ⟨entry, hentry, hid⟩

theorem not_names_of_onlineRecord_eq_none (hnone : redis.onlineRecord userId = none)
    (sessionId : UInt64) : ¬ redis.Names userId sessionId := by
  rintro ⟨record, hrecord, -⟩
  rw [hnone] at hrecord
  cases hrecord

variable {ttl : Nat} {session : OnlineSession}

theorem records_setex : (redis.setex session ttl).Records userId sessionId ↔
      (userId = session.userId ∧ sessionId = session.sessionId) ∨
        (userId ≠ session.userId ∧ redis.Records userId sessionId) := by
  by_cases hsame : userId = session.userId
  · simp [Records, setex, hsame, eq_comm]
  · simp [Records, setex, hsame]

variable {other : UInt64}

theorem records_del : (redis.del other).Records userId sessionId ↔
      userId ≠ other ∧ redis.Records userId sessionId := by
  by_cases hsame : userId = other
  · simp [Records, del, hsame]
  · simp [Records, del, hsame]

theorem onlineRecord_congr {other : Redis} (honline : other.online userId = redis.online userId)
    (hnow : other.nowMs = redis.nowMs) : other.onlineRecord userId = redis.onlineRecord userId := by
  rw [onlineRecord, onlineRecord, honline, hnow]

/-- A record that is complete is stored, with the time of the call for a missing
time. -/
theorem setUserOnline_eq (redis : Redis) (huser : session.userId ≠ 0)
    (hsession : session.sessionId ≠ 0) (hserver : session.serverId ≠ []) (httl : 0 < ttl) :
    ∃ stored : OnlineSession, stored.userId = session.userId ∧
      stored.sessionId = session.sessionId ∧
      redis.setUserOnline session ttl = (.ok (), redis.setex stored ttl) := by
  have httl : ttl ≠ 0 := Nat.ne_of_gt httl
  by_cases hactive : session.lastActiveTimeMs ≤ 0
  · exact ⟨{ session with lastActiveTimeMs := redis.nowMs }, rfl, rfl, by
      simp [setUserOnline, hactive, validateSession, validateUserId, validateTtl, huser, hsession,
        hserver, httl, bind, Except.bind]⟩
  · exact ⟨session, rfl, rfl, by
      simp [setUserOnline, hactive, validateSession, validateUserId, validateTtl, huser, hsession,
        hserver, httl, bind, Except.bind]⟩

/-- A refused record changes nothing. -/
theorem setUserOnline_error {status : Error}
    (hset : (redis.setUserOnline session ttl).1 = .error status) :
    (redis.setUserOnline session ttl).2 = redis := by
  rw [setUserOnline] at hset ⊢
  split at hset
  · rfl
  · split at hset
    · rfl
    · cases hset

theorem setUserOffline_eq (redis : Redis) (huser : userId ≠ 0) :
    redis.setUserOffline userId = (.ok (), redis.del userId) := by
  simp [setUserOffline, validateUserId, huser]

/-- A refresh moves the expiry of a record that is there, and does nothing else. -/
theorem refreshUserOnline_eq (redis : Redis) (huser : userId ≠ 0) (httl : 0 < ttl) :
    (redis.refreshUserOnline userId ttl).2 =
      match redis.onlineRecord userId with
      | none => redis
      | some session => redis.expire userId session ttl := by
  simp only [refreshUserOnline, validateUserId, huser, if_false, validateTtl, Nat.ne_of_gt httl]
  cases redis.onlineRecord userId with
  | none | some => rfl

/-- The session of a record stays the same when its expiry is moved. -/
theorem records_refreshUserOnline (huser : userId ≠ 0) (httl : 0 < ttl)
    (hrecords : (redis.refreshUserOnline userId ttl).2.Records other sessionId) :
    redis.Records other sessionId := by
  rw [redis.refreshUserOnline_eq huser httl] at hrecords
  cases hrecord : redis.onlineRecord userId with
  | none => simpa [hrecord] using hrecords
  | some =>
    simp only [hrecord, Records, expire] at hrecords
    by_cases hsame : other = userId
    · subst hsame
      obtain ⟨entry, hentry, -, rfl⟩ := onlineRecord_eq_some_iff.mp hrecord
      exact ⟨entry, hentry, by simpa using hrecords⟩
    · simpa [Records, hsame] using hrecords

/-- A refresh keeps a record that is there, and brings none back. -/
theorem onlineRecord_refreshUserOnline (redis : Redis) (huser : userId ≠ 0) (httl : 0 < ttl) :
    (redis.refreshUserOnline userId ttl).2.onlineRecord userId = redis.onlineRecord userId := by
  rw [redis.refreshUserOnline_eq huser httl]
  cases hrecord : redis.onlineRecord userId with
  | none => exact hrecord
  | some =>
    apply onlineRecord_eq_some_iff.mpr
    exact ⟨_, update_self userId _ _, by simp [expire, httl], rfl⟩

/-! ## The records of other users -/

theorem onlineRecord_setUserOnline_of_ne (hother : other ≠ session.userId) :
    (redis.setUserOnline session ttl).2.onlineRecord other = redis.onlineRecord other := by
  have hstored : other ≠ (if session.lastActiveTimeMs ≤ 0 then
      { session with lastActiveTimeMs := (redis.nowMs : Int) } else session).userId := by
    split
    · exact hother
    · exact hother
  rw [setUserOnline]
  split
  · rfl
  · split
    · rfl
    · exact onlineRecord_congr (update_of_ne hstored _ _) rfl

theorem onlineRecord_refreshUserOnline_of_ne (hother : other ≠ userId) :
    (redis.refreshUserOnline userId ttl).2.onlineRecord other = redis.onlineRecord other := by
  rw [refreshUserOnline]
  split
  · rfl
  · split
    · rfl
    · split
      · rfl
      · exact onlineRecord_congr (update_of_ne hother _ _) rfl

theorem onlineRecord_setUserOffline_of_ne (hother : other ≠ userId) :
    (redis.setUserOffline userId).2.onlineRecord other = redis.onlineRecord other := by
  rw [setUserOffline]
  split
  · rfl
  · exact onlineRecord_congr (update_of_ne hother _ _) rfl

theorem onlineRecord_incrUnread (redis : Redis) (key : UnreadKey) (delta other : UInt64) :
    (redis.incrUnread key delta).2.onlineRecord other = redis.onlineRecord other := by
  rw [incrUnread]
  split
  · rfl
  · split
    · rfl
    · split
      · rfl
      · split
        · rfl
        · rfl

theorem onlineRecord_clearUnread (redis : Redis) (key : UnreadKey) (other : UInt64) :
    (redis.clearUnread key).2.onlineRecord other = redis.onlineRecord other := by
  rw [clearUnread]
  split
  · rfl
  · rfl

end Redis

end LiteIM
