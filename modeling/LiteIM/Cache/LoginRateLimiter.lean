/-
# Counting login failures

`LoginRateLimiter` keeps a count of failed logins for each pair of a user name and a remote
address. A login attempt is allowed while the count is below the limit, and a failure
increments it; these are two operations, and what happens between them is up to the caller.
The count expires some time after the last failure.

The key of a count spells the two strings with their lengths in front, as bytes: it is the
spelling that counts, not the account that the name belongs to.
-/

import LiteIM.Cache.Redis
import LiteIM.Foundation.Decimal

namespace LiteIM

open Foundation Function

structure LoginAttemptKey where
  username : Bytes
  remoteIp : Bytes
  deriving DecidableEq, Repr

namespace LoginRateLimiter

/-- `"login:failure:"`. -/
def kLoginFailureKeyPrefix : Bytes :=
  [0x6C, 0x6F, 0x67, 0x69, 0x6E, 0x3A, 0x66, 0x61, 0x69, 0x6C, 0x75, 0x72, 0x65, 0x3A]

/-- A string with its length in front. -/
def sized (text : Bytes) : Bytes := decimal text.length ++ 0x3A :: text

def loginFailureKey (key : LoginAttemptKey) : Bytes :=
  kLoginFailureKeyPrefix ++ sized key.username ++ 0x3A :: sized key.remoteIp

def validateLoginKey (key : LoginAttemptKey) : Except Error Unit :=
  if key.username = [] then
    Status.error .invalidArgument "login limiter username must not be empty"
  else if key.remoteIp = [] then
    Status.error .invalidArgument "login limiter remote_ip must not be empty"
  else .ok ()

end LoginRateLimiter

namespace Redis

open LoginRateLimiter

/-- The count Redis returns under a key. -/
def failureCount (redis : Redis) (key : Bytes) : Option Nat :=
  match redis.loginFailures key with
  | some entry => if redis.nowMs < entry.expiresAtMs then some entry.count else none
  | none => none

/-- `allow(key, max_failures, allowed)`. -/
def allowLoginAttempt (redis : Redis) (key : LoginAttemptKey) (maxFailures : Nat) :
    Except Error Bool :=
  match validateLoginKey key with
  | .error status => .error status
  | .ok () =>
    if maxFailures = 0 then
      Status.error .invalidArgument "login limiter max_failures must be greater than zero"
    else
      match redis.failureCount (loginFailureKey key) with
      | none => .ok true
      | some count => .ok (count < maxFailures)

/-- The script of `recordFailure`: `INCR` and then `EXPIRE`. -/
def incrementFailures (redis : Redis) (key : Bytes) (ttl : Nat) : Redis :=
  { redis with
    loginFailures := update redis.loginFailures key
      (some ⟨(redis.failureCount key).getD 0 + 1, redis.nowMs + ttl * 1000⟩) }

/-- `recordFailure(key, ttl)`, with the time to live in seconds. -/
def recordLoginFailure (redis : Redis) (key : LoginAttemptKey) (ttl : Nat) :
    Except Error Unit × Redis :=
  match validateLoginKey key with
  | .error status => (.error status, redis)
  | .ok () =>
    if ttl = 0 then
      (Status.error .invalidArgument "login limiter ttl must be positive", redis)
    else if (redis.failureCount (loginFailureKey key)).getD 0 + 1 > maxInteger then
      (Status.error .ioError
        "Redis EVAL failed: ERR increment or decrement would overflow", redis)
    else (.ok (), redis.incrementFailures (loginFailureKey key) ttl)

/-- `DEL`, whether there is a count or not. -/
def clearLoginFailure (redis : Redis) (key : LoginAttemptKey) : Except Error Unit × Redis :=
  match validateLoginKey key with
  | .error status => (.error status, redis)
  | .ok () =>
    (.ok (), { redis with
      loginFailures := update redis.loginFailures (loginFailureKey key) none })

/-! ## The count -/

/-- How many failures count against a key. -/
def failures (redis : Redis) (key : LoginAttemptKey) : Nat :=
  (redis.failureCount (loginFailureKey key)).getD 0

theorem allowLoginAttempt_true {redis : Redis} {key : LoginAttemptKey} {maxFailures : Nat}
    (hallow : redis.allowLoginAttempt key maxFailures = .ok true) :
    redis.failures key < maxFailures := by
  rw [allowLoginAttempt] at hallow
  split at hallow
  · cases hallow
  · split_ifs at hallow with hzero
    · cases hallow
    · rw [failures]
      cases hcount : redis.failureCount (loginFailureKey key) with
      | none => exact Nat.pos_of_ne_zero hzero
      | some => simpa [hcount] using hallow

theorem failureCount_incrementFailures (redis : Redis) (key other : Bytes) {ttl : Nat}
    (httl : 0 < ttl) :
    (redis.incrementFailures key ttl).failureCount other =
      if other = key then some ((redis.failureCount key).getD 0 + 1)
      else redis.failureCount other := by
  by_cases hsame : other = key
  · subst hsame
    simp [failureCount, incrementFailures, httl]
  · have hentry : (redis.incrementFailures key ttl).loginFailures other =
        redis.loginFailures other := update_of_ne hsame _ _
    rw [if_neg hsame, failureCount, hentry]
    rfl

/-- A failure that is recorded counts, unless the count is at its maximum. -/
theorem failures_recordLoginFailure {redis : Redis} {key : LoginAttemptKey} {ttl : Nat}
    (hkey : validateLoginKey key = .ok ()) (httl : 0 < ttl) :
    (redis.recordLoginFailure key ttl).2.failures key = redis.failures key + 1 ∨
      maxInteger ≤ redis.failures key := by
  by_cases hmax : redis.failures key + 1 > maxInteger
  · exact Or.inr (Nat.le_of_lt_succ hmax)
  · left
    have hrecord : redis.recordLoginFailure key ttl =
        (.ok (), redis.incrementFailures (loginFailureKey key) ttl) := by
      simp only [recordLoginFailure, hkey, if_neg (Nat.ne_of_gt httl)]
      exact if_neg hmax
    rw [hrecord, failures, failureCount_incrementFailures _ _ _ httl, if_pos rfl]
    rfl

/-- Recording a failure takes nothing from any count. -/
theorem failures_le_recordLoginFailure (redis : Redis) (key other : LoginAttemptKey) (ttl : Nat) :
    redis.failures other ≤ (redis.recordLoginFailure key ttl).2.failures other := by
  rw [recordLoginFailure]
  split
  · exact Nat.le_refl _
  · split_ifs with hzero hmax
    · exact Nat.le_refl _
    · exact Nat.le_refl _
    · rw [failures, failures, failureCount_incrementFailures _ _ _ (Nat.pos_of_ne_zero hzero)]
      split_ifs with hsame
      · rw [hsame]
        exact Nat.le_succ _
      · exact Nat.le_refl _

/-! ## What stays -/

section Stays

variable (redis : Redis) (other : LoginAttemptKey)

theorem failures_setUserOnline (session : OnlineSession) (ttl : Nat) :
    (redis.setUserOnline session ttl).2.failures other = redis.failures other := by
  simp only [setUserOnline]
  split
  · rfl
  · split
    · rfl
    · rfl

theorem failures_refreshUserOnline (userId : UInt64) (ttl : Nat) :
    (redis.refreshUserOnline userId ttl).2.failures other = redis.failures other := by
  rw [refreshUserOnline]
  split
  · rfl
  · split
    · rfl
    · split
      · rfl
      · rfl

theorem failures_setUserOffline (userId : UInt64) :
    (redis.setUserOffline userId).2.failures other = redis.failures other := by
  rw [setUserOffline]
  split
  · rfl
  · rfl

theorem failures_incrUnread (key : UnreadKey) (delta : UInt64) :
    (redis.incrUnread key delta).2.failures other = redis.failures other := by
  rw [incrUnread]
  split
  · rfl
  · split_ifs
    · rfl
    · rfl
    · rfl
    · rfl

theorem failures_clearUnread (key : UnreadKey) :
    (redis.clearUnread key).2.failures other = redis.failures other := by
  rw [clearUnread]
  split
  · rfl
  · rfl

end Stays

theorem onlineRecord_recordLoginFailure (redis : Redis) (key : LoginAttemptKey) (ttl : Nat)
    (other : UInt64) :
    (redis.recordLoginFailure key ttl).2.onlineRecord other = redis.onlineRecord other := by
  rw [recordLoginFailure]
  split
  · rfl
  · split
    · rfl
    · split
      · rfl
      · rfl

theorem onlineRecord_clearLoginFailure (redis : Redis) (key : LoginAttemptKey) (other : UInt64) :
    (redis.clearLoginFailure key).2.onlineRecord other = redis.onlineRecord other := by
  rw [clearLoginFailure]
  split
  · rfl
  · rfl

end Redis

end LiteIM
