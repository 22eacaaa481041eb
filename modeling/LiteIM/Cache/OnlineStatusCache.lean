/-
# The text of an online record

`OnlineStatusCache` keeps the session of an online user as one Redis value: a version, three
numbers with a colon after each, and the server id with its length in front. The server id is
free text. It comes last and is taken whole, so the colons and digits in it are never looked
at; whether a value parses is decided by the numbers and the length alone.
-/

import LiteIM.Cache.Redis
import LiteIM.Foundation.Decimal

namespace LiteIM

open Foundation List

namespace OnlineStatusCache

/-- `"online:user:"`. -/
def kOnlineKeyPrefix : Bytes := literal "online:user:"

/-- `"v1:"`. -/
def kValuePrefix : Bytes := literal "v1:"

def onlineKey (userId : UInt64) : Bytes := kOnlineKeyPrefix ++ decimal userId.toNat

def parseStatus {α : Type} (field : String) : Except Error α :=
  Status.error .parseError ("invalid online session " ++ field)

def parseUint64 (input : Bytes) (field : String) : Except Error UInt64 :=
  match stoull input with
  | none => parseStatus field
  | some (number, parsed) => if parsed ≠ input.length then parseStatus field else .ok number

def parseInt64 (input : Bytes) (field : String) : Except Error Int :=
  match stoll input with
  | none => parseStatus field
  | some (number, parsed) => if parsed ≠ input.length then parseStatus field else .ok number

/-- The token before the next colon and what follows it. The offset into the value is kept as
the text from there on. -/
def readToken (value : Bytes) (field : String) : Except Error (Bytes × Bytes) :=
  match cutAt 0x3A value with
  | none => parseStatus field
  | some parts => .ok parts

def serializeSession (session : OnlineSession) : Bytes :=
  kValuePrefix ++ (decimal session.userId.toNat ++ 0x3A :: (decimal session.sessionId.toNat ++
    0x3A :: (decimalInt session.lastActiveTimeMs ++ 0x3A :: (decimal session.serverId.length ++
      0x3A :: session.serverId))))

def parseSessionValue (value : Bytes) : Except Error OnlineSession :=
  if ¬kValuePrefix.isPrefixOf value then parseStatus "version"
  else do
    let (token, rest) ← readToken (value.drop kValuePrefix.length) "user_id"
    let userId ← parseUint64 token "user_id"
    let (token, rest) ← readToken rest "session_id"
    let sessionId ← parseUint64 token "session_id"
    let (token, rest) ← readToken rest "last_active_time_ms"
    let lastActiveTimeMs ← parseInt64 token "last_active_time_ms"
    let (token, rest) ← readToken rest "server_id length"
    let serverIdSize ← parseUint64 token "server_id length"
    if serverIdSize.toNat > rest.length then parseStatus "server_id length"
    else if rest.length ≠ serverIdSize.toNat then parseStatus "server_id length"
    else do
      let session : OnlineSession := ⟨userId, sessionId, rest, lastActiveTimeMs⟩
      Redis.validateSession session
      return session

/-! ## Reading back -/

theorem readToken_append {token : Bytes} (htoken : 0x3A ∉ token) (rest : Bytes) (field : String) :
    readToken (token ++ 0x3A :: rest) field = .ok (token, rest) := by
  rw [readToken, cutAt_append htoken]

theorem parseUint64_decimal {n : Nat} (hn : n < 2 ^ 64) (field : String) :
    parseUint64 (decimal n) field = .ok (UInt64.ofNat n) := by
  rw [parseUint64, stoull_decimal hn]
  exact if_neg (not_not_intro rfl)

theorem parseUint64_toNat (n : UInt64) (field : String) :
    parseUint64 (decimal n.toNat) field = .ok n := by
  rw [parseUint64_decimal n.toNat_lt, UInt64.ofNat_toNat]

theorem parseInt64_decimalInt {n : Int} (hlow : -2 ^ 63 ≤ n) (hhigh : n < 2 ^ 63)
    (field : String) : parseInt64 (decimalInt n) field = .ok n := by
  rw [parseInt64, stoll_decimalInt hlow hhigh]
  exact if_neg (not_not_intro rfl)

theorem colon_notMem_decimalInt (n : Int) : 0x3A ∉ decimalInt n := by
  rw [decimalInt]
  split_ifs with hnegative
  · rw [mem_cons, not_or]
    exact ⟨by decide, notMem_decimal rfl _⟩
  · exact notMem_decimal rfl _

theorem validateSession_ok {session : OnlineSession} (huser : session.userId ≠ 0)
    (hsession : session.sessionId ≠ 0) (hserver : session.serverId ≠ []) :
    Redis.validateSession session = .ok () := by
  simp only [Redis.validateSession, Redis.validateUserId, if_neg huser, if_neg hsession,
    if_neg hserver]
  rfl

/-- A valid session reads back as it was written, whatever bytes its server id has. The size of
a string is a 64-bit number. -/
theorem parseSessionValue_serializeSession {session : OnlineSession} (huser : session.userId ≠ 0)
    (hsession : session.sessionId ≠ 0) (hlow : -2 ^ 63 ≤ session.lastActiveTimeMs)
    (hhigh : session.lastActiveTimeMs < 2 ^ 63) (hserver : session.serverId ≠ [])
    (hsize : session.serverId.length < 2 ^ 64) :
    parseSessionValue (serializeSession session) = .ok session := by
  have hprefix : kValuePrefix.isPrefixOf (serializeSession session) := by
    rw [List.isPrefixOf_iff_prefix, serializeSession]
    exact prefix_append _ _
  have hdrop : (serializeSession session).drop kValuePrefix.length =
      decimal session.userId.toNat ++ 0x3A :: (decimal session.sessionId.toNat ++
        0x3A :: (decimalInt session.lastActiveTimeMs ++ 0x3A ::
          (decimal session.serverId.length ++ 0x3A :: session.serverId))) := by
    rw [serializeSession, drop_left]
  have hcolon (n : Nat) : 0x3A ∉ decimal n := notMem_decimal rfl n
  have hlength : (UInt64.ofNat session.serverId.length).toNat = session.serverId.length :=
    UInt64.toNat_ofNat_of_lt' hsize
  rw [parseSessionValue, if_neg (not_not_intro hprefix), hdrop]
  simp only [readToken_append (hcolon _), readToken_append (colon_notMem_decimalInt _),
    parseUint64_toNat, parseInt64_decimalInt hlow hhigh, parseUint64_decimal hsize, hlength,
    bind, Except.bind, validateSession_ok huser hsession hserver, pure, Except.pure,
    if_neg (Nat.lt_irrefl _), if_neg (not_not_intro rfl)]

theorem parseSessionValue_serializeSession_colons :
    parseSessionValue (serializeSession ⟨7, 18446744073709551615, literal "v1:7:9:", -2 ^ 63⟩) =
      .ok ⟨7, 18446744073709551615, literal "v1:7:9:", -2 ^ 63⟩ :=
  parseSessionValue_serializeSession (by decide) (by decide) (by decide) (by decide)
    (by decide +kernel) (by decide +kernel)

end OnlineStatusCache

end LiteIM
