/-
# Redis keys

The caches share one Redis server, and with it one space of keys. Each cache spells its keys
with a tag of its own in front. Within a key, numbers are decimal and end at a colon, and free
text has its length in front of it, so a user name that looks like a key or a length is never
taken for one: the keys of the tables in `Redis` are distinct as byte strings, too.
-/

import LiteIM.Cache.LoginRateLimiter
import LiteIM.Cache.OnlineStatusCache

namespace LiteIM

open Foundation OnlineStatusCache LoginRateLimiter List

namespace UnreadCounter

/-- `"unread:user:"`. -/
def kUnreadKeyPrefix : Bytes := literal "unread:user:"

def conversationTypeToken (type : ConversationType) : Bytes := decimal type.toUInt64.toNat

def unreadKey (key : UnreadKey) : Bytes :=
  kUnreadKeyPrefix ++ decimal key.userId.toNat ++ literal ":conversation:" ++
    conversationTypeToken key.conversation.type ++ 0x3A :: decimal key.conversation.id.toNat

end UnreadCounter

open UnreadCounter

/-! ## Numbers and free text inside a key -/

/-- A number ends at the colon after it. -/
theorem decimal_colon_inj {n n' : UInt64} {rest rest' : Bytes}
    (heq : decimal n.toNat ++ 0x3A :: rest = decimal n'.toNat ++ 0x3A :: rest') :
    n = n' ∧ rest = rest' := by
  obtain ⟨hdecimal, hrest⟩ :=
    append_separator_inj (notMem_decimal rfl _) (notMem_decimal rfl _) heq
  exact ⟨UInt64.toNat_inj.mp (decimal_injective hdecimal), hrest⟩

/-- Free text ends where its length says. -/
theorem sized_append_inj {text text' rest rest' : Bytes}
    (heq : sized text ++ rest = sized text' ++ rest') : text = text' ∧ rest = rest' := by
  rw [sized, sized, append_assoc, append_assoc] at heq
  obtain ⟨hdecimal, htext⟩ :=
    append_separator_inj (notMem_decimal rfl _) (notMem_decimal rfl _) heq
  exact append_inj htext (decimal_injective hdecimal)

theorem onlineKey_injective : Function.Injective onlineKey := by
  intro userId userId' heq
  exact UInt64.toNat_inj.mp (decimal_injective (append_cancel_left heq))

theorem unreadKey_injective : Function.Injective unreadKey := by
  intro key key' heq
  simp only [unreadKey, append_assoc] at heq
  obtain ⟨huser, hrest⟩ := decimal_colon_inj (append_cancel_left heq)
  have hconversation : literal "conversation:" ++
        (conversationTypeToken key.conversation.type ++
          0x3A :: decimal key.conversation.id.toNat) =
      literal "conversation:" ++
        (conversationTypeToken key'.conversation.type ++
          0x3A :: decimal key'.conversation.id.toNat) := hrest
  obtain ⟨htype, hid⟩ := decimal_colon_inj (append_cancel_left hconversation)
  have hid' := UInt64.toNat_inj.mp (decimal_injective hid)
  have htype' := ConversationType.toUInt64_injective htype
  ext1
  · exact huser
  · rw [ConversationKey.mk.injEq]
    exact ⟨htype', hid'⟩

theorem loginFailureKey_injective : Function.Injective loginFailureKey := by
  intro key key' heq
  simp only [loginFailureKey, append_assoc] at heq
  obtain ⟨husername, hip⟩ := sized_append_inj (append_cancel_left heq)
  have hsized : sized key.remoteIp ++ [] = sized key'.remoteIp ++ [] := by
    rw [append_nil, append_nil]
    exact tail_eq_of_cons_eq hip
  cases key
  cases key'
  cases husername
  cases (sized_append_inj hsized).1
  rfl

/-! ## The tags -/

theorem head?_loginFailureKey (key : LoginAttemptKey) :
    (loginFailureKey key).head? = some 0x6C := rfl

theorem head?_unreadKey (key : UnreadKey) : (unreadKey key).head? = some 0x75 := rfl

theorem head?_onlineKey (userId : UInt64) : (onlineKey userId).head? = some 0x6F := rfl

/-- No two keys of the caches are the same byte string, within a cache or across caches. -/
theorem redis_keys_distinct :
    Function.Injective loginFailureKey ∧ Function.Injective unreadKey ∧
      Function.Injective onlineKey ∧
      (∀ login unread, loginFailureKey login ≠ unreadKey unread) ∧
      (∀ login userId, loginFailureKey login ≠ onlineKey userId) ∧
      ∀ unread userId, unreadKey unread ≠ onlineKey userId := by
  refine ⟨loginFailureKey_injective, unreadKey_injective, onlineKey_injective, ?_, ?_, ?_⟩
  · intro login unread heq
    have htag := congrArg head? heq
    rw [head?_loginFailureKey, head?_unreadKey] at htag
    exact absurd htag (by decide)
  · intro login userId heq
    have htag := congrArg head? heq
    rw [head?_loginFailureKey, head?_onlineKey] at htag
    exact absurd htag (by decide)
  · intro unread userId heq
    have htag := congrArg head? heq
    rw [head?_unreadKey, head?_onlineKey] at htag
    exact absurd htag (by decide)

end LiteIM
