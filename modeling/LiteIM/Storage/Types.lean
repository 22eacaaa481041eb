/-
# Storage records

The records that storage hands to the services. Texts are byte strings, as
`std::string` is. The two conversation types, the four delivery statuses and the three
statuses of a friend request are the only values the services and the tables use.
-/

import LiteIM.Foundation.BigEndian

namespace LiteIM

open Foundation

inductive ConversationType where
  | kPrivate
  | kGroup
  deriving DecidableEq, Repr

/-- The enumerator's value. -/
def ConversationType.toUInt64 : ConversationType → UInt64
  | .kPrivate => 1
  | .kGroup => 2

theorem ConversationType.toUInt64_injective : Function.Injective ConversationType.toUInt64 := by
  intro type other heq
  cases type <;> cases other <;> first | rfl | exact absurd heq (by decide)

inductive DeliveryStatus where
  | kPending
  | kPushed
  | kDelivered
  | kReadReserved
  deriving DecidableEq, Repr

/-- The enumerator's value, by which the tables compare statuses. -/
def DeliveryStatus.toNat : DeliveryStatus → Nat
  | .kPending => 0
  | .kPushed => 1
  | .kDelivered => 2
  | .kReadReserved => 3

def DeliveryStatus.toUInt64 (status : DeliveryStatus) : UInt64 := UInt64.ofNat status.toNat

inductive FriendRequestStatus where
  | kPending
  | kAccepted
  | kRejected
  deriving DecidableEq, Repr

/-- The enumerator's value. -/
def FriendRequestStatus.toUInt64 : FriendRequestStatus → UInt64
  | .kPending => 0
  | .kAccepted => 1
  | .kRejected => 2

structure ConversationKey where
  type : ConversationType := .kPrivate
  id : UInt64 := 0
  deriving DecidableEq, Repr

structure UserRecord where
  userId : UInt64 := 0
  username : Bytes := []
  passwordHash : Bytes := []
  passwordSalt : Bytes := []
  nickname : Bytes := []
  createdAtMs : Int := 0
  deriving DecidableEq, Repr

structure CreateUserRequest where
  username : Bytes
  passwordHash : Bytes
  passwordSalt : Bytes
  nickname : Bytes
  deriving DecidableEq, Repr

structure UserProfileRecord where
  userId : UInt64 := 0
  username : Bytes := []
  nickname : Bytes := []
  createdAtMs : Int := 0
  deriving DecidableEq, Repr

structure FriendRequestRecord where
  requesterId : UInt64 := 0
  targetUserId : UInt64 := 0
  status : FriendRequestStatus := .kPending
  createdAtMs : Int := 0
  updatedAtMs : Int := 0
  deriving DecidableEq, Repr

structure CreateGroupRequest where
  ownerId : UInt64
  groupName : Bytes
  deriving DecidableEq, Repr

structure GroupRecord where
  groupId : UInt64 := 0
  ownerId : UInt64 := 0
  groupName : Bytes := []
  createdAtMs : Int := 0
  deriving DecidableEq, Repr

structure GroupMemberRecord where
  userId : UInt64 := 0
  username : Bytes := []
  nickname : Bytes := []
  joinedAtMs : Int := 0
  deriving DecidableEq, Repr

structure MessageRecord where
  messageId : UInt64 := 0
  conversation : ConversationKey := {}
  senderId : UInt64 := 0
  receiverId : UInt64 := 0
  text : Bytes := []
  createdAtMs : Int := 0
  clientMsgId : Bytes := []
  deriving DecidableEq, Repr

structure OfflineMessageRecord where
  offlineMessageId : Nat := 0
  userId : UInt64 := 0
  message : MessageRecord := {}
  createdAtMs : Int := 0
  deriving DecidableEq, Repr

structure HistoryQuery where
  conversation : ConversationKey := {}
  /-- 0 asks for the newest messages. -/
  beforeMessageId : UInt64 := 0
  limit : Nat := 50
  deriving DecidableEq, Repr

end LiteIM
