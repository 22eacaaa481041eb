/-
# Friends

`FriendService`: asking another user to be a friend, accepting or rejecting what one was
asked, and listing one's friends. Every entry of a response says whether the user is online,
as the cache answers; a cache that does not answer counts as offline.

A request is accepted and rejected by the user it was sent to: `Justified` says that the user
a write is made for is the one that the session of the request was found bound to.
-/

import LiteIM.Service.Request

namespace LiteIM.FriendService

open Foundation Fallible Service List

def invalidTargetUserStatus : Error := ⟨.invalidArgument, "target user id must be positive"⟩

def toProfile (user : UserRecord) : UserProfileRecord where
  userId := user.userId
  username := user.username
  nickname := user.nickname
  createdAtMs := user.createdAtMs

/-- The checks on `TargetUserId`. -/
def readTargetUserId (fields : TlvMap) (userId : UInt64) : Except Error UInt64 := do
  let targetUserId ← getUint64 fields .targetUserId
  if targetUserId = 0 ∨ targetUserId = userId then .error invalidTargetUserStatus
  else .ok targetUserId

/-- What `appendFriendFields` asks the cache. -/
def onlineStatus (userId : UInt64) : Service UInt64 := do
  match ← (cache (.isUserOnline userId)).outcome with
  | .ok true => pure 1
  | .ok false => pure 0
  | .error _ => pure 0

def appendFriendFields (profile : UserProfileRecord) (body : Bytes) : Service Bytes := do
  let body ← Fallible.ofExcept (appendUint64 .friendId profile.userId body)
  let body ← Fallible.ofExcept (appendString .username profile.username body)
  let body ← Fallible.ofExcept (appendString .nickname profile.nickname body)
  let online ← onlineStatus profile.userId
  Fallible.ofExcept (appendUint64 .onlineStatus online body)

def appendFriendRequestStatus (status : FriendRequestStatus) (body : Bytes) :
    Except Error Bytes :=
  appendUint64 .friendRequestStatus status.toUInt64 body

/-- The response of the three handlers that concern a friend request. -/
def requestResponse (msgType : MessageType) (request : RouterRequest) (user : UserRecord)
    (status : FriendRequestStatus) : Service Packet := do
  let body ← appendFriendFields (toProfile user) []
  let body ← Fallible.ofExcept (appendFriendRequestStatus status body)
  pure { header := { msgType, seqId := request.packet.header.seqId }, body }

def handleAddFriend (request : RouterRequest) : Service Packet := do
  let userId ← currentUserId request
  let targetUserId ← Fallible.ofExcept (readTargetUserId request.fields userId)
  let targetUser ← storage (.findUserById targetUserId)
  let friendRequest ← storage (.createFriendRequest userId targetUserId)
  requestResponse .addFriendResponse request targetUser friendRequest.status

/-- Accepting and rejecting differ in what is stored and in the response. -/
def settle (store : UInt64 → UInt64 → Service Unit) (msgType : MessageType)
    (status : FriendRequestStatus) (request : RouterRequest) : Service Packet := do
  let userId ← currentUserId request
  let requesterId ← Fallible.ofExcept (readTargetUserId request.fields userId)
  let requester ← storage (.findUserById requesterId)
  store requesterId userId
  requestResponse msgType request requester status

def handleAcceptFriend : RouterRequest → Service Packet :=
  settle (fun requesterId userId => storage (.acceptFriendRequest requesterId userId))
    .acceptFriendResponse .kAccepted

def handleRejectFriend : RouterRequest → Service Packet :=
  settle (fun requesterId userId => storage (.rejectFriendRequest requesterId userId))
    .rejectFriendResponse .kRejected

/-- The loop of `handleListFriends`. -/
def appendFriends (friends : List UserProfileRecord) (body : Bytes) : Service Bytes :=
  match friends with
  | [] => pure body
  | profile :: friends => do
      let body ← appendFriendFields profile body
      appendFriends friends body

def handleListFriends (request : RouterRequest) : Service Packet := do
  let userId ← currentUserId request
  let friends ← storage (.getFriends userId)
  let body ← appendFriends friends []
  pure { header := { msgType := .listFriendsResponse, seqId := request.packet.header.seqId }, body }

/-! ## The calls, whatever they are answered -/

/-- What entitles a handler to each of its calls. -/
def Justified (request : RouterRequest) (history : List (Event services)) : Event services → Prop
  | ⟨.session (.closed _), _⟩ => True
  | ⟨.session (.getUserBySession _), _⟩ => True
  | ⟨.cache (.isUserOnline _), _⟩ => True
  | ⟨.storage (.findUserById _), _⟩ => True
  | ⟨.storage (.getFriends userId), _⟩ => request.ActsFor history userId
  | ⟨.storage (.createFriendRequest requesterId _), _⟩ => request.ActsFor history requesterId
  | ⟨.storage (.acceptFriendRequest _ targetUserId), _⟩ => request.ActsFor history targetUserId
  | ⟨.storage (.rejectFriendRequest _ targetUserId), _⟩ => request.ActsFor history targetUserId
  | _ => False

/-- The fields of a friend. -/
def friendFields (profile : UserProfileRecord) (online : UInt64) : List (TlvType × Bytes) :=
  [(.friendId, appendUint64BE [] profile.userId), (.username, profile.username),
    (.nickname, profile.nickname), (.onlineStatus, appendUint64BE [] online)]

section Follows

variable {request : RouterRequest} {history : List (Event services)}

theorem actsFor_yields (request : RouterRequest) :
    Yields (Justified request) request.ActsFor history (currentUserId request) :=
  currentUserId_yields request (fun _ _ _ => trivial) fun _ _ _ => trivial

theorem onlineStatus_yields (userId : UInt64) :
    Yields (Justified request) (fun _ _ => True) history (onlineStatus userId) := by
  apply yields_outcome_bind (fun _ _ => True)
  · exact fun reply => ⟨trivial, trivial⟩
  intro later result _ _
  rcases result with status | (_ | _)
  · exact yields_pure.mpr trivial
  · exact yields_pure.mpr trivial
  · exact yields_pure.mpr trivial

/-- An entry is appended with some status. -/
theorem appendFriendFields_yields (profile : UserProfileRecord) (body : Bytes) :
    Yields (Justified request)
      (fun _ filled => ∃ online, filled = body ++ encodeFields (friendFields profile online))
      history (appendFriendFields profile body) := by
  apply yields_ofExcept_bind
  intro withId hid
  apply yields_ofExcept_bind
  intro withUsername husername
  apply yields_ofExcept_bind
  intro withNickname hnickname
  apply yields_bind _ (onlineStatus_yields profile.userId)
  intro later online _ _
  refine yields_ofExcept.mpr ?_
  intro filled hfilled
  obtain ⟨-, rfl⟩ := appendValue_eq_ok_iff.mp hid
  obtain ⟨-, rfl⟩ := appendValue_eq_ok_iff.mp husername
  obtain ⟨-, rfl⟩ := appendValue_eq_ok_iff.mp hnickname
  obtain ⟨-, rfl⟩ := appendValue_eq_ok_iff.mp hfilled
  exact ⟨online, by simp [friendFields, encodeFields]⟩

theorem requestResponse_yields (msgType : MessageType) (user : UserRecord)
    (status : FriendRequestStatus) :
    Yields (Justified request) (fun _ _ => True) history
      (requestResponse msgType request user status) := by
  apply yields_bind _ (appendFriendFields_yields (toProfile user) [])
  intro later body _ _
  apply yields_ofExcept_bind
  intro filled _
  exact yields_pure.mpr trivial

theorem handleAddFriend_yields (request : RouterRequest) :
    Yields (Justified request) (fun _ _ => True) [] (handleAddFriend request) := by
  apply yields_bind _ (actsFor_yields request)
  intro afterUser userId _ hacts
  apply yields_ofExcept_bind
  intro targetUserId _
  apply yields_bind (fun _ _ => True)
  · exact fun reply => ⟨trivial, fun _ _ => trivial⟩
  intro afterFind targetUser hfind _
  apply yields_bind (fun _ _ => True)
  · exact fun reply => ⟨hacts.mono hfind, fun _ _ => trivial⟩
  intro afterCreate friendRequest _ _
  exact requestResponse_yields _ _ _

/-- A request is settled by its target, if `store` makes justified calls for it. -/
theorem settle_yields {store : UInt64 → UInt64 → Service Unit}
    (hstore : ∀ history requesterId userId, request.ActsFor history userId →
      Yields (Justified request) (fun _ _ => True) history (store requesterId userId))
    (msgType : MessageType) (status : FriendRequestStatus) :
    Yields (Justified request) (fun _ _ => True) []
      (settle store msgType status request) := by
  apply yields_bind _ (actsFor_yields request)
  intro afterUser userId _ hacts
  apply yields_ofExcept_bind
  intro requesterId _
  apply yields_bind (fun _ _ => True)
  · exact fun reply => ⟨trivial, fun _ _ => trivial⟩
  intro afterFind requester hfind _
  apply yields_bind _ (hstore afterFind requesterId userId (hacts.mono hfind))
  intro afterStore _ _ _
  exact requestResponse_yields _ _ _

theorem handleAcceptFriend_yields (request : RouterRequest) :
    Yields (Justified request) (fun _ _ => True) [] (handleAcceptFriend request) := by
  apply settle_yields
  intro history requesterId userId hacts reply
  exact ⟨hacts, fun _ _ => trivial⟩

theorem handleRejectFriend_yields (request : RouterRequest) :
    Yields (Justified request) (fun _ _ => True) [] (handleRejectFriend request) := by
  apply settle_yields
  intro history requesterId userId hacts reply
  exact ⟨hacts, fun _ _ => trivial⟩

/-- The entries follow each other in the order of the friends. -/
theorem appendFriends_yields (friends : List UserProfileRecord) (body : Bytes) :
    Yields (Justified request)
      (fun _ filled => ∃ entries : List (UserProfileRecord × UInt64),
        entries.map Prod.fst = friends ∧
        filled = body ++ encodeFields (entries.flatMap fun entry => friendFields entry.1 entry.2))
      history (appendFriends friends body) := by
  induction friends generalizing history body with
  | nil =>
    rw [appendFriends]
    exact yields_pure.mpr ⟨[], rfl, by simp⟩
  | cons profile friends ih =>
    rw [appendFriends]
    apply yields_bind _ (appendFriendFields_yields profile body)
    rintro later _ - ⟨online, rfl⟩
    apply (ih _).mono
    rintro after _ - ⟨entries, rfl, rfl⟩
    refine ⟨(profile, online) :: entries, rfl, ?_⟩
    rw [flatMap_cons, encodeFields_append, append_assoc]

/-- The friends that a list request read, with some status for each, are its response. -/
def Listed (request : RouterRequest) (history : List (Event services)) (response : Packet) :
    Prop :=
  ∃ userId, ∃ entries : List (UserProfileRecord × UInt64),
    ⟨.storage (.getFriends userId), .ok (entries.map Prod.fst)⟩ ∈ history ∧
    response =
      { header :=
          { msgType := .listFriendsResponse, seqId := request.packet.header.seqId },
        body := encodeFields (entries.flatMap fun entry => friendFields entry.1 entry.2) }

theorem handleListFriends_yields (request : RouterRequest) :
    Yields (Justified request) (Listed request) [] (handleListFriends request) := by
  apply yields_bind _ (actsFor_yields request)
  intro afterUser userId _ hacts
  apply yields_bind _ (storage_yields fun reply => hacts)
  rintro _ friends - rfl
  apply yields_bind _ (appendFriends_yields friends [])
  rintro later _ hlater ⟨entries, rfl, rfl⟩
  refine yields_pure.mpr ⟨userId, entries, hlater.subset ?_, rfl⟩
  exact mem_append_right _ (mem_singleton_self _)

end Follows

end LiteIM.FriendService
