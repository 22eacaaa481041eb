/-
# Group messages

`GroupService::handleGroupMessage`. The handler reads the members of the group and
splits those other than the sender into online sessions and offline users, saves the
message with offline rows for the latter, increments their unread counters, and
pushes the message to the online sessions one after another. What it does before it
saves is described by the events of that part: each member was looked up, and is in
the one list or the other by what the lookup found.
-/

import LiteIM.Service.MessagePacketBuilder
import LiteIM.Service.Request

namespace LiteIM.GroupService

open Foundation Fallible Service List

def invalidGroupIdStatus : Error := ⟨.invalidArgument, "group id must be positive"⟩
def notGroupMemberStatus : Error := ⟨.invalidArgument, "sender is not a group member"⟩

/-- The checks on `GroupId`. -/
def readGroupId (fields : TlvMap) : Except Error UInt64 := do
  let groupId ← getUint64 fields .groupId
  if groupId = 0 then .error invalidGroupIdStatus else .ok groupId

def containsMember (members : List GroupMemberRecord) (userId : UInt64) : Bool :=
  members.any fun member => member.userId = userId

/-- The loop over the members: the sessions of those online and the ids of those
offline, the sender left out. -/
def splitMembers (senderId : UInt64) (onlineSessions : List SessionRef)
    (offlineUserIds : List UInt64) :
    List GroupMemberRecord → Service (List SessionRef × List UInt64)
  | [] => pure (onlineSessions, offlineUserIds)
  | member :: rest =>
    if member.userId = senderId then splitMembers senderId onlineSessions offlineUserIds rest
    else do
      match ← findReceiver member.userId with
      | some session =>
        splitMembers senderId (onlineSessions ++ [session]) offlineUserIds rest
      | none => splitMembers senderId onlineSessions (offlineUserIds ++ [member.userId]) rest

/-- A failed increment is only logged. -/
def incrementUnread (conversation : ConversationKey) : List UInt64 → Service Unit
  | [] => pure ()
  | userId :: rest => do
      let _ ← (cache (.incrUnread ⟨userId, conversation⟩ 1)).outcome
      incrementUnread conversation rest

/-- The packet that pushes a message to a member. -/
def groupPush (message : MessageRecord) : Except Error Packet :=
  appendMessageFields message { header := { msgType := .groupMessagePush }, body := [] }

/-- The push loop, which returns the first error. -/
def pushToMembers (message : MessageRecord) : List SessionRef → Service Unit
  | [] => pure ()
  | session :: rest => do
      let push ← Fallible.ofExcept (groupPush message)
      sendPacket session push
      pushToMembers message rest

def groupResponse (request : RouterRequest) (message : MessageRecord) : Except Error Packet :=
  appendMessageFields message
    { header := { msgType := .groupMessageResponse, seqId := request.packet.header.seqId },
      body := [] }

/-- The message to save, with the sessions and users it is for. -/
structure Plan where
  message : MessageRecord
  onlineSessions : List SessionRef
  offlineUserIds : List UInt64

/-- The handler up to the point where it saves the message. -/
def prepare (request : RouterRequest) : Service Plan := do
  let senderId ← currentUserId request
  let groupId ← Fallible.ofExcept (readGroupId request.fields)
  let text ← Fallible.ofExcept (readMessageText request.fields)
  let group ← storage (.findGroupById groupId)
  let members ← storage (.getGroupMembers groupId)
  Fallible.ofExcept
    (if containsMember members senderId then .ok () else .error notGroupMemberStatus)
  let (onlineSessions, offlineUserIds) ← splitMembers senderId [] [] members
  pure
    { message :=
        { conversation := { type := .kGroup, id := group.groupId }, senderId,
          receiverId := group.groupId, text },
      onlineSessions, offlineUserIds }

def handleGroupMessage (request : RouterRequest) : Service Packet := do
  let plan ← prepare request
  let saved ← storage
    (.saveMessageWithOfflineRecipients plan.message plan.offlineUserIds)
  incrementUnread saved.conversation plan.offlineUserIds
  pushToMembers saved plan.onlineSessions
  Fallible.ofExcept (groupResponse request saved)

/-! ## The handler before it saves -/

/-- The calls that `prepare` makes: they read. -/
def Reads (event : Event services) : Prop :=
  match event.call with
  | .session (.closed _) => True
  | .session (.getUserBySession _) => True
  | .session (.getSessionByUser _) => True
  | .storage (.findGroupById _) => True
  | .storage (.getGroupMembers _) => True
  | _ => False

/-- The members other than the sender are split by what their lookups answered. -/
structure Split (history : List (Event services)) (senderId : UInt64)
    (members : List GroupMemberRecord) (onlineSessions : List SessionRef)
    (offlineUserIds : List UInt64) : Prop where
  covers : ∀ member ∈ members, member.userId ≠ senderId → member.userId ∈ offlineUserIds ∨
    ∃ session ∈ onlineSessions, Found member.userId history (some session)
  online : ∀ session ∈ onlineSessions, ∃ member ∈ members, member.userId ≠ senderId ∧
    Found member.userId history (some session)
  offline : ∀ userId ∈ offlineUserIds, Found userId history none

section Split

variable {history later : List (Event services)} {senderId : UInt64}
variable {members : List GroupMemberRecord} {onlineSessions : List SessionRef}
variable {offlineUserIds : List UInt64}

theorem Split.mono (hsplit : Split history senderId members onlineSessions offlineUserIds)
    (hbegins : history <+: later) :
    Split later senderId members onlineSessions offlineUserIds where
  covers member hmem hother := (hsplit.covers member hmem hother).imp_right
    fun ⟨session, hsession, hfound⟩ => ⟨session, hsession, hfound.mono hbegins⟩
  online session hsession := by
    obtain ⟨member, hmem, hother, hfound⟩ := hsplit.online session hsession
    exact ⟨member, hmem, hother, hfound.mono hbegins⟩
  offline userId hmem := (hsplit.offline userId hmem).mono hbegins

variable {member : GroupMemberRecord}

theorem Split.skip (hsplit : Split history senderId members onlineSessions offlineUserIds)
    (hself : member.userId = senderId) :
    Split history senderId (members ++ [member]) onlineSessions offlineUserIds where
  covers other hmem hother := by
    rcases mem_append.mp hmem with hold | hnew
    · exact hsplit.covers other hold hother
    · exact (hother (mem_singleton.mp hnew ▸ hself)).elim
  online session hsession := by
    obtain ⟨other, hmem, hother⟩ := hsplit.online session hsession
    exact ⟨other, mem_append_left _ hmem, hother⟩
  offline := hsplit.offline

theorem Split.addOnline (hsplit : Split history senderId members onlineSessions offlineUserIds)
    (hother : member.userId ≠ senderId) {session : SessionRef}
    (hfound : Found member.userId history (some session)) :
    Split history senderId (members ++ [member]) (onlineSessions ++ [session])
      offlineUserIds where
  covers other hmem hne := by
    rcases mem_append.mp hmem with hold | hnew
    · exact (hsplit.covers other hold hne).imp_right fun ⟨known, hknown, hseen⟩ =>
        ⟨known, mem_append_left _ hknown, hseen⟩
    · rw [mem_singleton.mp hnew]
      exact Or.inr ⟨session, by simp, hfound⟩
  online known hknown := by
    rcases mem_append.mp hknown with hold | hnew
    · obtain ⟨other, hmem, hseen⟩ := hsplit.online known hold
      exact ⟨other, mem_append_left _ hmem, hseen⟩
    · rw [mem_singleton.mp hnew]
      exact ⟨member, by simp, hother, hfound⟩
  offline := hsplit.offline

theorem Split.addOffline (hsplit : Split history senderId members onlineSessions offlineUserIds)
    (hfound : Found member.userId history none) :
    Split history senderId (members ++ [member]) onlineSessions
      (offlineUserIds ++ [member.userId]) where
  covers other hmem hne := by
    rcases mem_append.mp hmem with hold | hnew
    · exact (hsplit.covers other hold hne).imp_left fun hknown => mem_append_left _ hknown
    · rw [mem_singleton.mp hnew]
      exact Or.inl (by simp)
  online session hsession := by
    obtain ⟨other, hmem, hseen⟩ := hsplit.online session hsession
    exact ⟨other, mem_append_left _ hmem, hseen⟩
  offline userId hmem := by
    rcases mem_append.mp hmem with hold | hnew
    · exact hsplit.offline userId hold
    · rw [mem_singleton.mp hnew]
      exact hfound

/-- The loop extends a split by the members it goes through. -/
theorem splitMembers_yields {rest : List GroupMemberRecord}
    (hsplit : Split history senderId members onlineSessions offlineUserIds) :
    Yields (fun _ => Reads)
      (fun later result => Split later senderId (members ++ rest) result.1 result.2) history
      (splitMembers senderId onlineSessions offlineUserIds rest) := by
  induction rest generalizing history members onlineSessions offlineUserIds with
  | nil => simpa [splitMembers] using hsplit
  | cons member rest ih =>
    rw [show members ++ member :: rest = (members ++ [member]) ++ rest by simp]
    by_cases hself : member.userId = senderId
    · rw [splitMembers, if_pos hself]
      exact ih (hsplit.skip hself)
    · rw [splitMembers, if_neg hself]
      apply yields_bind _ (findReceiver_yields member.userId fun _ _ => trivial)
      intro later receiver hbegins hfound
      cases receiver with
      | some => exact ih ((hsplit.mono hbegins).addOnline hself hfound)
      | none => exact ih ((hsplit.mono hbegins).addOffline hfound)

end Split

/-- What is known of a plan when `prepare` returns it. -/
structure Planned (request : RouterRequest) (history : List (Event services)) (groupId : UInt64)
    (members : List GroupMemberRecord) (plan : Plan) : Prop where
  sender : ∃ session, request.session = some session ∧
    ⟨.session (.getUserBySession session.id), .ok plan.message.senderId⟩ ∈ history
  listed : ⟨.storage (.getGroupMembers groupId), .ok members⟩ ∈ history
  text : readMessageText request.fields = .ok plan.message.text
  clientMsgId : plan.message.clientMsgId = []
  conversation : plan.message.conversation.type = .kGroup
  split : Split history plan.message.senderId members plan.onlineSessions plan.offlineUserIds

variable {request : RouterRequest}

theorem Planned.mono {history later : List (Event services)} {groupId : UInt64}
    {members : List GroupMemberRecord} {plan : Plan}
    (hplanned : Planned request history groupId members plan) (hbegins : history <+: later) :
    Planned request later groupId members plan := by
  obtain ⟨session, hsession, hmem⟩ := hplanned.sender
  exact { hplanned with
    sender := ⟨session, hsession, hbegins.subset hmem⟩
    listed := hbegins.subset hplanned.listed
    split := hplanned.split.mono hbegins }

theorem prepare_yields (request : RouterRequest) :
    Yields (fun _ => Reads)
      (fun history plan => ∃ groupId members, Planned request history groupId members plan) []
      (prepare request) := by
  apply yields_bind _
    (currentUserId_yields request (fun _ _ _ => trivial) fun _ _ _ => trivial)
  rintro history senderId - ⟨session, hsession, hsender⟩
  apply yields_ofExcept_bind
  intro groupId _
  apply yields_ofExcept_bind
  intro text htext
  apply yields_bind (fun _ _ => True)
  · exact fun reply => ⟨trivial, fun _ _ => trivial⟩
  intro afterGroup group hgroup _
  apply yields_bind (fun (after : List (Event services)) members =>
    ⟨.storage (.getGroupMembers groupId), .ok members⟩ ∈ after)
  · intro reply
    refine ⟨trivial, fun members hmembers => ?_⟩
    simp [hmembers]
  intro afterMembers members hmembers hlisted
  apply yields_ofExcept_bind
  intro _ _
  have hnone : Split afterMembers senderId [] [] [] := ⟨by simp, by simp, by simp⟩
  apply yields_bind _ (splitMembers_yields hnone)
  intro last result hlast hsplit
  have hbegins := (hgroup.trans hmembers).trans hlast
  rw [yields_pure]
  exact ⟨groupId, members, ⟨session, hsession, hbegins.subset hsender⟩, hlast.subset hlisted,
    htext, rfl, rfl, hsplit⟩

/-! ## The whole handler -/

/-- What entitles the handler to each of its writes. -/
def Justified (request : RouterRequest) (history : List (Event services)) :
    Event services → Prop
  | ⟨.storage (.saveMessageWithOfflineRecipients message offlineUserIds), _⟩ =>
    ∃ groupId members plan, Planned request history groupId members plan ∧
      plan.message = message ∧ plan.offlineUserIds = offlineUserIds
  | ⟨.cache (.incrUnread _ _), _⟩ => True
  | ⟨.session (.sendPacket _ _), _⟩ => True
  | event => Reads event

theorem justified_of_reads (request : RouterRequest) (history : List (Event services))
    {event : Event services} (hreads : Reads event) : Justified request history event := by
  obtain ⟨call, reply⟩ := event
  cases call with
  | session call | storage call => cases call <;> trivial
  | cache => exact hreads.elim

theorem incrementUnread_yields {history : List (Event services)} (conversation : ConversationKey)
    (userIds : List UInt64) : Yields (Justified request) (fun _ _ => True) history
      (incrementUnread conversation userIds) := by
  induction userIds generalizing history with
  | nil => exact yields_pure.mpr trivial
  | cons userId rest ih =>
    apply yields_outcome_bind (fun _ _ => True)
    · exact fun reply => ⟨trivial, trivial⟩
    · exact fun later result _ _ => ih

theorem pushToMembers_yields {history : List (Event services)} (message : MessageRecord)
    (sessions : List SessionRef) : Yields (Justified request) (fun _ _ => True) history
      (pushToMembers message sessions) := by
  induction sessions generalizing history with
  | nil => exact yields_pure.mpr trivial
  | cons session rest ih =>
    apply yields_ofExcept_bind
    intro push _
    apply yields_bind (fun _ _ => True)
    · exact fun reply => ⟨trivial, fun _ _ => trivial⟩
    · exact fun later result _ _ => ih

theorem handleGroupMessage_yields (request : RouterRequest) :
    Yields (Justified request) (fun _ _ => True) [] (handleGroupMessage request) := by
  apply yields_bind _
    ((prepare_yields request).justify fun history event => justified_of_reads request history)
  rintro history plan - ⟨groupId, members, hplanned⟩
  apply yields_bind (fun _ _ => True)
  · exact fun reply => ⟨⟨groupId, members, plan, hplanned, rfl, rfl⟩, fun _ _ => trivial⟩
  intro afterSave saved _ _
  apply yields_bind _ (incrementUnread_yields _ _)
  intro afterIncrements _ _ _
  apply yields_bind _ (pushToMembers_yields _ _)
  intro afterPushes _ _ _
  exact yields_ofExcept.mpr fun _ _ => trivial

/-! ## Creating, joining and listing groups -/

def kMaxGroupNameBytes : Nat := 128

def emptyGroupNameStatus : Error := ⟨.invalidArgument, "group name must not be empty"⟩

/-- The checks on `GroupName`. -/
def readGroupName (fields : TlvMap) : Except Error Bytes := do
  let groupName ← getString fields .groupName
  if groupName = [] then .error emptyGroupNameStatus
  else do
    validateMaxBytes groupName kMaxGroupNameBytes "group name"
    .ok groupName

def appendGroupFields (group : GroupRecord) (body : Bytes) : Except Error Bytes := do
  let body ← appendUint64 .groupId group.groupId body
  appendString .groupName group.groupName body

/-- The response with groups, which is one group except for a list. -/
def groupsResponse (msgType : MessageType) (request : RouterRequest)
    (groups : List GroupRecord) : Except Error Packet := do
  let body ← groups.foldlM (fun body group => appendGroupFields group body) []
  .ok { header := { msgType, seqId := request.packet.header.seqId }, body }

def handleCreateGroup (request : RouterRequest) : Service Packet := do
  let ownerId ← currentUserId request
  let groupName ← Fallible.ofExcept (readGroupName request.fields)
  let createdGroup ← storage (.createGroup { ownerId, groupName })
  Fallible.ofExcept (groupsResponse .createGroupResponse request [createdGroup])

def handleJoinGroup (request : RouterRequest) : Service Packet := do
  let userId ← currentUserId request
  let groupId ← Fallible.ofExcept (readGroupId request.fields)
  let group ← storage (.findGroupById groupId)
  storage (.addGroupMember groupId userId)
  Fallible.ofExcept (groupsResponse .joinGroupResponse request [group])

def handleListGroups (request : RouterRequest) : Service Packet := do
  let userId ← currentUserId request
  let groups ← storage (.getGroupsForUser userId)
  Fallible.ofExcept (groupsResponse .listGroupsResponse request groups)

/-- What entitles these handlers to each of their calls. -/
def ListJustified (request : RouterRequest) (history : List (Event services)) :
    Event services → Prop
  | ⟨.session (.closed _), _⟩ => True
  | ⟨.session (.getUserBySession _), _⟩ => True
  | ⟨.storage (.findGroupById _), _⟩ => True
  | ⟨.storage (.getGroupsForUser userId), _⟩ => request.ActsFor history userId
  | ⟨.storage (.createGroup created), _⟩ => request.ActsFor history created.ownerId ∧
      readGroupName request.fields = .ok created.groupName
  | ⟨.storage (.addGroupMember _ userId), _⟩ => request.ActsFor history userId
  | _ => False

theorem readGroupName_length_le {fields : TlvMap} {groupName : Bytes}
    (hread : readGroupName fields = .ok groupName) : groupName.length ≤ kMaxGroupNameBytes := by
  obtain ⟨value, -, hread⟩ := bind_eq_ok_iff.mp hread
  split_ifs at hread with hempty
  obtain ⟨_, hlength, hread⟩ := bind_eq_ok_iff.mp hread
  rw [← Except.ok.inj hread]
  exact validateMaxBytes_eq_ok_iff.mp hlength

section Lists

variable {history : List (Event services)}

theorem actsFor_yields (request : RouterRequest) :
    Yields (ListJustified request) request.ActsFor history (currentUserId request) :=
  currentUserId_yields request (fun _ _ _ => trivial) fun _ _ _ => trivial

theorem handleCreateGroup_yields (request : RouterRequest) :
    Yields (ListJustified request) (fun _ _ => True) [] (handleCreateGroup request) := by
  apply yields_bind _ (actsFor_yields request)
  intro afterUser ownerId _ hacts
  apply yields_ofExcept_bind
  intro groupName hname
  apply yields_bind (fun _ _ => True)
  · exact fun reply => ⟨⟨hacts, hname⟩, fun _ _ => trivial⟩
  intro afterCreate createdGroup _ _
  exact yields_ofExcept.mpr fun _ _ => trivial

theorem handleJoinGroup_yields (request : RouterRequest) :
    Yields (ListJustified request) (fun _ _ => True) [] (handleJoinGroup request) := by
  apply yields_bind _ (actsFor_yields request)
  intro afterUser userId _ hacts
  apply yields_ofExcept_bind
  intro groupId _
  apply yields_bind (fun _ _ => True)
  · exact fun reply => ⟨trivial, fun _ _ => trivial⟩
  intro afterFind group hfind _
  apply yields_bind (fun _ _ => True)
  · exact fun reply => ⟨hacts.mono hfind, fun _ _ => trivial⟩
  intro afterAdd _ _ _
  exact yields_ofExcept.mpr fun _ _ => trivial

/-- The groups that a list request read are its response. -/
def Listed (request : RouterRequest) (history : List (Event services)) (response : Packet) :
    Prop :=
  ∃ userId groups, ⟨.storage (.getGroupsForUser userId), .ok groups⟩ ∈ history ∧
    groupsResponse .listGroupsResponse request groups = .ok response

theorem handleListGroups_yields (request : RouterRequest) :
    Yields (ListJustified request) (Listed request) [] (handleListGroups request) := by
  apply yields_bind _ (actsFor_yields request)
  intro afterUser userId _ hacts
  apply yields_bind _ (storage_yields fun reply => hacts)
  rintro _ groups - rfl
  refine yields_ofExcept.mpr ?_
  intro response hresponse
  exact ⟨userId, groups, mem_append_right _ (mem_singleton_self _), hresponse⟩

end Lists

end LiteIM.GroupService
