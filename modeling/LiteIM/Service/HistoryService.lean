/-
# Reading history

`HistoryService::handleHistory`. A request names a conversation, and may carry a cursor
and a limit. Who may read a private conversation is decided from the number of the
conversation alone, who may read that of a group from the members of the group.
-/

import LiteIM.Service.GroupService
import LiteIM.Service.PrivateConversation

namespace LiteIM

open Foundation Fallible ConversationType GroupService

namespace HistoryService

def kHardMaxHistoryLimit : Nat := 50

def invalidConversationTypeStatus : Error := ⟨.invalidArgument, "conversation type is invalid"⟩
def invalidConversationIdStatus : Error := ⟨.invalidArgument, "conversation id must be positive"⟩
def invalidLimitStatus : Error := ⟨.invalidArgument, "history limit must be positive"⟩
def notConversationMemberStatus : Error :=
  ⟨.invalidArgument, "user is not a conversation member"⟩

def toConversationType (raw : UInt64) : Except Error ConversationType :=
  if raw = kPrivate.toUInt64 then .ok .kPrivate
  else if raw = kGroup.toUInt64 then .ok .kGroup
  else .error invalidConversationTypeStatus

end HistoryService

/-- The service with its options, which the constructor checks. -/
structure HistoryService where
  defaultLimit : Nat := 20
  maxLimit : Nat := 50
  default_pos : 0 < defaultLimit := by decide
  default_le : defaultLimit ≤ maxLimit := by decide
  max_le : maxLimit ≤ HistoryService.kHardMaxHistoryLimit := by decide

/-- The default options. -/
instance : Inhabited HistoryService := ⟨{}⟩

namespace HistoryService

/-- The cursor of a request; without one it asks for the newest messages. -/
def requestCursor (fields : TlvMap) : Except Error UInt64 :=
  match fields .messageId with
  | none => .ok 0
  | some _ => getUint64 fields .messageId

def requestLimit (service : HistoryService) (fields : TlvMap) : Except Error Nat :=
  match fields .limit with
  | none => .ok service.defaultLimit
  | some _ => do
      let requestedLimit ← getUint64 fields .limit
      if requestedLimit = 0 then .error invalidLimitStatus
      else if requestedLimit.toNat > service.maxLimit then .ok service.maxLimit
      else .ok requestedLimit.toNat

def buildQuery (service : HistoryService) (request : RouterRequest) :
    Except Error HistoryQuery := do
  let rawType ← getUint64 request.fields .conversationType
  let type ← toConversationType rawType
  let id ← getUint64 request.fields .conversationId
  if id = 0 then .error invalidConversationIdStatus
  else do
    let beforeMessageId ← requestCursor request.fields
    let limit ← service.requestLimit request.fields
    .ok { conversation := { type, id }, beforeMessageId, limit }

def authorizeQuery (userId : UInt64) (query : HistoryQuery) : Service Unit :=
  match query.conversation.type with
  | .kPrivate =>
    if isPrivateConversationMember userId query.conversation.id then pure ()
    else throw notConversationMemberStatus
  | .kGroup => do
      let _ ← Service.storage (.findGroupById query.conversation.id)
      let members ← Service.storage (.getGroupMembers query.conversation.id)
      if containsMember members userId then pure ()
      else throw notConversationMemberStatus

def historyResponse (request : RouterRequest) (messages : List MessageRecord) :
    Except Error Packet :=
  appendMessages messages
    { header := { msgType := .historyResponse, seqId := request.packet.header.seqId },
      body := [] }

def handleHistory (service : HistoryService) (request : RouterRequest) : Service Packet := do
  let userId ← currentUserId request
  let query ← Fallible.ofExcept (service.buildQuery request)
  authorizeQuery userId query
  let messages ← Service.storage (.getHistory query)
  Fallible.ofExcept (historyResponse request messages)

/-! ## The handler, whatever it is answered -/

/-- Why a user may read a conversation. -/
inductive Authorized (history : List (Event services)) (userId : UInt64) :
    ConversationKey → Prop where
  | pair {id : UInt64} (member : isPrivateConversationMember userId id = true) :
      Authorized history userId ⟨.kPrivate, id⟩
  | member {id : UInt64} {members : List GroupMemberRecord}
      (listed : ⟨.storage (.getGroupMembers id), .ok members⟩ ∈ history)
      (contained : containsMember members userId = true) :
      Authorized history userId ⟨.kGroup, id⟩

/-- How a response came about. -/
def Answered (service : HistoryService) (request : RouterRequest)
    (history : List (Event services)) (response : Packet) : Prop :=
  ∃ userId query messages,
    (∃ session, request.session = some session ∧
      ⟨.session (.getUserBySession session.id), .ok userId⟩ ∈ history) ∧
    service.buildQuery request = .ok query ∧
    Authorized history userId query.conversation ∧
    ⟨.storage (.getHistory query), .ok messages⟩ ∈ history ∧
    historyResponse request messages = .ok response

/-- The handler only reads. -/
def Reads (event : Event services) : Prop :=
  match event.call with
  | .session (.closed _) => True
  | .session (.getUserBySession _) => True
  | .storage (.findGroupById _) => True
  | .storage (.getGroupMembers _) => True
  | .storage (.getHistory _) => True
  | _ => False

section Follows

variable {history : List (Event services)}

theorem Authorized.mono {later : List (Event services)} {userId : UInt64}
    {conversation : ConversationKey} (hauthorized : Authorized history userId conversation)
    (hbegins : history <+: later) : Authorized later userId conversation := by
  cases hauthorized with
  | pair member => exact .pair member
  | member listed contained => exact .member (hbegins.subset listed) contained

theorem authorizeQuery_yields (userId : UInt64) (query : HistoryQuery) :
    Yields (fun _ => Reads) (fun later _ => Authorized later userId query.conversation)
      history (authorizeQuery userId query) := by
  obtain ⟨⟨type, id⟩, beforeMessageId, limit⟩ := query
  cases type with
  | kPrivate =>
    by_cases hmember : isPrivateConversationMember userId id = true
    · simp only [authorizeQuery, hmember, if_true, yields_pure]
      exact .pair hmember
    · simp [authorizeQuery, hmember]
  | kGroup =>
    apply yields_bind _ (Service.storage_yields fun _ => trivial)
    intro later _ _ _
    apply yields_bind _ (Service.storage_yields fun _ => trivial)
    intro after members _ hafter
    by_cases hcontained : containsMember members userId = true
    · simp only [hcontained, if_true, yields_pure]
      exact .member (by simp [hafter]) hcontained
    · simp [hcontained]

theorem handleHistory_yields (service : HistoryService) (request : RouterRequest) :
    Yields (fun _ => Reads) (Answered service request) []
      (service.handleHistory request) := by
  apply yields_bind _ (currentUserId_yields request (fun _ _ _ => trivial)
    fun _ _ _ => trivial)
  rintro later userId - ⟨session, hsession, hlookup⟩
  apply yields_ofExcept_bind
  intro query hquery
  apply yields_bind _ (authorizeQuery_yields userId query)
  intro authorized _ hbegins hauthorized
  apply yields_bind _ (Service.storage_yields fun _ => trivial)
  intro last messages hlast hread
  refine yields_ofExcept.mpr fun response hresponse => ?_
  exact ⟨userId, query, messages,
    ⟨session, hsession, hlast.subset (hbegins.subset hlookup)⟩, hquery,
    hauthorized.mono hlast, by simp [hread], hresponse⟩

end Follows

end HistoryService

end LiteIM
