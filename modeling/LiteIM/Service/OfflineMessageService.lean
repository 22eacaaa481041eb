/-
# Pulling and acknowledging offline messages

`OfflineMessageService`. A pull returns messages that wait for the user and changes
nothing. An acknowledgement names messages; they are marked in storage, and then the
unread counters of all conversations they belong to are cleared. A failure to clear a
counter is only logged.
-/

import LiteIM.Service.Evidence
import LiteIM.Service.MessagePacketBuilder
import LiteIM.Service.Request

namespace LiteIM

open Foundation Fallible Service

namespace OfflineMessageService

def kHardMaxMessagesPerPull : Nat := 100

def invalidLimitStatus : Error := ⟨.invalidArgument, "offline message limit must be positive"⟩
def invalidAckStatus : Error := ⟨.invalidArgument, "offline ack message ids must not be empty"⟩

end OfflineMessageService

/-- The service with its option, which the constructor checks. -/
structure OfflineMessageService where
  maxMessagesPerPull : Nat := 100
  positive : 0 < maxMessagesPerPull := by decide
  bounded : maxMessagesPerPull ≤ OfflineMessageService.kHardMaxMessagesPerPull := by decide

/-- The default option. -/
instance : Inhabited OfflineMessageService := ⟨{}⟩

namespace OfflineMessageService

/-- This service's own `currentUserId`, which does not ask whether the session is
closed. -/
def currentUserId (request : RouterRequest) : Service UInt64 :=
  match request.session with
  | none => throw notLoggedInStatus
  | some session => do
      match ← (getUserBySession session.id).outcome with
      | .ok userId => pure userId
      | .error status => if status.code = .notFound then throw notLoggedInStatus else throw status

def requestLimit (service : OfflineMessageService) (request : RouterRequest) : Except Error Nat :=
  match request.fields .limit with
  | none => .ok service.maxMessagesPerPull
  | some _ => do
      let requestedLimit ← getUint64 request.fields .limit
      if requestedLimit = 0 then .error invalidLimitStatus
      else if requestedLimit.toNat < service.maxMessagesPerPull then .ok requestedLimit.toNat
      else .ok service.maxMessagesPerPull

def pullResponse (request : RouterRequest) (records : List OfflineMessageRecord) :
    Except Error Packet :=
  appendMessages (records.map OfflineMessageRecord.message)
    { header := { msgType := .offlineMessagesResponse, seqId := request.packet.header.seqId },
      body := [] }

def handleOfflineMessages (service : OfflineMessageService) (request : RouterRequest) :
    Service Packet := do
  let userId ← currentUserId request
  let limit ← Fallible.ofExcept (service.requestLimit request)
  let records ← storage (.getOfflineMessages userId limit)
  Fallible.ofExcept (pullResponse request records)

/-- A message id and its delivery status for each record. -/
def appendAckedMessageIds (records : List OfflineMessageRecord) (body : Bytes) :
    Except Error Bytes :=
  records.foldlM (fun body record => do
    let body ← appendUint64 .messageId record.message.messageId body
    appendUint64 .deliveryStatus DeliveryStatus.kDelivered.toUInt64 body) body

def ackResponse (request : RouterRequest) (records : List OfflineMessageRecord) :
    Except Error Packet := do
  let body ← appendAckedMessageIds records []
  .ok
    { header := { msgType := .offlineMessagesAckResponse, seqId := request.packet.header.seqId },
      body }

/-- The conversations of the records, each once. -/
def conversationsOf (records : List OfflineMessageRecord) : List ConversationKey :=
  records.foldl (fun conversations record =>
    if record.message.conversation ∈ conversations then conversations
    else conversations ++ [record.message.conversation]) []

theorem mem_conversationsOf {records : List OfflineMessageRecord} {conversation : ConversationKey} :
    conversation ∈ conversationsOf records ↔
      ∃ record ∈ records, record.message.conversation = conversation := by
  have hloop : ∀ (rest : List OfflineMessageRecord) (known : List ConversationKey),
      conversation ∈ rest.foldl (fun conversations record =>
        if record.message.conversation ∈ conversations then conversations
        else conversations ++ [record.message.conversation]) known ↔
      conversation ∈ known ∨ ∃ record ∈ rest, record.message.conversation = conversation := by
    intro rest
    induction rest with
    | nil => simp
    | cons record rest ih =>
      intro known
      rw [List.foldl_cons, ih]
      by_cases hknown : record.message.conversation ∈ known
      · simp only [if_pos hknown, List.exists_mem_cons_iff]
        refine ⟨Or.imp_right Or.inr, ?_⟩
        rintro (hmem | rfl | hrest)
        · exact Or.inl hmem
        · exact Or.inl hknown
        · exact Or.inr hrest
      · simp [if_neg hknown, or_assoc, eq_comm]
  rw [conversationsOf, hloop]
  simp

/-- The loop stops at the first failure. -/
def clearConversations (userId : UInt64) : List ConversationKey → Service Unit
  | [] => pure ()
  | conversation :: rest => do
      cache (.clearUnread ⟨userId, conversation⟩)
      clearConversations userId rest

def clearUnreadForMessages (userId : UInt64) (records : List OfflineMessageRecord) :
    Service Unit :=
  clearConversations userId (conversationsOf records)

def handleOfflineMessagesAck (request : RouterRequest) : Service Packet := do
  let userId ← currentUserId request
  let messageIds ← Fallible.ofExcept (getRepeatedUint64 request.fields .messageId)
  Fallible.ofExcept (if messageIds = [] then .error invalidAckStatus else .ok ())
  let acked ← storage (.ackOfflineMessages userId messageIds)
  let response ← Fallible.ofExcept (ackResponse request acked)
  let _ ← (clearUnreadForMessages userId acked).outcome
  pure response

/-! ## The handlers, whatever they are answered -/

section Follows

variable {justified : List (Event services) → Event services → Prop}
variable {history : List (Event services)}

theorem currentUserId_yields (request : RouterRequest) (huser : ∀ history sessionId reply,
      justified history ⟨.session (.getUserBySession sessionId), reply⟩) :
    Yields justified (fun later userId => ∃ session, request.session = some session ∧
      ⟨.session (.getUserBySession session.id), .ok userId⟩ ∈ later)
      history (currentUserId request) := by
  cases hsession : request.session with
  | none => simp [currentUserId, hsession]
  | some session =>
    simp only [currentUserId, hsession]
    apply yields_outcome_bind (fun after result =>
      after = history ++ [⟨.session (.getUserBySession session.id), result⟩])
    · exact fun reply => ⟨huser _ _ reply, rfl⟩
    · intro after result _ hafter
      cases result with
      | ok => simp [hafter]
      | error status => by_cases hcode : status.code = .notFound <;> simp [hcode]

/-- A pull looks the user up and reads, and what it read is its response. -/
theorem handleOfflineMessages_yields (service : OfflineMessageService) (request : RouterRequest)
    (huser : ∀ history sessionId reply,
      justified history ⟨.session (.getUserBySession sessionId), reply⟩)
    (hget : ∀ history userId limit reply, service.requestLimit request = .ok limit →
      justified history ⟨.storage (.getOfflineMessages userId limit), reply⟩) :
    Yields justified
      (fun later response => ∃ userId limit records,
        ⟨.storage (.getOfflineMessages userId limit), .ok records⟩ ∈ later ∧
          pullResponse request records = .ok response)
      history (service.handleOfflineMessages request) := by
  apply yields_bind _ (currentUserId_yields request huser)
  intro afterUser userId _ _
  apply yields_ofExcept_bind
  intro limit hlimit
  apply yields_bind _ (Service.storage_yields fun reply => hget _ _ _ reply hlimit)
  intro later records _ hlater
  refine yields_ofExcept.mpr fun response hresponse => ?_
  exact ⟨userId, limit, records, by simp [hlater], hresponse⟩

theorem clearConversations_yields (userId : UInt64) (conversations : List ConversationKey)
    (hclear : ∀ history key reply, justified history ⟨.cache (.clearUnread key), reply⟩) :
    Yields justified (fun _ _ => True) history
      (clearConversations userId conversations) := by
  induction conversations generalizing history with
  | nil => exact yields_pure.mpr trivial
  | cons conversation rest ih =>
    apply yields_bind (fun _ _ => True)
    · exact fun reply => ⟨hclear _ _ reply, fun _ _ => trivial⟩
    · exact fun later value _ _ => ih

/-- An acknowledgement looks the user up, acknowledges and clears counters. -/
theorem handleOfflineMessagesAck_yields (request : RouterRequest)
    (huser : ∀ history sessionId reply,
      justified history ⟨.session (.getUserBySession sessionId), reply⟩)
    (hack : ∀ history userId messageIds reply,
      justified history ⟨.storage (.ackOfflineMessages userId messageIds), reply⟩)
    (hclear : ∀ history key reply, justified history ⟨.cache (.clearUnread key), reply⟩) :
    Yields justified (fun _ _ => True) history (handleOfflineMessagesAck request) := by
  apply yields_bind _ (currentUserId_yields request huser)
  intro afterUser userId _ _
  apply yields_ofExcept_bind
  intro messageIds _
  apply yields_ofExcept_bind
  intro _ _
  apply yields_bind (fun _ _ => True)
  · exact fun reply => ⟨hack _ _ _ reply, fun _ _ => trivial⟩
  intro afterAck acked _ _
  apply yields_ofExcept_bind
  intro response _
  apply yields_outcome_bind (fun _ _ => True)
  · exact Program.Follows.mono (clearConversations_yields userId _ hclear) fun _ _ _ _ => trivial
  · exact fun later result _ _ => yields_pure.mpr trivial

theorem requestLimit_le {service : OfflineMessageService} {request : RouterRequest} {limit : Nat}
    (hlimit : service.requestLimit request = .ok limit) :
    limit ≤ service.maxMessagesPerPull := by
  rw [requestLimit] at hlimit
  split at hlimit
  · exact Nat.le_of_eq (Except.ok.inj hlimit).symm
  · obtain ⟨requestedLimit, -, hrest⟩ := bind_eq_ok_iff.mp hlimit
    split_ifs at hrest with hzero hsmall
    · rw [← Except.ok.inj hrest]
      exact Nat.le_of_lt hsmall
    · exact Nat.le_of_eq (Except.ok.inj hrest).symm

end Follows

/-! ## What they leave behind -/

section Triples

variable {faults : World.Faults} {request : RouterRequest} {userId messageId : UInt64}

theorem currentUserId_triple (faults : World.Faults) (request : RouterRequest) {userId : UInt64}
    (property : Database → Redis → Prop) :
    Program.Triple (World.machine faults)
      (fun world => property world.database world.redis ∧
        world.boundUser request = some userId)
      (currentUserId request).run
      fun result world => property world.database world.redis ∧ result = .ok userId := by
  cases hsession : request.session with
  | none =>
    simp only [currentUserId, hsession]
    refine triple_throw fun world hpre => ?_
    simp [World.boundUser, hsession] at hpre
  | some =>
    simp only [currentUserId, hsession]
    exact lookupUser_triple faults hsession property

/-- Clearing counters leaves storage alone. -/
theorem clearConversations_triple (property : Database → Prop) (userId : UInt64)
    (conversations : List ConversationKey) :
    Program.Triple (World.machine faults) (fun world => property world.database)
      (clearConversations userId conversations).run
      fun _ world => property world.database := by
  induction conversations with
  | nil => exact triple_pure fun _ => id
  | cons conversation rest ih =>
    refine triple_bind (fun _ world => property world.database) ?_ fun _ => ih
    refine cache_triple fun world reply next hproperty hanswer => ?_
    rw [← World.machine_cache_database hanswer] at hproperty
    cases reply with
    | ok | error => exact hproperty

/-- A message that does not wait for the user is not returned. -/
theorem handleOfflineMessages_triple (service : OfflineMessageService) :
    Program.Triple (World.machine faults)
      (fun world => world.database.1.Settled userId [messageId] ∧
        world.boundUser request = some userId)
      (service.handleOfflineMessages request).run
      fun result _ => ∀ response, result = .ok response → ¬ Carries response messageId := by
  refine triple_bind
    (fun value world => world.database.1.Settled userId [messageId] ∧ value = userId) ?_ ?_
  · refine (currentUserId_triple faults request
      fun database _ => database.1.Settled userId [messageId]).mono (fun _ => id) ?_
    rintro result world ⟨hsettled, rfl⟩
    exact ⟨hsettled, rfl⟩
  intro value
  refine triple_ofExcept_bind (by simp) ?_
  intro limit _
  refine triple_bind
    (fun records _ => ∀ record ∈ records, record.message.messageId ≠ messageId) ?_ ?_
  · refine storage_triple ?_
    rintro world reply next ⟨hsettled, rfl⟩ hanswer
    rcases hanswer with hanswer | ⟨-, ⟨status, -, rfl⟩, -⟩
    · obtain ⟨rfl, -⟩ := Prod.mk.inj hanswer
      cases hget : world.database.1.getOfflineMessages value limit with
      | ok => exact hsettled.not_returned hget
      | error => simp
    · simp
  intro records
  refine triple_ofExcept fun world hrecords response hresponse hcarries => ?_
  obtain ⟨message, hmem, hid⟩ := (carries_iff rfl hresponse).mp hcarries
  obtain ⟨record, hrecord, rfl⟩ := List.mem_map.mp hmem
  exact hrecords record hrecord hid

end Triples

end OfflineMessageService

end LiteIM
