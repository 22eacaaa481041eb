/-
# Private messages

`ChatService::handlePrivateMessage` and its helpers. The handler checks the
request, saves the message together with an offline row for a receiver it found
offline, and pushes it to a receiver it found online; a push that cannot be queued
falls back to an offline row. A request whose client message id was used before is
answered from the message stored under that id, after the same delivery attempt.

`Justified` and `Answers` say what the handler does whatever it is answered: which
events entitle it to each of its writes, and what has happened when it returns a
response. Results about single requests and about many requests at once both start
from `handlePrivateMessage_yields`.
-/

import LiteIM.Service.Evidence
import LiteIM.Service.MessagePacketBuilder
import LiteIM.Service.Request

namespace LiteIM.ChatService

open Foundation Fallible Service

def kSmallUserIdConversationBase : UInt64 := 10000

def invalidReceiverStatus : Error := ⟨.invalidArgument, "receiver user id is invalid"⟩
def emptyClientMessageIdStatus : Error :=
  ⟨.invalidArgument, "client message id must not be empty"⟩
def invalidMessageIdStatus : Error := ⟨.invalidArgument, "message id is invalid"⟩
def notAcceptedFriendStatus : Error := ⟨.invalidArgument, "receiver is not an accepted friend"⟩

/-- The conversation id of two users. -/
def privateConversationId (senderId receiverId : UInt64) : Except Error UInt64 :=
  if senderId = 0 ∨ receiverId = 0 ∨ senderId = receiverId then .error invalidReceiverStatus
  else
    let left := min senderId receiverId
    let right := max senderId receiverId
    if left < kSmallUserIdConversationBase ∧ right < kSmallUserIdConversationBase then
      .ok (left * kSmallUserIdConversationBase + right)
    else if right > 0xFFFFFFFF then
      Status.error .invalidArgument "user id is too large for private conversation id"
    else .ok ((left <<< 32) ||| right)

/-- The checks on `ReceiverId`. -/
def readReceiverId (fields : TlvMap) (senderId : UInt64) : Except Error UInt64 := do
  let receiverId ← getUint64 fields .receiverId
  if receiverId = 0 ∨ receiverId = senderId then .error invalidReceiverStatus
  else .ok receiverId

/-- The checks on `ClientMessageId`; without the field the id is empty. -/
def readClientMessageId (fields : TlvMap) : Except Error Bytes :=
  match fields .clientMessageId with
  | none => .ok []
  | some _ => do
      let clientMsgId ← getString fields .clientMessageId
      if clientMsgId = [] then .error emptyClientMessageIdStatus
      else do
        validateMaxBytes clientMsgId kMaxClientMessageIdBytes "client message id"
        .ok clientMsgId

/-- A failed increment is only logged. -/
def incrementUnreadForMessage (receiverId : UInt64) (message : MessageRecord) :
    Service Unit := do
  let _ ← (cache (.incrUnread ⟨receiverId, message.conversation⟩ 1)).outcome
  pure ()

def ensureOfflineFallback (receiverId : UInt64) (message : MessageRecord) : Service Unit := do
  match ← (storage (.saveOfflineMessage receiverId message.messageId)).outcome with
  | .ok _ => incrementUnreadForMessage receiverId message
  | .error status => if status.code = .alreadyExists then pure () else throw status

def isMessageAlreadyDelivered (receiverId messageId : UInt64) : Service Bool := do
  match ← (storage (.findDeliveryStatus receiverId messageId)).outcome with
  | .ok status => pure (isTerminalDeliveryStatus status)
  | .error status => if status.code = .notFound then pure false else throw status

/-- The packet that pushes a message to its receiver. -/
def privatePush (message : MessageRecord) : Except Error Packet :=
  appendMessageFields message { header := { msgType := .privateMessagePush }, body := [] }

def pushPrivateOrFallback (receiverSession : Option SessionRef) (receiverId : UInt64)
    (message : MessageRecord) : Service Unit :=
  match receiverSession with
  | none => ensureOfflineFallback receiverId message
  | some session => do
      let closed ← closed session
      if closed then ensureOfflineFallback receiverId message
      else do
        let push ← Fallible.ofExcept (privatePush message)
        match ← (sendPacket session push).outcome with
        | .ok _ => pure ()
        | .error _ => ensureOfflineFallback receiverId message

def privateResponse (request : RouterRequest) (message : MessageRecord) : Except Error Packet :=
  appendMessageFields message
    { header := { msgType := .privateMessageResponse, seqId := request.packet.header.seqId },
      body := [] }

/-- The delivery attempt of a request whose client message id was used before. -/
def redeliver (saved : MessageRecord) : Service Unit := do
  let delivered ← isMessageAlreadyDelivered saved.receiverId saved.messageId
  if delivered then pure ()
  else do
    match ← findReceiver saved.receiverId with
    | some session => pushPrivateOrFallback (some session) saved.receiverId saved
    | none => ensureOfflineFallback saved.receiverId saved

/-- The delivery attempt for a message that was just saved. -/
def deliver (receiver : Option SessionRef) (receiverId : UInt64) (saved : MessageRecord) :
    Service Unit :=
  match receiver with
  | some session => pushPrivateOrFallback (some session) receiverId saved
  | none => incrementUnreadForMessage receiverId saved

/-- Save the message and deliver it. A duplicate client message id is answered from
the message stored under it. -/
def saveAndDeliver (receiver : Option SessionRef) (message : MessageRecord) :
    Service MessageRecord := do
  let offlineUserIds := if receiver.isNone then [message.receiverId] else []
  match ← (storage
      (.saveMessageWithOfflineRecipients message offlineUserIds)).outcome with
  | .ok saved => do
      deliver receiver message.receiverId saved
      pure saved
  | .error status =>
    if status.code ≠ .alreadyExists ∨ message.clientMsgId = [] then throw status
    else do
      let saved ← storage
        (.findMessageByClientMessageId message.senderId message.clientMsgId)
      redeliver saved
      pure saved

def handlePrivateMessage (request : RouterRequest) : Service Packet := do
  let senderId ← currentUserId request
  let receiverId ← Fallible.ofExcept (readReceiverId request.fields senderId)
  let text ← Fallible.ofExcept (readMessageText request.fields)
  let clientMsgId ← Fallible.ofExcept (readClientMessageId request.fields)
  let _ ← storage (.findUserById receiverId)
  let areFriends ← storage (.areFriends senderId receiverId)
  Fallible.ofExcept (if areFriends then .ok () else .error notAcceptedFriendStatus)
  let conversationId ← Fallible.ofExcept (privateConversationId senderId receiverId)
  let receiver ← findReceiver receiverId
  let saved ← saveAndDeliver receiver
    { conversation := { type := .kPrivate, id := conversationId }, senderId, receiverId, text,
      clientMsgId }
  Fallible.ofExcept (privateResponse request saved)

def deliveryAckResponse (request : RouterRequest) (message : MessageRecord) :
    Except Error Packet := do
  let body ← appendUint64 .messageId message.messageId []
  let body ← appendUint64 .deliveryStatus DeliveryStatus.kDelivered.toUInt64 body
  .ok { header := { msgType := .deliveryAckResponse, seqId := request.packet.header.seqId }, body }

/-- The receiver of a pushed message confirms it. -/
def handleDeliveryAck (request : RouterRequest) : Service Packet := do
  let userId ← currentUserId request
  let messageId ← Fallible.ofExcept (getUint64 request.fields .messageId)
  Fallible.ofExcept (if messageId = 0 then .error invalidMessageIdStatus else .ok ())
  let message ← storage (.ackPrivateMessageDelivery userId messageId)
  Fallible.ofExcept (deliveryAckResponse request message)

/-! ## The handler, whatever it is answered -/

/-- The message a request asks to send, by the user its session was found bound to. -/
structure Requested (request : RouterRequest) (history : List (Event services))
    (message : MessageRecord) : Prop where
  sender : ∃ session, request.session = some session ∧
    ⟨.session (.getUserBySession session.id), .ok message.senderId⟩ ∈ history
  receiver : readReceiverId request.fields message.senderId = .ok message.receiverId
  text : readMessageText request.fields = .ok message.text
  clientMsgId : readClientMessageId request.fields = .ok message.clientMsgId
  conversation : message.conversation.type = .kPrivate
  conversationId :
    privateConversationId message.senderId message.receiverId = .ok message.conversation.id
  friends : ⟨.storage (.areFriends message.senderId message.receiverId), .ok true⟩ ∈ history

/-- The request saved a message for a user, or found it under its client id. -/
inductive Concerns (request : RouterRequest) (history : List (Event services)) :
    UInt64 → MessageRecord → Prop where
  | saved {message saved : MessageRecord} {offlineUserIds : List UInt64}
      (requested : Requested request history message)
      (event : ⟨.storage (.saveMessageWithOfflineRecipients message offlineUserIds), .ok saved⟩ ∈
        history) : Concerns request history message.receiverId saved
  | found {message saved : MessageRecord} (requested : Requested request history message)
      (keyed : message.clientMsgId ≠ [])
      (event : ⟨.storage (.findMessageByClientMessageId message.senderId message.clientMsgId),
        .ok saved⟩ ∈ history) : Concerns request history saved.receiverId saved

/-- The request saved the message itself, or was told that the user has not confirmed
it. -/
inductive Unconfirmed (history : List (Event services)) (userId : UInt64)
    (saved : MessageRecord) : Prop where
  | saved {message : MessageRecord} {offlineUserIds : List UInt64}
      (event : ⟨.storage (.saveMessageWithOfflineRecipients message offlineUserIds), .ok saved⟩ ∈
        history)
  | pending {status : DeliveryStatus} (nonterminal : isTerminalDeliveryStatus status = false)
      (event : ⟨.storage (.findDeliveryStatus userId saved.messageId), .ok status⟩ ∈ history)
  | unknown {status : Error} (code : status.code = .notFound)
      (event : ⟨.storage (.findDeliveryStatus userId saved.messageId), .error status⟩ ∈ history)

/-- An event that put an offline row for a user into the tables. -/
inductive Inserted (userId : UInt64) (saved : MessageRecord) : Event services → Prop where
  | withMessage (message : MessageRecord) : Inserted userId saved
      ⟨.storage (.saveMessageWithOfflineRecipients message [userId]), .ok saved⟩
  | fallback : Inserted userId saved
      ⟨.storage (.saveOfflineMessage userId saved.messageId), .ok ()⟩

/-- What entitles the handler to each of its writes. The unread counter is
incremented directly after the offline row was inserted. -/
def Justified (request : RouterRequest) (history : List (Event services)) :
    Event services → Prop
  | ⟨.storage (.saveMessageWithOfflineRecipients message offlineUserIds), _⟩ =>
    Requested request history message ∧
      (offlineUserIds = [] ∨ offlineUserIds = [message.receiverId])
  | ⟨.storage (.saveOfflineMessage userId messageId), _⟩ =>
    ∃ saved, Concerns request history userId saved ∧ Unconfirmed history userId saved ∧
      messageId = saved.messageId
  | ⟨.cache (.incrUnread key delta), _⟩ =>
    delta = 1 ∧ ∃ saved past event, Concerns request history key.userId saved ∧
      key.conversation = saved.conversation ∧ history = past ++ [event] ∧
      Inserted key.userId saved event
  | ⟨.cache _, _⟩ => False
  | _ => True

/-- The message was pushed to a session of the user, or there is an offline row. -/
inductive Handed (history : List (Event services)) (userId : UInt64) (saved : MessageRecord) :
    Prop where
  | pushed {session : SessionRef} {push : Packet}
      (online : ⟨.session (.getSessionByUser userId), .ok session⟩ ∈ history)
      (packet : privatePush saved = .ok push)
      (sent : ⟨.session (.sendPacket session push), .ok ()⟩ ∈ history)
  | fallback (event : ⟨.storage (.saveOfflineMessage userId saved.messageId), .ok ()⟩ ∈ history)
  | present {status : Error} (code : status.code = .alreadyExists)
      (event : ⟨.storage (.saveOfflineMessage userId saved.messageId), .error status⟩ ∈ history)

/-- What has happened when the handler answers with a message. -/
inductive Answers (request : RouterRequest) (history : List (Event services))
    (saved : MessageRecord) : Prop where
  | offline {message : MessageRecord} (requested : Requested request history message)
      (event : ⟨.storage (.saveMessageWithOfflineRecipients message [message.receiverId]),
        .ok saved⟩ ∈ history)
  | online {message : MessageRecord} (requested : Requested request history message)
      (event : ⟨.storage (.saveMessageWithOfflineRecipients message []), .ok saved⟩ ∈ history)
      (handed : Handed history message.receiverId saved)
  | delivered {message : MessageRecord} {status : DeliveryStatus}
      (requested : Requested request history message) (keyed : message.clientMsgId ≠ [])
      (event : ⟨.storage (.findMessageByClientMessageId message.senderId message.clientMsgId),
        .ok saved⟩ ∈ history)
      (terminal : isTerminalDeliveryStatus status = true)
      (seen : ⟨.storage (.findDeliveryStatus saved.receiverId saved.messageId), .ok status⟩ ∈
        history)
  | retried {message : MessageRecord}
      (requested : Requested request history message) (keyed : message.clientMsgId ≠ [])
      (event : ⟨.storage (.findMessageByClientMessageId message.senderId message.clientMsgId),
        .ok saved⟩ ∈ history)
      (handed : Handed history saved.receiverId saved)

section Follows

variable {request : RouterRequest} {history later : List (Event services)}

variable {message : MessageRecord}

theorem Requested.mono (hrequested : Requested request history message)
    (hbegins : history <+: later) : Requested request later message := by
  obtain ⟨session, hsession, hmem⟩ := hrequested.sender
  exact { hrequested with
    sender := ⟨session, hsession, hbegins.subset hmem⟩
    friends := hbegins.subset hrequested.friends }

variable {saved : MessageRecord} {userId : UInt64}

theorem Concerns.mono (hconcerns : Concerns request history userId saved)
    (hbegins : history <+: later) : Concerns request later userId saved := by
  cases hconcerns with
  | saved requested event => exact .saved (requested.mono hbegins) (hbegins.subset event)
  | found requested keyed event =>
    exact .found (requested.mono hbegins) keyed (hbegins.subset event)

theorem Unconfirmed.mono (hunconfirmed : Unconfirmed history userId saved)
    (hbegins : history <+: later) : Unconfirmed later userId saved := by
  cases hunconfirmed with
  | saved event => exact .saved (hbegins.subset event)
  | pending nonterminal event => exact .pending nonterminal (hbegins.subset event)
  | unknown code event => exact .unknown code (hbegins.subset event)

/-- An increment directly after the row was inserted is justified. -/
theorem incrementUnreadForMessage_yields {event : Event services}
    (hconcerns : Concerns request (history ++ [event]) userId saved)
    (hinserted : Inserted userId saved event) :
    Yields (Justified request) (fun _ _ => True) (history ++ [event])
      (incrementUnreadForMessage userId saved) := by
  apply yields_outcome_bind (fun _ _ => True)
  · intro reply
    exact ⟨⟨rfl, saved, history, event, hconcerns, rfl, rfl, hinserted⟩, trivial⟩
  · intro later result _ _
    exact yields_pure.mpr trivial

theorem ensureOfflineFallback_yields (hconcerns : Concerns request history userId saved)
    (hunconfirmed : Unconfirmed history userId saved) :
    Yields (Justified request) (fun later _ => Handed later userId saved) history
      (ensureOfflineFallback userId saved) := by
  apply yields_outcome_bind (fun later result =>
    later = history ++ [⟨.storage (.saveOfflineMessage userId saved.messageId), result⟩])
  · intro reply
    exact ⟨⟨saved, hconcerns, hunconfirmed, rfl⟩, rfl⟩
  · intro later result hbegins hlater
    subst hlater
    cases result with
    | ok =>
      apply (incrementUnreadForMessage_yields (hconcerns.mono hbegins) .fallback).mono
      intro after _ hafter _
      exact .fallback (hafter.subset (by simp))
    | error status =>
      by_cases hcode : status.code = .alreadyExists
      · simp only [hcode, if_true, yields_pure]
        exact .present hcode (by simp)
      · simp [hcode]

theorem pushPrivateOrFallback_yields {session : SessionRef}
    (hconcerns : Concerns request history userId saved)
    (hunconfirmed : Unconfirmed history userId saved)
    (honline : ⟨.session (.getSessionByUser userId), .ok session⟩ ∈ history) :
    Yields (Justified request) (fun later _ => Handed later userId saved) history
      (pushPrivateOrFallback (some session) userId saved) := by
  apply yields_bind (fun _ _ => True)
  · exact fun reply => ⟨trivial, fun _ _ => trivial⟩
  · intro later closed hbegins _
    cases closed with
    | true =>
      exact ensureOfflineFallback_yields (hconcerns.mono hbegins) (hunconfirmed.mono hbegins)
    | false =>
      apply yields_ofExcept_bind
      intro push hpush
      apply yields_outcome_bind (fun after result =>
        after = later ++ [⟨.session (.sendPacket session push), result⟩])
      · exact fun reply => ⟨trivial, rfl⟩
      · intro after result hafter hsent
        cases result with
        | ok =>
          subst hsent
          exact yields_pure.mpr
            (.pushed (hafter.subset (hbegins.subset honline)) hpush (by simp))
        | error =>
          exact ensureOfflineFallback_yields (hconcerns.mono (hbegins.trans hafter))
            (hunconfirmed.mono (hbegins.trans hafter))

theorem isMessageAlreadyDelivered_yields : Yields (Justified request)
      (fun later delivered =>
        if delivered = true then ∃ status, isTerminalDeliveryStatus status = true ∧
          ⟨.storage (.findDeliveryStatus userId saved.messageId), .ok status⟩ ∈ later
        else Unconfirmed later userId saved)
      history (isMessageAlreadyDelivered userId saved.messageId) := by
  apply yields_outcome_bind (fun later result =>
    later = history ++ [⟨.storage (.findDeliveryStatus userId saved.messageId), result⟩])
  · exact fun reply => ⟨trivial, rfl⟩
  · intro later result _ hlater
    subst hlater
    cases result with
    | ok status =>
      rw [yields_pure]
      cases hterminal : isTerminalDeliveryStatus status with
      | true => exact ⟨status, hterminal, by simp⟩
      | false => exact .pending hterminal (by simp)
    | error status =>
      by_cases hcode : status.code = .notFound
      · simp only [hcode, if_true, yields_pure]
        exact .unknown hcode (by simp)
      · simp [hcode]

/-- After a retry the message was confirmed before, or handed over again. -/
theorem redeliver_yields (hconcerns : Concerns request history saved.receiverId saved) :
    Yields (Justified request)
      (fun later _ => Handed later saved.receiverId saved ∨
        ∃ status, isTerminalDeliveryStatus status = true ∧
          ⟨.storage (.findDeliveryStatus saved.receiverId saved.messageId), .ok status⟩ ∈ later)
      history (redeliver saved) := by
  apply yields_bind _ isMessageAlreadyDelivered_yields
  intro later delivered hbegins hdelivered
  cases delivered with
  | true => exact yields_pure.mpr (Or.inr hdelivered)
  | false =>
    have hunconfirmed : Unconfirmed later saved.receiverId saved := hdelivered
    apply yields_bind _ (findReceiver_yields saved.receiverId fun _ _ => trivial)
    intro after receiver hafter hfound
    have hstill := hconcerns.mono (hbegins.trans hafter)
    have hopen := hunconfirmed.mono hafter
    cases receiver with
    | none => exact (ensureOfflineFallback_yields hstill hopen).mono fun _ _ _ => Or.inl
    | some =>
      exact (pushPrivateOrFallback_yields hstill hopen hfound).mono fun _ _ _ => Or.inl

/-- A message that was just saved has its offline row, or is handed over. -/
theorem deliver_yields {receiver : Option SessionRef} {offlineUserIds : List UInt64}
    (hoffline : offlineUserIds = if receiver.isNone then [message.receiverId] else [])
    (hlast : later = history ++
      [⟨.storage (.saveMessageWithOfflineRecipients message offlineUserIds), .ok saved⟩])
    (hrequested : Requested request later message)
    (hfound : Found message.receiverId later receiver) :
    Yields (Justified request) (fun after _ => Answers request after saved) later
      (deliver receiver message.receiverId saved) := by
  have hsaved : ⟨.storage (.saveMessageWithOfflineRecipients message offlineUserIds),
      .ok saved⟩ ∈ later := by simp [hlast]
  cases receiver with
  | none =>
    subst hoffline hlast
    apply (incrementUnreadForMessage_yields (.saved hrequested hsaved)
      (.withMessage message)).mono
    intro after _ hafter _
    exact .offline (hrequested.mono hafter) (hafter.subset hsaved)
  | some =>
    subst hoffline
    apply (pushPrivateOrFallback_yields (.saved hrequested hsaved) (.saved hsaved) hfound).mono
    intro after _ hafter hhanded
    exact .online (hrequested.mono hafter) (hafter.subset hsaved) hhanded

theorem saveAndDeliver_yields {receiver : Option SessionRef}
    (hrequested : Requested request history message)
    (hfound : Found message.receiverId history receiver) :
    Yields (Justified request) (Answers request) history
      (saveAndDeliver receiver message) := by
  apply yields_outcome_bind (fun later result => later = history ++
    [⟨.storage (.saveMessageWithOfflineRecipients message
      (if receiver.isNone then [message.receiverId] else [])), result⟩])
  · intro reply
    refine ⟨⟨hrequested, ?_⟩, rfl⟩
    cases receiver with
    | none => exact Or.inr rfl
    | some => exact Or.inl rfl
  · intro later result hbegins hlater
    have hlogged := hrequested.mono hbegins
    cases result with
    | ok =>
      apply yields_bind _
        (deliver_yields rfl hlater hlogged (hfound.mono hbegins))
      intro after _ _ hanswers
      exact yields_pure.mpr hanswers
    | error status =>
      by_cases hreturn : status.code ≠ .alreadyExists ∨ message.clientMsgId = []
      · simp [hreturn]
      · simp only [hreturn, if_false]
        have hkeyed : message.clientMsgId ≠ [] := fun hempty => hreturn (Or.inr hempty)
        apply yields_bind (fun (after : List (Event services)) saved => ⟨.storage
          (.findMessageByClientMessageId message.senderId message.clientMsgId), .ok saved⟩ ∈
            after)
        · intro reply
          refine ⟨trivial, fun saved hsaved => ?_⟩
          simp [hsaved]
        · intro after saved hafter hstored
          have hstill := hlogged.mono hafter
          apply yields_bind _ (redeliver_yields (.found hstill hkeyed hstored))
          intro final _ hfinal hdelivered
          rw [yields_pure]
          rcases hdelivered with hhanded | ⟨status, hterminal, hseen⟩
          · exact .retried (hstill.mono hfinal) hkeyed (hfinal.subset hstored) hhanded
          · exact .delivered (hstill.mono hfinal) hkeyed (hfinal.subset hstored) hterminal hseen

/-- The handler answers with a message it saved or found, and that was delivered,
pushed or stored offline on the way; each of its writes is justified. -/
theorem handlePrivateMessage_yields (request : RouterRequest) :
    Yields (Justified request)
      (fun history response => ∃ saved, privateResponse request saved = .ok response ∧
        Answers request history saved)
      [] (handlePrivateMessage request) := by
  apply yields_bind _
    (currentUserId_yields request (fun _ _ _ => trivial) fun _ _ _ => trivial)
  rintro history senderId - ⟨session, hsession, hsender⟩
  apply yields_ofExcept_bind
  intro receiverId hreceiver
  apply yields_ofExcept_bind
  intro text htext
  apply yields_ofExcept_bind
  intro clientMsgId hclientMsgId
  apply yields_bind (fun _ _ => True)
  · exact fun reply => ⟨trivial, fun _ _ => trivial⟩
  intro afterUser _ huser _
  apply yields_bind (fun (later : List (Event services)) areFriends =>
    ⟨.storage (.areFriends senderId receiverId), .ok areFriends⟩ ∈ later)
  · exact fun reply => ⟨trivial, fun areFriends hreply => by simp [hreply]⟩
  intro afterFriends areFriends hfriends hasked
  apply yields_ofExcept_bind
  intro _ haccepted
  have hfriend : areFriends = true := by
    cases areFriends with
    | true => rfl
    | false => cases haccepted
  rw [hfriend] at hasked
  apply yields_ofExcept_bind
  intro conversationId hconversationId
  apply yields_bind _ (findReceiver_yields receiverId fun _ _ => trivial)
  intro afterLookup receiver hlookup hfound
  have hbegins := (huser.trans hfriends).trans hlookup
  have hrequested : Requested request afterLookup
      { conversation := { type := .kPrivate, id := conversationId }, senderId, receiverId, text,
        clientMsgId } :=
    ⟨⟨session, hsession, hbegins.subset hsender⟩, hreceiver, htext, hclientMsgId, rfl,
      hconversationId, hlookup.subset hasked⟩
  apply yields_bind _ (saveAndDeliver_yields hrequested hfound)
  intro last saved _ hanswers
  exact yields_ofExcept.mpr fun response hresponse => ⟨saved, hresponse, hanswers⟩

/-- A confirmation looks the user up and records the delivery. -/
theorem handleDeliveryAck_yields {justified : List (Event services) → Event services → Prop}
    (request : RouterRequest)
    (hclosed : ∀ history session reply, justified history ⟨.session (.closed session), reply⟩)
    (huser : ∀ history sessionId reply,
      justified history ⟨.session (.getUserBySession sessionId), reply⟩)
    (hack : ∀ history userId messageId reply,
      justified history ⟨.storage (.ackPrivateMessageDelivery userId messageId), reply⟩) :
    Yields justified (fun _ _ => True) history (handleDeliveryAck request) := by
  apply yields_bind _ (currentUserId_yields request hclosed huser)
  intro afterUser userId _ _
  apply yields_ofExcept_bind
  intro messageId _
  apply yields_ofExcept_bind
  intro _ _
  apply yields_bind (fun _ _ => True)
  · exact fun reply => ⟨hack _ _ _ reply, fun _ _ => trivial⟩
  · exact fun later message _ _ => yields_ofExcept.mpr fun _ _ => trivial

end Follows

end LiteIM.ChatService
