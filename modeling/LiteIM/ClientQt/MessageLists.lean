/-
# What a list of messages tells a client

The bodies of `OfflineMessagesResponse` and of `HistoryResponse` are lists of messages, and a
client sees of them what `parseTlvMap` keeps: the values of each type, in order. Of two lists
with the same values, the messages agree one by one in every field that each message has. The
client message id is left out where it is empty, so its values are those of some messages, and
the map does not tell of which.
-/

import LiteIM.ClientQt.ChatController
import LiteIM.Service.HistoryService
import LiteIM.Service.OfflineMessageService

namespace LiteIM

open Foundation ClientQt.ChatController List

/-- The client message ids that are written for a list. -/
def clientMsgIds (messages : List MessageRecord) : List Bytes :=
  (messages.map MessageRecord.clientMsgId).filter (· ≠ [])

/-- Messages that agree one by one in every field that is written for each, and the same client
message ids one after another. -/
structure Agree (messages messages' : List MessageRecord) : Prop where
  ids : messages.map (·.messageId) = messages'.map (·.messageId)
  conversationTypes : messages.map (·.conversation.type) = messages'.map (·.conversation.type)
  conversationIds : messages.map (·.conversation.id) = messages'.map (·.conversation.id)
  senderIds : messages.map (·.senderId) = messages'.map (·.senderId)
  receiverIds : messages.map (·.receiverId) = messages'.map (·.receiverId)
  texts : messages.map (·.text) = messages'.map (·.text)
  timestamps : messages.map (UInt64.ofInt ·.createdAtMs) =
    messages'.map (UInt64.ofInt ·.createdAtMs)
  clientMsgIds : clientMsgIds messages = clientMsgIds messages'

/-- A response of one of the two kinds that lists messages. -/
inductive Lists (request : RouterRequest) (messages : List MessageRecord) (response : Packet) :
    Prop where
  | history (built : HistoryService.historyResponse request messages = .ok response)
  | offline {records : List OfflineMessageRecord}
      (built : OfflineMessageService.pullResponse request records = .ok response)
      (same : records.map OfflineMessageRecord.message = messages)

variable {request : RouterRequest} {messages messages' : List MessageRecord} {response : Packet}

theorem Lists.appended (hlists : Lists request messages response) :
    ∃ header, appendMessages messages ⟨header, []⟩ = .ok response := by
  cases hlists with
  | history built => exact ⟨_, built⟩
  | offline built same =>
    subst same
    exact ⟨_, built⟩

theorem appendUint64BE_nil_injective : Function.Injective (appendUint64BE []) := by
  have hread (value : UInt64) : readUint64BE (appendUint64BE [] value ++ []) = value := by
    rw [appendUint64BE_eq]
    exact readUint64BE_digits value []
  intro value value' heq
  rw [← hread value, heq, hread]

/-- The numbers of a column are read off its values. -/
theorem numbers_eq {fields : TlvMap} {type : TlvType} {numbers numbers' : List UInt64}
    (hfirst : findValues fields type = numbers.map (appendUint64BE []))
    (hsecond : findValues fields type = numbers'.map (appendUint64BE [])) : numbers = numbers' :=
  map_injective_iff.mpr appendUint64BE_nil_injective (hfirst.symm.trans hsecond)

theorem valuesOf_clientMessageId (messages : List MessageRecord) :
    valuesOf .clientMessageId (messages.flatMap messageFields) = clientMsgIds messages := by
  induction messages with
  | nil => rfl
  | cons message messages ih =>
    rw [flatMap_cons, valuesOf_append, ih, clientMsgIds, clientMsgIds, map_cons]
    by_cases hempty : message.clientMsgId = []
    · have hnone : valuesOf .clientMessageId (messageFields message) = [] := by
        rw [messageFields, if_pos hempty]
        rfl
      rw [hnone, nil_append, filter_cons_of_neg (by simpa using hempty)]
    · have hone : valuesOf .clientMessageId (messageFields message) = [message.clientMsgId] := by
        rw [messageFields, if_neg hempty]
        rfl
      rw [hone, filter_cons_of_pos (by simpa using hempty)]
      rfl

theorem Lists.parse (hlists : Lists request messages response) : parseTlvMap response.body =
    .ok (collectFields (fun _ => none) (messages.flatMap messageFields)) := by
  obtain ⟨header, happend⟩ := hlists.appended
  obtain ⟨hencodable, rfl⟩ := appendMessages_ok happend
  exact parseTlvMap_encodeFields fun field hmem => (hencodable field hmem).2

theorem Lists.columns {fields : TlvMap} (hlists : Lists request messages response)
    (hparse : parseTlvMap response.body = .ok fields) :
    Columns fields messages ∧ findValues fields .clientMessageId = clientMsgIds messages := by
  obtain ⟨header, happend⟩ := hlists.appended
  obtain ⟨found, hfound, -, hcolumns⟩ := columns_of_appendMessages happend
  cases hfound.symm.trans hparse
  cases hlists.parse.symm.trans hparse
  exact ⟨hcolumns, valuesOf_clientMessageId messages ▸ findValues_collectFields _ _ _⟩

/-- Two responses of which a client sees the same map list messages that agree. -/
theorem lists_agree (request request' : RouterRequest) (messages messages' : List MessageRecord)
    (response response' : Packet) (fields : TlvMap) (hlists : Lists request messages response)
    (hlists' : Lists request' messages' response') (hparse : parseTlvMap response.body = .ok fields)
    (hparse' : parseTlvMap response'.body = .ok fields) : Agree messages messages' := by
  obtain ⟨hcolumns, hids⟩ := hlists.columns hparse
  obtain ⟨hcolumns', hids'⟩ := hlists'.columns hparse'
  refine ⟨numbers_eq hcolumns.messageIds hcolumns'.messageIds,
    map_injective_iff.mpr ConversationType.toUInt64_injective ?_,
    numbers_eq hcolumns.conversationIds hcolumns'.conversationIds,
    numbers_eq hcolumns.senderIds hcolumns'.senderIds,
    numbers_eq hcolumns.receiverIds hcolumns'.receiverIds,
    hcolumns.texts.symm.trans hcolumns'.texts,
    numbers_eq hcolumns.timestampMsValues hcolumns'.timestampMsValues, hids.symm.trans hids'⟩
  rw [map_map, map_map]
  exact numbers_eq hcolumns.conversationTypes hcolumns'.conversationTypes

/-- Two messages of which the first has a client message id, or the second. -/
def eitherNamed (first second : Bytes) : List MessageRecord :=
  [{ messageId := 1, clientMsgId := first }, { messageId := 2, clientMsgId := second }]

theorem lists_eitherNamed (request : RouterRequest) :
    ∃ response response' fields, Lists request (eitherNamed [0x61] []) response ∧
      Lists request (eitherNamed [] [0x61]) response' ∧
      parseTlvMap response.body = .ok fields ∧ parseTlvMap response'.body = .ok fields := by
  obtain ⟨response, hresponse⟩ := @exists_appendMessages (eitherNamed [0x61] []) (by decide) _
  obtain ⟨response', hresponse'⟩ := @exists_appendMessages (eitherNamed [] [0x61]) (by decide) _
  have hlists : Lists request _ response := .history hresponse
  have hlists' : Lists request _ response' := .history hresponse'
  refine ⟨response, response', _, hlists, hlists', hlists.parse, hlists'.parse.trans ?_⟩
  refine congrArg Except.ok (funext fun type => ?_)
  rw [collectFields_eq_entryOf, collectFields_eq_entryOf, entryOf, entryOf]
  by_cases htype : type = .clientMessageId
  · subst htype
    rfl
  · have hfirst := valuesOf_messageFields htype { messageId := 1, clientMsgId := [0x61] }
    have hsecond := valuesOf_messageFields htype { messageId := 2, clientMsgId := [0x61] }
    simp only [eitherNamed, flatMap_cons, flatMap_nil, valuesOf_append, hfirst, hsecond]

theorem lists_agree_eitherNamed : Agree (eitherNamed [0x61] []) (eitherNamed [] [0x61]) := by
  obtain ⟨response, response', fields, hlists, hlists', hparse, hparse'⟩ :=
    lists_eitherNamed ⟨none, ⟨{}, []⟩, fun _ => none⟩
  exact lists_agree _ _ _ _ _ _ _ hlists hlists' hparse hparse'

/-- The map does not tell which of the two messages has the client message id. -/
theorem lists_ambiguous :
    ∃ (request : RouterRequest) (messages messages' : List MessageRecord)
      (response response' : Packet) (fields : TlvMap),
      Lists request messages response ∧ Lists request messages' response' ∧
        parseTlvMap response.body = .ok fields ∧ parseTlvMap response'.body = .ok fields ∧
        messages.map MessageRecord.clientMsgId ≠ messages'.map MessageRecord.clientMsgId := by
  obtain ⟨response, response', fields, hlists, hlists', hparse, hparse'⟩ :=
    lists_eitherNamed ⟨none, ⟨{}, []⟩, fun _ => none⟩
  exact ⟨_, _, _, response, response', fields, hlists, hlists', hparse, hparse', by decide⟩

end LiteIM
