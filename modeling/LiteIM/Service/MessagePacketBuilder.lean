/-
# Messages in packets

Responses and pushes carry a message as fields of their body. `messageFields` is
the list of those fields, in the order in which they are appended; the message id
comes first, so a reader of the packet finds it under its type.
-/

import LiteIM.Foundation.Outcome
import LiteIM.Protocol.Packet
import LiteIM.Protocol.Tlv
import LiteIM.Storage.Tables

namespace LiteIM

open Foundation List

def appendConversationType (type : ConversationType) (body : Bytes) : Except Error Bytes :=
  appendUint64 .conversationType type.toUInt64 body

def appendMessageFields (message : MessageRecord) (packet : Packet) : Except Error Packet := do
  let body ← appendUint64 .messageId message.messageId packet.body
  let body ← appendConversationType message.conversation.type body
  let body ← appendUint64 .conversationId message.conversation.id body
  let body ← appendUint64 .senderId message.senderId body
  let body ← appendUint64 .receiverId message.receiverId body
  let body ← appendString .messageText message.text body
  let body ←
    if message.clientMsgId = [] then .ok body
    else appendString .clientMessageId message.clientMsgId body
  let body ← appendUint64 .timestampMs (UInt64.ofInt message.createdAtMs) body
  .ok { packet with body }

/-- The fields of a message. -/
def messageFields (message : MessageRecord) : List (TlvType × Bytes) :=
  [(.messageId, appendUint64BE [] message.messageId),
    (.conversationType, appendUint64BE [] message.conversation.type.toUInt64),
    (.conversationId, appendUint64BE [] message.conversation.id),
    (.senderId, appendUint64BE [] message.senderId),
    (.receiverId, appendUint64BE [] message.receiverId),
    (.messageText, message.text)] ++
  (if message.clientMsgId = [] then [] else [(.clientMessageId, message.clientMsgId)]) ++
  [(.timestampMs, appendUint64BE [] (UInt64.ofInt message.createdAtMs))]

theorem appendMessageFields_eq (message : MessageRecord) (packet : Packet) :
    appendMessageFields message packet =
      (appendFields (messageFields message) packet.body >>= fun body =>
        .ok { packet with body }) := by
  by_cases hempty : message.clientMsgId = []
  · simp only [appendMessageFields, appendFields, messageFields, hempty, appendConversationType,
      appendUint64, appendString, if_true, cons_append, nil_append, foldlM_cons,
      foldlM_nil, bind_assoc, pure_bind]
    rfl
  · simp only [appendMessageFields, appendFields, messageFields, hempty, appendConversationType,
      appendUint64, appendString, if_false, cons_append, nil_append, foldlM_cons,
      foldlM_nil, bind_assoc, pure_bind]

variable {packet filled : Packet} {message : MessageRecord}

/-- A packet that could be filled is the packet with the fields behind its body. -/
theorem appendMessageFields_ok (happend : appendMessageFields message packet = .ok filled) :
    (∀ field ∈ messageFields message, Encodable field) ∧
      filled = { packet with body := packet.body ++ encodeFields (messageFields message) } := by
  rw [appendMessageFields_eq] at happend
  cases hfields : appendFields (messageFields message) packet.body with
  | error => simp [hfields, bind, Except.bind] at happend
  | ok =>
    simp only [hfields, bind, Except.bind, Except.ok.injEq] at happend
    obtain ⟨hencodable, rfl⟩ := appendFields_eq_ok_iff.mp hfields
    exact ⟨hencodable, happend.symm⟩

/-- A message whose texts fit into fields can be put into a packet. -/
theorem exists_appendMessageFields (packet : Packet)
    (htext : message.text.length ≤ kMaxTlvValueLength.toNat)
    (hclientMsgId : message.clientMsgId.length ≤ kMaxTlvValueLength.toNat) :
    ∃ filled, appendMessageFields message packet = .ok filled := by
  have hnumber : ∀ type value, type ≠ TlvType.unknown →
      Encodable (type, appendUint64BE [] value) := by
    intro type value htype
    refine ⟨htype, ?_⟩
    rw [appendUint64BE_eq, nil_append, BigEndian.length_digits]
    decide
  have hoptional : ∀ field ∈
      (if message.clientMsgId = [] then [] else [(TlvType.clientMessageId, message.clientMsgId)]),
      Encodable field := by
    intro field hmem
    by_cases hempty : message.clientMsgId = []
    · simp [hempty] at hmem
    · rw [if_neg hempty, mem_singleton] at hmem
      rw [hmem]
      exact ⟨show TlvType.clientMessageId ≠ .unknown by decide, hclientMsgId⟩
  have hencodable : ∀ field ∈ messageFields message, Encodable field := by
    intro field hmem
    rw [messageFields, mem_append, mem_append] at hmem
    rcases hmem with (hfirst | hmiddle) | hlast
    · simp only [mem_cons, not_mem_nil, or_false] at hfirst
      rcases hfirst with rfl | rfl | rfl | rfl | rfl | rfl
      · exact hnumber _ _ (by decide)
      · exact hnumber _ _ (by decide)
      · exact hnumber _ _ (by decide)
      · exact hnumber _ _ (by decide)
      · exact hnumber _ _ (by decide)
      · exact ⟨show TlvType.messageText ≠ .unknown by decide, htext⟩
    · exact hoptional field hmiddle
    · rw [mem_singleton.mp hlast]
      exact hnumber _ _ (by decide)
  rw [appendMessageFields_eq, appendFields_eq_ok_iff.mpr ⟨hencodable, rfl⟩]
  exact ⟨_, rfl⟩

namespace Tables

/-- Texts are as long as their columns allow: `TEXT`, and `VARCHAR(64)` of up to four bytes
for each character. -/
def FitsColumns (tables : Tables) : Prop :=
  ∀ row ∈ tables.messages, row.messageText.length ≤ 65535 ∧
    ∀ clientMsgId, row.clientMsgId = some clientMsgId → clientMsgId.length ≤ 256

/-- What the columns hold fits into fields. -/
theorem FitsColumns.toRecord {tables : Tables} (hfits : tables.FitsColumns) {row : MessageRow}
    (hmem : row ∈ tables.messages) :
    row.toRecord.text.length ≤ kMaxTlvValueLength.toNat ∧
      row.toRecord.clientMsgId.length ≤ kMaxTlvValueLength.toNat := by
  obtain ⟨htext, hclientMsgId⟩ := hfits row hmem
  refine ⟨htext.trans (by decide), ?_⟩
  cases hsome : row.clientMsgId with
  | none => simp [MessageRow.toRecord, hsome]
  | some clientMsgId =>
    rw [MessageRow.toRecord, hsome]
    exact (hclientMsgId clientMsgId hsome).trans (by decide)

end Tables

/-! ## Several messages -/

/-- Put messages into a packet, one after another. -/
def appendMessages (messages : List MessageRecord) (packet : Packet) : Except Error Packet :=
  messages.foldlM (fun packet message => appendMessageFields message packet) packet

variable {messages : List MessageRecord}

/-- Messages whose texts fit into fields can be put into a packet. -/
theorem exists_appendMessages
    (hfits : ∀ message ∈ messages, message.text.length ≤ kMaxTlvValueLength.toNat ∧
      message.clientMsgId.length ≤ kMaxTlvValueLength.toNat) (packet : Packet) :
    ∃ filled, appendMessages messages packet = .ok filled := by
  induction messages generalizing packet with
  | nil => exact ⟨packet, rfl⟩
  | cons message messages ih =>
    rw [forall_mem_cons] at hfits
    obtain ⟨first, hfirst⟩ := exists_appendMessageFields packet hfits.1.1 hfits.1.2
    obtain ⟨filled, hfilled⟩ := ih hfits.2 first
    refine ⟨filled, ?_⟩
    rw [appendMessages, foldlM_cons, hfirst]
    exact hfilled

theorem appendMessages_ok (happend : appendMessages messages packet = .ok filled) :
    (∀ field ∈ messages.flatMap messageFields, Encodable field) ∧
      filled = { packet with
        body := packet.body ++ encodeFields (messages.flatMap messageFields) } := by
  apply foldlM_ok_induction happend (fun messages packet filled =>
    (∀ field ∈ messages.flatMap messageFields, Encodable field) ∧
      filled = { packet with
        body := packet.body ++ encodeFields (messages.flatMap messageFields) })
  · simp [encodeFields]
  · rintro message messages packet mid filled hfirst ⟨hencodable, rfl⟩
    obtain ⟨hfields, rfl⟩ := appendMessageFields_ok hfirst
    refine ⟨?_, ?_⟩
    · intro field hmem
      rw [flatMap_cons, mem_append] at hmem
      exact hmem.elim (hfields field) (hencodable field)
    · simp [encodeFields, flatMap_append]

/-- The message ids a packet carries. -/
def messageIdsOf (packet : Packet) : Except Error (List UInt64) := do
  let fields ← parseTlvMap packet.body
  getRepeatedUint64 fields .messageId

/-- Every field but the optional one occurs once in the fields of a message. -/
theorem valuesOf_messageFields {type : TlvType} (htype : type ≠ .clientMessageId)
    (message : MessageRecord) :
    valuesOf type (messageFields message) =
      valuesOf type (messageFields { message with clientMsgId := [] }) := by
  have hoptional : valuesOf type (if message.clientMsgId = [] then []
      else [(TlvType.clientMessageId, message.clientMsgId)]) = [] := by
    by_cases hempty : message.clientMsgId = []
    · rw [if_pos hempty]
      rfl
    · rw [if_neg hempty]
      simp [valuesOf, Ne.symm htype]
  rw [messageFields, messageFields, valuesOf_append, valuesOf_append, valuesOf_append,
    valuesOf_append, hoptional]
  rfl

/-- What is parsed from an empty packet that was filled with messages: a column of values for
each field that every message has. -/
theorem parse_appendMessages (hbody : packet.body = [])
    (happend : appendMessages messages packet = .ok filled) :
    ∃ fields, parseTlvMap filled.body = .ok fields ∧
      (messages = [] → ∀ type, fields type = none) ∧
      ∀ type, type ≠ .clientMessageId → ∀ value : MessageRecord → Bytes,
        (∀ message, valuesOf type (messageFields { message with clientMsgId := [] }) =
          [value message]) → findValues fields type = messages.map value := by
  obtain ⟨hencodable, rfl⟩ := appendMessages_ok happend
  refine ⟨collectFields (fun _ => none) (messages.flatMap messageFields), ?_, ?_, ?_⟩
  · rw [hbody, nil_append]
    exact parseTlvMap_encodeFields fun field hmem => (hencodable field hmem).2
  · rintro rfl type
    rfl
  · intro type htype value hone
    have hvalues := findValues_collectFields (fun _ => none) type
      (messages.flatMap messageFields)
    rw [valuesOf_flatMap (fun message => (valuesOf_messageFields htype message).trans
      (hone message))] at hvalues
    exact hvalues

/-- The ids in an empty packet that was filled with messages. -/
theorem messageIdsOf_appendMessages (hbody : packet.body = [])
    (happend : appendMessages messages packet = .ok filled) :
    messageIdsOf filled = if messages = [] then
      Status.error .notFound "missing required repeated uint64 field"
      else .ok (messages.map MessageRecord.messageId) := by
  obtain ⟨fields, hparse, _, hcolumns⟩ := parse_appendMessages hbody happend
  have hvalues := hcolumns .messageId (by decide) (fun message =>
    appendUint64BE [] message.messageId) (fun message => rfl)
  simp only [messageIdsOf, hparse, bind, Except.bind]
  by_cases hempty : messages = []
  · subst hempty
    rw [if_pos rfl, getRepeatedUint64, hvalues]
    rfl
  · rw [if_neg hempty]
    refine getRepeatedUint64_of_findValues ?_ (by simpa using hempty)
    rw [hvalues, map_map]
    rfl

/-- A message is returned in a packet. -/
def Carries (packet : Packet) (messageId : UInt64) : Prop :=
  ∃ messageIds, messageIdsOf packet = .ok messageIds ∧ messageId ∈ messageIds

/-- A packet that was filled with messages carries those. -/
theorem carries_iff (hbody : packet.body = [])
    (happend : appendMessages messages packet = .ok filled) {messageId : UInt64} :
    Carries filled messageId ↔ ∃ message ∈ messages, message.messageId = messageId := by
  rw [Carries, messageIdsOf_appendMessages hbody happend]
  by_cases hempty : messages = []
  · simp [hempty, Status.error]
  · simp [hempty]

/-- The message id a packet carries. -/
def messageIdOf (packet : Packet) : Except Error UInt64 := do
  let fields ← parseTlvMap packet.body
  getUint64 fields .messageId

/-- Filling an empty packet with a message makes it carry the message's id. -/
theorem messageIdOf_appendMessageFields (hbody : packet.body = [])
    (happend : appendMessageFields message packet = .ok filled) :
    messageIdOf filled = .ok message.messageId := by
  obtain ⟨hencodable, rfl⟩ := appendMessageFields_ok happend
  have hparse : parseTlvMap (packet.body ++ encodeFields (messageFields message)) =
      .ok (collectFields (fun _ => none) (messageFields message)) := by
    rw [hbody, nil_append]
    exact parseTlvMap_encodeFields fun field hmem => (hencodable field hmem).2
  have hfirst := findValue_collectFields_cons .messageId (appendUint64BE [] message.messageId)
    (messageFields message).tail
  simp only [messageIdOf, hparse, bind, Except.bind]
  exact getUint64_of_findValue hfirst

end LiteIM
