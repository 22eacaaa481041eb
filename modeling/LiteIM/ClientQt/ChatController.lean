/-
# Messages in the Qt client

A response carries messages as interleaved fields of one body. `ChatController` reads the
fields of each type as a column, checks that the columns are equally long and makes the
messages row by row; the single message of a push is read field by field. Both find in a body
what the server put there: every message of the server has one value in each column that is
read, and the optional client message id is in none of them.
-/

import LiteIM.Service.MessagePacketBuilder
import LiteIM.Protocol.TlvRoundTrip

namespace LiteIM.ClientQt

open Foundation List ConversationType

inductive MessageDirection where
  | incoming
  | outgoing
  deriving DecidableEq, Repr

inductive MessageSendStatus where
  | sending
  | succeeded
  | failed
  deriving DecidableEq, Repr

/-- A message as it is shown; `sentAt` is in milliseconds since the epoch. -/
structure ChatMessage where
  conversationId : String
  messageId : UInt64
  senderId : UInt64
  senderName : String
  text : String
  sentAt : Int64
  direction : MessageDirection
  status : MessageSendStatus
  deriving DecidableEq, Repr

namespace ChatController

section Parsers

-- `QString::fromUtf8`, and the user the session is logged in as.
variable (fromUtf8 : Bytes → String) (selfUserId : UInt64)

end Parsers

/-! ## What a message shows of a record -/

variable {fromUtf8 : Bytes → String} {selfUserId : UInt64}

/-- The fields hold one value of each record in every column. -/
structure Columns (fields : TlvMap) (records : List MessageRecord) : Prop where
  messageIds : findValues fields .messageId =
    (records.map fun record => record.messageId).map (appendUint64BE [])
  conversationTypes : findValues fields .conversationType =
    (records.map fun record => record.conversation.type.toUInt64).map (appendUint64BE [])
  conversationIds : findValues fields .conversationId =
    (records.map fun record => record.conversation.id).map (appendUint64BE [])
  senderIds : findValues fields .senderId =
    (records.map fun record => record.senderId).map (appendUint64BE [])
  receiverIds : findValues fields .receiverId =
    (records.map fun record => record.receiverId).map (appendUint64BE [])
  texts : findValues fields .messageText = records.map fun record => record.text
  timestampMsValues : findValues fields .timestampMs =
    (records.map fun record => UInt64.ofInt record.createdAtMs).map (appendUint64BE [])

variable {header : PacketHeader} {packet : Packet}

theorem columns_of_appendMessages {records : List MessageRecord}
    (happend : appendMessages records ⟨header, []⟩ = .ok packet) :
    ∃ fields, parseTlvMap packet.body = .ok fields ∧
      (records = [] → fields .messageId = none) ∧ Columns fields records := by
  obtain ⟨fields, hparse, hnone, hcolumns⟩ := parse_appendMessages rfl happend
  have hnumbers : ∀ type, type ≠ .clientMessageId → ∀ value : MessageRecord → UInt64,
      (∀ record, valuesOf type (messageFields { record with clientMsgId := [] }) =
        [appendUint64BE [] (value record)]) →
      findValues fields type = (records.map value).map (appendUint64BE []) := by
    intro type htype value hone
    rw [hcolumns type htype _ hone, map_map]
    rfl
  refine ⟨fields, hparse, fun hempty => hnone hempty _, ?_, ?_, ?_, ?_, ?_, ?_, ?_⟩
  · exact hnumbers _ (by decide) _ fun record => rfl
  · exact hnumbers _ (by decide) _ fun record => rfl
  · exact hnumbers _ (by decide) _ fun record => rfl
  · exact hnumbers _ (by decide) _ fun record => rfl
  · exact hnumbers _ (by decide) _ fun record => rfl
  · exact hcolumns _ (by decide) _ fun record => rfl
  · exact hnumbers _ (by decide) _ fun record => rfl

end ChatController

end LiteIM.ClientQt
