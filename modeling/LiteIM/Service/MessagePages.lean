/-
# Message pages fit in a frame

The frame format bounds the body of a packet, the services bound the texts of a message
when it is sent, and the number of messages when they are read. Here these bounds meet: a
message takes a bounded number of bytes, so a page of history or of offline messages fits
in a frame, and so does the packet of a single message. None of the handlers measures a
body, so it is the checks at the time of sending on which this rests.
-/

import LiteIM.Service.HistoryAccess
import LiteIM.Service.OfflineMessageService

namespace LiteIM

open Foundation ChatService Pool World OfflineMessageService List

/-! ## The size of a message -/

/-- The length of six numbers and two texts, each with its header. -/
def kMaxMessageBytes : Nat :=
  6 * (kTlvHeaderSize + 8) + (kTlvHeaderSize + kMaxMessageTextBytes) +
    (kTlvHeaderSize + kMaxClientMessageIdBytes)

/-- The texts of a message are no longer than a sender may make them. -/
structure MessageRecord.WithinLimits (message : MessageRecord) : Prop where
  text : message.text.length ≤ kMaxMessageTextBytes
  clientMsgId : message.clientMsgId.length ≤ kMaxClientMessageIdBytes

@[simp]
theorem length_appendUint64BE_nil (value : UInt64) : (appendUint64BE [] value).length = 8 := by
  simp [appendUint64BE_eq]

variable {message : MessageRecord}

theorem MessageRecord.WithinLimits.length_le (hlimits : message.WithinLimits) :
    (encodeFields (messageFields message)).length ≤ kMaxMessageBytes := by
  have htext := hlimits.text
  have hclient := hlimits.clientMsgId
  have hoptional : (encodeFields (if message.clientMsgId = [] then []
      else [(TlvType.clientMessageId, message.clientMsgId)])).length ≤
      kTlvHeaderSize + kMaxClientMessageIdBytes := by
    by_cases hempty : message.clientMsgId = []
    · simp [hempty]
    · simpa [hempty, length_fieldBytes] using hclient
  rw [messageFields, encodeFields_append, encodeFields_append, length_append,
    length_append]
  simp only [encodeFields_cons, encodeFields_nil, length_append, length_fieldBytes,
    length_appendUint64BE_nil, length_nil, kMaxMessageBytes]
  omega

variable {messages : List MessageRecord}

/-- So many messages fit in a frame. -/
theorem sendable_appendMessages {msgType : MessageType} {seqId : UInt64}
    (hlimits : ∀ message ∈ messages, message.WithinLimits) (hcount : messages.length ≤ 100) :
    Sendable (appendMessages messages { header := { msgType, seqId }, body := [] }) := by
  have hfields : ∀ message ∈ messages, message.text.length ≤ kMaxTlvValueLength.toNat ∧
      message.clientMsgId.length ≤ kMaxTlvValueLength.toNat := by
    intro message hmem
    exact ⟨Nat.le_trans (hlimits message hmem).text (by decide),
      Nat.le_trans (hlimits message hmem).clientMsgId (by decide)⟩
  obtain ⟨filled, hfilled⟩ :=
    exists_appendMessages hfields { header := { msgType, seqId }, body := [] }
  obtain ⟨-, hpacket⟩ := appendMessages_ok hfilled
  have hlength :=
    length_encodeFields_flatMap_le fun message hmem => (hlimits message hmem).length_le
  have hfits : 100 * kMaxMessageBytes ≤ kMaxPacketBodyLength.toNat := by decide
  rw [hfilled, hpacket]
  apply Packet.Encodable.sendable
  refine Packet.encodable_of_body_le rfl rfl rfl ?_
  rw [nil_append]
  exact Nat.le_trans (Nat.le_trans hlength (Nat.mul_le_mul_right _ hcount)) hfits

theorem sendable_appendMessageFields {msgType : MessageType} {seqId : UInt64}
    (hlimits : message.WithinLimits) :
    Sendable (appendMessageFields message { header := { msgType, seqId }, body := [] }) := by
  have hone : appendMessages [message] { header := { msgType, seqId }, body := [] } =
      appendMessageFields message { header := { msgType, seqId }, body := [] } := by
    rw [appendMessages, foldlM_cons]
    exact bind_pure _
  rw [← hone]
  exact sendable_appendMessages (by simpa using hlimits) (Nat.one_le_ofNat)

/-! ## The messages that are stored -/

/-- Every stored message keeps to the limits. -/
def Tables.WithinLimits (tables : Tables) : Prop :=
  ∀ row ∈ tables.messages, row.toRecord.WithinLimits

theorem ChatService.readClientMessageId_length_le {fields : TlvMap} {clientMsgId : Bytes}
    (hread : readClientMessageId fields = .ok clientMsgId) :
    clientMsgId.length ≤ kMaxClientMessageIdBytes := by
  rw [readClientMessageId] at hread
  split at hread
  · rw [← Except.ok.inj hread]
    exact Nat.zero_le _
  · obtain ⟨value, -, hread⟩ := bind_eq_ok_iff.mp hread
    split_ifs at hread with hempty
    obtain ⟨_, hlength, hread⟩ := bind_eq_ok_iff.mp hread
    rw [← Except.ok.inj hread]
    exact validateMaxBytes_eq_ok_iff.mp hlength

namespace MessagePages

/-- The requests that store or read messages. -/
inductive Action where
  | conversation (action : HistoryService.Action)
  | pull (request : RouterRequest)

variable (historyService : HistoryService) (offlineService : OfflineMessageService)

def Action.handle : Action → Service Packet
  | .conversation action => action.handle historyService
  | .pull request => offlineService.handleOfflineMessages request

/-- A pull asks for no more messages than its service allows. -/
def Pulls : Event services → Prop
  | ⟨.session (.getUserBySession _), _⟩ => True
  | ⟨.storage (.getOfflineMessages _ limit), _⟩ => limit ≤ offlineService.maxMessagesPerPull
  | _ => False

def Action.Justified : Action → List (Event services) → Event services → Prop
  | .conversation action => action.Justified
  | .pull _ => fun _ => Pulls offlineService

/-- The response is what was read. -/
def Action.Answered : Action → List (Event services) → Packet → Prop
  | .conversation (.history request) => fun history response => ∃ query messages,
      ⟨.storage (.getHistory query), .ok messages⟩ ∈ history ∧
        HistoryService.historyResponse request messages = .ok response
  | .conversation _ => fun _ _ => True
  | .pull request => fun history response => ∃ userId limit records,
      ⟨.storage (.getOfflineMessages userId limit), .ok records⟩ ∈ history ∧
        pullResponse request records = .ok response

theorem Action.handle_yields (action : Action) :
    Fallible.Yields (action.Justified offlineService) action.Answered []
      (action.handle historyService offlineService) := by
  cases action with
  | pull request =>
    apply offlineService.handleOfflineMessages_yields request
    · exact fun _ _ _ => trivial
    · exact fun _ _ _ _ hlimit => requestLimit_le hlimit
  | conversation action =>
    cases action with
    | privateMessage request =>
      exact HistoryService.Action.handle_yields historyService (.privateMessage request)
    | groupMessage request =>
      exact HistoryService.Action.handle_yields historyService (.groupMessage request)
    | history request =>
      apply (HistoryService.Action.handle_yields historyService (.history request)).mono
      rintro history response - ⟨userId, query, messages, -, -, -, hread, hresponse⟩
      exact ⟨query, messages, hread, hresponse⟩

variable {historyService : HistoryService} {offlineService : OfflineMessageService}

/-- A message that a handler may save keeps to the limits. -/
theorem Action.withinLimits_of_justified {action : Action} {history : List (Event services)}
    {offlineUserIds : List UInt64} {reply : Except Error MessageRecord}
    (hjustified : action.Justified offlineService history
      ⟨.storage (.saveMessageWithOfflineRecipients message offlineUserIds), reply⟩) :
    message.WithinLimits := by
  cases action with
  | pull => exact hjustified.elim
  | conversation action =>
    cases action with
    | privateMessage =>
      exact ⟨readMessageText_ok hjustified.1.text,
        readClientMessageId_length_le hjustified.1.clientMsgId⟩
    | groupMessage =>
      obtain ⟨groupId, members, plan, hplanned, rfl, -⟩ := hjustified
      refine ⟨readMessageText_ok hplanned.text, ?_⟩
      rw [hplanned.clientMsgId]
      exact Nat.zero_le _
    | history => exact hjustified.elim

theorem withinLimits_congr {before after : Tables} (hlimits : before.WithinLimits)
    (hmessages : after.messages = before.messages) : after.WithinLimits := by
  intro row hmem
  rw [hmessages] at hmem
  exact hlimits row hmem

variable {tables : Tables}

/-- What a save stores is what it was asked to, or without the client id. -/
theorem withinLimits_savedRow {saved : MessageRecord} {offlineUserIds : List UInt64}
    {row : MessageRow} (hrow : SavedRow tables message offlineUserIds saved row)
    (hlimits : message.WithinLimits) : row.toRecord.WithinLimits := by
  refine ⟨?_, ?_⟩
  · show row.messageText.length ≤ kMaxMessageTextBytes
    rw [hrow.text]
    exact hlimits.text
  · show (row.clientMsgId.getD []).length ≤ kMaxClientMessageIdBytes
    rw [hrow.clientMsgId, Tables.nullIfEmpty]
    split
    · exact Nat.zero_le _
    · exact hlimits.clientMsgId

theorem Action.withinLimits {action : Action} {history : List (Event services)}
    {event : Event services} {before after : Tables}
    (hjustified : action.Justified offlineService history event)
    (heffect : Effect before after event) (hlimits : before.WithinLimits) :
    after.WithinLimits := by
  rcases heffect.cases with ⟨message, offlineUserIds, saved, rfl, hsaves⟩ |
    ⟨userId, messageId, -, -, hadds⟩ | ⟨-, hkeeps⟩
  · obtain ⟨row, hmessages, hrow⟩ := savedRow_of_saves hsaves
    intro other hmem
    rw [hmessages] at hmem
    rcases mem_append.mp hmem with hold | hnew
    · exact hlimits other hold
    · rw [mem_singleton.mp hnew]
      exact withinLimits_savedRow hrow (withinLimits_of_justified hjustified)
  · exact withinLimits_congr hlimits hadds.messages
  · exact withinLimits_congr hlimits hkeeps.messages

/-! ## What is read from them -/

theorem withinLimits_getHistory (hlimits : tables.WithinLimits) {query : HistoryQuery}
    (hget : tables.getHistoryByConversation query = .ok messages) :
    (∀ message ∈ messages, message.WithinLimits) ∧ messages.length ≤ 50 := by
  refine ⟨fun message hmem => ?_, ?_⟩
  · obtain ⟨row, hrow, -, rfl⟩ := Tables.getHistoryByConversation_mem hget hmem
    exact hlimits row hrow
  · rw [Tables.getHistoryByConversation_ok hget, length_map, length_take]
    exact Nat.le_trans (Nat.min_le_left _ _) (Nat.min_le_right _ _)

theorem withinLimits_getOfflineMessages (hlimits : tables.WithinLimits) {userId : UInt64}
    {limit : Nat} {records : List OfflineMessageRecord}
    (hget : tables.getOfflineMessages userId limit = .ok records) :
    (∀ record ∈ records, record.message.WithinLimits) ∧ records.length ≤ limit := by
  simp only [Tables.getOfflineMessages, Status.error] at hget
  split_ifs at hget with huser hlimit
  rw [← Except.ok.inj hget]
  refine ⟨fun record hmem => ?_, length_take_le _ _⟩
  obtain ⟨row, -, hjoin⟩ := mem_filterMap.mp (mem_of_mem_take hmem)
  obtain ⟨-, -, message, hstored, -, hrecord⟩ := Tables.joinOffline_eq_some hjoin
  rw [hrecord]
  exact hlimits message hstored

section Pool

variable {ι : Type} [DecidableEq ι] {faults : Faults} {actions : ι → Action} {world : World}

/-- Requests handled at once. -/
def handling (historyService : HistoryService) (offlineService : OfflineMessageService)
    (actions : ι → Action) (world : World) : Pool services ι (Except Error Packet) World :=
  start (fun i => ((actions i).handle historyService offlineService).run) world

/-- A run of them, with other things going on that store no message. -/
abbrev Runs (faults : Faults) :
    Pool services ι (Except Error Packet) World →
      Pool services ι (Except Error Packet) World → Prop :=
  Reaches (machine faults) HistoryService.Elsewhere fun _ _ _ => True

variable {last : Pool services ι (Except Error Packet) World}

theorem Runs.withinLimits
    (hruns : Runs faults (handling historyService offlineService actions world) last)
    (hempty : world.database.1.messages = []) : last.world.database.1.WithinLimits := by
  apply Reaches.justified_invariant hruns
    (fun i => (actions i).handle_yields historyService offlineService)
    fun pool => pool.world.database.1.WithinLimits
  · intro row hmem
    have hnone : row ∈ world.database.1.messages := hmem
    rw [hempty] at hnone
    cases hnone
  · intro pool i event next after hlimits hjustified hanswer
    exact Action.withinLimits hjustified (machine_effect hanswer).1 hlimits
  · intro pool after hlimits helsewhere
    exact withinLimits_congr hlimits helsewhere

variable {i : ι}

section

variable (hruns : Runs faults (handling historyService offlineService actions world) last)
include hruns

/-- Every page of history that was read can be sent. -/
theorem Runs.history_sendable (hempty : world.database.1.messages = []) {query : HistoryQuery}
    (hread : ⟨.storage (.getHistory query), .ok messages⟩ ∈ history last.log i)
    (request : RouterRequest) : Sendable (HistoryService.historyResponse request messages) := by
  obtain ⟨pool, next, after, hbefore, -, -, hanswer⟩ :=
    Reaches.occurred hruns (mem_history.mp hread) (fun hold => nomatch hold)
  obtain ⟨hlimits, hcount⟩ := withinLimits_getHistory (Runs.withinLimits hbefore hempty)
    (answered_of_ok hanswer)
  exact sendable_appendMessages hlimits (Nat.le_trans hcount (by decide))

/-- A pull asked for no more messages than its service allows. -/
theorem Runs.limit_le
    {request : RouterRequest} (haction : actions i = .pull request) {event : Event services}
    (hmem : event ∈ history last.log i) : Pulls offlineService event := by
  have hpulls := Reaches.each_history_invariant hruns
    (fun i => (actions i).handle_yields historyService offlineService)
    (fun i history => ∀ request, actions i = .pull request →
      ∀ event ∈ history, Pulls offlineService event)
    (fun _ _ _ _ hnone => nomatch hnone) ?_ i
  · exact hpulls request haction event hmem
  · intro j past event hpast hjustified request haction other hother
    rcases mem_append.mp hother with hold | hnew
    · exact hpast request haction other hold
    · rw [haction] at hjustified
      rw [mem_singleton.mp hnew]
      exact hjustified

/-- Every page of offline messages that was read can be sent. -/
theorem Runs.pull_sendable (hempty : world.database.1.messages = []) {request : RouterRequest}
    (haction : actions i = .pull request) {userId : UInt64} {limit : Nat}
    {records : List OfflineMessageRecord}
    (hread : ⟨.storage (.getOfflineMessages userId limit), .ok records⟩ ∈
      history last.log i) : Sendable (pullResponse request records) := by
  have hlimit : limit ≤ offlineService.maxMessagesPerPull := hruns.limit_le haction hread
  obtain ⟨pool, next, after, hbefore, -, -, hanswer⟩ :=
    Reaches.occurred hruns (mem_history.mp hread) (fun hold => nomatch hold)
  obtain ⟨hlimits, hcount⟩ := withinLimits_getOfflineMessages
    (Runs.withinLimits hbefore hempty) (answered_of_ok hanswer)
  apply sendable_appendMessages
  · intro message hmem
    obtain ⟨record, hrecord, rfl⟩ := mem_map.mp hmem
    exact hlimits record hrecord
  · rw [length_map]
    exact Nat.le_trans hcount (Nat.le_trans hlimit offlineService.bounded)

end

end Pool

theorem sendable_deliveryAckResponse (request : RouterRequest) (message : MessageRecord) :
    Sendable (deliveryAckResponse request message) := by
  let fields : List (TlvType × Bytes) :=
    [(.messageId, appendUint64BE [] message.messageId),
      (.deliveryStatus, appendUint64BE [] DeliveryStatus.kDelivered.toUInt64)]
  have hencodable : ∀ field ∈ fields, Encodable field := by
    simp only [fields, forall_mem_cons, not_mem_nil, false_implies, implies_true,
      and_true, Encodable, length_appendUint64BE_nil]
    decide
  have hfields : appendFields fields [] = .ok (encodeFields fields) :=
    appendFields_eq_ok_iff.mpr ⟨hencodable, rfl⟩
  have hbuilt : deliveryAckResponse request message =
      (appendFields fields []).bind fun body => .ok
        { header := { msgType := .deliveryAckResponse, seqId := request.packet.header.seqId },
          body } := by
    simp only [deliveryAckResponse, appendFields, fields, appendUint64,
      foldlM_cons, foldlM_nil]
    rfl
  rw [hbuilt, hfields]
  apply Packet.Encodable.sendable
  refine Packet.encodable_of_body_le rfl rfl rfl ?_
  simp only [fields, encodeFields_cons, encodeFields_nil, length_append, length_fieldBytes,
    length_appendUint64BE_nil]
  decide

/-- The actions that return messages. -/
def Action.reads : Action → Bool
  | .conversation (.history _) => true
  | .pull _ => true
  | _ => false

/-- Every page that was read and every packet of a stored message can be sent. -/
structure Fits {ι : Type} [DecidableEq ι] (actions : ι → Action)
    (last : Pool services ι (Except Error Packet) World) : Prop where
  history : ∀ i request, actions i = .conversation (.history request) → ∀ query messages,
    ⟨.storage (.getHistory query), .ok messages⟩ ∈ history last.log i →
      Sendable (HistoryService.historyResponse request messages)
  pull : ∀ i request, actions i = .pull request → ∀ userId limit records,
    ⟨.storage (.getOfflineMessages userId limit), .ok records⟩ ∈ Pool.history last.log i →
      Sendable (pullResponse request records)
  returned : ∀ i response, (actions i).reads = true → last.threads i = .ret (.ok response) →
    Sendable (.ok response)
  push : ∀ row ∈ last.world.database.1.messages,
    Sendable (privatePush row.toRecord) ∧
      Sendable (GroupService.groupPush row.toRecord)
  response : ∀ row ∈ last.world.database.1.messages, ∀ request,
    Sendable (privateResponse request row.toRecord) ∧
      Sendable (GroupService.groupResponse request row.toRecord) ∧
      Sendable (deliveryAckResponse request row.toRecord)

/-- Pages fit into packets. In every run of sends, acknowledgements, history requests and pulls
that begins without messages, interleaved call by call, with any limits and any failures, every
page that was read and every packet with a stored message can be encoded. -/
theorem pages_fit {ι : Type} [DecidableEq ι] {faults : Faults}
    {historyService : HistoryService} {offlineService : OfflineMessageService}
    {actions : ι → Action} {world : World} {last : Pool services ι (Except Error Packet) World}
    (hruns : Runs faults (handling historyService offlineService actions world) last)
    (hempty : world.database.1.messages = []) : Fits actions last where
  history _ request _ _ _ hread := hruns.history_sendable hempty hread request
  pull _ _ haction _ _ _ hread := hruns.pull_sendable hempty haction hread
  returned i response hreads hended := by
    have hfollows := Reaches.follows hruns
      (fun i => (actions i).handle_yields historyService offlineService) i
    rw [hended] at hfollows
    have hanswered : (actions i).Answered (history last.log i) response :=
      hfollows response rfl
    cases haction : actions i with
    | pull =>
      rw [haction] at hanswered
      obtain ⟨userId, limit, records, hread, hresponse⟩ := hanswered
      rw [← hresponse]
      exact hruns.pull_sendable hempty haction hread
    | conversation action =>
      cases action with
      | history request =>
        rw [haction] at hanswered
        obtain ⟨query, messages, hread, hresponse⟩ := hanswered
        rw [← hresponse]
        exact hruns.history_sendable hempty hread request
      | privateMessage | groupMessage => simp [haction, Action.reads] at hreads
  push row hmem :=
    have hlimits := hruns.withinLimits hempty row hmem
    ⟨sendable_appendMessageFields hlimits, sendable_appendMessageFields hlimits⟩
  response row hmem request :=
    have hlimits := hruns.withinLimits hempty row hmem
    ⟨sendable_appendMessageFields hlimits, sendable_appendMessageFields hlimits,
      sendable_deliveryAckResponse request row.toRecord⟩

/-- User 1 sends a message to user 2 and reads the conversation; user 1 has nothing to
pull. -/
def sendReadPull : Fin 3 → Action
  | 0 => .conversation (HistoryService.sendAndRead false)
  | 1 => .conversation (HistoryService.sendAndRead true)
  | 2 => .pull { session := some ⟨11⟩, packet := {}, fields := fun _ => none }

def sentReadPulled : Pool services (Fin 3) (Except Error Packet) World :=
  (handling default default sendReadPull oneOnline).schedule
    (answer fun _ _ => .ok ())
    (((finRange 3).zip [9, 3, 2]).flatMap fun turn => replicate turn.2 turn.1)

theorem pages_fit_sentReadPulled :
    sentReadPulled.world.database.1.messages.length = 1 ∧
    (∃ response, sentReadPulled.threads 1 = .ret (.ok response)) ∧
    (∃ response, sentReadPulled.threads 2 = .ret (.ok response)) ∧
    Fits sendReadPull sentReadPulled := by
  refine ⟨rfl, ⟨_, rfl⟩, ⟨_, rfl⟩, ?_⟩
  have hruns : Runs .any (handling {} {} sendReadPull oneOnline) sentReadPulled :=
    reaches_schedule (machine_answer fun _ _ => trivial)
      (meets_of_forall (fun _ _ _ => trivial) _ _)
  exact pages_fit hruns rfl

end MessagePages

end LiteIM
