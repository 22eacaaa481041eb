/-
# Draining the mailbox

A client pulls offline messages, acknowledges what it got, and repeats this until a pull
returns nothing. Each pull carries a limit of its own, which the service cuts down to what
it allows. Meanwhile rows may be added for the user, with larger ids.

A pull is no more than a look at the front of the rows that wait, in the order of their
ids, and the acknowledgement of what it returned removes exactly those: the client drains a
queue.
-/

import LiteIM.Foundation.Drain
import LiteIM.Service.Mailbox
import LiteIM.Service.MessagePages
import LiteIM.Storage.OfflineAck

namespace LiteIM

open Foundation Mailbox World Fallible Tables Drain List

/-! ## The rows that wait -/

/-- Removing a beginning by the keys of its items. -/
theorem filter_notMem_map_take {α κ : Type} [DecidableEq κ] {key : α → κ} {items : List α}
    (hnodup : (items.map key).Nodup) (count : Nat) :
    items.filter (fun item => key item ∉ (items.take count).map key) = items.drop count := by
  induction items generalizing count with
  | nil => simp
  | cons first items ih =>
    cases count with
    | zero => simp
    | succ count =>
      rw [map_cons, nodup_cons] at hnodup
      rw [take_succ_cons, map_cons, drop_succ_cons,
        filter_cons_of_neg (by simp), ← ih hnodup.2 count]
      apply filter_congr
      intro item hmem
      have hother : key item ≠ key first := by
        rintro hsame
        exact hnodup.1 (hsame ▸ mem_map_of_mem hmem)
      simp [hother]

variable {after : Tables} {records : List OfflineMessageRecord} {messageIds : List UInt64}

namespace Tables

/-- The messages that wait for a user, as a pull without a limit would return them. -/
def pending (tables : Tables) (userId : UInt64) : List OfflineMessageRecord :=
  (tables.offlineMessages.filter fun row =>
    row.userId = userId ∧ row.delivered = false).filterMap tables.joinOffline

/-- There is a row of the user with this id, delivered or not. -/
def HasOfflineId (tables : Tables) (userId : UInt64) (id : Nat) : Prop :=
  ∃ row ∈ tables.offlineMessages, row.userId = userId ∧ row.offlineMessageId = id

variable {tables : Tables} {userId : UInt64}

variable {record : OfflineMessageRecord}

theorem mem_pending : record ∈ tables.pending userId ↔ ∃ row ∈ tables.offlineMessages,
      (row.userId = userId ∧ row.delivered = false) ∧ tables.joinOffline row = some record := by
  simp [pending, mem_filterMap, and_assoc]

theorem joinOffline_messageId {row : OfflineRow} (hjoin : tables.joinOffline row = some record) :
    record.message.messageId = row.messageId := by
  obtain ⟨-, -, message, -, hid, hrecord⟩ := joinOffline_eq_some hjoin
  rw [hrecord, ← hid]
  rfl

theorem getOfflineMessages_eq (huser : userId ≠ 0) {limit : Nat} (hlimit : 0 < limit) :
    tables.getOfflineMessages userId limit = .ok ((tables.pending userId).take limit) := by
  rw [getOfflineMessages, if_neg huser, if_neg (Nat.ne_of_gt hlimit), pending]

theorem Keyed.pending_sorted (hkeyed : tables.Keyed) :
    (tables.pending userId).Pairwise fun first second =>
      first.offlineMessageId < second.offlineMessageId := by
  refine Pairwise.filterMap _ ?_ (hkeyed.offline_sorted.filter _)
  intro first second hless record hrecord later hlater
  rw [(joinOffline_eq_some hrecord).1, (joinOffline_eq_some hlater).1]
  exact hless

theorem hasOfflineId_of_pending (hmem : record ∈ tables.pending userId) :
    tables.HasOfflineId userId record.offlineMessageId := by
  obtain ⟨row, hrow, ⟨huser, -⟩, hjoin⟩ := mem_pending.mp hmem
  exact ⟨row, hrow, huser, (joinOffline_eq_some hjoin).1.symm⟩

/-- A message waits for a user only once. -/
theorem Keyed.pending_nodup (hkeyed : tables.Keyed) :
    ((tables.pending userId).map fun record => record.message.messageId).Nodup := by
  rw [nodup_iff_pairwise_ne, pairwise_map]
  have hunique := hkeyed.offline_unique.filter
    fun row => decide (row.userId = userId ∧ row.delivered = false)
  rw [pending]
  refine Pairwise.filterMap _ (S := fun first second : OfflineMessageRecord =>
    first.message.messageId ≠ second.message.messageId) ?_
    (Pairwise.imp_of_mem (S := fun first second : OfflineRow =>
      first.messageId ≠ second.messageId) ?_ hunique)
  · intro first second hother record hrecord later hlater
    rw [joinOffline_messageId hrecord, joinOffline_messageId hlater]
    exact hother
  · intro first second hfirst hsecond hother hsame
    simp only [mem_filter, decide_eq_true_eq] at hfirst hsecond
    exact hother ⟨hfirst.2.1.trans hsecond.2.1.symm, hsame⟩

variable {nowMs : Int}

/-- What is acknowledged does not wait any more, and everything else waits as before. -/
theorem AcksExactly.pending (hacks : AcksExactly userId messageIds nowMs tables records after) :
    after.pending userId =
      (tables.pending userId).filter fun record => record.message.messageId ∉ messageIds := by
  rw [Tables.pending, Tables.pending, hacks.offline, filterMap_filter, filterMap_filter,
    filterMap_map, filter_filterMap]
  apply filterMap_congr
  intro row _
  have hjoin : after.joinOffline row = tables.joinOffline row := by
    rw [hacks.rest]
    rfl
  cases hdelivered : row.delivered with
  | true =>
    by_cases hacked : row.userId = userId ∧ row.messageId ∈ messageIds
    · simp [acknowledged, hacked, OfflineRow.markDelivered]
    · simp [acknowledged, hacked, hdelivered]
  | false =>
    cases hrecord : tables.joinOffline row with
    | none =>
      by_cases hacked : row.userId = userId ∧ row.messageId ∈ messageIds
      · simp [acknowledged, hacked, OfflineRow.markDelivered]
      · simp [acknowledged, hacked, hjoin, hrecord]
    | some =>
      have hid := joinOffline_messageId hrecord
      by_cases huser : row.userId = userId
      · by_cases hacked : row.messageId ∈ messageIds
        · simp [acknowledged, huser, hacked, OfflineRow.markDelivered, Option.filter, hid]
        · simp [acknowledged, huser, hacked, hjoin, hdelivered, hrecord, Option.filter, hid]
      · simp [acknowledged, huser]

theorem AcksExactly.hasOfflineId
    (hacks : AcksExactly userId messageIds nowMs tables records after) {id : Nat}
    (hhas : tables.HasOfflineId userId id) : after.HasOfflineId userId id := by
  obtain ⟨row, hrow, huser, hid⟩ := hhas
  refine ⟨acknowledged userId messageIds nowMs row, ?_, ?_⟩
  · rw [hacks.offline]
    exact mem_map_of_mem hrow
  · rw [acknowledged]
    split_ifs
    · exact ⟨huser, hid⟩
    · exact ⟨huser, hid⟩

/-- An acknowledgement of the first messages leaves the others. -/
theorem AcksExactly.pending_drop (hkeyed : tables.Keyed) {count : Nat} (hacks : AcksExactly userId
      (((tables.pending userId).take count).map fun record => record.message.messageId) nowMs
      tables records after) : after.pending userId = (tables.pending userId).drop count := by
  rw [hacks.pending]
  exact filter_notMem_map_take hkeyed.pending_nodup count

/-- Rows behind the others wait behind the others. -/
theorem Keyed.pending_append (hkeyed : tables.Keyed) {rows : List OfflineRow}
    {messages : List MessageRow} (hrows : after.offlineMessages = tables.offlineMessages ++ rows)
    (hmessages : after.messages = tables.messages ++ messages) :
    after.pending userId = tables.pending userId ++
      (rows.filter fun row => row.userId = userId ∧ row.delivered = false).filterMap
        after.joinOffline := by
  rw [pending, pending, hrows, filter_append, filterMap_append]
  congr 1
  apply filterMap_congr
  intro row hmem
  obtain ⟨record, hjoin⟩ := hkeyed.exists_joinOffline (mem_filter.mp hmem).1
  rw [hjoin]
  obtain ⟨message, hfind, hrecord⟩ := Option.map_eq_some_iff.mp hjoin
  rw [joinOffline, hmessages, find?_append, hfind, Option.some_or, Option.map_some, hrecord]

/-- Messages that wait can be acknowledged. -/
theorem Keyed.canAck_pending (hkeyed : tables.Keyed) (huser : userId ≠ 0) (count : Nat) :
    tables.CanAck userId
      (((tables.pending userId).take count).map fun record => record.message.messageId) := by
  refine ⟨huser, fun messageId hmem => ?_⟩
  obtain ⟨record, hrecord, rfl⟩ := mem_map.mp hmem
  obtain ⟨row, hrow, ⟨hsame, -⟩, hjoin⟩ := mem_pending.mp (mem_of_mem_take hrecord)
  rw [joinOffline_messageId hjoin]
  refine ⟨?_, hasOffline_iff.mpr ⟨row, hrow, hsame, rfl⟩⟩
  obtain ⟨message, hmessage, hid⟩ := hasMessage_iff.mp (hkeyed.offline_message row hrow)
  intro hzero
  have hpositive := hkeyed.message_pos message hmessage
  rw [hid, hzero] at hpositive
  exact absurd hpositive (by decide)

/-- Messages that wait fit into fields. -/
theorem FitsColumns.pending (hfits : tables.FitsColumns) :
    ∀ record ∈ tables.pending userId,
      record.message.text.length ≤ kMaxTlvValueLength.toNat ∧
        record.message.clientMsgId.length ≤ kMaxTlvValueLength.toNat := by
  intro record hmem
  obtain ⟨row, -, -, hjoin⟩ := mem_pending.mp hmem
  obtain ⟨-, -, message, hmessage, -, hrecord⟩ := joinOffline_eq_some hjoin
  rw [hrecord]
  exact hfits.toRecord hmessage

end Tables

/-! ## The handlers -/

variable {world : World} {result : Except Error Packet}

namespace OfflineMessageService

variable {faults : Faults} {request : RouterRequest} {userId : UInt64}

/-- Whatever fails, a pull writes neither to storage nor to the cache. -/
theorem handleOfflineMessages_reads (service : OfflineMessageService) {last : World}
    {trace : List (Event services)}
    (hexec : (service.handleOfflineMessages request).run.Exec (machine faults) world trace
      result last) : last.database = world.database ∧ last.redis = world.redis := by
  have hyields := MessagePages.Action.handle_yields {} service (.pull request)
  apply hexec.justified_invariant hyields
    (fun _ next => next.database = world.database ∧ next.redis = world.redis) ⟨rfl, rfl⟩
  rintro past ⟨call, reply⟩ before next ⟨hdatabase, hredis⟩ hpulls hanswer
  cases call with
  | session =>
    rw [machine_session_database hanswer, machine_session_redis hanswer]
    exact ⟨hdatabase, hredis⟩
  | cache => exact hpulls.elim
  | storage call =>
    rw [machine_storage_redis hanswer]
    refine ⟨?_, hredis⟩
    cases call with
    | getOfflineMessages =>
      rcases machine_next hanswer with rfl | rfl
      · exact hdatabase
      · exact hdatabase
    | _ => exact hpulls.elim

/-- The request asks for a positive number of messages. -/
def PositiveLimit (request : RouterRequest) : Prop :=
  ∃ limit, getUint64 request.fields .limit = .ok limit ∧ limit ≠ 0

theorem exists_requestLimit (service : OfflineMessageService) (hpositive : PositiveLimit request) :
    ∃ limit, service.requestLimit request = .ok limit ∧ 0 < limit := by
  obtain ⟨requestedLimit, hread, hnonzero⟩ := hpositive
  rw [requestLimit]
  split
  · exact ⟨_, rfl, service.positive⟩
  · rw [hread]
    by_cases hsmall : requestedLimit.toNat < service.maxMessagesPerPull
    · refine ⟨requestedLimit.toNat, ?_, ?_⟩
      · exact (if_neg hnonzero).trans (if_pos hsmall)
      · rw [Nat.pos_iff_ne_zero]
        intro hzero
        exact hnonzero (UInt64.toNat_inj.mp hzero)
    · exact ⟨_, (if_neg hnonzero).trans (if_neg hsmall), service.positive⟩

/-- A pull of a user answers with the first messages that wait. -/
theorem handleOfflineMessages_pending (service : OfflineMessageService)
    (hstorage : ¬ faults.storage) (huser : userId ≠ 0) {limit : Nat}
    (hlimit : service.requestLimit request = .ok limit) (hpositive : 0 < limit)
    (database : Database) :
    Program.Triple (machine faults)
      (fun world => world.database = database ∧ world.boundUser request = some userId)
      (service.handleOfflineMessages request).run
      fun result _ =>
        result = pullResponse request ((database.1.pending userId).take limit) := by
  refine triple_bind
    (fun value world => world.database = database ∧ value = userId) ?_ ?_
  · refine (currentUserId_triple faults request fun current _ => current = database).mono
      (fun _ => id) ?_
    rintro result world ⟨hdatabase, rfl⟩
    exact ⟨hdatabase, rfl⟩
  intro value
  rw [hlimit]
  refine triple_ofExcept_bind (by simp) ?_
  intro found hfound
  obtain rfl := Except.ok.inj hfound
  refine triple_bind
    (fun records _ => records = (database.1.pending userId).take limit) ?_ ?_
  · refine Service.storage_triple ?_
    rintro world reply next ⟨rfl, rfl⟩ hanswer
    rcases hanswer with hanswer | ⟨hfault, -⟩
    · obtain ⟨rfl, -⟩ := Prod.mk.inj hanswer
      rw [getOfflineMessages_eq huser hpositive]
      rfl
    · exact (hstorage hfault).elim
  intro records
  refine triple_ofExcept ?_
  rintro world rfl
  rfl

/-- The response to an acknowledgement holds numbers only. -/
theorem exists_ackResponse (request : RouterRequest) (records : List OfflineMessageRecord) :
    ∃ response, ackResponse request records = .ok response := by
  have happend : ∀ type value body, type ≠ TlvType.unknown →
      ∃ longer, appendUint64 type value body = .ok longer := by
    intro type value body htype
    refine ⟨_, appendValue_eq_ok_iff.mpr ⟨⟨htype, ?_⟩, rfl⟩⟩
    rw [length_appendUint64BE_nil]
    decide
  have hloop : ∀ body, ∃ longer, appendAckedMessageIds records body = .ok longer := by
    induction records with
    | nil => exact fun body => ⟨body, rfl⟩
    | cons record records ih =>
      intro body
      obtain ⟨first, hfirst⟩ := happend .messageId record.message.messageId body (by decide)
      obtain ⟨second, hsecond⟩ := happend .deliveryStatus DeliveryStatus.kDelivered.toUInt64
        first (by decide)
      obtain ⟨longer, hlonger⟩ := ih second
      refine ⟨longer, ?_⟩
      rw [appendAckedMessageIds, foldlM_cons, hfirst]
      exact (congrArg (fun result => result >>= _) hsecond).trans hlonger
  obtain ⟨body, hbody⟩ := hloop []
  rw [ackResponse, hbody]
  exact ⟨_, rfl⟩

/-- An acknowledgement that is possible succeeds, whether the counters could be cleared or
not. -/
theorem handleOfflineMessagesAck_acks (hstorage : ¬ faults.storage)
    (hids : getRepeatedUint64 request.fields .messageId = .ok messageIds)
    (hnonempty : messageIds ≠ []) {database : Database}
    (hcan : database.1.CanAck userId messageIds) : Program.Triple (machine faults)
      (fun world => world.database = database ∧ world.boundUser request = some userId)
      (handleOfflineMessagesAck request).run
      fun result world => (∃ response, result = .ok response) ∧
        ∃ nowMs records,
          AcksExactly userId messageIds nowMs database.1 records world.database.1 := by
  refine triple_bind
    (fun value world => world.database = database ∧ value = userId) ?_ ?_
  · refine (currentUserId_triple faults request fun current _ => current = database).mono
      (fun _ => id) ?_
    rintro result world ⟨hdatabase, rfl⟩
    exact ⟨hdatabase, rfl⟩
  intro value
  rw [hids]
  refine triple_ofExcept_bind (by simp) ?_
  intro found hfound
  obtain rfl := Except.ok.inj hfound
  refine triple_ofExcept_bind (by simp [hnonempty]) ?_
  intro _ _
  refine triple_bind (fun _ world => ∃ nowMs records,
    AcksExactly userId messageIds nowMs database.1 records world.database.1) ?_ ?_
  · refine Service.storage_triple ?_
    rintro world reply next ⟨rfl, rfl⟩ hanswer
    rcases hanswer with hanswer | ⟨hfault, -⟩
    · obtain ⟨records, after, hresult, hacks⟩ :=
        world.database.ackOfflineMessages_of_canAck world.redis.nowMs hcan
      have hreply : (reply, next) = (.ok records, { world with database := after }) := by
        rw [hanswer]
        simp only [answerStorage, hresult]
      cases hreply
      exact ⟨_, records, hacks⟩
    · exact (hstorage hfault).elim
  intro acked
  obtain ⟨response, hresponse⟩ := exists_ackResponse request acked
  rw [hresponse]
  refine triple_ofExcept_bind (by simp) ?_
  intro answer _
  refine triple_outcome_bind (fun _ world => ∃ nowMs records,
      AcksExactly userId messageIds nowMs database.1 records world.database.1)
    (clearConversations_triple (fun current => ∃ nowMs records,
      AcksExactly userId messageIds nowMs database.1 records current.1) _ _) ?_
  exact fun result => triple_pure fun world hacks => ⟨⟨answer, rfl⟩, hacks⟩

/-- A handler that sends nothing can be carried out, whatever may fail. -/
theorem exists_exec_of_yields (faults : Faults) {program : Service Packet}
    {post : List (Event services) → Packet → Prop}
    (hyields : Yields (fun _ event => ∀ session packet,
      event.call ≠ Call.session (.sendPacket session packet)) post [] program) (world : World) :
    ∃ trace result last, program.run.Exec (machine faults) world trace result last := by
  refine Program.Follows.exists_exec ?_ hyields world
  intro _ call world hquiet
  cases call with
  | cache | storage => exact ⟨_, _, Or.inl rfl⟩
  | session call =>
    cases call with
    | sendPacket session packet => exact (hquiet (.ok ()) session packet rfl).elim
    | _ => exact ⟨_, _, rfl⟩

end OfflineMessageService

/-! ## The client -/

namespace OfflineDrain

open OfflineMessageService

/-- What the client does next. -/
inductive Phase where
  | pulling
  | acking (messageIds : List UInt64)
  | finished
  | failed (status : Error)

structure Client where
  world : World
  phase : Phase

/-- An empty response ends the loop; otherwise the ids in it are acknowledged. -/
def afterPull : Except Error Packet → Phase
  | .error status => .failed status
  | .ok response =>
    if response.body = [] then .finished
    else
      match messageIdsOf response with
      | .ok messageIds => .acking messageIds
      | .error status => .failed status

def afterAck : Except Error Packet → Phase
  | .ok _ => .pulling
  | .error status => .failed status

/-- Rows with larger ids are added for the user. Anything may change besides that leaves the
user's rows alone. -/
structure Grows (userId : UInt64) (before after : Tables) (added : List OfflineMessageRecord) :
    Prop where
  pending : after.pending userId = before.pending userId ++ added
  kept : ∀ id, before.HasOfflineId userId id → after.HasOfflineId userId id
  larger : ∀ record ∈ added, ∀ id, before.HasOfflineId userId id → id < record.offlineMessageId
  fits : after.FitsColumns

/-- Storing a message for users that are offline is such a change. -/
theorem grows_of_saves {userId : UInt64} {before : Tables} {message saved : MessageRecord}
    {offlineUserIds : List UInt64} (hkeyed : before.Keyed)
    (hsaves : Saves message offlineUserIds before saved after) (hfits : after.FitsColumns) :
    ∃ added, Grows userId before after added := by
  obtain ⟨rows, hrows, -⟩ := hsaves.offline
  obtain ⟨row, -, hmessages, -⟩ := hsaves.row
  refine ⟨_, hkeyed.pending_append hrows hmessages, ?_, ?_, hfits⟩
  · rintro id ⟨old, hold, hkey⟩
    refine ⟨old, ?_, hkey⟩
    rw [hrows]
    exact mem_append_left _ hold
  · rintro record hrecord id ⟨old, hold, -, rfl⟩
    obtain ⟨new, hnew, hjoin⟩ := mem_filterMap.mp hrecord
    have hsorted := (hsaves.keyed hkeyed).offline_sorted
    rw [hrows, pairwise_append] at hsorted
    rw [(joinOffline_eq_some hjoin).1]
    exact hsorted.2.2 old hold new (mem_filter.mp hnew).1

inductive Label where
  | pull (request : RouterRequest) (result : Except Error Packet)
  | ack
  | add (records : List OfflineMessageRecord)

/-- The steps of the client, on whose session the user is logged in, and of others. -/
inductive Step (service : OfflineMessageService) (faults : Faults) (userId : UInt64) :
    Client → Label → Client → Prop where
  | pull {world next : World} {request : RouterRequest} {trace : List (Event services)}
      {result : Except Error Packet} (loggedIn : world.boundUser request = some userId)
      (limit : PositiveLimit request)
      (exec : (service.handleOfflineMessages request).run.Exec (machine faults) world trace
        result next) :
      Step service faults userId ⟨world, .pulling⟩ (.pull request result) ⟨next, afterPull result⟩
  | ack {world next : World} {request : RouterRequest} {messageIds : List UInt64}
      {trace : List (Event services)} {result : Except Error Packet}
      (loggedIn : world.boundUser request = some userId)
      (ids : getRepeatedUint64 request.fields .messageId = .ok messageIds)
      (exec : (handleOfflineMessagesAck request).run.Exec (machine faults) world trace
        result next) :
      Step service faults userId ⟨world, .acking messageIds⟩ .ack ⟨next, afterAck result⟩
  | add {world next : World} {phase : Phase} {records : List OfflineMessageRecord}
      (grows : Grows userId world.database.1 next.database.1 records) :
      Step service faults userId ⟨world, phase⟩ (.add records) ⟨next, phase⟩

/-- The pulls with their results. -/
def pulls (labels : List Label) : List (RouterRequest × Except Error Packet) :=
  labels.filterMap fun
    | .pull request result => some (request, result)
    | _ => none

/-- The records of all rows that were added. -/
def added (labels : List Label) : List OfflineMessageRecord :=
  labels.flatMap fun
    | .add records => records
    | _ => []

/-- A pull was answered with these records. -/
def Returned (pull : RouterRequest × Except Error Packet) (batch : List OfflineMessageRecord) :
    Prop :=
  ∃ response, pull.2 = .ok response ∧ pullResponse pull.1 batch = .ok response

/-! ## The client drains a queue -/

/-- A client and the queue it drains; a client that failed drains none. -/
inductive Views (userId : UInt64) : Client → Drain OfflineMessageRecord → Prop where
  | pulling {world : World} :
      Views userId ⟨world, .pulling⟩ ⟨world.database.1.pending userId, .pulling⟩
  | acking {world : World} {count : Nat} (within : count ≤ (world.database.1.pending userId).length)
      (positive : 0 < count) :
      Views userId ⟨world, .acking (((world.database.1.pending userId).take count).map
        fun record => record.message.messageId)⟩ ⟨world.database.1.pending userId, .acking count⟩
  | finished {world : World} :
      Views userId ⟨world, .finished⟩ ⟨world.database.1.pending userId, .finished⟩

/-- A step of the client and what it is for the queue. -/
inductive Matches : Label → Action OfflineMessageRecord → Prop where
  | pull {request : RouterRequest} {result : Except Error Packet}
      {batch : List OfflineMessageRecord} (returned : Returned (request, result) batch) :
      Matches (.pull request result) (.take batch)
  | ack : Matches .ack .ack
  | add {records : List OfflineMessageRecord} : Matches (.add records) (.add records)

variable {service : OfflineMessageService} {faults : Faults} {userId : UInt64}

/-- What the client makes of the response to a pull. -/
theorem exists_pullResponse (request : RouterRequest) {batch : List OfflineMessageRecord}
    (hfits : ∀ record ∈ batch, record.message.text.length ≤ kMaxTlvValueLength.toNat ∧
      record.message.clientMsgId.length ≤ kMaxTlvValueLength.toNat) :
    ∃ response, pullResponse request batch = .ok response ∧
      afterPull (.ok response) = if batch = [] then .finished
        else .acking (batch.map fun record => record.message.messageId) := by
  obtain ⟨response, hresponse⟩ : ∃ response, pullResponse request batch = .ok response :=
    exists_appendMessages (by simpa using hfits) _
  refine ⟨response, hresponse, ?_⟩
  have hids := messageIdsOf_appendMessages rfl hresponse
  by_cases hempty : batch = []
  · subst hempty
    rw [if_pos rfl, ← Except.ok.inj hresponse]
    rfl
  · rw [if_neg (by simpa using hempty), map_map] at hids
    have hbody : response.body ≠ [] := by
      intro hnil
      have hnone := messageIdsOf_appendMessages hnil
        (show appendMessages [] response = .ok response from rfl)
      cases hids.symm.trans hnone
    rw [if_neg hempty, afterPull, if_neg hbody, hids]
    rfl

variable {next : World}

/-- A pull, as a step of the queue. -/
theorem views_pull (hstorage : ¬ faults.storage) (huser : userId ≠ 0)
    (hfits : world.database.1.FitsColumns) {request : RouterRequest}
    {trace : List (Event services)} (hbound : world.boundUser request = some userId)
    (hlimit : PositiveLimit request)
    (hexec : (service.handleOfflineMessages request).run.Exec (machine faults) world trace
      result next) :
    ∃ batch drain, Drain.Step ⟨world.database.1.pending userId, .pulling⟩ (.take batch) drain ∧
      Returned (request, result) batch ∧ Views userId ⟨next, afterPull result⟩ drain := by
  obtain ⟨limit, hread, hpositive⟩ := service.exists_requestLimit hlimit
  have hresult := service.handleOfflineMessages_pending hstorage huser hread hpositive
    world.database world trace result next ⟨rfl, hbound⟩ hexec
  obtain ⟨hdatabase, -⟩ := service.handleOfflineMessages_reads hexec
  obtain ⟨response, hresponse, hafter⟩ := exists_pullResponse request
    fun record (hmem : record ∈ (world.database.1.pending userId).take limit) =>
      hfits.pending record (mem_of_mem_take hmem)
  rw [hresponse] at hresult
  subst hresult
  rw [hafter, ← hdatabase]
  rw [← hdatabase] at hresponse
  by_cases hempty : (next.database.1.pending userId).take limit = []
  · have hnone : next.database.1.pending userId = [] :=
      (take_eq_nil_iff.mp hempty).resolve_left (Nat.ne_of_gt hpositive)
    rw [if_pos hempty]
    refine ⟨[], ⟨[], .finished⟩, hnone ▸ .finish, ⟨response, rfl, hempty ▸ hresponse⟩, ?_⟩
    exact hnone ▸ Views.finished
  · rw [if_neg hempty]
    refine ⟨_, _, .take hempty, ⟨response, rfl, hresponse⟩, ?_⟩
    have hviews := @Views.acking userId next ((next.database.1.pending userId).take limit).length
      (length_take_le' _ _) (length_pos_iff.mpr hempty)
    rwa [← prefix_iff_eq_take.mp (List.take_prefix limit _)] at hviews

/-- An acknowledgement, as a step of the queue. -/
theorem views_ack (hstorage : ¬ faults.storage) (huser : userId ≠ 0) {request : RouterRequest}
    {trace : List (Event services)} {count : Nat}
    (hwithin : count ≤ (world.database.1.pending userId).length) (hpositive : 0 < count)
    (hbound : world.boundUser request = some userId)
    (hids : getRepeatedUint64 request.fields .messageId =
      .ok (((world.database.1.pending userId).take count).map
      fun record => record.message.messageId))
    (hexec : (handleOfflineMessagesAck request).run.Exec (machine faults) world trace
      result next) : next.database.1.messages = world.database.1.messages ∧
      (∀ id, world.database.1.HasOfflineId userId id → next.database.1.HasOfflineId userId id) ∧
      Views userId ⟨next, afterAck result⟩
        ⟨(world.database.1.pending userId).drop count, .pulling⟩ := by
  have hnonempty : ((world.database.1.pending userId).take count).map
      (fun record => record.message.messageId) ≠ [] := by
    rw [ne_eq, map_eq_nil_iff, take_eq_nil_iff]
    rintro (hzero | hnil)
    · exact Nat.ne_of_gt hpositive hzero
    · rw [hnil] at hwithin
      exact Nat.not_le_of_lt hpositive hwithin
  obtain ⟨⟨response, rfl⟩, nowMs, records, hacks⟩ := handleOfflineMessagesAck_acks hstorage hids
    hnonempty (world.database.2.canAck_pending huser count) world trace result next
    ⟨rfl, hbound⟩ hexec
  refine ⟨by rw [hacks.rest], fun _ => hacks.hasOfflineId, ?_⟩
  rw [← hacks.pending_drop world.database.2]
  exact Views.pulling

/-- Added rows, as a step of the queue. -/
theorem Views.grows {phase : Phase} {pending : List OfflineMessageRecord}
    {queuePhase : Drain.Phase} (hviews : Views userId ⟨world, phase⟩ ⟨pending, queuePhase⟩)
    (hgrows : Grows userId world.database.1 next.database.1 records) :
    Views userId ⟨next, phase⟩ ⟨pending ++ records, queuePhase⟩ := by
  cases hviews with
  | pulling =>
    rw [← hgrows.pending]
    exact .pulling
  | @acking _ count hwithin hpositive =>
    have hlonger : count ≤ (next.database.1.pending userId).length := by
      rw [hgrows.pending, length_append]
      exact Nat.le_add_right_of_le hwithin
    have hfront : (world.database.1.pending userId ++ records).take count =
        (world.database.1.pending userId).take count := take_append_of_le_length hwithin
    rw [← hfront, ← hgrows.pending]
    exact .acking hlonger hpositive
  | finished =>
    rw [← hgrows.pending]
    exact .finished

/-- Every step of the client is one of the queue. -/
theorem Views.step (hstorage : ¬ faults.storage) (huser : userId ≠ 0) {client next : Client}
    {drain : Drain OfflineMessageRecord} {label : Label} (hviews : Views userId client drain)
    (hfits : client.world.database.1.FitsColumns)
    (hstep : Step service faults userId client label next) :
    (∃ action after, Drain.Step drain action after ∧ Matches label action ∧
      Views userId next after) ∧
    next.world.database.1.FitsColumns ∧
    ∀ id, client.world.database.1.HasOfflineId userId id →
      next.world.database.1.HasOfflineId userId id := by
  cases hstep with
  | pull hbound hlimit hexec =>
    cases hviews
    obtain ⟨batch, after, htaken, hreturned, hafter⟩ :=
      views_pull hstorage huser hfits hbound hlimit hexec
    obtain ⟨hdatabase, -⟩ := service.handleOfflineMessages_reads hexec
    refine ⟨⟨_, after, htaken, .pull hreturned, hafter⟩, ?_⟩
    rw [hdatabase]
    exact ⟨hfits, fun _ => id⟩
  | ack hbound hids hexec =>
    cases hviews with
    | acking hwithin hpositive =>
      obtain ⟨hmessages, hkept, hafter⟩ :=
        views_ack hstorage huser hwithin hpositive hbound hids hexec
      refine ⟨⟨_, _, .ack, .ack, hafter⟩, ?_, hkept⟩
      intro row hmem
      exact hfits row (hmessages ▸ hmem)
  | add hgrows =>
    obtain ⟨pending, phase⟩ := drain
    exact ⟨⟨_, _, .add, .add, hviews.grows hgrows⟩, hgrows.fits, hgrows.kept⟩

/-- The rows that were there or were added have increasing ids, and are still there. -/
structure Ordered (userId : UInt64) (first : Tables) (labels : List Label) (tables : Tables) :
    Prop where
  sorted : (first.pending userId ++ added labels).Pairwise fun earlier later =>
    earlier.offlineMessageId < later.offlineMessageId
  kept : ∀ record ∈ first.pending userId ++ added labels,
    tables.HasOfflineId userId record.offlineMessageId

variable {labels : List Label}

theorem Ordered.step {first : Tables} {client next : Client} {label : Label}
    (hordered : Ordered userId first labels client.world.database.1)
    (hkept : ∀ id, client.world.database.1.HasOfflineId userId id →
      next.world.database.1.HasOfflineId userId id)
    (hstep : Step service faults userId client label next) :
    Ordered userId first (labels ++ [label]) next.world.database.1 := by
  have hsame : added [label] = [] →
      Ordered userId first (labels ++ [label]) next.world.database.1 := by
    intro hnone
    have hadded : added (labels ++ [label]) = added labels := by
      rw [added, flatMap_append]
      exact (congrArg (added labels ++ ·) hnone).trans (append_nil _)
    refine ⟨by rw [hadded]; exact hordered.sorted, fun record hmem => ?_⟩
    rw [hadded] at hmem
    exact hkept _ (hordered.kept record hmem)
  cases hstep with
  | pull | ack => exact hsame rfl
  | @add world next phase records hgrows =>
    have hadded : first.pending userId ++ added (labels ++ [.add records]) =
        (first.pending userId ++ added labels) ++ records := by
      simp [added]
    have hpending : (next.database.1.pending userId).Pairwise _ :=
      next.database.2.pending_sorted
    rw [hgrows.pending, pairwise_append] at hpending
    refine ⟨?_, fun record hmem => ?_⟩
    · rw [hadded, pairwise_append]
      refine ⟨hordered.sorted, hpending.2.1, fun old hold new hnew => ?_⟩
      exact hgrows.larger new hnew _ (hordered.kept old hold)
    · rw [hadded, mem_append] at hmem
      rcases hmem with hold | hnew
      · exact hkept _ (hordered.kept record hold)
      · apply hasOfflineId_of_pending
        rw [hgrows.pending]
        exact mem_append_right _ hnew

/-- A client that drains a queue, with what happened so far. -/
structure Drains (userId : UInt64) (first : Tables) (labels : List Label) (client : Client)
    (actions : List (Action OfflineMessageRecord)) (drain : Drain OfflineMessageRecord) :
    Prop where
  path : Path Drain.Step ⟨first.pending userId, .pulling⟩ actions drain
  agree : Forall₂ Matches labels actions
  views : Views userId client drain
  fits : client.world.database.1.FitsColumns
  ordered : Ordered userId first labels client.world.database.1

theorem drains_of_path (hstorage : ¬ faults.storage) (huser : userId ≠ 0) {first : World}
    {last : Client} (hfits : first.database.1.FitsColumns)
    (hpath : Path (Step service faults userId) ⟨first, .pulling⟩ labels last) :
    ∃ actions drain, Drains userId first.database.1 labels last actions drain := by
  apply hpath.invariant fun labels client =>
    ∃ actions drain, Drains userId first.database.1 labels client actions drain
  · refine ⟨[], _, .nil, .nil, .pulling, hfits, ?_⟩
    have hnone : first.database.1.pending userId ++ added [] = first.database.1.pending userId :=
      append_nil _
    refine ⟨?_, fun record hmem => ?_⟩
    · rw [hnone]
      exact first.database.2.pending_sorted
    · rw [hnone] at hmem
      exact hasOfflineId_of_pending hmem
  · rintro past before label after - ⟨actions, drain, hdrains⟩ hstep
    obtain ⟨⟨action, next, htaken, hmatches, hviews⟩, hafter, hkept⟩ :=
      hdrains.views.step hstorage huser hdrains.fits hstep
    exact ⟨actions ++ [action], next, hdrains.path.snoc htaken,
      rel_append hdrains.agree (.cons hmatches .nil), hviews, hafter,
      hdrains.ordered.step hkept hstep⟩

theorem returned_of_matches {actions : List (Action OfflineMessageRecord)}
    (hmatches : Forall₂ Matches labels actions) :
    Forall₂ Returned (pulls labels) (batches actions) := by
  induction hmatches with
  | nil => exact .nil
  | cons hfirst _ ih =>
    cases hfirst with
    | pull hreturned => exact .cons hreturned ih
    | ack | add => exact ih

theorem added_of_matches {actions : List (Action OfflineMessageRecord)}
    (hmatches : Forall₂ Matches labels actions) : added labels = Drain.added actions := by
  induction hmatches with
  | nil => rfl
  | cons hfirst _ ih =>
    rw [added, Drain.added, flatMap_cons, flatMap_cons]
    refine congrArg₂ (· ++ ·) ?_ ih
    cases hfirst with
    | pull | ack | add => rfl

/-- Draining the mailbox. A pull writes nothing. A client that pulls with positive limits and
acknowledges what it got is never refused and can always go on; it makes no more pulls than
there were rows, and one that is empty; the pulls return rows in increasing order of their
ids, and when one is empty every row that waited at the beginning was returned. -/
theorem offlineDrain_complete (service : OfflineMessageService) {userId : UInt64}
    (huser : userId ≠ 0) :
    (∀ faults request world trace result last,
      (service.handleOfflineMessages request).run.Exec (machine faults) world trace result
        last → last.database = world.database ∧ last.redis = world.redis) ∧
    ∀ (faults : Faults) (first : World) (labels : List Label) (last : Client),
      ¬ faults.storage → first.database.1.FitsColumns →
      Path (Step service faults userId) ⟨first, .pulling⟩ labels last →
      (∀ status, last.phase ≠ .failed status) ∧
      (last.phase = .pulling → ∀ request, last.world.boundUser request = some userId →
        PositiveLimit request →
        ∃ result next, Step service faults userId last (.pull request result) next) ∧
      (∀ messageIds, last.phase = .acking messageIds →
        ∀ request, last.world.boundUser request = some userId →
        getRepeatedUint64 request.fields .messageId = .ok messageIds →
        ∃ next, Step service faults userId last .ack next) ∧
      (pulls labels).length ≤
        (first.database.1.pending userId).length + (added labels).length + 1 ∧
      ∃ batches, Forall₂ Returned (pulls labels) batches ∧
        (batches.flatten.Pairwise fun earlier later =>
          earlier.offlineMessageId < later.offlineMessageId) ∧
        batches.flatten <+: first.database.1.pending userId ++ added labels ∧
        (last.phase = .finished → first.database.1.pending userId <+: batches.flatten) := by
  refine ⟨fun faults request world trace result last => service.handleOfflineMessages_reads, ?_⟩
  intro faults first labels last hstorage hfits hpath
  obtain ⟨actions, drain, hdrains⟩ := drains_of_path hstorage huser hfits hpath
  have hprogress := progress_of_path hdrains.path
  have hreturned := returned_of_matches hdrains.agree
  have hadded := added_of_matches hdrains.agree
  refine ⟨?_, ?_, ?_, ?_, batches actions, hreturned, ?_, ?_, ?_⟩
  · intro status hfailed
    have hviews := hdrains.views
    obtain ⟨world, phase⟩ := last
    subst hfailed
    cases hviews
  · intro hphase request hbound hlimit
    obtain ⟨world, phase⟩ := last
    subst hphase
    obtain ⟨trace, result, next, hexec⟩ := exists_exec_of_yields faults
      (service.handleOfflineMessages_yields request (by simp) (by simp)) world
    exact ⟨result, _, .pull hbound hlimit hexec⟩
  · intro messageIds hphase request hbound hids
    obtain ⟨world, phase⟩ := last
    subst hphase
    obtain ⟨trace, result, next, hexec⟩ := exists_exec_of_yields faults
      (handleOfflineMessagesAck_yields request (by simp) (by simp) (by simp)) world
    exact ⟨_, .ack hbound hids hexec⟩
  · rw [hreturned.length_eq, hadded]
    exact hprogress.length_batches_le
  · have hsorted := hdrains.ordered.sorted
    rw [hadded] at hsorted
    exact hsorted.sublist hprogress.prefix_added.sublist
  · rw [hadded]
    exact hprogress.prefix_added
  · intro hphase
    have hviews := hdrains.views
    obtain ⟨world, phase⟩ := last
    subst hphase
    cases hviews
    exact hprogress.complete rfl

/-- A request on session 12 for one message. -/
def pullOne : RouterRequest where
  session := some ⟨12⟩
  packet := {}
  fields := fun type => if type = .limit then some [appendUint64BE [] 1] else none

/-- The world after a pull, and after the message in it was acknowledged. -/
def afterFirst : World := (handled ⟨.offlineMessages, pullOne⟩ secondOnline).2

def afterAcked : World := (handled ⟨.offlineMessagesAck, nameFirst⟩ afterFirst).2

/-- The message that user 1 sent while user 2 was offline. -/
def waitingMessage : OfflineMessageRecord where
  offlineMessageId := 1
  userId := 2
  message :=
    { messageId := 1, conversation := { id := 10002 }, senderId := 1, receiverId := 2,
      text := [104, 105], createdAtMs := 0, clientMsgId := [65] }

theorem secondOnline_fitsColumns : secondOnline.database.1.FitsColumns := by
  have hfits : secondOnline.database.1.messages.all (fun row =>
      decide (row.messageText.length ≤ 65535) &&
        row.clientMsgId.all fun clientMsgId => clientMsgId.length ≤ 256) = true := rfl
  intro row hmem
  have hrow := all_eq_true.mp hfits row hmem
  rw [Bool.and_eq_true, decide_eq_true_eq] at hrow
  refine ⟨hrow.1, fun clientMsgId hsome => ?_⟩
  simpa [hsome] using hrow.2

/-- The message is pulled and acknowledged, and the next pull is empty. -/
theorem waitingMessage_drained :
    ∃ labels last, Path (Step {} .none 2) ⟨secondOnline, .pulling⟩ labels last ∧
      last.phase = .finished ∧ (pulls labels).length = 2 ∧ added labels = [] := by
  obtain ⟨first, hfirst, hacking⟩ : ∃ response, pullResponse pullOne [waitingMessage] =
      .ok response ∧ afterPull (.ok response) = .acking [1] :=
    exists_pullResponse pullOne (by decide)
  obtain ⟨second, hsecond, hfinished⟩ : ∃ response, pullResponse pullOne [] = .ok response ∧
      afterPull (.ok response) = .finished :=
    exists_pullResponse pullOne (by simp)
  have hpull : Step {} .none 2 ⟨secondOnline, .pulling⟩ (.pull pullOne (.ok first))
      ⟨afterFirst, .acking [1]⟩ := by
    have hexec := handled_exec ⟨.offlineMessages, pullOne⟩ secondOnline
    rw [show (handled ⟨.offlineMessages, pullOne⟩ secondOnline).1.result =
      .ok first from Eq.trans rfl hfirst] at hexec
    have hstep : Step {} .none 2 _ _ _ := .pull rfl ⟨1, rfl, by decide⟩ hexec
    rwa [hacking] at hstep
  have hack : Step {} .none 2 ⟨afterFirst, .acking [1]⟩ .ack ⟨afterAcked, .pulling⟩ :=
    .ack rfl rfl (handled_exec ⟨.offlineMessagesAck, nameFirst⟩ afterFirst)
  have hlast : Step {} .none 2 ⟨afterAcked, .pulling⟩ (.pull pullOne (.ok second))
      ⟨(handled ⟨.offlineMessages, pullOne⟩ afterAcked).2, .finished⟩ := by
    have hexec := handled_exec ⟨.offlineMessages, pullOne⟩ afterAcked
    rw [show (handled ⟨.offlineMessages, pullOne⟩ afterAcked).1.result =
      .ok second from Eq.trans rfl hsecond] at hexec
    have hstep : Step {} .none 2 _ _ _ := .pull rfl ⟨1, rfl, by decide⟩ hexec
    rwa [hfinished] at hstep
  exact ⟨_, _, ((Path.nil.snoc hpull).snoc hack).snoc hlast, rfl, rfl, rfl⟩

theorem offlineDrain_complete_waitingMessage :
    ∃ labels last, Path (Step {} .none 2) ⟨secondOnline, .pulling⟩ labels last ∧
      last.phase = .finished ∧
      ∃ batches, Forall₂ Returned (pulls labels) batches ∧ batches.length = 2 ∧
        secondOnline.database.1.pending 2 <+: batches.flatten := by
  obtain ⟨labels, last, hpath, hphase, hpulls, -⟩ := waitingMessage_drained
  obtain ⟨-, -, -, -, batches, hreturned, -, -, hcomplete⟩ :=
    (offlineDrain_complete {} (by decide)).2 .none _ labels last id secondOnline_fitsColumns hpath
  exact ⟨labels, last, hpath, hphase, batches, hreturned, hreturned.length_eq.symm.trans hpulls,
    hcomplete hphase⟩

end OfflineDrain

end LiteIM
