/-
# Retries of one private message

Any number of requests of one user with one client message id, handled at the same
time. They are the programs of a pool: every call to storage, cache or a session is
one step, any of them may be next, and between steps sessions open and close and
users go online and offline.

Whatever the order, the requests agree on one message. It is the row under the
client key, which the unique key of the store makes one row; `Settled` says that
everything the requests added to the store belongs to that row, and it is kept by
every step.
-/

import LiteIM.Foundation.Pool
import LiteIM.Service.ChatDelivery

namespace LiteIM.ChatService

open Foundation World Pool List Function

/-- Events that increment an unread counter. -/
def isIncrement : Event services → Bool
  | ⟨.cache (.incrUnread _ _), _⟩ => true
  | _ => false

/-- Events that inserted an offline row. -/
def isInsertion : Event services → Bool
  | ⟨.storage (.saveMessageWithOfflineRecipients _ offlineUserIds), .ok _⟩ =>
    !offlineUserIds.isEmpty
  | ⟨.storage (.saveOfflineMessage _ _), .ok _⟩ => true
  | _ => false

variable {saved : MessageRecord} {userId : UInt64}

theorem Inserted.isInsertion {event : Event services} (hinserted : Inserted userId saved event) :
    isInsertion event = true := by
  cases hinserted with
  | withMessage | fallback => rfl

theorem isIncrement_eq_false_of_isInsertion {event : Event services}
    (hinsertion : isInsertion event = true) : isIncrement event = false := by
  obtain ⟨call, reply⟩ := event
  cases call with
  | session | storage => rfl
  | cache => cases hinsertion

/-! ## One request increments no more often than it inserts -/

/-- An increment stands directly behind an insertion, so that each has its own. -/
structure Balanced (history : List (Event services)) : Prop where
  le : history.countP isIncrement ≤ history.countP isInsertion
  lt : ∀ past event, history = past ++ [event] → isInsertion event = true →
    history.countP isIncrement < history.countP isInsertion

variable {request : RouterRequest}

theorem Balanced.step {past : List (Event services)} {event : Event services}
    (hbalanced : Balanced past) (hjustified : Justified request past event) :
    Balanced (past ++ [event]) := by
  have hcount : ∀ p : Event services → Bool,
      (past ++ [event]).countP p = past.countP p + if p event then 1 else 0 := by
    intro p
    rw [countP_append, countP_singleton]
  have hle := hbalanced.le
  cases hinsertion : isInsertion event with
  | true =>
    have hnot := isIncrement_eq_false_of_isInsertion hinsertion
    refine ⟨?_, fun _ _ _ _ => ?_⟩ <;> simp [hcount, hinsertion, hnot] <;> omega
  | false =>
    refine ⟨?_, ?_⟩
    · cases hincrement : isIncrement event with
      | false => simpa [hcount, hinsertion, hincrement] using hle
      | true =>
        -- Only an increment of the counter is one, and it was justified.
        obtain ⟨call, reply⟩ := event
        cases call with
        | session | storage => cases hincrement
        | cache call =>
          cases call with
          | incrUnread =>
            obtain ⟨-, saved, earlier, inserted, -, -, hlast, hinserted⟩ := hjustified
            have hlt := hbalanced.lt earlier inserted hlast hinserted.isInsertion
            simpa [hcount, hinsertion, hincrement, Nat.succ_le_iff] using hlt
          | _ => cases hincrement
    · intro earlier last hlast hlastInsertion
      have hsame := append_inj_right' hlast rfl
      rw [← singleton_inj.mp hsame, hinsertion] at hlastInsertion
      cases hlastInsertion

/-! ## The message under the client key -/

/-- The row is stored under the client key. -/
structure Ours (senderId : UInt64) (clientMsgId : Bytes) (tables : Tables) (row : MessageRow) :
    Prop where
  stored : row ∈ tables.messages
  key : tables.hasClientKey senderId clientMsgId row = true

section Ours

variable {senderId : UInt64} {clientMsgId : Bytes}

theorem Ours.later {before after : Tables} {row : MessageRow}
    (hours : Ours senderId clientMsgId before row) (hlater : Tables.Later before after) :
    Ours senderId clientMsgId after row where
  stored := hlater.messages row hours.stored
  key := by
    rw [Tables.hasClientKey, hlater.collation]
    exact hours.key

/-- The row of a message that was saved as requested. -/
theorem Requested.ours {tables : Tables} {history : List (Event services)}
    {message : MessageRecord} {offlineUserIds : List UInt64} {row : MessageRow}
    (hrequested : Requested request history message) (hsender : message.senderId = senderId)
    (hclient : getString request.fields .clientMessageId = .ok clientMsgId)
    (hcovered : tables.collation.weight clientMsgId ≠ tables.collation.weight [])
    (hrow : SavedRow tables message offlineUserIds saved row) :
    Ours senderId clientMsgId tables row := by
  have hsame : clientMsgId = message.clientMsgId :=
    (readClientMessageId_ok hrequested.clientMsgId).1 clientMsgId hclient
  have hstored : row.clientMsgId = some clientMsgId := by
    rw [hrow.clientMsgId, ← hsame]
    exact Tables.nullIfEmpty_eq_some_iff.mpr ⟨hcovered, rfl⟩
  exact ⟨hrow.stored,
    Tables.hasClientKey_iff.mpr ⟨hrow.sender.trans hsender, clientMsgId, hstored, rfl⟩⟩

/-- A message a request saved or found is the one under the client key. -/
theorem Concerns.ours {tables : Tables} {history : List (Event services)}
    (hconcerns : Concerns request history userId saved) (hsender : ∀ sessionId userId,
      ⟨.session (.getUserBySession sessionId), .ok userId⟩ ∈ history → userId = senderId)
    (hclient : getString request.fields .clientMessageId = .ok clientMsgId)
    (hcovered : tables.collation.weight clientMsgId ≠ tables.collation.weight [])
    (hevidence : ∀ event ∈ history, Evidence tables event) :
    ∃ row, Ours senderId clientMsgId tables row ∧ saved = row.toRecord ∧
      userId = row.receiverId := by
  cases hconcerns with
  | @saved message saved offlineUserIds requested event =>
    obtain ⟨session, -, hlogin⟩ := requested.sender
    obtain ⟨row, hrow⟩ := hevidence _ event
    refine ⟨row, requested.ours (hsender _ _ hlogin) hclient hcovered hrow, hrow.record, ?_⟩
    rw [hrow.receiver, requested.storedReceiver]
  | @found message saved requested keyed event =>
    obtain ⟨session, -, hlogin⟩ := requested.sender
    obtain ⟨row, hmem, rfl, hkey⟩ := hevidence _ event
    have hsame := (readClientMessageId_ok requested.clientMsgId).1 clientMsgId hclient
    rw [hsender _ _ hlogin, ← hsame] at hkey
    exact ⟨row, ⟨hmem, hkey⟩, rfl, rfl⟩

theorem Answers.concerns {history : List (Event services)}
    (hanswers : Answers request history saved) :
    ∃ userId, Concerns request history userId saved := by
  cases hanswers with
  | offline requested event | online requested event => exact ⟨_, .saved requested event⟩
  | delivered requested keyed event | retried requested keyed event =>
    exact ⟨_, .found requested keyed event⟩

end Ours

/-! ## The pool -/

/-- What happens besides the requests: sessions, the session manager and the cache
change at will, and deliveries are confirmed. -/
structure Bystanders (before after : World) : Prop where
  later : Tables.Later before.database.1 after.database.1
  messages : after.database.1.messages = before.database.1.messages
  offline : after.database.1.offlineKeys = before.database.1.offlineKeys

/-- Everything the requests added belongs to the message under the client key. -/
structure Settled {ι : Type} (senderId : UInt64) (clientMsgId : Bytes) (start : Tables)
    (log : List (ι × Event services)) (tables : Tables) : Prop where
  evidence : ∀ entry ∈ log, Evidence tables entry.2
  collation : tables.collation = start.collation
  messages : ∃ rows, tables.messages = start.messages ++ rows ∧
    ∀ row ∈ rows, Ours senderId clientMsgId tables row
  offline : ∃ added, tables.offlineKeys = start.offlineKeys ++ added ∧
    log.countP (fun entry => isInsertion entry.2) ≤ added.length ∧
    ∀ key ∈ added, ∃ row, Ours senderId clientMsgId tables row ∧
      key = (row.receiverId, row.messageId)
  increments : ∀ i key delta reply, (i, ⟨.cache (.incrUnread key delta), reply⟩) ∈ log →
    delta = 1 ∧ ∃ row, Ours senderId clientMsgId tables row ∧
      key = ⟨row.receiverId, row.conversation⟩

theorem isInsertion_eq_false_of_idle {event : Event services}
    (hidle : wrote event = false) : isInsertion event = false := by
  obtain ⟨call, reply⟩ := event
  cases call with
  | session | cache => rfl
  | storage call =>
    cases call with
    | saveMessageWithOfflineRecipients =>
      cases reply with
      | ok => cases hidle
      | error => rfl
    | saveOfflineMessage =>
      cases reply with
      | ok => cases hidle
      | error => rfl
    | _ => rfl

section Settled

variable {ι : Type} {senderId : UInt64} {clientMsgId : Bytes}
variable {start before after : Tables} {log : List (ι × Event services)} {i : ι}
variable {request : RouterRequest} {event : Event services}

theorem Settled.initial (tables : Tables) :
    Settled senderId clientMsgId tables ([] : List (ι × Event services)) tables where
  evidence := by simp
  collation := rfl
  messages := ⟨[], by simp⟩
  offline := ⟨[], by simp⟩
  increments := by simp

theorem Settled.outside {before after : World}
    (hsettled : Settled senderId clientMsgId start log before.database.1)
    (hchange : Bystanders before after) :
    Settled senderId clientMsgId start log after.database.1 where
  evidence entry hmem := evidence_later hchange.later (hsettled.evidence entry hmem)
  collation := hchange.later.collation.trans hsettled.collation
  messages := by
    obtain ⟨rows, hrows, hours⟩ := hsettled.messages
    exact ⟨rows, hchange.messages.trans hrows, fun row hmem =>
      (hours row hmem).later hchange.later⟩
  offline := by
    obtain ⟨added, hadded, hcount, hours⟩ := hsettled.offline
    refine ⟨added, hchange.offline.trans hadded, hcount, fun key hmem => ?_⟩
    obtain ⟨row, hrow, hkey⟩ := hours key hmem
    exact ⟨row, hrow.later hchange.later, hkey⟩
  increments i key delta reply hmem := by
    obtain ⟨hdelta, row, hrow, hkey⟩ := hsettled.increments i key delta reply hmem
    exact ⟨hdelta, row, hrow.later hchange.later, hkey⟩

variable [DecidableEq ι]

-- The requests are all from one user and have one client message id.
variable (hsettled : Settled senderId clientMsgId start log before)
variable (hcovered : start.collation.weight clientMsgId ≠ start.collation.weight [])
variable (hclient : getString request.fields .clientMessageId = .ok clientMsgId)
variable (hsender : ∀ sessionId userId,
  ⟨.session (.getUserBySession sessionId), .ok userId⟩ ∈ history log i → userId = senderId)
include hsettled hcovered hclient hsender

/-- New messages are stored under the client key. -/
theorem Settled.messages_step (hjustified : Justified request (history log i) event)
    (heffect : Effect before after event) :
    ∃ rows, after.messages = start.messages ++ rows ∧
      ∀ row ∈ rows, Ours senderId clientMsgId after row := by
  have hlater := heffect.later
  obtain ⟨rows, hrows, hours⟩ := hsettled.messages
  rcases heffect.cases with ⟨message, offlineUserIds, saved, rfl, hsaves⟩ |
    ⟨userId, messageId, rfl, -, hadds⟩ | ⟨-, hkeeps⟩
  · obtain ⟨row, hmessages, hrow⟩ := savedRow_of_saves hsaves
    obtain ⟨session, -, hlogin⟩ := hjustified.1.sender
    rw [← hsettled.collation, ← hlater.collation] at hcovered
    refine ⟨rows ++ [row], by rw [hmessages, hrows, append_assoc], ?_⟩
    intro other hmem
    rcases mem_append.mp hmem with hold | hnew
    · exact (hours other hold).later hlater
    · rw [mem_singleton.mp hnew]
      exact hjustified.1.ours (hsender _ _ hlogin) hclient hcovered hrow
  · exact ⟨rows, by rw [hadds.messages, hrows], fun row hmem => (hours row hmem).later hlater⟩
  · exact ⟨rows, hkeeps.messages.trans hrows, fun row hmem => (hours row hmem).later hlater⟩

/-- The row of a message that a request saved or found. -/
theorem Settled.concerned (hconcerns : Concerns request (history log i) userId saved) :
    ∃ row, Ours senderId clientMsgId before row ∧ saved = row.toRecord ∧
      userId = row.receiverId := by
  rw [← hsettled.collation] at hcovered
  apply hconcerns.ours hsender hclient hcovered
  intro event hmem
  exact hsettled.evidence _ (mem_history.mp hmem)

/-- New offline rows are for the receiver of the message under the client key, and
there is one for each insertion. -/
theorem Settled.offline_step (hjustified : Justified request (history log i) event)
    (heffect : Effect before after event) :
    ∃ added, after.offlineKeys = start.offlineKeys ++ added ∧
      (log ++ [(i, event)]).countP (fun entry => isInsertion entry.2) ≤ added.length ∧
      ∀ key ∈ added, ∃ row, Ours senderId clientMsgId after row ∧
        key = (row.receiverId, row.messageId) := by
  have hlater := heffect.later
  obtain ⟨added, hadded, hcount, hours⟩ := hsettled.offline
  have hold : ∀ key ∈ added, ∃ row, Ours senderId clientMsgId after row ∧
      key = (row.receiverId, row.messageId) := by
    intro key hmem
    obtain ⟨row, hrow, hkey⟩ := hours key hmem
    exact ⟨row, hrow.later hlater, hkey⟩
  rw [countP_append, countP_singleton]
  rcases heffect.cases with ⟨message, offlineUserIds, saved, rfl, hsaves⟩ |
    ⟨userId, messageId, rfl, -, hadds⟩ | ⟨hidle, hkeeps⟩
  · obtain ⟨new, hnew, hperm, hkeys⟩ := hsaves.offlineKeys_eq
    obtain ⟨hrequested, hrecipients⟩ := hjustified
    obtain ⟨row, -, hrow⟩ := savedRow_of_saves hsaves
    obtain ⟨session, -, hlogin⟩ := hrequested.sender
    rw [← hsettled.collation, ← hlater.collation] at hcovered
    have hrowOurs := hrequested.ours (hsender _ _ hlogin) hclient hcovered hrow
    refine ⟨added ++ new, by rw [hnew, hadded, append_assoc], ?_, ?_⟩
    · rw [length_append]
      rcases hrecipients with rfl | rfl
      · exact Nat.le_add_right_of_le hcount
      · have hlength := (hperm (nodup_singleton _)).length_eq
        rw [hlength]
        exact Nat.succ_le_succ hcount
    · intro key hmem
      rcases mem_append.mp hmem with hbefore | hlast
      · exact hold key hbefore
      · obtain ⟨huser, hmessage⟩ := hkeys key hlast
        have hreceiver : key.1 = row.receiverId := by
          rw [hrow.receiver, hrequested.storedReceiver]
          rcases hrecipients with rfl | rfl
          · cases huser
          · exact mem_singleton.mp huser
        rw [hrow.record] at hmessage
        exact ⟨row, hrowOurs, Prod.ext hreceiver hmessage⟩
  · obtain ⟨saved, hconcerns, -, rfl⟩ := hjustified
    obtain ⟨row, hrow, rfl, rfl⟩ := hsettled.concerned hcovered hclient hsender hconcerns
    refine ⟨added ++ [(row.receiverId, row.messageId)], ?_, ?_, ?_⟩
    · rw [hadds.offlineKeys_eq, hadded, append_assoc]
      rfl
    · rw [length_append]
      exact Nat.succ_le_succ hcount
    · intro key hmem
      rcases mem_append.mp hmem with hbefore | hlast
      · exact hold key hbefore
      · exact ⟨row, hrow.later hlater, mem_singleton.mp hlast⟩
  · exact ⟨added, hkeeps.offlineKeys.trans hadded,
      by simpa [isInsertion_eq_false_of_idle hidle] using hcount, hold⟩

/-- Increments are by one, of the receiver's counter for the conversation of the
message under the client key. -/
theorem Settled.increments_step (hjustified : Justified request (history log i) event)
    (hlater : Tables.Later before after) :
    ∀ j key delta reply, (j, ⟨.cache (.incrUnread key delta), reply⟩) ∈ log ++ [(i, event)] →
      delta = 1 ∧ ∃ row, Ours senderId clientMsgId after row ∧
        key = ⟨row.receiverId, row.conversation⟩ := by
  intro j key delta reply hmem
  rcases mem_append.mp hmem with hold | hnew
  · obtain ⟨hdelta, row, hrow, hkey⟩ := hsettled.increments j key delta reply hold
    exact ⟨hdelta, row, hrow.later hlater, hkey⟩
  · obtain ⟨rfl, rfl⟩ := Prod.mk.inj (mem_singleton.mp hnew)
    obtain ⟨hdelta, saved, past, inserted, hconcerns, hconversation, -, -⟩ := hjustified
    obtain ⟨row, hrow, rfl, hreceiver⟩ := hsettled.concerned hcovered hclient hsender hconcerns
    refine ⟨hdelta, row, hrow.later hlater, ?_⟩
    cases key with
    | mk =>
      simp only at hreceiver hconversation
      rw [hreceiver, hconversation]
      rfl

theorem Settled.step (hjustified : Justified request (history log i) event)
    (heffect : Effect before after event) (hevidence : Evidence after event) :
    Settled senderId clientMsgId start (log ++ [(i, event)]) after where
  evidence := by
    intro entry hmem
    rcases mem_append.mp hmem with hold | hnew
    · exact evidence_later heffect.later (hsettled.evidence entry hold)
    · rw [mem_singleton.mp hnew]
      exact hevidence
  collation := heffect.later.collation.trans hsettled.collation
  messages := hsettled.messages_step hcovered hclient hsender hjustified heffect
  offline := hsettled.offline_step hcovered hclient hsender hjustified heffect
  increments := hsettled.increments_step hcovered hclient hsender hjustified heffect.later

end Settled

/-! ## Every interleaving -/

section Retries

variable {ι : Type} [DecidableEq ι]

/-- Requests that are handled at the same time. -/
def retries (requests : ι → RouterRequest) (world : World) :
    Pool services ι (Except Error Packet) World :=
  start (fun i => (handlePrivateMessage (requests i)).run) world

/-- Every interleaving of the requests, with sessions, cache and deliveries changing
in between. -/
abbrev Interleaved (faults : Faults) :
    Pool services ι (Except Error Packet) World →
      Pool services ι (Except Error Packet) World → Prop :=
  Reaches (machine faults) Bystanders fun _ _ _ => True

variable {faults : Faults} {requests : ι → RouterRequest} {world : World}
variable {pool : Pool services ι (Except Error Packet) World}
variable {senderId : UInt64} {clientMsgId : Bytes}

theorem settled_of_interleaved (hreaches : Interleaved faults (retries requests world) pool)
    (hclient : ∀ i, getString (requests i).fields .clientMessageId = .ok clientMsgId)
    (hcovered : world.database.1.collation.weight clientMsgId ≠
      world.database.1.collation.weight []) (hsender : ∀ i sessionId userId,
      (i, ⟨.session (.getUserBySession sessionId), .ok userId⟩) ∈ pool.log → userId = senderId) :
    Settled senderId clientMsgId world.database.1 pool.log pool.world.database.1 := by
  -- The log only grows, so what it says of the sender held of every earlier log.
  revert hsender
  apply hreaches.justified_invariant (fun i => handlePrivateMessage_yields (requests i))
    (fun pool => (∀ i sessionId userId,
      (i, ⟨.session (.getUserBySession sessionId), .ok userId⟩) ∈ pool.log → userId = senderId) →
      Settled senderId clientMsgId world.database.1 pool.log pool.world.database.1)
  · exact fun _ => Settled.initial _
  · intro pool i event next after hpool hjustified hanswer hsender
    have hbefore := hpool fun j sessionId userId hmem =>
      hsender j sessionId userId (mem_append_left _ hmem)
    obtain ⟨heffect, hevidence⟩ := machine_effect hanswer
    apply hbefore.step hcovered (hclient i) ?_ hjustified heffect hevidence
    intro sessionId userId hmem
    exact hsender i sessionId userId (mem_append_left _ (mem_history.mp hmem))
  · intro pool after hpool hchange hsender
    exact (hpool hsender).outside hchange

/-- Over the whole log there are no more increments than insertions. -/
theorem increments_le_insertions (hreaches : Interleaved faults (retries requests world) pool) :
    pool.log.countP (fun entry => isIncrement entry.2) ≤
      pool.log.countP fun entry => isInsertion entry.2 := by
  apply countP_le_countP
  intro i
  have hbalanced := hreaches.history_invariant
    (fun i => handlePrivateMessage_yields (requests i)) Balanced ⟨by simp, by simp⟩
    (fun i past event hpast hjustified => hpast.step hjustified) i
  exact hbalanced.le

/-- A list of equal entries without repetition has at most one. -/
theorem length_le_one_of_nodup {α : Type} {entries : List α} (hnodup : entries.Nodup)
    (hequal : ∀ first ∈ entries, ∀ second ∈ entries, first = second) : entries.length ≤ 1 := by
  cases entries with
  | nil => exact Nat.zero_le 1
  | cons first rest =>
    cases rest with
    | nil => exact Nat.le_refl 1
    | cons second =>
      have hsame := hequal first (by simp) second (by simp)
      simp [hsame] at hnodup

/-- The row under the client key is one row. -/
theorem exists_messageId (database : Database) (senderId : UInt64) (clientMsgId : Bytes) :
    ∃ messageId, ∀ row, Ours senderId clientMsgId database.1 row → row.messageId = messageId := by
  by_cases hexists : ∃ row, Ours senderId clientMsgId database.1 row
  · obtain ⟨row, hrow⟩ := hexists
    refine ⟨row.messageId, fun other hother => ?_⟩
    rw [database.2.client_row_unique hother.stored hrow.stored hother.key hrow.key]
  · exact ⟨0, fun row hrow => (hexists ⟨row, hrow⟩).elim⟩

/-- Any number of requests of one user with one client message id, in any
interleaving: they create at most one message and at most one offline row for it,
all their answers name the same message, and the receiver's unread counter is
incremented only for an offline row that was created. -/
theorem retries_idempotent (hreaches : Interleaved faults (retries requests world) pool)
    (hclient : ∀ i, getString (requests i).fields .clientMessageId = .ok clientMsgId)
    (hcovered : world.database.1.collation.weight clientMsgId ≠
      world.database.1.collation.weight []) (hsender : ∀ i sessionId userId,
      (i, ⟨.session (.getUserBySession sessionId), .ok userId⟩) ∈ pool.log → userId = senderId) :
    ∃ rows added messageId,
      pool.world.database.1.messages = world.database.1.messages ++ rows ∧ rows.length ≤ 1 ∧
      (∀ row ∈ rows, row.messageId = messageId) ∧
      (∀ i response, pool.threads i = .ret (.ok response) →
        messageIdOf response = .ok messageId) ∧
      pool.world.database.1.offlineKeys = world.database.1.offlineKeys ++ added ∧
      added.length ≤ 1 ∧
      (∀ key ∈ added, ∃ row ∈ pool.world.database.1.messages,
        row.messageId = messageId ∧ key = (row.receiverId, messageId)) ∧
      pool.log.countP (fun entry => isIncrement entry.2) ≤ added.length ∧
      ∀ i key delta reply, (i, ⟨.cache (.incrUnread key delta), reply⟩) ∈ pool.log →
        delta = 1 ∧ ∃ row ∈ pool.world.database.1.messages,
          row.messageId = messageId ∧ key = ⟨row.receiverId, row.conversation⟩ := by
  have hsettled := settled_of_interleaved hreaches hclient hcovered hsender
  obtain ⟨rows, hrows, hrowsOurs⟩ := hsettled.messages
  obtain ⟨added, hadded, hcount, haddedOurs⟩ := hsettled.offline
  obtain ⟨messageId, hid⟩ := exists_messageId pool.world.database senderId clientMsgId
  have hunique : ∀ first second, Ours senderId clientMsgId pool.world.database.1 first →
      Ours senderId clientMsgId pool.world.database.1 second → first = second :=
    fun first second hfirst hsecond => pool.world.database.2.client_row_unique hfirst.stored
      hsecond.stored hfirst.key hsecond.key
  refine ⟨rows, added, messageId, hrows, ?_, fun row hmem => hid row (hrowsOurs row hmem), ?_,
    hadded, ?_, ?_, (increments_le_insertions hreaches).trans hcount, ?_⟩
  · apply length_le_one_of_nodup
    · have hnodup := pool.world.database.2.messages_nodup
      rw [hrows] at hnodup
      exact (nodup_append.mp hnodup).2.1
    · intro first hfirst second hsecond
      exact hunique first second (hrowsOurs first hfirst) (hrowsOurs second hsecond)
  · intro i response hthread
    have hfollows := hreaches.follows (fun i => handlePrivateMessage_yields (requests i)) i
    rw [hthread] at hfollows
    obtain ⟨saved, hresponse, hanswers⟩ := hfollows response rfl
    obtain ⟨userId, hconcerns⟩ := hanswers.concerns
    obtain ⟨row, hrow, rfl, -⟩ := hsettled.concerned hcovered (hclient i)
      (fun sessionId userId hmem => hsender i sessionId userId (mem_history.mp hmem))
      hconcerns
    rw [messageIdOf_privateResponse hresponse, ← hid row hrow]
    rfl
  · apply length_le_one_of_nodup
    · have hnodup := pool.world.database.2.offlineKeys_nodup
      rw [hadded] at hnodup
      exact (nodup_append.mp hnodup).2.1
    · intro first hfirst second hsecond
      obtain ⟨row, hrow, rfl⟩ := haddedOurs first hfirst
      obtain ⟨other, hother, rfl⟩ := haddedOurs second hsecond
      rw [hunique row other hrow hother]
  · intro key hmem
    obtain ⟨row, hrow, rfl⟩ := haddedOurs key hmem
    exact ⟨row, hrow.stored, hid row hrow, by rw [hid row hrow]⟩
  · intro i key delta reply hmem
    obtain ⟨hdelta, row, hrow, hkey⟩ := hsettled.increments i key delta reply hmem
    exact ⟨hdelta, row, hrow.stored, hid row hrow, hkey⟩

end Retries

/-- The event names no other user as the one who is logged in. -/
def namesOnly (userId : UInt64) : Event services → Bool
  | ⟨.session (.getUserBySession _), .ok found⟩ => found = userId
  | _ => true

/-- A request and its retry, one after the other. -/
def handledTwice (request : RouterRequest) (world : World) :
    Pool services Bool (Except Error Packet) World :=
  let first := handled request world
  let second := handled request first.2.2
  ⟨update (update (fun _ => (handlePrivateMessage request).run) false
      (.ret first.2.1)) true (.ret second.2.1),
    second.2.2, first.1.map (Prod.mk false) ++ second.1.map (Prod.mk true)⟩

theorem interleaved_handledTwice (request : RouterRequest) (world : World) :
    Interleaved .any (retries (fun _ => request) world) (handledTwice request world) := by
  have hfirst := handled_exec request world
  have hsecond := handled_exec request (handled request world).2.2
  have htrue : update (fun _ : Bool => (handlePrivateMessage request).run) false
      (.ret (handled request world).2.1) true = (handlePrivateMessage request).run :=
    update_of_ne (by decide) _ _
  exact (Reaches.exec (retries _ world) false hfirst rfl rfl fun _ _ _ => trivial).trans
    (Reaches.exec _ true hsecond htrue rfl fun _ _ _ => trivial)

/-- The request and its retry are both answered, with the same message. -/
theorem retries_idempotent_twice :
    (∀ i, ∃ response, (handledTwice (sendRequest 2 [65]) oneOnline).threads i =
      .ret (.ok response)) ∧
    ∃ messageId, ∀ i response, (handledTwice (sendRequest 2 [65]) oneOnline).threads i =
      .ret (.ok response) → messageIdOf response = .ok messageId := by
  have hlog : (handledTwice (sendRequest 2 [65]) oneOnline).log.all
      (fun entry => namesOnly 1 entry.2) = true := rfl
  have hsender : ∀ i sessionId userId, (i, ⟨.session (.getUserBySession sessionId), .ok userId⟩) ∈
      (handledTwice (sendRequest 2 [65]) oneOnline).log → userId = 1 := by
    intro i sessionId userId hmem
    exact of_decide_eq_true (all_eq_true.mp hlog _ hmem)
  obtain ⟨rows, added, messageId, -, -, -, hresponses, -⟩ := retries_idempotent
    (interleaved_handledTwice (sendRequest 2 [65]) oneOnline) (fun _ => rfl) (by decide) hsender
  refine ⟨fun i => ?_, messageId, hresponses⟩
  cases i with
  | false | true => exact ⟨_, rfl⟩

/-- A server like the small one, but ids compare without regard to the byte 1. -/
def ignoringOnes : World :=
  { oneOnline with
    database := ⟨{ threeFriends with collation := ⟨fun value => value.filter (· ≠ 1)⟩ },
      Tables.keyed_of_no_messages (by decide) rfl rfl rfl (by simp [threeFriends])
        (by simp [threeFriends])⟩ }

/-- An id that compares like the empty one is stored as `NULL`, of which the unique key takes
any number: the retry is answered with a second message, in a second offline row. -/
theorem retry_stored_again :
    Interleaved .any (retries (fun _ => sendRequest 2 [1]) ignoringOnes)
      (handledTwice (sendRequest 2 [1]) ignoringOnes) ∧
    (∀ i, ∃ response, (handledTwice (sendRequest 2 [1]) ignoringOnes).threads i =
      .ret (.ok response)) ∧
    (handledTwice (sendRequest 2 [1]) ignoringOnes).world.database.1.messages.map
      (fun row => (row.messageId, row.clientMsgId)) = [(1, none), (2, none)] ∧
    (handledTwice (sendRequest 2 [1]) ignoringOnes).world.database.1.offlineKeys =
      [(2, 1), (2, 2)] := by
  refine ⟨interleaved_handledTwice _ _, fun i => ?_, rfl, rfl⟩
  cases i with
  | false | true => exact ⟨_, rfl⟩

end LiteIM.ChatService
