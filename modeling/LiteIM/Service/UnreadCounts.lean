/-
# Unread counts and waiting messages

A user's unread counter of a conversation is incremented once for every offline row
that is stored for the user in the conversation, and it is deleted when the user
acknowledges messages of the conversation, be they all that wait or only some. So a
counter covers the rows that were stored since the user last acknowledged a message of
the conversation.

A row is stored by one call and counted by a later one. In between the counter is owed
an increment; the triples below carry what is owed through the handlers.
-/

import LiteIM.Service.Mailbox

namespace LiteIM

open Foundation Fallible Tables ChatService Program World Service OfflineMessageService List
open Function
open GroupService

namespace Tables

/-- A message of the conversation waits in the row for the user. -/
def unconfirmed (tables : Tables) (key : UnreadKey) (row : OfflineRow) : Bool :=
  row.userId = key.userId && !row.delivered &&
    tables.messages.any fun message =>
      message.messageId = row.messageId ∧ message.conversation = key.conversation

/-- How many messages of the conversation wait for the user. -/
def waiting (tables : Tables) (key : UnreadKey) : Nat :=
  tables.offlineMessages.countP (tables.unconfirmed key)

/-- How many of them wait in rows that were not there at the time of `base`. -/
def waitingSince (base tables : Tables) (key : UnreadKey) : Nat :=
  tables.offlineMessages.countP fun row =>
    tables.unconfirmed key row && !base.hasOffline row.userId row.messageId

theorem unconfirmed_iff {tables : Tables} {key : UnreadKey} {row : OfflineRow} :
    tables.unconfirmed key row = true ↔ row.userId = key.userId ∧ row.delivered = false ∧
      ∃ message ∈ tables.messages, message.messageId = row.messageId ∧
        message.conversation = key.conversation := by
  simp [unconfirmed, and_assoc]

section Count

variable {base before after : Tables} {key : UnreadKey}

/-- Marking rows lets none of them wait that did not wait before. -/
theorem KeepsMessages.waitingSince_le (hkeeps : KeepsMessages before after) :
    waitingSince base after key ≤ waitingSince base before key := by
  obtain ⟨mark, hmark, hlater⟩ := hkeeps.offline
  rw [waitingSince, hmark, countP_map]
  apply countP_mono_left
  intro row _ hwaits
  have hrow := hlater row
  simp only [comp_apply, Bool.and_eq_true] at hwaits ⊢
  obtain ⟨huser, hopen, message, hmem, hid, hconversation⟩ := unconfirmed_iff.mp hwaits.1
  rw [hrow.userId] at huser
  rw [hrow.messageId] at hid
  rw [hkeeps.messages] at hmem
  rw [hrow.userId, hrow.messageId] at hwaits
  refine ⟨unconfirmed_iff.mpr ⟨huser, ?_, message, hmem, hid, hconversation⟩, hwaits.2⟩
  cases hdelivered : row.delivered with
  | false => rfl
  | true =>
    rw [hrow.delivered hdelivered] at hopen
    cases hopen

/-- What an insert of rows for some users owes to a counter. -/
def owes (key : UnreadKey) (userIds : List UInt64) (conversation : ConversationKey) : Nat :=
  if key.userId ∈ userIds ∧ conversation = key.conversation then 1 else 0

/-- Rows for one message are at most one for each user. -/
theorem countP_added_le {tables : Tables} {added : List OfflineRow} (messageId : UInt64)
    {userIds : List UInt64} {conversation : ConversationKey}
    (hnodup : (added.map fun row => (row.userId, row.messageId)).Nodup)
    (hadded : ∀ row ∈ added, row.userId ∈ userIds ∧ row.messageId = messageId)
    (hmessage : ∀ message ∈ tables.messages, message.messageId = messageId →
      message.conversation = conversation) :
    (added.countP (tables.unconfirmed key)) ≤ owes key userIds conversation := by
  by_cases howed : key.userId ∈ userIds ∧ conversation = key.conversation
  · rw [owes, if_pos howed]
    calc added.countP (tables.unconfirmed key)
        ≤ added.countP fun row => (row.userId, row.messageId) == (key.userId, messageId) := by
          apply countP_mono_left
          intro row hmem hwaits
          rw [beq_iff_eq, (unconfirmed_iff.mp hwaits).1, (hadded row hmem).2]
      _ = (added.map fun row => (row.userId, row.messageId)).count (key.userId, messageId) := by
          rw [count, countP_map]
          rfl
      _ ≤ 1 := nodup_iff_count_le_one.mp hnodup _
  · rw [owes, if_neg howed, Nat.le_zero, countP_eq_zero]
    intro row hmem hwaits
    obtain ⟨huser, -, message, hstored, hid, hconversation⟩ := unconfirmed_iff.mp hwaits
    obtain ⟨huserIds, hrow⟩ := hadded row hmem
    exact howed ⟨huser ▸ huserIds, (hmessage message hstored (hid.trans hrow)).symm.trans
      hconversation⟩

/-- Rows are added, and the old ones wait as before. -/
theorem waitingSince_append_le {added : List OfflineRow} {bound : Nat}
    (hoffline : after.offlineMessages = before.offlineMessages ++ added)
    (hold : ∀ row ∈ before.offlineMessages, after.unconfirmed key row = true →
      before.unconfirmed key row = true) (hadded : added.countP (after.unconfirmed key) ≤ bound) :
    waitingSince base after key ≤ waitingSince base before key + bound := by
  rw [waitingSince, hoffline, countP_append]
  apply Nat.add_le_add
  · apply countP_mono_left
    intro row hmem hwaits
    rw [Bool.and_eq_true] at hwaits ⊢
    exact ⟨hold row hmem hwaits.1, hwaits.2⟩
  · apply Nat.le_trans _ hadded
    apply countP_mono_left
    intro row _ hwaits
    exact (Bool.and_eq_true_iff.mp hwaits).1

/-- A save owes an increment for each user it stored a row for. -/
theorem Saves.waitingSince_le {message saved : MessageRecord} {offlineUserIds : List UInt64}
    (hsaves : Saves message offlineUserIds before saved after) (hbefore : before.Keyed)
    (hafter : after.Keyed) :
    waitingSince base after key ≤
      waitingSince base before key + owes key offlineUserIds saved.conversation := by
  obtain ⟨row, hrecord, hmessages, -⟩ := hsaves.row
  obtain ⟨added, hadded, hnodup, hkeys⟩ := hsaves.offline
  have hfresh := hsaves.fresh
  rw [hrecord] at hfresh
  apply waitingSince_append_le hadded
  · -- An old row is for an old message, and the new message has a new id.
    intro offline hmem hwaits
    obtain ⟨huser, hopen, found, hfound, hid, hconversation⟩ := unconfirmed_iff.mp hwaits
    rw [hmessages] at hfound
    rcases mem_append.mp hfound with hold | hnew
    · exact unconfirmed_iff.mpr ⟨huser, hopen, found, hold, hid, hconversation⟩
    · obtain ⟨stored, hstored, hsame⟩ := hasMessage_iff.mp (hbefore.offline_message offline hmem)
      have hlt := hbefore.message_lt stored hstored
      rw [hsame, ← hid, mem_singleton.mp hnew] at hlt
      exact (Nat.ne_of_lt hlt hfresh).elim
  · apply countP_added_le saved.messageId hnodup
    · intro offline hmem
      exact (hkeys (offline.userId, offline.messageId)).mp (mem_map_of_mem hmem)
    · intro found hfound hid
      have hrow : row ∈ after.messages := by simp [hmessages]
      rw [hrecord] at hid ⊢
      rw [hafter.message_unique hfound hrow hid]
      rfl

/-- A fallback row owes one for its user, in the conversation of its message. -/
theorem AddsRecipients.waitingSince_le {userId : UInt64} {row : MessageRow}
    (hadds : AddsRecipients row.messageId [userId] before after) (hafter : after.Keyed)
    (hrow : row ∈ before.messages) :
    waitingSince base after key ≤
      waitingSince base before key + owes key [userId] row.conversation := by
  obtain ⟨added, hadded, hkeys⟩ := hadds.offline
  apply waitingSince_append_le hadded
  · intro offline _ hwaits
    rw [unconfirmed_iff] at hwaits ⊢
    rwa [hadds.messages] at hwaits
  · apply countP_added_le row.messageId
    · rw [hkeys]
      exact nodup_singleton _
    · intro offline hmem
      have hkey : (offline.userId, offline.messageId) ∈ [(userId, row.messageId)] := by
        rw [show [(userId, row.messageId)] = [userId].map fun userId => (userId, row.messageId)
          from rfl, ← hkeys]
        exact mem_map_of_mem hmem
      obtain ⟨huser, hid⟩ := Prod.mk.inj (mem_singleton.mp hkey)
      exact ⟨mem_singleton.mpr huser, hid⟩
    · intro found hfound hid
      rw [hafter.message_unique hfound (by rwa [hadds.messages]) hid]

end Count

end Tables

namespace Mailbox

/-- Between requests users log in and out and time passes. -/
def Logins (before after : World) : Prop :=
  after.database = before.database ∧ after.redis.unread = before.redis.unread

/-- The call was not one that the cache failed. -/
def cacheOk : Event services → Bool
  | ⟨.cache _, .error _⟩ => false
  | _ => true

/-- The user acknowledged a message of the conversation. -/
def clears (key : UnreadKey) : Event services → Bool
  | ⟨.storage (.ackOfflineMessages userId _), .ok records⟩ =>
    userId = key.userId &&
      records.any fun record => record.message.conversation = key.conversation
  | _ => false

/-- The answers when the cache works and the counter is not cleared. -/
def counting (faults : Faults) (key : UnreadKey) : Machine services World :=
  (machine faults).restrict fun event => cacheOk event = true ∧ clears key event = false

/-- The counter is at least the number of rows, but for the increments it is owed. -/
def Covered (base : Tables) (key : UnreadKey) (owed : Nat) (world : World) : Prop :=
  waitingSince base world.database.1 key ≤ world.redis.unread key + owed

/-- In addition a certain message is stored. -/
structure Holds (base : Tables) (key : UnreadKey) (owed : Nat) (saved : MessageRecord)
    (world : World) : Prop where
  covered : Covered base key owed world
  stored : ∃ row ∈ world.database.1.messages, saved = row.toRecord

/-! ## Calls that neither store rows nor count them -/

/-- The call left messages and counters alone. -/
structure Unchanged (before after : World) : Prop where
  keeps : KeepsMessages before.database.1 after.database.1
  redis : after.redis = before.redis

def idle : Event services → Bool
  | ⟨.cache _, _⟩ => false
  | event => !wrote event

variable {world next : World}

theorem keepsMessages_of_wrote {faults : Faults} {call : Call} {reply : call.Reply}
    (hanswer : machine faults call world reply next)
    (hidle : wrote ⟨call, reply⟩ = false) :
    KeepsMessages world.database.1 next.database.1 := by
  rcases (machine_effect hanswer).1.cases with ⟨message, offlineUserIds, saved, hwrote, -⟩ |
    ⟨userId, messageId, hwrote, -⟩ | ⟨-, hkeeps⟩
  · rw [hwrote] at hidle
    cases hidle
  · rw [hwrote] at hidle
    cases hidle
  · exact hkeeps

theorem unchanged_of_idle {faults : Faults} {call : Call} {reply : call.Reply}
    (hanswer : machine faults call world reply next) (hidle : idle ⟨call, reply⟩ = true) :
    Unchanged world next := by
  cases call with
  | session =>
    exact ⟨keepsMessages_of_wrote hanswer rfl, machine_session_redis hanswer⟩
  | cache => cases hidle
  | storage =>
    exact ⟨keepsMessages_of_wrote hanswer (by simpa [idle] using hidle),
      machine_storage_redis hanswer⟩

theorem idle_closed (session : SessionRef) :
    Yields (fun _ event => idle event = true) (fun _ _ => True) []
      (closed session) := fun _ => ⟨rfl, fun _ _ => trivial⟩

theorem idle_sendPacket (session : SessionRef) (packet : Packet) :
    Yields (fun _ event => idle event = true) (fun _ _ => True) []
      (sendPacket session packet) := fun _ => ⟨rfl, fun _ _ => trivial⟩

theorem idle_isMessageAlreadyDelivered (receiverId messageId : UInt64) :
    Yields (fun _ event => idle event = true) (fun _ _ => True) []
      (isMessageAlreadyDelivered receiverId messageId) := by
  apply yields_outcome_bind (fun _ _ => True)
  · exact fun reply => ⟨rfl, trivial⟩
  · intro later result _ _
    cases result with
    | ok => exact yields_pure.mpr trivial
    | error status => by_cases hcode : status.code = .notFound <;> simp [hcode]

section Triples

variable {faults : Faults} {base : Tables} {key : UnreadKey} {owed : Nat}
variable {saved : MessageRecord}

theorem Covered.unchanged (hcovered : Covered base key owed world)
    (hunchanged : Unchanged world next) : Covered base key owed next := by
  rw [Covered, hunchanged.redis]
  exact hunchanged.keeps.waitingSince_le.trans hcovered

theorem Holds.unchanged (hholds : Holds base key owed saved world)
    (hunchanged : Unchanged world next) : Holds base key owed saved next where
  covered := hholds.covered.unchanged hunchanged
  stored := by
    rw [hunchanged.keeps.messages]
    exact hholds.stored

/-- Idle programs preserve what idle calls preserve. -/
theorem idle_triple {α : Type} {program : Service α} {post : List (Event services) → α → Prop}
    {property : World → Prop}
    (hkeeps : ∀ world next, property world → Unchanged world next → property next)
    (hyields : Yields (fun _ event => idle event = true) post [] program) :
    Triple (counting faults key) property program.run fun _ => property := by
  apply hyields.triple property
  intro past event world next hproperty hidle hanswer
  exact hkeeps world next hproperty (unchanged_of_idle hanswer.2 hidle)

/-- A storage call that stores no rows. -/
theorem idle_storage_triple {call : StorageCall} {property : World → Prop}
    (hkeeps : ∀ world next, property world → Unchanged world next → property next)
    (hidle : ∀ reply, idle ⟨.storage call, reply⟩ = true) :
    Triple (counting faults key) property (storage call).run
      fun _ => property := by
  refine storage_triple fun world reply next hproperty hanswer => ?_
  exact hkeeps world next hproperty (unchanged_of_idle hanswer.2 (hidle reply))

/-! ## Increments -/

theorem incrUnread_triple (userId : UInt64) (rest : List UInt64) (conversation : ConversationKey) :
    Triple (counting faults key)
      (Covered base key (owes key (userId :: rest) conversation))
      (cache (.incrUnread ⟨userId, conversation⟩ 1)).run
      fun _ => Covered base key (owes key rest conversation) := by
  refine cache_triple ?_
  rintro world reply next hcovered ⟨⟨hok, -⟩, hanswer⟩
  cases reply with
  | error => cases hok
  | ok =>
    rcases hanswer with hanswer | ⟨-, ⟨status, hstatus⟩, -⟩
    · obtain ⟨hreply, rfl⟩ := Prod.mk.inj hanswer
      have hunread := Redis.incrUnread_ok (Prod.ext hreply.symm rfl)
      show waitingSince base world.database.1 key ≤
        (world.redis.incrUnread ⟨userId, conversation⟩ 1).2.unread key + _
      rw [hunread]
      by_cases hkey : key = ⟨userId, conversation⟩
      · rw [← hkey, update_self]
        have howed : owes key (userId :: rest) conversation ≤ 1 := by
          rw [owes]
          split_ifs <;> omega
        have hone : (1 : UInt64).toNat = 1 := rfl
        rw [Covered] at hcovered
        omega
      · rw [update_of_ne hkey]
        have howed : owes key (userId :: rest) conversation =
            owes key rest conversation := by
          apply if_congr _ rfl rfl
          rw [mem_cons]
          refine ⟨?_, fun howed => ⟨Or.inr howed.1, howed.2⟩⟩
          rintro ⟨hsame | hrest, hconversation⟩
          · exact (hkey (UnreadKey.ext hsame hconversation.symm)).elim
          · exact ⟨hrest, hconversation⟩
        rwa [← howed]
    · cases hstatus

theorem incrementUnread_triple (conversation : ConversationKey) (userIds : List UInt64) :
    Triple (counting faults key)
      (Covered base key (owes key userIds conversation))
      (incrementUnread conversation userIds).run fun _ => Covered base key 0 := by
  induction userIds with
  | nil => exact triple_pure fun world hcovered => by simpa [owes] using hcovered
  | cons userId rest ih =>
    exact triple_outcome_bind _ (incrUnread_triple userId rest conversation)
      fun _ => ih

/-! ## Private messages -/

theorem incrementUnreadForMessage_triple (receiverId : UInt64) :
    Triple (counting faults key)
      (Covered base key (owes key [receiverId] saved.conversation))
      (incrementUnreadForMessage receiverId saved).run
      fun _ => Covered base key 0 := by
  refine triple_outcome_bind _ (incrUnread_triple receiverId [] saved.conversation) ?_
  exact fun result => triple_pure fun world hcovered => by
    simpa [owes] using hcovered

/-- A fallback row is counted directly after it was stored. -/
theorem ensureOfflineFallback_triple (receiverId : UInt64) :
    Triple (counting faults key) (Holds base key 0 saved)
      (ensureOfflineFallback receiverId saved).run fun _ => Covered base key 0 := by
  refine triple_outcome_bind (byOutcome
    (fun _ => Covered base key (owes key [receiverId] saved.conversation))
    fun _ => Covered base key 0) ?_ ?_
  · refine storage_triple ?_
    rintro world reply next ⟨hcovered, row, hrow, rfl⟩ ⟨-, hanswer⟩
    cases reply with
    | ok =>
      obtain ⟨-, hadds⟩ := (machine_effect hanswer).1
      rw [Covered, Nat.add_zero] at hcovered
      show waitingSince base next.database.1 key ≤ next.redis.unread key + _
      rw [machine_storage_redis hanswer]
      exact (hadds.waitingSince_le next.database.2 hrow).trans (Nat.add_le_add_right hcovered _)
    | error => exact hcovered.unchanged (unchanged_of_idle hanswer rfl)
  · intro result
    cases result with
    | ok => exact incrementUnreadForMessage_triple receiverId
    | error status =>
      by_cases hcode : status.code = .alreadyExists
      · simp only [hcode, if_true]
        exact triple_pure fun _ => id
      · simp only [hcode, if_false]
        exact triple_throw fun _ => id

theorem pushPrivateOrFallback_triple (session : SessionRef) (receiverId : UInt64) :
    Triple (counting faults key) (Holds base key 0 saved)
      (pushPrivateOrFallback (some session) receiverId saved).run
      fun _ => Covered base key 0 := by
  refine triple_bind_const
    (idle_triple (fun _ _ => Holds.unchanged) (idle_closed session))
    (fun _ _ hholds => hholds.covered) ?_
  intro closed
  cases closed with
  | true => exact ensureOfflineFallback_triple receiverId
  | false =>
    refine triple_ofExcept_bind (fun _ _ _ hholds => hholds.covered) ?_
    intro push _
    refine triple_outcome_bind _
      (idle_triple (fun _ _ => Holds.unchanged) (idle_sendPacket session push)) ?_
    intro result
    cases result with
    | ok => exact triple_pure fun _ hholds => hholds.covered
    | error => exact ensureOfflineFallback_triple receiverId

theorem redeliver_triple :
    Triple (counting faults key) (Holds base key 0 saved)
      (redeliver saved).run fun _ => Covered base key 0 := by
  refine triple_bind_const
    (idle_triple (fun _ _ => Holds.unchanged) (idle_isMessageAlreadyDelivered _ _))
    (fun _ _ hholds => hholds.covered) ?_
  intro delivered
  cases delivered with
  | true => exact triple_pure fun _ hholds => hholds.covered
  | false =>
    refine triple_bind_const (idle_triple (fun _ _ => Holds.unchanged)
      (findReceiver_yields saved.receiverId fun _ _ => rfl))
      (fun _ _ hholds => hholds.covered) ?_
    intro receiver
    cases receiver with
    | some session => exact pushPrivateOrFallback_triple session saved.receiverId
    | none => exact ensureOfflineFallback_triple saved.receiverId

/-- What is owed for a message that was just saved is counted. -/
theorem deliver_triple (receiver : Option SessionRef) (receiverId : UInt64) :
    Triple (counting faults key)
      (Holds base key (owes key (if receiver.isNone then [receiverId] else [])
        saved.conversation) saved)
      (deliver receiver receiverId saved).run fun _ => Covered base key 0 := by
  cases receiver with
  | none =>
    exact (incrementUnreadForMessage_triple receiverId).mono
      (fun _ hholds => hholds.covered) fun _ _ => id
  | some session =>
    refine (pushPrivateOrFallback_triple session receiverId).mono ?_ fun _ _ => id
    intro world hholds
    exact ⟨by simpa [owes] using hholds.covered, hholds.stored⟩

/-- A save leaves the increments of its rows owed. -/
theorem save_triple (message : MessageRecord) (offlineUserIds : List UInt64) :
    Triple (counting faults key) (Covered base key 0)
      (storage (.saveMessageWithOfflineRecipients message offlineUserIds)).run
      (byOutcome
        (fun saved => Holds base key (owes key offlineUserIds saved.conversation) saved)
        fun _ => Covered base key 0) := by
  refine storage_triple ?_
  rintro world reply next hcovered ⟨-, hanswer⟩
  cases reply with
  | error => exact hcovered.unchanged (unchanged_of_idle hanswer rfl)
  | ok saved =>
    have hsaves : Saves message offlineUserIds world.database.1 saved next.database.1 :=
      (machine_effect hanswer).1
    obtain ⟨row, -, hrow⟩ := savedRow_of_saves hsaves
    refine ⟨?_, row, hrow.stored, hrow.record⟩
    rw [Covered, Nat.add_zero] at hcovered
    rw [Covered, machine_storage_redis hanswer]
    exact (hsaves.waitingSince_le world.database.2 next.database.2).trans
      (Nat.add_le_add_right hcovered _)

/-- A message found under its client id is stored. -/
theorem find_triple (senderId : UInt64) (clientMsgId : Bytes) :
    Triple (counting faults key) (Covered base key 0)
      (storage (.findMessageByClientMessageId senderId clientMsgId)).run
      (byOutcome (fun saved => Holds base key 0 saved) fun _ => Covered base key 0) := by
  refine storage_triple ?_
  rintro world reply next hcovered ⟨-, hanswer⟩
  have hstill := hcovered.unchanged (unchanged_of_idle hanswer rfl)
  cases reply with
  | error => exact hstill
  | ok =>
    obtain ⟨row, hmem, hrecord, -⟩ := (machine_effect hanswer).2
    exact ⟨hstill, row, hmem, hrecord⟩

theorem saveAndDeliver_triple (receiver : Option SessionRef) (message : MessageRecord) :
    Triple (counting faults key) (Covered base key 0)
      (saveAndDeliver receiver message).run fun _ => Covered base key 0 := by
  refine triple_outcome_bind _ (save_triple message _) ?_
  intro result
  cases result with
  | ok =>
    exact triple_bind_const (deliver_triple receiver message.receiverId)
      (fun _ _ => id) fun _ => triple_pure fun _ => id
  | error status =>
    by_cases hreturn : status.code ≠ .alreadyExists ∨ message.clientMsgId = []
    · simp only [hreturn, if_true]
      exact triple_throw fun _ => id
    · simp only [hreturn, if_false]
      refine triple_bind (fun saved => Holds base key 0 saved)
        (find_triple message.senderId message.clientMsgId) ?_
      intro saved
      exact triple_bind_const redeliver_triple (fun _ _ => id) fun _ =>
        triple_pure fun _ => id

theorem handlePrivateMessage_triple (request : RouterRequest) :
    Triple (counting faults key) (Covered base key 0)
      (handlePrivateMessage request).run fun _ => Covered base key 0 := by
  refine triple_bind_const (idle_triple (fun _ _ => Covered.unchanged)
    (currentUserId_yields request (fun _ _ _ => rfl) fun _ _ _ => rfl)) (fun _ _ => id) ?_
  intro senderId
  refine triple_ofExcept_bind (fun _ _ _ => id) ?_
  intro receiverId _
  refine triple_ofExcept_bind (fun _ _ _ => id) ?_
  intro text _
  refine triple_ofExcept_bind (fun _ _ _ => id) ?_
  intro clientMsgId _
  refine triple_bind_const
    (idle_storage_triple (fun _ _ => Covered.unchanged) fun _ => rfl) (fun _ _ => id) ?_
  intro user
  refine triple_bind_const
    (idle_storage_triple (fun _ _ => Covered.unchanged) fun _ => rfl) (fun _ _ => id) ?_
  intro areFriends
  refine triple_ofExcept_bind (fun _ _ _ => id) ?_
  intro _ _
  refine triple_ofExcept_bind (fun _ _ _ => id) ?_
  intro conversationId _
  refine triple_bind_const (idle_triple (fun _ _ => Covered.unchanged)
    (findReceiver_yields receiverId fun _ _ => rfl)) (fun _ _ => id) ?_
  intro receiver
  refine triple_bind_const (saveAndDeliver_triple receiver _) (fun _ _ => id) ?_
  exact fun saved => triple_ofExcept fun _ => id

/-! ## Group messages -/

theorem idle_of_reads {event : Event services} (hreads : Reads event) :
    idle event = true := by
  obtain ⟨call, reply⟩ := event
  cases call with
  | session => rfl
  | cache => exact hreads.elim
  | storage call =>
    cases call with
    | saveMessageWithOfflineRecipients | saveOfflineMessage => exact hreads.elim
    | _ => rfl

theorem pushToMembers_triple (sessions : List SessionRef) :
    Triple (counting faults key) (Covered base key 0)
      (pushToMembers saved sessions).run fun _ => Covered base key 0 := by
  induction sessions with
  | nil => exact triple_pure fun _ => id
  | cons session rest ih =>
    refine triple_ofExcept_bind (fun _ _ _ => id) ?_
    intro push _
    exact triple_bind_const
      (idle_triple (fun _ _ => Covered.unchanged) (idle_sendPacket session push))
      (fun _ _ => id) fun _ => ih

theorem handleGroupMessage_triple (request : RouterRequest) :
    Triple (counting faults key) (Covered base key 0)
      (handleGroupMessage request).run fun _ => Covered base key 0 := by
  refine triple_bind_const (idle_triple (fun _ _ => Covered.unchanged)
    ((prepare_yields request).justify fun _ _ => idle_of_reads)) (fun _ _ => id) ?_
  intro plan
  refine triple_bind _ (save_triple plan.message plan.offlineUserIds) ?_
  intro saved
  refine triple_bind_const
    ((incrementUnread_triple saved.conversation plan.offlineUserIds).mono
      (fun _ hholds => hholds.covered) fun _ _ => id) (fun _ _ => id) ?_
  intro _
  refine triple_bind_const (pushToMembers_triple plan.onlineSessions)
    (fun _ _ => id) ?_
  exact fun _ => triple_ofExcept fun _ => id

/-! ## Acknowledgements -/

/-- The counters of other conversations are not touched. -/
theorem clearConversations_covered {userId : UInt64} {conversations : List ConversationKey}
    (hother : ∀ conversation ∈ conversations, key ≠ ⟨userId, conversation⟩) :
    Triple (counting faults key) (Covered base key 0)
      (clearConversations userId conversations).run
      fun _ => Covered base key 0 := by
  induction conversations with
  | nil => exact triple_pure fun _ => id
  | cons conversation rest ih =>
    rw [forall_mem_cons] at hother
    refine triple_bind_const ?_ (fun _ _ => id) fun _ => ih hother.2
    refine cache_triple ?_
    rintro world reply next hcovered ⟨⟨hok, -⟩, hanswer⟩
    cases reply with
    | error => cases hok
    | ok =>
      rcases hanswer with hanswer | ⟨-, ⟨status, hstatus⟩, -⟩
      · obtain ⟨hreply, rfl⟩ := Prod.mk.inj hanswer
        have hunread := Redis.clearUnread_ok (Prod.ext hreply.symm rfl)
        show waitingSince base world.database.1 key ≤
          (world.redis.clearUnread ⟨userId, conversation⟩).2.unread key + 0
        rw [hunread, update_of_ne hother.1]
        exact hcovered
      · cases hstatus

theorem handleOfflineMessagesAck_covered (request : RouterRequest) :
    Triple (counting faults key) (Covered base key 0)
      (handleOfflineMessagesAck request).run
      fun _ => Covered base key 0 := by
  refine triple_bind_const (idle_triple (fun _ _ => Covered.unchanged)
    (OfflineMessageService.currentUserId_yields request fun _ _ _ => rfl)) (fun _ _ => id) ?_
  intro userId
  refine triple_ofExcept_bind (fun _ _ _ => id) ?_
  intro messageIds _
  refine triple_ofExcept_bind (fun _ _ _ => id) ?_
  intro _ _
  refine triple_bind (fun acked world => Covered base key 0 world ∧
    ∀ conversation ∈ conversationsOf acked,
      key ≠ ⟨userId, conversation⟩) ?_ ?_
  · refine storage_triple ?_
    rintro world reply next hcovered ⟨⟨-, hkept⟩, hanswer⟩
    cases reply with
    | error => exact hcovered.unchanged (unchanged_of_idle hanswer rfl)
    | ok acked =>
      refine ⟨hcovered.unchanged (unchanged_of_idle hanswer rfl), ?_⟩
      rintro conversation hmem rfl
      obtain ⟨record, hrecord, rfl⟩ := mem_conversationsOf.mp hmem
      have hclears : (acked.any fun other =>
          other.message.conversation = record.message.conversation) = true :=
        any_eq_true.mpr ⟨record, hrecord, by simp⟩
      simp [clears, hclears] at hkept
  intro acked
  refine triple_ofExcept_bind (fun _ _ _ hpre => hpre.1) ?_
  intro response _
  refine triple_outcome_bind (fun _ => Covered base key 0) ?_ fun _ =>
    triple_pure fun _ => id
  intro world trace result last hpre hexec
  exact clearConversations_covered hpre.2 world trace result last hpre.1 hexec

/-! ## Whole sequences -/

theorem serve_triple (service : OfflineMessageService) (client : ClientRequest) :
    Triple (counting faults key) (Covered base key 0) (serve service client)
      fun _ => Covered base key 0 := by
  obtain ⟨operation, request⟩ := client
  cases operation with
  | privateMessage => exact handlePrivateMessage_triple request
  | groupMessage => exact handleGroupMessage_triple request
  | offlineMessages =>
    exact idle_triple (fun _ _ => Covered.unchanged)
      ((service.handleOfflineMessages_yields request (fun _ _ _ => rfl)
        fun _ _ _ _ _ => rfl).mono fun _ _ _ _ => trivial)
  | offlineMessagesAck => exact handleOfflineMessagesAck_covered request
  | deliveryAck =>
    apply idle_triple (fun _ _ => Covered.unchanged)
    apply handleDeliveryAck_yields request (fun _ _ _ => rfl) fun _ _ _ => rfl
    intro history userId messageId reply
    cases reply <;> rfl

end Triples

theorem covered_start (key : UnreadKey) (world : World) :
    Covered world.database.1 key 0 world := by
  apply Nat.le_trans _ (Nat.zero_le _)
  rw [waitingSince, Nat.le_zero, countP_eq_zero]
  intro row hmem hcounted
  have hpresent : world.database.1.hasOffline row.userId row.messageId = true :=
    hasOffline_iff.mpr ⟨row, hmem, rfl, rfl⟩
  simp [hpresent] at hcounted

/-- An unread counter covers the messages that were stored since the user last
acknowledged a message of the conversation: when requests are handled one after another
and the cache does not fail, and none of them acknowledges a message of the conversation,
the counter at the end is at least the number of rows stored on the way that are not yet
delivered. -/
theorem waitingSince_le_unread {service : OfflineMessageService} {faults : Faults}
    {first last : World} {served : List (Completed services ClientRequest (Except Error Packet))}
    (key : UnreadKey)
    (hrequests : Sequence (machine faults) Logins (serve service) first served last)
    (hcache : ∀ completed ∈ served, ∀ event ∈ completed.trace, cacheOk event = true)
    (hkept : ∀ completed ∈ served, ∀ event ∈ completed.trace, clears key event = false) :
    waitingSince first.database.1 last.database.1 key ≤ last.redis.unread key := by
  apply hrequests.invariant (Covered first.database.1 key 0) (covered_start key first)
  · intro completed hmem world next hcovered hexec
    apply serve_triple service completed.request world completed.trace completed.result next
      hcovered
    exact exec_restrict_iff.mpr
      ⟨hexec, fun event hevent => ⟨hcache completed hmem event hevent,
        hkept completed hmem event hevent⟩⟩
  · rintro world next hcovered ⟨hdatabase, hunread⟩
    rwa [Covered, hdatabase, hunread]

/-! ## An acknowledgement of some of the messages -/

/-- User 1 sends a second message to user 2, who is still offline. -/
def sentTwice : Completed services ClientRequest (Except Error Packet) × World :=
  handled ⟨.privateMessage, sendRequest 2 [66]⟩ sent.2

/-- User 2 logs in on session 12. -/
def secondLogin : World := { sentTwice.2 with manager := sentTwice.2.manager.rebind 2 ⟨12⟩ }

/-- User 2 acknowledges the first message. -/
def ackFirst : Completed services ClientRequest (Except Error Packet) × World :=
  handled ⟨.offlineMessagesAck, nameFirst⟩ secondLogin

/-- The conversation of users 1 and 2, as user 2 has it. -/
def withFirst : UnreadKey := ⟨2, { type := .kPrivate, id := 10002 }⟩

theorem forall_event_of_all (test : Event services → Bool)
    {served : List (Completed services ClientRequest (Except Error Packet))}
    (hall : (served.all fun completed => completed.trace.all test) = true) :
    ∀ completed ∈ served, ∀ event ∈ completed.trace, test event = true := by
  intro completed hmem event hevent
  exact all_eq_true.mp (all_eq_true.mp hall completed hmem) event hevent

/-- Two messages that nobody acknowledged are counted. -/
theorem waitingSince_le_unread_sentTwice :
    waitingSince oneOnline.database.1 sentTwice.2.database.1 withFirst = 2 ∧
    waitingSince oneOnline.database.1 sentTwice.2.database.1 withFirst ≤
      sentTwice.2.redis.unread withFirst := by
  have hrequests : Sequence (machine .none) Logins (serve {}) oneOnline
      [sent.1, sentTwice.1] sentTwice.2 := by
    apply Sequence.request (handled_exec _ _)
    exact Sequence.request (handled_exec _ _) (.nil _)
  refine ⟨rfl, waitingSince_le_unread withFirst hrequests (forall_event_of_all cacheOk rfl) ?_⟩
  intro completed hmem event hevent
  have hkept : (!clears withFirst event) = true :=
    forall_event_of_all (fun event => !clears withFirst event) rfl completed hmem event
      hevent
  rwa [Bool.not_eq_true'] at hkept

/-- Two messages of one conversation wait, and the first one is acknowledged: the counter
is zero although the second one still waits. -/
theorem unread_zero_while_waiting :
    Sequence (machine .none) Logins (serve {}) oneOnline
      [sent.1, sentTwice.1, ackFirst.1] ackFirst.2 ∧
    (∀ completed ∈ [sent.1, sentTwice.1, ackFirst.1], ∀ event ∈ completed.trace,
      cacheOk event = true) ∧
    ackFirst.2.redis.unread withFirst = 0 ∧ ackFirst.2.database.1.waiting withFirst = 1 := by
  refine ⟨?_, forall_event_of_all cacheOk rfl, rfl, rfl⟩
  apply Sequence.request (handled_exec _ _)
  apply Sequence.request (handled_exec _ _)
  apply Sequence.outside (show Logins sentTwice.2 secondLogin from ⟨rfl, rfl⟩)
  exact Sequence.request (handled_exec _ _) (.nil _)

end Mailbox

end LiteIM
