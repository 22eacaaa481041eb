/-
# The tables and the statements on them

The tables of `init_mysql.sql` that messages pass through, with the statements
the storage layer runs on them. A statement either succeeds and changes the
tables, or fails with an error number and changes nothing.

Strings are compared by the declared collation of the tables. A collation compares
two strings by their weights, so it is given here by its weight function; that of
`utf8mb4_0900_ai_ci` ignores case, among other things, and gives no weight at all
to some characters. `NULLIF(?, '')` compares in the same way.
-/

import LiteIM.Base.Status
import LiteIM.Storage.Types
import Mathlib.Data.List.Nodup
import Mathlib.Data.List.Pairwise
import Mathlib.Tactic.ByContra
import Mathlib.Tactic.SplitIfs

namespace LiteIM

open Foundation List

/-- A collation, by the weight string it assigns to each string. -/
structure Collation where
  weight : Bytes → Bytes

/-- Strings the database does not tell apart. -/
def Collation.same (collation : Collation) (first second : Bytes) : Bool :=
  collation.weight first = collation.weight second

structure GroupMemberRow where
  groupId : UInt64
  userId : UInt64
  joinedAtMs : Int
  deriving DecidableEq, Repr

structure MessageRow where
  messageId : UInt64
  conversation : ConversationKey
  senderId : UInt64
  receiverId : UInt64
  messageText : Bytes
  createdAtMs : Int
  /-- `none` is `NULL`. -/
  clientMsgId : Option Bytes
  deriving DecidableEq, Repr

structure OfflineRow where
  offlineMessageId : Nat
  userId : UInt64
  messageId : UInt64
  delivered : Bool
  createdAtMs : Int
  deliveredAtMs : Option Int
  deriving DecidableEq, Repr

structure DeliveryRow where
  messageId : UInt64
  userId : UInt64
  status : DeliveryStatus
  deliveredAtMs : Option Int
  deriving DecidableEq, Repr

/-- Rows stand in the order of their primary key; `nextMessageId` and
`nextOfflineId` are the `AUTO_INCREMENT` counters. -/
structure Tables where
  collation : Collation
  users : List UserRecord := []
  friendRequests : List FriendRequestRecord := []
  friendships : List (UInt64 × UInt64) := []
  chatGroups : List GroupRecord := []
  groupMembers : List GroupMemberRow := []
  messages : List MessageRow := []
  nextMessageId : Nat := 1
  offlineMessages : List OfflineRow := []
  nextOfflineId : Nat := 1
  messageDeliveries : List DeliveryRow := []

instance (tables : Tables) (pair : UInt64 × UInt64) : Decidable (pair ∈ tables.friendships) :=
  inferInstanceAs (Decidable (pair ∈ tables.friendships))

/-- Why a statement failed. -/
inductive SqlError where
  | duplicateEntry
  | foreignKey
  | autoIncrement
  deriving DecidableEq, Repr

/-- `statementError(statement, "mysql_stmt_execute failed")`. -/
def SqlError.status : SqlError → Error
  | .duplicateEntry => ⟨.ioError, "mysql_stmt_execute failed: Duplicate entry"⟩
  | .foreignKey => ⟨.ioError, "mysql_stmt_execute failed: a foreign key constraint fails"⟩
  | .autoIncrement =>
    ⟨.ioError, "mysql_stmt_execute failed: Failed to read auto-increment value"⟩

/-- The record a message row is parsed to: a missing client id is the empty string. -/
def MessageRow.toRecord (row : MessageRow) : MessageRecord where
  messageId := row.messageId
  conversation := row.conversation
  senderId := row.senderId
  receiverId := row.receiverId
  text := row.messageText
  createdAtMs := row.createdAtMs
  clientMsgId := row.clientMsgId.getD []

namespace Tables

/-- `NULLIF(value, '')`. -/
def nullIfEmpty (tables : Tables) (value : Bytes) : Option Bytes :=
  if tables.collation.same value [] then none else some value

/-- `sender_id = ? AND client_msg_id = ?`; a `NULL` equals nothing. -/
def hasClientKey (tables : Tables) (senderId : UInt64) (clientMsgId : Bytes)
    (row : MessageRow) : Bool :=
  row.senderId = senderId &&
    row.clientMsgId.any fun stored => tables.collation.same stored clientMsgId

def hasUser (tables : Tables) (userId : UInt64) : Bool :=
  tables.users.any fun user => user.userId = userId

def hasMessage (tables : Tables) (messageId : UInt64) : Bool :=
  tables.messages.any fun row => row.messageId = messageId

def hasOffline (tables : Tables) (userId messageId : UInt64) : Bool :=
  tables.offlineMessages.any fun row => row.userId = userId ∧ row.messageId = messageId

/-- `INSERT INTO messages … VALUES (?, ?, ?, ?, ?, ?, NULLIF(?, ''))`. -/
def insertMessage (tables : Tables) (conversation : ConversationKey)
    (senderId receiverId : UInt64) (text : Bytes) (createdAtMs : Int) (clientMsgId : Bytes) :
    Except SqlError (MessageRow × Tables) :=
  let key := tables.nullIfEmpty clientMsgId
  if 2 ^ 64 ≤ tables.nextMessageId then .error .autoIncrement
  else if key.isSome && tables.messages.any (tables.hasClientKey senderId clientMsgId) then
    .error .duplicateEntry
  else if tables.hasUser senderId = false then .error .foreignKey
  else
    let row : MessageRow :=
      { messageId := UInt64.ofNat tables.nextMessageId, conversation, senderId, receiverId,
        messageText := text, createdAtMs, clientMsgId := key }
    .ok (row, { tables with
      messages := tables.messages ++ [row], nextMessageId := tables.nextMessageId + 1 })

/-- `INSERT INTO offline_messages … VALUES (?, ?, 0, ?, NULL)`. -/
def insertOffline (tables : Tables) (userId messageId : UInt64) (createdAtMs : Int) :
    Except SqlError Tables :=
  if tables.hasOffline userId messageId then .error .duplicateEntry
  else if tables.hasUser userId = false then .error .foreignKey
  else if tables.hasMessage messageId = false then .error .foreignKey
  else
    let row : OfflineRow :=
      { offlineMessageId := tables.nextOfflineId, userId, messageId, delivered := false,
        createdAtMs, deliveredAtMs := none }
    .ok { tables with
      offlineMessages := tables.offlineMessages ++ [row],
      nextOfflineId := tables.nextOfflineId + 1 }

/-- `INSERT INTO message_deliveries … ON DUPLICATE KEY UPDATE status = status`. -/
def upsertPending (tables : Tables) (userId messageId : UInt64) : Except SqlError Tables :=
  if tables.messageDeliveries.any fun row => row.messageId = messageId ∧ row.userId = userId then
    .ok tables
  else if tables.hasMessage messageId = false ∨ tables.hasUser userId = false then
    .error .foreignKey
  else
    .ok { tables with
      messageDeliveries := tables.messageDeliveries ++
        [{ messageId, userId, status := .kPending, deliveredAtMs := none }] }

/-! ## The constraints of the schema -/

/-- What the declared keys and counters guarantee of the tables. -/
structure Keyed (tables : Tables) : Prop where
  counter_pos : 0 < tables.nextMessageId
  message_lt : ∀ row ∈ tables.messages, row.messageId.toNat < tables.nextMessageId
  message_pos : ∀ row ∈ tables.messages, 0 < row.messageId.toNat
  message_sorted : tables.messages.Pairwise fun first second =>
    first.messageId.toNat < second.messageId.toNat
  /-- `uk_messages_sender_client_msg`. -/
  client_unique : tables.messages.Pairwise fun first second =>
    ∀ clientMsgId, second.clientMsgId = some clientMsgId →
      tables.hasClientKey second.senderId clientMsgId first = false
  /-- `uk_offline_messages_user_message`. -/
  offline_unique : tables.offlineMessages.Pairwise fun first second =>
    ¬ (first.userId = second.userId ∧ first.messageId = second.messageId)
  /-- `fk_offline_messages_message`. -/
  offline_message : ∀ row ∈ tables.offlineMessages, tables.hasMessage row.messageId = true
  /-- `fk_offline_messages_user`. -/
  offline_user : ∀ row ∈ tables.offlineMessages, tables.hasUser row.userId = true
  offline_lt : ∀ row ∈ tables.offlineMessages, row.offlineMessageId < tables.nextOfflineId
  offline_sorted : tables.offlineMessages.Pairwise fun first second =>
    first.offlineMessageId < second.offlineMessageId
  /-- The primary key of `group_members`. -/
  member_unique : tables.groupMembers.Pairwise fun first second =>
    ¬ (first.groupId = second.groupId ∧ first.userId = second.userId)
  /-- The primary key of `message_deliveries`. -/
  delivery_unique : tables.messageDeliveries.Pairwise fun first second =>
    ¬ (first.messageId = second.messageId ∧ first.userId = second.userId)
  /-- The primary key of `users`. -/
  user_unique : tables.users.Pairwise fun first second => first.userId ≠ second.userId

variable {tables : Tables}

/-- Tables in which nothing was sent yet. -/
theorem keyed_of_no_messages (hcounter : 0 < tables.nextMessageId)
    (hmessages : tables.messages = []) (hoffline : tables.offlineMessages = [])
    (hdeliveries : tables.messageDeliveries = [])
    (hmembers : tables.groupMembers.Pairwise fun first second =>
      ¬ (first.groupId = second.groupId ∧ first.userId = second.userId))
    (husers : tables.users.Pairwise fun first second => first.userId ≠ second.userId) :
    tables.Keyed where
  counter_pos := hcounter
  message_lt := by simp [hmessages]
  message_pos := by simp [hmessages]
  message_sorted := by simp [hmessages]
  client_unique := by simp [hmessages]
  offline_unique := by simp [hoffline]
  offline_message := by simp [hoffline]
  offline_user := by simp [hoffline]
  offline_lt := by simp [hoffline]
  offline_sorted := by simp [hoffline]
  member_unique := hmembers
  delivery_unique := by simp [hdeliveries]
  user_unique := husers

variable {senderId : UInt64} {clientMsgId : Bytes} {row : MessageRow}

theorem hasClientKey_iff : tables.hasClientKey senderId clientMsgId row = true ↔
      row.senderId = senderId ∧ ∃ stored, row.clientMsgId = some stored ∧
        tables.collation.weight stored = tables.collation.weight clientMsgId := by
  simp [hasClientKey, Option.any_eq_true, Collation.same]

theorem nullIfEmpty_eq_some_iff {value stored : Bytes} : tables.nullIfEmpty value = some stored ↔
      tables.collation.weight value ≠ tables.collation.weight [] ∧ stored = value := by
  by_cases hempty : tables.collation.weight value = tables.collation.weight []
  · simp [nullIfEmpty, Collation.same, hempty]
  · simp [nullIfEmpty, Collation.same, hempty, eq_comm]

variable {after : Tables} {createdAtMs : Int}

/-- Everything an insert into `messages` does: it found the counter in range and
the client key free, and it appended one row under a new id. -/
theorem insertMessage_ok {conversation : ConversationKey} {receiverId : UInt64} {text : Bytes}
    (hinsert : tables.insertMessage conversation senderId receiverId text createdAtMs
      clientMsgId = .ok (row, after)) :
    tables.nextMessageId < 2 ^ 64 ∧ tables.hasUser senderId = true ∧
    (∀ key, tables.nullIfEmpty clientMsgId = some key →
      ∀ other ∈ tables.messages, tables.hasClientKey senderId clientMsgId other = false) ∧
    row = { messageId := UInt64.ofNat tables.nextMessageId, conversation, senderId, receiverId,
            messageText := text, createdAtMs, clientMsgId := tables.nullIfEmpty clientMsgId } ∧
    after = { tables with
      messages := tables.messages ++ [row], nextMessageId := tables.nextMessageId + 1 } := by
  simp only [insertMessage] at hinsert
  split_ifs at hinsert with hcounter hduplicate huser
  simp only [Except.ok.injEq, Prod.mk.injEq] at hinsert
  obtain ⟨rfl, rfl⟩ := hinsert
  refine ⟨Nat.not_le.mp hcounter, by simpa using huser, ?_, rfl, rfl⟩
  intro key hkey other hmem
  by_contra hother
  apply hduplicate
  simp only [Bool.and_eq_true, any_eq_true]
  exact ⟨by simp [hkey], other, hmem, by simpa using hother⟩

variable {messageId userId : UInt64}

theorem insertOffline_ok (hinsert : tables.insertOffline userId messageId createdAtMs = .ok after) :
    tables.hasOffline userId messageId = false ∧ tables.hasUser userId = true ∧
    tables.hasMessage messageId = true ∧
    after = { tables with
      offlineMessages := tables.offlineMessages ++
        [{ offlineMessageId := tables.nextOfflineId, userId, messageId, delivered := false,
           createdAtMs, deliveredAtMs := none }],
      nextOfflineId := tables.nextOfflineId + 1 } := by
  simp only [insertOffline] at hinsert
  split_ifs at hinsert with hduplicate huser hmessage
  simp only [Except.ok.injEq] at hinsert
  exact ⟨by simpa using hduplicate, by simpa using huser, by simpa using hmessage,
    hinsert.symm⟩

theorem insertOffline_duplicate
    (hinsert : tables.insertOffline userId messageId createdAtMs = .error .duplicateEntry) :
    tables.hasOffline userId messageId = true := by
  simp only [insertOffline] at hinsert
  split_ifs at hinsert with hduplicate huser hmessage
  · exact hduplicate
  · cases hinsert
  · cases hinsert

/-- A pending delivery row is added unless there is a row already. -/
theorem upsertPending_ok (hupsert : tables.upsertPending userId messageId = .ok after) :
    after = tables ∨
    ((∀ row ∈ tables.messageDeliveries, ¬ (row.messageId = messageId ∧ row.userId = userId)) ∧
      after = { tables with
        messageDeliveries := tables.messageDeliveries ++
          [{ messageId, userId, status := .kPending, deliveredAtMs := none }] }) := by
  simp only [upsertPending] at hupsert
  split_ifs at hupsert with hpresent hreferences
  · exact Or.inl (Except.ok.inj hupsert).symm
  · refine Or.inr ⟨?_, (Except.ok.inj hupsert).symm⟩
    intro row hmem hkey
    apply hpresent
    rw [any_eq_true]
    exact ⟨row, hmem, by simpa using hkey⟩

/-! ## Statements keep the constraints -/

theorem hasMessage_iff :
    tables.hasMessage messageId = true ↔ ∃ row ∈ tables.messages, row.messageId = messageId := by
  simp [hasMessage]

theorem hasOffline_iff : tables.hasOffline userId messageId = true ↔
      ∃ row ∈ tables.offlineMessages, row.userId = userId ∧ row.messageId = messageId := by
  simp [hasOffline]

theorem Keyed.messageIds_nodup (hkeyed : tables.Keyed) :
    (tables.messages.map MessageRow.messageId).Nodup := by
  apply pairwise_map.mpr
  apply hkeyed.message_sorted.imp
  intro first second hlt heq
  exact Nat.lt_irrefl _ (heq ▸ hlt)

theorem Keyed.messages_nodup (hkeyed : tables.Keyed) :
    tables.messages.Nodup := hkeyed.messageIds_nodup.of_map

/-- A message id names one row. -/
theorem Keyed.message_unique (hkeyed : tables.Keyed) {first second : MessageRow}
    (hfirst : first ∈ tables.messages) (hsecond : second ∈ tables.messages)
    (hid : first.messageId = second.messageId) : first = second :=
  inj_on_of_nodup_map hkeyed.messageIds_nodup hfirst hsecond hid

/-- A client key names one row. -/
theorem Keyed.client_row_unique (hkeyed : tables.Keyed) {first second : MessageRow}
    (hfirst : first ∈ tables.messages) (hsecond : second ∈ tables.messages)
    (hfirstKey : tables.hasClientKey senderId clientMsgId first = true)
    (hsecondKey : tables.hasClientKey senderId clientMsgId second = true) : first = second := by
  let apart : MessageRow → MessageRow → Prop := fun first second =>
    ¬ (tables.hasClientKey senderId clientMsgId first = true ∧
      tables.hasClientKey senderId clientMsgId second = true)
  have hsymm : Std.Symm apart := ⟨fun first second hapart hboth => hapart hboth.symm⟩
  have hpairwise : tables.messages.Pairwise apart := by
    apply hkeyed.client_unique.imp
    rintro first second hunique ⟨hfirst, hsecond⟩
    obtain ⟨hsender, stored, hstored, hweight⟩ := hasClientKey_iff.mp hfirst
    obtain ⟨hsender', stored', hstored', hweight'⟩ := hasClientKey_iff.mp hsecond
    have htaken : tables.hasClientKey second.senderId stored' first = true :=
      hasClientKey_iff.mpr
        ⟨hsender.trans hsender'.symm, stored, hstored, hweight.trans hweight'.symm⟩
    simp [hunique stored' hstored'] at htaken
  by_contra hne
  exact hpairwise.forall hfirst hsecond hne ⟨hfirstKey, hsecondKey⟩

/-- The keys of the offline rows. -/
def offlineKeys (tables : Tables) : List (UInt64 × UInt64) :=
  tables.offlineMessages.map fun row => (row.userId, row.messageId)

theorem Keyed.offlineKeys_nodup (hkeyed : tables.Keyed) : tables.offlineKeys.Nodup := by
  apply pairwise_map.mpr
  apply hkeyed.offline_unique.imp
  intro first second hdistinct hsame
  exact hdistinct (Prod.mk.inj hsame)

theorem mem_offlineKeys :
    (userId, messageId) ∈ tables.offlineKeys ↔ tables.hasOffline userId messageId = true := by
  simp [offlineKeys, hasOffline_iff]

theorem Keyed.insertMessage (hkeyed : tables.Keyed) {conversation : ConversationKey}
    {receiverId : UInt64} {text : Bytes}
    (hinsert : tables.insertMessage conversation senderId receiverId text createdAtMs
      clientMsgId = .ok (row, after)) : after.Keyed := by
  obtain ⟨hcounter, -, hfree, hrow, rfl⟩ := insertMessage_ok hinsert
  have hid : row.messageId.toNat = tables.nextMessageId := by
    rw [hrow]
    exact UInt64.toNat_ofNat_of_lt hcounter
  have hpos := hkeyed.counter_pos
  refine { hkeyed with
    counter_pos := Nat.succ_pos _, message_lt := ?_, message_pos := ?_, message_sorted := ?_
    client_unique := ?_, offline_message := ?_ }
  · intro other hmem
    rcases mem_append.mp hmem with hold | hnew
    · exact Nat.lt_succ_of_lt (hkeyed.message_lt other hold)
    · rw [mem_singleton.mp hnew, hid]
      exact Nat.lt_succ_self _
  · intro other hmem
    rcases mem_append.mp hmem with hold | hnew
    · exact hkeyed.message_pos other hold
    · rw [mem_singleton.mp hnew, hid]
      exact hpos
  · rw [pairwise_append]
    refine ⟨hkeyed.message_sorted, pairwise_singleton _ _, ?_⟩
    intro other hmem new hnew
    rw [mem_singleton.mp hnew, hid]
    exact hkeyed.message_lt other hmem
  · rw [pairwise_append]
    refine ⟨hkeyed.client_unique, pairwise_singleton _ _, ?_⟩
    intro other hmem new hnew key hkey
    rw [mem_singleton.mp hnew] at hkey ⊢
    rw [hrow] at hkey ⊢
    obtain ⟨-, rfl⟩ := nullIfEmpty_eq_some_iff.mp hkey
    exact hfree key hkey other hmem
  · intro offline hmem
    obtain ⟨message, hmessage, hsame⟩ := hasMessage_iff.mp (hkeyed.offline_message offline hmem)
    exact hasMessage_iff.mpr ⟨message, mem_append_left _ hmessage, hsame⟩

theorem Keyed.insertOffline (hkeyed : tables.Keyed)
    (hinsert : tables.insertOffline userId messageId createdAtMs = .ok after) : after.Keyed := by
  obtain ⟨hfree, huser, hmessage, rfl⟩ := insertOffline_ok hinsert
  refine { hkeyed with
    offline_unique := ?_, offline_message := ?_, offline_user := ?_, offline_lt := ?_
    offline_sorted := ?_ }
  · rw [pairwise_append]
    refine ⟨hkeyed.offline_unique, pairwise_singleton _ _, ?_⟩
    intro other hmem new hnew hkey
    rw [mem_singleton.mp hnew] at hkey
    have htaken : tables.hasOffline userId messageId = true :=
      hasOffline_iff.mpr ⟨other, hmem, hkey⟩
    simp [hfree] at htaken
  · intro offline hmem
    rcases mem_append.mp hmem with hold | hnew
    · exact hkeyed.offline_message offline hold
    · rw [mem_singleton.mp hnew]
      exact hmessage
  · intro offline hmem
    rcases mem_append.mp hmem with hold | hnew
    · exact hkeyed.offline_user offline hold
    · rw [mem_singleton.mp hnew]
      exact huser
  · intro offline hmem
    rcases mem_append.mp hmem with hold | hnew
    · exact Nat.lt_succ_of_lt (hkeyed.offline_lt offline hold)
    · rw [mem_singleton.mp hnew]
      exact Nat.lt_succ_self _
  · rw [pairwise_append]
    refine ⟨hkeyed.offline_sorted, pairwise_singleton _ _, ?_⟩
    intro other hmem new hnew
    rw [mem_singleton.mp hnew]
    exact hkeyed.offline_lt other hmem

theorem Keyed.upsertPending (hkeyed : tables.Keyed)
    (hupsert : tables.upsertPending userId messageId = .ok after) : after.Keyed := by
  rcases upsertPending_ok hupsert with rfl | ⟨hfree, rfl⟩
  · exact hkeyed
  · refine { hkeyed with delivery_unique := ?_ }
    rw [pairwise_append]
    refine ⟨hkeyed.delivery_unique, pairwise_singleton _ _, ?_⟩
    intro other hmem new hnew hkey
    rw [mem_singleton.mp hnew] at hkey
    exact hfree other hmem hkey

end Tables

end LiteIM
