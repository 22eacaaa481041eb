/-
# Storage writes, statement by statement

The six calls that write in a transaction of their own: each takes a connection from the pool,
opens a transaction, makes its statements and commits. When a statement fails, or its result
is not the expected one, the call rolls back and returns that error; what `ROLLBACK` answers
is not looked at. When `COMMIT` fails, its error is returned and nothing else is done.

A statement is prepared and then executed, and either may fail. `LAST_INSERT_ID()` is part of
what an insert answers, so that a query for the inserted row names its id. Values bound to a
statement are part of it.
-/

import LiteIM.Foundation.Transactions
import LiteIM.Storage.FriendTables

namespace LiteIM

open Foundation

/-! ## Statements -/

/-- What is known of a statement that failed: the status, and the number that
`lastErrorNumber` returns. -/
structure SqlFailure where
  status : Error
  errorNumber : Nat
  deriving DecidableEq, Repr

def kMysqlDuplicateEntry : Nat := 1062

def SqlError.errorNumber : SqlError → Nat
  | .duplicateEntry => 1062
  | .foreignKey => 1452
  | .autoIncrement => 1467

def SqlError.failure (reason : SqlError) : SqlFailure := ⟨reason.status, reason.errorNumber⟩

open SqlFailure

inductive StorageStatement where
  /-- `mysql_stmt_prepare`, of any text. -/
  | prepare
  | insertMessage (conversation : ConversationKey) (senderId receiverId : UInt64)
      (text : Bytes) (createdAtMs : Int) (clientMsgId : Bytes)
  | selectMessage (messageId : UInt64)
  | insertOffline (userId messageId : UInt64) (createdAtMs : Int)
  | upsertPending (userId messageId : UInt64)
  | selectOffline (userId messageId : UInt64)
  | updateOffline (userId messageId : UInt64) (deliveredAtMs : Int)
  | upsertDelivered (newStatus : DeliveryStatus → DeliveryStatus → DeliveryStatus)
      (userId messageId : UInt64) (deliveredAtMs : Int)
  | insertGroup (request : CreateGroupRequest) (nowMs : Int)
  | selectGroup (groupId : UInt64)
  | insertGroupMember (groupId userId : UInt64) (joinedAtMs : Int)
  | friend (statement : FriendStatement)

namespace StorageStatement

/-- Queries return rows, and the others what the calls read: the number of affected rows, and
the id that was given out. -/
@[reducible]
def Result : StorageStatement → Type
  | .insertMessage _ _ _ _ _ _ => Nat × UInt64
  | .selectMessage _ => Option MessageRecord
  | .insertOffline _ _ _ => Nat
  | .upsertPending _ _ => Nat
  | .selectOffline _ _ => List OfflineMessageRecord
  | .upsertDelivered _ _ _ _ => Nat
  | .insertGroup _ _ => Nat × UInt64
  | .selectGroup _ => Option GroupRecord
  | .friend statement => statement.Result
  | _ => Unit

/-- The rows that an `ON DUPLICATE KEY UPDATE` counts: a new row once, a changed one twice. -/
def upsertCount (before after : Tables) : Nat :=
  if after.messageDeliveries = before.messageDeliveries then 0
  else if after.messageDeliveries.length = before.messageDeliveries.length then 2
  else 1

/-- An outcome as the server reports it, with what the statement answers. -/
def report {α β : Type} (outcome : Except SqlError α) (answer : α → β) : Except SqlFailure β :=
  match outcome with
  | .ok value => .ok (answer value)
  | .error reason => .error reason.failure

def effect : (statement : StorageStatement) → Tables →
    Except SqlFailure (statement.Result × Tables)
  | .prepare, tables => .ok ((), tables)
  | .insertMessage conversation senderId receiverId text createdAtMs clientMsgId, tables =>
    report (tables.insertMessage conversation senderId receiverId text createdAtMs clientMsgId)
      fun (row, after) => ((1, row.messageId), after)
  | .selectMessage messageId, tables =>
    .ok ((tables.messages.find? fun row => row.messageId = messageId).map MessageRow.toRecord,
      tables)
  | .insertOffline userId messageId createdAtMs, tables =>
    report (tables.insertOffline userId messageId createdAtMs) fun after => (1, after)
  | .upsertPending userId messageId, tables =>
    report (tables.upsertPending userId messageId) fun after => (upsertCount tables after, after)
  | .selectOffline userId messageId, tables =>
    .ok (((tables.offlineMessages.filter fun row =>
      row.userId = userId ∧ row.messageId = messageId).filterMap tables.joinOffline).take 1,
      tables)
  | .updateOffline userId messageId deliveredAtMs, tables =>
    .ok ((), tables.updateOffline userId messageId deliveredAtMs)
  | .upsertDelivered newStatus userId messageId deliveredAtMs, tables =>
    report (tables.upsertDelivered newStatus userId messageId deliveredAtMs)
      fun after => (upsertCount tables after, after)
  | .insertGroup request nowMs, tables =>
    report (tables.insertGroup nowMs request) fun (group, after) => ((1, group.groupId), after)
  | .selectGroup groupId, tables =>
    .ok (tables.chatGroups.find? fun group => group.groupId = groupId, tables)
  | .insertGroupMember groupId userId joinedAtMs, tables =>
    report (tables.insertGroupMember groupId userId joinedAtMs) fun after => ((), after)
  | .friend statement, tables =>
    match (FriendConnection.mk tables none).execute statement with
    | (.ok result, connection) => .ok (result, connection.tables)
    | (.error status, _) => .error ⟨status, 0⟩

end StorageStatement

@[reducible]
def storageDialect : Dialect SqlFailure Tables where
  Statement := StorageStatement
  Result := StorageStatement.Result
  effect := StorageStatement.effect

/-- What a call does inside its transaction. -/
abbrev StorageSession := Fallible storageDialect.statements Error

/-- A call, with the connection it takes and the transaction it opens. -/
abbrev StorageDao := Fallible storageDialect.sql Error

namespace StorageSession

/-- A statement, with whatever comes of it. -/
def attempt (sql : StorageStatement) : StorageSession (Except SqlFailure sql.Result) :=
  ExceptT.mk (.call sql fun reply => .ret (.ok reply))

/-- A statement whose failure is passed on. -/
def statement (sql : StorageStatement) : StorageSession sql.Result :=
  ExceptT.mk (.call sql fun reply => .ret (reply.mapError status))

end StorageSession

open StorageSession

def inTransaction {α : Type} (body : StorageSession α) : StorageDao α :=
  storageDialect.transaction status body

/-! ## Messages -/

namespace MessageDao

def querySingleMessage (messageId : UInt64) : StorageSession MessageRecord := do
  match ← statement (.selectMessage messageId) with
  | none => throw ⟨.notFound, "message was not found"⟩
  | some message => pure message

def queryLastInsertedMessage (lastInsertId : UInt64) : StorageSession MessageRecord := do
  statement .prepare
  querySingleMessage lastInsertId

def queryMessageById (messageId : UInt64) : StorageSession MessageRecord :=
  if messageId = 0 then throw ⟨.invalidArgument, "message id must not be zero"⟩
  else do
    statement .prepare
    querySingleMessage messageId

def insertMessageInTransaction (nowMs : Int) (message : MessageRecord) :
    StorageSession MessageRecord := do
  let (receiverId, createdAtMs) ← Fallible.ofExcept
    (Tables.normalizeMessageForInsert nowMs message)
  statement .prepare
  match ← attempt (.insertMessage message.conversation message.senderId receiverId message.text
      createdAtMs message.clientMsgId) with
  | .error failure =>
    if message.clientMsgId ≠ [] ∧ failure.errorNumber = kMysqlDuplicateEntry then
      throw ⟨.alreadyExists, "client message id already exists"⟩
    else throw failure.status
  | .ok (affectedRows, lastInsertId) =>
    if affectedRows ≠ 1 then
      throw ⟨.internalError, "save message affected unexpected row count"⟩
    else queryLastInsertedMessage lastInsertId

end MessageDao

namespace MySqlStorage

def insertOfflineMessage (userId messageId : UInt64) (createdAtMs : Int) :
    StorageSession Unit := do
  statement .prepare
  let affectedRows ← statement (.insertOffline userId messageId createdAtMs)
  if affectedRows ≠ 1 then
    throw ⟨.internalError, "save offline message affected unexpected row count"⟩
  else pure ()

/-- `MySqlStorage` and `OfflineMessageDao` have the same function. -/
def upsertDeliveryPending (userId messageId : UInt64) : StorageSession Unit := do
  statement .prepare
  let affectedRows ← statement (.upsertPending userId messageId)
  if affectedRows > 2 then
    throw ⟨.internalError, "save delivery state affected unexpected row count"⟩
  else pure ()

def upsertDeliveryDelivered (userId messageId : UInt64) (deliveredAtMs : Int) :
    StorageSession Unit := do
  statement .prepare
  let affectedRows ← statement
    (.upsertDelivered DeliveryStatus.ifGreater userId messageId deliveredAtMs)
  if affectedRows > 2 then
    throw ⟨.internalError, "ack delivery state affected unexpected row count"⟩
  else pure ()

/-- The clock is read once for the message and once for the offline rows. -/
def saveMessageWithOfflineRecipients (nowMs offlineCreatedAtMs : Int) (message : MessageRecord)
    (offlineUserIds : List UInt64) : StorageDao MessageRecord := do
  let uniqueOfflineUserIds ← Fallible.ofExcept (Tables.validateOfflineRecipients [] offlineUserIds)
  inTransaction do
    let savedMessage ← MessageDao.insertMessageInTransaction nowMs message
    uniqueOfflineUserIds.forM fun userId => do
      insertOfflineMessage userId savedMessage.messageId offlineCreatedAtMs
      upsertDeliveryPending userId savedMessage.messageId
    pure savedMessage

def ackPrivateMessageDelivery (nowMs : Int) (userId messageId : UInt64) :
    StorageDao MessageRecord :=
  if userId = 0 then throw ⟨.invalidArgument, "user id must not be zero"⟩
  else if messageId = 0 then throw ⟨.invalidArgument, "message id must not be zero"⟩
  else inTransaction do
    let found ← MessageDao.queryMessageById messageId
    if found.conversation.type ≠ .kPrivate ∨ found.receiverId ≠ userId then
      throw ⟨.notFound, "private message delivery target was not found"⟩
    else do
      upsertDeliveryDelivered userId messageId nowMs
      pure found

end MySqlStorage

/-! ## Offline messages -/

namespace OfflineMessageDao

/-- `bindUint64`, for the check it makes. -/
def bindUint64 (value : UInt64) (fieldName : String) : StorageSession Unit :=
  if value = 0 then throw ⟨.invalidArgument, fieldName ++ " must not be zero"⟩ else pure ()

def saveOfflineMessage (nowMs : Int) (userId messageId : UInt64) : StorageDao Unit :=
  inTransaction do
    statement .prepare
    bindUint64 userId "user_id"
    bindUint64 messageId "message_id"
    match ← attempt (.insertOffline userId messageId nowMs) with
    | .error failure =>
      if failure.errorNumber = kMysqlDuplicateEntry then
        throw ⟨.alreadyExists, "offline message already exists"⟩
      else throw failure.status
    | .ok affectedRows =>
      if affectedRows ≠ 1 then
        throw ⟨.internalError, "save offline message affected unexpected row count"⟩
      else MySqlStorage.upsertDeliveryPending userId messageId

def fetchOfflineMessageForAck (userId messageId : UInt64) :
    StorageSession OfflineMessageRecord := do
  match ← statement (.selectOffline userId messageId) with
  | [] => throw ⟨.notFound, "offline message was not found"⟩
  | [record] => pure record
  | _ => throw ⟨.internalError, "offline message ack query returned multiple rows"⟩

/-- The loop of `ackOfflineMessages`. -/
def fetchRecords (userId : UInt64) : List UInt64 → StorageSession (List OfflineMessageRecord)
  | [] => pure []
  | messageId :: rest => do
      let record ← fetchOfflineMessageForAck userId messageId
      let records ← fetchRecords userId rest
      pure (record :: records)

def markOfflineDeliveredInTransaction (userId : UInt64) (messageIds : List UInt64)
    (deliveredAtMs : Int) : StorageSession Unit := do
  statement .prepare
  messageIds.forM fun messageId => statement (.updateOffline userId messageId deliveredAtMs)

def upsertDeliveryDelivered (userId : UInt64) (messageIds : List UInt64) (deliveredAtMs : Int) :
    StorageSession Unit := do
  statement .prepare
  messageIds.forM fun messageId => do
    let _ ← statement (.upsertDelivered DeliveryStatus.greatest userId messageId deliveredAtMs)
    pure ()

def ackOfflineMessages (nowMs : Int) (userId : UInt64) (messageIds : List UInt64) :
    StorageDao (List OfflineMessageRecord) :=
  if messageIds = [] then pure []
  else if userId = 0 then throw ⟨.invalidArgument, "user_id is invalid"⟩
  else do
    let uniqueMessageIds ← Fallible.ofExcept (Tables.validateMessageIds [] messageIds)
    inTransaction do
      statement .prepare
      let records ← fetchRecords userId uniqueMessageIds
      markOfflineDeliveredInTransaction userId uniqueMessageIds nowMs
      upsertDeliveryDelivered userId uniqueMessageIds nowMs
      pure records

end OfflineMessageDao

/-! ## Groups and friends -/

namespace GroupDao

def queryLastInsertedGroup (lastInsertId : UInt64) : StorageSession GroupRecord := do
  statement .prepare
  match ← statement (.selectGroup lastInsertId) with
  | none => throw ⟨.notFound, "group was not found"⟩
  | some group => pure group

def insertGroupMember (groupId userId : UInt64) (joinedAtMs : Int) : StorageSession Unit := do
  statement .prepare
  Fallible.ofExcept (Tables.validateId groupId "group_id")
  Fallible.ofExcept (Tables.validateId userId "user_id")
  statement (.insertGroupMember groupId userId joinedAtMs)

def createGroup (nowMs : Int) (request : CreateGroupRequest) : StorageDao GroupRecord := do
  Fallible.ofExcept (Tables.validateId request.ownerId "owner_id")
  if request.groupName = [] then throw ⟨.invalidArgument, "group_name must not be empty"⟩
  else inTransaction do
    statement .prepare
    Fallible.ofExcept (Tables.validateId request.ownerId "owner_id")
    let (affectedRows, lastInsertId) ← statement (.insertGroup request nowMs)
    if affectedRows ≠ 1 then
      throw ⟨.internalError, "create group affected unexpected row count"⟩
    else do
      let createdGroup ← queryLastInsertedGroup lastInsertId
      insertGroupMember createdGroup.groupId request.ownerId nowMs
      pure createdGroup

end GroupDao

namespace FriendDao

/-- The requests behind the statements of the friend calls. -/
def request : Unit × FriendStatement → Request storageDialect
  | (_, .acquire) => .acquire
  | (_, .startTransaction) => .startTransaction
  | (_, .commit) => .commit
  | (_, .rollback) => .rollback
  | (_, statement) => .data (.friend statement)

def readReply : (call : Unit × FriendStatement) →
    Except SqlFailure (request call).Result → Except Error call.2.Result
  | (_, .acquire), reply => reply.mapError status
  | (_, .startTransaction), reply => reply.mapError status
  | (_, .commit), reply => reply.mapError status
  | (_, .rollback), reply => reply.mapError status
  | (_, .selectFriendRequest _ _), reply => reply.mapError status
  | (_, .selectFriendship _ _), reply => reply.mapError status
  | (_, .insertFriendRequest _ _ _), reply => reply.mapError status
  | (_, .updateFriendRequest _ _ _ _), reply => reply.mapError status
  | (_, .insertFriendships _ _), reply => reply.mapError status

/-- A friend call on a connection of the pool. -/
def onConnection {α : Type} (program : Dao Unit α) : StorageDao α :=
  ExceptT.mk (program.run.rename request readReply)

end FriendDao

/-! ## The calls together -/

/-- A call with its arguments and the times it reads. -/
inductive WriteCall where
  | saveMessageWithOfflineRecipients (nowMs offlineCreatedAtMs : Int) (message : MessageRecord)
      (offlineUserIds : List UInt64)
  | saveOfflineMessage (nowMs : Int) (userId messageId : UInt64)
  | ackOfflineMessages (nowMs : Int) (userId : UInt64) (messageIds : List UInt64)
  | ackPrivateMessageDelivery (nowMs : Int) (userId messageId : UInt64)
  | acceptFriendRequest (nowMs : Int) (requesterId targetUserId : UInt64)
  | createGroup (nowMs : Int) (request : CreateGroupRequest)
  deriving DecidableEq, Repr

namespace WriteCall

@[reducible]
def Output : WriteCall → Type
  | .saveMessageWithOfflineRecipients _ _ _ _ => MessageRecord
  | .ackOfflineMessages _ _ _ => List OfflineMessageRecord
  | .ackPrivateMessageDelivery _ _ _ => MessageRecord
  | .createGroup _ _ => GroupRecord
  | _ => Unit

def perform : (call : WriteCall) → Program storageDialect.sql (Except Error call.Output)
  | .saveMessageWithOfflineRecipients nowMs offlineCreatedAtMs message offlineUserIds =>
    (MySqlStorage.saveMessageWithOfflineRecipients nowMs offlineCreatedAtMs message
      offlineUserIds).run
  | .saveOfflineMessage nowMs userId messageId =>
    (OfflineMessageDao.saveOfflineMessage nowMs userId messageId).run
  | .ackOfflineMessages nowMs userId messageIds =>
    (OfflineMessageDao.ackOfflineMessages nowMs userId messageIds).run
  | .ackPrivateMessageDelivery nowMs userId messageId =>
    (MySqlStorage.ackPrivateMessageDelivery nowMs userId messageId).run
  | .acceptFriendRequest nowMs requesterId targetUserId =>
    (FriendDao.onConnection (FriendDao.acceptFriendRequest () nowMs requesterId targetUserId)).run
  | .createGroup nowMs request => (GroupDao.createGroup nowMs request).run

end WriteCall

end LiteIM
