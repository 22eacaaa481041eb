/-
# Friend requests, statement by statement

`FriendDao::createFriendRequest`, `acceptFriendRequest` and `rejectFriendRequest` as
programs of SQL statements, each on the connection the call holds, and the rows of
`friend_requests` and `friendships` they act on. Only an acceptance opens a transaction;
the statements of the other two take effect by themselves.

A statement that would write a row locked by another transaction waits. A statement that
fails has no effect, and a transaction whose `COMMIT` or `ROLLBACK` fails is undone. The
users that the foreign keys refer to do not change here.
-/

import LiteIM.Foundation.Program
import LiteIM.Foundation.RowStore
import LiteIM.Storage.Tables

namespace LiteIM

open Foundation

/-- The primary keys of the two tables. -/
inductive FriendKey where
  | request (requesterId targetUserId : UInt64)
  | friendship (userId friendId : UInt64)
  deriving DecidableEq, Repr

structure FriendRequestRow where
  status : FriendRequestStatus
  createdAtMs : Int
  updatedAtMs : Int
  deriving DecidableEq, Repr

/-- The columns besides the key. The time in a friendship row is never read. -/
@[reducible]
def FriendKey.Row : FriendKey → Type
  | .request _ _ => FriendRequestRow
  | .friendship _ _ => Unit

abbrev FriendStore (κ : Type) := RowStore κ FriendKey.Row

inductive FriendStatement where
  | acquire
  | startTransaction
  | commit
  | rollback
  | selectFriendRequest (requesterId targetUserId : UInt64)
  | selectFriendship (userId friendId : UInt64)
  | insertFriendRequest (requesterId targetUserId : UInt64) (nowMs : Int)
  | updateFriendRequest (requesterId targetUserId : UInt64) (status : FriendRequestStatus)
      (nowMs : Int)
  | insertFriendships (userId friendId : UInt64)
  deriving DecidableEq, Repr

/-- Queries return rows, updates the number of affected rows. -/
@[reducible]
def FriendStatement.Result : FriendStatement → Type
  | .selectFriendRequest _ _ => Option FriendRequestRow
  | .selectFriendship _ _ => Bool
  | .insertFriendRequest _ _ _ => Nat
  | .updateFriendRequest _ _ _ _ => Nat
  | .insertFriendships _ _ => Nat
  | _ => Unit

/-- Statements, each on a connection. -/
@[reducible]
def friendSql (κ : Type) : Signature :=
  ⟨κ × FriendStatement, fun call => Except Error call.2.Result⟩

/-! ## What a statement does -/

namespace FriendStore

variable {κ : Type} [DecidableEq κ]

/-- `ON DUPLICATE KEY UPDATE created_at_ms = friendships.created_at_ms` leaves a row as it
is and does not count it. -/
def insertFriendship (store : FriendStore κ) (c : κ) (userId friendId : UInt64) :
    Nat × FriendStore κ :=
  match store.current c (.friendship userId friendId) with
  | some _ => (0, store)
  | none => (1, store.write c (.friendship userId friendId) ())

/-- `none` while the statement waits for a lock. -/
def execute (users : UInt64 → Bool) (store : FriendStore κ) (c : κ) :
    (statement : FriendStatement) → Option (Except Error statement.Result × FriendStore κ)
  | .acquire => some (.ok (), store)
  | .startTransaction => some (.ok (), store.startTransaction c)
  | .commit => some (.ok (), store.commit c)
  | .rollback => some (.ok (), store.rollback c)
  | .selectFriendRequest requesterId targetUserId =>
    some (.ok (store.read c (.request requesterId targetUserId)), store.look c)
  | .selectFriendship userId friendId =>
    some (.ok (store.read c (.friendship userId friendId)).isSome, store.look c)
  | .insertFriendRequest requesterId targetUserId nowMs =>
    if store.lockedFor c (.request requesterId targetUserId) then none
    else if (store.current c (.request requesterId targetUserId)).isSome then
      some (.error SqlError.duplicateEntry.status, store)
    else if users requesterId && users targetUserId then
      some (.ok 1, store.write c (.request requesterId targetUserId) ⟨.kPending, nowMs, nowMs⟩)
    else some (.error SqlError.foreignKey.status, store)
  | .updateFriendRequest requesterId targetUserId status nowMs =>
    if store.lockedFor c (.request requesterId targetUserId) then none
    else
      match store.current c (.request requesterId targetUserId) with
      | some row =>
        if row.status = .kPending then
          some (.ok 1, store.write c (.request requesterId targetUserId)
            { row with status, updatedAtMs := nowMs })
        else some (.ok 0, store)
      | none => some (.ok 0, store)
  | .insertFriendships userId friendId =>
    if store.lockedFor c (.friendship userId friendId) ||
        store.lockedFor c (.friendship friendId userId) then none
    else if users userId && users friendId then
      let (first, store) := store.insertFriendship c userId friendId
      let (second, store) := store.insertFriendship c friendId userId
      some (.ok (first + second), store)
    else some (.error SqlError.foreignKey.status, store)

/-- What a failed statement leaves: `COMMIT` and `ROLLBACK` end the transaction all the
same. -/
def undone (store : FriendStore κ) (c : κ) : FriendStatement → FriendStore κ
  | .commit => store.rollback c
  | .rollback => store.rollback c
  | _ => store

/-- The machine that answers statements. Any of them may fail, and a failure is not
reported as a missing row. -/
def machine (users : UInt64 → Bool) : Machine (friendSql κ) (FriendStore κ) :=
  fun (c, statement) store reply next =>
    store.execute users c statement = some (reply, next) ∨
      ((∃ status : Error, status.code ≠ .notFound ∧ reply = .error status) ∧
        next = store.undone c statement)

def lockWaitTimeout : Error :=
  ⟨.ioError, "mysql_stmt_execute failed: Lock wait timeout exceeded"⟩

/-- A statement fails only if it would have to wait. -/
def answer (users : UInt64 → Bool) (store : FriendStore κ) (call : κ × FriendStatement) :
    Except Error call.2.Result × FriendStore κ :=
  (store.execute users call.1 call.2).getD (.error lockWaitTimeout, store.undone call.1 call.2)

theorem machine_answer (users : UInt64 → Bool) (call : κ × FriendStatement)
    (store : FriendStore κ) :
    machine users call store (store.answer users call).1 (store.answer users call).2 := by
  cases hexecute : store.execute users call.1 call.2 with
  | some =>
    rw [answer, hexecute]
    exact Or.inl hexecute
  | none =>
    rw [answer, hexecute]
    exact Or.inr ⟨⟨lockWaitTimeout, by decide, rfl⟩, rfl⟩

end FriendStore

/-! ## The calls -/

namespace FriendDao

variable {κ : Type}

abbrev Dao (κ : Type) := Fallible (friendSql κ) Error

def statement (c : κ) (sql : FriendStatement) : Dao κ sql.Result :=
  ExceptT.mk (.call (c, sql) .ret)

def validateUserId (userId : UInt64) (fieldName : String) : Except Error Unit :=
  if userId = 0 then Status.error .invalidArgument (fieldName ++ " must not be zero")
  else .ok ()

def validateFriendPair (userId friendId : UInt64) : Except Error Unit := do
  validateUserId userId "user_id"
  validateUserId friendId "friend_id"
  if userId = friendId then
    Status.error .invalidArgument "friendship user ids must be different"
  else .ok ()

def rowToFriendRequestRecord (requesterId targetUserId : UInt64) :
    Option FriendRequestRow → Except Error FriendRequestRecord
  | none => Status.error .notFound "friend request was not found"
  | some row =>
    .ok { requesterId, targetUserId, status := row.status, createdAtMs := row.createdAtMs,
          updatedAtMs := row.updatedAtMs }

def queryFriendRequest (c : κ) (requesterId targetUserId : UInt64) :
    Dao κ FriendRequestRecord := do
  let row ← statement c (.selectFriendRequest requesterId targetUserId)
  Fallible.ofExcept (rowToFriendRequestRecord requesterId targetUserId row)

def queryAreFriends (c : κ) (userId friendId : UInt64) : Dao κ Bool :=
  statement c (.selectFriendship userId friendId)

def checkFriendshipCount (affectedRows : Nat) : Except Error Unit :=
  if affectedRows > 2 then
    Status.error .internalError "add friendship affected unexpected row count"
  else .ok ()

def insertFriendshipRows (c : κ) (userId friendId : UInt64) : Dao κ Unit := do
  Fallible.ofExcept (validateUserId userId "user_id")
  Fallible.ofExcept (validateUserId friendId "friend_id")
  let affectedRows ← statement c (.insertFriendships userId friendId)
  Fallible.ofExcept (checkFriendshipCount affectedRows)

/-- The result of `ROLLBACK` is not looked at. -/
def rollbackAndReturn {α : Type} (c : κ) (status : Error) : Dao κ α := do
  let _ ← (statement c .rollback).outcome
  throw status

/-- The end of `createFriendRequest`. -/
def insertFriendRequest (c : κ) (nowMs : Int) (requesterId targetUserId : UInt64) :
    Dao κ FriendRequestRecord := do
  let affectedRows ← statement c (.insertFriendRequest requesterId targetUserId nowMs)
  if affectedRows ≠ 1 then
    throw ⟨.internalError, "create friend request affected unexpected row count"⟩
  else
    pure { requesterId, targetUserId, status := .kPending, createdAtMs := nowMs,
           updatedAtMs := nowMs }

/-- `createFriendRequest` from where there is neither a friendship nor a request. -/
def createUnlessReversed (c : κ) (nowMs : Int) (requesterId targetUserId : UInt64) :
    Dao κ FriendRequestRecord := do
  match ← (queryFriendRequest c targetUserId requesterId).outcome with
  | .ok reverse =>
    match reverse.status with
    | .kPending => throw ⟨.alreadyExists, "reverse friend request already exists"⟩
    | .kAccepted => throw ⟨.alreadyExists, "friend request already accepted"⟩
    | .kRejected => insertFriendRequest c nowMs requesterId targetUserId
  | .error reverseStatus =>
    if reverseStatus.code ≠ .notFound then throw reverseStatus
    else insertFriendRequest c nowMs requesterId targetUserId

def createFriendRequest (c : κ) (nowMs : Int) (requesterId targetUserId : UInt64) :
    Dao κ FriendRequestRecord := do
  Fallible.ofExcept (validateFriendPair requesterId targetUserId)
  statement c .acquire
  let areFriends ← queryAreFriends c requesterId targetUserId
  if areFriends then throw ⟨.alreadyExists, "friendship already exists"⟩
  else do
    match ← (queryFriendRequest c requesterId targetUserId).outcome with
    | .ok _ => throw ⟨.alreadyExists, "friend request already exists"⟩
    | .error existingStatus =>
      if existingStatus.code ≠ .notFound then throw existingStatus
      else createUnlessReversed c nowMs requesterId targetUserId

/-- The end of `acceptFriendRequest`, when one row was updated. -/
def acceptUpdated (c : κ) (requesterId targetUserId : UInt64) : Dao κ Unit := do
  match ← (insertFriendshipRows c requesterId targetUserId).outcome with
  | .error friendshipStatus => rollbackAndReturn c friendshipStatus
  | .ok _ => statement c .commit

/-- `acceptFriendRequest` from where the row was found pending. -/
def acceptPending (c : κ) (nowMs : Int) (requesterId targetUserId : UInt64) : Dao κ Unit := do
  match ← (statement c
      (.updateFriendRequest requesterId targetUserId .kAccepted nowMs)).outcome with
  | .error updateStatus => rollbackAndReturn c updateStatus
  | .ok affectedRows =>
    if affectedRows ≠ 1 then
      rollbackAndReturn c
        ⟨.internalError, "accept friend request affected unexpected row count"⟩
    else acceptUpdated c requesterId targetUserId

/-- What `acceptFriendRequest` does when there is no row. -/
def acceptMissing (c : κ) (requesterId targetUserId : UInt64) (existingStatus : Error) :
    Dao κ Unit := do
  match ← (queryAreFriends c requesterId targetUserId).outcome with
  | .error friendsStatus => rollbackAndReturn c friendsStatus
  | .ok true => rollbackAndReturn c ⟨.alreadyExists, "friend request already accepted"⟩
  | .ok false => rollbackAndReturn c existingStatus

def acceptFriendRequest (c : κ) (nowMs : Int) (requesterId targetUserId : UInt64) :
    Dao κ Unit := do
  Fallible.ofExcept (validateFriendPair requesterId targetUserId)
  statement c .acquire
  statement c .startTransaction
  match ← (queryFriendRequest c requesterId targetUserId).outcome with
  | .error existingStatus =>
    if existingStatus.code = .notFound then
      acceptMissing c requesterId targetUserId existingStatus
    else rollbackAndReturn c existingStatus
  | .ok existing =>
    match existing.status with
    | .kAccepted => rollbackAndReturn c ⟨.alreadyExists, "friend request already accepted"⟩
    | .kRejected => rollbackAndReturn c ⟨.alreadyExists, "friend request is not pending"⟩
    | .kPending => acceptPending c nowMs requesterId targetUserId

def rejectFriendRequest (c : κ) (nowMs : Int) (requesterId targetUserId : UInt64) :
    Dao κ Unit := do
  Fallible.ofExcept (validateFriendPair requesterId targetUserId)
  statement c .acquire
  let existing ← queryFriendRequest c requesterId targetUserId
  match existing.status with
  | .kAccepted => throw ⟨.alreadyExists, "friend request already accepted"⟩
  | .kRejected => throw ⟨.alreadyExists, "friend request already rejected"⟩
  | .kPending => do
      let affectedRows ← statement c
        (.updateFriendRequest requesterId targetUserId .kRejected nowMs)
      if affectedRows ≠ 1 then
        throw ⟨.internalError, "reject friend request affected unexpected row count"⟩
      else pure ()

/-- A call with its arguments and the time it reads. -/
inductive FriendCall where
  | create (nowMs : Int) (requesterId targetUserId : UInt64)
  | accept (nowMs : Int) (requesterId targetUserId : UInt64)
  | reject (nowMs : Int) (requesterId targetUserId : UInt64)
  deriving DecidableEq, Repr

def perform (c : κ) : FriendCall → Dao κ Unit
  | .create nowMs requesterId targetUserId => do
      let _ ← createFriendRequest c nowMs requesterId targetUserId
      pure ()
  | .accept nowMs requesterId targetUserId =>
    acceptFriendRequest c nowMs requesterId targetUserId
  | .reject nowMs requesterId targetUserId =>
    rejectFriendRequest c nowMs requesterId targetUserId

end FriendDao

end LiteIM
