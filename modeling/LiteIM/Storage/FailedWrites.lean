/-
# Writes that failed

Every call makes its writes in one transaction. It commits before it returns a value and
rolls back before it returns an error, so a call that failed leaves nothing behind, as long as
the transaction is over by then. It is not when `COMMIT` or `ROLLBACK` themselves fail: the
connection goes back to the pool with the transaction open, and the next call that gets it
commits the rows of the call that failed.
-/

import LiteIM.Storage.WriteCalls

namespace LiteIM

open Foundation WriteCall Server InTransaction

/-! ## One transaction in each call -/

theorem isTransactional_inTransaction {α : Type} (body : StorageSession α) :
    IsTransactional (inTransaction body).run :=
  isTransactional_transaction SqlFailure.status body

namespace FriendDao

theorem inTransaction_rollbackAndReturn (status : Error) :
    InTransaction (onConnection (rollbackAndReturn () status : Dao Unit Unit)).run := by
  apply InTransaction.rollback
  intro reply
  cases reply with
  | ok | error => exact ⟨status, rfl⟩

theorem inTransaction_acceptMissing (requesterId targetUserId : UInt64) (existingStatus : Error) :
    InTransaction
      (onConnection (acceptMissing () requesterId targetUserId existingStatus)).run := by
  apply data
  intro reply
  cases reply with
  | error failure => exact inTransaction_rollbackAndReturn failure.status
  | ok friends =>
    cases friends with
    | true => exact inTransaction_rollbackAndReturn _
    | false => exact inTransaction_rollbackAndReturn existingStatus

theorem inTransaction_acceptUpdated (requesterId targetUserId : UInt64) :
    InTransaction (onConnection (acceptUpdated () requesterId targetUserId)).run := by
  rw [acceptUpdated, insertFriendshipRows]
  cases validateUserId requesterId "user_id" with
  | error status => exact inTransaction_rollbackAndReturn status
  | ok =>
    cases validateUserId targetUserId "friend_id" with
    | error status => exact inTransaction_rollbackAndReturn status
    | ok =>
      apply data
      intro reply
      cases reply with
      | error failure => exact inTransaction_rollbackAndReturn failure.status
      | ok affectedRows =>
        simp only [readReply, Except.mapError, Program.bind, ExceptT.bindCont]
        cases checkFriendshipCount affectedRows with
        | error status => exact inTransaction_rollbackAndReturn status
        | ok => exact .commit rfl fun failure => ⟨failure.status, rfl⟩

theorem inTransaction_acceptPending (nowMs : Int) (requesterId targetUserId : UInt64) :
    InTransaction (onConnection (acceptPending () nowMs requesterId targetUserId)).run := by
  apply data
  intro reply
  cases reply with
  | error failure => exact inTransaction_rollbackAndReturn failure.status
  | ok affectedRows =>
    show InTransaction (onConnection (if affectedRows ≠ 1 then _
      else acceptUpdated () requesterId targetUserId)).run
    split
    · exact inTransaction_rollbackAndReturn _
    · exact inTransaction_acceptUpdated requesterId targetUserId

theorem isTransactional_acceptFriendRequest (nowMs : Int) (requesterId targetUserId : UInt64) :
    IsTransactional
      (onConnection (acceptFriendRequest () nowMs requesterId targetUserId)).run := by
  rw [acceptFriendRequest]
  cases validateFriendPair requesterId targetUserId with
  | error status => exact .ret (.error status)
  | ok =>
    refine .acquire (fun failure => ⟨failure.status, rfl⟩) rfl
      (fun failure => ⟨failure.status, rfl⟩) ?_
    apply data
    intro reply
    cases reply with
    | error failure =>
      show InTransaction (onConnection (if failure.status.code = .notFound then
        acceptMissing () requesterId targetUserId failure.status
        else rollbackAndReturn () failure.status)).run
      split
      · exact inTransaction_acceptMissing requesterId targetUserId failure.status
      · exact inTransaction_rollbackAndReturn failure.status
    | ok row =>
      cases row with
      | none => exact inTransaction_acceptMissing requesterId targetUserId _
      | some row =>
        obtain ⟨status, createdAtMs, updatedAtMs⟩ := row
        cases status with
        | kAccepted | kRejected => exact inTransaction_rollbackAndReturn _
        | kPending => exact inTransaction_acceptPending nowMs requesterId targetUserId

end FriendDao

theorem WriteCall.isTransactional_perform (call : WriteCall) : IsTransactional call.perform := by
  cases call with
  | saveMessageWithOfflineRecipients =>
    exact isTransactional_ofExcept_bind fun _ => isTransactional_inTransaction _
  | saveOfflineMessage => exact isTransactional_inTransaction _
  | ackOfflineMessages =>
    rw [perform, OfflineMessageDao.ackOfflineMessages]
    split_ifs with hempty hzero
    · exact .ret (.ok [])
    · exact .ret (.error _)
    · exact isTransactional_ofExcept_bind fun _ => isTransactional_inTransaction _
  | ackPrivateMessageDelivery =>
    rw [perform, MySqlStorage.ackPrivateMessageDelivery]
    split_ifs with huser hmessage
    · exact .ret (.error _)
    · exact .ret (.error _)
    · exact isTransactional_inTransaction _
  | acceptFriendRequest nowMs requesterId targetUserId =>
    exact FriendDao.isTransactional_acceptFriendRequest nowMs requesterId targetUserId
  | createGroup =>
    apply isTransactional_ofExcept_bind
    intro _
    split_ifs with hname
    · exact .ret (.error _)
    · exact isTransactional_inTransaction _

/-! ## Runs -/

/-- In every run of storage writes in which no `COMMIT` and no `ROLLBACK` fails, each write
sees the rows of the writes that returned a value before it, and its own; a write that
returned an error leaves the tables as they were. No idle connection has an open
transaction. -/
theorem failed_writes_leave_no_trace {κ : Type} [DecidableEq κ]
    {first last : Server κ storageDialect}
    {writes : List (Performance storageDialect Error Output)} (hrest : first.AtRest)
    (hrun : Path (Performs perform) first writes last)
    (hends : ∀ write ∈ writes, ∀ event ∈ write.trace, event.leavesOpen = false) :
    Path (storageDialect.Keeps perform) first.committed writes last.committed ∧
      ∀ c ∈ last.idle, last.pending c = none := by
  obtain ⟨hlast, hkept⟩ :=
    keeps_of_performs isTransactional_perform hrest hrun hends
  exact ⟨hkept, fun c _ => hlast.pending c⟩

/-- Two users, and a pool of one connection. -/
def twoUserServer : Server Unit storageDialect where
  committed := { collation := ⟨id⟩, users := [{ userId := 1 }, { userId := 2 }] }
  idle := [()]

def serverGone : SqlFailure := ⟨⟨.ioError, "mysql_query failed"⟩, 2006⟩

/-- The owner of the second group does not exist. -/
theorem failed_writes_leave_no_trace_group :
    ∃ (writes : List (Performance storageDialect Error Output))
      (last : Server Unit storageDialect),
      Path (Performs perform) twoUserServer writes last ∧
      (writes.map Performance.call = [.createGroup 5 ⟨1, [0x61]⟩, .createGroup 6 ⟨3, [0x62]⟩]) ∧
      last.committed.chatGroups.length = 1 ∧
      Path (storageDialect.Keeps perform) twoUserServer.committed writes
        last.committed ∧
      ∀ c ∈ last.idle, last.pending c = none := by
  let created := twoUserServer.performFailing perform serverGone (fun _ => false)
    (.createGroup 5 ⟨1, [0x61]⟩)
  let refused := created.2.performFailing perform serverGone (fun _ => false)
    (.createGroup 6 ⟨3, [0x62]⟩)
  have hrun : Path (Performs perform) twoUserServer [created.1, refused.1]
      refused.2 :=
    .cons (performs_performFailing _ _ _ _ _)
      (.single (performs_performFailing _ _ _ _ _))
  have hends : ∀ write ∈ [created.1, refused.1], ∀ event ∈ write.trace,
      event.leavesOpen = false := by
    decide +kernel
  exact ⟨_, _, hrun, rfl, by decide +kernel,
    failed_writes_leave_no_trace ⟨rfl, fun _ => rfl⟩ hrun hends⟩

def greeting : MessageRecord where
  conversation := ⟨.kPrivate, 7⟩
  senderId := 1
  receiverId := 2
  text := [0x68, 0x69]

def commitFails : Request storageDialect → Bool
  | .commit => true
  | _ => false

/-- A message is saved, but `COMMIT` fails: the call returns an error and puts its connection
back with the transaction open. The receiver's acknowledgement gets the connection, starts a
transaction and finds the message. -/
theorem failed_write_acknowledged :
    ∃ (saved : Performance storageDialect Error Output)
      (mid last : Server Unit storageDialect) (trace : List (Event storageDialect.sql))
      (status : Error) (found : MessageRecord),
      twoUserServer.AtRest ∧ twoUserServer.committed.messages = [] ∧
      saved.call = .saveMessageWithOfflineRecipients 5 5 greeting [] ∧
      saved.result = .error status ∧
      twoUserServer.Performs perform saved mid ∧
      (∃ c ∈ mid.idle, mid.pending c ≠ none) ∧
      mid.Performs perform ⟨.ackPrivateMessageDelivery 6 2 1, trace, .ok found⟩ last ∧
      found.text = greeting.text := by
  let saved := twoUserServer.performFailing perform serverGone commitFails
    (.saveMessageWithOfflineRecipients 5 5 greeting [])
  have hsaved : ((perform (.saveMessageWithOfflineRecipients 5 5 greeting [])).run
      (answer serverGone commitFails) twoUserServer).2.1 = .error serverGone.status := by
    decide +kernel
  have hidle : () ∈ saved.2.idle ∧ saved.2.pending () ≠ none := by
    rw [← Option.isSome_iff_ne_none]
    decide +kernel
  have hfound : ((perform (.ackPrivateMessageDelivery 6 2 1)).run
      (answer serverGone fun _ => false) saved.2).2.1 =
        .ok { greeting with messageId := 1, createdAtMs := 5 } := by
    decide +kernel
  have hacked := performs_performFailing perform serverGone (fun _ => false)
    (.ackPrivateMessageDelivery 6 2 1) saved.2
  rw [performFailing, hfound] at hacked
  exact ⟨saved.1, saved.2, _, _, serverGone.status, _, ⟨rfl, fun _ => rfl⟩, rfl, rfl, hsaved,
    performs_performFailing _ _ _ _ _, ⟨(), hidle⟩, hacked, rfl⟩

end LiteIM
