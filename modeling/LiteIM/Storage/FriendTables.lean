/-
# Friend calls on the tables

The friend calls once more, now as whole calls on the tables: the programs of `FriendDao`
run on one connection while nothing else happens. How their statements interleave is not a
question here; what matters is what a call that returned has written, and that a call
that failed wrote nothing.
-/

import LiteIM.Foundation.Triple
import LiteIM.Storage.Directory
import LiteIM.Storage.FriendDao

namespace LiteIM

open Foundation FriendDao Tables

namespace Tables

def findFriendRequest (tables : Tables) (requesterId targetUserId : UInt64) :
    Option FriendRequestRecord :=
  tables.friendRequests.find? fun row =>
    row.requesterId = requesterId ∧ row.targetUserId = targetUserId

/-- `INSERT INTO friend_requests`. -/
def insertFriendRequest (tables : Tables) (requesterId targetUserId : UInt64) (nowMs : Int) :
    Except SqlError Tables :=
  if (tables.findFriendRequest requesterId targetUserId).isSome then .error .duplicateEntry
  else if tables.hasUser requesterId && tables.hasUser targetUserId then
    .ok { tables with
      friendRequests := tables.friendRequests ++
        [{ requesterId, targetUserId, status := .kPending, createdAtMs := nowMs,
           updatedAtMs := nowMs }] }
  else .error .foreignKey

/-- `WHERE requester_id = ? AND target_user_id = ? AND status = 0`. -/
def pendingBetween (requesterId targetUserId : UInt64) (row : FriendRequestRecord) : Bool :=
  row.requesterId = requesterId ∧ row.targetUserId = targetUserId ∧ row.status = .kPending

/-- A row after an update of the pending request. -/
def settleRequest (requesterId targetUserId : UInt64) (status : FriendRequestStatus)
    (nowMs : Int) (row : FriendRequestRecord) : FriendRequestRecord :=
  if pendingBetween requesterId targetUserId row then { row with status, updatedAtMs := nowMs }
  else row

def settleRequests (tables : Tables) (requesterId targetUserId : UInt64)
    (status : FriendRequestStatus) (nowMs : Int) : Tables :=
  { tables with
    friendRequests :=
      tables.friendRequests.map (settleRequest requesterId targetUserId status nowMs) }

/-- The update with the number of rows it changed: the condition fixes the primary key. -/
def updateFriendRequest (tables : Tables) (requesterId targetUserId : UInt64)
    (status : FriendRequestStatus) (nowMs : Int) : Nat × Tables :=
  if tables.friendRequests.any (pendingBetween requesterId targetUserId) then
    (1, tables.settleRequests requesterId targetUserId status nowMs)
  else (0, tables)

def insertFriendship (tables : Tables) (userId friendId : UInt64) : Nat × Tables :=
  if (userId, friendId) ∈ tables.friendships then (0, tables)
  else (1, { tables with friendships := tables.friendships ++ [(userId, friendId)] })

end Tables

/-- The tables as a connection sees them, with those that `ROLLBACK` goes back to. -/
structure FriendConnection where
  tables : Tables
  saved : Option Tables := none

variable {tables before : Tables}

namespace FriendConnection

def execute (connection : FriendConnection) :
    (statement : FriendStatement) → Except Error statement.Result × FriendConnection
  | .acquire => (.ok (), connection)
  | .startTransaction => (.ok (), { connection with saved := some connection.tables })
  | .commit => (.ok (), { connection with saved := none })
  | .rollback => (.ok (), ⟨connection.saved.getD connection.tables, none⟩)
  | .selectFriendRequest requesterId targetUserId =>
    (.ok ((connection.tables.findFriendRequest requesterId targetUserId).map fun row =>
      ⟨row.status, row.createdAtMs, row.updatedAtMs⟩), connection)
  | .selectFriendship userId friendId =>
    (.ok ((userId, friendId) ∈ connection.tables.friendships), connection)
  | .insertFriendRequest requesterId targetUserId nowMs =>
    match connection.tables.insertFriendRequest requesterId targetUserId nowMs with
    | .ok tables => (.ok 1, { connection with tables })
    | .error reason => (.error reason.status, connection)
  | .updateFriendRequest requesterId targetUserId status nowMs =>
    let (affectedRows, tables) :=
      connection.tables.updateFriendRequest requesterId targetUserId status nowMs
    (.ok affectedRows, { connection with tables })
  | .insertFriendships userId friendId =>
    if connection.tables.hasUser userId && connection.tables.hasUser friendId then
      let (first, tables) := connection.tables.insertFriendship userId friendId
      let (second, tables) := tables.insertFriendship friendId userId
      (.ok (first + second), { connection with tables })
    else (.error SqlError.foreignKey.status, connection)

def answer (call : Unit × FriendStatement) (connection : FriendConnection) :
    Except Error call.2.Result × FriendConnection :=
  connection.execute call.2

def machine : Machine (friendSql Unit) FriendConnection :=
  fun call connection reply next => (reply, next) = answer call connection

/-! ## The constraints stay -/

/-- The tables, and those to go back to, satisfy the constraints. -/
structure Sound (connection : FriendConnection) : Prop where
  tables : connection.tables.Keyed
  saved : ∀ saved ∈ connection.saved, saved.Keyed

theorem Sound.insertFriendship (hkeyed : tables.Keyed) (userId friendId : UInt64) :
    (tables.insertFriendship userId friendId).2.Keyed := by
  rw [Tables.insertFriendship]
  split
  · exact hkeyed
  · exact { hkeyed with }

theorem Sound.execute {connection : FriendConnection} (hsound : connection.Sound)
    (statement : FriendStatement) : (connection.execute statement).2.Sound := by
  have htables := hsound.tables
  cases statement with
  | acquire | selectFriendRequest | selectFriendship => exact hsound
  | startTransaction =>
    refine ⟨htables, fun saved hmem => ?_⟩
    obtain rfl := Option.some.inj hmem
    exact htables
  | commit => exact ⟨htables, fun saved hmem => nomatch hmem⟩
  | rollback =>
    refine ⟨?_, fun saved hmem => nomatch hmem⟩
    cases hsaved : connection.saved with
    | none => simpa [FriendConnection.execute, hsaved] using htables
    | some saved => simpa [FriendConnection.execute, hsaved] using hsound.saved saved hsaved
  | insertFriendRequest =>
    rw [FriendConnection.execute, Tables.insertFriendRequest]
    split_ifs with hpresent husers
    · exact hsound
    · exact ⟨{ htables with }, hsound.saved⟩
    · exact hsound
  | updateFriendRequest =>
    rw [FriendConnection.execute, updateFriendRequest]
    split_ifs with hpending
    · exact ⟨{ htables with }, hsound.saved⟩
    · exact hsound
  | insertFriendships =>
    rw [FriendConnection.execute]
    split
    · exact ⟨Sound.insertFriendship (Sound.insertFriendship htables _ _) _ _, hsound.saved⟩
    · exact hsound

/-- Run a call on a connection of its own. -/
def perform {α : Type} (tables : Tables) (program : Dao Unit α) :
    Except Error α × FriendConnection :=
  (program.run.run answer { tables }).2

theorem perform_keyed {α : Type} (hkeyed : tables.Keyed) (program : Dao Unit α) :
    (perform tables program).2.tables.Keyed := by
  have hsound : (FriendConnection.mk tables none).Sound := ⟨hkeyed, fun saved hmem => nomatch hmem⟩
  refine (Program.run_invariant Sound ?_ program.run hsound).tables
  intro call connection hsound
  exact hsound.execute call.2

/-! ## What the calls write -/

section Triples

open Program Fallible

theorem statement_triple {pre : FriendConnection → Prop} {statement : FriendStatement}
    {post : Except Error statement.Result → FriendConnection → Prop}
    (hexecute : ∀ connection, pre connection →
      post (connection.execute statement).1 (connection.execute statement).2) :
    Triple machine pre (FriendDao.statement () statement).run post := by
  refine triple_call post ?_ fun _ => triple_ret fun _ => id
  intro connection reply next hpre hanswer
  obtain ⟨rfl, rfl⟩ := Prod.mk.inj hanswer
  exact hexecute connection hpre

/-- A query of a request changes nothing. -/
theorem queryFriendRequest_triple {pre : FriendConnection → Prop}
    (requesterId targetUserId : UInt64) :
    Triple machine pre (queryFriendRequest () requesterId targetUserId).run
      fun _ => pre := by
  refine triple_bind_const (statement_triple fun _ hpre => hpre) (fun _ _ => id) ?_
  intro row
  exact triple_ofExcept fun _ => id

/-- A transaction that is rolled back leaves the tables it began with. -/
theorem rollbackAndReturn_triple {α : Type} {status : Error} {ok : α → FriendConnection → Prop} :
    Triple machine (fun connection => connection.saved = some before)
      (rollbackAndReturn () status : Dao Unit α).run
      (byOutcome ok fun _ connection => connection.tables = before) := by
  refine triple_outcome_bind (fun _ connection => connection.tables = before) ?_ ?_
  · apply statement_triple
    intro connection hsaved
    show connection.saved.getD connection.tables = before
    rw [hsaved]
    rfl
  · intro result
    exact triple_throw fun _ => id

end Triples

end FriendConnection

open FriendConnection

/-! ## Creating a request -/

namespace Tables

/-- Everything a creation does: it adds a pending request, which was not there. -/
structure CreatesRequest (requesterId targetUserId : UInt64) (before after : Tables) : Prop where
  free : before.findFriendRequest requesterId targetUserId = none
  row : ∃ nowMs, after = { before with
    friendRequests := before.friendRequests ++
      [{ requesterId, targetUserId, status := .kPending, createdAtMs := nowMs,
         updatedAtMs := nowMs }] }

/-- Everything a rejection does: a pending request becomes a rejected one. -/
structure RejectsRequest (requesterId targetUserId : UInt64) (before after : Tables) : Prop where
  pending : ∃ row ∈ before.friendRequests, pendingBetween requesterId targetUserId row = true
  rows : ∃ nowMs, after = before.settleRequests requesterId targetUserId .kRejected nowMs

/-- Everything an acceptance does: a pending request becomes an accepted one, and the two
users are friends, which they may have been before. -/
structure AcceptsRequest (requesterId targetUserId : UInt64) (before after : Tables) :
    Prop where
  pending : ∃ row ∈ before.friendRequests, pendingBetween requesterId targetUserId row = true
  friendships : ∀ pair, pair ∈ after.friendships ↔
    pair ∈ before.friendships ∨ pair = (requesterId, targetUserId) ∨
      pair = (targetUserId, requesterId)
  rows : ∃ nowMs, after =
    { before.settleRequests requesterId targetUserId .kAccepted nowMs with
      friendships := after.friendships }

/-- There is an accepted request. -/
def HasAccepted (tables : Tables) (requesterId targetUserId : UInt64) : Prop :=
  ∃ row ∈ tables.friendRequests, row.requesterId = requesterId ∧
    row.targetUserId = targetUserId ∧ row.status = .kAccepted

variable {requesterId targetUserId : UInt64}

/-- Settling a pending request leaves the accepted ones. -/
theorem HasAccepted.settleRequests (haccepted : tables.HasAccepted requesterId targetUserId)
    (asking asked : UInt64) (status : FriendRequestStatus) (nowMs : Int) :
    (tables.settleRequests asking asked status nowMs).HasAccepted requesterId targetUserId := by
  obtain ⟨row, hmem, hrequester, htarget, hstatus⟩ := haccepted
  have hsame : settleRequest asking asked status nowMs row = row := by
    simp [settleRequest, pendingBetween, hstatus]
  exact ⟨row, List.mem_map.mpr ⟨row, hmem, hsame⟩, hrequester, htarget, hstatus⟩

variable {after : Tables}

theorem AcceptsRequest.hasAccepted
    (haccepts : AcceptsRequest requesterId targetUserId before after) :
    after.HasAccepted requesterId targetUserId := by
  obtain ⟨row, hmem, hpending⟩ := haccepts.pending
  obtain ⟨nowMs, hafter⟩ := haccepts.rows
  rw [hafter]
  refine ⟨_, List.mem_map.mpr ⟨row, hmem, rfl⟩, ?_⟩
  simp only [pendingBetween, decide_eq_true_eq] at hpending
  simp [settleRequest, pendingBetween, hpending]

theorem AcceptsRequest.keepsAccepted {asking asked : UInt64}
    (haccepts : AcceptsRequest asking asked before after)
    (haccepted : before.HasAccepted requesterId targetUserId) :
    after.HasAccepted requesterId targetUserId := by
  obtain ⟨nowMs, hafter⟩ := haccepts.rows
  rw [hafter]
  exact haccepted.settleRequests asking asked .kAccepted nowMs

theorem insertFriendRequest_ok {nowMs : Int}
    (hinsert : tables.insertFriendRequest requesterId targetUserId nowMs = .ok after) :
    CreatesRequest requesterId targetUserId tables after := by
  simp only [insertFriendRequest] at hinsert
  split_ifs at hinsert with hpresent husers
  exact ⟨by simpa using hpresent, nowMs, (Except.ok.inj hinsert).symm⟩

theorem mem_insertFriendship {userId friendId : UInt64} {pair : UInt64 × UInt64} :
    pair ∈ (tables.insertFriendship userId friendId).2.friendships ↔
      pair ∈ tables.friendships ∨ pair = (userId, friendId) := by
  rw [insertFriendship]
  split_ifs with hpresent
  · refine ⟨Or.inl, fun hpair => ?_⟩
    rcases hpair with hpair | rfl
    · exact hpair
    · exact hpresent
  · simp

theorem insertFriendship_rest (tables : Tables) (userId friendId : UInt64) :
    (tables.insertFriendship userId friendId).2 =
      { tables with friendships := (tables.insertFriendship userId friendId).2.friendships } := by
  rw [insertFriendship]
  split
  · rfl
  · rfl

end Tables

namespace FriendConnection

section Triples

open Program Fallible

variable {before : Tables} {nowMs : Int} {requesterId targetUserId : UInt64}

/-- What holds until a call that opens no transaction writes. -/
def Untouched (before : Tables) (connection : FriendConnection) : Prop :=
  connection = { tables := before }

theorem tables_of_untouched (connection : FriendConnection)
    (huntouched : Untouched before connection) : connection.tables = before :=
  congrArg tables huntouched

/-- A call did what it is for, or it failed and the tables are as before. -/
abbrev allOrNothing {α : Type} (before : Tables) (did : α → Tables → Prop) :
    Except Error α → FriendConnection → Prop :=
  byOutcome (fun value connection => did value connection.tables)
    fun _ connection => connection.tables = before

/-- What a creation that succeeds does. -/
abbrev creates (requesterId targetUserId : UInt64) (before : Tables)
    (record : FriendRequestRecord) (after : Tables) : Prop :=
  record.status = .kPending ∧ CreatesRequest requesterId targetUserId before after

theorem insertFriendRequest_triple :
    Triple machine (Untouched before)
      (insertFriendRequest () nowMs requesterId targetUserId).run
      (allOrNothing before (creates requesterId targetUserId before)) := by
  refine triple_bind
    (fun affectedRows connection => affectedRows = 1 ∧
      CreatesRequest requesterId targetUserId before connection.tables) ?_ ?_
  · apply statement_triple
    rintro connection rfl
    rw [execute]
    cases hinsert : before.insertFriendRequest requesterId targetUserId nowMs with
    | ok => exact ⟨rfl, insertFriendRequest_ok hinsert⟩
    | error => rfl
  · intro affectedRows
    by_cases hone : affectedRows ≠ 1
    · rw [if_pos hone]
      exact triple_throw fun connection hpre => (hone hpre.1).elim
    · rw [if_neg hone]
      exact triple_pure fun connection hpre => ⟨rfl, hpre.2⟩

theorem createUnlessReversed_triple :
    Triple machine (Untouched before)
      (createUnlessReversed () nowMs requesterId targetUserId).run
      (allOrNothing before (creates requesterId targetUserId before)) := by
  refine triple_outcome_bind (fun _ => Untouched before)
    (queryFriendRequest_triple targetUserId requesterId) ?_
  intro result
  cases result with
  | ok reverse =>
    cases hstatus : reverse.status with
    | kPending | kAccepted => simpa only [hstatus] using triple_throw tables_of_untouched
    | kRejected => simpa only [hstatus] using insertFriendRequest_triple
  | error reverseStatus =>
    by_cases hcode : reverseStatus.code ≠ .notFound
    · simpa only [if_pos hcode] using triple_throw tables_of_untouched
    · simpa only [if_neg hcode] using insertFriendRequest_triple

theorem createFriendRequest_triple :
    Triple machine (Untouched before)
      (createFriendRequest () nowMs requesterId targetUserId).run
      (allOrNothing before (creates requesterId targetUserId before)) := by
  refine triple_ofExcept_bind (fun _ connection _ => tables_of_untouched connection) ?_
  intro _ _
  refine triple_bind_const (statement_triple fun _ hpre => hpre) (fun _ => tables_of_untouched) ?_
  intro _
  refine triple_bind_const (statement_triple fun _ hpre => hpre) (fun _ => tables_of_untouched) ?_
  intro areFriends
  cases areFriends with
  | true => exact triple_throw tables_of_untouched
  | false =>
    refine triple_outcome_bind (fun _ => Untouched before)
      (queryFriendRequest_triple requesterId targetUserId) ?_
    intro result
    cases result with
    | ok => exact triple_throw tables_of_untouched
    | error existingStatus =>
      by_cases hcode : existingStatus.code ≠ .notFound
      · simpa only [if_pos hcode] using triple_throw tables_of_untouched
      · simpa only [if_neg hcode] using createUnlessReversed_triple

/-! ## Settling a request -/

/-- One row changed exactly if a pending one was there. -/
theorem updateFriendRequest_cases (tables : Tables) (requesterId targetUserId : UInt64)
    (status : FriendRequestStatus) (nowMs : Int) :
    ((∃ row ∈ tables.friendRequests,
        pendingBetween requesterId targetUserId row = true) ∧
      tables.updateFriendRequest requesterId targetUserId status nowMs =
        (1, tables.settleRequests requesterId targetUserId status nowMs)) ∨
      tables.updateFriendRequest requesterId targetUserId status nowMs = (0, tables) := by
  rw [updateFriendRequest]
  by_cases hpending : tables.friendRequests.any
      (pendingBetween requesterId targetUserId) = true
  · rw [if_pos hpending]
    exact Or.inl ⟨List.any_eq_true.mp hpending, rfl⟩
  · rw [if_neg hpending]
    exact Or.inr rfl

theorem rejectFriendRequest_triple :
    Triple machine (Untouched before)
      (rejectFriendRequest () nowMs requesterId targetUserId).run
      (allOrNothing before fun _ => RejectsRequest requesterId targetUserId before) := by
  refine triple_ofExcept_bind (fun _ connection _ => tables_of_untouched connection) ?_
  intro _ _
  refine triple_bind_const (statement_triple fun _ hpre => hpre) (fun _ => tables_of_untouched) ?_
  intro _
  refine triple_bind_const (queryFriendRequest_triple requesterId targetUserId)
    (fun _ => tables_of_untouched) ?_
  intro existing
  cases hstatus : existing.status with
  | kAccepted | kRejected => exact triple_throw tables_of_untouched
  | kPending =>
    refine triple_bind
      (fun affectedRows connection =>
        (affectedRows = 1 ∧
          RejectsRequest requesterId targetUserId before connection.tables) ∨
        (affectedRows = 0 ∧ connection.tables = before)) ?_ ?_
    · apply statement_triple
      rintro connection rfl
      rcases updateFriendRequest_cases before requesterId targetUserId .kRejected nowMs with
        ⟨hpending, hupdate⟩ | hupdate
      · rw [execute, hupdate]
        exact Or.inl ⟨rfl, hpending, nowMs, rfl⟩
      · rw [execute, hupdate]
        exact Or.inr ⟨rfl, rfl⟩
    · intro affectedRows
      by_cases hone : affectedRows ≠ 1
      · rw [if_pos hone]
        apply triple_throw
        intro connection hpre
        rcases hpre with ⟨hrows, -⟩ | ⟨-, hunchanged⟩
        · exact (hone hrows).elim
        · exact hunchanged
      · rw [if_neg hone]
        apply triple_pure
        intro connection hpre
        rcases hpre with ⟨-, hrejects⟩ | ⟨hrows, -⟩
        · exact hrejects
        · exact (hone (by simp [hrows])).elim

/-- The two friendship rows are there, and nothing else changed. -/
def Paired (requesterId targetUserId : UInt64) (before after : Tables) : Prop :=
  (∀ pair, pair ∈ after.friendships ↔ pair ∈ before.friendships ∨
    pair = (requesterId, targetUserId) ∨ pair = (targetUserId, requesterId)) ∧
  after = { before with friendships := after.friendships }

theorem insertFriendships_paired (tables : Tables) :
    Paired requesterId targetUserId tables
      ((tables.insertFriendship requesterId targetUserId).2.insertFriendship targetUserId
        requesterId).2 := by
  refine ⟨fun pair => ?_, ?_⟩
  · rw [mem_insertFriendship, mem_insertFriendship, or_assoc]
  · rw [insertFriendship_rest, insertFriendship_rest tables]

theorem insertFriendshipRows_triple {updated : Tables} :
    Triple machine (fun connection => connection = ⟨updated, some before⟩)
      (insertFriendshipRows () requesterId targetUserId).run
      fun result connection => connection.saved = some before ∧
        (result = .ok () → Paired requesterId targetUserId updated connection.tables) := by
  have hfailed : ∀ (status : Error) (connection : FriendConnection),
      connection = ⟨updated, some before⟩ → connection.saved = some before ∧
        ((.error status : Except Error Unit) = .ok () →
          Paired requesterId targetUserId updated connection.tables) := by
    rintro status connection rfl
    exact ⟨rfl, nofun⟩
  refine triple_ofExcept_bind (fun status connection _ => hfailed status connection) ?_
  intro _ _
  refine triple_ofExcept_bind (fun status connection _ => hfailed status connection) ?_
  intro _ _
  refine triple_bind (fun _ connection => connection.saved = some before ∧
    Paired requesterId targetUserId updated connection.tables) ?_ ?_
  · apply statement_triple
    rintro connection rfl
    rw [execute]
    split
    · exact ⟨rfl, insertFriendships_paired updated⟩
    · exact hfailed _ _ rfl
  · intro affectedRows
    exact triple_ofExcept fun connection hpre => ⟨hpre.1, fun _ => hpre.2⟩

theorem acceptUpdated_triple (hpending : ∃ row ∈ before.friendRequests,
      pendingBetween requesterId targetUserId row = true) :
    Triple machine
      (fun connection => connection =
        ⟨before.settleRequests requesterId targetUserId .kAccepted nowMs, some before⟩)
      (acceptUpdated () requesterId targetUserId).run
      (allOrNothing before fun _ => AcceptsRequest requesterId targetUserId before) := by
  refine triple_outcome_bind _ insertFriendshipRows_triple ?_
  intro result
  cases result with
  | error =>
    exact rollbackAndReturn_triple.mono (fun _ hpre => hpre.1) fun _ _ => id
  | ok =>
    apply statement_triple
    intro connection hpre
    obtain ⟨hfriendships, hrest⟩ := hpre.2 rfl
    exact ⟨hpending, hfriendships, nowMs, hrest⟩

theorem acceptPending_triple :
    Triple machine (fun connection => connection = ⟨before, some before⟩)
      (acceptPending () nowMs requesterId targetUserId).run
      (allOrNothing before fun _ => AcceptsRequest requesterId targetUserId before) := by
  refine triple_outcome_bind
    (fun result connection => connection.saved = some before ∧
      (result = .ok 1 →
        (∃ row ∈ before.friendRequests,
          pendingBetween requesterId targetUserId row = true) ∧
        connection =
          ⟨before.settleRequests requesterId targetUserId .kAccepted nowMs, some before⟩))
    ?_ ?_
  · apply statement_triple
    rintro connection rfl
    rcases updateFriendRequest_cases before requesterId targetUserId .kAccepted nowMs with
      ⟨hpending, hupdate⟩ | hupdate
    · rw [execute, hupdate]
      exact ⟨rfl, fun _ => ⟨hpending, rfl⟩⟩
    · rw [execute, hupdate]
      exact ⟨rfl, fun hone => nomatch Except.ok.inj hone⟩
  · intro result
    cases result with
    | error =>
      exact rollbackAndReturn_triple.mono (fun _ hpre => hpre.1) fun _ _ => id
    | ok affectedRows =>
      by_cases hone : affectedRows ≠ 1
      · simp only [if_pos hone]
        exact rollbackAndReturn_triple.mono (fun _ hpre => hpre.1) fun _ _ => id
      · simp only [if_neg hone]
        obtain rfl : affectedRows = 1 := not_not.mp hone
        intro connection trace value last hpre hexec
        obtain ⟨hpending, hconnection⟩ := hpre.2 rfl
        exact acceptUpdated_triple hpending connection trace value last hconnection hexec

theorem acceptFriendRequest_triple :
    Triple machine (Untouched before)
      (acceptFriendRequest () nowMs requesterId targetUserId).run
      (allOrNothing before fun _ => AcceptsRequest requesterId targetUserId before) := by
  have hback : ∀ (status : Error) (pre : FriendConnection → Prop),
      (∀ connection, pre connection → connection = ⟨before, some before⟩) →
      Triple machine pre (rollbackAndReturn () status : Dao Unit Unit).run
        (allOrNothing before fun _ => AcceptsRequest requesterId targetUserId before) := by
    intro status pre hpre
    refine rollbackAndReturn_triple.mono (fun connection hconnection => ?_) fun _ _ => id
    exact congrArg saved (hpre connection hconnection)
  refine triple_ofExcept_bind (fun _ connection _ => tables_of_untouched connection) ?_
  intro _ _
  refine triple_bind_const (statement_triple fun _ hpre => hpre) (fun _ => tables_of_untouched) ?_
  intro _
  refine triple_bind (fun _ connection => connection = ⟨before, some before⟩) ?_ ?_
  · apply statement_triple
    rintro connection rfl
    rfl
  · intro _
    refine triple_outcome_bind (fun _ connection => connection = ⟨before, some before⟩)
      (queryFriendRequest_triple requesterId targetUserId) ?_
    intro result
    cases result with
    | error existingStatus =>
      by_cases hcode : existingStatus.code = .notFound
      · simp only [if_pos hcode]
        refine triple_outcome_bind (fun _ connection => connection = ⟨before, some before⟩)
          (statement_triple fun _ hpre => hpre) ?_
        intro friends
        rcases friends with friendsStatus | (_ | _)
        · exact hback _ _ fun _ => id
        · exact hback _ _ fun _ => id
        · exact hback _ _ fun _ => id
      · simp only [if_neg hcode]
        exact hback _ _ fun _ => id
    | ok existing =>
      cases hstatus : existing.status with
      | kAccepted | kRejected => simpa only [hstatus] using hback _ _ fun _ => id
      | kPending => simpa only [hstatus] using acceptPending_triple

/-- What a triple says of a call on tables by themselves. -/
theorem perform_spec {α : Type} {program : Dao Unit α}
    {ok : α → FriendConnection → Prop} {error : Error → FriendConnection → Prop}
    (htriple : Triple machine (Untouched before) program.run (byOutcome ok error)) :
    byOutcome ok error (perform before program).1 (perform before program).2 :=
  htriple _ _ _ _ rfl (exec_run (fun _ _ => rfl) program.run _)

end Triples

end FriendConnection

/-! ## The calls -/

namespace Database

/-- Run a friend call on a connection of its own. -/
def onConnection {α : Type} (database : Database) (program : Dao Unit α) :
    Except Error α × Database :=
  let done := perform database.1 program
  (done.1, ⟨done.2.tables, perform_keyed database.2 program⟩)

def createFriendRequest (database : Database) (nowMs : Int) (requesterId targetUserId : UInt64) :
    Except Error FriendRequestRecord × Database :=
  database.onConnection (FriendDao.createFriendRequest () nowMs requesterId targetUserId)

def acceptFriendRequest (database : Database) (nowMs : Int) (requesterId targetUserId : UInt64) :
    Except Error Unit × Database :=
  database.onConnection (FriendDao.acceptFriendRequest () nowMs requesterId targetUserId)

def rejectFriendRequest (database : Database) (nowMs : Int) (requesterId targetUserId : UInt64) :
    Except Error Unit × Database :=
  database.onConnection (FriendDao.rejectFriendRequest () nowMs requesterId targetUserId)

/-- A call does what its specification says, or nothing. -/
theorem onConnection_cases {α : Type} (database : Database) {program : Dao Unit α}
    (spec : α → Tables → Prop)
    (htriple : Program.Triple machine (Untouched database.1)
      program.run (Fallible.byOutcome (fun value connection => spec value connection.tables)
        fun _ connection => connection.tables = database.1)) :
    AllOrNothing database (database.onConnection program) spec := by
  have hspec := perform_spec htriple
  rw [onConnection]
  cases hresult : (perform database.1 program).1 with
  | ok value =>
    rw [hresult] at hspec
    exact Or.inl ⟨value, _, rfl, hspec⟩
  | error status =>
    rw [hresult] at hspec
    exact Or.inr ⟨status, Prod.ext rfl (Subtype.ext hspec)⟩

theorem createFriendRequest_cases (database : Database) (nowMs : Int)
    (requesterId targetUserId : UInt64) :
    AllOrNothing database (database.createFriendRequest nowMs requesterId targetUserId)
      fun record after => record.status = .kPending ∧
        CreatesRequest requesterId targetUserId database.1 after :=
  onConnection_cases database _ createFriendRequest_triple

theorem acceptFriendRequest_cases (database : Database) (nowMs : Int)
    (requesterId targetUserId : UInt64) :
    AllOrNothing database (database.acceptFriendRequest nowMs requesterId targetUserId)
      fun _ => AcceptsRequest requesterId targetUserId database.1 :=
  onConnection_cases database _ acceptFriendRequest_triple

theorem rejectFriendRequest_cases (database : Database) (nowMs : Int)
    (requesterId targetUserId : UInt64) :
    AllOrNothing database (database.rejectFriendRequest nowMs requesterId targetUserId)
      fun _ => RejectsRequest requesterId targetUserId database.1 :=
  onConnection_cases database _ rejectFriendRequest_triple

end Database

namespace Tables

variable {requesterId targetUserId : UInt64} {before after : Tables}

theorem CreatesRequest.sameMessages
    (hcreates : CreatesRequest requesterId targetUserId before after) :
    SameMessages before after := by
  obtain ⟨nowMs, rfl⟩ := hcreates.row
  exact ⟨rfl, rfl, rfl, rfl, rfl⟩

theorem RejectsRequest.sameMessages
    (hrejects : RejectsRequest requesterId targetUserId before after) :
    SameMessages before after := by
  obtain ⟨nowMs, rfl⟩ := hrejects.rows
  exact ⟨rfl, rfl, rfl, rfl, rfl⟩

theorem AcceptsRequest.sameMessages
    (haccepts : AcceptsRequest requesterId targetUserId before after) :
    SameMessages before after := by
  obtain ⟨nowMs, hafter⟩ := haccepts.rows
  rw [hafter]
  exact ⟨rfl, rfl, rfl, rfl, rfl⟩

end Tables

end LiteIM
