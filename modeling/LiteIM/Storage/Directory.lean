/-
# Accounts and groups

The calls of `UserDao` and `GroupDao` that add users, groups and members, and the two
lists a user can ask for. A user name is looked up by the collation of its column, so
several spellings reach one account.

Ids come from `AUTO_INCREMENT`: a new id is larger than those in the table. That a counter
may also skip numbers makes no difference here.
-/

import LiteIM.Storage.Acknowledgement

namespace LiteIM

open Foundation Tables List Status

namespace Tables

/-! ## Users -/

/-- `uk_users_username`, which compares by the collation. -/
def findUsername (tables : Tables) (username : Bytes) : Option UserRecord :=
  tables.users.find? fun user => tables.collation.same user.username username

/-- One more than every id given so far. -/
def nextId (ids : List UInt64) : Nat := ids.foldr (fun used next => max next (used.toNat + 1)) 1

/-- The `INSERT` of `createUser`. -/
def insertUser (tables : Tables) (nowMs : Int) (request : CreateUserRequest) :
    Except Error (Unit × Tables) :=
  let userId := nextId (tables.users.map UserRecord.userId)
  if 2 ^ 64 ≤ userId then .error SqlError.autoIncrement.status
  else if (tables.findUsername request.username).isSome then
    error .alreadyExists "username already exists"
  else
    .ok ((), { tables with
      users := tables.users ++
        [{ userId := UInt64.ofNat userId, username := request.username,
           passwordHash := request.passwordHash, passwordSalt := request.passwordSalt,
           nickname := request.nickname, createdAtMs := nowMs }] })

def findUserByUsername (tables : Tables) (username : Bytes) : Except Error UserRecord :=
  match tables.findUsername username with
  | some user => .ok user
  | none => error .notFound "user was not found"

/-! ## Groups -/

def hasGroup (tables : Tables) (groupId : UInt64) : Bool :=
  tables.chatGroups.any fun group => group.groupId = groupId

def validateId (id : UInt64) (fieldName : String) : Except Error Unit :=
  if id = 0 then error .invalidArgument (fieldName ++ " must not be zero") else .ok ()

/-- `ON DUPLICATE KEY UPDATE joined_at_ms = group_members.joined_at_ms`. -/
def insertGroupMember (tables : Tables) (groupId userId : UInt64) (joinedAtMs : Int) :
    Except SqlError Tables :=
  if tables.groupMembers.any fun row => row.groupId = groupId ∧ row.userId = userId then
    .ok tables
  else if tables.hasGroup groupId = false ∨ tables.hasUser userId = false then
    .error .foreignKey
  else .ok { tables with groupMembers := tables.groupMembers ++ [{ groupId, userId, joinedAtMs }] }

/-- `INSERT INTO chat_groups`, with the row that `LAST_INSERT_ID()` names. -/
def insertGroup (tables : Tables) (nowMs : Int) (request : CreateGroupRequest) :
    Except SqlError (GroupRecord × Tables) :=
  let groupId := nextId (tables.chatGroups.map GroupRecord.groupId)
  if 2 ^ 64 ≤ groupId then .error .autoIncrement
  else if tables.hasUser request.ownerId = false then .error .foreignKey
  else
    let group : GroupRecord :=
      { groupId := UInt64.ofNat groupId, ownerId := request.ownerId,
        groupName := request.groupName, createdAtMs := nowMs }
    .ok (group, { tables with chatGroups := tables.chatGroups ++ [group] })

def createGroup (tables : Tables) (nowMs : Int) (request : CreateGroupRequest) :
    Except Error (GroupRecord × Tables) := do
  validateId request.ownerId "owner_id"
  if request.groupName = [] then
    error .invalidArgument "group_name must not be empty"
  else do
    let (group, tables) ← execute (tables.insertGroup nowMs request)
    let tables ← execute (tables.insertGroupMember group.groupId request.ownerId nowMs)
    .ok (group, tables)

def addGroupMember (tables : Tables) (nowMs : Int) (groupId userId : UInt64) :
    Except Error (Unit × Tables) := do
  validateId groupId "group_id"
  validateId userId "user_id"
  let tables ← execute (tables.insertGroupMember groupId userId nowMs)
  .ok ((), tables)

/-! ## Lists -/

/-- The rows of `friendships` of a user, joined with the friends. -/
def joinFriends (tables : Tables) (userId : UInt64) : List UserProfileRecord :=
  (tables.friendships.filter fun pair => pair.1 = userId).filterMap fun pair =>
    (tables.users.find? fun user => user.userId = pair.2).map fun user =>
      { userId := user.userId, username := user.username, nickname := user.nickname,
        createdAtMs := user.createdAtMs }

/-- `ORDER BY u.user_id ASC`. -/
def getFriends (tables : Tables) (userId : UInt64) : Except Error (List UserProfileRecord) := do
  validateId userId "user_id"
  .ok ((tables.joinFriends userId).insertionSort fun first second => first.userId ≤ second.userId)

/-- The rows of `group_members` of a user, joined with the groups. -/
def joinGroups (tables : Tables) (userId : UInt64) : List GroupRecord :=
  (tables.groupMembers.filter fun row => row.userId = userId).filterMap fun row =>
    tables.chatGroups.find? fun group => group.groupId = row.groupId

/-- `ORDER BY cg.group_id ASC`. -/
def getGroupsForUser (tables : Tables) (userId : UInt64) : Except Error (List GroupRecord) := do
  validateId userId "user_id"
  .ok ((tables.joinGroups userId).insertionSort fun first second =>
    first.groupId ≤ second.groupId)

/-! ## What the calls do -/

variable {ids : List UInt64}

theorem lt_nextId {used : UInt64} (hmem : used ∈ ids) : used.toNat < nextId ids := by
  induction ids with
  | nil => cases hmem
  | cons first rest ih =>
    rw [nextId, foldr_cons]
    rcases mem_cons.mp hmem with rfl | hrest
    · exact Nat.lt_of_lt_of_le (Nat.lt_succ_self _) (Nat.le_max_right _ _)
    · exact Nat.lt_of_lt_of_le (ih hrest) (Nat.le_max_left _ _)

theorem nextId_le {bound : Nat} (hbound : ∀ used ∈ ids, used.toNat < bound)
    (hpositive : 0 < bound) : nextId ids ≤ bound := by
  induction ids with
  | nil => exact hpositive
  | cons first rest ih =>
    rw [forall_mem_cons] at hbound
    exact Nat.max_le.mpr ⟨ih hbound.2, hbound.1⟩

/-- A new id is none of those given so far. -/
theorem ofNat_nextId_ne (hrange : nextId ids < 2 ^ 64) {used : UInt64} (hmem : used ∈ ids) :
    used ≠ UInt64.ofNat (nextId ids) := by
  intro hsame
  have hid : (UInt64.ofNat (nextId ids)).toNat = nextId ids := UInt64.toNat_ofNat_of_lt hrange
  have hlt := lt_nextId hmem
  rw [hsame, hid] at hlt
  exact Nat.lt_irrefl _ hlt

/-- Everything an insert into `users` does: the name was free, and one row was added under
a new id. -/
structure AddsUser (request : CreateUserRequest) (before after : Tables) : Prop where
  free : before.findUsername request.username = none
  row : ∃ user : UserRecord, user.username = request.username ∧
    user.passwordHash = request.passwordHash ∧ user.passwordSalt = request.passwordSalt ∧
    user.nickname = request.nickname ∧
    (∀ other ∈ before.users, other.userId ≠ user.userId) ∧
    after = { before with users := before.users ++ [user] }

variable {after tables : Tables} {nowMs : Int}

theorem insertUser_ok {request : CreateUserRequest} {value : Unit}
    (hinsert : tables.insertUser nowMs request = .ok (value, after)) :
    AddsUser request tables after := by
  simp only [insertUser, error] at hinsert
  split_ifs at hinsert with hrange hfree
  refine ⟨by simpa using hfree, _, rfl, rfl, rfl, rfl, ?_,
    (Prod.mk.inj (Except.ok.inj hinsert)).2.symm⟩
  intro other hmem
  exact ofNat_nextId_ne (Nat.not_le.mp hrange) (mem_map_of_mem hmem)

variable {before : Tables}

theorem AddsUser.keyed {request : CreateUserRequest} (hadds : AddsUser request before after)
    (hkeyed : before.Keyed) : after.Keyed := by
  obtain ⟨user, -, -, -, -, hnew, rfl⟩ := hadds.row
  refine { hkeyed with offline_user := ?_, user_unique := ?_ }
  · intro row hmem
    rw [hasUser, any_append, Bool.or_eq_true]
    exact Or.inl (hkeyed.offline_user row hmem)
  · rw [pairwise_append]
    refine ⟨hkeyed.user_unique, pairwise_singleton _ _, ?_⟩
    intro other hmem added hadded
    rw [mem_singleton.mp hadded]
    exact hnew other hmem

/-- A member is added unless it is one already. -/
def AddsMember (groupId userId : UInt64) (before after : Tables) : Prop :=
  after = before ∨
    ((∀ row ∈ before.groupMembers, ¬ (row.groupId = groupId ∧ row.userId = userId)) ∧
      ∃ joinedAtMs, after = { before with
        groupMembers := before.groupMembers ++ [{ groupId, userId, joinedAtMs }] })

variable {userId groupId : UInt64}

theorem AddsMember.rest (hadds : AddsMember groupId userId before after) :
    after = { before with groupMembers := after.groupMembers } := by
  rcases hadds with rfl | ⟨-, joinedAtMs, rfl⟩
  · rfl
  · rfl

theorem insertGroupMember_ok {joinedAtMs : Int}
    (hinsert : tables.insertGroupMember groupId userId joinedAtMs = .ok after) :
    AddsMember groupId userId tables after := by
  simp only [insertGroupMember] at hinsert
  split_ifs at hinsert with hpresent hreferences
  · exact Or.inl (Except.ok.inj hinsert).symm
  · refine Or.inr ⟨?_, joinedAtMs, (Except.ok.inj hinsert).symm⟩
    intro row hmem hkey
    apply hpresent
    rw [any_eq_true]
    exact ⟨row, hmem, by simpa using hkey⟩

theorem AddsMember.keyed (hadds : AddsMember groupId userId before after) (hkeyed : before.Keyed) :
    after.Keyed := by
  rcases hadds with rfl | ⟨hnew, joinedAtMs, rfl⟩
  · exact hkeyed
  · refine { hkeyed with member_unique := ?_ }
    rw [pairwise_append]
    refine ⟨hkeyed.member_unique, pairwise_singleton _ _, ?_⟩
    intro other hmem added hadded hsame
    rw [mem_singleton.mp hadded] at hsame
    exact hnew other hmem hsame

/-- Everything `createGroup` does: one group under a new id, with its owner as a member. -/
structure AddsGroup (request : CreateGroupRequest) (before : Tables) (group : GroupRecord)
    (after : Tables) : Prop where
  owner : group.ownerId = request.ownerId
  name : group.groupName = request.groupName
  fresh : ∀ other ∈ before.chatGroups, other.groupId ≠ group.groupId
  member : AddsMember group.groupId request.ownerId
    { before with chatGroups := before.chatGroups ++ [group] } after

variable {request : CreateGroupRequest} {group : GroupRecord}

theorem insertGroup_ok (hinsert : tables.insertGroup nowMs request = .ok (group, after)) :
    group.ownerId = request.ownerId ∧ group.groupName = request.groupName ∧
      (∀ other ∈ tables.chatGroups, other.groupId ≠ group.groupId) ∧
      after = { tables with chatGroups := tables.chatGroups ++ [group] } := by
  simp only [insertGroup] at hinsert
  split_ifs at hinsert with hrange howner
  cases hinsert
  refine ⟨rfl, rfl, ?_, rfl⟩
  intro other hmem
  exact ofNat_nextId_ne (Nat.not_le.mp hrange) (mem_map_of_mem hmem)

theorem createGroup_ok (hcreate : tables.createGroup nowMs request = .ok (group, after)) :
    AddsGroup request tables group after := by
  obtain ⟨-, -, hcreate⟩ := bind_eq_ok_iff.mp hcreate
  by_cases hname : request.groupName = []
  · simp [hname, error] at hcreate
  · rw [if_neg hname] at hcreate
    obtain ⟨⟨created, mid⟩, hgroup, hcreate⟩ := bind_eq_ok_iff.mp hcreate
    obtain ⟨final, hmember, hcreate⟩ := bind_eq_ok_iff.mp hcreate
    cases hcreate
    obtain ⟨howner, hsameName, hfresh, rfl⟩ := insertGroup_ok (execute_eq_ok_iff.mp hgroup)
    exact ⟨howner, hsameName, hfresh, insertGroupMember_ok (execute_eq_ok_iff.mp hmember)⟩

theorem AddsGroup.keyed (hadds : AddsGroup request before group after) (hkeyed : before.Keyed) :
    after.Keyed :=
  hadds.member.keyed { hkeyed with }

theorem addGroupMember_ok {value : Unit}
    (hadd : tables.addGroupMember nowMs groupId userId = .ok (value, after)) :
    AddsMember groupId userId tables after := by
  obtain ⟨-, -, hadd⟩ := bind_eq_ok_iff.mp hadd
  obtain ⟨-, -, hadd⟩ := bind_eq_ok_iff.mp hadd
  obtain ⟨final, hmember, hadd⟩ := bind_eq_ok_iff.mp hadd
  obtain rfl : final = after := (Prod.mk.inj (Except.ok.inj hadd)).2
  exact insertGroupMember_ok (execute_eq_ok_iff.mp hmember)

theorem findUserByUsername_ok {username : Bytes} {user : UserRecord}
    (hfind : tables.findUserByUsername username = .ok user) :
    user ∈ tables.users ∧ tables.collation.same user.username username = true := by
  rw [findUserByUsername] at hfind
  cases hname : tables.findUsername username with
  | none => simp [hname, error] at hfind
  | some =>
    simp only [hname, Except.ok.injEq] at hfind
    rw [hfind] at hname
    exact ⟨mem_of_find?_eq_some hname, by simpa using find?_some hname⟩

/-! ## Messages stay as they are -/

/-- Nothing changed about messages, offline rows and deliveries. -/
structure SameMessages (before after : Tables) : Prop where
  collation : after.collation = before.collation
  messages : after.messages = before.messages
  nextMessageId : after.nextMessageId = before.nextMessageId
  offlineMessages : after.offlineMessages = before.offlineMessages
  messageDeliveries : after.messageDeliveries = before.messageDeliveries

theorem SameMessages.keepsMessages (hsame : SameMessages before after) :
    KeepsMessages before after where
  later :=
    { collation := hsame.collation
      messages := fun row hmem => hsame.messages ▸ hmem
      offline := fun userId messageId hrow => by rwa [hasOffline, hsame.offlineMessages]
      delivered := fun userId messageId hrow => by rwa [Delivered, hsame.messageDeliveries] }
  messages := hsame.messages
  nextMessageId := hsame.nextMessageId
  offline := ⟨id, by simp [hsame.offlineMessages], OfflineRow.Later.refl⟩

theorem AddsUser.sameMessages {request : CreateUserRequest}
    (hadds : AddsUser request before after) : SameMessages before after := by
  obtain ⟨user, -, -, -, -, -, rfl⟩ := hadds.row
  exact ⟨rfl, rfl, rfl, rfl, rfl⟩

theorem AddsMember.sameMessages (hadds : AddsMember groupId userId before after) :
    SameMessages before after := by
  rcases hadds with rfl | ⟨-, joinedAtMs, rfl⟩
  · exact ⟨rfl, rfl, rfl, rfl, rfl⟩
  · exact ⟨rfl, rfl, rfl, rfl, rfl⟩

theorem AddsGroup.sameMessages (hadds : AddsGroup request before group after) :
    SameMessages before after := by
  obtain ⟨hcollation, hmessages, hnext, hoffline, hdeliveries⟩ := hadds.member.sameMessages
  exact ⟨hcollation, hmessages, hnext, hoffline, hdeliveries⟩

end Tables

/-! ## The calls as transactions -/

namespace Database

def insertUser (database : Database) (nowMs : Int) (request : CreateUserRequest) :
    Except Error Unit × Database :=
  database.transact (fun tables => tables.insertUser nowMs request)
    fun _ _ _ hkeyed hinsert => (insertUser_ok hinsert).keyed hkeyed

def createGroup (database : Database) (nowMs : Int) (request : CreateGroupRequest) :
    Except Error GroupRecord × Database :=
  database.transact (fun tables => tables.createGroup nowMs request)
    fun _ _ _ hkeyed hcreate => (createGroup_ok hcreate).keyed hkeyed

def addGroupMember (database : Database) (nowMs : Int) (groupId userId : UInt64) :
    Except Error Unit × Database :=
  database.transact (fun tables => tables.addGroupMember nowMs groupId userId)
    fun _ _ _ hkeyed hadd => (addGroupMember_ok hadd).keyed hkeyed

theorem insertUser_cases (database : Database) (nowMs : Int) (request : CreateUserRequest) :
    AllOrNothing database (database.insertUser nowMs request)
      fun _ => AddsUser request database.1 :=
  transact_spec fun _ _ => insertUser_ok

theorem createGroup_cases (database : Database) (nowMs : Int) (request : CreateGroupRequest) :
    AllOrNothing database (database.createGroup nowMs request)
      (AddsGroup request database.1) :=
  transact_spec fun _ _ => createGroup_ok

theorem addGroupMember_cases (database : Database) (nowMs : Int) (groupId userId : UInt64) :
    AllOrNothing database (database.addGroupMember nowMs groupId userId)
      fun _ => AddsMember groupId userId database.1 :=
  transact_spec fun _ _ => addGroupMember_ok

end Database

end LiteIM
