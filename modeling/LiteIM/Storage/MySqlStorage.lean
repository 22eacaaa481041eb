/-
# Storage calls

The calls of `IStorage` that the message path makes, as `MySqlStorage` and its
data access objects carry them out. Each is one transaction: it changes the
tables as a whole or, with an error, not at all. `nowMs` is the clock.

The tables a call works on satisfy the constraints of the schema, and a
`Database` is tables together with that fact; a transaction takes a database to a
database.
-/

import LiteIM.Foundation.Outcome
import LiteIM.Storage.Tables
import Mathlib.Data.List.Sort

namespace LiteIM

open Foundation Status List

variable {after : Tables}

namespace Tables

/-- The outcome of a statement whose failure is passed on. -/
def execute {α : Type} (result : Except SqlError α) : Except Error α :=
  match result with
  | .ok value => .ok value
  | .error reason => .error reason.status

/-! ## Messages -/

/-- A group message without a receiver is stored with its group as the receiver. -/
def storedReceiver (message : MessageRecord) : UInt64 :=
  if message.conversation.type = .kGroup ∧ message.receiverId = 0 then message.conversation.id
  else message.receiverId

/-- `normalizeMessageForInsert`: the receiver and the time a message is stored with. -/
def normalizeMessageForInsert (nowMs : Int) (message : MessageRecord) :
    Except Error (UInt64 × Int) :=
  if message.conversation.id = 0 then
    error .invalidArgument "conversation id must not be zero"
  else if message.senderId = 0 then
    error .invalidArgument "sender id must not be zero"
  else if message.conversation.type = .kPrivate ∧ message.receiverId = 0 then
    error .invalidArgument "private message receiver id must not be zero"
  else
    .ok (storedReceiver message,
      if 0 < message.createdAtMs then message.createdAtMs else nowMs)

def insertMessageRecordInTransaction (tables : Tables) (nowMs : Int) (message : MessageRecord) :
    Except Error (MessageRecord × Tables) := do
  let (receiverId, createdAtMs) ← normalizeMessageForInsert nowMs message
  match tables.insertMessage message.conversation message.senderId receiverId message.text
      createdAtMs message.clientMsgId with
  | .ok (row, tables) => .ok (row.toRecord, tables)
  | .error reason =>
    if message.clientMsgId ≠ [] ∧ reason = .duplicateEntry then
      error .alreadyExists "client message id already exists"
    else .error reason.status

/-- The loop of `validateOfflineRecipients`, with the recipients kept so far. -/
def validateOfflineRecipients (unique : List UInt64) : List UInt64 → Except Error (List UInt64)
  | [] => .ok unique
  | userId :: rest =>
    if userId = 0 then
      error .invalidArgument "offline recipient user_id must not be zero"
    else if userId ∈ unique then validateOfflineRecipients unique rest
    else validateOfflineRecipients (unique ++ [userId]) rest

/-- The rows one offline recipient of a new message gets. -/
def insertRecipient (messageId : UInt64) (createdAtMs : Int) (tables : Tables)
    (userId : UInt64) : Except Error Tables := do
  let tables ← execute (tables.insertOffline userId messageId createdAtMs)
  execute (tables.upsertPending userId messageId)

def saveMessageWithOfflineRecipients (tables : Tables) (nowMs : Int) (message : MessageRecord)
    (offlineUserIds : List UInt64) : Except Error (MessageRecord × Tables) := do
  let unique ← validateOfflineRecipients [] offlineUserIds
  let (saved, tables) ← tables.insertMessageRecordInTransaction nowMs message
  let tables ← unique.foldlM (insertRecipient saved.messageId nowMs) tables
  .ok (saved, tables)

def findMessageByClientMessageId (tables : Tables) (senderId : UInt64) (clientMsgId : Bytes) :
    Except Error MessageRecord :=
  if senderId = 0 then error .invalidArgument "sender id must not be zero"
  else if clientMsgId = [] then
    error .invalidArgument "client message id must not be empty"
  else
    match tables.messages.find? (tables.hasClientKey senderId clientMsgId) with
    | some row => .ok row.toRecord
    | none => error .notFound "message was not found"

/-! ## Offline messages and deliveries -/

def saveOfflineMessage (tables : Tables) (nowMs : Int) (userId messageId : UInt64) :
    Except Error Tables :=
  if userId = 0 then error .invalidArgument "user_id must not be zero"
  else if messageId = 0 then error .invalidArgument "message_id must not be zero"
  else
    match tables.insertOffline userId messageId nowMs with
    | .error .duplicateEntry => error .alreadyExists "offline message already exists"
    | .error reason => .error reason.status
    | .ok tables => execute (tables.upsertPending userId messageId)

def findDeliveryStatus (tables : Tables) (userId messageId : UInt64) :
    Except Error DeliveryStatus :=
  if userId = 0 then error .invalidArgument "user id must not be zero"
  else if messageId = 0 then error .invalidArgument "message id must not be zero"
  else
    match tables.messageDeliveries.find? fun row =>
        row.messageId = messageId ∧ row.userId = userId with
    | some row => .ok row.status
    | none => error .notFound "delivery status was not found"

/-! ## Users, friends and groups -/

def findUserById (tables : Tables) (userId : UInt64) : Except Error UserRecord :=
  match tables.users.find? fun user => user.userId = userId with
  | some user => .ok user
  | none => error .notFound "user was not found"

def areFriends (tables : Tables) (userId friendId : UInt64) : Except Error Bool :=
  if userId = 0 then error .invalidArgument "user_id must not be zero"
  else if friendId = 0 then error .invalidArgument "friend_id must not be zero"
  else if userId = friendId then
    error .invalidArgument "friendship user ids must be different"
  else .ok ((userId, friendId) ∈ tables.friendships)

def findGroupById (tables : Tables) (groupId : UInt64) : Except Error GroupRecord :=
  if groupId = 0 then error .invalidArgument "group_id must not be zero"
  else
    match tables.chatGroups.find? fun group => group.groupId = groupId with
    | some group => .ok group
    | none => error .notFound "group was not found"

/-- `ORDER BY gm.joined_at_ms ASC, u.user_id ASC`. -/
def memberBefore (first second : GroupMemberRecord) : Prop :=
  first.joinedAtMs < second.joinedAtMs ∨
    (first.joinedAtMs = second.joinedAtMs ∧ first.userId ≤ second.userId)

instance : DecidableRel memberBefore := fun first second =>
  inferInstanceAs (Decidable (first.joinedAtMs < second.joinedAtMs ∨
    (first.joinedAtMs = second.joinedAtMs ∧ first.userId ≤ second.userId)))

/-- The rows of `group_members` of a group, joined with their users. -/
def joinMembers (tables : Tables) (groupId : UInt64) : List GroupMemberRecord :=
  (tables.groupMembers.filter fun row => row.groupId = groupId).filterMap fun row =>
    (tables.users.find? fun user => user.userId = row.userId).map fun user =>
      { userId := user.userId, username := user.username, nickname := user.nickname,
        joinedAtMs := row.joinedAtMs }

def getGroupMembers (tables : Tables) (groupId : UInt64) :
    Except Error (List GroupMemberRecord) :=
  if groupId = 0 then error .invalidArgument "group_id must not be zero"
  else .ok ((tables.joinMembers groupId).insertionSort memberBefore)

/-! ## What a save does -/

theorem execute_eq_ok_iff {α : Type} {result : Except SqlError α} {value : α} :
    execute result = .ok value ↔ result = .ok value := by
  cases result with
  | ok | error => simp [execute]

/-- Nothing changed about accounts, friends and groups. -/
structure SameDirectory (before after : Tables) : Prop where
  users : after.users = before.users
  friendRequests : after.friendRequests = before.friendRequests
  friendships : after.friendships = before.friendships
  chatGroups : after.chatGroups = before.chatGroups
  groupMembers : after.groupMembers = before.groupMembers

theorem SameDirectory.refl (tables : Tables) : SameDirectory tables tables :=
  ⟨rfl, rfl, rfl, rfl, rfl⟩

variable {before : Tables}

theorem SameDirectory.trans {mid : Tables} (hfirst : SameDirectory before mid)
    (hsecond : SameDirectory mid after) : SameDirectory before after where
  users := hsecond.users.trans hfirst.users
  friendRequests := hsecond.friendRequests.trans hfirst.friendRequests
  friendships := hsecond.friendships.trans hfirst.friendships
  chatGroups := hsecond.chatGroups.trans hfirst.chatGroups
  groupMembers := hsecond.groupMembers.trans hfirst.groupMembers

/-- Adding offline recipients of one message: nothing else changes. -/
structure AddsRecipients (messageId : UInt64) (userIds : List UInt64) (before after : Tables) :
    Prop where
  collation : after.collation = before.collation
  users : after.users = before.users
  groupMembers : after.groupMembers = before.groupMembers
  directory : SameDirectory before after
  messages : after.messages = before.messages
  nextMessageId : after.nextMessageId = before.nextMessageId
  offline : ∃ added, after.offlineMessages = before.offlineMessages ++ added ∧
    added.map (fun row => (row.userId, row.messageId)) = userIds.map fun userId =>
      (userId, messageId)
  deliveries : ∀ row ∈ before.messageDeliveries, row ∈ after.messageDeliveries
  keyed : before.Keyed → after.Keyed

theorem AddsRecipients.refl (messageId : UInt64) (tables : Tables) :
    AddsRecipients messageId [] tables tables :=
  ⟨rfl, rfl, rfl, .refl tables, rfl, rfl, ⟨[], by simp⟩, fun _ => id, id⟩

variable {messageId : UInt64}

theorem AddsRecipients.trans {first second : List UInt64} {mid : Tables}
    (hfirst : AddsRecipients messageId first before mid)
    (hsecond : AddsRecipients messageId second mid after) :
    AddsRecipients messageId (first ++ second) before after where
  collation := hsecond.collation.trans hfirst.collation
  users := hsecond.users.trans hfirst.users
  groupMembers := hsecond.groupMembers.trans hfirst.groupMembers
  directory := hfirst.directory.trans hsecond.directory
  messages := hsecond.messages.trans hfirst.messages
  nextMessageId := hsecond.nextMessageId.trans hfirst.nextMessageId
  offline := by
    obtain ⟨added, hadded, hkeys⟩ := hfirst.offline
    obtain ⟨added', hadded', hkeys'⟩ := hsecond.offline
    refine ⟨added ++ added', ?_, ?_⟩
    · rw [hadded', hadded, append_assoc]
    · rw [map_append, map_append, hkeys, hkeys']
  deliveries row hmem := hsecond.deliveries row (hfirst.deliveries row hmem)
  keyed hkeyed := hsecond.keyed (hfirst.keyed hkeyed)

variable {tables : Tables} {userId : UInt64} {createdAtMs : Int}

theorem insertOffline_addsRecipients
    (hinsert : tables.insertOffline userId messageId createdAtMs = .ok after) :
    AddsRecipients messageId [userId] tables after := by
  have hkeyed : tables.Keyed → after.Keyed := fun hkeyed => hkeyed.insertOffline hinsert
  obtain ⟨-, -, -, rfl⟩ := insertOffline_ok hinsert
  exact ⟨rfl, rfl, rfl, ⟨rfl, rfl, rfl, rfl, rfl⟩, rfl, rfl, ⟨_, rfl, by simp⟩, fun _ => id,
    hkeyed⟩

theorem upsertPending_addsRecipients (hupsert : tables.upsertPending userId messageId = .ok after) :
    AddsRecipients messageId [] tables after := by
  have hkeyed : tables.Keyed → after.Keyed := fun hkeyed => hkeyed.upsertPending hupsert
  rcases upsertPending_ok hupsert with rfl | ⟨-, rfl⟩
  · exact .refl messageId after
  · exact ⟨rfl, rfl, rfl, ⟨rfl, rfl, rfl, rfl, rfl⟩, rfl, rfl, ⟨[], by simp⟩,
      fun _ hmem => mem_append_left _ hmem, hkeyed⟩

theorem insertRecipient_addsRecipients
    (hinsert : insertRecipient messageId createdAtMs tables userId = .ok after) :
    AddsRecipients messageId [userId] tables after := by
  obtain ⟨mid, hoffline, hpending⟩ := bind_eq_ok_iff.mp hinsert
  exact (insertOffline_addsRecipients (execute_eq_ok_iff.mp hoffline)).trans
    (upsertPending_addsRecipients (execute_eq_ok_iff.mp hpending))

variable {userIds : List UInt64}

/-- The loop over the recipients adds each of them, in order. -/
theorem foldlM_insertRecipient
    (hfold : userIds.foldlM (insertRecipient messageId createdAtMs) tables = .ok after) :
    AddsRecipients messageId userIds tables after := by
  apply foldlM_ok_induction hfold (AddsRecipients messageId) (AddsRecipients.refl messageId)
  intro userId userIds before mid after hinsert hrest
  exact (insertRecipient_addsRecipients hinsert).trans hrest

/-- The recipients kept are those given, each once. -/
theorem validateOfflineRecipients_ok {unique kept : List UInt64}
    (hvalidate : validateOfflineRecipients unique userIds = .ok kept) (hnodup : unique.Nodup) :
    kept.Nodup ∧ ∀ userId, userId ∈ kept ↔ userId ∈ unique ∨ userId ∈ userIds := by
  induction userIds generalizing unique with
  | nil =>
    obtain rfl := Except.ok.inj hvalidate
    exact ⟨hnodup, by simp⟩
  | cons first rest ih =>
    rw [validateOfflineRecipients] at hvalidate
    by_cases hzero : first = 0
    · simp [hzero, error] at hvalidate
    · by_cases hmem : first ∈ unique
      · rw [if_neg hzero, if_pos hmem] at hvalidate
        obtain ⟨hkept, hiff⟩ := ih hvalidate hnodup
        refine ⟨hkept, fun userId => ?_⟩
        rw [hiff, mem_cons]
        by_cases hsame : userId = first
        · simp [hsame, hmem]
        · simp [hsame]
      · rw [if_neg hzero, if_neg hmem] at hvalidate
        have hnodup' : (unique ++ [first]).Nodup := by
          refine nodup_append.mpr ⟨hnodup, nodup_singleton first, ?_⟩
          intro other hother new hnew hsame
          rw [hsame, mem_singleton.mp hnew] at hother
          exact hmem hother
        obtain ⟨hkept, hiff⟩ := ih hvalidate hnodup'
        refine ⟨hkept, fun userId => ?_⟩
        rw [hiff, mem_append, mem_singleton, mem_cons, or_assoc]

variable {message : MessageRecord} {nowMs : Int}

theorem normalizeMessageForInsert_ok {receiverId : UInt64}
    (hnormalize : normalizeMessageForInsert nowMs message = .ok (receiverId, createdAtMs)) :
    receiverId = storedReceiver message := by
  simp only [normalizeMessageForInsert, error] at hnormalize
  split_ifs at hnormalize with hconversation hsender hreceiver hpositive
  · exact (congrArg Prod.fst (Except.ok.inj hnormalize)).symm
  · exact (congrArg Prod.fst (Except.ok.inj hnormalize)).symm

/-- Everything a successful save did: its client key was free, and it appended one
message row and the offline rows of the recipients. -/
structure Saves (message : MessageRecord) (offlineUserIds : List UInt64) (before : Tables)
    (saved : MessageRecord) (after : Tables) : Prop where
  row : ∃ row : MessageRow, saved = row.toRecord ∧ after.messages = before.messages ++ [row] ∧
    row.clientMsgId = before.nullIfEmpty message.clientMsgId
  fresh : saved.messageId.toNat = before.nextMessageId
  conversation : saved.conversation = message.conversation
  sender : saved.senderId = message.senderId
  receiver : saved.receiverId = storedReceiver message
  text : saved.text = message.text
  key_free : ∀ key, before.nullIfEmpty message.clientMsgId = some key →
    ∀ other ∈ before.messages,
      before.hasClientKey message.senderId message.clientMsgId other = false
  collation : after.collation = before.collation
  users : after.users = before.users
  groupMembers : after.groupMembers = before.groupMembers
  directory : SameDirectory before after
  offline : ∃ added, after.offlineMessages = before.offlineMessages ++ added ∧
    (added.map fun row => (row.userId, row.messageId)).Nodup ∧
    ∀ key, key ∈ (added.map fun row => (row.userId, row.messageId)) ↔
      key.1 ∈ offlineUserIds ∧ key.2 = saved.messageId
  deliveries : ∀ row ∈ before.messageDeliveries, row ∈ after.messageDeliveries
  keyed : before.Keyed → after.Keyed

variable {saved : MessageRecord}

theorem insertMessageRecordInTransaction_ok
    (hinsert : tables.insertMessageRecordInTransaction nowMs message = .ok (saved, after)) :
    Saves message [] tables saved after := by
  rw [insertMessageRecordInTransaction] at hinsert
  cases hnormalize : normalizeMessageForInsert nowMs message with
  | error => simp [hnormalize, bind, Except.bind] at hinsert
  | ok normalized =>
    obtain ⟨receiverId, createdAtMs⟩ := normalized
    simp only [hnormalize, bind, Except.bind] at hinsert
    cases hrow : tables.insertMessage message.conversation message.senderId receiverId
        message.text createdAtMs message.clientMsgId with
    | error reason =>
      rw [hrow] at hinsert
      by_cases hduplicate : message.clientMsgId ≠ [] ∧ reason = .duplicateEntry
      · simp [hduplicate, error] at hinsert
      · simp [hduplicate] at hinsert
    | ok inserted =>
      obtain ⟨row, tables'⟩ := inserted
      simp only [hrow, Except.ok.injEq, Prod.mk.injEq] at hinsert
      obtain ⟨rfl, rfl⟩ := hinsert
      have hkeyed : tables.Keyed → tables'.Keyed := fun hkeyed => hkeyed.insertMessage hrow
      obtain ⟨hcounter, -, hfree, hshape, hafter⟩ := insertMessage_ok hrow
      have hreceiver := normalizeMessageForInsert_ok hnormalize
      refine ⟨⟨row, rfl, ?_, ?_⟩, ?_, ?_, ?_, ?_, ?_, hfree, ?_, ?_, ?_, ?_, ⟨[], ?_⟩, ?_,
        hkeyed⟩
      · rw [hafter]
      · rw [hshape]
      · rw [hshape]
        exact UInt64.toNat_ofNat_of_lt hcounter
      · rw [hshape]
        rfl
      · rw [hshape]
        rfl
      · rw [hshape, ← hreceiver]
        rfl
      · rw [hshape]
        rfl
      · rw [hafter]
      · rw [hafter]
      · rw [hafter]
      · rw [hafter]
        exact ⟨rfl, rfl, rfl, rfl, rfl⟩
      · rw [hafter]
        simp
      · rw [hafter]
        exact fun _ => id

variable {offlineUserIds : List UInt64}

/-- The steps of a save. -/
theorem saveMessageWithOfflineRecipients_steps
    (hsave : tables.saveMessageWithOfflineRecipients nowMs message offlineUserIds =
      .ok (saved, after)) : ∃ unique mid, validateOfflineRecipients [] offlineUserIds = .ok unique ∧
      tables.insertMessageRecordInTransaction nowMs message = .ok (saved, mid) ∧
      unique.foldlM (insertRecipient saved.messageId nowMs) mid = .ok after := by
  obtain ⟨unique, hvalidate, hsave⟩ := bind_eq_ok_iff.mp hsave
  obtain ⟨⟨inserted, mid⟩, hinsert, hsave⟩ := bind_eq_ok_iff.mp hsave
  obtain ⟨final, hfold, hsave⟩ := bind_eq_ok_iff.mp hsave
  cases hsave
  exact ⟨unique, mid, hvalidate, hinsert, hfold⟩

theorem saveMessageWithOfflineRecipients_ok
    (hsave : tables.saveMessageWithOfflineRecipients nowMs message offlineUserIds =
      .ok (saved, after)) : Saves message offlineUserIds tables saved after := by
  obtain ⟨unique, mid, hvalidate, hinsert, hfold⟩ := saveMessageWithOfflineRecipients_steps hsave
  obtain ⟨hnodup, hunique⟩ := validateOfflineRecipients_ok hvalidate nodup_nil
  have hmessage := insertMessageRecordInTransaction_ok hinsert
  have hrecipients := foldlM_insertRecipient hfold
  obtain ⟨row, hsaved, hrow, hkey⟩ := hmessage.row
  obtain ⟨none, hnone, -, hempty⟩ := hmessage.offline
  obtain ⟨added, hadded, hkeys⟩ := hrecipients.offline
  have hnothing : none = [] := by
    cases none with
    | nil => rfl
    | cons first =>
      have := (hempty (first.userId, first.messageId)).mp (by simp)
      simp at this
  refine ⟨⟨row, hsaved, ?_, hkey⟩, hmessage.fresh, hmessage.conversation,
    hmessage.sender, hmessage.receiver, hmessage.text, hmessage.key_free, ?_, ?_, ?_,
    hmessage.directory.trans hrecipients.directory, ⟨added, ?_, ?_, ?_⟩, ?_, ?_⟩
  · rw [hrecipients.messages, hrow]
  · rw [hrecipients.collation, hmessage.collation]
  · rw [hrecipients.users, hmessage.users]
  · rw [hrecipients.groupMembers, hmessage.groupMembers]
  · rw [hadded, hnone, hnothing, append_nil]
  · rw [hkeys]
    exact hnodup.map fun first second heq => congrArg Prod.fst heq
  · intro key
    obtain ⟨userId, messageId⟩ := key
    simp [hkeys, hunique, and_comm, eq_comm]
  · exact fun row hmem => hrecipients.deliveries row (hmessage.deliveries row hmem)
  · exact fun hkeyed => hrecipients.keyed (hmessage.keyed hkeyed)

/-- A fallback row is inserted only where there was none. -/
theorem saveOfflineMessage_ok
    (hsave : tables.saveOfflineMessage nowMs userId messageId = .ok after) :
    tables.hasOffline userId messageId = false ∧
      AddsRecipients messageId [userId] tables after := by
  simp only [saveOfflineMessage, error] at hsave
  split_ifs at hsave with huser hmessage
  cases hinsert : tables.insertOffline userId messageId nowMs with
  | error reason => cases reason <;> simp [hinsert] at hsave
  | ok =>
    simp only [hinsert] at hsave
    exact ⟨(insertOffline_ok hinsert).1, (insertOffline_addsRecipients hinsert).trans
      (upsertPending_addsRecipients (execute_eq_ok_iff.mp hsave))⟩

/-- `AlreadyExists` is reported only for a row that is there. -/
theorem saveOfflineMessage_alreadyExists {status : Error}
    (hsave : tables.saveOfflineMessage nowMs userId messageId = .error status)
    (hcode : status.code = .alreadyExists) : tables.hasOffline userId messageId = true := by
  simp only [saveOfflineMessage, error] at hsave
  split_ifs at hsave with huser hmessage
  · rw [← Except.error.inj hsave] at hcode
    cases hcode
  · rw [← Except.error.inj hsave] at hcode
    cases hcode
  · cases hinsert : tables.insertOffline userId messageId nowMs with
    | error reason =>
      cases reason with
      | duplicateEntry => exact insertOffline_duplicate hinsert
      | foreignKey | autoIncrement =>
        simp only [hinsert, Except.error.injEq] at hsave
        rw [← hsave] at hcode
        cases hcode
    | ok mid =>
      simp only [hinsert] at hsave
      cases hupsert : mid.upsertPending userId messageId with
      | error reason =>
        simp only [hupsert, execute, Except.error.injEq] at hsave
        rw [← hsave] at hcode
        cases reason <;> cases hcode
      | ok => simp [hupsert, execute] at hsave

theorem AddsRecipients.hasOffline (hadds : AddsRecipients messageId [userId] before after) :
    after.hasOffline userId messageId = true := by
  obtain ⟨added, hadded, hkeys⟩ := hadds.offline
  have hmem : (userId, messageId) ∈ added.map fun row => (row.userId, row.messageId) := by
    simp [hkeys]
  obtain ⟨row, hrow, hkey⟩ := mem_map.mp hmem
  simp only [Prod.mk.injEq] at hkey
  exact hasOffline_iff.mpr ⟨row, by simp [hadded, hrow], hkey⟩

theorem Saves.hasOffline (hsaves : Saves message offlineUserIds before saved after)
    (hmem : userId ∈ offlineUserIds) : after.hasOffline userId saved.messageId = true := by
  obtain ⟨added, hadded, -, hkeys⟩ := hsaves.offline
  obtain ⟨row, hrow, hkey⟩ := mem_map.mp ((hkeys (userId, saved.messageId)).mpr ⟨hmem, rfl⟩)
  simp only [Prod.mk.injEq] at hkey
  exact hasOffline_iff.mpr ⟨row, by simp [hadded, hrow], hkey⟩

theorem AddsRecipients.offlineKeys_eq (hadds : AddsRecipients messageId userIds before after) :
    after.offlineKeys = before.offlineKeys ++ userIds.map fun userId => (userId, messageId) := by
  obtain ⟨added, hadded, hkeys⟩ := hadds.offline
  rw [offlineKeys, offlineKeys, hadded, map_append, hkeys]

/-- The offline rows of a save are those of its recipients, each once. -/
theorem Saves.offlineKeys_eq (hsaves : Saves message offlineUserIds before saved after) :
    ∃ added, after.offlineKeys = before.offlineKeys ++ added ∧
      (offlineUserIds.Nodup → added.Perm (offlineUserIds.map fun userId =>
        (userId, saved.messageId))) ∧
      ∀ key ∈ added, key.1 ∈ offlineUserIds ∧ key.2 = saved.messageId := by
  obtain ⟨rows, hrows, hnodup, hkeys⟩ := hsaves.offline
  refine ⟨rows.map fun row => (row.userId, row.messageId), ?_, ?_, fun key => (hkeys key).mp⟩
  · rw [offlineKeys, offlineKeys, hrows, map_append]
  · intro hdistinct
    have hmap : (offlineUserIds.map fun userId => (userId, saved.messageId)).Nodup :=
      hdistinct.map fun first second hsame => congrArg Prod.fst hsame
    apply (perm_ext_iff_of_nodup hnodup hmap).mpr
    intro key
    obtain ⟨userId, messageId⟩ := key
    rw [hkeys]
    simp [eq_comm]

/-- A new message waits for the recipients it was saved with, and for nobody else. -/
theorem Saves.waits_iff (hsaves : Saves message offlineUserIds before saved after)
    (hkeyed : before.Keyed) :
    after.hasOffline userId saved.messageId = true ↔ userId ∈ offlineUserIds := by
  refine ⟨fun hoffline => ?_, hsaves.hasOffline⟩
  obtain ⟨added, hadded, -, hkeys⟩ := hsaves.offlineKeys_eq
  rw [← mem_offlineKeys, hadded] at hoffline
  rcases mem_append.mp hoffline with hold | hnew
  · -- The message id is new, and offline rows refer to stored messages.
    obtain ⟨row, hmem, -, hid⟩ := hasOffline_iff.mp (mem_offlineKeys.mp hold)
    obtain ⟨stored, hstored, hsame⟩ := hasMessage_iff.mp (hkeyed.offline_message row hmem)
    have hlt := hkeyed.message_lt stored hstored
    rw [hsame, hid, hsaves.fresh] at hlt
    exact (Nat.lt_irrefl _ hlt).elim
  · exact (hkeys _ hnew).1

/-- The message found by a client id is a stored one with that client key. -/
theorem findMessageByClientMessageId_ok {senderId : UInt64} {clientMsgId : Bytes}
    {found : MessageRecord}
    (hfind : tables.findMessageByClientMessageId senderId clientMsgId = .ok found) :
    ∃ row ∈ tables.messages, found = row.toRecord ∧
      tables.hasClientKey senderId clientMsgId row = true := by
  simp only [findMessageByClientMessageId, error] at hfind
  split_ifs at hfind with hsender hempty
  cases hrow : tables.messages.find? (tables.hasClientKey senderId clientMsgId) with
  | none => simp [hrow] at hfind
  | some row =>
    simp only [hrow, Except.ok.injEq] at hfind
    exact ⟨row, mem_of_find?_eq_some hrow, hfind.symm, find?_some hrow⟩

/-- The user has confirmed the message. -/
def Delivered (tables : Tables) (userId messageId : UInt64) : Prop :=
  ∃ row ∈ tables.messageDeliveries, row.messageId = messageId ∧ row.userId = userId ∧
    (row.status = .kDelivered ∨ row.status = .kReadReserved)

theorem findDeliveryStatus_ok {status : DeliveryStatus}
    (hfind : tables.findDeliveryStatus userId messageId = .ok status) :
    ∃ row ∈ tables.messageDeliveries, row.messageId = messageId ∧ row.userId = userId ∧
      row.status = status := by
  simp only [findDeliveryStatus, error] at hfind
  split_ifs at hfind with huser hmessage
  cases hrow : tables.messageDeliveries.find? fun row =>
      decide (row.messageId = messageId ∧ row.userId = userId) with
  | none => simp only [hrow, reduceCtorEq] at hfind
  | some row =>
    simp only [hrow, Except.ok.injEq] at hfind
    have hkey := find?_some hrow
    simp only [decide_eq_true_eq] at hkey
    exact ⟨row, mem_of_find?_eq_some hrow, hkey.1, hkey.2, hfind⟩

/-! ## What stays -/

/-- Whatever transactions run in between: messages stay, offline rows keep their
keys, and a confirmed delivery stays confirmed. -/
structure Later (before after : Tables) : Prop where
  collation : after.collation = before.collation
  messages : ∀ row ∈ before.messages, row ∈ after.messages
  offline : ∀ userId messageId, before.hasOffline userId messageId = true →
    after.hasOffline userId messageId = true
  delivered : ∀ userId messageId, before.Delivered userId messageId →
    after.Delivered userId messageId

theorem Later.refl (tables : Tables) : Later tables tables :=
  ⟨rfl, fun _ => id, fun _ _ => id, fun _ _ => id⟩

theorem Later.trans {first second third : Tables} (hfirst : Later first second)
    (hsecond : Later second third) : Later first third where
  collation := hsecond.collation.trans hfirst.collation
  messages row hmem := hsecond.messages row (hfirst.messages row hmem)
  offline userId messageId hrow :=
    hsecond.offline userId messageId (hfirst.offline userId messageId hrow)
  delivered userId messageId hrow :=
    hsecond.delivered userId messageId (hfirst.delivered userId messageId hrow)

theorem hasOffline_of_append {added : List OfflineRow}
    (hadded : after.offlineMessages = before.offlineMessages ++ added)
    (hrow : before.hasOffline userId messageId = true) :
    after.hasOffline userId messageId = true := by
  obtain ⟨row, hmem, hkey⟩ := hasOffline_iff.mp hrow
  exact hasOffline_iff.mpr ⟨row, by simp [hadded, hmem], hkey⟩

theorem Delivered.of_subset
    (hsubset : ∀ row ∈ before.messageDeliveries, row ∈ after.messageDeliveries)
    (hrow : before.Delivered userId messageId) : after.Delivered userId messageId := by
  obtain ⟨row, hmem, hkey⟩ := hrow
  exact ⟨row, hsubset row hmem, hkey⟩

theorem Saves.later (hsaves : Saves message offlineUserIds before saved after) :
    Later before after where
  collation := hsaves.collation
  messages row hmem := by
    obtain ⟨new, -, happend, -⟩ := hsaves.row
    rw [happend]
    exact mem_append_left _ hmem
  offline userId messageId hrow := by
    obtain ⟨added, hadded, -⟩ := hsaves.offline
    exact hasOffline_of_append hadded hrow
  delivered userId messageId hrow := hrow.of_subset hsaves.deliveries

theorem AddsRecipients.later (hadds : AddsRecipients messageId userIds before after) :
    Later before after where
  collation := hadds.collation
  messages row hmem := by rwa [hadds.messages]
  offline userId messageId hrow := by
    obtain ⟨added, hadded, -⟩ := hadds.offline
    exact hasOffline_of_append hadded hrow
  delivered userId messageId hrow := hrow.of_subset hadds.deliveries

end Tables

/-! ## Databases -/

/-- Tables that satisfy the constraints of the schema. -/
abbrev Database := { tables : Tables // tables.Keyed }

namespace Database

/-- Run a transaction: an error leaves the database as it was. -/
def transact {α : Type} (database : Database) (body : Tables → Except Error (α × Tables))
    (keeps : ∀ tables after value, tables.Keyed → body tables = .ok (value, after) →
      after.Keyed) : Except Error α × Database :=
  match hresult : body database.1 with
  | .ok (value, after) => (.ok value, ⟨after, keeps database.1 after value database.2 hresult⟩)
  | .error status => (.error status, database)

/-- A transaction that succeeds carries the database to what its body computed. -/
theorem transact_cases {α : Type} (database : Database) (body : Tables → Except Error (α × Tables))
    (keeps : ∀ tables after value, tables.Keyed → body tables = .ok (value, after) →
      after.Keyed) :
    (∃ value after, body database.1 = .ok (value, after.1) ∧
      database.transact body keeps = (.ok value, after)) ∨
    (∃ status, body database.1 = .error status ∧
      database.transact body keeps = (.error status, database)) := by
  rw [transact]
  split
  · next value after hbody => exact Or.inl ⟨value, ⟨after, _⟩, hbody, rfl⟩
  · next status hbody => exact Or.inr ⟨status, hbody, rfl⟩

/-- A call did what it is for and answered a value, or it failed and did nothing. -/
def AllOrNothing {α : Type} (database : Database) (result : Except Error α × Database)
    (did : α → Tables → Prop) : Prop :=
  (∃ value after, result = (.ok value, after) ∧ did value after.1) ∨
    ∃ status, result = (.error status, database)

/-- A transaction does what its body's specification says, or nothing. -/
theorem transact_spec {α : Type} {database : Database} {body : Tables → Except Error (α × Tables)}
    {keeps : ∀ tables after value, tables.Keyed → body tables = .ok (value, after) →
      after.Keyed} {spec : α → Tables → Prop}
    (hspec : ∀ value after, body database.1 = .ok (value, after) → spec value after) :
    AllOrNothing database (database.transact body keeps) spec := by
  rcases transact_cases database body keeps with
    ⟨value, after, hbody, hresult⟩ | ⟨status, -, hresult⟩
  · exact Or.inl ⟨value, after, hresult, hspec value after.1 hbody⟩
  · exact Or.inr ⟨status, hresult⟩

def saveMessageWithOfflineRecipients (database : Database) (nowMs : Int)
    (message : MessageRecord) (offlineUserIds : List UInt64) :
    Except Error MessageRecord × Database :=
  database.transact
    (fun tables => tables.saveMessageWithOfflineRecipients nowMs message offlineUserIds)
    fun _ _ _ hkeyed hsave => (Tables.saveMessageWithOfflineRecipients_ok hsave).keyed hkeyed

def saveOfflineMessage (database : Database) (nowMs : Int) (userId messageId : UInt64) :
    Except Error Unit × Database :=
  database.transact
    (fun tables => (tables.saveOfflineMessage nowMs userId messageId).map ((), ·))
    fun tables after _ hkeyed hsave => by
      cases hresult : tables.saveOfflineMessage nowMs userId messageId with
      | error => simp [hresult, Except.map] at hsave
      | ok =>
        simp only [hresult, Except.map, Except.ok.injEq, Prod.mk.injEq, true_and] at hsave
        exact hsave ▸ (Tables.saveOfflineMessage_ok hresult).2.keyed hkeyed

/-- A save does what `Saves` says, or nothing. -/
theorem saveMessageWithOfflineRecipients_cases (database : Database) (nowMs : Int)
    (message : MessageRecord) (offlineUserIds : List UInt64) :
    AllOrNothing database
      (database.saveMessageWithOfflineRecipients nowMs message offlineUserIds)
      (Tables.Saves message offlineUserIds database.1) :=
  transact_spec fun _ _ => Tables.saveMessageWithOfflineRecipients_ok

/-- A fallback save adds the row, finds it there, or fails otherwise. -/
theorem saveOfflineMessage_cases (database : Database) (nowMs : Int) (userId messageId : UInt64) :
    (∃ after, database.saveOfflineMessage nowMs userId messageId = (.ok (), after) ∧
      database.1.hasOffline userId messageId = false ∧
      Tables.AddsRecipients messageId [userId] database.1 after.1) ∨
    ∃ status, database.saveOfflineMessage nowMs userId messageId = (.error status, database) ∧
      (status.code = .alreadyExists → database.1.hasOffline userId messageId = true) := by
  rcases transact_cases database
    (fun tables => (tables.saveOfflineMessage nowMs userId messageId).map ((), ·)) _
    with ⟨value, after, hbody, hresult⟩ | ⟨status, hbody, hresult⟩
  · cases hsave : database.1.saveOfflineMessage nowMs userId messageId with
    | error => simp [hsave, Except.map] at hbody
    | ok =>
      simp only [hsave, Except.map, Except.ok.injEq, Prod.mk.injEq, true_and] at hbody
      obtain ⟨hfree, hadds⟩ := Tables.saveOfflineMessage_ok hsave
      exact Or.inl ⟨after, hresult, hfree, hbody ▸ hadds⟩
  · cases hsave : database.1.saveOfflineMessage nowMs userId messageId with
    | error =>
      simp only [hsave, Except.map, Except.error.injEq] at hbody
      exact Or.inr ⟨status, hresult, fun hcode =>
        Tables.saveOfflineMessage_alreadyExists (hbody ▸ hsave) hcode⟩
    | ok => simp [hsave, Except.map] at hbody

end Database

end LiteIM
