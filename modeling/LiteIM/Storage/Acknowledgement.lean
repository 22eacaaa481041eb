/-
# Acknowledged messages

What a user has yet to confirm stands in `offline_messages`, and what was confirmed
in `message_deliveries`. A pull reads the rows that are not delivered. An
acknowledgement of pulled messages marks their offline rows and records the
deliveries; an acknowledgement of a pushed message records the delivery only.

`Acknowledges` is what both do to the tables: no row loses its key, no delivery
falls back, and only deliveries of the acknowledging user come up.
-/

import LiteIM.Storage.MySqlStorage

namespace LiteIM

open Foundation DeliveryStatus Status List

/-- `GREATEST(first, second)`. -/
def DeliveryStatus.greatest (first second : DeliveryStatus) : DeliveryStatus :=
  if first.toNat ≤ second.toNat then second else first

/-- `IF(first > second, first, second)`. -/
def DeliveryStatus.ifGreater (first second : DeliveryStatus) : DeliveryStatus :=
  if first.toNat > second.toNat then first else second

/-- `SET delivered = 1, delivered_at_ms = COALESCE(delivered_at_ms, ?)`. -/
def OfflineRow.markDelivered (row : OfflineRow) (deliveredAtMs : Int) : OfflineRow :=
  { row with delivered := true, deliveredAtMs := row.deliveredAtMs.or (some deliveredAtMs) }

/-- `UPDATE status = …, delivered_at_ms = COALESCE(delivered_at_ms, VALUES(delivered_at_ms))`;
the two callers write the new status in two ways. -/
def DeliveryRow.confirm (newStatus : DeliveryStatus → DeliveryStatus → DeliveryStatus)
    (row : DeliveryRow) (deliveredAtMs : Int) : DeliveryRow :=
  { row with
    status := newStatus row.status .kDelivered
    deliveredAtMs := row.deliveredAtMs.or (some deliveredAtMs) }

namespace Tables

/-! ## Statements -/

/-- `UPDATE offline_messages SET … WHERE user_id = ? AND message_id = ?`. -/
def updateOffline (tables : Tables) (userId messageId : UInt64) (deliveredAtMs : Int) : Tables :=
  { tables with
    offlineMessages := tables.offlineMessages.map fun row =>
      if row.userId = userId ∧ row.messageId = messageId then row.markDelivered deliveredAtMs
      else row }

/-- `INSERT INTO message_deliveries … VALUES (?, ?, 2, NULL, ?, NULL) ON DUPLICATE KEY
UPDATE …`. -/
def upsertDelivered (newStatus : DeliveryStatus → DeliveryStatus → DeliveryStatus)
    (tables : Tables) (userId messageId : UInt64) (deliveredAtMs : Int) : Except SqlError Tables :=
  if tables.messageDeliveries.any fun row => row.messageId = messageId ∧ row.userId = userId then
    .ok { tables with
      messageDeliveries := tables.messageDeliveries.map fun row =>
        if row.messageId = messageId ∧ row.userId = userId then row.confirm newStatus deliveredAtMs
        else row }
  else if tables.hasMessage messageId = false ∨ tables.hasUser userId = false then
    .error .foreignKey
  else
    .ok { tables with
      messageDeliveries := tables.messageDeliveries ++
        [{ messageId, userId, status := .kDelivered, deliveredAtMs := some deliveredAtMs }] }

/-- An offline row joined with its message. -/
def joinOffline (tables : Tables) (row : OfflineRow) : Option OfflineMessageRecord :=
  (tables.messages.find? fun message => message.messageId = row.messageId).map fun message =>
    { offlineMessageId := row.offlineMessageId, userId := row.userId,
      message := message.toRecord, createdAtMs := row.createdAtMs }

/-! ## Calls -/

def getOfflineMessages (tables : Tables) (userId : UInt64) (limit : Nat) :
    Except Error (List OfflineMessageRecord) :=
  if userId = 0 then error .invalidArgument "user_id is invalid"
  else if limit = 0 then
    error .invalidArgument "offline message limit must be positive"
  else
    .ok (((tables.offlineMessages.filter fun row =>
      row.userId = userId ∧ row.delivered = false).filterMap tables.joinOffline).take limit)

/-- The loop of `validateMessageIds`, with the ids kept so far. -/
def validateMessageIds (unique : List UInt64) : List UInt64 → Except Error (List UInt64)
  | [] => .ok unique
  | messageId :: rest =>
    if messageId = 0 then error .invalidArgument "message_id is invalid"
    else if messageId ∈ unique then validateMessageIds unique rest
    else validateMessageIds (unique ++ [messageId]) rest

def fetchOfflineMessageForAck (tables : Tables) (userId messageId : UInt64) :
    Except Error OfflineMessageRecord :=
  match (tables.offlineMessages.filter fun row =>
      row.userId = userId ∧ row.messageId = messageId).filterMap tables.joinOffline with
  | [] => error .notFound "offline message was not found"
  | [record] => .ok record
  | _ => error .internalError "offline message ack query returned multiple rows"

def markOfflineDeliveredInTransaction (tables : Tables) (userId : UInt64)
    (messageIds : List UInt64) (deliveredAtMs : Int) : Tables :=
  messageIds.foldl (fun tables messageId => tables.updateOffline userId messageId deliveredAtMs)
    tables

def upsertDeliveriesDelivered (tables : Tables) (userId : UInt64) (messageIds : List UInt64)
    (deliveredAtMs : Int) : Except Error Tables :=
  messageIds.foldlM (fun tables messageId => execute
    (tables.upsertDelivered greatest userId messageId deliveredAtMs)) tables

def ackOfflineMessages (tables : Tables) (nowMs : Int) (userId : UInt64)
    (messageIds : List UInt64) : Except Error (List OfflineMessageRecord × Tables) :=
  if messageIds = [] then .ok ([], tables)
  else if userId = 0 then error .invalidArgument "user_id is invalid"
  else do
    let unique ← validateMessageIds [] messageIds
    let records ← unique.mapM (tables.fetchOfflineMessageForAck userId)
    let tables := tables.markOfflineDeliveredInTransaction userId unique nowMs
    let tables ← tables.upsertDeliveriesDelivered userId unique nowMs
    .ok (records, tables)

def queryMessageById (tables : Tables) (messageId : UInt64) : Except Error MessageRecord :=
  if messageId = 0 then error .invalidArgument "message id must not be zero"
  else
    match tables.messages.find? fun row => row.messageId = messageId with
    | some row => .ok row.toRecord
    | none => error .notFound "message was not found"

def ackPrivateMessageDelivery (tables : Tables) (nowMs : Int) (userId messageId : UInt64) :
    Except Error (MessageRecord × Tables) :=
  if userId = 0 then error .invalidArgument "user id must not be zero"
  else if messageId = 0 then error .invalidArgument "message id must not be zero"
  else do
    let found ← tables.queryMessageById messageId
    if found.conversation.type ≠ .kPrivate ∨ found.receiverId ≠ userId then
      error .notFound "private message delivery target was not found"
    else do
      let tables ← execute
        (tables.upsertDelivered ifGreater userId messageId nowMs)
      .ok (found, tables)

end Tables

/-! ## Deliveries only go forward -/

/-- The two ways of writing the new status agree. -/
theorem DeliveryStatus.ifGreater_eq_greatest : ifGreater = greatest := by
  funext first second
  by_cases hle : first.toNat ≤ second.toNat
  · rw [ifGreater, greatest, if_pos hle, if_neg (Nat.not_lt.mpr hle)]
  · rw [ifGreater, greatest, if_neg hle, if_pos (Nat.lt_of_not_le hle)]

theorem DeliveryStatus.toNat_greatest (first second : DeliveryStatus) :
    (greatest first second).toNat = max first.toNat second.toNat := by
  by_cases hle : first.toNat ≤ second.toNat
  · rw [greatest, if_pos hle, Nat.max_eq_right hle]
  · rw [greatest, if_neg hle, Nat.max_eq_left (Nat.le_of_not_le hle)]

theorem DeliveryStatus.delivered_iff {status : DeliveryStatus} :
    (status = .kDelivered ∨ status = .kReadReserved) ↔ kDelivered.toNat ≤
      status.toNat := by
  cases status <;> decide

/-- What may become of a row of `message_deliveries`. -/
structure DeliveryRow.Later (before after : DeliveryRow) : Prop where
  messageId : after.messageId = before.messageId
  userId : after.userId = before.userId
  status : before.status.toNat ≤ after.status.toNat
  deliveredAtMs : ∀ time, before.deliveredAtMs = some time → after.deliveredAtMs = some time

theorem DeliveryRow.Later.refl (row : DeliveryRow) : row.Later row :=
  ⟨rfl, rfl, Nat.le_refl _, fun _ => id⟩

theorem DeliveryRow.Later.trans {first second third : DeliveryRow} (hfirst : first.Later second)
    (hsecond : second.Later third) : first.Later third where
  messageId := hsecond.messageId.trans hfirst.messageId
  userId := hsecond.userId.trans hfirst.userId
  status := Nat.le_trans hfirst.status hsecond.status
  deliveredAtMs time htime := hsecond.deliveredAtMs time (hfirst.deliveredAtMs time htime)

theorem DeliveryRow.later_confirm (row : DeliveryRow) (deliveredAtMs : Int) :
    row.Later (row.confirm .greatest deliveredAtMs) where
  messageId := rfl
  userId := rfl
  status := by
    rw [confirm, toNat_greatest]
    exact Nat.le_max_left _ _
  deliveredAtMs time htime := by simp [confirm, htime]

theorem DeliveryRow.delivered_confirm (row : DeliveryRow) (deliveredAtMs : Int) :
    (row.confirm .greatest deliveredAtMs).status = .kDelivered ∨
      (row.confirm .greatest deliveredAtMs).status = .kReadReserved := by
  rw [delivered_iff, confirm, toNat_greatest]
  exact Nat.le_max_right _ _

/-- An offline row as the `UPDATE` leaves it. -/
structure OfflineRow.Later (before after : OfflineRow) : Prop where
  offlineMessageId : after.offlineMessageId = before.offlineMessageId
  userId : after.userId = before.userId
  messageId : after.messageId = before.messageId
  delivered : before.delivered = true → after.delivered = true

theorem OfflineRow.Later.refl (row : OfflineRow) : row.Later row := ⟨rfl, rfl, rfl, id⟩

theorem OfflineRow.Later.trans {first second third : OfflineRow} (hfirst : first.Later second)
    (hsecond : second.Later third) : first.Later third where
  offlineMessageId := hsecond.offlineMessageId.trans hfirst.offlineMessageId
  userId := hsecond.userId.trans hfirst.userId
  messageId := hsecond.messageId.trans hfirst.messageId
  delivered hdelivered := hsecond.delivered (hfirst.delivered hdelivered)

theorem OfflineRow.later_markDelivered (row : OfflineRow) (deliveredAtMs : Int) :
    row.Later (row.markDelivered deliveredAtMs) := ⟨rfl, rfl, rfl, fun _ => rfl⟩

namespace Tables

/-- What an acknowledgement by `userId` of `messageIds` may change: offline rows may
become delivered, and the deliveries of these messages to this user are confirmed. -/
structure Acknowledges (userId : UInt64) (messageIds : List UInt64) (before after : Tables) :
    Prop where
  collation : after.collation = before.collation
  users : after.users = before.users
  friendRequests : after.friendRequests = before.friendRequests
  friendships : after.friendships = before.friendships
  chatGroups : after.chatGroups = before.chatGroups
  groupMembers : after.groupMembers = before.groupMembers
  messages : after.messages = before.messages
  nextMessageId : after.nextMessageId = before.nextMessageId
  offline : ∃ mark : OfflineRow → OfflineRow,
    after.offlineMessages = before.offlineMessages.map mark ∧
      ∀ row : OfflineRow, row.Later (mark row)
  deliveries : ∀ row ∈ before.messageDeliveries, ∃ later ∈ after.messageDeliveries,
    row.Later later
  confirmed : ∀ row ∈ after.messageDeliveries, row ∈ before.messageDeliveries ∨
    (row.userId = userId ∧ row.messageId ∈ messageIds)
  delivered : ∀ messageId ∈ messageIds, after.Delivered userId messageId
  keyed : before.Keyed → after.Keyed

variable {userId messageId : UInt64} {after before : Tables}

theorem Delivered.of_later
    (hlater : ∀ row ∈ before.messageDeliveries, ∃ later ∈ after.messageDeliveries, row.Later later)
    (hdelivered : before.Delivered userId messageId) : after.Delivered userId messageId := by
  obtain ⟨row, hmem, hmessage, huser, hstatus⟩ := hdelivered
  obtain ⟨later, hmem', hrow⟩ := hlater row hmem
  refine ⟨later, hmem', hrow.messageId.trans hmessage, hrow.userId.trans huser, ?_⟩
  rw [delivered_iff] at hstatus ⊢
  exact Nat.le_trans hstatus hrow.status

theorem Acknowledges.refl (userId : UInt64) (tables : Tables) :
    Acknowledges userId [] tables tables where
  collation := rfl
  users := rfl
  friendRequests := rfl
  friendships := rfl
  chatGroups := rfl
  groupMembers := rfl
  messages := rfl
  nextMessageId := rfl
  offline := ⟨id, by simp, OfflineRow.Later.refl⟩
  deliveries row hmem := ⟨row, hmem, .refl row⟩
  confirmed _ := Or.inl
  delivered := by simp
  keyed := id

theorem Acknowledges.trans {first second : List UInt64} {mid : Tables}
    (hfirst : Acknowledges userId first before mid)
    (hsecond : Acknowledges userId second mid after) :
    Acknowledges userId (first ++ second) before after where
  collation := hsecond.collation.trans hfirst.collation
  users := hsecond.users.trans hfirst.users
  friendRequests := hsecond.friendRequests.trans hfirst.friendRequests
  friendships := hsecond.friendships.trans hfirst.friendships
  chatGroups := hsecond.chatGroups.trans hfirst.chatGroups
  groupMembers := hsecond.groupMembers.trans hfirst.groupMembers
  messages := hsecond.messages.trans hfirst.messages
  nextMessageId := hsecond.nextMessageId.trans hfirst.nextMessageId
  offline := by
    obtain ⟨mark, hmark, hrow⟩ := hfirst.offline
    obtain ⟨mark', hmark', hrow'⟩ := hsecond.offline
    refine ⟨mark' ∘ mark, by rw [hmark', hmark, map_map], fun row => ?_⟩
    exact (hrow row).trans (hrow' (mark row))
  deliveries row hmem := by
    obtain ⟨later, hlater, hrow⟩ := hfirst.deliveries row hmem
    obtain ⟨latest, hlatest, hrow'⟩ := hsecond.deliveries later hlater
    exact ⟨latest, hlatest, hrow.trans hrow'⟩
  confirmed row hmem := by
    rcases hsecond.confirmed row hmem with hmid | ⟨huser, hmessage⟩
    · rcases hfirst.confirmed row hmid with hold | ⟨huser, hmessage⟩
      · exact Or.inl hold
      · exact Or.inr ⟨huser, mem_append_left _ hmessage⟩
    · exact Or.inr ⟨huser, mem_append_right _ hmessage⟩
  delivered messageId hmem := by
    rcases mem_append.mp hmem with hmem | hmem
    · exact (hfirst.delivered messageId hmem).of_later hsecond.deliveries
    · exact hsecond.delivered messageId hmem
  keyed hkeyed := hsecond.keyed (hfirst.keyed hkeyed)

variable {messageIds : List UInt64}

theorem Acknowledges.directory (hacks : Acknowledges userId messageIds before after) :
    SameDirectory before after :=
  ⟨hacks.users, hacks.friendRequests, hacks.friendships, hacks.chatGroups, hacks.groupMembers⟩

/-- Only which messages are acknowledged matters. -/
theorem Acknowledges.congr {first second : List UInt64}
    (hacks : Acknowledges userId first before after)
    (hsame : ∀ messageId, messageId ∈ first ↔ messageId ∈ second) :
    Acknowledges userId second before after where
  __ := hacks
  confirmed row hmem := by simpa only [hsame] using hacks.confirmed row hmem
  delivered messageId hmem := hacks.delivered messageId ((hsame messageId).mpr hmem)

theorem offlineKeys_eq_of_marked {mark : OfflineRow → OfflineRow}
    (hmark : after.offlineMessages = before.offlineMessages.map mark)
    (hlater : ∀ row : OfflineRow, row.Later (mark row)) :
    after.offlineKeys = before.offlineKeys := by
  rw [offlineKeys, offlineKeys, hmark, map_map]
  apply map_congr_left
  intro row _
  simp [(hlater row).userId, (hlater row).messageId]

theorem Acknowledges.later (hacks : Acknowledges userId messageIds before after) :
    Later before after where
  collation := hacks.collation
  messages row hmem := by rwa [hacks.messages]
  offline userId messageId hrow := by
    obtain ⟨mark, hmark, hlater⟩ := hacks.offline
    rwa [← mem_offlineKeys, offlineKeys_eq_of_marked hmark hlater, mem_offlineKeys]
  delivered _ _ hdelivered := hdelivered.of_later hacks.deliveries

/-- What adds neither messages nor offline rows. -/
structure KeepsMessages (before after : Tables) : Prop where
  later : Later before after
  messages : after.messages = before.messages
  nextMessageId : after.nextMessageId = before.nextMessageId
  offline : ∃ mark : OfflineRow → OfflineRow,
    after.offlineMessages = before.offlineMessages.map mark ∧
      ∀ row : OfflineRow, row.Later (mark row)

theorem KeepsMessages.refl (tables : Tables) : KeepsMessages tables tables :=
  ⟨.refl tables, rfl, rfl, id, by simp, OfflineRow.Later.refl⟩

theorem KeepsMessages.offlineKeys (hkeeps : KeepsMessages before after) :
    after.offlineKeys = before.offlineKeys := by
  obtain ⟨mark, hmark, hlater⟩ := hkeeps.offline
  exact offlineKeys_eq_of_marked hmark hlater

theorem Acknowledges.keepsMessages (hacks : Acknowledges userId messageIds before after) :
    KeepsMessages before after :=
  ⟨hacks.later, hacks.messages, hacks.nextMessageId, hacks.offline⟩

/-! ## What the statements do -/

theorem updateOffline_acknowledges (tables : Tables) (userId messageId : UInt64)
    (deliveredAtMs : Int) :
    Acknowledges userId [] tables (tables.updateOffline userId messageId deliveredAtMs) := by
  let mark : OfflineRow → OfflineRow := fun row =>
    if row.userId = userId ∧ row.messageId = messageId then row.markDelivered deliveredAtMs
    else row
  have hlater : ∀ row : OfflineRow, row.Later (mark row) := by
    intro row
    by_cases hrow : row.userId = userId ∧ row.messageId = messageId
    · simpa only [mark, if_pos hrow] using row.later_markDelivered deliveredAtMs
    · simpa only [mark, if_neg hrow] using .refl row
  refine { Acknowledges.refl userId tables with
    offline := ⟨mark, rfl, hlater⟩
    keyed := fun hkeyed => { hkeyed with
      offline_unique := ?_, offline_message := ?_, offline_user := ?_, offline_lt := ?_
      offline_sorted := ?_ } }
  · apply pairwise_map.mpr
    apply hkeyed.offline_unique.imp
    intro first second hdistinct hsame
    apply hdistinct
    exact ⟨(hlater first).userId.symm.trans (hsame.1.trans (hlater second).userId),
      (hlater first).messageId.symm.trans (hsame.2.trans (hlater second).messageId)⟩
  · intro row hmem
    obtain ⟨old, hold, rfl⟩ := mem_map.mp hmem
    rw [(hlater old).messageId]
    exact hkeyed.offline_message old hold
  · intro row hmem
    obtain ⟨old, hold, rfl⟩ := mem_map.mp hmem
    rw [(hlater old).userId]
    exact hkeyed.offline_user old hold
  · intro row hmem
    obtain ⟨old, hold, rfl⟩ := mem_map.mp hmem
    rw [(hlater old).offlineMessageId]
    exact hkeyed.offline_lt old hold
  · apply pairwise_map.mpr
    apply hkeyed.offline_sorted.imp
    intro first second hlt
    rwa [(hlater first).offlineMessageId, (hlater second).offlineMessageId]

variable {tables : Tables} {deliveredAtMs : Int}

/-- A row in `message_deliveries` after the upsert: an old one, confirmed if it is the
one the statement is about, or the new one. -/
theorem upsertDelivered_ok
    (hupsert : tables.upsertDelivered greatest userId messageId deliveredAtMs =
      .ok after) :
    (∃ row ∈ tables.messageDeliveries, row.messageId = messageId ∧ row.userId = userId) ∧
      after = { tables with
        messageDeliveries := tables.messageDeliveries.map fun row =>
          if row.messageId = messageId ∧ row.userId = userId then
            row.confirm .greatest deliveredAtMs
          else row } ∨
    (∀ row ∈ tables.messageDeliveries, ¬ (row.messageId = messageId ∧ row.userId = userId)) ∧
      after = { tables with
        messageDeliveries := tables.messageDeliveries ++
          [{ messageId, userId, status := .kDelivered,
             deliveredAtMs := some deliveredAtMs }] } := by
  simp only [upsertDelivered] at hupsert
  split_ifs at hupsert with hpresent hreferences
  · simp only [any_eq_true, decide_eq_true_eq] at hpresent
    exact Or.inl ⟨hpresent, (Except.ok.inj hupsert).symm⟩
  · refine Or.inr ⟨?_, (Except.ok.inj hupsert).symm⟩
    intro row hmem hkey
    apply hpresent
    rw [any_eq_true]
    exact ⟨row, hmem, by simpa using hkey⟩

theorem upsertDelivered_acknowledges
    (hupsert : tables.upsertDelivered greatest userId messageId deliveredAtMs =
      .ok after) : Acknowledges userId [messageId] tables after := by
  rcases upsertDelivered_ok hupsert with ⟨⟨present, hpresent, hkey⟩, rfl⟩ | ⟨hfree, rfl⟩
  · let upsert : DeliveryRow → DeliveryRow := fun row =>
      if row.messageId = messageId ∧ row.userId = userId then row.confirm .greatest deliveredAtMs
      else row
    have hlater : ∀ row : DeliveryRow, row.Later (upsert row) := by
      intro row
      by_cases hrow : row.messageId = messageId ∧ row.userId = userId
      · simpa only [upsert, if_pos hrow] using row.later_confirm deliveredAtMs
      · simpa only [upsert, if_neg hrow] using .refl row
    refine { Acknowledges.refl userId tables with
      deliveries := fun row hmem => ⟨upsert row, mem_map_of_mem hmem, hlater row⟩
      confirmed := ?_, delivered := ?_
      keyed := fun hkeyed => { hkeyed with delivery_unique := ?_ } }
    · intro row hmem
      obtain ⟨old, hold, rfl⟩ := mem_map.mp hmem
      by_cases hrow : old.messageId = messageId ∧ old.userId = userId
      · rw [if_pos hrow]
        exact Or.inr ⟨hrow.2, mem_singleton.mpr hrow.1⟩
      · rw [if_neg hrow]
        exact Or.inl hold
    · intro other hother
      obtain rfl := mem_singleton.mp hother
      refine ⟨upsert present, mem_map_of_mem hpresent, ?_⟩
      simp only [upsert, if_pos hkey]
      exact ⟨hkey.1, hkey.2, present.delivered_confirm deliveredAtMs⟩
    · apply pairwise_map.mpr
      apply hkeyed.delivery_unique.imp
      intro first second hdistinct hsame
      apply hdistinct
      exact ⟨(hlater first).messageId.symm.trans (hsame.1.trans (hlater second).messageId),
        (hlater first).userId.symm.trans (hsame.2.trans (hlater second).userId)⟩
  · refine { Acknowledges.refl userId tables with
      deliveries := fun row hmem => ⟨row, mem_append_left _ hmem, .refl row⟩
      confirmed := ?_, delivered := ?_
      keyed := fun hkeyed => { hkeyed with delivery_unique := ?_ } }
    · intro row hmem
      rcases mem_append.mp hmem with hold | hnew
      · exact Or.inl hold
      · rw [mem_singleton.mp hnew]
        exact Or.inr ⟨rfl, mem_singleton_self _⟩
    · intro other hother
      obtain rfl := mem_singleton.mp hother
      exact ⟨_, mem_append_right _ (mem_singleton_self _), rfl, rfl, Or.inl rfl⟩
    · rw [pairwise_append]
      refine ⟨hkeyed.delivery_unique, pairwise_singleton _ _, ?_⟩
      intro other hmem new hnew hkey
      rw [mem_singleton.mp hnew] at hkey
      exact hfree other hmem hkey

theorem markOfflineDeliveredInTransaction_acknowledges (tables : Tables) (userId : UInt64)
    (messageIds : List UInt64) (deliveredAtMs : Int) :
    Acknowledges userId [] tables
      (tables.markOfflineDeliveredInTransaction userId messageIds deliveredAtMs) := by
  induction messageIds generalizing tables with
  | nil => exact .refl userId tables
  | cons messageId messageIds ih =>
    exact (updateOffline_acknowledges tables userId messageId deliveredAtMs).trans (ih _)

/-- None of these messages waits for the user. -/
def Settled (tables : Tables) (userId : UInt64) (messageIds : List UInt64) : Prop :=
  ∀ row ∈ tables.offlineMessages, row.userId = userId → row.messageId ∈ messageIds →
    row.delivered = true

theorem Settled.updateOffline (hsettled : tables.Settled userId messageIds) (messageId : UInt64)
    (deliveredAtMs : Int) : (tables.updateOffline userId messageId deliveredAtMs).Settled userId
      (messageIds ++ [messageId]) := by
  intro row hmem huser hmessage
  obtain ⟨old, hold, rfl⟩ := mem_map.mp hmem
  by_cases hkey : old.userId = userId ∧ old.messageId = messageId
  · rw [if_pos hkey]
    rfl
  · rw [if_neg hkey] at huser hmessage ⊢
    rcases mem_append.mp hmessage with hearlier | hlast
    · exact hsettled old hold huser hearlier
    · exact (hkey ⟨huser, mem_singleton.mp hlast⟩).elim

theorem Settled.of_keepsMessages (hsettled : before.Settled userId messageIds)
    (hkeeps : KeepsMessages before after) : after.Settled userId messageIds := by
  obtain ⟨mark, hmark, hlater⟩ := hkeeps.offline
  intro row hmem huser hmessage
  rw [hmark] at hmem
  obtain ⟨old, hold, rfl⟩ := mem_map.mp hmem
  rw [(hlater old).userId] at huser
  rw [(hlater old).messageId] at hmessage
  exact (hlater old).delivered (hsettled old hold huser hmessage)

/-- The loop of updates settles each of the messages. -/
theorem Settled.markOfflineDelivered {settled : List UInt64}
    (hsettled : tables.Settled userId settled) (messageIds : List UInt64) (deliveredAtMs : Int) :
    (tables.markOfflineDeliveredInTransaction userId messageIds deliveredAtMs).Settled userId
      (settled ++ messageIds) := by
  induction messageIds generalizing tables settled with
  | nil => rwa [append_nil]
  | cons messageId messageIds ih =>
    have hrest := ih (hsettled.updateOffline messageId deliveredAtMs)
    rwa [append_assoc, singleton_append] at hrest

theorem upsertDeliveriesDelivered_acknowledges
    (hupsert : tables.upsertDeliveriesDelivered userId messageIds deliveredAtMs = .ok after) :
    Acknowledges userId messageIds tables after := by
  apply foldlM_ok_induction hupsert (Acknowledges userId) (Acknowledges.refl userId)
  intro messageId messageIds before mid after hfirst hrest
  exact (upsertDelivered_acknowledges (execute_eq_ok_iff.mp hfirst)).trans hrest

/-- The ids kept are those given, each once, as with the recipients of a message. -/
theorem validateMessageIds_ok {unique kept : List UInt64}
    (hvalidate : validateMessageIds unique messageIds = .ok kept) :
    validateOfflineRecipients unique messageIds = .ok kept := by
  induction messageIds generalizing unique with
  | nil => exact hvalidate
  | cons messageId messageIds ih =>
    rw [validateMessageIds] at hvalidate
    rw [validateOfflineRecipients]
    by_cases hzero : messageId = 0
    · simp [hzero, error] at hvalidate
    · rw [if_neg hzero] at hvalidate ⊢
      by_cases hmem : messageId ∈ unique
      · rw [if_pos hmem] at hvalidate ⊢
        exact ih hvalidate
      · rw [if_neg hmem] at hvalidate ⊢
        exact ih hvalidate

/-- The record read for an acknowledgement comes from an offline row of the user and
the message it refers to. -/
def Waited (tables : Tables) (userId messageId : UInt64) (record : OfflineMessageRecord) : Prop :=
  tables.hasOffline userId messageId = true ∧ record.userId = userId ∧
    ∃ row ∈ tables.messages, row.messageId = messageId ∧ record.message = row.toRecord

theorem joinOffline_eq_some {row : OfflineRow} {record : OfflineMessageRecord}
    (hjoin : tables.joinOffline row = some record) :
    record.offlineMessageId = row.offlineMessageId ∧ record.userId = row.userId ∧
      ∃ message ∈ tables.messages, message.messageId = row.messageId ∧
        record.message = message.toRecord := by
  obtain ⟨message, hfind, rfl⟩ := Option.map_eq_some_iff.mp hjoin
  have hid := find?_some hfind
  simp only [decide_eq_true_eq] at hid
  exact ⟨rfl, rfl, message, mem_of_find?_eq_some hfind, hid, rfl⟩

variable {records : List OfflineMessageRecord}

/-- A pull returns messages that wait. -/
theorem getOfflineMessages_ok {limit : Nat}
    (hget : tables.getOfflineMessages userId limit = .ok records) :
    ∀ record ∈ records, ∃ row ∈ tables.offlineMessages, row.userId = userId ∧
      row.delivered = false ∧ record.message.messageId = row.messageId := by
  simp only [getOfflineMessages, error] at hget
  split_ifs at hget with huser hlimit
  rw [← Except.ok.inj hget]
  intro record hmem
  obtain ⟨row, hrow, hjoin⟩ := mem_filterMap.mp (mem_of_mem_take hmem)
  simp only [mem_filter, decide_eq_true_eq] at hrow
  obtain ⟨-, -, message, -, hid, hrecord⟩ := joinOffline_eq_some hjoin
  refine ⟨row, hrow.1, hrow.2.1, hrow.2.2, ?_⟩
  rw [hrecord, ← hid]
  rfl

theorem Settled.not_returned (hsettled : tables.Settled userId [messageId]) {limit : Nat}
    (hget : tables.getOfflineMessages userId limit = .ok records) :
    ∀ record ∈ records, record.message.messageId ≠ messageId := by
  intro record hmem hsame
  obtain ⟨row, hrow, huser, hwaiting, hid⟩ := getOfflineMessages_ok hget record hmem
  have hdelivered := hsettled row hrow huser (by simp [← hid, hsame])
  rw [hwaiting] at hdelivered
  cases hdelivered

theorem fetchOfflineMessageForAck_ok {record : OfflineMessageRecord}
    (hfetch : tables.fetchOfflineMessageForAck userId messageId = .ok record) :
    tables.Waited userId messageId record := by
  have hmem : record ∈ (tables.offlineMessages.filter fun row =>
      row.userId = userId ∧ row.messageId = messageId).filterMap tables.joinOffline := by
    rw [fetchOfflineMessageForAck] at hfetch
    split at hfetch
    · cases hfetch
    · next found hfound =>
        obtain rfl := Except.ok.inj hfetch
        rw [hfound]
        exact mem_singleton_self found
    · cases hfetch
  obtain ⟨row, hrow, hjoin⟩ := mem_filterMap.mp hmem
  simp only [mem_filter, decide_eq_true_eq] at hrow
  obtain ⟨-, huser, message, hmessage, hid, hrecord⟩ := joinOffline_eq_some hjoin
  exact ⟨hasOffline_iff.mpr ⟨row, hrow⟩, huser.trans hrow.2.1, message, hmessage,
    hid.trans hrow.2.2, hrecord⟩

/-- Everything a successful acknowledgement of pulled messages did. -/
structure AcksOffline (userId : UInt64) (messageIds : List UInt64) (before : Tables)
    (records : List OfflineMessageRecord) (after : Tables) : Prop where
  acknowledges : Acknowledges userId messageIds before after
  settled : after.Settled userId messageIds
  waited : ∀ messageId ∈ messageIds, ∃ record ∈ records, before.Waited userId messageId record
  records : ∀ record ∈ records, ∃ messageId ∈ messageIds, before.Waited userId messageId record

/-- Each id has a record, and each record is of one of the ids. -/
theorem mapM_fetchOfflineMessageForAck
    (hfetch : messageIds.mapM (tables.fetchOfflineMessageForAck userId) = .ok records) :
    (∀ messageId ∈ messageIds, ∃ record ∈ records, tables.Waited userId messageId record) ∧
      ∀ record ∈ records, ∃ messageId ∈ messageIds, tables.Waited userId messageId record := by
  induction messageIds generalizing records with
  | nil =>
    obtain rfl := Except.ok.inj hfetch
    simp
  | cons messageId messageIds ih =>
    rw [mapM_cons] at hfetch
    obtain ⟨record, hfirst, hfetch⟩ := bind_eq_ok_iff.mp hfetch
    obtain ⟨rest, hrest, hfetch⟩ := bind_eq_ok_iff.mp hfetch
    have hwaited := fetchOfflineMessageForAck_ok hfirst
    obtain ⟨hids, hrecords⟩ := ih hrest
    rw [← Except.ok.inj hfetch]
    refine ⟨forall_mem_cons.mpr ⟨⟨record, mem_cons_self, hwaited⟩, ?_⟩,
      forall_mem_cons.mpr ⟨⟨messageId, mem_cons_self, hwaited⟩, ?_⟩⟩
    · intro other hmem
      obtain ⟨found, hfound, hother⟩ := hids other hmem
      exact ⟨found, mem_cons_of_mem _ hfound, hother⟩
    · intro other hmem
      obtain ⟨found, hfound, hother⟩ := hrecords other hmem
      exact ⟨found, mem_cons_of_mem _ hfound, hother⟩

theorem ackOfflineMessages_ok {nowMs : Int}
    (hack : tables.ackOfflineMessages nowMs userId messageIds = .ok (records, after)) :
    AcksOffline userId messageIds tables records after := by
  simp only [ackOfflineMessages, error] at hack
  split_ifs at hack with hempty huser
  · obtain ⟨rfl, rfl⟩ := Prod.mk.inj (Except.ok.inj hack)
    rw [hempty]
    exact ⟨.refl userId tables, by simp [Settled], by simp, by simp⟩
  · obtain ⟨unique, hvalidate, hack⟩ := bind_eq_ok_iff.mp hack
    obtain ⟨fetched, hfetch, hack⟩ := bind_eq_ok_iff.mp hack
    obtain ⟨final, hupsert, hack⟩ := bind_eq_ok_iff.mp hack
    obtain ⟨rfl, rfl⟩ := Prod.mk.inj (Except.ok.inj hack)
    have hsame : ∀ messageId, messageId ∈ unique ↔ messageId ∈ messageIds := by
      intro messageId
      simpa using (validateOfflineRecipients_ok (validateMessageIds_ok hvalidate)
        nodup_nil).2 messageId
    obtain ⟨hids, hrecords⟩ := mapM_fetchOfflineMessageForAck hfetch
    have hmarks := markOfflineDeliveredInTransaction_acknowledges tables userId unique nowMs
    have hupserts := upsertDeliveriesDelivered_acknowledges hupsert
    have hmarked : (tables.markOfflineDeliveredInTransaction userId unique nowMs).Settled userId
        unique := by
      have hnone : tables.Settled userId [] := by simp [Settled]
      exact hnone.markOfflineDelivered unique nowMs
    refine ⟨(hmarks.trans hupserts).congr hsame, ?_, ?_, ?_⟩
    · intro row hmem hrow hmessage
      exact hmarked.of_keepsMessages hupserts.keepsMessages row hmem hrow
        ((hsame _).mpr hmessage)
    · exact fun messageId hmem => hids messageId ((hsame _).mpr hmem)
    · intro record hmem
      obtain ⟨messageId, hmessage, hwaited⟩ := hrecords record hmem
      exact ⟨messageId, (hsame _).mp hmessage, hwaited⟩

/-- Everything a successful acknowledgement of a pushed message did: the message is a
private one to this user, and no offline row was touched. -/
structure AcksPrivate (userId messageId : UInt64) (before : Tables) (message : MessageRecord)
    (after : Tables) : Prop where
  acknowledges : Acknowledges userId [messageId] before after
  offlineMessages : after.offlineMessages = before.offlineMessages
  found : ∃ row ∈ before.messages, row.messageId = messageId ∧ message = row.toRecord
  type : message.conversation.type = .kPrivate
  receiver : message.receiverId = userId

theorem queryMessageById_ok {message : MessageRecord}
    (hquery : tables.queryMessageById messageId = .ok message) :
    ∃ row ∈ tables.messages, row.messageId = messageId ∧ message = row.toRecord := by
  simp only [queryMessageById, error] at hquery
  split_ifs at hquery with hzero
  cases hfind : tables.messages.find? fun row => decide (row.messageId = messageId) with
  | none => simp only [hfind, reduceCtorEq] at hquery
  | some row =>
    simp only [hfind, Except.ok.injEq] at hquery
    have hid := find?_some hfind
    simp only [decide_eq_true_eq] at hid
    exact ⟨row, mem_of_find?_eq_some hfind, hid, hquery.symm⟩

theorem ackPrivateMessageDelivery_ok {nowMs : Int} {message : MessageRecord}
    (hack : tables.ackPrivateMessageDelivery nowMs userId messageId = .ok (message, after)) :
    AcksPrivate userId messageId tables message after := by
  simp only [ackPrivateMessageDelivery, error] at hack
  split_ifs at hack with huser hmessage
  obtain ⟨found, hquery, hack⟩ := bind_eq_ok_iff.mp hack
  split_ifs at hack with htarget
  obtain ⟨final, hupsert, hack⟩ := bind_eq_ok_iff.mp hack
  obtain ⟨rfl, rfl⟩ := Prod.mk.inj (Except.ok.inj hack)
  rw [execute_eq_ok_iff, ifGreater_eq_greatest] at hupsert
  simp only [not_or, not_not] at htarget
  refine ⟨upsertDelivered_acknowledges hupsert, ?_, queryMessageById_ok hquery, htarget.1,
    htarget.2⟩
  rcases upsertDelivered_ok hupsert with ⟨-, rfl⟩ | ⟨-, rfl⟩
  · rfl
  · rfl

end Tables

namespace Database

def ackOfflineMessages (database : Database) (nowMs : Int) (userId : UInt64)
    (messageIds : List UInt64) : Except Error (List OfflineMessageRecord) × Database :=
  database.transact (fun tables => tables.ackOfflineMessages nowMs userId messageIds)
    fun _ _ _ hkeyed hack => (Tables.ackOfflineMessages_ok hack).acknowledges.keyed hkeyed

def ackPrivateMessageDelivery (database : Database) (nowMs : Int) (userId messageId : UInt64) :
    Except Error MessageRecord × Database :=
  database.transact (fun tables => tables.ackPrivateMessageDelivery nowMs userId messageId)
    fun _ _ _ hkeyed hack => (Tables.ackPrivateMessageDelivery_ok hack).acknowledges.keyed hkeyed

theorem ackOfflineMessages_cases (database : Database) (nowMs : Int) (userId : UInt64)
    (messageIds : List UInt64) :
    AllOrNothing database (database.ackOfflineMessages nowMs userId messageIds)
      (Tables.AcksOffline userId messageIds database.1) :=
  transact_spec fun _ _ => Tables.ackOfflineMessages_ok

theorem ackPrivateMessageDelivery_cases (database : Database) (nowMs : Int)
    (userId messageId : UInt64) :
    AllOrNothing database (database.ackPrivateMessageDelivery nowMs userId messageId)
      (Tables.AcksPrivate userId messageId database.1) :=
  transact_spec fun _ _ => Tables.ackPrivateMessageDelivery_ok

end Database

end LiteIM
