/-
# Acknowledging pulled messages

`ackOfflineMessages` is all or nothing. It succeeds exactly if there is an offline row for
each of the ids, and then it marks these rows, confirms their deliveries and returns them, in
the order in which the ids first occur. Nothing else changes, and nothing at all if it fails.

That it succeeds rests on the foreign keys: an offline row refers to a message, so the join
finds it, and to a user, so a delivery can be recorded.
-/

import LiteIM.Storage.Acknowledgement

namespace LiteIM

open Foundation Tables List

/-- The ids of a list, each where it first occurs. -/
def firstOccurrences : List UInt64 → List UInt64
  | [] => []
  | messageId :: rest => messageId :: (firstOccurrences rest).filter fun other => other ≠ messageId

variable {messageIds : List UInt64} {messageId : UInt64}

@[simp]
theorem mem_firstOccurrences :
    messageId ∈ firstOccurrences messageIds ↔ messageId ∈ messageIds := by
  induction messageIds with
  | nil => simp [firstOccurrences]
  | cons first rest ih =>
    by_cases hsame : messageId = first
    · simp [firstOccurrences, hsame]
    · simp [firstOccurrences, hsame, ih]

variable {userId : UInt64}

namespace Tables

/-! ## The ids -/

/-- The loop keeps what it has not seen. -/
theorem validateMessageIds_of_ne_zero {unique : List UInt64}
    (hnonzero : ∀ messageId ∈ messageIds, messageId ≠ 0) : validateMessageIds unique messageIds =
      .ok (unique ++ (firstOccurrences messageIds).filter fun messageId =>
        messageId ∉ unique) := by
  induction messageIds generalizing unique with
  | nil => simp [validateMessageIds, firstOccurrences]
  | cons messageId messageIds ih =>
    rw [forall_mem_cons] at hnonzero
    rw [validateMessageIds, if_neg hnonzero.1, ih hnonzero.2, ih hnonzero.2, firstOccurrences]
    by_cases hseen : messageId ∈ unique
    · rw [if_pos hseen, filter_cons_of_neg (by simpa using hseen), filter_filter]
      refine congrArg (fun kept => Except.ok (unique ++ kept)) (filter_congr ?_)
      intro other _
      by_cases hother : other ∈ unique
      · simp [hother]
      · have hne : other ≠ messageId := fun hsame => hother (hsame ▸ hseen)
        simp [hother, hne]
    · rw [if_neg hseen, filter_cons_of_pos (by simpa using hseen), filter_filter,
        append_assoc, singleton_append]
      refine congrArg (fun kept => Except.ok (unique ++ messageId :: kept))
        (filter_congr ?_)
      intro other _
      simp [not_or]

theorem ne_zero_of_validateMessageIds {unique kept : List UInt64}
    (hvalidate : validateMessageIds unique messageIds = .ok kept) :
    ∀ messageId ∈ messageIds, messageId ≠ 0 := by
  induction messageIds generalizing unique with
  | nil => simp
  | cons messageId messageIds ih =>
    rw [validateMessageIds] at hvalidate
    by_cases hzero : messageId = 0
    · simp [hzero, Status.error] at hvalidate
    · rw [if_neg hzero] at hvalidate
      rw [forall_mem_cons]
      refine ⟨hzero, ?_⟩
      split_ifs at hvalidate with hseen
      · exact ih hvalidate
      · exact ih hvalidate

theorem validateMessageIds_eq_ok_iff {kept : List UInt64} :
    validateMessageIds [] messageIds = .ok kept ↔
      (∀ messageId ∈ messageIds, messageId ≠ 0) ∧ kept = firstOccurrences messageIds := by
  apply Iff.intro
  · intro hvalidate
    have hnonzero := ne_zero_of_validateMessageIds hvalidate
    rw [validateMessageIds_of_ne_zero hnonzero] at hvalidate
    exact ⟨hnonzero, by simpa [eq_comm] using hvalidate⟩
  · rintro ⟨hnonzero, rfl⟩
    simp [validateMessageIds_of_ne_zero hnonzero]

/-! ## The rows -/

/-- The record of a user's offline row for a message. -/
def OfflineRecord (tables : Tables) (userId messageId : UInt64)
    (record : OfflineMessageRecord) : Prop :=
  ∃ row ∈ tables.offlineMessages, (row.userId = userId ∧ row.messageId = messageId) ∧
    tables.joinOffline row = some record

/-- A key that is unique selects one row. -/
theorem filter_eq_singleton {α : Type} {selects : α → Bool} {rows : List α} {row : α}
    (hunique : rows.Pairwise fun first second => ¬ (selects first = true ∧ selects second = true))
    (hmem : row ∈ rows) (hselects : selects row = true) : rows.filter selects = [row] := by
  induction rows with
  | nil => cases hmem
  | cons first rest ih =>
    rw [pairwise_cons] at hunique
    rcases mem_cons.mp hmem with rfl | hrest
    · rw [filter_cons_of_pos hselects]
      refine congrArg (row :: ·) (filter_eq_nil_iff.mpr ?_)
      exact fun other hother hselected => hunique.1 other hother ⟨hselects, hselected⟩
    · have hfirst : ¬ selects first = true := fun hselected =>
        hunique.1 row hrest ⟨hselected, hselects⟩
      rw [filter_cons_of_neg hfirst]
      exact ih hunique.2 hrest

variable {tables : Tables}

theorem Keyed.exists_joinOffline (hkeyed : tables.Keyed) {row : OfflineRow}
    (hmem : row ∈ tables.offlineMessages) : ∃ record, tables.joinOffline row = some record := by
  obtain ⟨message, hmessage, hid⟩ := hasMessage_iff.mp (hkeyed.offline_message row hmem)
  have hfound : (tables.messages.find? fun message =>
      message.messageId = row.messageId).isSome = true := by
    rw [find?_isSome]
    exact ⟨message, hmessage, by simpa using hid⟩
  obtain ⟨found, hfound⟩ := Option.isSome_iff_exists.mp hfound
  exact ⟨_, by rw [joinOffline, hfound]; rfl⟩

theorem fetchOfflineMessageForAck_eq_ok_iff (hkeyed : tables.Keyed)
    {record : OfflineMessageRecord} :
    tables.fetchOfflineMessageForAck userId messageId = .ok record ↔
      tables.OfflineRecord userId messageId record := by
  apply Iff.intro
  · intro hfetch
    rw [fetchOfflineMessageForAck] at hfetch
    split at hfetch
    · cases hfetch
    · next found hfound =>
        obtain rfl := Except.ok.inj hfetch
        obtain ⟨row, hrow, hjoin⟩ := mem_filterMap.mp
          (hfound ▸ mem_singleton_self found)
        simp only [mem_filter, decide_eq_true_eq] at hrow
        exact ⟨row, hrow.1, hrow.2, hjoin⟩
    · cases hfetch
  · rintro ⟨row, hmem, hkey, hjoin⟩
    have hrows : (tables.offlineMessages.filter fun row =>
        row.userId = userId ∧ row.messageId = messageId) = [row] := by
      apply filter_eq_singleton _ hmem (by simpa using hkey)
      apply hkeyed.offline_unique.imp
      rintro first second hdistinct ⟨hfirst, hsecond⟩
      simp only [decide_eq_true_eq] at hfirst hsecond
      exact hdistinct ⟨hfirst.1.trans hsecond.1.symm, hfirst.2.trans hsecond.2.symm⟩
    rw [fetchOfflineMessageForAck, hrows]
    simp [hjoin]

/-- Each id has its row exactly if the loop of queries succeeds. -/
theorem exists_mapM_fetch_iff (hkeyed : tables.Keyed) :
    (∃ records, messageIds.mapM (tables.fetchOfflineMessageForAck userId) = .ok records) ↔
      ∀ messageId ∈ messageIds, tables.hasOffline userId messageId = true := by
  induction messageIds with
  | nil => simp [pure, Except.pure]
  | cons messageId messageIds ih =>
    rw [forall_mem_cons, ← ih]
    apply Iff.intro
    · rintro ⟨records, hfetch⟩
      rw [mapM_eq_ok_iff, forall₂_cons_left_iff] at hfetch
      obtain ⟨record, rest, hfirst, hrest, -⟩ := hfetch
      obtain ⟨row, hmem, hkey, -⟩ := (fetchOfflineMessageForAck_eq_ok_iff hkeyed).mp hfirst
      exact ⟨hasOffline_iff.mpr ⟨row, hmem, hkey⟩, rest, mapM_eq_ok_iff.mpr hrest⟩
    · rintro ⟨hfirst, rest, hrest⟩
      obtain ⟨row, hmem, hkey⟩ := hasOffline_iff.mp hfirst
      obtain ⟨record, hjoin⟩ := hkeyed.exists_joinOffline hmem
      have hfetch := (fetchOfflineMessageForAck_eq_ok_iff hkeyed).mpr ⟨row, hmem, hkey, hjoin⟩
      exact ⟨record :: rest, mapM_eq_ok_iff.mpr (.cons hfetch (mapM_eq_ok_iff.mp hrest))⟩

/-! ## The updates -/

/-- An offline row after the acknowledgement of some messages of a user. -/
def acknowledged (userId : UInt64) (messageIds : List UInt64) (nowMs : Int) (row : OfflineRow) :
    OfflineRow :=
  if row.userId = userId ∧ row.messageId ∈ messageIds then row.markDelivered nowMs else row

theorem markDelivered_markDelivered (row : OfflineRow) (nowMs : Int) :
    (row.markDelivered nowMs).markDelivered nowMs = row.markDelivered nowMs := by
  cases htime : row.deliveredAtMs <;> simp [OfflineRow.markDelivered, htime]

theorem markOfflineDeliveredInTransaction_eq (tables : Tables) (userId : UInt64)
    (messageIds : List UInt64) (nowMs : Int) :
    tables.markOfflineDeliveredInTransaction userId messageIds nowMs =
      { tables with
        offlineMessages := tables.offlineMessages.map (acknowledged userId messageIds nowMs) } := by
  induction messageIds generalizing tables with
  | nil =>
    have hnone : acknowledged userId [] nowMs = id := by
      funext row
      simp [acknowledged]
    rw [hnone, map_id]
    rfl
  | cons messageId messageIds ih =>
    have hstep : tables.markOfflineDeliveredInTransaction userId (messageId :: messageIds) nowMs =
        (tables.updateOffline userId messageId nowMs).markOfflineDeliveredInTransaction userId
          messageIds nowMs := rfl
    rw [hstep, ih, updateOffline, map_map]
    refine congrArg (fun rows => { tables with offlineMessages := rows })
      (map_congr_left ?_)
    intro row _
    by_cases hkey : row.userId = userId ∧ row.messageId = messageId
    · have hboth : row.userId = userId ∧ row.messageId ∈ messageId :: messageIds :=
        ⟨hkey.1, hkey.2 ▸ mem_cons_self⟩
      rw [Function.comp_apply, if_pos hkey, acknowledged, acknowledged, if_pos hboth,
        markDelivered_markDelivered, ite_self]
    · have hiff : (row.userId = userId ∧ row.messageId ∈ messageId :: messageIds) ↔
          row.userId = userId ∧ row.messageId ∈ messageIds := by
        rw [mem_cons]
        tauto
      rw [Function.comp_apply, if_neg hkey, acknowledged, acknowledged]
      exact if_congr hiff.symm rfl rfl

theorem acknowledged_firstOccurrences (userId : UInt64) (messageIds : List UInt64) (nowMs : Int) :
    acknowledged userId (firstOccurrences messageIds) nowMs =
      acknowledged userId messageIds nowMs := by
  funext row
  simp only [acknowledged, mem_firstOccurrences]

/-- What recording deliveries changes: nothing but deliveries, and none of other users. -/
structure Confirms (userId : UInt64) (before after : Tables) : Prop where
  rest : after = { before with messageDeliveries := after.messageDeliveries }
  others : after.messageDeliveries.filter (fun row => row.userId ≠ userId) =
    before.messageDeliveries.filter fun row => row.userId ≠ userId

theorem Confirms.refl (userId : UInt64) (tables : Tables) : Confirms userId tables tables :=
  ⟨rfl, rfl⟩

theorem Confirms.trans {first second third : Tables} (hfirst : Confirms userId first second)
    (hsecond : Confirms userId second third) : Confirms userId first third where
  rest := by
    rw [hsecond.rest]
    exact congrArg (fun tables : Tables => { tables with
      messageDeliveries := third.messageDeliveries }) hfirst.rest
  others := hsecond.others.trans hfirst.others

/-- Updating rows that are not selected is not seen in the selected ones. -/
theorem filter_map_of_fixed {α : Type} {selects : α → Bool} {update : α → α} {rows : List α}
    (hfixed : ∀ row, selects (update row) = selects row ∧
      (selects row = true → update row = row)) :
    (rows.map update).filter selects = rows.filter selects := by
  induction rows with
  | nil => rfl
  | cons row rows ih =>
    obtain ⟨hsame, hrow⟩ := hfixed row
    rw [map_cons, filter_cons, filter_cons, hsame, ih]
    split_ifs with hselects
    · rw [hrow hselects]
    · rfl

variable {after : Tables} {nowMs : Int}

theorem upsertDelivered_confirms
    (hupsert : tables.upsertDelivered DeliveryStatus.greatest userId messageId nowMs =
      .ok after) : Confirms userId tables after := by
  rcases upsertDelivered_ok hupsert with ⟨-, rfl⟩ | ⟨-, rfl⟩
  · refine ⟨rfl, filter_map_of_fixed ?_⟩
    intro row
    by_cases hkey : row.messageId = messageId ∧ row.userId = userId
    · rw [if_pos hkey]
      exact ⟨rfl, fun hother => absurd hkey.2 (of_decide_eq_true hother)⟩
    · rw [if_neg hkey]
      exact ⟨rfl, fun _ => rfl⟩
  · exact ⟨rfl, by simp⟩

theorem exists_upsertDelivered (hmessage : tables.hasMessage messageId = true)
    (huser : tables.hasUser userId = true) (nowMs : Int) :
    ∃ after, tables.upsertDelivered DeliveryStatus.greatest userId messageId nowMs =
      .ok after := by
  rw [upsertDelivered]
  split_ifs with hpresent hmissing
  · exact ⟨_, rfl⟩
  · simp [hmessage, huser] at hmissing
  · exact ⟨_, rfl⟩

/-- Deliveries can be recorded for messages and a user that are there. -/
theorem exists_upsertDeliveriesDelivered
    (hmessages : ∀ messageId ∈ messageIds, tables.hasMessage messageId = true)
    (huser : tables.hasUser userId = true) (nowMs : Int) :
    ∃ after, tables.upsertDeliveriesDelivered userId messageIds nowMs = .ok after := by
  induction messageIds generalizing tables with
  | nil => exact ⟨tables, rfl⟩
  | cons messageId messageIds ih =>
    rw [forall_mem_cons] at hmessages
    obtain ⟨mid, hmid⟩ := exists_upsertDelivered hmessages.1 huser nowMs
    have hrest := (upsertDelivered_confirms hmid).rest
    obtain ⟨after, hafter⟩ : ∃ after,
        mid.upsertDeliveriesDelivered userId messageIds nowMs = .ok after := by
      apply ih
      · rw [hrest]
        exact hmessages.2
      · rw [hrest]
        exact huser
    refine ⟨after, ?_⟩
    rw [upsertDeliveriesDelivered, foldlM_cons]
    exact bind_eq_ok_iff.mpr ⟨mid, execute_eq_ok_iff.mpr hmid, hafter⟩

theorem upsertDeliveriesDelivered_confirms
    (hupsert : tables.upsertDeliveriesDelivered userId messageIds nowMs = .ok after) :
    Confirms userId tables after := by
  apply foldlM_ok_induction hupsert (fun _ => Confirms userId) (Confirms.refl userId)
  intro messageId messageIds before mid after hfirst hrest
  exact (upsertDelivered_confirms (execute_eq_ok_iff.mp hfirst)).trans hrest

/-! ## The call -/

/-- Everything an acknowledgement that succeeds does, and that it does nothing else. -/
structure AcksExactly (userId : UInt64) (messageIds : List UInt64) (nowMs : Int)
    (before : Tables) (records : List OfflineMessageRecord) (after : Tables) : Prop where
  /-- The rows of the list become delivered; the time of one that has a time stays. -/
  offline : after.offlineMessages =
    before.offlineMessages.map (acknowledged userId messageIds nowMs)
  delivered : ∀ messageId ∈ messageIds, after.Delivered userId messageId
  later : ∀ row ∈ before.messageDeliveries, ∃ later ∈ after.messageDeliveries, row.Later later
  confirmed : ∀ row ∈ after.messageDeliveries, row ∈ before.messageDeliveries ∨
    (row.userId = userId ∧ row.messageId ∈ messageIds)
  others : after.messageDeliveries.filter (fun row => row.userId ≠ userId) =
    before.messageDeliveries.filter fun row => row.userId ≠ userId
  rest : after = { before with
    offlineMessages := after.offlineMessages, messageDeliveries := after.messageDeliveries }
  records : Forall₂ (before.OfflineRecord userId) (firstOccurrences messageIds) records

/-- An offline row for each of the ids, of which none is zero. -/
def CanAck (tables : Tables) (userId : UInt64) (messageIds : List UInt64) : Prop :=
  userId ≠ 0 ∧ ∀ messageId ∈ messageIds, messageId ≠ 0 ∧
    tables.hasOffline userId messageId = true

theorem acksExactly_nil (tables : Tables) (userId : UInt64) (nowMs : Int) :
    AcksExactly userId [] nowMs tables [] tables where
  offline := by
    have hnone : acknowledged userId [] nowMs = id := by
      funext row
      simp [acknowledged]
    rw [hnone, map_id]
  delivered := by simp
  later row hmem := ⟨row, hmem, .refl row⟩
  confirmed _ := Or.inl
  others := rfl
  rest := rfl
  records := .nil

theorem ackOfflineMessages_exactly (hkeyed : tables.Keyed) {records : List OfflineMessageRecord}
    (hack : tables.ackOfflineMessages nowMs userId messageIds = .ok (records, after)) :
    (messageIds = [] ∨ tables.CanAck userId messageIds) ∧
      AcksExactly userId messageIds nowMs tables records after := by
  have hacks := (ackOfflineMessages_ok hack).acknowledges
  simp only [ackOfflineMessages, Status.error] at hack
  split_ifs at hack with hempty huser
  · cases hack
    rw [hempty]
    exact ⟨Or.inl rfl, acksExactly_nil tables userId nowMs⟩
  · obtain ⟨unique, hvalidate, hack⟩ := bind_eq_ok_iff.mp hack
    obtain ⟨fetched, hfetch, hack⟩ := bind_eq_ok_iff.mp hack
    obtain ⟨final, hupsert, hack⟩ := bind_eq_ok_iff.mp hack
    cases hack
    obtain ⟨hnonzero, rfl⟩ := validateMessageIds_eq_ok_iff.mp hvalidate
    have hrows := (exists_mapM_fetch_iff hkeyed).mp ⟨_, hfetch⟩
    have hconfirms := upsertDeliveriesDelivered_confirms hupsert
    rw [markOfflineDeliveredInTransaction_eq, acknowledged_firstOccurrences] at hconfirms
    refine ⟨Or.inr ⟨huser, ?_⟩, ?_⟩
    · intro messageId hmem
      exact ⟨hnonzero messageId hmem, hrows messageId (mem_firstOccurrences.mpr hmem)⟩
    · refine ⟨?_, hacks.delivered, hacks.deliveries, hacks.confirmed, hconfirms.others, ?_, ?_⟩
      · rw [hconfirms.rest]
      · have hrest := hconfirms.rest
        rw [hrest]
      · apply (mapM_eq_ok_iff.mp hfetch).imp
        intro messageId record hrecord
        exact (fetchOfflineMessageForAck_eq_ok_iff hkeyed).mp hrecord

/-- It succeeds where it can. -/
theorem exists_ackOfflineMessages (hkeyed : tables.Keyed) (nowMs : Int)
    (hcan : tables.CanAck userId messageIds) : ∃ records after,
      tables.ackOfflineMessages nowMs userId messageIds = .ok (records, after) := by
  by_cases hempty : messageIds = []
  · exact ⟨[], tables, if_pos hempty⟩
  have hrows : ∀ messageId ∈ firstOccurrences messageIds,
      tables.hasOffline userId messageId = true :=
    fun messageId hmem => (hcan.2 messageId (mem_firstOccurrences.mp hmem)).2
  obtain ⟨records, hfetch⟩ := (exists_mapM_fetch_iff hkeyed).mpr hrows
  obtain ⟨messageId, hmem⟩ := exists_mem_of_ne_nil messageIds hempty
  obtain ⟨row, hrow, hkey⟩ := hasOffline_iff.mp (hcan.2 messageId hmem).2
  obtain ⟨after, hupsert⟩ : ∃ after, (tables.markOfflineDeliveredInTransaction userId
      (firstOccurrences messageIds) nowMs).upsertDeliveriesDelivered userId
      (firstOccurrences messageIds) nowMs = .ok after := by
    rw [markOfflineDeliveredInTransaction_eq]
    apply exists_upsertDeliveriesDelivered
    · intro messageId hmem
      obtain ⟨row, hrow, hkey⟩ := hasOffline_iff.mp (hrows messageId hmem)
      have hmessage := hkeyed.offline_message row hrow
      rwa [hkey.2] at hmessage
    · have huser := hkeyed.offline_user row hrow
      rwa [hkey.1] at huser
  refine ⟨records, after, ?_⟩
  rw [ackOfflineMessages, if_neg hempty, if_neg hcan.1]
  exact bind_eq_ok_iff.mpr ⟨firstOccurrences messageIds,
    validateMessageIds_eq_ok_iff.mpr ⟨fun messageId hmem => (hcan.2 messageId hmem).1, rfl⟩,
    bind_eq_ok_iff.mpr ⟨records, hfetch, bind_eq_ok_iff.mpr ⟨after, hupsert, rfl⟩⟩⟩

end Tables

/-- An acknowledgement that is possible succeeds. -/
theorem Database.ackOfflineMessages_of_canAck (database : Database) (nowMs : Int)
    (hcan : database.1.CanAck userId messageIds) : ∃ records after,
      database.ackOfflineMessages nowMs userId messageIds = (.ok records, after) ∧
        AcksExactly userId messageIds nowMs database.1 records after.1 := by
  rcases transact_cases database
    (fun tables => tables.ackOfflineMessages nowMs userId messageIds)
    (fun _ _ _ hkeyed hack => (ackOfflineMessages_ok hack).acknowledges.keyed hkeyed)
    with ⟨records, after, hbody, hresult⟩ | ⟨status, hbody, -⟩
  · exact ⟨records, after, hresult, (ackOfflineMessages_exactly database.2 hbody).2⟩
  · obtain ⟨records, after, hack⟩ := exists_ackOfflineMessages database.2 nowMs hcan
    cases hbody.symm.trans hack

/-- Acknowledging is all or nothing. It succeeds exactly for the empty list and for nonzero ids
that all have an offline row of the user. Then these rows are marked and the deliveries
recorded, all else stays, and the records are returned in the order of the ids, each once. A
failure leaves the tables as they were. -/
theorem Database.ackOfflineMessages_allOrNothing (database : Database) (nowMs : Int)
    (userId : UInt64) (messageIds : List UInt64) :
    ((∃ records, (database.ackOfflineMessages nowMs userId messageIds).1 = .ok records) ↔
      messageIds = [] ∨ database.1.CanAck userId messageIds) ∧
    (messageIds = [] →
      database.ackOfflineMessages nowMs userId messageIds = (.ok [], database)) ∧
    (∀ records after,
      database.ackOfflineMessages nowMs userId messageIds = (.ok records, after) →
        AcksExactly userId messageIds nowMs database.1 records after.1) ∧
    ∀ status after,
      database.ackOfflineMessages nowMs userId messageIds = (.error status, after) →
        after = database := by
  rcases transact_cases database
    (fun tables => tables.ackOfflineMessages nowMs userId messageIds)
    (fun _ _ _ hkeyed hack => (ackOfflineMessages_ok hack).acknowledges.keyed hkeyed)
    with ⟨records, after, hbody, hresult⟩ | ⟨status, hbody, hresult⟩
  · obtain ⟨hcan, hexactly⟩ := ackOfflineMessages_exactly database.2 hbody
    rw [show database.ackOfflineMessages nowMs userId messageIds = (.ok records, after)
      from hresult]
    refine ⟨⟨fun _ => hcan, fun _ => ⟨records, rfl⟩⟩, ?_, ?_, ?_⟩
    · rintro rfl
      obtain ⟨rfl, hsame⟩ := Prod.mk.inj (Except.ok.inj hbody)
      exact congrArg (Prod.mk (Except.ok [])) (Subtype.ext hsame.symm)
    · intro found last hfound
      obtain ⟨hrecords, rfl⟩ := Prod.mk.inj hfound
      rwa [← Except.ok.inj hrecords]
    · intro status last herror
      cases (Prod.mk.inj herror).1
  · have hempty : messageIds ≠ [] := by
      rintro rfl
      cases hbody
    have hcannot : ¬ database.1.CanAck userId messageIds := by
      intro hcan
      obtain ⟨records, after, hack⟩ :=
        exists_ackOfflineMessages database.2 nowMs hcan
      cases hbody.symm.trans hack
    rw [show database.ackOfflineMessages nowMs userId messageIds = (.error status, database)
      from hresult]
    refine ⟨⟨?_, ?_⟩, fun hnil => (hempty hnil).elim, ?_, ?_⟩
    · rintro ⟨records, hrecords⟩
      cases hrecords
    · rintro (hnil | hcan)
      · exact (hempty hnil).elim
      · exact (hcannot hcan).elim
    · intro records after hfound
      cases (Prod.mk.inj hfound).1
    · intro other after herror
      exact (Prod.mk.inj herror).2.symm

end LiteIM
