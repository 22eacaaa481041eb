/-
# Delivery status

Over any run of storage writes a delivery goes forward only and says the truth: it counts as
delivered only after the user acknowledged the message, and the user could acknowledge it as
the receiver of a private message or as somebody it was waiting for. One statement after the
other either leaves deliveries alone, adds a pending one or raises those of an acknowledging
user, so each call does as much when it works alone, and a run of calls on pooled connections
is a run of such calls while its transactions can be ended. When the `COMMIT` of an
acknowledgement fails, the call returns an error, and the next call on the connection commits
the delivery.
-/

import LiteIM.Storage.FailedWrites

namespace LiteIM

open Foundation Fallible StorageSession List
open WriteCall OfflineMessageDao DeliveryStatus MySqlStorage Server

variable {acknowledged : UInt64 → UInt64 → Prop} {after before tables : Tables}
  {userId messageId : UInt64}

/-! ## What a statement does to deliveries -/

/-- Deliveries go forward, and one that counts as delivered did so before or is acknowledged. -/
structure Delivers (acknowledged : UInt64 → UInt64 → Prop) (before after : Tables) : Prop where
  later : ∀ row ∈ before.messageDeliveries, ∃ later ∈ after.messageDeliveries, row.Later later
  confirmed : ∀ row ∈ after.messageDeliveries,
    kDelivered.toNat ≤ row.status.toNat →
      row ∈ before.messageDeliveries ∨ acknowledged row.userId row.messageId

namespace Delivers

theorem of_same (hsame : after.messageDeliveries = before.messageDeliveries) :
    Delivers acknowledged before after where
  later row hmem := ⟨row, hsame ▸ hmem, .refl row⟩
  confirmed _ hmem _ := Or.inl (hsame ▸ hmem)

theorem trans (hfirst : Delivers acknowledged before tables)
    (hrest : Delivers acknowledged tables after) : Delivers acknowledged before after where
  later row hmem := by
    obtain ⟨mid, hmid, hrow⟩ := hfirst.later row hmem
    obtain ⟨later, hlater, hrow'⟩ := hrest.later mid hmid
    exact ⟨later, hlater, hrow.trans hrow'⟩
  confirmed row hmem hstatus := by
    rcases hrest.confirmed row hmem hstatus with hmid | hacknowledged
    · exact hfirst.confirmed row hmid hstatus
    · exact Or.inr hacknowledged

theorem mono {confirmed : UInt64 → UInt64 → Prop} (hdelivers : Delivers acknowledged before after)
    (himp : ∀ userId messageId, acknowledged userId messageId → confirmed userId messageId) :
    Delivers confirmed before after where
  later := hdelivers.later
  confirmed row hmem hstatus := (hdelivers.confirmed row hmem hstatus).imp_right (himp _ _)

end Delivers

/-- The statements on messages; only what is acknowledged is marked as delivered. -/
def Permits (acknowledged : UInt64 → UInt64 → Prop) : StorageStatement → Prop
  | .upsertDelivered newStatus userId messageId _ =>
    newStatus = greatest ∧ acknowledged userId messageId
  | .insertGroup _ _ => False
  | .insertGroupMember _ _ _ => False
  | .friend _ => False
  | _ => True

theorem report_eq_ok_iff {α β : Type} {outcome : Except SqlError α} {answer : α → β} {result : β} :
    StorageStatement.report outcome answer = .ok result ↔
      ∃ value, outcome = .ok value ∧ answer value = result := by
  cases outcome with
  | ok | error => simp [StorageStatement.report]

theorem delivers_effect {statement : StorageStatement} {result : statement.Result}
    (hpermits : Permits acknowledged statement)
    (heffect : statement.effect tables = .ok (result, after)) :
    Delivers acknowledged tables after := by
  cases statement with
  | prepare | selectMessage | selectOffline | updateOffline | selectGroup =>
    cases heffect
    exact .of_same rfl
  | insertMessage =>
    obtain ⟨⟨row, mid⟩, hinsert, hresult⟩ := report_eq_ok_iff.mp heffect
    cases hresult
    obtain ⟨-, -, -, -, rfl⟩ := Tables.insertMessage_ok hinsert
    exact .of_same rfl
  | insertOffline =>
    obtain ⟨mid, hinsert, hresult⟩ := report_eq_ok_iff.mp heffect
    cases hresult
    obtain ⟨-, -, -, rfl⟩ := Tables.insertOffline_ok hinsert
    exact .of_same rfl
  | insertGroup | insertGroupMember | friend => exact hpermits.elim
  | upsertPending userId messageId =>
    obtain ⟨mid, hupsert, hresult⟩ := report_eq_ok_iff.mp heffect
    cases hresult
    rcases Tables.upsertPending_ok hupsert with rfl | ⟨-, rfl⟩
    · exact .of_same rfl
    · refine ⟨fun row hmem => ⟨row, mem_append_left _ hmem, .refl row⟩, ?_⟩
      intro row hmem hstatus
      rcases mem_append.mp hmem with hold | hnew
      · exact Or.inl hold
      · rw [mem_singleton.mp hnew] at hstatus
        have hpending : 2 ≤ kPending.toNat := hstatus
        exact absurd hpending (by decide)
  | upsertDelivered =>
    obtain ⟨rfl, hacknowledged⟩ := hpermits
    obtain ⟨mid, hupsert, hresult⟩ := report_eq_ok_iff.mp heffect
    cases hresult
    have hacks := Tables.upsertDelivered_acknowledges hupsert
    refine ⟨hacks.deliveries, fun row hmem _ => (hacks.confirmed row hmem).imp_right ?_⟩
    rintro ⟨rfl, hmessage⟩
    rw [mem_singleton.mp hmessage]
    exact hacknowledged

/-! ## What a session does to deliveries -/

section Sessions

variable {α : Type} {pre : Tables → Prop} {sql : StorageStatement}

theorem ensures_statement {post : sql.Result → Tables → Prop}
    (hpost : ∀ tables result after, pre tables → sql.effect tables = .ok (result, after) →
      post result after) : Ensures storageDialect.inside pre (statement sql) post := by
  intro tables trace result last hpre hexec
  obtain ⟨reply, next, rest, -, hanswer, hrest⟩ := Program.exec_call_iff.mp hexec
  obtain ⟨-, rfl, rfl⟩ := Program.exec_ret_iff.mp hrest
  rcases hanswer with ⟨value, rfl, heffect⟩ | ⟨status, rfl, -⟩
  · exact hpost tables value _ hpre heffect
  · trivial

/-- A session that keeps what it finds. -/
def Keeps (pre : Tables → Prop) (session : StorageSession α) : Prop :=
  Ensures storageDialect.inside pre session fun _ => pre

theorem Keeps.bind {β : Type} {session : StorageSession α} {f : α → StorageSession β}
    (hsession : Keeps pre session) (hnext : ∀ value, Keeps pre (f value)) :
    Keeps pre (session >>= f) := Ensures.bind _ hsession hnext

theorem keeps_pure (value : α) : Keeps pre (pure value) := ensures_pure fun _ => id

theorem keeps_unless (unexpected : Prop) [Decidable unexpected] {error : Error} {value : α} :
    Keeps pre (if unexpected then throw error else pure value) := by
  split_ifs
  · exact ensures_throw
  · exact keeps_pure value

theorem keeps_prepare : Keeps pre (statement .prepare) := by
  refine ensures_statement fun tables result after hpre heffect => ?_
  cases heffect
  exact hpre

variable {acknowledged : UInt64 → UInt64 → Prop}

theorem keeps_statement (hpermits : Permits acknowledged sql) :
    Keeps (Delivers acknowledged before) (statement sql) :=
  ensures_statement fun _ _ _ hpre heffect => hpre.trans (delivers_effect hpermits heffect)

theorem keeps_attempt (hpermits : Permits acknowledged sql) :
    Keeps (Delivers acknowledged before) (attempt sql) := by
  intro tables trace result last hpre hexec
  obtain ⟨reply, next, rest, -, hanswer, hrest⟩ := Program.exec_call_iff.mp hexec
  obtain ⟨-, rfl, rfl⟩ := Program.exec_ret_iff.mp hrest
  rcases hanswer with ⟨value, -, heffect⟩ | ⟨-, -, rfl⟩
  · exact hpre.trans (delivers_effect hpermits heffect)
  · exact hpre

theorem keeps_insertMessageInTransaction (nowMs : Int) (message : MessageRecord) :
    Keeps (Delivers acknowledged before) (MessageDao.insertMessageInTransaction nowMs message) := by
  refine ensures_ofExcept_bind fun checked _ => keeps_prepare.bind fun _ => ?_
  refine .bind (keeps_attempt trivial) fun reply => ?_
  cases reply with
  | error failure =>
    dsimp only
    split_ifs
    · exact ensures_throw
    · exact ensures_throw
  | ok answer =>
    dsimp only
    split_ifs
    · exact ensures_throw
    · refine keeps_prepare.bind fun _ => .bind (keeps_statement trivial) fun found => ?_
      cases found with
      | none => exact ensures_throw
      | some message => exact keeps_pure message

theorem keeps_insertOfflineMessage (userId messageId : UInt64) (createdAtMs : Int) :
    Keeps (Delivers acknowledged before) (insertOfflineMessage userId messageId createdAtMs) :=
  keeps_prepare.bind fun _ => .bind (keeps_statement trivial) fun _ => keeps_unless _

theorem keeps_upsertDeliveryPending (userId messageId : UInt64) :
    Keeps (Delivers acknowledged before) (upsertDeliveryPending userId messageId) :=
  keeps_prepare.bind fun _ => .bind (keeps_statement trivial) fun _ => keeps_unless _

/-- A select changes nothing, so what it finds was there at the beginning. -/
theorem ensures_select
    (hread : ∀ result after, sql.effect before = .ok (result, after) → after = before) :
    Ensures storageDialect.inside (· = before) (statement sql)
      fun result now => now = before ∧ sql.effect before = .ok (result, before) := by
  refine ensures_statement ?_
  rintro _ result after rfl heffect
  obtain rfl := hread result after heffect
  exact ⟨rfl, heffect⟩

theorem ensures_queryMessageById (messageId : UInt64) :
    Ensures storageDialect.inside (· = before) (MessageDao.queryMessageById messageId)
      fun found now => now = before ∧
        ∃ row ∈ before.messages, row.messageId = messageId ∧ row.toRecord = found := by
  rw [MessageDao.queryMessageById]
  split_ifs
  · exact ensures_throw
  refine Ensures.bind _ keeps_prepare fun _ => Ensures.bind _ (ensures_select ?_) ?_
  · intro result after heffect
    exact (Prod.mk.inj (Except.ok.inj heffect)).2.symm
  · intro found
    cases found with
    | none => exact ensures_throw
    | some message =>
      refine ensures_of_fact fun heffect => ensures_pure fun now hnow => ⟨hnow, ?_⟩
      obtain ⟨row, hfind, hrecord⟩ :=
        Option.map_eq_some_iff.mp (Prod.mk.inj (Except.ok.inj heffect)).1
      have hid := find?_some hfind
      exact ⟨row, mem_of_find?_eq_some hfind, of_decide_eq_true hid, hrecord⟩

theorem ensures_fetchOfflineMessageForAck (userId messageId : UInt64) :
    Ensures storageDialect.inside (· = before) (fetchOfflineMessageForAck userId messageId)
      fun _ now => now = before ∧ before.hasOffline userId messageId = true := by
  refine Ensures.bind _ (ensures_select ?_) ?_
  · intro result after heffect
    exact (Prod.mk.inj (Except.ok.inj heffect)).2.symm
  · intro found
    rcases found with _ | ⟨record, _ | ⟨second, found⟩⟩
    · exact ensures_throw
    · refine ensures_of_fact fun heffect => ensures_pure fun now hnow => ⟨hnow, ?_⟩
      have hmem := mem_of_mem_take
        ((Prod.mk.inj (Except.ok.inj heffect)).1 ▸ mem_cons_self (a := record))
      obtain ⟨row, hrow, -⟩ := mem_filterMap.mp hmem
      rw [mem_filter, decide_eq_true_eq] at hrow
      exact Tables.hasOffline_iff.mpr ⟨row, hrow⟩
    · exact ensures_throw

theorem ensures_fetchRecords (userId : UInt64) (messageIds : List UInt64) :
    Ensures storageDialect.inside (· = before) (fetchRecords userId messageIds)
      fun _ now => now = before ∧
        ∀ messageId ∈ messageIds, before.hasOffline userId messageId = true := by
  induction messageIds with
  | nil => exact ensures_pure fun now hnow => ⟨hnow, forall_mem_nil _⟩
  | cons messageId rest ih =>
    refine Ensures.bind _ (ensures_fetchOfflineMessageForAck userId messageId) fun record => ?_
    refine ensures_of_fact fun hfirst => Ensures.bind _ ih fun records => ?_
    exact ensures_pure fun now hnow => ⟨hnow.1, forall_mem_cons.mpr ⟨hfirst, hnow.2⟩⟩

end Sessions

/-! ## Calls -/

/-- The message was sent to the user in private, or waits for the user. -/
def Tables.Addressed (tables : Tables) (userId messageId : UInt64) : Prop :=
  (∃ row ∈ tables.messages, row.messageId = messageId ∧ row.conversation.type = .kPrivate ∧
    row.receiverId = userId) ∨ tables.hasOffline userId messageId = true

namespace WriteCall

/-- The call is an acknowledgement of the message by the user. -/
def Acknowledges (userId messageId : UInt64) : WriteCall → Prop
  | .ackOfflineMessages _ user messageIds => user = userId ∧ messageId ∈ messageIds
  | .ackPrivateMessageDelivery _ user message => user = userId ∧ message = messageId
  | _ => False

instance (userId messageId : UInt64) : DecidablePred (Acknowledges userId messageId) :=
  fun call => by cases call <;> unfold Acknowledges <;> infer_instance

/-- The saves and acknowledgements of messages. -/
def OfMessages : WriteCall → Prop
  | .acceptFriendRequest _ _ _ => False
  | .createGroup _ _ => False
  | _ => True

/-- What a call does to deliveries when it works alone. -/
abbrev Delivers (call : WriteCall) (before : Tables) : Tables → Prop :=
  LiteIM.Delivers (fun userId messageId => call.Acknowledges userId messageId ∧
    before.Addressed userId messageId) before

variable {α : Type} {call : WriteCall} {nowMs : Int}

/-- The program does what the call may do to deliveries. -/
def Allows (call : WriteCall) (before : Tables) (program : StorageDao α) : Prop :=
  Ensures storageDialect.alone (· = before) program fun _ => call.Delivers before

theorem allows_inTransaction {session : StorageSession α}
    (hsession : Ensures storageDialect.inside (· = before) session fun _ => call.Delivers before) :
    call.Allows before (inTransaction session) :=
  storageDialect.ensures_transaction SqlFailure.status hsession

theorem ensures_of_keeps {session : StorageSession α}
    (hkeeps : Keeps (call.Delivers before) session) :
    Ensures storageDialect.inside (· = before) session fun _ => call.Delivers before :=
  Ensures.mono_pre hkeeps fun _ hnow => .of_same (congrArg _ hnow)

theorem allows_saveMessageWithOfflineRecipients (offlineCreatedAtMs : Int)
    (message : MessageRecord) (userIds : List UInt64) : call.Allows before
      (MySqlStorage.saveMessageWithOfflineRecipients nowMs offlineCreatedAtMs message userIds) := by
  refine ensures_ofExcept_bind fun unique _ => allows_inTransaction (ensures_of_keeps ?_)
  refine (keeps_insertMessageInTransaction nowMs message).bind fun saved => ?_
  refine .bind (ensures_forM fun userId _ => ?_) fun _ => keeps_pure saved
  exact (keeps_insertOfflineMessage userId _ _).bind fun _ => keeps_upsertDeliveryPending userId _

theorem allows_saveOfflineMessage (userId messageId : UInt64) :
    call.Allows before (OfflineMessageDao.saveOfflineMessage nowMs userId messageId) := by
  have hbind {value : UInt64} {fieldName : String} {pre : Tables → Prop} :
      Keeps pre (bindUint64 value fieldName) := keeps_unless _
  refine allows_inTransaction (ensures_of_keeps (keeps_prepare.bind fun _ => ?_))
  refine hbind.bind fun _ => hbind.bind fun _ => .bind (keeps_attempt trivial) fun reply => ?_
  cases reply with
  | error =>
    dsimp only
    split_ifs
    · exact ensures_throw
    · exact ensures_throw
  | ok =>
    dsimp only
    split_ifs
    · exact ensures_throw
    · exact keeps_upsertDeliveryPending userId messageId

theorem allows_ackOfflineMessages (userId : UInt64) (messageIds : List UInt64) :
    (ackOfflineMessages nowMs userId messageIds).Allows before
      (OfflineMessageDao.ackOfflineMessages nowMs userId messageIds) := by
  rw [OfflineMessageDao.ackOfflineMessages]
  split_ifs
  · exact ensures_pure fun _ hnow => .of_same (congrArg _ hnow)
  · exact ensures_throw
  refine ensures_ofExcept_bind fun unique hvalidate => allows_inTransaction ?_
  have hgiven : ∀ messageId ∈ unique, messageId ∈ messageIds := by
    simpa using fun messageId => ((Tables.validateOfflineRecipients_ok
      (Tables.validateMessageIds_ok hvalidate) nodup_nil).2 messageId).mp
  refine Ensures.bind _ keeps_prepare fun _ => ?_
  refine Ensures.bind _ (ensures_fetchRecords userId unique) fun records => ?_
  refine ensures_of_fact fun hwaiting => ensures_of_keeps ?_
  refine .bind (keeps_prepare.bind fun _ => ensures_forM fun messageId _ => ?_) fun _ => ?_
  · exact keeps_statement trivial
  refine .bind (keeps_prepare.bind fun _ => ensures_forM fun messageId hmem => ?_) fun _ => ?_
  · refine Keeps.bind (keeps_statement ?_) fun _ => keeps_pure ()
    exact ⟨rfl, ⟨rfl, hgiven messageId hmem⟩, Or.inr (hwaiting messageId hmem)⟩
  · exact keeps_pure records

theorem allows_ackPrivateMessageDelivery (userId messageId : UInt64) :
    (ackPrivateMessageDelivery nowMs userId messageId).Allows before
      (MySqlStorage.ackPrivateMessageDelivery nowMs userId messageId) := by
  rw [MySqlStorage.ackPrivateMessageDelivery]
  split_ifs
  · exact ensures_throw
  · exact ensures_throw
  refine allows_inTransaction (Ensures.bind _ (ensures_queryMessageById messageId) ?_)
  intro found
  split_ifs with hother
  · exact ensures_throw
  refine ensures_of_fact fun hfound => ensures_of_keeps ?_
  obtain ⟨row, hmem, hid, rfl⟩ := hfound
  rw [not_or, not_not, not_not] at hother
  refine .bind (keeps_prepare.bind fun _ => ?_) fun _ => keeps_pure _
  exact .bind (keeps_statement ⟨ifGreater_eq_greatest, ⟨rfl, rfl⟩,
    Or.inl ⟨row, hmem, hid, hother⟩⟩) fun _ => keeps_unless _

theorem delivers_perform (call : WriteCall) (hcall : call.OfMessages) :
    Program.Triple storageDialect.alone (· = before) call.perform
      (byOutcome (fun _ => call.Delivers before) fun _ _ => True) := by
  cases call with
  | saveMessageWithOfflineRecipients => exact allows_saveMessageWithOfflineRecipients _ _ _
  | saveOfflineMessage => exact allows_saveOfflineMessage _ _
  | ackOfflineMessages => exact allows_ackOfflineMessages _ _
  | ackPrivateMessageDelivery => exact allows_ackPrivateMessageDelivery _ _
  | acceptFriendRequest | createGroup => exact hcall.elim

end WriteCall

/-! ## Runs -/

section Runs

variable {κ : Type} [DecidableEq κ]

abbrev Write := Performance storageDialect Error Output

/-- A save or acknowledgement whose `COMMIT` or `ROLLBACK`, if it got so far, did not fail. -/
structure EndedWrite (before : Server κ storageDialect) (write : Write)
    (after : Server κ storageDialect) : Prop where
  ofMessages : write.call.OfMessages
  performs : before.Performs perform write after
  ended : ∀ event ∈ write.trace, event.leavesOpen = false

/-- The write is a successful acknowledgement of a message that was addressed to the user. -/
def Write.Confirms (write : Write) (before : Tables) (userId messageId : UInt64) : Prop :=
  write.result.isOk = true ∧ write.call.Acknowledges userId messageId ∧
    before.Addressed userId messageId

/-- A write of the run confirms that the user has the message. -/
def ConfirmedBy (first : Server κ storageDialect) (writes : List Write)
    (userId messageId : UInt64) : Prop :=
  ∃ past write rest before after, writes = past ++ write :: rest ∧
    Path EndedWrite first past before ∧ EndedWrite before write after ∧
    write.Confirms before.committed userId messageId

variable {first last : Server κ storageDialect} {write : Write} {writes : List Write}

theorem EndedWrite.delivers (hrest : first.AtRest) (hwrite : EndedWrite first write last) :
    last.AtRest ∧ Delivers (write.Confirms first.committed) first.committed last.committed := by
  obtain ⟨hlast, final, halone, hcommitted⟩ :=
    hwrite.performs.keeps isTransactional_perform hrest hwrite.ended
  refine ⟨hlast, ?_⟩
  have hdelivers := write.call.delivers_perform hwrite.ofMessages _ _ _ _ rfl halone
  obtain ⟨call, trace, result⟩ := write
  cases result with
  | error => exact .of_same (congrArg _ hcommitted)
  | ok value =>
    rw [show last.committed = final from hcommitted]
    exact hdelivers.mono fun userId messageId hacknowledged => ⟨rfl, hacknowledged⟩

theorem delivers_run (hrest : first.AtRest) (hrun : Path EndedWrite first writes last) :
    last.AtRest ∧ Delivers (fun _ _ => True) first.committed last.committed := by
  refine hrun.state_invariant (fun server => server.AtRest ∧
    Delivers (fun _ _ => True) first.committed server.committed) ⟨hrest, .of_same rfl⟩ ?_
  rintro before write after ⟨hbefore, hrun⟩ hwrite
  obtain ⟨hafter, hdelivers⟩ := hwrite.delivers hbefore
  exact ⟨hafter, hrun.trans (hdelivers.mono fun _ _ _ => trivial)⟩

/-- Delivery status is monotone and truthful in every run of storage writes in which no `COMMIT`
and no `ROLLBACK` fails; other requests may fail, and time passes between the calls. Each row
keeps its key, its status does not decrease and its time of delivery stays once it is set. A row
is delivered only if an acknowledgement by the user succeeded before, when the message was
addressed to the user. -/
theorem delivery_monotone_truthful {κ : Type} [DecidableEq κ]
    {first last : Server κ storageDialect} {writes : List Write} (hrest : first.AtRest)
    (hfresh : first.committed.messageDeliveries = []) (hrun : Path EndedWrite first writes last) :
    (∀ past rest mid, writes = past ++ rest → Path EndedWrite first past mid →
      Path EndedWrite mid rest last → ∀ row ∈ mid.committed.messageDeliveries,
        ∃ later ∈ last.committed.messageDeliveries, row.Later later) ∧
    ∀ row ∈ last.committed.messageDeliveries, kDelivered.toNat ≤ row.status.toNat →
      ConfirmedBy first writes row.userId row.messageId := by
  constructor
  · intro past rest mid _ hpast hrest'
    exact (delivers_run (delivers_run hrest hpast).1 hrest').2.later
  · refine hrun.invariant (fun writes last => ∀ row ∈ last.committed.messageDeliveries,
      kDelivered.toNat ≤ row.status.toNat → ConfirmedBy first writes row.userId row.messageId) ?_ ?_
    · simp [hfresh]
    · intro past before write after hpath ih hwrite row hmem hstatus
      obtain ⟨-, hdelivers⟩ := hwrite.delivers (delivers_run hrest hpath).1
      rcases hdelivers.confirmed row hmem hstatus with hold | hconfirms
      · obtain ⟨earlier, confirming, rest, start, finish, rfl, hfound⟩ := ih row hold hstatus
        exact ⟨earlier, confirming, rest ++ [write], start, finish, by simp, hfound⟩
      · exact ⟨past, write, [], before, after, rfl, hpath, hwrite, hconfirms⟩

end Runs

/-- User 2 acknowledges the message twice; the time of the first acknowledgement stays. -/
theorem delivery_monotone_truthful_twice :
    ∃ (writes : List Write) (last : Server Unit storageDialect),
      Path EndedWrite twoUserServer writes last ∧
      writes.map Performance.call = [.saveMessageWithOfflineRecipients 5 5 greeting [2],
        .ackPrivateMessageDelivery 6 2 1, .ackOfflineMessages 9 2 [1]] ∧
      last.committed.messageDeliveries = [⟨1, 2, .kDelivered, some 6⟩] ∧
      ConfirmedBy twoUserServer writes 2 1 := by
  let saved := twoUserServer.performFailing perform serverGone (fun _ => false)
    (.saveMessageWithOfflineRecipients 5 5 greeting [2])
  let pushed := saved.2.performFailing perform serverGone (fun _ => false)
    (.ackPrivateMessageDelivery 6 2 1)
  let pulled := pushed.2.performFailing perform serverGone (fun _ => false)
    (.ackOfflineMessages 9 2 [1])
  have hends : ∀ write ∈ [saved.1, pushed.1, pulled.1], ∀ event ∈ write.trace,
      event.leavesOpen = false := by
    decide +kernel
  have hrun : Path EndedWrite twoUserServer [saved.1, pushed.1, pulled.1] pulled.2 :=
    .cons ⟨trivial, performs_performFailing _ _ _ _ _, hends _ (by simp)⟩
      (.cons ⟨trivial, performs_performFailing _ _ _ _ _, hends _ (by simp)⟩
        (.single ⟨trivial, performs_performFailing _ _ _ _ _, hends _ (by simp)⟩))
  have hlast : pulled.2.committed.messageDeliveries = [⟨1, 2, .kDelivered, some 6⟩] := by
    decide +kernel
  exact ⟨_, _, hrun, rfl, hlast, (delivery_monotone_truthful ⟨rfl, fun _ => rfl⟩ rfl hrun).2
    ⟨1, 2, .kDelivered, some 6⟩ (by rw [hlast]; exact mem_singleton_self _) (by decide)⟩

/-- The acknowledgement's `COMMIT` fails, and the call returns an error. The next call to get the
connection, another save, commits it: the message counts as delivered although no
acknowledgement succeeded. -/
theorem failed_acknowledgement_delivered :
    ∃ (writes : List Write) (last : Server Unit storageDialect),
      twoUserServer.AtRest ∧ twoUserServer.committed.messageDeliveries = [] ∧
      Path (Performs perform) twoUserServer writes last ∧
      writes.map Performance.call = [.saveMessageWithOfflineRecipients 5 5 greeting [2],
        .ackPrivateMessageDelivery 6 2 1, .saveMessageWithOfflineRecipients 7 7 greeting []] ∧
      (∀ write ∈ writes, write.call.Acknowledges 2 1 → write.result.isOk = false) ∧
      last.committed.messageDeliveries = [⟨1, 2, .kDelivered, some 6⟩] := by
  let saved := twoUserServer.performFailing perform serverGone (fun _ => false)
    (.saveMessageWithOfflineRecipients 5 5 greeting [2])
  let acked := saved.2.performFailing perform serverGone commitFails
    (.ackPrivateMessageDelivery 6 2 1)
  let second := acked.2.performFailing perform serverGone (fun _ => false)
    (.saveMessageWithOfflineRecipients 7 7 greeting [])
  have hrun : Path (Performs perform) twoUserServer [saved.1, acked.1, second.1] second.2 :=
    .cons (performs_performFailing _ _ _ _ _) (.cons (performs_performFailing _ _ _ _ _)
      (.single (performs_performFailing _ _ _ _ _)))
  have hfailed : ∀ write ∈ [saved.1, acked.1, second.1], write.call.Acknowledges 2 1 →
      write.result.isOk = false := by
    decide +kernel
  exact ⟨_, _, ⟨rfl, fun _ => rfl⟩, rfl, hrun, rfl, hfailed, by decide +kernel⟩

end LiteIM
