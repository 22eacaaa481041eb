/-
# What an answered call shows

An event is a call with its answer. `Effect` is what it did to the tables, and
`Evidence` is what its answer shows about them from then on: a message that was
saved or found is stored, a fallback row that was added or reported as present is
there, a delivery that was reported as confirmed is confirmed.

Evidence outlasts everything that happens to the tables afterwards, so a service
that keeps the answers it has seen may rely on them, whoever else is active.
-/

import LiteIM.Service.World

namespace LiteIM

open Foundation Tables Database

/-- The delivery statuses after which a message is not pushed again. -/
def isTerminalDeliveryStatus (status : DeliveryStatus) : Bool :=
  status = .kDelivered ∨ status = .kReadReserved

/-- The calls that write accounts, friends or groups. -/
def StorageCall.writesDirectory : StorageCall → Bool
  | .insertUser _ => true
  | .createFriendRequest _ _ => true
  | .acceptFriendRequest _ _ => true
  | .rejectFriendRequest _ _ => true
  | .createGroup _ => true
  | .addGroupMember _ _ => true
  | _ => false

namespace World

/-- What an event did to the tables. -/
def Effect (before after : Tables) : Event services → Prop
  | ⟨.storage (.saveMessageWithOfflineRecipients message offlineUserIds), .ok saved⟩ =>
    Saves message offlineUserIds before saved after
  | ⟨.storage (.saveOfflineMessage userId messageId), .ok _⟩ =>
    before.hasOffline userId messageId = false ∧
      AddsRecipients messageId [userId] before after
  | ⟨.storage (.ackOfflineMessages userId messageIds), .ok records⟩ =>
    AcksOffline userId messageIds before records after
  | ⟨.storage (.ackPrivateMessageDelivery userId messageId), .ok message⟩ =>
    AcksPrivate userId messageId before message after
  | ⟨.storage (.insertUser request), .ok _⟩ => AddsUser request before after
  | ⟨.storage (.createFriendRequest requesterId targetUserId), .ok record⟩ =>
    record.status = .kPending ∧
      CreatesRequest requesterId targetUserId before after
  | ⟨.storage (.acceptFriendRequest requesterId targetUserId), .ok _⟩ =>
    AcceptsRequest requesterId targetUserId before after
  | ⟨.storage (.rejectFriendRequest requesterId targetUserId), .ok _⟩ =>
    RejectsRequest requesterId targetUserId before after
  | ⟨.storage (.createGroup request), .ok group⟩ =>
    AddsGroup request before group after
  | ⟨.storage (.addGroupMember groupId userId), .ok _⟩ =>
    AddsMember groupId userId before after
  | _ => after = before

/-- The row a save reported, with what the caller asked for. -/
structure SavedRow (tables : Tables) (message : MessageRecord) (offlineUserIds : List UInt64)
    (saved : MessageRecord) (row : MessageRow) : Prop where
  stored : row ∈ tables.messages
  record : saved = row.toRecord
  conversation : row.conversation = message.conversation
  sender : row.senderId = message.senderId
  receiver : row.receiverId = storedReceiver message
  text : row.messageText = message.text
  clientMsgId : row.clientMsgId = tables.nullIfEmpty message.clientMsgId
  offline : ∀ userId ∈ offlineUserIds, tables.hasOffline userId row.messageId = true

/-- What the answer of a call shows about the tables. -/
def Evidence (tables : Tables) : Event services → Prop
  | ⟨.storage (.saveMessageWithOfflineRecipients message offlineUserIds), .ok saved⟩ =>
    ∃ row, SavedRow tables message offlineUserIds saved row
  | ⟨.storage (.findMessageByClientMessageId senderId clientMsgId), .ok found⟩ =>
    ∃ row ∈ tables.messages, found = row.toRecord ∧
      tables.hasClientKey senderId clientMsgId row = true
  | ⟨.storage (.findDeliveryStatus userId messageId), .ok status⟩ =>
    isTerminalDeliveryStatus status = true → tables.Delivered userId messageId
  | ⟨.storage (.saveOfflineMessage userId messageId), .ok _⟩ =>
    tables.hasOffline userId messageId = true
  | ⟨.storage (.saveOfflineMessage userId messageId), .error status⟩ =>
    status.code = .alreadyExists → tables.hasOffline userId messageId = true
  | _ => True

variable {before after : Tables}

theorem SavedRow.later (hlater : Later before after) {message saved : MessageRecord}
    {offlineUserIds : List UInt64} {row : MessageRow}
    (hrow : SavedRow before message offlineUserIds saved row) :
    SavedRow after message offlineUserIds saved row where
  stored := hlater.messages row hrow.stored
  record := hrow.record
  conversation := hrow.conversation
  sender := hrow.sender
  receiver := hrow.receiver
  text := hrow.text
  clientMsgId := by rw [hrow.clientMsgId, nullIfEmpty, nullIfEmpty, hlater.collation]
  offline userId hmem := hlater.offline userId _ (hrow.offline userId hmem)

/-- Evidence stays. -/
theorem evidence_later (hlater : Later before after) {event : Event services}
    (hevidence : Evidence before event) : Evidence after event := by
  obtain ⟨call, reply⟩ := event
  cases call with
  | session | cache => trivial
  | storage call =>
    cases call with
    | saveMessageWithOfflineRecipients =>
      cases reply with
      | error => trivial
      | ok =>
        obtain ⟨row, hrow⟩ := hevidence
        exact ⟨row, hrow.later hlater⟩
    | findMessageByClientMessageId =>
      cases reply with
      | error => trivial
      | ok =>
        obtain ⟨row, hmem, hfound, hkey⟩ := hevidence
        refine ⟨row, hlater.messages row hmem, hfound, ?_⟩
        rwa [hasClientKey, hlater.collation]
    | findDeliveryStatus =>
      cases reply with
      | error => trivial
      | ok => exact fun hstatus => hlater.delivered _ _ (hevidence hstatus)
    | saveOfflineMessage =>
      cases reply with
      | error => exact fun hcode => hlater.offline _ _ (hevidence hcode)
      | ok => exact hlater.offline _ _ hevidence
    | _ => trivial

/-- A save appended the row it reported. -/
theorem savedRow_of_saves {message saved : MessageRecord} {offlineUserIds : List UInt64}
    (hsaves : Saves message offlineUserIds before saved after) :
    ∃ row, after.messages = before.messages ++ [row] ∧
      SavedRow after message offlineUserIds saved row := by
  obtain ⟨row, hrecord, hmessages, hkey⟩ := hsaves.row
  refine ⟨row, hmessages, ?_, hrecord, ?_, ?_, ?_, ?_, ?_, ?_⟩
  · simp [hmessages]
  · rw [← hsaves.conversation, hrecord]
    rfl
  · rw [← hsaves.sender, hrecord]
    rfl
  · rw [← hsaves.receiver, hrecord]
    rfl
  · rw [← hsaves.text, hrecord]
    rfl
  · rw [hkey, nullIfEmpty, nullIfEmpty, hsaves.collation]
  · intro userId hmem
    have hoffline := hsaves.hasOffline hmem
    rwa [hrecord] at hoffline

/-- What a storage call that may write did, and what its answer shows. -/
theorem allOrNothing_effect {call : StorageCall} {database : Database}
    {result : Except Error call.Result × Database} {did : call.Result → Tables → Prop}
    (hresult : AllOrNothing database result did) (hdone : ∀ value after, did value after →
      Effect database.1 after ⟨.storage call, .ok value⟩ ∧
        Evidence after ⟨.storage call, .ok value⟩)
    (hfailed : ∀ status, Effect database.1 database.1 ⟨.storage call, .error status⟩ ∧
      Evidence database.1 ⟨.storage call, .error status⟩) :
    Effect database.1 result.2.1 ⟨.storage call, result.1⟩ ∧
      Evidence result.2.1 ⟨.storage call, result.1⟩ := by
  rcases hresult with ⟨value, after, rfl, hdid⟩ | ⟨status, rfl⟩
  · exact hdone value after.1 hdid
  · exact hfailed status

/-- What a storage call did, and what its answer shows. -/
theorem answerStorage_effect (world : World) (call : StorageCall) :
    Effect world.database.1 (world.answerStorage call).2.database.1
      ⟨.storage call, (world.answerStorage call).1⟩ ∧
    Evidence (world.answerStorage call).2.database.1
      ⟨.storage call, (world.answerStorage call).1⟩ := by
  cases call with
  | saveMessageWithOfflineRecipients =>
    refine allOrNothing_effect (saveMessageWithOfflineRecipients_cases ..)
      (fun saved after hsaves => ?_) fun _ => ⟨rfl, trivial⟩
    obtain ⟨row, -, hrow⟩ := savedRow_of_saves hsaves
    exact ⟨hsaves, row, hrow⟩
  | findMessageByClientMessageId senderId clientMsgId =>
    simp only [answerStorage]
    cases hfind : world.database.1.findMessageByClientMessageId senderId clientMsgId with
    | error => exact ⟨rfl, trivial⟩
    | ok => exact ⟨rfl, findMessageByClientMessageId_ok hfind⟩
  | findDeliveryStatus userId messageId =>
    simp only [answerStorage]
    cases hfind : world.database.1.findDeliveryStatus userId messageId with
    | error => exact ⟨rfl, trivial⟩
    | ok =>
      refine ⟨rfl, fun hstatus => ?_⟩
      obtain ⟨row, hmem, hmessage, huser, rfl⟩ := findDeliveryStatus_ok hfind
      exact ⟨row, hmem, hmessage, huser, by simpa [isTerminalDeliveryStatus] using hstatus⟩
  | saveOfflineMessage userId messageId =>
    rcases saveOfflineMessage_cases world.database world.redis.nowMs userId messageId
      with ⟨after, hresult, hfree, hadds⟩ | ⟨status, hresult, hpresent⟩
    · simp only [answerStorage, hresult]
      exact ⟨⟨hfree, hadds⟩, hadds.hasOffline⟩
    · simp only [answerStorage, hresult]
      exact ⟨rfl, hpresent⟩
  | ackOfflineMessages =>
    exact allOrNothing_effect (ackOfflineMessages_cases ..)
      (fun _ _ hacks => ⟨hacks, trivial⟩) fun _ => ⟨rfl, trivial⟩
  | ackPrivateMessageDelivery =>
    exact allOrNothing_effect (ackPrivateMessageDelivery_cases ..)
      (fun _ _ hacks => ⟨hacks, trivial⟩) fun _ => ⟨rfl, trivial⟩
  | insertUser =>
    exact allOrNothing_effect (insertUser_cases ..)
      (fun _ _ hadds => ⟨hadds, trivial⟩) fun _ => ⟨rfl, trivial⟩
  | createGroup =>
    exact allOrNothing_effect (createGroup_cases ..)
      (fun _ _ hadds => ⟨hadds, trivial⟩) fun _ => ⟨rfl, trivial⟩
  | addGroupMember =>
    exact allOrNothing_effect (addGroupMember_cases ..)
      (fun _ _ hadds => ⟨hadds, trivial⟩) fun _ => ⟨rfl, trivial⟩
  | createFriendRequest requesterId targetUserId =>
    refine @allOrNothing_effect (.createFriendRequest requesterId targetUserId) world.database _ _
      (createFriendRequest_cases ..)
      (fun _ _ hcreates => ⟨hcreates, trivial⟩) fun _ => ⟨rfl, trivial⟩
  | acceptFriendRequest requesterId targetUserId =>
    refine @allOrNothing_effect (.acceptFriendRequest requesterId targetUserId) world.database _ _
      (acceptFriendRequest_cases ..)
      (fun _ _ haccepts => ⟨haccepts, trivial⟩) fun _ => ⟨rfl, trivial⟩
  | rejectFriendRequest requesterId targetUserId =>
    refine @allOrNothing_effect (.rejectFriendRequest requesterId targetUserId) world.database _ _
      (rejectFriendRequest_cases ..)
      (fun _ _ hrejects => ⟨hrejects, trivial⟩) fun _ => ⟨rfl, trivial⟩
  | _ => exact ⟨rfl, trivial⟩

theorem answerSession_database (network : Network) (world : World) (call : SessionCall) :
    (world.answerSession network call).2.database = world.database := by
  cases call <;> rfl

theorem answerCache_database (world : World) (call : CacheCall) :
    (world.answerCache call).2.database = world.database := by
  cases call <;> rfl

variable {faults : Faults} {world next : World}

theorem machine_session_database {call : SessionCall} {reply : call.Reply}
    (hanswer : machine faults (.session call) world reply next) :
    next.database = world.database := by
  rcases machine_next hanswer with rfl | rfl
  · rfl
  · exact answerSession_database _ world call

theorem machine_cache_database {call : CacheCall} {reply : Except Error call.Result}
    (hanswer : machine faults (.cache call) world reply next) : next.database = world.database := by
  rcases machine_next hanswer with rfl | rfl
  · rfl
  · exact answerCache_database world call

variable {call : StorageCall}

/-- A call that was rolled back did nothing, and shows nothing. -/
theorem storageFault_effect {tables : Tables} {status : Error} (hfault : StorageFault status) :
    Effect tables tables ⟨.storage call, .error status⟩ ∧
      Evidence tables ⟨.storage call, .error status⟩ := by
  cases call with
  | saveOfflineMessage =>
    refine ⟨rfl, fun hcode => ?_⟩
    rcases hfault with hio | hargument | hinternal
    · cases hcode.symm.trans hio
    · cases hcode.symm.trans hargument
    · cases hcode.symm.trans hinternal
  | _ => exact ⟨rfl, trivial⟩

/-- Every call did what its answer says. -/
theorem machine_effect {call : Call} {reply : call.Reply}
    (hanswer : machine faults call world reply next) :
    Effect world.database.1 next.database.1 ⟨call, reply⟩ ∧
      Evidence next.database.1 ⟨call, reply⟩ := by
  cases call with
  | session =>
    rw [machine_session_database hanswer]
    exact ⟨rfl, trivial⟩
  | cache =>
    rw [machine_cache_database hanswer]
    exact ⟨rfl, trivial⟩
  | storage call =>
    rcases hanswer with hanswer | ⟨-, ⟨status, hfault, rfl⟩, rfl⟩
    · obtain ⟨rfl, rfl⟩ := Prod.mk.inj hanswer
      exact answerStorage_effect world call
    · exact storageFault_effect hfault

/-- Calls about accounts, friends and groups leave messages alone. -/
theorem Effect.sameMessages {reply : Except Error call.Result}
    (heffect : Effect before after ⟨.storage call, reply⟩) (hwrites : call.writesDirectory = true) :
    SameMessages before after := by
  have hsame : after = before → SameMessages before after := by
    rintro rfl
    exact ⟨rfl, rfl, rfl, rfl, rfl⟩
  cases call with
  | insertUser =>
    cases reply with
    | error => exact hsame heffect
    | ok => exact AddsUser.sameMessages heffect
  | createFriendRequest =>
    cases reply with
    | error => exact hsame heffect
    | ok => exact heffect.2.sameMessages
  | acceptFriendRequest =>
    cases reply with
    | error => exact hsame heffect
    | ok => exact AcceptsRequest.sameMessages heffect
  | rejectFriendRequest =>
    cases reply with
    | error => exact hsame heffect
    | ok => exact RejectsRequest.sameMessages heffect
  | createGroup =>
    cases reply with
    | error => exact hsame heffect
    | ok => exact AddsGroup.sameMessages heffect
  | addGroupMember =>
    cases reply with
    | error => exact hsame heffect
    | ok => exact AddsMember.sameMessages heffect
  | _ => cases hwrites

/-- Calls about messages leave accounts, friends and groups alone. -/
theorem Effect.sameDirectory {reply : Except Error call.Result}
    (heffect : Effect before after ⟨.storage call, reply⟩)
    (hwrites : call.writesDirectory = false) : SameDirectory before after := by
  have hsame : after = before → SameDirectory before after := by
    rintro rfl
    exact .refl after
  cases call with
  | saveMessageWithOfflineRecipients =>
    cases reply with
    | error => exact hsame heffect
    | ok => exact heffect.directory
  | saveOfflineMessage =>
    cases reply with
    | error => exact hsame heffect
    | ok => exact heffect.2.directory
  | ackOfflineMessages =>
    cases reply with
    | error => exact hsame heffect
    | ok => exact heffect.acknowledges.directory
  | ackPrivateMessageDelivery =>
    cases reply with
    | error => exact hsame heffect
    | ok => exact heffect.acknowledges.directory
  | insertUser | createFriendRequest | acceptFriendRequest | rejectFriendRequest | createGroup
  | addGroupMember => cases hwrites
  | _ => exact hsame heffect

/-- A request was accepted, or the friends are those from before and no accepted request is
gone. -/
theorem Effect.friends_cases {event : Event services} (heffect : Effect before after event) :
    (∃ requesterId targetUserId,
      event = ⟨.storage (.acceptFriendRequest requesterId targetUserId), .ok ()⟩ ∧
      AcceptsRequest requesterId targetUserId before after) ∨
    (after.friendships = before.friendships ∧ ∀ requesterId targetUserId,
      before.HasAccepted requesterId targetUserId →
        after.HasAccepted requesterId targetUserId) := by
  have hsame : after = before → after.friendships = before.friendships ∧
      ∀ requesterId targetUserId, before.HasAccepted requesterId targetUserId →
        after.HasAccepted requesterId targetUserId := by
    rintro rfl
    exact ⟨rfl, fun _ _ => id⟩
  obtain ⟨call, reply⟩ := event
  cases call with
  | session | cache => exact Or.inr (hsame heffect)
  | storage call =>
    cases hwrites : call.writesDirectory with
    | false =>
      have hdirectory := heffect.sameDirectory hwrites
      refine Or.inr ⟨hdirectory.friendships, fun _ _ haccepted => ?_⟩
      rwa [HasAccepted, hdirectory.friendRequests]
    | true =>
      cases reply with
      | error => cases call <;> exact Or.inr (hsame heffect)
      | ok =>
        cases call with
        | insertUser =>
          obtain ⟨user, -, -, -, -, -, rfl⟩ := AddsUser.row heffect
          exact Or.inr ⟨rfl, fun _ _ => id⟩
        | createFriendRequest =>
          obtain ⟨nowMs, rfl⟩ := heffect.2.row
          refine Or.inr ⟨rfl, fun _ _ haccepted => ?_⟩
          obtain ⟨row, hmem, hrow⟩ := haccepted
          exact ⟨row, List.mem_append_left _ hmem, hrow⟩
        | acceptFriendRequest requesterId targetUserId =>
          exact Or.inl ⟨requesterId, targetUserId, rfl, heffect⟩
        | rejectFriendRequest =>
          obtain ⟨nowMs, rfl⟩ := RejectsRequest.rows heffect
          exact Or.inr ⟨rfl, fun _ _ haccepted => haccepted.settleRequests _ _ _ _⟩
        | createGroup =>
          rw [(AddsGroup.member heffect).rest]
          exact Or.inr ⟨rfl, fun _ _ => id⟩
        | addGroupMember =>
          rw [AddsMember.rest heffect]
          exact Or.inr ⟨rfl, fun _ _ => id⟩
        | _ => cases hwrites

/-- The events that add messages or offline rows. -/
def wrote : Event services → Bool
  | ⟨.storage (.saveMessageWithOfflineRecipients _ _), .ok _⟩ => true
  | ⟨.storage (.saveOfflineMessage _ _), .ok _⟩ => true
  | _ => false

/-- A save, a fallback row, or nothing of that kind. -/
theorem Effect.cases {event : Event services} (heffect : Effect before after event) :
    (∃ message offlineUserIds saved,
      event = ⟨.storage (.saveMessageWithOfflineRecipients message offlineUserIds), .ok saved⟩ ∧
      Saves message offlineUserIds before saved after) ∨
    (∃ userId messageId, event = ⟨.storage (.saveOfflineMessage userId messageId), .ok ()⟩ ∧
      before.hasOffline userId messageId = false ∧
      AddsRecipients messageId [userId] before after) ∨
    (wrote event = false ∧ KeepsMessages before after) := by
  have hsame : after = before → KeepsMessages before after := by
    rintro rfl
    exact .refl after
  obtain ⟨call, reply⟩ := event
  cases call with
  | session | cache => exact Or.inr (Or.inr ⟨rfl, hsame heffect⟩)
  | storage call =>
    have hdirectory : call.writesDirectory = true → KeepsMessages before after :=
      fun hwrites => (heffect.sameMessages hwrites).keepsMessages
    cases call with
    | saveMessageWithOfflineRecipients message offlineUserIds =>
      cases reply with
      | error => exact Or.inr (Or.inr ⟨rfl, hsame heffect⟩)
      | ok saved => exact Or.inl ⟨message, offlineUserIds, saved, rfl, heffect⟩
    | saveOfflineMessage userId messageId =>
      cases reply with
      | error => exact Or.inr (Or.inr ⟨rfl, hsame heffect⟩)
      | ok => exact Or.inr (Or.inl ⟨userId, messageId, rfl, heffect⟩)
    | ackOfflineMessages =>
      cases reply with
      | error => exact Or.inr (Or.inr ⟨rfl, hsame heffect⟩)
      | ok => exact Or.inr (Or.inr ⟨rfl, heffect.acknowledges.keepsMessages⟩)
    | ackPrivateMessageDelivery =>
      cases reply with
      | error => exact Or.inr (Or.inr ⟨rfl, hsame heffect⟩)
      | ok => exact Or.inr (Or.inr ⟨rfl, heffect.acknowledges.keepsMessages⟩)
    | insertUser | createGroup | addGroupMember => exact Or.inr (Or.inr ⟨rfl, hdirectory rfl⟩)
    | createFriendRequest | acceptFriendRequest | rejectFriendRequest =>
      exact Or.inr (Or.inr ⟨rfl, hdirectory rfl⟩)
    | _ => exact Or.inr (Or.inr ⟨rfl, hsame heffect⟩)

/-- No call takes anything back. -/
theorem Effect.later {event : Event services} (heffect : Effect before after event) :
    Later before after := by
  rcases heffect.cases with ⟨message, offlineUserIds, saved, -, hsaves⟩ |
    ⟨userId, messageId, -, -, hadds⟩ | ⟨-, hkeeps⟩
  · exact hsaves.later
  · exact hadds.later
  · exact hkeeps.later

/-- What others may do to the world between two calls of a service: sessions,
the session manager and the cache change at will, and the tables by transactions. -/
def Others (before after : World) : Prop := Later before.database.1 after.database.1

theorem Others.refl (world : World) : Others world world := Later.refl world.database.1

/-- A service may rely on every answer it was given, whatever others do. -/
theorem exec_evidence {α : Type} {program : Program services α} {last : World}
    {trace : List (Event services)} {value : α}
    (hexec : program.Exec ((machine faults).among Others) world trace value last)
    {event : Event services} (hmem : event ∈ trace) : Evidence last.database.1 event := by
  apply (hexec.evidence (fun event world => Evidence world.database.1 event) ?_ ?_).2 event hmem
  · rintro call before reply after ⟨mid, -, hanswer⟩
    exact (machine_effect hanswer).2
  · rintro event call before reply after hevidence ⟨mid, hothers, hanswer⟩
    exact evidence_later (hothers.trans (machine_effect hanswer).1.later) hevidence

end World

end LiteIM
