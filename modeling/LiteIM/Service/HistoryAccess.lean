/-
# Who reads what

Private and group messages are sent while history is read. Every private message is
stored under the number of its sender and receiver, so the check on the number of a
conversation lets a user read messages the user sent or received, and no others; group
messages are returned to users who were members when they were looked up. Everything
besides stored messages may change at will: sessions, logins, group members.
-/

import LiteIM.Foundation.Pool
import LiteIM.Service.ChatDelivery
import LiteIM.Service.HistoryService

namespace LiteIM

open Foundation ChatService World Pool List GroupService

namespace Tables

/-- The user is in the group. -/
def IsMember (tables : Tables) (groupId userId : UInt64) : Prop :=
  ∃ row ∈ tables.groupMembers, row.groupId = groupId ∧ row.userId = userId

theorem isMember_of_getGroupMembers {tables : Tables} {groupId userId : UInt64}
    {members : List GroupMemberRecord} (hget : tables.getGroupMembers groupId = .ok members)
    (hcontained : containsMember members userId = true) :
    tables.IsMember groupId userId := by
  obtain ⟨member, hmem, hmember⟩ := any_eq_true.mp hcontained
  rw [getGroupMembers] at hget
  by_cases hzero : groupId = 0
  · simp [hzero, Status.error] at hget
  · rw [if_neg hzero] at hget
    rw [← Except.ok.inj hget, mem_insertionSort] at hmem
    obtain ⟨row, hrow, hjoin⟩ := mem_filterMap.mp hmem
    obtain ⟨user, huser, rfl⟩ := Option.map_eq_some_iff.mp hjoin
    have hsame := find?_some huser
    simp only [mem_filter, decide_eq_true_eq] at hrow hsame hmember
    exact ⟨row, hrow.1, hrow.2, hsame.symm.trans hmember⟩

/-- Private messages are stored under the number of their sender and receiver. -/
def PairNumbered (tables : Tables) : Prop :=
  ∀ row ∈ tables.messages, row.conversation.type = .kPrivate →
    privateConversationId row.senderId row.receiverId = .ok row.conversation.id

end Tables

namespace HistoryService

/-- The requests that store messages, and those that read them. -/
inductive Action where
  | privateMessage (request : RouterRequest)
  | groupMessage (request : RouterRequest)
  | history (request : RouterRequest)

def Action.handle (service : HistoryService) : Action → Service Packet
  | .privateMessage request => handlePrivateMessage request
  | .groupMessage request => handleGroupMessage request
  | .history request => service.handleHistory request

def Action.Justified : Action → List (Event services) → Event services → Prop
  | .privateMessage request => ChatService.Justified request
  | .groupMessage request => GroupService.Justified request
  | .history _ => fun _ => Reads

def Action.Answered (service : HistoryService) :
    Action → List (Event services) → Packet → Prop
  | .history request => HistoryService.Answered service request
  | _ => fun _ _ => True

theorem Action.handle_yields (service : HistoryService) (action : Action) :
    Fallible.Yields action.Justified (action.Answered service) [] (action.handle service) := by
  cases action with
  | privateMessage request =>
    exact (ChatService.handlePrivateMessage_yields request).mono fun _ _ _ _ => trivial
  | groupMessage request => exact GroupService.handleGroupMessage_yields request
  | history request => exact handleHistory_yields service request

/-- What goes on besides: it stores no message. -/
def Elsewhere (before after : World) : Prop :=
  after.database.1.messages = before.database.1.messages

section Stored

variable {before after : Tables}

/-- A new message has the number of its pair, or belongs to a group. -/
theorem pairNumbered_append {row : MessageRow} (hnumbered : before.PairNumbered)
    (hmessages : after.messages = before.messages ++ [row])
    (hrow : row.conversation.type = .kPrivate →
      privateConversationId row.senderId row.receiverId = .ok row.conversation.id) :
    after.PairNumbered := by
  intro other hmem
  rw [hmessages] at hmem
  rcases mem_append.mp hmem with hold | hnew
  · exact hnumbered other hold
  · rw [mem_singleton.mp hnew]
    exact hrow

theorem pairNumbered_congr (hnumbered : before.PairNumbered)
    (hmessages : after.messages = before.messages) : after.PairNumbered := by
  intro row hmem
  rw [hmessages] at hmem
  exact hnumbered row hmem

/-- A message that a handler may save. -/
theorem Action.numbered_of_justified {action : Action} {history : List (Event services)}
    {message : MessageRecord} {offlineUserIds : List UInt64} {reply : Except Error MessageRecord}
    (hjustified : action.Justified history
      ⟨.storage (.saveMessageWithOfflineRecipients message offlineUserIds), reply⟩)
    (hprivate : message.conversation.type = .kPrivate) :
    privateConversationId message.senderId message.receiverId =
      .ok message.conversation.id := by
  cases action with
  | privateMessage => exact hjustified.1.conversationId
  | groupMessage =>
    obtain ⟨groupId, members, plan, hplanned, rfl, -⟩ := hjustified
    exact nomatch hprivate.symm.trans hplanned.conversation
  | history => exact hjustified.elim

theorem Action.pairNumbered {action : Action} {history : List (Event services)}
    {event : Event services} (hjustified : action.Justified history event)
    (heffect : Effect before after event) (hnumbered : before.PairNumbered) :
    after.PairNumbered := by
  rcases heffect.cases with ⟨message, offlineUserIds, saved, rfl, hsaves⟩ |
    ⟨userId, messageId, -, -, hadds⟩ | ⟨-, hkeeps⟩
  · obtain ⟨row, hmessages, hrow⟩ := savedRow_of_saves hsaves
    apply pairNumbered_append hnumbered hmessages
    intro hprivate
    rw [hrow.conversation] at hprivate
    have hreceiver : row.receiverId = message.receiverId := by
      rw [hrow.receiver, Tables.storedReceiver, if_neg (by simp [hprivate])]
    rw [hrow.sender, hreceiver, hrow.conversation]
    exact numbered_of_justified hjustified hprivate
  · exact pairNumbered_congr hnumbered hadds.messages
  · exact pairNumbered_congr hnumbered hkeeps.messages

end Stored

section Pool

variable {ι : Type} [DecidableEq ι] {faults : Faults} {service : HistoryService}
variable {actions : ι → Action} {world : World}

/-- Requests handled at once. -/
def handling (service : HistoryService) (actions : ι → Action) (world : World) :
    Pool services ι (Except Error Packet) World :=
  start (fun i => ((actions i).handle service).run) world

/-- A run of them, with other things going on. -/
abbrev Runs (faults : Faults) :
    Pool services ι (Except Error Packet) World →
      Pool services ι (Except Error Packet) World → Prop :=
  Reaches (machine faults) Elsewhere fun _ _ _ => True

theorem Runs.pairNumbered {pool : Pool services ι (Except Error Packet) World}
    (hruns : Runs faults (handling service actions world) pool)
    (hempty : world.database.1.messages = []) : pool.world.database.1.PairNumbered := by
  apply Reaches.justified_invariant hruns (fun i => (actions i).handle_yields service)
    fun pool => pool.world.database.1.PairNumbered
  · intro row hmem
    have hnone : row ∈ world.database.1.messages := hmem
    rw [hempty] at hnone
    cases hnone
  · intro pool i event next after hnumbered hjustified hanswer
    exact Action.pairNumbered hjustified (machine_effect hanswer).1 hnumbered
  · intro pool after hnumbered helsewhere
    exact pairNumbered_congr hnumbered helsewhere

/-- At some point of a run a thread makes a call, in a world with a property. -/
def Asks (faults : Faults) (first last : Pool services ι (Except Error Packet) World)
    (i : ι) (call : Call) (property : World → Prop) : Prop :=
  ∃ pool next, Runs faults first pool ∧ Runs faults pool last ∧
    pool.threads i = .call call next ∧ property pool.world

/-- A message that thread `i` may return to a user: a private message of the user, or one
of a group that the user was in when its members were looked up. -/
inductive Readable (faults : Faults)
    (first last : Pool services ι (Except Error Packet) World) (i : ι) (userId : UInt64)
    (message : MessageRecord) : Prop where
  | pair (isPrivate : message.conversation.type = .kPrivate)
      (member : message.senderId = userId ∨ message.receiverId = userId)
  | group (isGroup : message.conversation.type = .kGroup)
      (member : Asks faults first last i (.storage (.getGroupMembers message.conversation.id))
        fun world => world.database.1.IsMember message.conversation.id userId)

variable {last : Pool services ι (Except Error Packet) World} {i : ι} {userId : UInt64}

theorem Runs.asked (hruns : Runs faults (handling service actions world) last)
    {event : Event services} (hmem : event ∈ history last.log i) :
    Asks faults (handling service actions world) last i event.call fun before =>
      ∃ after, machine faults event.call before event.reply after := by
  obtain ⟨pool, next, after, hbefore, hafter, hthread, hanswer⟩ :=
    Reaches.occurred hruns (mem_history.mp hmem) (fun hold => nomatch hold)
  exact ⟨pool, next, hbefore, hafter, hthread, after, hanswer⟩

theorem Asks.mono {first : Pool services ι (Except Error Packet) World} {call : Call}
    {property weaker : World → Prop} (hasks : Asks faults first last i call property)
    (hweaker : ∀ world, property world → weaker world) : Asks faults first last i call weaker := by
  obtain ⟨pool, next, hbefore, hafter, hthread, hproperty⟩ := hasks
  exact ⟨pool, next, hbefore, hafter, hthread, hweaker _ hproperty⟩

/-- A message read from a conversation of two users that the user is one of. -/
theorem member_of_pairNumbered {tables : Tables} (hnumbered : tables.PairNumbered)
    {row : MessageRow} (hrow : row ∈ tables.messages)
    (hprivate : row.conversation.type = .kPrivate)
    (hmember : isPrivateConversationMember userId row.conversation.id = true) :
    row.senderId = userId ∨ row.receiverId = userId := by
  rcases (isPrivateConversationMember_iff (hnumbered row hrow hprivate) userId).mp
    hmember with hsender | hreceiver
  · exact Or.inl hsender.symm
  · exact Or.inr hreceiver.symm

theorem Runs.readable (hruns : Runs faults (handling service actions world) last)
    (hempty : world.database.1.messages = []) {query : HistoryQuery}
    {messages : List MessageRecord}
    (hauthorized : Authorized (history last.log i) userId query.conversation)
    (hread : ⟨.storage (.getHistory query), .ok messages⟩ ∈ history last.log i) :
    ∀ message ∈ messages,
      Readable faults (handling service actions world) last i userId message := by
  intro message hmem
  obtain ⟨pool, next, hbefore, -, -, after, hanswer⟩ := hruns.asked hread
  obtain ⟨row, hrow, hconversation, rfl⟩ :=
    Tables.getHistoryByConversation_mem (answered_of_ok hanswer) hmem
  have hsame : row.toRecord.conversation = query.conversation := hconversation
  cases hkey : query.conversation with
  | mk type id =>
    rw [hkey] at hauthorized hsame hconversation
    cases hauthorized with
    | pair hmember =>
      have hprivate : row.conversation.type = .kPrivate := by rw [hconversation]
      have hid : row.conversation.id = id := by rw [hconversation]
      rw [← hid] at hmember
      exact .pair hprivate
        (member_of_pairNumbered (Runs.pairNumbered hbefore hempty) hrow hprivate hmember)
    | member hlisted hcontained =>
      apply Readable.group
      · rw [hsame]
      · rw [hsame]
        apply (hruns.asked hlisted).mono
        rintro before ⟨after, hanswer⟩
        exact Tables.isMember_of_getGroupMembers (answered_of_ok hanswer) hcontained

/-- What a successful history request returns are messages its user may read. -/
theorem history_confidential (hruns : Runs faults (handling service actions world) last)
    (hempty : world.database.1.messages = []) {request : RouterRequest}
    (haction : actions i = .history request) {response : Packet}
    (hended : last.threads i = .ret (.ok response)) :
    ∃ session userId messages, request.session = some session ∧
      Asks faults (handling service actions world) last i
        (.session (.getUserBySession session.id))
        (fun world => world.boundUser request = some userId) ∧
      historyResponse request messages = .ok response ∧
      ∀ message ∈ messages,
        Readable faults (handling service actions world) last i userId message := by
  have hfollows := Reaches.follows hruns (fun i => (actions i).handle_yields service) i
  rw [haction, hended] at hfollows
  obtain ⟨userId, query, messages, ⟨session, hsession, hlookup⟩, -, hauthorized, hread,
    hresponse⟩ := hfollows response rfl
  refine ⟨session, userId, messages, hsession, ?_, hresponse,
    hruns.readable hempty hauthorized hread⟩
  apply (hruns.asked hlookup).mono
  rintro before ⟨after, hanswer⟩
  have hfound := (congrArg Prod.fst hanswer).symm
  show request.session.bind _ = some userId
  rw [hsession, Option.bind_some]
  exact congrArg Except.toOption hfound

end Pool

/-- User 1 sends a message to user 2, and reads their conversation. -/
def sendAndRead : Bool → Action
  | false => .privateMessage (sendRequest 2 [65])
  | true => .history
      { session := some ⟨11⟩
        packet := {}
        fields := fun type =>
          if type = .conversationType then some [appendUint64BE [] 1]
          else if type = .conversationId then some [appendUint64BE [] 10002]
          else none }

/-- The message is sent before the conversation is read. -/
def sentThenRead : Pool services Bool (Except Error Packet) World :=
  (handling default sendAndRead oneOnline).schedule (answer fun _ _ => .ok ())
    (replicate 9 false ++ replicate 3 true)

theorem history_confidential_ownMessage :
    sentThenRead.world.database.1.messages.length = 1 ∧
    ∃ request response messages, sendAndRead true = .history request ∧
      sentThenRead.threads true = .ret (.ok response) ∧
      historyResponse request messages = .ok response ∧
      ∃ userId, ∀ message ∈ messages,
        Readable .any (handling {} sendAndRead oneOnline) sentThenRead true userId
          message := by
  obtain ⟨response, hended⟩ : ∃ response, sentThenRead.threads true = .ret (.ok response) :=
    ⟨_, rfl⟩
  have hruns : Runs .any (handling {} sendAndRead oneOnline) sentThenRead :=
    reaches_schedule (machine_answer fun _ _ => trivial)
      (meets_of_forall (fun _ _ _ => trivial) _ _)
  obtain ⟨session, userId, messages, -, -, hresponse, hreadable⟩ :=
    history_confidential hruns rfl (show sendAndRead true = .history _ from rfl) hended
  exact ⟨rfl, _, response, messages, rfl, hended, hresponse, userId, hreadable⟩

end HistoryService

end LiteIM
