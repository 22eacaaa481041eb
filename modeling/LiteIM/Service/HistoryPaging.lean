/-
# Reading a whole conversation

A client asks for the newest messages of a conversation, and then for those before the
last one it got, until a page is empty. Each request is handled when the store holds what
it held before and perhaps more messages. The limits of the requests, which the service
and the store cut, decide how many pages there are; together the pages are the
conversation as it was at the first request.
-/

import LiteIM.Service.ChatDelivery
import LiteIM.Service.HistoryService

namespace LiteIM

open Foundation HistoryService ChatService MessageRow List

namespace HistoryService

/-- The user is logged in on the session and may read the conversation. -/
structure MayRead (userId : UInt64) (session : SessionRef) (conversation : ConversationKey)
    (world : World) : Prop where
  isOpen : world.sessions.closed session = false
  bound : (world.manager.getUserBySession world.sessions session.id).1 = .ok userId
  pair : conversation.type = .kPrivate →
    isPrivateConversationMember userId conversation.id = true
  member : conversation.type = .kGroup →
    (∃ group, world.database.1.findGroupById conversation.id = .ok group) ∧
    ∃ members, world.database.1.getGroupMembers conversation.id = .ok members ∧
      GroupService.containsMember members userId = true

/-- A request for a page of a conversation, with a positive limit or without one. -/
structure AsksFor (session : SessionRef) (conversation : ConversationKey)
    (cursor : Option UInt64) (request : RouterRequest) : Prop where
  session : request.session = some session
  type : getUint64 request.fields .conversationType = .ok conversation.type.toUInt64
  id : getUint64 request.fields .conversationId = .ok conversation.id
  cursor : match cursor with
    | none => request.fields .messageId = none
    | some messageId => getUint64 request.fields .messageId = .ok messageId
  limit : request.fields .limit = none ∨
    ∃ limit, limit ≠ 0 ∧ getUint64 request.fields .limit = .ok limit

/-! ## Reading the request -/

theorem toConversationType_toUInt64 (type : ConversationType) :
    toConversationType type.toUInt64 = .ok type := by
  cases type <;> rfl

theorem fields_ne_none {fields : TlvMap} {type : TlvType} {value : UInt64}
    (hfield : getUint64 fields type = .ok value) : ∃ values, fields type = some values := by
  cases hvalues : fields type with
  | none => simp [getUint64, findValue, hvalues, Status.error] at hfield
  | some values => exact ⟨values, rfl⟩

section Request

variable {session : SessionRef} {conversation : ConversationKey} {cursor : Option UInt64}
variable {request : RouterRequest}

theorem AsksFor.requestCursor (hasks : AsksFor session conversation cursor request) :
    requestCursor request.fields = .ok (cursor.getD 0) := by
  have hcursor := hasks.cursor
  cases cursor with
  | none =>
    rw [requestCursor, hcursor]
    rfl
  | some =>
    obtain ⟨values, hvalues⟩ := fields_ne_none hcursor
    rw [requestCursor, hvalues]
    exact hcursor

/-- Whatever positive limit is asked for, the service asks for at least one message. -/
theorem AsksFor.requestLimit (hasks : AsksFor session conversation cursor request)
    (service : HistoryService) :
    ∃ limit, 0 < limit ∧ service.requestLimit request.fields = .ok limit := by
  rcases hasks.limit with hnone | ⟨limit, hpositive, hlimit⟩
  · refine ⟨service.defaultLimit, service.default_pos, ?_⟩
    rw [HistoryService.requestLimit, hnone]
  · obtain ⟨values, hvalues⟩ := fields_ne_none hlimit
    by_cases hlarge : limit.toNat > service.maxLimit
    · refine ⟨service.maxLimit, Nat.lt_of_lt_of_le service.default_pos service.default_le, ?_⟩
      simp [HistoryService.requestLimit, hvalues, hlimit, bind, Except.bind, hpositive, hlarge]
    · have hpos : 0 < limit.toNat :=
        Nat.pos_of_ne_zero fun hzero => hpositive (UInt64.toNat_inj.mp hzero)
      refine ⟨limit.toNat, hpos, ?_⟩
      simp [HistoryService.requestLimit, hvalues, hlimit, bind, Except.bind, hpositive, hlarge]

theorem AsksFor.buildQuery (hasks : AsksFor session conversation cursor request)
    (hid : conversation.id ≠ 0) (service : HistoryService) :
    ∃ limit, 0 < limit ∧ service.buildQuery request =
      .ok { conversation, beforeMessageId := cursor.getD 0, limit } := by
  obtain ⟨limit, hpositive, hlimit⟩ := hasks.requestLimit service
  refine ⟨limit, hpositive, ?_⟩
  simp only [HistoryService.buildQuery, hasks.type, hasks.id, hasks.requestCursor, hlimit,
    toConversationType_toUInt64, bind, Except.bind, if_neg hid]

end Request

/-! ## One page -/

section Page

variable {userId : UInt64} {session : SessionRef} {conversation : ConversationKey}
variable {world : World}

/-- A conversation that may be read has a number. -/
theorem MayRead.id_ne_zero (hmay : MayRead userId session conversation world) :
    conversation.id ≠ 0 := by
  intro hzero
  cases htype : conversation.type with
  | kPrivate =>
    have hmember := hmay.pair htype
    rw [hzero] at hmember
    exact nomatch hmember
  | kGroup =>
    obtain ⟨-, members, hlisted, -⟩ := hmay.member htype
    rw [hzero] at hlisted
    exact nomatch hlisted

/-- The world after the session was looked up: nothing but an entry of the session
manager may have gone. -/
def lookedUp (world : World) (session : SessionRef) : World :=
  { world with manager := (world.manager.getUserBySession world.sessions session.id).2 }

variable {request : RouterRequest}

theorem MayRead.currentUserId (hmay : MayRead userId session conversation world)
    (hsession : request.session = some session) :
    world.serve (currentUserId request) = (.ok userId, lookedUp world session) := by
  simp [LiteIM.currentUserId, hsession, World.serve_bind, hmay.isOpen, hmay.bound, lookedUp]

theorem MayRead.authorizeQuery (hmay : MayRead userId session conversation world)
    {later : World} (hdatabase : later.database = world.database)
    (beforeMessageId : UInt64) (limit : Nat) :
    later.serve (authorizeQuery userId { conversation, beforeMessageId, limit }) =
      (.ok (), later) := by
  rw [HistoryService.authorizeQuery]
  cases htype : conversation.type with
  | kPrivate => simp [hmay.pair htype]
  | kGroup =>
    obtain ⟨⟨group, hgroup⟩, members, hlisted, hcontained⟩ := hmay.member htype
    rw [← hdatabase] at hgroup hlisted
    have hfind : later.serve (Service.storage (.findGroupById conversation.id)) =
        (.ok group, later) := congrArg (·, later) hgroup
    have hlist : later.serve (Service.storage (.getGroupMembers conversation.id)) =
        (.ok members, later) := congrArg (·, later) hlisted
    simp only [World.serve_bind, hfind, hlist, hcontained, if_true, World.serve_pure]

/-- What the store holds can be put into a response. -/
theorem exists_historyResponse {tables : Tables} (hfits : tables.FitsColumns)
    (request : RouterRequest) {rows : List MessageRow}
    (hrows : ∀ row ∈ rows, row ∈ tables.messages) :
    ∃ response, historyResponse request (rows.map toRecord) = .ok response := by
  apply exists_appendMessages
  intro message hmem
  obtain ⟨row, hrow, rfl⟩ := mem_map.mp hmem
  exact hfits.toRecord (hrows row hrow)

/-- A request is answered with a page: the response is made of the messages of the page,
and a client finds their ids in it. -/
def Returns (service : HistoryService) (world : World) (request : RouterRequest)
    (page : List MessageRecord) : Prop :=
  ∃ response, (world.serve (service.handleHistory request)).1 = .ok response ∧
    historyResponse request page = .ok response ∧
    (messageIdsOf response).toOption.getD [] = page.map MessageRecord.messageId

theorem messageIdsOf_historyResponse {page : List MessageRecord} {response : Packet}
    (hresponse : historyResponse request page = .ok response) :
    (messageIdsOf response).toOption.getD [] = page.map MessageRecord.messageId := by
  rw [messageIdsOf_appendMessages rfl hresponse]
  by_cases hempty : page = []
  · rw [if_pos hempty, hempty]
    rfl
  · rw [if_neg hempty]
    rfl

/-- A page is the beginning of what is left below the cursor. -/
theorem handleHistory_returns (service : HistoryService)
    (hmay : MayRead userId session conversation world) (hfits : world.database.1.FitsColumns)
    {cursor : Option UInt64} (hasks : AsksFor session conversation cursor request) :
    ∃ limit, 0 < limit ∧ Returns service world request
      (((world.database.1.remaining conversation (cursor.getD 0)).take limit).map
        toRecord) := by
  obtain ⟨limit, hpositive, hquery⟩ := hasks.buildQuery hmay.id_ne_zero service
  refine ⟨min limit MessageDao.kMaxHistoryLimit, Nat.lt_min.mpr ⟨hpositive, by decide⟩, ?_⟩
  have hrows : ∀ row ∈ (world.database.1.remaining conversation (cursor.getD 0)).take
      (min limit MessageDao.kMaxHistoryLimit), row ∈ world.database.1.messages :=
    fun row hrow => (Tables.mem_remaining.mp (mem_of_mem_take hrow)).1
  obtain ⟨response, hresponse⟩ := exists_historyResponse hfits request hrows
  refine ⟨response, ?_, hresponse, messageIdsOf_historyResponse hresponse⟩
  have hread : (lookedUp world session).serve (Service.storage (.getHistory
      { conversation, beforeMessageId := cursor.getD 0, limit })) =
      (.ok (((world.database.1.remaining conversation (cursor.getD 0)).take
        (min limit MessageDao.kMaxHistoryLimit)).map toRecord),
        lookedUp world session) := by
    apply congrArg (·, lookedUp world session)
    show world.database.1.getHistoryByConversation _ = _
    simp [Tables.getHistoryByConversation, MessageDao.validateConversationKey, hmay.id_ne_zero,
      bind, Except.bind, Nat.ne_of_gt hpositive]
  have hauthorized := hmay.authorizeQuery (show (lookedUp world session).database = _ from rfl)
    (cursor.getD 0) limit
  simp only [handleHistory, World.serve_bind, hmay.currentUserId hasks.session, hquery,
    World.serve_ofExcept, hauthorized, hread, hresponse]

end Page

/-! ## All pages -/

/-- The cursor after a page: the last message id in it. -/
def lastMessageId (page : List MessageRecord) : Option UInt64 :=
  (page.map MessageRecord.messageId).getLast?

/-- What a client has not read yet when it sends its `n`-th request. -/
def unread (worlds : Nat → World) (conversation : ConversationKey) (n : Nat)
    (cursor : Option UInt64) : List MessageRecord :=
  ((worlds n).database.1.remaining conversation (cursor.getD 0)).map toRecord

section Reading

variable {service : HistoryService} {userId : UInt64} {session : SessionRef}
variable {conversation : ConversationKey} {worlds : Nat → World}
variable {requests : Nat → Option UInt64 → RouterRequest}

/-- A page leaves the rest to be read. -/
theorem unread_after_page (hstored : ∀ n, ∃ added, (worlds (n + 1)).database.1.messages =
      (worlds n).database.1.messages ++ added) (n : Nat) (cursor : Option UInt64) {limit : Nat}
    (hpage : (unread worlds conversation n cursor).take limit ≠ []) :
    unread worlds conversation (n + 1)
        (lastMessageId ((unread worlds conversation n cursor).take limit)) =
      (unread worlds conversation n cursor).drop limit := by
  obtain ⟨added, hadded⟩ := hstored n
  have hrows : (unread worlds conversation n cursor).take limit =
      (((worlds n).database.1.remaining conversation (cursor.getD 0)).take limit).map
        toRecord := map_take.symm
  rw [hrows] at hpage ⊢
  cases hlast : (((worlds n).database.1.remaining conversation (cursor.getD 0)).take
      limit).getLast? with
  | none =>
    rw [getLast?_eq_none_iff.mp hlast] at hpage
    exact (hpage rfl).elim
  | some row =>
    have hcursor : lastMessageId ((((worlds n).database.1.remaining conversation
        (cursor.getD 0)).take limit).map toRecord) = some row.messageId := by
      rw [lastMessageId, getLast?_map, getLast?_map, hlast]
      rfl
    rw [hcursor, unread, unread, Option.getD_some, ← map_drop,
      Tables.remaining_after_page (worlds (n + 1)).database.2 (worlds n).database.2 hadded hlast]

theorem history_serves (hmay : ∀ n, MayRead userId session conversation (worlds n))
    (hfits : ∀ n, (worlds n).database.1.FitsColumns)
    (hstored : ∀ n, ∃ added, (worlds (n + 1)).database.1.messages =
      (worlds n).database.1.messages ++ added)
    (hasks : ∀ n cursor, AsksFor session conversation cursor (requests n cursor))
    (n : Nat) (cursor : Option UInt64) :
    ∃ limit, Serves (fun n cursor => Returns service (worlds n) (requests n cursor))
      lastMessageId (unread worlds conversation) n cursor limit := by
  obtain ⟨limit, hpositive, hreturns⟩ :=
    handleHistory_returns service (hmay n) (hfits n) (hasks n cursor)
  rw [map_take] at hreturns
  exact ⟨limit, hpositive, hreturns, unread_after_page hstored n cursor⟩

/-- Reading a conversation page by page, from the newest messages to an empty page, ends
and returns the messages that were in it at the first request, each once and in decreasing
order of ids, whatever is stored in the meantime. -/
theorem history_paging_complete (hmay : ∀ n, MayRead userId session conversation (worlds n))
    (hfits : ∀ n, (worlds n).database.1.FitsColumns)
    (hstored : ∀ n, ∃ added, (worlds (n + 1)).database.1.messages =
      (worlds n).database.1.messages ++ added)
    (hasks : ∀ n cursor, AsksFor session conversation cursor (requests n cursor)) :
    ∃ pages, Pages (fun n cursor => Returns service (worlds n) (requests n cursor))
        lastMessageId 0 none pages ∧
      pages.flatten = ((worlds 0).database.1.messages.filter fun row =>
        row.conversation = conversation).reverse.map toRecord ∧
      pages.flatten.Pairwise fun first second =>
        second.messageId.toNat < first.messageId.toNat := by
  obtain ⟨pages, hpages, hflatten⟩ :=
    exists_pages (history_serves hmay hfits hstored hasks) 0 none
  refine ⟨pages, hpages, ?_, ?_⟩
  · rw [hflatten, unread, Tables.remaining]
    simp
  · rw [hflatten, unread, pairwise_map]
    exact (worlds 0).database.2.remaining_sorted conversation 0

end Reading

/-- User 1 has sent two messages to user 2. -/
def twoSent : World :=
  (handled (sendRequest 2 [66])
    (handled (sendRequest 2 [65]) oneOnline).2.2).2.2

/-- A third message is sent after the first request. -/
def twoThenThree : Nat → World
  | 0 => twoSent
  | _ + 1 => (handled (sendRequest 2 [67]) twoSent).2.2

/-- User 1 asks for one message of the conversation. -/
def askForOne (cursor : Option UInt64) : RouterRequest where
  session := some ⟨11⟩
  packet := {}
  fields := fun type =>
    if type = .conversationType then some [appendUint64BE [] 1]
    else if type = .conversationId then some [appendUint64BE [] 10002]
    else if type = .messageId then cursor.map fun messageId => [appendUint64BE [] messageId]
    else if type = .limit then some [appendUint64BE [] 1]
    else none

theorem askForOne_asksFor (cursor : Option UInt64) :
    AsksFor ⟨11⟩ ⟨.kPrivate, 10002⟩ cursor (askForOne cursor) where
  session := rfl
  type := rfl
  id := rfl
  cursor := by
    cases cursor with
    | none => rfl
    | some => exact getUint64_of_findValue rfl
  limit := Or.inr ⟨1, by decide, rfl⟩

theorem twoThenThree_mayRead (n : Nat) : MayRead 1 ⟨11⟩ ⟨.kPrivate, 10002⟩ (twoThenThree n) := by
  cases n with
  | zero | succ => exact ⟨rfl, rfl, fun _ => rfl, fun hgroup => nomatch hgroup⟩

theorem twoThenThree_fitsColumns (n : Nat) : (twoThenThree n).database.1.FitsColumns := by
  have hfits : (twoThenThree n).database.1.messages.all (fun row =>
      decide (row.messageText.length ≤ 65535) &&
        row.clientMsgId.all fun clientMsgId => clientMsgId.length ≤ 256) = true := by
    cases n with
    | zero | succ => rfl
  intro row hrow
  have hrow := all_eq_true.mp hfits row hrow
  rw [Bool.and_eq_true, decide_eq_true_eq] at hrow
  refine ⟨hrow.1, fun clientMsgId hsome => ?_⟩
  simpa [hsome] using hrow.2

theorem history_paging_complete_twoThenThree :
    ∃ pages, Pages (fun n cursor => Returns {} (twoThenThree n) (askForOne cursor))
        lastMessageId 0 none pages ∧
      pages.flatten.map MessageRecord.messageId = [2, 1] := by
  have hstored : ∀ n, ∃ added, (twoThenThree (n + 1)).database.1.messages =
      (twoThenThree n).database.1.messages ++ added := by
    intro n
    cases n with
    | zero => exact ⟨[_], rfl⟩
    | succ => exact ⟨[], rfl⟩
  obtain ⟨pages, hpages, hflatten, -⟩ := history_paging_complete twoThenThree_mayRead
    twoThenThree_fitsColumns hstored fun _ => askForOne_asksFor
  refine ⟨pages, hpages, ?_⟩
  rw [hflatten]
  rfl

end HistoryService

end LiteIM
