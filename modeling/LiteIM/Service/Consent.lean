/-
# Consent

Private messages are sent between friends, two users become friends when one of them accepts
what the other asked, and a request is accepted on a session that is logged in as the user
who was asked. This module follows a stored message back along these steps, through a run of
any requests about accounts, friends and private messages: `Consented` is what there is at
the other end, and each part of `Traced` is one step of the way.
-/

import LiteIM.Foundation.Pool
import LiteIM.Service.Accounts
import LiteIM.Service.ChatService
import LiteIM.Service.LoginLimit

namespace LiteIM

open Foundation Fallible AuthService ChatService World List SessionManager

/-! ## The calls of the chat service -/

namespace ChatService

/-- The calls that a private message may make. -/
def calls : Call → Bool
  | .session (.closed _) => true
  | .session (.getUserBySession _) => true
  | .session (.getSessionByUser _) => true
  | .session (.sendPacket _ _) => true
  | .cache (.incrUnread _ _) => true
  | .storage (.findUserById _) => true
  | .storage (.areFriends _ _) => true
  | .storage (.saveMessageWithOfflineRecipients _ _) => true
  | .storage (.findMessageByClientMessageId _ _) => true
  | .storage (.findDeliveryStatus _ _) => true
  | .storage (.saveOfflineMessage _ _) => true
  | _ => false

/-- The calls that a confirmation may make. -/
def ackCalls : Call → Bool
  | .session (.closed _) => true
  | .session (.getUserBySession _) => true
  | .storage (.ackPrivateMessageDelivery _ _) => true
  | _ => false

section Calls

variable {history : List (Event services)}

/-- The program makes no other calls. -/
abbrev Calls {α : Type} (history : List (Event services)) (program : Service α) : Prop :=
  Yields (fun _ event => calls event.call = true) (fun _ _ => True) history program

theorem ensureOfflineFallback_calls (receiverId : UInt64) (message : MessageRecord) :
    Calls history (ensureOfflineFallback receiverId message) := by
  apply yields_outcome_bind (fun _ _ => True)
  · exact fun reply => ⟨rfl, trivial⟩
  intro later result _ _
  cases result with
  | ok =>
    apply yields_outcome_bind (fun _ _ => True)
    · exact fun reply => ⟨rfl, trivial⟩
    · exact fun _ _ _ _ => yields_pure.mpr trivial
  | error status =>
    by_cases hcode : status.code = .alreadyExists
    · simp [hcode]
    · simp [hcode]

theorem pushPrivateOrFallback_calls (receiverSession : Option SessionRef) (receiverId : UInt64)
    (message : MessageRecord) :
    Calls history (pushPrivateOrFallback receiverSession receiverId message) := by
  cases receiverSession with
  | none => exact ensureOfflineFallback_calls receiverId message
  | some =>
    apply yields_bind (fun _ _ => True)
    · exact fun reply => ⟨rfl, fun _ _ => trivial⟩
    intro later closed _ _
    cases closed with
    | true => exact ensureOfflineFallback_calls receiverId message
    | false =>
      apply yields_ofExcept_bind
      intro push _
      apply yields_outcome_bind (fun _ _ => True)
      · exact fun reply => ⟨rfl, trivial⟩
      intro after result _ _
      cases result with
      | ok => exact yields_pure.mpr trivial
      | error => exact ensureOfflineFallback_calls receiverId message

theorem isMessageAlreadyDelivered_calls (receiverId messageId : UInt64) :
    Calls history (isMessageAlreadyDelivered receiverId messageId) := by
  apply yields_outcome_bind (fun _ _ => True)
  · exact fun reply => ⟨rfl, trivial⟩
  intro later result _ _
  cases result with
  | ok => exact yields_pure.mpr trivial
  | error status =>
    by_cases hcode : status.code = .notFound
    · simp [hcode]
    · simp [hcode]

theorem redeliver_calls (saved : MessageRecord) : Calls history (redeliver saved) := by
  apply yields_bind _ (isMessageAlreadyDelivered_calls _ _)
  intro later delivered _ _
  cases delivered with
  | true => exact yields_pure.mpr trivial
  | false =>
    apply yields_bind _ (findReceiver_yields saved.receiverId fun _ _ => rfl)
    intro after receiver _ _
    cases receiver with
    | none => exact ensureOfflineFallback_calls _ _
    | some => exact pushPrivateOrFallback_calls _ _ _

theorem deliver_calls (receiver : Option SessionRef) (receiverId : UInt64)
    (saved : MessageRecord) : Calls history (deliver receiver receiverId saved) := by
  cases receiver with
  | some session => exact pushPrivateOrFallback_calls (some session) receiverId saved
  | none =>
    apply yields_outcome_bind (fun _ _ => True)
    · exact fun reply => ⟨rfl, trivial⟩
    · exact fun _ _ _ _ => yields_pure.mpr trivial

theorem saveAndDeliver_calls (receiver : Option SessionRef) (message : MessageRecord) :
    Calls history (saveAndDeliver receiver message) := by
  apply yields_outcome_bind (fun _ _ => True)
  · exact fun reply => ⟨rfl, trivial⟩
  intro later result _ _
  cases result with
  | ok =>
    apply yields_bind _ (deliver_calls _ _ _)
    exact fun _ _ _ _ => yields_pure.mpr trivial
  | error status =>
    by_cases hstop : status.code ≠ .alreadyExists ∨ message.clientMsgId = []
    · simp [hstop]
    · simp only [hstop, if_false]
      apply yields_bind (fun _ _ => True)
      · exact fun reply => ⟨rfl, fun _ _ => trivial⟩
      intro after saved _ _
      apply yields_bind _ (redeliver_calls saved)
      exact fun _ _ _ _ => yields_pure.mpr trivial

theorem handlePrivateMessage_calls (request : RouterRequest) :
    Calls history (handlePrivateMessage request) := by
  apply yields_bind _ (currentUserId_yields request (fun _ _ _ => rfl) fun _ _ _ => rfl)
  intro afterUser senderId _ _
  apply yields_ofExcept_bind
  intro receiverId _
  apply yields_ofExcept_bind
  intro text _
  apply yields_ofExcept_bind
  intro clientMsgId _
  apply yields_bind (fun _ _ => True)
  · exact fun reply => ⟨rfl, fun _ _ => trivial⟩
  intro afterFind _ _ _
  apply yields_bind (fun _ _ => True)
  · exact fun reply => ⟨rfl, fun _ _ => trivial⟩
  intro afterFriends areFriends _ _
  apply yields_ofExcept_bind
  intro _ _
  apply yields_ofExcept_bind
  intro conversationId _
  apply yields_bind _ (findReceiver_yields receiverId fun _ _ => rfl)
  intro afterLookup receiver _ _
  apply yields_bind _ (saveAndDeliver_calls _ _)
  exact fun _ _ _ _ => yields_ofExcept.mpr fun _ _ => trivial

end Calls

end ChatService

namespace Consent

/-! ## The requests -/

inductive Action where
  | account (request : AccountRequest)
  | privateMessage (request : RouterRequest)
  | deliveryAck (request : RouterRequest)

variable {userId : UInt64} {session : SessionRef}

namespace Action

variable (service : AuthService) (environment : Environment)

def handle : Action → Service Packet
  | .account request => request.handle service environment
  | .privateMessage request => handlePrivateMessage request
  | .deliveryAck request => handleDeliveryAck request

def Justified : Action → List (Event services) → Event services → Prop
  | .account request => request.Justified service environment
  | .privateMessage request => fun history event =>
    ChatService.Justified request history event ∧ ChatService.calls event.call = true
  | .deliveryAck _ => fun _ event => ackCalls event.call = true

theorem handle_yields (action : Action) :
    Yields (action.Justified service environment) (fun _ _ => True) []
      (action.handle service environment) := by
  cases action with
  | account request =>
    exact (request.handle_yields service environment).mono fun _ _ _ _ => trivial
  | privateMessage request =>
    exact (Program.Follows.and (handlePrivateMessage_yields request)
      (ChatService.handlePrivateMessage_calls request)).mono fun _ _ _ _ _ _ => trivial
  | deliveryAck request =>
    apply handleDeliveryAck_yields request
    · exact fun _ _ _ => rfl
    · exact fun _ _ _ => rfl
    · exact fun _ _ _ _ => rfl

def request : Action → RouterRequest
  | .account action => action.request
  | .privateMessage request => request
  | .deliveryAck request => request

variable {service environment} {action : Action} {history : List (Event services)}

/-- A session is bound by a login with the right password. -/
theorem justified_bindUser {reply : Except Error Unit}
    (hjustified : action.Justified service environment history
      ⟨.session (.bindUser userId (some session)), reply⟩) :
    ∃ request credentials user, action = .account (.login request) ∧
      request.session = some session ∧
      readCredentials request.fields = .ok credentials ∧ user.userId = userId ∧
      found credentials user ∈ history ∧
      Matches environment credentials user := by
  cases action with
  | privateMessage => exact nomatch hjustified.2
  | deliveryAck => exact nomatch hjustified
  | account request =>
    cases request with
    | login request =>
      obtain ⟨credentials, hread, hsession, user, huser, hfound, hmatches⟩ := hjustified
      exact ⟨request, credentials, user, rfl, hsession.symm, hread, huser, hfound, hmatches⟩
    | _ => exact hjustified.elim

/-- A friend request is accepted for the user of the session. -/
theorem justified_acceptFriendRequest {requesterId targetUserId : UInt64}
    {reply : Except Error Unit} (hjustified : action.Justified service environment history
      ⟨.storage (.acceptFriendRequest requesterId targetUserId), reply⟩) :
    action.request.ActsFor history targetUserId := by
  cases action with
  | privateMessage => exact nomatch hjustified.2
  | deliveryAck => exact nomatch hjustified
  | account request =>
    cases request with
    | register | logout => exact hjustified.elim
    | login =>
      obtain ⟨credentials, -, hentitled⟩ := hjustified
      exact hentitled.elim
    | _ => exact hjustified

/-- A message is saved for a friend. -/
theorem justified_save {message : MessageRecord} {offlineUserIds : List UInt64}
    {reply : Except Error MessageRecord} (hjustified : action.Justified service environment history
      ⟨.storage (.saveMessageWithOfflineRecipients message offlineUserIds), reply⟩) :
    message.conversation.type = .kPrivate ∧
      ⟨.storage (.areFriends message.senderId message.receiverId), .ok true⟩ ∈ history := by
  cases action with
  | privateMessage =>
    obtain ⟨⟨hrequested, -⟩, -⟩ := hjustified
    exact ⟨hrequested.conversation, hrequested.friends⟩
  | deliveryAck => exact nomatch hjustified
  | account request =>
    cases request with
    | login =>
      obtain ⟨credentials, -, hentitled⟩ := hjustified
      exact hentitled.elim
    | _ => exact hjustified.elim

end Action

/-! ## Where a message comes from -/

section Runs

variable {ι : Type}

/-- A request logged in on a session as a user, with the right password. -/
def LoggedIn (environment : Environment) (actions : ι → Action)
    (log : List (ι × Event services)) (session : SessionRef) (userId : UInt64) : Prop :=
  ∃ i request credentials user, actions i = .account (.login request) ∧
    request.session = some session ∧
    readCredentials request.fields = .ok credentials ∧ user.userId = userId ∧
    (i, found credentials user) ∈ log ∧
    Matches environment credentials user ∧
    (i, ⟨.session (.bindUser userId (some session)), .ok ()⟩) ∈ log

/-- A session was found logged in as a user, after such a login. -/
def FoundLoggedIn (environment : Environment) (actions : ι → Action)
    (log : List (ι × Event services)) (i : ι) (session : SessionRef) (userId : UInt64) : Prop :=
  ∃ earlier later, log = earlier ++
      (i, ⟨.session (.getUserBySession session.id), .ok userId⟩) :: later ∧
    LoggedIn environment actions earlier session userId

/-- A request accepted what `requesterId` had asked, on a session that it had found logged in
as the user who was asked. -/
def Accepted (environment : Environment) (actions : ι → Action)
    (log : List (ι × Event services)) (requesterId targetUserId : UInt64) : Prop :=
  ∃ i session earlier later, (actions i).request.session = some session ∧
    log = earlier ++
      (i, ⟨.storage (.acceptFriendRequest requesterId targetUserId), .ok ()⟩) :: later ∧
    FoundLoggedIn environment actions earlier i session targetUserId

/-- One of two users asked the other, who accepted. -/
def Consented (environment : Environment) (actions : ι → Action)
    (pool : Pool services ι (Except Error Packet) World) (userId friendId : UInt64) : Prop :=
  ∃ requesterId targetUserId,
    ((userId, friendId) = (requesterId, targetUserId) ∨
      (userId, friendId) = (targetUserId, requesterId)) ∧
    pool.world.database.1.HasAccepted requesterId targetUserId ∧
    Accepted environment actions pool.log requesterId targetUserId

section Mono

variable {environment : Environment} {actions : ι → Action}
variable {log later : List (ι × Event services)}

theorem LoggedIn.mono (hlogged : LoggedIn environment actions log session userId)
    (hbegins : log <+: later) : LoggedIn environment actions later session userId := by
  obtain ⟨i, request, credentials, user, haction, hsession, hread, huser, hfound, hmatches,
    hbound⟩ := hlogged
  exact ⟨i, request, credentials, user, haction, hsession, hread, huser, hbegins.subset hfound,
    hmatches, hbegins.subset hbound⟩

theorem FoundLoggedIn.mono {i : ι}
    (hfound : FoundLoggedIn environment actions log i session userId) (hbegins : log <+: later) :
    FoundLoggedIn environment actions later i session userId := by
  obtain ⟨earlier, rest, rfl, hlogged⟩ := hfound
  obtain ⟨after, rfl⟩ := hbegins
  exact ⟨earlier, rest ++ after, by simp, hlogged⟩

theorem Accepted.mono {requesterId targetUserId : UInt64}
    (haccepted : Accepted environment actions log requesterId targetUserId)
    (hbegins : log <+: later) :
    Accepted environment actions later requesterId targetUserId := by
  obtain ⟨i, session, earlier, rest, hsession, rfl, hfound⟩ := haccepted
  obtain ⟨after, rfl⟩ := hbegins
  exact ⟨i, session, earlier, rest ++ after, hsession, by simp, hfound⟩

end Mono

variable {service : AuthService} {environment : Environment} {actions : ι → Action}
variable {faults : Faults} {world : World}
variable {guard : Pool services ι (Except Error Packet) World → ι → Call → Prop}
variable {pool last : Pool services ι (Except Error Packet) World}

/-- Requests handled at once. -/
def handling (service : AuthService) (environment : Environment)
    (actions : ι → Action) (world : World) : Pool services ι (Except Error Packet) World :=
  Pool.start (fun i => ((actions i).handle service environment).run) world

/-- What else may happen: sessions close, users go offline and the cache changes. -/
def Elsewhere (before after : World) : Prop :=
  after.database = before.database ∧ ∀ userId binding,
    after.manager.users userId = some binding → before.manager.users userId = some binding

/-- Nobody is logged in, and there are no friends and no messages. -/
structure Unused (world : World) : Prop where
  users : ∀ userId, world.manager.users userId = none
  friendships : world.database.1.friendships = []
  messages : world.database.1.messages = []

/-- The steps from a message back to a login. -/
structure Traced (environment : Environment) (actions : ι → Action)
    (pool : Pool services ι (Except Error Packet) World) : Prop where
  bound : ∀ userId binding, pool.world.manager.users userId = some binding →
    LoggedIn environment actions pool.log ⟨binding.sessionId⟩ userId
  found : ∀ i (session : SessionRef) userId,
    (i, ⟨.session (.getUserBySession session.id), .ok userId⟩) ∈ pool.log →
      FoundLoggedIn environment actions pool.log i session userId
  friends : ∀ userId friendId, (userId, friendId) ∈ pool.world.database.1.friendships →
    (friendId, userId) ∈ pool.world.database.1.friendships ∧
      Consented environment actions pool userId friendId
  checked : ∀ i userId friendId,
    (i, ⟨.storage (.areFriends userId friendId), .ok true⟩) ∈ pool.log →
      (userId, friendId) ∈ pool.world.database.1.friendships
  messages : ∀ row ∈ pool.world.database.1.messages,
    (row.senderId, row.receiverId) ∈ pool.world.database.1.friendships

theorem Unused.traced (hunused : Unused world) :
    Traced environment actions (handling service environment actions world) where
  bound _ _ hbinding := nomatch (hunused.users _).symm.trans hbinding
  found _ _ _ hmem := nomatch hmem
  friends _ _ hmem := nomatch hunused.friendships ▸ hmem
  checked _ _ _ hmem := nomatch hmem
  messages _ hmem := nomatch hunused.messages ▸ hmem

theorem Traced.elsewhere (htraced : Traced environment actions pool) {after : World}
    (helsewhere : Elsewhere pool.world after) :
    Traced environment actions { pool with world := after } := by
  obtain ⟨hdatabase, husers⟩ := helsewhere
  refine ⟨fun userId binding hbinding => htraced.bound userId binding (husers _ _ hbinding),
    htraced.found, ?_, ?_, ?_⟩
  · intro userId friendId hmem
    have hfriends := htraced.friends userId friendId
    simp only [Consented] at hfriends ⊢
    rw [hdatabase] at hmem ⊢
    exact hfriends hmem
  · intro i userId friendId hmem
    rw [hdatabase]
    exact htraced.checked i userId friendId hmem
  · intro row hmem
    rw [hdatabase] at hmem ⊢
    exact htraced.messages row hmem

section Step

variable {i : ι} {event : Event services} {next : Program services (Except Error Packet)}
variable {after : World}

/-- A session that is found logged in is bound. -/
theorem Traced.found_step (htraced : Traced environment actions pool)
    (hanswer : machine faults event.call pool.world event.reply after)
    (j : ι) (session : SessionRef) (userId : UInt64)
    (hmem : (j, ⟨.session (.getUserBySession session.id), .ok userId⟩) ∈
      pool.log ++ [(i, event)]) :
    FoundLoggedIn environment actions (pool.log ++ [(i, event)]) j session userId := by
  rcases mem_append.mp hmem with hold | hnew
  · exact (htraced.found j session userId hold).mono (prefix_append _ _)
  · obtain ⟨rfl, rfl⟩ := Prod.mk.inj (mem_singleton.mp hnew)
    obtain ⟨binding, hbinding, hid⟩ := boundSession_eq_some_iff.mp
      ((getUserBySession_spec _ _ _).2 userId (congrArg Prod.fst hanswer).symm)
    have hlogged := htraced.bound userId binding hbinding
    rw [show (⟨binding.sessionId⟩ : SessionRef) = session from SessionRef.ext hid] at hlogged
    exact ⟨pool.log, [], rfl, hlogged⟩

/-- Friendships stay. -/
theorem friendships_step (hanswer : machine faults event.call pool.world event.reply after)
    {pair : UInt64 × UInt64} (hmem : pair ∈ pool.world.database.1.friendships) :
    pair ∈ after.database.1.friendships := by
  rcases (machine_effect hanswer).1.friends_cases with
    ⟨requesterId, targetUserId, -, haccepts⟩ | ⟨hsame, -⟩
  · exact (haccepts.friendships pair).mpr (Or.inl hmem)
  · rwa [hsame]

/-- Users who are reported as friends are friends. -/
theorem Traced.checked_step (htraced : Traced environment actions pool)
    (hanswer : machine faults event.call pool.world event.reply after)
    (j : ι) (userId friendId : UInt64)
    (hmem : (j, ⟨.storage (.areFriends userId friendId), .ok true⟩) ∈ pool.log ++ [(i, event)]) :
    (userId, friendId) ∈ after.database.1.friendships := by
  rcases mem_append.mp hmem with hold | hnew
  · exact friendships_step hanswer (htraced.checked j userId friendId hold)
  · obtain ⟨rfl, rfl⟩ := Prod.mk.inj (mem_singleton.mp hnew)
    have hfriends : pool.world.database.1.areFriends userId friendId = .ok true :=
      answered_of_ok hanswer
    apply friendships_step hanswer
    simp only [Tables.areFriends, Status.error] at hfriends
    split_ifs at hfriends
    exact of_decide_eq_true (Except.ok.inj hfriends)

variable [DecidableEq ι]

section

variable (htraced : Traced environment actions pool)
  (hjustified : (actions i).Justified service environment (Pool.history pool.log i) event)
  (hanswer : machine faults event.call pool.world event.reply after)
include htraced hjustified hanswer

/-- A new binding is the end of a login. -/
theorem Traced.bound_step (userId : UInt64) (binding : UserBinding)
    (hbinding : after.manager.users userId = some binding) :
    LoggedIn environment actions (pool.log ++ [(i, event)]) ⟨binding.sessionId⟩ userId := by
  rcases machine_users hanswer hbinding with hold | ⟨session, hid, hevent⟩
  · exact (htraced.bound userId binding hold).mono (prefix_append _ _)
  · replace hevent : event = ⟨.session (.bindUser userId (some session)), .ok ()⟩ := hevent
    subst hevent
    obtain ⟨request, credentials, user, haction, hsession, hread, huser, hfound, hmatches⟩ :=
      Action.justified_bindUser hjustified
    rw [show (⟨binding.sessionId⟩ : SessionRef) = session from SessionRef.ext hid]
    exact ⟨i, request, credentials, user, haction, hsession, hread, huser,
      mem_append_left _ (Pool.mem_history.mp hfound), hmatches, by simp⟩

theorem Traced.friends_step
    (userId friendId : UInt64) (hmem : (userId, friendId) ∈ after.database.1.friendships) :
    (friendId, userId) ∈ after.database.1.friendships ∧
      Consented environment actions (pool.advance i event next after) userId friendId := by
  have hgrows : pool.log <+: pool.log ++ [(i, event)] := prefix_append _ _
  have hold : (∀ requesterId targetUserId,
        pool.world.database.1.HasAccepted requesterId targetUserId →
          after.database.1.HasAccepted requesterId targetUserId) →
      (userId, friendId) ∈ pool.world.database.1.friendships →
      (friendId, userId) ∈ after.database.1.friendships ∧
        Consented environment actions (pool.advance i event next after) userId friendId := by
    intro hkeeps hbefore
    obtain ⟨hback, requesterId, targetUserId, hpair, hrow, haccepted⟩ :=
      htraced.friends userId friendId hbefore
    exact ⟨friendships_step hanswer hback, requesterId, targetUserId, hpair,
      hkeeps _ _ hrow, haccepted.mono hgrows⟩
  rcases (machine_effect hanswer).1.friends_cases with
    ⟨requesterId, targetUserId, hevent, haccepts⟩ | ⟨hsame, hkeeps⟩
  · replace hevent : event =
      ⟨.storage (.acceptFriendRequest requesterId targetUserId), .ok ()⟩ := hevent
    subst hevent
    obtain ⟨session, hsession, hfound⟩ := Action.justified_acceptFriendRequest hjustified
    have haccepted : Accepted environment actions (pool.log ++ [(i, _)]) requesterId
        targetUserId :=
      ⟨i, session, pool.log, [], hsession, rfl,
        htraced.found i session targetUserId (Pool.mem_history.mp hfound)⟩
    rcases (haccepts.friendships _).mp hmem with hbefore | hpair | hpair
    · exact hold (fun _ _ => haccepts.keepsAccepted) hbefore
    · cases hpair
      exact ⟨(haccepts.friendships _).mpr (Or.inr (Or.inr rfl)), userId, friendId, Or.inl rfl,
        haccepts.hasAccepted, haccepted⟩
    · cases hpair
      exact ⟨(haccepts.friendships _).mpr (Or.inr (Or.inl rfl)), friendId, userId, Or.inr rfl,
        haccepts.hasAccepted, haccepted⟩
  · rw [hsame] at hmem
    exact hold hkeeps hmem

/-- A message that is saved is for a friend. -/
theorem Traced.messages_step (row : MessageRow) (hmem : row ∈ after.database.1.messages) :
    (row.senderId, row.receiverId) ∈ after.database.1.friendships := by
  apply friendships_step hanswer
  rcases (machine_effect hanswer).1.cases with
    ⟨message, offlineUserIds, saved, hevent, hsaves⟩ | ⟨_, _, -, -, hadds⟩ | ⟨-, hkeeps⟩
  · replace hevent : event =
      ⟨.storage (.saveMessageWithOfflineRecipients message offlineUserIds), .ok saved⟩ := hevent
    subst hevent
    obtain ⟨hprivate, hfriends⟩ := Action.justified_save hjustified
    obtain ⟨added, hmessages, hrow⟩ := savedRow_of_saves hsaves
    rw [hmessages] at hmem
    rcases mem_append.mp hmem with hold | hnew
    · exact htraced.messages row hold
    · have hreceiver : Tables.storedReceiver message = message.receiverId := by
        simp [Tables.storedReceiver, hprivate]
      rw [mem_singleton.mp hnew, hrow.sender, hrow.receiver, hreceiver]
      exact htraced.checked i _ _ (Pool.mem_history.mp hfriends)
  · rw [hadds.messages] at hmem
    exact htraced.messages row hmem
  · rw [hkeeps.messages] at hmem
    exact htraced.messages row hmem

theorem Traced.step :
    Traced environment actions (pool.advance i event next after) where
  bound := htraced.bound_step hjustified hanswer
  found := htraced.found_step hanswer
  friends := htraced.friends_step hjustified hanswer
  checked := htraced.checked_step hanswer
  messages := htraced.messages_step hjustified hanswer

end

end Step

variable [DecidableEq ι]

theorem Traced.reaches (hunused : Unused world)
    (hreaches : Pool.Reaches (machine faults) Elsewhere guard
      (handling service environment actions world) last) :
    Traced environment actions last := by
  apply hreaches.justified_invariant (fun i => (actions i).handle_yields service environment)
    (Traced environment actions) hunused.traced
  · exact fun pool i event next after htraced hjustified hanswer =>
      htraced.step hjustified hanswer
  · exact fun pool after htraced helsewhere => htraced.elsewhere helsewhere

/-- Whatever requests are handled at once: where a message is stored, which can only be a
private one, its users are friends, and one of them accepted what the other had asked, on a
session logged in with the right password. -/
theorem privateMessage_consented (hunused : Unused world)
    (hreaches : Pool.Reaches (machine faults) Elsewhere guard
      (handling service environment actions world) last)
    {row : MessageRow} (hstored : row ∈ last.world.database.1.messages) :
    (row.senderId, row.receiverId) ∈ last.world.database.1.friendships ∧
      (row.receiverId, row.senderId) ∈ last.world.database.1.friendships ∧
      Consented environment actions last row.senderId row.receiverId := by
  have htraced := Traced.reaches hunused hreaches
  have hfriends := htraced.messages row hstored
  exact ⟨hfriends, htraced.friends _ _ hfriends⟩

end Runs

/-! ## From two logins to a message -/

def twoAccounts : Tables where
  collation := foldCase
  users := [{ userId := 1, username := [97], passwordHash := [1] },
    { userId := 2, username := [98], passwordHash := [2] }]

theorem twoAccounts_keyed : twoAccounts.Keyed :=
  Tables.keyed_of_no_messages (by decide) rfl rfl rfl (by simp [twoAccounts])
    (by simp [twoAccounts])

def strangers : World where
  sessions := fun _ => {}
  manager := {}
  redis := {}
  database := ⟨twoAccounts, twoAccounts_keyed⟩

/-- A request with some fields. -/
def requestOn (session : UInt64) (fields : List (TlvType × Bytes)) : RouterRequest where
  session := some ⟨session⟩
  packet := {}
  fields := fun type => (fields.find? fun field => field.1 = type).map fun field => [field.2]

/-- `a` logs in and asks `b`, who logs in and accepts, and `a` writes. -/
def acquainted : Fin 5 → Action
  | 0 => .account (.login (requestOn 11 [(.username, [97]), (.password, [1])]))
  | 1 => .account (.addFriend (requestOn 11 [(.targetUserId, appendUint64BE [] 2)]))
  | 2 => .account (.login (requestOn 12 [(.username, [98]), (.password, [2])]))
  | 3 => .account (.acceptFriend (requestOn 12 [(.targetUserId, appendUint64BE [] 1)]))
  | 4 => .privateMessage (requestOn 11 [(.receiverId, appendUint64BE [] 2), (.messageText, [104])])

def written : Pool services (Fin 5) (Except Error Packet) World :=
  (handling threeFailures plain acquainted strangers).schedule
    (answer fun _ _ => .ok ())
    ([0, 1, 2, 3, 4].flatMap fun i => replicate 9 i)

def firstMessage : MessageRow where
  messageId := 1
  conversation := { type := .kPrivate, id := 10002 }
  senderId := 1
  receiverId := 2
  messageText := [104]
  createdAtMs := 0
  clientMsgId := none

theorem privateMessage_consented_written :
    firstMessage ∈ written.world.database.1.messages ∧
      Consented plain acquainted written 1 2 := by
  have hstored : firstMessage ∈ written.world.database.1.messages := by decide +kernel
  have hreaches : Pool.Reaches (machine .none) Elsewhere (fun _ _ _ => True)
      (handling threeFailures plain acquainted strangers) written :=
    Pool.reaches_schedule (machine_answer fun _ _ => rfl)
      (Pool.meets_of_forall (fun _ _ _ => trivial) _ _)
  exact ⟨hstored, (privateMessage_consented ⟨fun _ => rfl, rfl, rfl⟩ hreaches hstored).2.2⟩

end Consent

end LiteIM
