/-
# Acknowledged messages are not delivered again

Clients send and pull messages and acknowledge them, each request being handled
before the next one; sessions, the session manager and the cache change in between.

Two tables say what became of a message. An acknowledgement of pulled messages marks
the offline rows, and a marked row stays marked. An acknowledgement of a pushed
message records the delivery only, so a row that was waiting goes on waiting. If none
was, none is added later: a fallback row is only written for a message that was just
saved, or after its delivery was found unconfirmed.
-/

import LiteIM.Foundation.Run
import LiteIM.Foundation.Sequence
import LiteIM.Service.ChatDelivery
import LiteIM.Service.GroupService
import LiteIM.Service.OfflineMessageService

namespace LiteIM.Mailbox

open Foundation World OfflineMessageService Fallible ChatService Tables List

/-- The requests that concern waiting messages. -/
inductive Operation where
  | privateMessage
  | groupMessage
  | offlineMessages
  | offlineMessagesAck
  | deliveryAck
  deriving DecidableEq, Repr

structure ClientRequest where
  operation : Operation
  request : RouterRequest

/-- The handler of each request. -/
def serve (service : OfflineMessageService) :
    ClientRequest → Program services (Except Error Packet)
  | ⟨.privateMessage, request⟩ => (handlePrivateMessage request).run
  | ⟨.groupMessage, request⟩ => (GroupService.handleGroupMessage request).run
  | ⟨.offlineMessages, request⟩ => (service.handleOfflineMessages request).run
  | ⟨.offlineMessagesAck, request⟩ =>
    (handleOfflineMessagesAck request).run
  | ⟨.deliveryAck, request⟩ => (handleDeliveryAck request).run

/-- Between requests everything but storage may change. -/
def Elsewhere (before after : World) : Prop := after.database = before.database

/-- Requests handled one after another. -/
abbrev Requests (service : OfflineMessageService) (faults : Faults) :
    World → List (Completed services ClientRequest (Except Error Packet)) → World → Prop :=
  Sequence (machine faults) Elsewhere (serve service)

/-! ## After an acknowledgement of pulled messages -/

/-- The message waited for the user and does not any more. -/
structure Received (tables : Tables) (userId messageId : UInt64) : Prop where
  present : tables.hasOffline userId messageId = true
  settled : tables.Settled userId [messageId]

section Settled

variable {before after : Tables} {userId messageId : UInt64} {added : List OfflineRow}

/-- Other rows do not concern a settled message. -/
theorem settled_of_append (hsettled : before.Settled userId [messageId])
    (hadded : after.offlineMessages = before.offlineMessages ++ added)
    (hothers : ∀ row ∈ added, ¬ (row.userId = userId ∧ row.messageId = messageId)) :
    after.Settled userId [messageId] := by
  intro row hmem huser hmessage
  rw [hadded] at hmem
  rcases mem_append.mp hmem with hold | hnew
  · exact hsettled row hold huser hmessage
  · exact (hothers row hnew ⟨huser, mem_singleton.mp hmessage⟩).elim

/-- The key of a row that is there is not used again. -/
theorem not_added (hkeyed : after.Keyed)
    (hadded : after.offlineMessages = before.offlineMessages ++ added)
    (hpresent : before.hasOffline userId messageId = true) :
    ∀ row ∈ added, ¬ (row.userId = userId ∧ row.messageId = messageId) := by
  rintro row hmem ⟨rfl, rfl⟩
  obtain ⟨old, hold, hkey⟩ := hasOffline_iff.mp hpresent
  have hunique := hkeyed.offline_unique
  rw [hadded, pairwise_append] at hunique
  exact hunique.2.2 old hold row hmem hkey

end Settled

variable {userId messageId : UInt64} {before after : Tables}

theorem Received.effect {event : Event services} (hreceived : Received before userId messageId)
    (hkeyed : after.Keyed) (heffect : Effect before after event) :
    Received after userId messageId where
  present := heffect.later.offline _ _ hreceived.present
  settled := by
    rcases heffect.cases with ⟨message, offlineUserIds, saved, -, hsaves⟩ |
      ⟨user, other, -, -, hadds⟩ | ⟨-, hkeeps⟩
    · obtain ⟨added, hadded, -⟩ := hsaves.offline
      exact settled_of_append hreceived.settled hadded
        (not_added hkeyed hadded hreceived.present)
    · obtain ⟨added, hadded, -⟩ := hadds.offline
      exact settled_of_append hreceived.settled hadded
        (not_added hkeyed hadded hreceived.present)
    · exact hreceived.settled.of_keepsMessages hkeeps

variable {faults : Faults} {last : World} {trace : List (Event services)}

/-- Once received a message stays so, whatever calls are made. -/
theorem Received.run {first : World}
    (hreceived : Received first.database.1 userId messageId)
    (hrun : (machine faults).Run first trace last) :
    Received last.database.1 userId messageId := by
  revert hreceived
  apply hrun.related fun first last =>
    Received first.database.1 userId messageId → Received last.database.1 userId messageId
  · exact fun _ => id
  · exact fun hfirst hsecond hreceived => hsecond (hfirst hreceived)
  · intro call world reply next hanswer hreceived
    exact hreceived.effect next.database.2 (machine_effect hanswer).1

/-! ## After an acknowledgement of a pushed message -/

/-- The delivery is recorded, and the message does not wait. -/
structure Confirmed (tables : Tables) (userId messageId : UInt64) : Prop where
  delivered : tables.Delivered userId messageId
  stored : tables.hasMessage messageId = true
  settled : tables.Settled userId [messageId]

/-- Events of a fallback. -/
def fallsBack : Event services → Bool
  | ⟨.storage (.saveOfflineMessage _ _), _⟩ => true
  | _ => false

/-- Only a fallback row for this message can make it wait again. -/
theorem Confirmed.effect {event : Event services} (hconfirmed : Confirmed before userId messageId)
    (hkeyed : before.Keyed) (heffect : Effect before after event)
    (hother : event ≠ ⟨.storage (.saveOfflineMessage userId messageId), .ok ()⟩) :
    Confirmed after userId messageId where
  delivered := heffect.later.delivered _ _ hconfirmed.delivered
  stored := by
    obtain ⟨row, hmem, hid⟩ := hasMessage_iff.mp hconfirmed.stored
    exact hasMessage_iff.mpr ⟨row, heffect.later.messages row hmem, hid⟩
  settled := by
    rcases heffect.cases with ⟨message, offlineUserIds, saved, -, hsaves⟩ |
      ⟨user, other, rfl, -, hadds⟩ | ⟨-, hkeeps⟩
    · obtain ⟨added, hadded, -, hkeys⟩ := hsaves.offline
      apply settled_of_append hconfirmed.settled hadded
      rintro row hmem ⟨-, rfl⟩
      -- The rows of a save are for the message it saves, which is a new one.
      have hnew : row.messageId = saved.messageId :=
        ((hkeys (row.userId, row.messageId)).mp (mem_map_of_mem hmem)).2
      obtain ⟨stored, hstored, hid⟩ := hasMessage_iff.mp hconfirmed.stored
      have hlt := hkeyed.message_lt stored hstored
      rw [hid, hnew, hsaves.fresh] at hlt
      exact Nat.lt_irrefl _ hlt
    · obtain ⟨added, hadded, hkeys⟩ := hadds.offline
      apply settled_of_append hconfirmed.settled hadded
      rintro row hmem ⟨rfl, rfl⟩
      have hkey : (row.userId, row.messageId) ∈ [(user, other)] := by
        rw [show [(user, other)] = [user].map fun userId => (userId, other) from rfl, ← hkeys]
        exact mem_map_of_mem hmem
      obtain ⟨rfl, rfl⟩ := Prod.mk.inj (mem_singleton.mp hkey)
      exact hother rfl
    · exact hconfirmed.settled.of_keepsMessages hkeeps

variable {world : World} {result : Except Error Packet}

/-- A handler without fallbacks leaves the message confirmed. -/
theorem Confirmed.exec {program : Program services (Except Error Packet)}
    {post : List (Event services) → Except Error Packet → Prop}
    (hconfirmed : Confirmed world.database.1 userId messageId)
    (hfollows : program.Follows (fun _ event => fallsBack event = false) post [])
    (hexec : program.Exec (machine faults) world trace result last) :
    Confirmed last.database.1 userId messageId := by
  apply hexec.justified_invariant hfollows
    (fun _ world => Confirmed world.database.1 userId messageId) hconfirmed
  intro past event before after hbefore hquiet hanswer
  apply hbefore.effect before.database.2 (machine_effect hanswer).1
  intro hsame
  rw [show event = _ from hsame] at hquiet
  cases hquiet

/-- What the answers say of a confirmed message: it is not a new one, and its delivery
is not reported as open. -/
def Truthful (userId messageId : UInt64) : Event services → Prop
  | ⟨.storage (.saveMessageWithOfflineRecipients _ _), .ok saved⟩ => saved.messageId ≠ messageId
  | ⟨.storage (.findDeliveryStatus user message), .ok status⟩ =>
    user = userId → message = messageId → isTerminalDeliveryStatus status = true
  | ⟨.storage (.findDeliveryStatus user message), .error status⟩ =>
    user = userId → message = messageId → status.code ≠ .notFound
  | _ => True

/-- A delivery has one row, so the status of a delivered message is terminal. -/
theorem terminal_of_delivered {tables : Tables} (hkeyed : tables.Keyed)
    (hdelivered : tables.Delivered userId messageId) {status : DeliveryStatus}
    (hfind : tables.findDeliveryStatus userId messageId = .ok status) :
    isTerminalDeliveryStatus status = true := by
  obtain ⟨row, hmem, hmessage, huser, hstatus⟩ := hdelivered
  obtain ⟨found, hfound, hmessage', huser', rfl⟩ := findDeliveryStatus_ok hfind
  have hsame : found = row := by
    by_contra hne
    have hsymm : Std.Symm fun first second : DeliveryRow =>
        ¬ (first.messageId = second.messageId ∧ first.userId = second.userId) :=
      ⟨fun first second hdistinct hkey => hdistinct ⟨hkey.1.symm, hkey.2.symm⟩⟩
    exact hkeyed.delivery_unique.forall hfound hmem hne
      ⟨hmessage'.trans hmessage.symm, huser'.trans huser.symm⟩
  rw [hsame]
  simpa [isTerminalDeliveryStatus] using hstatus

theorem found_of_delivered {tables : Tables} (hdelivered : tables.Delivered userId messageId)
    {status : Error} (hfind : tables.findDeliveryStatus userId messageId = .error status) :
    status.code ≠ .notFound := by
  obtain ⟨row, hmem, hmessage, huser, -⟩ := hdelivered
  simp only [findDeliveryStatus, Status.error] at hfind
  split_ifs at hfind with huserZero hmessageZero
  · rw [← Except.error.inj hfind]
    decide
  · rw [← Except.error.inj hfind]
    decide
  · cases hrow : tables.messageDeliveries.find? fun row =>
        decide (row.messageId = messageId ∧ row.userId = userId) with
    | some found => simp only [hrow, reduceCtorEq] at hfind
    | none =>
      have hnone := find?_eq_none.mp hrow row hmem
      exact (hnone (by simp [hmessage, huser])).elim

theorem Confirmed.truthful {next : World} {event : Event services}
    (hconfirmed : Confirmed world.database.1 userId messageId)
    (hanswer : machine faults event.call world event.reply next) :
    Truthful userId messageId event := by
  obtain ⟨call, reply⟩ := event
  cases call with
  | session | cache => trivial
  | storage call =>
    cases call with
    | saveMessageWithOfflineRecipients message offlineUserIds =>
      cases reply with
      | error => trivial
      | ok saved =>
        have hsaves : Saves message offlineUserIds world.database.1 saved
            next.database.1 := (machine_effect hanswer).1
        rintro rfl
        obtain ⟨row, hmem, hid⟩ := hasMessage_iff.mp hconfirmed.stored
        have hlt := world.database.2.message_lt row hmem
        rw [hid, hsaves.fresh] at hlt
        exact Nat.lt_irrefl _ hlt
    | findDeliveryStatus =>
      rcases hanswer with hanswer | ⟨-, ⟨status, hfault, rfl⟩, -⟩
      · obtain ⟨hreply, -⟩ := Prod.mk.inj hanswer
        cases reply with
        | ok =>
          rintro rfl rfl
          exact terminal_of_delivered world.database.2 hconfirmed.delivered hreply.symm
        | error =>
          rintro rfl rfl
          exact found_of_delivered hconfirmed.delivered hreply.symm
      · rintro - - hcode
        rcases hfault with hio | hargument | hinternal
        · cases hcode.symm.trans hio
        · cases hcode.symm.trans hargument
        · cases hcode.symm.trans hinternal
    | _ => trivial

/-- A private message leaves the message confirmed, be it a retry or not. -/
theorem Confirmed.privateMessage {request : RouterRequest}
    (hconfirmed : Confirmed world.database.1 userId messageId)
    (hexec : (handlePrivateMessage request).run.Exec (machine faults) world
      trace result last) : Confirmed last.database.1 userId messageId := by
  refine (hexec.justified_invariant (handlePrivateMessage_yields request)
    (fun past world => Confirmed world.database.1 userId messageId ∧
      ∀ event ∈ past, Truthful userId messageId event) ⟨hconfirmed, by simp⟩ ?_).1
  rintro past event before after ⟨hbefore, hpast⟩ hjustified hanswer
  refine ⟨hbefore.effect before.database.2 (machine_effect hanswer).1 ?_, ?_⟩
  · -- A fallback needs a new message or an open delivery.
    intro hsame
    rw [show event = _ from hsame] at hjustified
    obtain ⟨saved, -, hunconfirmed, rfl⟩ := hjustified
    cases hunconfirmed with
    | saved event => exact hpast _ event rfl
    | pending nonterminal event =>
      have hterminal := hpast _ event rfl rfl
      rw [nonterminal] at hterminal
      cases hterminal
    | unknown code event => exact hpast _ event rfl rfl code
  · intro other hmem
    rcases mem_append.mp hmem with hold | hnew
    · exact hpast other hold
    · rw [mem_singleton.mp hnew]
      exact hbefore.truthful hanswer

/-! ## The other handlers write no fallback rows -/

theorem fallsBack_of_justified {request : RouterRequest} {history : List (Event services)}
    {event : Event services} (hjustified : GroupService.Justified request history event) :
    fallsBack event = false := by
  obtain ⟨call, reply⟩ := event
  cases call with
  | session | cache => rfl
  | storage call =>
    cases call with
    | saveOfflineMessage => exact hjustified.elim
    | _ => rfl

variable {service : OfflineMessageService}

/-- No request makes a confirmed message wait again. -/
theorem Confirmed.served {client : ClientRequest}
    (hconfirmed : Confirmed world.database.1 userId messageId)
    (hexec : (serve service client).Exec (machine faults) world trace result last) :
    Confirmed last.database.1 userId messageId := by
  obtain ⟨operation, request⟩ := client
  cases operation with
  | privateMessage => exact hconfirmed.privateMessage hexec
  | groupMessage =>
    exact hconfirmed.exec ((GroupService.handleGroupMessage_yields request).justify
      fun _ _ => fallsBack_of_justified) hexec
  | offlineMessages =>
    exact hconfirmed.exec (service.handleOfflineMessages_yields request (fun _ _ _ => rfl)
      fun _ _ _ _ _ => rfl) hexec
  | offlineMessagesAck =>
    exact hconfirmed.exec (handleOfflineMessagesAck_yields request
      (fun _ _ _ => rfl) (fun _ _ _ _ => rfl) fun _ _ _ => rfl) hexec
  | deliveryAck =>
    exact hconfirmed.exec (handleDeliveryAck_yields request (fun _ _ _ => rfl)
      (fun _ _ _ => rfl) fun _ _ _ _ => rfl) hexec

/-! ## What an acknowledgement achieves -/

section Acknowledge

variable {faults : Faults} {request : RouterRequest} {userId messageId : UInt64}

theorem received_of_acksOffline {messageIds : List UInt64} {records : List OfflineMessageRecord}
    (hacks : AcksOffline userId messageIds before records after)
    (hmem : messageId ∈ messageIds) : Received after userId messageId where
  present := by
    obtain ⟨record, -, hoffline, -⟩ := hacks.waited messageId hmem
    exact hacks.acknowledges.later.offline _ _ hoffline
  settled := by
    intro row hrow huser hmessage
    rw [mem_singleton] at hmessage
    exact hacks.settled row hrow huser (hmessage ▸ hmem)

theorem confirmed_of_acksPrivate {message : MessageRecord}
    (hacks : AcksPrivate userId messageId before message after)
    (hsettled : before.Settled userId [messageId]) : Confirmed after userId messageId where
  delivered := hacks.acknowledges.delivered messageId (mem_singleton_self messageId)
  stored := by
    obtain ⟨row, hmem, hid, -⟩ := hacks.found
    exact hasMessage_iff.mpr ⟨row, by rwa [hacks.acknowledges.messages], hid⟩
  settled := hsettled.of_keepsMessages hacks.acknowledges.keepsMessages

theorem handleOfflineMessagesAck_triple {messageIds : List UInt64}
    (hids : getRepeatedUint64 request.fields .messageId = .ok messageIds)
    (hmem : messageId ∈ messageIds) :
    Program.Triple (machine faults) (fun world => world.boundUser request = some userId)
      (handleOfflineMessagesAck request).run
      fun result world => ∀ response, result = .ok response →
        Received world.database.1 userId messageId := by
  refine triple_bind (fun value _ => value = userId) ?_ ?_
  · refine (OfflineMessageService.currentUserId_triple faults request fun _ _ => True).mono
      (fun world hbound => ⟨trivial, hbound⟩) ?_
    rintro result world ⟨-, rfl⟩
    rfl
  intro value
  rw [hids]
  refine triple_ofExcept_bind (by simp) ?_
  intro ids hsame
  obtain rfl := Except.ok.inj hsame
  refine triple_ofExcept_bind (by simp) ?_
  intro _ _
  refine triple_bind
    (fun _ world => Received world.database.1 userId messageId) ?_ ?_
  · refine Service.storage_triple ?_
    rintro world reply next rfl hanswer
    have heffect := (machine_effect hanswer).1
    cases reply with
    | ok => exact received_of_acksOffline heffect hmem
    | error => simp
  intro acked
  refine triple_ofExcept_bind (by simp) ?_
  intro response _
  refine triple_outcome_bind
    (fun _ world => Received world.database.1 userId messageId)
    (clearConversations_triple
      (fun database => Received database.1 userId messageId) _ _) ?_
  exact fun result => triple_pure fun world hreceived _ _ => hreceived

theorem handleDeliveryAck_triple (hid : getUint64 request.fields .messageId = .ok messageId) :
    Program.Triple (machine faults)
      (fun world => world.database.1.Settled userId [messageId] ∧
        world.boundUser request = some userId)
      (handleDeliveryAck request).run
      fun result world => ∀ response, result = .ok response →
        Confirmed world.database.1 userId messageId := by
  refine triple_bind
    (fun value world => world.database.1.Settled userId [messageId] ∧ value = userId) ?_ ?_
  · refine (currentUserId_triple faults request
      fun database _ => database.1.Settled userId [messageId]).mono (fun _ => id) ?_
    rintro result world ⟨hsettled, hvalue⟩
    cases result with
    | ok value => exact ⟨hsettled, hvalue value rfl⟩
    | error => simp
  intro value
  rw [hid]
  refine triple_ofExcept_bind (by simp) ?_
  intro message hsame
  obtain rfl := Except.ok.inj hsame
  refine triple_ofExcept_bind (by simp) ?_
  intro _ _
  refine triple_bind
    (fun _ world => Confirmed world.database.1 userId messageId) ?_ ?_
  · refine Service.storage_triple ?_
    rintro world reply next ⟨hsettled, rfl⟩ hanswer
    have heffect := (machine_effect hanswer).1
    cases reply with
    | ok => exact confirmed_of_acksPrivate heffect hsettled
    | error => simp
  exact fun found => triple_ofExcept fun world hconfirmed _ _ => hconfirmed

end Acknowledge

/-! ## Whole sequences -/

/-- The request acknowledges the message, as one that was pulled or as one that was
pushed and does not wait for the user. -/
def Names (tables : Tables) (userId messageId : UInt64) : ClientRequest → Prop
  | ⟨.offlineMessagesAck, request⟩ =>
    ∃ messageIds, getRepeatedUint64 request.fields .messageId = .ok messageIds ∧
      messageId ∈ messageIds
  | ⟨.deliveryAck, request⟩ =>
    getUint64 request.fields .messageId = .ok messageId ∧ tables.Settled userId [messageId]
  | _ => False

/-- After a successful acknowledgement the message is received or confirmed. -/
theorem acknowledged {client : ClientRequest} {trace : List (Event services)} {response : Packet}
    (hexec : (serve service client).Exec (machine faults) world trace (.ok response) last)
    (huser : world.boundUser client.request = some userId)
    (hnames : Names world.database.1 userId messageId client) :
    Received last.database.1 userId messageId ∨ Confirmed last.database.1 userId messageId := by
  obtain ⟨operation, request⟩ := client
  cases operation with
  | offlineMessagesAck =>
    obtain ⟨messageIds, hids, hmem⟩ := hnames
    exact Or.inl (handleOfflineMessagesAck_triple hids hmem _ _ _ _ huser hexec response rfl)
  | deliveryAck =>
    obtain ⟨hid, hsettled⟩ := hnames
    exact Or.inr (handleDeliveryAck_triple hid _ _ _ _ ⟨hsettled, huser⟩ hexec response rfl)
  | privateMessage | groupMessage | offlineMessages => exact hnames.elim

/-- It stays so over all later requests. -/
theorem settled_of_acknowledged {first : World}
    {served : List (Completed services ClientRequest (Except Error Packet))}
    (hacknowledged : Received first.database.1 userId messageId ∨
      Confirmed first.database.1 userId messageId)
    (hrequests : Requests service faults first served last) :
    last.database.1.Settled userId [messageId] := by
  have hlast : Received last.database.1 userId messageId ∨
      Confirmed last.database.1 userId messageId := by
    apply hrequests.invariant (fun world => Received world.database.1 userId messageId ∨
      Confirmed world.database.1 userId messageId) hacknowledged
    · rintro completed - world next (hreceived | hconfirmed) hexec
      · exact Or.inl (hreceived.run (Machine.run_of_exec hexec))
      · exact Or.inr (hconfirmed.served hexec)
    · intro world next hworld helsewhere
      rwa [show next.database = world.database from helsewhere]
  rcases hlast with hreceived | hconfirmed
  · exact hreceived.settled
  · exact hconfirmed.settled

/-- An acknowledged message is not delivered again: after a user acknowledged pulled
messages, or a pushed message that did not wait, no pull of that user returns them,
whatever requests come in between. -/
theorem acknowledged_not_returned {service : OfflineMessageService} {faults : Faults}
    {client : ClientRequest} {request : RouterRequest} {world acked later last : World}
    {ackTrace pullTrace : List (Event services)} {ackResponse response : Packet}
    {served : List (Completed services ClientRequest (Except Error Packet))}
    {userId messageId : UInt64}
    (hack : (serve service client).Exec (machine faults) world ackTrace (.ok ackResponse)
      acked) (huser : world.boundUser client.request = some userId)
    (hnames : Names world.database.1 userId messageId client)
    (hrequests : Requests service faults acked served later)
    (hpull : (serve service ⟨.offlineMessages, request⟩).Exec (machine faults) later
      pullTrace (.ok response) last)
    (hpuller : later.boundUser request = some userId) : ¬ Carries response messageId :=
  handleOfflineMessages_triple service _ _ _ _
    ⟨settled_of_acknowledged (acknowledged hack huser hnames) hrequests, hpuller⟩ hpull response
    rfl

/-! ## A message that waits when it is confirmed -/

/-- Handle a request when no call fails. -/
def handled (client : ClientRequest) (world : World) :
    Completed services ClientRequest (Except Error Packet) × World :=
  let run := (serve default client).run (answer fun _ _ => .ok ()) world
  (⟨client, run.1, run.2.1⟩, run.2.2)

theorem handled_exec (client : ClientRequest) (world : World) :
    (serve {} client).Exec (machine .none) world (handled client world).1.trace
      (handled client world).1.result (handled client world).2 :=
  Program.exec_run (machine_answer fun _ _ => rfl) _ world

/-- User 1 sends a message while user 2 is offline. -/
def sent : Completed services ClientRequest (Except Error Packet) × World :=
  handled ⟨.privateMessage, sendRequest 2 [65]⟩ oneOnline

/-- User 2 has logged in on session 12. -/
def secondOnline : World := { sent.2 with manager := sent.2.manager.rebind 2 ⟨12⟩ }

/-- A request on session 12 that names message 1. -/
def nameFirst : RouterRequest where
  session := some ⟨12⟩
  packet := {}
  fields := fun type => if type = .messageId then some [appendUint64BE [] 1] else none

/-- A request on session 12 for the waiting messages. -/
def pullAll : RouterRequest := { session := some ⟨12⟩, packet := {}, fields := fun _ => none }

/-- What user 2 pulls after the messages were acknowledged by `operation`. -/
def pulledAfter (operation : Operation) :
    Completed services ClientRequest (Except Error Packet) × World :=
  handled ⟨.offlineMessages, pullAll⟩ (handled ⟨operation, nameFirst⟩ secondOnline).2

/-- The message was pulled and acknowledged, and the next pull is empty. -/
theorem acknowledged_not_returned_pulled :
    ∃ response, (pulledAfter .offlineMessagesAck).1.result = .ok response ∧
      ¬ Carries response 1 := by
  have hack := handled_exec ⟨.offlineMessagesAck, nameFirst⟩ secondOnline
  have hpull := handled_exec ⟨.offlineMessages, pullAll⟩
    (handled ⟨.offlineMessagesAck, nameFirst⟩ secondOnline).2
  obtain ⟨ackResponse, hackResponse⟩ : ∃ ackResponse,
      (handled ⟨.offlineMessagesAck, nameFirst⟩ secondOnline).1.result = .ok ackResponse :=
    ⟨_, rfl⟩
  obtain ⟨response, hresponse⟩ : ∃ response,
      (pulledAfter .offlineMessagesAck).1.result = .ok response := ⟨_, rfl⟩
  rw [hackResponse] at hack
  rw [show (handled ⟨.offlineMessages, pullAll⟩ (handled ⟨.offlineMessagesAck, nameFirst⟩
    secondOnline).2).1.result = .ok response from hresponse] at hpull
  exact ⟨response, hresponse, acknowledged_not_returned hack rfl
    ⟨[1], rfl, mem_singleton_self 1⟩ (.nil _) hpull rfl⟩

/-- A message that waits for its receiver is returned after the receiver confirmed it as
a pushed one. -/
theorem confirmed_returned_again :
    Requests {} .none oneOnline
      [sent.1, (handled ⟨.deliveryAck, nameFirst⟩ secondOnline).1, (pulledAfter .deliveryAck).1]
      (pulledAfter .deliveryAck).2 ∧
    (handled ⟨.deliveryAck, nameFirst⟩ secondOnline).1.result.isOk = true ∧
    secondOnline.boundUser nameFirst = some 2 ∧
    getUint64 nameFirst.fields .messageId = .ok 1 ∧
    (handled ⟨.deliveryAck, nameFirst⟩ secondOnline).2.boundUser pullAll = some 2 ∧
    ∃ response, (pulledAfter .deliveryAck).1.result = .ok response ∧ Carries response 1 := by
  refine ⟨?_, rfl, rfl, rfl, rfl, ?_⟩
  · apply Sequence.request (handled_exec _ _)
    apply Sequence.outside (show Elsewhere sent.2 secondOnline from rfl)
    apply Sequence.request (handled_exec _ _)
    exact Sequence.request (handled_exec _ _) (.nil _)
  · obtain ⟨response, hresponse⟩ : ∃ response, pullResponse pullAll
        [{ offlineMessageId := 1, userId := 2,
           message :=
            { messageId := 1, conversation := { id := 10002 }, senderId := 1, receiverId := 2,
              text := [104, 105], createdAtMs := 0, clientMsgId := [65] } }] =
          .ok response := ⟨_, rfl⟩
    refine ⟨response, Eq.trans ?_ hresponse, (carries_iff rfl hresponse).mpr ?_⟩
    · rfl
    · exact ⟨_, mem_cons_self, rfl⟩

end LiteIM.Mailbox
