/-
# Whom a group message reaches

The push loop of `GroupService::handleGroupMessage` returns at the first session that
refuses the packet. That member, and the members after it, then have neither the push
nor an offline row: the message reaches everybody exactly if no online member's
session refuses it.
-/

import LiteIM.Service.Evidence
import LiteIM.Service.GroupService

namespace LiteIM.GroupService

open Foundation World Program Fallible SessionManager List

/-! ## What reading shows -/

/-- Reading changes no table and takes nobody on- or offline. -/
structure Steady (start world : World) : Prop where
  database : world.database = start.database
  sessions : world.sessions = start.sessions
  online : ∀ userId, world.onlineSession userId = start.onlineSession userId

/-- What the answer of a read shows about the world it started in. -/
def Seen (start : World) : Event services → Prop
  | ⟨.session (.getSessionByUser userId), .ok session⟩ =>
    start.onlineSession userId = some session
  | ⟨.session (.getSessionByUser userId), .error status⟩ =>
    status.code = .notFound → start.onlineSession userId = none
  | ⟨.storage (.getGroupMembers groupId), .ok members⟩ =>
    start.database.1.getGroupMembers groupId = .ok members
  | _ => True

theorem seen_getSessionByUser (world : World) (userId : UInt64) :
    Seen world ⟨.session (.getSessionByUser userId),
      (world.manager.getSessionByUser world.sessions userId).1⟩ := by
  by_cases hzero : userId = 0
  · rw [getSessionByUser, if_pos hzero]
    intro hcode
    cases hcode
  · rcases getSessionByUser_fst world.sessions world.manager hzero with
      ⟨session, honline, hresult⟩ | ⟨status, honline, -, hresult⟩
    · rw [hresult]
      exact honline
    · rw [hresult]
      exact fun _ => honline

variable {world : World}

theorem seen_lookup {start : World} {userId : UInt64} {result : Except Error SessionRef}
    (honline : world.onlineSession userId = start.onlineSession userId)
    (hseen : Seen world ⟨.session (.getSessionByUser userId), result⟩) :
    Seen start ⟨.session (.getSessionByUser userId), result⟩ := by
  cases result with
  | ok => exact honline.symm.trans hseen
  | error => exact fun hcode => honline.symm.trans (hseen hcode)

theorem seen_getGroupMembers (world : World) (groupId : UInt64) :
    Seen world ⟨.storage (.getGroupMembers groupId),
      world.database.1.getGroupMembers groupId⟩ := by
  cases hmembers : world.database.1.getGroupMembers groupId with
  | ok => exact hmembers
  | error => trivial

variable {faults : Faults}

/-- One read. -/
theorem steady_step {start next : World} {event : Event services} (hsteady : Steady start world)
    (hreads : Reads event) (hanswer : machine faults event.call world event.reply next) :
    Steady start next ∧ Seen start event := by
  obtain ⟨call, reply⟩ := event
  cases call with
  | cache => cases hreads
  | session call =>
    cases call with
    | closed =>
      cases hanswer
      exact ⟨hsteady, trivial⟩
    | getUserBySession =>
      cases hanswer
      refine ⟨⟨hsteady.database, hsteady.sessions, fun userId => ?_⟩, trivial⟩
      rw [← hsteady.online userId]
      exact onlineSession_getUserBySession _ _ _ _
    | getSessionByUser userId =>
      cases hanswer
      refine ⟨⟨hsteady.database, hsteady.sessions, fun other => ?_⟩, ?_⟩
      · rw [← hsteady.online other]
        exact onlineSession_getSessionByUser _ _ _ _
      · exact seen_lookup (hsteady.online userId) (seen_getSessionByUser world userId)
    | _ => cases hreads
  | storage call =>
    cases call with
    | findGroupById =>
      rcases hanswer with hanswer | ⟨-, -, rfl⟩
      · cases hanswer
        exact ⟨hsteady, trivial⟩
      · exact ⟨hsteady, trivial⟩
    | getGroupMembers groupId =>
      rcases hanswer with hanswer | ⟨-, ⟨status, -, rfl⟩, rfl⟩
      · cases hanswer
        refine ⟨hsteady, ?_⟩
        rw [hsteady.database]
        exact seen_getGroupMembers start groupId
      · exact ⟨hsteady, trivial⟩
    | _ => cases hreads

variable {request : RouterRequest} {trace : List (Event services)}

/-- `prepare` leaves the world as it was, and its answers show what it is like. -/
theorem prepare_exec {mid : World} {result : Except Error Plan}
    (hexec : (prepare request).run.Exec (machine faults) world trace result mid) :
    Steady world mid ∧ (∀ event ∈ trace, Reads event ∧ Seen world event) ∧
      ∀ plan, result = .ok plan →
        ∃ groupId members, Planned request trace groupId members plan := by
  have hsteady := hexec.justified_invariant (prepare_yields request)
    (fun past next => Steady world next ∧ ∀ event ∈ past, Reads event ∧ Seen world event)
    ⟨⟨rfl, rfl, fun _ => rfl⟩, by simp⟩ (by
      rintro past event before after ⟨hbefore, hpast⟩ hreads hanswer
      obtain ⟨hafter, hseen⟩ := steady_step hbefore hreads hanswer
      refine ⟨hafter, fun other hmem => ?_⟩
      rcases mem_append.mp hmem with hold | hnew
      · exact hpast other hold
      · rw [mem_singleton.mp hnew]
        exact ⟨hreads, hseen⟩)
  exact ⟨hsteady.1, hsteady.2, hexec.follows (prepare_yields request)⟩

/-! ## The handler after it saved -/

variable {last : World}

theorem incrementUnread_exec {conversation : ConversationKey} {userIds : List UInt64}
    {result : Except Error Unit}
    (hexec : (incrementUnread conversation userIds).run.Exec (machine faults) world trace
      result last) : result = .ok () ∧ last.database = world.database ∧
      ∀ event ∈ trace, ∃ key reply, event = ⟨.cache (.incrUnread key 1), reply⟩ := by
  induction userIds generalizing world trace with
  | nil =>
    obtain ⟨rfl, rfl, rfl⟩ := exec_ret_iff.mp hexec
    exact ⟨rfl, rfl, by simp⟩
  | cons userId rest ih =>
    obtain ⟨first, tail, value, mid, rfl, hfirst, htail⟩ := exec_outcome_bind hexec
    obtain ⟨reply, after, trace', rfl, hanswer, hret⟩ := exec_call_iff.mp hfirst
    obtain ⟨rfl, rfl, rfl⟩ := exec_ret_iff.mp hret
    obtain ⟨hresult, hdatabase, hevents⟩ := ih htail
    refine ⟨hresult, hdatabase.trans (machine_cache_database hanswer), ?_⟩
    intro event hmem
    rcases mem_append.mp hmem with hold | hnew
    · exact ⟨_, _, mem_singleton.mp hold⟩
    · exact hevents event hnew

variable {message : MessageRecord}

/-- The push loop sends to every session unless one refuses. -/
theorem pushToMembers_exec {accept : SessionRef → Except Error Unit}
    (hsend : ∀ session packet reply, faults.send session packet reply → reply = accept session)
    {push : Packet} (hpush : groupPush message = .ok push) {sessions : List SessionRef}
    {result : Except Error Unit}
    (hexec : (pushToMembers message sessions).run.Exec (machine faults) world trace result
      last) : last.database = world.database ∧
      ((∀ session ∈ sessions, accept session = .ok ()) → ∀ session ∈ sessions,
        ⟨.session (.sendPacket session push), .ok ()⟩ ∈ trace) ∧
      ∀ event ∈ trace, ∃ session,
        event = ⟨.session (.sendPacket session push), accept session⟩ := by
  induction sessions generalizing world trace with
  | nil =>
    obtain ⟨rfl, rfl, rfl⟩ := exec_ret_iff.mp hexec
    exact ⟨rfl, by simp, by simp⟩
  | cons session rest ih =>
    rw [pushToMembers, hpush, run_ofExcept_ok_bind] at hexec
    rcases exec_bind_cases hexec with ⟨status, rfl, hfirst⟩ |
      ⟨first, tail, value, mid, rfl, hfirst, htail⟩
    · obtain ⟨reply, after, rest', rfl, ⟨hreply, rfl⟩, hret⟩ := exec_call_iff.mp hfirst
      obtain ⟨rfl, rfl, rfl⟩ := exec_ret_iff.mp hret
      have hrefused := hsend _ _ _ hreply
      refine ⟨rfl, fun haccept => ?_, fun event hmem => ⟨session, ?_⟩⟩
      · have hcontra := hrefused.trans (haccept session (by simp))
        cases hcontra
      · rw [mem_singleton.mp hmem, ← hrefused]
    · obtain ⟨reply, after, rest', rfl, ⟨hreply, rfl⟩, hret⟩ := exec_call_iff.mp hfirst
      obtain ⟨rfl, rfl, rfl⟩ := exec_ret_iff.mp hret
      have haccepted := hsend _ _ _ hreply
      obtain ⟨hdatabase, hall, hevents⟩ := ih htail
      refine ⟨hdatabase, fun haccept other hmem => ?_, fun event hmem => ?_⟩
      · rcases mem_cons.mp hmem with rfl | hrest
        · simp
        · exact mem_append_right _
            (hall (fun known hknown => haccept known (mem_cons_of_mem _ hknown)) other
              hrest)
      · rcases mem_append.mp hmem with hfirst | hrest
        · exact ⟨session, by rw [mem_singleton.mp hfirst, ← haccepted]⟩
        · exact hevents event hrest

variable {saved : MessageRecord}

/-- A push of a saved message can always be built. -/
theorem exists_groupPush {history : List (Event services)} {groupId : UInt64}
    {members : List GroupMemberRecord} {plan : Plan}
    (hplanned : Planned request history groupId members plan) {before after : Tables}
    (hsaves : Tables.Saves plan.message plan.offlineUserIds before saved after) :
    ∃ push, groupPush saved = .ok push := by
  obtain ⟨row, -, hrow⟩ := savedRow_of_saves hsaves
  have htext : saved.text.length ≤ kMaxMessageTextBytes := by
    rw [hsaves.text]
    exact readMessageText_ok hplanned.text
  have hclientMsgId : saved.clientMsgId = [] := by
    have hnull : row.clientMsgId = none := by
      rw [hrow.clientMsgId, hplanned.clientMsgId]
      simp [Tables.nullIfEmpty, Collation.same]
    rw [hrow.record]
    simp [MessageRow.toRecord, hnull]
  apply exists_appendMessageFields
  · exact htext.trans (by decide)
  · simp [hclientMsgId]

variable {result : Except Error Packet}

/-- The handler after the save: it increments counters and pushes. -/
theorem afterSave_exec {accept : SessionRef → Except Error Unit}
    (hsend : ∀ session packet reply, faults.send session packet reply → reply = accept session)
    {push : Packet} (hpush : groupPush saved = .ok push) {userIds : List UInt64}
    {sessions : List SessionRef} {response : Except Error Packet}
    (hexec : (incrementUnread saved.conversation userIds >>= fun _ =>
      pushToMembers saved sessions >>= fun _ => Fallible.ofExcept response).run.Exec
      (machine faults) world trace result last) : last.database = world.database ∧
      ((∀ session ∈ sessions, accept session = .ok ()) → ∀ session ∈ sessions,
        ⟨.session (.sendPacket session push), .ok ()⟩ ∈ trace) ∧
      ∀ event ∈ trace, (∃ key reply, event = ⟨.cache (.incrUnread key 1), reply⟩) ∨
        ∃ session, event = ⟨.session (.sendPacket session push), accept session⟩ := by
  rcases exec_bind_cases hexec with ⟨status, -, hincrement⟩ |
    ⟨first, rest, value, mid, rfl, hincrement, hrest⟩
  · cases (incrementUnread_exec hincrement).1
  obtain ⟨-, hdatabase, hincrements⟩ := incrementUnread_exec hincrement
  -- Whether or not a push failed, nothing is called after the loop.
  have hloop : ∃ looped, (pushToMembers saved sessions).run.Exec (machine faults) mid rest
      looped last := by
    rcases exec_bind_cases hrest with ⟨status, -, hpushes⟩ |
      ⟨pushes, tail, value, after, rfl, hpushes, hresponse⟩
    · exact ⟨_, hpushes⟩
    · obtain ⟨rfl, -, rfl⟩ := exec_ret_iff.mp hresponse
      rw [append_nil]
      exact ⟨_, hpushes⟩
  obtain ⟨looped, hpushes⟩ := hloop
  obtain ⟨hsame, hall, hsends⟩ := pushToMembers_exec hsend hpush hpushes
  refine ⟨hsame.trans hdatabase, ?_, ?_⟩
  · intro haccept session hmem
    exact mem_append_right _ (hall haccept session hmem)
  · intro event hmem
    rcases mem_append.mp hmem with hfirst | hlast
    · exact Or.inl (hincrements event hfirst)
    · exact Or.inr (hsends event hlast)

/-- A run that committed a message: the plan it was saved by, and the pushes. -/
structure Committed (accept : SessionRef → Except Error Unit) (request : RouterRequest)
    (world last : World) (trace : List (Event services)) (plan : Plan)
    (saved : MessageRecord) : Prop where
  seen : ∀ event ∈ trace, Seen world event
  planned : ∃ groupId members, Planned request trace groupId members plan
  saves : Tables.Saves plan.message plan.offlineUserIds world.database.1 saved last.database.1
  pushes : ∃ push, groupPush saved = .ok push ∧
    ((∀ session ∈ plan.onlineSessions, accept session = .ok ()) →
      ∀ session ∈ plan.onlineSessions, ⟨.session (.sendPacket session push), .ok ()⟩ ∈ trace)
  accepted : ∀ session packet, ⟨.session (.sendPacket session packet), .ok ()⟩ ∈ trace →
    accept session = .ok ()

/-- A run that commits a message prepares a plan, saves it, and then increments and
pushes. -/
theorem handleGroupMessage_exec
    (hexec : (handleGroupMessage request).run.Exec (machine faults) world trace result last)
    {offlineUserIds : List UInt64}
    (hcommitted : ⟨.storage (.saveMessageWithOfflineRecipients message offlineUserIds),
      .ok saved⟩ ∈ trace) : ∃ before tail plan stored mid after,
      trace = before ++ ⟨.storage (.saveMessageWithOfflineRecipients plan.message
        plan.offlineUserIds), .ok stored⟩ :: tail ∧
      (prepare request).run.Exec (machine faults) world before (.ok plan) mid ∧
      machine faults (.storage (.saveMessageWithOfflineRecipients plan.message
        plan.offlineUserIds)) mid (.ok stored) after ∧
      (incrementUnread stored.conversation plan.offlineUserIds >>= fun _ =>
          pushToMembers stored plan.onlineSessions >>= fun _ =>
          Fallible.ofExcept (groupResponse request stored)).run.Exec
        (machine faults) after tail result last := by
  rcases exec_bind_cases hexec with ⟨status, -, hprepare⟩ |
    ⟨before, rest, plan, mid, rfl, hprepare, hrest⟩
  · exact ((prepare_exec hprepare).2.1 _ hcommitted).1.elim
  have hinRest := (mem_append.mp hcommitted).resolve_left fun hmem =>
    ((prepare_exec hprepare).2.1 _ hmem).1
  rcases exec_bind_cases hrest with ⟨status, -, hsave⟩ |
    ⟨first, tail, stored, after, rfl, hsave, htail⟩
  · obtain ⟨reply, after, rest', rfl, -, hret⟩ := exec_call_iff.mp hsave
    obtain ⟨rfl, rfl, -⟩ := exec_ret_iff.mp hret
    cases mem_singleton.mp hinRest
  · obtain ⟨reply, after', rest', rfl, hanswer, hret⟩ := exec_call_iff.mp hsave
    obtain ⟨rfl, rfl, rfl⟩ := exec_ret_iff.mp hret
    exact ⟨before, tail, plan, stored, mid, after, rfl, hprepare, hanswer, htail⟩

theorem handleGroupMessage_committed {accept : SessionRef → Except Error Unit}
    (hsend : ∀ session packet reply, faults.send session packet reply → reply = accept session)
    (hexec : (handleGroupMessage request).run.Exec (machine faults) world trace result last)
    {offlineUserIds : List UInt64}
    (hcommitted : ⟨.storage (.saveMessageWithOfflineRecipients message offlineUserIds),
      .ok saved⟩ ∈ trace) : ∃ plan, plan.message = message ∧ plan.offlineUserIds = offlineUserIds ∧
      Committed accept request world last trace plan saved := by
  obtain ⟨before, tail, plan, stored, mid, after, rfl, hprepare, hanswer, htail⟩ :=
    handleGroupMessage_exec hexec hcommitted
  obtain ⟨hsteady, hreads, hplans⟩ := prepare_exec hprepare
  obtain ⟨groupId, members, hplanned⟩ := hplans plan rfl
  have hsaves : Tables.Saves plan.message plan.offlineUserIds mid.database.1 stored
    after.database.1 := (machine_effect hanswer).1
  obtain ⟨push, hpush⟩ := exists_groupPush hplanned hsaves
  obtain ⟨hsame, hall, hevents⟩ := afterSave_exec hsend hpush htail
  -- The only save in the run is the one the plan was saved by.
  have hevent : (⟨.storage (.saveMessageWithOfflineRecipients message offlineUserIds),
      .ok saved⟩ : Event services) =
      ⟨.storage (.saveMessageWithOfflineRecipients plan.message plan.offlineUserIds),
        .ok stored⟩ := by
    rcases mem_append.mp hcommitted with hbefore | hrest
    · exact (hreads _ hbefore).1.elim
    · rcases mem_cons.mp hrest with hsaved | hlater
      · exact hsaved
      · rcases hevents _ hlater with ⟨key, reply, hcache⟩ | ⟨session, hsent⟩
        · cases hcache
        · cases hsent
  cases hevent
  rw [hsteady.database, ← hsame] at hsaves
  refine ⟨plan, rfl, rfl, ?_, ⟨groupId, members, hplanned.mono (prefix_append _ _)⟩, hsaves,
    ⟨push, hpush, ?_⟩, ?_⟩
  · intro event hmem
    rcases mem_append.mp hmem with hbefore | hrest
    · exact (hreads event hbefore).2
    · rcases mem_cons.mp hrest with rfl | hlater
      · trivial
      · rcases hevents _ hlater with ⟨key, reply, rfl⟩ | ⟨other, rfl⟩
        · trivial
        · trivial
  · intro haccept session hmem
    exact mem_append_right _ (mem_cons_of_mem _ (hall haccept session hmem))
  · intro session packet hmem
    rcases mem_append.mp hmem with hbefore | hrest
    · exact (hreads _ hbefore).1.elim
    · rcases mem_cons.mp hrest with hsaved | hlater
      · cases hsaved
      · rcases hevents _ hlater with ⟨key, reply, hcache⟩ | ⟨other, hsent⟩
        · cases hcache
        · cases hother : accept other with
          | ok =>
            rw [hother] at hsent
            cases hsent
            exact hother
          | error =>
            rw [hother] at hsent
            cases hsent

/-! ## Whom a message reaches -/

/-- The message was pushed to a session of the user, or waits. -/
inductive Reached (tables : Tables) (trace : List (Event services)) (userId : UInt64)
    (saved : MessageRecord) : Prop where
  | pushed {session : SessionRef} {push : Packet}
      (online : Found userId trace (some session)) (packet : groupPush saved = .ok push)
      (sent : ⟨.session (.sendPacket session push), .ok ()⟩ ∈ trace)
  | waiting (offline : tables.hasOffline userId saved.messageId = true)

/-- Once the message is committed, it reaches every member other than the sender
exactly if no session refuses it that such a member is online with. -/
theorem handleGroupMessage_reaches_all_iff {storageFails cacheFails : Prop}
    {accept : SessionRef → Except Error Unit} {request : RouterRequest} {world last : World}
    {trace : List (Event services)} {result : Except Error Packet}
    (hexec : (handleGroupMessage request).run.Exec
      (machine ⟨storageFails, cacheFails, fun session _ reply => reply = accept session⟩)
      world trace result last) {message saved : MessageRecord} {offlineUserIds : List UInt64}
    (hcommitted : ⟨.storage (.saveMessageWithOfflineRecipients message offlineUserIds),
      .ok saved⟩ ∈ trace) :
    ∃ groupId members, world.database.1.getGroupMembers groupId = .ok members ∧
      ⟨.storage (.getGroupMembers groupId), .ok members⟩ ∈ trace ∧
      ((∀ member ∈ members, member.userId ≠ message.senderId →
          Reached last.database.1 trace member.userId saved) ↔
        ∀ member ∈ members, member.userId ≠ message.senderId → ∀ session,
          world.onlineSession member.userId = some session → accept session = .ok ()) := by
  obtain ⟨plan, rfl, -, hrun⟩ :=
    handleGroupMessage_committed (fun _ _ _ hreply => hreply) hexec hcommitted
  obtain ⟨groupId, members, hplanned⟩ := hrun.planned
  refine ⟨groupId, members, hrun.seen _ hplanned.listed, hplanned.listed, ?_, ?_⟩
  · intro hall member hmem hother session honline
    cases hall member hmem hother with
    | @pushed found push online packet sent =>
      have hsame : world.onlineSession member.userId = some found := hrun.seen _ online
      rw [honline] at hsame
      rw [Option.some.inj hsame]
      exact hrun.accepted found push sent
    | waiting offline =>
      -- An offline row is for a user whose lookup found no open session.
      have hoffline := (hrun.saves.waits_iff world.database.2).mp offline
      obtain ⟨status, hcode, hlookup⟩ := hplanned.split.offline member.userId hoffline
      have hnone : world.onlineSession member.userId = none := hrun.seen _ hlookup hcode
      rw [honline] at hnone
      cases hnone
  · intro haccept member hmem hother
    rcases hplanned.split.covers member hmem hother with hoffline | ⟨session, hsession, hfound⟩
    · exact .waiting (hrun.saves.hasOffline hoffline)
    · obtain ⟨push, hpush, hsent⟩ := hrun.pushes
      apply Reached.pushed hfound hpush
      apply hsent _ session hsession
      intro known hknown
      obtain ⟨other, hotherMem, hne, hlookup⟩ := hplanned.split.online known hknown
      exact haccept other hotherMem hne known (hrun.seen _ hlookup)

/-! ## A refused push -/

/-- Users 1, 2 and 3 are the members of group 5. -/
def threeMembers : Tables where
  collation := ⟨id⟩
  users := [{ userId := 1 }, { userId := 2 }, { userId := 3 }]
  chatGroups := [{ groupId := 5, ownerId := 1 }]
  groupMembers := [⟨5, 1, 0⟩, ⟨5, 2, 0⟩, ⟨5, 3, 0⟩]

theorem threeMembers_keyed : threeMembers.Keyed :=
  Tables.keyed_of_no_messages (by decide) rfl rfl rfl (by simp [threeMembers])
    (by simp [threeMembers])

/-- All of them are online, user `n` on session `10 + n`. -/
def allOnline : World where
  sessions := fun _ => {}
  manager := ((rebind {} 1 ⟨11⟩).rebind 2 ⟨12⟩).rebind 3 ⟨13⟩
  redis := {}
  database := ⟨threeMembers, threeMembers_keyed⟩

/-- A request of user 1 to send a text to group 5. -/
def toGroup : RouterRequest where
  session := some ⟨11⟩
  packet := {}
  fields := fun type =>
    if type = .groupId then some [appendUint64BE [] 5]
    else if type = .messageText then some [[104, 105]]
    else none

/-- Handle the request when sessions accept packets as given and no other call fails. -/
def handled (accept : SessionRef → Except Error Unit) :
    List (Event services) × Except Error Packet × World :=
  (handleGroupMessage toGroup).run.run (answer fun session _ => accept session) allOnline

theorem handled_exec (accept : SessionRef → Except Error Unit) :
    (handleGroupMessage toGroup).run.Exec
      (machine ⟨False, False, fun session _ reply => reply = accept session⟩)
      allOnline (handled accept).1 (handled accept).2.1 (handled accept).2.2 :=
  exec_run (machine_answer fun _ _ => rfl) _ allOnline

/-- The message as user 1 asks to send it, and as it is stored. -/
def sentToGroup : MessageRecord where
  conversation := { type := .kGroup, id := 5 }
  senderId := 1
  receiverId := 5
  text := [104, 105]

def storedToGroup : MessageRecord := { sentToGroup with messageId := 1 }

/-- When every session accepts, all other members are reached. -/
theorem handleGroupMessage_reaches_all_accepted :
    ∃ groupId members, allOnline.database.1.getGroupMembers groupId = .ok members ∧
      ∀ member ∈ members, member.userId ≠ 1 → Reached (handled fun _ => .ok ()).2.2.database.1
        (handled fun _ => .ok ()).1 member.userId storedToGroup := by
  have hcommitted : ⟨.storage (.saveMessageWithOfflineRecipients sentToGroup []),
      .ok storedToGroup⟩ ∈ (handled fun _ => .ok ()).1 := mem_of_getElem? (i := 6) rfl
  obtain ⟨groupId, members, hlisted, -, hiff⟩ :=
    handleGroupMessage_reaches_all_iff (handled_exec fun _ => .ok ()) hcommitted
  exact ⟨groupId, members, hlisted, hiff.mpr fun _ _ _ _ _ => rfl⟩

/-- Session 12, of user 2, closes after it was looked up. -/
def refuseSecond (session : SessionRef) : Except Error Unit :=
  if session = ⟨12⟩ then Status.error .notFound "session is closed" else .ok ()

/-- The events of packets that were accepted. -/
def sentPacket : Event services → Bool
  | ⟨.session (.sendPacket _ _), .ok _⟩ => true
  | _ => false

/-- User 3, whose session would accept the push, gets neither the push nor an
offline row for the committed message when the session of user 2 refuses. -/
theorem handleGroupMessage_misses_member :
    ⟨.storage (.saveMessageWithOfflineRecipients sentToGroup []), .ok storedToGroup⟩ ∈
      (handled refuseSecond).1 ∧
    ∃ members, ⟨.storage (.getGroupMembers 5), .ok members⟩ ∈ (handled refuseSecond).1 ∧
      ∃ member ∈ members, member.userId ≠ 1 ∧
        ¬ Reached (handled refuseSecond).2.2.database.1 (handled refuseSecond).1 member.userId
          storedToGroup := by
  refine ⟨mem_of_getElem? (i := 6) rfl, _, mem_of_getElem? (i := 3) rfl,
    { userId := 3 }, mem_of_getElem? (i := 2) rfl, by decide, ?_⟩
  have hrefused : (handled refuseSecond).1.all (fun event => !sentPacket event) = true := rfl
  intro hreached
  cases hreached with
  | pushed online packet sent => cases all_eq_true.mp hrefused _ sent
  | waiting offline => cases (show false = true from offline)

end LiteIM.GroupService
