/-
# One private message

What an answered request means for the message it names. The message is stored,
and it is confirmed by its receiver, was pushed to a session of the receiver while
the request was handled, or waits in an offline row. Which message that is depends
on the history of the store: a request whose client message id the store does not
know stores the message it asks for, and any other request is answered with the
message stored under that id.

All of this holds for every state of storage, cache and sessions, for every answer
of every call, and the first part also while others change the world between any
two calls.
-/

import LiteIM.Service.ChatService

namespace LiteIM.ChatService

open Foundation World Tables List Except

/-- The message is confirmed, was pushed, or waits. -/
inductive Accounted (tables : Tables) (trace : List (Event services)) (row : MessageRow) :
    Prop where
  | delivered (confirmed : tables.Delivered row.receiverId row.messageId)
  | pushed {session : SessionRef} {push : Packet}
      (online : ⟨.session (.getSessionByUser row.receiverId), .ok session⟩ ∈ trace)
      (packet : privatePush row.toRecord = .ok push)
      (sent : ⟨.session (.sendPacket session push), .ok ()⟩ ∈ trace)
  | waiting (offline : tables.hasOffline row.receiverId row.messageId = true)

variable {request : RouterRequest}

theorem messageIdOf_privateResponse {saved : MessageRecord} {response : Packet}
    (hresponse : privateResponse request saved = .ok response) :
    messageIdOf response = .ok saved.messageId :=
  messageIdOf_appendMessageFields rfl hresponse

theorem Requested.storedReceiver {history : List (Event services)} {message : MessageRecord}
    (hrequested : Requested request history message) :
    storedReceiver message = message.receiverId := by
  simp [Tables.storedReceiver, hrequested.conversation]

variable {tables : Tables} {row : MessageRow} {trace : List (Event services)}

/-- A handed-over message is accounted for, by the evidence of its events. -/
theorem Handed.accounted {userId : UInt64}
    (hhanded : Handed trace userId row.toRecord) (huser : row.receiverId = userId)
    (hevidence : ∀ event ∈ trace, Evidence tables event) : Accounted tables trace row := by
  subst huser
  cases hhanded with
  | pushed online packet sent => exact .pushed online packet sent
  | fallback event => exact .waiting (hevidence _ event)
  | present code event => exact .waiting (hevidence _ event code)

/-- The message of an answer is stored and accounted for. -/
theorem Answers.accounted {saved : MessageRecord}
    (hanswers : Answers request trace saved)
    (hevidence : ∀ event ∈ trace, Evidence tables event) :
    ∃ row ∈ tables.messages, saved = row.toRecord ∧ Accounted tables trace row := by
  cases hanswers with
  | offline requested event =>
    obtain ⟨row, hrow⟩ := hevidence _ event
    have hreceiver := hrow.receiver.trans requested.storedReceiver
    refine ⟨row, hrow.stored, hrow.record, .waiting ?_⟩
    rw [hreceiver]
    exact hrow.offline _ (by simp)
  | online requested event handed =>
    obtain ⟨row, hrow⟩ := hevidence _ event
    have hreceiver := hrow.receiver.trans requested.storedReceiver
    rw [hrow.record] at handed
    exact ⟨row, hrow.stored, hrow.record, handed.accounted hreceiver hevidence⟩
  | delivered requested keyed event terminal seen =>
    obtain ⟨row, hmem, rfl, -⟩ := hevidence _ event
    exact ⟨row, hmem, rfl, .delivered (hevidence _ seen terminal)⟩
  | retried requested keyed event handed =>
    obtain ⟨row, hmem, rfl, -⟩ := hevidence _ event
    exact ⟨row, hmem, rfl, handed.accounted rfl hevidence⟩

/-- A private message is never acknowledged and lost: when the handler answers, the
message its response names is stored and accounted for. -/
theorem handlePrivateMessage_never_lost {faults : Faults} {request : RouterRequest}
    {world last : World} {trace : List (Event services)} {response : Packet}
    (hexec : (handlePrivateMessage request).run.Exec
      ((machine faults).among Others) world trace (.ok response) last) :
    ∃ row ∈ last.database.1.messages, messageIdOf response = .ok row.messageId ∧
      Accounted last.database.1 trace row := by
  obtain ⟨saved, hresponse, hanswers⟩ :=
    hexec.follows (handlePrivateMessage_yields request) response rfl
  obtain ⟨row, hmem, rfl, haccounted⟩ :=
    hanswers.accounted fun event hevent => exec_evidence hexec hevent
  exact ⟨row, hmem, messageIdOf_privateResponse hresponse, haccounted⟩

/-! ## A small server -/

/-- Letters compare without regard to case. -/
def foldCase : Collation where
  weight value := value.map fun byte => if 65 ≤ byte ∧ byte ≤ 90 then byte + 32 else byte

/-- User 1 has the friends 2 and 3, and nothing was sent yet. -/
def threeFriends : Tables where
  collation := foldCase
  users := [{ userId := 1 }, { userId := 2 }, { userId := 3 }]
  friendships := [(1, 2), (1, 3), (2, 1), (3, 1)]

theorem threeFriends_keyed : threeFriends.Keyed :=
  keyed_of_no_messages (by decide) rfl rfl rfl (by simp [threeFriends])
    (by simp [threeFriends])

/-- User 1 is logged in on session 11, the others are offline. -/
def oneOnline : World where
  sessions := fun _ => {}
  manager := SessionManager.rebind {} 1 ⟨11⟩
  redis := {}
  database := ⟨threeFriends, threeFriends_keyed⟩

/-- A request on session 11 to send a text under a client message id. -/
def sendRequest (receiverId : UInt64) (clientMsgId : Bytes) : RouterRequest where
  session := some ⟨11⟩
  packet := {}
  fields := fun type =>
    if type = .receiverId then some [appendUint64BE [] receiverId]
    else if type = .messageText then some [[104, 105]]
    else if type = .clientMessageId then some [clientMsgId]
    else none

/-- Handle a request when no call fails and every push is queued. -/
def handled (request : RouterRequest) (world : World) :
    List (Event services) × Except Error Packet × World :=
  (handlePrivateMessage request).run.run (answer fun _ _ => .ok ()) world

theorem handled_exec (request : RouterRequest) (world : World) :
    (handlePrivateMessage request).run.Exec (machine .any) world
      (handled request world).1 (handled request world).2.1 (handled request world).2.2 :=
  Program.exec_run (machine_answer fun _ _ => trivial) _ world

/-- A message to user 2, who is offline. -/
theorem handlePrivateMessage_never_lost_toOffline :
    ∃ response, (handled (sendRequest 2 [65]) oneOnline).2.1 = .ok response ∧
      ∃ row ∈ (handled (sendRequest 2 [65]) oneOnline).2.2.database.1.messages,
        messageIdOf response = .ok row.messageId ∧
        Accounted (handled (sendRequest 2 [65]) oneOnline).2.2.database.1
          (handled (sendRequest 2 [65]) oneOnline).1 row := by
  obtain ⟨response, hresponse⟩ : ∃ response,
      (handled (sendRequest 2 [65]) oneOnline).2.1 = .ok response := ⟨_, rfl⟩
  have hexec := (handled_exec (sendRequest 2 [65]) oneOnline).among Others.refl
  rw [hresponse] at hexec
  exact ⟨response, hresponse, handlePrivateMessage_never_lost hexec⟩

/-! ## Which message an answer names -/

/-- The row is as the request asks. -/
structure AsRequested (tables : Tables) (request : RouterRequest)
    (history : List (Event services)) (row : MessageRow) : Prop where
  sender : ∃ session, request.session = some session ∧
    ⟨.session (.getUserBySession session.id), .ok row.senderId⟩ ∈ history
  receiver : getUint64 request.fields .receiverId = .ok row.receiverId
  clientMsgId : ∀ clientMsgId, getString request.fields .clientMessageId = .ok clientMsgId →
    row.clientMsgId = tables.nullIfEmpty clientMsgId

theorem readReceiverId_ok {fields : TlvMap} {senderId receiverId : UInt64}
    (hread : readReceiverId fields senderId = .ok receiverId) :
    getUint64 fields .receiverId = .ok receiverId := by
  cases hfield : getUint64 fields .receiverId with
  | error => simp [readReceiverId, hfield, bind, Except.bind] at hread
  | ok value =>
    by_cases hinvalid : value = 0 ∨ value = senderId
    · simp [readReceiverId, hfield, bind, Except.bind, hinvalid] at hread
    · simpa [readReceiverId, hfield, bind, Except.bind, hinvalid] using hread

theorem readClientMessageId_ok {fields : TlvMap} {clientMsgId : Bytes}
    (hread : readClientMessageId fields = .ok clientMsgId) :
    (∀ value, getString fields .clientMessageId = .ok value → value = clientMsgId) ∧
      (clientMsgId ≠ [] → getString fields .clientMessageId = .ok clientMsgId) := by
  cases hfield : fields .clientMessageId with
  | none =>
    simp only [readClientMessageId, hfield, ok.injEq] at hread
    simp [getString, findValue, hfield, Status.error, ← hread]
  | some =>
    cases hvalue : getString fields .clientMessageId with
    | error => simp [readClientMessageId, hfield, hvalue, bind, Except.bind] at hread
    | ok value =>
      have hsame : value = clientMsgId := by
        by_cases hempty : value = []
        · simp [readClientMessageId, hfield, hvalue, bind, Except.bind, hempty] at hread
        · by_cases hlong : value.length > kMaxClientMessageIdBytes
          · simp [readClientMessageId, hfield, hvalue, bind, Except.bind, hempty,
              validateMaxBytes, hlong, Status.error] at hread
          · simpa [readClientMessageId, hfield, hvalue, bind, Except.bind, hempty,
              validateMaxBytes, hlong] using hread
      simp [hsame]

theorem Requested.asRequested {history : List (Event services)} {message : MessageRecord}
    (hrequested : Requested request history message) (hsender : row.senderId = message.senderId)
    (hreceiver : row.receiverId = Tables.storedReceiver message)
    (hclientMsgId : row.clientMsgId = tables.nullIfEmpty message.clientMsgId) :
    AsRequested tables request history row where
  sender := by rw [hsender]; exact hrequested.sender
  receiver := by
    rw [hreceiver, hrequested.storedReceiver]
    exact readReceiverId_ok hrequested.receiver
  clientMsgId value hvalue := by
    rw [hclientMsgId, (readClientMessageId_ok hrequested.clientMsgId).1 value hvalue]

theorem AsRequested.mono {history later : List (Event services)}
    (hrow : AsRequested tables request history row) (hbegins : history <+: later) :
    AsRequested tables request later row := by
  obtain ⟨session, hsession, hmem⟩ := hrow.sender
  exact { hrow with sender := ⟨session, hsession, hbegins.subset hmem⟩ }

/-- While a request is handled the store grows by messages as it asks for, under
new ids. -/
structure Grown (start : Tables) (request : RouterRequest) (past : List (Event services))
    (tables : Tables) : Prop where
  collation : tables.collation = start.collation
  counter : start.nextMessageId ≤ tables.nextMessageId
  messages : ∀ row ∈ tables.messages, row ∈ start.messages ∨ AsRequested start request past row
  saved : ∀ message offlineUserIds saved,
    ⟨.storage (.saveMessageWithOfflineRecipients message offlineUserIds), .ok saved⟩ ∈ past →
    start.nextMessageId ≤ saved.messageId.toNat

theorem Grown.start (tables : Tables) (request : RouterRequest) : Grown tables request [] tables :=
  ⟨rfl, Nat.le_refl _, fun _ => Or.inl, by simp⟩

theorem Grown.step {start before after : Tables} {past : List (Event services)}
    {event : Event services} (hgrown : Grown start request past before) (hkeyed : after.Keyed)
    (hjustified : Justified request past event) (heffect : Effect before after event) :
    Grown start request (past ++ [event]) after := by
  have hbegins : past <+: past ++ [event] := prefix_append past [event]
  have hold : ∀ row ∈ before.messages,
      row ∈ start.messages ∨ AsRequested start request (past ++ [event]) row :=
    fun row hmem => (hgrown.messages row hmem).imp_right fun hrow => hrow.mono hbegins
  rcases heffect.cases with ⟨message, offlineUserIds, saved, rfl, hsaves⟩ |
    ⟨userId, messageId, rfl, -, hadds⟩ | ⟨hidle, hkeeps⟩
  · obtain ⟨row, hmessages, hrow⟩ := savedRow_of_saves hsaves
    have hid : row.messageId.toNat = before.nextMessageId := by
      have hfresh := hsaves.fresh
      rwa [hrow.record] at hfresh
    have hcounter : before.nextMessageId < after.nextMessageId := by
      rw [← hid]
      exact hkeyed.message_lt row hrow.stored
    have hcollation := hsaves.collation.trans hgrown.collation
    refine ⟨hcollation, hgrown.counter.trans (Nat.le_of_lt hcounter), ?_, ?_⟩
    · intro other hmem
      rw [hmessages] at hmem
      rcases mem_append.mp hmem with hbefore | hnew
      · exact hold other hbefore
      · rw [mem_singleton.mp hnew]
        have hkey := hrow.clientMsgId
        rw [nullIfEmpty, hcollation] at hkey
        exact Or.inr
          ((hjustified.1.mono hbegins).asRequested hrow.sender hrow.receiver hkey)
    · intro message' offlineUserIds' saved' hmem
      rcases mem_append.mp hmem with hpast | hlast
      · exact hgrown.saved message' offlineUserIds' saved' hpast
      · have hsame : saved' = saved := by
          cases mem_singleton.mp hlast
          rfl
        rw [hsame, hsaves.fresh]
        exact hgrown.counter
  · refine ⟨hadds.collation.trans hgrown.collation, ?_, ?_, ?_⟩
    · rw [hadds.nextMessageId]
      exact hgrown.counter
    · rwa [hadds.messages]
    · intro message offlineUserIds saved hmem
      rcases mem_append.mp hmem with hpast | hlast
      · exact hgrown.saved message offlineUserIds saved hpast
      · cases mem_singleton.mp hlast
  · refine ⟨hkeeps.later.collation.trans hgrown.collation, ?_, ?_, ?_⟩
    · rw [hkeeps.nextMessageId]
      exact hgrown.counter
    · rwa [hkeeps.messages]
    · intro message offlineUserIds saved hmem
      rcases mem_append.mp hmem with hpast | hlast
      · exact hgrown.saved message offlineUserIds saved hpast
      · rw [← mem_singleton.mp hlast] at hidle
        cases hidle

theorem grown_exec {faults : Faults} {world last : World}
    {result : Except Error Packet}
    (hexec : (handlePrivateMessage request).run.Exec (machine faults) world trace result
      last) : Grown world.database.1 request trace last.database.1 := by
  apply hexec.justified_invariant (handlePrivateMessage_yields request)
    (fun past next => Grown world.database.1 request past next.database.1) (Grown.start _ _)
  intro past event before after hgrown hjustified hanswer
  exact hgrown.step after.database.2 hjustified (machine_effect hanswer).1

/-- The message of an answer that was stored before the request is the sender's
message under the request's client message id, as the store compares ids. -/
theorem Answers.replayed {start : Tables}
    (hanswers : Answers request trace row.toRecord) (hgrown : Grown start request trace tables)
    (hstart : start.Keyed) (htables : tables.Keyed) (hold : row ∈ start.messages)
    (hstored : row ∈ tables.messages) (hevidence : ∀ event ∈ trace, Evidence tables event) :
    (∃ session, request.session = some session ∧
      ⟨.session (.getUserBySession session.id), .ok row.senderId⟩ ∈ trace) ∧
    ∃ clientMsgId, getString request.fields .clientMessageId = .ok clientMsgId ∧
      start.hasClientKey row.senderId clientMsgId row = true := by
  cases hanswers with
  | offline _ event | online _ event =>
    -- A message the request saved has a new id.
    exact absurd (hstart.message_lt row hold) (Nat.not_lt.mpr (hgrown.saved _ _ _ event))
  | delivered requested keyed event | retried requested keyed event =>
    obtain ⟨other, hmem, hrecord, hclient⟩ := hevidence _ event
    obtain rfl : other = row :=
      htables.message_unique hmem hstored (congrArg MessageRecord.messageId hrecord.symm)
    obtain ⟨hsender, stored, hclientMsgId, hweight⟩ := hasClientKey_iff.mp hclient
    rw [hgrown.collation] at hweight
    exact ⟨hsender ▸ requested.sender, _, (readClientMessageId_ok requested.clientMsgId).2 keyed,
      hasClientKey_iff.mpr ⟨rfl, stored, hclientMsgId, hweight⟩⟩

/-- An answer names a message of the requesting user. Either it is new and as the
request asks, or it was stored before under a client message id that the store does
not tell apart from the request's. -/
theorem handlePrivateMessage_names_row {faults : Faults} {world last : World}
    {response : Packet}
    (hexec : (handlePrivateMessage request).run.Exec (machine faults) world trace
      (.ok response) last) :
    ∃ row ∈ last.database.1.messages, messageIdOf response = .ok row.messageId ∧
      (∃ session, request.session = some session ∧
        ⟨.session (.getUserBySession session.id), .ok row.senderId⟩ ∈ trace) ∧
      ((row ∉ world.database.1.messages ∧
          getUint64 request.fields .receiverId = .ok row.receiverId ∧
          ∀ clientMsgId, getString request.fields .clientMessageId = .ok clientMsgId →
            row.clientMsgId = world.database.1.nullIfEmpty clientMsgId) ∨
        (row ∈ world.database.1.messages ∧
          ∃ clientMsgId, getString request.fields .clientMessageId = .ok clientMsgId ∧
            world.database.1.hasClientKey row.senderId clientMsgId row = true)) := by
  obtain ⟨saved, hresponse, hanswers⟩ :=
    hexec.follows (handlePrivateMessage_yields request) response rfl
  have hgrown := grown_exec hexec
  have hevidence : ∀ event ∈ trace, Evidence last.database.1 event :=
    fun event => exec_evidence (hexec.among Others.refl)
  obtain ⟨row, hmem, rfl, -⟩ := hanswers.accounted hevidence
  refine ⟨row, hmem, messageIdOf_privateResponse hresponse, ?_⟩
  by_cases hold : row ∈ world.database.1.messages
  · obtain ⟨hsender, hreplayed⟩ :=
      hanswers.replayed hgrown world.database.2 last.database.2 hold hmem hevidence
    exact ⟨hsender, Or.inr ⟨hold, hreplayed⟩⟩
  · have hrow := (hgrown.messages row hmem).resolve_left hold
    exact ⟨hrow.sender, Or.inl ⟨hold, hrow.receiver, hrow.clientMsgId⟩⟩

/-- The store takes neither the empty id nor another id it has for this one. -/
def TellsApart (tables : Tables) (clientMsgId : Bytes) : Prop :=
  tables.collation.weight clientMsgId ≠ tables.collation.weight [] ∧
    ∀ row ∈ tables.messages, ∀ stored ∈ row.clientMsgId,
      tables.collation.weight stored = tables.collation.weight clientMsgId → stored = clientMsgId

instance (clientMsgId : Bytes) : Decidable (TellsApart tables clientMsgId) :=
  inferInstanceAs (Decidable (_ ∧ _))

/-- An answer names a message of the requesting user under the client message id of the request,
byte for byte, if the store tells that id apart. It goes to the receiver of the request, unless
the user stored it before the request under the same id. -/
theorem handlePrivateMessage_names_message {faults : Faults} {request : RouterRequest}
    {world last : World} {trace : List (Event services)} {response : Packet}
    (hapart : ∀ clientMsgId, getString request.fields .clientMessageId = .ok clientMsgId →
      TellsApart world.database.1 clientMsgId)
    (hexec : (handlePrivateMessage request).run.Exec (machine faults) world trace
      (.ok response) last) :
    ∃ row ∈ last.database.1.messages, messageIdOf response = .ok row.messageId ∧
      (∃ session, request.session = some session ∧
        ⟨.session (.getUserBySession session.id), .ok row.senderId⟩ ∈ trace) ∧
      (∀ clientMsgId, getString request.fields .clientMessageId = .ok clientMsgId →
        row.clientMsgId = some clientMsgId) ∧
      (getUint64 request.fields .receiverId = .ok row.receiverId ∨
        row ∈ world.database.1.messages ∧
          ∃ clientMsgId, getString request.fields .clientMessageId = .ok clientMsgId) := by
  obtain ⟨row, hmem, hnames, hsender, hrow⟩ := handlePrivateMessage_names_row hexec
  refine ⟨row, hmem, hnames, hsender, ?_⟩
  rcases hrow with ⟨-, hreceiver, hclient⟩ | ⟨hold, clientMsgId, hread, hkey⟩
  · refine ⟨fun clientMsgId hread => ?_, Or.inl hreceiver⟩
    rw [hclient clientMsgId hread]
    exact nullIfEmpty_eq_some_iff.mpr ⟨(hapart clientMsgId hread).1, rfl⟩
  · refine ⟨fun other hother => ?_, Or.inr ⟨hold, clientMsgId, hread⟩⟩
    obtain rfl := ok.inj (hread.symm.trans hother)
    obtain ⟨-, stored, hstored, hweight⟩ := hasClientKey_iff.mp hkey
    rw [hstored, (hapart clientMsgId hread).2 row hold stored hstored hweight]

/-- User 1 sent a message to user 2 under the id `A`. -/
def oneSent : World := (handled (sendRequest 2 [65]) oneOnline).2.2

/-- The id `A` again, with another receiver. -/
theorem handlePrivateMessage_names_message_again :
    ∃ response, (handled (sendRequest 3 [65]) oneSent).2.1 = .ok response ∧
      ∃ row ∈ (handled (sendRequest 3 [65]) oneSent).2.2.database.1.messages,
        messageIdOf response = .ok row.messageId ∧ row.clientMsgId = some [65] := by
  obtain ⟨response, hresponse⟩ : ∃ response,
      (handled (sendRequest 3 [65]) oneSent).2.1 = .ok response := ⟨_, rfl⟩
  have hexec := handled_exec (sendRequest 3 [65]) oneSent
  rw [hresponse] at hexec
  have hapart : ∀ clientMsgId, getString (sendRequest 3 [65]).fields .clientMessageId =
      .ok clientMsgId → TellsApart oneSent.database.1 clientMsgId := by
    intro clientMsgId hread
    obtain rfl : [65] = clientMsgId := ok.inj hread
    decide
  obtain ⟨row, hmem, hnames, -, hclient, -⟩ := handlePrivateMessage_names_message hapart hexec
  exact ⟨response, hresponse, row, hmem, hnames, hclient [65] rfl⟩

/-- After a message to user 2 under the id `A`, a request to send to user 3 under the same id
is answered with the message to user 2. -/
theorem handlePrivateMessage_names_other_message :
    (handled (sendRequest 2 [65]) oneOnline).2.1.isOk = true ∧
    ∃ response, (handled (sendRequest 3 [65]) oneSent).2.1 = .ok response ∧
      ∃ row ∈ (handled (sendRequest 3 [65]) oneSent).2.2.database.1.messages,
        messageIdOf response = .ok row.messageId ∧ row.receiverId = 2 ∧
          row.clientMsgId = some [65] := by
  obtain ⟨response, hresponse⟩ : ∃ response, privateResponse (sendRequest 3 [65])
      (MessageRow.toRecord
        { messageId := 1, conversation := { id := 10002 }, senderId := 1, receiverId := 2,
          messageText := [104, 105], createdAtMs := 0, clientMsgId := some [65] }) =
        .ok response := ⟨_, rfl⟩
  refine ⟨rfl, response, Eq.trans ?_ hresponse, _, mem_cons_self,
    messageIdOf_privateResponse hresponse, rfl, rfl⟩
  rfl

end LiteIM.ChatService
