/-
# One request, one response

Every packet that is routed gets one response from the router, provided that its session
stays open: the response of its handler, or an error response with the code of what went
wrong first. `route` answers a request that it did not leave to the pool, and a worker one
that was accepted by it; no request is both.
-/

import LiteIM.Service.RouterRuns

namespace LiteIM

open Foundation Pool Sessions List Except

namespace MessageRouter

/-! ## What a response carries -/

/-- The text of the error fits into a field. -/
def Fits (status : Error) : Prop :=
  (textBytes (errorText status)).length ≤ kMaxTlvValueLength.toNat

def errorFields (status : Error) : List (TlvType × Bytes) :=
  [(.errorCode, appendUint64BE [] status.code.toUInt64),
    (.errorMessage, textBytes (errorText status))]

theorem errorResponse_eq (status : Error) :
    errorResponse status = (appendFields (errorFields status) [] >>= fun body =>
      .ok { header := { msgType := .errorResponse }, body }) := by
  simp only [errorResponse, appendFields, errorFields, appendUint64, appendString,
    foldlM_cons, foldlM_nil, bind_assoc, pure_bind]

theorem errorFields_encodable {status : Error} (hfits : Fits status) :
    ∀ field ∈ errorFields status, Encodable field := by
  intro field hmem
  rw [errorFields, mem_pair] at hmem
  rcases hmem with rfl | rfl
  · refine ⟨show TlvType.errorCode ≠ .unknown by decide, ?_⟩
    rw [appendUint64BE_eq, nil_append, BigEndian.length_digits]
    decide
  · exact ⟨show TlvType.errorMessage ≠ .unknown by decide, hfits⟩

theorem exists_errorResponse {status : Error} (hfits : Fits status) :
    ∃ response, errorResponse status = .ok response := by
  rw [errorResponse_eq, appendFields_eq_ok_iff.mpr ⟨errorFields_encodable hfits, rfl⟩]
  exact ⟨_, rfl⟩

/-- The code in an error response. -/
def errorCodeOf (packet : Packet) : Except Error UInt64 := do
  let fields ← parseTlvMap packet.body
  getUint64 fields .errorCode

theorem errorCodeOf_errorResponse {status : Error} {response : Packet}
    (hresponse : errorResponse status = .ok response) :
    response.header.msgType = .errorResponse ∧
      errorCodeOf response = .ok status.code.toUInt64 := by
  rw [errorResponse_eq] at hresponse
  obtain ⟨body, hbody, hok⟩ := bind_eq_ok_iff.mp hresponse
  obtain ⟨hencodable, rfl⟩ := appendFields_eq_ok_iff.mp hbody
  obtain rfl := ok.inj hok
  have hparse : parseTlvMap ([] ++ encodeFields (errorFields status)) =
      .ok (collectFields (fun _ => none) (errorFields status)) := by
    rw [nil_append]
    exact parseTlvMap_encodeFields fun field hmem => (hencodable field hmem).2
  have hfirst := findValue_collectFields_cons .errorCode
    (appendUint64BE [] status.code.toUInt64) (errorFields status).tail
  refine ⟨rfl, ?_⟩
  simp only [errorCodeOf, hparse, bind, bind]
  exact getUint64_of_findValue hfirst

/-- The packet is the response to a request: it has the request's sequence number and a
valid header, and carries the handler's response or the code of the error. -/
structure Responds (seqId : UInt64) (result : Except Error Packet) (response : Packet) :
    Prop where
  seqId : response.header.seqId = seqId
  magic : response.header.magic = kPacketMagic
  version : response.header.version = kPacketVersion
  flags : response.header.flags = kPacketFlagsNone
  handled : ∀ own, result = .ok own →
    response.header.msgType = own.header.msgType ∧ response.body = own.body
  failed : ∀ status, result = .error status →
    response.header.msgType = .errorResponse ∧
      errorCodeOf response = .ok status.code.toUInt64

theorem responds_of_replyTo {seqId : UInt64} {result : Except Error Packet} {response : Packet}
    (hreply : replyTo seqId result = .ok response) : Responds seqId result response := by
  cases result with
  | ok =>
    obtain rfl := ok.inj hreply
    refine ⟨rfl, rfl, rfl, rfl, ?_, ?_⟩
    · intro other hsame
      rw [← ok.inj hsame]
      exact ⟨rfl, rfl⟩
    · intro status hstatus
      cases hstatus
  | error status =>
    cases hresponse : errorResponse status with
    | error =>
      rw [replyTo, hresponse] at hreply
      cases hreply
    | ok =>
      rw [replyTo, hresponse] at hreply
      obtain rfl := ok.inj hreply
      refine ⟨rfl, rfl, rfl, rfl, ?_, ?_⟩
      · intro other hother
        cases hother
      · intro other hsame
        rw [← error.inj hsame]
        obtain ⟨htype, hcode⟩ := errorCodeOf_errorResponse hresponse
        exact ⟨htype, hcode⟩

/-- A result with a text that fits can be answered. -/
theorem exists_replyTo {seqId : UInt64} {result : Except Error Packet}
    (hfits : ∀ status, result = .error status → Fits status) :
    ∃ response, replyTo seqId result = .ok response := by
  cases result with
  | ok => exact ⟨_, rfl⟩
  | error status =>
    obtain ⟨response, hresponse⟩ := exists_errorResponse (hfits status rfl)
    rw [replyTo, hresponse]
    exact ⟨_, rfl⟩

/-- The texts of the router itself, of the parser and of the pool fit. -/
theorem Result.fits {H ι : Type} {i : ι} {arrival : Arrival}
    {events : List (Event (router H ι))} {result : Except Error Packet}
    (hresult : Result i arrival events result)
    (hrefused : ∀ task status, ⟨.submit i task, .error status⟩ ∈ events → Fits status)
    (hhandled : ∀ handler request outcome status, ⟨.handle handler request, outcome⟩ ∈ events →
      outcome.status = .error status → Fits status)
    {status : Error} (herror : result = .error status) : Fits status := by
  cases hresult with
  | notRequest =>
    rw [← error.inj herror]
    show (textBytes "message type is not a request").length ≤ _
    decide
  | malformed isRequest parsed =>
    rw [← error.inj herror]
    rcases parseTlvLoop_error parsed with rfl | rfl | rfl
    · show (textBytes "tlv header is incomplete").length ≤ _
      decide
    · show (textBytes "tlv value is too large").length ≤ _
      decide
    · show (textBytes "tlv length exceeds body size").length ≤ _
      decide
  | routed routable h =>
    cases h with
    | unregistered =>
      rw [← error.inj herror]
      show (textBytes "no message handler registered").length ≤ _
      decide
    | rejected looked refused =>
      rw [← error.inj herror]
      exact hrefused _ _ refused
    | handled looked ran => exact hhandled _ _ _ status ran herror

/-! ## What was seen -/

section Seen

variable {H ι : Type} [DecidableEq ι] {outcomes : H → RouterRequest → HandlerOutcome → Prop}

/-- What an event tells for good: a session seen closed is closed, and the outcomes of
handlers and the errors of the pool are genuine. -/
def Seen (outcomes : H → RouterRequest → HandlerOutcome → Prop) (sessions : Sessions)
    (event : Event (router H ι)) : Prop :=
  match event with
  | ⟨.closed session, closed⟩ => closed = true → sessions.closed session = true
  | ⟨.lock session, locked⟩ => locked = false → sessions.closed session = true
  | ⟨.handle handler request, outcome⟩ => outcomes handler request outcome
  | ⟨.submit _ _, .error status⟩ => Fits status
  | _ => True

theorem closed_later {before after : Sessions} (hlater : Later before after)
    {session : SessionRef} (hclosed : before.closed session = true) :
    after.closed session = true := by
  rw [closed, decide_eq_true_eq] at hclosed ⊢
  exact fun hlive => hclosed (hlater.live session hlive)

omit [DecidableEq ι] in
theorem Seen.later {before after : Sessions} (hlater : Later before after)
    {event : Event (router H ι)} (hseen : Seen outcomes before event) :
    Seen outcomes after event := by
  obtain ⟨call, reply⟩ := event
  cases call with
  | closed | lock => exact fun hreply => closed_later hlater (hseen hreply)
  | submit =>
    cases reply with
    | ok => trivial
    | error => exact hseen
  | handle => exact hseen
  | findHandler | take | finish | sendPacket => trivial

theorem seen_of_machine {call : RouterCall H ι} {world next : RouterWorld H ι}
    {reply : call.Reply} (hanswer : RouterWorld.machine outcomes call world reply next) :
    next.sessions = world.sessions ∧ Seen outcomes world.sessions ⟨call, reply⟩ := by
  cases call with
  | closed =>
    obtain ⟨hreply, rfl⟩ := hanswer
    exact ⟨rfl, fun htrue => hreply.symm.trans htrue⟩
  | lock session =>
    obtain ⟨hreply, rfl⟩ := hanswer
    refine ⟨rfl, fun hfalse => ?_⟩
    have hexpired : (next.sessions session).life = .expired := by
      by_contra hlive
      have hlocked : (next.sessions.lock session).isSome = true := by
        simp [lock, hlive]
      rw [← hreply, hfalse] at hlocked
      cases hlocked
    simp [closed, hexpired]
  | findHandler =>
    obtain ⟨-, rfl⟩ := hanswer
    exact ⟨rfl, trivial⟩
  | handle =>
    obtain ⟨houtcome, rfl⟩ := hanswer
    exact ⟨rfl, houtcome⟩
  | submit i task =>
    rcases RouterWorld.machine_submit hanswer with
      ⟨rfl, -, rfl⟩ | ⟨status, rfl, rfl, hstatus⟩
    · exact ⟨rfl, trivial⟩
    · refine ⟨rfl, ?_⟩
      rcases hstatus with rfl | rfl
      · show (textBytes "thread pool is not accepting new tasks").length ≤ _
        decide
      · show (textBytes "thread pool pending task queue is full").length ≤ _
        decide
  | take =>
    obtain ⟨businessPool, -, rfl⟩ := hanswer
    exact ⟨rfl, trivial⟩
  | finish | sendPacket =>
    obtain rfl : next = _ := hanswer
    exact ⟨rfl, trivial⟩

omit [DecidableEq ι] in
theorem RouterWorld.Elsewhere.later {before after : RouterWorld H ι}
    (helsewhere : before.Elsewhere after) : Later before.sessions after.sessions := by
  cases helsewhere with
  | sessions later => exact later
  | register | pool | submit | take | finish => exact .refl _

theorem Runs.later {first last : RouterPool H ι} (hruns : Runs outcomes first last) :
    Later first.world.sessions last.world.sessions := by
  apply Reaches.world_invariant hruns
    fun world => Later first.world.sessions world.sessions
  · exact .refl _
  · intro call world reply next hlater hanswer
    rw [(seen_of_machine hanswer).1]
    exact hlater
  · exact fun world next hlater helsewhere => hlater.trans helsewhere.later

theorem Runs.seen {arrivals : ι → Arrival} {world : RouterWorld H ι} {last : RouterPool H ι}
    (hruns : Runs outcomes (arriving arrivals world) last) :
    ∀ entry ∈ last.log, Seen outcomes last.world.sessions entry.2 := by
  apply Reaches.invariant hruns
    fun pool => ∀ entry ∈ pool.log, Seen outcomes pool.world.sessions entry.2
  · exact fun entry hmem => nomatch hmem
  · intro pool part call next reply after hseen _ _ hanswer entry hmem
    obtain ⟨hsessions, hnew⟩ := seen_of_machine hanswer
    show Seen outcomes after.sessions entry.2
    rw [hsessions]
    rcases mem_append.mp hmem with hold | hlast
    · exact hseen entry hold
    · rw [mem_singleton.mp hlast]
      exact hnew
  · intro pool after hseen helsewhere entry hmem
    exact (hseen entry hmem).later helsewhere.later

end Seen

/-! ## The parts of a request by themselves -/

section Histories

variable {H ι : Type} {i : ι} {arrival : Arrival} {history : List (Event (router H ι))}

/-- The packet an event hands to a session. -/
def sentPacket : Event (router H ι) → Option (SessionRef × Packet)
  | ⟨.sendPacket session packet, _⟩ => some (session, packet)
  | _ => none

theorem sentPacket_eq_some_iff {event : Event (router H ι)} {sent : SessionRef × Packet} :
    sentPacket event = some sent ↔ ∃ reply, event = ⟨.sendPacket sent.1 sent.2, reply⟩ := by
  obtain ⟨call, reply⟩ := event
  cases call with
  | sendPacket =>
    refine ⟨fun hsent => ⟨reply, ?_⟩, fun ⟨_, hevent⟩ => ?_⟩
    · rw [← Option.some.inj hsent]
    · cases hevent
      rfl
  | _ => exact ⟨fun hsent => (nomatch hsent), fun ⟨_, hevent⟩ => (nomatch hevent)⟩

/-- A handler is run, a task is submitted or a packet is sent. -/
def Acts : Event (router H ι) → Bool
  | ⟨.handle _ _, _⟩ => true
  | ⟨.submit _ _, _⟩ => true
  | ⟨.sendPacket _ _, _⟩ => true
  | _ => false

theorem sent_eq_nil (hunsent : Unsent history) : history.filterMap sentPacket = [] := by
  apply filterMap_eq_nil_iff.mpr
  intro event hmem
  cases hsent : sentPacket event with
  | none => rfl
  | some =>
    obtain ⟨reply, rfl⟩ := sentPacket_eq_some_iff.mp hsent
    exact (hunsent _ _ _ hmem).elim

/-- At most one packet is sent: whoever sends one has sent none before. -/
theorem length_sent_append (hlength : (history.filterMap sentPacket).length ≤ 1)
    {event : Event (router H ι)}
    (hevent : ∀ session packet reply, event = ⟨.sendPacket session packet, reply⟩ →
      Unsent history) : ((history ++ [event]).filterMap sentPacket).length ≤ 1 := by
  rw [filterMap_append, length_append]
  cases hsent : sentPacket event with
  | none => simpa [hsent] using hlength
  | some =>
    obtain ⟨reply, hsame⟩ := sentPacket_eq_some_iff.mp hsent
    rw [sent_eq_nil (hevent _ _ _ hsame)]
    simp [hsent]

theorem sent_eq_singleton (hlength : (history.filterMap sentPacket).length ≤ 1)
    {session : SessionRef} {packet : Packet} {reply : Except Error Unit}
    (hmem : ⟨.sendPacket session packet, reply⟩ ∈ history) :
    history.filterMap sentPacket = [(session, packet)] := by
  have hsent : (session, packet) ∈ history.filterMap sentPacket :=
    mem_filterMap.mpr ⟨_, hmem, rfl⟩
  obtain ⟨only, honly⟩ := length_eq_one_iff.mp
    (Nat.le_antisymm hlength (length_pos_of_mem hsent))
  rw [honly, mem_singleton] at hsent
  rw [honly, hsent]

/-- What comes first of its kind is the only one of its kind. -/
theorem countP_append_le_one {p : Event (router H ι) → Bool} (hcount : history.countP p ≤ 1)
    {event : Event (router H ι)} (hevent : p event = true → history.countP p = 0) :
    (history ++ [event]).countP p ≤ 1 := by
  rw [countP_append, countP_singleton]
  split_ifs with hp
  · rw [hevent hp]
  · exact hcount

theorem eq_of_countP_le_one {p : Event (router H ι) → Bool} (hcount : history.countP p ≤ 1)
    {first second : Event (router H ι)} (hfirst : first ∈ history) (hsecond : second ∈ history)
    (hpfirst : p first = true) (hpsecond : p second = true) : first = second := by
  rw [countP_eq_length_filter] at hcount
  have hfirst := mem_filter.mpr ⟨hfirst, hpfirst⟩
  have hsecond := mem_filter.mpr ⟨hsecond, hpsecond⟩
  obtain ⟨only, honly⟩ := length_eq_one_iff.mp
    (Nat.le_antisymm hcount (length_pos_of_mem hfirst))
  rw [honly, mem_singleton] at hfirst hsecond
  exact hfirst.trans hsecond.symm

/-- A response that answers what came of a request. -/
def Answered (i : ι) (arrival : Arrival) (events : List (Event (router H ι)))
    (response : Packet) : Prop :=
  ∃ result, Result i arrival events result ∧
    replyTo arrival.packet.header.seqId result = .ok response

/-- What is true of the events of `route`. -/
structure RouteHistory (i : ι) (arrival : Arrival) (history : List (Event (router H ι))) :
    Prop where
  once : (history.filterMap sentPacket).length ≤ 1
  sent : ∀ session response reply, ⟨.sendPacket session response, reply⟩ ∈ history →
    arrival.session = some session ∧ (∀ task, ⟨.submit i task, .ok ()⟩ ∉ history) ∧
      Answered i arrival history response
  submitted : ∀ task reply, ⟨.submit i task, reply⟩ ∈ history → Dispatched arrival history task
  opened : ∀ event ∈ history, Acts event = true → ∃ session, SeenOpen arrival session history
  lookups : history.countP isLookup ≤ 1
  submits : history.countP isSubmit ≤ 1
  handles : history.countP isHandle ≤ 1
  inline : ∀ event ∈ history, isHandle event = true →
    ∃ handler, ⟨.findHandler arrival.packet.header.msgType,
      some { handler, mode := .inline }⟩ ∈ history

theorem Answered.mono {later : List (Event (router H ι))} {response : Packet}
    (hanswered : Answered i arrival history response) (hsubset : history ⊆ later) :
    Answered i arrival later response := by
  obtain ⟨result, hresult, hreply⟩ := hanswered
  exact ⟨result, hresult.mono hsubset, hreply⟩

theorem Dispatched.mono {later : List (Event (router H ι))} {task : Task H}
    (hdispatched : Dispatched arrival history task) (hsubset : history ⊆ later) :
    Dispatched arrival later task :=
  { hdispatched with looked := hsubset hdispatched.looked }

/-- What comes of a request whose handler was run as a task. -/
theorem Dispatched.result {later : List (Event (router H ι))} {task : Task H}
    {outcome : HandlerOutcome} (hdispatched : Dispatched arrival history task)
    (hsubset : history ⊆ later) (hran : Ran task outcome later) :
    Result i arrival later outcome.status := by
  rw [Ran, hdispatched.packet, ← hdispatched.session] at hran
  exact .routed hdispatched.routable (.handled (hsubset hdispatched.looked) hran)

theorem routeHistory_nil : RouteHistory i arrival ([] : List (Event (router H ι))) :=
  ⟨Nat.zero_le 1, fun _ _ _ hmem => (nomatch hmem), fun _ _ hmem => (nomatch hmem),
    fun _ hmem => (nomatch hmem), Nat.zero_le 1, Nat.zero_le 1, Nat.zero_le 1,
    fun _ hmem => (nomatch hmem)⟩

theorem RouteHistory.append (hroute : RouteHistory i arrival history)
    {event : Event (router H ι)} (hjustified : RouteJustified i arrival history event) :
    RouteHistory i arrival (history ++ [event]) := by
  have hsubset := subset_append_left history [event]
  refine ⟨length_sent_append hroute.once ?_, ?_, ?_, ?_, countP_append_le_one hroute.lookups ?_,
    countP_append_le_one hroute.submits ?_, countP_append_le_one hroute.handles ?_, ?_⟩
  · rintro session packet reply rfl
    exact hjustified.2.1
  · intro session response reply hmem
    rcases mem_append.mp hmem with hold | hnew
    · obtain ⟨hsession, hunsubmitted, hanswered⟩ := hroute.sent session response reply hold
      refine ⟨hsession, fun task hsubmit => ?_, hanswered.mono hsubset⟩
      rcases mem_append.mp hsubmit with hearlier | hnow
      · exact hunsubmitted task hearlier
      · -- A task is submitted only while nothing was sent.
        rw [← mem_singleton.mp hnow] at hjustified
        exact hjustified.2.2.2.1 session response reply hold
    · rw [← mem_singleton.mp hnew] at hjustified
      obtain ⟨hopen, -, hunsubmitted, result, hresult, hreply⟩ := hjustified
      refine ⟨hopen.1, fun task hsubmit => ?_, result, hresult.mono hsubset, hreply⟩
      rcases mem_append.mp hsubmit with hearlier | hnow
      · exact hunsubmitted task hearlier
      · exact nomatch (mem_singleton.mp hnow).trans (mem_singleton.mp hnew).symm
  · intro task reply hmem
    rcases mem_append.mp hmem with hold | hnew
    · exact (hroute.submitted task reply hold).mono hsubset
    · rw [← mem_singleton.mp hnew] at hjustified
      exact hjustified.2.2.1.mono hsubset
  · intro other hmem hacts
    rcases mem_append.mp hmem with hold | hnew
    · obtain ⟨session, hopen⟩ := hroute.opened other hold hacts
      exact ⟨session, hopen.mono hsubset⟩
    · obtain rfl := mem_singleton.mp hnew
      obtain ⟨call, reply⟩ := other
      cases call with
      | handle =>
        obtain ⟨⟨session, hopen⟩, -⟩ := hjustified
        exact ⟨session, hopen.mono hsubset⟩
      | submit j task => exact ⟨task.session, hjustified.2.1.mono hsubset⟩
      | sendPacket session => exact ⟨session, hjustified.1.mono hsubset⟩
      | _ => cases hacts
  · intro hlookup
    obtain ⟨call, reply⟩ := event
    cases call with
    | findHandler => exact hjustified
    | _ => cases hlookup
  · intro hsubmit
    obtain ⟨call, reply⟩ := event
    cases call with
    | submit => exact hjustified.2.2.2.2
    | _ => cases hsubmit
  · intro hhandle
    obtain ⟨call, reply⟩ := event
    cases call with
    | handle => exact hjustified.2.1
    | _ => cases hhandle
  · intro other hmem hhandle
    rcases mem_append.mp hmem with hold | hnew
    · obtain ⟨handler, hlooked⟩ := hroute.inline other hold hhandle
      exact ⟨handler, hsubset hlooked⟩
    · obtain rfl := mem_singleton.mp hnew
      obtain ⟨call, reply⟩ := other
      cases call with
      | handle =>
        obtain ⟨-, -, found, hlooked⟩ := hjustified
        exact ⟨found, hsubset hlooked⟩
      | _ => cases hhandle

/-- What is true of the events of a worker while it runs the task of a request. -/
structure WorkHistory (i : ι) (history : List (Event (router H ι))) : Prop where
  once : (history.filterMap sentPacket).length ≤ 1
  sent : ∀ session response reply, ⟨.sendPacket session response, reply⟩ ∈ history →
    ∃ task outcome, ⟨.take i, task⟩ ∈ history ∧ session = task.session ∧
      Ran task outcome history ∧
      replyTo task.packet.header.seqId outcome.status = .ok response
  begun : ∀ event ∈ history, Begun i history
  handles : history.countP isHandle ≤ 1
  /-- Looking for a handler and submitting is left to `route`. -/
  routed : ∀ event ∈ history, isLookup event = false ∧ isSubmit event = false

theorem workHistory_nil : WorkHistory i ([] : List (Event (router H ι))) :=
  ⟨Nat.zero_le 1, fun _ _ _ hmem => (nomatch hmem), fun _ hmem => (nomatch hmem), Nat.zero_le 1,
    fun _ hmem => (nomatch hmem)⟩

theorem WorkHistory.append (hwork : WorkHistory i history) {event : Event (router H ι)}
    (hjustified : WorkJustified i history event) : WorkHistory i (history ++ [event]) := by
  have hsubset := subset_append_left history [event]
  refine ⟨length_sent_append hwork.once ?_, ?_, ?_, countP_append_le_one hwork.handles ?_, ?_⟩
  · rintro session packet reply rfl
    exact hjustified.1
  · intro session response reply hmem
    rcases mem_append.mp hmem with hold | hnew
    · obtain ⟨task, outcome, htaken, hsession, hran, hreply⟩ :=
        hwork.sent session response reply hold
      exact ⟨task, outcome, hsubset htaken, hsession, hsubset hran, hreply⟩
    · rw [← mem_singleton.mp hnew] at hjustified
      obtain ⟨-, task, outcome, htaken, hsession, hran, hreply⟩ := hjustified
      exact ⟨task, outcome, hsubset htaken, hsession, hsubset hran, hreply⟩
  · have hbegun : Begun i history ∨ ∃ task, event = ⟨.take i, task⟩ := by
      obtain ⟨call, reply⟩ := event
      cases call with
      | take =>
        obtain ⟨rfl, -⟩ := hjustified
        exact Or.inr ⟨reply, rfl⟩
      | closed | lock => exact Or.inl hjustified
      | handle => exact Or.inl hjustified.1
      | sendPacket =>
        obtain ⟨-, task, -, htaken, -⟩ := hjustified
        exact Or.inl ⟨task, htaken⟩
      | finish => exact Or.inl hjustified.2
      | findHandler | submit => exact hjustified.elim
    intro _ _
    rcases hbegun with ⟨task, htaken⟩ | ⟨task, rfl⟩
    · exact ⟨task, hsubset htaken⟩
    · exact ⟨task, mem_append_right _ (mem_singleton_self _)⟩
  · intro hhandle
    obtain ⟨call, reply⟩ := event
    cases call with
    | handle => exact hjustified.2
    | _ => cases hhandle
  · intro other hmem
    rcases mem_append.mp hmem with hold | hnew
    · exact hwork.routed other hold
    · obtain rfl := mem_singleton.mp hnew
      obtain ⟨call, reply⟩ := other
      cases call with
      | findHandler | submit => exact hjustified.elim
      | _ => exact ⟨rfl, rfl⟩

end Histories

/-! ## One response -/

section Responses

variable {H ι : Type} [DecidableEq ι] {outcomes : H → RouterRequest → HandlerOutcome → Prop}
variable {arrivals : ι → Arrival} {world : RouterWorld H ι} {last : RouterPool H ι} {i : ι}

/-- The events of a request. -/
def events (log : RouterLog H ι) (i : ι) : List (Event (router H ι)) :=
  history log (.route i) ++ history log (.work i)

/-- The processing of a request has ended: `route` has returned, and so has the task if one
was accepted. -/
def Ended (pool : RouterPool H ι) (i : ι) : Prop :=
  pool.threads (.route i) = .ret () ∧
    ((∀ task, ¬ Submitted pool.log i task) ∨ pool.threads (.work i) = .ret ())

def PartHistory (arrivals : ι → Arrival) : Part ι → List (Event (router H ι)) → Prop
  | .route i => RouteHistory i (arrivals i)
  | .work i => WorkHistory i

section Always

variable (hruns : Runs outcomes (arriving arrivals world) last)
include hruns

theorem Runs.partHistory (part : Part ι) :
    PartHistory arrivals part (history last.log part) := by
  apply Reaches.each_history_invariant hruns (program_follows arrivals)
    (PartHistory arrivals)
  · intro part
    cases part with
    | route => exact routeHistory_nil
    | work => exact workHistory_nil
  · intro part past event hpast hjustified
    cases part with
    | route => exact RouteHistory.append hpast hjustified
    | work => exact WorkHistory.append hpast hjustified

theorem Runs.histories (i : ι) :
    RouteHistory i (arrivals i) (history last.log (.route i)) ∧
      WorkHistory i (history last.log (.work i)) :=
  ⟨hruns.partHistory (.route i), hruns.partHistory (.work i)⟩

/-- A session that is open was never seen closed. -/
theorem Runs.not_seen_closed
    {session : SessionRef} (hopen : last.world.sessions.closed session = false) (part : Part ι) :
    ⟨.closed session, true⟩ ∉ history last.log part ∧
      ⟨.lock session, false⟩ ∉ history last.log part := by
  refine ⟨fun hmem => ?_, fun hmem => ?_⟩
  · have hclosed := hruns.seen _ (mem_history.mp hmem) rfl
    exact nomatch hopen.symm.trans hclosed
  · have hclosed := hruns.seen _ (mem_history.mp hmem) rfl
    exact nomatch hopen.symm.trans hclosed

/-- Every result can be answered when the texts of the handlers' errors fit. -/
theorem Runs.replyTo_ne_error
    (hfits : ∀ handler request outcome status, outcomes handler request outcome →
      outcome.status = .error status → Fits status) {result : Except Error Packet}
    (hresult : Result i (arrivals i) (events last.log i) result) (seqId : UInt64) (error : Error) :
    replyTo seqId result ≠ .error error := by
  have hseen : ∀ event ∈ events last.log i, Seen outcomes last.world.sessions event := by
    intro event hmem
    rcases mem_append.mp hmem with hroute | hwork
    · exact hruns.seen _ (mem_history.mp hroute)
    · exact hruns.seen _ (mem_history.mp hwork)
  have hanswer : ∃ response, replyTo seqId result = .ok response := by
    apply exists_replyTo
    intro status
    apply hresult.fits
    · exact fun task refused hmem => hseen _ hmem
    · exact fun handler request outcome failed hmem => hfits _ _ _ _ (hseen _ hmem)
  obtain ⟨response, hresponse⟩ := hanswer
  rw [hresponse]
  exact fun herror => nomatch herror

/-- Looking for a handler and submitting is done by `route`. -/
theorem Runs.mem_route {event : Event (router H ι)} (hmem : event ∈ events last.log i)
    (hown : isLookup event = true ∨ isSubmit event = true) :
    event ∈ history last.log (.route i) := by
  refine (mem_append.mp hmem).resolve_right fun hother => ?_
  obtain ⟨hlookup, hsubmit⟩ := (hruns.histories i).2.routed _ hother
  rw [hlookup, hsubmit] at hown
  cases hown <;> contradiction

/-- There is one lookup of a handler, and it decides where the handler is run. -/
theorem Runs.found_unique {type : MessageType} {first second : Option (HandlerEntry H)}
    (hfirst : ⟨.findHandler type, first⟩ ∈ events last.log i)
    (hsecond : ⟨.findHandler type, second⟩ ∈ events last.log i) : first = second := by
  cases eq_of_countP_le_one (hruns.histories i).1.lookups (hruns.mem_route hfirst (Or.inl rfl))
    (hruns.mem_route hsecond (Or.inl rfl)) rfl rfl
  rfl

theorem Runs.submit_unique {first second : Task H} {reply other : Except Error Unit}
    (hfirst : ⟨.submit i first, reply⟩ ∈ events last.log i)
    (hsecond : ⟨.submit i second, other⟩ ∈ events last.log i) : reply = other := by
  cases eq_of_countP_le_one (hruns.histories i).1.submits (hruns.mem_route hfirst (Or.inr rfl))
    (hruns.mem_route hsecond (Or.inr rfl)) rfl rfl
  rfl

variable (hsound : Sound [] world.businessPool)
include hsound

/-- A worker makes calls for a request only when its task was accepted. -/
theorem Runs.submitted_of_work {event : Event (router H ι)}
    (hmem : event ∈ history last.log (.work i)) : ∃ task, Submitted last.log i task := by
  obtain ⟨task, htaken⟩ := (hruns.histories i).2.begun event hmem
  exact ⟨task, (hruns.sound hsound).taken i task (mem_history.mp htaken)⟩

/-- What `route` sends is the only response. -/
theorem Runs.sent_by_route {session : SessionRef} {response : Packet} {reply : Except Error Unit}
    (hmem : ⟨.sendPacket session response, reply⟩ ∈ history last.log (.route i)) :
    (events last.log i).filterMap sentPacket = [(session, response)] ∧
      (arrivals i).session = some session ∧
      Answered i (arrivals i) (events last.log i) response := by
  obtain ⟨hroute, -⟩ := hruns.histories i
  obtain ⟨hsession, hunsubmitted, hanswered⟩ := hroute.sent session response reply hmem
  have hwork : history last.log (.work i) = [] := by
    apply eq_nil_iff_forall_not_mem.mpr
    intro event hevent
    obtain ⟨task, hsubmitted⟩ := hruns.submitted_of_work hsound hevent
    exact hunsubmitted task (mem_history.mpr hsubmitted)
  refine ⟨?_, hsession, hanswered.mono (subset_append_left _ _)⟩
  rw [events, hwork, append_nil]
  exact sent_eq_singleton hroute.once hmem

/-- What a worker sends is the only response. -/
theorem Runs.sent_by_work {session : SessionRef} {response : Packet} {reply : Except Error Unit}
    (hmem : ⟨.sendPacket session response, reply⟩ ∈ history last.log (.work i)) :
    (events last.log i).filterMap sentPacket = [(session, response)] ∧
      (arrivals i).session = some session ∧
      Answered i (arrivals i) (events last.log i) response := by
  obtain ⟨hroute, hwork⟩ := hruns.histories i
  obtain ⟨task, outcome, htaken, rfl, hran, hreply⟩ := hwork.sent session response reply hmem
  have hsubmitted := (hruns.sound hsound).taken i task (mem_history.mp htaken)
  have hdispatched := hroute.submitted task _ (mem_history.mpr hsubmitted)
  have hunsent : Unsent (history last.log (.route i)) := by
    intro other packet answer hsent
    exact (hroute.sent other packet answer hsent).2.1 task (mem_history.mpr hsubmitted)
  refine ⟨?_, hdispatched.session, outcome.status, ?_, ?_⟩
  · rw [events, filterMap_append, sent_eq_nil hunsent, nil_append]
    exact sent_eq_singleton hwork.once hmem
  · exact hdispatched.result (subset_append_left _ _) (subset_append_right _ _ hran)
  · rw [← hdispatched.packet]
    exact hreply

/-- When a worker has returned from the task of a request, the request was answered. -/
theorem Runs.responds_of_submitted
    (hfits : ∀ handler request outcome status, outcomes handler request outcome →
      outcome.status = .error status → Fits status)
    (hreturned : last.threads (.work i) = .ret ()) {session : SessionRef}
    (hsession : (arrivals i).session = some session)
    (hopen : last.world.sessions.closed session = false) :
    ∃ response, (events last.log i).filterMap sentPacket = [(session, response)] ∧
      Answered i (arrivals i) (events last.log i) response := by
  have hfollows := Reaches.follows hruns (program_follows arrivals) (.work i)
  rw [hreturned] at hfollows
  obtain ⟨-, task, htaken, hend⟩ := hfollows
  have hsubmitted := (hruns.sound hsound).taken i task (mem_history.mp htaken)
  have hdispatched := (hruns.histories i).1.submitted task _ (mem_history.mpr hsubmitted)
  obtain rfl : session = task.session :=
    Option.some.inj (hsession.symm.trans hdispatched.session)
  rcases hend with hlock | (hclosed | ⟨response, reply, hsent⟩) | ⟨outcome, error, hran, herror⟩
  · exact ((hruns.not_seen_closed hopen _).2 hlock).elim
  · exact ((hruns.not_seen_closed hopen _).1 hclosed).elim
  · obtain ⟨hone, hsame, hanswered⟩ := hruns.sent_by_work hsound hsent
    rw [Option.some.inj (hsame.symm.trans hsession)] at hone
    exact ⟨response, hone, hanswered⟩
  · have hresult : Result i (arrivals i) (events last.log i) outcome.status :=
      hdispatched.result (subset_append_left _ _) (subset_append_right _ _ hran)
    exact (hruns.replyTo_ne_error hfits hresult _ error herror).elim

theorem Runs.responds (hfits : ∀ handler request outcome status, outcomes handler request outcome →
      outcome.status = .error status → Fits status) (hended : Ended last i)
    {session : SessionRef} (hsession : (arrivals i).session = some session)
    (hopen : last.world.sessions.closed session = false) :
    ∃ response, (events last.log i).filterMap sentPacket = [(session, response)] ∧
      Answered i (arrivals i) (events last.log i) response := by
  have hfollows := Reaches.follows hruns (program_follows arrivals) (.route i)
  rw [hended.1] at hfollows
  rcases hfollows with hnone | ⟨own, hown, hclosed | ⟨response, reply, hsent⟩⟩ |
    ⟨task, hsubmitted⟩ | ⟨result, error, hresult, herror⟩
  · exact nomatch hnone.symm.trans hsession
  · obtain rfl : own = session := Option.some.inj (hown.symm.trans hsession)
    exact ((hruns.not_seen_closed hopen _).1 hclosed).elim
  · obtain ⟨hone, hsame, hanswered⟩ := hruns.sent_by_route hsound hsent
    obtain rfl : own = session := Option.some.inj (hsame.symm.trans hsession)
    exact ⟨response, hone, hanswered⟩
  · exact hruns.responds_of_submitted hsound hfits
      (hended.2.resolve_left fun hnone => hnone task (mem_history.mp hsubmitted))
      hsession hopen
  · exact (hruns.replyTo_ne_error hfits (hresult.mono (subset_append_left _ _)) _ error
      herror).elim

/-- A handler that is run by a worker was accepted by the pool. -/
theorem Runs.handled_cases {handler : H} {request : RouterRequest} {outcome : HandlerOutcome}
    (hran : ⟨.handle handler request, outcome⟩ ∈ events last.log i) :
    (⟨.handle handler request, outcome⟩ ∈ history last.log (.route i) ∧
      ∃ own, ⟨.findHandler (arrivals i).packet.header.msgType,
        some { handler := own, mode := .inline }⟩ ∈ events last.log i) ∨
    (⟨.handle handler request, outcome⟩ ∈ history last.log (.work i) ∧
      (∃ own, ⟨.findHandler (arrivals i).packet.header.msgType,
        some { handler := own, mode := .businessThread }⟩ ∈ events last.log i) ∧
      ∃ task, ⟨.submit i task, .ok ()⟩ ∈ events last.log i) := by
  obtain ⟨hroute, -⟩ := hruns.histories i
  rcases mem_append.mp hran with hown | hwork
  · obtain ⟨own, hlooked⟩ := hroute.inline _ hown rfl
    exact Or.inl ⟨hown, own, mem_append_left _ hlooked⟩
  · obtain ⟨task, hsubmitted⟩ := hruns.submitted_of_work hsound hwork
    have hsubmitted := mem_history.mpr hsubmitted
    exact Or.inr ⟨hwork, ⟨task.handler, mem_append_left _
      (hroute.submitted task _ hsubmitted).looked⟩, task, mem_append_left _ hsubmitted⟩

theorem Runs.handled_unique {first second : H} {request other : RouterRequest}
    {outcome result : HandlerOutcome}
    (hfirst : ⟨.handle first request, outcome⟩ ∈ events last.log i)
    (hsecond : ⟨.handle second other, result⟩ ∈ events last.log i) : outcome = result := by
  obtain ⟨hroute, hwork⟩ := hruns.histories i
  rcases hruns.handled_cases hsound hfirst with ⟨hfirst, own, hlooked⟩ |
    ⟨hfirst, ⟨own, hlooked⟩, -⟩
  · rcases hruns.handled_cases hsound hsecond with ⟨hsecond, -⟩ | ⟨-, ⟨third, hagain⟩, -⟩
    · cases eq_of_countP_le_one hroute.handles hfirst hsecond rfl rfl
      rfl
    · exact nomatch hruns.found_unique hlooked hagain
  · rcases hruns.handled_cases hsound hsecond with ⟨-, third, hagain⟩ | ⟨hsecond, -⟩
    · exact nomatch hruns.found_unique hlooked hagain
    · cases eq_of_countP_le_one hwork.handles hfirst hsecond rfl rfl
      rfl

/-- One thing comes of a well-formed request. -/
theorem Runs.routed_unique {fields : TlvMap} {first second : Except Error Packet}
    (hfirst : Routed i (arrivals i) fields (events last.log i) first)
    (hsecond : Routed i (arrivals i) fields (events last.log i) second) : first = second := by
  have hexclusive : ∀ task status handler request outcome,
      ⟨.submit i task, .error status⟩ ∈ events last.log i →
      ⟨.handle handler request, outcome⟩ ∈ events last.log i →
      ∀ own, ⟨.findHandler (arrivals i).packet.header.msgType,
        some { handler := own, mode := .businessThread }⟩ ∉ events last.log i := by
    intro task status handler request outcome hrefused hran own hlooked
    rcases hruns.handled_cases hsound hran with ⟨-, other, hinline⟩ | ⟨-, -, accepted, hok⟩
    · exact nomatch hruns.found_unique hlooked hinline
    · exact nomatch hruns.submit_unique hrefused hok
  cases hfirst with
  | unregistered looked =>
    cases hsecond with
    | unregistered => rfl
    | rejected again | handled again => exact nomatch hruns.found_unique looked again
  | rejected looked refused =>
    cases hsecond with
    | unregistered again => exact nomatch hruns.found_unique looked again
    | rejected _ again => rw [error.inj (hruns.submit_unique refused again)]
    | handled _ ran => exact (hexclusive _ _ _ _ _ refused ran _ looked).elim
  | handled looked ran =>
    cases hsecond with
    | unregistered again => exact nomatch hruns.found_unique looked again
    | rejected again refused => exact (hexclusive _ _ _ _ _ refused ran _ again).elim
    | handled _ again => rw [hruns.handled_unique hsound ran again]

/-- One thing comes of a request. -/
theorem Runs.result_unique {first second : Except Error Packet}
    (hfirst : Result i (arrivals i) (events last.log i) first)
    (hsecond : Result i (arrivals i) (events last.log i) second) : first = second := by
  have hrequest : isRequestType (arrivals i).packet.header.msgType = true →
      ¬ ((arrivals i).packet.header.msgType = .unknown ∨
        isRequestType (arrivals i).packet.header.msgType = false) := by
    rintro htrue (hunknown | hfalse)
    · rw [hunknown] at htrue
      exact nomatch htrue
    · exact nomatch htrue.symm.trans hfalse
  cases hfirst with
  | notRequest h =>
    cases hsecond with
    | notRequest => rfl
    | malformed isRequest => exact (hrequest isRequest h).elim
    | routed routable => exact (hrequest routable.isRequest h).elim
  | malformed isRequest parsed =>
    cases hsecond with
    | notRequest h => exact (hrequest isRequest h).elim
    | malformed _ again => rw [error.inj (parsed.symm.trans again)]
    | routed routable => exact nomatch parsed.symm.trans routable.parsed
  | routed routable hrouted =>
    cases hsecond with
    | notRequest h => exact (hrequest routable.isRequest h).elim
    | malformed _ parsed => exact nomatch parsed.symm.trans routable.parsed
    | routed again hagain =>
      obtain rfl := ok.inj (routable.parsed.symm.trans again.parsed)
      exact hruns.routed_unique hsound hrouted hagain

end Always

/-- Nothing is done for a packet whose session was closed when `route` was called. -/
theorem Runs.silent {mid : RouterPool H ι} (hfirst : Runs outcomes (arriving arrivals world) mid)
    (hrest : Runs outcomes mid last) (hsound : Sound [] world.businessPool)
    (huncalled : history mid.log (.route i) = [])
    (hclosed : ∀ session, (arrivals i).session = some session →
      mid.world.sessions.closed session = true) :
    ∀ event ∈ events last.log i, Acts event = false := by
  have hruns : Runs outcomes (arriving arrivals world) last := hfirst.trans hrest
  -- An act of `route` comes after the session was seen open, which is after `mid`.
  have hroute : ∀ event ∈ history last.log (.route i), Acts event = false := by
    intro event hmem
    by_contra hacts
    obtain ⟨session, hsession, hopen⟩ :=
      (hruns.histories i).1.opened event hmem (eq_true_of_ne_false hacts)
    have hnew : (Part.route i, ⟨.closed session, false⟩) ∉ mid.log := by
      intro hold
      have hempty := mem_history.mpr hold
      rw [huncalled] at hempty
      cases hempty
    obtain ⟨pool, next, after, hbefore, -, -, hanswer⟩ :=
      Reaches.occurred hrest (mem_history.mp hopen) hnew
    have hstill := closed_later (Runs.later hbefore) (hclosed session hsession)
    exact nomatch hstill.symm.trans hanswer.1.symm
  intro event hmem
  rcases mem_append.mp hmem with hown | hwork
  · exact hroute event hown
  · obtain ⟨task, hsubmitted⟩ := hruns.submitted_of_work hsound hwork
    exact nomatch hroute _ (mem_history.mpr hsubmitted)

end Responses

end MessageRouter

end LiteIM
