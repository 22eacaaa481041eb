/-
# The router

`MessageRouter::route` finds the handler of a packet and runs it, in the calling thread or
as a task of the business thread pool, and answers the packet: with the response of the
handler, or with an error response. The two parts a request may have, the call of `route`
and the task, are programs; `i` names the request they belong to.

A handler is anything: what it does is given by the outcome of its call.
-/

import LiteIM.Concurrency.ThreadPool
import LiteIM.Service.Request

namespace LiteIM

open Foundation Program List

/-- The enumerators that `isRequestType` returns true for. -/
def isRequestType (type : MessageType) : Bool :=
  type ∈ [MessageType.heartbeatRequest, .registerRequest, .loginRequest, .logoutRequest,
    .addFriendRequest, .listFriendsRequest, .acceptFriendRequest, .rejectFriendRequest,
    .privateMessageRequest, .createGroupRequest, .joinGroupRequest, .listGroupsRequest,
    .groupMessageRequest, .offlineMessagesRequest, .historyRequest, .offlineMessagesAckRequest,
    .deliveryAckRequest]

/-- The bytes of a text. -/
def textBytes (text : String) : Bytes := text.toUTF8.data.toList

namespace MessageRouter

inductive DispatchMode where
  | inline
  | businessThread
  deriving DecidableEq, Repr

structure HandlerEntry (H : Type) where
  handler : H
  mode : DispatchMode := .inline

/-- `handlers_`. -/
abbrev Handlers (H : Type) := UInt16 → Option (HandlerEntry H)

def handlerKey (type : MessageType) : UInt16 := type.raw

def registerHandler {H : Type} (handlers : Handlers H) (type : MessageType) (handler : Option H)
    (mode : DispatchMode) : Except Error (Handlers H) :=
  if type = .unknown ∨ isRequestType type = false then
    Status.error .invalidArgument "handler message type must be a request"
  else
    match handler with
    | none => Status.error .invalidArgument "message handler must not be empty"
    | some handler => .ok (Function.update handlers (handlerKey type) (some { handler, mode }))

/-- How the call of a handler ends. -/
inductive HandlerOutcome where
  | returned (result : Except Error Packet)
  | threwException (what : String)
  | threwOther

/-- The status the router goes on with, and the response. -/
def HandlerOutcome.status : HandlerOutcome → Except Error Packet
  | .returned result => result
  | .threwException what => Status.error .internalError what
  | .threwOther => Status.error .internalError "message handler failed"

/-- What the task of a request captures; the session weakly. -/
structure Task (H : Type) where
  session : SessionRef
  handler : H
  packet : Packet
  fields : TlvMap

/-! ## The calls of the router -/

inductive RouterCall (H ι : Type) where
  | closed (session : SessionRef)
  | lock (session : SessionRef)
  | findHandler (type : MessageType)
  | handle (handler : H) (request : RouterRequest)
  | submit (i : ι) (task : Task H)
  /-- A worker takes the task of a request off the queue. -/
  | take (i : ι)
  /-- The worker returns from it. -/
  | finish (i : ι)
  | sendPacket (session : SessionRef) (packet : Packet)

@[reducible]
def RouterCall.Reply {H ι : Type} : RouterCall H ι → Type
  | .closed _ => Bool
  | .lock _ => Bool
  | .findHandler _ => Option (HandlerEntry H)
  | .handle _ _ => HandlerOutcome
  | .submit _ _ => Except Error Unit
  | .take _ => Task H
  | .finish _ => Unit
  | .sendPacket _ _ => Except Error Unit

@[reducible]
def router (H ι : Type) : Signature := ⟨RouterCall H ι, RouterCall.Reply⟩

abbrev Router (H ι : Type) := Program (router H ι)

section Router

variable {H ι : Type}

def perform (call : RouterCall H ι) : Router H ι call.Reply := .call call .ret

/-! ## Answering -/

/-- The response with the header that every response gets. -/
def stamped (seqId : UInt64) (response : Packet) : Packet :=
  { response with
    header := { response.header with
      magic := kPacketMagic, version := kPacketVersion, flags := kPacketFlagsNone, seqId } }

def sendResponse (session : Option SessionRef) (seqId : UInt64) (response : Packet) :
    Router H ι Unit :=
  match session with
  | none => pure ()
  | some session => do
      let closed ← perform (.closed session)
      if closed then pure ()
      else do
        let _ ← perform (.sendPacket session (stamped seqId response))
        pure ()

/-- The text of an error response. -/
def errorText (status : Error) : String :=
  if status.message = "" then status.code.toString else status.message

/-- The packet that `sendError` fills. -/
def errorResponse (status : Error) : Except Error Packet := do
  let body ← appendUint64 .errorCode status.code.toUInt64 []
  let body ← appendString .errorMessage (textBytes (errorText status)) body
  .ok { header := { msgType := .errorResponse }, body }

def sendError (session : Option SessionRef) (seqId : UInt64) (status : Error) :
    Router H ι Unit :=
  match errorResponse status with
  | .error _ => pure ()
  | .ok response => sendResponse session seqId response

/-! ## Routing -/

def executeHandler (handler : H) (request : RouterRequest) : Router H ι Unit :=
  match request.session with
  | none => pure ()
  | some session => do
      let closed ← perform (.closed session)
      if closed then pure ()
      else do
        let outcome ← perform (.handle handler request)
        match outcome.status with
        | .error status => sendError request.session request.packet.header.seqId status
        | .ok response => sendResponse request.session request.packet.header.seqId response

def notRequestStatus : Error := ⟨.invalidArgument, "message type is not a request"⟩
def noHandlerStatus : Error := ⟨.notFound, "no message handler registered"⟩

/-- The end of `route` for a handler that runs in the business pool. -/
def submitTask (i : ι) (task : Task H) : Router H ι Unit := do
  let submitted ← perform (.submit i task)
  match submitted with
  | .ok _ => pure ()
  | .error status => sendError (some task.session) task.packet.header.seqId status

def route (i : ι) (session : Option SessionRef) (packet : Packet) : Router H ι Unit :=
  match session with
  | none => pure ()
  | some session => do
      let closed ← perform (.closed session)
      if closed then pure ()
      else if packet.header.msgType = .unknown ∨ isRequestType packet.header.msgType = false then
        sendError (some session) packet.header.seqId notRequestStatus
      else
        match parseTlvMap packet.body with
        | .error status => sendError (some session) packet.header.seqId status
        | .ok fields => do
            let found ← perform (.findHandler packet.header.msgType)
            match found with
            | none => sendError (some session) packet.header.seqId noHandlerStatus
            | some { handler, mode := .inline } =>
              executeHandler handler { session := some session, packet, fields }
            | some { handler, mode := .businessThread } =>
              submitTask i { session, handler, packet, fields }

/-- The task that `route` submits. -/
def runTask (task : Task H) : Router H ι Unit := do
  let locked ← perform (.lock task.session)
  if locked = false then pure ()
  else do
    let closed ← perform (.closed task.session)
    if closed then pure ()
    else
      executeHandler task.handler
        { session := some task.session, packet := task.packet, fields := task.fields }

/-- The turn of a worker's loop that runs the task of a request. -/
def work (i : ι) : Router H ι Unit := do
  let task ← perform (.take i)
  runTask task
  perform (.finish i)

end Router

/-! ## What answers the calls -/

/-- A task in the queue: one of a request, or one that something else submitted. -/
inductive Job (H ι : Type) where
  | request (i : ι) (task : Task H)
  | other

section World

variable {H ι : Type} [DecidableEq ι]

def Job.isRequest (i : ι) : Job H ι → Bool
  | .request j _ => j = i
  | .other => false

def Job.isOther : Job H ι → Bool
  | .request _ _ => false
  | .other => true

structure RouterWorld (H ι : Type) where
  sessions : Sessions
  handlers : Handlers H
  businessPool : ThreadPool (Job H ι)

/-- What answers the router. `outcomes` are the outcomes a handler may have. -/
def RouterWorld.machine (outcomes : H → RouterRequest → HandlerOutcome → Prop) :
    Machine (router H ι) (RouterWorld H ι)
  | .closed session, world, reply, next => reply = world.sessions.closed session ∧ next = world
  | .lock session, world, reply, next =>
    reply = (world.sessions.lock session).isSome ∧ next = world
  | .findHandler type, world, reply, next =>
    reply = world.handlers (handlerKey type) ∧ next = world
  | .handle handler request, world, reply, next => outcomes handler request reply ∧ next = world
  | .submit i task, world, reply, next =>
    reply = (world.businessPool.submit (some (.request i task))).1 ∧
      next = { world with
        businessPool := (world.businessPool.submit (some (.request i task))).2 }
  | .take i, world, reply, next => ∃ businessPool,
      world.businessPool.take = some (.request i reply, businessPool) ∧
        next = { world with businessPool }
  | .finish i, world, _, next =>
    next = { world with businessPool := world.businessPool.finish (Job.isRequest i) }
  | .sendPacket _ _, world, _, next => next = world

theorem RouterWorld.machine_submit {outcomes : H → RouterRequest → HandlerOutcome → Prop}
    {i : ι} {task : Task H} {world next : RouterWorld H ι} {reply : Except Error Unit}
    (hanswer : machine outcomes (.submit i task) world reply next) :
    (reply = .ok () ∧ world.businessPool.running = true ∧
      next = { world with businessPool := { world.businessPool with
        tasks := world.businessPool.tasks ++ [.request i task] } }) ∨
    ∃ status, reply = .error status ∧ next = world ∧
      (status = ⟨.invalidArgument, "thread pool is not accepting new tasks"⟩ ∨
        status = ⟨.resourceExhausted, "thread pool pending task queue is full"⟩) := by
  obtain ⟨hreply, hnext⟩ := hanswer
  rcases world.businessPool.submit_cases (.request i task) with
    ⟨haccepted, hrunning⟩ | ⟨status, hrefused, hstatus⟩
  · rw [haccepted] at hreply hnext
    exact Or.inl ⟨hreply, hrunning, hnext⟩
  · rw [hrefused] at hreply hnext
    exact Or.inr ⟨status, hreply, hnext, hstatus⟩

/-- What goes on besides the requests: sessions close, handlers are registered, the pool is
started and stopped, and runs tasks of others. -/
inductive RouterWorld.Elsewhere (world : RouterWorld H ι) : RouterWorld H ι → Prop where
  | sessions {sessions : Sessions} (later : Sessions.Later world.sessions sessions) :
      Elsewhere world { world with sessions }
  | register {type : MessageType} {handler : Option H} {mode : DispatchMode}
      {handlers : Handlers H}
      (registered : registerHandler world.handlers type handler mode = .ok handlers) :
      Elsewhere world { world with handlers }
  | pool {businessPool : ThreadPool (Job H ι)} (change : world.businessPool.Change businessPool) :
      Elsewhere world { world with businessPool }
  | submit : Elsewhere world
      { world with businessPool := (world.businessPool.submit (some .other)).2 }
  | take {businessPool : ThreadPool (Job H ι)}
      (taken : world.businessPool.take = some (.other, businessPool)) :
      Elsewhere world { world with businessPool }
  | finish : Elsewhere world
      { world with businessPool := world.businessPool.finish Job.isOther }

end World

/-! ## What comes of a request -/

/-- A packet arrives from a session. -/
structure Arrival where
  session : Option SessionRef
  packet : Packet

/-- What a result is answered with. -/
def replyTo (seqId : UInt64) : Except Error Packet → Except Error Packet
  | .ok response => .ok (stamped seqId response)
  | .error status => (errorResponse status).map (stamped seqId)

section Protocol

variable {H ι : Type} {i : ι} {arrival : Arrival}

/-- The packet is one that handlers are registered for, and its body is well formed. -/
structure Arrival.Routable (arrival : Arrival) (fields : TlvMap) : Prop where
  isRequest : isRequestType arrival.packet.header.msgType = true
  known : arrival.packet.header.msgType ≠ .unknown
  parsed : parseTlvMap arrival.packet.body = .ok fields

/-- What came of a well-formed request, by the events of its two parts. -/
inductive Routed (i : ι) (arrival : Arrival) (fields : TlvMap)
    (events : List (Event (router H ι))) : Except Error Packet → Prop where
  | unregistered (looked : ⟨.findHandler arrival.packet.header.msgType, none⟩ ∈ events) :
      Routed i arrival fields events (.error noHandlerStatus)
  | rejected {session : SessionRef} {handler : H} {status : Error}
      (looked : ⟨.findHandler arrival.packet.header.msgType,
        some { handler, mode := .businessThread }⟩ ∈ events)
      (refused : ⟨.submit i { session, handler, packet := arrival.packet, fields },
        .error status⟩ ∈ events) :
      Routed i arrival fields events (.error status)
  | handled {entry : HandlerEntry H} {outcome : HandlerOutcome}
      (looked : ⟨.findHandler arrival.packet.header.msgType, some entry⟩ ∈ events)
      (ran : ⟨.handle entry.handler { arrival with fields }, outcome⟩ ∈ events) :
      Routed i arrival fields events outcome.status

/-- What came of a request: the first failure, or what its handler returned. -/
inductive Result (i : ι) (arrival : Arrival) (events : List (Event (router H ι))) :
    Except Error Packet → Prop where
  | notRequest (h : arrival.packet.header.msgType = .unknown ∨
      isRequestType arrival.packet.header.msgType = false) :
      Result i arrival events (.error notRequestStatus)
  | malformed {status : Error} (isRequest : isRequestType arrival.packet.header.msgType = true)
      (parsed : parseTlvMap arrival.packet.body = .error status) :
      Result i arrival events (.error status)
  | routed {fields : TlvMap} {result : Except Error Packet} (routable : arrival.Routable fields)
      (h : Routed i arrival fields events result) : Result i arrival events result

variable {fields : TlvMap} {result : Except Error Packet}

theorem Routed.mono {events later : List (Event (router H ι))}
    (hrouted : Routed i arrival fields events result) (hsubset : events ⊆ later) :
    Routed i arrival fields later result := by
  cases hrouted with
  | unregistered looked => exact .unregistered (hsubset looked)
  | rejected looked refused => exact .rejected (hsubset looked) (hsubset refused)
  | handled looked ran => exact .handled (hsubset looked) (hsubset ran)

theorem Result.mono {events later : List (Event (router H ι))}
    (hresult : Result i arrival events result) (hsubset : events ⊆ later) :
    Result i arrival later result := by
  cases hresult with
  | notRequest h => exact .notRequest h
  | malformed isRequest parsed => exact .malformed isRequest parsed
  | routed routable h => exact .routed routable (h.mono hsubset)

/-! ## What the two parts do, whatever they are answered -/

/-- No packet was handed to a session yet. -/
def Unsent (history : List (Event (router H ι))) : Prop :=
  ∀ session packet reply, ⟨.sendPacket session packet, reply⟩ ∉ history

/-- The session was seen closed, or a packet was handed to it. -/
def Settled (session : SessionRef) (history : List (Event (router H ι))) : Prop :=
  ⟨.closed session, true⟩ ∈ history ∨
    ∃ packet reply, ⟨.sendPacket session packet, reply⟩ ∈ history

/-- The session of the packet was seen open. -/
def SeenOpen (arrival : Arrival) (session : SessionRef)
    (history : List (Event (router H ι))) : Prop :=
  arrival.session = some session ∧ ⟨.closed session, false⟩ ∈ history

/-- The task is the one of the packet, with the handler that was found for it. -/
structure Dispatched (arrival : Arrival) (history : List (Event (router H ι)))
    (task : Task H) : Prop where
  session : arrival.session = some task.session
  packet : task.packet = arrival.packet
  routable : arrival.Routable task.fields
  looked : ⟨.findHandler arrival.packet.header.msgType,
    some { handler := task.handler, mode := .businessThread }⟩ ∈ history

def isLookup : Event (router H ι) → Bool
  | ⟨.findHandler _, _⟩ => true
  | _ => false

def isSubmit : Event (router H ι) → Bool
  | ⟨.submit _ _, _⟩ => true
  | _ => false

def isHandle : Event (router H ι) → Bool
  | ⟨.handle _ _, _⟩ => true
  | _ => false

/-- Why `route` makes a call. -/
def RouteJustified (i : ι) (arrival : Arrival) (history : List (Event (router H ι)))
    (event : Event (router H ι)) : Prop :=
  match event.call with
  | .closed _ => True
  | .findHandler _ => history.countP isLookup = 0
  | .handle _ _ => (∃ session, SeenOpen arrival session history) ∧
      history.countP isHandle = 0 ∧
      ∃ handler, ⟨.findHandler arrival.packet.header.msgType,
        some { handler, mode := .inline }⟩ ∈ history
  | .submit j task => j = i ∧ SeenOpen arrival task.session history ∧
      Dispatched arrival history task ∧ Unsent history ∧ history.countP isSubmit = 0
  | .sendPacket session response => SeenOpen arrival session history ∧ Unsent history ∧
      (∀ task, ⟨.submit i task, .ok ()⟩ ∉ history) ∧
      ∃ result, Result i arrival history result ∧
        replyTo arrival.packet.header.seqId result = .ok response
  | _ => False

/-- How `route` ends. -/
def RouteEnd (i : ι) (arrival : Arrival) (history : List (Event (router H ι))) : Prop :=
  arrival.session = none ∨
    (∃ session, arrival.session = some session ∧ Settled session history) ∨
    (∃ task, ⟨.submit i task, .ok ()⟩ ∈ history) ∨
    ∃ result error, Result i arrival history result ∧
      replyTo arrival.packet.header.seqId result = .error error

/-- The handler of a task was called, and ended in an outcome. -/
def Ran (task : Task H) (outcome : HandlerOutcome) (history : List (Event (router H ι))) : Prop :=
  ⟨.handle task.handler
    { session := some task.session, packet := task.packet, fields := task.fields }, outcome⟩ ∈
    history

/-- The worker has taken the task of the request. -/
def Begun (i : ι) (history : List (Event (router H ι))) : Prop :=
  ∃ task, ⟨.take i, task⟩ ∈ history

/-- Why a worker makes a call while it runs the task of a request. -/
def WorkJustified (i : ι) (history : List (Event (router H ι))) (event : Event (router H ι)) :
    Prop :=
  match event.call with
  | .take j => j = i ∧ history = []
  | .lock _ => Begun i history
  | .closed _ => Begun i history
  | .handle _ _ => Begun i history ∧ history.countP isHandle = 0
  | .sendPacket session response => Unsent history ∧ ∃ task outcome,
      ⟨.take i, task⟩ ∈ history ∧ session = task.session ∧ Ran task outcome history ∧
      replyTo task.packet.header.seqId outcome.status = .ok response
  | .finish j => j = i ∧ Begun i history
  | _ => False

/-- How a task ends before the worker returns from it. -/
def TaskEnd (task : Task H) (history : List (Event (router H ι))) : Prop :=
  ⟨.lock task.session, false⟩ ∈ history ∨ Settled task.session history ∨
    ∃ outcome error, Ran task outcome history ∧
      replyTo task.packet.header.seqId outcome.status = .error error

/-- How the turn of a worker's loop ends. -/
def WorkEnd (i : ι) (history : List (Event (router H ι))) : Prop :=
  ⟨.finish i, ()⟩ ∈ history ∧ ∃ task, ⟨.take i, task⟩ ∈ history ∧ TaskEnd task history

section Sending

variable {justified : List (Event (router H ι)) → Event (router H ι) → Prop}
variable {history : List (Event (router H ι))} {session : SessionRef} {seqId : UInt64}

theorem sendResponse_follows (response : Packet)
    (hclosed : ∀ reply, justified history ⟨.closed session, reply⟩)
    (hsend : ∀ reply, justified (history ++ [⟨.closed session, false⟩])
      ⟨.sendPacket session (stamped seqId response), reply⟩) :
    Follows justified (fun later _ => Settled session later) history
      (sendResponse (some session) seqId response) := by
  intro closed
  refine ⟨hclosed closed, ?_⟩
  cases closed with
  | true => exact Or.inl (by simp)
  | false => exact fun reply => ⟨hsend reply, Or.inr ⟨_, reply, by simp⟩⟩

theorem sendError_follows (status : Error)
    (hclosed : ∀ reply, justified history ⟨.closed session, reply⟩)
    (hsend : ∀ response reply, replyTo seqId (.error status) = .ok response →
      justified (history ++ [⟨.closed session, false⟩]) ⟨.sendPacket session response, reply⟩) :
    Follows justified (fun later _ => Settled session later ∨
      ∃ error, replyTo seqId (.error status) = .error error) history
      (sendError (some session) seqId status) := by
  cases hresponse : errorResponse status with
  | error error =>
    rw [sendError, hresponse]
    exact Or.inr ⟨error, by rw [replyTo, hresponse]; rfl⟩
  | ok response =>
    have hreply : replyTo seqId (.error status) = .ok (stamped seqId response) := by
      rw [replyTo, hresponse]
      rfl
    rw [sendError, hresponse]
    refine Follows.mono (sendResponse_follows response hclosed fun reply =>
      hsend _ reply hreply) ?_
    exact fun _ _ _ => Or.inl

/-- A handler is run and its result is answered. -/
theorem executeHandler_follows (handler : H) (packet : Packet) (fields : TlvMap)
    (hclosed : ∀ later reply, history <+: later → justified later ⟨.closed session, reply⟩)
    (hhandle : ∀ outcome, justified (history ++ [⟨.closed session, false⟩])
      ⟨.handle handler { session := some session, packet, fields }, outcome⟩)
    (hsend : ∀ outcome response reply,
      replyTo packet.header.seqId outcome.status = .ok response →
      justified (history ++ [⟨.closed session, false⟩] ++
          [⟨.handle handler { session := some session, packet, fields }, outcome⟩] ++
          [⟨.closed session, false⟩])
        ⟨.sendPacket session response, reply⟩) :
    Follows justified (fun later _ => Settled session later ∨
      ∃ outcome error,
        ⟨.handle handler { session := some session, packet, fields }, outcome⟩ ∈ later ∧
        replyTo packet.header.seqId outcome.status = .error error) history
      (executeHandler handler { session := some session, packet, fields }) := by
  intro closed
  refine ⟨hclosed history closed prefix_rfl, ?_⟩
  cases closed with
  | true => exact Or.inl (Or.inl (by simp))
  | false =>
    intro outcome
    refine ⟨hhandle outcome, ?_⟩
    have hagain : ∀ reply, justified (history ++ [⟨.closed session, false⟩] ++
        [⟨.handle handler { session := some session, packet, fields }, outcome⟩])
        ⟨.closed session, reply⟩ := by
      intro reply
      apply hclosed
      rw [append_assoc]
      exact prefix_append _ _
    have hsend := hsend outcome
    cases hstatus : outcome.status with
    | ok response =>
      rw [hstatus] at hsend
      simp only [Program.bind, hstatus]
      refine Program.Follows.mono (sendResponse_follows response hagain fun reply =>
        hsend _ reply rfl) ?_
      exact fun _ _ _ => Or.inl
    | error status =>
      rw [hstatus] at hsend
      simp only [Program.bind, hstatus]
      refine Program.Follows.mono (sendError_follows status hagain hsend) ?_
      rintro later _ hlater (hsettled | ⟨error, herror⟩)
      · exact Or.inl hsettled
      · exact Or.inr ⟨outcome, error, hlater.subset (by simp), by rw [hstatus]; exact herror⟩

end Sending

section Route

variable {history : List (Event (router H ι))} {session : SessionRef}

section

variable (hopen : SeenOpen arrival session history)
include hopen

theorem SeenOpen.mono {later : List (Event (router H ι))} (hsubset : history ⊆ later) :
    SeenOpen arrival session later :=
  ⟨hopen.1, hsubset hopen.2⟩

section

variable (hunsent : Unsent history) (hunsubmitted : ∀ task, ⟨.submit i task, .ok ()⟩ ∉ history)
include hunsent hunsubmitted

/-- The answer of `route` to a result, after a check that the session is open. -/
theorem routeJustified_send (hresult : Result i arrival history result) {response : Packet}
    (hresponse : replyTo arrival.packet.header.seqId result = .ok response)
    (reply : Except Error Unit) : RouteJustified i arrival (history ++ [⟨.closed session, false⟩])
      ⟨.sendPacket session response, reply⟩ := by
  have hsubset := subset_append_left history [⟨.closed session, false⟩]
  refine ⟨hopen.mono hsubset, ?_, ?_, result, hresult.mono hsubset, hresponse⟩
  · intro other packet reply hmem
    exact hunsent other packet reply (by simpa using hmem)
  · intro task hmem
    exact hunsubmitted task (by simpa using hmem)

/-- `route` ends with an error. -/
theorem routeError_follows {status : Error} (hresult : Result i arrival history (.error status)) :
    Follows (RouteJustified i arrival) (fun later _ => RouteEnd i arrival later) history
      (sendError (some session) arrival.packet.header.seqId status) := by
  refine Follows.mono (sendError_follows status (fun _ => trivial)
    fun response reply hresponse =>
      routeJustified_send hopen hunsent hunsubmitted hresult hresponse reply) ?_
  rintro later _ hlater (hsettled | ⟨error, herror⟩)
  · exact Or.inr (Or.inl ⟨session, hopen.1, hsettled⟩)
  · exact Or.inr (Or.inr (Or.inr ⟨_, error, hresult.mono hlater.subset, herror⟩))

/-- `route` runs the handler itself. -/
theorem routeInline_follows {handler : H}
    (hunhandled : history.countP isHandle = 0) (hroutable : arrival.Routable fields)
    (hlooked : ⟨.findHandler arrival.packet.header.msgType,
      some { handler, mode := .inline }⟩ ∈ history) :
    Follows (RouteJustified i arrival) (fun later _ => RouteEnd i arrival later) history
      (executeHandler handler { session := some session, packet := arrival.packet, fields }) := by
  have hrequest : ({ session := some session, packet := arrival.packet, fields } :
      RouterRequest) = { arrival with fields } := by rw [← hopen.1]
  refine Follows.mono (executeHandler_follows handler arrival.packet fields
    (fun _ _ _ => trivial) (fun outcome => ?_) fun outcome response reply hresponse => ?_) ?_
  · refine ⟨⟨session, hopen.mono (subset_append_left _ _)⟩, ?_, handler,
      mem_append_left _ hlooked⟩
    rw [countP_append, hunhandled]
    rfl
  · have hsubset : history ⊆ history ++ [⟨.closed session, false⟩] ++
        [⟨.handle handler { session := some session, packet := arrival.packet, fields },
          outcome⟩] := by
      rw [append_assoc]
      exact subset_append_left _ _
    apply routeJustified_send (hopen.mono hsubset) _ _
      (.routed hroutable (.handled (hsubset hlooked) _)) hresponse
    · intro other packet reply hmem
      exact hunsent other packet reply (by simpa using hmem)
    · intro task hmem
      exact hunsubmitted task (by simpa using hmem)
    · rw [← hrequest]
      simp
  · rintro later _ hlater (hsettled | ⟨outcome, error, hran, herror⟩)
    · exact Or.inr (Or.inl ⟨session, hopen.1, hsettled⟩)
    · rw [hrequest] at hran
      exact Or.inr (Or.inr (Or.inr
        ⟨_, error, .routed hroutable (.handled (hlater.subset hlooked) hran), herror⟩))

end

/-- `route` leaves the handler to the business pool. -/
theorem submitTask_follows {handler : H}
    (hunsent : Unsent history) (hunsubmitted : history.countP isSubmit = 0)
    (hroutable : arrival.Routable fields) (hlooked : ⟨.findHandler arrival.packet.header.msgType,
      some { handler, mode := .businessThread }⟩ ∈ history) :
    Follows (RouteJustified i arrival) (fun later _ => RouteEnd i arrival later) history
      (submitTask i { session, handler, packet := arrival.packet, fields }) := by
  intro submitted
  refine ⟨⟨rfl, hopen, ⟨hopen.1, rfl, hroutable, hlooked⟩, hunsent, hunsubmitted⟩, ?_⟩
  cases submitted with
  | ok =>
    exact Or.inr (Or.inr (Or.inl ⟨_, mem_append_right _ (mem_singleton_self _)⟩))
  | error status =>
    have hsubset := subset_append_left history
      [⟨.submit i { session, handler, packet := arrival.packet, fields }, .error status⟩]
    apply routeError_follows (hopen.mono hsubset)
    · intro other packet reply hmem
      exact hunsent other packet reply (by simpa using hmem)
    · intro task hmem
      rcases mem_append.mp hmem with hold | hnew
      · exact countP_eq_zero.mp hunsubmitted _ hold rfl
      · simp at hnew
    · exact .routed hroutable (.rejected (hsubset hlooked)
        (mem_append_right _ (mem_singleton_self _)))

end

end Route

/-- `route`. -/
theorem route_follows (i : ι) (arrival : Arrival) :
    Follows (RouteJustified i arrival) (fun history _ => RouteEnd i arrival history) []
      (route i arrival.session arrival.packet : Router H ι Unit) := by
  cases hsession : arrival.session with
  | none => exact Or.inl hsession
  | some session =>
    intro closed
    refine ⟨trivial, ?_⟩
    cases closed with
    | true => exact Or.inr (Or.inl ⟨session, hsession, Or.inl (by simp)⟩)
    | false =>
      have hopen : SeenOpen arrival session
          ([⟨.closed session, false⟩] : List (Event (router H ι))) := ⟨hsession, by simp⟩
      simp only [Program.bind, Bool.false_eq_true, if_false, nil_append]
      by_cases hrequest : arrival.packet.header.msgType = .unknown ∨
          isRequestType arrival.packet.header.msgType = false
      · rw [if_pos hrequest]
        exact routeError_follows hopen (by simp [Unsent]) (by simp) (.notRequest hrequest)
      · rw [if_neg hrequest]
        have hknown := fun hunknown => hrequest (Or.inl hunknown)
        have htype : isRequestType arrival.packet.header.msgType = true :=
          eq_true_of_ne_false fun hfalse => hrequest (Or.inr hfalse)
        cases hparse : parseTlvMap arrival.packet.body with
        | error =>
          exact routeError_follows hopen (by simp [Unsent]) (by simp)
            (.malformed htype hparse)
        | ok fields =>
          intro found
          refine ⟨rfl, ?_⟩
          have hroutable : arrival.Routable fields := ⟨htype, hknown, hparse⟩
          have hopen := hopen.mono (subset_append_left _
            [⟨.findHandler arrival.packet.header.msgType, found⟩])
          match found with
          | none =>
            exact routeError_follows hopen (by simp [Unsent]) (by simp)
              (.routed hroutable (.unregistered (by simp)))
          | some { handler, mode := .inline } =>
            exact routeInline_follows hopen (by simp [Unsent]) (by simp) rfl hroutable
              (mem_append_right _ (mem_singleton_self _))
          | some { handler, mode := .businessThread } =>
            exact submitTask_follows hopen (by simp [Unsent]) rfl hroutable
              (mem_append_right _ (mem_singleton_self _))

theorem TaskEnd.mono {task : Task H} {history later : List (Event (router H ι))}
    (hend : TaskEnd task history) (hsubset : history ⊆ later) : TaskEnd task later := by
  rcases hend with hlock | (hclosed | ⟨packet, reply, hsent⟩) | ⟨outcome, error, hran, herror⟩
  · exact Or.inl (hsubset hlock)
  · exact Or.inr (Or.inl (Or.inl (hsubset hclosed)))
  · exact Or.inr (Or.inl (Or.inr ⟨packet, reply, hsubset hsent⟩))
  · exact Or.inr (Or.inr ⟨outcome, error, hsubset hran, herror⟩)

/-- The task of a request, up to where the worker returns from it. -/
theorem runTask_follows (i : ι) (task : Task H) :
    Follows (WorkJustified i) (fun later _ => TaskEnd task later) [⟨.take i, task⟩]
      (runTask task : Router H ι Unit) := by
  have hbegun : ∀ later : List (Event (router H ι)), [⟨.take i, task⟩] <+: later →
      Begun i later := fun later hlater => ⟨task, hlater.subset (mem_singleton_self _)⟩
  intro locked
  refine ⟨hbegun _ prefix_rfl, ?_⟩
  cases locked with
  | false => exact Or.inl (by simp)
  | true =>
    intro closed
    refine ⟨hbegun _ (prefix_append _ _), ?_⟩
    cases closed with
    | true => exact Or.inr (Or.inl (Or.inl (by simp)))
    | false =>
      refine Follows.mono (executeHandler_follows task.handler task.packet task.fields
        (fun later _ hlater => hbegun later ((prefix_append _ _).trans hlater))
        (fun outcome => ⟨hbegun _ (prefix_append _ _), rfl⟩)
        fun outcome response reply hresponse => ?_) ?_
      · exact ⟨by simp [Unsent], task, outcome, by simp, rfl, by simp [Ran], hresponse⟩
      · exact fun _ _ _ => Or.inr

/-- The turn of a worker's loop. -/
theorem work_follows (i : ι) :
    Follows (WorkJustified i) (fun history _ => WorkEnd i history) []
      (work i : Router H ι Unit) := by
  intro task
  refine ⟨⟨rfl, rfl⟩, ?_⟩
  show Follows _ _ _ (runTask task >>= fun _ => perform (.finish i))
  apply Follows.bind
  refine Follows.mono (runTask_follows i task) ?_
  rintro later _ hlater hend ⟨⟩
  have htaken : ⟨.take i, task⟩ ∈ later := hlater.subset (by simp)
  exact ⟨⟨rfl, task, htaken⟩, by simp, task, mem_append_left _ htaken,
    hend.mono (subset_append_left _ _)⟩

end Protocol

end MessageRouter

end LiteIM
