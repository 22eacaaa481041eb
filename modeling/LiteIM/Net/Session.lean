/-
# Sessions

A `Session` reads packets from a socket and writes packets to it. All of its work is done
by the thread of its loop; other threads only test `closed_` and queue tasks. What a
function does between two calls of something outside, the system calls and the callbacks,
is one step here, and so is every access to what other threads see. The loop is the one of
`EventLoop`, whose queue holds the tasks of the session among others.

The message callback and the close callback are code of others: on the loop thread they
may call `sendPacket` and `close` of the session, which then run at once.
-/

import LiteIM.Net.Buffer
import LiteIM.Net.EventLoop
import LiteIM.Protocol.FrameDecoder

namespace LiteIM

open Foundation EventLoop Function

/-- The events a channel is registered for. -/
structure Channel where
  reading : Bool := false
  writing : Bool := false
  deriving DecidableEq, Repr

namespace Channel

def enableReading (channel : Channel) : Channel := { channel with reading := true }

def enableWriting (channel : Channel) : Channel := { channel with writing := true }

def disableWriting (channel : Channel) : Channel := { channel with writing := false }

end Channel

namespace Session

/-- `SessionState`. -/
inductive State where
  | new
  | started
  | closing
  | closed
  deriving DecidableEq, Repr

def kSessionDefaultOutputHighWaterMark : Nat := 4 * 1024 * 1024

def kReadBufferSize : Nat := 4096

end Session

/-- `fd` tells whether the descriptor is held; `channel` is `none` once it was reset. -/
structure Session where
  fd : Bool := true
  channel : Option Channel := some {}
  decoder : FrameDecoder := {}
  outputBuffer : Buffer := .ofSize Buffer.kDefaultBufferSize
  outputHighWaterMark : Nat := Session.kSessionDefaultOutputHighWaterMark
  closed : Bool := false
  state : Session.State := .new
  channelRegistered : Bool := false

namespace Session

/-- The bytes that are to be written. -/
def pending (session : Session) : Bytes := session.outputBuffer.readable

def isWriting (session : Session) : Bool := session.channel.any Channel.writing

/-! ## The functions of the loop thread -/

def startInLoop (session : Session) : Session :=
  if session.state ≠ .new ∨ session.closed = true then session
  else { session with
    channel := session.channel.map Channel.enableReading
    channelRegistered := true
    state := .started }

/-- `closeInLoop` up to its call of `queueInLoop`, for a session that was not closed. -/
def shutDown (session : Session) : Session := { session with
  closed := true
  state := .closing
  channelRegistered := false
  fd := false
  outputBuffer := session.outputBuffer.retrieveAll }

/-- The task that `closeInLoop` queues. -/
def resetChannel (session : Session) : Session :=
  if session.closed then { session with channel := none } else session

/-- What becomes of the bytes handed to `sendEncodedInLoop`. -/
inductive Delivery where
  | refused (error : Error)
  /-- The session is closed before the error is returned. -/
  | closes (error : Error)
  | accepted (session : Session)

def sendEncodedInLoop (session : Session) (encoded : Bytes) : Delivery :=
  if session.state ≠ .started ∨ session.closed = true ∨ encoded = [] then
    .refused ⟨.invalidArgument, "session is not writable"⟩
  else
    let pendingBytes := session.outputBuffer.readableBytes
    if encoded.length > session.outputHighWaterMark ∨
        pendingBytes > session.outputHighWaterMark - encoded.length then
      .closes ⟨.resourceExhausted, "session output high water mark exceeded"⟩
    else
      match session.outputBuffer.append (some encoded) with
      | .error error => .closes error
      | .ok buffer =>
        .accepted { session with
          outputBuffer := buffer
          channel := session.channel.map Channel.enableWriting }

/-- What `sendPacket` decides on the calling thread. -/
inductive Sending where
  | refused (error : Error)
  /-- The loop is asked to close the session. -/
  | tooLong (error : Error)
  | encoded (bytes : Bytes)

def sendPacket (session : Session) (packet : Packet) : Sending :=
  if session.closed then .refused ⟨.notFound, "session is closed"⟩
  else
    match encodePacket packet with
    | .error error => .refused error
    | .ok encoded =>
      if encoded.length > session.outputHighWaterMark then
        .tooLong ⟨.resourceExhausted, "session output high water mark would be exceeded"⟩
      else .encoded encoded

/-- The guard of `handleRead` and `handleWrite`. -/
def Ready (session : Session) : Prop :=
  session.state = .started ∧ session.closed = false ∧ session.fd = true

/-- The end of `handleWrite`. -/
def finishWrite (session : Session) : Session :=
  if session.outputBuffer.readableBytes = 0 then
    { session with channel := session.channel.map Channel.disableWriting }
  else session

/-- What `read` returns. -/
inductive ReadResult where
  | bytes (chunk : Bytes)
  | endOfStream
  | interrupted
  | wouldBlock
  | failed

/-- What `write` returns; the bytes are those it took. -/
inductive WriteResult where
  | wrote (bytes : Bytes)
  | zero
  | interrupted
  | wouldBlock
  | failed

/-! ## The threads -/

/-- A task in the queue of the loop. The caller of a `send` is not part of the task; it
tells whose packet it is. -/
inductive Task (ι : Type) where
  | start
  | send (caller : ι) (encoded : Bytes)
  | close
  | resetChannel
  /-- A task that does not concern the session. -/
  | unrelated

/-- Where the loop thread is in the functions of the session. -/
inductive Point where
  /-- In none of them, or in code that may call them. -/
  | idle
  /-- In `handleRead`, with the packets that are to be handed over next. -/
  | reading (packets : List Packet)
  | inMessage (rest : List Packet)
  /-- In the loop of `handleWrite`. -/
  | writing
  /-- `closeInLoop` is called; after it the thread goes on at `back`. -/
  | closeInLoop (back : Point)
  /-- `closed_` is set. -/
  | closing (back : Point)
  /-- The reset of the channel is queued. -/
  | resetQueued (back : Point)
  | inClose (back : Point)

namespace Point

/-- The thread is in code that may call the functions of the session. -/
def callable : Point → Bool
  | .idle => true
  | .inMessage _ => true
  | .inClose _ => true
  | _ => false

/-- `closed_` is set, and the close callback is not called yet. -/
def closes : Point → Bool
  | .closing _ => true
  | .resetQueued _ => true
  | _ => false

end Point

/-- A session, its loop, and the tasks that other threads are about to queue. -/
structure Threads (ι κ : Type) where
  loop : EventLoop ι (Task ι) κ
  session : Session
  point : Point := .idle
  calls : ι → Option (Task ι) := fun _ => none

namespace Threads

variable {ι κ : Type}

/-- The loop thread calls `closeInLoop`, and goes on at `back`. -/
def callClose (threads : Threads ι κ) (back : Point) : Threads ι κ :=
  { threads with point := .closeInLoop back }

/-- `sendEncodedInLoop`, with the status it returns. -/
def deliver (threads : Threads ι κ) (encoded : Bytes) : Except Error Unit × Threads ι κ :=
  match threads.session.sendEncodedInLoop encoded with
  | .refused error => (.error error, threads)
  | .closes error => (.error error, threads.callClose threads.point)
  | .accepted session => (.ok (), { threads with session })

/-- `sendPacket` on the loop thread. -/
def sendHere (threads : Threads ι κ) (packet : Packet) : Except Error Unit × Threads ι κ :=
  match threads.session.sendPacket packet with
  | .refused error => (.error error, threads)
  | .tooLong error => (.error error, threads.callClose threads.point)
  | .encoded bytes => threads.deliver bytes

/-- The task that `sendPacket` queues on another thread. -/
def sendTask (caller : ι) : Sending → Option (Task ι)
  | .refused _ => none
  | .tooLong _ => some .close
  | .encoded bytes => some (.send caller bytes)

/-- The loop thread runs a task; a `send` has a status, which nobody reads. -/
def perform (threads : Threads ι κ) : Task ι → Except Error Unit × Threads ι κ
  | .start => (.ok (), { threads with session := threads.session.startInLoop })
  | .send _ encoded => threads.deliver encoded
  | .close => (.ok (), threads.callClose threads.point)
  | .resetChannel => (.ok (), { threads with session := threads.session.resetChannel })
  | .unrelated => (.ok (), threads)

/-- The loop of `handleRead` after a call of `read`. -/
def afterRead (threads : Threads ι κ) : ReadResult → Threads ι κ
  | .bytes chunk =>
    let fed := threads.session.decoder.feedBytes chunk
    let threads := { threads with session := { threads.session with decoder := fed.decoder } }
    match fed.status with
    | .error _ => threads.callClose .idle
    | .ok () => { threads with point := .reading fed.output }
  | .endOfStream => threads.callClose .idle
  | .interrupted => threads
  | .wouldBlock => { threads with point := .idle }
  | .failed => threads.callClose .idle

/-- The loop of `handleWrite` after a call of `write`. -/
def afterWrite (threads : Threads ι κ) : WriteResult → Threads ι κ
  | .wrote bytes =>
    match threads.session.outputBuffer.retrieve bytes.length with
    | .error _ => threads.callClose .idle
    | .ok buffer => { threads with session := { threads.session with outputBuffer := buffer } }
  | .zero => { threads with session := threads.session.finishWrite, point := .idle }
  | .interrupted => threads
  | .wouldBlock => { threads with session := threads.session.finishWrite, point := .idle }
  | .failed => threads.callClose .idle

end Threads

inductive Label (ι κ : Type) where
  /-- The loop goes on, or a thread is in a call of the loop, for others or to wake it. -/
  | loop (label : EventLoop.Label ι (Task ι) κ)
  /-- Another thread calls `sendPacket`. -/
  | send (caller : ι) (packet : Packet)
  /-- Another thread calls `start` or `close`. -/
  | request (caller : ι) (task : Task ι)
  | queue (caller : ι) (task : Task ι)
  | run (task : Task ι) (status : Except Error Unit)
  /-- The loop thread calls `sendPacket`, `start` or `close`. -/
  | sendHere (packet : Packet) (status : Except Error Unit)
  | startHere
  | closeHere
  | handleRead
  | read (result : ReadResult)
  | message (packet : Packet)
  | messageEnds (ending : Ending)
  | readEnds
  | handleWrite
  | write (result : WriteResult)
  | writeEnds
  /-- The close callback or the error callback of the channel. -/
  | hangUp
  /-- `closed_.exchange(true)` in `closeInLoop`, for the first time and later. -/
  | close
  | closeAgain
  | queueReset
  | closeCallback
  | closeEnds (ending : Ending)

namespace Threads

variable {ι κ : Type}

/-- A step of the loop that leaves the tasks of the session alone. -/
def Unrelated (label : EventLoop.Label ι (Task ι) κ) : Prop :=
  ∀ task, label.pushed? = some task ∨ label.ran? = some task → task = .unrelated

/-- The loop thread is in the callback of a channel. -/
def InCallback (threads : Threads ι κ) : Prop := ∃ rest, threads.loop.point = .inCallback rest

inductive Step [DecidableEq ι] (threads : Threads ι κ) : Label ι κ → Threads ι κ → Prop where
  | loop {label : EventLoop.Label ι (Task ι) κ} {after : EventLoop ι (Task ι) κ}
      (taken : EventLoop.Step threads.loop label after) (unrelated : Unrelated label)
      (free : label.isCall = false → threads.point = .idle) :
      Step threads (.loop label) { threads with loop := after }
  | send {caller : ι} {packet : Packet} (idle : threads.calls caller = none)
      (free : threads.loop.calls (.other caller) = .idle) :
      Step threads (.send caller packet) { threads with
        calls := update threads.calls caller
          (sendTask caller (threads.session.sendPacket packet)) }
  | request {caller : ι} {task : Task ι} (idle : threads.calls caller = none)
      (free : threads.loop.calls (.other caller) = .idle)
      (kind : task = .start ∨ task = .close) :
      Step threads (.request caller task) { threads with
        calls := update threads.calls caller (some task) }
  | queue {caller : ι} {task : Task ι} {after : EventLoop ι (Task ι) κ}
      (call : threads.calls caller = some task)
      (taken : EventLoop.Step threads.loop (.push (.other caller) task) after) :
      Step threads (.queue caller task) { threads with
        loop := after, calls := update threads.calls caller none }
  | run {task : Task ι} {loop : EventLoop ι (Task ι) κ} {status : Except Error Unit}
      {after : Threads ι κ} (point : threads.point = .idle)
      (taken : EventLoop.Step threads.loop (.run task) loop)
      (performs : perform { threads with loop } task = (status, after)) :
      Step threads (.run task status) after
  | sendHere {packet : Packet} {status : Except Error Unit} {after : Threads ι κ}
      (may : threads.loop.MayCall .owner) (point : threads.point.callable = true)
      (sends : threads.sendHere packet = (status, after)) :
      Step threads (.sendHere packet status) after
  | startHere (may : threads.loop.MayCall .owner) (point : threads.point.callable = true) :
      Step threads .startHere { threads with session := threads.session.startInLoop }
  | closeHere (may : threads.loop.MayCall .owner) (point : threads.point.callable = true) :
      Step threads .closeHere (threads.callClose threads.point)
  | handleRead (callback : threads.InCallback) (point : threads.point = .idle)
      (ready : threads.session.Ready) :
      Step threads .handleRead { threads with point := .reading [] }
  | read {result : ReadResult} (point : threads.point = .reading [])
      (fd : threads.session.fd = true)
      (fits : ∀ chunk, result = .bytes chunk → chunk ≠ [] ∧ chunk.length ≤ kReadBufferSize) :
      Step threads (.read result) (threads.afterRead result)
  | message {packet : Packet} {rest : List Packet}
      (point : threads.point = .reading (packet :: rest))
      (isOpen : threads.session.closed = false) :
      Step threads (.message packet) { threads with point := .inMessage rest }
  -- What a callback throws is caught by the loop, outside `handleRead`.
  | messageEnds {rest : List Packet} {ending : Ending}
      (point : threads.point = .inMessage rest) (idle : threads.loop.calls .owner = .idle) :
      Step threads (.messageEnds ending) { threads with
        point := if ending = .returned then .reading rest else .idle }
  | readEnds {packets : List Packet} (point : threads.point = .reading packets)
      (stops : if packets = [] then threads.session.fd = false
        else threads.session.closed = true) :
      Step threads .readEnds { threads with point := .idle }
  | handleWrite (callback : threads.InCallback) (point : threads.point = .idle)
      (ready : threads.session.Ready) :
      Step threads .handleWrite { threads with point := .writing }
  | write {result : WriteResult} (point : threads.point = .writing)
      (more : threads.session.pending ≠ [])
      (takes : ∀ bytes, result = .wrote bytes → bytes ≠ [] ∧ bytes <+: threads.session.pending) :
      Step threads (.write result) (threads.afterWrite result)
  | writeEnds (point : threads.point = .writing) (done : threads.session.pending = []) :
      Step threads .writeEnds { threads with
        session := threads.session.finishWrite, point := .idle }
  | hangUp (callback : threads.InCallback) (point : threads.point = .idle) :
      Step threads .hangUp (threads.callClose .idle)
  | close {back : Point} (point : threads.point = .closeInLoop back)
      (isOpen : threads.session.closed = false) :
      Step threads .close { threads with
        session := threads.session.shutDown, point := .closing back }
  | closeAgain {back : Point} (point : threads.point = .closeInLoop back)
      (isClosed : threads.session.closed = true) :
      Step threads .closeAgain { threads with point := back }
  | queueReset {back : Point} {after : EventLoop ι (Task ι) κ}
      (point : threads.point = .closing back)
      (taken : EventLoop.Step threads.loop (.push .owner .resetChannel) after) :
      Step threads .queueReset { threads with loop := after, point := .resetQueued back }
  | closeCallback {back : Point} (point : threads.point = .resetQueued back)
      (idle : threads.loop.calls .owner = .idle) :
      Step threads .closeCallback { threads with point := .inClose back }
  | closeEnds {back : Point} {ending : Ending} (point : threads.point = .inClose back)
      (idle : threads.loop.calls .owner = .idle) :
      Step threads (.closeEnds ending) { threads with
        session := { threads.session with
          state := if ending = .returned then .closed else threads.session.state }
        point := back }

/-- A session that was just constructed, with its mark set, on a loop in any state. -/
def created (loop : EventLoop ι (Task ι) κ) (outputHighWaterMark : Nat) : Threads ι κ where
  loop
  session := { outputHighWaterMark }

/-- A loop whose thread is in the callback of a channel, and the encoding of an empty packet:
the smallest runs of a session. -/
def callbackLoop : EventLoop Unit (Task Unit) Unit := { point := .inCallback [] }

def emptyFrame : Bytes := [0x4C, 0x49, 0x4D, 0x31, 1, 0, 0, 0, 0, 0, 0, 0, 0, 0, 0, 0, 0, 0, 0, 0]

theorem encodePacket_empty : encodePacket {} = .ok emptyFrame := rfl

end Threads

end Session

end LiteIM
