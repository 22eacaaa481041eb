/-
# The server

`TcpServer` accepts connections on a base loop and hands each to one of its I/O loops, or
keeps it on the base loop when there are none. A task on that loop creates the session and
puts it into the table of the server; the session is closed on its loop, whose thread then
takes it out of the table. `stop`, on the thread of the base loop, takes all sessions out
of the table, has each closed on its loop, and waits for the threads of the I/O loops.

What the threads share is `started_`, the table behind its mutex, and the loops; a step is
one access to one of them. Of a session only its life is kept here: whether `closed_` is set
and whether its close callback was called. Everything else it does, reading and writing and
the code of its callbacks, is code of others on the thread of its loop, which may close
sessions of that loop at any time.
-/

import LiteIM.Net.LoopQuit
import LiteIM.Net.SessionSteps

namespace LiteIM

open Foundation EventLoop Session Function

namespace TcpServer

/-- The base loop, and the I/O loops. -/
abbrev LoopId (n : Nat) := Option (Fin n)

/-- A thread that is not the one of the loop it calls: the thread of another loop, or one
outside. -/
inductive Caller (n : Nat) (σ : Type) where
  | loop (thread : LoopId n)
  | outside (thread : σ)
  deriving DecidableEq

/-- A thread of a loop as a user of a loop. -/
def user {n : Nat} {σ : Type} (thread loop : LoopId n) : User (Caller n σ) :=
  if thread = loop then .owner else .other (.loop thread)

/-- The tasks of the server in the queue of a loop. -/
inductive Task where
  /-- `createSessionInLoop`. -/
  | create
  /-- `closeInLoop` of a session. -/
  | close (id : Nat)
  | other
  deriving DecidableEq, Repr

/-- The life of a session: in `closing` its `closed_` is set, in `closed` its close callback
was called too. -/
inductive Life where
  | alive
  | closing
  | closed
  deriving DecidableEq, Repr

/-- A function of the server that a thread is in. -/
inductive Frame where
  /-- `createSessionInLoop` has seen `started_` and made the session. -/
  | made (id : Nat)
  /-- `closeInLoop` has set `closed_`. -/
  | closing (id : Nat)
  /-- The close callback has taken the session out of the table. -/
  | inCallback (id : Nat)
  /-- `stop`. -/
  | stopping
  deriving DecidableEq, Repr

/-- The function has called one that is still running. -/
def Frame.waits : Frame → Bool
  | .inCallback _ => true
  | .stopping => true
  | _ => false

/-- Where the thread of an I/O loop is in `threadFunc`. -/
inductive Phase where
  | starting
  | looping
  | ended
  deriving DecidableEq, Repr

/-- A loop and its thread; `stack` holds the functions of the server that the thread is in,
the innermost first. -/
structure Worker (n : Nat) (σ κ : Type) where
  loop : EventLoop (Caller n σ) Task κ := {}
  stack : List Frame := []
  phase : Phase := .looping

/-- The thread runs code of others, which may call the server. -/
def Worker.Free {n : Nat} {σ κ : Type} (worker : Worker n σ κ) : Prop :=
  worker.loop.point.foreign = true ∧ worker.phase = .looping ∧
    (worker.stack = [] ∨ ∃ id rest, worker.stack = .inCallback id :: rest)

/-- Where `stop` is. -/
inductive StopPoint (n : Nat) where
  | notCalled
  /-- `started_` is false. -/
  | collecting
  /-- The sessions still to be closed. -/
  | closeAll (rest : List Nat)
  /-- The threads still to be stopped. -/
  | joinAll (rest : List (Fin n))
  /-- The loop of a thread was told to quit. -/
  | joining (thread : Fin n) (rest : List (Fin n))
  | returned

namespace StopPoint

variable {n : Nat}

/-- The table was emptied. -/
def collected : StopPoint n → Bool
  | .notCalled => false
  | .collecting => false
  | _ => true

/-- The sessions that are still to be closed. -/
def remaining : StopPoint n → List Nat
  | .closeAll rest => rest
  | _ => []

/-- The threads that are still to be waited for, once no session is left to close. -/
def unjoined : StopPoint n → Option (List (Fin n))
  | .joinAll rest => some rest
  | .joining thread rest => some (thread :: rest)
  | .returned => some []
  | _ => none

end StopPoint

end TcpServer

/-- A started server. `life` and `home` of a session that was not created say nothing. -/
structure TcpServer (n : Nat) (σ κ : Type) where
  workers : TcpServer.LoopId n → TcpServer.Worker n σ κ
  started : Bool := true
  table : List Nat := []
  nextId : Nat := 1
  life : Nat → Option TcpServer.Life := fun _ => none
  home : Nat → TcpServer.LoopId n := fun _ => none
  stop : TcpServer.StopPoint n := .notCalled

namespace TcpServer

variable {n : Nat} {σ κ : Type}

def setLoop (server : TcpServer n σ κ) (loop : LoopId n)
    (after : EventLoop (Caller n σ) Task κ) : TcpServer n σ κ :=
  { server with
    workers := update server.workers loop { server.workers loop with loop := after } }

def setStack (server : TcpServer n σ κ) (loop : LoopId n) (stack : List Frame) :
    TcpServer n σ κ :=
  { server with
    workers := update server.workers loop { server.workers loop with stack } }

def setPhase (server : TcpServer n σ κ) (thread : Fin n) (phase : Phase) : TcpServer n σ κ :=
  { server with
    workers := update server.workers (some thread)
      { server.workers (some thread) with phase } }

/-- `createSessionInLoop` up to the table. -/
def createSession (server : TcpServer n σ κ) (loop : LoopId n) : TcpServer n σ κ :=
  if server.started then
    { server.setStack loop (.made server.nextId :: (server.workers loop).stack) with
      nextId := server.nextId + 1
      life := update server.life server.nextId (some .alive)
      home := update server.home server.nextId loop }
  else server

/-- `closeInLoop` of a session up to its close callback. -/
def closeInLoop (server : TcpServer n σ κ) (loop : LoopId n) (id : Nat) : TcpServer n σ κ :=
  if server.life id = some .alive then
    { server.setStack loop (.closing id :: (server.workers loop).stack) with
      life := update server.life id (some .closing) }
  else server

/-- `removeSession`, in the close callback. -/
def removeSession (server : TcpServer n σ κ) (id : Nat) : TcpServer n σ κ :=
  { server with
    table := server.table.filter (· ≠ id)
    life := update server.life id (some .closed) }

/-- The thread is in no call of a loop. -/
def Idle (server : TcpServer n σ κ) (thread : LoopId n) : Prop :=
  ∀ loop, (server.workers loop).loop.calls (user thread loop) = .idle

/-- `stop` goes on: what it called has returned. -/
def Stopping (server : TcpServer n σ κ) (point : StopPoint n) : Prop :=
  server.stop = point ∧ (∃ rest, (server.workers none).stack = .stopping :: rest) ∧
    server.Idle none

/-- What a loop and its users do without the server. `close` of a session is queued on its
loop; only `stop` tells an I/O loop to quit. -/
structure Apart (server : TcpServer n σ κ) (loop : LoopId n)
    (label : Label (Caller n σ) Task κ) : Prop where
  pushes : ∀ task, label.pushed? = some task → task ≠ .create
  closes : ∀ id, label.pushed? = some (.close id) → server.home id = loop ∧ id < server.nextId
  runs : ∀ task, label.ran? = some task → task = .other
  quits : label.isQuit = true → loop = none
  moves : label.isCall = false →
    (server.workers loop).stack = [] ∧ (server.workers loop).phase = .looping
  stays : loop ≠ none → label ≠ .loop ∧ label ≠ .loopReturns ∧ label ≠ .pollFails

inductive Label (n : Nat) (σ κ : Type) where
  | loop (loop : LoopId n) (label : EventLoop.Label (Caller n σ) Task κ)
  | threadStarts (thread : Fin n)
  | threadEnds (thread : Fin n)
  /-- `poll` fails, and the thread ends. -/
  | threadFails (thread : Fin n)
  /-- `handleNewConnection`. -/
  | accept (loop : LoopId n)
  | runCreate (loop : LoopId n)
  | runClose (loop : LoopId n) (id : Nat)
  | insert (loop : LoopId n) (id : Nat)
  /-- Code on the thread of a session closes it. -/
  | closeHere (loop : LoopId n) (id : Nat)
  | remove (loop : LoopId n) (id : Nat)
  | callbackEnds (loop : LoopId n) (id : Nat)
  | stop
  | collect
  /-- `stop` closes a session of the base loop at once. -/
  | stopCloses (id : Nat)
  /-- `stop` queues the close of a session of an I/O loop. -/
  | stopQueues (id : Nat)
  | allClosed
  | quitThread (thread : Fin n)
  /-- The thread has ended already. -/
  | skipThread (thread : Fin n)
  | join (thread : Fin n)
  | stopReturns

variable [DecidableEq σ]

inductive Step (server : TcpServer n σ κ) : Label n σ κ → TcpServer n σ κ → Prop where
  | loop {loop : LoopId n} {label : EventLoop.Label (Caller n σ) Task κ}
      {after : EventLoop (Caller n σ) Task κ}
      (taken : EventLoop.Step (server.workers loop).loop label after)
      (apart : server.Apart loop label) : Step server (.loop loop label) (server.setLoop loop after)
  | threadStarts {thread : Fin n} {after : EventLoop (Caller n σ) Task κ}
      (phase : (server.workers (some thread)).phase = .starting)
      (taken : EventLoop.Step (server.workers (some thread)).loop .loop after) :
      Step server (.threadStarts thread)
        ((server.setLoop (some thread) after).setPhase thread .looping)
  | threadEnds {thread : Fin n} {after : EventLoop (Caller n σ) Task κ}
      (stack : (server.workers (some thread)).stack = [])
      (phase : (server.workers (some thread)).phase = .looping)
      (taken : EventLoop.Step (server.workers (some thread)).loop .loopReturns after) :
      Step server (.threadEnds thread)
        ((server.setLoop (some thread) after).setPhase thread .ended)
  | threadFails {thread : Fin n} {after : EventLoop (Caller n σ) Task κ}
      (stack : (server.workers (some thread)).stack = [])
      (phase : (server.workers (some thread)).phase = .looping)
      (taken : EventLoop.Step (server.workers (some thread)).loop .pollFails after) :
      Step server (.threadFails thread)
        ((server.setLoop (some thread) after).setPhase thread .ended)
  | accept {loop : LoopId n} {after : EventLoop (Caller n σ) Task κ}
      (free : (server.workers none).Free) (idle : server.Idle none)
      (started : server.started = true) (next : loop = none ↔ n = 0)
      (taken : EventLoop.Step (server.workers loop).loop (.push (user none loop) .create) after) :
      Step server (.accept loop) (server.setLoop loop after)
  | runCreate {loop : LoopId n} {after : EventLoop (Caller n σ) Task κ}
      (stack : (server.workers loop).stack = []) (phase : (server.workers loop).phase = .looping)
      (taken : EventLoop.Step (server.workers loop).loop (.run .create) after) :
      Step server (.runCreate loop) ((server.setLoop loop after).createSession loop)
  | runClose {loop : LoopId n} {id : Nat} {after : EventLoop (Caller n σ) Task κ}
      (stack : (server.workers loop).stack = []) (phase : (server.workers loop).phase = .looping)
      (taken : EventLoop.Step (server.workers loop).loop (.run (.close id)) after) :
      Step server (.runClose loop id) ((server.setLoop loop after).closeInLoop loop id)
  | insert {loop : LoopId n} {id : Nat} {rest : List Frame}
      (stack : (server.workers loop).stack = .made id :: rest) :
      Step server (.insert loop id)
        { server.setStack loop rest with table := id :: server.table }
  | closeHere {loop : LoopId n} {id : Nat} (free : (server.workers loop).Free)
      (home : server.home id = loop) (known : id < server.nextId) :
      Step server (.closeHere loop id) (server.closeInLoop loop id)
  | remove {loop : LoopId n} {id : Nat} {rest : List Frame}
      (stack : (server.workers loop).stack = .closing id :: rest) :
      Step server (.remove loop id)
        ((server.setStack loop (.inCallback id :: rest)).removeSession id)
  | callbackEnds {loop : LoopId n} {id : Nat} {rest : List Frame}
      (stack : (server.workers loop).stack = .inCallback id :: rest) :
      Step server (.callbackEnds loop id) (server.setStack loop rest)
  | stop (free : (server.workers none).Free) (idle : server.Idle none)
      (first : server.stop = .notCalled) :
      Step server .stop
        { server.setStack none (.stopping :: (server.workers none).stack) with
          started := false, stop := .collecting }
  | collect (stopping : server.Stopping .collecting) :
      Step server .collect { server with table := [], stop := .closeAll server.table }
  | stopCloses {id : Nat} {rest : List Nat} (stopping : server.Stopping (.closeAll (id :: rest)))
      (home : server.home id = none) :
      Step server (.stopCloses id) { server.closeInLoop none id with stop := .closeAll rest }
  | stopQueues {id : Nat} {rest : List Nat} {after : EventLoop (Caller n σ) Task κ}
      (stopping : server.Stopping (.closeAll (id :: rest))) (home : server.home id ≠ none)
      (taken : EventLoop.Step (server.workers (server.home id)).loop
        (.push (user none (server.home id)) (.close id)) after) :
      Step server (.stopQueues id)
        { server.setLoop (server.home id) after with stop := .closeAll rest }
  | allClosed (stopping : server.Stopping (.closeAll [])) :
      Step server .allClosed { server with stop := .joinAll (List.finRange n) }
  | quitThread {thread : Fin n} {rest : List (Fin n)} {after : EventLoop (Caller n σ) Task κ}
      (stopping : server.Stopping (.joinAll (thread :: rest)))
      (phase : (server.workers (some thread)).phase ≠ .ended)
      (taken : EventLoop.Step (server.workers (some thread)).loop
        (.quit (user none (some thread))) after) :
      Step server (.quitThread thread)
        { server.setLoop (some thread) after with stop := .joining thread rest }
  | skipThread {thread : Fin n} {rest : List (Fin n)}
      (stopping : server.Stopping (.joinAll (thread :: rest)))
      (phase : (server.workers (some thread)).phase = .ended) :
      Step server (.skipThread thread) { server with stop := .joining thread rest }
  | join {thread : Fin n} {rest : List (Fin n)}
      (stopping : server.Stopping (.joining thread rest))
      (phase : (server.workers (some thread)).phase = .ended) :
      Step server (.join thread) { server with stop := .joinAll rest }
  | stopReturns {rest : List Frame} (stopping : server.Stopping (.joinAll []))
      (stack : (server.workers none).stack = .stopping :: rest) :
      Step server .stopReturns { server.setStack none rest with stop := .returned }

/-- A server that was just started on a base loop in any state. -/
def justStarted (n : Nat) (base : EventLoop (Caller n σ) Task κ) : TcpServer n σ κ where
  workers
    | none => { loop := base }
    | some _ => { phase := .starting }

/-! ## The life of a session -/

section Life

variable {ι κ : Type} [DecidableEq ι] {threads after : Threads ι κ}
  {label : Session.Label ι κ} {past : List (Session.Label ι κ)}

/-- What the server keeps of a session. -/
def lifeOf (threads : Threads ι κ) : Life :=
  if threads.session.closed then if threads.point.closes then .closing else .closed else .alive

/-- A session goes from one life to the next, in `closeInLoop` and at its close callback;
everything else it does leaves it where it is. -/
theorem lifeOf_step (hcalls : Session.Threads.CallsBack past threads) (hplaced : threads.Placed)
    (htaken : Session.Threads.Step threads label after) :
    lifeOf threads = .alive ∧ label = .close ∧ lifeOf after = .closing ∨
      lifeOf threads = .closing ∧ label.isCloseCallback = true ∧ lifeOf after = .closed ∨
      lifeOf after = lifeOf threads := by
  by_cases hcallback : label.isCloseCallback = true
  · refine Or.inr (Or.inl ?_)
    cases htaken with
    | closeCallback point =>
      have hclosed : threads.session.closed = true := by
        rw [Threads.CallsBack, point] at hcalls
        cases hsession : threads.session.closed with
        | true => rfl
        | false =>
          rw [hsession] at hcalls
          cases hcalls
      refine ⟨?_, rfl, ?_⟩
      · rw [lifeOf, hclosed, point]
        rfl
      · rw [lifeOf, hclosed]
        rfl
    | _ => cases hcallback
  by_cases hclose : label = .close
  · subst hclose
    cases htaken with
    | close point isOpen =>
      refine Or.inl ⟨?_, rfl, rfl⟩
      rw [lifeOf, isOpen]
      rfl
  · refine Or.inr (Or.inr ?_)
    rw [Bool.not_eq_true] at hcallback
    rw [lifeOf, lifeOf, htaken.closed_eq hplaced hclose, htaken.closes_eq hplaced hcallback hclose]

end Life

end TcpServer

end LiteIM
