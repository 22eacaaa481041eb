/-
# Connection pools

`MySqlPool` and `RedisPool` are the same code over two kinds of connections. A pool owns its
connections for good; what moves is who may use one: the idle queue, a guard, or a call that
has taken a connection from the one and not yet given it to the other. `acquire` looks after
a connection without the lock and asks again whether the pool was closed before it lends the
connection; `close` empties the queue under the lock and closes the connections after it.

A step is a critical section, or what a call does to its own guard or connection between two
of them. Guards have no lock of their own: no two calls use one guard at the same time.
-/

import LiteIM.Base.Status
import LiteIM.Foundation.Custody
import LiteIM.Foundation.Transition
import Mathlib.Data.List.FinRange

namespace LiteIM

open Foundation Function

/-- The texts in which the two pools differ. -/
structure PoolTexts where
  notStarted : String
  closed : String
  acquireTimeout : String
  alreadyStarted : String
  emptySize : String
  negativeTimeout : String
  guardOwns : String

inductive PoolKind where
  | mySql
  | redis
  deriving DecidableEq, Repr

def PoolKind.texts : PoolKind → PoolTexts
  | .mySql =>
    { notStarted := "MySQL connection pool is not started"
      closed := "MySQL connection pool is closed"
      acquireTimeout := "timed out waiting for a MySQL connection"
      alreadyStarted := "MySQL connection pool has already started"
      emptySize := "MySQL connection pool size must be greater than zero"
      negativeTimeout := "MySQL connection acquire timeout must not be negative"
      guardOwns := "ConnectionGuard already owns a MySQL connection" }
  | .redis =>
    { notStarted := "Redis connection pool is not started"
      closed := "Redis connection pool is closed"
      acquireTimeout := "timed out waiting for a Redis connection"
      alreadyStarted := "Redis connection pool has already started"
      emptySize := "Redis connection pool size must be greater than zero"
      negativeTimeout := "Redis connection acquire timeout must not be negative"
      guardOwns := "RedisConnectionGuard already owns a Redis connection" }

namespace PoolTexts

variable (texts : PoolTexts)

def poolNotStartedStatus : Error := ⟨.invalidArgument, texts.notStarted⟩

def poolClosedStatus : Error := ⟨.invalidArgument, texts.closed⟩

def acquireTimeoutStatus : Error := ⟨.ioError, texts.acquireTimeout⟩

end PoolTexts

/-- Where a thread is in the code of a pool or a guard. -/
inductive PoolPoint (Guard : Type) (size : Nat) where
  | outside
  /-- `acquire` has been called. -/
  | acquiring (guard : Guard) (timeoutMs : Int)
  /-- In `wait_for`. -/
  | waiting (guard : Guard)
  /-- Before `ensureConnectionReady`, with the connection that was idle. -/
  | ensuring (guard : Guard) (connection : Fin size)
  /-- Before the second look at whether the pool is closed. -/
  | ensured (guard : Guard) (connection : Fin size)
  /-- Before `guard.reset(state_, connection)`. -/
  | lending (guard : Guard) (connection : Fin size)
  /-- Before `acquire` returns an error. -/
  | failing (status : Error)
  /-- In `releaseConnection`, and what comes after it. -/
  | releasing (connection : Fin size) (next : PoolPoint Guard size)
  /-- In the move assignment of a guard, before or after its `reset`. -/
  | assigning (target source : Guard)
  /-- `close` has taken these connections from the queue. -/
  | closing (connections : List (Fin size))

/-- The connections a thread has in its hands. -/
def PoolPoint.held {Guard : Type} {size : Nat} : PoolPoint Guard size → List (Fin size)
  | .outside | .acquiring _ _ | .waiting _ | .failing _ | .assigning _ _ => []
  | .ensuring _ connection | .ensured _ connection | .lending _ connection => [connection]
  | .releasing connection next => connection :: next.held
  | .closing connections => connections

/-- A pool with the guards and the threads that use it. -/
structure ConnectionPool (Thread Guard : Type) (size : Nat) where
  started : Bool := false
  closed : Bool := false
  idle : List (Fin size) := []
  connected : Fin size → Bool := fun _ => false
  guards : Guard → Option (Fin size) := fun _ => none
  points : Thread → PoolPoint Guard size := fun _ => .outside

namespace ConnectionPool

variable {Thread Guard : Type} [DecidableEq Thread] [DecidableEq Guard] {size : Nat}

/-- `connect` of each connection in turn, up to the first that fails. -/
def start (texts : PoolTexts) (connects : Fin size → Except Error Unit)
    (pool : ConnectionPool Thread Guard size) :
    Except Error Unit × ConnectionPool Thread Guard size :=
  if pool.started then (Status.error .invalidArgument texts.alreadyStarted, pool)
  else if pool.closed then (.error texts.poolClosedStatus, pool)
  else if size = 0 then (Status.error .invalidArgument texts.emptySize, pool)
  else
    match (List.finRange size).mapM connects with
    | .error status => (.error status, pool)
    | .ok _ =>
      (.ok (), { pool with
        connected := fun _ => true
        idle := List.finRange size
        started := true })

/-- Why `acquire` refuses before it waits. -/
def refusal (texts : PoolTexts) (pool : ConnectionPool Thread Guard size) (guard : Guard)
    (timeoutMs : Int) : Option Error :=
  if timeoutMs < 0 then some ⟨.invalidArgument, texts.negativeTimeout⟩
  else if (pool.guards guard).isSome then some ⟨.invalidArgument, texts.guardOwns⟩
  else if pool.started = false then some texts.poolNotStartedStatus
  else if pool.closed then some texts.poolClosedStatus
  else none

/-- `close` of a connection, or what else becomes of it. -/
def setConnected (pool : ConnectionPool Thread Guard size) (connection : Fin size)
    (connected : Bool) : ConnectionPool Thread Guard size :=
  { pool with connected := update pool.connected connection connected }

/-- `releaseConnection`. -/
def releaseConnection (pool : ConnectionPool Thread Guard size) (connection : Fin size) :
    ConnectionPool Thread Guard size :=
  if pool.started && !pool.closed then { pool with idle := pool.idle ++ [connection] }
  else pool.setConnected connection false

def setPoint (pool : ConnectionPool Thread Guard size) (thread : Thread)
    (point : PoolPoint Guard size) : ConnectionPool Thread Guard size :=
  { pool with points := update pool.points thread point }

def setGuard (pool : ConnectionPool Thread Guard size) (guard : Guard)
    (connection : Option (Fin size)) : ConnectionPool Thread Guard size :=
  { pool with guards := update pool.guards guard connection }

/-- `state_ = std::move(other.state_)` and
`connection_ = std::exchange(other.connection_, nullptr)`. -/
def moveGuard (pool : ConnectionPool Thread Guard size) (target source : Guard) :
    ConnectionPool Thread Guard size :=
  (pool.setGuard source none).setGuard target (pool.guards source)

/-- `ensureConnectionReady`: a connection that is not connected is connected, one that is
is asked to answer first. `connect` closes what it could not connect. -/
inductive EnsuresReady (connected : Bool) : Except Error Unit → Bool → Prop where
  | answers (alive : connected = true) : EnsuresReady connected (.ok ()) true
  | connects : EnsuresReady connected (.ok ()) true
  | fails (status : Error) : EnsuresReady connected (.error status) false

inductive PoolLabel (Thread Guard : Type) (size : Nat) where
  | acquire (thread : Thread) (guard : Guard) (timeoutMs : Int)
  | acquired (thread : Thread) (result : Except Error (Fin size))
  | closeReturned (thread : Thread)
  | other

inductive Step (texts : PoolTexts) (pool : ConnectionPool Thread Guard size) :
    PoolLabel Thread Guard size → ConnectionPool Thread Guard size → Prop where
  | acquire {thread : Thread} (guard : Guard) (timeoutMs : Int)
      (point : pool.points thread = .outside) :
      Step texts pool (.acquire thread guard timeoutMs)
        (pool.setPoint thread (.acquiring guard timeoutMs))
  | refused {thread : Thread} {guard : Guard} {timeoutMs : Int} {status : Error}
      (point : pool.points thread = .acquiring guard timeoutMs)
      (refused : pool.refusal texts guard timeoutMs = some status) :
      Step texts pool .other (pool.setPoint thread (.failing status))
  | waits {thread : Thread} {guard : Guard} {timeoutMs : Int}
      (point : pool.points thread = .acquiring guard timeoutMs)
      (admitted : pool.refusal texts guard timeoutMs = none) :
      Step texts pool .other (pool.setPoint thread (.waiting guard))
  | timedOut {thread : Thread} {guard : Guard} (point : pool.points thread = .waiting guard)
      (isOpen : pool.closed = false) (empty : pool.idle = []) :
      Step texts pool .other (pool.setPoint thread (.failing texts.acquireTimeoutStatus))
  | wokenClosed {thread : Thread} {guard : Guard} (point : pool.points thread = .waiting guard)
      (closed : pool.closed = true) :
      Step texts pool .other (pool.setPoint thread (.failing texts.poolClosedStatus))
  | taken {thread : Thread} {guard : Guard} {connection : Fin size} {rest : List (Fin size)}
      (point : pool.points thread = .waiting guard) (isOpen : pool.closed = false)
      (front : pool.idle = connection :: rest) :
      Step texts pool .other
        ({ pool with idle := rest }.setPoint thread (.ensuring guard connection))
  | ensured {thread : Thread} {guard : Guard} {connection : Fin size} {connected : Bool}
      (point : pool.points thread = .ensuring guard connection)
      (ready : EnsuresReady (pool.connected connection) (.ok ()) connected) :
      Step texts pool .other
        ((pool.setConnected connection connected).setPoint thread (.ensured guard connection))
  | notEnsured {thread : Thread} {guard : Guard} {connection : Fin size} {connected : Bool}
      {status : Error} (point : pool.points thread = .ensuring guard connection)
      (failed : EnsuresReady (pool.connected connection) (.error status) connected) :
      Step texts pool .other
        ((pool.setConnected connection connected).setPoint thread
          (.releasing connection (.failing status)))
  | closedMeanwhile {thread : Thread} {guard : Guard} {connection : Fin size}
      (point : pool.points thread = .ensured guard connection) (closed : pool.closed = true) :
      Step texts pool .other
        ((pool.setConnected connection false).setPoint thread (.failing texts.poolClosedStatus))
  | stillOpen {thread : Thread} {guard : Guard} {connection : Fin size}
      (point : pool.points thread = .ensured guard connection) (isOpen : pool.closed = false) :
      Step texts pool .other (pool.setPoint thread (.lending guard connection))
  | lendResets {thread : Thread} {guard : Guard} {connection old : Fin size}
      (point : pool.points thread = .lending guard connection)
      (owns : pool.guards guard = some old) :
      Step texts pool .other
        ((pool.setGuard guard none).setPoint thread (.releasing old (.lending guard connection)))
  | lends {thread : Thread} {guard : Guard} {connection : Fin size}
      (point : pool.points thread = .lending guard connection)
      (empty : pool.guards guard = none) :
      Step texts pool (.acquired thread (.ok connection))
        ((pool.setGuard guard (some connection)).setPoint thread .outside)
  | fails {thread : Thread} {status : Error} (point : pool.points thread = .failing status) :
      Step texts pool (.acquired thread (.error status)) (pool.setPoint thread .outside)
  | releases {thread : Thread} {connection : Fin size} {next : PoolPoint Guard size}
      (point : pool.points thread = .releasing connection next) :
      Step texts pool .other ((pool.releaseConnection connection).setPoint thread next)
  /-- The `reset` of a guard, or its destructor. -/
  | reset {thread : Thread} {guard : Guard} {connection : Fin size}
      (point : pool.points thread = .outside) (owns : pool.guards guard = some connection) :
      Step texts pool .other
        ((pool.setGuard guard none).setPoint thread (.releasing connection .outside))
  /-- The move constructor of a guard. -/
  | moveConstruct {thread : Thread} {target source : Guard}
      (point : pool.points thread = .outside) (fresh : pool.guards target = none)
      (distinct : source ≠ target) :
      Step texts pool .other ((pool.moveGuard target source).setPoint thread .outside)
  | assign {thread : Thread} {target source : Guard} (point : pool.points thread = .outside)
      (distinct : source ≠ target) :
      Step texts pool .other (pool.setPoint thread (.assigning target source))
  | assignResets {thread : Thread} {target source : Guard} {old : Fin size}
      (point : pool.points thread = .assigning target source)
      (owns : pool.guards target = some old) :
      Step texts pool .other
        ((pool.setGuard target none).setPoint thread (.releasing old (.assigning target source)))
  | assigned {thread : Thread} {target source : Guard}
      (point : pool.points thread = .assigning target source)
      (empty : pool.guards target = none) :
      Step texts pool .other ((pool.moveGuard target source).setPoint thread .outside)
  /-- Who holds a guard may do anything with the connection itself. -/
  | uses {guard : Guard} {connection : Fin size} (connected : Bool)
      (owns : pool.guards guard = some connection) :
      Step texts pool .other (pool.setConnected connection connected)
  | closeAgain {thread : Thread} (point : pool.points thread = .outside)
      (closed : pool.closed = true) : Step texts pool (.closeReturned thread) pool
  | close {thread : Thread} (point : pool.points thread = .outside)
      (isOpen : pool.closed = false) :
      Step texts pool .other
        ({ pool with closed := true, idle := [] }.setPoint thread (.closing pool.idle))
  | closesIdle {thread : Thread} {connection : Fin size} {rest : List (Fin size)}
      (point : pool.points thread = .closing (connection :: rest)) :
      Step texts pool .other
        ((pool.setConnected connection false).setPoint thread (.closing rest))
  | closeReturns {thread : Thread} (point : pool.points thread = .closing []) :
      Step texts pool (.closeReturned thread) (pool.setPoint thread .outside)

end ConnectionPool

end LiteIM
