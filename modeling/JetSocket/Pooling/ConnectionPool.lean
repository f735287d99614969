import Mathlib.Algebra.Order.Ring.Rat
import JetSocket.Lib.Lock
import JetSocket.Lib.Multimap
import JetSocket.Lib.Semaphore
import JetSocket.Lib.TaskPool
import JetSocket.Lib.Transition
import JetSocket.State

/- The connection pool (`pool.py`, `ConnectionPool`) as a transition system: every call of
   `acquire`, `release` and `close`, and the two background loops, in any interleaving, each running
   from one suspension to the next. Cancellation, semaphore and lock are those of asyncio in
   Python 3.12.

   `states` is every WebSocket that an `acquire` has created, by number, with what the pool keeps of
   it. Of the WebSocket itself only its state is seen, which changes at any time (`moves`): what
   `connect` and `close` do inside is the manager's.

   A lock that is free, or a permit that is there, is taken without a suspension, and
   `manager.close()` in a terminal state returns without one. A cancelled task is resumed with
   `CancelledError`, which ends it, except that `manager.close()` may absorb it; the waits of
   `close` for the two loops absorb it too. `acquire_timeout` cancels an `acquire` that waits for
   its permit.

   Correspondence (Python ↔ Lean):
     `acquire`                ↔ `acquire`, `useIdle`, `dropDead`, `publish`
     `_get_idle_connection`, `_create_connection`, `_remove_connection`
                              ↔ `getIdleConnection`, `createConnection`, `removeConnection`
     `PooledConnection.release`, `release` ↔ `releaseLease`, `release`
     `close`                  ↔ `close`, `joinCleanupTask`, `closeAll`, `closed`
     `_health_check_loop`, `_cleanup_loop` ↔ `collects`, `sweep`, `closeNext`
     `__aenter__`             ↔ `start` -/
namespace JetSocket.Pooling
open TaskPool

structure ConnectionPoolConfig where
  maxConnections : Nat
  maxIdleTime : ℚ
  maxConnections_pos : 0 < maxConnections
  maxIdleTime_pos : 0 < maxIdleTime

/-- A `_PooledConnectionState`, with the state of its manager. -/
structure PooledConnectionState where
  uri : String
  manager : ConnectionState
  inUse : Bool
  lastUsedAt : ℚ
  deriving DecidableEq, Repr

/-- A `PooledConnection`. Whether the pool has had it back, by either method, and whether it was
handed out when `close` had returned, is kept for the proofs. -/
structure PooledConnection where
  state : Nat
  released : Bool
  givenBack : Bool
  late : Bool
  deriving DecidableEq, Repr

/-- What the loops have begun to close so far, and whether `close` has returned, is kept for the
proofs. -/
structure ConnectionPool where
  config : ConnectionPoolConfig
  now : ℚ
  states : List PooledConnectionState
  connections : Multimap String Nat
  semaphore : Semaphore
  lock : Lock
  closed : Bool
  healthCheckTask : Option Nat
  cleanupTask : Option Nat
  leases : List PooledConnection
  touched : List Nat
  closeReturned : Bool

inductive Loop where
  | healthCheck
  | cleanup
  deriving DecidableEq, Repr

/-- What is done under the lock. -/
inductive Body where
  | idle (uri : String)
  | dead (uri : String) (c : Nat)
  | publish (uri : String) (c : Nat)
  | remove (c : Nat)
  | scan (loop : Loop)
  | removeThen (loop : Loop) (c : Nat) (rest : List Nat)
  | closeAll
  deriving DecidableEq, Repr

/-- What follows when a connection has been closed. -/
inductive Next where
  | remove
  | sweep (loop : Loop) (rest : List Nat)
  | nothing
  deriving DecidableEq, Repr

/-- Where a task is suspended. -/
inductive Point where
  | waitPermit (uri : String)
  | locking (b : Body)
  | connecting (uri : String) (c : Nat)
  | closing (c : Nat) (next : Next)
  | sleeping (loop : Loop)
  | joinHealth (task : Nat)
  | joinCleanup (task : Nat)
  | gathering (children : List Nat)
  | done
  deriving DecidableEq, Repr

/-- `cancelled` is a cancellation that the task has yet to see. -/
structure Task where
  point : Point
  cancelled : Bool := false
  deriving DecidableEq, Repr

/-- Where a task gets in one go, the tasks it starts, and the one it cancels. -/
structure Run where
  pool : ConnectionPool
  point : Point
  spawned : List Task := []
  cancels : Option Nat := none

namespace ConnectionPool

def new (config : ConnectionPoolConfig) : ConnectionPool :=
  { config, now := 0, states := [], connections := [],
    semaphore := Semaphore.new config.maxConnections, lock := Lock.new, closed := false,
    healthCheckTask := none, cleanupTask := none, leases := [], touched := [],
    closeReturned := false }

/-- `state.manager.state`. -/
def manager (p : ConnectionPool) (c : Nat) : ConnectionState :=
  (p.states[c]?).elim .idle PooledConnectionState.manager

def uri (p : ConnectionPool) (c : Nat) : String :=
  (p.states[c]?).elim "" PooledConnectionState.uri

def inUse (p : ConnectionPool) (c : Nat) : Bool :=
  (p.states[c]?).elim false PooledConnectionState.inUse

/-- `idle_time`. -/
def idleTime (p : ConnectionPool) (c : Nat) : ℚ :=
  p.now - (p.states[c]?).elim 0 PooledConnectionState.lastUsedAt

/-- All connections that are listed. -/
def listed (p : ConnectionPool) : List Nat := p.connections.values

/-- The states in which `acquire` takes an idle connection. -/
def usable : ConnectionState → Bool
  | .connected | .reconnecting | .backingOff => true
  | _ => false

def modifyState (p : ConnectionPool) (c : Nat)
    (f : PooledConnectionState → PooledConnectionState) : ConnectionPool :=
  { p with states := p.states.modify c f }

/-- `mark_used`, and the wrapper. -/
def lease (p : ConnectionPool) (c : Nat) : ConnectionPool :=
  let p := p.modifyState c (fun s => { s with inUse := true, lastUsedAt := p.now })
  { p with
    leases := p.leases ++ [{ state := c, released := false, givenBack := false,
                             late := p.closeReturned }] }

/-- `mark_released`. -/
def markReleased (p : ConnectionPool) (c : Nat) : ConnectionPool :=
  p.modifyState c (fun s => { s with inUse := false, lastUsedAt := p.now })

/-- `_get_idle_connection`. -/
def getIdleConnection (p : ConnectionPool) (uri : String) : Option Nat :=
  (p.connections.get uri).find? (fun c => !p.inUse c)

/-- `_remove_connection`. -/
def removeConnection (p : ConnectionPool) (c : Nat) : ConnectionPool :=
  { p with connections := p.connections.discard (p.uri c) c }

/-- `_create_connection`, up to `await manager.connect()`. -/
def createConnection (p : ConnectionPool) (uri : String) : Run :=
  { pool := { p with
      states := p.states ++ [{ uri, manager := .connecting, inUse := false, lastUsedAt := p.now }] }
    point := .connecting uri p.states.length }

/-- `acquire`, from the removal of a dead connection on. -/
def dropDead (p : ConnectionPool) (uri : String) (c : Nat) : Run :=
  (p.removeConnection c).createConnection uri

/-- `acquire`, from the lookup of an idle connection on. -/
def useIdle (p : ConnectionPool) (k : Nat) (uri : String) : Run :=
  match p.getIdleConnection uri with
  | none => p.createConnection uri
  | some c =>
    if usable (p.manager c) then { pool := p.lease c, point := .done }
    else if p.lock.free then p.dropDead uri c
    else { pool := { p with lock := p.lock.wait k }, point := .locking (.dead uri c) }

/-- The end of `_create_connection`, and of `acquire`. -/
def publish (p : ConnectionPool) (uri : String) (c : Nat) : Run :=
  { pool := ({ p with connections := p.connections.push uri c } : ConnectionPool).lease c
    point := .done }

/-- Whether a loop collects a connection. -/
def collects (p : ConnectionPool) (loop : Loop) (c : Nat) : Bool :=
  !p.inUse c &&
    match loop with
    | .healthCheck => (p.manager c).isTerminal
    | .cleanup => p.config.maxIdleTime < p.idleTime c

/-- A loop, from one of the connections to close to the next. -/
def closeNext (p : ConnectionPool) (k : Nat) (loop : Loop) : List Nat → Run
  | [] => { pool := p, point := if p.closed then .done else .sleeping loop }
  | c :: rest =>
    let p := { p with touched := p.touched ++ [c] }
    if (p.manager c).isTerminal then
      if p.lock.free then closeNext (p.removeConnection c) k loop rest
      else { pool := { p with lock := p.lock.wait k }, point := .locking (.removeThen loop c rest) }
    else { pool := p, point := .closing c (.sweep loop rest) }

/-- A loop, from the scan on. -/
def sweep (p : ConnectionPool) (k : Nat) (loop : Loop) : Run :=
  p.closeNext k loop (p.listed.filter (p.collects loop))

/-- The end of `close`. -/
def clear (p : ConnectionPool) : ConnectionPool :=
  { p with connections := [], closeReturned := true }

/-- `close`, from the start of the closing tasks on; `n` is the number of the first. -/
def closeAll (p : ConnectionPool) (n : Nat) : Run :=
  if p.listed.isEmpty then { pool := p.clear, point := .done }
  else
    { pool := { p with lock := p.lock.hold }
      point := .gathering (List.range' n p.listed.length)
      spawned := p.listed.map (fun c => { point := .closing c .nothing }) }

/-- What task `k` does under the lock, and up to its next suspension. -/
def body (p : ConnectionPool) (k n : Nat) : Body → Run
  | .idle uri => p.useIdle k uri
  | .dead uri c => p.dropDead uri c
  | .publish uri c => p.publish uri c
  | .remove c => { pool := p.removeConnection c, point := .done }
  | .scan loop => p.sweep k loop
  | .removeThen loop c rest => (p.removeConnection c).closeNext k loop rest
  | .closeAll => p.closeAll n

/-- `async with self._lock`. -/
def underLock (p : ConnectionPool) (k n : Nat) (b : Body) : Run :=
  if p.lock.free then p.body k n b
  else { pool := { p with lock := p.lock.wait k }, point := .locking b }

/-- `acquire`, of an open pool. -/
def acquire (p : ConnectionPool) (k n : Nat) (uri : String) : Run :=
  if p.semaphore.locked then
    { pool := { p with semaphore := p.semaphore.wait k }, point := .waitPermit uri }
  else ({ p with semaphore := p.semaphore.take } : ConnectionPool).underLock k n (.idle uri)

/-- `await self._close_connection(state)`, and what follows. -/
def closeConnection (p : ConnectionPool) (k n : Nat) (c : Nat) : Run :=
  if (p.manager c).isTerminal then p.underLock k n (.remove c)
  else { pool := p, point := .closing c .remove }

/-- `release`, up to the test. -/
def takeBack (p : ConnectionPool) (i : Nat) (l : PooledConnection) : ConnectionPool :=
  { p.markReleased l.state with
    leases := p.leases.set i { l with givenBack := true }
    semaphore := p.semaphore.release }

/-- `release`, of a lease. -/
def release (p : ConnectionPool) (k n : Nat) (i : Nat) (l : PooledConnection) : Run :=
  let p := p.takeBack i l
  if p.closed || (p.manager l.state).isTerminal then p.closeConnection k n l.state
  else { pool := p, point := .done }

/-- `PooledConnection.release`, of a lease that is not released. -/
def releaseLease (p : ConnectionPool) (k n : Nat) (i : Nat) (l : PooledConnection) : Run :=
  p.release k n i { l with released := true }

/-- `close`, from the wait for the cleanup loop on. -/
def joinCleanupTask (p : ConnectionPool) (k n : Nat) : Run :=
  match p.cleanupTask with
  | some j => { pool := p, point := .joinCleanup j, cancels := some j }
  | none => p.underLock k n .closeAll

/-- `close`. -/
def close (p : ConnectionPool) (k n : Nat) : Run :=
  let p := { p with closed := true }
  match p.healthCheckTask with
  | some j => { pool := p, point := .joinHealth j, cancels := some j }
  | none => p.joinCleanupTask k n

/-- The end of a task by `CancelledError`. -/
def unwind (p : ConnectionPool) (k : Nat) : Point → ConnectionPool
  | .waitPermit _ => { p with semaphore := p.semaphore.giveUp k }
  | .locking _ => { p with lock := p.lock.giveUp k }
  | .gathering _ => { p with lock := p.lock.release }
  | _ => p

end ConnectionPool

/-- What happens next. Where a task is named, it runs up to its next suspension. -/
inductive Input where
  | acquire (uri : String)
  /-- `PooledConnection.release`, also by leaving the context. -/
  | release (i : Nat)
  /-- `ConnectionPool.release`, called by the user. -/
  | poolRelease (i : Nat)
  | close
  | start
  | cancel (k : Nat)
  | resume (k : Nat)
  | connected (k : Nat)
  | connectRaises (k : Nat)
  | closeEnds (k : Nat)
  | moves (c : Nat) (state : ConnectionState)
  | advance (d : ℚ)
  deriving DecidableEq

abbrev Pool := TaskPool.Pool ConnectionPool Task

namespace Pool

def init (config : ConnectionPoolConfig) : Pool :=
  { shared := ConnectionPool.new config, tasks := [] }

/-- The task is over. -/
def isDone (p : Pool) (k : Nat) : Bool :=
  match p.tasks[k]? with
  | some { point := .done, .. } => true
  | _ => false

/-- These tasks have a cancellation to see. -/
def flag (p : Pool) (ks : List Nat) : Pool :=
  { p with tasks := p.tasks.mapIdx (fun j t => if j ∈ ks then { t with cancelled := true } else t) }

/-- `task.cancel()`, of a task that waits for no other one. -/
def interrupt (p : Pool) (k : Nat) : Point → Pool
  | .waitPermit _ =>
    flag (p.share { p.shared with semaphore := p.shared.semaphore.cancel k }) [k]
  | .locking _ => flag (p.share { p.shared with lock := p.shared.lock.cancel k }) [k]
  | .connecting _ _ | .closing _ _ | .sleeping _ => p.flag [k]
  | .joinHealth _ | .joinCleanup _ | .gathering _ | .done => p

/-- `task.cancel()`. The tasks that are waited for are cancelled first. -/
def cancel (p : Pool) (k : Nat) : Pool :=
  match (p.tasks[k]?).map Task.point with
  | none => p
  | some (.joinHealth j) | some (.joinCleanup j) =>
    match (p.tasks[j]?).map Task.point with
    | none => p
    | some point => p.interrupt j point
  | some (.gathering children) => p.flag (k :: children)
  | some point => p.interrupt k point

def cancelOpt (p : Pool) : Option Nat → Pool
  | none => p
  | some k => p.cancel k

/-- Task `k` goes on. -/
def run (p : Pool) (k : Nat) (r : Run) : Pool :=
  cancelOpt (p.move k { shared := r.pool, self := { point := r.point }, spawned := r.spawned })
    r.cancels

/-- A task begins. -/
def enter (p : Pool) (r : Run) : Pool :=
  cancelOpt (p.call { shared := r.pool, self := { point := r.point }, spawned := r.spawned })
    r.cancels

/-- What task `k` does when it is resumed. -/
def resumed (p : Pool) (k : Nat) (t : Task) : Option Run :=
  let s := p.shared
  let n := p.tasks.length
  match t.point with
  | .waitPermit uri =>
    if t.cancelled then some { pool := s.unwind k t.point, point := .done }
    else if k ∈ s.semaphore.granted then
      some (({ s with semaphore := s.semaphore.resume k } : ConnectionPool).underLock k n
        (.idle uri))
    else none
  | .locking b =>
    if t.cancelled then some { pool := s.unwind k t.point, point := .done }
    else if s.lock.hasTurn k then
      some (({ s with lock := s.lock.handOn } : ConnectionPool).body k n b)
    else none
  | .connecting _ _ | .closing _ _ =>
    if t.cancelled then some { pool := s, point := .done } else none
  | .sleeping loop =>
    if t.cancelled || s.closed then some { pool := s, point := .done }
    else some (s.underLock k n (.scan loop))
  | .joinHealth j =>
    if p.isDone j then
      some (({ s with healthCheckTask := none } : ConnectionPool).joinCleanupTask k n)
    else none
  | .joinCleanup j =>
    if p.isDone j then
      some (({ s with cleanupTask := none } : ConnectionPool).underLock k n .closeAll)
    else none
  | .gathering children =>
    if children.all p.isDone then
      if t.cancelled then some { pool := s.unwind k t.point, point := .done }
      else
        some { pool := ({ s with lock := s.lock.release } : ConnectionPool).clear, point := .done }
    else none
  | .done => none

/-- What follows a call of `connect` or `close` on a manager. -/
def returned (p : Pool) (k : Nat) (i : Input) (t : Task) : Option Run :=
  let s := p.shared
  let n := p.tasks.length
  match i, t.point with
  | .connected _, .connecting uri c =>
    if t.cancelled then none else some (s.underLock k n (.publish uri c))
  | .connectRaises _, .connecting _ _ =>
    if t.cancelled then none
    else some { pool := { s with semaphore := s.semaphore.release }, point := .done }
  | .closeEnds _, .closing c next =>
    match next with
    | .remove => some (s.underLock k n (.remove c))
    | .sweep loop rest => some (s.underLock k n (.removeThen loop c rest))
    | .nothing => some { pool := s, point := .done }
  | _, _ => none

/-- `__aenter__`. -/
def start (p : Pool) : Pool :=
  p.call
    { shared := { p.shared with
        healthCheckTask := some p.tasks.length, cleanupTask := some (p.tasks.length + 1) }
      self := { point := .sleeping .healthCheck }
      spawned := [{ point := .sleeping .cleanup }] }

def step (p : Pool) : Input → Option Pool
  | .acquire uri =>
    if p.shared.closed then some p
    else some (p.enter (p.shared.acquire p.tasks.length (p.tasks.length + 1) uri))
  | .release i =>
    (p.shared.leases[i]?).map (fun l =>
      if l.released then p
      else p.enter (p.shared.releaseLease p.tasks.length (p.tasks.length + 1) i l))
  | .poolRelease i =>
    (p.shared.leases[i]?).map (fun l =>
      p.enter (p.shared.release p.tasks.length (p.tasks.length + 1) i l))
  | .close => some (p.enter (p.shared.close p.tasks.length (p.tasks.length + 1)))
  | .start => some p.start
  | .cancel k => if k < p.tasks.length then some (p.cancel k) else none
  | .resume k => (p.tasks[k]?).bind (fun t => (p.resumed k t).map (p.run k))
  | .connected k => (p.tasks[k]?).bind (fun t => (p.returned k (.connected k) t).map (p.run k))
  | .connectRaises k =>
    (p.tasks[k]?).bind (fun t => (p.returned k (.connectRaises k) t).map (p.run k))
  | .closeEnds k => (p.tasks[k]?).bind (fun t => (p.returned k (.closeEnds k) t).map (p.run k))
  | .moves c state =>
    if c < p.shared.states.length then
      some (p.share (p.shared.modifyState c (fun s => { s with manager := state })))
    else none
  | .advance d => if 0 ≤ d then some (p.share { p.shared with now := p.shared.now + d }) else none

end Pool
end JetSocket.Pooling
