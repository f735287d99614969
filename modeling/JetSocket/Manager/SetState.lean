import JetSocket.Manager.Attempt
import JetSocket.Manager.Wiring

/- Which step calls `_set_state`, with which state, and which event it emits.

   `Client.sets c a` is the state that the step passes to `_set_state`, read off the object and
   the suspended coroutine. `Tells` is the specification of a move: the state it leaves, the
   event it emits, and where the coroutine is suspended then. Each method has one lemma, and
   `step_told` puts them together: the state changes by `sets` alone, and a step emits at most
   one event, in whose handlers the coroutine is suspended. -/
namespace JetSocket.Manager
open JetSocket.Transport TaskPool Transition

/-- The names of the events. -/
inductive Topic where
  | stateChange | connecting | connected | reconnected | disconnected | reconnecting | closing
  | closed | error | rawMessage | message | bufferOverflow | ping | pong | replay
  deriving DecidableEq, Repr

def Event.topic : Event → Topic
  | .stateChange _ _ => .stateChange
  | .connecting _ => .connecting
  | .connected => .connected
  | .reconnected _ => .reconnected
  | .disconnected _ => .disconnected
  | .reconnecting _ _ _ => .reconnecting
  | .closing _ => .closing
  | .closed _ _ => .closed
  | .error _ _ => .error
  | .rawMessage => .rawMessage
  | .message => .message
  | .bufferOverflow => .bufferOverflow
  | .ping => .ping
  | .pong => .pong
  | .replay => .replay

namespace Point

/-- The state in the handlers of whose `state_change` the coroutine is suspended. -/
def entered : Point → Option ConnectionState
  | .connectingState => some .connecting
  | .connectedState _ => some .connected
  | .failedState _ | .exhaustedState => some .failed
  | .reconnectingState => some .reconnecting
  | .backingOffState _ => some .backingOff
  | .disconnectedState _ => some .disconnected
  | .disconnectingState _ => some .disconnecting
  | .closedState _ | .closedByUserState _ => some .closed
  | _ => none

/-- The event in whose handlers the coroutine is suspended. -/
def topic : Point → Option Topic
  | .connectingEmit => some .connecting
  | .errorEmit _ | .exhaustedEmit | .fatalErrorEmit _ | .timeoutEmit | .handling _ .failed =>
    some .error
  | .reconnectedEmit => some .reconnected
  | .connectedEmit _ => some .connected
  | .replaying => some .replay
  | .reconnectingEmit _ => some .reconnecting
  | .disconnectedEmit _ => some .disconnected
  | .closedEmit | .closedByUserEmit => some .closed
  | .handling _ .raw => some .rawMessage
  | .handling _ .overflow => some .bufferOverflow
  | .handling _ .message => some .message
  | .handling _ .pong => some .pong
  | .pingEmit => some .ping
  | .ageEmit | .closingEmit _ => some .closing
  | p => p.entered.map (fun _ => .stateChange)

/-- The state that the coroutine has set and announced. -/
def reports : Point → Option ConnectionState
  | .connectingEmit => some .connecting
  | .connectedEmit _ => some .connected
  | .exhaustedEmit => some .failed
  | .reconnectingEmit _ => some .reconnecting
  | .sleeping _ => some .backingOff
  | .disconnectedEmit _ => some .disconnected
  | .closedEmit | .closedByUserEmit => some .closed
  | _ => none

/-- The coroutine has a connection that counts as a reconnection. -/
def again : Point → Bool
  | .reconnectedEmit | .connectedState true | .connectedEmit true | .replaying => true
  | _ => false

/-- The coroutine is in an attempt, and has no connection yet. -/
def attempting : Point → Bool
  | .connectingState | .connectingEmit | .opening _ | .handshaking _ => true
  | _ => false

/-- None of these. -/
def plain (p : Point) : Bool :=
  p.entered.isNone && p.reports.isNone && !p.again && !p.attempting

end Point

/-! ## The state a step sets -/

namespace WebSocket

/-- `_schedule_reconnect`. -/
def scheduleSets (ws : WebSocket) : ConnectionState :=
  if ws.backoff.exhausted then .failed else .reconnecting

/-- The rest of the `except` clause. -/
def errorSets (ws : WebSocket) (e : Exc) : ConnectionState :=
  if isFatalError e then .failed
  else if ws.settings.reconnect then ws.scheduleSets else .failed

/-- The end of `_handle_disconnect`. -/
def disconnectedSets (ws : WebSocket) (loss : Loss) : ConnectionState :=
  if ws.settings.reconnect && !ws.userClosed && !isFatalCode loss.code then ws.scheduleSets
  else .closed

/-- `_handle_disconnect`, from the age timer on. -/
def ageSets (ws : WebSocket) : Option ConnectionState :=
  if ws.ageTask.isNone then some .disconnected else none

/-- The heartbeat, if there is one, has a task to wait for. -/
def holdsHeartbeat (ws : WebSocket) : Bool :=
  match ws.heartbeat with
  | some task => (ws.beats task).held
  | none => false

/-- `_handle_disconnect`. -/
def lossSets (ws : WebSocket) : Option ConnectionState :=
  if ws.holdsHeartbeat then none else ws.ageSets

/-- The message loop's next `recv`. -/
def loopSets (ws : WebSocket) : Option ConnectionState :=
  if recvRefused ws then ws.lossSets else none

/-- `close`, from the message task on, from the transport on, from the age timer on, and from
the heartbeat on. -/
def closeMessageSets (ws : WebSocket) : Option ConnectionState :=
  if ws.messageTask.isNone then some .closed else none

def closeTransportSets (ws : WebSocket) : Option ConnectionState :=
  if ws.transport.isNone then ws.closeMessageSets else none

def closeAgeSets (ws : WebSocket) : Option ConnectionState :=
  if ws.ageTask.isNone then ws.closeTransportSets else none

def closeSets (ws : WebSocket) : Option ConnectionState :=
  if ws.holdsHeartbeat then none else ws.closeAgeSets

/-- A coroutine whose handlers or sleep are over. -/
def resumeSets (ws : WebSocket) : Point → Option ConnectionState
  | .errorEmit e => some (ws.errorSets e)
  | .reconnectedEmit => some .connected
  | .reconnectingEmit _ => some .backingOff
  | .sleeping _ => if !ws.running || ws.userClosed then none else some .connecting
  | .disconnectedEmit loss => some (ws.disconnectedSets loss)
  | .loopStart => ws.loopSets
  | .handling _ .overflow | .handling _ .raw => none
  | .handling _ _ => ws.loopSets
  | .fatalErrorEmit _ | .timeoutEmit | .ageEmit => ws.lossSets
  | .closingEmit _ => if ws.state = .disconnecting then ws.closeSets else some .disconnecting
  | .disconnectingState _ => ws.closeSets
  | .callingTransport _ l =>
    if !ws.isConnected l || ws.isClosing l then ws.closeMessageSets else none
  | _ => none

/-- A coroutine whose awaited task has ended. -/
def awaitedSets (ws : WebSocket) (raised : Bool) : Point → Option ConnectionState
  | .stoppingHeartbeat _ _ => if ws.heartbeat.isNone then none else ws.ageSets
  | .cancellingAge _ _ => if raised then none else some .disconnected
  | .closeStopping _ _ => ws.closeAgeSets
  | .closeCancellingAge _ _ => if raised then none else ws.closeTransportSets
  | .closeAwaitingMessage _ _ => if raised then none else some .closed
  | _ => none

/-- A coroutine to which something happens. -/
def reactSets (ws : WebSocket) : Action → Point → Option ConnectionState
  | .attempt _ .connected, .handshaking _ => if 1 < ws.attempt then none else some .connected
  | .handle _ .applicationPong, .handling _ .raw => ws.loopSets
  | .closeFrame _ _, .receiving _ | .lossSeen _, .receiving _ => ws.lossSets
  | .closeDone _, .closingTransport _ _ | .closeCut _, .closingTransport _ _ => ws.closeMessageSets
  | _, _ => none

/-- The calls of `connect` and `close`. -/
def connectSets (ws : WebSocket) : Option ConnectionState :=
  if ws.state = .idle ∨ ws.state = .disconnected then some .connecting else none

def closeCallSets (ws : WebSocket) : Option ConnectionState :=
  if ws.state.isTerminal || ws.state = .connected then none else ws.closeSets

end WebSocket

namespace Client

/-- The task's wait for another one has ended by an exception. -/
def waitRaised (c : Client) (k u : Nat) : Bool :=
  u ≠ k && match c.tasks[u]? with
    | some t => t.point = .done true
    | none => false

/-- The state that the step passes to `_set_state`, if it calls it. -/
def sets (c : Client) (a : Action) : Option ConnectionState :=
  match a with
  | .connect => c.shared.connectSets
  | .close _ => c.shared.closeCallSets
  | a =>
    (actor a).bind (fun k =>
      (c.tasks[k]?).bind (fun t =>
        match WebSocket.awaits t.point with
        | some u => c.shared.awaitedSets (c.waitRaised k u) t.point
        | none =>
          if t.cancelled then none
          else if a = .resume k then c.shared.resumeSets t.point
          else c.shared.reactSets a t.point))

end Client

/-! ## Moves -/

/-- A move from `w`, with the coroutine at `p`, that passes `s` to `_set_state`. -/
structure Tells (w : WebSocket) (p : Point) (s : Option ConnectionState) (m : Move) : Prop where
  state : m.ws.state = s.getD w.state
  attempt : m.ws.attempt = w.attempt + if s = some .connecting then 1 else 0
  running : m.ws.running = w.running
  emitted : (m.ws.emitted = w.emitted ∧ m.point.topic = none) ∨
    ∃ e : Event, m.ws.emitted = w.emitted ++ [e] ∧ m.point.topic = some e.topic
  entered : ∀ r, m.point.entered = some r → s = some r ∧ w.state ≠ r
  reports : ∀ r, m.point.reports = some r → p.entered = some r ∨ (s = some r ∧ w.state = r)
  again : m.point.again = true → p.again = true ∨ (1 < w.attempt ∧ m.point = .reconnectedEmit)
  attempting : m.point.attempting = true → p.attempting = true ∨ s = some .connecting
  retries : m.ws.backoff.attempt = w.backoff.attempt +
    if m.point.topic = some .reconnecting then 1 else 0
  transport : p.ofClose = false → w.transport.isSome = true → m.ws.transport.isSome = true
  reconnected : m.point = .reconnectedEmit → ∃ l, p = .handshaking l

section Moves
variable {w : WebSocket} {p : Point} {k : Nat} {s : Option ConnectionState}

/-- A move that leaves the same object, and the coroutine at the same point. -/
theorem Tells.congr {m m' : Move} (h : Tells w p s m) (hw : m'.ws = m.ws)
    (hp : m'.point = m.point) : Tells w p s m' := by
  obtain ⟨ws, q, u⟩ := m'
  obtain rfl : ws = m.ws := hw
  obtain rfl : q = m.point := hp
  exact ⟨h.state, h.attempt, h.running, h.emitted, h.entered, h.reports, h.again, h.attempting,
    h.retries, h.transport, h.reconnected⟩

/-- A move seen from an object that differs in nothing a move tells of. -/
theorem Tells.from {v : WebSocket} {m : Move} (h : Tells v p s m) (hs : v.state = w.state)
    (ha : v.attempt = w.attempt) (hr : v.running = w.running) (he : v.emitted = w.emitted)
    (hb : v.backoff.attempt = w.backoff.attempt)
    (ht : p.ofClose = false → w.transport.isSome = true → v.transport.isSome = true) :
    Tells w p s m := by
  refine ⟨?_, ?_, h.running.trans hr, ?_, ?_, ?_, ?_, h.attempting, hb ▸ h.retries,
    fun hp hw => h.transport hp (ht hp hw), h.reconnected⟩
  · rw [h.state, hs]
  · rw [h.attempt, ha]
  · rw [← he]
    exact h.emitted
  · rw [← hs]
    exact h.entered
  · rw [← hs]
    exact h.reports
  · rw [← ha]
    exact h.again

section Plain
variable {q : Point} (hq : q.plain = true)
include hq

theorem plain_entered : q.entered = none := by
  unfold Point.plain at hq
  cases h : q.entered with
  | none => rfl
  | some r => simp [h] at hq

theorem plain_reports : q.reports = none := by
  unfold Point.plain at hq
  cases h : q.reports with
  | none => rfl
  | some r => simp [h] at hq

theorem plain_again : q.again = false := by
  unfold Point.plain at hq
  cases h : q.again with
  | false => rfl
  | true => simp [h] at hq

theorem plain_attempting : q.attempting = false := by
  unfold Point.plain at hq
  cases h : q.attempting with
  | false => rfl
  | true => simp [h] at hq

theorem plain_topic : q.topic ≠ some .reconnecting := by
  cases q with
  | reconnectingEmit => cases hq
  | handling l stage => cases stage <;> exact fun h => (by cases h)
  | _ => exact fun h => (by cases h)

theorem plain_reconnected : q ≠ .reconnectedEmit := by
  rintro rfl
  cases hq

/-- Suspended somewhere else, the object as it was. -/
theorem Tells.goto (ht : q.topic = none) : Tells w p none (w.goto q) := by
  refine ⟨rfl, rfl, rfl, .inl ⟨rfl, ht⟩, fun r hr => ?_, fun r hr => ?_, fun ha => ?_, fun ha => ?_,
    (if_neg (plain_topic hq)).symm ▸ rfl, fun _ => id, fun h => ?_⟩
  · rw [show (w.goto q).point.entered = none from plain_entered hq] at hr
    cases hr
  · rw [show (w.goto q).point.reports = none from plain_reports hq] at hr
    cases hr
  · rw [show (w.goto q).point.again = false from plain_again hq] at ha
    cases ha
  · rw [show (w.goto q).point.attempting = false from plain_attempting hq] at ha
    cases ha
  · exact (plain_reconnected hq h).elim

/-- Suspended in the handlers of an event. -/
theorem Tells.emitAt {e : Event} (ht : q.topic = some e.topic) : Tells w p none (w.emitAt e q) := by
  refine ⟨rfl, rfl, rfl, .inr ⟨e, rfl, ht⟩, fun r hr => ?_, fun r hr => ?_, fun ha => ?_,
    fun ha => ?_, (if_neg (plain_topic hq)).symm ▸ rfl, fun _ => id, fun h => ?_⟩
  · rw [show (w.emitAt e q).point.entered = none from plain_entered hq] at hr
    cases hr
  · rw [show (w.emitAt e q).point.reports = none from plain_reports hq] at hr
    cases hr
  · rw [show (w.emitAt e q).point.again = false from plain_again hq] at ha
    cases ha
  · rw [show (w.emitAt e q).point.attempting = false from plain_attempting hq] at ha
    cases ha
  · exact (plain_reconnected hq h).elim

end Plain

theorem Tells.finish : Tells w p none w.finish := .goto rfl rfl

theorem Tells.raise : Tells w p none w.raise := .goto rfl rfl

/-- A coroutine that suspends to wait for a task which it cancels. -/
theorem Tells.wait {q : Point} (hq : q.plain = true) (ht : q.topic = none) {u : Option Nat} :
    Tells w p none { ws := w, point := q, cancel := u } := by
  have h : Tells w p none (w.goto q) := .goto hq ht
  exact h.congr rfl rfl

/-- The event behind `_set_state`, where the state was set in the handlers the coroutine comes
from, or was the same before. -/
theorem Tells.announce {e : Event} {q : Point} {r : ConnectionState}
    (hs : (s = none ∧ p.entered = some r) ∨ (s = some r ∧ w.state = r ∧ r ≠ .connecting))
    (ht : q.topic = some e.topic) (hq : q.entered = none) (hr : q.reports = some r)
    (ha : q.again = true → p.again = true) (hn : q.attempting = true → p.attempting = true)
    (hb : q.topic ≠ some .reconnecting) : Tells w p s (w.emitAt e q) := by
  have hstate : s.getD w.state = w.state ∧ s ≠ some .connecting := by
    rcases hs with ⟨rfl, -⟩ | ⟨rfl, hw, hne⟩
    · exact ⟨rfl, fun h => (by cases h)⟩
    · exact ⟨hw.symm, fun h => hne (Option.some.inj h)⟩
  refine ⟨hstate.1.symm, ?_, rfl, .inr ⟨e, rfl, ht⟩, fun r' hr' => ?_, fun r' hr' => ?_,
    fun h => .inl (ha h), fun h => .inl (hn h), (if_neg hb).symm ▸ rfl, fun _ => id, fun h => ?_⟩
  · rw [if_neg hstate.2]
    rfl
  · rw [show (w.emitAt e q).point.entered = none from hq] at hr'
    cases hr'
  · obtain rfl := Option.some.inj (hr.symm.trans hr')
    exact hs.imp And.right (fun h => ⟨h.1, h.2.1⟩)
  · rw [show q = .reconnectedEmit from h] at hr
    cases hr

/-- `_set_state`. -/
theorem Tells.set {r : ConnectionState} {q : Point} {next : WebSocket → Move}
    (hne : r ≠ .connecting) (hq : q.entered = some r) (ht : q.topic = some .stateChange)
    (hr : q.reports = none) (ha : q.again = true → p.again = true) (hn : q.attempting = false)
    (same : w.state = r → Tells w p (some r) (next w)) :
    Tells w p (some r) (w.setState r q next) := by
  refine WebSocket.setState_cases (Q := Tells w p (some r)) same (fun hw => ?_)
  refine ⟨rfl, ?_, rfl, .inr ⟨_, rfl, ht⟩, fun r' hr' => ?_, fun r' hr' => ?_, fun h => .inl (ha h),
    fun h => ?_, (if_neg ?_).symm ▸ rfl, fun _ => id, fun h => ?_⟩
  · rw [if_neg (fun h => hne (Option.some.inj h))]
    rfl
  · obtain rfl := Option.some.inj (hq.symm.trans hr')
    exact ⟨rfl, hw⟩
  · rw [show (WebSocket.emitAt _ _ q).point.reports = none from hr] at hr'
    cases hr'
  · rw [show (WebSocket.emitAt _ _ q).point.attempting = false from hn] at h
    cases h
  · exact fun h => by cases ht.symm.trans h
  · rw [show q = .reconnectedEmit from h] at hq
    cases hq

/-! ### _schedule_reconnect and _connect_internal -/

theorem announceExhausted_tells (hw : w.state = .failed) :
    Tells w p (some .failed) w.announceExhausted :=
  .announce (.inr ⟨rfl, hw, by simp⟩) rfl rfl rfl (fun h => (by cases h)) (fun h => (by cases h))
    (fun h => (by cases h))

theorem announceReconnecting_tells
    (hs : (s = none ∧ p.entered = some .reconnecting) ∨
      (s = some .reconnecting ∧ w.state = .reconnecting)) : Tells w p s w.announceReconnecting := by
  have hstate : s.getD w.state = w.state ∧ s ≠ some .connecting := by
    rcases hs with ⟨rfl, -⟩ | ⟨rfl, hw⟩
    · exact ⟨rfl, fun h => (by cases h)⟩
    · exact ⟨hw.symm, fun h => (by cases h)⟩
  unfold WebSocket.announceReconnecting
  split
  · refine ⟨hstate.1.symm, ?_, rfl, .inl ⟨rfl, rfl⟩, fun r hr => (by cases hr),
      fun r hr => (by cases hr), fun h => (by cases h), fun h => (by cases h), rfl, fun _ => id,
      fun h => (by cases h)⟩
    rw [if_neg hstate.2]
    rfl
  · rename_i b d hn
    refine ⟨hstate.1.symm, ?_, rfl, .inr ⟨_, rfl, rfl⟩, fun r hr => (by cases hr), fun r hr => ?_,
      fun h => (by cases h), fun h => (by cases h), ?_, fun _ => id, fun h => (by cases h)⟩
    · rw [if_neg hstate.2]
      rfl
    · obtain rfl := Option.some.inj hr
      exact hs.imp And.right id
    · exact congrArg BackoffStrategy.attempt (BackoffStrategy.nextDelay_eq hn).1

theorem scheduleReconnect_tells : Tells w p (some w.scheduleSets) w.scheduleReconnect := by
  unfold WebSocket.scheduleReconnect WebSocket.scheduleSets
  split
  · exact .set (by simp) rfl rfl rfl (fun h => (by cases h)) rfl announceExhausted_tells
  · exact .set (by simp) rfl rfl rfl (fun h => (by cases h)) rfl
      (fun hw => announceReconnecting_tells (.inr ⟨rfl, hw⟩))

theorem beginBackoff_tells (d : ℚ) : Tells w p (some .backingOff) (w.beginBackoff d) := by
  refine .set (by simp) rfl rfl rfl (fun h => (by cases h)) rfl (fun hw => ?_)
  refine ⟨hw, rfl, rfl, .inl ⟨rfl, rfl⟩, fun r hr => (by cases hr), fun r hr => ?_,
    fun h => (by cases h), fun h => (by cases h), rfl, fun _ => id, fun h => (by cases h)⟩
  obtain rfl := Option.some.inj hr
  exact .inr ⟨rfl, hw⟩

theorem connectInternal_tells : Tells w p (some .connecting) w.connectInternal := by
  unfold WebSocket.connectInternal
  refine WebSocket.setState_cases (Q := Tells w p (some .connecting)) (fun hw => ?_) (fun hw => ?_)
  · refine ⟨hw, rfl, rfl, .inr ⟨_, rfl, rfl⟩, fun r hr => (by cases hr), fun r hr => ?_,
      fun h => (by cases h), fun _ => .inr rfl, rfl, fun _ => id, fun h => (by cases h)⟩
    obtain rfl := Option.some.inj hr
    exact .inr ⟨rfl, hw⟩
  · refine ⟨rfl, rfl, rfl, .inr ⟨_, rfl, rfl⟩, fun r hr => ?_, fun r hr => (by cases hr),
      fun h => (by cases h), fun _ => .inr rfl, rfl, fun _ => id, fun h => (by cases h)⟩
    obtain rfl := Option.some.inj hr
    exact ⟨rfl, hw⟩

theorem afterBackoff_tells :
    Tells w p (if !w.running || w.userClosed then none else some .connecting) w.afterBackoff := by
  unfold WebSocket.afterBackoff
  split
  · exact .finish
  · exact connectInternal_tells

theorem connectFailed_tells (e : Exc) : Tells w p none (w.connectFailed e) := by
  unfold WebSocket.connectFailed
  split
  · exact Tells.from (v := { w with lastError := some e }) (.emitAt rfl rfl)
      rfl rfl rfl rfl rfl (fun _ => id)
  · exact .raise

/-- `FAILED`, and the exception again. -/
theorem toFailed_tells (e : Exc) :
    Tells w p (some .failed) (w.setState .failed (.failedState e) WebSocket.raise) := by
  refine .set (by simp) rfl rfl rfl (fun h => (by cases h)) rfl (fun hw => ?_)
  exact ⟨hw, rfl, rfl, .inl ⟨rfl, rfl⟩, fun r hr => (by cases hr), fun r hr => (by cases hr),
    fun h => (by cases h), fun h => (by cases h), rfl, fun _ => id, fun h => (by cases h)⟩

theorem afterError_tells (e : Exc) : Tells w p (some (w.errorSets e)) (w.afterError e) := by
  unfold WebSocket.afterError WebSocket.errorSets
  split
  · exact toFailed_tells e
  · split
    · exact scheduleReconnect_tells
    · exact toFailed_tells e

theorem established_tells {b : Bool} (hb : b = true → p.again = true) :
    Tells w p (some .connected) (w.established b) := by
  refine Tells.from (v := { w with backoff := w.backoff.success w.now, lastError := none }) ?_
    rfl rfl rfl rfl rfl (fun _ => id)
  have hagain : ∀ q : Point, q = .connectedState b ∨ q = .connectedEmit b → q.again = true →
      p.again = true := by
    rintro q (rfl | rfl) hq <;> cases b <;> first
      | exact hb rfl
      | cases hq
  refine .set (by simp) rfl rfl rfl (hagain _ (.inl rfl)) rfl (fun hw => ?_)
  exact .announce (e := .connected) (.inr ⟨rfl, hw, by simp⟩) rfl rfl rfl (hagain _ (.inr rfl))
    (fun h => (by cases h)) (fun h => (by cases h))

theorem connectReturned_tells (hp : ∃ l, p = .handshaking l) :
    Tells w p (if 1 < w.attempt then none else some .connected) w.connectReturned := by
  unfold WebSocket.connectReturned
  split
  · rename_i h
    exact ⟨rfl, rfl, rfl, .inr ⟨_, rfl, rfl⟩, fun r hr => (by cases hr), fun r hr => (by cases hr),
      fun _ => .inr ⟨h, rfl⟩, fun h => (by cases h), rfl, fun _ => id, fun _ => hp⟩
  · exact established_tells (fun h => (by cases h))

/-! ### _handle_disconnect -/

theorem toDisconnected_tells (loss : Loss) : Tells w p (some .disconnected)
    (w.setState .disconnected (.disconnectedState loss) (WebSocket.announceDisconnected loss)) :=
  .set (by simp) rfl rfl rfl (fun h => (by cases h)) rfl (fun hw => .announce
    (.inr ⟨rfl, hw, by simp⟩) rfl rfl rfl (fun h => (by cases h)) (fun h => (by cases h))
      (fun h => (by cases h)))

theorem cancelAge_tells (loss : Loss) : Tells w p w.ageSets (w.cancelAge loss) := by
  unfold WebSocket.cancelAge WebSocket.ageSets
  cases h : w.ageTask with
  | some task => exact .wait rfl rfl
  | none => exact toDisconnected_tells loss

/-- A heartbeat that is told to stop keeps its task. -/
theorem held_stopped (task : Nat) :
    ((w.setBeat task (fun b => { b with running := false })).beats task).held =
      (w.beats task).held := by
  simp [WebSocket.setBeat]

theorem handleDisconnect_tells (loss : Loss) : Tells w p w.lossSets (w.handleDisconnect loss) := by
  unfold WebSocket.handleDisconnect WebSocket.lossSets WebSocket.holdsHeartbeat
  cases h : w.heartbeat with
  | none => exact cancelAge_tells loss
  | some task =>
    dsimp only
    rw [held_stopped]
    split
    · exact Tells.from (v := w.setBeat task _) (.wait rfl rfl) rfl rfl rfl rfl rfl (fun _ => id)
    · exact Tells.from (v := w.setBeat task _) (cancelAge_tells loss)
        rfl rfl rfl rfl rfl (fun _ => id)

theorem lost_tells (msg : String) : Tells w p w.lossSets (w.lost msg) :=
  Tells.from (v := { w with lastError := some (.connectionError msg) }) (handleDisconnect_tells _)
    rfl rfl rfl rfl rfl (fun _ => id)

theorem afterStop_tells (loss : Loss) :
    Tells w p (if w.heartbeat.isNone then none else w.ageSets) (w.afterStop loss) := by
  unfold WebSocket.afterStop
  cases w.heartbeat with
  | none => exact .raise
  | some task => exact cancelAge_tells loss

theorem afterAge_tells (loss : Loss) : Tells w p (some .disconnected) (w.afterAge loss) :=
  Tells.from (v := { w with ageTask := none }) (toDisconnected_tells loss)
    rfl rfl rfl rfl rfl (fun _ => id)

theorem afterDisconnected_tells (loss : Loss) :
    Tells w p (some (w.disconnectedSets loss)) (w.afterDisconnected loss) := by
  unfold WebSocket.afterDisconnected WebSocket.disconnectedSets
  split
  · exact scheduleReconnect_tells
  · exact .set (by simp) rfl rfl rfl (fun h => (by cases h)) rfl (fun hw => .announce
      (.inr ⟨rfl, hw, by simp⟩) rfl rfl rfl (fun h => (by cases h)) (fun h => (by cases h))
      (fun h => (by cases h)))

/-! ### The loops -/

/-- A `recv` that is refused. -/
theorem loopTop_of_refused (h : recvRefused w = true) :
    w.loopTop = w.lost "Transport is not connected" := by
  unfold recvRefused at h
  obtain ⟨hgo, hl⟩ := Bool.and_eq_true_iff.mp h
  unfold WebSocket.loopTop
  rw [if_pos hgo]
  cases ht : w.transport with
  | none => simp [ht] at hl
  | some l =>
    have hc : ¬ w.isConnected l = true := by simpa [ht] using hl
    exact if_neg hc

theorem loopTop_tells : Tells w p w.loopSets w.loopTop := by
  unfold WebSocket.loopSets
  cases hr : recvRefused w with
  | true =>
    rw [loopTop_of_refused hr]
    exact lost_tells _
  | false =>
    rw [if_neg Bool.false_ne_true]
    unfold WebSocket.loopTop
    split
    · rename_i hgo
      split
      · refine ⟨rfl, rfl, rfl, .inr ⟨_, rfl, rfl⟩, fun r hr => (by cases hr),
          fun r hr => (by cases hr),
          fun h => (by cases h), fun h => (by cases h), rfl, fun _ => id, fun h => (by cases h)⟩
      · rename_i l hl
        split
        · exact .goto rfl rfl
        · rename_i hc
          unfold recvRefused at hr
          rw [hgo, hl] at hr
          simp [hc] at hr
    · exact .finish

theorem loopStart_tells : Tells w p w.loopSets w.loopStart := by
  unfold WebSocket.loopStart
  cases ht : w.transport with
  | none =>
    have hnone : w.loopSets = none := by
      unfold WebSocket.loopSets recvRefused
      rw [ht, Bool.and_false]
      rfl
    rw [hnone]
    exact .finish
  | some l => exact loopTop_tells

theorem received_tells (l : Nat) (isPong : Bool) : Tells w p none (w.received l isPong) := by
  unfold WebSocket.received
  split <;> exact .emitAt rfl rfl

theorem sendPing_tells : Tells w p none (w.sendPing k) := by
  unfold WebSocket.sendPing
  split
  · exact .finish
  · split
    · exact .goto rfl rfl
    · split
      · exact .goto rfl rfl
      · split
        · exact .emitAt rfl rfl
        · exact .raise

theorem pongArrived_tells : Tells w p none (w.pongArrived k) := by
  unfold WebSocket.pongArrived
  split
  · exact .goto rfl rfl
  · exact .finish

theorem pongTimedOut_tells : Tells w p none (w.pongTimedOut k) := by
  unfold WebSocket.pongTimedOut
  split
  · exact .emitAt rfl rfl
  · exact .finish

theorem ageOver_tells : Tells w p none w.ageOver := by
  unfold WebSocket.ageOver
  split
  · exact .emitAt rfl rfl
  · exact .finish

/-- Giving the transport up changes no more than its link. -/
theorem lossSets_disconnectTransport : w.disconnectTransport.lossSets = w.lossSets := by
  unfold WebSocket.disconnectTransport
  split <;> rfl

theorem disconnectTransport_tells (loss : Loss) :
    Tells w p w.lossSets (w.disconnectTransport.handleDisconnect loss) := by
  rw [← lossSets_disconnectTransport]
  unfold WebSocket.disconnectTransport
  split
  · exact Tells.from (handleDisconnect_tells loss) rfl rfl rfl rfl rfl (fun _ => id)
  · exact handleDisconnect_tells loss

/-! ### close -/

theorem closeLast_tells (args : CloseArgs) : Tells w p (some .closed) (w.closeLast args) :=
  .set (by simp) rfl rfl rfl (fun h => (by cases h)) rfl (fun hw => .announce
    (.inr ⟨rfl, hw, by simp⟩) rfl rfl rfl (fun h => (by cases h)) (fun h => (by cases h))
      (fun h => (by cases h)))

theorem closeMessageTask_tells (args : CloseArgs) :
    Tells w p w.closeMessageSets (w.closeMessageTask args) := by
  unfold WebSocket.closeMessageTask WebSocket.closeMessageSets
  cases w.messageTask with
  | some task => exact .wait rfl rfl
  | none => exact closeLast_tells args

theorem closeTransport_tells (args : CloseArgs) :
    Tells w p w.closeTransportSets (w.closeTransport args) := by
  unfold WebSocket.closeTransport WebSocket.closeTransportSets
  cases w.transport with
  | some l => exact .goto rfl rfl
  | none => exact closeMessageTask_tells args

theorem closeCalled_tells (hp : p.ofClose = true) (args : CloseArgs) (l : Nat) :
    Tells w p (if !w.isConnected l || w.isClosing l then w.closeMessageSets else none)
      (w.closeCalled args l) := by
  unfold WebSocket.closeCalled
  split
  · exact Tells.from (v := { w with transport := none }) (closeMessageTask_tells args)
      rfl rfl rfl rfl rfl (fun h => (by rw [hp] at h; cases h))
  · exact Tells.from (v := w.setLink l _) (.goto rfl rfl) rfl rfl rfl rfl rfl (fun _ => id)

theorem closeReturned_tells (hp : p.ofClose = true) (args : CloseArgs) (l : Nat) :
    Tells w p w.closeMessageSets (w.closeReturned args l) :=
  Tells.from (v := { w.setLink l _ with transport := none }) (closeMessageTask_tells args)
    rfl rfl rfl rfl rfl (fun h => (by rw [hp] at h; cases h))

theorem closeCutOff_tells (hp : p.ofClose = true) (args : CloseArgs) :
    Tells w p w.closeMessageSets (w.closeCutOff args) :=
  Tells.from (v := { w with transport := none }) (closeMessageTask_tells args)
    rfl rfl rfl rfl rfl (fun h => (by rw [hp] at h; cases h))

theorem closeAge_tells (args : CloseArgs) : Tells w p w.closeAgeSets (w.closeAge args) := by
  unfold WebSocket.closeAge WebSocket.closeAgeSets
  cases w.ageTask with
  | some task => exact .wait rfl rfl
  | none => exact closeTransport_tells args

theorem closeHeartbeat_tells (args : CloseArgs) :
    Tells w p w.closeSets (w.closeHeartbeat args) := by
  unfold WebSocket.closeHeartbeat WebSocket.closeSets WebSocket.holdsHeartbeat
  cases h : w.heartbeat with
  | none => exact closeAge_tells args
  | some task =>
    dsimp only
    rw [held_stopped]
    split
    · exact Tells.from (v := w.setBeat task _) (.wait rfl rfl) rfl rfl rfl rfl rfl (fun _ => id)
    · exact Tells.from (v := { w.setBeat task _ with heartbeat := none }) (closeAge_tells args)
        rfl rfl rfl rfl rfl (fun _ => id)

/-! ### The coroutines -/

theorem resume_tells {m : Move} (hm : w.resume k p = some m) : Tells w p (w.resumeSets p) m := by
  cases p with
  | connectingState =>
    obtain rfl := Option.some.inj hm
    exact .announce (.inl ⟨rfl, rfl⟩) rfl rfl rfl (fun h => by cases h) (fun _ => rfl)
      (fun h => (by cases h))
  | connectingEmit =>
    obtain rfl := Option.some.inj hm
    exact ⟨rfl, rfl, rfl, .inl ⟨rfl, rfl⟩, fun r hr => (by cases hr), fun r hr => (by cases hr),
      fun h => (by cases h), fun _ => .inl rfl, rfl, fun _ _ => rfl, fun h => (by cases h)⟩
  | errorEmit e =>
    obtain rfl := Option.some.inj hm
    exact afterError_tells e
  | reconnectedEmit =>
    obtain rfl := Option.some.inj hm
    exact established_tells (fun _ => rfl)
  | connectedState b =>
    obtain rfl := Option.some.inj hm
    exact .announce (.inl ⟨rfl, rfl⟩) rfl rfl rfl (fun h => by cases b <;> first | rfl | cases h)
      (fun h => by cases h) (fun h => (by cases h))
  | connectedEmit b =>
    simp only [WebSocket.resume, WebSocket.afterConnected] at hm
    split at hm
    · rename_i hb
      obtain rfl := Option.some.inj hm
      refine ⟨rfl, rfl, rfl, .inr ⟨_, rfl, rfl⟩, fun r hr => (by cases hr),
        fun r hr => (by cases hr),
        fun _ => .inl ?_, fun h => (by cases h), rfl, fun _ => id, fun h => (by cases h)⟩
      cases b with
      | false => cases hb
      | true => rfl
    · cases hm
  | exhaustedState | closedState loss | closedByUserState args | disconnectedState loss =>
    obtain rfl := Option.some.inj hm
    exact .announce (.inl ⟨rfl, rfl⟩) rfl rfl rfl (fun h => by cases h) (fun h => by cases h)
      (fun h => (by cases h))
  | exhaustedEmit | closedEmit | closedByUserEmit | failedState e =>
    obtain rfl := Option.some.inj hm
    exact .goto rfl rfl
  | reconnectingState =>
    obtain rfl := Option.some.inj hm
    exact announceReconnecting_tells (.inl ⟨rfl, rfl⟩)
  | reconnectingEmit d =>
    obtain rfl := Option.some.inj hm
    exact beginBackoff_tells d
  | backingOffState d =>
    obtain rfl := Option.some.inj hm
    exact ⟨rfl, rfl, rfl, .inl ⟨rfl, rfl⟩, fun r hr => (by cases hr), fun r hr => .inl hr,
      fun h => (by cases h), fun h => (by cases h), rfl, fun _ => id, fun h => (by cases h)⟩
  | sleeping d =>
    obtain rfl := Option.some.inj hm
    exact afterBackoff_tells
  | disconnectedEmit loss =>
    obtain rfl := Option.some.inj hm
    exact afterDisconnected_tells loss
  | loopStart =>
    obtain rfl := Option.some.inj hm
    exact loopStart_tells
  | handling l stage =>
    cases stage with
    | raw => cases hm
    | overflow =>
      obtain rfl := Option.some.inj hm
      exact .emitAt rfl rfl
    | message | failed | pong =>
      obtain rfl := Option.some.inj hm
      exact loopTop_tells
  | fatalErrorEmit loss =>
    obtain rfl := Option.some.inj hm
    exact handleDisconnect_tells loss
  | beatSleep =>
    obtain rfl := Option.some.inj hm
    exact sendPing_tells
  | pingEmit =>
    obtain rfl := Option.some.inj hm
    exact .goto rfl rfl
  | timeoutEmit | ageEmit =>
    obtain rfl := Option.some.inj hm
    exact disconnectTransport_tells _
  | ageSleep =>
    obtain rfl := Option.some.inj hm
    exact ageOver_tells
  | closingEmit args =>
    obtain rfl := Option.some.inj hm
    show Tells w _ (if w.state = .disconnecting then w.closeSets else some .disconnecting) _
    split
    · rename_i hs
      unfold WebSocket.setState
      rw [if_pos hs.symm]
      exact closeHeartbeat_tells args
    · rename_i hs
      exact .set (by simp) rfl rfl rfl (fun h => by cases h) rfl (fun hw => (hs hw).elim)
  | disconnectingState args =>
    obtain rfl := Option.some.inj hm
    exact closeHeartbeat_tells args
  | callingTransport args l =>
    obtain rfl := Option.some.inj hm
    exact closeCalled_tells rfl args l
  | _ => cases hm

theorem awaited_tells {raised : Bool} {m : Move} (hm : w.awaited raised p = some m) :
    Tells w p (w.awaitedSets raised p) m := by
  cases p with
  | stoppingHeartbeat loss task =>
    obtain rfl := Option.some.inj hm
    exact Tells.from (v := w.setBeat task _) (afterStop_tells loss)
      rfl rfl rfl rfl rfl (fun _ => id)
  | cancellingAge loss task =>
    obtain rfl := Option.some.inj hm
    cases raised with
    | true => exact .raise
    | false => exact afterAge_tells loss
  | closeStopping args task =>
    obtain rfl := Option.some.inj hm
    exact Tells.from (v := { w.setBeat task _ with heartbeat := none }) (closeAge_tells args)
      rfl rfl rfl rfl rfl (fun _ => id)
  | closeCancellingAge args task =>
    obtain rfl := Option.some.inj hm
    cases raised with
    | true => exact .raise
    | false =>
      exact Tells.from (v := { w with ageTask := none }) (closeTransport_tells args)
        rfl rfl rfl rfl rfl (fun _ => id)
  | closeAwaitingMessage args task =>
    obtain rfl := Option.some.inj hm
    cases raised with
    | true => exact .raise
    | false =>
      exact Tells.from (v := { w with messageTask := none }) (closeLast_tells args)
        rfl rfl rfl rfl rfl (fun _ => id)
  | _ => cases hm

theorem reacts_tells {a : Action} {m : Move} (hm : Client.Reacts w k a p m) :
    Tells w p (w.reactSets a p) m := by
  cases hm with
  | opened j l =>
    exact ⟨rfl, rfl, rfl, .inl ⟨rfl, rfl⟩, fun r hr => (by cases hr), fun r hr => (by cases hr),
      fun h => (by cases h), fun _ => .inl rfl, rfl, fun _ => id, fun h => (by cases h)⟩
  | connected j l =>
    exact Tells.from (v := w.setLink l _) (connectReturned_tells ⟨l, rfl⟩)
      rfl rfl rfl rfl rfl (fun _ => id)
  | aborted j l e _ => exact connectFailed_tells e
  | refused j l e =>
    exact Tells.from (v := w.setLink l _) (connectFailed_tells e)
      rfl rfl rfl rfl rfl (fun _ => id)
  | unreached j l e => exact connectFailed_tells e
  | frame j l isPong => exact received_tells l isPong
  | handle j l outcome =>
    cases outcome with
    | applicationPong => exact loopTop_tells
    | message overflow => cases overflow <;> exact .emitAt rfl rfl
    | undecodable e => exact .emitAt rfl rfl
  | closeFrame j l code =>
    exact Tells.from (v := w.closeFrame l code) (lost_tells _) rfl rfl rfl rfl rfl (fun _ => id)
  | lossSeen j l _ =>
    exact Tells.from (v := w.setLink l _) (lost_tells _)
      rfl rfl rfl rfl rfl (fun _ => id)
  | pong j => exact pongArrived_tells
  | pongTimeout j => exact pongTimedOut_tells
  | closeDone j args l => exact closeReturned_tells rfl args l
  | closeCut j args l => exact closeCutOff_tells rfl args

/-! ## Steps -/

/-- A heartbeat behind an exception is suspended where nothing is told. -/
theorem Tells.settle {m : Move} (h : Tells w p s m) {kind : Kind} :
    Tells w p s { ws := m.ws, point := (AsyncTask.settle k kind m).point } := by
  by_cases hm : m.point = .done true
  · have hplain : ∀ q : Point, q.plain = true → q.topic = none →
        Tells w p s { ws := m.ws, point := q } := by
      intro q hq ht
      refine ⟨h.state, h.attempt, h.running, .inl ⟨?_, ht⟩, fun r hr => ?_, fun r hr => ?_,
        fun ha => ?_, fun ha => ?_, ?_, h.transport,
        fun hr => (plain_reconnected hq hr).elim⟩
      · rcases h.emitted with ⟨he, -⟩ | ⟨e, -, he⟩
        · exact he
        · rw [hm] at he
          cases he
      · cases (plain_entered hq).symm.trans hr
      · cases (plain_reports hq).symm.trans hr
      · cases (plain_again hq).symm.trans ha
      · cases (plain_attempting hq).symm.trans ha
      · have hr := h.retries
        rw [hm] at hr
        exact hr.trans (by rw [if_neg (plain_topic hq)]; rfl)
    unfold AsyncTask.settle
    split
    · dsimp only
      split
      · exact hplain _ rfl rfl
      · exact hplain _ rfl rfl
    · rw [hm]
      exact hplain _ rfl rfl
  · rw [settle_eq hm]
    exact h.congr rfl rfl

theorem connect_tells (hs : w.state = .idle ∨ w.state = .disconnected) :
    Tells { w with userClosed := false, running := true } (.done false) w.connectSets
      w.connect := by
  unfold WebSocket.connect WebSocket.connectSets
  rw [if_pos hs, if_pos hs]
  exact connectInternal_tells

theorem connect_tells_refused (hs : ¬ (w.state = .idle ∨ w.state = .disconnected)) :
    Tells w (.done false) w.connectSets w.connect := by
  unfold WebSocket.connect WebSocket.connectSets
  rw [if_neg hs, if_neg hs]
  exact .raise

theorem close_tells (args : CloseArgs) :
    Tells { w with userClosed := true, running := false } (.done false) w.closeCallSets
      (w.close args) := by
  unfold WebSocket.close WebSocket.closeCallSets
  dsimp only
  by_cases ht : w.state.isTerminal = true
  · rw [if_pos ht, if_pos (by simp [ht])]
    exact .finish
  · rw [if_neg ht]
    by_cases hc : w.state = .connected
    · rw [if_pos hc, if_pos (by simp [hc])]
      exact .emitAt rfl rfl
    · rw [if_neg hc, if_neg (by simp [ht, hc])]
      exact closeHeartbeat_tells (w := { w with userClosed := true, running := false }) args

end Moves

namespace Point

/-- Where the tasks of a connection start. -/
def starting : Point → Bool
  | .beatSleep | .ageSleep | .loopStart => true
  | _ => false

end Point

namespace Client

/-- The object as the step finds it: a call of `connect` or `close` sets its flags first. -/
def entry (c : Client) : Action → WebSocket
  | .connect =>
    if c.shared.state = .idle ∨ c.shared.state = .disconnected then
      { c.shared with userClosed := false, running := true }
    else c.shared
  | .close _ => { c.shared with userClosed := true, running := false }
  | _ => c.shared

/-- It differs in two flags at most. -/
theorem entry_eq (c : Client) (a : Action) : ∃ userClosed running,
    c.entry a = { c.shared with userClosed := userClosed, running := running } := by
  cases a with
  | connect =>
    unfold entry
    dsimp only
    split
    · exact ⟨_, _, rfl⟩
    · exact ⟨_, _, rfl⟩
  | _ => exact ⟨_, _, rfl⟩

@[simp] theorem entry_state (c : Client) (a : Action) : (c.entry a).state = c.shared.state := by
  obtain ⟨_, _, h⟩ := c.entry_eq a
  rw [h]

@[simp] theorem entry_attempt (c : Client) (a : Action) :
    (c.entry a).attempt = c.shared.attempt := by
  obtain ⟨_, _, h⟩ := c.entry_eq a
  rw [h]

@[simp] theorem entry_transport (c : Client) (a : Action) :
    (c.entry a).transport = c.shared.transport := by
  obtain ⟨_, _, h⟩ := c.entry_eq a
  rw [h]

@[simp] theorem entry_backoff (c : Client) (a : Action) :
    (c.entry a).backoff = c.shared.backoff := by
  obtain ⟨_, _, h⟩ := c.entry_eq a
  rw [h]

@[simp] theorem entry_emitted (c : Client) (a : Action) :
    (c.entry a).emitted = c.shared.emitted := by
  obtain ⟨_, _, h⟩ := c.entry_eq a
  rw [h]

end Client

/-- What a step tells: coroutine `k`, suspended at `p` or just called, comes to be suspended
at `q`; the others stay where they are, and new ones stand at their starts. -/
structure Told (c c' : Client) (a : Action) (k : Nat) (p q : Point) : Prop where
  tells : Tells (c.entry a) p (c.sets a) { ws := c'.shared, point := q }
  actor : (Client.actor a = some k ∧ ∃ t, c.tasks[k]? = some t ∧ t.point = p) ∨
    (Client.actor a = none ∧ k = c.tasks.length ∧ p = .done false)
  tasks : ∀ (j : Nat) (u : AsyncTask), c'.tasks[j]? = some u →
    (j = k ∧ u.point = q) ∨
    (j ≠ k ∧ ∃ v, c.tasks[j]? = some v ∧ u.kind = v.kind ∧ u.point = v.point) ∨
    (c.tasks.length ≤ j ∧ u.point.starting = true)

section Steps
variable {c c' : Client} {k : Nat} {t : AsyncTask} {a : Action}

theorem told_of_moved {kind : Kind} {w : WebSocket} {p q : Point}
    (hm : Client.Moved c c' k kind w q)
    (hs : Tells (c.entry a) p (c.sets a) { ws := w, point := q })
    (ha : (Client.actor a = some k ∧ ∃ t, c.tasks[k]? = some t ∧ t.point = p) ∨
      (Client.actor a = none ∧ k = c.tasks.length ∧ p = .done false)) : Told c c' a k p q := by
  refine ⟨hm.shared ▸ hs, ha, fun j u hj => ?_⟩
  rcases hm.tasks j u hj with ⟨hjk, -, hp⟩ | ⟨hjk, hv⟩
  · exact .inl ⟨hjk, hp⟩
  · exact .inr (.inl ⟨hjk, hv⟩)

/-- The state passed by a task that is resumed, or to which something happens. -/
theorem sets_of_actor (ha : Client.actor a = some k) (ht : c.tasks[k]? = some t) :
    c.sets a = match WebSocket.awaits t.point with
      | some u => c.shared.awaitedSets (c.waitRaised k u) t.point
      | none =>
        if t.cancelled then none
        else if a = .resume k then c.shared.resumeSets t.point
        else c.shared.reactSets a t.point := by
  have hne : a ≠ .connect ∧ ∀ args, a ≠ .close args := by
    constructor
    · rintro rfl
      cases ha
    · rintro args rfl
      cases ha
  unfold Client.sets
  cases a with
  | connect => exact (hne.1 rfl).elim
  | close args => exact (hne.2 args rfl).elim
  | _ =>
    simp only [ha, Option.bind_some, ht]

theorem entry_of_actor (ha : Client.actor a = some k) : c.entry a = c.shared := by
  cases a with
  | connect | close => cases ha
  | _ => rfl

/-- A move tells what its method tells. -/
theorem tells_of_moves (ht : c.tasks[k]? = some t) {m : Move} (hm : Client.Moves c k t a m) :
    Client.actor a = some k ∧ Tells (c.entry a) t.point (c.sets a) m := by
  cases hm with
  | cancelled hc hw =>
    refine ⟨rfl, ?_⟩
    rw [sets_of_actor rfl ht, hw]
    dsimp only
    rw [if_pos hc]
    exact .finish
  | resumed hc hw hm =>
    refine ⟨rfl, ?_⟩
    rw [sets_of_actor rfl ht, hw]
    dsimp only
    rw [if_neg (by simp [hc]), if_pos rfl]
    exact resume_tells hm
  | @awaited u raised _ hw hu hm =>
    refine ⟨rfl, ?_⟩
    have hr : c.waitRaised k u = raised := by
      unfold Client.waitRaised
      rcases hu with ⟨rfl, rfl⟩ | ⟨s, hs, hp⟩
      · simp
      · by_cases huk : u = k
        · subst huk
          obtain rfl := Option.some.inj (hs.symm.trans ht)
          rw [hp] at hw
          cases hw
        · rw [hs]
          cases raised <;> simp [huk, hp]
    rw [sets_of_actor rfl ht, hw]
    dsimp only
    rw [hr]
    exact awaited_tells hm
  | reacts ha hc hm =>
    refine ⟨ha, ?_⟩
    have hw : WebSocket.awaits t.point = none := by
      generalize t.point = p at hm
      cases hm <;> rfl
    have hne : a ≠ .resume k := by
      rintro rfl
      cases hm
    rw [sets_of_actor ha ht, hw, entry_of_actor ha]
    dsimp only
    rw [if_neg (by simp [hc]), if_neg hne]
    exact reacts_tells hm

/-- The start of a connection's tasks tells nothing. -/
theorem tells_startTasks {w : WebSocket} {p : Point} {fresh : Nat} :
    Tells w p none { ws := (w.startTasks fresh).1, point := .done false } := by
  unfold WebSocket.startTasks
  dsimp only
  refine ⟨?_, ?_, ?_, .inl ⟨?_, rfl⟩, fun r hr => (by cases hr), fun r hr => (by cases hr),
    fun h => (by cases h), fun h => (by cases h), ?_, fun _ ht => ?_, fun h => (by cases h)⟩
  case refine_6 => split <;> split <;> exact ht
  all_goals
    split <;> split <;> rfl

theorem told_start (ht : c.tasks[k]? = some t) (hc : t.cancelled = false)
    (hs : c.shared.starts t.point = true) :
    Told c (c.start k t.kind) (.resume k) k t.point (.done false) := by
  have hk : k < c.tasks.length := (List.getElem?_eq_some_iff.mp ht).1
  refine ⟨?_, .inl ⟨rfl, t, ht, rfl⟩, fun j u hj => ?_⟩
  · have hsets : c.sets (.resume k) = none := by
      rw [sets_of_actor rfl ht]
      generalize t.point = p at hs
      cases p with
      | connectedEmit b | replaying => simp [WebSocket.awaits, WebSocket.resumeSets, hc]
      | _ => cases hs
    rw [hsets]
    exact tells_startTasks
  · rcases Pool.getElem?_move hk hj with ⟨rfl, rfl⟩ | ⟨hne, hu⟩ | ⟨i, rfl, hi⟩
    · exact .inl ⟨rfl, rfl⟩
    · exact .inr (.inl ⟨hne, u, hu, rfl, rfl⟩)
    · refine .inr (.inr ⟨Nat.le_add_right _ _, ?_⟩)
      have hi : (c.shared.startTasks c.tasks.length).2[i]? = some u := hi
      rcases Client.mem_startTasks hi with rfl | rfl | ⟨rfl, -⟩ <;> rfl

/-- **What a step tells.** -/
theorem step_told (h : c.step a = some c') : ∃ k p q, Told c c' a k p q := by
  rcases Client.step_cases h with ⟨d, rfl, rfl⟩ | ⟨l, rfl, rfl⟩ | ⟨rfl, rfl⟩ | ⟨args, rfl, rfl⟩ |
    ⟨k, t, rfl, ht, hc, hst, rfl⟩ | ⟨k, t, m, ht, hm, rfl⟩
  · exact ⟨_, _, _, told_of_moved (q := .done true) Client.moved_share
      (Tells.from (v := { c.shared with now := _ }) .raise
          rfl rfl rfl rfl rfl (fun _ => id)) (.inr ⟨rfl, rfl, rfl⟩)⟩
  · exact ⟨_, _, _, told_of_moved (q := .done true) Client.moved_share
      (Tells.from (v := c.shared.setLink l _) .raise
          rfl rfl rfl rfl rfl (fun _ => id)) (.inr ⟨rfl, rfl, rfl⟩)⟩
  · refine ⟨_, _, _, told_of_moved Client.moved_enter ?_ (.inr ⟨rfl, rfl, rfl⟩)⟩
    by_cases hs : c.shared.state = .idle ∨ c.shared.state = .disconnected
    · have h := connect_tells hs
      unfold Client.entry
      dsimp only
      rw [if_pos hs]
      exact h.congr rfl rfl
    · have h := connect_tells_refused hs
      unfold Client.entry
      dsimp only
      rw [if_neg hs]
      exact h.congr rfl rfl
  · have h := close_tells (w := c.shared) args
    exact ⟨_, _, _, told_of_moved Client.moved_enter
      (h.congr rfl rfl)
      (.inr ⟨rfl, rfl, rfl⟩)⟩
  · exact ⟨k, _, _, told_start ht hc hst⟩
  · have hk : k < c.tasks.length := (List.getElem?_eq_some_iff.mp ht).1
    obtain ⟨ha, htells⟩ := tells_of_moves ht hm
    exact ⟨k, _, _, told_of_moved (Client.moved_run hk) htells.settle (.inl ⟨ha, t, ht, rfl⟩)⟩

end Steps
end JetSocket.Manager
