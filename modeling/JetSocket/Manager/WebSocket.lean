import JetSocket.Transport.Connect
import JetSocket.State
import JetSocket.Backoff

/- The WebSocket object and its methods (`manager.py`), cut where they suspend.

   A coroutine of the manager runs from one suspension to the next; `Point` says where it
   is suspended, with the locals it still needs, and every method here computes a `Move`:
   the object, the point where the running task suspends next, and the task it cancelled.
   All calls between the methods are tail calls, so a point needs no stack. Every `await` on
   handlers (`_emit`) is a point of its own: handlers may be coroutines, and may take as long
   as they like.

   Correspondence (Python ↔ Lean):
     `_connect_internal`          ↔ `connectInternal`, `announceConnecting`, `openTransport`,
                                    `connectFailed`, `afterError`, `connectReturned`,
                                    `established`, `announceConnected`, `afterConnected`,
                                    `starts`, `startTasks`
     `_schedule_reconnect`        ↔ `scheduleReconnect`, `announceExhausted`,
                                    `announceReconnecting`, `beginBackoff`, `afterBackoff`
     `_handle_disconnect`         ↔ `handleDisconnect`, `afterStop`, `cancelAge`, `afterAge`,
                                    `announceDisconnected`, `afterDisconnected`,
                                    `announceClosed`
     `close`                      ↔ `close` and the functions named `close...`
     `_message_loop`              ↔ `loopStart`, `loopTop`, `received`, `handled`, `lost`
     `_heartbeat_loop`, `_send_ping`, `_handle_heartbeat_timeout`
                                  ↔ `sendPing`, `pongArrived`, `pongTimedOut`, `beatTimeout`
     `_connection_age_timer`      ↔ `ageOver`, `ageTimeout`
     `_set_state`, `_emit`        ↔ `setState`, `emitAt`

   A transport is its number in `links`. A `HeartbeatManager` is started once, so the number
   of its task stands for it; `beats` has its `_running`, and whether `_task` is set. What a
   transport does inside `connect`, `recv` and `close` is in the modules of the transport:
   the ends of these calls are arguments here. The replay of `_replay_on_reconnect`, which
   reads nothing but the state, is one point. Sleeps and timeouts may end at any time. -/
namespace JetSocket.Manager
open JetSocket.Transport

/-- An `AsyncTransport`: its socket, and the two flags the manager's calls depend on. -/
structure Link where
  isOpen : Bool
  connected : Bool
  closing : Bool
  closeCode : Option Nat
  deriving DecidableEq, Repr

structure Settings where
  reconnect : Bool
  heartbeat : Bool
  maxConnectionAge : Bool
  replay : Bool
  pow : FloatPow
  uniform : ℚ → ℚ

/-- A `HeartbeatManager`: `_running`, and `_task is not None`. -/
structure Beat where
  running : Bool
  held : Bool
  deriving DecidableEq, Repr

/-- The arguments of `_handle_disconnect`. -/
structure Loss where
  code : Nat
  reason : String
  wasClean : Bool
  deriving DecidableEq, Repr

/-- The arguments of `close`. -/
structure CloseArgs where
  code : Nat
  reason : String
  deriving DecidableEq, Repr

inductive Event where
  | stateChange (oldState newState : ConnectionState)
  | connecting (attempt : Nat)
  | connected
  | reconnected (attempt : Nat)
  | disconnected (loss : Loss)
  | reconnecting (attempt : Nat) (delay : ℚ) (lastError : Option Exc)
  | closing (args : CloseArgs)
  | closed (code : Nat) (reason : String)
  | error (e : Exc) (fatal : Bool)
  | rawMessage
  | message
  | bufferOverflow
  | ping
  | pong
  | replay
  deriving DecidableEq

structure WebSocket where
  settings : Settings
  now : ℚ
  state : ConnectionState
  transport : Option Nat
  backoff : BackoffStrategy
  heartbeat : Option Nat
  messageTask : Option Nat
  ageTask : Option Nat
  running : Bool
  userClosed : Bool
  attempt : Nat
  lastError : Option Exc
  links : List Link
  beats : Nat → Beat
  emitted : List Event

/-- What the message loop waits for in the handlers of one message. -/
inductive Handling where
  | raw
  | overflow
  | message
  | failed
  | pong
  deriving DecidableEq, Repr

/-- Where a coroutine of the manager is suspended. -/
inductive Point where
  -- `_connect_internal`
  | connectingState
  | connectingEmit
  | opening (link : Nat)
  | handshaking (link : Nat)
  | errorEmit (e : Exc)
  | failedState (e : Exc)
  | reconnectedEmit
  | connectedState (isReconnect : Bool)
  | connectedEmit (isReconnect : Bool)
  | replaying
  -- `_schedule_reconnect`
  | exhaustedState
  | exhaustedEmit
  | reconnectingState
  | reconnectingEmit (delay : ℚ)
  | backingOffState (delay : ℚ)
  | sleeping (delay : ℚ)
  -- `_handle_disconnect`
  | stoppingHeartbeat (loss : Loss) (task : Nat)
  | cancellingAge (loss : Loss) (task : Nat)
  | disconnectedState (loss : Loss)
  | disconnectedEmit (loss : Loss)
  | closedState (loss : Loss)
  | closedEmit
  -- `_message_loop`
  | loopStart
  | receiving (link : Nat)
  | handling (link : Nat) (stage : Handling)
  | fatalErrorEmit (loss : Loss)
  -- `_heartbeat_loop`
  | beatSleep
  | pingEmit
  | awaitingPong
  | timeoutEmit
  -- `_connection_age_timer`
  | ageSleep
  | ageEmit
  -- `close`
  | closingEmit (args : CloseArgs)
  | disconnectingState (args : CloseArgs)
  | closeStopping (args : CloseArgs) (task : Nat)
  | closeCancellingAge (args : CloseArgs) (task : Nat)
  | callingTransport (args : CloseArgs) (link : Nat)
  | closingTransport (args : CloseArgs) (link : Nat)
  | closeAwaitingMessage (args : CloseArgs) (task : Nat)
  | closedByUserState (args : CloseArgs)
  | closedByUserEmit
  | done (raised : Bool)
  deriving DecidableEq

inductive Kind where
  | connect
  | close
  | messageLoop
  | heartbeat
  | ageTimer
  deriving DecidableEq, Repr

/-- An asyncio task; `cancelled`: it will be resumed with `CancelledError`. -/
structure AsyncTask where
  kind : Kind
  point : Point
  cancelled : Bool := false
  deriving DecidableEq

/-- What a run of a coroutine up to its next suspension leaves. -/
structure Move where
  ws : WebSocket
  point : Point
  cancel : Option Nat := none

/-- `except (ConnectionError, HandshakeError, TimeoutError)`. -/
def isCaught : Exc → Bool
  | .connectionError _ | .handshakeError _ _ | .timeoutError _ _ => true
  | _ => false

/-- `_is_fatal_error`. -/
def isFatalError : Exc → Bool
  | .valueError _ | .typeError _ => true
  | .handshakeError _ (some statusCode) => [401, 403, 404, 410].contains statusCode
  | _ => false

/-- `_is_fatal_code`. -/
def isFatalCode (code : Nat) : Bool := [1008, 4401, 4403].contains code

/-- `CloseCode.NORMAL`, `CloseCode.ABNORMAL` and `CloseCode.INTERNAL_ERROR`. -/
def normal : Nat := 1000
def abnormal : Nat := 1006
def internalError : Nat := 1011

namespace WebSocket

def new (settings : Settings) (backoff : BackoffConfig) : WebSocket :=
  { settings, now := 0, state := .idle, transport := none, backoff := BackoffStrategy.new backoff,
    heartbeat := none, messageTask := none, ageTask := none, running := false,
    userClosed := false, attempt := 0, lastError := none, links := [],
    beats := fun _ => { running := true, held := true }, emitted := [] }

/-! ## Suspending -/

def goto (ws : WebSocket) (p : Point) : Move := { ws, point := p }

def log (ws : WebSocket) (e : Event) : WebSocket := { ws with emitted := ws.emitted ++ [e] }

/-- `_emit`, suspended in the handlers. -/
def emitAt (ws : WebSocket) (e : Event) (p : Point) : Move := (ws.log e).goto p

/-- The coroutine returns. -/
def finish (ws : WebSocket) : Move := ws.goto (.done false)

/-- An exception leaves the coroutine. -/
def raise (ws : WebSocket) : Move := ws.goto (.done true)

/-- `_set_state`, and what follows it where the state stays the same. The validity test
has no effect. -/
def setState (ws : WebSocket) (newState : ConnectionState) (p : Point)
    (next : WebSocket → Move) : Move :=
  if newState = ws.state then next ws
  else { ws with state := newState }.emitAt (.stateChange ws.state newState) p

def setLink (ws : WebSocket) (l : Nat) (f : Link → Link) : WebSocket :=
  { ws with links := ws.links.modify l f }

def setBeat (ws : WebSocket) (k : Nat) (f : Beat → Beat) : WebSocket :=
  { ws with beats := Function.update ws.beats k (f (ws.beats k)) }

/-- The socket of a transport is open. -/
def isOpen (ws : WebSocket) (l : Nat) : Bool := (ws.links[l]?.map Link.isOpen).getD false

/-- `transport._connected`. -/
def isConnected (ws : WebSocket) (l : Nat) : Bool := (ws.links[l]?.map Link.connected).getD false

/-- `transport._closing`. -/
def isClosing (ws : WebSocket) (l : Nat) : Bool := (ws.links[l]?.map Link.closing).getD false

/-! ## _schedule_reconnect -/

def announceExhausted (ws : WebSocket) : Move :=
  ws.emitAt (.error (.connectionError "Max reconnection attempts exhausted") true) .exhaustedEmit

def announceReconnecting (ws : WebSocket) : Move :=
  match ws.backoff.nextDelay ws.settings.pow ws.settings.uniform with
  | .error _ => ws.raise
  | .ok (backoff, delay) =>
    { ws with backoff }.emitAt (.reconnecting backoff.attempt delay ws.lastError)
      (.reconnectingEmit delay)

/-- `_schedule_reconnect`. -/
def scheduleReconnect (ws : WebSocket) : Move :=
  if ws.backoff.exhausted then ws.setState .failed .exhaustedState announceExhausted
  else ws.setState .reconnecting .reconnectingState announceReconnecting

def beginBackoff (ws : WebSocket) (delay : ℚ) : Move :=
  ws.setState .backingOff (.backingOffState delay) (fun ws => ws.goto (.sleeping delay))

/-! ## _connect_internal -/

def announceConnecting (ws : WebSocket) : Move :=
  ws.emitAt (.connecting ws.attempt) .connectingEmit

/-- `_connect_internal`. -/
def connectInternal (ws : WebSocket) : Move :=
  { ws with attempt := ws.attempt + 1 }.setState .connecting .connectingState announceConnecting

/-- After the backoff sleep. -/
def afterBackoff (ws : WebSocket) : Move :=
  if !ws.running || ws.userClosed then ws.finish else ws.connectInternal

/-- A new transport, in its `connect`. -/
def openTransport (ws : WebSocket) : Move :=
  let link : Link := { isOpen := false, connected := false, closing := false, closeCode := none }
  { ws with transport := some ws.links.length, links := ws.links ++ [link] }.goto
    (.opening ws.links.length)

/-- `transport.connect` raised. -/
def connectFailed (ws : WebSocket) (e : Exc) : Move :=
  if isCaught e then
    { ws with lastError := some e }.emitAt (.error e (isFatalError e)) (.errorEmit e)
  else ws.raise

/-- The rest of the `except` clause. -/
def afterError (ws : WebSocket) (e : Exc) : Move :=
  if isFatalError e then ws.setState .failed (.failedState e) raise
  else if ws.settings.reconnect then ws.scheduleReconnect
  else ws.setState .failed (.failedState e) raise

def announceConnected (isReconnect : Bool) (ws : WebSocket) : Move :=
  ws.emitAt .connected (.connectedEmit isReconnect)

def established (ws : WebSocket) (isReconnect : Bool) : Move :=
  { ws with backoff := ws.backoff.success ws.now, lastError := none }.setState .connected
    (.connectedState isReconnect) (announceConnected isReconnect)

/-- `transport.connect` returned. -/
def connectReturned (ws : WebSocket) : Move :=
  if 1 < ws.attempt then ws.emitAt (.reconnected ws.attempt) .reconnectedEmit
  else ws.established false

/-- The heartbeat, the age timer and the message loop start, the first of them as task
`fresh`. -/
def startTasks (ws : WebSocket) (fresh : Nat) : WebSocket × List AsyncTask :=
  let beat : List AsyncTask :=
    if ws.settings.heartbeat then [⟨.heartbeat, .beatSleep, false⟩] else []
  let age : List AsyncTask :=
    if ws.settings.maxConnectionAge then [⟨.ageTimer, .ageSleep, false⟩] else []
  let ws := if ws.settings.heartbeat then { ws with heartbeat := some fresh } else ws
  let ws :=
    if ws.settings.maxConnectionAge then { ws with ageTask := some (fresh + beat.length) } else ws
  ({ ws with messageTask := some (fresh + beat.length + age.length) },
    beat ++ age ++ [⟨.messageLoop, .loopStart, false⟩])

/-- Whether a coroutine goes on with `startTasks`, and returns. -/
def starts (ws : WebSocket) : Point → Bool
  | .connectedEmit isReconnect => !(isReconnect && ws.settings.replay)
  | .replaying => true
  | _ => false

/-- After the handlers of `connected`, where messages are replayed. -/
def afterConnected (ws : WebSocket) (isReconnect : Bool) : Option Move :=
  if isReconnect && ws.settings.replay then some (ws.emitAt .replay .replaying) else none

/-! ## _handle_disconnect -/

def announceClosed (loss : Loss) (ws : WebSocket) : Move :=
  ws.emitAt (.closed loss.code loss.reason) .closedEmit

/-- After the handlers of `disconnected`. -/
def afterDisconnected (ws : WebSocket) (loss : Loss) : Move :=
  if ws.settings.reconnect && !ws.userClosed && !isFatalCode loss.code then ws.scheduleReconnect
  else ws.setState .closed (.closedState loss) (announceClosed loss)

def announceDisconnected (loss : Loss) (ws : WebSocket) : Move :=
  ws.emitAt (.disconnected loss) (.disconnectedEmit loss)

/-- The age timer is gone. -/
def afterAge (ws : WebSocket) (loss : Loss) : Move :=
  { ws with ageTask := none }.setState .disconnected (.disconnectedState loss)
    (announceDisconnected loss)

def cancelAge (ws : WebSocket) (loss : Loss) : Move :=
  match ws.ageTask with
  | some task => { ws, point := .cancellingAge loss task, cancel := some task }
  | none => ws.setState .disconnected (.disconnectedState loss) (announceDisconnected loss)

/-- `heartbeat.stop()` returned. -/
def afterStop (ws : WebSocket) (loss : Loss) : Move :=
  match ws.heartbeat with
  | some _ => ws.cancelAge loss
  -- `self._heartbeat.reset()`, set to `None` while this task waited
  | none => ws.raise

/-- `_handle_disconnect`. -/
def handleDisconnect (ws : WebSocket) (loss : Loss) : Move :=
  match ws.heartbeat with
  | some task =>
    let ws := ws.setBeat task (fun b => { b with running := false })
    if (ws.beats task).held then
      { ws, point := .stoppingHeartbeat loss task, cancel := some task }
    else ws.cancelAge loss
  | none => ws.cancelAge loss

/-! ## _message_loop -/

/-- `recv` raised `ConnectionError`. -/
def lost (ws : WebSocket) (msg : String) : Move :=
  { ws with lastError := some (.connectionError msg) }.handleDisconnect
    { code := abnormal, reason := msg, wasClean := false }

/-- The head of the loop, up to the wait in `recv`. -/
def loopTop (ws : WebSocket) : Move :=
  if ws.running && ws.state = .connected then
    match ws.transport with
    | none =>
      let msg := "'NoneType' object has no attribute 'recv'"
      { ws with lastError := some (.attributeError msg) }.emitAt
        (.error (.attributeError msg) true)
        (.fatalErrorEmit { code := internalError, reason := msg, wasClean := false })
    | some l =>
      if ws.isConnected l then ws.goto (.receiving l) else ws.lost "Transport is not connected"
  else ws.finish

/-- `_message_loop`. -/
def loopStart (ws : WebSocket) : Move :=
  match ws.transport with
  | none => ws.finish
  | some _ => ws.loopTop

/-- `recv` returned a frame. -/
def received (ws : WebSocket) (l : Nat) (isPong : Bool) : Move :=
  if isPong then ws.emitAt .pong (.handling l .pong) else ws.emitAt .rawMessage (.handling l .raw)

/-- What the deserializer, the pong matcher and the buffer make of a frame. -/
inductive Outcome where
  | applicationPong
  | message (overflow : Bool)
  | undecodable (e : Exc)
  deriving DecidableEq, Repr

/-- The body of the loop, behind the handlers of `raw_message`. -/
def handled (ws : WebSocket) (l : Nat) : Outcome → Move
  | .applicationPong => ws.loopTop
  | .message true => ws.emitAt .bufferOverflow (.handling l .overflow)
  | .message false => ws.emitAt .message (.handling l .message)
  | .undecodable e => ws.emitAt (.error e false) (.handling l .failed)

/-- The connection's Close frame reached `recv`. -/
def closeFrame (ws : WebSocket) (l code : Nat) : WebSocket :=
  ws.setLink l (fun _ =>
    { isOpen := false, connected := false, closing := true, closeCode := some code })

/-! ## _heartbeat_loop and _connection_age_timer -/

def disconnectTransport (ws : WebSocket) : WebSocket :=
  match ws.transport with
  | some l => ws.setLink l (fun k => { k with connected := false })
  | none => ws

/-- After the interval; `k` is the heartbeat itself. -/
def sendPing (ws : WebSocket) (k : Nat) : Move :=
  if !(ws.beats k).running then ws.finish
  else
    match ws.transport with
    | none => ws.goto .awaitingPong
    | some l =>
      if !ws.state.canSend then ws.goto .awaitingPong
      else if ws.isConnected l then ws.emitAt .ping .pingEmit
      else ws.raise

/-- The wait for the pong is over, in time. -/
def pongArrived (ws : WebSocket) (k : Nat) : Move :=
  if (ws.beats k).running then ws.goto .beatSleep else ws.finish

/-- The wait for the pong timed out. -/
def pongTimedOut (ws : WebSocket) (k : Nat) : Move :=
  if (ws.beats k).running then
    ws.emitAt (.error (.timeoutError "Heartbeat timeout" "pong") true) .timeoutEmit
  else ws.finish

/-- `_handle_heartbeat_timeout`, behind its handlers. -/
def beatTimeout (ws : WebSocket) : Move :=
  ws.disconnectTransport.handleDisconnect
    { code := abnormal, reason := "Heartbeat timeout", wasClean := false }

def ageMessage : String := "Max connection age reached"

/-- `_connection_age_timer`, after its sleep. -/
def ageOver (ws : WebSocket) : Move :=
  if ws.state = .connected then
    ws.emitAt (.closing { code := normal, reason := ageMessage }) .ageEmit
  else ws.finish

/-- `_connection_age_timer`, behind its handlers. -/
def ageTimeout (ws : WebSocket) : Move :=
  ws.disconnectTransport.handleDisconnect
    { code := normal, reason := ageMessage, wasClean := true }

/-! ## close -/

def announceClosedByUser (args : CloseArgs) (ws : WebSocket) : Move :=
  ws.emitAt (.closed args.code args.reason) .closedByUserEmit

/-- The last statements. -/
def closeLast (ws : WebSocket) (args : CloseArgs) : Move :=
  ws.setState .closed (.closedByUserState args) (announceClosedByUser args)

def closeMessageTask (ws : WebSocket) (args : CloseArgs) : Move :=
  match ws.messageTask with
  | some task => { ws, point := .closeAwaitingMessage args task, cancel := some task }
  | none => ws.closeLast args

def closeTransport (ws : WebSocket) (args : CloseArgs) : Move :=
  match ws.transport with
  | some l => ws.goto (.callingTransport args l)
  | none => ws.closeMessageTask args

/-- `transport.close`, up to its wait for the peer. -/
def closeCalled (ws : WebSocket) (args : CloseArgs) (l : Nat) : Move :=
  if !ws.isConnected l || ws.isClosing l then
    { ws with transport := none }.closeMessageTask args
  else (ws.setLink l (fun k => { k with closing := true })).goto (.closingTransport args l)

/-- `transport.close` returned, the socket closed. -/
def closeReturned (ws : WebSocket) (args : CloseArgs) (l : Nat) : Move :=
  { ws.setLink l (fun k => { k with isOpen := false, connected := false }) with
    transport := none }.closeMessageTask args

/-- `close_timeout` is over: `transport.close` is cut off before it closes the socket. -/
def closeCutOff (ws : WebSocket) (args : CloseArgs) : Move :=
  { ws with transport := none }.closeMessageTask args

def closeAge (ws : WebSocket) (args : CloseArgs) : Move :=
  match ws.ageTask with
  | some task => { ws, point := .closeCancellingAge args task, cancel := some task }
  | none => ws.closeTransport args

def closeHeartbeat (ws : WebSocket) (args : CloseArgs) : Move :=
  match ws.heartbeat with
  | some task =>
    let ws := ws.setBeat task (fun b => { b with running := false })
    if (ws.beats task).held then
      { ws, point := .closeStopping args task, cancel := some task }
    else { ws with heartbeat := none }.closeAge args
  | none => ws.closeAge args

/-- `close`. -/
def close (ws : WebSocket) (args : CloseArgs) : Move :=
  let ws := { ws with userClosed := true, running := false }
  if ws.state.isTerminal then ws.finish
  else if ws.state = .connected then ws.emitAt (.closing args) (.closingEmit args)
  else ws.closeHeartbeat args

/-- `connect`. -/
def connect (ws : WebSocket) : Move :=
  if ws.state = .idle ∨ ws.state = .disconnected then
    { ws with userClosed := false, running := true }.connectInternal
  else ws.raise

/-! ## Resuming -/

/-- Coroutine `k`, whose handlers or sleep are over; `none` where something else has to
happen first, or `startTasks` is next. -/
def resume (ws : WebSocket) (k : Nat) : Point → Option Move
  | .connectingState => some ws.announceConnecting
  | .connectingEmit => some ws.openTransport
  | .errorEmit e => some (ws.afterError e)
  | .failedState _ => some ws.raise
  | .reconnectedEmit => some (ws.established true)
  | .connectedState isReconnect => some (ws.announceConnected isReconnect)
  | .connectedEmit isReconnect => ws.afterConnected isReconnect
  | .exhaustedState => some ws.announceExhausted
  | .exhaustedEmit => some ws.finish
  | .reconnectingState => some ws.announceReconnecting
  | .reconnectingEmit delay => some (ws.beginBackoff delay)
  | .backingOffState delay => some (ws.goto (.sleeping delay))
  | .sleeping _ => some ws.afterBackoff
  | .disconnectedState loss => some (ws.announceDisconnected loss)
  | .disconnectedEmit loss => some (ws.afterDisconnected loss)
  | .closedState loss => some (ws.announceClosed loss)
  | .closedEmit => some ws.finish
  | .loopStart => some ws.loopStart
  | .handling l .overflow => some (ws.emitAt .message (.handling l .message))
  | .handling _ .raw => none
  | .handling _ _ => some ws.loopTop
  | .fatalErrorEmit loss => some (ws.handleDisconnect loss)
  | .beatSleep => some (ws.sendPing k)
  | .pingEmit => some (ws.goto .awaitingPong)
  | .timeoutEmit => some ws.beatTimeout
  | .ageSleep => some ws.ageOver
  | .ageEmit => some ws.ageTimeout
  | .closingEmit args =>
    some (ws.setState .disconnecting (.disconnectingState args) (fun ws => ws.closeHeartbeat args))
  | .disconnectingState args => some (ws.closeHeartbeat args)
  | .callingTransport args l => some (ws.closeCalled args l)
  | .closedByUserState args => some (ws.announceClosedByUser args)
  | .closedByUserEmit => some ws.finish
  | _ => none

/-- The task a coroutine waits for. -/
def awaits : Point → Option Nat
  | .stoppingHeartbeat _ task | .cancellingAge _ task => some task
  | .closeStopping _ task | .closeCancellingAge _ task | .closeAwaitingMessage _ task => some task
  | _ => none

/-- A coroutine whose awaited task has ended, by an exception if `raised`. A heartbeat
lets none out. -/
def awaited (ws : WebSocket) (raised : Bool) : Point → Option Move
  | .stoppingHeartbeat loss task =>
    some ((ws.setBeat task (fun b => { b with held := false })).afterStop loss)
  | .cancellingAge loss _ => some (if raised then ws.raise else ws.afterAge loss)
  | .closeStopping args task =>
    some ({ ws.setBeat task (fun b => { b with held := false }) with
      heartbeat := none }.closeAge args)
  | .closeCancellingAge args _ =>
    some (if raised then ws.raise else { ws with ageTask := none }.closeTransport args)
  | .closeAwaitingMessage args _ =>
    some (if raised then ws.raise else { ws with messageTask := none }.closeLast args)
  | _ => none

/-! ## Small facts -/

variable {ws : WebSocket}

/-- A property of both ways `_set_state` can go. -/
theorem setState_cases {Q : Move → Prop} {newState : ConnectionState} {p : Point}
    {next : WebSocket → Move} (same : ws.state = newState → Q (next ws))
    (changed : ws.state ≠ newState →
      Q ({ ws with state := newState }.emitAt (.stateChange ws.state newState) p)) :
    Q (ws.setState newState p next) := by
  unfold setState
  split
  · rename_i h
    exact same h.symm
  · rename_i h
    exact changed (fun he => h he.symm)

end WebSocket
end JetSocket.Manager
