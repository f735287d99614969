import JetSocket.Core.Frame
import JetSocket.Exceptions
import Mathlib.Data.Rat.Defs
import Mathlib.Algebra.Order.Ring.Unbundled.Rat

/- Heartbeats (`heartbeat.py`): the configuration, the latency bookkeeping, and the
   background loop cut where it suspends. Times are rational seconds of the monotonic
   clock, latencies rational milliseconds.

   Correspondence (Python ↔ Lean):
     `HeartbeatConfig`, its `__post_init__`  ↔ `HeartbeatConfig` and its last four fields
     `start`, `stop`, `reset`                ↔ the same names
     `on_pong`, `on_application_message`     ↔ `onPong`, `onApplicationMessage`
     `_heartbeat_loop`                       ↔ `beginPing`, `awaitPong`, `nextCycle`,
                                               `pongTimeout`, its place being `task` -/
namespace JetSocket
open JetSocket.Core

/-- A configuration that passed `__post_init__`. `T` is what messages deserialize to.
`applicationPing`: the function is given; nothing calls it. -/
structure HeartbeatConfig (T : Type) where
  interval : ℚ
  timeout : ℚ
  payload : Bytes
  useWsPing : Bool
  applicationPing : Bool
  pongMatcher : Option (T → Except Exc Bool)
  interval_pos : 0 < interval
  timeout_pos : 0 < timeout
  timeout_lt : timeout < interval
  one_ping : ¬ (applicationPing = true ∧ useWsPing = true)

/-- Where the loop stands: no task, in its sleep, in the `send_ping` callback, in its wait
for a pong, in the `on_timeout` callback, or done. -/
inductive HeartbeatTask where
  | none
  | sleeping (due : ℚ)
  | pinging
  | waiting (deadline : ℚ)
  | timedOut
  | ended
  deriving DecidableEq

/-- `pongEvent`: the flag of the event, if there is one. -/
structure HeartbeatManager (T : Type) where
  config : HeartbeatConfig T
  task : HeartbeatTask
  running : Bool
  lastPingTime : Option ℚ
  lastLatency : Option ℚ
  latencySamples : List ℚ
  pongEvent : Option Bool
  pendingPayload : Option Bytes

namespace HeartbeatManager

variable {T : Type}

/-- `HeartbeatManager.__init__`. -/
def new (config : HeartbeatConfig T) : HeartbeatManager T :=
  { config, task := .none, running := false, lastPingTime := none, lastLatency := none,
    latencySamples := [], pongEvent := none, pendingPayload := none }

/-- `start`, and the loop up to its first sleep. -/
def start (m : HeartbeatManager T) (now : ℚ) : HeartbeatManager T :=
  if m.running then m
  else
    { m with
      running := true
      pongEvent := some false
      task := .sleeping (now + m.config.interval) }

/-- `stop`. -/
def stop (m : HeartbeatManager T) : HeartbeatManager T :=
  { m with running := false, task := .none, pongEvent := none, pendingPayload := none }

/-- `reset`. -/
def reset (m : HeartbeatManager T) : HeartbeatManager T :=
  { m with lastPingTime := none, lastLatency := none, latencySamples := [], pendingPayload := none }

/-- `latency_avg_ms`. -/
def latencyAvgMs (m : HeartbeatManager T) : Option ℚ :=
  if m.latencySamples.isEmpty then none
  else some (m.latencySamples.sum / m.latencySamples.length)

/-- The ping that is out is answered now: its latency is the last and newest sample of
`deque(maxlen=10)`, and the event is set. -/
def recordLatency (m : HeartbeatManager T) (now sent : ℚ) : HeartbeatManager T :=
  let latencyMs := (now - sent) * 1000
  let samples := m.latencySamples ++ [latencyMs]
  { m with
    lastLatency := some latencyMs
    latencySamples := samples.drop (samples.length - 10)
    lastPingTime := none
    pongEvent := m.pongEvent.map (fun _ => true) }

/-- `on_pong`. -/
def onPong (m : HeartbeatManager T) (now : ℚ) (payload : Bytes) :
    HeartbeatManager T × Option ℚ :=
  match m.lastPingTime with
  | none => (m, none)
  | some sent =>
    if m.pendingPayload.isSome ∧ m.pendingPayload ≠ some payload then (m, none)
    else
      ({ m.recordLatency now sent with pendingPayload := none }, some ((now - sent) * 1000))

/-- `on_application_message`; an exception of the matcher leaves it. -/
def onApplicationMessage (m : HeartbeatManager T) (now : ℚ) (data : T) :
    Except Exc (HeartbeatManager T × Bool) :=
  match m.config.pongMatcher with
  | none => .ok (m, false)
  | some pongMatcher =>
    match pongMatcher data with
    | .error e => .error e
    | .ok false => .ok (m, false)
    | .ok true =>
      match m.lastPingTime with
      | none => .ok (m, true)
      | some sent => .ok (m.recordLatency now sent, true)

/-! ## The loop -/

/-- After the sleep, up to the call of `send_ping`. -/
def beginPing (m : HeartbeatManager T) (now : ℚ) : HeartbeatManager T :=
  if m.running then
    { m with
      pongEvent := m.pongEvent.map (fun _ => false)
      pendingPayload := some m.config.payload
      lastPingTime := some now
      task := .pinging }
  else { m with task := .ended }

/-- The end of one turn of the loop: the next sleep, if it still runs. -/
def nextCycle (m : HeartbeatManager T) (now : ℚ) : HeartbeatManager T :=
  { m with task := if m.running then .sleeping (now + m.config.interval) else .ended }

/-- After `send_ping`: wait for a pong, if there is an event to wait for. -/
def awaitPong (m : HeartbeatManager T) (now : ℚ) : HeartbeatManager T :=
  if m.pongEvent.isSome then { m with task := .waiting (now + m.config.timeout) }
  else m.nextCycle now

/-- The wait for a pong times out: `on_timeout` is called. -/
def pongTimeout (m : HeartbeatManager T) (now : ℚ) : HeartbeatManager T :=
  if m.running then { m with task := .timedOut } else m.nextCycle now

end HeartbeatManager
end JetSocket
