import JetSocket.Transport.Delivery
import JetSocket.Heartbeat

/- One connection of a `WebSocket` while it stays connected (`manager.py`): the
   transport, the message loop that reads it, and the heartbeat, each a task of its own,
   in any interleaving.

   Correspondence (Python ↔ Lean):
     `_message_loop`  ↔ `LoopState`, with `loopRecv` for its `recv` and `handleFrame` for
                        the body that follows
     `_handle_pong`   ↔ the PONG branch of `handleFrame`
     `_send_ping`     ↔ `sendPing`
     `_heartbeat_loop` ↔ the last five inputs of `step`

   The loop may be suspended between `recv` and the deserializer, in the handlers of
   `raw_message`. A message loop that ended, and a heartbeat that timed out, belong to
   `_handle_disconnect`, which is not part of this system. -/
namespace JetSocket.Manager
open JetSocket.Core JetSocket.Transport Transition AsyncTransport

/-- Where the message loop stands: not begun, about to call `recv`, in it, with a frame
in hand, or left by an exception. -/
inductive LoopState where
  | idle
  | ready
  | receiving
  | handling (frame : Frame)
  | ended (e : Exc)
  deriving DecidableEq

/-- `connection` keeps the history of what was received; `handled` are the frames the loop
went through so far, and `sincePing` those of them since the last ping. -/
structure Session (Z : Zlib) (T : Type) where
  connection : Trace Z
  now : ℚ
  heartbeat : Option (HeartbeatManager T)
  loop : LoopState
  handled : List Frame
  sincePing : List Frame

/-- What can happen next. -/
inductive SessionInput (Z : Zlib) where
  /-- A callback of the connection, or the end of its handshake. -/
  | network (i : Input Z)
  /-- `connect` returned: the heartbeat and the message loop start. -/
  | connected
  | recv (key : MaskKey)
  | resume (key : MaskKey)
  | readTimeout
  | handle
  | advance (d : ℚ)
  | intervalOver (key : MaskKey)
  | pingHandled
  | pongSeen
  | timeoutOver
  | stopHeartbeat

variable {Z : Zlib} {T : Type}

namespace Session

def start (Z : Zlib) (config : TransportConfig) (request : Bytes)
    (heartbeat : Option (HeartbeatConfig T)) : Session Z T :=
  { connection := Trace.start Z config request, now := 0,
    heartbeat := heartbeat.map HeartbeatManager.new, loop := .idle, handled := [], sincePing := [] }

/-- The message loop, after a run of `recv`. -/
def afterRecv : RecvStop → LoopState
  | .waiting => .receiving
  | .returned frame => .handling frame
  | .raised e => .ended e

/-- `recv` as the message loop calls it and resumes in it; it is task 0. -/
def loopRecv (s : Session Z T) (i : Input Z) : Option (Session Z T) :=
  (s.connection.recvStep i).map (fun r => { s with connection := r.1, loop := afterRecv r.2 })

/-- The body of the message loop, for a frame `recv` returned. -/
def handleFrame (deserializer : Bytes → Except Exc T) (s : Session Z T) (frame : Frame) :
    Session Z T :=
  let s := { s with loop := .ready, handled := s.handled ++ [frame],
                    sincePing := s.sincePing ++ [frame] }
  if frame.opcode = .pong then
    { s with heartbeat := s.heartbeat.map (fun m => (m.onPong s.now frame.payload).1) }
  else
    match deserializer frame.payload, s.heartbeat with
    | .ok data, some m =>
      match m.onApplicationMessage s.now data with
      | .ok (m, _) => { s with heartbeat := some m }
      | .error _ => s
    | _, _ => s

/-- The payloads given to the deserializer. -/
def handed (s : Session Z T) : List Bytes :=
  (s.handled.filter (fun f => f.opcode ≠ .pong)).map Frame.payload

/-- `_send_ping`, connected. -/
def sendPing (c : Trace Z) (payload : Bytes) (key : MaskKey) : Except Exc (Trace Z) :=
  (c.transport.ping payload key).map (fun t => { c with transport := t })

/-- One step. -/
def step (deserializer : Bytes → Except Exc T) (s : Session Z T) :
    SessionInput Z → Option (Session Z T)
  | .network i =>
    match i with
    | .dataReceived _ _ | .connectionLost _ | .finishConnect _ _ =>
      (s.connection.step i).map (fun c => { s with connection := c })
    | _ => none
  | .connected =>
    if s.loop = .idle ∧ s.connection.transport.connected = true then
      some { s with
        loop := .ready, heartbeat := s.heartbeat.map (fun m => m.start s.now) }
    else none
  | .recv key => if s.loop = .ready then s.loopRecv (.recv 0 key) else none
  | .resume key => if s.loop = .receiving then s.loopRecv (.resume 0 key) else none
  | .readTimeout => if s.loop = .receiving then s.loopRecv (.timeout 0) else none
  | .handle =>
    match s.loop with
    | .handling frame => some (s.handleFrame deserializer frame)
    | _ => none
  | .advance d => if 0 ≤ d then some { s with now := s.now + d } else none
  | .intervalOver key =>
    s.heartbeat.bind (fun m =>
      match m.task with
      | .sleeping due =>
        if due ≤ s.now then
          let m := m.beginPing s.now
          if m.task = .pinging then
            match sendPing s.connection m.config.payload key with
            | .ok c => some { s with connection := c, heartbeat := some m, sincePing := [] }
            -- an exception of `send_ping` ends the turn
            | .error _ => some { s with heartbeat := some (m.nextCycle s.now), sincePing := [] }
          else some { s with heartbeat := some m }
        else none
      | _ => none)
  | .pingHandled =>
    s.heartbeat.bind (fun m =>
      if m.task = .pinging then some { s with heartbeat := some (m.awaitPong s.now) } else none)
  | .pongSeen =>
    s.heartbeat.bind (fun m =>
      match m.task, m.pongEvent with
      | .waiting _, some true => some { s with heartbeat := some (m.nextCycle s.now) }
      | _, _ => none)
  | .timeoutOver =>
    s.heartbeat.bind (fun m =>
      match m.task with
      | .waiting deadline =>
        if deadline ≤ s.now then
          -- a wait whose event is set returns, however late
          if m.pongEvent = some true then some { s with heartbeat := some (m.nextCycle s.now) }
          else some { s with heartbeat := some (m.pongTimeout s.now) }
        else none
      | _ => none)
  | .stopHeartbeat => some { s with heartbeat := s.heartbeat.map HeartbeatManager.stop }

/-! ## What a step does -/

/-- The input of the connection behind a step of the message loop in `recv`. -/
def recvInput : SessionInput Z → Option (Input Z)
  | .recv key => some (.recv 0 key)
  | .resume key => some (.resume 0 key)
  | .readTimeout => some (.timeout 0)
  | _ => none

/-- The outcomes of a step. -/
inductive Stepped (deserializer : Bytes → Except Exc T) (s : Session Z T) :
    SessionInput Z → Session Z T → Prop where
  | network {i : Input Z} {c : Trace Z} (hi : ∀ t, recvRun t i = none)
      (h : s.connection.step i = some c) :
      Stepped deserializer s (.network i) { s with connection := c }
  | connected (hidle : s.loop = .idle) :
      Stepped deserializer s .connected { s with
        loop := .ready, heartbeat := s.heartbeat.map (fun m => m.start s.now) }
  | received {i : SessionInput Z} {j : Input Z} {s' : Session Z T} (hi : recvInput i = some j)
      (hloop : s.loop = .ready ∨ s.loop = .receiving) (h : s.loopRecv j = some s') :
      Stepped deserializer s i s'
  | handled {f : Frame} (hloop : s.loop = .handling f) :
      Stepped deserializer s .handle (s.handleFrame deserializer f)
  | advanced {d : ℚ} (hd : 0 ≤ d) :
      Stepped deserializer s (.advance d) { s with now := s.now + d }
  | pinged {key : MaskKey} {m : HeartbeatManager T} {due : ℚ} {c : Trace Z}
      (hm : s.heartbeat = some m) (htask : m.task = .sleeping due) (hdue : due ≤ s.now)
      (hping : (m.beginPing s.now).task = .pinging)
      (h : sendPing s.connection (m.beginPing s.now).config.payload key = .ok c) :
      Stepped deserializer s (.intervalOver key)
        { s with connection := c, heartbeat := some (m.beginPing s.now), sincePing := [] }
  | pingFailed {key : MaskKey} {m : HeartbeatManager T} {due : ℚ} {e : Exc}
      (hm : s.heartbeat = some m) (htask : m.task = .sleeping due) (hdue : due ≤ s.now)
      (hping : (m.beginPing s.now).task = .pinging)
      (h : sendPing s.connection (m.beginPing s.now).config.payload key = .error e) :
      Stepped deserializer s (.intervalOver key)
        { s with heartbeat := some ((m.beginPing s.now).nextCycle s.now), sincePing := [] }
  | notPinged {key : MaskKey} {m : HeartbeatManager T} {due : ℚ}
      (hm : s.heartbeat = some m) (htask : m.task = .sleeping due) (hdue : due ≤ s.now)
      (hping : (m.beginPing s.now).task ≠ .pinging) :
      Stepped deserializer s (.intervalOver key) { s with heartbeat := some (m.beginPing s.now) }
  | waits {m : HeartbeatManager T} (hm : s.heartbeat = some m) (htask : m.task = .pinging) :
      Stepped deserializer s .pingHandled { s with heartbeat := some (m.awaitPong s.now) }
  | wakes {m : HeartbeatManager T} {deadline : ℚ} (hm : s.heartbeat = some m)
      (htask : m.task = .waiting deadline) (hevent : m.pongEvent = some true) :
      Stepped deserializer s .pongSeen { s with heartbeat := some (m.nextCycle s.now) }
  | wakesLate {m : HeartbeatManager T} {deadline : ℚ} (hm : s.heartbeat = some m)
      (htask : m.task = .waiting deadline) (hdue : deadline ≤ s.now)
      (hevent : m.pongEvent = some true) :
      Stepped deserializer s .timeoutOver { s with heartbeat := some (m.nextCycle s.now) }
  | timesOut {m : HeartbeatManager T} {deadline : ℚ} (hm : s.heartbeat = some m)
      (htask : m.task = .waiting deadline) (hdue : deadline ≤ s.now)
      (hevent : m.pongEvent ≠ some true) :
      Stepped deserializer s .timeoutOver { s with heartbeat := some (m.pongTimeout s.now) }
  | stopped :
      Stepped deserializer s .stopHeartbeat
        { s with heartbeat := s.heartbeat.map HeartbeatManager.stop }

variable {deserializer : Bytes → Except Exc T} {s s' : Session Z T} {i : SessionInput Z}

/-- A turn of the heartbeat whose sleep is over. -/
theorem intervalOver_stepped {key : MaskKey} (h : s.step deserializer (.intervalOver key) = some s') :
    Stepped deserializer s (.intervalOver key) s' := by
  obtain ⟨m, hm, h⟩ := Option.bind_eq_some_iff.mp h
  dsimp only at h
  split at h
  · rename_i due htask
    split at h
    · rename_i hdue
      split at h
      · rename_i hping
        split at h
        · rename_i hsent
          cases h
          exact .pinged hm htask hdue hping hsent
        · rename_i hsent
          cases h
          exact .pingFailed hm htask hdue hping hsent
      · rename_i hping
        cases h
        exact .notPinged hm htask hdue hping
    · cases h
  · cases h

/-- **What a step does**, said once. -/
theorem step_stepped (h : s.step deserializer i = some s') : Stepped deserializer s i s' := by
  cases i with
  | network i =>
    cases i with
    | dataReceived | connectionLost | finishConnect =>
      simp only [step] at h
      obtain ⟨c, hc, rfl⟩ := Option.map_eq_some_iff.mp h
      exact .network (fun _ => rfl) hc
    | recv | resume | timeout => cases h
  | connected =>
    simp only [step] at h
    split at h
    · rename_i hidle
      cases h
      exact .connected hidle.1
    · cases h
  | recv key =>
    simp only [step] at h
    split at h
    · exact .received rfl (.inl ‹_›) h
    · cases h
  | resume key | readTimeout =>
    simp only [step] at h
    split at h
    · exact .received rfl (.inr ‹_›) h
    · cases h
  | handle =>
    simp only [step] at h
    split at h
    · cases h
      exact .handled ‹_›
    · cases h
  | advance d =>
    simp only [step] at h
    split at h
    · cases h
      exact .advanced ‹_›
    · cases h
  | intervalOver key => exact intervalOver_stepped h
  | pingHandled =>
    obtain ⟨m, hm, h⟩ := Option.bind_eq_some_iff.mp h
    split at h
    · cases h
      exact .waits hm ‹_›
    · cases h
  | pongSeen =>
    obtain ⟨m, hm, h⟩ := Option.bind_eq_some_iff.mp h
    split at h
    · rename_i htask hevent
      cases h
      exact .wakes hm htask hevent
    · cases h
  | timeoutOver =>
    obtain ⟨m, hm, h⟩ := Option.bind_eq_some_iff.mp h
    split at h
    · rename_i deadline htask
      split at h
      · rename_i hdue
        split at h
        · cases h
          exact .wakesLate hm htask hdue ‹_›
        · cases h
          exact .timesOut hm htask hdue ‹_›
      · cases h
    · cases h
  | stopHeartbeat =>
    cases h
    exact .stopped

end Session
end JetSocket.Manager
