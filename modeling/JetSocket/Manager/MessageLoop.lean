import JetSocket.Heartbeat
import JetSocket.Manager.Replay
import Mathlib.Algebra.GroupWithZero.Nat

/- What the message loop does with the frames of one connection (`manager.py`, `_message_loop`,
   the body behind `recv`).

   A frame leaves the body by one of six ways: as a Pong, at a deserializer or a matcher that
   raises, as an application's pong, or to the queue, with or without something suppressed while it
   is buffered. The deserializer and the matcher are the user's, and what they come to is given
   with every frame, as are the times. A handler that raises is passed over by `emit_async`, so the
   outcomes of the handlers are given too, by event and by how many were emitted before it. How the
   loop ends, at a `recv` that raises, belongs to `_handle_disconnect`.

   Correspondence (Python ↔ Lean):
     `_message_loop`           ↔ `messageLoop`, its body `handleFrame`, the inner `try` `process`
     `_handle_pong`            ↔ `handlePong`
     `on_application_message`  ↔ `checkPong`, which is `HeartbeatManager.onApplicationMessage`
                                 (`checkPong_eq`)
     `_emit`, `emit_async`     ↔ `emit`
     `record_message_received` ↔ `recordMessageReceived`
     `record_error`            ↔ `recordError`

   Result: `messageLoop_accounts`. -/
namespace JetSocket.Manager
open JetSocket.Core JetSocket.Buffer

/-- A frame that `recv` returned, when, and what the user's functions make of it: the value
deserialized from its payload (Python's `None` is one), and the truth of `pong_matcher(value)`. -/
structure Arrival (α : Type) where
  frame : Frame
  now : ℚ
  deserialized : Except Exc (Option α)
  matched : Except Exc Bool

/-- The events of the loop, apart from those of the buffer. -/
inductive LoopEvent (α : Type) where
  | pong (payload : Bytes) (latencyMs : Option ℚ)
  | rawMessage (data : Bytes) (opcode : UInt8)
  | message (data : Option α) (raw : Bytes)
  | error (e : Exc) (fatal : Bool)

/-- The fields of `WebSocket` that the loop reads and writes. `messageQueue` is all that was put
on the queue, `dropped` what handlers raised; the error count is the one of `replayer`. -/
structure LoopData (α σ : Type) where
  heartbeat : Option (HeartbeatManager (Option α))
  replayer : Replayer α σ
  messageQueue : List (Option α)
  messagesReceived : Nat
  bytesReceived : Nat
  emitted : List (LoopEvent α)
  dropped : List Exc

/-- What the handlers of an event come to, in their order. -/
abbrev HandlerOutcomes (α : Type) := Nat → LoopEvent α → List (Except Exc Unit)

namespace LoopData
variable {α σ : Type}

/-- `_stats.errors`. -/
def errors (s : LoopData α σ) : Nat := s.replayer.errors

/-- `_stats.record_error`. -/
def recordError (s : LoopData α σ) : LoopData α σ :=
  { s with replayer := { s.replayer with errors := s.replayer.errors + 1 } }

/-- `_stats.record_message_received`. -/
def recordMessageReceived (s : LoopData α σ) (byteCount : Nat) : LoopData α σ :=
  { s with
    messagesReceived := s.messagesReceived + 1
    bytesReceived := s.bytesReceived + byteCount }

/-- What a handler raised, if it did. -/
def raisedBy : Except Exc Unit → Option Exc
  | .ok _ => none
  | .error e => some e

/-- `_emit`: every handler is called, and what one raises is passed over. -/
def emit (handlers : HandlerOutcomes α) (s : LoopData α σ) (e : LoopEvent α) : LoopData α σ :=
  { s with
    emitted := s.emitted ++ [e]
    dropped := s.dropped ++ (handlers s.emitted.length e).filterMap raisedBy }

/-- `_handle_pong`. -/
def handlePong (handlers : HandlerOutcomes α) (s : LoopData α σ) (now : ℚ) (payload : Bytes) :
    LoopData α σ :=
  match s.heartbeat with
  | some m =>
    let r := m.onPong now payload
    { s with heartbeat := some r.1 }.emit handlers (.pong payload r.2)
  | none => s.emit handlers (.pong payload none)

/-- `self._heartbeat is not None and self._heartbeat.on_application_message(data)`. -/
def checkPong (heartbeat : Option (HeartbeatManager (Option α))) (a : Arrival α) :
    Except Exc (Option (HeartbeatManager (Option α)) × Bool) :=
  match heartbeat with
  | none => .ok (none, false)
  | some m =>
    match m.config.pongMatcher, a.matched with
    | none, _ => .ok (some m, false)
    | some _, .error e => .error e
    | some _, .ok false => .ok (some m, false)
    | some _, .ok true =>
      match m.lastPingTime with
      | none => .ok (some m, true)
      | some sent => .ok (some (m.recordLatency a.now sent), true)

variable [DecidableEq σ]

/-- The inner `try`, with the exception that leaves it, if any. -/
def process (handlers : HandlerOutcomes α) (s : LoopData α σ) (a : Arrival α) :
    LoopData α σ × Option Exc :=
  match a.deserialized with
  | .error e => (s, some e)
  | .ok data =>
    match checkPong s.heartbeat a with
    | .error e => (s, some e)
    | .ok (heartbeat, true) => ({ s with heartbeat }, none)
    | .ok (heartbeat, false) =>
      let s := { s with heartbeat, replayer := s.replayer.trackReceivedMessage data }
      let s := s.emit handlers (.message data a.frame.payload)
      let s := { s with messageQueue := s.messageQueue ++ [data] }
      (s.recordMessageReceived a.frame.payload.length, none)

/-- The body of the loop, for a frame that `recv` returned. -/
def handleFrame (handlers : HandlerOutcomes α) (s : LoopData α σ) (a : Arrival α) :
    LoopData α σ :=
  if a.frame.opcode = .pong then s.handlePong handlers a.now a.frame.payload
  else
    let s := s.emit handlers (.rawMessage a.frame.payload a.frame.opcode.value)
    match s.process handlers a with
    | (s, none) => s
    | (s, some e) => s.recordError.emit handlers (.error e false)

/-- The loop, over the frames that `recv` returns. -/
def messageLoop (handlers : HandlerOutcomes α) (s : LoopData α σ) (as : List (Arrival α)) :
    LoopData α σ :=
  as.foldl (fun s a => s.handleFrame handlers a) s

omit [DecidableEq σ] in
/-- The matcher is asked as `on_application_message` asks it. -/
theorem checkPong_eq (m : HeartbeatManager (Option α)) (data : Option α) (a : Arrival α)
    (h : ∀ f, m.config.pongMatcher = some f → f data = a.matched) :
    checkPong (some m) a = (m.onApplicationMessage a.now data).map (fun r => (some r.1, r.2)) := by
  unfold checkPong HeartbeatManager.onApplicationMessage
  cases hm : m.config.pongMatcher with
  | none =>
    simp only [hm]
    rfl
  | some f =>
    have hf := h f hm
    cases hmatched : a.matched with
    | error e =>
      simp only [hm, hf, hmatched]
      rfl
    | ok b =>
      simp only [hm, hf, hmatched]
      cases b with
      | false => rfl
      | true => cases m.lastPingTime <;> rfl

end LoopData

/-! ## What becomes of a frame -/

/-- The ways a frame can take. -/
inductive Route (α : Type) where
  | pong
  | failed (e : Exc)
  | applicationPong
  | delivered (data : Option α)

/-- The way of a frame; `matching`: there is a matcher. -/
def Arrival.route {α : Type} (matching : Bool) (a : Arrival α) : Route α :=
  if a.frame.opcode = .pong then .pong
  else
    match a.deserialized with
    | .error e => .failed e
    | .ok data =>
      if matching then
        match a.matched with
        | .error e => .failed e
        | .ok true => .applicationPong
        | .ok false => .delivered data
      else .delivered data

namespace Route
variable {α : Type}

/-- The value for the queue. -/
def value : Route α → Option (Option α)
  | .delivered data => some data
  | _ => none

def isDelivered (r : Route α) : Bool := r.value.isSome

/-- The processing of the frame raised. -/
def isFailed : Route α → Bool
  | .failed _ => true
  | _ => false

end Route

namespace LoopData
variable {α σ : Type} [DecidableEq σ] {handlers : HandlerOutcomes α} {s : LoopData α σ}

omit [DecidableEq σ] in
/-- There is a matcher. -/
def matching (s : LoopData α σ) : Bool := (s.heartbeat.bind (fun m => m.config.pongMatcher)).isSome

/-- What one frame adds: its value to the queue, and to the counts. -/
structure Adds (s s' : LoopData α σ) (values : List (Option α)) (bytes failures : Nat) : Prop where
  messageQueue : s'.messageQueue = s.messageQueue ++ values
  messagesReceived : s'.messagesReceived = s.messagesReceived + values.length
  bytesReceived : s'.bytesReceived = s.bytesReceived + bytes
  errors : s'.errors = s.errors + failures
  matching : s'.matching = s.matching

omit [DecidableEq σ] in
theorem Adds.trans {s s' s'' : LoopData α σ} {vs vs' : List (Option α)} {b b' f f' : Nat}
    (h : Adds s s' vs b f) (h' : Adds s' s'' vs' b' f') :
    Adds s s'' (vs ++ vs') (b + b') (f + f') where
  messageQueue := by rw [h'.messageQueue, h.messageQueue, List.append_assoc]
  messagesReceived := by
    rw [h'.messagesReceived, h.messagesReceived, List.length_append, Nat.add_assoc]
  bytesReceived := by rw [h'.bytesReceived, h.bytesReceived, Nat.add_assoc]
  errors := by rw [h'.errors, h.errors, Nat.add_assoc]
  matching := h'.matching.trans h.matching

omit [DecidableEq σ] in
/-- What only moves the heartbeat, with its matcher kept, or the events adds nothing. -/
theorem Adds.nothing {s s' : LoopData α σ} (hq : s'.messageQueue = s.messageQueue)
    (hm : s'.messagesReceived = s.messagesReceived) (hb : s'.bytesReceived = s.bytesReceived)
    (he : s'.errors = s.errors) (hp : s'.matching = s.matching) : Adds s s' [] 0 0 :=
  ⟨by rw [hq, List.append_nil], hm, hb, he, hp⟩

omit [DecidableEq σ] in
theorem emit_adds (handlers : HandlerOutcomes α) (s : LoopData α σ) (e : LoopEvent α) :
    Adds s (s.emit handlers e) [] 0 0 :=
  .nothing rfl rfl rfl rfl rfl

omit [DecidableEq σ] in
theorem recordError_adds : Adds s s.recordError [] 0 1 :=
  ⟨(List.append_nil _).symm, rfl, rfl, rfl, rfl⟩

omit [DecidableEq σ] in
/-- A Pong is noted by the heartbeat, whose configuration stays. -/
theorem onPong_config {T : Type} (m : HeartbeatManager T) (now : ℚ) (payload : Bytes) :
    (m.onPong now payload).1.config = m.config := by
  unfold HeartbeatManager.onPong
  split
  · rfl
  · split <;> rfl

omit [DecidableEq σ] in
theorem handlePong_adds (now : ℚ) (payload : Bytes) :
    Adds s (s.handlePong handlers now payload) [] 0 0 := by
  unfold handlePong
  cases hm : s.heartbeat with
  | none => exact emit_adds handlers s _
  | some m =>
    have hmatching : matching { s with heartbeat := some (m.onPong now payload).1 } = s.matching := by
      unfold matching
      rw [hm, Option.bind_some, Option.bind_some, onPong_config]
    have hheart : Adds s { s with heartbeat := some (m.onPong now payload).1 } [] 0 0 :=
      .nothing rfl rfl rfl rfl hmatching
    exact hheart.trans (emit_adds handlers _ _)

/-- What buffering suppresses is not counted. -/
theorem track_errors (w : Replayer α σ) (data : Option α) :
    (w.trackReceivedMessage data).errors = w.errors := by
  unfold Replayer.trackReceivedMessage
  split
  · dsimp only
    split <;> rfl
  · rfl

omit [DecidableEq σ] in
/-- The outcomes of the matcher's check, by the way of the frame. -/
theorem checkPong_route {a : Arrival α} {data : Option α} (hopcode : a.frame.opcode ≠ .pong)
    (hd : a.deserialized = .ok data) :
    (∃ e, checkPong s.heartbeat a = .error e ∧ a.route s.matching = .failed e) ∨
    ∃ heartbeat b, checkPong s.heartbeat a = .ok (heartbeat, b) ∧
      matching { s with heartbeat } = s.matching ∧
      a.route s.matching = if b then .applicationPong else .delivered data := by
  have hroute : a.route s.matching =
      if s.matching then
        match a.matched with
        | .error e => .failed e
        | .ok true => .applicationPong
        | .ok false => .delivered data
      else .delivered data := by
    unfold Arrival.route
    rw [if_neg hopcode, hd]
  rw [hroute]
  unfold checkPong matching
  cases hm : s.heartbeat with
  | none => exact .inr ⟨none, false, rfl, rfl, rfl⟩
  | some m =>
    cases hp : m.config.pongMatcher with
    | none => exact .inr ⟨some m, false, by simp only [hp], rfl, by simp [hp]⟩
    | some f =>
      cases hmatched : a.matched with
      | error e => exact .inl ⟨e, by simp only [hp], by simp [hp]⟩
      | ok b =>
        cases b with
        | false => exact .inr ⟨some m, false, by simp only [hp], rfl, by simp [hp]⟩
        | true =>
          cases hping : m.lastPingTime with
          | none =>
            exact .inr ⟨some m, true, by simp only [hp, hping], rfl, by simp [hp]⟩
          | some sent =>
            exact .inr ⟨some (m.recordLatency a.now sent), true, by simp only [hp, hping], rfl,
              by simp [hp]⟩

/-- **The inner `try`**: what it adds, and the exception that leaves it. -/
theorem process_adds (handlers : HandlerOutcomes α) (s : LoopData α σ) {a : Arrival α}
    (hopcode : a.frame.opcode ≠ .pong) :
    Adds s (s.process handlers a).1 (a.route s.matching).value.toList
        (if (a.route s.matching).isDelivered then a.frame.payload.length else 0) 0 ∧
      ((s.process handlers a).2.isSome = (a.route s.matching).isFailed) := by
  unfold process
  cases hd : a.deserialized with
  | error e =>
    have hroute : a.route s.matching = .failed e := by
      unfold Arrival.route
      rw [if_neg hopcode, hd]
    rw [hroute]
    exact ⟨.nothing rfl rfl rfl rfl rfl, rfl⟩
  | ok data =>
    obtain ⟨e, hcheck, hroute⟩ | ⟨heartbeat, b, hcheck, hmatching, hroute⟩ :=
      checkPong_route (s := s) hopcode hd
    · rw [hroute]
      simp only [hcheck]
      exact ⟨.nothing rfl rfl rfl rfl rfl, rfl⟩
    · rw [hroute]
      simp only [hcheck]
      cases b with
      | true => exact ⟨.nothing rfl rfl rfl rfl hmatching, rfl⟩
      | false =>
        refine ⟨⟨rfl, rfl, rfl, ?_, hmatching⟩, rfl⟩
        exact track_errors s.replayer data

/-- **One frame**, by the way that it takes. -/
theorem handleFrame_adds (handlers : HandlerOutcomes α) (s : LoopData α σ) (a : Arrival α) :
    Adds s (s.handleFrame handlers a) (a.route s.matching).value.toList
      (if (a.route s.matching).isDelivered then a.frame.payload.length else 0)
      (if (a.route s.matching).isFailed then 1 else 0) := by
  unfold handleFrame
  by_cases hopcode : a.frame.opcode = .pong
  · have hroute : a.route s.matching = .pong := if_pos hopcode
    rw [if_pos hopcode, hroute]
    exact handlePong_adds a.now a.frame.payload
  · rw [if_neg hopcode]
    have hraw := emit_adds handlers s (.rawMessage a.frame.payload a.frame.opcode.value)
    obtain ⟨hprocess, hraised⟩ := process_adds handlers
      (s.emit handlers (.rawMessage a.frame.payload a.frame.opcode.value)) hopcode
    rw [hraw.matching] at hprocess hraised
    have hadds := hraw.trans hprocess
    rw [List.nil_append, Nat.zero_add, Nat.add_zero] at hadds
    rw [← hraised]
    dsimp only
    split
    · rename_i s' heq
      rw [heq] at hadds ⊢
      exact hadds
    · rename_i s' e heq
      rw [heq] at hadds ⊢
      have hend := hadds.trans (recordError_adds.trans (emit_adds handlers _ (.error e false)))
      simpa using hend

/-- **Message-loop accounting**: the values that the frames deserialize to are put on the queue in
the order of the frames, without Pongs, application pongs and frames whose processing raised; the
counts grow with them, and the error count with those that raised. -/
theorem messageLoop_accounts (handlers : HandlerOutcomes α) (s : LoopData α σ)
    (as : List (Arrival α)) :
    Adds s (s.messageLoop handlers as) (as.filterMap (fun a => (a.route s.matching).value))
      ((as.filter (fun a => (a.route s.matching).isDelivered)).map
        (fun a => a.frame.payload.length)).sum
      (as.countP (fun a => (a.route s.matching).isFailed)) := by
  unfold messageLoop
  induction as generalizing s with
  | nil => exact .nothing rfl rfl rfl rfl rfl
  | cons a as ih =>
    have hone := handleFrame_adds handlers s a
    have hrest := ih (s.handleFrame handlers a)
    rw [hone.matching] at hrest
    have hboth := hone.trans hrest
    rw [Nat.add_comm _ (List.countP _ as)] at hboth
    rw [List.foldl_cons, List.filterMap_cons, List.filter_cons, List.countP_cons]
    generalize a.route s.matching = r at hboth ⊢
    cases r with
    | delivered data =>
      simpa [Route.value, Route.isDelivered, Route.isFailed] using hboth
    | pong | failed | applicationPong =>
      simpa [Route.value, Route.isDelivered, Route.isFailed] using hboth

end LoopData
end JetSocket.Manager
