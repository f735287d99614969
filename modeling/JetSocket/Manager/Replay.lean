import JetSocket.Buffer.MessageBuffer

/- Buffering of received messages and their replay (`manager.py`, `buffer.py`).

   Correspondence (Python ↔ Lean):
     `ReplayConfig`, `__post_init__`             ↔ `ReplayConfig`, `ReplayConfig.postInit`
     `_track_received_message`                   ↔ `Replayer.trackReceivedMessage`
     `_replay_on_reconnect`                      ↔ `Replayer.replayOnReconnect`
     the fields of `WebSocket` the two use       ↔ `Replayer`

   What the callbacks and `send` do is a parameter: the outcome of each call. An event that is
   emitted is noted in `emitted`.

   Results:
     `full_replay_iff`     — a replay of the whole buffer loses nothing exactly when every send
                             succeeds and no message is `None`.
     `sequence_replay_iff` — the last id is replayed exactly when a message is still there. -/
namespace JetSocket.Manager
open JetSocket.Buffer

inductive ReplayMode where
  | none
  | sequenceId
  | fullBuffer
  deriving DecidableEq, Repr

/-- `mode`, one of the three names. -/
def ReplayMode.ofName : String → Option ReplayMode
  | "none" => some .none
  | "sequence_id" => some .sequenceId
  | "full_buffer" => some .fullBuffer
  | _ => Option.none

/-- The extractor may raise, and may find no id. -/
structure ReplayConfig (α σ : Type) where
  mode : ReplayMode
  sequenceExtractor : Option (Option α → Except Exc (Option σ))
  onReplay : Option (σ → Except Exc Unit)
  onReplay_some : mode = .sequenceId → onReplay.isSome = true

namespace ReplayConfig
variable {α σ : Type}

/-- `__post_init__`. -/
def postInit (mode : String) (sequenceExtractor : Option (Option α → Except Exc (Option σ)))
    (onReplay : Option (σ → Except Exc Unit)) : Except Exc (ReplayConfig α σ) :=
  match ReplayMode.ofName mode with
  | Option.none => .error (.valueError s!"Invalid replay mode: {mode}")
  | some mode =>
    if h : mode = .sequenceId ∧ onReplay.isNone = true then
      .error (.valueError "on_replay callback is required for sequence_id mode")
    else
      .ok { mode, sequenceExtractor, onReplay,
            onReplay_some := fun hm => by
              cases onReplay with
              | none => exact absurd ⟨hm, rfl⟩ h
              | some f => rfl }

/-- The sequence id of a message: what the extractor raises is suppressed. -/
def extract (c : ReplayConfig α σ) (data : Option α) : Option σ :=
  match c.sequenceExtractor with
  | none => none
  | some extractor =>
    match extractor data with
    | .ok sequenceId => sequenceId
    | .error _ => none

end ReplayConfig

/-- The events of the two methods. -/
inductive ReplayEvent (σ : Type) where
  | bufferOverflow (capacity : Nat) (droppedCount : Int) (policy : OverflowPolicy)
  | replayStarted (mode : ReplayMode) (lastSequenceId : Option σ) (messageCount : Int)
  | replayCompleted (mode : ReplayMode) (replayedCount : Nat)
  | error (e : Exc) (fatal : Bool)
  deriving DecidableEq, Repr

/-- The fields of `WebSocket` that take part. `errors` is what `record_error` counts. -/
structure Replayer (α σ : Type) where
  buffer : Option (MessageBuffer α σ)
  bufferConfig : Option BufferConfig
  replayConfig : Option (ReplayConfig α σ)
  lastDroppedCount : Nat
  errors : Nat
  emitted : List (ReplayEvent σ)

namespace Replayer
variable {α σ : Type} [DecidableEq σ]

/-- `__init__`. -/
def new (bufferConfig : Option BufferConfig) (replayConfig : Option (ReplayConfig α σ)) :
    Replayer α σ :=
  { buffer := bufferConfig.map (fun c => .new (some c)), bufferConfig, replayConfig,
    lastDroppedCount := 0, errors := 0, emitted := [] }

def emit (w : Replayer α σ) (e : ReplayEvent σ) : Replayer α σ :=
  { w with emitted := w.emitted ++ [e] }

/-- `_stats.record_error`, and the event. -/
def emitError (w : Replayer α σ) (e : Exc) : Replayer α σ :=
  { w with errors := w.errors + 1 }.emit (.error e false)

/-- The policy that a `buffer_overflow` event reports. -/
def reportedPolicy (w : Replayer α σ) : OverflowPolicy :=
  w.bufferConfig.elim .dropOldest BufferConfig.overflowPolicy

/-- `_track_received_message`: what `push` raises is suppressed. -/
def trackReceivedMessage (w : Replayer α σ) (data : Option α) : Replayer α σ :=
  match w.buffer, w.replayConfig with
  | some buffer, some config =>
    let sequenceId := config.extract data
    let prevDropped := buffer.totalDropped
    let buffer := (buffer.push data sequenceId).1
    let w := { w with buffer := some buffer }
    if buffer.totalDropped > prevDropped then
      let droppedCount := (buffer.totalDropped : Int) - w.lastDroppedCount
      let w := { w with lastDroppedCount := buffer.totalDropped }
      w.emit (.bufferOverflow buffer.buffer.capacity droppedCount w.reportedPolicy)
    else w
  | _, _ => w

section Track
variable {w : Replayer α σ} {buffer : MessageBuffer α σ} {config : ReplayConfig α σ}

/-- Without a `ReplayConfig` the message is not looked at. -/
theorem track_none (hc : w.replayConfig = none) (data : Option α) :
    w.trackReceivedMessage data = w := by
  unfold trackReceivedMessage
  rw [hc]
  cases w.buffer <;> rfl

/-- The buffer behind the call. -/
theorem track_buffer (hb : w.buffer = some buffer) (hc : w.replayConfig = some config)
    (data : Option α) :
    (w.trackReceivedMessage data).buffer =
      some (buffer.push data (config.extract data)).1 := by
  unfold trackReceivedMessage
  rw [hb, hc]
  simp only
  split <;> rfl

theorem track_config (w : Replayer α σ) (data : Option α) :
    (w.trackReceivedMessage data).replayConfig = w.replayConfig := by
  unfold trackReceivedMessage
  split
  · simp only
    split <;> rfl
  · rfl

end Track

/-- A call that the user makes on `ws.buffer`. -/
def callBuffer (w : Replayer α σ) (op : MessageBuffer.Op α σ) : Replayer α σ :=
  { w with buffer := w.buffer.map (fun buffer => buffer.apply op) }

/-! ## Replay -/

/-- What a replay did: the calls of `on_replay`, and the messages that `send` sent. -/
structure Replayed (α σ : Type) where
  ws : Replayer α σ
  calls : List σ
  sent : List α

/-- The call of `on_replay`, and the number of replayed messages it counts for. -/
def callOnReplay (w : Replayer α σ) (config : ReplayConfig α σ) (lastSeq : Option σ) :
    Replayed α σ × Nat :=
  match lastSeq, config.onReplay with
  | some s, some onReplay =>
    match onReplay s with
    | .ok _ => ({ ws := w, calls := [s], sent := [] }, 1)
    | .error e => ({ ws := w.emitError e, calls := [s], sent := [] }, 0)
  | _, _ => ({ ws := w, calls := [], sent := [] }, 0)

/-- The loop over the drained messages. `send i` is the outcome of the call behind `i` others. -/
def resend (send : Nat → α → Except Exc Unit) (w : Replayer α σ) (sent : List α) :
    List α → Replayed α σ × Nat
  | [] => ({ ws := w, calls := [], sent }, sent.length)
  | msg :: messages =>
    match send sent.length msg with
    | .ok _ => resend send w (sent ++ [msg]) messages
    | .error e => ({ ws := w.emitError e, calls := [], sent }, sent.length)

/-- The part of `_replay_on_reconnect` between its two events. -/
def replay (send : Nat → α → Except Exc Unit) (w : Replayer α σ) (config : ReplayConfig α σ)
    (lastSeq : Option σ) : Replayed α σ × Nat :=
  match config.mode, w.buffer with
  | .sequenceId, _ => w.callOnReplay config lastSeq
  | .fullBuffer, some buffer =>
    resend send { w with buffer := some buffer.drain.1 } [] buffer.drain.2
  | _, _ => ({ ws := w, calls := [], sent := [] }, 0)

/-- `self._buffer`, where its `__bool__` says yes. -/
def nonempty (w : Replayer α σ) : Option (MessageBuffer α σ) :=
  w.buffer.filter (fun buffer => buffer.truth)

/-- `_replay_on_reconnect`. -/
def replayOnReconnect (send : Nat → α → Except Exc Unit) (w : Replayer α σ) : Replayed α σ :=
  match w.replayConfig with
  | none => { ws := w, calls := [], sent := [] }
  | some config =>
    if config.mode = .none then { ws := w, calls := [], sent := [] }
    else
      let lastSeq := w.nonempty.bind (fun buffer => buffer.lastSequenceId)
      let messageCount := w.nonempty.elim 0 (fun buffer => buffer.len)
      let started := w.emit (.replayStarted config.mode lastSeq messageCount)
      let r := started.replay send config lastSeq
      { r.1 with ws := r.1.ws.emit (.replayCompleted config.mode r.2) }

end Replayer

/-! ## Replay of the whole buffer -/

namespace Replayer
variable {α σ : Type}

/-- What the loop sends is what there is, as long as `send` succeeds. -/
theorem resend_sent_iff (send : Nat → α → Except Exc Unit) (w : Replayer α σ) (sent : List α)
    (messages : List α) : (resend send w sent messages).1.sent = sent ++ messages ↔
      ∀ i m, messages[i]? = some m → send (sent.length + i) m = .ok () := by
  induction messages generalizing sent with
  | nil => simp [resend]
  | cons msg messages ih =>
    unfold resend
    cases hsend : send sent.length msg with
    | ok u =>
      have happend : sent ++ msg :: messages = (sent ++ [msg]) ++ messages := by simp
      show (resend send w (sent ++ [msg]) messages).1.sent = _ ↔ _
      rw [happend, ih (sent ++ [msg]), List.length_append, List.length_singleton]
      constructor
      · intro h i m hm
        cases i with
        | zero =>
          obtain rfl : msg = m := Option.some.inj hm
          exact hsend
        | succ i =>
          rw [← h i m hm]
          congr 1
          omega
      · intro h i m hm
        rw [← h (i + 1) m hm]
        congr 1
        omega
    | error e =>
      refine iff_of_false ?_ ?_
      · intro h
        have hlength := congrArg List.length h
        simp at hlength
      · intro h
        have hok := h 0 msg rfl
        rw [Nat.add_zero, hsend] at hok
        cases hok

/-- The count is what was sent, and the buffer is left alone. -/
theorem resend_count (send : Nat → α → Except Exc Unit) (w : Replayer α σ) (sent : List α)
    (messages : List α) :
    (resend send w sent messages).2 = (resend send w sent messages).1.sent.length ∧
      (resend send w sent messages).1.ws.buffer = w.buffer := by
  induction messages generalizing sent with
  | nil => exact ⟨rfl, rfl⟩
  | cons msg messages ih =>
    unfold resend
    cases send sent.length msg with
    | ok u => exact ih (sent ++ [msg])
    | error e => exact ⟨rfl, rfl⟩

/-- The messages sent, then the ones still there, are what there was, and the event counts the
ones sent. -/
structure Lossless (w : Replayer α σ) (r : Replayed α σ) : Prop where
  messages : r.sent.map some ++ (r.ws.buffer.elim [] (·.stored)).map Prod.fst =
    (w.buffer.elim [] (·.stored)).map Prod.fst
  count : ∃ mode, r.ws.emitted.getLast? = some (.replayCompleted mode r.sent.length)

section FullBuffer
variable {w : Replayer α σ} {config : ReplayConfig α σ} {buffer : MessageBuffer α σ}

/-- What a replay of the whole buffer does. -/
theorem replay_full (send : Nat → α → Except Exc Unit) (hc : w.replayConfig = some config)
    (hm : config.mode = .fullBuffer) (hb : w.buffer = some buffer) :
    ((w.replayOnReconnect send).sent = buffer.drain.2 ↔
        ∀ i m, buffer.drain.2[i]? = some m → send i m = .ok ()) ∧
      (w.replayOnReconnect send).ws.buffer = some buffer.drain.1 ∧
      (w.replayOnReconnect send).ws.emitted.getLast? =
        some (.replayCompleted .fullBuffer (w.replayOnReconnect send).sent.length) := by
  unfold replayOnReconnect replay
  simp only [hc, hm, emit, hb]
  refine ⟨?_, ?_, ?_⟩
  · rw [if_neg (by decide)]
    refine (resend_sent_iff send _ [] buffer.drain.2).trans ?_
    simp only [List.length_nil, Nat.zero_add]
  · rw [if_neg (by decide)]
    exact (resend_count send _ [] buffer.drain.2).2
  · rw [if_neg (by decide)]
    rw [← (resend_count send _ [] buffer.drain.2).1]
    exact List.getLast?_concat

/-- The drained messages are the stored ones where none of these is `None`. -/
theorem map_filterMap {xs : List (Option α × Option σ)} (h : ∀ x ∈ xs, x.1 ≠ none) :
    (xs.filterMap Prod.fst).map some = xs.map Prod.fst := by
  induction xs with
  | nil => rfl
  | cons x xs ih =>
    obtain ⟨m, s⟩ := x
    have hm : m ≠ none := h (m, s) List.mem_cons_self
    obtain ⟨a, rfl⟩ := Option.ne_none_iff_exists'.mp hm
    show some a :: (xs.filterMap Prod.fst).map some = some a :: xs.map Prod.fst
    rw [ih (fun x hx => h x (List.mem_cons_of_mem _ hx))]

theorem lossless_iff [DecidableEq σ] (send : Nat → α → Except Exc Unit)
    (hc : w.replayConfig = some config) (hm : config.mode = .fullBuffer)
    (hb : w.buffer = some buffer) (hv : buffer.Valid) :
    Lossless w (w.replayOnReconnect send) ↔
      (w.replayOnReconnect send).sent.map some = buffer.stored.map Prod.fst := by
  obtain ⟨-, hbuffer, hcount⟩ := replay_full send hc hm hb
  have hleft : buffer.drain.1.stored = [] := hv.stores.drain.2.stored_eq
  have hmessages : (w.replayOnReconnect send).sent.map some ++
      ((w.replayOnReconnect send).ws.buffer.elim [] (·.stored)).map Prod.fst =
        (w.replayOnReconnect send).sent.map some := by
    rw [hbuffer]
    show _ ++ buffer.drain.1.stored.map Prod.fst = _
    rw [hleft, List.map_nil, List.append_nil]
  constructor
  · intro h
    rw [← hmessages, h.messages, hb]
    rfl
  · intro h
    refine ⟨?_, _, hcount⟩
    rw [hmessages, h, hb]
    rfl

/-- **A replay of the whole buffer loses nothing** exactly when no message is `None` and every
send succeeds. -/
theorem full_replay_iff [DecidableEq σ] (send : Nat → α → Except Exc Unit)
    (hc : w.replayConfig = some config) (hm : config.mode = .fullBuffer)
    (hb : w.buffer = some buffer) (hr : buffer.Reachable) :
    Lossless w (w.replayOnReconnect send) ↔ (∀ x ∈ buffer.stored, x.1 ≠ none) ∧
      ∀ i m, (buffer.stored.map Prod.fst)[i]? = some (some m) → send i m = .ok () := by
  have hdrain : buffer.drain.2 = buffer.stored.filterMap Prod.fst := hr.valid.stores.drain.1
  have hsent := (replay_full send hc hm hb).1
  rw [lossless_iff send hc hm hb hr.valid]
  have hindex : (∀ x ∈ buffer.stored, x.1 ≠ none) →
      ∀ (i : Nat) (m : α), (buffer.stored.map Prod.fst)[i]? = some (some m) ↔
        buffer.drain.2[i]? = some m := by
    intro hsome i m
    rw [hdrain, ← map_filterMap hsome, List.getElem?_map]
    simp
  constructor
  · intro h
    have hsome : ∀ x ∈ buffer.stored, x.1 ≠ none := by
      intro x hx hnone
      have hmem : x.1 ∈ (w.replayOnReconnect send).sent.map some := by
        rw [h]
        exact List.mem_map_of_mem hx
      obtain ⟨m, -, hm⟩ := List.mem_map.mp hmem
      rw [hnone] at hm
      cases hm
    have hall : (w.replayOnReconnect send).sent = buffer.drain.2 := by
      apply List.map_injective_iff.mpr (fun _ _ => Option.some.inj)
      rw [h, hdrain, map_filterMap hsome]
    refine ⟨hsome, ?_⟩
    intro i m hi
    exact hsent.mp hall i m ((hindex hsome i m).mp hi)
  · rintro ⟨hsome, hok⟩
    have hall : (w.replayOnReconnect send).sent = buffer.drain.2 := by
      apply hsent.mpr
      intro i m hi
      exact hok i m ((hindex hsome i m).mpr hi)
    rw [hall, hdrain, map_filterMap hsome]

end FullBuffer

/-- A `WebSocket` that replays its whole buffer, and received these messages. -/
def whole (messages : List (Option Nat)) : Replayer Nat Nat :=
  messages.foldl trackReceivedMessage (new
    (some { capacity := 3, overflowPolicy := .dropOldest, enableDedup := false, dedupWindow := 100,
            capacity_pos := Nat.succ_pos _, dedupWindow_pos := Nat.succ_pos _ })
    (some { mode := .fullBuffer, sequenceExtractor := none, onReplay := none,
            onReplay_some := fun h => by cases h }))

/-- Two messages, and a `send` that takes them. -/
theorem full_replay_two :
    Lossless (whole [some 1, some 2])
      ((whole [some 1, some 2]).replayOnReconnect fun _ _ => .ok ()) :=
  (full_replay_iff (fun _ _ => .ok ()) rfl rfl rfl
    ⟨some _, [.push (some 1) none, .push (some 2) none], rfl⟩).mpr
    ⟨by decide, fun _ _ _ => rfl⟩

/-- The second send fails: the second and the third message are nowhere. -/
theorem full_replay_fails :
    let w := whole [some 1, some 2, some 3]
    let r := w.replayOnReconnect (fun i _ =>
      if i = 1 then .error (.connectionError "Connection lost") else .ok ())
    r.sent = [1] ∧ r.ws.buffer.elim [] (·.stored) = [] ∧ ¬ Lossless w r := by
  refine ⟨by decide, by decide, fun h => ?_⟩
  have hmessages := h.messages
  revert hmessages
  decide

/-! ## Replay from the last id -/

/-- What happens to a buffer before a replay: messages, and the user's calls. -/
inductive Use (α σ : Type) where
  | received (data : Option α)
  | called (op : MessageBuffer.Op α σ)

section Sequence
variable [DecidableEq σ]

def use (w : Replayer α σ) : Use α σ → Replayer α σ
  | .received data => w.trackReceivedMessage data
  | .called op => w.callBuffer op

/-- `on_replay` is called once, with this id, and the event carries it. -/
structure Resumes (w : Replayer α σ) (r : Replayed α σ) (lastId : σ) : Prop where
  calls : r.calls = [lastId]
  started : ∃ messageCount rest, r.ws.emitted =
    w.emitted ++ .replayStarted .sequenceId (some lastId) messageCount :: rest

/-- The buffer is valid, and the configuration the same. -/
structure Used (w : Replayer α σ) (config : ReplayConfig α σ) : Prop where
  config : w.replayConfig = some config
  valid : ∀ buffer, w.buffer = some buffer → buffer.Valid

variable {w : Replayer α σ} {config : ReplayConfig α σ} {buffer : MessageBuffer α σ}

/-- What one use preserves. -/
theorem Used.use (h : Used w config) (u : Use α σ) : Used (w.use u) config := by
  cases u with
  | received data =>
    refine ⟨(w.track_config data).trans h.config, ?_⟩
    intro buffer' hb'
    cases hb : w.buffer with
    | none =>
      have hsame : w.trackReceivedMessage data = w := by
        unfold trackReceivedMessage
        rw [hb]
      exact h.valid buffer' (hsame ▸ hb')
    | some buffer =>
      obtain rfl := Option.some.inj ((track_buffer hb h.config data).symm.trans hb')
      exact (h.valid buffer hb).push data _
  | called op =>
    refine ⟨h.config, ?_⟩
    intro buffer' hb'
    obtain ⟨buffer, hb, rfl⟩ := Option.map_eq_some_iff.mp hb'
    exact (h.valid buffer hb).apply op

theorem used_start (bufferConfig : BufferConfig) (config : ReplayConfig α σ)
    (uses : List (Use α σ)) :
    Used (uses.foldl Replayer.use (new (some bufferConfig) (some config))) config := by
  have hnew : Used (new (some bufferConfig) (some config) : Replayer α σ) config := by
    refine ⟨rfl, ?_⟩
    intro buffer hb
    obtain rfl := Option.some.inj hb
    exact MessageBuffer.valid_new _
  generalize new (some bufferConfig) (some config) = w at hnew
  induction uses generalizing w with
  | nil => exact hnew
  | cons u uses ih => exact ih _ (hnew.use u)

omit [DecidableEq σ] in
/-- An empty buffer is passed over. -/
theorem nonempty_eq (hb : w.buffer = some buffer) (hv : buffer.Valid) :
    w.nonempty = if buffer.stored = [] then none else some buffer := by
  have hempty : buffer.isEmpty = true ↔ buffer.stored = [] := hv.stores.isEmpty_iff
  unfold nonempty
  rw [hb]
  show (if !buffer.isEmpty then some buffer else none) = _
  by_cases hs : buffer.stored = []
  · rw [hempty.mpr hs, if_pos hs]
    rfl
  · have he : buffer.isEmpty = false := by
      apply Bool.eq_false_iff.mpr
      exact fun he => hs (hempty.mp he)
    rw [he, if_neg hs]
    rfl

omit [DecidableEq σ] in
/-- A replay that was told the last id. -/
theorem resumes_some (send : Nat → α → Except Exc Unit) (hc : w.replayConfig = some config)
    (hm : config.mode = .sequenceId) {lastId : σ} (hb : w.nonempty = some buffer)
    (hlast : buffer.lastSequenceId = some lastId) :
    Resumes w (w.replayOnReconnect send) lastId := by
  obtain ⟨onReplay, hcall⟩ := Option.isSome_iff_exists.mp (config.onReplay_some hm)
  unfold replayOnReconnect replay callOnReplay
  simp only [hc, hm, hb, hcall, Option.bind_some, hlast]
  rw [if_neg (by decide)]
  cases onReplay lastId with
  | ok u =>
    refine ⟨rfl, buffer.len, [.replayCompleted .sequenceId 1], ?_⟩
    simp [emit]
  | error e =>
    refine ⟨rfl, buffer.len, [.error e false, .replayCompleted .sequenceId 0], ?_⟩
    simp [emit, emitError]

omit [DecidableEq σ] in
/-- Without an id nobody is called. -/
theorem calls_none (send : Nat → α → Except Exc Unit) (hc : w.replayConfig = some config)
    (hm : config.mode = .sequenceId) (hb : w.nonempty = none) :
    (w.replayOnReconnect send).calls = [] := by
  unfold replayOnReconnect replay callOnReplay
  simp only [hc, hm, hb]
  rfl

/-- **The last id is replayed** exactly when a message is still in the buffer: after any history
of messages and calls, whatever id the buffer holds. -/
theorem sequence_replay_iff (send : Nat → α → Except Exc Unit) (bufferConfig : BufferConfig)
    (config : ReplayConfig α σ) (hm : config.mode = .sequenceId) (uses : List (Use α σ))
    {buffer : MessageBuffer α σ} {lastId : σ}
    (hb : (uses.foldl use (new (some bufferConfig) (some config))).buffer = some buffer)
    (hlast : buffer.lastSequenceId = some lastId) :
    Resumes (uses.foldl use (new (some bufferConfig) (some config)))
        ((uses.foldl use (new (some bufferConfig) (some config))).replayOnReconnect send)
        lastId ↔
      buffer.stored ≠ [] := by
  have hused := used_start bufferConfig config uses
  generalize uses.foldl use (new (some bufferConfig) (some config)) = w at hused hb
  have hnonempty := nonempty_eq hb (hused.valid buffer hb)
  by_cases hs : buffer.stored = []
  · rw [if_pos hs] at hnonempty
    refine iff_of_false ?_ (not_not_intro hs)
    intro h
    have hcalls := h.calls
    rw [calls_none send hused.config hm hnonempty] at hcalls
    cases hcalls
  · rw [if_neg hs] at hnonempty
    exact iff_of_true (resumes_some send hused.config hm hnonempty hlast) hs

end Sequence

/-- The ids are the messages. -/
def resuming : ReplayConfig Nat Nat :=
  { mode := .sequenceId, sequenceExtractor := some (fun data => .ok data),
    onReplay := some (fun _ => .ok ()), onReplay_some := fun _ => rfl }

/-- Three messages are received, and the first of them is taken out. -/
def threeReceived : List (Use Nat Nat) :=
  [.received (some 41), .received (some 43), .called .pop, .received (some 42)]

/-- The last id received is replayed, which is not the highest. -/
theorem sequence_replay_three :
    Resumes (threeReceived.foldl use (new (some .default) (some resuming)))
      ((threeReceived.foldl use (new (some .default) (some resuming))).replayOnReconnect
        fun _ _ => .ok ()) 42 :=
  (sequence_replay_iff (fun _ _ => .ok ()) .default resuming rfl threeReceived rfl rfl).mpr
    (by decide)

/-- Once the message is taken out, its id is not replayed, though the buffer still holds it. -/
theorem sequence_replay_empty :
    let w := [.received (some 42), .called .pop].foldl use (new (some .default) (some resuming))
    w.buffer.bind (·.lastSequenceId) = some 42 ∧
      (w.replayOnReconnect fun _ _ => .ok ()).calls = [] ∧
      ¬ Resumes w (w.replayOnReconnect fun _ _ => .ok ()) 42 := by
  refine ⟨by decide, by decide, fun h => ?_⟩
  have hcalls := h.calls
  revert hcalls
  decide

end Replayer

end JetSocket.Manager
