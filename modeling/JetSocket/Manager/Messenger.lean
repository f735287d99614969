import JetSocket.State
import JetSocket.Transport.Outbound

/- What a `WebSocket` sends over its whole life, connection after connection (`manager.py`,
   `stats.py`).

   `send` and `send_raw` check the state, hand the data to the transport there is, and count it once
   that has returned. A call that waits for `_can_write` stays with the transport it was given to,
   also when `_connect_internal` has made another one: every transport is kept, and each may go on
   at any time. `returned` has the calls that have returned, in their order.

   The state moves at any time, as the rest of the manager would have it, and so do the assignments
   to `_transport` and to its `_connected`. A transport begins with its handshake begun.

   Correspondence (Python ↔ Lean):
     `send`, `send_raw`                               ↔ `send`, `sendRaw`
     the part of both behind `await`                  ↔ `recordMessageSent`
     `self._transport = AsyncTransport(...)`, `None`  ↔ `Input.connects`, `Input.drops`
     `self._transport._connected = False`             ↔ `Input.disconnects`

   What is proved:
     1. `kept_step` — one step keeps the counters, and each connection's account.
     2. `sends_recovered` — over every life: `messages_sent` and `bytes_sent` count the calls that
        have returned; and what each server recovers of its connection are the messages of those
        that returned there, once each and in their order. -/
namespace JetSocket.Manager
open JetSocket.Core JetSocket.Transport Transition StatefulCodec

variable {Z : ZlibModule} {M : Type}

/-- What a call of `send` or `send_raw` gives to the transport. -/
structure Message where
  data : Bytes
  binary : Bool
  deriving DecidableEq, Repr

namespace Message

/-- The frame that the transport makes of it. -/
def frame (m : Message) : Frame := (Data.bytes m.data).frame (some m.binary)

/-- As the other end sees it. -/
def content (m : Message) : Opcode × Bytes × Bool :=
  (if m.binary then .binary else .text, m.data, true)

theorem contents_frames (ms : List Message) : contents (ms.map frame) = ms.map content := by
  have hdata : ∀ m : Message, m.frame.opcode.isControl = false := by
    intro m
    unfold frame Data.frame
    dsimp only [Option.getD_some]
    split <;> rfl
  unfold contents
  rw [List.filter_eq_self.mpr, List.map_map]
  · rfl
  · intro f hf
    obtain ⟨m, -, rfl⟩ := List.mem_map.mp hf
    rw [hdata m]
    rfl

end Message

/-- A transport, with the messages of the calls that wait in it. -/
structure Outlet (Z : ZlibModule) where
  outbound : Outbound Z
  calls : List Message

namespace Outlet

/-- `await self._transport.send(data, binary=binary)`, with the message, if the call returns. -/
def send (l : Outlet Z) (task : Nat) (m : Message) (key : MaskKey) :
    Option (Outlet Z × Option Message) :=
  (l.outbound.step (.send task (.bytes m.data) (some m.binary) key)).map (fun o =>
    let stop := (l.outbound.sender.send task (.bytes m.data) (some m.binary) key).2
    ({ outbound := o, calls := if stop = .waiting then l.calls ++ [m] else l.calls },
      if stop = .returned then some m else none))

/-- How the first call that waits stops, when it goes on. -/
def resumeStop (t : Sender Z) : SendStop :=
  match t.suspended with
  | out :: rest => ({ t with suspended := rest }.resumeSend out).2
  | [] => .waiting

/-- Everything else at the transport, with the message of the call that returns, if one does. -/
def within (l : Outlet Z) (a : Action Z) : Option (Outlet Z × Option Message) :=
  match a with
  | .send .. | .sendFrame .. => none
  | .resumeSend =>
    (l.outbound.step .resumeSend).map (fun o =>
      ({ outbound := o, calls := l.calls.tail },
        if resumeStop l.outbound.sender = .returned then l.calls.head? else none))
  | a => (l.outbound.step a).map (fun o => ({ l with outbound := o }, none))

/-- `self._transport._connected = False`. -/
def disconnected (l : Outlet Z) : Outlet Z :=
  { l with outbound := { l.outbound with sender := { l.outbound.sender with
      transport := { l.outbound.sender.transport with connected := false } } } }

end Outlet

/-- The sending side of a `WebSocket`. `transport` is the number of `_transport` among those there
were; `returned` has the calls that have returned, with the transport each was given to. -/
structure Messenger (Z : ZlibModule) where
  state : ConnectionState
  transport : Option Nat
  outlets : List (Outlet Z)
  messagesSent : Nat
  bytesSent : Nat
  returned : List (Nat × Message)

namespace Messenger

def new (Z : ZlibModule) : Messenger Z :=
  { state := .idle, transport := none, outlets := [], messagesSent := 0, bytesSent := 0,
    returned := [] }

/-- `record_message_sent(len(data))`, and the return. -/
def recordMessageSent (s : Messenger Z) (k : Nat) (m : Message) : Messenger Z :=
  { s with
    messagesSent := s.messagesSent + 1
    bytesSent := s.bytesSent + m.data.length
    returned := s.returned ++ [(k, m)] }

/-- The transport has moved on, and a call may have returned. -/
def moved (s : Messenger Z) (k : Nat) (r : Outlet Z × Option Message) : Messenger Z :=
  let s := { s with outlets := s.outlets.set k r.1 }
  match r.2 with
  | some m => s.recordMessageSent k m
  | none => s

/-- `self._transport`, where the check that both calls begin with lets them past. -/
def checked (s : Messenger Z) : Option Nat := if s.state.canSend then s.transport else none

/-- `send_raw`. -/
def sendRaw (s : Messenger Z) (task : Nat) (m : Message) (key : MaskKey) : Option (Messenger Z) :=
  match s.checked with
  | none => some s
  | some k => (s.outlets[k]?).bind (fun l => (l.send task m key).map (s.moved k))

/-- `send`: the check comes first, and the serializer may raise. -/
def send (serializer : M → Except Exc Bytes) (s : Messenger Z) (task : Nat) (message : M)
    (key : MaskKey) : Option (Messenger Z) :=
  match s.checked, serializer message with
  | some _, .ok data => s.sendRaw task { data, binary := false } key
  | _, _ => some s

/-- What can happen next. -/
inductive Input (Z : ZlibModule) (M : Type) where
  | connects (request : Bytes)
  | drops
  | disconnects
  | moves (state : ConnectionState)
  | send (task : Nat) (message : M) (key : MaskKey)
  | sendRaw (task : Nat) (data : Bytes) (binary : Bool) (key : MaskKey)
  | within (k : Nat) (a : Action Z)

/-- One step, of a `WebSocket` with this serializer and these settings of its transports. -/
def step (serializer : M → Except Exc Bytes) (config : TransportConfig)
    (compressionThreshold : Int) (s : Messenger Z) : Input Z M → Option (Messenger Z)
  | .connects request =>
    some { s with
      transport := some s.outlets.length
      outlets := s.outlets ++
        [{ outbound := Outbound.start Z config compressionThreshold request, calls := [] }] }
  | .drops => some { s with transport := none }
  | .disconnects =>
    match s.transport with
    | none => some s
    | some k => some { s with outlets := s.outlets.modify k Outlet.disconnected }
  | .moves state => some { s with state }
  | .send task message key => s.send serializer task message key
  | .sendRaw task data binary key => s.sendRaw task { data, binary } key
  | .within k a => (s.outlets[k]?).bind (fun l => (l.within a).map (s.moved k))

/-- The messages of the calls that have returned from transport `k`. -/
def returnedFrom (s : Messenger Z) (k : Nat) : List Message :=
  (s.returned.filter (fun r => r.1 = k)).map Prod.snd

end Messenger

/-! ## One connection -/

section Outlet
variable {l l' : Outlet Z} {returned : List Message}

/-- The connection is sound, and its frames are those of the calls: of those that have returned,
and of those that wait. -/
structure Outlet.Keeps (l : Outlet Z) (returned : List Message) : Prop where
  sound : ∃ request, l.outbound.Sound request
  sent : l.outbound.sent = returned.map Message.frame
  waiting : l.outbound.waiting = l.calls.map Message.frame

/-- How a call stops. -/
theorem transmit_stop (t : Sender Z) (task : Nat) (key : MaskKey) (compressible : Bool)
    (frame : Frame) :
    ((t.transmit task key compressible frame).2 = .returned ↔ t.Ready ∧ ¬ t.Blocked) ∧
      ((t.transmit task key compressible frame).2 = .waiting ↔ t.Ready ∧ t.Blocked) := by
  unfold Sender.transmit Sender.Ready
  cases hc : t.transport.connected with
  | false => simp
  | true =>
    cases hp : t.transport.parser with
    | none => simp
    | some parser =>
      cases ha : t.transport.asyncioTransport with
      | false => simp
      | true => by_cases hblocked : t.Blocked <;> simp [hblocked]

/-- What is noted of a call of `send`, by how it stops. -/
theorem noted_send {o o' : Outbound Z} {task : Nat} {data : Data} {binary : Option Bool}
    {key : MaskKey} (h : o.step (.send task data binary key) = some o') :
    o'.sent = (if (o.sender.send task data binary key).2 = .returned
        then o.sent ++ [data.frame binary] else o.sent) ∧
      o'.waiting = if (o.sender.send task data binary key).2 = .waiting
        then o.waiting ++ [data.frame binary] else o.waiting := by
  obtain ⟨hreturned, hwaiting⟩ := transmit_stop o.sender task key true (data.frame binary)
  obtain ⟨t, -, rfl⟩ := Option.map_eq_some_iff.mp h
  unfold Sender.send
  simp only [hreturned, hwaiting]
  show (o.called t (data.frame binary)).sent = _ ∧ (o.called t (data.frame binary)).waiting = _
  unfold Outbound.called
  by_cases hready : o.sender.Ready
  · by_cases hblocked : o.sender.Blocked <;> simp [hready, hblocked]
  · simp [hready]

/-- A call that goes on returns exactly if there is a transport to write to. -/
theorem resumeStop_iff {t t' : Sender Z} (h : t.step .resumeSend = some t') :
    Outlet.resumeStop t = .returned ↔ t.transport.asyncioTransport = true := by
  simp only [Sender.step] at h
  split at h
  · rename_i _ hsuspended
    unfold Outlet.resumeStop Sender.resumeSend
    rw [hsuspended]
    cases ha : t.transport.asyncioTransport <;> simp [ha]
  · cases h

/-- **A call** keeps the account. -/
theorem Outlet.Keeps.send (h : l.Keeps returned) {task : Nat} {m : Message} {key : MaskKey}
    (hcare : l.outbound.Careful (.send task (.bytes m.data) (some m.binary) key))
    {m' : Option Message} (hs : l.send task m key = some (l', m')) :
    l'.Keeps (returned ++ m'.toList) := by
  obtain ⟨o, ho, hr⟩ := Option.map_eq_some_iff.mp hs
  cases hr
  obtain ⟨request, hsound⟩ := h.sound
  obtain ⟨hsent, hwaiting⟩ := noted_send ho
  refine ⟨⟨request, Outbound.sound_step _ _ _ hsound hcare ho⟩, ?_, ?_⟩
  · dsimp only
    rw [hsent, h.sent]
    split
    · rw [List.map_append]
      rfl
    · rw [Option.toList_none, List.append_nil]
  · dsimp only
    rw [hwaiting, h.waiting]
    split
    · rw [List.map_append]
      rfl
    · rfl

/-- **Everything else at the transport** keeps the account. -/
theorem Outlet.Keeps.within (h : l.Keeps returned) {a : Action Z} (hcare : l.outbound.Careful a)
    {m : Option Message} (hs : l.within a = some (l', m)) :
    l'.Keeps (returned ++ m.toList) := by
  obtain ⟨request, hsound⟩ := h.sound
  cases a with
  | send | sendFrame => cases hs
  | resumeSend =>
    obtain ⟨o, ho, hr⟩ := Option.map_eq_some_iff.mp hs
    cases hr
    have hsound := Outbound.sound_step _ _ _ hsound hcare ho
    obtain ⟨t, ht, rfl⟩ := Option.map_eq_some_iff.mp ho
    refine ⟨⟨request, hsound⟩, ?_, ?_⟩
    · show (if l.outbound.sender.transport.asyncioTransport = true
        then l.outbound.sent ++ l.outbound.waiting.take 1 else l.outbound.sent) = _
      rw [h.sent, h.waiting, List.map_append]
      simp only [resumeStop_iff ht]
      split
      · cases l.calls <;> rfl
      · exact (List.append_nil _).symm
    · show l.outbound.waiting.tail = _
      rw [h.waiting, List.map_tail]
  | _ =>
    simp only [Outlet.within] at hs
    obtain ⟨o, ho, hr⟩ := Option.map_eq_some_iff.mp hs
    cases hr
    have hsound := Outbound.sound_step _ _ _ hsound hcare ho
    obtain ⟨t, -, rfl⟩ := Option.map_eq_some_iff.mp ho
    refine ⟨⟨request, hsound⟩, ?_, h.waiting⟩
    rw [Option.toList_none, List.append_nil]
    exact h.sent

/-- The flag is no part of the account. -/
theorem Outlet.Keeps.disconnected (h : l.Keeps returned) : l.disconnected.Keeps returned := by
  obtain ⟨request, hsettled, blocks, out, hwritten, hqueued⟩ := h.sound
  refine ⟨⟨request, ⟨hsettled.done, hsettled.peer⟩, blocks, out, hwritten, fun ha => ?_⟩, h.sent,
    h.waiting⟩
  obtain ⟨held, waits, hq⟩ := hqueued ha
  exact ⟨held, waits, ⟨hq.suspended, hq.whole, hq.allowed, hq.frames, hq.deflater, hq.numbers,
    hq.waiting, hq.plain⟩⟩

theorem Outlet.Keeps.start (config : TransportConfig) (compressionThreshold : Int)
    (request : Bytes) :
    Outlet.Keeps { outbound := Outbound.start Z config compressionThreshold request, calls := [] }
      [] where
  sound := ⟨request, Outbound.sound_start config compressionThreshold request⟩
  sent := rfl
  waiting := rfl

end Outlet

/-! ## Runs -/

namespace Messenger
variable {serializer : M → Except Exc Bytes} {config : TransportConfig}
  {compressionThreshold : Int} {s s' : Messenger Z}

/-- A call with this message is careful, at the transport it gets to. -/
def CarefulCall (s : Messenger Z) (task : Nat) (m : Message) (key : MaskKey) : Prop :=
  ∀ k ∈ s.checked, ∀ l ∈ s.outlets[k]?,
    l.outbound.Careful (.send task (.bytes m.data) (some m.binary) key)

instance (s : Messenger Z) (task : Nat) (m : Message) (key : MaskKey) :
    Decidable (s.CarefulCall task m key) := inferInstanceAs (Decidable (∀ k ∈ s.checked, _))

/-- At no transport does a call overtake another, and the other end can take what is given. -/
def Careful (serializer : M → Except Exc Bytes) (s : Messenger Z) : Input Z M → Prop
  | .send task message key =>
    ∀ data ∈ (serializer message).toOption, s.CarefulCall task ⟨data, false⟩ key
  | .sendRaw task data binary key => s.CarefulCall task ⟨data, binary⟩ key
  | .within k a => ∀ l ∈ s.outlets[k]?, l.outbound.Careful a
  | .connects _ | .drops | .disconnects | .moves _ => True

instance (serializer : M → Except Exc Bytes) (s : Messenger Z) :
    ∀ i, Decidable (s.Careful serializer i)
  | .send task message key =>
    inferInstanceAs (Decidable (∀ data ∈ (serializer message).toOption,
      s.CarefulCall task ⟨data, false⟩ key))
  | .sendRaw task data binary key =>
    inferInstanceAs (Decidable (s.CarefulCall task ⟨data, binary⟩ key))
  | .within k a => inferInstanceAs (Decidable (∀ l ∈ s.outlets[k]?, l.outbound.Careful a))
  | .connects _ | .drops | .disconnects | .moves _ => isTrue trivial

/-- The invariant of lives. -/
structure Kept (s : Messenger Z) : Prop where
  outlets : ∀ (k : Nat) (l : Outlet Z), s.outlets[k]? = some l → l.Keeps (s.returnedFrom k)
  known : ∀ r ∈ s.returned, r.1 < s.outlets.length
  messagesSent : s.messagesSent = s.returned.length
  bytesSent : s.bytesSent = (s.returned.map (fun r => r.2.data.length)).sum

@[simp] theorem outlets_moved (s : Messenger Z) (k : Nat) (r : Outlet Z × Option Message) :
    (s.moved k r).outlets = s.outlets.set k r.1 := by
  unfold moved
  cases r.2 <;> rfl

/-- What a move adds to the returns. -/
theorem returned_moved (s : Messenger Z) (k : Nat) (r : Outlet Z × Option Message) :
    (s.moved k r).returned = s.returned ++ r.2.toList.map (Prod.mk k) := by
  unfold moved
  cases r.2 with
  | none => exact (List.append_nil _).symm
  | some m => rfl

/-- It adds the same to the counters. -/
theorem counters_moved (s : Messenger Z) (k : Nat) (r : Outlet Z × Option Message) :
    (s.moved k r).messagesSent = s.messagesSent + r.2.toList.length ∧
      (s.moved k r).bytesSent =
        s.bytesSent + (r.2.toList.map (fun m => m.data.length)).sum := by
  unfold moved
  cases r.2 with
  | none => exact ⟨rfl, rfl⟩
  | some m => exact ⟨rfl, rfl⟩

theorem returnedFrom_moved (s : Messenger Z) (k j : Nat) (r : Outlet Z × Option Message) :
    (s.moved k r).returnedFrom j =
      if k = j then s.returnedFrom j ++ r.2.toList else s.returnedFrom j := by
  unfold returnedFrom
  rw [returned_moved, List.filter_append, List.map_append]
  by_cases hkj : k = j
  · cases r.2 <;> simp [hkj]
  · cases r.2 <;> simp [hkj]

/-- **One transport moves on.** -/
theorem Kept.moved (h : s.Kept) {k : Nat} {l : Outlet Z} (hl : s.outlets[k]? = some l)
    {r : Outlet Z × Option Message} (hr : r.1.Keeps (s.returnedFrom k ++ r.2.toList)) :
    (s.moved k r).Kept := by
  have hk : k < s.outlets.length := (List.getElem?_eq_some_iff.mp hl).1
  obtain ⟨hmessages, hbytes⟩ := counters_moved s k r
  refine ⟨fun j l' hj => ?_, fun x hx => ?_, ?_, ?_⟩
  · rw [returnedFrom_moved]
    rw [outlets_moved] at hj
    by_cases hkj : k = j
    · subst hkj
      rw [List.getElem?_set_self hk] at hj
      cases hj
      rw [if_pos rfl]
      exact hr
    · rw [List.getElem?_set_ne hkj] at hj
      rw [if_neg hkj]
      exact h.outlets j l' hj
  · rw [outlets_moved, List.length_set]
    rw [returned_moved] at hx
    rcases List.mem_append.mp hx with hx | hx
    · exact h.known x hx
    · obtain ⟨m, -, rfl⟩ := List.mem_map.mp hx
      exact hk
  · rw [hmessages, h.messagesSent, returned_moved, List.length_append, List.length_map]
  · rw [hbytes, h.bytesSent, returned_moved, List.map_append, List.sum_append, List.map_map]
    rfl

/-- **A call.** -/
theorem Kept.sendRaw (h : s.Kept) {task : Nat} {m : Message} {key : MaskKey}
    (hcare : s.CarefulCall task m key) (hs : s.sendRaw task m key = some s') : s'.Kept := by
  unfold Messenger.sendRaw at hs
  cases hk : s.checked with
  | none =>
    rw [hk] at hs
    cases hs
    exact h
  | some k =>
    rw [hk] at hs
    obtain ⟨l, hl, hs⟩ := Option.bind_eq_some_iff.mp hs
    obtain ⟨r, hr, rfl⟩ := Option.map_eq_some_iff.mp hs
    exact h.moved hl ((h.outlets k l hl).send (hcare k hk l hl) hr)

/-- **One step** that is careful keeps the accounts. -/
theorem kept_step (s : Messenger Z) (i : Input Z M) (s' : Messenger Z) (h : s.Kept)
    (hcare : s.Careful serializer i)
    (hs : s.step serializer config compressionThreshold i = some s') : s'.Kept := by
  cases i with
  | connects request =>
    cases hs
    refine ⟨fun k l hl => ?_, fun r hr => ?_, h.messagesSent, h.bytesSent⟩
    · rcases lt_or_ge k s.outlets.length with hk | hk
      · rw [List.getElem?_append_left hk] at hl
        exact h.outlets k l hl
      · rw [List.getElem?_append_right hk, List.getElem?_singleton] at hl
        split at hl
        · cases hl
          -- no call has been given to it
          have hnone : s.returnedFrom k = [] := by
            unfold returnedFrom
            rw [List.map_eq_nil_iff, List.filter_eq_nil_iff]
            intro r hr hk'
            have := h.known r hr
            have := of_decide_eq_true hk'
            omega
          show Outlet.Keeps _ (s.returnedFrom k)
          rw [hnone]
          exact .start config compressionThreshold request
        · cases hl
    · rw [List.length_append]
      exact (h.known r hr).trans_le (Nat.le_add_right ..)
  | drops | moves =>
    cases hs
    exact ⟨h.outlets, h.known, h.messagesSent, h.bytesSent⟩
  | disconnects =>
    simp only [step] at hs
    split at hs
    · cases hs
      exact h
    · rename_i k _
      cases hs
      refine ⟨fun j l hl => ?_, fun r hr => ?_, h.messagesSent, h.bytesSent⟩
      · rw [List.getElem?_modify] at hl
        obtain ⟨l', hl', rfl⟩ := Option.map_eq_some_iff.mp hl
        have hkeeps := h.outlets j l' hl'
        split
        · exact hkeeps.disconnected
        · exact hkeeps
      · rw [List.length_modify]
        exact h.known r hr
  | send task message key =>
    simp only [step, Messenger.send] at hs
    split at hs
    · rename_i data _ hdata
      exact h.sendRaw (hcare data (by rw [hdata]; rfl)) hs
    · cases hs
      exact h
  | sendRaw task data binary key => exact h.sendRaw hcare hs
  | within k a =>
    obtain ⟨l, hl, hs⟩ := Option.bind_eq_some_iff.mp hs
    obtain ⟨r, hr, rfl⟩ := Option.map_eq_some_iff.mp hs
    exact h.moved hl ((h.outlets k l hl).within (hcare l hl) hr)

theorem kept_new : (new Z).Kept where
  outlets k l hl := by cases hl
  known r hr := absurd hr List.not_mem_nil
  messagesSent := rfl
  bytesSent := rfl

/-- **What is sent over a life.** In every run in which no call overtakes another at its transport
and the other ends can take what they are given: the counters are those of the calls that have
returned; and, cut in any way, what is written on a connection are masked frames, from which its
server recovers the messages of the calls that returned there, once each and in their order. -/
theorem sends_recovered (hz : Z.SyncFlushed) (serializer : M → Except Exc Bytes)
    (config : TransportConfig) (compressionThreshold : Int) (run : List (Input Z M))
    {s : Messenger Z}
    (hrun : exec (step serializer config compressionThreshold) (new Z) run = some s)
    (hcare : Meets (step serializer config compressionThreshold) (Careful serializer) (new Z) run) :
    s.messagesSent = s.returned.length ∧
      s.bytesSent = (s.returned.map (fun r => r.2.data.length)).sum ∧
      ∀ (k : Nat) (l : Outlet Z), s.outlets[k]? = some l →
        ∀ (order : Word.ByteOrder) (maxFrameSize maxMessageSize : Nat), maxFrameSize ≤ ssizeMax →
          (∀ w ∈ framesWritten l.outbound.sender.transport, w.length ≤ maxFrameSize) →
          ∀ chunks : List Bytes,
            chunks.flatten = (framesWritten l.outbound.sender.transport).flatten →
            (∀ w ∈ framesWritten l.outbound.sender.transport, IsMasked w) ∧
              ∃ frames queued peer',
                (FrameParser.new order maxFrameSize maxMessageSize).feedAll chunks =
                    (FrameParser.new order maxFrameSize maxMessageSize,
                      .ok (frames, chunks.flatten.length)) ∧
                  inflateAll l.outbound.peer frames = some (queued, peer') ∧
                  contents queued = (s.returnedFrom k).map Message.content := by
  have hkept := (always_of_meets (I := Kept) kept_step kept_new hcare).last hrun
  refine ⟨hkept.messagesSent, hkept.bytesSent, fun k l hl order maxFrameSize maxMessageSize hmax
    hlen chunks hcut => ?_⟩
  have hkeeps := hkept.outlets k l hl
  obtain ⟨request, hsettled, blocks, out, hwritten, -⟩ := hkeeps.sound
  obtain ⟨hmasked, frames, queued, peer', hfeed, hinflate, hcontents⟩ :=
    hwritten.recovers hz (paired_new hsettled.peer) order maxFrameSize maxMessageSize hmax hlen
      chunks hcut
  refine ⟨hmasked, frames, queued, peer', hfeed, hinflate, ?_⟩
  rw [hcontents, hkeeps.sent, Message.contents_frames]

/-- A call waits at the first transport when its connection is given up, and returns from there when
the second one has been used. Two calls raise: there is no connection yet, or none any more. -/
def twoServers : List (Input smallZlib Bytes) :=
  [.connects [], .sendRaw 1 hello true ⟨0, 0, 0, 0⟩] ++
  Sender.opening.map (.within 0) ++
  [.moves .connected, .send 1 hello ⟨1, 2, 3, 4⟩, .within 0 .pauseWriting,
    .sendRaw 2 [] true ⟨0, 0, 0, 0⟩, .disconnects, .sendRaw 3 hello true ⟨0, 0, 0, 0⟩,
    .connects [0x47],
    .within 1 (.receive (.dataReceived headerEnd (fun _ => ⟨0, 0, 0, 0⟩))),
    .within 1 (.finishConnect none (fun _ => ⟨0, 0, 0, 0⟩)),
    .sendRaw 3 [0x61] false ⟨5, 6, 7, 8⟩, .within 0 .resumeWriting, .within 0 .resumeSend]

theorem sends_recovered_two :
    ∃ s : Messenger smallZlib, exec (step .ok ⟨.little, 1024, 4096, false⟩ 0) (new smallZlib)
        twoServers = some s ∧
      s.messagesSent = 3 ∧ s.bytesSent = 6 ∧
      ∃ l ∈ s.outlets[0]?, ∃ frames queued peer',
        (FrameParser.new .big 1024 4096).feedAll
            [(framesWritten l.outbound.sender.transport).flatten] =
          (FrameParser.new .big 1024 4096, .ok (frames, 20)) ∧
        inflateAll l.outbound.peer frames = some (queued, peer') ∧
        contents queued = [(.text, hello, true), (.binary, [], true)] := by
  obtain ⟨hmessages, hbytes, houtlets⟩ := sends_recovered smallZlib_syncFlushed .ok
    ⟨.little, 1024, 4096, false⟩ 0 twoServers rfl (by decide)
  obtain ⟨-, frames, queued, peer', hfeed, hinflate, hcontents⟩ :=
    houtlets 0 _ rfl .big 1024 4096 (by decide) (by decide) [_] (List.append_nil _)
  exact ⟨_, rfl, hmessages, hbytes, _, rfl, frames, queued, peer', hfeed, hinflate, hcontents⟩

end Messenger
end JetSocket.Manager
