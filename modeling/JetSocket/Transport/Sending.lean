import JetSocket.Transport.Compression
import JetSocket.Transport.Handshake

/- The whole asyncio transport (`transport/_async.py`, `AsyncTransport`): `send` and
   `send_frame` beside the receive side, `ping` and `close`, one step for each run between
   two suspensions.

   `send` and `send_frame` compress and encode, then wait while `_can_write` is clear, then
   write. A call that waits is in `suspended`, with the frame it has encoded. Calls are
   resumed in the order in which they began to wait: `Event.set` wakes them in that order,
   and the loop runs what is woken first first.

   `compressed` and `wrote` are no part of the program: the calls of `Deflater.compress` are
   numbered from 0, and `wrote` has the numbers of the compressed frames written, in the
   order of the writes.

   Correspondence (Python ↔ Lean):
     `send`          ↔ `send`, `resumeSend`
     `send_frame`    ↔ `sendFrame`, `resumeSend`
     the end of `connect`, `_deflater` ↔ `Action.finishConnect` in `step`

   What is proved:
     1. `step_call` — a call raises, waits behind the others, or writes.
     2. `step_resumeSend` — the first call that waits goes on: it writes, or raises where
        the transport is gone.
     3. `step_other` — nothing else touches the calls that wait; what it makes of the
        transport. -/
namespace JetSocket.Transport
open JetSocket.Core

/-- `Deflater.__init__`, for these settings. -/
def DeflateParams.deflater (Z : Zlib) (p : DeflateParams) : Except Exc (Deflater Z) :=
  Deflater.new Z p.clientNoContextTakeover p.serverNoContextTakeover p.clientMaxWindowBits
    p.serverMaxWindowBits

/-- The data given to `send`. -/
inductive Data where
  | bytes (data : Bytes)
  | str (text : String)
  deriving DecidableEq, Repr

/-- `isinstance(data, bytes)`. -/
def Data.isBytes : Data → Bool
  | .bytes _ => true
  | .str _ => false

/-- The payload: text is encoded. -/
def Data.payload : Data → Bytes
  | .bytes data => data
  | .str text => encodeUtf8 text

/-- The frame `send` makes of it. -/
def Data.frame (data : Data) (binary : Option Bool) : Frame :=
  { opcode := if binary.getD data.isBytes then .binary else .text, payload := data.payload }

/-- A call of `send` or `send_frame` that is about to write, or waits to: its task, the frame,
and the number of its compression. -/
structure Suspended where
  task : Nat
  frameData : Bytes
  number : Option Nat
  deriving DecidableEq, Repr

/-- The transport with its sending side. `closer` is the task that waits in `close`. -/
structure Sender (Z : ZlibModule) where
  transport : AsyncTransport Z.toZlib
  compressionThreshold : Int
  deflater : Option (CompressHalf Z)
  suspended : List Suspended
  closer : Option Nat
  compressed : Nat
  wrote : List Nat

/-- How a run of `send` stops. -/
inductive SendStop where
  | waiting
  | returned
  | raised (e : Exc)
  deriving DecidableEq, Repr

variable {Z : ZlibModule}

/-- A connection with its handshake begun. -/
def Sender.start (Z : ZlibModule) (config : TransportConfig) (compressionThreshold : Int)
    (request : Bytes) : Sender Z :=
  { transport := Transport.start Z.toZlib config request, compressionThreshold, deflater := none,
    suspended := [], closer := none, compressed := 0, wrote := [] }

namespace Sender

/-! ## send and send_frame -/

/-- The compression of a payload, where one is due: the payload, RSV1 and the number of the
compression. -/
def pack (t : Sender Z) (compressible rsv1 : Bool) (payload : Bytes) :
    Sender Z × Bytes × Bool × Option Nat :=
  match t.deflater with
  | none => (t, payload, rsv1, none)
  | some deflater =>
    if compressible ∧ t.compressionThreshold ≤ payload.length then
      let r := deflater.compress payload
      ({ t with deflater := some r.2, compressed := t.compressed + 1 }, r.1, true,
        some t.compressed)
    else (t, payload, rsv1, none)

/-- `await _can_write.wait()`. -/
def wait (t : Sender Z) (out : Suspended) : Sender Z :=
  { t with
    transport := { t.transport with conn := { t.transport.conn with proto :=
      { t.transport.conn.proto with canWrite := t.transport.conn.proto.canWrite.wait out.task } } }
    suspended := t.suspended ++ [out] }

/-- `_asyncio_transport.write(frame_data)`. -/
def write (t : Sender Z) (out : Suspended) : Sender Z :=
  { t with
    transport := { t.transport with conn := t.transport.conn.write out.frameData }
    wrote := t.wrote ++ out.number.toList }

/-- `_can_write` holds a call back. -/
def Blocked (t : Sender Z) : Prop :=
  t.transport.protocol = true ∧ t.transport.conn.proto.canWrite.flag = false

instance (t : Sender Z) : Decidable t.Blocked := inferInstanceAs (Decidable (_ ∧ _))

/-- `send` and `send_frame` from the frame to be sent: compress it, encode it, and write it or
wait. -/
def transmit (t : Sender Z) (task : Nat) (key : MaskKey) (compressible : Bool) (frame : Frame) :
    Sender Z × SendStop :=
  match t.transport.connected, t.transport.parser, t.transport.asyncioTransport with
  | true, some parser, true =>
    let r := t.pack compressible frame.rsv1 frame.payload
    let out : Suspended :=
      { task, number := r.2.2.2
        frameData := parser.encode frame.opcode r.2.1 (some key) frame.fin r.2.2.1 }
    if t.Blocked then (r.1.wait out, .waiting) else (r.1.write out, .returned)
  | _, _, _ => (t, .raised (.connectionError "Transport is not connected"))

/-- `send`, from the call. -/
def send (t : Sender Z) (task : Nat) (data : Data) (binary : Option Bool) (key : MaskKey) :
    Sender Z × SendStop :=
  t.transmit task key true (data.frame binary)

/-- `send_frame`, from the call. -/
def sendFrame (t : Sender Z) (task : Nat) (frame : Frame) (key : MaskKey) : Sender Z × SendStop :=
  t.transmit task key (!frame.opcode.isControl) frame

/-- Either call, from a wait that was woken. -/
def resumeSend (t : Sender Z) (out : Suspended) : Sender Z × SendStop :=
  let t := { t with transport := { t.transport with conn := { t.transport.conn with proto :=
    { t.transport.conn.proto with
        canWrite := t.transport.conn.proto.canWrite.resume out.task } } } }
  if t.transport.asyncioTransport then (t.write out, .returned)
  else (t, .raised (.attributeError "'NoneType' object has no attribute 'write'"))

/-! ## Steps -/

/-- The transport moved on; `_close_transport` drops the deflater with the protocol. -/
def adopt (t : Sender Z) (v : AsyncTransport Z.toZlib) : Sender Z :=
  { t with transport := v, deflater := if v.protocol then t.deflater else none }

/-- The task is in no call of this transport. -/
def Free (t : Sender Z) (task : Nat) : Prop :=
  ¬ InRecv t.transport task ∧ task ∉ t.suspended.map Suspended.task

instance (t : Sender Z) (task : Nat) : Decidable (t.Free task) :=
  inferInstanceAs (Decidable (_ ∧ _))

/-- Inputs of the receive side: a task in `send` or in `close` is in no call of `recv`. -/
def Receives (t : Sender Z) : Input Z.toZlib → Prop
  | .finishConnect _ _ => False
  | .recv task _ => t.Free task
  | .resume task _ | .timeout task => t.closer ≠ some task
  | _ => True

instance (t : Sender Z) : ∀ i, Decidable (t.Receives i)
  | .dataReceived _ _ | .connectionLost _ => isTrue trivial
  | .finishConnect _ _ => isFalse id
  | .recv task _ => inferInstanceAs (Decidable (t.Free task))
  | .resume task _ | .timeout task => inferInstanceAs (Decidable (t.closer ≠ some task))

end Sender

/-- What can happen next. -/
inductive Action (Z : ZlibModule) where
  | receive (i : Input Z.toZlib)
  | finishConnect (params : Option DeflateParams) (keys : Nat → MaskKey)
  | send (task : Nat) (data : Data) (binary : Option Bool) (key : MaskKey)
  | sendFrame (task : Nat) (frame : Frame) (key : MaskKey)
  | resumeSend
  | pauseWriting
  | resumeWriting
  | ping (payload : Bytes) (key : MaskKey)
  | close (task code : Nat) (reason : String) (key : MaskKey)
  | closeResume (task : Nat)
  | closeTimeout (task : Nat)

namespace Sender

/-- The end of `connect`, with the `Deflater` of the negotiated settings. -/
def finishConnect (t : Sender Z) (params : Option DeflateParams) (keys : Nat → MaskKey) :
    Option (Sender Z) :=
  match params with
  | none =>
    (Transport.step t.transport (.finishConnect none keys)).map (fun v => { t with transport := v })
  | some p =>
    match Deflater.new Z.toZlib p.clientNoContextTakeover p.serverNoContextTakeover
      p.clientMaxWindowBits p.serverMaxWindowBits with
    | .error _ => none
    | .ok d =>
      (Transport.step t.transport (.finishConnect (some d) keys)).map (fun v =>
        { t with
          transport := v
          deflater := some (CompressHalf.new Z p.clientNoContextTakeover p.clientMaxWindowBits) })

/-- One step. What a call returns or raises goes to its caller. -/
def step (t : Sender Z) : Action Z → Option (Sender Z)
  | .receive i => if t.Receives i then (Transport.step t.transport i).map t.adopt else none
  | .finishConnect params keys => t.finishConnect params keys
  | .send task data binary key => if t.Free task then some (t.send task data binary key).1 else none
  | .sendFrame task frame key => if t.Free task then some (t.sendFrame task frame key).1 else none
  | .resumeSend =>
    match t.transport.conn.proto.canWrite.woken, t.suspended with
    | _ :: _, out :: rest => some ({ t with suspended := rest }.resumeSend out).1
    | _, _ => none
  | .pauseWriting =>
    some { t with transport := { t.transport with conn := t.transport.conn.pauseWriting } }
  | .resumeWriting =>
    some { t with transport := { t.transport with conn := t.transport.conn.resumeWriting } }
  | .ping payload key =>
    match t.transport.ping payload key with
    | .ok v => some { t with transport := v }
    | .error _ => some t
  | .close task code reason key =>
    if t.Free task then
      let r := t.transport.close task code reason key
      some { t.adopt r.1 with closer := if r.2 then some task else t.closer }
    else none
  | .closeResume task =>
    if t.closer = some task ∧ task ∈ t.transport.conn.proto.frameReady.woken then
      let r := t.transport.closeResume task
      some { t.adopt r.1 with closer := if r.2 then some task else none }
    else none
  | .closeTimeout task =>
    if t.closer = some task ∧ InRecv t.transport task then
      some { t.adopt (t.transport.closeTimeout task) with closer := none }
    else none

end Sender

/-! ## What a step does -/

/-- The opcode of a frame, as it is on the wire. -/
def wireOpcode (data : Bytes) : UInt8 := data.getD 0 0 &&& 0x0F

theorem wireOpcode_encodeFrame (order : Word.ByteOrder) (opcode : Opcode) (payload : Bytes)
    (mask : Option MaskKey) (fin rsv1 : Bool) :
    wireOpcode (encodeFrame order opcode payload mask fin rsv1) = opcode.value :=
  (firstHeaderByte_bits opcode fin rsv1).2.2.2.2

/-- The frame that a call sends, and whether it may be compressed. -/
def Action.call : Action Z → Option (Bool × Frame)
  | .send _ data binary _ => some (true, data.frame binary)
  | .sendFrame _ frame _ => some (!frame.opcode.isControl, frame)
  | _ => none

namespace Sender

/-- A call gets past the check it begins with. -/
def Ready (t : Sender Z) : Prop :=
  t.transport.connected = true ∧ t.transport.parser.isSome = true ∧
    t.transport.asyncioTransport = true

instance (t : Sender Z) : Decidable t.Ready := inferInstanceAs (Decidable (_ ∧ _ ∧ _))

/-- A call compresses its payload. -/
def Compresses (t : Sender Z) (compressible : Bool) (payload : Bytes) : Prop :=
  t.deflater.isSome = true ∧ compressible = true ∧ t.compressionThreshold ≤ payload.length

instance (t : Sender Z) (compressible : Bool) (payload : Bytes) :
    Decidable (t.Compresses compressible payload) := inferInstanceAs (Decidable (_ ∧ _ ∧ _))

/-- `out` is the frame, encoded, in a state `u` that differs from `t` by its compression. -/
structure Prepared (t u : Sender Z) (compressible : Bool) (frame : Frame) (out : Suspended) :
    Prop where
  transport : u.transport = t.transport
  suspended : u.suspended = t.suspended
  wrote : u.wrote = t.wrote
  opcode : wireOpcode out.frameData = frame.opcode.value
  number : t.Compresses compressible frame.payload ∧ out.number = some t.compressed ∧
      u.compressed = t.compressed + 1 ∨
    ¬ t.Compresses compressible frame.payload ∧ out.number = none ∧ u.compressed = t.compressed

/-- What becomes of a call of `send` or `send_frame`. -/
inductive Transmitted (t : Sender Z) (compressible : Bool) (frame : Frame) : Sender Z → Prop where
  | raises (h : ¬ t.Ready) : Transmitted t compressible frame t
  | waits {u : Sender Z} {out : Suspended} (h : t.Ready) (hblocked : t.Blocked)
      (hout : Prepared t u compressible frame out) :
      Transmitted t compressible frame (u.wait out)
  | writes {u : Sender Z} {out : Suspended} (h : t.Ready) (hblocked : ¬ t.Blocked)
      (hout : Prepared t u compressible frame out) :
      Transmitted t compressible frame (u.write out)

theorem pack_prepared (t : Sender Z) (task : Nat) (key : MaskKey) (compressible : Bool)
    (frame : Frame) (parser : FrameParser) :
    Prepared t (t.pack compressible frame.rsv1 frame.payload).1 compressible frame
      { task, number := (t.pack compressible frame.rsv1 frame.payload).2.2.2
        frameData := parser.encode frame.opcode (t.pack compressible frame.rsv1 frame.payload).2.1
          (some key) frame.fin (t.pack compressible frame.rsv1 frame.payload).2.2.1 } := by
  have hopcode : ∀ payload rsv1, wireOpcode (parser.encode frame.opcode payload (some key)
      frame.fin rsv1) = frame.opcode.value :=
    fun _ _ => wireOpcode_encodeFrame ..
  unfold pack
  cases hd : t.deflater with
  | none =>
    refine ⟨rfl, rfl, rfl, hopcode _ _, .inr ⟨?_, rfl, rfl⟩⟩
    rintro ⟨hsome, -⟩
    rw [hd] at hsome
    cases hsome
  | some deflater =>
    by_cases hdue : compressible ∧ t.compressionThreshold ≤ frame.payload.length
    · simp only [if_pos hdue]
      exact ⟨rfl, rfl, rfl, hopcode _ _, .inl ⟨⟨by rw [hd]; rfl, hdue⟩, rfl, rfl⟩⟩
    · simp only [if_neg hdue]
      exact ⟨rfl, rfl, rfl, hopcode _ _, .inr ⟨fun h => hdue h.2, rfl, rfl⟩⟩

theorem transmit_cases (t : Sender Z) (task : Nat) (key : MaskKey) (compressible : Bool)
    (frame : Frame) :
    Transmitted t compressible frame (t.transmit task key compressible frame).1 := by
  unfold transmit
  cases hc : t.transport.connected with
  | false => exact .raises (fun h => Bool.false_ne_true (hc.symm.trans h.1))
  | true =>
    cases hp : t.transport.parser with
    | none => exact .raises (fun h => by simpa [hp] using h.2.1)
    | some parser =>
      cases ha : t.transport.asyncioTransport with
      | false => exact .raises (fun h => Bool.false_ne_true (ha.symm.trans h.2.2))
      | true =>
        have hready : t.Ready := ⟨hc, by rw [hp]; rfl, ha⟩
        have hout := pack_prepared t task key compressible frame parser
        by_cases hblocked : t.Blocked
        · simp only [if_pos hblocked]
          exact .waits hready hblocked hout
        · simp only [if_neg hblocked]
          exact .writes hready hblocked hout

variable {t t' : Sender Z} {i : Action Z}

/-- **A call** raises, waits behind the others, or writes. -/
theorem step_call {compressible : Bool} {frame : Frame}
    (hcall : i.call = some (compressible, frame)) (h : step t i = some t') :
    Transmitted t compressible frame t' := by
  cases i with
  | send task data binary key =>
    cases hcall
    simp only [step] at h
    split at h
    · cases h
      exact transmit_cases t task key true (data.frame binary)
    · cases h
  | sendFrame task frame' key =>
    cases hcall
    simp only [step] at h
    split at h
    · cases h
      exact transmit_cases t task key _ frame
    · cases h
  | _ => cases hcall

/-- From `t` to `t'` the first call that waits, `out`, has gone on. -/
structure Resumed (t t' : Sender Z) (out : Suspended) : Prop where
  suspended : t.suspended = out :: t'.suspended
  compressed : t'.compressed = t.compressed
  closing : t'.transport.closing = t.transport.closing
  transport : t'.transport.asyncioTransport = t.transport.asyncioTransport
  writes : t.transport.asyncioTransport = true →
    t'.transport.conn.sock.written = t.transport.conn.sock.written ++ [out.frameData] ∧
      t'.wrote = t.wrote ++ out.number.toList
  raises : t.transport.asyncioTransport = false →
    t'.transport.conn.sock.written = t.transport.conn.sock.written ∧ t'.wrote = t.wrote

/-- **The first call that waits** goes on: it writes, or raises where the transport is gone. -/
theorem step_resumeSend (h : step t .resumeSend = some t') : ∃ out, Resumed t t' out := by
  simp only [step] at h
  split at h
  · rename_i out rest hwoken hsuspended
    cases h
    refine ⟨out, ?_⟩
    unfold resumeSend
    dsimp only
    split
    · rename_i ha
      exact ⟨hsuspended, rfl, rfl, rfl, fun _ => ⟨rfl, rfl⟩, fun h => by simp [ha] at h⟩
    · rename_i ha
      exact ⟨hsuspended, rfl, rfl, rfl, fun h => absurd h ha, fun _ => ⟨rfl, rfl⟩⟩
  · cases h

/-- What a step outside the calls of `send` and `send_frame` makes of the transport. -/
inductive Advanced (t : Sender Z) : Action Z → AsyncTransport Z.toZlib → Prop where
  | received {i : Input Z.toZlib} {v : AsyncTransport Z.toZlib} (hi : t.Receives i)
      (h : Transport.step t.transport i = some v) : Advanced t (.receive i) v
  | connected {params : Option DeflateParams} {keys : Nat → MaskKey}
      {v : AsyncTransport Z.toZlib}
      (h : Transport.step t.transport (.finishConnect
        (params.bind (fun p => (p.deflater Z.toZlib).toOption)) keys) = some v) :
      Advanced t (.finishConnect params keys) v
  | paused : Advanced t .pauseWriting { t.transport with conn := t.transport.conn.pauseWriting }
  | resumed : Advanced t .resumeWriting { t.transport with conn := t.transport.conn.resumeWriting }
  | pinged {payload : Bytes} {key : MaskKey} {v : AsyncTransport Z.toZlib}
      (h : t.transport.ping payload key = .ok v) : Advanced t (.ping payload key) v
  | refused {payload : Bytes} {key : MaskKey} {e : Exc}
      (h : t.transport.ping payload key = .error e) : Advanced t (.ping payload key) t.transport
  | closed (task code : Nat) (reason : String) (key : MaskKey) :
      Advanced t (.close task code reason key) (t.transport.close task code reason key).1
  | closeWoken (task : Nat) : Advanced t (.closeResume task) (t.transport.closeResume task).1
  | closeTimedOut (task : Nat) : Advanced t (.closeTimeout task) (t.transport.closeTimeout task)

/-- From `t` to `t'` the calls that wait are left alone, and nothing is compressed. -/
structure Other (t t' : Sender Z) (i : Action Z) : Prop where
  advanced : Advanced t i t'.transport
  suspended : t'.suspended = t.suspended
  wrote : t'.wrote = t.wrote
  compressed : t'.compressed = t.compressed

/-- **Nothing else** touches the calls that wait, or compresses. -/
theorem step_other (hcall : i.call = none) (hresume : i ≠ .resumeSend)
    (h : step t i = some t') : Other t t' i := by
  cases i with
  | receive i =>
    simp only [step] at h
    split at h
    · rename_i hi
      obtain ⟨v, hv, rfl⟩ := Option.map_eq_some_iff.mp h
      exact ⟨.received hi hv, rfl, rfl, rfl⟩
    · cases h
  | finishConnect params keys =>
    simp only [step, finishConnect] at h
    split at h
    · obtain ⟨v, hv, rfl⟩ := Option.map_eq_some_iff.mp h
      exact ⟨.connected hv, rfl, rfl, rfl⟩
    · split at h
      · cases h
      · rename_i p _ d hd
        have hdeflater : (p.deflater Z.toZlib).toOption = some d := by
          unfold DeflateParams.deflater
          rw [hd]
          rfl
        obtain ⟨v, hv, rfl⟩ := Option.map_eq_some_iff.mp h
        refine ⟨.connected ?_, rfl, rfl, rfl⟩
        rw [Option.bind_some, hdeflater]
        exact hv
  | send | sendFrame => cases hcall
  | resumeSend => exact absurd rfl hresume
  | pauseWriting =>
    cases h
    exact ⟨.paused, rfl, rfl, rfl⟩
  | resumeWriting =>
    cases h
    exact ⟨.resumed, rfl, rfl, rfl⟩
  | ping payload key =>
    simp only [step] at h
    split at h
    · rename_i hping
      cases h
      exact ⟨.pinged hping, rfl, rfl, rfl⟩
    · rename_i hping
      cases h
      exact ⟨.refused hping, rfl, rfl, rfl⟩
  | close task code reason key =>
    simp only [step] at h
    split at h
    · cases h
      exact ⟨.closed task code reason key, rfl, rfl, rfl⟩
    · cases h
  | closeResume task =>
    simp only [step] at h
    split at h
    · cases h
      exact ⟨.closeWoken task, rfl, rfl, rfl⟩
    · cases h
  | closeTimeout task =>
    simp only [step] at h
    split at h
    · cases h
      exact ⟨.closeTimedOut task, rfl, rfl, rfl⟩
    · cases h

end Sender
end JetSocket.Transport
