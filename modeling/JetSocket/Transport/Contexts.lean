import JetSocket.Transport.Delivery
import JetSocket.Transport.Sending

/- The compression contexts of a connection over whole sequences of messages.

   The other end is a `Deflater` with the settings of the two directions swapped. What it is
   given are the frames with RSV1, in order (`inflateAll`); the others it leaves alone.

   What is proved:
     `contexts_in_step` — the other end recovers every payload sent with `send`, one call
     after the other, and `data_received` recovers every payload it sends. -/
namespace JetSocket.Transport
open JetSocket.Core Transition AsyncTransport StatefulCodec Incremental

variable {Z : ZlibModule}

/-! ## One call after the other -/

/-- A call of `send` that nothing overlaps. `held`: writing is paused when it comes, and
resumed behind it. -/
structure SendCall where
  task : Nat
  data : Data
  binary : Option Bool
  key : MaskKey
  held : Bool

namespace SendCall

/-- What happens in it. -/
def actions (call : SendCall) : List (Action Z) :=
  if call.held then
    [.pauseWriting, .send call.task call.data call.binary call.key, .resumeWriting, .resumeSend]
  else [.send call.task call.data call.binary call.key]

/-- A frame of this call on the wire. -/
def wire (parser : FrameParser) (call : SendCall) (f : Frame) : Bytes :=
  parser.encode f.opcode f.payload (some call.key) f.fin f.rsv1

/-- The frame it sends, compressed or not. -/
def outgoing (compressionThreshold : Int) (call : SendCall) : Outgoing :=
  if compressionThreshold ≤ call.data.payload.length then
    .compressed (call.data.frame call.binary).opcode call.data.payload
  else .plain (call.data.frame call.binary)

theorem outgoing_allowed (compressionThreshold : Int) (call : SendCall) :
    (call.outgoing compressionThreshold).Allowed := by
  have hdata : (call.data.frame call.binary).opcode.isControl = false := by
    unfold Data.frame
    dsimp only
    split <;> rfl
  unfold outgoing
  split
  · exact hdata
  · rfl

/-- The other end sees the message. -/
theorem outgoing_received (compressionThreshold : Int) (call : SendCall) :
    (call.outgoing compressionThreshold).received = [call.data.frame call.binary] := by
  have hping : (call.data.frame call.binary).opcode ≠ .ping := by
    unfold Data.frame
    dsimp only
    split <;> decide
  unfold outgoing
  split
  · rfl
  · simp only [Outgoing.received, if_neg hping]

end SendCall

namespace Sender

/-- A connection with nothing going on, and its compressor. -/
structure Clear (t : Sender Z) (c : CompressHalf Z) : Prop where
  connected : t.transport.connected = true
  parser : t.transport.parser.isSome = true
  transport : t.transport.asyncioTransport = true
  protocol : t.transport.protocol = true
  deflater : t.deflater = some c
  suspended : t.suspended = []
  idle : Idle t.transport
  canWrite : t.transport.conn.proto.canWrite = Event.new.set

/-- The sender behind the compression of a call. -/
def packed (t : Sender Z) (c : CompressHalf Z) (call : SendCall) (compressed : Nat) : Sender Z :=
  { t with
    deflater := some ((call.outgoing t.compressionThreshold).frame c).2
    compressed := compressed }

theorem pack_outgoing {t : Sender Z} {c : CompressHalf Z} (hd : t.deflater = some c)
    (call : SendCall) : ∃ number compressed,
    t.pack true false call.data.payload =
      (t.packed c call compressed, ((call.outgoing t.compressionThreshold).frame c).1.payload,
        ((call.outgoing t.compressionThreshold).frame c).1.rsv1, number) := by
  obtain ⟨_, threshold, _, _, _, _, _⟩ := t
  cases hd
  unfold pack packed SendCall.outgoing
  dsimp only
  by_cases hdue : threshold ≤ call.data.payload.length
  · rw [if_pos hdue, if_pos ⟨rfl, hdue⟩]
    exact ⟨_, _, rfl⟩
  · rw [if_neg hdue, if_neg (fun h => hdue h.2)]
    exact ⟨_, _, rfl⟩

/-- What `send` makes of a call that gets past its check. -/
theorem send_eq {t : Sender Z} {c : CompressHalf Z} {parser : FrameParser}
    (hconnected : t.transport.connected = true) (hp : t.transport.parser = some parser)
    (ha : t.transport.asyncioTransport = true) (hd : t.deflater = some c) (call : SendCall) :
    ∃ (compressed : Nat) (out : Suspended),
      out.frameData = call.wire parser ((call.outgoing t.compressionThreshold).frame c).1 ∧
      out.task = call.task ∧
      (t.send call.task call.data call.binary call.key).1 =
        if t.Blocked then (t.packed c call compressed).wait out
        else (t.packed c call compressed).write out := by
  obtain ⟨number, compressed, hpack⟩ := pack_outgoing hd call
  have hframe : ∀ f : Frame, f = ((call.outgoing t.compressionThreshold).frame c).1 →
      (call.data.frame call.binary).opcode = f.opcode ∧ true = f.fin := by
    rintro f rfl
    unfold SendCall.outgoing
    split <;> exact ⟨rfl, rfl⟩
  obtain ⟨hopcode, hfin⟩ := hframe _ rfl
  refine ⟨compressed, ⟨call.task, call.wire parser _, number⟩, rfl, rfl, ?_⟩
  unfold send transmit
  rw [hconnected, hp, ha]
  simp only [show (call.data.frame call.binary).payload = call.data.payload from rfl,
    show (call.data.frame call.binary).rsv1 = false from rfl,
    show (call.data.frame call.binary).fin = true from rfl, hpack, hopcode]
  unfold SendCall.wire
  rw [← hfin]
  split <;> rfl

/-- **One call**, from the first of its steps to the last. -/
theorem Clear.call {t : Sender Z} {c : CompressHalf Z} (h : t.Clear c) {parser : FrameParser}
    (hp : t.transport.parser = some parser) (call : SendCall) :
    ∃ t', exec step t call.actions = some t' ∧
      t'.Clear ((call.outgoing t.compressionThreshold).frame c).2 ∧
      t'.compressionThreshold = t.compressionThreshold ∧ t'.transport.parser = some parser ∧
      t'.transport.conn.sock.written = t.transport.conn.sock.written ++
        [call.wire parser ((call.outgoing t.compressionThreshold).frame c).1] := by
  have hidle : ¬ InRecv t.transport call.task := by
    unfold InRecv
    rw [h.idle.1, h.idle.2]
    exact fun hin => hin.elim List.not_mem_nil List.not_mem_nil
  have hfree : t.Free call.task := ⟨hidle, by rw [h.suspended]; exact List.not_mem_nil⟩
  unfold SendCall.actions
  cases call.held with
  | false =>
    obtain ⟨compressed, out, hdata, -, hsend⟩ := send_eq h.connected hp h.transport h.deflater call
    have hopen : ¬ t.Blocked := fun hblocked => by
      have hflag := hblocked.2
      rw [h.canWrite] at hflag
      cases hflag
    rw [if_neg hopen] at hsend
    refine ⟨(t.packed c call compressed).write out, ?_, ?_, rfl, hp, ?_⟩
    · simp only [Bool.false_eq_true, if_false, exec, step, if_pos hfree, hsend, Option.bind_some]
    · exact ⟨h.connected, h.parser, h.transport, h.protocol, rfl, h.suspended, h.idle, h.canWrite⟩
    · rw [← hdata]
      rfl
  | true =>
    -- `last` is the state the four steps end in: the frame is written from the queue
    let paused : Sender Z :=
      { t with transport := { t.transport with conn := t.transport.conn.pauseWriting } }
    obtain ⟨compressed, out, hdata, htask, hsend⟩ :=
      send_eq (t := paused) h.connected hp h.transport h.deflater call
    have hblocked : paused.Blocked := ⟨h.protocol, rfl⟩
    rw [if_pos hblocked] at hsend
    let waiting : Sender Z := (paused.packed c call compressed).wait out
    let resumed : Sender Z := { waiting with
      transport := { waiting.transport with conn := waiting.transport.conn.resumeWriting } }
    have hcan : resumed.transport.conn.proto.canWrite =
        (Event.new.set.clear.wait out.task).set := by
      show ((t.transport.conn.proto.canWrite.clear).wait out.task).set = _
      rw [h.canWrite]
    have hsuspended : resumed.suspended = [out] := by
      show t.suspended ++ [out] = [out]
      rw [h.suspended, List.nil_append]
    let last : Sender Z := { resumed with
      suspended := []
      wrote := t.wrote ++ out.number.toList
      transport := { resumed.transport with conn :=
        { proto := { t.transport.conn.proto with canWrite := Event.new.set }
          sock := (t.transport.conn.write out.frameData).sock } } }
    have hlast : step resumed .resumeSend = some last := by
      have hwrites : ({ resumed with suspended := [] }.resumeSend out).1 = last := by
        unfold resumeSend last
        rw [← Event.wait_set_resume out.task, ← hcan]
        exact congrArg Prod.fst (if_pos h.transport)
      rw [← hwrites]
      simp only [step, hcan, hsuspended]
      rfl
    have hcall : step paused (.send call.task call.data call.binary call.key) = some waiting := by
      simp only [step, if_pos (show paused.Free call.task from hfree), hsend, waiting]
    refine ⟨last, ?_, ?_, rfl, hp, ?_⟩
    · show exec step t [.pauseWriting, _, .resumeWriting, .resumeSend] = some last
      simp only [exec, show step t .pauseWriting = some paused from rfl, hcall,
        show step waiting .resumeWriting = some resumed from rfl, hlast, Option.bind_some]
    · exact ⟨h.connected, h.parser, h.transport, h.protocol, rfl, rfl, h.idle, rfl⟩
    · rw [← hdata]
      rfl

/-- The frames of the calls on the wire. -/
def wires (parser : FrameParser) (compressionThreshold : Int) (c : CompressHalf Z)
    (calls : List SendCall) : List Bytes :=
  List.zipWith (SendCall.wire parser) calls
    (encodeRun Outgoing.frame c (calls.map (SendCall.outgoing compressionThreshold))).1

/-- **Call after call**: each writes its frame. -/
theorem Clear.calls {parser : FrameParser} (calls : List SendCall) :
    ∀ {t : Sender Z} {c : CompressHalf Z}, t.Clear c → t.transport.parser = some parser →
      ∃ t', exec step t (calls.flatMap SendCall.actions) = some t' ∧
        t'.transport.conn.sock.written =
          t.transport.conn.sock.written ++ wires parser t.compressionThreshold c calls := by
  induction calls with
  | nil => exact fun {t _} _ _ => ⟨t, rfl, (List.append_nil _).symm⟩
  | cons call calls ih =>
    intro t c h hp
    obtain ⟨t₁, hone, hclear, hthreshold, hp₁, hw₁⟩ := h.call hp call
    obtain ⟨t₂, hmore, hw₂⟩ := ih hclear hp₁
    refine ⟨t₂, ?_, ?_⟩
    · rw [List.flatMap_cons, exec_append, hone]
      exact hmore
    · rw [hw₂, hw₁, hthreshold, List.append_assoc]
      rfl

/-! ## What the other end reads -/

/-- The frame of a call is one that the other end's parser takes. -/
theorem wire_wireFrame {maxFrameSize : Nat} (parser : FrameParser) (compressionThreshold : Int)
    (c : CompressHalf Z) (call : SendCall) (hmax : maxFrameSize ≤ ssizeMax)
    (hlen : (call.wire parser ((call.outgoing compressionThreshold).frame c).1).length ≤
      maxFrameSize) :
    ∃ w : WireFrame maxFrameSize,
      w.encode parser = call.wire parser ((call.outgoing compressionThreshold).frame c).1 ∧
        w.frame = ((call.outgoing compressionThreshold).frame c).1 := by
  have hdata : ∀ f : Frame, f = ((call.outgoing compressionThreshold).frame c).1 →
      f.opcode.isControl = false ∧
        { opcode := f.opcode, payload := f.payload, fin := f.fin, rsv1 := f.rsv1 } = f := by
    rintro f rfl
    have hcontrol : (call.data.frame call.binary).opcode.isControl = false := by
      unfold Data.frame
      dsimp only
      split <;> rfl
    unfold SendCall.outgoing
    split <;> exact ⟨hcontrol, rfl⟩
  generalize ((call.outgoing compressionThreshold).frame c).1 = f at hlen hdata ⊢
  obtain ⟨hcontrol, hframe⟩ := hdata f rfl
  have hsize : (call.wire parser f).length =
      encodedHeaderLen f.payload.length true + f.payload.length :=
    encodeFrame_length ..
  refine ⟨⟨f.opcode, f.payload, f.fin, f.rsv1, some call.key, by omega, ?_, ?_, ?_⟩, rfl, hframe⟩
  · exact fun h => absurd h (by rw [hcontrol]; decide)
  · exact fun h => absurd h (by rw [hcontrol]; decide)
  · show encodedHeaderLen f.payload.length true + f.payload.length ≤ ssizeMax
    omega

theorem wires_wireFrames {maxFrameSize : Nat} (parser : FrameParser) (compressionThreshold : Int)
    (hmax : maxFrameSize ≤ ssizeMax) (calls : List SendCall) : ∀ c : CompressHalf Z,
    (∀ w ∈ wires parser compressionThreshold c calls, w.length ≤ maxFrameSize) →
      ∃ ws : List (WireFrame maxFrameSize),
        ws.map (WireFrame.encode parser) = wires parser compressionThreshold c calls ∧
        ws.map WireFrame.frame =
          (encodeRun Outgoing.frame c (calls.map (SendCall.outgoing compressionThreshold))).1 := by
  induction calls with
  | nil => exact fun _ _ => ⟨[], rfl, rfl⟩
  | cons call calls ih =>
    intro c hlen
    obtain ⟨w, hw, hframe⟩ := wire_wireFrame parser compressionThreshold c call hmax
      (hlen _ List.mem_cons_self)
    obtain ⟨ws, hws, hframes⟩ := ih _ (fun w hw => hlen w (List.mem_cons_of_mem _ hw))
    refine ⟨w :: ws, ?_, ?_⟩
    · rw [List.map_cons, hw, hws]
      rfl
    · rw [List.map_cons, hframe, hframes]
      rfl

end Sender

/-! ## The two directions -/

/-- The settings as the other end has them. -/
def DeflateParams.swap (p : DeflateParams) : DeflateParams :=
  { clientNoContextTakeover := p.serverNoContextTakeover
    serverNoContextTakeover := p.clientNoContextTakeover
    clientMaxWindowBits := p.serverMaxWindowBits
    serverMaxWindowBits := p.clientMaxWindowBits }

/-- The compression half for these settings. -/
def DeflateParams.compressor (Z : ZlibModule) (p : DeflateParams) : CompressHalf Z :=
  CompressHalf.new Z p.clientNoContextTakeover p.clientMaxWindowBits

namespace Sender

/-- The response of the handshake arrives, and `connect` ends with these settings. -/
def opened (Z : ZlibModule) (config : TransportConfig) (compressionThreshold : Int)
    (request response : Bytes) (keys keys' : Nat → MaskKey) (params : DeflateParams) :
    Option (Sender Z) :=
  exec step (Sender.start Z config compressionThreshold request)
    [.receive (.dataReceived response keys), .finishConnect (some params) keys']

/-- The end of `connect`, where nothing has been going on. -/
theorem finishConnect_clear {t t' : Sender Z} {params : DeflateParams} {keys : Nat → MaskKey}
    (h : step t (.finishConnect (some params) keys) = some t')
    (hconnected : t'.transport.connected = true) (ha : t.transport.asyncioTransport = true)
    (hp : t.transport.protocol = true) (hs : t.suspended = []) (hidle : Idle t.transport)
    (hcan : t.transport.conn.proto.canWrite = Event.new.set) :
    t'.Clear (params.compressor Z) ∧ t'.compressionThreshold = t.compressionThreshold := by
  simp only [step, finishConnect] at h
  split at h
  · cases h
  · rename_i d hd
    obtain ⟨v, hv, rfl⟩ := Option.map_eq_some_iff.mp h
    simp only [Transport.step] at hv
    split at hv
    · obtain rfl := Option.some.inj hv
      have hready := (finishConnect_grows t.transport (some d) keys).2
      have hfinished := finishConnect_finished t.transport (some d) keys
      exact ⟨⟨hconnected, Option.isSome_of_mem hfinished.parser,
        hfinished.asyncioTransport.trans ha, hfinished.protocol.trans hp, rfl, hs,
        idle_of_set hidle hready, hfinished.canWrite.trans hcan⟩, rfl⟩
    · cases hv

/-- A connection that was just made. -/
theorem opened_clear {config : TransportConfig} {compressionThreshold : Int}
    {request response : Bytes} {keys keys' : Nat → MaskKey} {params : DeflateParams} {t : Sender Z}
    (h : opened Z config compressionThreshold request response keys keys' params = some t)
    (hconnected : t.transport.connected = true) :
    t.Clear (params.compressor Z) ∧ t.compressionThreshold = compressionThreshold := by
  let answered : Sender Z :=
    (Sender.start Z config compressionThreshold request).adopt
      { Transport.start Z.toZlib config request with
        conn := (dataReceived (Transport.start Z.toZlib config request).conn response keys).1 }
  have hsecond : step answered (.finishConnect (some params) keys') = some t := by
    obtain ⟨t₂, hstep, ht⟩ := Option.bind_eq_some_iff.mp h
    cases ht
    exact hstep
  refine finishConnect_clear hsecond hconnected rfl rfl rfl ?_ ?_
  · exact idle_of_set ⟨rfl, rfl⟩ (dataReceived_grows _ response keys).2
  · exact dataReceived_canWrite ..

end Sender

open Sender

/-- The calls, as the other end sees them. -/
theorem received_calls (compressionThreshold : Int) (calls : List SendCall) :
    (calls.map (SendCall.outgoing compressionThreshold)).flatMap Outgoing.received =
      calls.map (fun call => call.data.frame call.binary) := by
  induction calls with
  | nil => rfl
  | cons call calls ih =>
    rw [List.map_cons, List.flatMap_cons, ih, SendCall.outgoing_received]
    rfl

/-- **The contexts stay in step.** For any settings: the other end recovers every message that
is sent with `send`, one call after the other; and what `data_received` queues of a stream that
the other end sends is every message of it. -/
theorem contexts_in_step (hz : Z.SyncFlushed) (config : TransportConfig) (params : DeflateParams) :
    (∀ (compressionThreshold : Int) (request response : Bytes) (keys keys' : Nat → MaskKey)
        (t₀ : Sender Z),
      opened Z config compressionThreshold request response keys keys' params = some t₀ →
      t₀.transport.connected = true → ∀ calls : List SendCall, ∃ t chunks,
        exec Sender.step t₀ (calls.flatMap SendCall.actions) = some t ∧
        t.transport.conn.sock.written = t₀.transport.conn.sock.written ++ chunks ∧
        ∀ peer, params.swap.deflater Z.toZlib = .ok peer →
          ∀ (order : Word.ByteOrder) (maxFrameSize maxMessageSize : Nat),
            maxFrameSize ≤ ssizeMax → (∀ w ∈ chunks, w.length ≤ maxFrameSize) →
            ∃ frames n peer',
              ((FrameParser.new order maxFrameSize maxMessageSize).feed chunks.flatten).2 =
                .ok (frames, n) ∧
              inflateAll (some peer) frames =
                some (calls.map (fun call => call.data.frame call.binary), peer')) ∧
    (∀ (request : Bytes) (run : List (Input Z.toZlib)) (s : Trace Z.toZlib)
        (d : Deflater Z.toZlib),
      exec Trace.step (Trace.start Z.toZlib config request) run = some s →
      params.deflater Z.toZlib = .ok d → s.deflater = some d →
      ∀ os : List Outgoing, (∀ o ∈ os, o.Allowed) →
        ∀ (sender : FrameParser) (ws : List (WireFrame config.maxFrameSize)),
          ws.map WireFrame.frame = (encodeRun Outgoing.frame (params.swap.compressor Z) os).1 →
          s.stream = encodeAll sender ws →
          s.taken ++ s.transport.conn.proto.frames = os.flatMap Outgoing.received) := by
  constructor
  · intro compressionThreshold request response keys keys' t₀ hopen hconnected calls
    obtain ⟨hclear, rfl⟩ := opened_clear hopen hconnected
    obtain ⟨parser, hp⟩ := Option.isSome_iff_exists.mp hclear.parser
    obtain ⟨t, hrun, hwritten⟩ := hclear.calls calls hp
    refine ⟨t, _, hrun, hwritten, fun peer hpeer order maxFrameSize maxMessageSize hmax hlen => ?_⟩
    obtain ⟨ws, hws, hframes⟩ := wires_wireFrames parser t₀.compressionThreshold hmax calls _ hlen
    have hstart : InStep (params.compressor Z) peer := inStep_new hpeer
    obtain ⟨peer', hinflate, -⟩ := inflateAll_outgoing hz
      (calls.map (SendCall.outgoing t₀.compressionThreshold)) hstart (by
        intro o ho
        obtain ⟨call, -, rfl⟩ := List.mem_map.mp ho
        exact call.outgoing_allowed t₀.compressionThreshold)
    rw [received_calls] at hinflate
    have hstream : (wires parser t₀.compressionThreshold (params.compressor Z) calls).flatten =
        encodeAll parser ws := by
      rw [← hws]
      rfl
    refine ⟨ws.map WireFrame.frame, (encodeAll parser ws).length, some peer', ?_, ?_⟩
    · rw [hstream, feed_encodeAll]
    · rw [hframes, hinflate]
  · intro request run s d hrun hd hs os hos sender ws hframes hstream
    have hinv : Orderly config request s :=
      exec_invariant orderly_step (orderly_start Z.toZlib config request) hrun
    have hparse := drain_encodeAll sender config.order ws []
    rw [List.append_nil, drain_none (parseFrame_stable _ _).nil, Drained.after_ok, ← hstream,
      hframes] at hparse
    have hstart : InStep (params.swap.compressor Z) d := inStep_new hd
    obtain ⟨d', hinflate, -⟩ := inflateAll_outgoing hz os hstart hos
    rw [← hs] at hinflate
    rw [List.append_nil] at hparse
    exact (hinv.queue hparse hinflate).1

/-- "Hello", and an empty payload while writing is paused. -/
def messages : List SendCall :=
  [⟨1, .str "Hello", none, ⟨0, 0, 0, 0⟩, false⟩, ⟨2, .bytes [], none, ⟨0, 0, 0, 0⟩, true⟩]

/-- The settings of a server that resets its own context. -/
def resetting : DeflateParams := { serverNoContextTakeover := true }

/-- Both are compressed, and recovered by the other end. -/
theorem contexts_in_step_hello :
    ∃ t₀ t chunks frames n peer peer',
      opened smallZlib ⟨.little, 1024, 4096, false⟩ 0 [] headerEnd (fun _ => ⟨0, 0, 0, 0⟩)
        (fun _ => ⟨0, 0, 0, 0⟩) resetting = some t₀ ∧
      exec Sender.step t₀ (messages.flatMap SendCall.actions) = some t ∧
      t.transport.conn.sock.written = t₀.transport.conn.sock.written ++ chunks ∧
      resetting.swap.deflater smallZlib.toZlib = .ok peer ∧
      ((FrameParser.new .little 1024 4096).feed chunks.flatten).2 = .ok (frames, n) ∧
      inflateAll (some peer) frames =
        some ([{ opcode := .text, payload := hello }, { opcode := .binary, payload := [] }],
          peer') := by
  obtain ⟨t, chunks, hrun, hwritten, hpeer⟩ :=
    (contexts_in_step smallZlib_syncFlushed ⟨.little, 1024, 4096, false⟩ resetting).1 0 []
      headerEnd (fun _ => ⟨0, 0, 0, 0⟩) (fun _ => ⟨0, 0, 0, 0⟩) _ rfl rfl messages
  cases hrun
  obtain rfl := (List.cons.inj hwritten).2
  obtain ⟨frames, n, peer', hfeed, hinflate⟩ :=
    hpeer _ rfl .little 1024 4096 (by decide) (by decide)
  exact ⟨_, _, _, frames, n, _, peer', rfl, rfl, hwritten, rfl, hfeed, hinflate⟩

end JetSocket.Transport
