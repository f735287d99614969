import JetSocket.Transport.Addresses
import JetSocket.Transport.Boundary
import JetSocket.Transport.Renewal

/- One `SyncTransport` object over several connections (`transport/_sync.py`), beside the
   asyncio one.

   `connect` asks for `_connected` only. `_close_socket` drops the parser and the deflater, and
   leaves `_closing`, `_pending_frames`, `_close_code` and `_close_reason`; a connection that ends
   with no Close frame does not run it.

   One thread uses the object, so a call is one step. A call of `recv` that the reads given to
   it do not end is not possible.

   Correspondence (Python ↔ Lean):
     `connect`, `_perform_handshake`         ↔ `connect`, `readsResponse`
     `send`, `send_frame`, `ping`            ↔ `send`, `sendFrame`, `ping`
     how `_send_all` ends                    ↔ `Write`
     `recv`, all its reads                   ↔ `recvWith`
     `_deflater`, its two halves             ↔ `deflater`, `transport.deflater`

   What is proved:
     1. `own_step` — while `_closing` is unset there is no close code and no reason, and
        no frame is pending once the connection is gone.
     2. `alike_new_iff` — the object is as good as new exactly where `_closing` is unset and no
        deflater is left over, or there is a new one.
     3. `as_good_as_new_iff` — both transports. -/
namespace JetSocket.Transport
open JetSocket.Core Transition AsyncTransport

variable {Z : ZlibModule}

/-- How `_send_all` ends. -/
inductive Write where
  | sent
  | timedOut
  | closed
  | failed (text : String)
  deriving DecidableEq, Repr

def Write.exc : Write → Option Exc
  | .sent => none
  | .timedOut => some (.timeoutError "Write operation timed out" "send")
  | .closed => some (.connectionError "Connection closed")
  | .failed text => some (.connectionError s!"Send failed: {text}")

/-- How `wrap_socket` ends. -/
inductive Wrap where
  | wrapped
  | sslError (text : String)
  | raised (e : Exc)
  deriving DecidableEq, Repr

/-- What a call of `connect` meets: `create_connection`, `wrap_socket`, the request, and the
reads of the response. -/
structure SyncNetwork where
  dial : Dial
  wrap : Wrap
  request : Write
  reads : List Read

structure SyncConnectCall where
  key : String
  uri : String
  net : SyncNetwork

/-- `create_connection`, and what `connect` makes of its exceptions. -/
def createConnection (u : WebSocketURI) : Dial → Except Exc Unit
  | .connected => .ok ()
  | .timedOut =>
    .error (.timeoutError s!"Connection to {u.host}:{u.port} timed out" "connect")
  | .osError text => .error (.connectionError s!"Failed to connect to {u.host}:{u.port}: {text}")
  | .raised e => .error e

/-- `wrap_socket`, on a `wss` URI only. -/
def wrapSocket (u : WebSocketURI) (wrap : Wrap) : Wrap := if u.isSecure then wrap else .wrapped

/-- The reads of the response. When nothing comes any more the read times out. -/
def readsResponse (Z : Zlib) (acceptKey : String → String) (config : HandshakeConfig)
    (h : Handshake) : Bytes → List Read → Except Exc (Option (Deflater Z))
  | _, [] => .error (.timeoutError "Read operation timed out" "recv")
  | responseData, read :: reads =>
    match readResponse Z acceptKey config h responseData read with
    | .more responseData => readsResponse Z acceptKey config h responseData reads
    | .raised e => .error e
    | .answered deflater => .ok deflater

/-- `_perform_handshake`. -/
def SyncNetwork.handshake (Z : Zlib) (acceptKey : String → String) (config : HandshakeConfig)
    (h : Handshake) (net : SyncNetwork) : Except Exc (Option (Deflater Z)) :=
  match net.request.exc with
  | some e => .error e
  | none => readsResponse Z acceptKey config h [] net.reads

namespace SyncTransport
variable {Z : Zlib}

/-- `recv`, from its first read on. -/
def recvReads (t : SyncTransport Z) :
    List (Read × (Nat → MaskKey)) → Option (SyncTransport Z × RecvStop)
  | [] =>
    if t.socket then none
    else some (t, .raised (.connectionError "Socket is not connected"))
  | (read, keys) :: reads =>
    -- a read that ends no call is followed by the next one
    match t.recvChunk read keys with
    | (t, .waiting) => recvReads t reads
    | r => some r

/-- `recv`, with the reads it makes. -/
def recvWith (t : SyncTransport Z) (reads : List (Read × (Nat → MaskKey))) :
    Option (SyncTransport Z × RecvStop) :=
  match t.recv with
  | (t, .waiting) => t.recvReads reads
  | r => some r

/-- `ping`. -/
def ping (t : SyncTransport Z) (payload : Bytes) (key : MaskKey) (write : Write) :
    SyncTransport Z × Option Exc :=
  if 125 < payload.length then
    (t, some (.valueError "Ping payload must be 125 bytes or less"))
  else
    match t.connected, t.parser with
    | true, some parser =>
      if t.socket then (t.sendAll (parser.encode .ping payload (some key) true), write.exc)
      else (t, some (.connectionError "Socket is not connected"))
    | _, _ => (t, some (.connectionError "Transport is not connected"))

end SyncTransport

/-- The whole transport. -/
structure SyncObject (Z : ZlibModule) where
  transport : SyncTransport Z.toZlib
  compressionThreshold : Int
  deflater : Option (CompressHalf Z)

/-- What a call comes to. -/
inductive SyncOutcome where
  | ended (raised : Option Exc)
  | recv (stop : RecvStop)
  deriving DecidableEq

namespace SyncObject

/-- `SyncTransport.__init__`. -/
def new (Z : ZlibModule) (config : TransportConfig) (compressionThreshold : Int) : SyncObject Z :=
  { transport := SyncTransport.new Z.toZlib config, compressionThreshold, deflater := none }

/-- The transport moved on; `_close_socket` drops both halves of the deflater. -/
def adopt (t : SyncObject Z) (v : SyncTransport Z.toZlib) : SyncObject Z :=
  { t with transport := v, deflater := if v.deflater.isSome then t.deflater else none }

/-- `connect`, behind a valid response. -/
def switch (t : SyncObject Z) (negotiated : Option (Deflater Z.toZlib)) (request : Bytes) :
    SyncObject Z :=
  { t with
    transport := { t.transport with socket := true, written := [request] }.finishConnect negotiated
    deflater := (negotiated.map (Deflater.compressHalf Z)).or t.deflater }

/-- `connect`, with the exception that leaves it, if any. -/
def connect (env : Surroundings) (call : SyncConnectCall) (t : SyncObject Z) :
    SyncObject Z × Option Exc :=
  if t.transport.connected then (t, some (.connectionError "Transport is already connected"))
  else
    match parseUri env.urlparse call.uri with
    | .error e => (t, some e)
    | .ok u =>
      match createConnection u call.net.dial with
      | .error e => (t, some e)
      | .ok () =>
        let dialled := { t.transport with socket := true, written := [] }
        match wrapSocket u call.net.wrap with
        | .sslError text =>
          (t.adopt dialled.closeSocket, some (.connectionError s!"SSL handshake failed: {text}"))
        -- only `ssl.SSLError` is caught: the open socket stays
        | .raised e => (t.adopt dialled, some e)
        | .wrapped =>
          let h := handshake env.config call.key u
          match call.net.handshake Z.toZlib env.acceptKey env.config h with
          | .error e => (t.adopt (dialled.sendAll h.buildRequest).closeSocket, some e)
          | .ok negotiated => (t.switch negotiated h.buildRequest, none)

/-- The compression of a payload, where one is due: the payload and RSV1. -/
def pack (t : SyncObject Z) (compressible rsv1 : Bool) (payload : Bytes) :
    SyncObject Z × Bytes × Bool :=
  match t.deflater with
  | none => (t, payload, rsv1)
  | some deflater =>
    if compressible ∧ t.compressionThreshold ≤ payload.length then
      let r := deflater.compress payload
      ({ t with deflater := some r.2 }, r.1, true)
    else (t, payload, rsv1)

/-- `send` and `send_frame`, from the frame to be sent. -/
def transmit (t : SyncObject Z) (key : MaskKey) (compressible : Bool) (frame : Frame)
    (write : Write) : SyncObject Z × Option Exc :=
  match t.transport.connected, t.transport.parser with
  | true, some parser =>
    let r := t.pack compressible frame.rsv1 frame.payload
    let frameData := parser.encode frame.opcode r.2.1 (some key) frame.fin r.2.2
    if t.transport.socket then
      ({ r.1 with transport := r.1.transport.sendAll frameData }, write.exc)
    else (r.1, some (.connectionError "Socket is not connected"))
  | _, _ => (t, some (.connectionError "Transport is not connected"))

/-- `send`. -/
def send (t : SyncObject Z) (data : Data) (binary : Option Bool) (key : MaskKey) (write : Write) :
    SyncObject Z × Option Exc :=
  t.transmit key true (data.frame binary) write

/-- `send_frame`. -/
def sendFrame (t : SyncObject Z) (frame : Frame) (key : MaskKey) (write : Write) :
    SyncObject Z × Option Exc :=
  t.transmit key (!frame.opcode.isControl) frame write

def view (t : SyncObject Z) : View :=
  { connected := t.transport.connected, closeCode := t.transport.closeCode,
    closeReason := t.transport.closeReason, written := t.transport.written,
    closed := !t.transport.socket }

end SyncObject

/-- The calls. -/
inductive SyncCall where
  | connect (call : SyncConnectCall)
  | send (data : Data) (binary : Option Bool) (key : MaskKey) (write : Write)
  | sendFrame (frame : Frame) (key : MaskKey) (write : Write)
  | ping (payload : Bytes) (key : MaskKey) (write : Write)
  | recv (reads : List (Read × (Nat → MaskKey)))
  | close (code : Nat) (reason : String) (key : MaskKey)

namespace SyncObject

/-- What a call does and comes to. -/
def call (env : Surroundings) (t : SyncObject Z) : SyncCall → Option (SyncObject Z × SyncOutcome)
  | .connect c => some ((t.connect env c).1, .ended (t.connect env c).2)
  | .send data binary key write =>
    some ((t.send data binary key write).1, .ended (t.send data binary key write).2)
  | .sendFrame frame key write =>
    some ((t.sendFrame frame key write).1, .ended (t.sendFrame frame key write).2)
  | .ping payload key write =>
    some ({ t with transport := (t.transport.ping payload key write).1 },
      .ended (t.transport.ping payload key write).2)
  | .recv reads => (t.transport.recvWith reads).map (fun r => (t.adopt r.1, .recv r.2))
  | .close code reason key => some (t.adopt (t.transport.close code reason key), .ended none)

/-- One step of an object, with what it shows. -/
def move (env : Surroundings) (t : SyncObject Z) (i : SyncCall) :
    Option (SyncObject Z × SyncOutcome × View) :=
  (t.call env i).map (fun r => (r.1, r.2, r.1.view))

/-- The state it leads to. -/
def next (env : Surroundings) (t : SyncObject Z) (i : SyncCall) : Option (SyncObject Z) :=
  (t.move env i).map Prod.fst

end SyncObject

/-! ## What stays as it was -/

namespace SyncTransport
variable {Z : Zlib} {t t' : SyncTransport Z}

/-- From `t` to `t'` nothing is kept but what is written, the parser and the deflater, unless
`_closing` is set. -/
structure Keeps (t t' : SyncTransport Z) : Prop where
  config : t'.config = t.config
  deflater : t'.deflater.isSome = true → t.deflater.isSome = true
  closing : t'.closing = false →
    t.closing = false ∧ t'.closeCode = t.closeCode ∧ t'.closeReason = t.closeReason ∧
      t'.connected = t.connected ∧ t'.pendingFrames = t.pendingFrames

theorem Keeps.refl (t : SyncTransport Z) : Keeps t t := ⟨rfl, id, fun h => ⟨h, rfl, rfl, rfl, rfl⟩⟩

theorem Keeps.trans {u : SyncTransport Z} (h : Keeps t t') (h' : Keeps t' u) : Keeps t u := by
  refine ⟨h'.config.trans h.config, fun hu => h.deflater (h'.deflater hu), fun hu => ?_⟩
  obtain ⟨ht', hcode', hreason', hconnected', hpending'⟩ := h'.closing hu
  obtain ⟨ht, hcode, hreason, hconnected, hpending⟩ := h.closing ht'
  exact ⟨ht, hcode'.trans hcode, hreason'.trans hreason, hconnected'.trans hconnected,
    hpending'.trans hpending⟩

theorem sendAll_keeps (t : SyncTransport Z) (data : Bytes) : Keeps t (t.sendAll data) := by
  unfold sendAll
  split
  · exact ⟨rfl, id, fun h => ⟨h, rfl, rfl, rfl, rfl⟩⟩
  · exact .refl t

theorem sendAll_deflater (t : SyncTransport Z) (data : Bytes) :
    (t.sendAll data).deflater = t.deflater := by
  unfold sendAll
  split <;> rfl

theorem handleCloseFrame_keeps (t : SyncTransport Z) (key : MaskKey) (frame : Frame) :
    Keeps t (t.handleCloseFrame key frame) := by
  have hset : (t.handleCloseFrame key frame).closing = true ∧
      (t.handleCloseFrame key frame).config = t.config := by
    cases hclosing : t.closing <;> cases hp : t.parser <;> cases hs : t.socket <;>
      simp [handleCloseFrame, closeSocket, sendAll, hclosing, hp, hs]
  refine ⟨hset.2, fun h => ?_, fun h => ?_⟩
  · cases h
  · rw [hset.1] at h
    cases h

theorem handleFrame_keeps {key : MaskKey} {frame : Frame} {fs : List Frame}
    (h : t.handleFrame key frame = some (t', fs)) : Keeps t t' := by
  unfold handleFrame at h
  split at h
  · cases h
    exact handleCloseFrame_keeps t key frame
  · split at h
    · cases h
      unfold handlePingFrame
      split
      · exact sendAll_keeps t _
      · exact .refl t
    · split at h
      · cases h
        exact .refl t
      · split at h
        · rename_i hdeflater
          obtain ⟨r, -, hr⟩ := Option.map_eq_some_iff.mp h
          cases hr
          exact ⟨rfl, fun _ => by rw [hdeflater]; rfl, fun h => ⟨h, rfl, rfl, rfl, rfl⟩⟩
        · cases h
          exact .refl t

theorem handleFrames_keeps : ∀ (frames : List Frame) (t : SyncTransport Z) (keys : Nat → MaskKey),
    Keeps t (t.handleFrames keys frames).1
  | [], t, _ => .refl t
  | frame :: rest, t, keys => by
    rw [SyncTransport.handleFrames]
    cases hf : t.handleFrame (keys 0) frame with
    | none => exact .refl t
    | some r => exact (handleFrame_keeps hf).trans (handleFrames_keeps rest r.1 _)

/-- While `_closing` is unset there is no close code and no reason, and no frame is pending once
the connection is gone. -/
structure Own (config : TransportConfig) (t : SyncTransport Z) : Prop where
  config : t.config = config
  closing : t.closing = false → t.closeCode = none ∧ t.closeReason = "" ∧
    (t.connected = false → t.pendingFrames = [])

variable {config : TransportConfig}

theorem Own.keeps (h : Own config t) (hkeeps : Keeps t t') : Own config t' := by
  refine ⟨hkeeps.config.trans h.config, fun hunset => ?_⟩
  obtain ⟨hold, hcode, hreason, hconnected, hpending⟩ := hkeeps.closing hunset
  obtain ⟨hnone, hempty, hnothing⟩ := h.closing hold
  refine ⟨hcode.trans hnone, hreason.trans hempty, fun hgone => hpending.trans (hnothing ?_)⟩
  exact hconnected.symm.trans hgone

/-- `recv` reads: nothing is pending, and the connection is there, unless `_closing` is set. -/
def Reading (t : SyncTransport Z) : Prop :=
  t.closing = false → t.connected = true ∧ t.pendingFrames = []

theorem Reading.keeps (h : Reading t) (hkeeps : Keeps t t') : Reading t' := by
  intro hunset
  obtain ⟨hold, -, -, hconnected, hpending⟩ := hkeeps.closing hunset
  obtain ⟨hthere, hempty⟩ := h hold
  exact ⟨hconnected.trans hthere, hpending.trans hempty⟩

/-- **One read** of `recv`. -/
theorem recvChunk_keeps (h : Own config t) (hreading : Reading t) (read : Read)
    (keys : Nat → MaskKey) :
    Own config (t.recvChunk read keys).1 ∧
      ((t.recvChunk read keys).1.deflater.isSome = true → t.deflater.isSome = true) ∧
      ((t.recvChunk read keys).2 = .waiting → Reading (t.recvChunk read keys).1) := by
  unfold recvChunk
  split
  · exact ⟨h, id, fun hw => by cases hw⟩
  · split
    · exact ⟨h, id, fun hw => by cases hw⟩
    · exact ⟨h, id, fun hw => by cases hw⟩
    · -- the end of the stream: nothing was pending
      refine ⟨⟨h.config, fun hunset => ?_⟩, id, fun hw => by cases hw⟩
      obtain ⟨hnone, hempty, -⟩ := h.closing hunset
      exact ⟨hnone, hempty, fun _ => (hreading hunset).2⟩
    · rename_i data _
      cases hp : t.parser with
      | none => exact ⟨h, id, fun hw => by cases hw⟩
      | some parser =>
        dsimp only
        have hfed : Keeps t { t with parser := some (parser.feed data).1 } :=
          ⟨rfl, id, fun h => ⟨h, rfl, rfl, rfl, rfl⟩⟩
        cases (parser.feed data).2 with
        | error e => cases e <;> exact ⟨h.keeps hfed, id, fun hw => by cases hw⟩
        | ok r =>
          have hloop := hfed.trans (handleFrames_keeps r.1 _ keys)
          dsimp only at hloop ⊢
          generalize SyncTransport.handleFrames _ keys r.1 = q at hloop ⊢
          obtain ⟨u, _ | _ | ⟨frame, rest⟩⟩ := q
          · exact ⟨h.keeps hloop, hloop.deflater, fun hw => by cases hw⟩
          · exact ⟨h.keeps hloop, hloop.deflater, fun _ => hreading.keeps hloop⟩
          · -- a frame is returned: the connection is still there, or `_closing` is set
            refine ⟨⟨(h.keeps hloop).config, fun hunset => ?_⟩, hloop.deflater,
              fun hw => by cases hw⟩
            obtain ⟨hnone, hempty, -⟩ := (h.keeps hloop).closing hunset
            obtain ⟨hthere, -⟩ := hreading.keeps hloop hunset
            refine ⟨hnone, hempty, fun hgone => ?_⟩
            exact absurd (hthere.symm.trans hgone) (by decide)

/-- All the reads of a call. -/
theorem recvReads_keeps : ∀ (reads : List (Read × (Nat → MaskKey))) {t : SyncTransport Z}
    {r : SyncTransport Z × RecvStop}, Own config t → Reading t → t.recvReads reads = some r →
      Own config r.1 ∧ (r.1.deflater.isSome = true → t.deflater.isSome = true)
  | [], t, r, h, _, hr => by
    unfold recvReads at hr
    split at hr
    · cases hr
    · cases hr
      exact ⟨h, id⟩
  | (read, keys) :: reads, t, r, h, hreading, hr => by
    obtain ⟨hown, hdeflater, hwaits⟩ := recvChunk_keeps h hreading read keys
    unfold recvReads at hr
    generalize t.recvChunk read keys = q at hown hdeflater hwaits hr
    obtain ⟨u, stop⟩ := q
    cases stop with
    | waiting =>
      obtain ⟨hend, hdeflater'⟩ := recvReads_keeps reads hown (hwaits rfl) hr
      exact ⟨hend, fun hsome => hdeflater (hdeflater' hsome)⟩
    | returned | raised =>
      cases hr
      exact ⟨hown, hdeflater⟩

/-- **A call** of `recv`. -/
theorem Own.recvWith (h : Own config t) {reads : List (Read × (Nat → MaskKey))}
    {r : SyncTransport Z × RecvStop} (hr : t.recvWith reads = some r) :
    Own config r.1 ∧ (r.1.deflater.isSome = true → t.deflater.isSome = true) := by
  unfold SyncTransport.recvWith SyncTransport.recv at hr
  by_cases hready : (!t.connected || t.parser.isNone) = true
  · rw [if_pos hready] at hr
    cases hr
    exact ⟨h, id⟩
  · rw [if_neg hready] at hr
    have hthere : t.connected = true := by
      by_contra hgone
      exact hready (by simp [hgone])
    cases hpending : t.pendingFrames with
    | nil =>
      rw [hpending] at hr
      exact recvReads_keeps reads h (fun _ => ⟨hthere, hpending⟩) hr
    | cons frame rest =>
      rw [hpending] at hr
      cases hr
      refine ⟨⟨h.config, fun hunset => ?_⟩, id⟩
      obtain ⟨hnone, hempty, -⟩ := h.closing hunset
      exact ⟨hnone, hempty, fun hgone => absurd (hthere.symm.trans hgone) (by decide)⟩

theorem Own.closeSocket (h : Own config t) : Own config t.closeSocket := ⟨h.config, h.closing⟩

theorem Own.close (h : Own config t) (code : Nat) (reason : String) (key : MaskKey) :
    Own config (t.close code reason key) ∧
      ((t.close code reason key).deflater.isSome = true → t.deflater.isSome = true) := by
  by_cases hdone : (!t.connected || t.closing) = true
  · unfold SyncTransport.close
    rw [if_pos hdone]
    exact ⟨h, id⟩
  · have hset : (t.close code reason key).closing = true ∧
        (t.close code reason key).config = t.config ∧
        (t.close code reason key).deflater = none := by
      unfold SyncTransport.close
      rw [if_neg hdone]
      cases t.parser with
      | none => exact ⟨rfl, rfl, rfl⟩
      | some parser =>
        dsimp only
        split
        · unfold sendAll
          split <;> exact ⟨rfl, rfl, rfl⟩
        · exact ⟨rfl, rfl, rfl⟩
    obtain ⟨hclosing, hconfig, hdeflater⟩ := hset
    refine ⟨⟨hconfig.trans h.config, fun hunset => ?_⟩, fun hsome => ?_⟩
    · rw [hclosing] at hunset
      cases hunset
    · rw [hdeflater] at hsome
      cases hsome

end SyncTransport

/-! ## The whole object -/

namespace SyncObject
open SyncTransport

variable {env : Surroundings} {config : TransportConfig} {compressionThreshold : Int}
  {t t' : SyncObject Z}

/-- The transport's part, and the halves of `_deflater`: there are both or none. -/
structure Own (config : TransportConfig) (compressionThreshold : Int) (t : SyncObject Z) :
    Prop where
  transport : SyncTransport.Own config t.transport
  compressionThreshold : t.compressionThreshold = compressionThreshold
  halves : t.deflater.isSome = t.transport.deflater.isSome

theorem Own.adopt (h : t.Own config compressionThreshold) {v : SyncTransport Z.toZlib}
    (hv : SyncTransport.Own config v)
    (hdeflater : v.deflater.isSome = true → t.transport.deflater.isSome = true) :
    (t.adopt v).Own config compressionThreshold := by
  refine ⟨hv, h.compressionThreshold, ?_⟩
  unfold SyncObject.adopt
  dsimp only
  split
  · rename_i hsome
    rw [h.halves, hdeflater hsome, hsome]
  · rename_i hnone
    rw [eq_false_of_ne_true hnone]
    rfl

theorem Own.switch (h : t.Own config compressionThreshold)
    (negotiated : Option (Deflater Z.toZlib)) (request : Bytes) :
    (t.switch negotiated request).Own config compressionThreshold := by
  refine ⟨⟨h.transport.config, fun hunset => ?_⟩, h.compressionThreshold, ?_⟩
  · obtain ⟨hnone, hempty, -⟩ := h.transport.closing hunset
    exact ⟨hnone, hempty, fun hgone => by cases hgone⟩
  · cases negotiated with
    | some d => rfl
    | none => exact h.halves

theorem Own.connect (h : t.Own config compressionThreshold) (call : SyncConnectCall) :
    (t.connect env call).1.Own config compressionThreshold := by
  have hdialled : SyncTransport.Own config { t.transport with socket := true, written := [] } :=
    ⟨h.transport.config, h.transport.closing⟩
  unfold SyncObject.connect
  split
  · exact h
  · split
    · exact h
    · split
      · exact h
      · dsimp only
        split
        · exact h.adopt hdialled.closeSocket (fun hsome => by cases hsome)
        · exact h.adopt hdialled id
        · split
          · exact h.adopt (hdialled.keeps (sendAll_keeps _ _)).closeSocket
              (fun hsome => by cases hsome)
          · exact h.switch _ _

theorem Own.transmit (h : t.Own config compressionThreshold) (key : MaskKey) (compressible : Bool)
    (frame : Frame) (write : Write) :
    (t.transmit key compressible frame write).1.Own config compressionThreshold := by
  have hpack : (t.pack compressible frame.rsv1 frame.payload).1.Own config
      compressionThreshold := by
    unfold pack
    split
    · exact h
    · rename_i deflater hdeflater
      split
      · refine ⟨h.transport, h.compressionThreshold, ?_⟩
        rw [← h.halves, hdeflater]
        rfl
      · exact h
  unfold SyncObject.transmit
  split
  · dsimp only
    split
    · exact ⟨hpack.transport.keeps (sendAll_keeps _ _), hpack.compressionThreshold,
        hpack.halves.trans (congrArg Option.isSome (sendAll_deflater _ _).symm)⟩
    · exact hpack
  · exact h

/-- **One step** of an object. -/
theorem own_step (t : SyncObject Z) (i : SyncCall) (t' : SyncObject Z)
    (h : t.Own config compressionThreshold) (hs : t.next env i = some t') :
    t'.Own config compressionThreshold := by
  have hcall : (t.call env i).map Prod.fst = some t' := by
    unfold next move at hs
    rw [Option.map_map] at hs
    exact hs
  cases i with
  | connect call =>
    cases hcall
    exact h.connect call
  | send data binary key write =>
    cases hcall
    exact h.transmit key true (data.frame binary) write
  | sendFrame frame key write =>
    cases hcall
    exact h.transmit key (!frame.opcode.isControl) frame write
  | ping payload key write =>
    cases hcall
    unfold SyncTransport.ping
    split
    · exact h
    · split
      · split
        · exact ⟨h.transport.keeps (sendAll_keeps _ _), h.compressionThreshold,
            h.halves.trans (congrArg Option.isSome (sendAll_deflater _ _).symm)⟩
        · exact h
      · exact h
  | recv reads =>
    simp only [call, Option.map_map] at hcall
    obtain ⟨r, hr, rfl⟩ := Option.map_eq_some_iff.mp hcall
    obtain ⟨hown, hdeflater⟩ := h.transport.recvWith hr
    exact h.adopt hown hdeflater
  | close code reason key =>
    cases hcall
    obtain ⟨hown, hdeflater⟩ := h.transport.close code reason key
    exact h.adopt hown hdeflater

/-! ## Once connected -/

/-- The server takes permessage-deflate. -/
def Negotiates (env : Surroundings) (Z : Zlib) (call : SyncConnectCall) : Prop :=
  ∃ u d, parseUri env.urlparse call.uri = .ok u ∧
    call.net.handshake Z env.acceptKey env.config (handshake env.config call.key u) =
      .ok (some d)

variable {call : SyncConnectCall}

/-- A call that connects one object takes any that is not connected to `switch`. -/
theorem connect_switch (h : (t.connect env call).2 = none) :
    t.transport.connected = false ∧ ∃ negotiated request,
      (Negotiates env Z.toZlib call ↔ negotiated.isSome = true) ∧
      ∀ s : SyncObject Z, s.transport.connected = false →
        (s.connect env call).1 = s.switch negotiated request := by
  unfold SyncObject.connect at h
  split at h
  · cases h
  · rename_i hidle
    refine ⟨eq_false_of_ne_true hidle, ?_⟩
    cases hu : parseUri env.urlparse call.uri with
    | error e => simp [hu] at h
    | ok u =>
      simp only [hu] at h
      cases hd : createConnection u call.net.dial with
      | error e => simp [hd] at h
      | ok _ =>
        simp only [hd] at h
        cases hw : wrapSocket u call.net.wrap with
        | sslError text => simp [hw] at h
        | raised e => simp [hw] at h
        | wrapped =>
          simp only [hw] at h
          cases hp : call.net.handshake Z.toZlib env.acceptKey env.config
            (handshake env.config call.key u) with
          | error e => simp [hp] at h
          | ok negotiated =>
            refine ⟨negotiated, (handshake env.config call.key u).buildRequest,
              exists_ok_some_iff hu hp, fun s hs => ?_⟩
            unfold SyncObject.connect
            simp only [hs, hu, hd, hw, hp, Bool.false_eq_true, if_false]

/-- **As good as new**, on the conditions of the other transport. -/
theorem switch_eq (h : t.Own config compressionThreshold) (hclosing : t.transport.closing = false)
    (hconnected : t.transport.connected = false) {negotiated : Option (Deflater Z.toZlib)}
    (hdeflater : t.deflater.isSome = true → negotiated.isSome = true) (request : Bytes) :
    t.switch negotiated request =
      (SyncObject.new Z config compressionThreshold).switch negotiated request := by
  obtain ⟨⟨hconfig, hown⟩, hthreshold, hhalves⟩ := h
  obtain ⟨hcode, hreason, hpending⟩ := hown hclosing
  have hnothing := hpending hconnected
  have hinflater : negotiated.or t.transport.deflater = negotiated :=
    or_eq_of_isSome (fun hsome => hdeflater (hhalves.trans hsome))
  have hhalf : (negotiated.map (Deflater.compressHalf Z)).or t.deflater =
      negotiated.map (Deflater.compressHalf Z) :=
    or_eq_of_isSome (fun hsome => by rw [Option.isSome_map]; exact hdeflater hsome)
  obtain ⟨⟨config', connected, closing, socket, parser, deflater, pendingFrames, closeCode,
    closeReason, written⟩, threshold, half⟩ := t
  dsimp only at hconfig hthreshold hclosing hcode hreason hnothing hinflater hhalf
  subst hconfig hthreshold hclosing hcode hreason hnothing
  unfold switch SyncTransport.finishConnect
  simp [hinflater, hhalf, SyncObject.new, SyncTransport.new]

/-- The connection is there. -/
structure Fresh (t : SyncObject Z) : Prop where
  connected : t.transport.connected = true
  socket : t.transport.socket = true
  parser : t.transport.parser.isSome = true

theorem switch_fresh (t : SyncObject Z) (negotiated : Option (Deflater Z.toZlib))
    (request : Bytes) : (t.switch negotiated request).Fresh := ⟨rfl, rfl, rfl⟩

/-! ## Told apart -/

section ToldApart
variable {s u : SyncObject Z}

/-- A call of `close`. -/
def closes : SyncCall := .close 1000 "" ⟨0, 0, 0, 0⟩

/-- With `_closing` set, `close` leaves the socket open. -/
theorem move_closes_set (env : Surroundings) (h : s.Fresh) (hclosing : s.transport.closing = true) :
    (s.move env closes).map (fun r => r.2.2.closed) = some false := by
  have hclose : s.transport.close 1000 "" ⟨0, 0, 0, 0⟩ = s.transport := by
    unfold SyncTransport.close
    simp [hclosing]
  simp [move, call, closes, hclose, adopt, view, h.socket]

/-- With `_closing` unset, it closes it. -/
theorem move_closes_unset (env : Surroundings) (h : u.Fresh)
    (hclosing : u.transport.closing = false) :
    (u.move env closes).map (fun r => r.2.2.closed) = some true := by
  have hclose : (u.transport.close 1000 "" ⟨0, 0, 0, 0⟩).socket = false := by
    unfold SyncTransport.close
    simp [h.connected, hclosing, closeSocket]
  simp [move, call, closes, adopt, view, hclose]

/-- **The closing flag** shows. -/
theorem closing_of_alike (hs : s.Fresh) (hu : u.Fresh) (hunset : u.transport.closing = false)
    (h : Alike (move env) s u) : s.transport.closing = false := by
  by_contra hset
  have hleft := move_closes_set env hs (eq_true_of_ne_false hset)
  have hclosed := move_closes_unset env hu hunset
  have hout := congrArg (Option.map (fun r => r.2.closed)) (h.output closes)
  rw [Option.map_map, Option.map_map] at hout
  exact Bool.false_ne_true (Option.some.inj (hleft.symm.trans (hout.trans hclosed)))

/-- What a call of `send` writes has RSV1 set exactly when it is compressed. -/
theorem send_written (h : t.Fresh) (data : Bytes) (key : MaskKey) :
    ∃ frameData, (t.send (.bytes data) none key .sent).1.transport.written =
        t.transport.written ++ [frameData] ∧
      (((frameData.getD 0 0 &&& 0x40) != 0) = true ↔
        t.deflater.isSome = true ∧ t.compressionThreshold ≤ data.length) := by
  obtain ⟨parser, hp⟩ := Option.isSome_iff_exists.mp h.parser
  have hpack : (t.pack true false data).1.transport = t.transport ∧
      ((t.pack true false data).2.2 = true ↔
        t.deflater.isSome = true ∧ t.compressionThreshold ≤ data.length) := by
    unfold pack
    cases hd : t.deflater with
    | none => simp
    | some deflater => by_cases hdue : t.compressionThreshold ≤ data.length <;> simp [hdue]
  have hbits := (firstHeaderByte_bits .binary true (t.pack true false data).2.2).2.1
  have hsocket : (t.pack true false data).1.transport.socket = true := by
    rw [hpack.1]
    exact h.socket
  have hsend : (t.send (.bytes data) none key .sent).1.transport.written =
      t.transport.written ++ [parser.encode .binary (t.pack true false data).2.1 (some key) true
        (t.pack true false data).2.2] := by
    unfold send transmit
    simp only [h.connected, hp, h.socket, if_true]
    unfold sendAll
    rw [if_pos (by exact hsocket)]
    exact congrArg (· ++ [_]) (congrArg SyncTransport.written hpack.1)
  refine ⟨_, hsend, ?_⟩
  rw [← hpack.2]
  exact Eq.to_iff (congrArg (· = true) hbits)

/-- A call of `send` with as many bytes as are compressed. -/
def sendsLong (compressionThreshold : Int) : SyncCall :=
  .send (.bytes (List.replicate compressionThreshold.toNat 0)) none ⟨0, 0, 0, 0⟩ .sent

/-- **A deflater** shows. -/
theorem deflater_of_alike (hs : s.Fresh) (hu : u.Fresh) (h : Alike (move env) s u)
    (hdeflater : s.deflater.isSome = true) : u.deflater.isSome = true := by
  have hout := h.output (sendsLong s.compressionThreshold)
  simp only [sendsLong, move, call, Option.map_some, Option.some.injEq, Prod.mk.injEq] at hout
  obtain ⟨-, hview⟩ := hout
  obtain ⟨frameData, hwritten, hrsv1⟩ := send_written hs
    (List.replicate s.compressionThreshold.toNat 0) ⟨0, 0, 0, 0⟩
  obtain ⟨frameData', hwritten', hrsv1'⟩ := send_written hu
    (List.replicate s.compressionThreshold.toNat 0) ⟨0, 0, 0, 0⟩
  have hsame : frameData = frameData' := by
    have hlist : _ ++ [frameData] = _ ++ [frameData'] :=
      hwritten.symm.trans ((congrArg View.written hview).trans hwritten')
    exact (List.append_singleton_inj.mp hlist).2
  have hlong : s.compressionThreshold ≤
      (List.replicate s.compressionThreshold.toNat (0 : UInt8)).length := by
    rw [List.length_replicate]
    exact Int.self_le_toNat _
  rw [hsame] at hrsv1
  exact (hrsv1'.mp (hrsv1.mpr ⟨hdeflater, hlong⟩)).1

end ToldApart

/-- **When a transport that is used again is as good as new.** -/
theorem alike_new_iff (h : t.Own config compressionThreshold)
    (hend : (t.connect env call).2 = none) :
    Alike (move env) (t.connect env call).1
        ((SyncObject.new Z config compressionThreshold).connect env call).1 ↔
      t.transport.closing = false ∧
        (t.deflater.isSome = true → Negotiates env Z.toZlib call) := by
  obtain ⟨hidle, negotiated, request, hnegotiates, hswitch⟩ := connect_switch hend
  rw [hswitch t hidle, hswitch _ rfl, hnegotiates]
  constructor
  · intro halike
    have hfresh := switch_fresh t negotiated request
    have hnew := switch_fresh (SyncObject.new Z config compressionThreshold) negotiated request
    have hclosing := closing_of_alike hfresh hnew rfl halike
    refine ⟨hclosing, ?_⟩
    intro hdeflater
    have hsome := deflater_of_alike hfresh hnew halike (by simp [switch, hdeflater])
    simpa [switch, SyncObject.new] using hsome
  · rintro ⟨hclosing, hdeflater⟩
    exact alike_of_eq (switch_eq h hclosing hidle hdeflater request)

end SyncObject

/-! ## Both transports -/

variable (Z : ZlibModule) (env : Surroundings) (config : TransportConfig)
  (compressionThreshold : Int)

theorem SyncObject.own_new : (SyncObject.new Z config compressionThreshold).Own config
    compressionThreshold := ⟨⟨rfl, fun _ => ⟨rfl, rfl, fun _ => rfl⟩⟩, rfl, rfl⟩

/-- **As good as new**: after any history, an object that connects again behaves as a new one
exactly where `_closing` is unset and there is no deflater left over, or a new one. -/
theorem as_good_as_new_iff :
    (∀ (history : List (ObjectInput Z)) (o o' : Object Z) (call : ConnectCall) (v : View),
      exec (Object.next env) (Object.new Z config compressionThreshold) history = some o →
      o.calling = some call →
      o.move env .answered = some (o', .connect .connected, v) →
      ∃ n, exec (Object.next env) (Object.new Z config compressionThreshold)
          [.connect call, .dialled, .answered] = some n ∧
        (Alike (Object.move env) o' n ↔
          o.sender.transport.closing = false ∧
            (o.sender.deflater.isSome = true → Sender.Negotiates env Z.toZlib call))) ∧
    ∀ (history : List SyncCall) (t : SyncObject Z) (call : SyncConnectCall),
      exec (SyncObject.next env) (SyncObject.new Z config compressionThreshold) history = some t →
      (t.connect env call).2 = none →
      (Alike (SyncObject.move env) (t.connect env call).1
          ((SyncObject.new Z config compressionThreshold).connect env call).1 ↔
        t.transport.closing = false ∧
          (t.deflater.isSome = true → SyncObject.Negotiates env Z.toZlib call)) := by
  constructor
  · intro history o o' call v hrun hcalling hanswered
    have hsound := exec_invariant
      (fun _ _ _ h hs => Object.sound_step h (Object.moved_of_next hs)) Object.sound_new hrun
    exact Object.alike_new_iff hsound hcalling hanswered
  · intro history t call hrun hend
    have hown := exec_invariant SyncObject.own_step
      (SyncObject.own_new Z config compressionThreshold) hrun
    exact SyncObject.alike_new_iff hown hend

/-- A server that answers every key with the same text, and takes no compression. -/
def plainServer : Surroundings :=
  { urlparse := exampleParse, acceptKey := fun _ => "k", config := bareHandshake }

def plainCall : ConnectCall :=
  { key := "", uri := "ws://example.com/"
    net := { lookup := .resolved [(2, "192.0.2.1")], dial := fun _ => .connected,
             response := .received plainResponse [], keys := fun _ => ⟨0, 0, 0, 0⟩ } }

def plainSyncCall : SyncConnectCall :=
  { key := "", uri := "ws://example.com/"
    net := { dial := .connected, wrap := .wrapped, request := .sent,
             reads := [.chunk plainResponse] } }

/-- The first connection is lost while two tasks wait in `recv`. The first of them runs, and
`connect` is called; the second runs beside the lookup. -/
def lostWaiting : List (ObjectInput smallZlib) :=
  [.connect plainCall, .dialled, .answered, .act (.receive (.recv 1 ⟨0, 0, 0, 0⟩)),
    .act (.receive (.recv 2 ⟨0, 0, 0, 0⟩)), .act (.receive (.connectionLost none)),
    .act (.receive (.resume 1 ⟨0, 0, 0, 0⟩)), .connect plainCall,
    .act (.receive (.resume 2 ⟨0, 0, 0, 0⟩)), .dialled]

theorem lostWaiting_calling : (exec (Object.next plainServer)
    (Object.new smallZlib ⟨.little, 1024, 4096, false⟩ 128) lostWaiting).bind Object.calling =
      some plainCall := by
  rfl

/-- It ends with the stream. -/
def streamEnded : List SyncCall :=
  [.connect plainSyncCall, .recv [(.chunk [], fun _ => ⟨0, 0, 0, 0⟩)]]

/-- Objects that lost their first connection without a Close frame. -/
theorem as_good_as_new_lost :
    (∃ o o' n v, exec (Object.next plainServer)
        (Object.new smallZlib ⟨.little, 1024, 4096, false⟩ 128) lostWaiting = some o ∧
      o.move plainServer .answered = some (o', .connect .connected, v) ∧
      exec (Object.next plainServer) (Object.new smallZlib ⟨.little, 1024, 4096, false⟩ 128)
        [.connect plainCall, .dialled, .answered] = some n ∧
      Alike (Object.move plainServer) o' n) ∧
    ∃ t, exec (SyncObject.next plainServer)
        (SyncObject.new smallZlib ⟨.little, 1024, 4096, false⟩ 128) streamEnded = some t ∧
      Alike (SyncObject.move plainServer) (t.connect plainServer plainSyncCall).1
        ((SyncObject.new smallZlib ⟨.little, 1024, 4096, false⟩ 128).connect plainServer
          plainSyncCall).1 := by
  have hboth := as_good_as_new_iff smallZlib plainServer ⟨.little, 1024, 4096, false⟩ 128
  have hrun : (exec (Object.next plainServer)
      (Object.new smallZlib ⟨.little, 1024, 4096, false⟩ 128) lostWaiting).map
        (fun o => (o.sender.transport.closing, o.sender.deflater.isSome,
          (o.move plainServer .answered).map (fun r => r.2.1))) =
          some (false, false, some (.connect .connected)) := by
    decide +kernel
  have hcalling := lostWaiting_calling
  have hrun' : (exec (SyncObject.next plainServer)
      (SyncObject.new smallZlib ⟨.little, 1024, 4096, false⟩ 128) streamEnded).map
        (fun t => (t.transport.closing, t.deflater.isSome,
          (t.connect plainServer plainSyncCall).2)) = some (false, false, none) := by
    decide +kernel
  obtain ⟨t, ht, hfacts'⟩ := Option.map_eq_some_iff.mp hrun'
  obtain ⟨o, ho, hfacts⟩ := Option.map_eq_some_iff.mp hrun
  rw [ho] at hcalling
  simp only [Prod.mk.injEq] at hfacts hfacts'
  obtain ⟨hclosing, hnone, hanswered⟩ := hfacts
  obtain ⟨hclosing', hnone', hend'⟩ := hfacts'
  constructor
  · obtain ⟨⟨o', -, v⟩, hmove, rfl⟩ := Option.map_eq_some_iff.mp hanswered
    obtain ⟨n, hn, hiff⟩ := hboth.1 lostWaiting o o' plainCall v ho hcalling hmove
    refine ⟨o, o', n, v, ho, hmove, hn, hiff.mpr ⟨hclosing, fun hsome => ?_⟩⟩
    exact absurd (hnone.symm.trans hsome) (by decide)
  · refine ⟨t, ht, (hboth.2 streamEnded t plainSyncCall ht hend').mpr
      ⟨hclosing', fun hsome => ?_⟩⟩
    exact absurd (hnone'.symm.trans hsome) (by decide)

/-- The first connection is closed, and the peer does not answer; then `connect` is called. -/
def closedOnce : List (ObjectInput smallZlib) :=
  [.connect plainCall, .dialled, .answered, .act (.close 0 1000 "" ⟨0, 0, 0, 0⟩),
    .act (.closeTimeout 0), .connect plainCall, .dialled]

theorem closedOnce_calling : (exec (Object.next plainServer)
    (Object.new smallZlib ⟨.little, 1024, 4096, false⟩ 128) closedOnce).bind Object.calling =
      some plainCall := by
  rfl

/-- An object that was closed once connects again, and `close` does nothing any more. -/
theorem reused_told_apart :
    (∃ o o' n v, exec (Object.next plainServer)
        (Object.new smallZlib ⟨.little, 1024, 4096, false⟩ 128) closedOnce = some o ∧
      o.move plainServer .answered = some (o', .connect .connected, v) ∧
      exec (Object.next plainServer) (Object.new smallZlib ⟨.little, 1024, 4096, false⟩ 128)
        [.connect plainCall, .dialled, .answered] = some n ∧
      ¬ Alike (Object.move plainServer) o' n) ∧
    ∃ t, exec (SyncObject.next plainServer)
        (SyncObject.new smallZlib ⟨.little, 1024, 4096, false⟩ 128)
        [.connect plainSyncCall, .close 1000 "" ⟨0, 0, 0, 0⟩] = some t ∧
      (t.connect plainServer plainSyncCall).2 = none ∧
      ¬ Alike (SyncObject.move plainServer) (t.connect plainServer plainSyncCall).1
        ((SyncObject.new smallZlib ⟨.little, 1024, 4096, false⟩ 128).connect plainServer
          plainSyncCall).1 := by
  have hrun : (exec (Object.next plainServer)
      (Object.new smallZlib ⟨.little, 1024, 4096, false⟩ 128) closedOnce).map
        (fun o => (o.sender.transport.closing, (o.move plainServer .answered).map
          (fun r => r.2.1))) = some (true, some (.connect .connected)) := by
    decide +kernel
  have hcalling := closedOnce_calling
  have hrun' : (exec (SyncObject.next plainServer)
      (SyncObject.new smallZlib ⟨.little, 1024, 4096, false⟩ 128)
      [.connect plainSyncCall, .close 1000 "" ⟨0, 0, 0, 0⟩]).map
        (fun t => (t.transport.closing, (t.connect plainServer plainSyncCall).2)) =
          some (true, none) := by
    decide +kernel
  obtain ⟨t, ht, hfacts'⟩ := Option.map_eq_some_iff.mp hrun'
  obtain ⟨o, ho, hfacts⟩ := Option.map_eq_some_iff.mp hrun
  rw [ho] at hcalling
  obtain ⟨hclosing, hanswered⟩ := Prod.mk.inj hfacts
  obtain ⟨hclosing', hend'⟩ := Prod.mk.inj hfacts'
  constructor
  · obtain ⟨⟨o', -, v⟩, hmove, rfl⟩ := Option.map_eq_some_iff.mp hanswered
    have hsound := exec_invariant
      (fun _ _ _ h hs => Object.sound_step h (Object.moved_of_next hs)) Object.sound_new ho
    obtain ⟨n, hn, hiff⟩ := Object.alike_new_iff hsound hcalling hmove
    refine ⟨o, o', n, v, ho, hmove, hn, fun h => ?_⟩
    exact absurd (hclosing.symm.trans (hiff.mp h).1) (by decide)
  · refine ⟨t, ht, hend', fun h => ?_⟩
    have hown := exec_invariant SyncObject.own_step (SyncObject.own_new smallZlib _ 128) ht
    have hunset := ((SyncObject.alike_new_iff hown hend').mp h).1
    exact absurd (hclosing'.symm.trans hunset) (by decide)

end JetSocket.Transport
