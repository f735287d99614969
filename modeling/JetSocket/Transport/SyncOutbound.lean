import JetSocket.Transport.OnWire
import JetSocket.Transport.Reuse

/- What the other end reads of everything that a `SyncTransport` writes, over all of its connections
   (`transport/_sync.py`).

   `SyncOutbound` keeps, beside the object, its last connection: the request, the settings of the
   deflater that `connect` left it with, and the frames given to the calls, in their order. A
   `connect` that fails leaves none. The PONGs and the Close frames are in between, written by
   `recv` in the middle of its reads, and by `close`.

   What is proved:
     1. `recvWith_answers`, `close_answers` — what `recv` and `close` write is whole control frames.
     2. `sound_step` — one call keeps the invariant.
     3. `calls_recovered` — over any history in which no deflater is left over where none is
        negotiated, every write goes through and the other end can take what is given: however the
        bytes of the last connection are cut, its parser takes them all, every frame is masked, and
        its decompressor recovers the messages of the calls, in order. -/
namespace JetSocket.Transport
open JetSocket.Core Transition AsyncTransport StatefulCodec Incremental

/-! ## What `recv` and `close` write -/

namespace SyncTransport
variable {Z : Zlib} {t t' u : SyncTransport Z}

/-- Whole control frames were written, and the socket was not got back. -/
structure Answers (t t' : SyncTransport Z) : Prop where
  written : Added t.written t'.written
  socket : t'.socket = true → t.socket = true

theorem Answers.refl (t : SyncTransport Z) : Answers t t := ⟨.refl _, id⟩

theorem Answers.trans (h : Answers t t') (h' : Answers t' u) : Answers t u :=
  ⟨h.written.trans h'.written, h.socket ∘ h'.socket⟩

theorem sendAll_socket (t : SyncTransport Z) (data : Bytes) :
    (t.sendAll data).socket = t.socket := by
  unfold sendAll
  split <;> rfl

/-- Where there is no socket, nothing is written. -/
theorem sendAll_answers {data : Bytes} (h : Added t.written (t.written ++ [data])) :
    Answers t (t.sendAll data) := by
  refine ⟨?_, fun hs => (sendAll_socket t data).symm.trans hs⟩
  unfold sendAll
  split
  · exact h
  · exact .refl _

/-- The echo of a Close frame whose reason, as it is decoded, fits. -/
theorem handleCloseFrame_answers (t : SyncTransport Z) (key : MaskKey) {frame : Frame}
    (h : ReasonFits 125 frame.closeReason) : Answers t (t.handleCloseFrame key frame) := by
  refine ⟨?_, fun hs => by cases hs⟩
  cases hclosing : t.closing with
  | true =>
    simp only [handleCloseFrame, closeSocket, hclosing, if_true]
    exact .refl _
  | false =>
    cases hp : t.parser with
    | none =>
      simp only [handleCloseFrame, closeSocket, hclosing, hp, Bool.false_eq_true, if_false]
      exact .refl _
    | some parser =>
      simp only [handleCloseFrame, closeSocket, hclosing, hp, Bool.false_eq_true, if_false]
      exact (sendAll_answers (.close rfl h)).written

theorem handleFrame_answers {key : MaskKey} {frame : Frame} {fs : List Frame}
    (h : t.handleFrame key frame = some (t', fs))
    (hshort : frame.opcode.isControl = true → frame.payload.length ≤ 125)
    (hecho : frame.opcode = .close → ReasonFits 125 frame.closeReason) : Answers t t' := by
  unfold handleFrame at h
  split at h
  · rename_i hclose
    cases h
    exact handleCloseFrame_answers t key (hecho hclose)
  · split at h
    · rename_i hping
      cases h
      have hcontrol : frame.opcode.isControl = true := by
        rw [hping]
        rfl
      unfold handlePingFrame
      split
      · exact sendAll_answers (.control rfl rfl (hshort hcontrol))
      · exact .refl t
    · split at h
      · cases h
        exact .refl t
      · split at h
        · obtain ⟨r, -, hr⟩ := Option.map_eq_some_iff.mp h
          cases hr
          exact ⟨.refl _, id⟩
        · cases h
          exact .refl t

/-- The frame loop. -/
theorem handleFrames_answers : ∀ (frames : List Frame) (t : SyncTransport Z) (keys : Nat → MaskKey),
    (∀ f ∈ frames, f.opcode.isControl = true → f.payload.length ≤ 125) → EchoesFit frames →
      Answers t (t.handleFrames keys frames).1
  | [], t, _, _, _ => .refl t
  | frame :: rest, t, keys, hshort, hecho => by
    rw [SyncTransport.handleFrames]
    cases hf : t.handleFrame (keys 0) frame with
    | none => exact .refl t
    | some r =>
      have hone := handleFrame_answers hf (hshort frame List.mem_cons_self)
        (hecho frame List.mem_cons_self)
      exact hone.trans (handleFrames_answers rest r.1 _
        (fun f hf => hshort f (List.mem_cons_of_mem frame hf))
        (fun f hf => hecho f (List.mem_cons_of_mem frame hf)))

/-- The frames that a read brings. -/
def incoming (t : SyncTransport Z) : Read → List Frame
  | .chunk data =>
    match t.parser with
    | none => []
    | some parser =>
      match (parser.feed data).2 with
      | .ok (frames, _) => frames
      | .error _ => []
  | _ => []

/-- **One read** of `recv`. -/
theorem recvChunk_answers {read : Read} (h : EchoesFit (t.incoming read)) (keys : Nat → MaskKey) :
    Answers t (t.recvChunk read keys).1 := by
  unfold recvChunk
  split
  · exact .refl t
  · split
    · exact .refl t
    · exact .refl t
    · exact ⟨.refl _, id⟩
    · rename_i data _
      cases hp : t.parser with
      | none => exact .refl t
      | some parser =>
        dsimp only
        cases hfeed : (parser.feed data).2 with
        | error e => cases e <;> exact ⟨.refl _, id⟩
        | ok r =>
          have hfit : EchoesFit r.1 := by
            simpa only [incoming, hp, hfeed] using h
          have hloop := handleFrames_answers r.1 { t with parser := some (parser.feed data).1 } keys
            (feed_short hfeed) hfit
          have hfed : Answers t (SyncTransport.handleFrames
              { t with parser := some (parser.feed data).1 } keys r.1).1 :=
            ⟨hloop.written, hloop.socket⟩
          dsimp only
          generalize SyncTransport.handleFrames _ keys r.1 = q at hfed ⊢
          obtain ⟨v, _ | _ | ⟨frame, rest⟩⟩ := q <;> exact ⟨hfed.written, hfed.socket⟩

/-- Every Close frame that the reads bring can be echoed. -/
def ReadsFit (t : SyncTransport Z) : List (Read × (Nat → MaskKey)) → Prop
  | [] => True
  | (read, keys) :: reads =>
    EchoesFit (t.incoming read) ∧ ((t.recvChunk read keys).2 = .waiting →
      ReadsFit (t.recvChunk read keys).1 reads)

instance decidableReadsFit : ∀ (t : SyncTransport Z) (reads : List (Read × (Nat → MaskKey))),
    Decidable (t.ReadsFit reads)
  | _, [] => isTrue trivial
  | t, (read, keys) :: reads =>
    have := decidableReadsFit (t.recvChunk read keys).1 reads
    inferInstanceAs (Decidable (_ ∧ (_ → _)))

theorem recvReads_answers : ∀ (reads : List (Read × (Nat → MaskKey))) {t : SyncTransport Z}
    {r : SyncTransport Z × RecvStop}, t.ReadsFit reads → t.recvReads reads = some r → Answers t r.1
  | [], t, r, _, hr => by
    unfold recvReads at hr
    split at hr
    · cases hr
    · cases hr
      exact .refl t
  | (read, keys) :: reads, t, r, h, hr => by
    obtain ⟨hfit, hmore⟩ := h
    have hone := recvChunk_answers hfit keys
    unfold recvReads at hr
    generalize t.recvChunk read keys = q at hone hmore hr
    obtain ⟨v, stop⟩ := q
    cases stop with
    | waiting => exact hone.trans (recvReads_answers reads (hmore rfl) hr)
    | returned | raised =>
      cases hr
      exact hone

/-- **A call** of `recv`. -/
theorem recvWith_answers {reads : List (Read × (Nat → MaskKey))} {r : SyncTransport Z × RecvStop}
    (h : t.recv.2 = .waiting → t.ReadsFit reads) (hr : t.recvWith reads = some r) :
    Answers t r.1 := by
  unfold SyncTransport.recvWith at hr
  unfold SyncTransport.recv at h hr
  split at hr
  · rename_i v hv
    split at hv
    · cases hv
    · rename_i hready
      rw [if_neg hready] at h
      cases hpending : t.pendingFrames with
      | nil =>
        rw [hpending] at hv h
        cases hv
        exact recvReads_answers reads (h rfl) hr
      | cons frame rest =>
        rw [hpending] at hv
        cases hv
  · cases hr
    split
    · exact .refl t
    · split <;> exact ⟨.refl _, id⟩

theorem ping_answers (t : SyncTransport Z) (payload : Bytes) (key : MaskKey) (write : Write) :
    Answers t (t.ping payload key write).1 := by
  unfold SyncTransport.ping
  split
  · exact .refl t
  · rename_i hlen
    split
    · split
      · exact sendAll_answers (.control rfl rfl (Nat.not_lt.mp hlen))
      · exact .refl t
    · exact .refl t

theorem close_answers (t : SyncTransport Z) (code : Nat) {reason : String} (key : MaskKey)
    (h : ReasonFits 125 reason) : Answers t (t.close code reason key) := by
  unfold SyncTransport.close
  split
  · exact .refl t
  · refine ⟨?_, fun hs => by cases hs⟩
    dsimp only [closeSocket]
    split
    · split
      · exact (sendAll_answers (.close rfl h)).written
      · exact .refl _
    · exact .refl _

end SyncTransport

/-! ## The settings -/

section Settings
variable {Z : Zlib}

/-- A deflater as its settings make it. -/
def Deflater.IsNew (d : Deflater Z) : Prop := d.params.deflater Z = .ok d

theorem Deflater.new_isNew {cnct snct : Bool} {cmwb smwb : Int} {d : Deflater Z}
    (h : Deflater.new Z cnct snct cmwb smwb = .ok d) : d.IsNew := by
  have hnew := h
  unfold Deflater.new at h
  split at h
  · cases h
  · split at h
    · cases h
    · cases h
      exact hnew

theorem negotiate_isNew {compression : Bool} {result : HandshakeResult} {d : Deflater Z}
    (h : negotiate Z compression result = .ok (some d)) : d.IsNew := by
  unfold negotiate at h
  dsimp only at h
  split at h
  · cases hp : parseDeflateParams ((header result.headers "sec-websocket-extensions").getD []) with
    | error e => simp [hp, bind, Except.bind] at h
    | ok p =>
      simp only [hp, bind, Except.bind] at h
      split at h
      · cases h
      · rename_i hnew
        cases h
        exact Deflater.new_isNew hnew
  · cases h

theorem readResponse_isNew {acceptKey : String → String} {config : HandshakeConfig}
    {h : Handshake} {responseData : Bytes} {read : Read} {d : Deflater Z}
    (hread : readResponse Z acceptKey config h responseData read = .answered (some d)) :
    d.IsNew := by
  unfold readResponse at hread
  split at hread
  · cases hread
  · cases hread
  · cases hread
  · dsimp only at hread
    split at hread
    · split at hread
      · cases hread
      · split at hread
        · cases hread
        · rename_i hnegotiate
          cases hread
          exact negotiate_isNew hnegotiate
    · cases hread

/-- All the reads of the response. -/
theorem readsResponse_isNew {acceptKey : String → String} {config : HandshakeConfig}
    {h : Handshake} {d : Deflater Z} (reads : List Read) :
    ∀ {responseData : Bytes},
      readsResponse Z acceptKey config h responseData reads = .ok (some d) → d.IsNew := by
  induction reads with
  | nil =>
    intro responseData hreads
    cases hreads
  | cons read reads ih =>
    intro responseData hreads
    rw [readsResponse] at hreads
    split at hreads
    · exact ih hreads
    · cases hreads
    · rename_i hread
      cases hreads
      exact readResponse_isNew hread

end Settings

/-! ## Calls -/

variable {Z : ZlibModule}

namespace SyncObject
variable {env : Surroundings} {t t' : SyncObject Z}

/-- What is checked before anything is written. -/
def Ready (t : SyncObject Z) : Prop :=
  t.transport.connected = true ∧ t.transport.parser.isSome = true ∧ t.transport.socket = true

instance (t : SyncObject Z) : Decidable t.Ready := inferInstanceAs (Decidable (_ ∧ _))

instance (env : Surroundings) (Z : Zlib) (call : SyncConnectCall) :
    Decidable (Negotiates env Z call) :=
  match hu : parseUri env.urlparse call.uri with
  | .error _ => isFalse (fun ⟨_, _, hu', _⟩ => by cases hu.symm.trans hu')
  | .ok u =>
    match hd : call.net.handshake Z env.acceptKey env.config (handshake env.config call.key u) with
    | .ok (some d) => isTrue ⟨u, d, hu, hd⟩
    | .ok none => isFalse (fun ⟨_, _, hu', hd'⟩ => by
        cases hu.symm.trans hu'
        cases hd.symm.trans hd')
    | .error _ => isFalse (fun ⟨_, _, hu', hd'⟩ => by
        cases hu.symm.trans hu'
        cases hd.symm.trans hd')

/-- A `connect` that succeeds leaves the deflater that was negotiated, a new one, or the old one. -/
theorem connect_negotiated {call : SyncConnectCall} (hidle : t.transport.connected = false)
    (h : (t.connect env call).2 = none) :
    ∃ negotiated request, (∀ d ∈ negotiated, d.IsNew) ∧
      (Negotiates env Z.toZlib call → negotiated.isSome = true) ∧
      (t.connect env call).1 = t.switch negotiated request := by
  unfold SyncObject.connect at h ⊢
  rw [if_neg (by simp [hidle])] at h ⊢
  split at h
  · cases h
  · rename_i u hu
    split at h
    · cases h
    · dsimp only at h ⊢
      split at h
      · cases h
      · cases h
      · split at h
        · cases h
        · rename_i negotiated hhandshake
          refine ⟨negotiated, (handshake env.config call.key u).buildRequest, fun d hd => ?_,
            (exists_ok_some_iff hu hhandshake).mp, rfl⟩
          cases hd
          unfold SyncNetwork.handshake at hhandshake
          split at hhandshake
          · cases hhandshake
          · exact readsResponse_isNew call.net.reads hhandshake

/-- `out` was written: the frame, packed by the compressor of `t`. -/
structure Sent (t t' : SyncObject Z) (g : Given) (data : Bytes) : Prop where
  written : t'.transport.written = t.transport.written ++ [data]
  isSealed : Sealed data (g.wire t.deflater).1
  deflater : t'.deflater = (g.wire t.deflater).2
  socket : t'.transport.socket = true
  compressed : g.compressed = true → t.deflater.isSome = true

theorem transmit_sent (h : t.Ready) (key : MaskKey) (compressible : Bool) (frame : Frame)
    (write : Write) :
    ∃ compressed data, Sent t (t.transmit key compressible frame write).1 ⟨frame, compressed⟩ data ∧
      (compressed = true → compressible = true) := by
  obtain ⟨hconnected, hparser, hsocket⟩ := h
  obtain ⟨parser, hp⟩ := Option.isSome_iff_exists.mp hparser
  have hpack : ∃ compressed, (t.pack compressible frame.rsv1 frame.payload).1.transport =
        t.transport ∧
      (Given.wire t.deflater ⟨frame, compressed⟩).2 =
        (t.pack compressible frame.rsv1 frame.payload).1.deflater ∧
      (Given.wire t.deflater ⟨frame, compressed⟩).1 =
        { frame with payload := (t.pack compressible frame.rsv1 frame.payload).2.1
                     rsv1 := (t.pack compressible frame.rsv1 frame.payload).2.2 } ∧
      (compressed = true → compressible = true ∧ t.deflater.isSome = true) := by
    unfold pack
    cases hd : t.deflater with
    | none => exact ⟨false, rfl, hd.symm, rfl, fun h => by cases h⟩
    | some deflater =>
      dsimp only
      split
      · rename_i hdue
        exact ⟨true, rfl, rfl, rfl, fun _ => ⟨hdue.1, rfl⟩⟩
      · exact ⟨false, rfl, hd.symm, rfl, fun h => by cases h⟩
  obtain ⟨compressed, htransport, hdeflater, hframe, hdue⟩ := hpack
  have hs : (t.pack compressible frame.rsv1 frame.payload).1.transport.socket = true := by
    rw [htransport]
    exact hsocket
  refine ⟨compressed, parser.encode frame.opcode
    (t.pack compressible frame.rsv1 frame.payload).2.1 (some key) frame.fin
    (t.pack compressible frame.rsv1 frame.payload).2.2, ?_, fun h => (hdue h).1⟩
  unfold transmit
  simp only [hconnected, hp, hsocket, if_true]
  refine ⟨?_, ?_, hdeflater.symm, ?_, fun h => (hdue h).2⟩
  · dsimp only
    unfold SyncTransport.sendAll
    rw [if_pos hs, htransport]
  · rw [hframe]
    exact ⟨parser, key, rfl⟩
  · exact (SyncTransport.sendAll_socket _ _).trans hs

/-- Nothing is written, and where the socket is there the compressor stays. -/
theorem transmit_refused (h : ¬ t.Ready) (key : MaskKey) (compressible : Bool) (frame : Frame)
    (write : Write) :
    (t.transmit key compressible frame write).1.transport = t.transport ∧
      (t.transport.socket = true →
        (t.transmit key compressible frame write).1.deflater = t.deflater) := by
  have hpack : (t.pack compressible frame.rsv1 frame.payload).1.transport = t.transport := by
    unfold pack
    split
    · rfl
    · dsimp only
      split <;> rfl
  unfold transmit
  split
  · rename_i hconnected hp
    have hsocket : t.transport.socket ≠ true :=
      fun hs => h ⟨hconnected, by rw [hp]; rfl, hs⟩
    dsimp only
    rw [if_neg hsocket]
    exact ⟨hpack, fun hs => absurd hs hsocket⟩
  · exact ⟨rfl, fun _ => rfl⟩

/-- From `t` to `t'` nothing was given: the transport answered, and the compressor stays or is
dropped. -/
structure Answered (t t' : SyncObject Z) : Prop where
  transport : SyncTransport.Answers t.transport t'.transport
  deflater : t'.deflater = t.deflater ∨ t'.deflater = none

theorem adopt_answered {v : SyncTransport Z.toZlib} (h : SyncTransport.Answers t.transport v) :
    Answered t (t.adopt v) := by
  refine ⟨h, ?_⟩
  unfold adopt
  dsimp only
  split
  · exact .inl rfl
  · exact .inr rfl

end SyncObject

/-! ## Runs -/

/-- A connection: the request, the settings of the deflater, and the frames given to the calls that
write, in their order. -/
structure Opened where
  request : Bytes
  params : Option DeflateParams
  sent : List Frame

namespace Opened

/-- The compressor, as `connect` made it. -/
def compressor (Z : ZlibModule) (c : Opened) : Option (CompressHalf Z) :=
  c.params.map (fun p => p.compressor Z)

/-- The other end's `Deflater`. -/
def peer (Z : ZlibModule) (c : Opened) : Option (Deflater Z.toZlib) :=
  c.params.bind (fun p => (p.swap.deflater Z.toZlib).toOption)

end Opened

/-- An object, with its last connection. -/
structure SyncOutbound (Z : ZlibModule) where
  object : SyncObject Z
  opened : Option Opened

namespace SyncOutbound
open SyncObject (Ready Negotiates)

/-- An object that is new. -/
def start (Z : ZlibModule) (config : TransportConfig) (compressionThreshold : Int) :
    SyncOutbound Z :=
  { object := SyncObject.new Z config compressionThreshold, opened := none }

/-- A call with this frame. -/
def given (s : SyncOutbound Z) (frame : Frame) : Option Opened :=
  if s.object.Ready then s.opened.map (fun c => { c with sent := c.sent ++ [frame] }) else s.opened

/-- What happened on the way to `t`. -/
def noted (env : Surroundings) (s : SyncOutbound Z) (t : SyncObject Z) :
    SyncCall → Option Opened
  | .connect call =>
    if s.object.transport.connected then s.opened
    else if (s.object.connect env call).2 = none then
      some { request := t.transport.written.headD []
             params := t.transport.deflater.map Deflater.params, sent := [] }
    else none
  | .send data binary _ _ => s.given (data.frame binary)
  | .sendFrame frame _ _ => s.given frame
  | _ => s.opened

/-- One call. -/
def step (env : Surroundings) (s : SyncOutbound Z) (i : SyncCall) : Option (SyncOutbound Z) :=
  (s.object.next env i).map (fun t => { object := t, opened := s.noted env t i })

/-- No deflater is left over where none is negotiated, every write goes through, and the other end
can take what is given. -/
def Careful (env : Surroundings) (s : SyncOutbound Z) : SyncCall → Prop
  | .connect call => s.object.deflater.isSome = true → Negotiates env Z.toZlib call
  | .send _ _ _ write => write = .sent
  | .sendFrame frame _ write =>
    write = .sent ∧ Fits frame ∧ (frame.opcode.isControl = false → frame.rsv1 = false)
  | .ping _ _ write => write = .sent
  | .recv reads => s.object.transport.recv.2 = .waiting → s.object.transport.ReadsFit reads
  | .close _ reason _ => ReasonFits 125 reason

instance (env : Surroundings) (s : SyncOutbound Z) : ∀ i, Decidable (s.Careful env i)
  | .connect call => inferInstanceAs (Decidable (_ → Negotiates env Z.toZlib call))
  | .send _ _ _ write => inferInstanceAs (Decidable (write = .sent))
  | .sendFrame _ _ _ => inferInstanceAs (Decidable (_ ∧ _ ∧ _))
  | .ping _ _ write => inferInstanceAs (Decidable (write = .sent))
  | .recv reads =>
    inferInstanceAs (Decidable (_ → SyncTransport.ReadsFit s.object.transport reads))
  | .close _ reason _ => inferInstanceAs (Decidable (ReasonFits 125 reason))

/-- The invariant of runs. -/
structure Sound (config : TransportConfig) (compressionThreshold : Int) (s : SyncOutbound Z) :
    Prop where
  own : s.object.Own config compressionThreshold
  peer : ∀ c ∈ s.opened, ∀ p ∈ c.params, ∃ d, p.deflater Z.toZlib = .ok d
  wire : ∀ c ∈ s.opened, ∃ blocks out,
    OnWire c.request (c.compressor Z) s.object.transport.written c.sent blocks out ∧
      (s.object.transport.socket = true →
        s.object.deflater = none ∨ s.object.deflater = compressorBehind (c.compressor Z) out)

variable {env : Surroundings} {config : TransportConfig} {compressionThreshold : Int}
  {s : SyncOutbound Z} {t' : SyncObject Z}

/-- **Nothing is given**: the invariant is kept. -/
theorem sound_answered (h : s.Sound config compressionThreshold)
    (hown : t'.Own config compressionThreshold) (hanswered : SyncObject.Answered s.object t') :
    Sound config compressionThreshold ⟨t', s.opened⟩ := by
  refine ⟨hown, h.peer, fun c hc => ?_⟩
  obtain ⟨blocks, out, hwire, hdeflater⟩ := h.wire c hc
  obtain ⟨_, _, hmore, hbehind⟩ := hwire.own hanswered.transport.written
  refine ⟨_, _, hmore, fun hsocket => ?_⟩
  rw [hbehind]
  rcases hanswered.deflater with hd | hd
  · show t'.deflater = none ∨ t'.deflater = _
    rw [hd]
    exact hdeflater (hanswered.transport.socket hsocket)
  · exact .inl hd

/-- **A call of `send` or `send_frame`** keeps it. -/
theorem sound_transmit (h : s.Sound config compressionThreshold) (key : MaskKey)
    {compressible : Bool} {frame : Frame} (write : Write)
    (hown : (s.object.transmit key compressible frame write).1.Own config compressionThreshold)
    (hfits : Fits frame) (hcontrol : frame.opcode.isControl = true → compressible = false)
    (hdata : frame.opcode.isControl = false → frame.rsv1 = false) :
    Sound config compressionThreshold
      ⟨(s.object.transmit key compressible frame write).1, s.given frame⟩ := by
  unfold given
  by_cases hready : s.object.Ready
  · rw [if_pos hready]
    obtain ⟨compressed, data, hsent, hdue⟩ :=
      SyncObject.transmit_sent hready key compressible frame write
    have hallowed : Given.Allowed ⟨frame, compressed⟩ := by
      refine ⟨hfits, fun hc => ?_, hdata⟩
      by_contra hset
      exact Bool.false_ne_true ((hcontrol hc).symm.trans (hdue (eq_true_of_ne_false hset)))
    refine ⟨hown, fun c hc => ?_, fun c hc => ?_⟩
    · obtain ⟨c₀, hc₀, rfl⟩ := Option.map_eq_some_iff.mp hc
      exact h.peer c₀ hc₀
    · obtain ⟨c₀, hc₀, rfl⟩ := Option.map_eq_some_iff.mp hc
      obtain ⟨blocks, out, hwire, hdeflater⟩ := h.wire c₀ hc₀
      have hold := hdeflater hready.2.2
      obtain ⟨hframe, hafter⟩ := Given.wire_dropped hold hsent.compressed
      -- where there is no compressor to come to, there is none
      have hplain : compressorBehind (c₀.compressor Z) out = none → compressed = false := by
        intro hnone
        by_contra hset
        have hsome := hsent.compressed (eq_true_of_ne_false hset)
        rw [hnone, or_self_iff] at hold
        rw [hold] at hsome
        cases hsome
      obtain ⟨hmore, hbehind⟩ := hwire.snoc (g := ⟨frame, compressed⟩) hsent.written
        (hframe ▸ hsent.isSealed) hallowed hplain
      refine ⟨_, _, hmore, fun _ => ?_⟩
      show (s.object.transmit key compressible frame write).1.deflater = none ∨
        (s.object.transmit key compressible frame write).1.deflater =
          compressorBehind (c₀.compressor Z) (out ++ [⟨frame, compressed⟩])
      rw [hsent.deflater, hbehind]
      exact hafter
  · rw [if_neg hready]
    obtain ⟨htransport, hdeflater⟩ :=
      SyncObject.transmit_refused hready key compressible frame write
    refine ⟨hown, h.peer, fun c hc => ?_⟩
    obtain ⟨blocks, out, hwire, hold⟩ := h.wire c hc
    refine ⟨blocks, out, htransport.symm ▸ hwire, fun hsocket => ?_⟩
    have hs : s.object.transport.socket = true := htransport ▸ hsocket
    show (s.object.transmit key compressible frame write).1.deflater = none ∨
      (s.object.transmit key compressible frame write).1.deflater = _
    rw [hdeflater hs]
    exact hold hs

/-- **A call of `connect`**. -/
theorem sound_connect (h : s.Sound config compressionThreshold) {call : SyncConnectCall}
    (hown : (s.object.connect env call).1.Own config compressionThreshold)
    (hcare : s.Careful env (.connect call)) :
    Sound config compressionThreshold
      ⟨(s.object.connect env call).1,
        s.noted env (s.object.connect env call).1 (.connect call)⟩ := by
  dsimp only [noted]
  split
  · rename_i hconnected
    have hrefused : (s.object.connect env call).1 = s.object := by
      unfold SyncObject.connect
      rw [if_pos hconnected]
    rw [hrefused]
    exact h
  · rename_i hidle
    split
    · rename_i hend
      obtain ⟨negotiated, request, hnew, hnegotiates, hswitch⟩ :=
        SyncObject.connect_negotiated (eq_false_of_ne_true hidle) hend
      have hdue : s.object.deflater.isSome = true → negotiated.isSome = true :=
        fun hsome => hnegotiates (hcare hsome)
      have hinflater : negotiated.or s.object.transport.deflater = negotiated :=
        or_eq_of_isSome (fun hsome => hdue (h.own.halves.trans hsome))
      have hhalf : (negotiated.map (Deflater.compressHalf Z)).or s.object.deflater =
          negotiated.map (Deflater.compressHalf Z) :=
        or_eq_of_isSome (fun hsome => by rw [Option.isSome_map]; exact hdue hsome)
      refine ⟨hown, fun c hc => ?_, fun c hc => ?_⟩
      · cases hc
        intro p hp
        rw [hswitch] at hp
        obtain ⟨d, hd, rfl⟩ := Option.map_eq_some_iff.mp hp
        exact ⟨d, hnew d (hinflater.symm.trans hd)⟩
      · cases hc
        rw [hswitch]
        refine ⟨[], [], .nothing request _, fun _ => .inr ?_⟩
        show (negotiated.map (Deflater.compressHalf Z)).or s.object.deflater =
          ((negotiated.or s.object.transport.deflater).map Deflater.params).map _
        rw [hhalf, hinflater, Option.map_map]
        rfl
    · exact ⟨hown, fun c hc => absurd hc (Option.not_mem_none c),
        fun c hc => absurd hc (Option.not_mem_none c)⟩

/-- **One call** that is careful keeps the invariant. -/
theorem sound_step (s : SyncOutbound Z) (i : SyncCall) (s' : SyncOutbound Z)
    (h : s.Sound config compressionThreshold) (hcare : s.Careful env i)
    (hs : s.step env i = some s') : s'.Sound config compressionThreshold := by
  obtain ⟨t', ht, rfl⟩ := Option.map_eq_some_iff.mp hs
  have hown := SyncObject.own_step s.object i t' h.own ht
  have hcall : (s.object.call env i).map Prod.fst = some t' := by
    unfold SyncObject.next SyncObject.move at ht
    rw [Option.map_map] at ht
    exact ht
  cases i with
  | connect call =>
    cases hcall
    exact sound_connect h hown hcare
  | send data binary key write =>
    cases hcall
    have hdata : (data.frame binary).opcode.isControl = false := by
      unfold Data.frame
      dsimp only
      split <;> rfl
    have hnever : ∀ P : Prop, (data.frame binary).opcode.isControl = true → P :=
      fun _ hc => absurd (hdata.symm.trans hc) Bool.false_ne_true
    exact sound_transmit h key write hown (hnever _) (hnever _) (fun _ => rfl)
  | sendFrame frame key write =>
    cases hcall
    obtain ⟨-, hfits, hdata⟩ := hcare
    refine sound_transmit h key write hown hfits (fun hc => ?_) hdata
    rw [hc]
    rfl
  | ping payload key write =>
    cases hcall
    exact sound_answered h hown ⟨SyncTransport.ping_answers _ payload key write, .inl rfl⟩
  | recv reads =>
    simp only [SyncObject.call, Option.map_map] at hcall
    obtain ⟨r, hr, rfl⟩ := Option.map_eq_some_iff.mp hcall
    exact sound_answered h hown
      (SyncObject.adopt_answered (SyncTransport.recvWith_answers hcare hr))
  | close code reason key =>
    cases hcall
    exact sound_answered h hown
      (SyncObject.adopt_answered (SyncTransport.close_answers _ code key hcare))

/-- **The peer recovers everything** that the last connection was given. In any history of an object
in which no deflater is left over where none is negotiated, every write goes through, and the other
end can take what is given: cut in any way, what is written behind the request is masked frames that
its parser takes one and all, and its decompressor recovers the messages of the calls, in order. -/
theorem calls_recovered (hz : Z.SyncFlushed) (env : Surroundings) (config : TransportConfig)
    (compressionThreshold : Int) (run : List SyncCall) {s : SyncOutbound Z} {c : Opened}
    (hrun : exec (step env) (start Z config compressionThreshold) run = some s)
    (hcare : Meets (step env) (Careful env) (start Z config compressionThreshold) run)
    (hopened : s.opened = some c) (order : Word.ByteOrder) (maxFrameSize maxMessageSize : Nat)
    (hmax : maxFrameSize ≤ ssizeMax)
    (hlen : ∀ w ∈ s.object.transport.written.tail, w.length ≤ maxFrameSize)
    (chunks : List Bytes) (hcut : chunks.flatten = s.object.transport.written.tail.flatten) :
    s.object.transport.written.head? = some c.request ∧
      (∀ w ∈ s.object.transport.written.tail, IsMasked w) ∧
      ∃ frames queued peer',
        (FrameParser.new order maxFrameSize maxMessageSize).feedAll chunks =
            (FrameParser.new order maxFrameSize maxMessageSize,
              .ok (frames, chunks.flatten.length)) ∧
          inflateAll (c.peer Z) frames = some (queued, peer') ∧
          contents queued = contents c.sent := by
  have hstart : (start Z config compressionThreshold).Sound config compressionThreshold :=
    ⟨SyncObject.own_new Z config compressionThreshold,
      fun c hc => absurd hc (Option.not_mem_none c), fun c hc => absurd hc (Option.not_mem_none c)⟩
  have hsound := (always_of_meets (I := Sound config compressionThreshold) sound_step hstart
    hcare).last hrun
  obtain ⟨blocks, out, hwire, -⟩ := hsound.wire c hopened
  refine ⟨by rw [hwire.written]; rfl, ?_⟩
  exact hwire.recovers hz (paired_new (hsound.peer c hopened)) order maxFrameSize maxMessageSize
    hmax hlen chunks hcut

/-- A server that takes permessage-deflate. -/
def deflatingCall : SyncConnectCall :=
  { plainSyncCall with
    net.reads :=
      [.chunk (encodeUtf8 ("HTTP/1.1 101 S\r\nUpgrade:websocket\r\nConnection:upgrade\r\n")),
        .chunk (encodeUtf8 ("Sec-WebSocket-Accept:k\r\n" ++
          "Sec-WebSocket-Extensions:permessage-deflate\r\n\r\n"))] }

/-- The first connection ends with the stream. On the second a message is compressed, a Ping is
answered in the middle of `recv`, and the peer's Close frame is echoed. -/
def reopened : List SyncCall :=
  [.connect plainSyncCall, .send (.str "Hello") none ⟨1, 2, 3, 4⟩ .sent,
    .recv [(.chunk [], fun _ => ⟨0, 0, 0, 0⟩)], .connect deflatingCall,
    .send (.bytes hello) none ⟨5, 6, 7, 8⟩ .sent,
    .recv [(.chunk [0x89, 0x01, 0x2A], fun _ => ⟨1, 1, 1, 1⟩),
      (.chunk [0x88, 0x02, 0x03, 0xE8], fun _ => ⟨2, 2, 2, 2⟩),
      (.chunk [], fun _ => ⟨0, 0, 0, 0⟩)]]

theorem calls_recovered_reopened :
    let env : Surroundings := { plainServer with config.compression := true }
    ∃ s c frames queued peer',
      exec (step env) (start smallZlib ⟨.little, 1024, 4096, false⟩ 0) reopened = some s ∧
      s.opened = some c ∧
      (FrameParser.new .big 1024 4096).feedAll [s.object.transport.written.tail.flatten] =
        (FrameParser.new .big 1024 4096, .ok (frames, 28)) ∧
      inflateAll (c.peer smallZlib) frames = some (queued, peer') ∧
      contents queued = [(.binary, hello, true)] := by
  intro env
  have hrun : (exec (step env) (start smallZlib ⟨.little, 1024, 4096, false⟩ 0) reopened).map
      (fun s => (s.opened.map Opened.sent,
        decide (∀ w ∈ s.object.transport.written.tail, w.length ≤ 1024),
        [s.object.transport.written.tail.flatten].flatten.length)) =
      some (some [{ opcode := .binary, payload := hello }], true, 28) := by
    decide +kernel
  obtain ⟨s, hs, hfacts⟩ := Option.map_eq_some_iff.mp hrun
  simp only [Prod.mk.injEq, decide_eq_true_eq] at hfacts
  obtain ⟨hsent, hlen, hall⟩ := hfacts
  obtain ⟨c, hc, hsent⟩ := Option.map_eq_some_iff.mp hsent
  obtain ⟨-, -, frames, queued, peer', hfeed, hinflate, hcontents⟩ :=
    calls_recovered smallZlib_syncFlushed env ⟨.little, 1024, 4096, false⟩ 0 reopened hs
      (by decide +kernel) hc .big 1024 4096 (by decide) hlen [_] (List.append_nil _)
  rw [hall] at hfeed
  refine ⟨s, c, frames, queued, peer', hs, hc, hfeed, hinflate, ?_⟩
  rw [hcontents, hsent]
  rfl

end SyncOutbound
end JetSocket.Transport
