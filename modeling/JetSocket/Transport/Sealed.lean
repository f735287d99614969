import JetSocket.Transport.CloseFrames
import JetSocket.Transport.CloseLast

/- What one step puts on the wire, as frames.

   A block is what one `transport.write` was given, beside the frame that it stands for.
   Outside the calls of `send` and `send_frame` the transport writes control frames of its own:
   PONGs, the frame of `ping`, and Close frames. The reason of a Close frame is bounded nowhere,
   and neither is a frame given to `send_frame`: `Fitting` is what both have to keep to.

   What is proved:
     1. `feed_sealed` — sealed frames, one behind the other, are read back by a parser with
        nothing left over.
     2. `Advanced.replies` — outside the calls, one step writes whole control frames. -/
namespace JetSocket.Transport
open JetSocket.Core Incremental AsyncTransport

/-! ## Sealed frames -/

/-- The bytes are the frame, masked, as some parser encodes it. -/
def Sealed (data : Bytes) (f : Frame) : Prop :=
  ∃ (parser : FrameParser) (key : MaskKey),
    data = parser.encode f.opcode f.payload (some key) f.fin f.rsv1

/-- The frame as it is read: RSV2 and RSV3 are not encoded. -/
def seen (f : Frame) : Frame :=
  { opcode := f.opcode, payload := f.payload, fin := f.fin, rsv1 := f.rsv1 }

/-- A control frame is short, and not a fragment. -/
def Fits (f : Frame) : Prop :=
  f.opcode.isControl = true → f.fin = true ∧ f.payload.length ≤ 125

instance (f : Frame) : Decidable (Fits f) := inferInstanceAs (Decidable (_ → _))

/-- The mask bit of a frame on the wire. -/
def IsMasked (data : Bytes) : Prop := ((data.getD 1 0 &&& 0x80) != 0) = true

instance (data : Bytes) : Decidable (IsMasked data) := inferInstanceAs (Decidable (_ = _))

/-- What was written beside the frame it stands for. -/
abbrev Block := Bytes × Frame

/-- The blocks are frames that fit. -/
def Whole (blocks : List Block) : Prop := ∀ x ∈ blocks, Sealed x.1 x.2 ∧ Fits x.2

theorem Whole.nil : Whole [] := fun _ h => absurd h List.not_mem_nil

theorem Whole.append {blocks blocks' : List Block} (h : Whole blocks) (h' : Whole blocks') :
    Whole (blocks ++ blocks') :=
  fun x hx => (List.mem_append.mp hx).elim (h x) (h' x)

theorem Whole.single {data : Bytes} {f : Frame} (h : Sealed data f) (hf : Fits f) :
    Whole [(data, f)] := by
  intro x hx
  rw [List.mem_singleton.mp hx]
  exact ⟨h, hf⟩

/-- The parser reads a sealed frame back. -/
theorem Sealed.parse {data : Bytes} {f : Frame} (h : Sealed data f) (hf : Fits f)
    {maxFrameSize : Nat} (hmax : maxFrameSize ≤ ssizeMax) (hlen : data.length ≤ maxFrameSize)
    (order : Word.ByteOrder) :
    parseFrame order maxFrameSize data = .ok (some (seen f, data.length)) := by
  obtain ⟨parser, key, rfl⟩ := h
  have hsize : (parser.encode f.opcode f.payload (some key) f.fin f.rsv1).length =
      encodedHeaderLen f.payload.length true + f.payload.length :=
    encodeFrame_length ..
  have hall : encodedHeaderLen f.payload.length true + f.payload.length ≤ ssizeMax := by omega
  exact parseFrame_encode parser order
    (⟨f.opcode, f.payload, f.fin, f.rsv1, some key, by omega, fun hc => (hf hc).1,
      fun hc => (hf hc).2, hall⟩ : WireFrame maxFrameSize)

theorem Sealed.masked {data : Bytes} {f : Frame} (h : Sealed data f)
    (hlen : data.length ≤ ssizeMax) : IsMasked data := by
  obtain ⟨parser, key, rfl⟩ := h
  have hsize : (parser.encode f.opcode f.payload (some key) f.fin f.rsv1).length =
      encodedHeaderLen f.payload.length true + f.payload.length :=
    encodeFrame_length ..
  obtain ⟨sb, ext, hl, hmask, -⟩ := lengthField_encode (firstHeaderByte f.opcode f.fin f.rsv1)
    f.payload.length true [] (by omega)
  unfold IsMasked FrameParser.encode encodeFrame
  rw [Option.isSome_some, hl]
  exact hmask

/-- **A stream of sealed frames** is read back in order, and nothing is left over. -/
theorem feed_sealed {blocks : List Block} (h : Whole blocks) {maxFrameSize : Nat}
    (hmax : maxFrameSize ≤ ssizeMax)
    (hlen : ∀ w ∈ blocks.map Prod.fst, w.length ≤ maxFrameSize) (order : Word.ByteOrder)
    (maxMessageSize : Nat) :
    (FrameParser.new order maxFrameSize maxMessageSize).feed (blocks.map Prod.fst).flatten =
      (FrameParser.new order maxFrameSize maxMessageSize,
        .ok (blocks.map (fun x => seen x.2), (blocks.map Prod.fst).flatten.length)) := by
  have hstable := parseFrame_stable order maxFrameSize
  have hblocks := drain_blocks hstable (blocks.map (fun x => (x.1, seen x.2))) []
    (by
      intro x hx
      obtain ⟨y, hy, rfl⟩ := List.mem_map.mp hx
      have hy' := h y hy
      exact hy'.1.parse hy'.2 hmax (hlen y.1 (List.mem_map_of_mem hy)) order)
  have hfst : (blocks.map (fun x => (x.1, seen x.2))).map Prod.fst = blocks.map Prod.fst := by
    rw [List.map_map]
    rfl
  have hsnd : (blocks.map (fun x => (x.1, seen x.2))).map Prod.snd =
      blocks.map (fun x => seen x.2) := by
    rw [List.map_map]
    rfl
  rw [hfst, hsnd, List.append_nil, drain_none hstable.nil, Drained.after_ok, List.append_nil,
    Nat.add_zero] at hblocks
  simp only [FrameParser.feed, FrameParser.new, Incremental.feed, List.nil_append, hblocks]

/-! ## What the transport writes by itself -/

/-- A frame the transport writes by itself. -/
def Own (f : Frame) : Prop := f.opcode.isControl = true ∧ f.rsv1 = false

/-- Whole control frames of the transport's own were written. -/
def Added (written written' : List Bytes) : Prop :=
  ∃ blocks : List Block, written' = written ++ blocks.map Prod.fst ∧ Whole blocks ∧
    ∀ x ∈ blocks, Own x.2

namespace Added
variable {written written' written'' : List Bytes}

theorem refl (written : List Bytes) : Added written written :=
  ⟨[], (List.append_nil _).symm, Whole.nil, fun _ h => absurd h List.not_mem_nil⟩

theorem quiet (h : written' = written) : Added written written' := h ▸ refl written

theorem one {data : Bytes} {f : Frame} (h : written' = written ++ [data]) (isSealed : Sealed data f)
    (fits : Fits f) (own : Own f) : Added written written' := by
  refine ⟨[(data, f)], h, Whole.single isSealed fits, fun x hx => ?_⟩
  rwa [List.mem_singleton.mp hx]

theorem trans (h : Added written written') (h' : Added written' written'') :
    Added written written'' := by
  obtain ⟨blocks, hw, hall, hown⟩ := h
  obtain ⟨blocks', hw', hall', hown'⟩ := h'
  refine ⟨blocks ++ blocks', ?_, hall.append hall', fun x hx => ?_⟩
  · rw [hw', hw, List.append_assoc, List.map_append]
  · exact (List.mem_append.mp hx).elim (hown x) (hown' x)

variable {parser : FrameParser} {key : MaskKey}

/-- A control frame as `encode` writes it by default. -/
theorem control {opcode : Opcode} {payload : Bytes}
    (h : written' = written ++ [parser.encode opcode payload (some key) true])
    (hcontrol : opcode.isControl = true) (hlen : payload.length ≤ 125) : Added written written' :=
  one (f := { opcode, payload }) h ⟨parser, key, rfl⟩ (fun _ => ⟨rfl, hlen⟩) ⟨hcontrol, rfl⟩

/-- The frame of `encode_close`, with a reason that fits. -/
theorem close {code : Nat} {reason : String}
    (h : written' = written ++ [parser.encodeClose code reason (some key)])
    (hreason : ReasonFits 125 reason) : Added written written' := by
  have hlen : (Word.store .big 2 code ++ encodeUtf8 reason).length ≤ 125 := by
    unfold ReasonFits at hreason
    rw [List.length_append, Word.store_length]
    exact hreason
  exact control h rfl hlen

end Added

/-- The control frames that a parser finds are short. -/
theorem feed_short {parser : FrameParser} {data : Bytes} {frames : List Frame} {n : Nat}
    (h : (parser.feed data).2 = .ok (frames, n)) :
    ∀ f ∈ frames, f.opcode.isControl = true → f.payload.length ≤ 125 :=
  drain_items (parseFrame_stable parser.order parser.maxFrameSize)
    (fun _ _ _ h => (parseFrame_frame h).2) _ _ frames n (Prod.ext rfl h)

section Replies
variable {Z : Zlib}

/-- From `c` to `c'` whole control frames were written, and the handshake was not undone. -/
structure Replies (c c' : Conn Z) : Prop where
  written : Added c.sock.written c'.sock.written
  handshakeDone : c.proto.handshakeDone = true → c'.proto.handshakeDone = true

variable {a b c c' : Conn Z}

theorem Replies.quiet (written : c'.sock.written = c.sock.written)
    (handshakeDone : c.proto.handshakeDone = true → c'.proto.handshakeDone = true) :
    Replies c c' :=
  ⟨.quiet written, handshakeDone⟩

theorem Replies.refl (c : Conn Z) : Replies c c := .quiet rfl id

theorem Replies.trans (h : Replies a b) (h' : Replies b c) : Replies a c :=
  ⟨h.written.trans h'.written, h'.handshakeDone ∘ h.handshakeDone⟩

/-- One frame of the frame loop, which the parser has found short enough. -/
theorem Handled.replies {key : MaskKey} {f : Frame} (h : Handled c key f c')
    (hf : f.opcode.isControl = true → f.payload.length ≤ 125) : Replies c c' := by
  cases h with
  | answered hping hp =>
    have hcontrol : f.opcode.isControl = true := by
      unfold Opcode.isControl
      rw [hping]
      rfl
    exact ⟨.control rfl rfl (hf hcontrol), id⟩
  | ignored => exact .refl c
  | queued | inflated => exact .quiet rfl id

theorem handleFrames_replies : ∀ (fs : List Frame) (c : Conn Z) (keys : Nat → MaskKey),
    (∀ f ∈ fs, f.opcode.isControl = true → f.payload.length ≤ 125) →
      Replies c (handleFrames c keys fs).1
  | [], c, _, _ => .refl c
  | f :: rest, c, keys, hfs => by
    rw [handleFrames]
    cases h : handleFrame c (keys 0) f with
    | none => exact .refl c
    | some c' =>
      have hone := (handleFrame_cases h).replies (hfs f List.mem_cons_self)
      have hrest := handleFrames_replies rest c' (fun i => keys (i + 1))
        (fun g hg => hfs g (List.mem_cons_of_mem f hg))
      exact hone.trans hrest

theorem dataReceived_replies (c : Conn Z) (data : Bytes) (keys : Nat → MaskKey) :
    Replies c (dataReceived c data keys).1 := by
  unfold dataReceived
  split
  · exact .quiet rfl id
  · split
    · exact .refl c
    · rename_i parser hp
      dsimp only
      split
      · exact .quiet rfl id
      · exact .quiet rfl id
      · rename_i frames n hfeed
        have hfed : Replies c
            { c with proto := { c.proto with parser := some (parser.feed data).1 } } :=
          .quiet rfl id
        exact hfed.trans (handleFrames_replies frames _ keys (feed_short hfeed))

variable {v v' : AsyncTransport Z}

theorem closeTransport_replies (v : AsyncTransport Z) : Replies v.conn v.closeTransport.conn := by
  refine .quiet (closeTransport_sock v) (fun h => ?_)
  rw [closeTransport_proto]
  exact h

/-- The echo of a Close frame whose reason, as it is decoded, fits. -/
theorem recvClose_replies (v : AsyncTransport Z) (key : MaskKey) {f : Frame}
    (hf : ReasonFits 125 f.closeReason) : Replies v.conn (v.recvClose key f).conn := by
  refine ⟨?_, fun h => by rw [recvClose_proto]; exact h⟩
  unfold recvClose
  dsimp only
  split
  · exact .quiet (closeTransport_sock _)
  · split
    · exact .close (closeTransport_sock _) hf
    · exact .quiet (closeTransport_sock _)

/-- The Close frames that wait to be taken by `recv` can be echoed. -/
def EchoesFit (fs : List Frame) : Prop :=
  ∀ f ∈ fs, f.opcode = .close → ReasonFits 125 f.closeReason

instance (fs : List Frame) : Decidable (EchoesFit fs) :=
  inferInstanceAs (Decidable (∀ f ∈ fs, _ → _))

theorem recvLoop_replies (v : AsyncTransport Z) (task : Nat) (key : MaskKey) {fs : List Frame}
    (hfs : EchoesFit fs) : Replies v.conn (v.recvLoop task key fs).1.conn := by
  rw [recvLoop_eq]
  split
  · exact .quiet rfl id
  · rename_i f rest hd
    split
    · rename_i hclose
      have hmem : f ∈ fs := by
        refine (List.dropWhile_suffix Skipped).subset ?_
        rw [hd]
        exact List.mem_cons_self
      have htaken : Replies v.conn (v.setFrames rest).conn := .quiet rfl id
      exact htaken.trans
        (recvClose_replies (v.setFrames rest) key (hfs f hmem ((value_close f).mp hclose)))
    · exact .quiet rfl id

/-- The Close frame that a run of `recv` may take can be echoed. -/
def FittingInput (v : AsyncTransport Z) : Input Z → Prop
  | .recv _ _ | .resume _ _ => EchoesFit v.conn.proto.frames
  | _ => True

instance (v : AsyncTransport Z) : ∀ i, Decidable (FittingInput v i)
  | .recv _ _ | .resume _ _ => inferInstanceAs (Decidable (EchoesFit _))
  | .dataReceived _ _ | .connectionLost _ | .finishConnect _ _ | .timeout _ => isTrue trivial

theorem recvRun_replies {i : Input Z} {stop : RecvStop} (hi : FittingInput v i)
    (h : recvRun v i = some (v', stop)) : Replies v.conn v'.conn := by
  cases i with
  | recv task key =>
    simp only [recvRun] at h
    split at h
    · cases h
    · have hrun := Option.some.inj h
      unfold AsyncTransport.recv at hrun
      split at hrun
      · cases hrun
        exact .refl _
      · obtain ⟨rfl, -⟩ := Prod.ext_iff.mp hrun
        exact recvLoop_replies v task key hi
  | resume task key =>
    simp only [recvRun] at h
    split at h
    · have hrun := Option.some.inj h
      unfold recvResume at hrun
      dsimp only at hrun
      split at hrun
      · cases hrun
        exact .quiet rfl id
      · obtain ⟨rfl, -⟩ := Prod.ext_iff.mp hrun
        have hwoken : Replies v.conn (v.withReady (v.conn.proto.frameReady.resume task)).conn :=
          .quiet rfl id
        exact hwoken.trans (recvLoop_replies (v.withReady _) task key hi)
    · cases h
  | timeout task =>
    simp only [recvRun] at h
    split at h
    · cases h
      exact .quiet rfl id
    · cases h
  | _ => cases h

theorem finishConnect_replies (v : AsyncTransport Z) (deflater : Option (Deflater Z))
    (keys : Nat → MaskKey) : Replies v.conn (v.finishConnect deflater keys).1.conn := by
  have hswitch : Replies v.conn (v.switchToFrames deflater) := .quiet rfl (fun _ => rfl)
  rw [finishConnect_conn]
  split
  · exact hswitch
  · exact hswitch.trans (dataReceived_replies _ _ keys)

/-- The receive side and the end of `connect`. -/
theorem receive_replies {i : Input Z} (hi : FittingInput v i)
    (h : Transport.step v i = some v') : Replies v.conn v'.conn := by
  cases i with
  | dataReceived data keys =>
    cases h
    exact dataReceived_replies v.conn data keys
  | connectionLost exc =>
    cases h
    exact .quiet rfl id
  | finishConnect deflater keys =>
    simp only [Transport.step] at h
    split at h
    · cases h
      exact finishConnect_replies v deflater keys
    · cases h
  | recv | resume | timeout =>
    simp only [Transport.step] at h
    obtain ⟨r, hr, rfl⟩ := Option.map_eq_some_iff.mp h
    exact recvRun_replies hi hr

theorem ping_replies {payload : Bytes} {key : MaskKey} (h : v.ping payload key = .ok v') :
    Replies v.conn v'.conn := by
  unfold AsyncTransport.ping at h
  split at h
  · cases h
  · rename_i hlen
    split at h
    · cases h
      exact ⟨.control rfl rfl (Nat.not_lt.mp hlen), id⟩
    · cases h

theorem close_replies (v : AsyncTransport Z) (task code : Nat) {reason : String} (key : MaskKey)
    (hreason : ReasonFits 125 reason) : Replies v.conn (v.close task code reason key).1.conn := by
  unfold AsyncTransport.close closeFinish
  split
  · exact .refl _
  · dsimp only
    split
    · rename_i parser _ _
      split
      · have hclose : Replies v.conn (v.conn.write (parser.encodeClose code reason (some key))) :=
          ⟨.close rfl hreason, id⟩
        split
        · exact hclose.trans (.quiet rfl id)
        · exact hclose.trans (closeTransport_replies { v with
            connected := false, closing := true, closeCode := some code, closeReason := reason
            conn := v.conn.write (parser.encodeClose code reason (some key)) })
      · exact closeTransport_replies { v with
          connected := false, closing := true, closeCode := some code, closeReason := reason }
    · exact closeTransport_replies { v with
        connected := false, closing := true, closeCode := some code, closeReason := reason }

theorem closeResume_replies (v : AsyncTransport Z) (task : Nat) :
    Replies v.conn (v.closeResume task).1.conn := by
  unfold closeResume closeFinish
  dsimp only
  have hdropped : ∀ (u : AsyncTransport Z), Replies v.conn u.conn →
      Replies v.conn u.closeTransport.conn :=
    fun u hu => hu.trans (closeTransport_replies u)
  split
  · exact hdropped _ (.quiet rfl id)
  · exact .quiet rfl id

theorem closeTimeout_replies (v : AsyncTransport Z) (task : Nat) :
    Replies v.conn (v.closeTimeout task).conn := by
  unfold closeTimeout closeFinish
  have hgone : Replies v.conn (v.withReady (v.conn.proto.frameReady.giveUp task)).conn :=
    .quiet rfl id
  exact hgone.trans (closeTransport_replies
    { v.withReady (v.conn.proto.frameReady.giveUp task) with connected := false })

end Replies

/-! ## Steps -/

section Steps
variable {Z : ZlibModule}

/-- What the parser at the other end can take: a control frame given to `send_frame` fits, a data
frame has RSV1 unset, and the Close frames have reasons that leave room for the code. -/
def Sender.Fitting (t : Sender Z) : Action Z → Prop
  | .sendFrame _ frame _ => Fits frame ∧ (frame.opcode.isControl = false → frame.rsv1 = false)
  | .close _ _ reason _ => ReasonFits 125 reason
  | .receive i => FittingInput t.transport i
  | _ => True

instance (t : Sender Z) : ∀ i, Decidable (t.Fitting i)
  | .sendFrame _ _ _ => inferInstanceAs (Decidable (_ ∧ _))
  | .close _ _ _ _ => inferInstanceAs (Decidable (ReasonFits _ _))
  | .receive i => inferInstanceAs (Decidable (FittingInput t.transport i))
  | .finishConnect _ _ | .send _ _ _ _ | .resumeSend | .pauseWriting | .resumeWriting | .ping _ _
  | .closeResume _ | .closeTimeout _ => isTrue trivial

namespace Sender
variable {t t' : Sender Z} {i : Action Z}

/-- **Outside the calls** of `send` and `send_frame`, a step writes whole control frames. -/
theorem Advanced.replies {v : AsyncTransport Z.toZlib} (h : Advanced t i v) (hi : t.Fitting i) :
    Replies t.transport.conn v.conn := by
  cases h with
  | received _ h => exact receive_replies hi h
  | connected h => exact receive_replies (i := .finishConnect _ _) trivial h
  | paused | resumed => exact .quiet rfl id
  | pinged h => exact ping_replies h
  | refused => exact .refl _
  | closed task code reason key => exact close_replies t.transport task code key hi
  | closeWoken task => exact closeResume_replies t.transport task
  | closeTimedOut task => exact closeTimeout_replies t.transport task

end Sender
end Steps
end JetSocket.Transport
