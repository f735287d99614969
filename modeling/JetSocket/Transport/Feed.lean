import JetSocket.Core.Codec
import JetSocket.Transport.Receive

/- The frame loop of `data_received` against the frames of the byte stream.

   `Fed` says what a connection has done with the frames parsed so far: the data,
   Close and Pong frames queued, with their payloads inflated, and a PONG written for
   every PING.

   What is proved:
     1. `dataReceived_fed` — the arrival of bytes that complete no violation extends
        `Fed` by the frames they complete, and raises nothing.
     2. `finishConnect_fed` — so does the end of `connect`, with the bytes that came
        behind the response. -/
namespace JetSocket.Transport
open JetSocket.Core Incremental AsyncTransport

variable {Z : Zlib}

/-! ## The stream -/

/-- What is queued of a parsed frame, and the decompressor after it: nothing of a PING,
and the inflated payload where RSV1 says so. -/
def inflate (d : Option (Deflater Z)) (f : Frame) : Option (List Frame × Option (Deflater Z)) :=
  if f.opcode = .ping then some ([], d)
  else if f.opcode.isControl then some ([f], d)
  else
    match f.rsv1, d with
    | true, some deflater =>
      (deflater.decompress f.payload).map (fun r =>
        ([{ opcode := f.opcode, payload := r.1, fin := f.fin }], some r.2))
    | _, _ => some ([f], d)

/-- What is queued of a list of frames. -/
def inflateAll : Option (Deflater Z) → List Frame → Option (List Frame × Option (Deflater Z))
  | d, [] => some ([], d)
  | d, f :: rest =>
    (inflate d f).bind (fun r => (inflateAll r.2 rest).map (fun q => (r.1 ++ q.1, q.2)))

theorem inflateAll_append : ∀ (fs gs : List Frame) (d : Option (Deflater Z)),
    inflateAll d (fs ++ gs) =
      (inflateAll d fs).bind (fun r => (inflateAll r.2 gs).map (fun q => (r.1 ++ q.1, q.2)))
  | [], gs, d => by
    simp only [List.nil_append, inflateAll, Option.bind_some]
    cases inflateAll d gs <;> rfl
  | f :: rest, gs, d => by
    simp only [List.cons_append, inflateAll]
    cases inflate d f with
    | none => rfl
    | some r =>
      simp only [Option.bind_some, inflateAll_append rest gs r.2]
      cases inflateAll r.2 rest with
      | none => rfl
      | some q =>
        simp only [Option.bind_some, Option.map_some]
        cases inflateAll q.2 gs with
        | none => rfl
        | some u => simp only [Option.map_some, List.append_assoc]

/-- The payload of a written PONG, as the peer reads it. -/
def pongPayload (order : Word.ByteOrder) (data : Bytes) : Option Bytes :=
  match parseFrame order 125 data with
  | .ok (some (f, n)) => if f.opcode = .pong ∧ n = data.length then some f.payload else none
  | _ => none

theorem pongPayload_pong (p : FrameParser) (order : Word.ByteOrder) (payload : Bytes)
    (key : MaskKey) (h : payload.length ≤ 125) :
    pongPayload order (p.encode .pong payload (some key) true) = some payload := by
  have hsize : encodedHeaderLen payload.length (some key).isSome + payload.length ≤ ssizeMax := by
    simp only [encodedHeaderLen, if_pos h, Option.isSome_some, if_true, ssizeMax]
    omega
  have henc := parseFrame_encode p order
    (⟨.pong, payload, true, false, some key, h, fun _ => rfl, fun _ => h, hsize⟩ : WireFrame 125)
  unfold pongPayload
  simp only [WireFrame.encode] at henc
  rw [henc]
  simp [WireFrame.frame]

/-- No other frame passes for a PONG. -/
theorem pongPayload_other {opcode : Opcode} (h : opcode ≠ .pong) (order order' : Word.ByteOrder)
    (payload : Bytes) (mask : Option MaskKey) (fin rsv1 : Bool) :
    pongPayload order (encodeFrame order' opcode payload mask fin rsv1) = none := by
  unfold pongPayload
  cases hp : parseFrame order 125 (encodeFrame order' opcode payload mask fin rsv1) with
  | error e => rfl
  | ok r =>
    cases r with
    | none => rfl
    | some r =>
      obtain ⟨hop, -⟩ := parseFrame_frame hp
      have hfirst : (encodeFrame order' opcode payload mask fin rsv1).getD 0 0 =
          firstHeaderByte opcode fin rsv1 := rfl
      rw [hfirst, (firstHeaderByte_bits opcode fin rsv1).2.2.2.2, Opcode.ofValue_value] at hop
      have hsame : r.1.opcode = opcode := (Option.some.inj hop).symm
      simp [hsame, h]

/-! ## The frame loop -/

/-- The connection has parsed `frames`, with the bytes `rest` left over: it queued
`queued` of them, of which `taken` are gone, and answered every PING. -/
structure Fed (config : TransportConfig) (request : Bytes) (taken : List Frame) (c : Conn Z)
    (rest : Bytes) (frames queued : List Frame) (d : Option (Deflater Z)) : Prop where
  handshakeDone : c.proto.handshakeDone = true
  parser : c.proto.parser = some { config.parser with buffer := rest }
  deflater : c.proto.deflater = d
  queue : taken ++ c.proto.frames = queued
  pongs : ∃ ws, c.sock.written = request :: ws ∧
    ws.filterMap (pongPayload config.order) =
      (frames.filter (fun f => f.opcode = .ping)).map Frame.payload

variable {config : TransportConfig} {request : Bytes} {taken : List Frame} {c : Conn Z}
  {rest : Bytes} {frames queued : List Frame} {d : Option (Deflater Z)}

/-- A queued frame, from the parsed frame `f`. -/
theorem Fed.queue_frame (h : Fed config request taken c rest frames queued d) {f q : Frame}
    (hf : f.opcode ≠ .ping) :
    Fed config request taken (c.queue q) rest (frames ++ [f]) (queued ++ [q]) d where
  handshakeDone := h.handshakeDone
  parser := h.parser
  deflater := h.deflater
  queue := by
    show taken ++ (c.proto.frames ++ [q]) = queued ++ [q]
    rw [← List.append_assoc, h.queue]
  pongs := by
    obtain ⟨ws, hw, hp⟩ := h.pongs
    refine ⟨ws, hw, ?_⟩
    rw [hp, List.filter_append, List.filter_cons_of_neg (by simp [hf]), List.filter_nil,
      List.append_nil]

/-- A PING is answered and queues nothing. -/
theorem Fed.answer (h : Fed config request taken c rest frames queued d) {f : Frame}
    (hf : f.opcode = .ping) (hlen : f.payload.length ≤ 125) {p : FrameParser} (key : MaskKey) :
    Fed config request taken (c.write (p.encode .pong f.payload (some key) true)) rest
      (frames ++ [f]) queued d where
  handshakeDone := h.handshakeDone
  parser := h.parser
  deflater := h.deflater
  queue := h.queue
  pongs := by
    obtain ⟨ws, hw, hp⟩ := h.pongs
    refine ⟨ws ++ [p.encode .pong f.payload (some key) true], ?_, ?_⟩
    · show c.sock.written ++ [p.encode .pong f.payload (some key) true] =
        request :: (ws ++ [p.encode .pong f.payload (some key) true])
      rw [hw, List.cons_append]
    · rw [List.filterMap_append, hp, List.filter_append, List.map_append]
      simp [pongPayload_pong p config.order f.payload key hlen, hf]

/-- **One frame** of the loop of `data_received`. -/
theorem handleFrame_fed (h : Fed config request taken c rest frames queued d) {f : Frame}
    {qs : List Frame} {d' : Option (Deflater Z)} (key : MaskKey)
    (hinf : inflate d f = some (qs, d'))
    (hshort : f.opcode.isControl = true → f.payload.length ≤ 125) :
    ∃ c', handleFrame c key f = some c' ∧
      Fed config request taken c' rest (frames ++ [f]) (queued ++ qs) d' := by
  have hd := h.deflater
  unfold inflate at hinf
  unfold handleFrame
  split at hinf
  · -- PING
    rename_i hping
    simp only [Option.some.injEq, Prod.mk.injEq] at hinf
    obtain ⟨rfl, rfl⟩ := hinf
    simp only [hping, Opcode.value, if_true, h.parser]
    refine ⟨_, rfl, ?_⟩
    rw [List.append_nil]
    exact h.answer hping (hshort (by rw [hping]; rfl)) key
  · rename_i hping
    have hval : f.opcode.value ≠ 0x9 := by
      cases hop : f.opcode <;> simp [hop, Opcode.value] at hping ⊢
    rw [if_neg hval]
    split at hinf
    · -- CLOSE and PONG
      rename_i hctl
      have hval' : f.opcode.value = 0x8 ∨ f.opcode.value = 0xA := by
        cases hop : f.opcode <;> simp [hop, Opcode.value, Opcode.isControl] at hping hctl ⊢
      simp only [Option.some.injEq, Prod.mk.injEq] at hinf
      obtain ⟨rfl, rfl⟩ := hinf
      rw [if_pos hval']
      exact ⟨_, rfl, h.queue_frame hping⟩
    · -- data frames
      rename_i hctl
      have hval' : ¬ (f.opcode.value = 0x8 ∨ f.opcode.value = 0xA) := by
        cases hop : f.opcode <;> simp [hop, Opcode.value, Opcode.isControl] at hping hctl ⊢
      rw [if_neg hval', hd]
      cases hrsv1 : f.rsv1 <;> cases d <;> simp only [hrsv1] at hinf
      case true.some deflater =>
        obtain ⟨⟨payload, deflater'⟩, hdec, hinf⟩ := Option.map_eq_some_iff.mp hinf
        simp only [Prod.mk.injEq] at hinf
        obtain ⟨rfl, rfl⟩ := hinf
        simp only [hdec]
        have hq := h.queue_frame (f := f)
          (q := { opcode := f.opcode, payload := payload, fin := f.fin }) hping
        exact ⟨_, rfl, hq.handshakeDone, hq.parser, rfl, hq.queue, hq.pongs⟩
      all_goals
        simp only [Option.some.injEq, Prod.mk.injEq] at hinf
        obtain ⟨rfl, rfl⟩ := hinf
        exact ⟨_, rfl, h.queue_frame hping⟩

/-- **The frame loop**: it runs to its end. -/
theorem handleFrames_fed : ∀ (fs : List Frame) {c : Conn Z} {frames queued qs : List Frame}
    {d d' : Option (Deflater Z)} (keys : Nat → MaskKey),
    Fed config request taken c rest frames queued d → inflateAll d fs = some (qs, d') →
    (∀ f ∈ fs, f.opcode.isControl = true → f.payload.length ≤ 125) →
    (handleFrames c keys fs).2 = none ∧
      Fed config request taken (handleFrames c keys fs).1 rest (frames ++ fs) (queued ++ qs) d'
  | [], c, frames, queued, qs, d, d', keys, h, hinf, _ => by
    simp only [inflateAll, Option.some.injEq, Prod.mk.injEq] at hinf
    obtain ⟨rfl, rfl⟩ := hinf
    exact ⟨rfl, by rwa [List.append_nil, List.append_nil]⟩
  | f :: fs, c, frames, queued, qs, d, d', keys, h, hinf, hshort => by
    obtain ⟨⟨q₁, d₁⟩, hone, hinf⟩ := Option.bind_eq_some_iff.mp hinf
    obtain ⟨⟨q₂, d₂⟩, hmore, hinf⟩ := Option.map_eq_some_iff.mp hinf
    simp only [Prod.mk.injEq] at hinf
    obtain ⟨rfl, rfl⟩ := hinf
    obtain ⟨c', hc, hfed⟩ := handleFrame_fed h (keys 0) hone (hshort f List.mem_cons_self)
    have ih := handleFrames_fed fs (fun i => keys (i + 1)) hfed hmore
      (fun g hg => hshort g (List.mem_cons_of_mem f hg))
    simp only [handleFrames, hc]
    rw [List.append_assoc, List.append_assoc] at ih
    exact ih

/-- **Bytes arrive** without a violation: nothing is raised, and the connection has
parsed what they complete. -/
theorem dataReceived_fed (h : Fed config request taken c rest frames queued d) {data rest' : Bytes}
    {fs qs : List Frame} {n : Nat} {d' : Option (Deflater Z)} (keys : Nat → MaskKey)
    (hdrain : drain (parseFrame config.order config.maxFrameSize) (rest ++ data) =
      (rest', .ok (fs, n)))
    (hinf : inflateAll d fs = some (qs, d')) :
    (dataReceived c data keys).2 = none ∧
      Fed config request taken (dataReceived c data keys).1 rest' (frames ++ fs) (queued ++ qs)
        d' := by
  have hshort : ∀ f ∈ fs, f.opcode.isControl = true → f.payload.length ≤ 125 :=
    drain_items (parseFrame_stable _ _) (fun _ _ _ hp => (parseFrame_frame hp).2) _ _ _ _ hdrain
  have hfeed : ({ config.parser with buffer := rest } : FrameParser).feed data =
      ({ config.parser with buffer := rest' }, .ok (fs, n)) := by
    simp only [FrameParser.feed, Incremental.feed, TransportConfig.parser, FrameParser.new, hdrain]
  unfold dataReceived
  rw [h.handshakeDone]
  simp only [Bool.not_true, Bool.false_eq_true, if_false, h.parser, hfeed]
  have hparsed : Fed config request taken
      { c with proto := { c.proto with parser := some { config.parser with buffer := rest' } } }
      rest' frames queued d :=
    ⟨h.handshakeDone, rfl, h.deflater, h.queue, h.pongs⟩
  exact handleFrames_fed fs keys hparsed hinf hshort

/-- **The end of `connect`**: what came behind the response is the start of the stream. -/
theorem finishConnect_fed {t : AsyncTransport Z} {deflater : Option (Deflater Z)}
    (h : Fed config request taken (t.switchToFrames deflater) [] [] [] deflater)
    (keys : Nat → MaskKey) {n : Nat}
    (hdrain : drain (parseFrame config.order config.maxFrameSize)
      (leftover t.conn.proto.handshakeBuffer) = (rest, .ok (frames, n)))
    (hinf : inflateAll deflater frames = some (queued, d)) :
    (t.finishConnect deflater keys).2 = none ∧
      Fed config request taken (t.finishConnect deflater keys).1.conn rest frames queued d := by
  by_cases hempty : (leftover t.conn.proto.handshakeBuffer).isEmpty = true
  · have hfinish : (t.finishConnect deflater keys).2 = none := by
      simp [finishConnect, hempty]
    refine ⟨hfinish, ?_⟩
    rw [finishConnect_conn, if_pos hempty]
    rw [List.isEmpty_iff.mp hempty, drain_none (parseFrame_stable _ _).nil] at hdrain
    simp only [Prod.mk.injEq, Except.ok.injEq] at hdrain
    obtain ⟨rfl, rfl, rfl⟩ := hdrain
    simp only [inflateAll, Option.some.injEq, Prod.mk.injEq] at hinf
    obtain ⟨rfl, rfl⟩ := hinf
    exact h
  · have hstream : drain (parseFrame config.order config.maxFrameSize)
        ([] ++ leftover t.conn.proto.handshakeBuffer) = (rest, .ok (frames, n)) := hdrain
    obtain ⟨hnone, hfed⟩ := dataReceived_fed h keys hstream hinf
    have hfinish : (t.finishConnect deflater keys).2 = none := by
      unfold finishConnect
      dsimp only
      rw [if_neg hempty, hnone]
    refine ⟨hfinish, ?_⟩
    rw [finishConnect_conn, if_neg hempty]
    exact hfed

end JetSocket.Transport
