import JetSocket.Core.FrameParser

/- The frame codec over whole streams.

   What is proved:
     1. `feed_encodeAll` — a fresh parser fed the concatenation of any encoded frames
        returns those frames in order, consumes every byte and keeps none. The two
        sides compute header sizes separately; `encodeFrame_length` is the
        encoder's and `lengthField_encode` the parser's reading of it.
     2. `feed_chunks` — if one feed of a whole stream returns, the feeds of any cut
        of it all return, with the same frames, consumed length and residual
        buffer, which is the unconsumed suffix of the stream. -/
namespace JetSocket.Core
open Incremental Word

/-- A frame as a sender gives it to `encode`, within what a peer with
`max_frame_size` accepts. `size_le`: its encoding is a byte string. -/
structure WireFrame (maxFrameSize : Nat) where
  opcode : Opcode
  payload : Bytes
  fin : Bool
  rsv1 : Bool
  mask : Option MaskKey
  payload_le : payload.length ≤ maxFrameSize
  control_fin : opcode.isControl = true → fin = true
  control_le : opcode.isControl = true → payload.length ≤ 125
  size_le : encodedHeaderLen payload.length mask.isSome + payload.length ≤ ssizeMax

/-- The bytes the sender's `encode` gives. -/
def WireFrame.encode {maxFrameSize : Nat} (sender : FrameParser) (w : WireFrame maxFrameSize) :
    Bytes :=
  sender.encode w.opcode w.payload w.mask w.fin w.rsv1

/-- The frames of a stream, one after the other. -/
def encodeAll {maxFrameSize : Nat} (sender : FrameParser) (frames : List (WireFrame maxFrameSize)) :
    Bytes :=
  (frames.map (WireFrame.encode sender)).flatten

/-- The frame the peer should see. -/
def WireFrame.frame {maxFrameSize : Nat} (w : WireFrame maxFrameSize) : Frame :=
  { opcode := w.opcode, payload := w.payload, fin := w.fin, rsv1 := w.rsv1,
    rsv2 := false, rsv3 := false }

/-! ## What the encoder writes -/

theorem and_ff (b : UInt8) : b &&& 0xFF = b := by
  apply UInt8.toNat_inj.mp
  rw [UInt8.toNat_and, show (0xFF : UInt8).toNat = 2 ^ 8 - 1 from rfl,
    Nat.and_two_pow_sub_one_eq_mod]
  exact Nat.mod_eq_of_lt b.toNat_lt

/-- The extended length is the length as a big-endian word. -/
theorem lengthBytes_eq (n : Nat) (mask : Bool) :
    lengthBytes n mask =
      if n ≤ 125 then [(if mask then 0x80 else 0x00) ||| UInt8.ofNat n]
      else if n ≤ 65535 then ((if mask then 0x80 else 0x00) ||| 126) :: store .big 2 n
      else ((if mask then 0x80 else 0x00) ||| 127) :: store .big 8 n := by
  have h2 : [UInt8.ofNat (n >>> 8 &&& 0xFF), UInt8.ofNat (n &&& 0xFF)] = store .big 2 n := by
    simp [and_ff, store, toLE, Nat.shiftRight_eq_div_pow]
  have h8 : [7, 6, 5, 4, 3, 2, 1, 0].map (fun i => UInt8.ofNat (n >>> (i * 8) &&& 0xFF)) =
      store .big 8 n := by
    simp [and_ff, store, toLE, Nat.shiftRight_eq_div_pow, Nat.div_div_eq_div_mul]
  unfold lengthBytes
  rw [h2, h8]

theorem lengthBytes_length (n : Nat) (mask : Bool) :
    1 + (lengthBytes n mask).length + maskSize mask = encodedHeaderLen n mask := by
  rw [lengthBytes_eq, encodedHeaderLen]
  split
  · simp [maskSize]
  · split <;> simp [maskSize]

theorem maskedPayload_length (order : ByteOrder) (payload : Bytes) (mask : Option MaskKey) :
    (maskedPayload order payload mask).length = maskSize mask.isSome + payload.length := by
  cases mask <;> simp [maskedPayload, maskInPlace_eq, maskSize]

/-- The encoder fills exactly the bytes it allocated. -/
theorem encodeFrame_length (order : ByteOrder) (opcode : Opcode) (payload : Bytes)
    (mask : Option MaskKey) (fin rsv1 : Bool) :
    (encodeFrame order opcode payload mask fin rsv1).length =
      encodedHeaderLen payload.length mask.isSome + payload.length := by
  rw [← lengthBytes_length, encodeFrame, List.length_append, List.length_cons,
    maskedPayload_length]
  omega

/-! ## What the parser reads back -/

theorem firstHeaderByte_bits (opcode : Opcode) (fin rsv1 : Bool) :
    ((firstHeaderByte opcode fin rsv1 &&& 0x80) != 0) = fin ∧
      ((firstHeaderByte opcode fin rsv1 &&& 0x40) != 0) = rsv1 ∧
      ((firstHeaderByte opcode fin rsv1 &&& 0x20) != 0) = false ∧
      ((firstHeaderByte opcode fin rsv1 &&& 0x10) != 0) = false ∧
      firstHeaderByte opcode fin rsv1 &&& 0x0F = opcode.value := by
  cases opcode <;> cases fin <;> cases rsv1 <;> decide

/-- The mask bit and the seven length bits do not disturb each other. -/
theorem secondHeaderByte_bits (mask : Bool) (l : UInt8) (h : l < 128) :
    ((((if mask then 0x80 else 0x00) ||| l) &&& 0x80) != 0) = mask ∧
      ((if mask then 0x80 else 0x00) ||| l) &&& 0x7F = l := by
  have key : ∀ (m : Bool) (k : Fin 128),
      ((((if m then (0x80 : UInt8) else 0x00) ||| UInt8.ofNat k) &&& 0x80) != 0) = m ∧
        ((if m then (0x80 : UInt8) else 0x00) ||| UInt8.ofNat k) &&& 0x7F = UInt8.ofNat k := by
    decide
  have hl : UInt8.ofNat l.toNat = l := UInt8.ofNat_toNat
  have hlt : l.toNat < 128 := h
  simpa only [hl] using key mask ⟨l.toNat, hlt⟩

theorem ofNat_toNat_small {n : Nat} (h : n ≤ 125) : (UInt8.ofNat n).toNat = n := by
  rw [UInt8.toNat_ofNat']
  omega

theorem lengthField_two (b0 b1 : UInt8) (ext tail : Bytes) (h : ext.length = 2) :
    lengthField (b0 :: b1 :: (ext ++ tail)) 126 = .ok (some (4, load .big ext)) := by
  have hlen : ¬ (b0 :: b1 :: (ext ++ tail)).length < 4 := by
    simp only [List.length_cons, List.length_append]
    omega
  rw [lengthField, if_neg (by decide), if_pos rfl, if_neg hlen]
  simp [List.drop, ← h]

theorem lengthField_eight (b0 b1 : UInt8) (ext tail : Bytes) (h : ext.length = 8)
    (hmax : load .big ext ≤ ssizeMax) :
    lengthField (b0 :: b1 :: (ext ++ tail)) 127 = .ok (some (10, load .big ext)) := by
  have hlen : ¬ (b0 :: b1 :: (ext ++ tail)).length < 10 := by
    simp only [List.length_cons, List.length_append]
    omega
  have htake : ((b0 :: b1 :: (ext ++ tail)).drop 2).take 8 = ext := by simp [List.drop, ← h]
  rw [lengthField, if_neg (by decide), if_neg (by decide), if_neg hlen, htake,
    if_neg (Nat.not_lt.mpr hmax)]

/-- The second byte as the parser takes it apart: the mask flag, and length bits from
which the length field reads the payload length and the encoder's header size. -/
theorem lengthField_encode (b0 : UInt8) (n : Nat) (mask : Bool) (tail : Bytes)
    (hn : n ≤ ssizeMax) :
    ∃ sb ext, lengthBytes n mask = sb :: ext ∧ ((sb &&& 0x80) != 0) = mask ∧
      lengthField (b0 :: sb :: (ext ++ tail)) (sb &&& 0x7F) = .ok (some (2 + ext.length, n)) := by
  rw [lengthBytes_eq]
  by_cases h125 : n ≤ 125
  · have hsmall : UInt8.ofNat n ≤ 125 := by
      rw [UInt8.le_iff_toNat_le, ofNat_toNat_small h125]
      exact h125
    have hbits := secondHeaderByte_bits mask (UInt8.ofNat n) (by
      rw [UInt8.lt_iff_toNat_lt, ofNat_toNat_small h125]
      exact Nat.lt_of_le_of_lt h125 (by decide))
    refine ⟨_, _, if_pos h125, hbits.1, ?_⟩
    rw [hbits.2, lengthField, if_pos hsmall, ofNat_toNat_small h125]
    rfl
  · rw [if_neg h125]
    by_cases h16 : n ≤ 65535
    · have hbits := secondHeaderByte_bits mask 126 (by decide)
      have hval : load .big (store .big 2 n) = n := by
        rw [load_store]
        exact Nat.mod_eq_of_lt (by omega)
      refine ⟨_, _, if_pos h16, hbits.1, ?_⟩
      rw [hbits.2, lengthField_two _ _ _ _ (store_length _ _ _), hval, store_length]
    · have hbits := secondHeaderByte_bits mask 127 (by decide)
      have hval : load .big (store .big 8 n) = n := by
        rw [load_store]
        exact Nat.mod_eq_of_lt (Nat.lt_of_le_of_lt hn (by decide))
      refine ⟨_, _, if_neg h16, hbits.1, ?_⟩
      rw [hbits.2, lengthField_eight _ _ _ _ (store_length _ _ _) (by rw [hval]; exact hn), hval,
        store_length]

/-- The payload is cut out and unmasked with the key that precedes it. -/
theorem takePayload_encode (order order' : ByteOrder) (hdr payload : Bytes)
    (mask : Option MaskKey) :
    takePayload order' (hdr ++ maskedPayload order payload mask) mask.isSome
      (hdr.length + maskSize mask.isSome) payload.length = payload := by
  cases mask with
  | none => simp [takePayload, maskedPayload, maskSize]
  | some key =>
    have hkey : ∀ i, i < 4 → (hdr ++ (key.bytes ++ maskInPlace order payload key)).getD
        (hdr.length + i) 0 = key.bytes.getD i 0 := by
      intro i hi
      rw [List.getD_append_right _ _ _ _ (Nat.le_add_right _ _), Nat.add_sub_cancel_left]
      exact List.getD_append _ _ _ _ hi
    have hbody : ((hdr ++ (key.bytes ++ maskInPlace order payload key)).drop
        (hdr.length + 4)).take payload.length = maskInPlace order payload key := by
      rw [← List.drop_drop, List.drop_left, ← MaskKey.bytes_length key, List.drop_left]
      apply List.take_of_length_le
      rw [maskInPlace_eq, xorMask_length]
    have h0 : hdr.length + 4 - 4 = hdr.length + 0 := by omega
    have h1 : hdr.length + 4 - 3 = hdr.length + 1 := by omega
    have h2 : hdr.length + 4 - 2 = hdr.length + 2 := by omega
    have h3 : hdr.length + 4 - 1 = hdr.length + 3 := by omega
    simp only [takePayload, maskedPayload, Option.isSome_some, maskSize, if_true, hbody, h0, h1, h2,
      h3, hkey 0 (by decide), hkey 1 (by decide), hkey 2 (by decide), hkey 3 (by decide)]
    have hsame : MaskKey.mk (key.bytes.getD 0 0) (key.bytes.getD 1 0) (key.bytes.getD 2 0)
        (key.bytes.getD 3 0) = key := rfl
    rw [hsame, maskInPlace_eq, maskInPlace_eq, xorMask_xorMask]

/-- A wire frame passes the parser's length checks. -/
theorem checkLength_wireFrame {maxFrameSize : Nat} (w : WireFrame maxFrameSize) :
    checkLength maxFrameSize w.opcode w.fin w.payload.length = .ok () := by
  rw [checkLength, if_neg (Nat.not_lt.mpr w.payload_le)]
  cases hc : w.opcode.isControl with
  | false => rfl
  | true => simp [w.control_fin hc, Nat.not_lt.mpr (w.control_le hc)]

/-- **One frame.** The parser reads an encoded frame back, with the encoder's size. -/
theorem parseFrame_encode {maxFrameSize : Nat} (sender : FrameParser) (order : ByteOrder)
    (w : WireFrame maxFrameSize) :
    parseFrame order maxFrameSize (w.encode sender) =
      .ok (some (w.frame, (w.encode sender).length)) := by
  have hssize := w.size_le
  obtain ⟨hfin, hrsv1, hrsv2, hrsv3, hop⟩ := firstHeaderByte_bits w.opcode w.fin w.rsv1
  obtain ⟨sb, ext, hl, hmask, hfield⟩ := lengthField_encode
    (firstHeaderByte w.opcode w.fin w.rsv1) w.payload.length w.mask.isSome
    (maskedPayload sender.order w.payload w.mask) (by omega)
  have henc : w.encode sender = firstHeaderByte w.opcode w.fin w.rsv1 :: sb ::
      (ext ++ maskedPayload sender.order w.payload w.mask) := by
    simp only [WireFrame.encode, FrameParser.encode, encodeFrame, hl, List.cons_append]
  have hhdr : 2 + ext.length + maskSize w.mask.isSome =
      encodedHeaderLen w.payload.length w.mask.isSome := by
    rw [← lengthBytes_length, hl, List.length_cons]
    omega
  have hlen : (w.encode sender).length =
      2 + ext.length + maskSize w.mask.isSome + w.payload.length := by
    rw [hhdr]
    exact encodeFrame_length ..
  have hpay : takePayload order (w.encode sender) w.mask.isSome
      (2 + ext.length + maskSize w.mask.isSome) w.payload.length = w.payload := by
    have h := takePayload_encode sender.order order
      (firstHeaderByte w.opcode w.fin w.rsv1 :: sb :: ext) w.payload w.mask
    simpa only [henc, List.cons_append, List.length_cons, Nat.add_comm 2] using h
  have h0 : (w.encode sender).getD 0 0 = firstHeaderByte w.opcode w.fin w.rsv1 := by rw [henc]; rfl
  have h1 : (w.encode sender).getD 1 0 = sb := by rw [henc]; rfl
  rw [← henc] at hfield
  have hbody : parseBody order maxFrameSize (w.encode sender)
      { opcode := w.opcode, payload := [], fin := w.fin, rsv1 := w.rsv1, rsv2 := false,
        rsv3 := false } w.mask.isSome (2 + ext.length + maskSize w.mask.isSome) w.payload.length =
      .ok (some (w.frame, (w.encode sender).length)) := by
    unfold parseBody
    rw [checkLength_wireFrame]
    dsimp only
    rw [if_neg (by omega), if_neg (by omega), hpay, hlen]
    rfl
  unfold parseFrame
  rw [if_neg (by omega)]
  simp only [h0, h1, hfin, hrsv1, hrsv2, hrsv3, hop, hmask, hfield, hbody, Opcode.ofValue_value,
    Bool.or_self, Bool.false_eq_true, if_false]

/-! ## Streams -/

/-- Encoded frames in front of any bytes are drained first, and in order. -/
theorem drain_encodeAll {maxFrameSize : Nat} (sender : FrameParser) (order : ByteOrder)
    (frames : List (WireFrame maxFrameSize)) (tail : Bytes) :
    drain (parseFrame order maxFrameSize) (encodeAll sender frames ++ tail) =
      (drain (parseFrame order maxFrameSize) tail).after (frames.map WireFrame.frame)
        (encodeAll sender frames).length := by
  have h := drain_blocks (parseFrame_stable order maxFrameSize)
    (frames.map (fun w => (w.encode sender, w.frame))) tail
    (by
      intro x hx
      obtain ⟨w, -, rfl⟩ := List.mem_map.mp hx
      exact parseFrame_encode sender order w)
  have hfst : (frames.map (fun w => (w.encode sender, w.frame))).map Prod.fst =
      frames.map (WireFrame.encode sender) := by rw [List.map_map]; rfl
  have hsnd : (frames.map (fun w => (w.encode sender, w.frame))).map Prod.snd =
      frames.map WireFrame.frame := by rw [List.map_map]; rfl
  rw [hfst, hsnd] at h
  exact h

/-- **Round trip.** A fresh parser returns the frames of an encoded stream in order,
consumes all of it, and is left as it was. -/
theorem feed_encodeAll (sender : FrameParser) (order : ByteOrder)
    (maxFrameSize maxMessageSize : Nat) (frames : List (WireFrame maxFrameSize)) :
    (FrameParser.new order maxFrameSize maxMessageSize).feed (encodeAll sender frames) =
      (FrameParser.new order maxFrameSize maxMessageSize,
        .ok (frames.map WireFrame.frame, (encodeAll sender frames).length)) := by
  have h := drain_encodeAll sender order frames []
  rw [List.append_nil, drain_none (parseFrame_stable order maxFrameSize).nil, Drained.after_ok,
    List.append_nil, Nat.add_zero] at h
  simp only [FrameParser.feed, FrameParser.new, Incremental.feed, List.nil_append, h]

/-- Successive feeds of one parser are those of its step over its buffer. -/
theorem feedAll_eq (p : FrameParser) (chunks : List Bytes) :
    p.feedAll chunks =
      ({ p with buffer := (Incremental.feedAll (parseFrame p.order p.maxFrameSize) p.buffer chunks).1 },
        (Incremental.feedAll (parseFrame p.order p.maxFrameSize) p.buffer chunks).2) := by
  induction chunks generalizing p with
  | nil => rfl
  | cons c rest ih =>
    simp only [FrameParser.feedAll, FrameParser.feed, Incremental.feedAll]
    rcases hd : Incremental.feed (parseFrame p.order p.maxFrameSize) p.buffer c with ⟨r, _ | ⟨fs, n⟩⟩
    · rfl
    · simp only [ih]
      rfl

/-- What a feed that returns leaves: the buffer after the consumed bytes, in which the
loop found no further frame. -/
theorem feed_rest {p p' : FrameParser} {data : Bytes} {frames : List Frame} {consumed : Nat}
    (h : p.feed data = (p', .ok (frames, consumed))) :
    consumed ≤ (p.buffer ++ data).length ∧ p'.buffer = (p.buffer ++ data).drop consumed ∧
      parseFrame p'.order p'.maxFrameSize p'.buffer = .ok none := by
  simp only [FrameParser.feed, Prod.mk.injEq] at h
  obtain ⟨rfl, h⟩ := h
  exact drain_rest (parseFrame_stable p.order p.maxFrameSize) _ _ _ _ (Prod.ext rfl h)

/-- Feeds that all return have each returned. -/
theorem feedAll_split {p p' : FrameParser} {pre post : List Bytes} {c : Bytes}
    {frames : List Frame} {consumed : Nat}
    (h : p.feedAll (pre ++ c :: post) = (p', .ok (frames, consumed))) :
    ∃ q fs m q' fs' m', p.feedAll pre = (q, .ok (fs, m)) ∧ q.feed c = (q', .ok (fs', m')) := by
  induction pre generalizing p p' frames consumed with
  | nil =>
    simp only [List.nil_append, FrameParser.feedAll] at h
    rcases hd : p.feed c with ⟨q', _ | ⟨fs', m'⟩⟩
    · simp [hd] at h
    · exact ⟨p, [], 0, q', fs', m', rfl, hd⟩
  | cons b pre ih =>
    simp only [List.cons_append, FrameParser.feedAll] at h ⊢
    rcases hd : p.feed b with ⟨q, _ | ⟨fs, m⟩⟩
    · simp [hd] at h
    · simp only [hd] at h ⊢
      rcases hr : q.feedAll (pre ++ c :: post) with ⟨r, _ | ⟨gs, k⟩⟩
      · simp [hr, Except.map] at h
      · obtain ⟨s, ss, l, s', ss', l', hpre, hc⟩ := ih hr
        refine ⟨s, fs ++ ss, m + l, s', ss', l', ?_, hc⟩
        rw [hpre]
        rfl

/-- **Chunking independence.** When one feed of the whole stream returns, so does the
feed of every chunk of any cut, its loop ending for want of a further frame, and
together they give the same frames, consumed length and parser, whose buffer is
the unconsumed suffix of the stream. -/
theorem feed_chunks (order : ByteOrder) (maxFrameSize maxMessageSize : Nat) (data : Bytes)
    (chunks : List Bytes) (hcut : chunks.flatten = data) {p' : FrameParser} {frames : List Frame}
    {consumed : Nat}
    (h : (FrameParser.new order maxFrameSize maxMessageSize).feed data =
      (p', .ok (frames, consumed))) :
    (FrameParser.new order maxFrameSize maxMessageSize).feedAll chunks =
        (p', .ok (frames, consumed)) ∧
      (∀ pre c post, chunks = pre ++ c :: post → ∃ q fs m q' fs' m',
        (FrameParser.new order maxFrameSize maxMessageSize).feedAll pre = (q, .ok (fs, m)) ∧
          q.feed c = (q', .ok (fs', m')) ∧
          parseFrame q'.order q'.maxFrameSize q'.buffer = .ok none) ∧
      consumed ≤ data.length ∧ p'.buffer = data.drop consumed := by
  have hs := parseFrame_stable order maxFrameSize
  obtain ⟨hle, hrest, -⟩ := feed_rest h
  have hall : (FrameParser.new order maxFrameSize maxMessageSize).feedAll chunks =
      (p', .ok (frames, consumed)) := by
    subst hcut
    simp only [FrameParser.feed, Prod.mk.injEq] at h
    obtain ⟨rfl, h⟩ := h
    have hflat := feedAll_flatten hs chunks [] _ frames consumed hs.nil (Prod.ext rfl h)
    rw [feedAll_eq]
    simp only [FrameParser.new] at hflat ⊢
    rw [hflat]
    rfl
  refine ⟨hall, ?_, hle, hrest⟩
  intro pre c post hchunks
  rw [hchunks] at hall
  obtain ⟨q, fs, m, q', fs', m', hpre, hc⟩ := feedAll_split hall
  exact ⟨q, fs, m, q', fs', m', hpre, hc, (feed_rest hc).2.2⟩

/-- A text frame cut inside its header, with an empty chunk between, and one byte of
the next frame left over. -/
theorem feed_chunks_header_cut :
    (FrameParser.new .little 1024 4096).feedAll [[0x81], [], [0x01, 0x41, 0x81]] =
      ({ FrameParser.new .little 1024 4096 with buffer := [0x81] },
        .ok ([{ opcode := .text, payload := [0x41] }], 3)) :=
  (feed_chunks .little 1024 4096 [0x81, 0x01, 0x41, 0x81] [[0x81], [], [0x01, 0x41, 0x81]]
    (by rfl) (by decide)).1

end JetSocket.Core
