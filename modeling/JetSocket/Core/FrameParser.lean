import JetSocket.Core.Frame
import JetSocket.Lib.IncrementalParse

/- The frame parser and encoder (`_core.pyx`, `FrameParser`).

   Correspondence (Cython ↔ Lean):
     `_parse_frame`      ↔ `parseFrame` (its length field: `lengthField`; its size
                           checks: `checkLength`; its payload copy: `takePayload`)
     `_encode_frame`     ↔ `encodeFrame`, the key drawn by `os.urandom(4)` given
     `feed`              ↔ `FrameParser.feed`, the loop being `Incremental.drain`
     `encode_close`      ↔ `encodeClose`
     `reset`             ↔ `FrameParser.reset`

   Lengths are natural numbers. A length field above `ssizeMax` does not fit the
   C variable (`OverflowError`), and a frame whose total size would pass it is a
   signed overflow in C: it is kept apart as `sizeOverflow`, and no theorem about
   a normal return covers it. -/
namespace JetSocket.Core
open Incremental Word

/-- The largest `Py_ssize_t`, hence the longest byte string. -/
def ssizeMax : Nat := 2 ^ 63 - 1

/-- What can leave `_parse_frame` other than by returning. -/
inductive ParseError where
  | valueError (msg : String)
  /-- A Python int that does not fit a `Py_ssize_t`. -/
  | overflowError
  /-- `header_size + payload_len` past `ssizeMax`: undefined in C. -/
  | sizeOverflow
  deriving DecidableEq, Repr

structure FrameParser where
  /-- The machine's byte order. -/
  order : ByteOrder
  maxFrameSize : Nat
  maxMessageSize : Nat
  buffer : Bytes
  messageBuffer : Bytes
  messageOpcode : Option Opcode
  deriving DecidableEq, Repr

/-- `FrameParser.__init__`. -/
def FrameParser.new (order : ByteOrder) (maxFrameSize maxMessageSize : Nat) : FrameParser :=
  { order, maxFrameSize, maxMessageSize, buffer := [], messageBuffer := [], messageOpcode := none }

/-- The header size without the mask key, and the payload length; `none` while
the length field is incomplete. -/
def lengthField (buf : Bytes) (payloadLenByte : UInt8) : Except ParseError (Option (Nat × Nat)) :=
  if payloadLenByte ≤ 125 then .ok (some (2, payloadLenByte.toNat))
  else if payloadLenByte = 126 then
    if buf.length < 4 then .ok none else .ok (some (4, load .big ((buf.drop 2).take 2)))
  else if buf.length < 10 then .ok none
  else if ssizeMax < load .big ((buf.drop 2).take 8) then .error .overflowError
  else .ok (some (10, load .big ((buf.drop 2).take 8)))

/-- The checks made once the length is known. -/
def checkLength (maxFrameSize : Nat) (opcode : Opcode) (fin : Bool) (payloadLen : Nat) :
    Except ParseError Unit :=
  if maxFrameSize < payloadLen then
    .error (.valueError s!"Frame too large: {payloadLen} bytes (max: {maxFrameSize})")
  else if opcode.isControl then
    if 125 < payloadLen then
      .error (.valueError s!"Control frame too large: {payloadLen} bytes (max: 125)")
    else if !fin then .error (.valueError "Fragmented control frame")
    else .ok ()
  else .ok ()

/-- `buf[header_size:total_size]`, unmasked with the key in front of it. -/
def takePayload (order : ByteOrder) (buf : Bytes) (masked : Bool) (headerSize payloadLen : Nat) :
    Bytes :=
  let body := (buf.drop headerSize).take payloadLen
  if masked then
    let maskKey : MaskKey :=
      { k0 := buf.getD (headerSize - 4) 0
        k1 := buf.getD (headerSize - 3) 0
        k2 := buf.getD (headerSize - 2) 0
        k3 := buf.getD (headerSize - 1) 0 }
    maskInPlace order body maskKey
  else body

/-- `mask_size`. -/
def maskSize (masked : Bool) : Nat := if masked then 4 else 0

/-- `_parse_frame` from the length checks on: the frame with its size, `none` while
its payload is incomplete. `head` is the frame with the payload still empty. -/
def parseBody (order : ByteOrder) (maxFrameSize : Nat) (buf : Bytes) (head : Frame) (masked : Bool)
    (headerSize payloadLen : Nat) : Except ParseError (Option (Frame × Nat)) :=
  match checkLength maxFrameSize head.opcode head.fin payloadLen with
  | .error e => .error e
  | .ok () =>
    let totalSize := headerSize + payloadLen
    if ssizeMax < totalSize then .error .sizeOverflow
    else if buf.length < totalSize then .ok none
    else .ok (some ({ head with payload := takePayload order buf masked headerSize payloadLen },
      totalSize))

/-- `_parse_frame`: the frame at the front of the buffer and its size, `none`
while it is incomplete. -/
def parseFrame (order : ByteOrder) (maxFrameSize : Nat) : Step UInt8 Frame ParseError := fun buf =>
  if buf.length < 2 then .ok none
  else
    let firstByte := buf.getD 0 0
    let secondByte := buf.getD 1 0
    let fin := (firstByte &&& 0x80) != 0
    let rsv1 := (firstByte &&& 0x40) != 0
    let rsv2 := (firstByte &&& 0x20) != 0
    let rsv3 := (firstByte &&& 0x10) != 0
    let opcodeValue := firstByte &&& 0x0F
    match Opcode.ofValue opcodeValue with
    | none => .error (.valueError s!"Invalid opcode: {opcodeValue}")
    | some opcode =>
      if rsv2 || rsv3 then .error (.valueError "Reserved bits set without extension")
      else
        let masked := (secondByte &&& 0x80) != 0
        match lengthField buf (secondByte &&& 0x7F) with
        | .error e => .error e
        | .ok none => .ok none
        | .ok (some (baseSize, payloadLen)) =>
          parseBody order maxFrameSize buf { opcode, payload := [], fin, rsv1, rsv2, rsv3 } masked
            (baseSize + maskSize masked) payloadLen

/-- `feed`: the frames that are complete now and the bytes they took. When a frame
raises, those before it are consumed but not returned. -/
def FrameParser.feed (p : FrameParser) (data : Bytes) :
    FrameParser × Except ParseError (List Frame × Nat) :=
  let r := Incremental.feed (parseFrame p.order p.maxFrameSize) p.buffer data
  ({ p with buffer := r.1 }, r.2)

/-- Successive `feed` calls, up to the first that raises: the frames and the
consumed lengths put together. -/
def FrameParser.feedAll (p : FrameParser) :
    List Bytes → FrameParser × Except ParseError (List Frame × Nat)
  | [] => (p, .ok ([], 0))
  | data :: rest =>
    match p.feed data with
    | (p', .error e) => (p', .error e)
    | (p', .ok (frames, consumed)) =>
      let r := p'.feedAll rest
      (r.1, r.2.map (fun t => (frames ++ t.1, consumed + t.2)))

/-- `reset`. -/
def FrameParser.reset (p : FrameParser) : FrameParser :=
  { p with buffer := [], messageBuffer := [], messageOpcode := none }

/-- The sizes `_encode_frame` allocates by. -/
def encodedHeaderLen (payloadLen : Nat) (mask : Bool) : Nat :=
  let maskSize := if mask then 4 else 0
  if payloadLen ≤ 125 then 2 + maskSize
  else if payloadLen ≤ 65535 then 4 + maskSize
  else 10 + maskSize

/-- The first header byte. -/
def firstHeaderByte (opcode : Opcode) (fin rsv1 : Bool) : UInt8 :=
  let firstByte := (if fin then 0x80 else 0x00) ||| opcode.value
  if rsv1 then firstByte ||| 0x40 else firstByte

/-- The second header byte and the extended length. -/
def lengthBytes (payloadLen : Nat) (mask : Bool) : Bytes :=
  let maskBit : UInt8 := if mask then 0x80 else 0x00
  if payloadLen ≤ 125 then [maskBit ||| UInt8.ofNat payloadLen]
  else if payloadLen ≤ 65535 then
    [maskBit ||| 126, UInt8.ofNat (payloadLen >>> 8 &&& 0xFF), UInt8.ofNat (payloadLen &&& 0xFF)]
  else
    (maskBit ||| 127) ::
      [7, 6, 5, 4, 3, 2, 1, 0].map (fun i => UInt8.ofNat (payloadLen >>> (i * 8) &&& 0xFF))

/-- The mask key and the payload masked with it, or the bare payload. -/
def maskedPayload (order : ByteOrder) (payload : Bytes) : Option MaskKey → Bytes
  | some maskKey => maskKey.bytes ++ maskInPlace order payload maskKey
  | none => payload

/-- `_encode_frame`: `mask` is the drawn key when masking is asked for. -/
def encodeFrame (order : ByteOrder) (opcode : Opcode) (payload : Bytes) (mask : Option MaskKey)
    (fin rsv1 : Bool) : Bytes :=
  firstHeaderByte opcode fin rsv1 :: lengthBytes payload.length mask.isSome ++
    maskedPayload order payload mask

/-- `encode`. -/
def FrameParser.encode (p : FrameParser) (opcode : Opcode) (payload : Bytes)
    (mask : Option MaskKey) (fin : Bool := true) (rsv1 : Bool := false) : Bytes :=
  encodeFrame p.order opcode payload mask fin rsv1

/-- `encode_close`, for a code `struct.pack(">H", code)` takes. -/
def FrameParser.encodeClose (p : FrameParser) (code : Nat) (reason : String)
    (mask : Option MaskKey) : Bytes :=
  encodeFrame p.order .close (store .big 2 code ++ encodeUtf8 reason) mask true false

/-! ## A decision stands on every longer buffer -/

theorem getD_append_left (b c : Bytes) {i : Nat} (h : i < b.length) :
    (b ++ c).getD i 0 = b.getD i 0 := List.getD_append _ _ _ _ h

theorem slice_append_left (b c : Bytes) {i n : Nat} (h : i + n ≤ b.length) :
    ((b ++ c).drop i).take n = (b.drop i).take n := by
  rw [List.drop_append_of_le_length (by omega), List.take_append_of_le_length (by
    rw [List.length_drop]
    omega)]

/-- A length field that was read reads the same with more bytes behind it. -/
theorem lengthField_append {b c : Bytes} {l : UInt8}
    (h : lengthField b l ≠ .ok none) : lengthField (b ++ c) l = lengthField b l := by
  have hle : b.length ≤ (b ++ c).length := by simp
  unfold lengthField at h ⊢
  by_cases h125 : l ≤ 125
  · simp only [if_pos h125]
  · simp only [if_neg h125] at h ⊢
    by_cases h126 : l = 126
    · simp only [if_pos h126] at h ⊢
      by_cases h4 : b.length < 4
      · exact absurd (by rw [if_pos h4]) h
      · rw [if_neg h4, if_neg (by omega), slice_append_left b c (by omega)]
    · simp only [if_neg h126] at h ⊢
      by_cases h10 : b.length < 10
      · exact absurd (by rw [if_pos h10]) h
      · rw [if_neg h10, if_neg (by omega), slice_append_left b c (by omega)]

/-- Header sizes: at least the two fixed bytes, at most ten. -/
theorem lengthField_base {b : Bytes} {l : UInt8} {base n : Nat}
    (h : lengthField b l = .ok (some (base, n))) : 2 ≤ base ∧ base ≤ 10 := by
  unfold lengthField at h
  repeat' split at h
  all_goals cases h
  all_goals omega

theorem takePayload_append (order : ByteOrder) (b c : Bytes) (masked : Bool) {hs n : Nat}
    (hpos : 0 < hs) (h : hs + n ≤ b.length) :
    takePayload order (b ++ c) masked hs n = takePayload order b masked hs n := by
  unfold takePayload
  rw [slice_append_left b c h, getD_append_left b c (by omega), getD_append_left b c (by omega),
    getD_append_left b c (by omega), getD_append_left b c (by omega)]

theorem parseBody_append (order : ByteOrder) (maxFrameSize : Nat) (b c : Bytes) (head : Frame)
    (masked : Bool) {hs n : Nat} (hpos : 0 < hs)
    (h : parseBody order maxFrameSize b head masked hs n ≠ .ok none) :
    parseBody order maxFrameSize (b ++ c) head masked hs n =
      parseBody order maxFrameSize b head masked hs n := by
  unfold parseBody at h ⊢
  cases hc : checkLength maxFrameSize head.opcode head.fin n with
  | error e => rfl
  | ok u =>
    simp only [hc] at h ⊢
    by_cases hov : ssizeMax < hs + n
    · rw [if_pos hov, if_pos hov]
    · rw [if_neg hov] at h ⊢
      by_cases hlen : b.length < hs + n
      · exact absurd (if_pos hlen) h
      · rw [if_neg hov, if_neg hlen, takePayload_append order b c masked hpos (by omega),
          if_neg (by rw [List.length_append]; omega)]

/-- What the body of a frame that is returned has passed. -/
theorem parseBody_some {order : ByteOrder} {maxFrameSize : Nat} {b : Bytes} {head f : Frame}
    {masked : Bool} {hs len n : Nat}
    (h : parseBody order maxFrameSize b head masked hs len = .ok (some (f, n))) :
    checkLength maxFrameSize head.opcode head.fin len = .ok () ∧ hs + len ≤ b.length ∧
      f = { head with payload := takePayload order b masked hs len } ∧ n = hs + len := by
  unfold parseBody at h
  cases hc : checkLength maxFrameSize head.opcode head.fin len with
  | error e => simp [hc] at h
  | ok u =>
    simp only [hc] at h
    by_cases hov : ssizeMax < hs + len
    · simp [hov] at h
    · by_cases hlen : b.length < hs + len
      · simp [hov, hlen] at h
      · simp only [if_neg hov, if_neg hlen, Except.ok.injEq, Option.some.injEq, Prod.mk.injEq] at h
        exact ⟨rfl, Nat.not_lt.mp hlen, h.1.symm, h.2.symm⟩

/-- A frame that is returned is longer than its header and lies in the buffer. -/
theorem parseBody_consumed {order : ByteOrder} {maxFrameSize : Nat} {b : Bytes} {head f : Frame}
    {masked : Bool} {hs len n : Nat}
    (h : parseBody order maxFrameSize b head masked hs len = .ok (some (f, n))) :
    hs ≤ n ∧ n ≤ b.length := by
  obtain ⟨-, hlen, -, rfl⟩ := parseBody_some h
  exact ⟨Nat.le_add_right hs len, hlen⟩

/-- Once two bytes are there, whatever is decided about a buffer is decided about
every longer one. -/
theorem parseFrame_append (order : ByteOrder) (maxFrameSize : Nat) {b : Bytes}
    (hn : parseFrame order maxFrameSize b ≠ .ok none) (c : Bytes) :
    parseFrame order maxFrameSize (b ++ c) = parseFrame order maxFrameSize b := by
  by_cases h : b.length < 2
  · exact absurd (by simp only [parseFrame, if_pos h]) hn
  · have hc : ¬ (b ++ c).length < 2 := by
      rw [List.length_append]
      omega
    unfold parseFrame at hn ⊢
    rw [if_neg h] at hn ⊢
    rw [if_neg hc, getD_append_left b c (by omega), getD_append_left b c (by omega)]
    revert hn
    dsimp only
    split
    · intro _; rfl
    · split
      · intro _; rfl
      · intro hn
        have hlf : lengthField b (b.getD 1 0 &&& 0x7F) ≠ .ok none := by
          intro he
          rw [he] at hn
          exact hn rfl
        rw [lengthField_append hlf]
        revert hn
        split
        · intro _; rfl
        · intro _; rfl
        · rename_i base n hb
          have hbase := lengthField_base hb
          intro hn
          exact parseBody_append order maxFrameSize b c _ _ (by omega) hn

/-- **Parsing a frame is prefix-stable**: incomplete input is left alone, and a frame
or an error found in a buffer is found in every longer one. -/
theorem parseFrame_stable (order : ByteOrder) (maxFrameSize : Nat) :
    PrefixStable (parseFrame order maxFrameSize) where
  nil := rfl
  consumed := by
    intro b f n h
    unfold parseFrame at h
    dsimp only at h
    repeat' split at h
    all_goals try cases h
    rename_i hb
    have hbase := lengthField_base hb
    have hbody := parseBody_consumed h
    omega
  item := by
    intro b r c h
    rw [parseFrame_append order maxFrameSize (by rw [h]; simp) c, h]
  refuse := by
    intro b e c h
    rw [parseFrame_append order maxFrameSize (by rw [h]; simp) c, h]

/-! ## What a returned frame is -/

theorem takePayload_length_le (order : ByteOrder) (b : Bytes) (masked : Bool) (hs n : Nat) :
    (takePayload order b masked hs n).length ≤ n := by
  unfold takePayload
  split
  · rw [maskInPlace_eq, xorMask_length]
    exact List.length_take_le _ _
  · exact List.length_take_le _ _

theorem checkLength_control {maxFrameSize n : Nat} {opcode : Opcode} {fin : Bool}
    (hc : opcode.isControl = true) (h : checkLength maxFrameSize opcode fin n = .ok ()) :
    n ≤ 125 := by
  unfold checkLength at h
  rw [if_pos hc] at h
  by_cases hmax : maxFrameSize < n
  · rw [if_pos hmax] at h
    cases h
  · rw [if_neg hmax] at h
    by_cases h125 : 125 < n
    · rw [if_pos h125] at h
      cases h
    · exact Nat.not_lt.mp h125

/-- The body keeps the opcode of the header, and a control frame is short. -/
theorem parseBody_frame {order : ByteOrder} {maxFrameSize : Nat} {b : Bytes} {head f : Frame}
    {masked : Bool} {hs len n : Nat}
    (h : parseBody order maxFrameSize b head masked hs len = .ok (some (f, n))) :
    f.opcode = head.opcode ∧ (f.opcode.isControl = true → f.payload.length ≤ 125) := by
  obtain ⟨hc, -, rfl, -⟩ := parseBody_some h
  refine ⟨rfl, fun hctl => ?_⟩
  exact (takePayload_length_le order b masked hs len).trans (checkLength_control hctl hc)

/-- A frame that is returned has the opcode of the first byte, and no more than 125
bytes if it is a control frame. -/
theorem parseFrame_frame {order : ByteOrder} {maxFrameSize : Nat} {b : Bytes} {f : Frame} {n : Nat}
    (h : parseFrame order maxFrameSize b = .ok (some (f, n))) :
    Opcode.ofValue (b.getD 0 0 &&& 0x0F) = some f.opcode ∧
      (f.opcode.isControl = true → f.payload.length ≤ 125) := by
  unfold parseFrame at h
  dsimp only at h
  split at h
  · cases h
  · split at h
    · cases h
    · rename_i opcode hop
      repeat' split at h
      all_goals try cases h
      obtain ⟨hsame, hshort⟩ := parseBody_frame h
      exact ⟨by rw [hop, hsame], hshort⟩

end JetSocket.Core
