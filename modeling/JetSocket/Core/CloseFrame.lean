import JetSocket.Core.Codec
import JetSocket.Core.Utf8
import JetSocket.Core.Violation

/- The Close frame that `encode_close` builds, as a peer's parser reads it.

   `encode_close` packs the code, appends the encoded reason and checks no length; a parser
   refuses a control frame of more than 125 bytes.

   What is proved:
     1. `control_whole_iff` — an encoded control frame is read back exactly when its payload is
        no longer than 125 bytes and than the parser's `max_frame_size`.
     2. `encodeClose_reads_iff` — so a Close frame is read back, with its code and its reason,
        exactly when the reason leaves room for the code. -/
namespace JetSocket.Core
open Incremental Word

/-- What a parse of an encoded frame announces, where it finds a whole frame. -/
theorem announced_length {order order' : ByteOrder} {maxFrameSize : Nat} {opcode : Opcode}
    {payload : Bytes} {mask : Option MaskKey} {f : Frame} (hop : opcode.isControl = true)
    (h : parseFrame order maxFrameSize (encodeFrame order' opcode payload mask true false) =
      .ok (some (f, (encodeFrame order' opcode payload mask true false).length))) :
    payload.length ≤ 125 ∧ payload.length ≤ maxFrameSize := by
  have hsize := encodeFrame_length order' opcode payload mask true false
  have hfirst : (encodeFrame order' opcode payload mask true false).getD 0 0 =
      firstHeaderByte opcode true false := rfl
  obtain ⟨-, opcode', base, len, ha, hf, hlength⟩ := parse_wellFormed h
  rw [List.take_length] at ha hf hlength
  have hopcode := ha.opcode
  rw [opcodeOf, hfirst, (firstHeaderByte_bits opcode true false).2.2.2.2,
    Opcode.ofValue_value] at hopcode
  obtain rfl := Option.some.inj hopcode
  simp only [Forbidden, hop, true_and, not_or, Nat.not_lt] at hf
  obtain ⟨hmax, h125, -⟩ := hf
  -- So few bytes are announced that the length field holds the length itself.
  have hbase := ha.base_le
  have hmask : maskSize (maskedOf (encodeFrame order' opcode payload mask true false)) ≤ 4 := by
    unfold maskSize
    split <;> omega
  have hfits : payload.length ≤ ssizeMax := by
    have hssize : ssizeMax = 2 ^ 63 - 1 := rfl
    omega
  obtain ⟨sb, ext, hl, -, hfield⟩ := lengthField_encode (firstHeaderByte opcode true false)
    payload.length mask.isSome (maskedPayload order' payload mask) hfits
  have henc : encodeFrame order' opcode payload mask true false =
      firstHeaderByte opcode true false :: sb ::
        (ext ++ maskedPayload order' payload mask) := by
    simp only [encodeFrame, hl, List.cons_append]
  have hsecond : (encodeFrame order' opcode payload mask true false).getD 1 0 = sb := by
    rw [henc]
    rfl
  rw [← henc, ← hsecond] at hfield
  rcases lengthField_cases (encodeFrame order' opcode payload mask true false) with
    ⟨hnone, -⟩ | ⟨base', len', hof, ⟨-, herr⟩ | ⟨-, hsome⟩⟩
  · rw [hfield] at hnone
    cases hnone
  · rw [hfield] at herr
    cases herr
  · rw [ha.length] at hof
    cases hof
    rw [hfield] at hsome
    simp only [Except.ok.injEq, Option.some.injEq, Prod.mk.injEq] at hsome
    omega

/-- **A control frame** is read back whole exactly when its payload is short enough. -/
theorem control_whole_iff (order order' : ByteOrder) (maxFrameSize : Nat) {opcode : Opcode}
    (payload : Bytes) (mask : Option MaskKey) (f : Frame) (hop : opcode.isControl = true) :
    parseFrame order maxFrameSize (encodeFrame order' opcode payload mask true false) =
        .ok (some (f, (encodeFrame order' opcode payload mask true false).length)) ↔
      payload.length ≤ min 125 maxFrameSize ∧ f = { opcode, payload } := by
  have hback : payload.length ≤ min 125 maxFrameSize →
      parseFrame order maxFrameSize (encodeFrame order' opcode payload mask true false) =
        .ok (some ({ opcode, payload },
          (encodeFrame order' opcode payload mask true false).length)) := by
    intro hle
    obtain ⟨h125, hmax⟩ := Nat.le_min.mp hle
    have hsize : encodedHeaderLen payload.length mask.isSome + payload.length ≤ ssizeMax := by
      simp only [encodedHeaderLen, if_pos h125, ssizeMax]
      split <;> omega
    exact parseFrame_encode (FrameParser.new order' maxFrameSize 0) order
      (⟨opcode, payload, true, false, mask, hmax, fun _ => rfl, fun _ => h125, hsize⟩ :
        WireFrame maxFrameSize)
  constructor
  · intro h
    have hle := Nat.le_min.mpr (announced_length hop h)
    rw [hback hle] at h
    simp only [Except.ok.injEq, Option.some.injEq, Prod.mk.injEq, and_true] at h
    exact ⟨hle, h.symm⟩
  · rintro ⟨hle, rfl⟩
    exact hback hle

/-- A new parser takes the bytes as one frame and nothing else. -/
theorem feed_single_iff (order : ByteOrder) (maxFrameSize maxMessageSize : Nat) (data : Bytes)
    (f : Frame) :
    ((FrameParser.new order maxFrameSize maxMessageSize).feed data).2 = .ok ([f], data.length) ↔
      parseFrame order maxFrameSize data = .ok (some (f, data.length)) := by
  have hstable := parseFrame_stable order maxFrameSize
  have hfeed : ((FrameParser.new order maxFrameSize maxMessageSize).feed data).2 =
      (drain (parseFrame order maxFrameSize) data).2 := by
    simp only [FrameParser.feed, FrameParser.new, Incremental.feed, List.nil_append]
  rw [hfeed]
  constructor
  · intro h
    exact (drain_few hstable data _ [f] data.length (Prod.ext rfl h)).2 f rfl
  · intro h
    rw [drain_item hstable h, List.drop_length, drain_none hstable.nil, Drained.after_ok]
    rfl

/-- A new parser reads the bytes as one Close frame of this code and this reason. -/
def ReadsClose (order : ByteOrder) (maxFrameSize : Nat) (data : Bytes) (code : Option Nat)
    (reason : String) : Prop :=
  ∃ (maxMessageSize : Nat) (f : Frame),
    ((FrameParser.new order maxFrameSize maxMessageSize).feed data).2 = .ok ([f], data.length) ∧
      f.opcode = .close ∧ f.closeCode = code ∧ f.closeReason = reason

/-- The payload of a Close frame that carries a code is read as `encode_close` wrote it. -/
theorem closePayload_read {code : Nat} (hcode : code < 2 ^ 16) (reason : String) :
    (Frame.closeCode { opcode := .close, payload := store .big 2 code ++ encodeUtf8 reason } =
        some code) ∧
      Frame.closeReason { opcode := .close, payload := store .big 2 code ++ encodeUtf8 reason } =
        reason := by
  have htwo := store_length .big 2 code
  have htake : (store .big 2 code ++ encodeUtf8 reason).take 2 = store .big 2 code := by
    rw [List.take_append_of_le_length (by omega), List.take_of_length_le (by omega)]
  have hdrop : (store .big 2 code ++ encodeUtf8 reason).drop 2 = encodeUtf8 reason := by
    rw [List.drop_append_of_le_length (by omega), List.drop_eq_nil_of_le (by omega),
      List.nil_append]
  constructor
  · have hlen : ¬ (Opcode.close.value ≠ 0x8 ∨
        (store .big 2 code ++ encodeUtf8 reason).length < 2) := by
      rw [List.length_append, htwo, not_or, not_not, Nat.not_lt]
      exact ⟨rfl, Nat.le_add_right 2 _⟩
    have hmod : code % 256 ^ 2 = code := Nat.mod_eq_of_lt hcode
    rw [Frame.closeCode, if_neg hlen, htake, load_store, hmod]
  · unfold Frame.closeReason
    split
    · rename_i hshort
      -- No reason: the empty text.
      have hnil : encodeUtf8 reason = [] := by
        rw [List.length_append, htwo] at hshort
        apply List.eq_nil_of_length_eq_zero
        simp only [Opcode.value, ne_eq, not_true_eq_false, false_or] at hshort
        omega
      have hread := decodeReplace_encodeUtf8 reason
      rw [hnil] at hread
      exact hread
    · rw [hdrop, decodeReplace_encodeUtf8]

/-- **What `encode_close` builds** is read back, with its code and its reason, exactly when the
reason leaves room for the two bytes of the code. -/
theorem encodeClose_reads_iff (p : FrameParser) (order : ByteOrder) (maxFrameSize : Nat)
    {code : Nat} (hcode : code < 2 ^ 16) (reason : String) (key : MaskKey) (code' : Option Nat)
    (reason' : String) :
    ReadsClose order maxFrameSize (p.encodeClose code reason (some key)) code' reason' ↔
      2 + (encodeUtf8 reason).length ≤ min 125 maxFrameSize ∧ code' = some code ∧
        reason' = reason := by
  obtain ⟨hreadCode, hreadReason⟩ := closePayload_read hcode reason
  have hlen : (store .big 2 code ++ encodeUtf8 reason).length = 2 + (encodeUtf8 reason).length := by
    rw [List.length_append, store_length]
  unfold ReadsClose FrameParser.encodeClose
  simp only [feed_single_iff]
  constructor
  · rintro ⟨-, f, hparse, -, rfl, rfl⟩
    obtain ⟨hle, rfl⟩ := (control_whole_iff order p.order maxFrameSize _ _ f rfl).mp hparse
    rw [hlen] at hle
    exact ⟨hle, hreadCode, hreadReason⟩
  · rintro ⟨hle, rfl, rfl⟩
    refine ⟨0, _, (control_whole_iff order p.order maxFrameSize _ _ _ rfl).mpr ⟨?_, rfl⟩, rfl,
      hreadCode, hreadReason⟩
    rw [hlen]
    exact hle

end JetSocket.Core
