import JetSocket.Core.FrameParser

/- What the parser accepts (`_core.pyx`, `_parse_frame`), in the terms of the wire: a stream is
   well-formed frames, and a frame header that violates the protocol ends it.

   `Announces` reads a header off the bytes, whatever the length field holds; `WellFormed` and
   `Violates` are about bytes only. `parse_verdict` relates the parser to them, and the library of
   incremental parsing carries it to every way of cutting a stream.

   Results:
     `parser_contract_iff` — `feed` raises `ValueError` exactly at a violation, and nothing else,
                             exactly where no length field of 2^63 or more is met.
     `frames_kept_iff`     — the frames in front of a violation are all handed over exactly when a
                             chunk ends between them and the violation. -/
namespace JetSocket.Core
open Incremental Word

/-! ## Headers -/

def opcodeOf (b : Bytes) : Option Opcode := Opcode.ofValue (b.getD 0 0 &&& 0x0F)

def finOf (b : Bytes) : Bool := (b.getD 0 0 &&& 0x80) != 0

/-- RSV2 or RSV3. -/
def reservedOf (b : Bytes) : Bool := (b.getD 0 0 &&& 0x20) != 0 || (b.getD 0 0 &&& 0x10) != 0

def maskedOf (b : Bytes) : Bool := (b.getD 1 0 &&& 0x80) != 0

/-- The size of the header without its key, and the payload length that it announces; `none` while
the length field is incomplete. -/
def lengthOf (b : Bytes) : Option (Nat × Nat) :=
  if b.getD 1 0 &&& 0x7F ≤ 125 then some (2, (b.getD 1 0 &&& 0x7F).toNat)
  else if b.getD 1 0 &&& 0x7F = 126 then
    if b.length < 4 then none else some (4, load .big ((b.drop 2).take 2))
  else if b.length < 10 then none
  else some (10, load .big ((b.drop 2).take 8))

/-- A header that is complete through its length field, with an opcode that is assigned. -/
structure Announces (b : Bytes) (opcode : Opcode) (base len : Nat) : Prop where
  two : 2 ≤ b.length
  opcode : opcodeOf b = some opcode
  reserved : reservedOf b = false
  length : lengthOf b = some (base, len)

/-- A length that is too large, or a control frame that is too long or a fragment. -/
def Forbidden (maxFrameSize : Nat) (opcode : Opcode) (fin : Bool) (len : Nat) : Prop :=
  maxFrameSize < len ∨ opcode.isControl = true ∧ (125 < len ∨ fin = false)

/-- One whole frame, no longer than a byte string can be. -/
def WellFormed (maxFrameSize : Nat) (b : Bytes) : Prop :=
  b.length ≤ ssizeMax ∧ ∃ opcode base len, Announces b opcode base len ∧
    ¬ Forbidden maxFrameSize opcode (finOf b) len ∧
    b.length = base + maskSize (maskedOf b) + len

/-- What a violation begins with. -/
def Violates (maxFrameSize : Nat) (b : Bytes) : Prop :=
  2 ≤ b.length ∧ (opcodeOf b = none ∨ reservedOf b = true ∨
    ∃ opcode base len, Announces b opcode base len ∧ Forbidden maxFrameSize opcode (finOf b) len)

/-- A 64-bit length that no `Py_ssize_t` holds. -/
def Overlong (b : Bytes) : Prop := ∃ opcode base len, Announces b opcode base len ∧ 2 ^ 63 ≤ len

/-- The frame that the bytes of one are. -/
def frameOf (order : ByteOrder) (b : Bytes) : Frame :=
  { opcode := (opcodeOf b).getD .continuation
    payload := (lengthOf b).elim [] (fun l =>
      takePayload order b (maskedOf b) (l.1 + maskSize (maskedOf b)) l.2)
    fin := finOf b
    rsv1 := (b.getD 0 0 &&& 0x40) != 0
    rsv2 := (b.getD 0 0 &&& 0x20) != 0
    rsv3 := (b.getD 0 0 &&& 0x10) != 0 }

/-! ## The parser's verdict -/

/-- What `_parse_frame` can say about a buffer. -/
inductive Verdict (order : ByteOrder) (maxFrameSize : Nat) (b : Bytes) :
    Except ParseError (Option (Frame × Nat)) → Prop
  | short (h : b.length < 2) : Verdict order maxFrameSize b (.ok none)
  | unassigned (msg : String) (two : 2 ≤ b.length) (h : opcodeOf b = none) :
      Verdict order maxFrameSize b (.error (.valueError msg))
  | reserved (msg : String) (two : 2 ≤ b.length) (h : reservedOf b = true) :
      Verdict order maxFrameSize b (.error (.valueError msg))
  | noLength (hop : opcodeOf b ≠ none) (hres : reservedOf b = false) (h : lengthOf b = none) :
      Verdict order maxFrameSize b (.ok none)
  | overlong (h : Overlong b) : Verdict order maxFrameSize b (.error .overflowError)
  | forbidden {opcode : Opcode} {base len : Nat} (msg : String)
      (h : Announces b opcode base len) (hlen : len < 2 ^ 63)
      (hf : Forbidden maxFrameSize opcode (finOf b) len) :
      Verdict order maxFrameSize b (.error (.valueError msg))
  | sizeOverflow {opcode : Opcode} {base len : Nat} (h : Announces b opcode base len)
      (hf : ¬ Forbidden maxFrameSize opcode (finOf b) len)
      (hsize : ssizeMax < base + maskSize (maskedOf b) + len) :
      Verdict order maxFrameSize b (.error .sizeOverflow)
  | incomplete {opcode : Opcode} {base len : Nat} (h : Announces b opcode base len)
      (hf : ¬ Forbidden maxFrameSize opcode (finOf b) len)
      (hsize : b.length < base + maskSize (maskedOf b) + len) :
      Verdict order maxFrameSize b (.ok none)
  | frame {opcode : Opcode} {base len : Nat} (h : Announces b opcode base len)
      (hf : ¬ Forbidden maxFrameSize opcode (finOf b) len)
      (hsize : base + maskSize (maskedOf b) + len ≤ b.length)
      (hfits : base + maskSize (maskedOf b) + len ≤ ssizeMax) :
      Verdict order maxFrameSize b
        (.ok (some (frameOf order b, base + maskSize (maskedOf b) + len)))

/-- The length field of the parser, and the one announced. -/
theorem lengthField_cases (b : Bytes) :
    lengthField b (b.getD 1 0 &&& 0x7F) = .ok none ∧ lengthOf b = none ∨
    ∃ base len, lengthOf b = some (base, len) ∧
      (2 ^ 63 ≤ len ∧ lengthField b (b.getD 1 0 &&& 0x7F) = .error .overflowError ∨
        len < 2 ^ 63 ∧ lengthField b (b.getD 1 0 &&& 0x7F) = .ok (some (base, len))) := by
  have hmax : ssizeMax = 2 ^ 63 - 1 := rfl
  unfold lengthField lengthOf
  by_cases h125 : b.getD 1 0 &&& 0x7F ≤ 125
  · rw [if_pos h125, if_pos h125]
    have hlt := (b.getD 1 0 &&& 0x7F).toNat_lt
    exact .inr ⟨_, _, rfl, .inr ⟨by omega, rfl⟩⟩
  · rw [if_neg h125, if_neg h125]
    by_cases h126 : b.getD 1 0 &&& 0x7F = 126
    · rw [if_pos h126, if_pos h126]
      by_cases h4 : b.length < 4
      · exact .inl ⟨if_pos h4, if_pos h4⟩
      · rw [if_neg h4, if_neg h4]
        have hlt := load_lt .big ((b.drop 2).take 2)
        have htwo : ((b.drop 2).take 2).length = 2 := by
          rw [List.length_take, List.length_drop]
          omega
        rw [htwo] at hlt
        exact .inr ⟨_, _, rfl, .inr ⟨by omega, rfl⟩⟩
    · rw [if_neg h126, if_neg h126]
      by_cases h10 : b.length < 10
      · exact .inl ⟨if_pos h10, if_pos h10⟩
      · rw [if_neg h10, if_neg h10]
        refine .inr ⟨_, _, rfl, ?_⟩
        by_cases hover : ssizeMax < load .big ((b.drop 2).take 8)
        · exact .inl ⟨by omega, if_pos hover⟩
        · exact .inr ⟨by omega, if_neg hover⟩

/-- The checks on a length raise `ValueError` exactly for what is forbidden. -/
theorem checkLength_cases (maxFrameSize : Nat) (opcode : Opcode) (fin : Bool) (len : Nat) :
    (Forbidden maxFrameSize opcode fin len ∧
      ∃ msg, checkLength maxFrameSize opcode fin len = .error (.valueError msg)) ∨
    (¬ Forbidden maxFrameSize opcode fin len ∧
      checkLength maxFrameSize opcode fin len = .ok ()) := by
  unfold checkLength Forbidden
  by_cases hmax : maxFrameSize < len
  · exact .inl ⟨.inl hmax, _, if_pos hmax⟩
  · rw [if_neg hmax]
    cases hc : opcode.isControl with
    | false =>
      refine .inr ⟨?_, rfl⟩
      rintro (h | ⟨h, -⟩)
      · exact hmax h
      · cases h
    | true =>
      by_cases h125 : 125 < len
      · exact .inl ⟨.inr ⟨rfl, .inl h125⟩, _, by rw [if_pos rfl, if_pos h125]⟩
      · rw [if_pos rfl, if_neg h125]
        cases fin with
        | false => exact .inl ⟨.inr ⟨rfl, .inr rfl⟩, _, rfl⟩
        | true =>
          refine .inr ⟨?_, rfl⟩
          rintro (h | ⟨-, h | h⟩)
          · exact hmax h
          · exact h125 h
          · cases h

/-- The frame of a header, its payload still empty. -/
def headOf (b : Bytes) (opcode : Opcode) : Frame :=
  { opcode, payload := [], fin := finOf b, rsv1 := (b.getD 0 0 &&& 0x40) != 0,
    rsv2 := (b.getD 0 0 &&& 0x20) != 0, rsv3 := (b.getD 0 0 &&& 0x10) != 0 }

/-- The parser, once the opcode is known. -/
theorem parseFrame_known (order : ByteOrder) (maxFrameSize : Nat) {b : Bytes} {opcode : Opcode}
    (two : 2 ≤ b.length) (hop : opcodeOf b = some opcode) :
    parseFrame order maxFrameSize b =
      if reservedOf b then .error (.valueError "Reserved bits set without extension")
      else
        match lengthField b (b.getD 1 0 &&& 0x7F) with
        | .error e => .error e
        | .ok none => .ok none
        | .ok (some (baseSize, payloadLen)) =>
          parseBody order maxFrameSize b (headOf b opcode) (maskedOf b)
            (baseSize + maskSize (maskedOf b)) payloadLen := by
  have hvalue : Opcode.ofValue (b.getD 0 0 &&& 0x0F) = some opcode := hop
  unfold parseFrame
  rw [if_neg (by omega)]
  simp only [hvalue]
  rfl

/-- The parser, once the length is known. -/
theorem body_verdict (order : ByteOrder) (maxFrameSize : Nat) {b : Bytes} {opcode : Opcode}
    {base len : Nat} (h : Announces b opcode base len) (hlen : len < 2 ^ 63) :
    Verdict order maxFrameSize b (parseBody order maxFrameSize b (headOf b opcode) (maskedOf b)
      (base + maskSize (maskedOf b)) len) := by
  unfold parseBody
  obtain ⟨hf, msg, hcheck⟩ | ⟨hf, hcheck⟩ := checkLength_cases maxFrameSize opcode (finOf b) len
  · rw [show checkLength _ (headOf b opcode).opcode (headOf b opcode).fin len = _ from hcheck]
    exact .forbidden msg h hlen hf
  · rw [show checkLength _ (headOf b opcode).opcode (headOf b opcode).fin len = _ from hcheck]
    by_cases hover : ssizeMax < base + maskSize (maskedOf b) + len
    · simp only [if_pos hover]
      exact .sizeOverflow h hf hover
    · simp only [if_neg hover]
      by_cases hmore : b.length < base + maskSize (maskedOf b) + len
      · rw [if_pos hmore]
        exact .incomplete h hf hmore
      · rw [if_neg hmore]
        have hframe : Verdict order maxFrameSize b _ :=
          .frame h hf (Nat.not_lt.mp hmore) (Nat.not_lt.mp hover)
        unfold frameOf at hframe
        rw [h.opcode, h.length] at hframe
        exact hframe

/-- **The parser decides** as the bytes call for. -/
theorem parse_verdict (order : ByteOrder) (maxFrameSize : Nat) (b : Bytes) :
    Verdict order maxFrameSize b (parseFrame order maxFrameSize b) := by
  by_cases htwo : b.length < 2
  · unfold parseFrame
    rw [if_pos htwo]
    exact .short htwo
  · have two : 2 ≤ b.length := Nat.not_lt.mp htwo
    cases hop : opcodeOf b with
    | none =>
      have hvalue : Opcode.ofValue (b.getD 0 0 &&& 0x0F) = none := hop
      unfold parseFrame
      rw [if_neg htwo]
      simp only [hvalue]
      exact .unassigned _ two hop
    | some opcode =>
      rw [parseFrame_known order maxFrameSize two hop]
      cases hres : reservedOf b with
      | true => exact .reserved _ two hres
      | false =>
        obtain ⟨hfield, hnone⟩ | ⟨base, len, hlen, ⟨hlong, hfield⟩ | ⟨hfits, hfield⟩⟩ :=
          lengthField_cases b
        · rw [hfield]
          exact .noLength (by rw [hop]; exact Option.some_ne_none opcode) hres hnone
        · rw [hfield]
          exact .overlong ⟨opcode, base, len, ⟨two, hop, hres, hlen⟩, hlong⟩
        · rw [hfield]
          exact body_verdict order maxFrameSize ⟨two, hop, hres, hlen⟩ hfits

/-! ## What the decisions mean -/

section Decisions
variable {order : ByteOrder} {maxFrameSize : Nat} {b : Bytes}

/-- A header announces one thing. -/
theorem Announces.unique {opcode opcode' : Opcode} {base len base' len' : Nat}
    (h : Announces b opcode base len) (h' : Announces b opcode' base' len') :
    opcode = opcode' ∧ base = base' ∧ len = len' := by
  obtain ⟨rfl⟩ := Option.some.inj (h.opcode.symm.trans h'.opcode)
  cases Option.some.inj (h.length.symm.trans h'.length)
  exact ⟨rfl, rfl, rfl⟩

/-- The header of a frame that may be parsed is short, and so is what it announces. -/
theorem Announces.base_le {opcode : Opcode} {base len : Nat} (h : Announces b opcode base len) :
    2 ≤ base ∧ base ≤ 10 ∧ base ≤ b.length := by
  have hlen := h.length
  have two := h.two
  unfold lengthOf at hlen
  split at hlen
  · cases hlen
    omega
  · split at hlen
    · split at hlen
      · cases hlen
      · cases hlen
        omega
    · split at hlen
      · cases hlen
      · cases hlen
        omega

/-- The verdict on a buffer whose header is known. -/
inductive Announced (order : ByteOrder) (maxFrameSize : Nat) (b : Bytes) (opcode : Opcode)
    (base len : Nat) : Except ParseError (Option (Frame × Nat)) → Prop
  | overlong (hlong : 2 ^ 63 ≤ len) :
      Announced order maxFrameSize b opcode base len (.error .overflowError)
  | forbidden (msg : String) (hlen : len < 2 ^ 63)
      (hf : Forbidden maxFrameSize opcode (finOf b) len) :
      Announced order maxFrameSize b opcode base len (.error (.valueError msg))
  | sizeOverflow (hf : ¬ Forbidden maxFrameSize opcode (finOf b) len)
      (hsize : ssizeMax < base + maskSize (maskedOf b) + len) :
      Announced order maxFrameSize b opcode base len (.error .sizeOverflow)
  | incomplete (hf : ¬ Forbidden maxFrameSize opcode (finOf b) len)
      (hsize : b.length < base + maskSize (maskedOf b) + len) :
      Announced order maxFrameSize b opcode base len (.ok none)
  | frame (hf : ¬ Forbidden maxFrameSize opcode (finOf b) len)
      (hsize : base + maskSize (maskedOf b) + len ≤ b.length) :
      Announced order maxFrameSize b opcode base len
        (.ok (some (frameOf order b, base + maskSize (maskedOf b) + len)))

theorem Announces.verdict {opcode : Opcode} {base len : Nat} (ha : Announces b opcode base len)
    (order : ByteOrder) (maxFrameSize : Nat) :
    Announced order maxFrameSize b opcode base len (parseFrame order maxFrameSize b) := by
  have hverdict := parse_verdict order maxFrameSize b
  generalize parseFrame order maxFrameSize b = r at hverdict ⊢
  cases hverdict with
  | short h =>
    have two := ha.two
    omega
  | unassigned msg two h =>
    rw [ha.opcode] at h
    cases h
  | reserved msg two h => exact absurd (ha.reserved.symm.trans h) (by decide)
  | noLength hop hres h =>
    rw [ha.length] at h
    cases h
  | overlong h =>
    obtain ⟨_, _, len', ha', hlong⟩ := h
    obtain ⟨-, -, rfl⟩ := ha.unique ha'
    exact .overlong hlong
  | forbidden msg h hlen hf =>
    obtain ⟨rfl, rfl, rfl⟩ := ha.unique h
    exact .forbidden msg hlen hf
  | sizeOverflow h hf hsize =>
    obtain ⟨rfl, rfl, rfl⟩ := ha.unique h
    exact .sizeOverflow hf hsize
  | incomplete h hf hsize =>
    obtain ⟨rfl, rfl, rfl⟩ := ha.unique h
    exact .incomplete hf hsize
  | frame h hf hsize =>
    obtain ⟨rfl, rfl, rfl⟩ := ha.unique h
    exact .frame hf hsize

/-- With room for a header above the largest frame, no size overflows. -/
theorem size_fits (hmax : maxFrameSize ≤ 2 ^ 62) {opcode : Opcode} {base len : Nat}
    (h : Announces b opcode base len) (hf : ¬ Forbidden maxFrameSize opcode (finOf b) len) :
    base + maskSize (maskedOf b) + len ≤ ssizeMax := by
  have hbase := h.base_le
  have hlen : len ≤ maxFrameSize := by
    by_contra hlt
    exact hf (.inl (Nat.not_le.mp hlt))
  have hmask : maskSize (maskedOf b) ≤ 4 := by
    unfold maskSize
    split <;> omega
  have hssize : ssizeMax = 2 ^ 63 - 1 := rfl
  omega

/-- A violation is refused. -/
theorem Violates.refused (order : ByteOrder) (hviolates : Violates maxFrameSize b) :
    ∃ e, parseFrame order maxFrameSize b = .error e := by
  obtain ⟨two, hv⟩ := hviolates
  have hverdict := parse_verdict order maxFrameSize b
  have hclear : ∀ {opcode base len}, Announces b opcode base len →
      ¬ Forbidden maxFrameSize opcode (finOf b) len → False := by
    intro opcode base len ha hf
    obtain h | h | ⟨opcode', base', len', ha', hf'⟩ := hv
    · rw [ha.opcode] at h
      cases h
    · rw [ha.reserved] at h
      cases h
    · obtain ⟨rfl, rfl, rfl⟩ := ha.unique ha'
      exact hf hf'
  generalize parseFrame order maxFrameSize b = r at hverdict
  cases hverdict with
  | short h => omega
  | unassigned | reserved | overlong | forbidden | sizeOverflow => exact ⟨_, rfl⟩
  | noLength hop hres h =>
    obtain hv | hv | ⟨_, _, _, ha, -⟩ := hv
    · exact absurd hv hop
    · exact absurd (hres.symm.trans hv) (by decide)
    · rw [ha.length] at h
      cases h
  | incomplete h hf | frame h hf => exact (hclear h hf).elim

/-- What is refused violates the protocol, and the other way round. -/
theorem refused_iff_violates (order : ByteOrder) (hmax : maxFrameSize ≤ 2 ^ 62) :
    (∃ e, parseFrame order maxFrameSize b = .error e) ↔ Violates maxFrameSize b := by
  have hverdict := parse_verdict order maxFrameSize b
  constructor
  · rintro ⟨e, he⟩
    rw [he] at hverdict
    cases hverdict with
    | unassigned msg two h => exact ⟨two, .inl h⟩
    | reserved msg two h => exact ⟨two, .inr (.inl h)⟩
    | overlong h =>
      obtain ⟨opcode, base, len, ha, hlong⟩ := h
      exact ⟨ha.two, .inr (.inr ⟨opcode, base, len, ha, .inl (by omega)⟩)⟩
    | forbidden msg h hlen hf => exact ⟨h.two, .inr (.inr ⟨_, _, _, h, hf⟩)⟩
    | sizeOverflow h hf hsize => exact absurd (size_fits hmax h hf) (Nat.not_le.mpr hsize)
  · exact Violates.refused order

/-- Only a length that no `Py_ssize_t` holds is refused by something else than `ValueError`. -/
theorem refused_other_iff (order : ByteOrder) (hmax : maxFrameSize ≤ 2 ^ 62) :
    (∃ e, parseFrame order maxFrameSize b = .error e ∧ ∀ msg, e ≠ .valueError msg) ↔
      Overlong b := by
  have hverdict := parse_verdict order maxFrameSize b
  constructor
  · rintro ⟨e, he, hother⟩
    rw [he] at hverdict
    cases hverdict with
    | unassigned msg | reserved msg | forbidden msg => exact absurd rfl (hother msg)
    | overlong h => exact h
    | sizeOverflow h hf hsize => exact absurd (size_fits hmax h hf) (Nat.not_le.mpr hsize)
  · rintro ⟨opcode, base, len, ha, hlong⟩
    have hlarge : Forbidden maxFrameSize opcode (finOf b) len := .inl (by omega)
    have hannounced := ha.verdict order maxFrameSize
    generalize parseFrame order maxFrameSize b = r at hannounced ⊢
    cases hannounced with
    | overlong => exact ⟨_, rfl, fun msg h => by cases h⟩
    | forbidden msg hlen => omega
    | sizeOverflow hf | incomplete hf | frame hf => exact absurd hlarge hf

/-! ## Whole frames -/

/-- A frame that is whole is parsed, and is all of what it takes. -/
theorem WellFormed.parse (h : WellFormed maxFrameSize b) :
    parseFrame order maxFrameSize b = .ok (some (frameOf order b, b.length)) := by
  obtain ⟨hfits, opcode, base, len, ha, hf, hlength⟩ := h
  have hannounced := ha.verdict order maxFrameSize
  have hssize : ssizeMax = 2 ^ 63 - 1 := rfl
  generalize parseFrame order maxFrameSize b = r at hannounced ⊢
  cases hannounced with
  | overlong hlong => omega
  | forbidden msg _ hf' => exact absurd hf' hf
  | sizeOverflow _ hsize | incomplete _ hsize => omega
  | frame _ hsize => rw [hlength]

theorem getD_take {n i : Nat} (h : i < n) : (b.take n).getD i 0 = b.getD i 0 := by
  rw [List.getD_eq_getElem?_getD, List.getD_eq_getElem?_getD, List.getElem?_take_of_lt h]

/-- The header is all that is looked at. -/
theorem Announces.congr {b' : Bytes} {opcode : Opcode} {base len : Nat}
    (h : Announces b opcode base len) (hsame : b'.take base = b.take base)
    (hle : base ≤ b'.length) : Announces b' opcode base len := by
  obtain ⟨hbase, -, -⟩ := h.base_le
  have hbyte : ∀ i, i < base → b'.getD i 0 = b.getD i 0 := by
    intro i hi
    rw [← getD_take hi, hsame, getD_take hi]
  have hfirst := hbyte 0 (by omega)
  have hsecond := hbyte 1 (by omega)
  have hslice : ∀ n, base = 2 + n → (b'.drop 2).take n = (b.drop 2).take n := by
    intro n hn
    calc (b'.drop 2).take n = (b'.take base).drop 2 := by rw [hn, List.drop_take]; simp
      _ = (b.take base).drop 2 := by rw [hsame]
      _ = (b.drop 2).take n := by rw [hn, List.drop_take]; simp
  refine ⟨by omega, ?_, ?_, ?_⟩
  · unfold opcodeOf
    rw [hfirst]
    exact h.opcode
  · unfold reservedOf
    rw [hfirst]
    exact h.reserved
  · have hlen := h.length
    unfold lengthOf at hlen ⊢
    rw [hsecond]
    split at hlen
    · next h125 => rw [if_pos h125, hlen]
    · next h125 =>
      rw [if_neg h125]
      split at hlen
      · next h126 =>
        rw [if_pos h126]
        split at hlen
        · cases hlen
        · cases hlen
          rw [if_neg (by omega), hslice 2 rfl]
      · next h126 =>
        rw [if_neg h126]
        split at hlen
        · cases hlen
        · cases hlen
          rw [if_neg (by omega), hslice 8 rfl]

/-- A header is announced by every part that holds it. -/
theorem Announces.take {opcode : Opcode} {base len : Nat} (h : Announces b opcode base len)
    {n : Nat} (hn : base ≤ n) (hle : n ≤ b.length) : Announces (b.take n) opcode base len := by
  apply h.congr
  · rw [List.take_take, Nat.min_eq_left hn]
  · rw [List.length_take]
    omega

theorem Announces.append {opcode : Opcode} {base len : Nat} (h : Announces b opcode base len)
    (c : Bytes) : Announces (b ++ c) opcode base len := by
  obtain ⟨-, -, hle⟩ := h.base_le
  apply h.congr
  · rw [List.take_append_of_le_length hle]
  · rw [List.length_append]
    omega

/-- What the parser takes is a whole frame. -/
theorem parse_wellFormed {f : Frame} {n : Nat}
    (h : parseFrame order maxFrameSize b = .ok (some (f, n))) :
    WellFormed maxFrameSize (b.take n) := by
  have hverdict := parse_verdict order maxFrameSize b
  rw [h] at hverdict
  cases hverdict with
  | @frame opcode base len ha hf hsize hfits =>
    have hmask : maskedOf (b.take (base + maskSize (maskedOf b) + len)) = maskedOf b := by
      unfold maskedOf
      rw [getD_take (by have hbase := ha.base_le; omega)]
    have hfin : finOf (b.take (base + maskSize (maskedOf b) + len)) = finOf b := by
      unfold finOf
      rw [getD_take (by have hbase := ha.base_le; omega)]
    refine ⟨?_, opcode, base, len, ha.take (by omega) hsize, ?_, ?_⟩
    · rw [List.length_take, Nat.min_eq_left hsize]
      exact hfits
    · rw [hfin]
      exact hf
    · rw [hmask, List.length_take, Nat.min_eq_left hsize]

/-- A frame is read off its own bytes. -/
theorem parse_exact : Exact (parseFrame order maxFrameSize) := by
  intro b f n h
  have hstable := parseFrame_stable order maxFrameSize
  have hparse : parseFrame order maxFrameSize (b.take n) = _ := (parse_wellFormed h).parse
  have hwhole := hstable.item (b.drop n) hparse
  have hle := (hstable.consumed h).2
  rw [List.take_append_drop, h, List.length_take, Nat.min_eq_left hle] at hwhole
  rw [hparse, List.length_take, Nat.min_eq_left hle]
  exact hwhole.symm

end Decisions

/-! ## Streams -/

/-- The stream is well-formed frames, and goes on with bytes of this kind. -/
def GoesOn (maxFrameSize : Nat) (stream : Bytes) (P : Bytes → Prop) : Prop :=
  ∃ frames rest, stream = List.flatten frames ++ rest ∧
    (∀ f ∈ frames, WellFormed maxFrameSize f) ∧ P rest

section Streams
variable {order : ByteOrder} {maxFrameSize : Nat}

/-- Well-formed frames, with what they are. -/
def blocksOf (order : ByteOrder) (frames : List Bytes) : List (Bytes × Frame) :=
  frames.map (fun f => (f, frameOf order f))

theorem items_blocksOf {frames : List Bytes}
    (h : ∀ f ∈ frames, WellFormed maxFrameSize f) :
    Items (parseFrame order maxFrameSize) (blocksOf order frames) := by
  intro x hx
  obtain ⟨f, hf, rfl⟩ := List.mem_map.mp hx
  exact (h f hf).parse

theorem elements_blocksOf (order : ByteOrder) (frames : List Bytes) :
    elements (blocksOf order frames) = frames.flatten := by
  unfold elements blocksOf
  rw [List.map_map]
  exact congrArg List.flatten (List.map_id frames)

/-- The parser's blocks are the well-formed frames. -/
theorem goesOn_iff (order : ByteOrder) {stream : Bytes} {P : Bytes → Prop} :
    (∃ blocks rest, Items (parseFrame order maxFrameSize) blocks ∧
      stream = elements blocks ++ rest ∧ P rest) ↔ GoesOn maxFrameSize stream P := by
  constructor
  · rintro ⟨blocks, rest, hblocks, hstream, hrest⟩
    refine ⟨blocks.map Prod.fst, rest, hstream, ?_, hrest⟩
    intro f hf
    obtain ⟨x, hx, rfl⟩ := List.mem_map.mp hf
    have hwhole := parse_wellFormed (hblocks x hx)
    rwa [List.take_length] at hwhole
  · rintro ⟨frames, rest, hstream, hframes, hrest⟩
    refine ⟨blocksOf order frames, rest, items_blocksOf hframes, ?_, hrest⟩
    rw [elements_blocksOf, hstream]

/-- The parser after the chunks, whether or not they raised. -/
def FrameParser.fed (p : FrameParser) (chunks : List Bytes) : FrameParser :=
  chunks.foldl (fun p data => (p.feed data).1) p

theorem FrameParser.fed_eq (p : FrameParser) (chunks : List Bytes) :
    p.fed chunks =
      { p with buffer := leftover (parseFrame p.order p.maxFrameSize) p.buffer chunks } := by
  induction chunks generalizing p with
  | nil => rfl
  | cons data chunks ih => exact ih (p.feed data).1

/-- `feed` returns or raises `ValueError`, and raises exactly at a violation. -/
structure Contract (maxFrameSize : Nat) (stream : Bytes)
    (outcome : Except ParseError (List Frame × Nat)) : Prop where
  raises : ∀ e, outcome = .error e → ∃ msg, e = .valueError msg
  exactly : (∃ e, outcome = .error e) ↔ GoesOn maxFrameSize stream (Violates maxFrameSize)

/-- What a call of `feed` raises, for all that was fed so far. -/
theorem feed_error_iff (order : ByteOrder) (maxFrameSize maxMessageSize : Nat)
    (chunks : List Bytes) (data : Bytes) (e : ParseError) :
    (((FrameParser.new order maxFrameSize maxMessageSize).fed chunks).feed data).2 = .error e ↔
      GoesOn maxFrameSize (chunks.flatten ++ data)
        (fun rest => parseFrame order maxFrameSize rest = .error e) := by
  rw [FrameParser.fed_eq, ← goesOn_iff order]
  exact feed_refused_iff (parseFrame_stable order maxFrameSize) parse_exact chunks data e

/-- **The error contract** holds of a call of `feed` exactly when the stream so far does not go on
with a length of 2^63 or more. -/
theorem parser_contract_iff (order : ByteOrder) (hmax : maxFrameSize ≤ 2 ^ 62)
    (maxMessageSize : Nat) (chunks : List Bytes) (data : Bytes) :
    Contract maxFrameSize (chunks.flatten ++ data)
        (((FrameParser.new order maxFrameSize maxMessageSize).fed chunks).feed data).2 ↔
      ¬ GoesOn maxFrameSize (chunks.flatten ++ data) Overlong := by
  have herror := feed_error_iff order maxFrameSize maxMessageSize chunks data
  have hother : GoesOn maxFrameSize (chunks.flatten ++ data) Overlong ↔ ∃ e,
      (((FrameParser.new order maxFrameSize maxMessageSize).fed chunks).feed data).2 = .error e ∧
        ∀ msg, e ≠ .valueError msg := by
    constructor
    · rintro ⟨frames, rest, hstream, hframes, hrest⟩
      obtain ⟨e, he, hne⟩ := (refused_other_iff order hmax).mpr hrest
      exact ⟨e, (herror e).mpr ⟨frames, rest, hstream, hframes, he⟩, hne⟩
    · rintro ⟨e, he, hne⟩
      obtain ⟨frames, rest, hstream, hframes, hrest⟩ := (herror e).mp he
      exact ⟨frames, rest, hstream, hframes, (refused_other_iff order hmax).mp ⟨e, hrest, hne⟩⟩
  have hexactly : (∃ e,
      (((FrameParser.new order maxFrameSize maxMessageSize).fed chunks).feed data).2 = .error e) ↔
        GoesOn maxFrameSize (chunks.flatten ++ data) (Violates maxFrameSize) := by
    constructor
    · rintro ⟨e, he⟩
      obtain ⟨frames, rest, hstream, hframes, hrest⟩ := (herror e).mp he
      exact ⟨frames, rest, hstream, hframes, (refused_iff_violates order hmax).mp ⟨e, hrest⟩⟩
    · rintro ⟨frames, rest, hstream, hframes, hrest⟩
      obtain ⟨e, he⟩ := (refused_iff_violates order hmax).mpr hrest
      exact ⟨e, (herror e).mpr ⟨frames, rest, hstream, hframes, he⟩⟩
  rw [hother]
  constructor
  · rintro h ⟨e, he, hne⟩
    obtain ⟨msg, rfl⟩ := h.raises e he
    exact hne msg rfl
  · intro h
    refine ⟨fun e he => ?_, hexactly⟩
    by_contra hmsg
    exact h ⟨e, he, fun msg hm => hmsg ⟨msg, hm⟩⟩

end Streams

/-- A length of 2^63 or more takes a header of ten bytes. -/
theorem Overlong.ten_le {b : Bytes} (h : Overlong b) : 10 ≤ b.length := by
  obtain ⟨opcode, base, len, ha, hlong⟩ := h
  have hlen := ha.length
  unfold lengthOf at hlen
  split at hlen
  · cases hlen
    have hlt := (b.getD 1 0 &&& 0x7F).toNat_lt
    omega
  · split at hlen
    · split at hlen
      · cases hlen
      · cases hlen
        have hlt := load_lt .big ((b.drop 2).take 2)
        have htwo : ((b.drop 2).take 2).length = 2 := by
          rw [List.length_take, List.length_drop]
          omega
        rw [htwo] at hlt
        omega
    · split at hlen
      · cases hlen
      · omega

/-- A text frame, cut in its header, and behind it a reserved opcode, cut too. -/
theorem parser_contract_reserved :
    Contract 1024 ([0x81, 0x01, 0x41, 0x83] ++ [0x00])
      (((FrameParser.new .little 1024 1024).fed [[0x81], [0x01, 0x41, 0x83]]).feed [0x00]).2 := by
  refine (parser_contract_iff .little (by decide) 1024 [[0x81], [0x01, 0x41, 0x83]] [0x00]).mpr ?_
  rintro ⟨frames, rest, hstream, -, hrest⟩
  have hten := hrest.ten_le
  have hlength := congrArg List.length hstream
  rw [List.length_append] at hlength
  simp at hlength
  omega

/-- The length 2^63 raises `OverflowError`. -/
theorem overlong_overflows :
    (FrameParser.new .little 1024 1024).feed [0x82, 0x7F, 0x80, 0, 0, 0, 0, 0, 0, 0] =
      ({ FrameParser.new .little 1024 1024 with buffer := [0x82, 0x7F, 0x80, 0, 0, 0, 0, 0, 0, 0] },
        .error .overflowError) ∧
    ¬ Contract 1024 [0x82, 0x7F, 0x80, 0, 0, 0, 0, 0, 0, 0]
        ((FrameParser.new .little 1024 1024).feed [0x82, 0x7F, 0x80, 0, 0, 0, 0, 0, 0, 0]).2 := by
  refine ⟨by decide, fun h => ?_⟩
  obtain ⟨msg, hmsg⟩ := h.raises .overflowError (by decide)
  cases hmsg

/-! ## Frames in front of a violation -/

/-- The frames that the calls of `feed` return before one raises. -/
def FrameParser.handed (p : FrameParser) : List Bytes → List Frame
  | [] => []
  | data :: chunks =>
    match p.feed data with
    | (_, .error _) => []
    | (p', .ok (frames, _)) => frames ++ p'.handed chunks

theorem FrameParser.handed_eq (p : FrameParser) (chunks : List Bytes) :
    p.handed chunks = Incremental.handed (parseFrame p.order p.maxFrameSize) p.buffer chunks := by
  induction chunks generalizing p with
  | nil => rfl
  | cons data chunks ih =>
    unfold FrameParser.handed Incremental.handed FrameParser.feed
    cases Incremental.feed (parseFrame p.order p.maxFrameSize) p.buffer data with
    | mk r o =>
      cases o with
      | error e => rfl
      | ok u => exact congrArg (u.1 ++ ·) (ih { p with buffer := r })

/-- What is refused in front of a violation violates the protocol as well. -/
theorem violates_of_refused {order : ByteOrder} {maxFrameSize : Nat} {tail late : Bytes}
    {e : ParseError} (h : parseFrame order maxFrameSize tail = .error e)
    (hv : Violates maxFrameSize (tail ++ late)) : Violates maxFrameSize tail := by
  have hverdict := parse_verdict order maxFrameSize tail
  have hannounced : ∀ {opcode base len}, Announces tail opcode base len →
      Violates maxFrameSize tail := by
    intro opcode base len ha
    have ha' := ha.append late
    have hfin : finOf (tail ++ late) = finOf tail := by
      unfold finOf
      rw [getD_append_left tail late (by have two := ha.two; omega)]
    obtain ⟨-, hop | hres | ⟨opcode', base', len', hother, hf⟩⟩ := hv
    · rw [ha'.opcode] at hop
      cases hop
    · exact absurd (ha'.reserved.symm.trans hres) (by decide)
    · obtain ⟨rfl, rfl, rfl⟩ := ha'.unique hother
      rw [hfin] at hf
      exact ⟨ha.two, .inr (.inr ⟨opcode, base, len, ha, hf⟩)⟩
  rw [h] at hverdict
  cases hverdict with
  | unassigned msg two hop => exact ⟨two, .inl hop⟩
  | reserved msg two hres => exact ⟨two, .inr (.inl hres)⟩
  | overlong ho =>
    obtain ⟨_, _, _, ha, -⟩ := ho
    exact hannounced ha
  | forbidden msg ha | sizeOverflow ha => exact hannounced ha

/-- **The frames in front of a violation** are handed over exactly when a call of `feed` ends
behind the last of them and in front of the violation. -/
theorem frames_kept_iff (order : ByteOrder) (maxFrameSize maxMessageSize : Nat)
    {frames : List Bytes} {rest : Bytes} (hframes : ∀ f ∈ frames, WellFormed maxFrameSize f)
    (hrest : Violates maxFrameSize rest) {chunks : List Bytes}
    (hchunks : chunks.flatten = frames.flatten ++ rest) :
    (FrameParser.new order maxFrameSize maxMessageSize).handed chunks =
        frames.map (frameOf order) ↔
      ∃ early tail, early <+: chunks ∧ early.flatten = frames.flatten ++ tail ∧
        ¬ Violates maxFrameSize tail := by
  obtain ⟨e, he⟩ := hrest.refused order
  have hsplit : chunks.flatten = elements (blocksOf order frames) ++ rest := by
    rw [elements_blocksOf, hchunks]
  have hkept := handed_eq_iff (parseFrame_stable order maxFrameSize)
    (items_blocksOf hframes) he hsplit
  have hmap : (blocksOf order frames).map Prod.snd = frames.map (frameOf order) := by
    unfold blocksOf
    rw [List.map_map]
    rfl
  rw [elements_blocksOf, hmap] at hkept
  rw [FrameParser.handed_eq]
  refine hkept.trans ?_
  constructor
  · rintro ⟨early, late, tail, rfl, htail, hclear⟩
    refine ⟨early, tail, List.prefix_append early late, htail, fun hv => ?_⟩
    obtain ⟨e', he'⟩ := hv.refused order
    exact hclear e' he'
  · rintro ⟨early, tail, ⟨late, rfl⟩, htail, hclear⟩
    refine ⟨early, late, tail, rfl, htail, fun e' he' => hclear ?_⟩
    have hlate : tail ++ late.flatten = rest := by
      rw [List.flatten_append, htail, List.append_assoc] at hchunks
      exact List.append_cancel_left hchunks
    exact violates_of_refused he' (hlate ▸ hrest)

/-- An empty text frame, and a header with an opcode that is not assigned. -/
theorem frames_kept_apart :
    (FrameParser.new .little 1024 1024).handed [[0x81, 0x00], [0x83, 0x00]] =
        [[0x81, 0x00]].map (frameOf .little) ↔
      ∃ early tail, early <+: [[0x81, 0x00], [0x83, 0x00]] ∧
        early.flatten = [[0x81, 0x00]].flatten ++ tail ∧ ¬ Violates 1024 tail := by
  refine frames_kept_iff .little 1024 1024 ?_
    (show Violates 1024 [0x83, 0x00] from ⟨by decide, .inl (by decide)⟩) rfl
  intro f hf
  obtain rfl := List.mem_singleton.mp hf
  refine ⟨by decide, .text, 2, 0, ⟨by decide, by decide, by decide, by decide⟩, ?_, by decide⟩
  rintro (h | ⟨h, -⟩)
  · cases h
  · cases h

/-- In one chunk, the frame is parsed, and lost with the error. -/
theorem frame_lost :
    (FrameParser.new .little 1024 1024).handed [[0x81, 0x00], [0x83, 0x00]] =
        [frameOf .little [0x81, 0x00]] ∧
      (FrameParser.new .little 1024 1024).handed [[0x81, 0x00, 0x83, 0x00]] = [] := by
  decide

end JetSocket.Core
