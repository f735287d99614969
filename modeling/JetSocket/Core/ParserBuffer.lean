import JetSocket.Core.Violation

/- What the parser keeps between calls (`_core.pyx`, `FrameParser.feed` and `reset`).

   A `feed` that returns leaves bytes in which `_parse_frame` found nothing to return and nothing
   to refuse: the bytes of a header that ends before its length field does, of which at most the
   opcode and the reserved bits were checked, or a part of one frame that was checked and lacks
   bytes of its payload (`Remainder`). A `feed` that raises leaves the bytes that it refused in
   front of the buffer, where the next one meets them again.

   Result: `calls_kept`, over all sequences of calls. -/
namespace JetSocket.Core
open Incremental Word

/-- A part, not all, of one frame that the parser accepts. -/
def CutFrame (maxFrameSize : Nat) (b : Bytes) : Prop :=
  ∃ tail, tail ≠ [] ∧ WellFormed maxFrameSize (b ++ tail)

/-- Bytes in which there is nothing to return yet and nothing to refuse. -/
inductive Remainder (maxFrameSize : Nat) (b : Bytes) : Prop
  /-- Not even the two fixed bytes: nothing was checked. -/
  | short (h : b.length < 2)
  /-- The first byte was checked, and the length field is incomplete. -/
  | noLength (hop : opcodeOf b ≠ none) (hres : reservedOf b = false) (h : lengthOf b = none)
  | cut (h : CutFrame maxFrameSize b)

section Remainders
variable {order : ByteOrder} {maxFrameSize : Nat} {b : Bytes}

/-- A frame that the parser waits for is no longer than a byte string can be. -/
theorem awaited_fits {opcode : Opcode} {base len : Nat} (ha : Announces b opcode base len)
    (h : parseFrame order maxFrameSize b = .ok none) :
    base + maskSize (maskedOf b) + len ≤ ssizeMax := by
  rw [parseFrame_known order maxFrameSize ha.two ha.opcode, ha.reserved, if_neg (by decide)] at h
  obtain ⟨-, hnone⟩ | ⟨base', len', hlen, ⟨-, hfield⟩ | ⟨-, hfield⟩⟩ := lengthField_cases b
  · rw [ha.length] at hnone
    cases hnone
  · rw [hfield] at h
    cases h
  · obtain ⟨rfl, rfl⟩ : base = base' ∧ len = len' := by
      have hsame := ha.length.symm.trans hlen
      simpa using hsame
    rw [hfield] at h
    simp only [parseBody] at h
    obtain ⟨-, msg, hcheck⟩ | ⟨-, hcheck⟩ := checkLength_cases maxFrameSize opcode (finOf b) len
    · simp [show checkLength _ (headOf b opcode).opcode (headOf b opcode).fin len = _ from hcheck]
        at h
    · rw [show checkLength _ (headOf b opcode).opcode (headOf b opcode).fin len = _ from hcheck] at h
      by_contra hlong
      simp [if_pos (Nat.not_le.mp hlong)] at h

/-- The missing bytes of a frame may be any. -/
theorem Announces.cut {opcode : Opcode} {base len : Nat} (ha : Announces b opcode base len)
    (hf : ¬ Forbidden maxFrameSize opcode (finOf b) len)
    (hmore : b.length < base + maskSize (maskedOf b) + len)
    (hfits : base + maskSize (maskedOf b) + len ≤ ssizeMax) : CutFrame maxFrameSize b := by
  have two := ha.two
  let tail : Bytes := List.replicate (base + maskSize (maskedOf b) + len - b.length) 0
  have htail : tail.length = base + maskSize (maskedOf b) + len - b.length := List.length_replicate
  have hfin : finOf (b ++ tail) = finOf b := by
    unfold finOf
    rw [getD_append_left b tail (by omega)]
  have hmask : maskedOf (b ++ tail) = maskedOf b := by
    unfold maskedOf
    rw [getD_append_left b tail (by omega)]
  have hlength : (b ++ tail).length = base + maskSize (maskedOf b) + len := by
    rw [List.length_append, htail]
    omega
  refine ⟨tail, ?_, by rw [hlength]; exact hfits, opcode, base, len, ha.append tail, ?_, ?_⟩
  · intro hnil
    rw [hnil] at htail
    simp at htail
    omega
  · rw [hfin]
    exact hf
  · rw [hmask, hlength]

/-- Where the parser finds nothing, there is a remainder. -/
theorem remainder_of_none (h : parseFrame order maxFrameSize b = .ok none) :
    Remainder maxFrameSize b := by
  have hverdict := parse_verdict order maxFrameSize b
  rw [h] at hverdict
  cases hverdict with
  | short hshort => exact .short hshort
  | noLength hop hres hlen => exact .noLength hop hres hlen
  | incomplete ha hf hmore => exact .cut (ha.cut hf hmore (awaited_fits ha h))

/-- A length field that is incomplete ends within ten bytes. -/
theorem lengthOf_none (h : lengthOf b = none) : b.length < 10 := by
  unfold lengthOf at h
  split at h
  · cases h
  · split at h
    · split at h
      · omega
      · cases h
    · split at h
      · omega
      · cases h

/-- A frame takes 14 bytes at most beside its payload. -/
theorem WellFormed.length_le (h : WellFormed maxFrameSize b) : b.length ≤ maxFrameSize + 14 := by
  obtain ⟨-, opcode, base, len, ha, hf, hlength⟩ := h
  have hbase := ha.base_le
  have hlen : len ≤ maxFrameSize := Nat.not_lt.mp (fun hlt => hf (.inl hlt))
  have hmask : maskSize (maskedOf b) ≤ 4 := by
    unfold maskSize
    split <;> omega
  omega

theorem Remainder.length_lt (h : Remainder maxFrameSize b) : b.length < maxFrameSize + 14 := by
  cases h with
  | short h => omega
  | noLength hop hres h =>
    have hten := lengthOf_none h
    omega
  | cut h =>
    obtain ⟨tail, hne, hwhole⟩ := h
    have hlength := hwhole.length_le
    have hpos := List.length_pos_of_ne_nil hne
    rw [List.length_append] at hlength
    omega

end Remainders

/-! ## Sequences of calls -/

/-- A call that reads or changes the buffer. -/
inductive ParserCall
  | feed (data : Bytes)
  | reset

/-- The parser after a call, whether or not it raised. -/
def FrameParser.call (p : FrameParser) : ParserCall → FrameParser
  | .feed data => (p.feed data).1
  | .reset => p.reset

def FrameParser.calls (p : FrameParser) (cs : List ParserCall) : FrameParser :=
  cs.foldl FrameParser.call p

/-- What holds of the next `feed`, and of those behind it. -/
structure Kept (maxFrameSize : Nat) (p : FrameParser) : Prop where
  remainder : ∀ data frames consumed, (p.feed data).2 = .ok (frames, consumed) →
    Remainder maxFrameSize (p.feed data).1.buffer
  bounded : ∀ data frames consumed, (p.feed data).2 = .ok (frames, consumed) →
    (p.feed data).1.buffer.length < maxFrameSize + 14
  /-- After a `feed` that raised, every other one raises the same. -/
  sticky : ∀ data e, (p.feed data).2 = .error e → ∀ chunks later,
    (((p.feed data).1.fed chunks).feed later).2 = .error e

/-- No call changes the limits. -/
theorem call_limits (p : FrameParser) (c : ParserCall) :
    (p.call c).order = p.order ∧ (p.call c).maxFrameSize = p.maxFrameSize := by
  cases c with
  | feed data => exact ⟨rfl, rfl⟩
  | reset => exact ⟨rfl, rfl⟩

theorem calls_limits (cs : List ParserCall) : ∀ p : FrameParser,
    (p.calls cs).order = p.order ∧ (p.calls cs).maxFrameSize = p.maxFrameSize := by
  induction cs with
  | nil => exact fun p => ⟨rfl, rfl⟩
  | cons c cs ih =>
    intro p
    obtain ⟨horder, hmax⟩ := ih (p.call c)
    obtain ⟨horder', hmax'⟩ := call_limits p c
    exact ⟨horder.trans horder', hmax.trans hmax'⟩

/-- What is refused is in front of the buffer. -/
def FrameParser.Stuck (p : FrameParser) (e : ParseError) : Prop :=
  parseFrame p.order p.maxFrameSize p.buffer = .error e

theorem FrameParser.Stuck.feed {p : FrameParser} {e : ParseError} (h : p.Stuck e) (data : Bytes) :
    p.feed data = ({ p with buffer := p.buffer ++ data }, .error e) := by
  unfold FrameParser.feed
  rw [feed_refused_again (parseFrame_stable p.order p.maxFrameSize) h]

/-- What is refused stays in front of the buffer, whatever is fed behind it. -/
theorem FrameParser.Stuck.fed {e : ParseError} (chunks : List Bytes) :
    ∀ {p : FrameParser}, p.Stuck e → (p.fed chunks).Stuck e := by
  induction chunks with
  | nil => exact fun h => h
  | cons data chunks ih =>
    intro p h
    have hstep : (p.feed data).1.Stuck e := by
      rw [h.feed data]
      exact (parseFrame_stable p.order p.maxFrameSize).refuse data h
    exact ih hstep

theorem FrameParser.kept (p : FrameParser) : Kept p.maxFrameSize p := by
  have hstable := parseFrame_stable p.order p.maxFrameSize
  have hremainder : ∀ data frames consumed, (p.feed data).2 = .ok (frames, consumed) →
      Remainder p.maxFrameSize (p.feed data).1.buffer := by
    intro data frames consumed h
    exact remainder_of_none
      (drain_rest hstable (p.buffer ++ data) _ frames consumed (Prod.ext rfl h)).2.2
  refine ⟨hremainder, fun data frames consumed h => (hremainder data frames consumed h).length_lt, ?_⟩
  intro data e h chunks later
  have hstuck : (p.feed data).1.Stuck e :=
    drain_refused_rest hstable (p.buffer ++ data) _ (Prod.ext rfl h)
  rw [(hstuck.fed chunks).feed later]

/-- **The buffer stays small and errors stick**, whatever was fed and reset before: a `feed` that
returns leaves fewer than `max_frame_size + 14` bytes, and one that raises is followed by others
that raise. -/
theorem calls_kept (order : ByteOrder) (maxFrameSize maxMessageSize : Nat)
    (cs : List ParserCall) :
    Kept maxFrameSize ((FrameParser.new order maxFrameSize maxMessageSize).calls cs) := by
  have hkept := ((FrameParser.new order maxFrameSize maxMessageSize).calls cs).kept
  rwa [(calls_limits cs (FrameParser.new order maxFrameSize maxMessageSize)).2] at hkept

/-- A first byte with an opcode that is not assigned is kept, and no frame begins with it. -/
theorem first_byte_kept :
    ((FrameParser.new .little 1024 1024).feed [0x83]).2 = .ok ([], 0) ∧
      ¬ CutFrame 1024 ((FrameParser.new .little 1024 1024).feed [0x83]).1.buffer := by
  refine ⟨by decide, ?_⟩
  rintro ⟨tail, -, -, opcode, base, len, ha, -, -⟩
  have hop : opcodeOf ([0x83] ++ tail) = none := by
    have hcode : Opcode.ofValue ((0x83 : UInt8) &&& 0x0F) = none := by decide
    exact hcode
  have hassigned := ha.opcode
  rw [show ((FrameParser.new .little 1024 1024).feed [0x83]).1.buffer = [0x83] by decide, hop]
    at hassigned
  cases hassigned

end JetSocket.Core
