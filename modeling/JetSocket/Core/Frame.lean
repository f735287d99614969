import JetSocket.Core.Mask

/- Opcodes and parsed frames (`_core.pyx`, `Opcode` and `Frame`), with the two
   texts a Close frame carries. `decodeReplace` is Python's
   `bytes.decode("utf-8", errors="replace")`: every maximal part of an
   ill-formed sequence becomes one U+FFFD.

   A Python `str` is a Lean `String`: the code points that can be encoded. -/
namespace JetSocket.Core

inductive Opcode where
  | continuation
  | text
  | binary
  | close
  | ping
  | pong
  deriving DecidableEq, Repr

/-- `int(opcode)`. -/
def Opcode.value : Opcode → UInt8
  | .continuation => 0x0
  | .text => 0x1
  | .binary => 0x2
  | .close => 0x8
  | .ping => 0x9
  | .pong => 0xA

/-- `Opcode(value)`, or `none` where it raises `ValueError`. -/
def Opcode.ofValue (v : UInt8) : Option Opcode :=
  if v = 0x0 then some .continuation
  else if v = 0x1 then some .text
  else if v = 0x2 then some .binary
  else if v = 0x8 then some .close
  else if v = 0x9 then some .ping
  else if v = 0xA then some .pong
  else none

/-- `opcode >= 0x8`. -/
def Opcode.isControl (o : Opcode) : Bool := 0x8 ≤ o.value

@[simp] theorem Opcode.ofValue_value (o : Opcode) : Opcode.ofValue o.value = some o := by
  cases o <;> rfl

structure Frame where
  opcode : Opcode
  payload : Bytes
  fin : Bool := true
  rsv1 : Bool := false
  rsv2 : Bool := false
  rsv3 : Bool := false
  deriving DecidableEq, Repr

/-! ## UTF-8 -/

/-- A continuation byte within the bounds its position allows. -/
def isCont (b : UInt8) (lo : UInt8 := 0x80) (hi : UInt8 := 0xBF) : Bool := lo ≤ b && b ≤ hi

/-- The first character of the bytes (`none`: an ill-formed sequence) and how many
bytes it takes. -/
def utf8Next : Bytes → Option Char × Nat
  | [] => (none, 0)
  | b0 :: rest =>
    if b0 < 0x80 then (some (Char.ofNat b0.toNat), 1)
    else if 0xC2 ≤ b0 && b0 ≤ 0xDF then
      match rest with
      | b1 :: _ =>
        if isCont b1 then (some (Char.ofNat ((b0.toNat - 0xC0) * 64 + (b1.toNat - 0x80))), 2)
        else (none, 1)
      | [] => (none, 1)
    else if 0xE0 ≤ b0 && b0 ≤ 0xEF then
      -- E0 would be overlong below A0, ED a surrogate above 9F.
      match rest with
      | b1 :: rest =>
        if isCont b1 (if b0 = 0xE0 then 0xA0 else 0x80) (if b0 = 0xED then 0x9F else 0xBF) then
          match rest with
          | b2 :: _ =>
            if isCont b2 then
              (some (Char.ofNat ((b0.toNat - 0xE0) * 4096 + (b1.toNat - 0x80) * 64 +
                (b2.toNat - 0x80))), 3)
            else (none, 2)
          | [] => (none, 2)
        else (none, 1)
      | [] => (none, 1)
    else if 0xF0 ≤ b0 && b0 ≤ 0xF4 then
      -- F0 would be overlong below 90, F4 past U+10FFFF above 8F.
      match rest with
      | b1 :: rest =>
        if isCont b1 (if b0 = 0xF0 then 0x90 else 0x80) (if b0 = 0xF4 then 0x8F else 0xBF) then
          match rest with
          | b2 :: rest =>
            if isCont b2 then
              match rest with
              | b3 :: _ =>
                if isCont b3 then
                  (some (Char.ofNat ((b0.toNat - 0xF0) * 262144 + (b1.toNat - 0x80) * 4096 +
                    (b2.toNat - 0x80) * 64 + (b3.toNat - 0x80))), 4)
                else (none, 3)
              | [] => (none, 3)
            else (none, 2)
          | [] => (none, 2)
        else (none, 1)
      | [] => (none, 1)
    else (none, 1)

/-- The characters of at most `fuel` sequences, U+FFFD for each ill-formed one. -/
def decodeReplaceFuel : Nat → Bytes → List Char
  | 0, _ => []
  | _ + 1, [] => []
  | fuel + 1, b :: rest =>
    let r := utf8Next (b :: rest)
    r.1.getD '\uFFFD' :: decodeReplaceFuel fuel ((b :: rest).drop r.2)

/-- `data.decode("utf-8", errors="replace")`. Every sequence takes a byte. -/
def decodeReplace (data : Bytes) : String := String.ofList (decodeReplaceFuel data.length data)

/-- `text.encode("utf-8")`. -/
def encodeUtf8 (text : String) : Bytes := text.toList.flatMap String.utf8EncodeChar

/-! ## Close frames -/

/-- `Frame.close_code`. -/
def Frame.closeCode (f : Frame) : Option Nat :=
  if f.opcode.value ≠ 0x8 ∨ f.payload.length < 2 then none
  else some (Word.load .big (f.payload.take 2))

/-- `Frame.close_reason`. -/
def Frame.closeReason (f : Frame) : String :=
  if f.opcode.value ≠ 0x8 ∨ f.payload.length ≤ 2 then ""
  else decodeReplace (f.payload.drop 2)

/-- A close code is a 16-bit value, so it can be packed again. -/
theorem closeCode_lt (f : Frame) {c : Nat} (h : f.closeCode = some c) : c < 2 ^ 16 := by
  unfold Frame.closeCode at h
  split at h
  · cases h
  · rename_i hlen
    have hlt := Word.load_lt .big (f.payload.take 2)
    have htake : (f.payload.take 2).length = 2 := by
      rw [List.length_take]
      omega
    rw [htake] at hlt
    cases h
    exact hlt

end JetSocket.Core
