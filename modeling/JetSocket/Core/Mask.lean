import JetSocket.Lib.Word
import Mathlib.Data.List.Basic

/- Frame masking (`_core.pyx`, `_apply_mask_c` and `apply_mask`). The C loop XORs
   memory in place: 64-bit words while eight bytes are left, then 32-bit words,
   then single bytes, the words loaded and stored in the machine's byte order.
   Memory is a function of the offset from the data pointer, so a store outside
   the data would show.

   `applyMaskC_maskedTo`: whatever the byte order, offset `j` below the length ends
   up XORed with mask byte `j % 4` and every other offset is as before.
   `applyMaskTraced_touched`: the loops, run with a trace of the offsets they load
   and store, touch every offset below the length once, in order, and no other.

   Correspondence (Cython ↔ Lean):
     `_apply_mask_c`, the 8- and 4-byte loops ↔ `wordLoop` at widths 8 and 4
     `_apply_mask_c`, the last loop           ↔ `byteLoop`
     `_apply_mask_c`                          ↔ `applyMaskC`, with a trace `applyMaskTraced`
     `apply_mask`                             ↔ `applyMask` -/
namespace JetSocket.Core
open Word

/-- A string of bytes (`bytes`, `bytearray`). -/
abbrev Bytes := List UInt8

/-- A 4-byte masking key. -/
structure MaskKey where
  k0 : UInt8
  k1 : UInt8
  k2 : UInt8
  k3 : UInt8
  deriving DecidableEq, Repr

def MaskKey.bytes (k : MaskKey) : Bytes := [k.k0, k.k1, k.k2, k.k3]

@[simp] theorem MaskKey.bytes_length (k : MaskKey) : k.bytes.length = 4 := rfl

/-- The key byte that offset `i` is masked with. -/
def MaskKey.byte (k : MaskKey) (i : Nat) : UInt8 := k.bytes.getD (i % 4) 0

/-- Memory by offset from the data pointer. -/
abbrev Mem := Nat → UInt8

def Mem.read (m : Mem) (i w : Nat) : Bytes := (List.range w).map (fun k => m (i + k))

def Mem.write (m : Mem) (i : Nat) (bs : Bytes) : Mem :=
  fun j => if i ≤ j ∧ j < i + bs.length then bs.getD (j - i) 0 else m j

/-- `*(word*)(data + i) ^= mask`, for a word of `w` bytes. -/
def xorWord (order : ByteOrder) (w mask : Nat) (m : Mem) (i : Nat) : Mem :=
  m.write i (store order w (load order (m.read i w) ^^^ mask))

/-- `while i + w <= length: (word) data[i] ^= mask; i += w`, for at most `fuel` turns. -/
def wordLoop (order : ByteOrder) (w mask length : Nat) : Nat → Nat → Mem → Nat × Mem
  | 0, i, m => (i, m)
  | fuel + 1, i, m =>
    if i + w ≤ length then wordLoop order w mask length fuel (i + w) (xorWord order w mask m i)
    else (i, m)

/-- `while i < length: data[i] ^= mask[i % 4]; i += 1`, for at most `fuel` turns. -/
def byteLoop (mask : MaskKey) (length : Nat) : Nat → Nat → Mem → Mem
  | 0, _, m => m
  | fuel + 1, i, m =>
    if i < length then byteLoop mask length fuel (i + 1) (m.write i [m i ^^^ mask.byte i]) else m

/-- `_apply_mask_c`. Each loop gets `length` turns, more than it can take. -/
def applyMaskC (order : ByteOrder) (data : Mem) (length : Nat) (mask : MaskKey) : Mem :=
  let mask32 := load order mask.bytes
  let mask64 := mask32 ||| mask32 <<< 32
  let (i, m) := wordLoop order 8 mask64 length length 0 data
  let (i, m) := wordLoop order 4 mask32 length length i m
  byteLoop mask length length i m

/-- A byte string copied to memory, masked in place, and read back. -/
def maskInPlace (order : ByteOrder) (data : Bytes) (mask : MaskKey) : Bytes :=
  (applyMaskC order (fun j => data.getD j 0) data.length mask).read 0 data.length

/-- `apply_mask`. -/
def applyMask (order : ByteOrder) (data : Bytes) (mask : MaskKey) : Bytes :=
  if data.isEmpty then [] else maskInPlace order data mask

/-! ## The loops -/

/-- Memory masked below offset `i` and untouched from there on. -/
def maskedTo (mask : MaskKey) (data : Mem) (i : Nat) : Mem :=
  fun j => if j < i then data j ^^^ mask.byte j else data j

theorem maskedTo_zero (mask : MaskKey) (data : Mem) : maskedTo mask data 0 = data := by
  funext j
  simp [maskedTo]

theorem byte_add (mask : MaskKey) {i : Nat} (h : i % 4 = 0) (k : Nat) :
    mask.byte (i + k) = mask.byte k := by
  have hmod : (i + k) % 4 = k % 4 := by omega
  simp only [MaskKey.byte, hmod]

theorem xorBytes_getD (as bs : Bytes) (k : Nat) (ha : k < as.length) (hb : k < bs.length) :
    (List.zipWith (· ^^^ ·) as bs).getD k 0 = as.getD k 0 ^^^ bs.getD k 0 := by
  have hz : k < (List.zipWith (· ^^^ ·) as bs).length := by
    rw [List.length_zipWith]
    omega
  rw [List.getD_eq_getElem _ _ hz, List.getD_eq_getElem _ _ ha, List.getD_eq_getElem _ _ hb,
    List.getElem_zipWith]

/-- One word step masks the next `w` offsets, if the word is the key repeated. -/
theorem xorWord_maskedTo (order : ByteOrder) (mask : MaskKey) (data : Mem) (i : Nat) (ms : Bytes)
    (hi : i % 4 = 0) (hms : ∀ k, k < ms.length → ms.getD k 0 = mask.byte k) :
    xorWord order ms.length (load order ms) (maskedTo mask data i) i =
      maskedTo mask data (i + ms.length) := by
  have hread : ((maskedTo mask data i).read i ms.length).length = ms.length := by simp [Mem.read]
  have hword : store order ms.length
      (load order ((maskedTo mask data i).read i ms.length) ^^^ load order ms) =
      List.zipWith (· ^^^ ·) ((maskedTo mask data i).read i ms.length) ms := by
    rw [← load_xor order _ _ hread]
    have hlen : (List.zipWith (· ^^^ ·) ((maskedTo mask data i).read i ms.length) ms).length =
        ms.length := by
      rw [List.length_zipWith, hread]
      exact Nat.min_self _
    exact store_load order _ hlen
  funext j
  simp only [xorWord, Mem.write, store_length]
  by_cases hj : i ≤ j ∧ j < i + ms.length
  · have hk : j - i < ms.length := by omega
    have hji : i + (j - i) = j := by omega
    have hget : ((maskedTo mask data i).read i ms.length).getD (j - i) 0 = data j := by
      rw [List.getD_eq_getElem _ _ (by omega)]
      simp only [Mem.read, List.getElem_map, List.getElem_range, hji]
      simp only [maskedTo, if_neg (Nat.not_lt.mpr hj.1)]
    rw [if_pos hj, hword, xorBytes_getD _ _ _ (by omega) hk, hget, hms _ hk,
      ← byte_add mask hi (j - i), hji]
    simp only [maskedTo, if_pos hj.2]
  · rw [if_neg hj]
    simp only [maskedTo]
    by_cases hlt : j < i
    · rw [if_pos hlt, if_pos (by omega)]
    · rw [if_neg hlt, if_neg (by omega)]

/-- Where the word loop stops, and what it has masked by then. -/
theorem wordLoop_maskedTo (order : ByteOrder) (mask : MaskKey) (data : Mem) (length : Nat)
    (ms : Bytes) (hw : ms.length % 4 = 0) (hpos : 0 < ms.length)
    (hms : ∀ k, k < ms.length → ms.getD k 0 = mask.byte k) :
    ∀ (fuel i : Nat), i % 4 = 0 → i ≤ length → length - i ≤ fuel →
    ∃ i', i' % 4 = 0 ∧ i' ≤ length ∧
      wordLoop order ms.length (load order ms) length fuel i (maskedTo mask data i) =
        (i', maskedTo mask data i') := by
  intro fuel
  induction fuel with
  | zero => intro i hi hle _; exact ⟨i, hi, hle, rfl⟩
  | succ fuel ih =>
    intro i hi hle hfuel
    by_cases h : i + ms.length ≤ length
    · obtain ⟨i', hi', hle', e⟩ := ih (i + ms.length) (by omega) h (by omega)
      refine ⟨i', hi', hle', ?_⟩
      rw [wordLoop, if_pos h, xorWord_maskedTo order mask data i ms hi hms, e]
    · exact ⟨i, hi, hle, by rw [wordLoop, if_neg h]⟩

theorem byteLoop_maskedTo (mask : MaskKey) (data : Mem) (length : Nat) :
    ∀ (fuel i : Nat), i ≤ length → length - i ≤ fuel →
    byteLoop mask length fuel i (maskedTo mask data i) = maskedTo mask data length := by
  intro fuel
  induction fuel with
  | zero =>
    intro i hle hfuel
    have hi : i = length := by omega
    subst hi
    rfl
  | succ fuel ih =>
    intro i hle hfuel
    by_cases h : i < length
    · have hstep : (maskedTo mask data i).write i [maskedTo mask data i i ^^^ mask.byte i] =
          maskedTo mask data (i + 1) := by
        funext j
        simp only [Mem.write, maskedTo, List.length_singleton, Nat.lt_irrefl, if_false]
        by_cases hj : j = i
        · subst hj
          simp
        · rw [if_neg (by omega)]
          by_cases hlt : j < i
          · rw [if_pos hlt, if_pos (by omega)]
          · rw [if_neg hlt, if_neg (by omega)]
      rw [byteLoop, if_pos h, hstep, ih (i + 1) (by omega) (by omega)]
    · have hi : i = length := by omega
      subst hi
      rw [byteLoop, if_neg h]

theorem key_once (mask : MaskKey) : ∀ k, k < mask.bytes.length → mask.bytes.getD k 0 = mask.byte k := by
  intro k hk
  have h4 : k < 4 := hk
  simp only [MaskKey.byte, Nat.mod_eq_of_lt h4]

theorem key_twice (mask : MaskKey) : ∀ k, k < (mask.bytes ++ mask.bytes).length →
    (mask.bytes ++ mask.bytes).getD k 0 = mask.byte k := by
  intro k hk
  have h8 : k < 8 := hk
  match k, h8 with
  | 0, _ | 1, _ | 2, _ | 3, _ | 4, _ | 5, _ | 6, _ | 7, _ => rfl

/-- **The C loop is the byte-wise XOR**, in either byte order, and writes nowhere
outside the data. -/
theorem applyMaskC_maskedTo (order : ByteOrder) (data : Mem) (length : Nat) (mask : MaskKey) :
    applyMaskC order data length mask = maskedTo mask data length := by
  have h64 : load order mask.bytes ||| load order mask.bytes <<< 32 =
      load order (mask.bytes ++ mask.bytes) := (load_twice order mask.bytes).symm
  obtain ⟨i, hi, hle, e⟩ := wordLoop_maskedTo order mask data length (mask.bytes ++ mask.bytes)
    (by simp) (by simp) (key_twice mask) length 0 rfl (Nat.zero_le _) (by omega)
  obtain ⟨j, _, hle', e'⟩ := wordLoop_maskedTo order mask data length mask.bytes
    (by simp) (by simp) (key_once mask) length i hi hle (by omega)
  rw [maskedTo_zero] at e
  have e8 : wordLoop order 8 (load order (mask.bytes ++ mask.bytes)) length length 0 data =
      (i, maskedTo mask data i) := e
  have e4 : wordLoop order 4 (load order mask.bytes) length length i (maskedTo mask data i) =
      (j, maskedTo mask data j) := e'
  simp only [applyMaskC, h64, e8, e4]
  exact byteLoop_maskedTo mask data length length j hle' (by omega)

/-- Masking the same memory twice with one key restores it. -/
theorem maskedTo_maskedTo (mask : MaskKey) (data : Mem) (i : Nat) :
    maskedTo mask (maskedTo mask data i) i = data := by
  funext j
  by_cases hj : j < i
  · simp only [maskedTo, if_pos hj]
    rw [UInt8.xor_assoc, UInt8.xor_self, UInt8.xor_zero]
  · simp [maskedTo, hj]

/-! ## The offsets the loops touch -/

/-- Memory, and the offsets loaded and stored so far, in order. -/
structure Traced where
  mem : Mem
  touched : List Nat

/-- A word step loads and stores the `w` offsets from `i` on. -/
def Traced.xorWord (order : ByteOrder) (w mask : Nat) (t : Traced) (i : Nat) : Traced :=
  { mem := Core.xorWord order w mask t.mem i, touched := t.touched ++ List.range' i w }

/-- A byte step loads and stores offset `i`. -/
def Traced.xorByte (mask : MaskKey) (t : Traced) (i : Nat) : Traced :=
  { mem := t.mem.write i [t.mem i ^^^ mask.byte i], touched := t.touched ++ [i] }

/-- `wordLoop`, traced. -/
def wordLoopTraced (order : ByteOrder) (w mask length : Nat) : Nat → Nat → Traced → Nat × Traced
  | 0, i, t => (i, t)
  | fuel + 1, i, t =>
    if i + w ≤ length then wordLoopTraced order w mask length fuel (i + w) (t.xorWord order w mask i)
    else (i, t)

/-- `byteLoop`, traced. -/
def byteLoopTraced (mask : MaskKey) (length : Nat) : Nat → Nat → Traced → Traced
  | 0, _, t => t
  | fuel + 1, i, t =>
    if i < length then byteLoopTraced mask length fuel (i + 1) (t.xorByte mask i) else t

/-- `_apply_mask_c`, traced. -/
def applyMaskTraced (order : ByteOrder) (data : Mem) (length : Nat) (mask : MaskKey) : Traced :=
  let mask32 := load order mask.bytes
  let mask64 := mask32 ||| mask32 <<< 32
  let (i, t) := wordLoopTraced order 8 mask64 length length 0 ⟨data, []⟩
  let (i, t) := wordLoopTraced order 4 mask32 length length i t
  byteLoopTraced mask length length i t

theorem wordLoop_of_traced (order : ByteOrder) (w mask length : Nat) :
    ∀ (fuel i : Nat) (t : Traced),
    wordLoop order w mask length fuel i t.mem =
      ((wordLoopTraced order w mask length fuel i t).1,
        (wordLoopTraced order w mask length fuel i t).2.mem) := by
  intro fuel
  induction fuel with
  | zero => intro i t; rfl
  | succ fuel ih =>
    intro i t
    by_cases h : i + w ≤ length
    · simp only [wordLoopTraced, wordLoop, if_pos h]
      exact ih (i + w) (t.xorWord order w mask i)
    · simp only [wordLoopTraced, wordLoop, if_neg h]

theorem byteLoopTraced_mem (mask : MaskKey) (length : Nat) : ∀ (fuel i : Nat) (t : Traced),
    (byteLoopTraced mask length fuel i t).mem = byteLoop mask length fuel i t.mem := by
  intro fuel
  induction fuel with
  | zero => intro i t; rfl
  | succ fuel ih =>
    intro i t
    by_cases h : i < length
    · simp only [byteLoopTraced, byteLoop, if_pos h]
      exact ih (i + 1) (t.xorByte mask i)
    · simp only [byteLoopTraced, byteLoop, if_neg h]

/-- The trace changes nothing that the loops compute. -/
theorem applyMaskTraced_mem (order : ByteOrder) (data : Mem) (length : Nat) (mask : MaskKey) :
    (applyMaskTraced order data length mask).mem = applyMaskC order data length mask := by
  have h8 := wordLoop_of_traced order 8 (load order mask.bytes ||| load order mask.bytes <<< 32)
    length length 0 ⟨data, []⟩
  simp only [applyMaskTraced, applyMaskC, byteLoopTraced_mem, h8, wordLoop_of_traced order 4]

/-- A word loop that has touched the offsets below `i` goes on from there, word by word. -/
theorem wordLoopTraced_touched (order : ByteOrder) (w mask length : Nat) :
    ∀ (fuel i : Nat) (t : Traced), i ≤ length → t.touched = List.range i →
    (wordLoopTraced order w mask length fuel i t).1 ≤ length ∧
      (wordLoopTraced order w mask length fuel i t).2.touched =
        List.range (wordLoopTraced order w mask length fuel i t).1 := by
  intro fuel
  induction fuel with
  | zero => intro i t hle ht; exact ⟨hle, ht⟩
  | succ fuel ih =>
    intro i t hle ht
    by_cases h : i + w ≤ length
    · have hword : (t.xorWord order w mask i).touched = List.range (i + w) := by
        simp only [Traced.xorWord, ht, List.range_eq_range']
        rw [← List.range'_append_1, Nat.zero_add]
      rw [wordLoopTraced, if_pos h]
      exact ih (i + w) (t.xorWord order w mask i) h hword
    · rw [wordLoopTraced, if_neg h]
      exact ⟨hle, ht⟩

theorem byteLoopTraced_touched (mask : MaskKey) (length : Nat) :
    ∀ (fuel i : Nat) (t : Traced), i ≤ length → length - i ≤ fuel → t.touched = List.range i →
    (byteLoopTraced mask length fuel i t).touched = List.range length := by
  intro fuel
  induction fuel with
  | zero =>
    intro i t hle hfuel ht
    have hi : i = length := by omega
    rw [byteLoopTraced, ht, hi]
  | succ fuel ih =>
    intro i t hle hfuel ht
    by_cases h : i < length
    · have hbyte : (t.xorByte mask i).touched = List.range (i + 1) := by
        rw [Traced.xorByte, ht, List.range_succ]
      rw [byteLoopTraced, if_pos h]
      exact ih (i + 1) (t.xorByte mask i) h (by omega) hbyte
    · have hi : i = length := by omega
      rw [byteLoopTraced, if_neg h, ht, hi]

/-- **Every offset of the data is touched once, in order, and nothing else.** -/
theorem applyMaskTraced_touched (order : ByteOrder) (data : Mem) (length : Nat) (mask : MaskKey) :
    (applyMaskTraced order data length mask).touched = List.range length := by
  obtain ⟨hle8, h8⟩ := wordLoopTraced_touched order 8
    (load order mask.bytes ||| load order mask.bytes <<< 32) length length 0 ⟨data, []⟩
    (Nat.zero_le _) rfl
  obtain ⟨hle4, h4⟩ := wordLoopTraced_touched order 4 (load order mask.bytes) length length _ _ hle8 h8
  exact byteLoopTraced_touched mask length length _ _ hle4 (by omega) h4

/-! ## Masking a byte string -/

/-- What masking does to a byte string: the byte at `i` XORed with key byte `i % 4`. -/
def xorMask (mask : MaskKey) (data : Bytes) : Bytes := data.mapIdx (fun i b => b ^^^ mask.byte i)

@[simp] theorem xorMask_length (mask : MaskKey) (data : Bytes) :
    (xorMask mask data).length = data.length := by simp [xorMask]

theorem maskInPlace_eq (order : ByteOrder) (data : Bytes) (mask : MaskKey) :
    maskInPlace order data mask = xorMask mask data := by
  simp only [maskInPlace, applyMaskC_maskedTo]
  apply List.ext_getElem
  · simp [Mem.read]
  · intro i h₁ h₂
    have hi : i < data.length := by simpa using h₂
    simp only [Mem.read, List.getElem_map, List.getElem_range, maskedTo, Nat.zero_add, if_pos hi,
      xorMask, List.getElem_mapIdx, List.getD_eq_getElem _ _ hi]

theorem applyMask_eq (order : ByteOrder) (data : Bytes) (mask : MaskKey) :
    applyMask order data mask = xorMask mask data := by
  cases data with
  | nil => rfl
  | cons b rest => exact maskInPlace_eq order (b :: rest) mask

/-- Masking twice with one key restores the data. -/
theorem xorMask_xorMask (mask : MaskKey) (data : Bytes) :
    xorMask mask (xorMask mask data) = data := by
  apply List.ext_getElem
  · simp
  · intro i h₁ h₂
    simp only [xorMask, List.getElem_mapIdx]
    rw [UInt8.xor_assoc, UInt8.xor_self, UInt8.xor_zero]

/-- **Word-at-a-time masking is the specification's**: for either byte order and any
length, byte `j` is XORed with key byte `j % 4`, every byte is loaded and stored
once and no offset from the length on is touched, and masking again restores the data. -/
theorem applyMaskC_spec (order : ByteOrder) (data : Mem) (length : Nat) (mask : MaskKey) :
    (∀ j, j < length →
      applyMaskC order data length mask j = data j ^^^ mask.bytes.getD (j % 4) 0) ∧
    (∀ j, length ≤ j → applyMaskC order data length mask j = data j) ∧
    (applyMaskTraced order data length mask).mem = applyMaskC order data length mask ∧
    (∀ j, j ∈ (applyMaskTraced order data length mask).touched ↔ j < length) ∧
    applyMaskC order (applyMaskC order data length mask) length mask = data ∧
    (∀ bytes : Bytes, applyMask order bytes mask = xorMask mask bytes ∧
      applyMask order (applyMask order bytes mask) mask = bytes) := by
  refine ⟨?_, ?_, applyMaskTraced_mem order data length mask, ?_, ?_, ?_⟩
  · intro j hj
    rw [applyMaskC_maskedTo, maskedTo, if_pos hj, MaskKey.byte]
  · intro j hj
    rw [applyMaskC_maskedTo, maskedTo, if_neg (Nat.not_lt.mpr hj)]
  · intro j
    rw [applyMaskTraced_touched, List.mem_range]
  · rw [applyMaskC_maskedTo, applyMaskC_maskedTo, maskedTo_maskedTo]
  · intro bytes
    refine ⟨applyMask_eq order bytes mask, ?_⟩
    rw [applyMask_eq, applyMask_eq, xorMask_xorMask]

end JetSocket.Core
