import JetSocket.Core.Frame

/- Decoding what was encoded. `decodeReplace` reads back every text that `encodeUtf8` wrote,
   character by character, so decoding with replacement loses nothing of well-formed bytes; what
   it replaces it makes longer only. -/
namespace JetSocket.Core

theorem toNat_ofNat_lt {n : Nat} (h : n < 256) : (UInt8.ofNat n).toNat = n := by
  rw [UInt8.toNat_ofNat']
  exact Nat.mod_eq_of_lt h

theorem ofNat_lt {n : Nat} (h : n < 256) (b : UInt8) : UInt8.ofNat n < b ↔ n < b.toNat := by
  rw [UInt8.lt_iff_toNat_lt, toNat_ofNat_lt h]

theorem ofNat_le {n : Nat} (h : n < 256) (b : UInt8) : UInt8.ofNat n ≤ b ↔ n ≤ b.toNat := by
  rw [UInt8.le_iff_toNat_le, toNat_ofNat_lt h]

theorem le_ofNat {n : Nat} (h : n < 256) (b : UInt8) : b ≤ UInt8.ofNat n ↔ b.toNat ≤ n := by
  rw [UInt8.le_iff_toNat_le, toNat_ofNat_lt h]

theorem ofNat_eq {n : Nat} (h : n < 256) (b : UInt8) : UInt8.ofNat n = b ↔ n = b.toNat := by
  rw [← UInt8.toNat_inj, toNat_ofNat_lt h]

/-- A continuation byte is one by its six bits. -/
theorem isCont_ofNat {n : Nat} (h : n < 256) (lo hi : UInt8) :
    isCont (UInt8.ofNat n) lo hi = (decide (lo.toNat ≤ n) && decide (n ≤ hi.toNat)) := by
  simp only [isCont, le_ofNat h, ofNat_le h]

/-- The four ways a character is encoded. -/
theorem utf8Next_one {v : Nat} (h : v ≤ 0x7f) (rest : Bytes) :
    utf8Next (UInt8.ofNat v :: rest) = (some (Char.ofNat v), 1) := by
  have hv : v < 256 := by omega
  have h0 : UInt8.ofNat v < 0x80 := (ofNat_lt hv _).mpr (Nat.lt_succ_of_le h)
  simp only [utf8Next, if_pos h0, toNat_ofNat_lt hv]

theorem utf8Next_two {b0 b1 : Nat} (h0 : 0xC2 ≤ b0) (h0' : b0 ≤ 0xDF) (h1 : 0x80 ≤ b1)
    (h1' : b1 ≤ 0xBF) (rest : Bytes) :
    utf8Next (UInt8.ofNat b0 :: UInt8.ofNat b1 :: rest) =
      (some (Char.ofNat ((b0 - 0xC0) * 64 + (b1 - 0x80))), 2) := by
  have hb0 : b0 < 256 := by omega
  have hb1 : b1 < 256 := by omega
  have hcont : isCont (UInt8.ofNat b1) = true := by
    rw [isCont_ofNat hb1]
    simp [h1, h1']
  simp [utf8Next, ofNat_lt hb0, le_ofNat hb0, ofNat_le hb0, toNat_ofNat_lt hb0,
    toNat_ofNat_lt hb1, hcont, h0, h0', show ¬ b0 < 128 by omega]

theorem utf8Next_three {b0 b1 b2 : Nat} (h0 : 0xE0 ≤ b0) (h0' : b0 ≤ 0xEF) (h1 : 0x80 ≤ b1)
    (h1' : b1 ≤ 0xBF) (h2 : 0x80 ≤ b2) (h2' : b2 ≤ 0xBF) (hlong : b0 = 0xE0 → 0xA0 ≤ b1)
    (hsurrogate : b0 = 0xED → b1 ≤ 0x9F) (rest : Bytes) :
    utf8Next (UInt8.ofNat b0 :: UInt8.ofNat b1 :: UInt8.ofNat b2 :: rest) =
      (some (Char.ofNat ((b0 - 0xE0) * 4096 + (b1 - 0x80) * 64 + (b2 - 0x80))), 3) := by
  have hb0 : b0 < 256 := by omega
  have hb1 : b1 < 256 := by omega
  have hb2 : b2 < 256 := by omega
  have hfirst : isCont (UInt8.ofNat b1) (if UInt8.ofNat b0 = 0xE0 then 0xA0 else 0x80)
      (if UInt8.ofNat b0 = 0xED then 0x9F else 0xBF) = true := by
    rw [isCont_ofNat hb1]
    simp only [ofNat_eq hb0, Bool.and_eq_true, decide_eq_true_eq]
    constructor
    · split
      · exact hlong ‹_›
      · exact h1
    · split
      · exact hsurrogate ‹_›
      · exact h1'
  have hcont : isCont (UInt8.ofNat b2) = true := by
    rw [isCont_ofNat hb2]
    simp [h2, h2']
  simp [utf8Next, ofNat_lt hb0, le_ofNat hb0, ofNat_le hb0, toNat_ofNat_lt hb0,
    toNat_ofNat_lt hb1, toNat_ofNat_lt hb2, hfirst, hcont, h0, h0', show ¬ b0 < 128 by omega,
    show ¬ b0 ≤ 223 by omega]

theorem utf8Next_four {b0 b1 b2 b3 : Nat} (h0 : 0xF0 ≤ b0) (h0' : b0 ≤ 0xF4) (h1 : 0x80 ≤ b1)
    (h1' : b1 ≤ 0xBF) (h2 : 0x80 ≤ b2) (h2' : b2 ≤ 0xBF) (h3 : 0x80 ≤ b3) (h3' : b3 ≤ 0xBF)
    (hlong : b0 = 0xF0 → 0x90 ≤ b1) (hlast : b0 = 0xF4 → b1 ≤ 0x8F) (rest : Bytes) :
    utf8Next (UInt8.ofNat b0 :: UInt8.ofNat b1 :: UInt8.ofNat b2 :: UInt8.ofNat b3 :: rest) =
      (some (Char.ofNat ((b0 - 0xF0) * 262144 + (b1 - 0x80) * 4096 + (b2 - 0x80) * 64 +
        (b3 - 0x80))), 4) := by
  have hb0 : b0 < 256 := by omega
  have hb1 : b1 < 256 := by omega
  have hb2 : b2 < 256 := by omega
  have hb3 : b3 < 256 := by omega
  have hfirst : isCont (UInt8.ofNat b1) (if UInt8.ofNat b0 = 0xF0 then 0x90 else 0x80)
      (if UInt8.ofNat b0 = 0xF4 then 0x8F else 0xBF) = true := by
    rw [isCont_ofNat hb1]
    simp only [ofNat_eq hb0, Bool.and_eq_true, decide_eq_true_eq]
    constructor
    · split
      · exact hlong ‹_›
      · exact h1
    · split
      · exact hlast ‹_›
      · exact h1'
  have hcont2 : isCont (UInt8.ofNat b2) = true := by
    rw [isCont_ofNat hb2]
    simp [h2, h2']
  have hcont3 : isCont (UInt8.ofNat b3) = true := by
    rw [isCont_ofNat hb3]
    simp [h3, h3']
  simp [utf8Next, ofNat_lt hb0, le_ofNat hb0, ofNat_le hb0, toNat_ofNat_lt hb0,
    toNat_ofNat_lt hb1, toNat_ofNat_lt hb2, toNat_ofNat_lt hb3, hfirst, hcont2, hcont3, h0, h0',
    show ¬ b0 < 128 by omega, show ¬ b0 ≤ 223 by omega, show ¬ b0 ≤ 239 by omega]

/-- **One character** is read back, with as many bytes as it takes. -/
theorem utf8Next_encode (c : Char) (rest : Bytes) :
    utf8Next (String.utf8EncodeChar c ++ rest) = (some c, (String.utf8EncodeChar c).length) := by
  have hc : Char.ofNat c.val.toNat = c := Char.ofNat_toNat c
  have hvalid := c.valid
  simp only [UInt32.isValidChar, Nat.isValidChar] at hvalid
  unfold String.utf8EncodeChar
  generalize c.val.toNat = v at hc hvalid
  dsimp only
  by_cases h1 : v ≤ 0x7f
  · rw [if_pos h1, List.singleton_append, utf8Next_one h1, hc]
    rfl
  · rw [if_neg h1]
    by_cases h2 : v ≤ 0x7ff
    · rw [if_pos h2]
      simp only [List.cons_append, List.nil_append]
      have hbits : (v / 64 % 32 + 192 - 192) * 64 + (v % 64 + 128 - 128) = v := by omega
      rw [utf8Next_two (by omega) (by omega) (by omega) (by omega), hbits, hc]
      rfl
    · rw [if_neg h2]
      by_cases h3 : v ≤ 0xffff
      · rw [if_pos h3]
        simp only [List.cons_append, List.nil_append]
        have hbits : (v / 4096 % 16 + 224 - 224) * 4096 + (v / 64 % 64 + 128 - 128) * 64 +
            (v % 64 + 128 - 128) = v := by omega
        rw [utf8Next_three (by omega) (by omega) (by omega) (by omega) (by omega) (by omega)
          (by omega) (by omega), hbits, hc]
        rfl
      · rw [if_neg h3]
        simp only [List.cons_append, List.nil_append]
        have hbits : (v / 262144 % 8 + 240 - 240) * 262144 + (v / 4096 % 64 + 128 - 128) * 4096 +
            (v / 64 % 64 + 128 - 128) * 64 + (v % 64 + 128 - 128) = v := by omega
        rw [utf8Next_four (by omega) (by omega) (by omega) (by omega) (by omega) (by omega)
          (by omega) (by omega) (by omega) (by omega), hbits, hc]
        rfl

theorem encodeUtf8_cons (c : Char) (cs : List Char) :
    encodeUtf8 (String.ofList (c :: cs)) =
      String.utf8EncodeChar c ++ encodeUtf8 (String.ofList cs) := by
  simp only [encodeUtf8, String.toList_ofList, List.flatMap_cons]

/-- Fuel for as many bytes is fuel for as many characters. -/
theorem decodeReplaceFuel_encode (cs : List Char) : ∀ fuel : Nat,
    (encodeUtf8 (String.ofList cs)).length ≤ fuel →
      decodeReplaceFuel fuel (encodeUtf8 (String.ofList cs)) = cs := by
  induction cs with
  | nil =>
    intro fuel _
    have hnil : encodeUtf8 (String.ofList []) = [] := by simp [encodeUtf8]
    rw [hnil]
    cases fuel <;> rfl
  | cons c cs ih =>
    intro fuel hfuel
    rw [encodeUtf8_cons] at hfuel ⊢
    have hnext := utf8Next_encode c (encodeUtf8 (String.ofList cs))
    obtain ⟨b, bs, hb⟩ := List.exists_cons_of_ne_nil (String.utf8EncodeChar_ne_nil (c := c))
    rw [List.length_append] at hfuel
    cases fuel with
    | zero =>
      rw [hb, List.length_cons] at hfuel
      omega
    | succ fuel =>
      have hrest : (encodeUtf8 (String.ofList cs)).length ≤ fuel := by
        rw [hb, List.length_cons] at hfuel
        omega
      rw [hb, List.cons_append] at hnext ⊢
      simp only [decodeReplaceFuel, hnext, Option.getD_some]
      rw [List.length_cons, List.drop_succ_cons, List.drop_left, ih fuel hrest]

/-- **The round trip**: a text that was encoded is decoded to itself. -/
theorem decodeReplace_encodeUtf8 (text : String) : decodeReplace (encodeUtf8 text) = text := by
  have h := decodeReplaceFuel_encode text.toList (encodeUtf8 text).length
  rw [String.ofList_toList] at h
  unfold decodeReplace
  rw [h (Nat.le_refl _), String.ofList_toList]

end JetSocket.Core
