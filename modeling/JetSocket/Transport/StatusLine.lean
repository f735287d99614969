import JetSocket.Transport.Connect

/- The status line of a handshake response, as bytes, and what a status other than 101
   becomes: `parse_response` raises `ValueError`, and `_perform_handshake` wraps its text,
   but not the status, into a `HandshakeError` (`connect_refused`).

   `parse_response` decodes the header as a whole before it looks for lines. UTF-8 keeps CR
   and LF apart from all other characters (`utf8Next_inv`), so the first line of the text is
   the first line of the bytes (`decodeStrict_firstLine`). -/
namespace JetSocket.Transport
open JetSocket.Core

/-- The bytes before the first CR LF. -/
def firstLine : Bytes → Bytes
  | [] => []
  | b :: rest => if b = 0x0d ∧ rest.head? = some 0x0a then [] else b :: firstLine rest

/-- The status code in the status line, if the line is text and its second word a number. -/
def statusOf (response : Bytes) : Option Int :=
  (decodeStrict (firstLine response)).bind (fun line => (splitAtMost ' ' 2 line)[1]?.bind pyInt)

/-! ## Characters -/

/-- These bytes encode a character, whatever comes behind them. -/
def Encodes (b : UInt8) (cont : Bytes) (c : Char) : Prop :=
  ∀ rest, utf8Next (b :: (cont ++ rest)) = (some c, 1 + cont.length)

/-- A character of several bytes: none of them is an ASCII byte, nor is it an ASCII
character. -/
structure Wide (b : UInt8) (cont : Bytes) (c : Char) : Prop where
  encodes : Encodes b cont c
  first : 0x80 ≤ b.toNat
  others : ∀ x ∈ cont, 0x80 ≤ x.toNat
  value : ∃ v, 0x80 ≤ v ∧ c = Char.ofNat v

section Utf8
variable {b b1 b2 b3 : UInt8} {rest : Bytes}

theorem isCont_iff {lo hi : UInt8} :
    isCont b lo hi = true ↔ lo.toNat ≤ b.toNat ∧ b.toNat ≤ hi.toNat := by
  unfold isCont
  rw [Bool.and_eq_true, decide_eq_true_iff, decide_eq_true_iff]
  rfl

theorem encodes_ascii (h1 : b < 0x80) : Encodes b [] (Char.ofNat b.toNat) := by
  intro r
  simp [utf8Next, h1]

/-- The bound on the second byte rules the overlong sequences out. -/
theorem second_byte {first lo : UInt8} (hrange : first.toNat ≤ b.toNat)
    (hcont : (if b = first then lo else 0x80).toNat ≤ b1.toNat) :
    (b.toNat = first.toNat ∧ lo.toNat ≤ b1.toNat) ∨
      (first.toNat + 1 ≤ b.toNat ∧ 0x80 ≤ b1.toNat) := by
  by_cases he : b = first
  · rw [if_pos he] at hcont
    exact .inl ⟨congrArg UInt8.toNat he, hcont⟩
  · rw [if_neg he] at hcont
    have hne : b.toNat ≠ first.toNat := fun hn => he (UInt8.toNat_inj.mp hn)
    exact .inr ⟨by omega, hcont⟩

theorem wide_two (h1 : ¬ b < 0x80) (h2 : (0xC2 ≤ b && b ≤ 0xDF) = true)
    (c1 : isCont b1 = true) :
    Wide b [b1] (Char.ofNat ((b.toNat - 0xC0) * 64 + (b1.toNat - 0x80))) := by
  have hrange : 0xC2 ≤ b.toNat ∧ b.toNat ≤ 0xDF := isCont_iff.mp h2
  have hc1 : 0x80 ≤ b1.toNat := (isCont_iff.mp c1).1
  refine ⟨fun r => ?_, by omega, ?_, _, ?_, rfl⟩
  · show utf8Next (b :: b1 :: r) = (some _, 2)
    simp only [utf8Next, if_neg h1, if_pos h2, if_pos c1]
  · intro x hx
    rw [List.mem_singleton.mp hx]
    exact hc1
  · omega

theorem wide_three (h1 : ¬ b < 0x80) (h2 : ¬ (0xC2 ≤ b && b ≤ 0xDF) = true)
    (h3 : (0xE0 ≤ b && b ≤ 0xEF) = true)
    (c1 : isCont b1 (if b = 0xE0 then 0xA0 else 0x80) (if b = 0xED then 0x9F else 0xBF) = true)
    (c2 : isCont b2 = true) :
    Wide b [b1, b2] (Char.ofNat ((b.toNat - 0xE0) * 4096 + (b1.toNat - 0x80) * 64 +
      (b2.toNat - 0x80))) := by
  have hrange : 0xE0 ≤ b.toNat ∧ b.toNat ≤ 0xEF := isCont_iff.mp h3
  have hc1 : (b.toNat = 0xE0 ∧ 0xA0 ≤ b1.toNat) ∨ (0xE1 ≤ b.toNat ∧ 0x80 ≤ b1.toNat) :=
    @second_byte b b1 0xE0 0xA0 hrange.1 (isCont_iff.mp c1).1
  have hc2 : 0x80 ≤ b2.toNat := (isCont_iff.mp c2).1
  refine ⟨fun r => ?_, by omega, ?_, _, ?_, rfl⟩
  · show utf8Next (b :: b1 :: b2 :: r) = (some _, 3)
    simp only [utf8Next, if_neg h1, if_neg h2, if_pos h3, if_pos c1, if_pos c2]
  · intro x hx
    rcases List.mem_cons.mp hx with rfl | hx
    · omega
    · rw [List.mem_singleton.mp hx]
      exact hc2
  · omega

theorem wide_four (h1 : ¬ b < 0x80) (h2 : ¬ (0xC2 ≤ b && b ≤ 0xDF) = true)
    (h3 : ¬ (0xE0 ≤ b && b ≤ 0xEF) = true) (h4 : (0xF0 ≤ b && b ≤ 0xF4) = true)
    (c1 : isCont b1 (if b = 0xF0 then 0x90 else 0x80) (if b = 0xF4 then 0x8F else 0xBF) = true)
    (c2 : isCont b2 = true) (c3 : isCont b3 = true) :
    Wide b [b1, b2, b3] (Char.ofNat ((b.toNat - 0xF0) * 262144 + (b1.toNat - 0x80) * 4096 +
      (b2.toNat - 0x80) * 64 + (b3.toNat - 0x80))) := by
  have hrange : 0xF0 ≤ b.toNat ∧ b.toNat ≤ 0xF4 := isCont_iff.mp h4
  have hc1 : (b.toNat = 0xF0 ∧ 0x90 ≤ b1.toNat) ∨ (0xF1 ≤ b.toNat ∧ 0x80 ≤ b1.toNat) :=
    @second_byte b b1 0xF0 0x90 hrange.1 (isCont_iff.mp c1).1
  have hc2 : 0x80 ≤ b2.toNat := (isCont_iff.mp c2).1
  have hc3 : 0x80 ≤ b3.toNat := (isCont_iff.mp c3).1
  refine ⟨fun r => ?_, by omega, ?_, _, ?_, rfl⟩
  · show utf8Next (b :: b1 :: b2 :: b3 :: r) = (some _, 4)
    simp only [utf8Next, if_neg h1, if_neg h2, if_neg h3, if_pos h4, if_pos c1, if_pos c2,
      if_pos c3]
  · intro x hx
    rcases List.mem_cons.mp hx with rfl | hx
    · omega
    rcases List.mem_cons.mp hx with rfl | hx
    · exact hc2
    · rw [List.mem_singleton.mp hx]
      exact hc3
  · omega

/-- The first character of well-formed bytes: one ASCII byte, or a wide sequence. -/
theorem utf8Next_inv {c : Char} {n : Nat} (h : utf8Next (b :: rest) = (some c, n)) :
    ∃ cont rest', rest = cont ++ rest' ∧ n = 1 + cont.length ∧
      ((cont = [] ∧ b < 0x80 ∧ c = Char.ofNat b.toNat) ∨ Wide b cont c) := by
  have hpair : ∀ {c' : Char} {n' : Nat}, (some c', n') = (some c, n) → c = c' ∧ n = n' := by
    intro c' n' he
    obtain ⟨hc, hn⟩ := Prod.mk.inj he
    exact ⟨(Option.some.inj hc).symm, hn.symm⟩
  by_cases h1 : b < 0x80
  · simp only [utf8Next, if_pos h1] at h
    obtain ⟨hc, hn⟩ := hpair h
    exact ⟨[], rest, rfl, hn, .inl ⟨rfl, h1, hc⟩⟩
  by_cases h2 : (0xC2 ≤ b && b ≤ 0xDF) = true
  · cases rest with
    | nil => simp [utf8Next, h1, h2] at h
    | cons b1 rest =>
      by_cases c1 : isCont b1 = true
      · simp only [utf8Next, if_neg h1, if_pos h2, if_pos c1] at h
        obtain ⟨hc, hn⟩ := hpair h
        exact ⟨[b1], rest, rfl, hn, .inr (hc ▸ wide_two h1 h2 c1)⟩
      · simp [utf8Next, h1, h2, c1] at h
  by_cases h3 : (0xE0 ≤ b && b ≤ 0xEF) = true
  · cases rest with
    | nil => simp [utf8Next, h1, h2, h3] at h
    | cons b1 rest =>
      by_cases c1 : isCont b1 (if b = 0xE0 then 0xA0 else 0x80) (if b = 0xED then 0x9F else 0xBF) =
        true
      · cases rest with
        | nil => simp [utf8Next, h1, h2, h3, c1] at h
        | cons b2 rest =>
          by_cases c2 : isCont b2 = true
          · simp only [utf8Next, if_neg h1, if_neg h2, if_pos h3, if_pos c1, if_pos c2] at h
            obtain ⟨hc, hn⟩ := hpair h
            exact ⟨[b1, b2], rest, rfl, hn, .inr (hc ▸ wide_three h1 h2 h3 c1 c2)⟩
          · simp [utf8Next, h1, h2, h3, c1, c2] at h
      · simp [utf8Next, h1, h2, h3, c1] at h
  by_cases h4 : (0xF0 ≤ b && b ≤ 0xF4) = true
  · cases rest with
    | nil => simp [utf8Next, h1, h2, h3, h4] at h
    | cons b1 rest =>
      by_cases c1 : isCont b1 (if b = 0xF0 then 0x90 else 0x80) (if b = 0xF4 then 0x8F else 0xBF) =
        true
      · cases rest with
        | nil => simp [utf8Next, h1, h2, h3, h4, c1] at h
        | cons b2 rest =>
          by_cases c2 : isCont b2 = true
          · cases rest with
            | nil => simp [utf8Next, h1, h2, h3, h4, c1, c2] at h
            | cons b3 rest =>
              by_cases c3 : isCont b3 = true
              · simp only [utf8Next, if_neg h1, if_neg h2, if_neg h3, if_pos h4, if_pos c1, if_pos c2,
                  if_pos c3] at h
                obtain ⟨hc, hn⟩ := hpair h
                exact ⟨[b1, b2, b3], rest, rfl, hn, .inr (hc ▸ wide_four h1 h2 h3 h4 c1 c2 c3)⟩
              · simp [utf8Next, h1, h2, h3, h4, c1, c2, c3] at h
          · simp [utf8Next, h1, h2, h3, h4, c1, c2] at h
      · simp [utf8Next, h1, h2, h3, h4, c1] at h
  · simp [utf8Next, h1, h2, h3, h4] at h

/-- The number of a character, which is NUL for a number that no character has. -/
theorem toNat_ofNat_cases (n : Nat) :
    (n.isValidChar ∧ (Char.ofNat n).toNat = n) ∨ (¬ n.isValidChar ∧ (Char.ofNat n).toNat = 0) := by
  unfold Char.ofNat
  by_cases hn : n.isValidChar
  · rw [dif_pos hn]
    exact .inl ⟨hn, rfl⟩
  · rw [dif_neg hn]
    exact .inr ⟨hn, rfl⟩

/-- An ASCII character other than NUL is no wide one. -/
theorem Wide.ne {cont : Bytes} {c : Char} (h : Wide b cont c) {d : Char} (hpos : 0 < d.toNat)
    (hlt : d.toNat < 0x80) : c ≠ d := by
  obtain ⟨v, hv, rfl⟩ := h.value
  rintro rfl
  have hnat := toNat_ofNat_cases v
  omega

end Utf8

/-! ## Decoding, character by character -/

theorem decodeStrictFuel_eq {data : Bytes} {fuel fuel' : Nat} (h : data.length ≤ fuel)
    (h' : data.length ≤ fuel') : decodeStrictFuel fuel data = decodeStrictFuel fuel' data := by
  induction fuel generalizing fuel' data with
  | zero =>
    obtain rfl := List.length_eq_zero_iff.mp (Nat.le_zero.mp h)
    cases fuel' <;> rfl
  | succ fuel ih =>
    cases data with
    | nil => cases fuel' <;> rfl
    | cons b rest =>
      obtain ⟨fuel', rfl⟩ : ∃ m, fuel' = m + 1 := ⟨fuel' - 1, by
        rw [List.length_cons] at h'
        omega⟩
      rw [decodeStrictFuel, decodeStrictFuel]
      cases hn : utf8Next (b :: rest) with
      | mk c n =>
        cases c with
        | none => rfl
        | some c =>
          obtain ⟨cont, rest', rfl, rfl, -⟩ := utf8Next_inv hn
          have hdrop : (b :: (cont ++ rest')).drop (1 + cont.length) = rest' := by
            rw [Nat.add_comm, List.drop_succ_cons, List.drop_left]
          dsimp only
          rw [hdrop]
          rw [List.length_cons, List.length_append] at h h'
          have hih : decodeStrictFuel fuel rest' = decodeStrictFuel fuel' rest' :=
            ih (by omega) (by omega)
          rw [hih]

/-- The first character is decoded, then the rest. -/
theorem decodeStrict_cons {b : UInt8} {cont rest : Bytes} {c : Char} (h : Encodes b cont c) :
    decodeStrict (b :: (cont ++ rest)) = (decodeStrict rest).map (fun cs => c :: cs) := by
  have hdrop : (b :: (cont ++ rest)).drop (1 + cont.length) = rest := by
    rw [Nat.add_comm, List.drop_succ_cons, List.drop_left]
  have hlen : rest.length ≤ (cont ++ rest).length := by
    rw [List.length_append]
    omega
  show decodeStrictFuel ((cont ++ rest).length + 1) (b :: (cont ++ rest)) = _
  rw [decodeStrictFuel, h rest]
  dsimp only
  rw [hdrop, decodeStrictFuel_eq hlen (Nat.le_refl _)]
  rfl

/-- The cases of a decoded text. -/
theorem decodeStrict_inv {b : UInt8} {rest : Bytes} {text : Text}
    (h : decodeStrict (b :: rest) = some text) :
    ∃ cont rest' c text', rest = cont ++ rest' ∧ text = c :: text' ∧
      decodeStrict rest' = some text' ∧
      ((cont = [] ∧ b < 0x80 ∧ c = Char.ofNat b.toNat) ∨ Wide b cont c) := by
  cases hn : utf8Next (b :: rest) with
  | mk c n =>
    cases c with
    | none =>
      have hnone : decodeStrict (b :: rest) = none := by
        show decodeStrictFuel (rest.length + 1) (b :: rest) = none
        rw [decodeStrictFuel, hn]
      rw [hnone] at h
      cases h
    | some c =>
      obtain ⟨cont, rest', rfl, -, hc⟩ := utf8Next_inv hn
      have hencodes : Encodes b cont c := by
        rcases hc with ⟨rfl, hb, rfl⟩ | hwide
        · exact encodes_ascii hb
        · exact hwide.encodes
      rw [decodeStrict_cons hencodes] at h
      obtain ⟨text', htext', rfl⟩ := Option.map_eq_some_iff.mp h
      exact ⟨cont, rest', c, text', rfl, rfl, htext', hc⟩

/-- The number of an ASCII character. -/
theorem toNat_ascii {b : UInt8} (h : b < 0x80) : (Char.ofNat b.toNat).toNat = b.toNat := by
  have hlt : b.toNat < 0x80 := h
  have hvalid : b.toNat.isValidChar := Or.inl (by omega)
  rcases toNat_ofNat_cases b.toNat with ⟨-, hnat⟩ | ⟨hn, -⟩
  · exact hnat
  · exact (hn hvalid).elim

/-- A text begins with an ASCII character where its bytes begin with that byte. -/
theorem decodeStrict_head {data : Bytes} {text : Text} (h : decodeStrict data = some text)
    {d : UInt8} (hpos : 0 < d.toNat) (hlt : d < 0x80) :
    text.head? = some (Char.ofNat d.toNat) ↔ data.head? = some d := by
  have hd : (Char.ofNat d.toNat).toNat = d.toNat := toNat_ascii hlt
  cases data with
  | nil =>
    obtain rfl : text = [] := (Option.some.inj h).symm
    simp
  | cons b rest =>
    obtain ⟨cont, rest', c, text', -, rfl, -, hc⟩ := decodeStrict_inv h
    simp only [List.head?_cons, Option.some.injEq]
    rcases hc with ⟨-, hb, rfl⟩ | hwide
    · constructor
      · intro he
        have hnat : (Char.ofNat b.toNat).toNat = (Char.ofNat d.toNat).toNat :=
          congrArg Char.toNat he
        rw [toNat_ascii hb, hd] at hnat
        exact UInt8.toNat_inj.mp hnat
      · rintro rfl
        rfl
    · have hlt' : d.toNat < 0x80 := hlt
      constructor
      · intro he
        exact (hwide.ne (by rw [hd]; exact hpos) (by rw [hd]; exact hlt') he).elim
      · rintro rfl
        have hfirst := hwide.first
        omega

/-! ## Lines -/

/-- The characters before the first CR LF. -/
def firstLineText : Text → Text
  | [] => []
  | c :: rest => if c = '\r' ∧ rest.head? = some '\n' then [] else c :: firstLineText rest

/-- `split` finds the first line. -/
theorem head_splitFrom (piece text : Text) :
    (splitFrom "\r\n".toList 0 piece text).headD [] = piece.reverse ++ firstLineText text := by
  induction text generalizing piece with
  | nil =>
    rw [splitFrom, firstLineText, List.append_nil]
    rfl
  | cons c rest ih =>
    have hcrlf : "\r\n".toList.isPrefixOf (c :: rest) = true ↔ c = '\r' ∧ rest.head? = some '\n' := by
      show ['\r', '\n'].isPrefixOf (c :: rest) = true ↔ _
      rw [List.isPrefixOf_iff_prefix, List.cons_prefix_cons]
      cases rest with
      | nil =>
        constructor
        · rintro ⟨-, h⟩
          exact (List.cons_ne_nil _ _ (List.prefix_nil.mp h)).elim
        · rintro ⟨-, h⟩
          cases h
      | cons d rest =>
        rw [List.cons_prefix_cons]
        constructor
        · rintro ⟨rfl, rfl, -⟩
          exact ⟨rfl, rfl⟩
        · rintro ⟨rfl, h⟩
          exact ⟨rfl, (Option.some.inj h).symm, List.nil_prefix⟩
    rw [splitFrom, firstLineText]
    by_cases h : c = '\r' ∧ rest.head? = some '\n'
    · rw [if_pos (hcrlf.mpr h), if_pos h, List.append_nil]
      rfl
    · rw [if_neg (fun hp => h (hcrlf.mp hp)), if_neg h, ih, List.reverse_cons, List.append_assoc]
      rfl

/-- No byte of a wide character begins a line end. -/
theorem firstLine_append {wide rest : Bytes} (h : ∀ x ∈ wide, 0x80 ≤ x.toNat) :
    firstLine (wide ++ rest) = wide ++ firstLine rest := by
  induction wide with
  | nil => rfl
  | cons b wide ih =>
    have hb : b ≠ 0x0d := by
      rintro rfl
      have hle := h 0x0d List.mem_cons_self
      have h13 : (0x0d : UInt8).toNat = 13 := rfl
      omega
    rw [List.cons_append, firstLine, if_neg (fun hc => hb hc.1),
      ih (fun x hx => h x (List.mem_cons_of_mem b hx)), List.cons_append]

/-- **The first line decodes to the first line.** -/
theorem decodeStrict_firstLine {data : Bytes} {text : Text} (h : decodeStrict data = some text) :
    decodeStrict (firstLine data) = some (firstLineText text) := by
  generalize hn : data.length = n
  induction n using Nat.strongRecOn generalizing data text with
  | _ n ih =>
    cases data with
    | nil =>
      obtain rfl : text = [] := (Option.some.inj h).symm
      rfl
    | cons b rest =>
      obtain ⟨cont, rest', c, text', rfl, rfl, htext', hc⟩ := decodeStrict_inv h
      have hih : decodeStrict (firstLine rest') = some (firstLineText text') := by
        refine ih rest'.length ?_ htext' rfl
        rw [← hn, List.length_cons, List.length_append]
        omega
      have hlf : text'.head? = some '\n' ↔ rest'.head? = some 0x0a :=
        decodeStrict_head htext' (d := 0x0a) (by decide) (by decide)
      rcases hc with ⟨rfl, hb, rfl⟩ | hwide
      · have hcr : Char.ofNat b.toNat = '\r' ↔ b = 0x0d := by
          have hhead := decodeStrict_head h (d := 0x0d) (by decide) (by decide)
          simpa using hhead
        rw [List.nil_append] at hn ⊢
        rw [firstLine, firstLineText]
        by_cases hline : b = 0x0d ∧ rest'.head? = some 0x0a
        · rw [if_pos hline, if_pos ⟨hcr.mpr hline.1, hlf.mpr hline.2⟩]
          rfl
        · rw [if_neg hline, if_neg (fun ht => hline ⟨hcr.mp ht.1, hlf.mp ht.2⟩)]
          have hcons : decodeStrict (b :: ([] ++ firstLine rest')) = _ :=
            decodeStrict_cons (encodes_ascii hb)
          rw [List.nil_append] at hcons
          rw [hcons, hih]
          rfl
      · have hne : c ≠ '\r' := hwide.ne (by decide) (by decide)
        have hbytes : ∀ x ∈ b :: cont, 0x80 ≤ x.toNat := by
          intro x hx
          rcases List.mem_cons.mp hx with rfl | hx
          · exact hwide.first
          · exact hwide.others x hx
        rw [← List.cons_append, firstLine_append hbytes, firstLineText, if_neg (fun ht => hne ht.1),
          List.cons_append, decodeStrict_cons hwide.encodes, hih]
        rfl

/-! ## The response -/

/-- What `find` finds stands there. -/
theorem findSub_spec (sub : Bytes) {data : Bytes} {i : Nat} (h : findSub sub data = some i) :
    ∃ tail, data = data.take i ++ (sub ++ tail) := by
  induction data generalizing i with
  | nil =>
    unfold findSub at h
    split at h
    · rename_i hsub
      obtain rfl := Option.some.inj h
      refine ⟨[], ?_⟩
      rw [List.isEmpty_iff] at hsub
      rw [hsub]
      rfl
    · cases h
  | cons b rest ih =>
    rw [findSub] at h
    split at h
    · rename_i hcrlf
      obtain rfl := Option.some.inj h
      obtain ⟨tail, htail⟩ := List.isPrefixOf_iff_prefix.mp hcrlf
      exact ⟨tail, htail.symm⟩
    · obtain ⟨j, hj, rfl⟩ := Option.map_eq_some_iff.mp h
      obtain ⟨tail, htail⟩ := ih hj
      refine ⟨tail, ?_⟩
      rw [List.take_succ_cons, List.cons_append, ← htail]

/-- What is found is found in the part that ends with it. -/
theorem findSub_take (sub : Bytes) : ∀ {data : Bytes} {i : Nat}, findSub sub data = some i →
    findSub sub (data.take (i + sub.length)) = some i
  | [], i, h => by
    rw [List.take_nil]
    exact h
  | b :: rest, i, h => by
    rw [findSub] at h
    split at h
    · rename_i hsub
      obtain rfl := Option.some.inj h
      obtain ⟨tail, htail⟩ := List.isPrefixOf_iff_prefix.mp hsub
      rw [← htail, Nat.zero_add, List.take_left]
      cases sub with
      | nil => rfl
      | cons s sub => simp [findSub]
    · rename_i hsub
      obtain ⟨j, hj, rfl⟩ := Option.map_eq_some_iff.mp h
      have hshort : ¬ sub.isPrefixOf (b :: rest.take (j + sub.length)) = true := by
        intro hshort
        apply hsub
        apply List.isPrefixOf_iff_prefix.mpr
        have hbegin : b :: rest.take (j + sub.length) <+: b :: rest :=
          List.cons_prefix_cons.mpr ⟨rfl, List.take_prefix _ _⟩
        exact (List.isPrefixOf_iff_prefix.mp hshort).trans hbegin
      rw [show j + 1 + sub.length = j + sub.length + 1 by omega, List.take_succ_cons, findSub,
        if_neg hshort, findSub_take sub hj]
      rfl

/-- The header ends in front of a CR LF, so its first line is that of the response. -/
theorem firstLine_header (header tail : Bytes) :
    firstLine (header ++ 0x0d :: 0x0a :: tail) = firstLine header := by
  induction header with
  | nil => rfl
  | cons b header ih =>
    rw [List.cons_append, firstLine, firstLine, ih]
    cases header with
    | nil => simp
    | cons d header => rfl

/-- The status code is the number in the first line of the decoded header. -/
theorem statusOf_header {response : Bytes} {i : Nat} {text : Text}
    (hfind : findSub headerEnd response = some i)
    (hdecode : decodeStrict (response.take i) = some text) :
    statusOf response =
      (splitAtMost ' ' 2 ((split "\r\n".toList text).headD []))[1]?.bind pyInt := by
  obtain ⟨tail, htail⟩ := findSub_spec headerEnd hfind
  have hline : firstLine response = firstLine (response.take i) := by
    have hhead := firstLine_header (response.take i) (0x0d :: 0x0a :: tail)
    rwa [show response.take i ++ 0x0d :: 0x0a :: 0x0d :: 0x0a :: tail = response from
      htail.symm] at hhead
  have hsplit : (split "\r\n".toList text).headD [] = firstLineText text := head_splitFrom [] text
  unfold statusOf
  rw [hline, decodeStrict_firstLine hdecode, Option.bind_some, hsplit]

/-- A response that is accepted has status 101. -/
theorem statusOf_ok {acceptKey : String → String} {h : Handshake} {response : Bytes}
    {result : HandshakeResult} (hok : h.parseResponse acceptKey response = .ok result) :
    statusOf response = some 101 := by
  unfold Handshake.parseResponse at hok
  split at hok
  · rename_i i hfind
    split at hok
    · rename_i text hdecode
      dsimp only at hok
      split at hok
      · rename_i statusText hword
        split at hok
        · rename_i status hstatus
          have h101 : status = 101 := by
            by_contra hne
            rw [if_pos hne] at hok
            cases hok
          rw [statusOf_header hfind hdecode, hword, Option.bind_some, hstatus, h101]
        · cases hok
      · cases hok
    · cases hok
  · cases hok

variable {Z : Zlib} {acceptKey : String → String} {config : HandshakeConfig} {status : Int}

/-- Any other status becomes a `HandshakeError` without a status code. -/
theorem performHandshake_refused {h : Handshake} {data later : Bytes}
    (hs : statusOf data = some status) (hne : status ≠ 101) :
    ∃ msg, performHandshake Z acceptKey config h (.received data later) =
      .error (.handshakeError msg none) := by
  unfold performHandshake
  dsimp only
  cases hp : h.parseResponse acceptKey data with
  | error msg => exact ⟨msg, rfl⟩
  | ok result =>
    have h101 := statusOf_ok hp
    rw [hs] at h101
    exact (hne (Option.some.inj h101)).elim

/-- `connect` raises that error. -/
theorem connect_refused {urlparse : UrlParse} {key uri : String} {net : Network}
    {t : AsyncTransport Z} {u : WebSocketURI} {data later : Bytes} (hc : t.connected = false)
    (hu : parseUri urlparse uri = .ok u)
    (hd : (resolveDns u.host net.lookup).bind (tryAddresses u net.dial none) = .ok ())
    (hr : net.response = .received data later) (hs : statusOf data = some status)
    (hne : status ≠ 101) :
    ∃ msg, (t.connect urlparse acceptKey config key uri net).2 = .raised (.handshakeError msg none) := by
  obtain ⟨msg, hmsg⟩ : ∃ msg, performHandshake Z acceptKey config (handshake config key u)
      net.response = .error (.handshakeError msg none) := by
    rw [hr]
    exact performHandshake_refused hs hne
  refine ⟨msg, ?_⟩
  unfold AsyncTransport.connect
  rw [if_neg (by rw [hc]; simp), hu]
  dsimp only
  rw [hd]
  dsimp only
  rw [hmsg]

end JetSocket.Transport
