import JetSocket.Core.Utf8
import JetSocket.Lib.Lines
import JetSocket.Transport.DeflateParams
import JetSocket.Transport.HandshakeSound

/- A header as it is written, and as it is read off the bytes (`_core.pyx`, `Handshake`).

   Written, a header is its lines with CR LF between them, and an empty line behind the last
   (`block`). It is read in three steps: the first empty line ends it (`response.find`), what stands
   before is decoded, and the text is cut at CR LF (`headerText`, `headerLines`). The steps are
   those of `Lines`: UTF-8 has the byte of LF in no character but LF, so the lines keep apart in the
   bytes where they do in the text.

   Results:
     `read_block`    — what is read of a header is what was written, whatever comes behind it.
     `fieldOf_block` — a field of it is the last one that was written under its name.
     `loose_answer`  — an answer that is taken for good, and keeps to nothing that was offered. -/
namespace JetSocket.Transport
open JetSocket.Core

/-! ## The two steps of the reader -/

theorem findSub_eq_find (sub data : Bytes) : findSub sub data = Lines.find sub data := by
  induction data with
  | nil => rfl
  | cons b rest ih => rw [findSub, Lines.find, ih]

theorem splitFrom_eq_cutFrom (piece text : Text) :
    splitFrom "\r\n".toList 0 piece text = Lines.cutFrom '\r' '\n' piece text := by
  fun_induction Lines.cutFrom '\r' '\n' piece text with
  | case1 piece => rfl
  | case2 piece c rest hmark ih =>
    have hmark' : "\r\n".toList.isPrefixOf (c :: rest) = true := hmark
    rw [splitFrom, if_pos hmark', ← ih]
    cases rest with
    | nil =>
      obtain ⟨more, hmore⟩ := List.isPrefixOf_iff_prefix.mp hmark
      simp at hmore
    | cons d rest => rfl
  | case3 piece c rest hmark ih =>
    have hmark' : ¬ "\r\n".toList.isPrefixOf (c :: rest) = true := hmark
    rw [splitFrom, if_neg hmark', ih]

theorem split_eq_cut (text : Text) : split "\r\n".toList text = Lines.cut '\r' '\n' text :=
  splitFrom_eq_cutFrom [] text

/-! ## The bytes of a text -/

/-- `text.encode("utf-8")`. -/
def encodeText (text : Text) : Bytes := text.flatMap String.utf8EncodeChar

theorem encodeText_append (text more : Text) :
    encodeText (text ++ more) = encodeText text ++ encodeText more :=
  List.flatMap_append

theorem decodeStrict_encodeText (text : Text) : decodeStrict (encodeText text) = some text := by
  induction text with
  | nil => rfl
  | cons c text ih =>
    obtain ⟨b, cont, hb⟩ := List.exists_cons_of_ne_nil (String.utf8EncodeChar_ne_nil (c := c))
    have hencodes : Encodes b cont c := by
      intro rest
      have hnext := utf8Next_encode c rest
      rw [hb, List.cons_append, List.length_cons] at hnext
      rw [hnext, Nat.add_comm]
    have hbytes : encodeText (c :: text) = b :: (cont ++ encodeText text) := by
      unfold encodeText
      rw [List.flatMap_cons, hb, List.cons_append]
    rw [hbytes, decodeStrict_cons hencodes, ih]
    rfl

/-- The byte of LF is in no other character. -/
theorem eq_of_mem_encodeChar {c : Char} (h : (0x0a : UInt8) ∈ String.utf8EncodeChar c) :
    c = '\n' := by
  obtain ⟨b, cont, hb⟩ := List.exists_cons_of_ne_nil (String.utf8EncodeChar_ne_nil (c := c))
  have hnext := utf8Next_encode c []
  rw [List.append_nil, hb] at hnext
  rw [hb] at h
  obtain ⟨cont', rest', hcont, hn, hc⟩ := utf8Next_inv hnext
  have hrest : rest' = [] := by
    have hlen := congrArg List.length hcont
    rw [List.length_append] at hlen
    rw [List.length_cons] at hn
    exact List.length_eq_zero_iff.mp (by omega)
  rw [hrest, List.append_nil] at hcont
  rcases hc with ⟨hnil, -, hchar⟩ | hwide
  · rw [hcont, hnil, List.mem_singleton] at h
    rw [hchar, ← h]
    rfl
  · -- every byte of a wide character is above ASCII
    obtain h | h := List.mem_cons.mp h
    · have hfirst := hwide.first
      rw [← h] at hfirst
      exact absurd hfirst (by decide)
    · exact absurd (hwide.others _ (hcont ▸ h)) (by decide)

theorem not_mem_encodeText {line : Text} (h : '\n' ∉ line) : (0x0a : UInt8) ∉ encodeText line := by
  intro hmem
  obtain ⟨c, hc, hb⟩ := List.mem_flatMap.mp hmem
  exact h (eq_of_mem_encodeChar hb ▸ hc)

theorem encodeText_ne_nil {line : Text} (h : line ≠ []) : encodeText line ≠ [] := by
  obtain ⟨c, rest, rfl⟩ := List.exists_cons_of_ne_nil h
  unfold encodeText
  rw [List.flatMap_cons]
  exact List.append_ne_nil_of_left_ne_nil String.utf8EncodeChar_ne_nil _

theorem encodeText_intercalate (lines : List Text) :
    encodeText (['\r', '\n'].intercalate lines) =
      [0x0d, 0x0a].intercalate (lines.map encodeText) := by
  induction lines with
  | nil => rfl
  | cons line lines ih =>
    cases lines with
    | nil => rw [List.intercalate_singleton, List.map_singleton, List.intercalate_singleton]
    | cons next lines =>
      rw [List.intercalate_cons_cons, encodeText_append, encodeText_append, ih]
      exact List.intercalate_cons_cons.symm

/-! ## A header -/

/-- The bytes of a header. -/
def block (lines : List Text) : Bytes :=
  encodeText (['\r', '\n'].intercalate lines) ++ headerEnd

/-- A line of a header. -/
def IsLine (line : Text) : Prop := line ≠ [] ∧ '\n' ∉ line

variable {lines : List Text}

theorem findSub_block (hne : lines ≠ []) (h : ∀ line ∈ lines, IsLine line) (later : Bytes) :
    findSub headerEnd (block lines ++ later) =
      some (encodeText (['\r', '\n'].intercalate lines)).length := by
  have hbytes : ∀ l ∈ lines.map encodeText, l ≠ [] ∧ (0x0a : UInt8) ∉ l := by
    intro l hl
    obtain ⟨line, hline, rfl⟩ := List.mem_map.mp hl
    exact ⟨encodeText_ne_nil (h line hline).1, not_mem_encodeText (h line hline).2⟩
  have hblank := Lines.find_blank (a := (0x0d : UInt8)) (by decide)
    (List.map_eq_nil_iff.not.mpr hne) hbytes later
  unfold block
  rw [findSub_eq_find, encodeText_intercalate, List.append_assoc]
  exact hblank

theorem take_block (lines : List Text) (later : Bytes) :
    (block lines ++ later).take (encodeText (['\r', '\n'].intercalate lines)).length =
      encodeText (['\r', '\n'].intercalate lines) := by
  unfold block
  rw [List.append_assoc, List.take_left]

/-- The text of the header is the lines. -/
theorem headerText_block (hne : lines ≠ []) (h : ∀ line ∈ lines, IsLine line) (later : Bytes) :
    headerText (block lines ++ later) = some (['\r', '\n'].intercalate lines) := by
  unfold headerText
  rw [findSub_block hne h, Option.bind_some, take_block, decodeStrict_encodeText]

/-- **A header is read back** as it was written, line by line. -/
theorem read_block (hne : lines ≠ []) (h : ∀ line ∈ lines, IsLine line) (later : Bytes) :
    (headerText (block lines ++ later)).map (split "\r\n".toList) = some lines := by
  rw [headerText_block hne h, Option.map_some, split_eq_cut,
    Lines.cut_intercalate (by decide) hne (fun line hline => (h line hline).2)]

theorem headerLines_block {first : Text} {rest : List Text}
    (h : ∀ line ∈ first :: rest, IsLine line) (later : Bytes) :
    headerLines (block (first :: rest) ++ later) = rest := by
  have hread := read_block (List.cons_ne_nil _ _) h later
  rw [headerText_block (List.cons_ne_nil _ _) h, Option.map_some] at hread
  unfold headerLines
  rw [headerText_block (List.cons_ne_nil _ _) h, Option.getD_some, Option.some.inj hread,
    List.tail_cons]

/-- The status is read off the first line. -/
theorem statusOf_block {first : Text} {rest : List Text}
    (h : ∀ line ∈ first :: rest, IsLine line) (later : Bytes) :
    statusOf (block (first :: rest) ++ later) = (splitAtMost ' ' 2 first)[1]?.bind pyInt := by
  have hne : first :: rest ≠ [] := List.cons_ne_nil _ _
  have hdecode := decodeStrict_encodeText (['\r', '\n'].intercalate (first :: rest))
  rw [← take_block _ later] at hdecode
  have hread := read_block hne h later
  rw [headerText_block hne h, Option.map_some] at hread
  rw [statusOf_header (findSub_block hne h later) hdecode, Option.some.inj hread, List.headD_cons]

/-! ## Its fields -/

/-- A header field, with blanks around its value. -/
structure Field where
  name : Text
  before : Text
  value : Text
  after : Text
  named : ':' ∉ name
  oneLine : '\n' ∉ name ++ (before ++ (value ++ after))
  blank : ∀ c ∈ before ++ after, isSpace c = true

namespace Field

def line (f : Field) : Text := f.name ++ ':' :: (f.before ++ (f.value ++ f.after))

theorem isLine (f : Field) : IsLine f.line := by
  refine ⟨List.append_ne_nil_of_right_ne_nil _ (List.cons_ne_nil _ _), ?_⟩
  have hone := f.oneLine
  unfold line
  simp only [List.mem_append, List.mem_cons] at hone ⊢
  rintro (hn | hc | hrest)
  · exact hone (.inl hn)
  · exact absurd hc (by decide)
  · exact hone (.inr hrest)

/-- What the field is, to a reader that looks for `name`. -/
def valueFor (name : Text) (f : Field) : Option Text :=
  if lower (strip f.name) = name then some (strip f.value) else none

theorem valueOf_line (f : Field) (name : Text) : valueOf name f.line = f.valueFor name := by
  have hparts : splitAtMost ':' 1 f.line = [f.name, f.before ++ (f.value ++ f.after)] := by
    have hspan := span_of_not_mem f.named (':' :: (f.before ++ (f.value ++ f.after))) (by simp)
    unfold line
    rw [splitAtMost, hspan]
    rfl
  have hvalue : strip (f.before ++ (f.value ++ f.after)) = strip f.value :=
    Trim.trim_append (fun c hc => f.blank c (List.mem_append_left _ hc))
      (fun c hc => f.blank c (List.mem_append_right _ hc)) _
  unfold valueOf valueFor
  rw [hparts]
  dsimp only
  rw [hvalue]

/-- A field with one space before its value. -/
def plain (name value : Text) (named : ':' ∉ name) (oneLine : '\n' ∉ name ++ value) : Field where
  name
  before := [' ']
  value
  after := []
  named
  oneLine := by
    rw [List.append_nil, List.mem_append, List.mem_append, List.mem_singleton]
    rw [List.mem_append] at oneLine
    rintro (hn | hs | hv)
    · exact oneLine (.inl hn)
    · exact absurd hs (by decide)
    · exact oneLine (.inr hv)
  blank := List.all_eq_true.mp rfl

end Field

/-- The last field with the name. -/
def lastField (fields : List Field) (name : String) : Option Text :=
  fields.reverse.findSome? (Field.valueFor name.toList)

/-- **A field is read back**: the last one that was written under its name. -/
theorem fieldOf_block {first : Text} (hfirst : IsLine first) (fields : List Field) (later : Bytes)
    (name : String) :
    fieldOf (block (first :: fields.map Field.line) ++ later) name = lastField fields name := by
  have hlines : ∀ line ∈ first :: fields.map Field.line, IsLine line := by
    intro line hline
    obtain rfl | hline := List.mem_cons.mp hline
    · exact hfirst
    · obtain ⟨f, -, rfl⟩ := List.mem_map.mp hline
      exact f.isLine
  unfold fieldOf lastField
  rw [headerLines_block hlines, ← List.map_reverse, List.findSome?_map]
  congr 1
  funext f
  exact f.valueOf_line _

/-! ## Fields given as pairs -/

/-- The last value with the name. -/
def lastValue (headers : List (Text × Text)) (name : String) : Option Text :=
  headers.reverse.findSome? (fun p =>
    if lower (strip p.1) = name.toList then some (strip p.2) else none)

theorem lastValue_append (headers more : List (Text × Text)) (name : String) :
    lastValue (headers ++ more) name = (lastValue more name).or (lastValue headers name) := by
  unfold lastValue
  rw [List.reverse_append, List.findSome?_append]

theorem lastValue_eq_none {headers : List (Text × Text)} {name : String}
    (h : ∀ p ∈ headers, lower (strip p.1) ≠ name.toList) : lastValue headers name = none := by
  unfold lastValue
  rw [List.findSome?_eq_none_iff]
  intro p hp
  exact if_neg (h p (List.mem_reverse.mp hp))

/-- A pair that can stand in one line. -/
def IsHeader (p : Text × Text) : Prop := ':' ∉ p.1 ∧ '\n' ∉ p.1 ++ p.2

def fieldsOf (headers : List (Text × Text)) (h : ∀ p ∈ headers, IsHeader p) : List Field :=
  headers.pmap (fun p hp => Field.plain p.1 p.2 hp.1 hp.2) h

theorem lines_fieldsOf (headers : List (Text × Text)) (h : ∀ p ∈ headers, IsHeader p) :
    (fieldsOf headers h).map Field.line = headers.map (fun p => p.1 ++ ':' :: ' ' :: p.2) := by
  unfold fieldsOf
  rw [List.map_pmap, List.pmap_eq_map_attach]
  conv_rhs => rw [← List.attach_map_subtype_val headers, List.map_map]
  congr 1
  funext p
  simp [Field.line, Field.plain]

theorem lastField_fieldsOf (headers : List (Text × Text)) (h : ∀ p ∈ headers, IsHeader p)
    (name : String) : lastField (fieldsOf headers h) name = lastValue headers name := by
  induction headers using List.reverseRecOn with
  | nil => rfl
  | append_singleton headers p ih =>
    have hinit : ∀ q ∈ headers, IsHeader q := fun q hq => h q (List.mem_append_left _ hq)
    have hsplit : fieldsOf (headers ++ [p]) h =
        fieldsOf headers hinit ++ [Field.plain p.1 p.2 (h p (by simp)).1 (h p (by simp)).2] :=
      List.pmap_append ..
    have hlast : lastField (fieldsOf headers hinit) name = lastValue headers name := ih hinit
    unfold lastField lastValue at hlast ⊢
    rw [hsplit, List.reverse_append, List.reverse_append, List.reverse_singleton,
      List.reverse_singleton, List.singleton_append, List.singleton_append, List.findSome?_cons,
      List.findSome?_cons, hlast]
    rfl

/-! ## An answer that is not checked -/

/-- The fields of `looseResponse`, for any accept value. -/
def looseHeaders (accept : String) : List (Text × Text) :=
  [("Upgrade".toList, "websocket".toList), ("Connection".toList, "no-upgrade".toList),
    ("Sec-WebSocket-Accept".toList, accept.toList), ("Sec-WebSocket-Protocol".toList, ['x']),
    ("Sec-WebSocket-Extensions".toList, ['y'])]

theorem looseHeaders_isHeader {accept : String} (h : ∀ c ∈ accept.toList, isSpace c = false) :
    ∀ p ∈ looseHeaders accept, IsHeader p := by
  intro p hp
  simp only [looseHeaders, List.mem_cons, List.not_mem_nil, or_false] at hp
  rcases hp with rfl | rfl | rfl | rfl | rfl
  case inr.inr.inl =>
    have hname : ':' ∉ "Sec-WebSocket-Accept".toList ∧ '\n' ∉ "Sec-WebSocket-Accept".toList :=
      ⟨by decide, by decide⟩
    refine ⟨hname.1, fun hmem => ?_⟩
    obtain hmem | hvalue := List.mem_append.mp hmem
    · exact hname.2 hmem
    · exact absurd (h '\n' hvalue) (by decide)
  all_goals exact ⟨by decide, by decide⟩

/-- **Whatever the key is**, and what is owed for it: the code takes the answer for good. -/
theorem loose_answer (acceptKey : String → String) (key : String)
    (hword : ∀ c ∈ (acceptKey key).toList, isSpace c = false) (later : Bytes) :
    let response := block ("HTTP/1.1 101 S".toList ::
      (fieldsOf _ (looseHeaders_isHeader hword)).map Field.line) ++ later
    (chatHandshake key).parseResponse acceptKey response = .ok (resultOf response) ∧
      ¬ Sound acceptKey (chatHandshake key) response := by
  intro response
  have hfirst : IsLine "HTTP/1.1 101 S".toList := ⟨by decide, by decide⟩
  have hlines : ∀ line ∈ "HTTP/1.1 101 S".toList ::
      (fieldsOf _ (looseHeaders_isHeader hword)).map Field.line, IsLine line := by
    intro line hline
    obtain rfl | hline := List.mem_cons.mp hline
    · exact hfirst
    · obtain ⟨f, -, rfl⟩ := List.mem_map.mp hline
      exact f.isLine
  have hfield : ∀ name, fieldOf response name = lastValue (looseHeaders (acceptKey key)) name :=
    fun name => (fieldOf_block hfirst _ later name).trans (lastField_fieldsOf _ _ name)
  have hupgrade : lastValue (looseHeaders (acceptKey key)) "upgrade" = some "websocket".toList := rfl
  have hconnection : lastValue (looseHeaders (acceptKey key)) "connection" =
      some "no-upgrade".toList := rfl
  have haccept : strip (acceptKey key).toList = (acceptKey key).toList :=
    Trim.trim_eq_self (fun c hc => hword c (List.mem_of_mem_head? hc))
      (fun c hc => hword c (List.mem_of_getLast? hc))
  have hchecked : Checked acceptKey (chatHandshake key) response := by
    refine ⟨?_, ?_, ?_, ?_, ?_⟩
    · rw [headerText_block (List.cons_ne_nil _ _) hlines]
      rfl
    · rw [statusOf_block hlines]
      decide
    · rw [hfield, hupgrade]
      decide
    · rw [hfield, hconnection]
      decide
    · rw [hfield, show (acceptKey (chatHandshake key).key).toList = strip (acceptKey key).toList from
        haccept.symm]
      rfl
  have hok := parseResponse_ok_iff.mpr ⟨hchecked, rfl⟩
  refine ⟨hok, fun hsound => ?_⟩
  have hhonest := ((sound_iff acceptKey (chatHandshake key) response).mp hsound hchecked).connection
  rw [hfield, hconnection] at hhonest
  exact absurd hhonest (by decide)

end JetSocket.Transport
