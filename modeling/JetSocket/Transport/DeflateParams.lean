import JetSocket.Lib.Partition
import JetSocket.Lib.Trim
import JetSocket.Transport.Handshake
import Mathlib.Data.List.TakeDrop
import Mathlib.Data.List.TakeWhile

/- What `parse_deflate_params` reads of the parameters of permessage-deflate (`_core.pyx`).

   The parameters are written one behind the other with `;` between them, in any order, with
   white space around a name, a value and the `=`. A number is written in ASCII digits, zeros
   at the front included. A parameter with any other name has any text without a `;`.

   What is proved:
     1. `split_eq_splitOn` — `text.split(";")` is `List.splitOn`.
     2. `pyInt_digits` — `int` of a numeral is its value.
     3. `deflateParam_render` — what one turn of the loop makes of one parameter.
     4. `params_read_back` — every set of parameters, in every order and spacing, is read back. -/
namespace JetSocket.Transport
open JetSocket.Core Trim Partition

/-! ## Text operations -/

theorem strip_eq_trim (text : Text) : strip text = trim isSpace text := rfl

theorem splitFrom_eq_splitOn (sep : Char) (piece text : Text) :
    splitFrom [sep] 0 piece text = text.splitOnPPrepend (· == sep) piece := by
  induction text generalizing piece with
  | nil => exact List.splitOnPPrepend_nil.symm
  | cons c rest ih =>
    have hsep : [sep].isPrefixOf (c :: rest) = (c == sep) := by
      simp [List.isPrefixOf, BEq.comm]
    rw [splitFrom, hsep, List.splitOnPPrepend_cons_eq_if]
    split
    · rw [List.length_singleton, Nat.sub_self, ih, List.splitOnPPrepend_nil_right]
    · exact ih (c :: piece)

/-- `text.split(";")`. -/
theorem split_eq_splitOn (sep : Char) (text : Text) : split [sep] text = text.splitOn sep :=
  splitFrom_eq_splitOn sep [] text

theorem span_of_not_mem {sep : Char} {piece : Text} (hpiece : sep ∉ piece) (rest : Text)
    (hrest : ∀ c, rest.head? = some c → c = sep) :
    (piece ++ rest).span (fun c => c != sep) = (piece, rest) := by
  have hkept : ∀ c ∈ piece, (c != sep) = true := by
    intro c hc
    rw [bne_iff_ne]
    rintro rfl
    exact hpiece hc
  have hends : ∀ c, rest.head? = some c → (c != sep) = false := by
    intro c hc
    rw [hrest c hc]
    exact bne_self_eq_false sep
  obtain ⟨htake, hdrop⟩ := takeWhile_append_dropWhile_of_head hkept hends
  rw [List.span_eq_takeWhile_dropWhile, htake, hdrop]

/-- `text.split("=", 1)`. -/
theorem splitAtMost_one (sep : Char) (text : Text) : splitAtMost sep 1 text =
    (partition sep text).1 :: (partition sep text).2.toList := by
  obtain ⟨hnot, heq⟩ | ⟨piece, rest, rfl, hnot, heq⟩ := partition_cases sep text
  · have hspan := span_of_not_mem hnot [] (fun c hc => by cases hc)
    rw [List.append_nil] at hspan
    rw [heq, splitAtMost, hspan]
    rfl
  · have hspan := span_of_not_mem hnot (sep :: rest)
      (fun c hc => (Option.some.inj hc).symm)
    rw [heq, splitAtMost, hspan]
    rfl

/-! ## Numerals -/

/-- A number of at most 4300 digits, as it is written. -/
structure Numeral where
  digits : Text
  written : digits ≠ []
  ascii : ∀ c ∈ digits, c.isDigit = true
  length_le : digits.length ≤ 4300

namespace Numeral

def value (n : Numeral) : Nat := Nat.ofDigitChars 10 n.digits 0

/-- The usual way. -/
def ofNat (n : Nat) (h : (Nat.toDigits 10 n).length ≤ 4300) : Numeral where
  digits := Nat.toDigits 10 n
  written := Nat.toDigits_ne_nil
  ascii _ hc := Nat.isDigit_of_mem_toDigits (by decide) (by decide) hc
  length_le := h

theorem value_ofNat {n : Nat} (h : (Nat.toDigits 10 n).length ≤ 4300) : (ofNat n h).value = n :=
  Nat.ofDigitChars_ten_toDigits

end Numeral

theorem toNat_of_isDigit {c : Char} (h : c.isDigit = true) : 48 ≤ c.toNat ∧ c.toNat ≤ 57 := by
  obtain ⟨hlo, hhi⟩ := Bool.and_eq_true_iff.mp h
  exact ⟨UInt32.le_iff_toNat_le.mp (of_decide_eq_true hlo),
    UInt32.le_iff_toNat_le.mp (of_decide_eq_true hhi)⟩

theorem isSpace_of_isDigit {c : Char} (h : c.isDigit = true) : isSpace c = false := by
  obtain ⟨hlo, hhi⟩ := toNat_of_isDigit h
  simp only [isSpace, Bool.or_eq_false_iff, Bool.and_eq_false_iff, decide_eq_false_iff_not,
    beq_eq_false_iff_ne]
  omega

theorem isIntSpace_of_isDigit (ascii : Bool) {c : Char} (h : c.isDigit = true) :
    isIntSpace ascii c = false := by
  obtain ⟨hlo, hhi⟩ := toNat_of_isDigit h
  unfold isIntSpace
  split
  · simp only [Bool.or_eq_false_iff, Bool.and_eq_false_iff, decide_eq_false_iff_not,
      beq_eq_false_iff_ne]
    omega
  · exact isSpace_of_isDigit h

theorem digitValue_of_isDigit {c : Char} (h : c.isDigit = true) :
    digitValue c = some (c.toNat - 48) := by
  obtain ⟨hlo, hhi⟩ := toNat_of_isDigit h
  have hfirst : (decide (0x30 ≤ c.toNat) && decide (c.toNat < 0x30 + 10)) = true := by
    rw [Bool.and_eq_true_iff, decide_eq_true_iff, decide_eq_true_iff]
    omega
  have hzeros : decimalZeros = 0x30 :: decimalZeros.tail := rfl
  unfold digitValue
  rw [hzeros, List.find?_cons_of_pos (by exact hfirst)]
  rfl

theorem readDigits_of_isDigit {text : Text} (hne : text ≠ [])
    (h : ∀ c ∈ text, c.isDigit = true) : readDigits text = some (text.map (·.toNat - 48)) := by
  fun_induction readDigits text with
  | case1 => exact absurd rfl hne
  | case2 c => rw [digitValue_of_isDigit (h c List.mem_cons_self)]; rfl
  | case3 c rest ih =>
    exact absurd (h '_' (List.mem_cons_of_mem c List.mem_cons_self)) (by decide)
  | case4 c rest hrest hunderscore ih =>
    rw [digitValue_of_isDigit (h c List.mem_cons_self),
      ih hrest (fun d hd => h d (List.mem_cons_of_mem c hd))]
    rfl

theorem Numeral.strip_digits (n : Numeral) : strip n.digits = n.digits :=
  trim_eq_self (fun c hc => isSpace_of_isDigit (n.ascii c (List.mem_of_mem_head? hc)))
    (fun c hc => isSpace_of_isDigit (n.ascii c (List.mem_of_getLast? hc)))

theorem Numeral.trim_digits (n : Numeral) (ascii : Bool) :
    trim (isIntSpace ascii) n.digits = n.digits :=
  trim_eq_self
    (fun c hc => isIntSpace_of_isDigit ascii (n.ascii c (List.mem_of_mem_head? hc)))
    (fun c hc => isIntSpace_of_isDigit ascii (n.ascii c (List.mem_of_getLast? hc)))

/-- `int` of a numeral. -/
theorem pyInt_digits (n : Numeral) : pyInt n.digits = some (n.value : Int) := by
  have hvalue : (n.digits.map (·.toNat - 48)).foldl (fun n d => n * 10 + d) 0 = n.value := by
    unfold Numeral.value
    rw [List.foldl_map, Nat.ofDigitChars_eq_foldl]
    congr 1
    funext m c
    rw [Nat.mul_comm]
    rfl
  have hread := readDigits_of_isDigit n.written n.ascii
  have hlength : (n.digits.map (·.toNat - 48)).length ≤ 4300 := by
    rw [List.length_map]
    exact n.length_le
  unfold pyInt
  dsimp only
  rw [show ((n.digits.dropWhile _).reverse.dropWhile _).reverse = n.digits from n.trim_digits _]
  split
  · next digits heq =>
    exact absurd (n.ascii '-' (by rw [heq]; exact List.mem_cons_self)) (by decide)
  · next digits heq =>
    exact absurd (n.ascii '+' (by rw [heq]; exact List.mem_cons_self)) (by decide)
  · simp only [hread, if_pos hlength, hvalue]
    rfl

theorem readInt_digits (n : Numeral) : readInt n.digits = .ok (n.value : Int) := by
  unfold readInt
  rw [pyInt_digits]

/-! ## Parameters -/

/-- White space before a parameter, around its `=` and behind it. -/
structure Padding where
  before : Text
  beforeEq : Text
  afterEq : Text
  after : Text
  blank : ∀ c ∈ before ++ (beforeEq ++ (afterEq ++ after)), isSpace c = true

def Padding.around (pad : Padding) (text : Text) : Text := pad.before ++ (text ++ pad.after)

/-- The names that `parse_deflate_params` knows. -/
def paramNames : List Text :=
  ["client_no_context_takeover".toList, "server_no_context_takeover".toList,
    "client_max_window_bits".toList, "server_max_window_bits".toList]

/-- A parameter with another name, and with any value or none. -/
structure Unknown where
  text : Text
  plain : ';' ∉ text
  name : strip (partition '=' text).1 ∉ paramNames

inductive Param where
  | clientNoContextTakeover
  | serverNoContextTakeover
  | clientMaxWindowBits (n : Numeral)
  | serverMaxWindowBits (n : Numeral)
  | unknown (u : Unknown)

namespace Param

def valued (name : String) (n : Numeral) (pad : Padding) : Text :=
  pad.around (name.toList ++ (pad.beforeEq ++ '=' :: (pad.afterEq ++ n.digits)))

/-- The text of a parameter. -/
def render (pad : Padding) : Param → Text
  | clientNoContextTakeover => pad.around "client_no_context_takeover".toList
  | serverNoContextTakeover => pad.around "server_no_context_takeover".toList
  | clientMaxWindowBits n => valued "client_max_window_bits" n pad
  | serverMaxWindowBits n => valued "server_max_window_bits" n pad
  | unknown u => u.text

/-- What it says. -/
def apply (params : DeflateParams) : Param → DeflateParams
  | clientNoContextTakeover => { params with clientNoContextTakeover := true }
  | serverNoContextTakeover => { params with serverNoContextTakeover := true }
  | clientMaxWindowBits n => { params with clientMaxWindowBits := n.value }
  | serverMaxWindowBits n => { params with serverMaxWindowBits := n.value }
  | unknown _ => params

end Param

theorem isSpace_eq : isSpace '=' = false := by decide

/-- White space around a token is taken off. -/
theorem Padding.strip_around (pad : Padding) (text : Text) : strip (pad.around text) = strip text :=
  trim_append (fun c hc => pad.blank c (List.mem_append_left _ hc))
    (fun c hc => pad.blank c (by simp [hc])) text

/-- The text is not passed over as empty or as the name of the extension. -/
theorem not_skipped {c : Char} (hc : (lowerChar c).head? = some c) (hp : c ≠ 'p') (text : Text) :
    ¬ (lower (c :: text) = "permessage-deflate".toList ∨ (c :: text).isEmpty = true) := by
  rintro (h | h)
  · have hhead : (lower (c :: text)).head? = some c := by
      unfold lower
      rw [List.flatMap_cons, List.head?_append, hc]
      rfl
    rw [h] at hhead
    exact hp (Option.some.inj hhead).symm
  · cases h

/-- **Another name**: the parameter is passed over. -/
theorem deflateParam_other (params : DeflateParams) {rawPart : Text}
    (h : strip (partition '=' rawPart).1 ∉ paramNames) :
    deflateParam params rawPart = .ok params := by
  have hother : ∀ name ∈ paramNames, strip (partition '=' rawPart).1 ≠ name := by
    rintro name hname rfl
    exact h hname
  have hnames : ∀ name : String, name.toList ∈ paramNames →
      ¬ strip (partition '=' rawPart).1 = name.toList := fun name hname => hother _ hname
  unfold deflateParam
  dsimp only
  split
  · rfl
  · rw [splitAtMost_one]
    obtain ⟨hnot, heq⟩ | ⟨key, value, rfl, hnot, heq⟩ := partition_cases '=' rawPart
    · have htoken : '=' ∉ strip rawPart := fun hmem => hnot (mem_of_mem_trim hmem)
      rw [heq] at hnames
      rw [partition_of_not_mem htoken]
      dsimp only [Option.toList]
      rw [if_neg (hnames _ (by decide)), if_neg (hnames _ (by decide))]
    · have htoken : '=' ∉ key.dropWhile isSpace :=
        fun hmem => hnot ((List.dropWhile_sublist _).subset hmem)
      rw [heq] at hnames
      have hkey : strip (key.dropWhile isSpace) = strip key := trim_dropWhile key
      rw [strip_eq_trim (key ++ '=' :: value), trim_append_cons isSpace_eq, partition_append htoken]
      dsimp only [Option.toList]
      rw [hkey, if_neg (hnames _ (by decide)), if_neg (hnames _ (by decide))]

/-- A text without an `=`, and with no white space at its ends. -/
theorem deflateParam_flag (params : DeflateParams) (pad : Padding) (c : Char) (token : Text)
    (hc : (lowerChar c).head? = some c) (hp : c ≠ 'p') (htrim : strip (c :: token) = c :: token)
    (heq : '=' ∉ c :: token) : deflateParam params (pad.around (c :: token)) =
      if c :: token = "client_no_context_takeover".toList then
        .ok { params with clientNoContextTakeover := true }
      else if c :: token = "server_no_context_takeover".toList then
        .ok { params with serverNoContextTakeover := true }
      else .ok params := by
  have htoken : strip (pad.around (c :: token)) = c :: token := (pad.strip_around _).trans htrim
  unfold deflateParam
  simp only [htoken]
  rw [if_neg (not_skipped hc hp token), splitAtMost_one, partition_of_not_mem heq]
  rfl

/-- A name, an `=` and a numeral. -/
theorem deflateParam_valued (params : DeflateParams) (pad : Padding) (n : Numeral) (c : Char)
    (name : Text) (hc : (lowerChar c).head? = some c) (hp : c ≠ 'p')
    (htrim : strip (c :: name) = c :: name) (hspace : isSpace c = false) (heq : '=' ∉ c :: name) :
    deflateParam params
        (pad.around (c :: name ++ (pad.beforeEq ++ '=' :: (pad.afterEq ++ n.digits)))) =
      if c :: name = "client_max_window_bits".toList then
        .ok { params with clientMaxWindowBits := n.value }
      else if c :: name = "server_max_window_bits".toList then
        .ok { params with serverMaxWindowBits := n.value }
      else .ok params := by
  have hblank : ∀ c ∈ pad.beforeEq ++ pad.afterEq, isSpace c = true := by
    intro c hc
    refine pad.blank c (List.mem_append_right _ ?_)
    rw [← List.append_assoc]
    exact List.mem_append_left _ hc
  have hnothing : ∀ c ∈ ([] : Text), isSpace c = true := fun c hc => absurd hc List.not_mem_nil
  have hkey : strip (c :: name ++ pad.beforeEq) = c :: name := by
    have hends := trim_append hnothing (fun c hc => hblank c (List.mem_append_left _ hc))
      (c :: name)
    exact hends.trans htrim
  have hvalue : strip (pad.afterEq ++ n.digits) = n.digits := by
    have hends := trim_append (fun c hc => hblank c (List.mem_append_right _ hc)) hnothing n.digits
    rw [List.append_nil] at hends
    exact hends.trans n.strip_digits
  have htoken : strip (pad.around (c :: name ++ (pad.beforeEq ++ '=' :: (pad.afterEq ++ n.digits))))
      = c :: name ++ pad.beforeEq ++ '=' :: (pad.afterEq ++ n.digits).rdropWhile isSpace := by
    rw [pad.strip_around, ← List.append_assoc, strip_eq_trim, trim_append_cons isSpace_eq]
    congr 1
    exact List.dropWhile_cons_of_neg (by simp [hspace])
  have hfree : '=' ∉ c :: name ++ pad.beforeEq := by
    rw [List.mem_append]
    rintro (hmem | hmem)
    · exact heq hmem
    · exact absurd (hblank '=' (List.mem_append_left _ hmem)) (by rw [isSpace_eq]; decide)
  unfold deflateParam
  simp only [htoken]
  rw [if_neg (by exact not_skipped hc hp _), splitAtMost_one, partition_append hfree]
  dsimp only [Option.toList]
  rw [hkey, strip_eq_trim, trim_rdropWhile, ← strip_eq_trim, hvalue, readInt_digits]
  rfl

/-- **One turn of the loop**: what a parameter says is noted. -/
theorem deflateParam_render (params : DeflateParams) (pad : Padding) (param : Param) :
    deflateParam params (param.render pad) = .ok (param.apply params) := by
  cases param with
  | clientNoContextTakeover =>
    have hname : "client_no_context_takeover".toList =
      'c' :: "lient_no_context_takeover".toList := rfl
    show deflateParam params (pad.around "client_no_context_takeover".toList) = _
    rw [hname, deflateParam_flag params pad 'c' _ (by decide) (by decide) (by decide) (by decide),
      if_pos hname.symm]
    rfl
  | serverNoContextTakeover =>
    have hname : "server_no_context_takeover".toList =
      's' :: "erver_no_context_takeover".toList := rfl
    show deflateParam params (pad.around "server_no_context_takeover".toList) = _
    rw [hname, deflateParam_flag params pad 's' _ (by decide) (by decide) (by decide) (by decide),
      if_neg (by decide), if_pos hname.symm]
    rfl
  | clientMaxWindowBits n =>
    have hname : "client_max_window_bits".toList = 'c' :: "lient_max_window_bits".toList := rfl
    show deflateParam params (pad.around ("client_max_window_bits".toList ++ _)) = _
    rw [hname, deflateParam_valued params pad n 'c' _ (by decide) (by decide) (by decide)
      (by decide) (by decide), if_pos hname.symm]
    rfl
  | serverMaxWindowBits n =>
    have hname : "server_max_window_bits".toList = 's' :: "erver_max_window_bits".toList := rfl
    show deflateParam params (pad.around ("server_max_window_bits".toList ++ _)) = _
    rw [hname, deflateParam_valued params pad n 's' _ (by decide) (by decide) (by decide)
      (by decide) (by decide), if_neg (by decide), if_pos hname.symm]
    rfl
  | unknown u => exact deflateParam_other params u.name

/-! ## The header -/

theorem Padding.not_mem_around (pad : Padding) {c : Char} (hc : isSpace c = false) {text : Text}
    (h : c ∉ text) : c ∉ pad.around text := by
  have hblank : ∀ b ∈ pad.before ++ pad.after, c ≠ b := by
    rintro b hb rfl
    have hspace : isSpace c = true := by
      refine pad.blank c ?_
      obtain hmem | hmem := List.mem_append.mp hb
      · exact List.mem_append_left _ hmem
      · simp [hmem]
    rw [hc] at hspace
    cases hspace
  unfold Padding.around
  rw [List.mem_append, List.mem_append]
  rintro (hmem | hmem | hmem)
  · exact hblank c (List.mem_append_left _ hmem) rfl
  · exact h hmem
  · exact hblank c (List.mem_append_right _ hmem) rfl

theorem Numeral.not_mem_digits (n : Numeral) {c : Char} (hc : c.isDigit = false) :
    c ∉ n.digits := by
  intro hmem
  rw [n.ascii c hmem] at hc
  cases hc

/-- A parameter with a value. -/
theorem not_mem_valued {c : Char} (hspace : isSpace c = false) (hdigit : c.isDigit = false)
    (heq : c ≠ '=') {name : String} (hname : c ∉ name.toList) (n : Numeral) (pad : Padding) :
    c ∉ Param.valued name n pad := by
  have hblank : ∀ b ∈ pad.beforeEq ++ pad.afterEq, c ≠ b := by
    rintro b hb rfl
    have hpad : isSpace c = true := by
      refine pad.blank c (List.mem_append_right _ ?_)
      rw [← List.append_assoc]
      exact List.mem_append_left _ hb
    rw [hspace] at hpad
    cases hpad
  refine pad.not_mem_around hspace ?_
  rw [List.mem_append, List.mem_append, List.mem_cons, List.mem_append]
  rintro (hmem | hmem | hmem | hmem | hmem)
  · exact hname hmem
  · exact hblank c (List.mem_append_left _ hmem) rfl
  · exact heq hmem
  · exact hblank c (List.mem_append_right _ hmem) rfl
  · exact n.not_mem_digits hdigit hmem

theorem Param.not_mem_render (pad : Padding) (param : Param) : ';' ∉ param.render pad := by
  cases param with
  | clientNoContextTakeover | serverNoContextTakeover =>
    exact pad.not_mem_around (by decide) (by decide)
  | clientMaxWindowBits n | serverMaxWindowBits n =>
    exact not_mem_valued (by decide) (by decide) (by decide) (by decide) n pad
  | unknown u => exact u.plain

/-- The parameters behind the name of the extension. -/
def extensionText (pad : Padding) (ps : List (Param × Padding)) : Text :=
  [';'].intercalate (pad.around "permessage-deflate".toList :: ps.map (fun p => p.1.render p.2))

/-- **The loop**: what the parameters say, one after the other. -/
theorem parseDeflateParams_extensionText (pad : Padding) (ps : List (Param × Padding)) :
    parseDeflateParams (extensionText pad ps) = .ok ((ps.map Prod.fst).foldl Param.apply {}) := by
  have hname : ∀ params, deflateParam params (pad.around "permessage-deflate".toList) =
      .ok params := by
    intro params
    unfold deflateParam
    have htoken : strip (pad.around "permessage-deflate".toList) = "permessage-deflate".toList :=
      (pad.strip_around _).trans (by decide)
    simp only [htoken]
    exact if_pos (.inl (by decide))
  have hfree : ∀ l ∈ pad.around "permessage-deflate".toList ::
      ps.map (fun p => p.1.render p.2), ';' ∉ l := by
    intro l hl
    obtain rfl | hl := List.mem_cons.mp hl
    · exact pad.not_mem_around (by decide) (by decide)
    · obtain ⟨p, -, rfl⟩ := List.mem_map.mp hl
      exact p.1.not_mem_render p.2
  unfold parseDeflateParams extensionText
  rw [split_eq_splitOn, List.splitOn_intercalate ';' hfree (List.cons_ne_nil _ _),
    List.foldlM_cons, hname]
  show (ps.map (fun p => p.1.render p.2)).foldlM deflateParam {} = _
  clear hfree
  generalize ({} : DeflateParams) = params
  induction ps generalizing params with
  | nil => rfl
  | cons p ps ih =>
    rw [List.map_cons, List.foldlM_cons, deflateParam_render]
    exact ih _

/-! ## Reading back -/

/-- A set of parameters: the flags, and the sizes that are given. -/
structure Offer where
  clientNoContextTakeover : Bool
  serverNoContextTakeover : Bool
  clientMaxWindowBits : Option Numeral
  serverMaxWindowBits : Option Numeral

namespace Offer

def params (offer : Offer) : List Param :=
  (if offer.clientNoContextTakeover then [.clientNoContextTakeover] else []) ++
    ((if offer.serverNoContextTakeover then [.serverNoContextTakeover] else []) ++
      ((offer.clientMaxWindowBits.map .clientMaxWindowBits).toList ++
        (offer.serverMaxWindowBits.map .serverMaxWindowBits).toList))

/-- An absent size is 15. -/
def result (offer : Offer) : DeflateParams where
  clientNoContextTakeover := offer.clientNoContextTakeover
  serverNoContextTakeover := offer.serverNoContextTakeover
  clientMaxWindowBits := offer.clientMaxWindowBits.elim 15 (fun n => n.value)
  serverMaxWindowBits := offer.serverMaxWindowBits.elim 15 (fun n => n.value)

theorem foldl_unknown (unknowns : List Unknown) (params : DeflateParams) :
    (unknowns.map Param.unknown).foldl Param.apply params = params := by
  induction unknowns with
  | nil => rfl
  | cons u unknowns ih => exact ih

/-- In the order of the list. -/
theorem foldl_params (offer : Offer) (unknowns : List Unknown) :
    (offer.params ++ unknowns.map Param.unknown).foldl Param.apply {} = offer.result := by
  rw [List.foldl_append, foldl_unknown]
  obtain ⟨cnct, snct, cmwb, smwb⟩ := offer
  cases cnct <;> cases snct <;> cases cmwb <;> cases smwb <;> rfl

theorem clientMaxWindowBits_mem {offer : Offer} {unknowns : List Unknown} {n : Numeral}
    (h : .clientMaxWindowBits n ∈ offer.params ++ unknowns.map Param.unknown) :
    offer.clientMaxWindowBits = some n := by
  simpa [params] using h

theorem serverMaxWindowBits_mem {offer : Offer} {unknowns : List Unknown} {n : Numeral}
    (h : .serverMaxWindowBits n ∈ offer.params ++ unknowns.map Param.unknown) :
    offer.serverMaxWindowBits = some n := by
  simpa [params] using h

/-- Each size is given once, so the order makes no difference. -/
theorem apply_comm (offer : Offer) (unknowns : List Unknown) :
    ∀ x ∈ offer.params ++ unknowns.map Param.unknown,
      ∀ y ∈ offer.params ++ unknowns.map Param.unknown,
        ∀ params, Param.apply (x.apply params) y = Param.apply (y.apply params) x := by
  intro x hx y hy params
  cases x with
  | clientMaxWindowBits n =>
    cases y with
    | clientMaxWindowBits m =>
      have hsame : some n = some m :=
        (clientMaxWindowBits_mem hx).symm.trans (clientMaxWindowBits_mem hy)
      rw [Option.some.inj hsame]
    | _ => rfl
  | serverMaxWindowBits n =>
    cases y with
    | serverMaxWindowBits m =>
      have hsame : some n = some m :=
        (serverMaxWindowBits_mem hx).symm.trans (serverMaxWindowBits_mem hy)
      rw [Option.some.inj hsame]
    | _ => rfl
  | _ => cases y <;> rfl

end Offer

/-- **The parameters are read back**: in every order, with any white space around the tokens and
any other parameters between them. -/
theorem params_read_back (offer : Offer) (unknowns : List Unknown) (pad : Padding)
    (ps : List (Param × Padding))
    (hps : (ps.map Prod.fst).Perm (offer.params ++ unknowns.map Param.unknown)) :
    parseDeflateParams (extensionText pad ps) = .ok offer.result := by
  rw [parseDeflateParams_extensionText, ← offer.foldl_params unknowns]
  exact congrArg Except.ok (hps.symm.foldl_eq' (offer.apply_comm unknowns) {}).symm

/-- White space before a parameter and around its `=`. -/
def spaced (before around : Text) (blank : (before ++ (around ++ around)).all isSpace = true) :
    Padding :=
  { before, beforeEq := around, afterEq := around, after := []
    blank := by rw [List.append_nil]; exact List.all_eq_true.mp blank }

/-- Both sizes and a flag, in the reverse order, with a parameter that has another name. -/
theorem params_read_back_reverse :
    parseDeflateParams ("permessage-deflate;x=1; server_max_window_bits=12;" ++
        " client_max_window_bits = 010;server_no_context_takeover").toList =
      .ok ⟨false, true, 10, 12⟩ := by
  let ten : Numeral := ⟨['0', '1', '0'], by decide, List.all_eq_true.mp rfl, by decide⟩
  let twelve : Numeral := .ofNat 12 (by decide)
  let offer : Offer := ⟨false, true, some ten, some twelve⟩
  let x : Unknown := ⟨['x', '=', '1'], by decide, by decide⟩
  let plain : Padding := spaced [] [] rfl
  let ps : List (Param × Padding) :=
    [(.unknown x, plain), (.serverMaxWindowBits twelve, spaced [' '] [] rfl),
      (.clientMaxWindowBits ten, spaced [' '] [' '] rfl), (.serverNoContextTakeover, plain)]
  have htext : extensionText plain ps =
      ("permessage-deflate;x=1; server_max_window_bits=12;" ++
        " client_max_window_bits = 010;server_no_context_takeover").toList := by decide +kernel
  rw [← htext]
  exact params_read_back offer [x] plain ps
    (List.reverse_perm (offer.params ++ [Param.unknown x]))

end JetSocket.Transport
