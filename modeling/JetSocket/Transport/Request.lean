import JetSocket.Transport.HeaderBlock

/- The request of the opening handshake, as a server reads it (`_core.pyx`, `build_request`).

   `build_request` puts the texts it is given into lines as they are. They come back from the bytes
   if no text breaks its line (`Clean`): no line feed in any of them, no colon in the name of an
   extra header, nothing but words in the key, the subprotocols and the extensions, which stand in
   lists. Nor may an extra header take the name of a header of the handshake, since the last line
   with a name counts.

   Result: `request_read_back` — the request ends at its first empty line, and every field that is
   read off it is what the handshake was made with, whatever the bytes behind it are. -/
namespace JetSocket.Transport
open JetSocket.Core

/-! ## Lists in a field -/

/-- A word in a list: not empty, no blank, no separator. -/
def IsWord (text : Text) : Prop :=
  text ≠ [] ∧ ∀ c ∈ text, isSpace c = false ∧ c ≠ ',' ∧ c ≠ ';'

instance (text : Text) : Decidable (IsWord text) :=
  decidable_of_iff
    (text ≠ [] ∧ text.all (fun c => !isSpace c && c != ',' && c != ';') = true)
    (and_congr_right (fun _ => by simp [and_assoc]))

/-- What stands between the separators, without blanks. -/
def elements (sep : Char) (value : Text) : List Text :=
  if value.isEmpty then [] else (split [sep] value).map strip

theorem strip_eq_self {text : Text} (h : ∀ c ∈ text, isSpace c = false) : strip text = text :=
  Trim.trim_eq_self (fun c hc => h c (List.mem_of_mem_head? hc))
    (fun c hc => h c (List.mem_of_mem_getLast? hc))

theorem IsWord.strip {text : Text} (h : IsWord text) : strip text = text :=
  strip_eq_self (fun c hc => (h.2 c hc).1)

theorem IsWord.not_mem {text : Text} (h : IsWord text) : '\n' ∉ text := by
  intro hmem
  have hspace := (h.2 _ hmem).1
  exact absurd hspace (by decide)

theorem map_strip {words : List Text} (h : ∀ w ∈ words, IsWord w) : words.map strip = words := by
  conv_rhs => rw [← List.map_id words]
  exact List.map_congr_left (fun w hw => (h w hw).strip)

/-- The words, with the separator and a space between them. -/
def listed (sep : Char) (words : List Text) : Text := [sep, ' '].intercalate words

theorem listed_cons (sep : Char) (w v : Text) (words : List Text) :
    listed sep (w :: v :: words) = w ++ sep :: ' ' :: listed sep (v :: words) := by
  unfold listed
  rw [List.intercalate_cons_cons, List.append_assoc]
  rfl

theorem listed_ne_nil {sep : Char} {words : List Text} (hne : words ≠ [])
    (h : ∀ w ∈ words, IsWord w) : listed sep words ≠ [] := by
  obtain ⟨w, rest, rfl⟩ := List.exists_cons_of_ne_nil hne
  have hw := (h w List.mem_cons_self).1
  cases rest with
  | nil => exact fun hnil => hw (by rwa [listed, List.intercalate_singleton] at hnil)
  | cons v rest =>
    rw [listed_cons]
    exact List.append_ne_nil_of_left_ne_nil hw _

theorem strip_listed {sep : Char} {words : List Text} (h : ∀ w ∈ words, IsWord w) :
    strip (listed sep words) = listed sep words := by
  cases words with
  | nil => rfl
  | cons w words =>
    have hfirst : ∃ more, listed sep (w :: words) = w ++ more := by
      cases words with
      | nil => exact ⟨[], by rw [listed, List.intercalate_singleton, List.append_nil]⟩
      | cons v words => exact ⟨_, listed_cons sep w v words⟩
    have hlast : ∃ less, ∃ v ∈ w :: words, listed sep (w :: words) = less ++ v := by
      clear h hfirst
      induction words generalizing w with
      | nil => exact ⟨[], w, List.mem_cons_self, by rw [listed, List.intercalate_singleton]; rfl⟩
      | cons v words ih =>
        obtain ⟨less, x, hx, hless⟩ := ih v
        refine ⟨w ++ sep :: ' ' :: less, x, List.mem_cons_of_mem _ hx, ?_⟩
        rw [listed_cons, hless, List.append_assoc]
        rfl
    refine Trim.trim_eq_self (fun c hc => ?_) (fun c hc => ?_)
    · obtain ⟨more, hmore⟩ := hfirst
      obtain ⟨hne, hword⟩ := h w List.mem_cons_self
      rw [hmore, List.head?_append_of_ne_nil w hne] at hc
      exact (hword c (List.mem_of_mem_head? hc)).1
    · obtain ⟨less, v, hv, hless⟩ := hlast
      obtain ⟨hne, hword⟩ := h v hv
      rw [hless, List.getLast?_append_of_ne_nil less hne] at hc
      exact (hword c (List.mem_of_mem_getLast? hc)).1

/-- Each word but the first stands behind a separator, with a space before it. -/
theorem listed_eq (sep : Char) (w : Text) (words : List Text) :
    listed sep (w :: words) = [sep].intercalate (w :: words.map (' ' :: ·)) := by
  have hspace : ∀ (x : Text) (l : List Text),
      [sep].intercalate ((' ' :: x) :: l) = ' ' :: [sep].intercalate (x :: l) := by
    intro x l
    cases l with
    | nil => rw [List.intercalate_singleton, List.intercalate_singleton]
    | cons y l =>
      rw [List.intercalate_cons_cons, List.intercalate_cons_cons]
      rfl
  induction words generalizing w with
  | nil => rw [listed, List.intercalate_singleton, List.map_nil, List.intercalate_singleton]
  | cons v words ih =>
    rw [listed_cons, ih v, List.map_cons, List.intercalate_cons_cons, hspace, List.append_assoc]
    rfl

theorem splitOn_listed {sep : Char} (hsep : sep ≠ ' ') {w : Text} {words : List Text}
    (h : ∀ v ∈ w :: words, sep ∉ v) :
    (listed sep (w :: words)).splitOn sep = w :: words.map (' ' :: ·) := by
  rw [listed_eq, List.splitOn_intercalate sep _ (List.cons_ne_nil _ _)]
  intro l hl
  obtain rfl | hl := List.mem_cons.mp hl
  · exact h l List.mem_cons_self
  · obtain ⟨v, hv, rfl⟩ := List.mem_map.mp hl
    rw [List.mem_cons]
    rintro (hs | hmem)
    · exact hsep hs
    · exact h v (List.mem_cons_of_mem _ hv) hmem

/-- **A list is read back** as its words. -/
theorem elements_listed {sep : Char} (hsep : sep = ',' ∨ sep = ';') {words : List Text}
    (h : ∀ w ∈ words, IsWord w) : elements sep (listed sep words) = words := by
  have hfree : ∀ w ∈ words, sep ∉ w := by
    intro w hw hmem
    obtain ⟨-, hcomma, hsemi⟩ := (h w hw).2 _ hmem
    exact hsep.elim hcomma hsemi
  have hspace : sep ≠ ' ' := by
    obtain rfl | rfl := hsep <;> decide
  cases words with
  | nil => rfl
  | cons w words =>
    have hne : (listed sep (w :: words)).isEmpty = false :=
      List.isEmpty_eq_false_iff.mpr (listed_ne_nil (List.cons_ne_nil _ _) h)
    have hstrip : ∀ v : Text, strip (' ' :: v) = strip v := fun v => by
      have htrim := Trim.trim_append (p := isSpace) (a := [' ']) (b := [])
        (List.all_eq_true.mp rfl) (List.all_eq_true.mp rfl) v
      rwa [List.append_nil] at htrim
    unfold elements
    rw [hne, if_neg (by decide), split_eq_splitOn,
      splitOn_listed hspace hfree, List.map_cons, List.map_map, (h w List.mem_cons_self).strip]
    congr 1
    conv_rhs => rw [← map_strip (fun v hv => h v (List.mem_cons_of_mem _ hv))]
    exact List.map_congr_left (fun v _ => hstrip v)

theorem not_mem_listed {sep : Char} (hsep : sep ≠ '\n') {words : List Text}
    (h : ∀ w ∈ words, '\n' ∉ w) : '\n' ∉ listed sep words := by
  induction words with
  | nil => exact List.not_mem_nil
  | cons w words ih =>
    cases words with
    | nil =>
      rw [listed, List.intercalate_singleton]
      exact h w List.mem_cons_self
    | cons v words =>
      rw [listed_cons, List.mem_append, List.mem_cons, List.mem_cons]
      rintro (hw | hs | hs | hrest)
      · exact h w List.mem_cons_self hw
      · exact hsep hs.symm
      · exact absurd hs (by decide)
      · exact ih (fun x hx => h x (List.mem_cons_of_mem _ hx)) hrest

/-! ## The lines of the request -/

/-- The names of the headers that `build_request` writes. -/
def handshakeNames : List Text :=
  ["host".toList, "upgrade".toList, "connection".toList, "sec-websocket-key".toList,
    "sec-websocket-version".toList, "origin".toList, "sec-websocket-protocol".toList,
    "sec-websocket-extensions".toList]

namespace Handshake

/-- The headers that are always there. -/
def fixedHeaders (h : Handshake) : List (Text × Text) :=
  [("Host".toList, h.host.toList), ("Upgrade".toList, "websocket".toList),
    ("Connection".toList, "Upgrade".toList), ("Sec-WebSocket-Key".toList, h.key.toList),
    ("Sec-WebSocket-Version".toList, "13".toList)]

/-- The origin that is sent. -/
def sentOrigin (h : Handshake) : Option String := h.origin.bind orNone

def originHeaders (h : Handshake) : List (Text × Text) :=
  (h.sentOrigin.map (fun o => ("Origin".toList, o.toList))).toList

/-- The header of a list, if the list is not empty. -/
def listHeaders (name : String) (sep : Char) (words : List String) : List (Text × Text) :=
  if words.isEmpty then [] else [(name.toList, listed sep (words.map String.toList))]

/-- The headers that are there if there is something to say. -/
def optionalHeaders (h : Handshake) : List (Text × Text) :=
  h.originHeaders ++ (listHeaders "Sec-WebSocket-Protocol" ',' h.subprotocols ++
    listHeaders "Sec-WebSocket-Extensions" ';' h.extensions)

def otherHeaders (h : Handshake) : List (Text × Text) :=
  h.extraHeaders.map (fun p => (p.1.toList, p.2.toList))

def headers (h : Handshake) : List (Text × Text) :=
  h.fixedHeaders ++ (h.optionalHeaders ++ h.otherHeaders)

def requestLine (h : Handshake) : Text := "GET ".toList ++ (h.path.toList ++ " HTTP/1.1".toList)

/-- No text of the handshake breaks its line or its list. -/
structure Clean (h : Handshake) : Prop where
  path : '\n' ∉ h.path.toList
  host : '\n' ∉ h.host.toList
  key : ∀ c ∈ h.key.toList, isSpace c = false
  origin : ∀ o, h.sentOrigin = some o → '\n' ∉ o.toList
  subprotocols : ∀ p ∈ h.subprotocols, IsWord p.toList
  extensions : ∀ e ∈ h.extensions, IsWord e.toList
  others : ∀ p ∈ h.otherHeaders, IsHeader p
  otherNames : ∀ p ∈ h.otherHeaders, lower (strip p.1) ∉ handshakeNames

/-- A header as a line. -/
def written (p : Text × Text) : Text := p.1 ++ ':' :: ' ' :: p.2

/-- Two empty lines at the end are the mark that ends a header. -/
theorem intercalate_empty {lines : List Text} (hne : lines ≠ []) :
    ['\r', '\n'].intercalate (lines ++ [[], []]) =
      ['\r', '\n'].intercalate lines ++ ['\r', '\n', '\r', '\n'] := by
  induction lines with
  | nil => exact (hne rfl).elim
  | cons line lines ih =>
    cases lines with
    | nil =>
      rw [List.singleton_append, List.intercalate_cons_cons, List.intercalate_cons_cons,
        List.intercalate_singleton, List.intercalate_singleton, List.append_assoc]
      rfl
    | cons next lines =>
      rw [List.cons_append, List.cons_append, List.intercalate_cons_cons, ← List.cons_append,
        ih (List.cons_ne_nil _ _), List.intercalate_cons_cons, List.append_assoc, List.append_assoc,
        List.append_assoc]

theorem toList_listed (sep : Char) (words : List String) :
    (String.intercalate (String.ofList [sep, ' ']) words).toList =
      listed sep (words.map String.toList) := by
  rw [String.toList_intercalate, String.toList_ofList]
  rfl

theorem fixed_lines (h : Handshake) :
    [s!"GET {h.path} HTTP/1.1", s!"Host: {h.host}", "Upgrade: websocket", "Connection: Upgrade",
      s!"Sec-WebSocket-Key: {h.key}", "Sec-WebSocket-Version: 13"].map String.toList =
      h.requestLine :: h.fixedHeaders.map written := by
  simp only [List.map_cons, List.map_nil, String.toList_append, requestLine, fixedHeaders, written,
    toString, List.append_assoc]
  rfl

def originLines (h : Handshake) : List String :=
  match h.origin with
  | some o => if o.isEmpty then [] else [s!"Origin: {o}"]
  | none => []

theorem origin_lines (h : Handshake) :
    h.originLines.map String.toList = h.originHeaders.map written := by
  unfold originLines originHeaders sentOrigin orNone
  cases h.origin with
  | none => rfl
  | some o =>
    dsimp only [Option.bind_some]
    split
    · rfl
    · simp only [List.map_cons, List.map_nil, String.toList_append, toString, Option.map_some,
        Option.toList_some, written]
      rfl

/-- A line for a list, if it is not empty. -/
def listLines (name separator : String) (words : List String) : List String :=
  if words.isEmpty then [] else [name ++ ": " ++ String.intercalate separator words]

theorem list_lines (name : String) (sep : Char) (words : List String) :
    (listLines name (String.ofList [sep, ' ']) words).map String.toList =
      (listHeaders name sep words).map written := by
  unfold listLines listHeaders
  split
  · rfl
  · rw [List.map_singleton, List.map_singleton, String.toList_append, String.toList_append,
      toList_listed, List.append_assoc]
    rfl

theorem other_lines (h : Handshake) :
    (h.extraHeaders.map (fun (name, value) => s!"{name}: {value}")).map String.toList =
      h.otherHeaders.map written := by
  unfold otherHeaders
  rw [List.map_map, List.map_map]
  refine List.map_congr_left (fun p _ => ?_)
  simp only [Function.comp_apply, String.toList_append, toString, written, List.append_assoc]
  rfl

/-- The request is a header of these lines. -/
theorem buildRequest_eq (h : Handshake) :
    h.buildRequest = block (h.requestLine :: h.headers.map written) := by
  have hlines : h.buildRequest = encodeUtf8 (String.intercalate "\r\n"
      ([s!"GET {h.path} HTTP/1.1", s!"Host: {h.host}", "Upgrade: websocket", "Connection: Upgrade",
        s!"Sec-WebSocket-Key: {h.key}", "Sec-WebSocket-Version: 13"] ++ h.originLines ++
        listLines "Sec-WebSocket-Protocol" (String.ofList [',', ' ']) h.subprotocols ++
        listLines "Sec-WebSocket-Extensions" (String.ofList [';', ' ']) h.extensions ++
        h.extraHeaders.map (fun (name, value) => s!"{name}: {value}") ++ ["", ""])) := rfl
  have hends : headerEnd = encodeText ['\r', '\n', '\r', '\n'] := rfl
  rw [hlines]
  unfold block
  rw [hends, ← encodeText_append, ← intercalate_empty (List.cons_ne_nil _ _)]
  unfold encodeUtf8 encodeText
  rw [String.toList_intercalate, List.map_append, List.map_append, List.map_append, List.map_append,
    List.map_append, fixed_lines, origin_lines, list_lines, list_lines, other_lines]
  simp only [headers, optionalHeaders, List.map_append, List.append_assoc, List.cons_append]
  rfl

/-! ## What a server reads -/

variable {h : Handshake}

theorem isHeader_listHeaders {name : String} {sep : Char} {words : List String}
    (hname : IsHeader (name.toList, [])) (hsep : sep ≠ '\n')
    (hwords : ∀ w ∈ words, IsWord w.toList) : ∀ p ∈ listHeaders name sep words, IsHeader p := by
  intro p hp
  unfold listHeaders at hp
  split at hp
  · exact absurd hp List.not_mem_nil
  · obtain rfl := List.mem_singleton.mp hp
    refine ⟨hname.1, fun hmem => ?_⟩
    have hlist : '\n' ∉ listed sep (words.map String.toList) := by
      refine not_mem_listed hsep (fun w hw => ?_)
      obtain ⟨word, hword, rfl⟩ := List.mem_map.mp hw
      exact (hwords word hword).not_mem
    obtain hmem | hmem := List.mem_append.mp hmem
    · exact hname.2 (List.mem_append_left _ hmem)
    · exact hlist hmem

theorem Clean.isHeader (hc : h.Clean) : ∀ p ∈ h.headers, IsHeader p := by
  have hvalue : ∀ {name value : Text}, IsHeader (name, []) → '\n' ∉ value →
      IsHeader (name, value) := by
    intro name value hname hv
    refine ⟨hname.1, fun hmem => ?_⟩
    obtain hmem | hmem := List.mem_append.mp hmem
    · exact hname.2 (List.mem_append_left _ hmem)
    · exact hv hmem
  have hkey : '\n' ∉ h.key.toList := fun hmem => absurd (hc.key _ hmem) (by decide)
  intro p hp
  simp only [headers, optionalHeaders, List.mem_append] at hp
  rcases hp with hfixed | (horigin | hsub | hext) | hother
  · simp only [fixedHeaders, List.mem_cons, List.not_mem_nil, or_false] at hfixed
    rcases hfixed with rfl | rfl | rfl | rfl | rfl
    · exact hvalue ⟨by decide, by decide⟩ hc.host
    · exact ⟨by decide, by decide⟩
    · exact ⟨by decide, by decide⟩
    · exact hvalue ⟨by decide, by decide⟩ hkey
    · exact ⟨by decide, by decide⟩
  · obtain ⟨o, ho, rfl⟩ := Option.map_eq_some_iff.mp (Option.mem_toList.mp horigin)
    exact hvalue ⟨by decide, by decide⟩ (hc.origin o ho)
  · exact isHeader_listHeaders ⟨by decide, by decide⟩ (by decide) hc.subprotocols p hsub
  · exact isHeader_listHeaders ⟨by decide, by decide⟩ (by decide) hc.extensions p hext
  · exact hc.others p hother

theorem Clean.isLine (hc : h.Clean) : IsLine h.requestLine := by
  refine ⟨List.append_ne_nil_of_left_ne_nil (by decide) _, ?_⟩
  unfold requestLine
  rw [List.mem_append, List.mem_append]
  rintro (hget | hpath | hversion)
  · exact absurd hget (by decide)
  · exact hc.path hpath
  · exact absurd hversion (by decide)

/-- The request, with its headers as fields. -/
theorem buildRequest_fields (hc : h.Clean) :
    h.buildRequest =
      block (h.requestLine :: (fieldsOf h.headers hc.isHeader).map Field.line) := by
  rw [buildRequest_eq, lines_fieldsOf]
  rfl

theorem fieldOf_request (hc : h.Clean) (later : Bytes) (name : String) :
    fieldOf (h.buildRequest ++ later) name = lastValue h.headers name := by
  rw [buildRequest_fields hc, fieldOf_block hc.isLine, lastField_fieldsOf]

/-- Names that are not those of the headers. -/
theorem lastValue_named {headers : List (Text × Text)} {header : Text} {name : String}
    (hnamed : ∀ p ∈ headers, p.1 = header) (hne : lower (strip header) ≠ name.toList) :
    lastValue headers name = none :=
  lastValue_eq_none (fun p hp => by rwa [hnamed p hp])

theorem originHeaders_named (h : Handshake) : ∀ p ∈ h.originHeaders, p.1 = "Origin".toList := by
  intro p hp
  obtain ⟨o, -, rfl⟩ := Option.map_eq_some_iff.mp (Option.mem_toList.mp hp)
  rfl

theorem listHeaders_named (name : String) (sep : Char) (words : List String) :
    ∀ p ∈ listHeaders name sep words, p.1 = name.toList := by
  intro p hp
  unfold listHeaders at hp
  split at hp
  · exact absurd hp List.not_mem_nil
  · rw [List.mem_singleton.mp hp]

/-- The extra headers have other names. -/
theorem Clean.lastValue_otherHeaders (hc : h.Clean) {name : String}
    (hname : name.toList ∈ handshakeNames) : lastValue h.otherHeaders name = none :=
  lastValue_eq_none (fun p hp he => hc.otherNames p hp (he ▸ hname))

theorem Clean.lastValue_fixed (hc : h.Clean) {name : String} (hname : name.toList ∈ handshakeNames)
    (horigin : lower (strip "Origin".toList) ≠ name.toList)
    (hsub : lower (strip "Sec-WebSocket-Protocol".toList) ≠ name.toList)
    (hext : lower (strip "Sec-WebSocket-Extensions".toList) ≠ name.toList) :
    lastValue h.headers name = lastValue h.fixedHeaders name := by
  unfold headers optionalHeaders
  rw [lastValue_append, lastValue_append, lastValue_append, lastValue_append,
    hc.lastValue_otherHeaders hname, lastValue_named (originHeaders_named h) horigin,
    lastValue_named (listHeaders_named _ _ _) hsub, lastValue_named (listHeaders_named _ _ _) hext]
  rfl

/-- What a server reads of a request. -/
structure ReadAs (h : Handshake) (request : Bytes) : Prop where
  ends : findSub headerEnd request = some (h.buildRequest.length - headerEnd.length)
  line : (headerText request).map (fun text => (split "\r\n".toList text).headD []) =
    some h.requestLine
  host : fieldOf request "host" = some (strip h.host.toList)
  upgrade : fieldOf request "upgrade" = some "websocket".toList
  connection : fieldOf request "connection" = some "Upgrade".toList
  key : fieldOf request "sec-websocket-key" = some h.key.toList
  version : fieldOf request "sec-websocket-version" = some "13".toList
  origin : fieldOf request "origin" = h.sentOrigin.map (fun o => strip o.toList)
  subprotocols : elements ',' ((fieldOf request "sec-websocket-protocol").getD []) =
    h.subprotocols.map String.toList
  extensions : elements ';' ((fieldOf request "sec-websocket-extensions").getD []) =
    h.extensions.map String.toList
  others : ∀ name : String, name.toList ∉ handshakeNames →
    fieldOf request name = lastValue h.otherHeaders name

/-- The value of a list's header is the list. -/
theorem elements_listHeaders {header name : String} {sep : Char} {words : List String}
    (hname : lower (strip header.toList) = name.toList) (hsep : sep = ',' ∨ sep = ';')
    (hwords : ∀ w ∈ words, IsWord w.toList) :
    elements sep ((lastValue (listHeaders header sep words) name).getD []) =
      words.map String.toList := by
  have htexts : ∀ w ∈ words.map String.toList, IsWord w := by
    intro w hw
    obtain ⟨word, hword, rfl⟩ := List.mem_map.mp hw
    exact hwords word hword
  unfold listHeaders
  split
  · rename_i hempty
    rw [List.isEmpty_iff.mp hempty]
    rfl
  · have hvalue : lastValue [(header.toList, listed sep (words.map String.toList))] name =
        some (listed sep (words.map String.toList)) := by
      unfold lastValue
      rw [List.reverse_singleton, List.findSome?_singleton, if_pos hname, strip_listed htexts]
    rw [hvalue, Option.getD_some, elements_listed hsep htexts]

theorem Clean.subprotocols_read (hc : h.Clean) :
    elements ',' ((lastValue h.headers "sec-websocket-protocol").getD []) =
      h.subprotocols.map String.toList := by
  have hfixed : lastValue h.fixedHeaders "sec-websocket-protocol" = none := rfl
  unfold headers optionalHeaders
  rw [lastValue_append, lastValue_append, lastValue_append, lastValue_append,
    hc.lastValue_otherHeaders (by decide), lastValue_named (originHeaders_named h) (by decide),
    lastValue_named (listHeaders_named _ ';' _) (by decide), hfixed, Option.none_or, Option.none_or,
    Option.or_none, Option.or_none, elements_listHeaders rfl (.inl rfl) hc.subprotocols]

theorem Clean.extensions_read (hc : h.Clean) :
    elements ';' ((lastValue h.headers "sec-websocket-extensions").getD []) =
      h.extensions.map String.toList := by
  have hfixed : lastValue h.fixedHeaders "sec-websocket-extensions" = none := rfl
  unfold headers optionalHeaders
  rw [lastValue_append, lastValue_append, lastValue_append, lastValue_append,
    hc.lastValue_otherHeaders (by decide), lastValue_named (originHeaders_named h) (by decide),
    lastValue_named (listHeaders_named _ ',' _) (by decide), hfixed, Option.none_or, Option.or_none,
    Option.or_none, Option.or_none, elements_listHeaders rfl (.inr rfl) hc.extensions]

theorem Clean.origin_read (hc : h.Clean) :
    lastValue h.headers "origin" = h.sentOrigin.map (fun o => strip o.toList) := by
  have hfixed : lastValue h.fixedHeaders "origin" = none := rfl
  have hown : lastValue h.originHeaders "origin" = h.sentOrigin.map (fun o => strip o.toList) := by
    unfold originHeaders
    cases h.sentOrigin <;> rfl
  unfold headers optionalHeaders
  rw [lastValue_append, lastValue_append, lastValue_append, lastValue_append,
    hc.lastValue_otherHeaders (by decide), lastValue_named (listHeaders_named _ ',' _) (by decide),
    lastValue_named (listHeaders_named _ ';' _) (by decide), hfixed, hown, Option.none_or,
    Option.none_or, Option.none_or, Option.or_none]

theorem Clean.key_read (hc : h.Clean) :
    lastValue h.headers "sec-websocket-key" = some h.key.toList := by
  have hkey : strip h.key.toList = h.key.toList := strip_eq_self hc.key
  have hfixed : lastValue h.fixedHeaders "sec-websocket-key" = some (strip h.key.toList) := rfl
  rw [hc.lastValue_fixed, hfixed, hkey] <;> decide

/-- Under any other name there are the extra headers. -/
theorem lastValue_others {name : String} (hname : name.toList ∉ handshakeNames) :
    lastValue h.headers name = lastValue h.otherHeaders name := by
  have hown : ∀ p ∈ h.fixedHeaders ++ h.optionalHeaders, lower (strip p.1) ∈ handshakeNames := by
    intro p hp
    simp only [optionalHeaders, List.mem_append] at hp
    rcases hp with hfixed | horigin | hsub | hext
    · simp only [fixedHeaders, List.mem_cons, List.not_mem_nil, or_false] at hfixed
      rcases hfixed with rfl | rfl | rfl | rfl | rfl <;> exact of_decide_eq_true rfl
    · rw [originHeaders_named h p horigin]
      decide
    · rw [listHeaders_named _ _ _ p hsub]
      decide
    · rw [listHeaders_named _ _ _ p hext]
      decide
  have hnone : lastValue (h.fixedHeaders ++ h.optionalHeaders) name = none :=
    lastValue_eq_none (fun p hp he => hname (he ▸ hown p hp))
  unfold headers
  rw [← List.append_assoc, lastValue_append, hnone, Option.or_none]

/-- **The request is read back**: it ends where the handshake ended it, and a server reads the
handshake's own values off it, whatever comes behind. -/
theorem request_read_back (hc : h.Clean) (later : Bytes) : h.ReadAs (h.buildRequest ++ later) := by
  have hlines : ∀ line ∈ h.requestLine :: (fieldsOf h.headers hc.isHeader).map Field.line,
      IsLine line := by
    intro line hline
    obtain rfl | hline := List.mem_cons.mp hline
    · exact hc.isLine
    · obtain ⟨f, -, rfl⟩ := List.mem_map.mp hline
      exact f.isLine
  have hread := fieldOf_request hc later
  refine { ends := ?_, line := ?_, host := ?_, upgrade := ?_, connection := ?_, key := ?_,
           version := ?_, origin := ?_, subprotocols := ?_, extensions := ?_, others := ?_ }
  · rw [buildRequest_fields hc, findSub_block (List.cons_ne_nil _ _) hlines, block,
      List.length_append, Nat.add_sub_cancel]
  · have hblock := read_block (List.cons_ne_nil _ _) hlines later
    rw [← buildRequest_fields hc] at hblock
    have hfirst := congrArg (Option.map (fun lines : List Text => lines.headD [])) hblock
    rwa [Option.map_map] at hfirst
  · rw [hread, hc.lastValue_fixed] <;> first | rfl | decide
  · rw [hread, hc.lastValue_fixed] <;> first | rfl | decide
  · rw [hread, hc.lastValue_fixed] <;> first | rfl | decide
  · rw [hread, hc.key_read]
  · rw [hread, hc.lastValue_fixed] <;> first | rfl | decide
  · rw [hread, hc.origin_read]
  · rw [hread, hc.subprotocols_read]
  · rw [hread, hc.extensions_read]
  · intro name hname
    rw [hread, lastValue_others hname]

/-- Two subprotocols, an extension, an origin and a header of the caller's. -/
def fullHandshake : Handshake :=
  { key := "k9=", host := "h:81", path := "/p?q", origin := some "http://h:81"
    subprotocols := ["chat", "v2"], extensions := ["permessage-deflate"]
    extraHeaders := [("X-Token", "a: b")] }

theorem fullHandshake_clean : fullHandshake.Clean where
  path := by decide
  host := by decide
  key := fun c hc => by
    have hall : fullHandshake.key.toList.all (fun c => !isSpace c) = true := by decide
    simpa using List.all_eq_true.mp hall c hc
  origin := by
    intro o ho
    obtain rfl : "http://h:81" = o := Option.some.inj ho
    decide
  subprotocols := by decide
  extensions := by decide
  others := by
    intro p hp
    rw [List.mem_singleton.mp hp]
    exact ⟨by decide, by decide⟩
  otherNames := by
    intro p hp
    rw [List.mem_singleton.mp hp]
    decide

/-- The bytes behind it begin a frame. -/
theorem request_read_back_full :
    fullHandshake.ReadAs (fullHandshake.buildRequest ++ [0x81, 0x05]) :=
  request_read_back fullHandshake_clean [0x81, 0x05]

end Handshake
end JetSocket.Transport
