import JetSocket.Transport.Connect
import JetSocket.Transport.Feed
import JetSocket.Transport.Request
import Mathlib.Data.List.Infix

/- The opening handshake from both ends: `build_request` and `parse_response` (`_core.pyx`) in
   `_perform_handshake` (`transport/_async.py`), against any server that keeps to the protocol.

   A server reads the request off its bytes and answers with a header (`Answer`): the fields in any
   order, with any others between them, blanks around the values, names in any case, the last field
   of a name counting. What it owes is in terms of the request as it was read. The key's
   answer stands for the key that was sent, a subprotocol is one of those that were offered, and
   permessage-deflate is accepted only where it was offered, with parameters in any order.

   Results:
     `answer_accepted`   — such an answer passes all of the client's checks.
     `handshake_agrees`  — the client goes on with the subprotocol, the extension and the parameters
                           of permessage-deflate that the server answered with.
     `connect_agrees`    — so does `connect`, which reads what is behind the header as frames: all of
                           them are queued or answered when it returns, and nothing but an error of
                           zlib or of the frame parser keeps it from that. -/
namespace JetSocket.Transport
open JetSocket.Core Incremental

/-! ## Texts in texts -/

theorem isIn_append (before sub after : Text) : isIn sub (before ++ (sub ++ after)) = true := by
  unfold isIn
  rw [List.any_eq_true]
  exact ⟨sub ++ after, (List.mem_tails _ _).mpr (List.suffix_append _ _),
    List.isPrefixOf_iff_prefix.mpr (List.prefix_append _ _)⟩

theorem lower_append (text more : Text) : lower (text ++ more) = lower text ++ lower more :=
  List.flatMap_append

/-- A piece between separators is in the text. -/
theorem infix_of_mem_intercalate (sep : Text) {piece : Text} {texts : List Text}
    (h : piece ∈ texts) :
    ∃ before after, sep.intercalate texts = before ++ (piece ++ after) := by
  induction texts with
  | nil => exact absurd h List.not_mem_nil
  | cons text texts ih =>
    have hhere : ∃ after, sep.intercalate (text :: texts) = text ++ after := by
      cases texts with
      | nil => exact ⟨[], by rw [List.intercalate_singleton, List.append_nil]⟩
      | cons next texts =>
        exact ⟨_, by rw [List.intercalate_cons_cons, List.append_assoc]⟩
    obtain rfl | hmem := List.mem_cons.mp h
    · obtain ⟨after, hafter⟩ := hhere
      exact ⟨[], after, hafter⟩
    · obtain ⟨before, after, hrest⟩ := ih hmem
      refine ⟨text ++ (sep ++ before), after, ?_⟩
      rw [List.intercalate_cons_of_ne_nil (List.ne_nil_of_mem hmem), hrest]
      simp only [List.append_assoc]

/-- A token of a field is in its text. -/
theorem isIn_of_mem_tokens {token value : Text} (h : token ∈ tokens value) :
    isIn token (lower value) = true := by
  obtain ⟨piece, hpiece, rfl⟩ := List.mem_map.mp h
  rw [split_eq_splitOn] at hpiece
  obtain ⟨before, after, hvalue⟩ := infix_of_mem_intercalate [','] hpiece
  rw [List.intercalate_splitOn] at hvalue
  -- the blanks of the piece
  obtain ⟨left, hleft⟩ := List.dropWhile_suffix isSpace (l := piece)
  obtain ⟨right, hright⟩ := List.rdropWhile_prefix isSpace (piece.dropWhile isSpace)
  have hstrip : piece = left ++ (strip piece ++ right) := by
    rw [strip_eq_trim]
    unfold Trim.trim
    rw [hright, hleft]
  rw [hvalue, hstrip, lower_append, lower_append, lower_append, lower_append]
  have hin := isIn_append (lower before ++ lower left) (lower (strip piece))
    (lower right ++ lower after)
  have hmiddle : strip (left ++ (strip piece ++ right)) = strip piece := by rw [← hstrip]
  rw [hmiddle]
  simpa only [List.append_assoc] using hin

/-! ## The answer -/

/-- The subprotocols that a server reads off a request. -/
def offeredSubprotocols (request : Bytes) : List Text :=
  elements ',' ((fieldOf request "sec-websocket-protocol").getD [])

/-- The extensions that a server reads off a request. -/
def offeredExtensions (request : Bytes) : List Text :=
  elements ';' ((fieldOf request "sec-websocket-extensions").getD [])

/-- An extensions field that accepts permessage-deflate with these parameters. -/
def Accepts (value : Text) (offer : Offer) : Prop :=
  ∃ (pad : Padding) (ps : List (Param × Padding)),
    (ps.map Prod.fst).Perm offer.params ∧ value = extensionText pad ps

/-- What a server answers to a request. -/
structure Answer (acceptKey : String → String) (request : Bytes) where
  reason : Text
  fields : List Field
  deflate : Option Offer
  oneLine : '\n' ∉ reason
  upgrade : ∃ v, lastField fields "upgrade" = some v ∧ lower v = "websocket".toList
  connection : ∃ v, lastField fields "connection" = some v ∧ "upgrade".toList ∈ tokens v
  accept : ∃ key, fieldOf request "sec-websocket-key" = some key ∧
    lastField fields "sec-websocket-accept" = some (acceptKey (String.ofList key)).toList
  subprotocol : ∀ p, lastField fields "sec-websocket-protocol" = some p →
    p ∈ offeredSubprotocols request
  extensions : match deflate with
    | none => lastField fields "sec-websocket-extensions" = none
    | some offer => ∃ v, lastField fields "sec-websocket-extensions" = some v ∧ Accepts v offer
  asked : ∀ offer, deflate = some offer →
    "permessage-deflate".toList ∈ offeredExtensions request ∧
    (9 ≤ offer.result.clientMaxWindowBits ∧ offer.result.clientMaxWindowBits ≤ 15) ∧
    (9 ≤ offer.result.serverMaxWindowBits ∧ offer.result.serverMaxWindowBits ≤ 15)

/-- No comma in what is said of the parameters. -/
theorem Offer.not_mem_render {offer : Offer} {param : Param} (h : param ∈ offer.params)
    (pad : Padding) : ',' ∉ param.render pad := by
  cases param with
  | clientNoContextTakeover | serverNoContextTakeover =>
    exact pad.not_mem_around (by decide) (by decide)
  | clientMaxWindowBits n | serverMaxWindowBits n =>
    exact not_mem_valued (by decide) (by decide) (by decide) (by decide) n pad
  | unknown u =>
    obtain ⟨cnct, snct, cmwb, smwb⟩ := offer
    cases cnct <;> cases snct <;> cases cmwb <;> cases smwb <;> simp [Offer.params] at h

theorem split_comma {text : Text} (h : ',' ∉ text) : split [','] text = [text] := by
  have hfree : ∀ l ∈ [text], ',' ∉ l := by
    intro l hl
    rwa [List.mem_singleton.mp hl]
  have hone := List.splitOn_intercalate ',' hfree (List.cons_ne_nil _ _)
  rwa [List.intercalate_singleton, ← split_eq_splitOn] at hone

theorem not_mem_strip {c : Char} {text : Text} (h : c ∉ text) : c ∉ strip text :=
  fun hmem => h (Trim.mem_of_mem_trim hmem)

namespace Accepts

variable {value : Text} {offer : Offer}

theorem params (h : Accepts value offer) : parseDeflateParams value = .ok offer.result := by
  obtain ⟨pad, ps, hps, rfl⟩ := h
  refine params_read_back offer [] pad ps ?_
  rwa [List.map_nil, List.append_nil]

theorem isIn (h : Accepts value offer) :
    isIn "permessage-deflate".toList (lower value) = true := by
  obtain ⟨pad, ps, -, rfl⟩ := h
  obtain ⟨before, after, htext⟩ := infix_of_mem_intercalate [';']
    (List.mem_cons_self (a := pad.around "permessage-deflate".toList)
      (l := ps.map (fun p => p.1.render p.2)))
  have hname : lower "permessage-deflate".toList = "permessage-deflate".toList := by decide
  unfold extensionText
  rw [htext]
  unfold Padding.around
  rw [lower_append, lower_append, lower_append, lower_append, hname]
  have hin := isIn_append (lower before ++ lower pad.before) "permessage-deflate".toList
    (lower pad.after ++ lower after)
  simpa only [List.append_assoc] using hin

/-- The pieces of the field: the name, then the parameters. -/
theorem pieces_eq (h : Accepts value offer) : ∃ others : List Text,
    pieces value = "permessage-deflate".toList :: others ∧ ∀ p ∈ others, ',' ∉ p := by
  obtain ⟨pad, ps, hps, rfl⟩ := h
  have hname : strip (pad.around "permessage-deflate".toList) = "permessage-deflate".toList :=
    (pad.strip_around _).trans (by decide)
  have hfree : ∀ l ∈ pad.around "permessage-deflate".toList ::
      ps.map (fun p => p.1.render p.2), ';' ∉ l := by
    intro l hl
    obtain rfl | hl := List.mem_cons.mp hl
    · exact pad.not_mem_around (by decide) (by decide)
    · obtain ⟨p, -, rfl⟩ := List.mem_map.mp hl
      exact p.1.not_mem_render p.2
  have hne : (extensionText pad ps).isEmpty = false := by
    obtain ⟨before, after, htext⟩ := infix_of_mem_intercalate [';']
      (List.mem_cons_self (a := pad.around "permessage-deflate".toList)
        (l := ps.map (fun p => p.1.render p.2)))
    unfold extensionText
    rw [htext]
    unfold Padding.around
    refine List.isEmpty_eq_false_iff.mpr ?_
    refine List.append_ne_nil_of_right_ne_nil _ (List.append_ne_nil_of_left_ne_nil ?_ _)
    refine List.append_ne_nil_of_right_ne_nil _ (List.append_ne_nil_of_left_ne_nil (by decide) _)
  refine ⟨(ps.map (fun p => p.1.render p.2)).map strip, ?_, ?_⟩
  · unfold pieces
    rw [hne, if_neg (by decide)]
    unfold extensionText
    rw [split_eq_splitOn, List.splitOn_intercalate ';' hfree (List.cons_ne_nil _ _), List.map_cons,
      hname]
  · intro p hp
    obtain ⟨text, htext, rfl⟩ := List.mem_map.mp hp
    obtain ⟨q, hq, rfl⟩ := List.mem_map.mp htext
    have hparam : q.1 ∈ offer.params := hps.subset (List.mem_map_of_mem hq)
    exact not_mem_strip (Offer.not_mem_render hparam q.2)

theorem extensionNames_eq (h : Accepts value offer) :
    extensionNames (pieces value) = ["permessage-deflate".toList] := by
  obtain ⟨others, hpieces, hothers⟩ := h.pieces_eq
  have htails : others.flatMap (fun p => (split [','] p).tail) = [] := by
    rw [List.flatMap_eq_nil_iff]
    intro p hp
    rw [split_comma (hothers p hp), List.tail_cons]
  rw [hpieces, extensionNames, htails, List.append_nil]
  decide

end Accepts

namespace Answer

variable {acceptKey : String → String} {request : Bytes}

def statusLine (a : Answer acceptKey request) : Text :=
  "HTTP/1.1".toList ++ ' ' :: ("101".toList ++ ' ' :: a.reason)

/-- The bytes of the answer. -/
def bytes (a : Answer acceptKey request) : Bytes :=
  block (a.statusLine :: a.fields.map Field.line)

theorem isLine (a : Answer acceptKey request) : IsLine a.statusLine := by
  refine ⟨List.append_ne_nil_of_left_ne_nil (by decide) _, ?_⟩
  have hone := a.oneLine
  unfold statusLine
  simp only [List.mem_append, List.mem_cons]
  rintro (hmem | hmem | hmem | hmem | hmem)
  · exact absurd hmem (by decide)
  · exact absurd hmem (by decide)
  · exact absurd hmem (by decide)
  · exact absurd hmem (by decide)
  · exact hone hmem

theorem isLines (a : Answer acceptKey request) :
    ∀ line ∈ a.statusLine :: a.fields.map Field.line, IsLine line := by
  intro line hline
  obtain rfl | hline := List.mem_cons.mp hline
  · exact a.isLine
  · obtain ⟨f, -, rfl⟩ := List.mem_map.mp hline
    exact f.isLine

theorem fieldOf_bytes (a : Answer acceptKey request) (later : Bytes) (name : String) :
    fieldOf (a.bytes ++ later) name = lastField a.fields name :=
  fieldOf_block a.isLine a.fields later name

theorem status_word (a : Answer acceptKey request) :
    (splitAtMost ' ' 2 a.statusLine)[1]? = some "101".toList := by
  have hversion := span_of_not_mem (show ' ' ∉ "HTTP/1.1".toList by decide)
    (' ' :: ("101".toList ++ ' ' :: a.reason)) (by simp)
  have hcode := span_of_not_mem (show ' ' ∉ "101".toList by decide)
    (' ' :: a.reason) (by simp)
  unfold statusLine
  rw [splitAtMost, hversion]
  dsimp only
  rw [splitAtMost, hcode]
  rfl

theorem status (a : Answer acceptKey request) (later : Bytes) :
    statusOf (a.bytes ++ later) = some 101 := by
  have hnumber : pyInt "101".toList = some 101 := by decide
  unfold bytes
  rw [statusOf_block a.isLines, status_word, Option.bind_some, hnumber]

end Answer

/-! ## The agreement -/

section Agreement
variable {acceptKey : String → String} {h : Handshake}

/-- What the server reads of the request. -/
theorem fieldOf_buildRequest (hc : h.Clean) (name : String) :
    fieldOf h.buildRequest name = lastValue h.headers name := by
  have hread := Handshake.fieldOf_request hc [] name
  rwa [List.append_nil] at hread

/-- The answer is to the key that was sent. -/
theorem Answer.accept_key (hc : h.Clean) (a : Answer acceptKey h.buildRequest) :
    lastField a.fields "sec-websocket-accept" = some (acceptKey h.key).toList := by
  obtain ⟨key, hkey, haccept⟩ := a.accept
  rw [fieldOf_buildRequest hc, hc.key_read] at hkey
  rw [haccept, ← Option.some.inj hkey, String.ofList_toList]

theorem Answer.subprotocol_offered (hc : h.Clean) (a : Answer acceptKey h.buildRequest) :
    ∀ p, lastField a.fields "sec-websocket-protocol" = some p →
      p ∈ h.subprotocols.map String.toList := by
  intro p hp
  have hoffered := a.subprotocol p hp
  unfold offeredSubprotocols at hoffered
  rwa [fieldOf_buildRequest hc, hc.subprotocols_read] at hoffered

theorem Answer.deflate_offered (hc : h.Clean) (a : Answer acceptKey h.buildRequest)
    {offer : Offer} (hoffer : a.deflate = some offer) :
    "permessage-deflate" ∈ h.extensions := by
  have hasked := (a.asked offer hoffer).1
  unfold offeredExtensions at hasked
  rw [fieldOf_buildRequest hc, hc.extensions_read] at hasked
  obtain ⟨e, he, htext⟩ := List.mem_map.mp hasked
  rwa [String.toList_inj.mp htext] at he

/-- **The answer is accepted.** -/
theorem answer_checked (hc : h.Clean) (a : Answer acceptKey h.buildRequest) (later : Bytes) :
    Checked acceptKey h (a.bytes ++ later) := by
  obtain ⟨v, hupgrade, hlower⟩ := a.upgrade
  obtain ⟨w, hconnection, htoken⟩ := a.connection
  refine ⟨?_, a.status later, ?_, ?_, ?_⟩
  · unfold Answer.bytes
    rw [headerText_block (List.cons_ne_nil _ _) a.isLines]
    rfl
  · rw [a.fieldOf_bytes, hupgrade, Option.getD_some, hlower]
  · rw [a.fieldOf_bytes, hconnection, Option.getD_some, isIn_of_mem_tokens htoken]
  · rw [a.fieldOf_bytes, a.accept_key hc]

/-- It keeps to what was offered. -/
theorem answer_honest (hc : h.Clean) (a : Answer acceptKey h.buildRequest) (later : Bytes) :
    Honest h (a.bytes ++ later) := by
  obtain ⟨w, hconnection, htoken⟩ := a.connection
  refine ⟨?_, ?_, ?_⟩
  · rw [a.fieldOf_bytes, hconnection, Option.getD_some]
    exact htoken
  · rw [a.fieldOf_bytes]
    exact a.subprotocol_offered hc
  · intro name hname
    rw [a.fieldOf_bytes] at hname
    have hextensions := a.extensions
    cases hdeflate : a.deflate with
    | none =>
      simp only [hdeflate] at hextensions
      rw [hextensions] at hname
      exact absurd hname List.not_mem_nil
    | some offer =>
      simp only [hdeflate] at hextensions
      obtain ⟨value, hvalue, haccepts⟩ := hextensions
      rw [hvalue, Option.getD_some, haccepts.extensionNames_eq, List.mem_singleton] at hname
      unfold Handshake.offeredExtensions
      refine List.mem_flatMap.mpr ⟨_, a.deflate_offered hc hdeflate, ?_⟩
      rw [hname]
      decide

theorem Answer.parse (hc : h.Clean) (a : Answer acceptKey h.buildRequest) (later : Bytes) :
    h.parseResponse acceptKey (a.bytes ++ later) = .ok (resultOf (a.bytes ++ later)) :=
  parseResponse_ok_iff.mpr ⟨answer_checked hc a later, rfl⟩

theorem Answer.checks (hc : h.Clean) (a : Answer acceptKey h.buildRequest) (later : Bytes) :
    ClientChecks acceptKey h (resultOf (a.bytes ++ later)) :=
  ((sound_iff acceptKey h (a.bytes ++ later)).mpr (fun _ => answer_honest hc a later)).checks _
    (a.parse hc later)

/-- The deflater for the parameters that were accepted. -/
def agreed (Z : Zlib) (offer : Offer) : Deflater Z where
  clientNoContextTakeover := offer.result.clientNoContextTakeover
  serverNoContextTakeover := offer.result.serverNoContextTakeover
  clientMaxWindowBits := offer.result.clientMaxWindowBits
  serverMaxWindowBits := offer.result.serverMaxWindowBits
  decompressor := Z.decompressobj (-offer.result.serverMaxWindowBits)

variable {Z : Zlib}

/-- The client compresses as the server answered. -/
theorem Answer.negotiate (hc : h.Clean) (a : Answer acceptKey h.buildRequest) (later : Bytes)
    {compression : Bool} (hoffers : "permessage-deflate" ∈ h.extensions → compression = true) :
    negotiate Z compression (resultOf (a.bytes ++ later)) = .ok (a.deflate.map (agreed Z)) := by
  have hfield : header (resultOf (a.bytes ++ later)).headers "sec-websocket-extensions" =
      lastField a.fields "sec-websocket-extensions" :=
    (header_headerLines _ _).trans (a.fieldOf_bytes later _)
  have hextensions := a.extensions
  unfold Transport.negotiate
  dsimp only
  rw [hfield]
  cases hdeflate : a.deflate with
  | none =>
    simp only [hdeflate] at hextensions
    have hnot : isIn "permessage-deflate".toList (lower []) = false := by decide
    rw [hextensions, Option.getD_none, hnot, Bool.and_false]
    rfl
  | some offer =>
    simp only [hdeflate] at hextensions
    obtain ⟨value, hvalue, haccepts⟩ := hextensions
    obtain ⟨-, hclient, hserver⟩ := a.asked offer hdeflate
    rw [hvalue, Option.getD_some, hoffers (a.deflate_offered hc hdeflate), haccepts.isIn,
      haccepts.params]
    have hnew : Deflater.new Z offer.result.clientNoContextTakeover
        offer.result.serverNoContextTakeover offer.result.clientMaxWindowBits
        offer.result.serverMaxWindowBits = .ok (agreed Z offer) := by
      unfold Deflater.new
      rw [if_neg (not_not_intro hclient), if_neg (not_not_intro hserver)]
      rfl
    simp only [Bool.and_self, if_true, bind, Except.bind, hnew]
    rfl

/-- The frames begin behind the answer. -/
theorem Answer.leftover (a : Answer acceptKey h.buildRequest) (early : Bytes) :
    leftover (a.bytes ++ early) = early := by
  have hfind := findSub_block (List.cons_ne_nil _ _) a.isLines early
  have hlen : (encodeText (['\r', '\n'].intercalate
      (a.statusLine :: a.fields.map Field.line))).length + 4 = a.bytes.length := by
    unfold Answer.bytes block
    rw [List.length_append]
    rfl
  unfold Transport.leftover
  rw [show findSub headerEnd (a.bytes ++ early) = _ from hfind]
  dsimp only
  rw [hlen, List.drop_left]

end Agreement

section Connect
variable {Z : Zlib} {acceptKey : String → String} {urlparse : UrlParse} {config : HandshakeConfig}
  {key uri : String} {u : WebSocketURI} {net : Network} {t : AsyncTransport Z}

/-- `_perform_handshake` on the answer. -/
theorem performHandshake_agrees (hc : (handshake config key u).Clean)
    (a : Answer acceptKey (handshake config key u).buildRequest) (early later : Bytes) :
    performHandshake Z acceptKey config (handshake config key u)
      (.received (a.bytes ++ early) later) = .ok (a.deflate.map (agreed Z)) := by
  have hoffers : "permessage-deflate" ∈ (handshake config key u).extensions →
      config.compression = true := by
    intro hmem
    unfold handshake at hmem
    by_contra hoff
    rw [if_neg hoff] at hmem
    exact absurd hmem List.not_mem_nil
  unfold performHandshake
  dsimp only
  rw [a.parse hc early]
  exact a.negotiate hc early hoffers

/-- Both ends have the same handshake: what the client returns passes its checks and says what the
server answered, and `connect` goes on with it. The bytes behind the answer, those that came with it
and those that came later, are its frames. -/
structure Agrees (Z : Zlib) (acceptKey : String → String) (h : Handshake)
    (a : Answer acceptKey h.buildRequest) (settings : TransportConfig) (early later : Bytes)
    (connected : AsyncTransport Z × ConnectEnd) : Prop where
  checks : ∃ result, h.parseResponse acceptKey (a.bytes ++ early) = .ok result ∧
    ClientChecks acceptKey h result ∧
    result.subprotocol = lastField a.fields "sec-websocket-protocol"
  params : connected.1.conn.proto.deflater.map Deflater.params = a.deflate.map Offer.result
  ends : connected.2 = .connected ∧ connected.1.connected = true ∨
    ∃ e, connected.2 = .aborted e ∧ (e = .zlibError ∨ ∃ msg, e = .overflowError msg)
  frames : ∀ {rest : Bytes} {frames queued : List Frame} {n : Nat} {d : Option (Deflater Z)},
    drain (parseFrame settings.order settings.maxFrameSize) (early ++ later) =
      (rest, .ok (frames, n)) →
    inflateAll (a.deflate.map (agreed Z)) frames = some (queued, d) →
    connected.2 = .connected ∧ connected.1.connected = true ∧
      Fed settings h.buildRequest [] connected.1.conn rest frames queued d

/-- How `connect` ends, once the handshake is done. -/
theorem finished_ends (t : AsyncTransport Z) (deflater : Option (Deflater Z)) (keys : Nat → MaskKey) :
    (t.finishConnect deflater keys).2 = none ∧
        (t.finishConnect deflater keys).1.connected = true ∨
      ∃ e, (t.finishConnect deflater keys).2 = some e ∧
        (e = .zlibError ∨ ∃ msg, e = .overflowError msg) := by
  cases hend : (t.finishConnect deflater keys).2 with
  | some e => exact .inr ⟨e, rfl, finishConnect_exc hend⟩
  | none =>
    refine .inl ⟨rfl, ?_⟩
    unfold AsyncTransport.finishConnect at hend ⊢
    dsimp only at hend ⊢
    split at hend
    · cases hend
    · rfl

/-- **Agreement**: any answer that keeps to the protocol is accepted, whatever was offered and
whatever comes behind it. -/
theorem connect_agrees (hidle : t.connected = false) (huri : parseUri urlparse uri = .ok u)
    (hdial : (resolveDns u.host net.lookup).bind (tryAddresses u net.dial none) = .ok ())
    (hc : (handshake config key u).Clean)
    (a : Answer acceptKey (handshake config key u).buildRequest) (early later : Bytes)
    (hresponse : net.response = .received (a.bytes ++ early) later) :
    Agrees Z acceptKey (handshake config key u) a t.config early later
      (t.connect urlparse acceptKey config key uri net) := by
  generalize hbegun : (t.beginHandshake (handshake config key u).buildRequest).answered
    (.received (a.bytes ++ early) later) = begun
  have hleft : leftover begun.conn.proto.handshakeBuffer = early ++ later := by
    rw [← hbegun]
    show leftover (a.bytes ++ early ++ later) = early ++ later
    rw [List.append_assoc, a.leftover]
  have hperform := performHandshake_agrees (Z := Z) hc a early later
  have hconnect : t.connect urlparse acceptKey config key uri net =
      ((begun.finishConnect (a.deflate.map (agreed Z)) net.keys).1,
        (begun.finishConnect (a.deflate.map (agreed Z)) net.keys).2.elim .connected .aborted) := by
    unfold AsyncTransport.connect
    simp only [hidle, Bool.false_eq_true, if_false, huri, hdial, hresponse, hperform, hbegun]
    generalize begun.finishConnect (a.deflate.map (agreed Z)) net.keys = finished
    obtain ⟨t', e⟩ := finished
    cases e <;> rfl
  have hends := finished_ends begun (a.deflate.map (agreed Z)) net.keys
  rw [hconnect]
  refine ⟨⟨_, a.parse hc early, a.checks hc early, a.fieldOf_bytes early _⟩, ?_, ?_, ?_⟩
  · have hagreed : (a.deflate.map (agreed Z)).map Deflater.params = a.deflate.map Offer.result := by
      rw [Option.map_map]
      rfl
    rw [← hagreed]
    show (begun.finishConnect (a.deflate.map (agreed Z)) net.keys).1.conn.proto.deflater.map
      Deflater.params = _
    rw [finishConnect_conn]
    split
    · rfl
    · exact dataReceived_params _ _ _
  · obtain ⟨hend, hconnected⟩ | ⟨e, hend, he⟩ := hends
    · exact .inl ⟨by rw [hend]; rfl, hconnected⟩
    · exact .inr ⟨e, by rw [hend]; rfl, he⟩
  · intro rest frames queued n d hdrain hinf
    -- nothing has come on the connection yet
    have hbase : Fed t.config (handshake config key u).buildRequest []
        (begun.switchToFrames (a.deflate.map (agreed Z))) [] [] []
        (a.deflate.map (agreed Z)) := by
      subst hbegun
      exact ⟨rfl, rfl, rfl, rfl, [], rfl, rfl⟩
    rw [← hleft] at hdrain
    obtain ⟨hend, hfed⟩ := finishConnect_fed hbase net.keys hdrain hinf
    obtain ⟨-, hconnected⟩ | ⟨e, hraised, -⟩ := hends
    · exact ⟨by rw [hend]; rfl, hconnected, hfed⟩
    · rw [hend] at hraised
      cases hraised

/-- A URI that `urlparse` splits. -/
def chatParse : UrlParse := fun _ =>
  .ok { scheme := "ws", hostname := some "h", port := .ok none, path := "/p", query := ""
        fragment := "", username := none, password := none }

def chatUri : WebSocketURI :=
  { scheme := .ws, host := "h", port := 80, path := "/p", query := none, fragment := none
    userinfo := none }

def chatConfig : HandshakeConfig :=
  { compression := true, origin := none, subprotocols := ["chat", "v2"], extraHeaders := [] }

theorem chat_clean : (handshake chatConfig sampleKey chatUri).Clean where
  path := by decide
  host := by decide
  key := fun c hc => by
    have hall : sampleKey.toList.all (fun c => !isSpace c) = true := by decide
    simpa using List.all_eq_true.mp hall c hc
  origin := by
    intro o ho
    obtain rfl : "http://h" = o := Option.some.inj ho
    decide
  subprotocols := by decide
  extensions := by decide
  others := fun p hp => absurd hp List.not_mem_nil
  otherNames := fun p hp => absurd hp List.not_mem_nil

/-- One window size and a flag. -/
def chatOffer : Offer := ⟨true, false, none, some (.ofNat 10 (by decide))⟩

/-- An answer with the names in another order and case. -/
def chatAnswer :
    Answer sampleAcceptKey (handshake chatConfig sampleKey chatUri).buildRequest where
  reason := "ok".toList
  fields := fieldsOf
    [("connection".toList, "keep-alive, Upgrade".toList), ("UPGRADE".toList, "WebSocket".toList),
      ("Server".toList, "x".toList),
      ("sec-websocket-accept".toList, "s3pPLMBiTxaQ9kYGzzhZRbK+xOo=".toList),
      ("Sec-WebSocket-Protocol".toList, "v2".toList),
      ("Sec-WebSocket-Extensions".toList,
        "permessage-deflate; server_max_window_bits=10; client_no_context_takeover".toList)]
    (by
      intro p hp
      simp only [List.mem_cons, List.not_mem_nil, or_false] at hp
      rcases hp with rfl | rfl | rfl | rfl | rfl | rfl <;> exact ⟨by decide, by decide⟩)
  deflate := some chatOffer
  oneLine := by decide
  upgrade := ⟨"WebSocket".toList, by rw [lastField_fieldsOf]; rfl, by decide⟩
  connection := ⟨"keep-alive, Upgrade".toList, by rw [lastField_fieldsOf]; rfl, by decide⟩
  accept := ⟨sampleKey.toList, by rw [fieldOf_buildRequest chat_clean, chat_clean.key_read]; rfl,
    by rw [lastField_fieldsOf]; rfl⟩
  subprotocol := by
    intro p hp
    rw [lastField_fieldsOf] at hp
    unfold offeredSubprotocols
    rw [fieldOf_buildRequest chat_clean, chat_clean.subprotocols_read, ← Option.some.inj hp]
    decide
  extensions := by
    rw [lastField_fieldsOf]
    refine ⟨_, rfl, spaced [] [] rfl,
      [(.serverMaxWindowBits (.ofNat 10 (by decide)), spaced [' '] [] rfl),
        (.clientNoContextTakeover, spaced [' '] [] rfl)], ?_, ?_⟩
    · exact List.Perm.swap _ _ _
    · decide +kernel
  asked := by
    intro offer hoffer
    rw [← Option.some.inj hoffer]
    unfold offeredExtensions
    rw [fieldOf_buildRequest chat_clean, chat_clean.extensions_read]
    exact ⟨by decide, by decide, by decide⟩

/-- That server. A byte of a text frame comes with its answer; the rest and the head of another
come later. -/
def chatNet : Network :=
  { lookup := .resolved [(2, "1.2.3.4")], dial := fun _ => .connected
    response := .received (chatAnswer.bytes ++ [0x81]) [0x01, 0x41, 0x82]
    keys := fun _ => ⟨1, 2, 3, 4⟩ }

def chatTransport : AsyncTransport plainZlib :=
  AsyncTransport.new plainZlib ⟨.little, 1024, 4096, false⟩

/-- The text frame is queued, and the connection inflates with the settings of the answer. -/
theorem connect_agrees_chat :
    let connected :=
      chatTransport.connect chatParse sampleAcceptKey chatConfig sampleKey "ws://h/p" chatNet
    Agrees plainZlib sampleAcceptKey (handshake chatConfig sampleKey chatUri) chatAnswer
        chatTransport.config [0x81] [0x01, 0x41, 0x82] connected ∧
      connected.2 = .connected ∧
      connected.1.conn.proto.frames = [{ opcode := .text, payload := [0x41] }] ∧
      connected.1.conn.proto.deflater.map Deflater.params =
        some { clientNoContextTakeover := true, serverMaxWindowBits := 10 } := by
  intro connected
  have hdial : (resolveDns chatUri.host chatNet.lookup).bind (tryAddresses chatUri chatNet.dial none) =
      .ok () := rfl
  have hagrees : Agrees plainZlib sampleAcceptKey (handshake chatConfig sampleKey chatUri) chatAnswer
      chatTransport.config [0x81] [0x01, 0x41, 0x82] connected :=
    connect_agrees (t := chatTransport) (u := chatUri) rfl rfl hdial chat_clean chatAnswer [0x81]
      [0x01, 0x41, 0x82] rfl
  have hdrain : drain (parseFrame .little 1024) ([0x81] ++ [0x01, 0x41, 0x82]) =
      ([0x82], .ok ([{ opcode := .text, payload := [0x41] }], 3)) := rfl
  have hinflate : inflateAll (chatAnswer.deflate.map (agreed plainZlib))
      [{ opcode := .text, payload := [0x41] }] =
        some ([{ opcode := .text, payload := [0x41] }], some (agreed plainZlib chatOffer)) := rfl
  obtain ⟨hend, -, hfed⟩ := hagrees.frames hdrain hinflate
  exact ⟨hagrees, hend, (List.nil_append _).symm.trans hfed.queue, hagrees.params⟩

end Connect

end JetSocket.Transport
