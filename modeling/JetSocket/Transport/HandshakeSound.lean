import JetSocket.Transport.StatusLine
import Mathlib.Data.List.Induction

/- What a client must check of the response to its handshake, and what `parse_response` checks
   (`_core.pyx`, `Handshake.parse_response`).

   `ClientChecks` says what has to hold of a result that is returned, in terms of the result and of
   what was offered. The fields of a response are read off its bytes (`fieldOf`): the last header
   line with the name counts, white space around names and values does not, nor does the case of
   names.

   Results:
     `parseResponse_ok_iff` — what the code checks, field by field.
     `sound_iff`            — what is returned passes all the client's checks exactly when the
                              response, wherever the code accepts it, has the token in Connection,
                              an offered subprotocol and offered extensions.
     `parseResponse_early`  — the bytes behind the header do not matter. -/
namespace JetSocket.Transport
open JetSocket.Core

/-! ## The fields of a response -/

/-- The text before the first empty line. -/
def headerText (response : Bytes) : Option Text :=
  (findSub headerEnd response).bind (fun n => decodeStrict (response.take n))

/-- The header lines, without the status line. -/
def headerLines (response : Bytes) : List Text :=
  (split "\r\n".toList ((headerText response).getD [])).tail

/-- The value of a line, if it is a header line of this name. -/
def valueOf (name line : Text) : Option Text :=
  match splitAtMost ':' 1 line with
  | [n, v] => if lower (strip n) = name then some (strip v) else none
  | _ => none

/-- A header field of the response: its last line counts. -/
def fieldOf (response : Bytes) (name : String) : Option Text :=
  (headerLines response).reverse.findSome? (valueOf name.toList)

/-- The dictionary of the code holds the last line of every name. -/
theorem header_readHeaders (lines : List Text) (name : String) :
    header (readHeaders lines) name = lines.reverse.findSome? (valueOf name.toList) := by
  induction lines using List.reverseRecOn with
  | nil => rfl
  | append_singleton lines line ih =>
    rw [List.reverse_append, List.reverse_singleton, List.singleton_append, List.findSome?_cons, ← ih]
    unfold readHeaders header valueOf
    rw [List.foldl_append, List.foldl_cons, List.foldl_nil]
    generalize splitAtMost ':' 1 line = parts
    match parts with
    | [] | [_] | _ :: _ :: _ :: _ => rfl
    | [n, v] =>
      dsimp only
      rw [List.lookup_cons]
      by_cases hname : lower (strip n) = name.toList
      · rw [if_pos hname, hname, beq_self_eq_true]
      · rw [if_neg hname]
        have hne : (name.toList == lower (strip n)) = false := by
          simpa using fun h => hname h.symm
        rw [hne]

/-- The comma-separated tokens of a field, case ignored. -/
def tokens (value : Text) : List Text := (split [','] value).map (fun t => lower (strip t))

/-- The pieces of an extensions field between its semicolons. -/
def pieces (value : Text) : List Text := if value.isEmpty then [] else (split [';'] value).map strip

/-- The names of the extensions in the pieces of a field: a name begins the field or stands behind
a comma, and what else is between semicolons are parameters. -/
def extensionNames : List Text → List Text
  | [] => []
  | first :: others =>
    ((split [','] first ++ others.flatMap (fun p => (split [','] p).tail)).map strip).filter
      (fun name => !name.isEmpty)

/-- The extensions that the client offers. -/
def Handshake.offeredExtensions (h : Handshake) : List Text :=
  h.extensions.flatMap (fun e => extensionNames (pieces e.toList))

/-! ## What the client has to check -/

/-- The checks of RFC 6455 on what is returned. -/
structure ClientChecks (acceptKey : String → String) (h : Handshake) (result : HandshakeResult) :
    Prop where
  status : result.status = 101
  upgrade : lower ((header result.headers "upgrade").getD []) = "websocket".toList
  connection : "upgrade".toList ∈ tokens ((header result.headers "connection").getD [])
  accept : header result.headers "sec-websocket-accept" = some (acceptKey h.key).toList
  subprotocol : ∀ p, result.subprotocol = some p → p ∈ h.subprotocols.map String.toList
  extensions : ∀ name ∈ extensionNames result.extensions, name ∈ h.offeredExtensions

/-- A handshake is sound on a response: what it returns passes the checks, and what comes behind
the header makes no difference. Whatever is not returned is a `ValueError`. -/
structure Sound (acceptKey : String → String) (h : Handshake) (response : Bytes) : Prop where
  checks : ∀ result, h.parseResponse acceptKey response = .ok result →
    ClientChecks acceptKey h result
  early : ∀ n, findSub headerEnd response = some n → ∀ later,
    h.parseResponse acceptKey (response.take (n + headerEnd.length) ++ later) =
      h.parseResponse acceptKey response

/-- What the code checks of a response. -/
structure Checked (acceptKey : String → String) (h : Handshake) (response : Bytes) : Prop where
  text : (headerText response).isSome = true
  status : statusOf response = some 101
  upgrade : lower ((fieldOf response "upgrade").getD []) = "websocket".toList
  connection : isIn "upgrade".toList (lower ((fieldOf response "connection").getD [])) = true
  accept : fieldOf response "sec-websocket-accept" = some (acceptKey h.key).toList

/-- What the code leaves to the server: the token in Connection, and an answer that keeps to what
was offered. -/
structure Honest (h : Handshake) (response : Bytes) : Prop where
  connection : "upgrade".toList ∈ tokens ((fieldOf response "connection").getD [])
  subprotocol : ∀ p, fieldOf response "sec-websocket-protocol" = some p →
    p ∈ h.subprotocols.map String.toList
  extensions : ∀ name ∈
    extensionNames (pieces ((fieldOf response "sec-websocket-extensions").getD [])),
    name ∈ h.offeredExtensions

variable {acceptKey : String → String} {h : Handshake} {response : Bytes}

/-- What is returned for a response that passes the code's checks. -/
def resultOf (response : Bytes) : HandshakeResult :=
  { status := 101
    headers := readHeaders (headerLines response)
    subprotocol := fieldOf response "sec-websocket-protocol"
    extensions := pieces ((fieldOf response "sec-websocket-extensions").getD []) }

theorem header_headerLines (response : Bytes) (name : String) :
    header (readHeaders (headerLines response)) name = fieldOf response name :=
  header_readHeaders (headerLines response) name

/-- `parse_response`, once the status line is read: the checks in their order. -/
theorem parseResponse_known (htext : (headerText response).isSome = true)
    (hstatus : statusOf response = some 101) :
    h.parseResponse acceptKey response =
      if lower ((fieldOf response "upgrade").getD []) ≠ "websocket".toList then
        .error "Invalid Upgrade header"
      else if isIn "upgrade".toList (lower ((fieldOf response "connection").getD [])) = false then
        .error "Invalid Connection header"
      else
        match fieldOf response "sec-websocket-accept" with
        | none => .error "Missing Sec-WebSocket-Accept header"
        | some accept =>
          if accept = (acceptKey h.key).toList then .ok (resultOf response)
          else .error "Invalid Sec-WebSocket-Accept" := by
  obtain ⟨text, htext⟩ := Option.isSome_iff_exists.mp htext
  obtain ⟨i, hfind, hdecode⟩ := Option.bind_eq_some_iff.mp htext
  have hlines : (split "\r\n".toList text).tail = headerLines response := by
    rw [headerLines, htext, Option.getD_some]
  rw [statusOf_header hfind hdecode] at hstatus
  obtain ⟨statusText, hword, hnumber⟩ := Option.bind_eq_some_iff.mp hstatus
  unfold Handshake.parseResponse resultOf pieces
  simp only [hfind, hdecode, hword, hnumber, hlines, header_headerLines]
  rw [if_neg (show ¬ (101 : Int) ≠ 101 by decide)]
  by_cases hupgrade : lower ((fieldOf response "upgrade").getD []) = "websocket".toList
  · rw [if_neg (not_not_intro hupgrade), if_neg (not_not_intro hupgrade)]
    cases hconnection : isIn "upgrade".toList (lower ((fieldOf response "connection").getD [])) with
    | false => rfl
    | true =>
      rw [if_neg (show ¬ ¬ true = true by decide), if_neg (show ¬ true = false by decide)]
      cases hfield : fieldOf response "sec-websocket-accept" with
      | none => rfl
      | some accept =>
        by_cases haccept : accept = (acceptKey h.key).toList
        · have hvalid : validateAccept acceptKey h.key accept = true := by simp [validateAccept, haccept]
          simp only [hvalid, if_pos haccept]
          rfl
        · have hvalid : validateAccept acceptKey h.key accept = false := by
            simpa [validateAccept] using fun hsame => haccept hsame.symm
          simp only [hvalid, if_neg haccept]
          rfl
  · rw [if_pos hupgrade, if_pos hupgrade]
    rfl

/-- A response that is returned has a header that is text. -/
theorem headerText_of_ok {result : HandshakeResult}
    (hok : h.parseResponse acceptKey response = .ok result) :
    (headerText response).isSome = true := by
  unfold Handshake.parseResponse at hok
  split at hok
  · rename_i i hfind
    split at hok
    · rename_i text hdecode
      rw [headerText, hfind, Option.bind_some, hdecode]
      rfl
    · cases hok
  · cases hok

/-- **What the code checks**: a result is returned exactly for a response that passes, and is read
off its fields. -/
theorem parseResponse_ok_iff {result : HandshakeResult} :
    h.parseResponse acceptKey response = .ok result ↔
      Checked acceptKey h response ∧ result = resultOf response := by
  constructor
  · intro hok
    have htext := headerText_of_ok hok
    have hstatus := statusOf_ok hok
    rw [parseResponse_known htext hstatus] at hok
    split at hok
    · cases hok
    · rename_i hupgrade
      split at hok
      · cases hok
      · rename_i hconnection
        split at hok
        · cases hok
        · rename_i accept hfield
          split at hok
          · rename_i haccept
            refine ⟨⟨htext, hstatus, not_not.mp hupgrade, ?_, ?_⟩, (Except.ok.inj hok).symm⟩
            · simpa using hconnection
            · rw [hfield, haccept]
          · cases hok
  · rintro ⟨hc, rfl⟩
    rw [parseResponse_known hc.text hc.status, if_neg (not_not_intro hc.upgrade),
      if_neg (by rw [hc.connection]; decide), hc.accept]
    exact if_pos rfl

/-- **The bytes behind the header do not matter.** -/
theorem parseResponse_early {n : Nat} (hfind : findSub headerEnd response = some n) (later : Bytes) :
    h.parseResponse acceptKey (response.take (n + headerEnd.length) ++ later) =
      h.parseResponse acceptKey response := by
  have hlen := findSub_length headerEnd response n hfind
  have hfind' := findSub_append headerEnd _ later n (findSub_take headerEnd hfind)
  have htake : (response.take (n + headerEnd.length) ++ later).take n = response.take n := by
    rw [List.take_append_of_le_length (by rw [List.length_take]; omega), List.take_take,
      Nat.min_eq_left (by omega)]
  unfold Handshake.parseResponse
  simp only [hfind, hfind', htake]

/-- **Handshake soundness**: what is returned passes all the client's checks exactly when a response
that the code accepts has the token in Connection and keeps to what was offered. -/
theorem sound_iff (acceptKey : String → String) (h : Handshake) (response : Bytes) :
    Sound acceptKey h response ↔ (Checked acceptKey h response → Honest h response) := by
  constructor
  · intro hs hc
    have hchecks := hs.checks (resultOf response) (parseResponse_ok_iff.mpr ⟨hc, rfl⟩)
    have hconnection := hchecks.connection
    rw [show (resultOf response).headers = readHeaders (headerLines response) from rfl,
      header_headerLines] at hconnection
    exact ⟨hconnection, hchecks.subprotocol, hchecks.extensions⟩
  · intro hhonest
    refine ⟨?_, fun n hfind later => parseResponse_early hfind later⟩
    intro result hok
    obtain ⟨hc, rfl⟩ := parseResponse_ok_iff.mp hok
    obtain ⟨hconnection, hsubprotocol, hextensions⟩ := hhonest hc
    have hfields : ∀ name, header (resultOf response).headers name = fieldOf response name :=
      header_headerLines response
    refine ⟨rfl, ?_, ?_, ?_, hsubprotocol, hextensions⟩
    · rw [hfields]
      exact hc.upgrade
    · rw [hfields]
      exact hconnection
    · rw [hfields]
      exact hc.accept

/-- A handshake with this key that offers one subprotocol and no extension. -/
def chatHandshake (key : String) : Handshake :=
  { key, host := "h", path := "/", origin := none, subprotocols := ["chat"], extensions := [],
    extraHeaders := [] }

/-- The key of RFC 6455, section 1.3. -/
def sampleKey : String := "dGhlIHNhbXBsZSBub25jZQ=="

/-- What the server owes for it. -/
def sampleAcceptKey (key : String) : String :=
  if key = sampleKey then "s3pPLMBiTxaQ9kYGzzhZRbK+xOo=" else ""

/-- A response whose Connection is another token, with a subprotocol and an extension of its own. -/
def looseResponse : Bytes :=
  encodeUtf8 ("HTTP/1.1 101 S\r\nUpgrade: websocket\r\nConnection: no-upgrade\r\n" ++
    "Sec-WebSocket-Accept: s3pPLMBiTxaQ9kYGzzhZRbK+xOo=\r\nSec-WebSocket-Protocol: x\r\n" ++
    "Sec-WebSocket-Extensions: y\r\n\r\n")

/-- The code returns that response's fields as they are. -/
theorem loose_accepted :
    (∃ result,
      (chatHandshake sampleKey).parseResponse sampleAcceptKey looseResponse = .ok result ∧
      result.subprotocol = some ['x'] ∧ result.extensions = [['y']]) ∧
    ¬ Sound sampleAcceptKey (chatHandshake sampleKey) looseResponse := by
  have hrun : (match (chatHandshake sampleKey).parseResponse sampleAcceptKey looseResponse with
      | .ok result => decide (result.subprotocol = some ['x'] ∧ result.extensions = [['y']] ∧
          "upgrade".toList ∉ tokens ((header result.headers "connection").getD []))
      | .error _ => false) = true := by decide +kernel
  split at hrun
  · rename_i result hok
    obtain ⟨hsubprotocol, hextensions, htoken⟩ := of_decide_eq_true hrun
    exact ⟨⟨result, hok, hsubprotocol, hextensions⟩, fun hs => htoken (hs.checks result hok).connection⟩
  · cases hrun

end JetSocket.Transport
