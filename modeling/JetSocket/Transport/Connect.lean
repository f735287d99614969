import JetSocket.Transport.AsyncTransport
import JetSocket.Transport.Handshake
import JetSocket.Transport.Uri

/- `AsyncTransport.connect` (`transport/_async.py`) as a function of what it waits for:
   the name lookup, one `create_connection` for each address tried, the response.

   Correspondence (Python ↔ Lean):
     `_resolve_dns`, and the wait for it  ↔ `resolveDns`
     the address loop, `_connect_to_address` ↔ `tryAddresses`
     `_perform_handshake`                  ↔ `handshake`, `performHandshake`
     `connect`                             ↔ `connect`

   A call ends in one of three ways (`ConnectEnd`): it returns, it raises with no socket
   left open, or it raises while the frames behind the response are received, which leaves
   the socket open. The last happens with zlib's error or an `OverflowError` only
   (`finishConnect_exc`). -/
namespace JetSocket.Transport
open JetSocket.Core

variable {Z : Zlib}

/-- An address family and an address. -/
abbrev Address := Int × String

/-- The end of the wait for the name lookup. -/
inductive Lookup where
  | timedOut
  | gaierror (text : String)
  | resolved (infos : List Address)
  | raised (e : Exc)
  deriving DecidableEq, Repr

/-- The end of one `create_connection`. -/
inductive Dial where
  | connected
  | timedOut
  | osError (text : String)
  | raised (e : Exc)
  deriving DecidableEq, Repr

/-- The end of the wait for the response: `connection_lost` was called, or the buffer held
a header when it was `data`, and holds `later` too when `connect` goes on. -/
inductive Response where
  | timedOut
  | lost (exc : Option Exc)
  | received (data later : Bytes)
  deriving DecidableEq, Repr

structure Network where
  lookup : Lookup
  dial : Address → Dial
  response : Response
  keys : Nat → MaskKey

/-- The part of `BaseTransportConfig` the handshake reads. -/
structure HandshakeConfig where
  compression : Bool
  origin : Option String
  subprotocols : List String
  extraHeaders : List (String × String)
  deriving DecidableEq, Repr

/-- How `connect` ends. -/
inductive ConnectEnd where
  | connected
  | raised (e : Exc)
  | aborted (e : Exc)
  deriving DecidableEq, Repr

/-- `_resolve_dns` under its timeout. -/
def resolveDns (host : String) : Lookup → Except Exc (List Address)
  | .timedOut => .error (.timeoutError s!"DNS resolution for {host} timed out" "dns")
  | .gaierror text => .error (.connectionError s!"DNS resolution failed for {host}: {text}")
  | .resolved infos =>
    if infos.isEmpty then .error (.connectionError s!"No addresses found for {host}")
    else .ok infos.eraseDups
  | .raised e => .error e

/-- The address loop. A timeout is no `OSError`, so it ends the loop. -/
def tryAddresses (u : WebSocketURI) (dial : Address → Dial) :
    Option String → List Address → Except Exc Unit
  | lastError, [] =>
    let msg := s!"Failed to connect to {u.host}:{u.port}"
    .error (.connectionError (match lastError with
      | some text => s!"{msg}: {text}"
      | none => msg))
  | _, address :: rest =>
    match dial address with
    | .connected => .ok ()
    | .timedOut =>
      .error (.timeoutError s!"Connection to {address.2}:{u.port} timed out" "connect")
    | .osError text => tryAddresses u dial (some text) rest
    | .raised e => .error e

/-- The handshake `_perform_handshake` makes. -/
def handshake (config : HandshakeConfig) (key : String) (u : WebSocketURI) : Handshake :=
  { key, host := u.hostHeader, path := u.resourceName
    origin := some ((config.origin.bind orNone).getD u.origin)
    subprotocols := config.subprotocols
    extensions := if config.compression then ["permessage-deflate"] else []
    extraHeaders := config.extraHeaders }

/-- `_perform_handshake`, from its wait for the response. -/
def performHandshake (Z : Zlib) (acceptKey : String → String) (config : HandshakeConfig)
    (h : Handshake) : Response → Except Exc (Option (Deflater Z))
  | .timedOut => .error (.handshakeError "Handshake timed out" none)
  | .lost exc => .error (exc.getD (.connectionError "Connection closed during handshake"))
  | .received data _ =>
    match h.parseResponse acceptKey data with
    | .error msg => .error (.handshakeError msg none)
    | .ok result => negotiate Z config.compression result

namespace AsyncTransport

/-- The buffer of the handshake when `connect` goes on. -/
def answered (t : AsyncTransport Z) : Response → AsyncTransport Z
  | .received data later =>
    { t with conn := { t.conn with proto := { t.conn.proto with
        handshakeBuffer := data ++ later, handshakeFuture := .result data } } }
  | _ => t

/-- `connect`. -/
def connect (urlparse : UrlParse) (acceptKey : String → String) (config : HandshakeConfig)
    (key : String) (uri : String) (net : Network) (t : AsyncTransport Z) :
    AsyncTransport Z × ConnectEnd :=
  if t.connected then (t, .raised (.connectionError "Transport is already connected"))
  else
    match parseUri urlparse uri with
    | .error e => (t, .raised e)
    | .ok u =>
      match (resolveDns u.host net.lookup).bind (tryAddresses u net.dial none) with
      | .error e => (t, .raised e)
      | .ok () =>
        let h := handshake config key u
        let t := (t.beginHandshake h.buildRequest).answered net.response
        match performHandshake Z acceptKey config h net.response with
        | .error e => (t.closeTransport, .raised e)
        | .ok deflater =>
          match t.finishConnect deflater net.keys with
          | (t, none) => (t, .connected)
          | (t, some e) => (t, .aborted e)

end AsyncTransport

/-! ## What can leave connect -/

/-- What `data_received` raises. -/
theorem handleFrames_exc (c : Conn Z) (keys : Nat → MaskKey) (frames : List Frame) {e : Exc}
    (h : (handleFrames c keys frames).2 = some e) : e = .zlibError := by
  induction frames generalizing c keys with
  | nil => cases h
  | cons frame rest ih =>
    rw [handleFrames] at h
    cases hf : handleFrame c (keys 0) frame with
    | none =>
      rw [hf] at h
      exact (Option.some.inj h).symm
    | some c' =>
      rw [hf] at h
      exact ih c' _ h

theorem dataReceived_exc {c : Conn Z} {data : Bytes} {keys : Nat → MaskKey} {e : Exc}
    (h : (dataReceived c data keys).2 = some e) :
    e = .zlibError ∨ ∃ msg, e = .overflowError msg := by
  unfold dataReceived at h
  split at h
  · cases h
  · split at h
    · cases h
    · dsimp only at h
      split at h
      · cases h
      · exact .inr ⟨_, (Option.some.inj h).symm⟩
      · exact .inl (handleFrames_exc _ _ _ h)

theorem finishConnect_exc {t : AsyncTransport Z} {deflater : Option (Deflater Z)}
    {keys : Nat → MaskKey} {e : Exc} (h : (t.finishConnect deflater keys).2 = some e) :
    e = .zlibError ∨ ∃ msg, e = .overflowError msg := by
  unfold AsyncTransport.finishConnect at h
  dsimp only at h
  split at h
  · rename_i e' he
    obtain rfl := Option.some.inj h
    split at he
    · cases he
    · exact dataReceived_exc he
  · cases h

end JetSocket.Transport
