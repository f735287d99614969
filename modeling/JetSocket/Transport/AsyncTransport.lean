import JetSocket.Transport.Protocol

/- The asyncio transport (`transport/_async.py`, `AsyncTransport`) once the socket is
   connected: the handshake's ends in `connect`, `recv`, `ping` and `close`.

   A coroutine is split where it suspends. `recv` and `recvResume` run to the next
   suspension or the end of the call, which `RecvStop` names; `close` likewise with
   `closeResume` and `closeFinish`. `self._protocol`, `self._asyncio_transport` and
   `self._parser` are dropped by `_close_transport` while the objects live on in the
   event loop and in suspended calls: `conn` is those objects, and `protocol` and
   `asyncioTransport` say whether the attribute still is one.

   Correspondence (Python ↔ Lean):
     `connect`, before the response ↔ `beginHandshake`
     `connect`, after the handshake ↔ `finishConnect`
     `recv`                         ↔ `recv`, `recvResume`, `recvTimeout`
     `close`, `_wait_for_close`     ↔ `close`, `closeResume`, `closeFinish`
     `_close_transport`             ↔ `closeTransport`
     `ping`                         ↔ `ping` -/
namespace JetSocket.Transport
open JetSocket.Core

variable {Z : Zlib}

/-- The part of `BaseTransportConfig` that is read here, and the byte order of the
machine. `readTimeout`: a timeout is set. -/
structure TransportConfig where
  order : Word.ByteOrder
  maxFrameSize : Nat
  maxMessageSize : Nat
  readTimeout : Bool
  deriving DecidableEq, Repr

structure AsyncTransport (Z : Zlib) where
  config : TransportConfig
  connected : Bool
  closing : Bool
  conn : Conn Z
  protocol : Bool
  asyncioTransport : Bool
  parser : Option FrameParser
  closeCode : Option Nat
  closeReason : String

/-- `AsyncTransport.__init__`; no connection has been made yet. -/
def AsyncTransport.new (Z : Zlib) (config : TransportConfig) : AsyncTransport Z :=
  { config, connected := false, closing := false,
    conn := { proto := WSProtocol.new Z, sock := { closing := false, written := [] } },
    protocol := false, asyncioTransport := false, parser := none, closeCode := none,
    closeReason := "" }

/-- What follows the header in the handshake buffer. -/
def leftover (handshakeBuffer : Bytes) : Bytes :=
  match findSub headerEnd handshakeBuffer with
  | some idx => handshakeBuffer.drop (idx + 4)
  | none => []

/-- The parser `connect` makes. -/
def TransportConfig.parser (config : TransportConfig) : FrameParser :=
  FrameParser.new config.order config.maxFrameSize config.maxMessageSize

namespace AsyncTransport

/-- `CloseCode.NO_STATUS`. -/
def noStatus : Nat := 1005

/-- `_close_transport`. -/
def closeTransport (t : AsyncTransport Z) : AsyncTransport Z :=
  { t with
    conn := if t.asyncioTransport then t.conn.close else t.conn
    asyncioTransport := false
    protocol := false
    parser := none }

/-- `_connect_to_address`, and `_perform_handshake` up to its wait for the response. -/
def beginHandshake (t : AsyncTransport Z) (request : Bytes) : AsyncTransport Z :=
  { t with
    conn := { proto := { WSProtocol.new Z with handshakeFuture := .pending },
              sock := { closing := false, written := [request] } }
    asyncioTransport := true
    protocol := true }

/-- The protocol, switched to frames. -/
def switchToFrames (t : AsyncTransport Z) (deflater : Option (Deflater Z)) : Conn Z :=
  { t.conn with proto := { t.conn.proto with
    parser := some t.config.parser, deflater := deflater, handshakeDone := true } }

/-- The end of `connect`: the protocol switches to frames and what the handshake buffer
holds behind the header is received. An exception of that leaves `connect`. -/
def finishConnect (t : AsyncTransport Z) (deflater : Option (Deflater Z)) (keys : Nat → MaskKey) :
    AsyncTransport Z × Option Exc :=
  let remaining := leftover t.conn.proto.handshakeBuffer
  let r :=
    if remaining.isEmpty then (t.switchToFrames deflater, none)
    else dataReceived (t.switchToFrames deflater) remaining keys
  match r.2 with
  | some e => ({ t with conn := r.1, parser := some t.config.parser }, some e)
  | none => ({ t with conn := r.1, parser := some t.config.parser, connected := true }, none)

/-! ## recv -/

/-- Where a run of `recv` stops. -/
inductive RecvStop where
  | waiting
  | returned (frame : Frame)
  | raised (e : Exc)
  deriving DecidableEq, Repr

/-- The frame that was returned, if any was. -/
def RecvStop.frame : RecvStop → Option Frame
  | .returned f => some f
  | _ => none

def setFrames (t : AsyncTransport Z) (frames : List Frame) : AsyncTransport Z :=
  { t with conn := { t.conn with proto := { t.conn.proto with frames } } }

/-- `_frame_ready.clear()` and `await _frame_ready.wait()`. -/
def park (t : AsyncTransport Z) (task : Nat) : AsyncTransport Z :=
  { t with conn := { t.conn with proto := { t.conn.proto with
      frameReady := t.conn.proto.frameReady.clearAndWait task } } }

/-- A Close frame reaches `recv`: echo it unless this side is closing, and drop the
connection. A code of 0 is falsy. -/
def recvClose (t : AsyncTransport Z) (key : MaskKey) (frame : Frame) : AsyncTransport Z :=
  let code := match frame.closeCode with
    | none | some 0 => noStatus
    | some c => c
  let t := { t with closeCode := some code, closeReason := frame.closeReason }
  let t :=
    if t.closing then t
    else
      let t := { t with closing := true }
      match t.parser, t.asyncioTransport with
      | some parser, true =>
        { t with conn := t.conn.write (parser.encodeClose code frame.closeReason (some key)) }
      | _, _ => t
  { t with connected := false }.closeTransport

/-- The loop of `recv` over the queued frames: Pong frames are skipped, and an empty
queue is waited on. -/
def recvLoop (t : AsyncTransport Z) (task : Nat) (key : MaskKey) :
    List Frame → AsyncTransport Z × RecvStop
  | [] => ((t.setFrames []).park task, .waiting)
  | frame :: rest =>
    if frame.opcode.value = 0x8 then
      ((t.setFrames rest).recvClose key frame,
        .raised (.connectionError "Connection closed by remote"))
    else if frame.opcode.value = 0xA then recvLoop t task key rest
    else (t.setFrames rest, .returned frame)

/-- `recv`, from the call. -/
def recv (t : AsyncTransport Z) (task : Nat) (key : MaskKey) : AsyncTransport Z × RecvStop :=
  if !t.connected || !t.protocol then
    (t, .raised (.connectionError "Transport is not connected"))
  else t.recvLoop task key t.conn.proto.frames

/-- `recv`, from a wait that was woken. -/
def recvResume (t : AsyncTransport Z) (task : Nat) (key : MaskKey) :
    AsyncTransport Z × RecvStop :=
  let t := { t with conn := { t.conn with proto := { t.conn.proto with
    frameReady := t.conn.proto.frameReady.resume task } } }
  if t.conn.proto.connectionLost && t.conn.proto.frames.isEmpty then
    ({ t with connected := false }, .raised (.connectionError "Connection closed by remote"))
  else t.recvLoop task key t.conn.proto.frames

/-- `recv`, when its wait times out. -/
def recvTimeout (t : AsyncTransport Z) (task : Nat) : AsyncTransport Z × RecvStop :=
  ({ t with conn := { t.conn with proto := { t.conn.proto with
      frameReady := t.conn.proto.frameReady.giveUp task } } },
    .raised (.timeoutError "Read operation timed out" "recv"))

/-! ## ping and close -/

/-- `ping`. -/
def ping (t : AsyncTransport Z) (payload : Bytes) (key : MaskKey) :
    Except Exc (AsyncTransport Z) :=
  if 125 < payload.length then .error (.valueError "Ping payload must be 125 bytes or less")
  else
    match t.connected, t.parser, t.asyncioTransport with
    | true, some parser, true =>
      .ok { t with conn := t.conn.write (parser.encode .ping payload (some key) true) }
    | _, _, _ => .error (.connectionError "Transport is not connected")

/-- The last two statements of `close`. -/
def closeFinish (t : AsyncTransport Z) : AsyncTransport Z :=
  { t with connected := false }.closeTransport

/-- `close`, from the call to the wait for the peer's Close frame (`true`) or the end.
A code or reason that cannot be packed skips the frame and the wait. -/
def close (t : AsyncTransport Z) (task code : Nat) (reason : String) (key : MaskKey) :
    AsyncTransport Z × Bool :=
  if !t.connected || t.closing then (t, false)
  else
    let t := { t with closing := true, closeCode := some code, closeReason := reason }
    match t.parser, t.asyncioTransport with
    | some parser, true =>
      if code < 2 ^ 16 then
        let t := { t with conn := t.conn.write (parser.encodeClose code reason (some key)) }
        if t.protocol && t.connected then (t.park task, true) else (t.closeFinish, false)
      else (t.closeFinish, false)
    | _, _ => (t.closeFinish, false)

/-- `_wait_for_close`, woken: frames are dropped up to a Close frame. The wait goes on
(`true`) unless one was there, or the connection is lost or no longer connected. -/
def closeResume (t : AsyncTransport Z) (task : Nat) : AsyncTransport Z × Bool :=
  let t := { t with conn := { t.conn with proto := { t.conn.proto with
    frameReady := t.conn.proto.frameReady.resume task } } }
  let rest := t.conn.proto.frames.dropWhile (fun f => f.opcode.value != 0x8)
  let t := t.setFrames rest.tail
  if !rest.isEmpty || t.conn.proto.connectionLost || !t.connected then (t.closeFinish, false)
  else (t.park task, true)

/-- `_wait_for_close`, when its wait times out. -/
def closeTimeout (t : AsyncTransport Z) (task : Nat) : AsyncTransport Z :=
  { t with conn := { t.conn with proto := { t.conn.proto with
      frameReady := t.conn.proto.frameReady.giveUp task } } }.closeFinish

end AsyncTransport
end JetSocket.Transport
