import JetSocket.Transport.AsyncTransport

/- The blocking transport (`transport/_sync.py`, `SyncTransport`) as one thread uses it: the
   end of `connect`, `recv`, what it does with control frames, and `close`.

   A call of `recv` is split at its reads of the socket: `recv` runs to the first of them,
   `recvChunk` from one to the next. `close` reads too; what comes in while it waits for the
   peer's Close frame is dropped, and so is the parser.

   Correspondence (Python ↔ Lean):
     the end of `connect`                       ↔ `finishConnect`
     `recv`                                     ↔ `recv`, `recvChunk`
     `_recv_with_timeout`                       ↔ `Read`
     `_handle_close_frame`, `_handle_ping_frame` ↔ `handleCloseFrame`, `handlePingFrame`
     `close`, `_close_socket`                   ↔ `close`, `closeSocket` -/
namespace JetSocket.Transport
open JetSocket.Core

variable {Z : Zlib}

/-- What a read of the socket comes to. No data is the end of the stream. -/
inductive Read where
  | chunk (data : Bytes)
  | timedOut
  | failed (msg : String)
  deriving DecidableEq, Repr

/-- `socket` is set while `_socket` is one; `written` is what was given to it. -/
structure SyncTransport (Z : Zlib) where
  config : TransportConfig
  connected : Bool
  closing : Bool
  socket : Bool
  parser : Option FrameParser
  deflater : Option (Deflater Z)
  pendingFrames : List Frame
  closeCode : Option Nat
  closeReason : String
  written : List Bytes

namespace SyncTransport

/-- `SyncTransport.__init__`. -/
def new (Z : Zlib) (config : TransportConfig) : SyncTransport Z :=
  { config, connected := false, closing := false, socket := false, parser := none,
    deflater := none, pendingFrames := [], closeCode := none, closeReason := "", written := [] }

/-- The end of `connect`. Without a new deflater the old one stays, if there is one. -/
def finishConnect (t : SyncTransport Z) (deflater : Option (Deflater Z)) : SyncTransport Z :=
  { t with
    connected := true
    socket := true
    parser := some t.config.parser
    deflater := deflater.or t.deflater }

/-- `_send_all`. -/
def sendAll (t : SyncTransport Z) (data : Bytes) : SyncTransport Z :=
  if t.socket then { t with written := t.written ++ [data] } else t

/-- `_close_socket`. -/
def closeSocket (t : SyncTransport Z) : SyncTransport Z :=
  { t with socket := false, parser := none, deflater := none }

/-- `_handle_close_frame`. What the echo raises is ignored. -/
def handleCloseFrame (t : SyncTransport Z) (key : MaskKey) (frame : Frame) : SyncTransport Z :=
  let code := match frame.closeCode with
    | none | some 0 => AsyncTransport.noStatus
    | some c => c
  let t := { t with closeCode := some code, closeReason := frame.closeReason }
  let t :=
    if t.closing then t
    else
      let t := { t with closing := true }
      match t.parser with
      | some parser => t.sendAll (parser.encodeClose code frame.closeReason (some key))
      | none => t
  { t with connected := false }.closeSocket

/-- `_handle_ping_frame`. -/
def handlePingFrame (t : SyncTransport Z) (key : MaskKey) (frame : Frame) : SyncTransport Z :=
  match t.parser with
  | some parser => t.sendAll (parser.encode .pong frame.payload (some key) true)
  | none => t

/-- The body of the frame loop of `recv`: what becomes of one frame, or `none` where
decompression raises. -/
def handleFrame (t : SyncTransport Z) (key : MaskKey) (frame : Frame) :
    Option (SyncTransport Z × List Frame) :=
  if frame.opcode = .close then some (t.handleCloseFrame key frame, [])
  else if frame.opcode = .ping then some (t.handlePingFrame key frame, [])
  else if frame.opcode = .pong then some (t, [])
  else
    match frame.rsv1, t.deflater with
    | true, some deflater =>
      (deflater.decompress frame.payload).map (fun r =>
        ({ t with deflater := some r.2 },
          [{ opcode := frame.opcode, payload := r.1, fin := frame.fin }]))
    | _, _ => some (t, [frame])

/-- The frame loop: `data_frames`, unless decompression raised on the way. -/
def handleFrames (t : SyncTransport Z) (keys : Nat → MaskKey) :
    List Frame → SyncTransport Z × Option (List Frame)
  | [] => (t, some [])
  | frame :: rest =>
    match t.handleFrame (keys 0) frame with
    | none => (t, none)
    | some (t, dataFrames) =>
      let r := handleFrames t (fun i => keys (i + 1)) rest
      (r.1, r.2.map (dataFrames ++ ·))

/-- `recv`, from the call to the first read. -/
def recv (t : SyncTransport Z) : SyncTransport Z × AsyncTransport.RecvStop :=
  if !t.connected || t.parser.isNone then
    (t, .raised (.connectionError "Transport is not connected"))
  else
    match t.pendingFrames with
    | frame :: rest => ({ t with pendingFrames := rest }, .returned frame)
    | [] => (t, .waiting)

/-- `recv`, from one read to the next. -/
def recvChunk (t : SyncTransport Z) (read : Read) (keys : Nat → MaskKey) :
    SyncTransport Z × AsyncTransport.RecvStop :=
  if !t.socket then (t, .raised (.connectionError "Socket is not connected"))
  else
    match read with
    | .timedOut => (t, .raised (.timeoutError "Read operation timed out" "recv"))
    | .failed msg => (t, .raised (.connectionError ("Receive failed: " ++ msg)))
    | .chunk [] =>
      ({ t with connected := false }, .raised (.connectionError "Connection closed by remote"))
    | .chunk data =>
      match t.parser with
      | none => (t, .raised (.attributeError "'NoneType' object has no attribute 'feed'"))
      | some parser =>
        let r := parser.feed data
        let t := { t with parser := some r.1 }
        match r.2 with
        | .error (.valueError msg) => (t, .raised (.protocolError msg))
        | .error _ =>
          (t, .raised (.overflowError "Python int too large to convert to C ssize_t"))
        | .ok (frames, _) =>
          match t.handleFrames keys frames with
          | (t, none) => (t, .raised .zlibError)
          | (t, some []) => (t, .waiting)
          | (t, some (frame :: rest)) =>
            ({ t with pendingFrames := t.pendingFrames ++ rest }, .returned frame)

/-- `close`. -/
def close (t : SyncTransport Z) (code : Nat) (reason : String) (key : MaskKey) :
    SyncTransport Z :=
  if !t.connected || t.closing then t
  else
    let t := { t with closing := true, closeCode := some code, closeReason := reason }
    let t :=
      match t.parser with
      | some parser =>
        if code < 2 ^ 16 then t.sendAll (parser.encodeClose code reason (some key)) else t
      | none => t
    { t with connected := false }.closeSocket

end SyncTransport
end JetSocket.Transport
