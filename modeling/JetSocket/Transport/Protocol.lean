import JetSocket.Core.FrameParser
import JetSocket.Lib.Event
import JetSocket.Exceptions

/- The asyncio protocol under the transport (`transport/_async.py`, `_WSProtocol`),
   with the socket it writes to and the decompression half of `Deflater`
   (`_core.pyx`). zlib is a parameter.

   Correspondence (Python ↔ Lean):
     `_WSProtocol.data_received`   ↔ `dataReceived`, its frame loop `handleFrames`
     `_WSProtocol.connection_lost` ↔ `connectionLost`
     `_WSProtocol.pause_writing`   ↔ `Conn.pauseWriting`
     `_WSProtocol.resume_writing`  ↔ `Conn.resumeWriting`
     `Deflater.decompress`         ↔ `Deflater.decompress`
     `bytes.find`                  ↔ `findSub`

   `transport.write` appends to `written`. The keys that `os.urandom(4)` draws for
   PONGs are an argument, by position in the frame loop. -/
namespace JetSocket.Transport
open JetSocket.Core

/-- What `Deflater` takes from zlib to decompress: `none` is `zlib.error`. -/
structure Zlib where
  Decompressor : Type
  decompressobj : Int → Decompressor
  decompress : Decompressor → Bytes → Option (Bytes × Decompressor)

variable {Z : Zlib}

structure Deflater (Z : Zlib) where
  clientNoContextTakeover : Bool
  serverNoContextTakeover : Bool
  clientMaxWindowBits : Int
  serverMaxWindowBits : Int
  decompressor : Z.Decompressor

/-- `Deflater.__init__`. -/
def Deflater.new (Z : Zlib) (clientNoContextTakeover serverNoContextTakeover : Bool)
    (clientMaxWindowBits serverMaxWindowBits : Int) : Except Exc (Deflater Z) :=
  if ¬ (9 ≤ clientMaxWindowBits ∧ clientMaxWindowBits ≤ 15) then
    .error (.valueError "client_max_window_bits must be between 9 and 15")
  else if ¬ (9 ≤ serverMaxWindowBits ∧ serverMaxWindowBits ≤ 15) then
    .error (.valueError "server_max_window_bits must be between 9 and 15")
  else
    .ok { clientNoContextTakeover, serverNoContextTakeover, clientMaxWindowBits,
          serverMaxWindowBits, decompressor := Z.decompressobj (-serverMaxWindowBits) }

def deflateTrailer : Bytes := [0x00, 0x00, 0xff, 0xff]

/-- `Deflater.decompress`, or `none` where zlib raises. -/
def Deflater.decompress (d : Deflater Z) (data : Bytes) : Option (Bytes × Deflater Z) :=
  match Z.decompress d.decompressor (data ++ deflateTrailer) with
  | none => none
  | some (decompressed, decompressor) =>
    some (decompressed,
      { d with decompressor :=
          if d.serverNoContextTakeover then Z.decompressobj (-d.serverMaxWindowBits)
          else decompressor })

/-- `data.find(sub)`, `none` for -1. -/
def findSub (sub : Bytes) : Bytes → Option Nat
  | [] => if sub.isEmpty then some 0 else none
  | b :: rest =>
    if sub.isPrefixOf (b :: rest) then some 0 else (findSub sub rest).map (· + 1)

/-- The blank line that ends an HTTP header. -/
def headerEnd : Bytes := [0x0d, 0x0a, 0x0d, 0x0a]

/-- `_handshake_future`. -/
inductive HandshakeFuture where
  | unset
  | pending
  | result (data : Bytes)
  | exception (e : Exc)
  deriving DecidableEq, Repr

structure WSProtocol (Z : Zlib) where
  parser : Option FrameParser
  deflater : Option (Deflater Z)
  frames : List Frame
  frameReady : Event
  canWrite : Event
  handshakeBuffer : Bytes
  handshakeFuture : HandshakeFuture
  handshakeDone : Bool
  connectionLost : Bool

/-- `_WSProtocol.__init__`. -/
def WSProtocol.new (Z : Zlib) : WSProtocol Z :=
  { parser := none, deflater := none, frames := [], frameReady := Event.new,
    canWrite := Event.new.set, handshakeBuffer := [], handshakeFuture := .unset,
    handshakeDone := false, connectionLost := false }

/-- An asyncio transport: closed by this side or not, and the writes made to it. -/
structure Sock where
  closing : Bool
  written : List Bytes
  deriving DecidableEq, Repr

/-- A connection: the protocol and the asyncio transport it talks to. -/
structure Conn (Z : Zlib) where
  proto : WSProtocol Z
  sock : Sock

/-- `_frames.append(frame); _frame_ready.set()`. -/
def Conn.queue (c : Conn Z) (frame : Frame) : Conn Z :=
  { c with proto := { c.proto with
      frames := c.proto.frames ++ [frame]
      frameReady := c.proto.frameReady.set } }

/-- `transport.write(data)`. -/
def Conn.write (c : Conn Z) (data : Bytes) : Conn Z :=
  { c with sock := { c.sock with written := c.sock.written ++ [data] } }

/-- `transport.close()`. -/
def Conn.close (c : Conn Z) : Conn Z := { c with sock := { c.sock with closing := true } }

/-- The body of the frame loop of `data_received`; `none` where decompression raises. -/
def handleFrame (c : Conn Z) (key : MaskKey) (frame : Frame) : Option (Conn Z) :=
  if frame.opcode.value = 0x9 then
    -- PING: answered here, never queued
    match c.proto.parser with
    | some parser => some (c.write (parser.encode .pong frame.payload (some key) true))
    | none => some c
  else if frame.opcode.value = 0x8 ∨ frame.opcode.value = 0xA then some (c.queue frame)
  else
    match frame.rsv1, c.proto.deflater with
    | true, some deflater =>
      match deflater.decompress frame.payload with
      | none => none
      | some (decompressed, deflater) =>
        some ({ c with proto := { c.proto with deflater := some deflater } }.queue
          { opcode := frame.opcode, payload := decompressed, fin := frame.fin })
    | _, _ => some (c.queue frame)

/-- The frame loop: the connection, and whether decompression raised on the way. -/
def handleFrames (c : Conn Z) (keys : Nat → MaskKey) : List Frame → Conn Z × Option Exc
  | [] => (c, none)
  | frame :: rest =>
    match handleFrame c (keys 0) frame with
    | none => (c, some .zlibError)
    | some c => handleFrames c (fun i => keys (i + 1)) rest

/-- `data_received`, with the exception that leaves it, if any. -/
def dataReceived (c : Conn Z) (data : Bytes) (keys : Nat → MaskKey) : Conn Z × Option Exc :=
  if !c.proto.handshakeDone then
    let handshakeBuffer := c.proto.handshakeBuffer ++ data
    let handshakeFuture :=
      if (findSub headerEnd handshakeBuffer).isSome ∧ c.proto.handshakeFuture = .pending then
        .result handshakeBuffer
      else c.proto.handshakeFuture
    ({ c with proto := { c.proto with handshakeBuffer, handshakeFuture } }, none)
  else
    match c.proto.parser with
    | none => (c, none)
    | some parser =>
      let r := parser.feed data
      let c := { c with proto := { c.proto with parser := some r.1 } }
      match r.2 with
      | .error (.valueError _) => (c.close, none)
      | .error _ => (c, some (.overflowError "Python int too large to convert to C ssize_t"))
      | .ok (frames, _) => handleFrames c keys frames

/-- `connection_lost`. -/
def connectionLost (c : Conn Z) (exc : Option Exc) : Conn Z :=
  let handshakeFuture :=
    if c.proto.handshakeFuture = .pending then
      .exception (exc.getD (.connectionError "Connection closed during handshake"))
    else c.proto.handshakeFuture
  { c with proto := { c.proto with
      connectionLost := true
      frameReady := c.proto.frameReady.set
      handshakeFuture } }

/-- `pause_writing`. -/
def Conn.pauseWriting (c : Conn Z) : Conn Z :=
  { c with proto := { c.proto with canWrite := c.proto.canWrite.clear } }

/-- `resume_writing`. -/
def Conn.resumeWriting (c : Conn Z) : Conn Z :=
  { c with proto := { c.proto with canWrite := c.proto.canWrite.set } }

/-! ## Finding the end of the header -/

theorem findSub_length (sub : Bytes) : ∀ (data : Bytes) (i : Nat),
    findSub sub data = some i → i + sub.length ≤ data.length
  | [], i, h => by
    cases sub with
    | nil => simpa [findSub, eq_comm] using h
    | cons s sub => simp [findSub] at h
  | b :: rest, i, h => by
    simp only [findSub] at h
    split at h
    · rename_i hp
      cases h
      have := (List.isPrefixOf_iff_prefix.mp hp).length_le
      omega
    · obtain ⟨j, hj, rfl⟩ := Option.map_eq_some_iff.mp h
      have ih := findSub_length sub rest j hj
      rw [List.length_cons]
      omega

/-- The first occurrence stays the first when bytes follow. -/
theorem findSub_append (sub : Bytes) : ∀ (data more : Bytes) (i : Nat),
    findSub sub data = some i → findSub sub (data ++ more) = some i
  | [], more, i, h => by
    cases sub with
    | nil =>
      simp only [findSub, List.isEmpty_nil, if_true, Option.some.injEq] at h
      subst h
      cases more <;> simp [findSub]
    | cons s sub => simp [findSub] at h
  | b :: rest, more, i, h => by
    simp only [List.cons_append, findSub] at h ⊢
    split at h
    · rename_i hp
      have hp' : sub <+: b :: (rest ++ more) :=
        (List.isPrefixOf_iff_prefix.mp hp).trans (List.prefix_append (b :: rest) more)
      rw [if_pos (List.isPrefixOf_iff_prefix.mpr hp')]
      exact h
    · rename_i hp
      obtain ⟨j, hj, rfl⟩ := Option.map_eq_some_iff.mp h
      have hlen := findSub_length sub rest j hj
      -- A prefix no longer than `b :: rest` cannot need the bytes behind it.
      have hp' : ¬ sub.isPrefixOf (b :: (rest ++ more)) = true := by
        intro hpm
        apply hp
        apply List.isPrefixOf_iff_prefix.mpr
        refine List.prefix_of_prefix_length_le (List.isPrefixOf_iff_prefix.mp hpm)
          (List.prefix_append (b :: rest) more) ?_
        rw [List.length_cons]
        omega
      rw [if_neg hp', findSub_append sub rest more j hj]
      rfl

end JetSocket.Transport
