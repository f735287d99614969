import JetSocket.Lib.StatefulCodec
import JetSocket.Transport.Feed

/- The compression half of `Deflater` (`_core.pyx`), and a connection whose two ends each
   have a `Deflater`. The halves share nothing but the negotiated settings.

   zlib is a parameter. `SyncFlushed` is what is relied on: what a raw compressor has
   written at a sync flush ends in 00 00 FF FF, and a raw decompressor with the same
   window, fed all of that since both were new, returns the data.

   Correspondence (Python ↔ Lean):
     `Deflater.__init__`, `_compressor` ↔ `CompressHalf.new`
     `Deflater.compress`                ↔ `CompressHalf.compress`

   What is proved:
     1. `inStep_keeps` — compressing a message and decompressing it at the other end
        returns the message and leaves the two contexts in step, whether or not they are
        taken over from one message to the next.
     2. `inflateAll_outgoing` — a connection that passes the frames with RSV1 to its
        `Deflater`, and leaves the others alone, recovers every payload. -/
namespace JetSocket.Transport
open JetSocket.Core StatefulCodec

/-- What `Deflater` takes from zlib. Level and method are left at the defaults. -/
structure ZlibModule extends Zlib where
  Compressor : Type
  compressobj : Int → Compressor
  compress : Compressor → Bytes → Bytes × Compressor
  /-- `flush(Z_SYNC_FLUSH)`. -/
  flush : Compressor → Bytes × Compressor

namespace ZlibModule

/-- `compress(data)`, then `flush(Z_SYNC_FLUSH)`. -/
def syncFlush (Z : ZlibModule) (c : Z.Compressor) (data : Bytes) : Bytes × Z.Compressor :=
  ((Z.compress c data).1 ++ (Z.flush (Z.compress c data).2).1, (Z.flush (Z.compress c data).2).2)

/-- The sync-flushed outputs of a raw compressor end in 00 00 FF FF, and a raw decompressor
fed all of them since both were new returns the inputs. -/
structure SyncFlushed (Z : ZlibModule) : Prop where
  trailer : ∀ windowBits : Int, 9 ≤ windowBits → windowBits ≤ 15 → ∀ history data,
    deflateTrailer <:+
      (Z.syncFlush (encodeRun Z.syncFlush (Z.compressobj (-windowBits)) history).2 data).1
  inverse : ∀ windowBits : Int, 9 ≤ windowBits → windowBits ≤ 15 →
    Inverse Z.syncFlush Z.decompress (Z.compressobj (-windowBits)) (Z.decompressobj (-windowBits))

end ZlibModule

variable {Z : ZlibModule}

/-- The compression half of `Deflater`. -/
structure CompressHalf (Z : ZlibModule) where
  clientNoContextTakeover : Bool
  clientMaxWindowBits : Int
  compressor : Z.Compressor

/-- `Deflater.__init__`, behind its checks. -/
def CompressHalf.new (Z : ZlibModule) (clientNoContextTakeover : Bool) (clientMaxWindowBits : Int) :
    CompressHalf Z :=
  { clientNoContextTakeover, clientMaxWindowBits
    compressor := Z.compressobj (-clientMaxWindowBits) }

/-- `compressed[:-4]`, if it ends in the trailer. -/
def stripTrailer (compressed : Bytes) : Bytes :=
  if deflateTrailer.isSuffixOf compressed then compressed.take (compressed.length - 4)
  else compressed

/-- `Deflater.compress`. -/
def CompressHalf.compress (d : CompressHalf Z) (data : Bytes) : Bytes × CompressHalf Z :=
  let compressed := Z.syncFlush d.compressor data
  (stripTrailer compressed.1,
    { d with compressor :=
        if d.clientNoContextTakeover then Z.compressobj (-d.clientMaxWindowBits)
        else compressed.2 })

/-- `decompress` appends what `compress` cut off. -/
theorem stripTrailer_append {compressed : Bytes} (h : deflateTrailer <:+ compressed) :
    stripTrailer compressed ++ deflateTrailer = compressed := by
  obtain ⟨data, rfl⟩ := h
  unfold stripTrailer
  rw [if_pos (List.isSuffixOf_iff_suffix.mpr (List.suffix_append data deflateTrailer)),
    List.length_append, show deflateTrailer.length = 4 from rfl, Nat.add_sub_cancel,
    List.take_left]

/-! ## Two ends in step -/

/-- A compressor at one end and a decompressor at the other, with the same settings and one
history since they were last reset. -/
structure InStep (c : CompressHalf Z) (d : Deflater Z.toZlib) : Prop where
  takeover : d.serverNoContextTakeover = c.clientNoContextTakeover
  windowBits : d.serverMaxWindowBits = c.clientMaxWindowBits
  raw : 9 ≤ c.clientMaxWindowBits ∧ c.clientMaxWindowBits ≤ 15
  level : Level Z.syncFlush Z.decompress (Z.compressobj (-c.clientMaxWindowBits))
    (Z.decompressobj (-c.clientMaxWindowBits)) c.compressor d.decompressor

/-- A `Deflater` at the other end, with the settings of the two directions swapped. -/
theorem inStep_new {clientNoContextTakeover serverNoContextTakeover : Bool}
    {clientMaxWindowBits serverMaxWindowBits : Int} {peer : Deflater Z.toZlib}
    (h : Deflater.new Z.toZlib serverNoContextTakeover clientNoContextTakeover serverMaxWindowBits
      clientMaxWindowBits = .ok peer) :
    InStep (CompressHalf.new Z clientNoContextTakeover clientMaxWindowBits) peer := by
  unfold Deflater.new at h
  split at h
  · cases h
  · split at h
    · cases h
    · rename_i hbits
      cases h
      exact ⟨rfl, rfl, not_not.mp hbits, Level.start _ _⟩

/-- **One message.** It is read back, and the two ends stay in step. -/
theorem inStep_keeps (hz : Z.SyncFlushed) :
    Keeps CompressHalf.compress Deflater.decompress (InStep (Z := Z)) := by
  intro c d h data
  have hinverse := hz.inverse c.clientMaxWindowBits h.raw.1 h.raw.2
  obtain ⟨decompressor, hdec, hlevel⟩ := h.level.step hinverse data
  obtain ⟨history, hstate, -⟩ := h.level
  have htrailer := hz.trailer c.clientMaxWindowBits h.raw.1 h.raw.2 history data
  rw [hstate] at htrailer
  have hread : d.decompress (c.compress data).1 =
      some (data, { d with decompressor :=
        if d.serverNoContextTakeover then Z.decompressobj (-d.serverMaxWindowBits)
        else decompressor }) := by
    simp only [Deflater.decompress, CompressHalf.compress, stripTrailer_append htrailer, hdec]
  refine ⟨_, hread, h.takeover, h.windowBits, h.raw, ?_⟩
  simp only [CompressHalf.compress, h.takeover, h.windowBits]
  -- a reset at one end is matched by a reset at the other
  cases c.clientNoContextTakeover with
  | true => exact Level.start _ _
  | false => exact hlevel

/-! ## Frames -/

/-- A frame as an end sends it: compressed with RSV1 set, or as it is. -/
inductive Outgoing where
  | compressed (opcode : Opcode) (payload : Bytes)
  | plain (frame : Frame)

/-- What goes on the wire, and the compressor after it. -/
def Outgoing.frame (c : CompressHalf Z) : Outgoing → Frame × CompressHalf Z
  | .compressed opcode payload =>
    ({ opcode, payload := (c.compress payload).1, rsv1 := true }, (c.compress payload).2)
  | .plain frame => (frame, c)

/-- What the other end queues of it. -/
def Outgoing.received : Outgoing → List Frame
  | .compressed opcode payload => [{ opcode, payload }]
  | .plain frame => if frame.opcode = .ping then [] else [frame]

/-- Only data is compressed, and RSV1 is set on nothing else. -/
def Outgoing.Allowed : Outgoing → Prop
  | .compressed opcode _ => opcode.isControl = false
  | .plain frame => frame.rsv1 = false

theorem inflate_outgoing (hz : Z.SyncFlushed) {c : CompressHalf Z} {d : Deflater Z.toZlib}
    (h : InStep c d) {o : Outgoing} (ho : o.Allowed) :
    ∃ d', inflate (some d) (o.frame c).1 = some (o.received, some d') ∧
      InStep (o.frame c).2 d' := by
  cases o with
  | compressed opcode payload =>
    obtain ⟨d', hdec, hstep⟩ := inStep_keeps hz c d h payload
    have hdata : opcode.isControl = false := ho
    have hping : opcode ≠ .ping := by
      rintro rfl
      cases hdata
    refine ⟨d', ?_, hstep⟩
    simp only [Outgoing.frame, inflate, if_neg hping, hdata, Bool.false_eq_true, if_false, hdec,
      Option.map_some, Outgoing.received]
  | plain frame =>
    have hrsv1 : frame.rsv1 = false := ho
    refine ⟨d, ?_, h⟩
    simp only [Outgoing.frame, inflate, Outgoing.received, hrsv1]
    by_cases hping : frame.opcode = .ping
    · rw [if_pos hping, if_pos hping]
    · rw [if_neg hping, if_neg hping]
      split <;> rfl

/-- **A stream of frames.** Whatever one end sends, the other recovers. -/
theorem inflateAll_outgoing (hz : Z.SyncFlushed) (os : List Outgoing) :
    ∀ {c : CompressHalf Z} {d : Deflater Z.toZlib}, InStep c d → (∀ o ∈ os, o.Allowed) →
      ∃ d', inflateAll (some d) (encodeRun Outgoing.frame c os).1 =
          some (os.flatMap Outgoing.received, some d') ∧
        InStep (encodeRun Outgoing.frame c os).2 d' := by
  induction os with
  | nil => exact fun {_ d} h _ => ⟨d, rfl, h⟩
  | cons o os ih =>
    intro c d h hos
    obtain ⟨d₁, hone, h₁⟩ := inflate_outgoing hz h (hos o List.mem_cons_self)
    obtain ⟨d₂, hall, h₂⟩ := ih h₁ (fun o' ho' => hos o' (List.mem_cons_of_mem o ho'))
    refine ⟨d₂, ?_, h₂⟩
    simp only [encodeRun, inflateAll, hone, Option.bind_some, hall, Option.map_some,
      List.flatMap_cons]

/-! ## An instance -/

/-- The text "Hello". -/
def hello : Bytes := [0x48, 0x65, 0x6C, 0x6C, 0x6F]

/-- "Hello" against its code in one deflate block. -/
def swapHello (data : Bytes) : Bytes :=
  if data = hello then [0xF2, 0x48, 0xCD, 0xC9, 0xC9, 0x07]
  else if data = [0xF2, 0x48, 0xCD, 0xC9, 0xC9, 0x07] then hello
  else data

theorem swapHello_swapHello (data : Bytes) : swapHello (swapHello data) = data := by
  by_cases hplain : data = hello
  · subst hplain
    decide
  · by_cases hcode : data = [0xF2, 0x48, 0xCD, 0xC9, 0xC9, 0x07]
    · subst hcode
      decide
    · have hsame : swapHello data = data := by
        unfold swapHello
        rw [if_neg hplain, if_neg hcode]
      rw [hsame, hsame]

/-- A zlib that codes one "Hello" and any number of empty payloads as the real one does. -/
def smallZlib : ZlibModule where
  Decompressor := Unit
  decompressobj _ := ()
  decompress _ data := some (swapHello (data.take (data.length - 5)), ())
  Compressor := Unit
  compressobj _ := ()
  compress _ data := (swapHello data, ())
  flush _ := ([0x00, 0x00, 0x00, 0xFF, 0xFF], ())

theorem smallZlib_syncFlushed : smallZlib.SyncFlushed where
  trailer _ _ _ _ data := ⟨swapHello data ++ [0x00], List.append_assoc _ _ _⟩
  inverse _ _ _ history := by
    have hkeeps : Keeps smallZlib.syncFlush smallZlib.decompress (fun _ _ => True) := by
      intro _ _ _ data
      refine ⟨(), ?_, trivial⟩
      show some (swapHello ((swapHello data ++ [0x00, 0x00, 0x00, 0xFF, 0xFF]).take
        ((swapHello data ++ [0x00, 0x00, 0x00, 0xFF, 0xFF]).length - 5)), ()) = some (data, ())
      rw [List.length_append, show [(0x00 : UInt8), 0x00, 0x00, 0xFF, 0xFF].length = 5 from rfl,
        Nat.add_sub_cancel, List.take_left, swapHello_swapHello]
    obtain ⟨_, hdec, -⟩ := hkeeps.roundTrip history trivial
    rw [hdec]
    rfl

end JetSocket.Transport
