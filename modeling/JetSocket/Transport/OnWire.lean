import JetSocket.Transport.Contexts
import JetSocket.Transport.Sealed

/- What is on the wire behind a handshake request, and what the other end makes of it.

   A connection puts down frames of two kinds: those that its user's calls are given, which may be
   compressed, and control frames of its own. `OnWire` says of the bytes that they are such frames,
   one behind the other, as the compressor made them of what was given; it does not say who put
   them down, so it serves both transports.

   What is proved:
     1. `inflateAll_given` — a peer in step recovers the messages of what it is given.
     2. `OnWire.own`, `OnWire.snoc` — one more frame, of either kind.
     3. `OnWire.recovers` — however the bytes are cut, the peer's parser takes them all, every frame
        is masked, and its decompressor recovers the messages, in the order of the writes. -/
namespace JetSocket.Transport
open JetSocket.Core AsyncTransport StatefulCodec Incremental

variable {Z : ZlibModule}

/-! ## What is given, and what is recovered -/

/-- A frame as it was given, and whether it is compressed. -/
structure Given where
  frame : Frame
  compressed : Bool
  deriving DecidableEq, Repr

namespace Given

/-- The frame on the wire, and the compressor after it. -/
def wire (c : Option (CompressHalf Z)) (g : Given) : Frame × Option (CompressHalf Z) :=
  match g.compressed, c with
  | true, some c =>
    ({ g.frame with payload := (c.compress g.frame.payload).1, rsv1 := true },
      some (c.compress g.frame.payload).2)
  | _, _ => (g.frame, c)

/-- A control frame fits and is not compressed; a data frame has RSV1 unset. -/
structure Allowed (g : Given) : Prop where
  fits : Fits g.frame
  control : g.frame.opcode.isControl = true → g.compressed = false
  data : g.frame.opcode.isControl = false → g.frame.rsv1 = false

instance (g : Given) : Decidable g.Allowed :=
  decidable_of_iff (Fits g.frame ∧ (g.frame.opcode.isControl = true → g.compressed = false) ∧
      (g.frame.opcode.isControl = false → g.frame.rsv1 = false))
    ⟨fun h => ⟨h.1, h.2.1, h.2.2⟩, fun h => ⟨h.fits, h.control, h.data⟩⟩

/-- Without compression. -/
def plain (f : Frame) : Given := ⟨f, false⟩

theorem wire_plain {g : Given} (h : g.compressed = false) (c : Option (CompressHalf Z)) :
    g.wire c = (g.frame, c) := by
  unfold wire
  rw [h]

theorem Allowed.wire_fits {g : Given} (h : g.Allowed) (c : Option (CompressHalf Z)) :
    Fits (g.wire c).1 := by
  cases hcompressed : g.compressed with
  | false =>
    rw [wire_plain hcompressed]
    exact h.fits
  | true =>
    intro hcontrol
    have hopcode : (g.wire c).1.opcode = g.frame.opcode := by
      unfold wire
      split <;> rfl
    rw [hopcode] at hcontrol
    exact absurd (hcompressed.symm.trans (h.control hcontrol)) (by decide)

/-- A compressor that was dropped makes no difference to what is not compressed. -/
theorem wire_dropped {d e : Option (CompressHalf Z)} (h : d = none ∨ d = e) {g : Given}
    (hg : g.compressed = true → d.isSome = true) :
    (g.wire d).1 = (g.wire e).1 ∧ ((g.wire d).2 = none ∨ (g.wire d).2 = (g.wire e).2) := by
  cases hcompressed : g.compressed with
  | false =>
    rw [wire_plain hcompressed, wire_plain hcompressed]
    exact ⟨rfl, h⟩
  | true =>
    rcases h with rfl | rfl
    · cases hg hcompressed
    · exact ⟨rfl, .inr rfl⟩

/-- Frames that are not compressed pass the compressor by. -/
theorem run_plain {gs : List Given} (h : ∀ g ∈ gs, g.compressed = false) :
    ∀ c : Option (CompressHalf Z), encodeRun wire c gs = (gs.map Given.frame, c) := by
  induction gs with
  | nil => exact fun _ => rfl
  | cons g gs ih =>
    intro c
    have hrest := ih (fun g' hg => h g' (List.mem_cons_of_mem g hg))
    simp only [encodeRun, wire_plain (h g List.mem_cons_self), hrest, List.map_cons]

/-- One more. -/
theorem run_snoc (c : Option (CompressHalf Z)) (gs : List Given) (g : Given) :
    encodeRun wire c (gs ++ [g]) =
      ((encodeRun wire c gs).1 ++ [(g.wire (encodeRun wire c gs).2).1],
        (g.wire (encodeRun wire c gs).2).2) := by
  rw [encodeRun_append]
  rfl

end Given

/-- What the reader of data frames is after: the opcode, the payload and FIN. -/
def contents (fs : List Frame) : List (Opcode × Bytes × Bool) :=
  (fs.filter (fun f => !f.opcode.isControl)).map (fun f => (f.opcode, f.payload, f.fin))

@[simp] theorem contents_append (fs gs : List Frame) :
    contents (fs ++ gs) = contents fs ++ contents gs := by
  unfold contents
  rw [List.filter_append, List.map_append]

theorem contents_control {fs : List Frame} (h : ∀ f ∈ fs, f.opcode.isControl = true) :
    contents fs = [] := by
  unfold contents
  rw [List.filter_eq_nil_iff.mpr (fun f hf => by simp [h f hf])]
  rfl

/-- A compressor and a decompressor in step, or neither. -/
def Paired : Option (CompressHalf Z) → Option (Deflater Z.toZlib) → Prop
  | none, none => True
  | some c, some d => InStep c d
  | _, _ => False

/-- **One frame.** Its message is recovered, and the two ends stay in step. -/
theorem inflate_given (hz : Z.SyncFlushed) {c : Option (CompressHalf Z)}
    {d : Option (Deflater Z.toZlib)} (h : Paired c d) {g : Given} (hg : g.Allowed) :
    ∃ qs d', inflate d (seen (g.wire c).1) = some (qs, d') ∧ contents qs = contents [g.frame] ∧
      Paired (g.wire c).2 d' := by
  cases hcontrol : g.frame.opcode.isControl with
  | true =>
    rw [Given.wire_plain (hg.control hcontrol)]
    have hnone : contents [g.frame] = [] :=
      contents_control (fun f hf => by rw [List.mem_singleton.mp hf, hcontrol])
    by_cases hping : g.frame.opcode = .ping
    · exact ⟨[], d, if_pos hping, hnone.symm, h⟩
    · refine ⟨[seen g.frame], d, ?_, ?_, h⟩
      · unfold inflate seen
        rw [if_neg hping, if_pos hcontrol]
      · rw [hnone]
        exact contents_control (fun f hf => by rw [List.mem_singleton.mp hf]; exact hcontrol)
  | false =>
    have hping : g.frame.opcode ≠ .ping := by
      intro hping
      rw [hping] at hcontrol
      cases hcontrol
    have hmessage : ∀ f : Frame, f.opcode = g.frame.opcode → f.payload = g.frame.payload →
        f.fin = g.frame.fin → contents [f] = contents [g.frame] := by
      intro f ho hp hf
      unfold contents
      rw [List.filter_cons_of_pos (by rw [ho, hcontrol]; rfl),
        List.filter_cons_of_pos (by rw [hcontrol]; rfl), List.map_cons, List.map_cons, ho, hp, hf,
        List.filter_nil]
    have hself : inflate d (seen g.frame) = some ([seen g.frame], d) := by
      unfold inflate seen
      rw [if_neg hping, hcontrol, hg.data hcontrol]
      rfl
    unfold Given.wire
    split
    · rename_i c _
      -- the peer has a decompressor, and is in step with `c`
      cases d with
      | none => exact h.elim
      | some d =>
        obtain ⟨d', hdec, hstep⟩ := inStep_keeps hz c d h g.frame.payload
        refine ⟨[{ opcode := g.frame.opcode, payload := g.frame.payload, fin := g.frame.fin }],
          some d', ?_, hmessage _ rfl rfl rfl, hstep⟩
        simp only [inflate, seen, if_neg hping, hcontrol, Bool.false_eq_true, if_false, hdec,
          Option.map_some]
    · exact ⟨[seen g.frame], d, hself, hmessage _ rfl rfl rfl, h⟩

/-- **A run of frames.** The peer recovers the messages of what was given, in order. -/
theorem inflateAll_given (hz : Z.SyncFlushed) (gs : List Given) :
    ∀ {c : Option (CompressHalf Z)} {d : Option (Deflater Z.toZlib)}, Paired c d →
      (∀ g ∈ gs, g.Allowed) →
      ∃ qs d', inflateAll d ((encodeRun Given.wire c gs).1.map seen) = some (qs, d') ∧
        contents qs = contents (gs.map Given.frame) := by
  induction gs with
  | nil => exact fun {_ d} _ _ => ⟨[], d, rfl, rfl⟩
  | cons g gs ih =>
    intro c d h hgs
    obtain ⟨qs₁, d₁, hone, hm₁, h₁⟩ := inflate_given hz h (hgs g List.mem_cons_self)
    obtain ⟨qs₂, d₂, hmore, hm₂⟩ := ih h₁ (fun g' hg => hgs g' (List.mem_cons_of_mem g hg))
    refine ⟨qs₁ ++ qs₂, d₂, ?_, ?_⟩
    · simp only [encodeRun, List.map_cons, inflateAll, hone, Option.bind_some, hmore,
        Option.map_some]
    · rw [contents_append, hm₁, hm₂, ← contents_append]
      rfl

/-- Settings that do for one end do for the other. -/
theorem DeflateParams.swap_ok {p : DeflateParams} {d : Deflater Z.toZlib}
    (h : p.deflater Z.toZlib = .ok d) : ∃ e, p.swap.deflater Z.toZlib = .ok e := by
  unfold DeflateParams.deflater Deflater.new at h ⊢
  split at h
  · cases h
  · rename_i hclient
    split at h
    · cases h
    · rename_i hserver
      exact ⟨_, (if_neg hserver).trans (if_neg hclient)⟩

/-- The ends start in step. -/
theorem paired_new {params : Option DeflateParams}
    (h : ∀ p ∈ params, ∃ d, p.deflater Z.toZlib = .ok d) :
    Paired (params.map (fun p => p.compressor Z))
      (params.bind (fun p => (p.swap.deflater Z.toZlib).toOption)) := by
  cases hp : params with
  | none => trivial
  | some p =>
    obtain ⟨d, hd⟩ := h p hp
    obtain ⟨e, he⟩ := DeflateParams.swap_ok hd
    rw [Option.map_some, Option.bind_some, he]
    exact inStep_new he

/-! ## The wire -/

/-- What is on the wire: the request, and behind it the frames that the compressor made of `out`.
Their messages are those of `sent`. -/
structure OnWire (request : Bytes) (c : Option (CompressHalf Z)) (written : List Bytes)
    (sent : List Frame) (blocks : List Block) (out : List Given) : Prop where
  written : written = request :: blocks.map Prod.fst
  whole : Whole blocks
  allowed : ∀ g ∈ out, g.Allowed
  frames : blocks.map Prod.snd = (encodeRun Given.wire c out).1
  sent : contents (out.map Given.frame) = contents sent
  plain : c = none → ∀ g ∈ out, g.compressed = false

/-- The compressor behind what was given. -/
def compressorBehind (c : Option (CompressHalf Z)) (out : List Given) : Option (CompressHalf Z) :=
  (encodeRun Given.wire c out).2

namespace OnWire

variable {request : Bytes} {c : Option (CompressHalf Z)} {written written' : List Bytes}
  {sent : List Frame} {blocks : List Block} {out : List Given}

theorem nothing (request : Bytes) (c : Option (CompressHalf Z)) :
    OnWire request c [request] [] [] [] where
  written := rfl
  whole := Whole.nil
  allowed _ hg := absurd hg List.not_mem_nil
  frames := rfl
  sent := rfl
  plain _ _ hg := absurd hg List.not_mem_nil

/-- Control frames of the transport's own. -/
theorem own (h : OnWire request c written sent blocks out) (hadded : Added written written') :
    ∃ blocks' out', OnWire request c written' sent blocks' out' ∧
      compressorBehind c out' = compressorBehind c out := by
  obtain ⟨new, hnew, whole, own⟩ := hadded
  have hplain : ∀ g ∈ new.map (fun x => Given.plain x.2), g.compressed = false := by
    intro g hg
    obtain ⟨x, -, rfl⟩ := List.mem_map.mp hg
    rfl
  have hrun := Given.run_plain hplain (compressorBehind c out)
  have hframes : (new.map (fun x => Given.plain x.2)).map Given.frame = new.map Prod.snd := by
    rw [List.map_map]
    rfl
  have hcontrol : contents (new.map Prod.snd) = [] := by
    refine contents_control (fun f hf => ?_)
    obtain ⟨x, hx, rfl⟩ := List.mem_map.mp hf
    exact (own x hx).1
  refine ⟨blocks ++ new, out ++ new.map (fun x => Given.plain x.2),
    ⟨?_, h.whole.append whole, ?_, ?_, ?_, ?_⟩, ?_⟩
  · rw [hnew, h.written, List.map_append, List.cons_append]
  · intro g hg
    rcases List.mem_append.mp hg with hg | hg
    · exact h.allowed g hg
    · obtain ⟨x, hx, rfl⟩ := List.mem_map.mp hg
      exact ⟨(whole x hx).2, fun _ => rfl, fun _ => (own x hx).2⟩
  · rw [encodeRun_append, List.map_append, h.frames]
    unfold compressorBehind at hrun
    rw [hrun, hframes]
  · rw [List.map_append, contents_append, hframes, hcontrol, List.append_nil, h.sent]
  · intro hnone g hg
    rcases List.mem_append.mp hg with hg | hg
    · exact h.plain hnone g hg
    · exact hplain g hg
  · unfold compressorBehind at hrun ⊢
    rw [encodeRun_append, hrun]

/-- A frame of a call. -/
theorem snoc (h : OnWire request c written sent blocks out) {data : Bytes} {g : Given}
    (hdata : written' = written ++ [data])
    (isSealed : Sealed data (g.wire (compressorBehind c out)).1)
    (allowed : g.Allowed) (plain : compressorBehind c out = none → g.compressed = false) :
    OnWire request c written' (sent ++ [g.frame])
        (blocks ++ [(data, (g.wire (compressorBehind c out)).1)]) (out ++ [g]) ∧
      compressorBehind c (out ++ [g]) = (g.wire (compressorBehind c out)).2 := by
  have hrun := Given.run_snoc c out g
  refine ⟨⟨?_, h.whole.append (.single isSealed (allowed.wire_fits _)), ?_, ?_, ?_, ?_⟩, ?_⟩
  · rw [hdata, h.written, List.map_append, List.cons_append]
    rfl
  · intro g' hg
    rcases List.mem_append.mp hg with hg | hg
    · exact h.allowed g' hg
    · rw [List.mem_singleton.mp hg]
      exact allowed
  · rw [hrun, List.map_append, h.frames]
    rfl
  · rw [List.map_append, contents_append, h.sent, contents_append]
    rfl
  · intro hnone g' hg
    have hold := h.plain hnone
    rcases List.mem_append.mp hg with hg | hg
    · exact hold g' hg
    · rw [List.mem_singleton.mp hg]
      refine plain ?_
      unfold compressorBehind
      rw [Given.run_plain hold]
      exact hnone
  · unfold compressorBehind
    rw [hrun]

/-- **The other end** takes all of it and recovers the messages. -/
theorem recovers (h : OnWire request c written sent blocks out) (hz : Z.SyncFlushed)
    {peer : Option (Deflater Z.toZlib)} (hpaired : Paired c peer) (order : Word.ByteOrder)
    (maxFrameSize maxMessageSize : Nat) (hmax : maxFrameSize ≤ ssizeMax)
    (hlen : ∀ w ∈ written.tail, w.length ≤ maxFrameSize) (chunks : List Bytes)
    (hcut : chunks.flatten = written.tail.flatten) :
    (∀ w ∈ written.tail, IsMasked w) ∧
      ∃ frames queued peer',
        (FrameParser.new order maxFrameSize maxMessageSize).feedAll chunks =
            (FrameParser.new order maxFrameSize maxMessageSize,
              .ok (frames, chunks.flatten.length)) ∧
          inflateAll peer frames = some (queued, peer') ∧ contents queued = contents sent := by
  have hframes : written.tail = blocks.map Prod.fst := by rw [h.written, List.tail_cons]
  rw [hframes] at hlen hcut ⊢
  refine ⟨fun w hw => ?_, ?_⟩
  · obtain ⟨x, hx, rfl⟩ := List.mem_map.mp hw
    exact (h.whole x hx).1.masked ((hlen x.1 hw).trans hmax)
  · have hfeed := feed_sealed h.whole hmax hlen order maxMessageSize
    obtain ⟨hall, -⟩ := feed_chunks order maxFrameSize maxMessageSize _ chunks hcut hfeed
    obtain ⟨queued, peer', hinflate, hcontents⟩ := inflateAll_given hz out hpaired h.allowed
    refine ⟨blocks.map (fun x => seen x.2), queued, peer', ?_, ?_, hcontents.trans h.sent⟩
    · rw [hall, hcut]
    · rw [← h.frames, List.map_map] at hinflate
      exact hinflate

end OnWire
end JetSocket.Transport
