import JetSocket.Manager.Intake
import JetSocket.Transport.Outbound

/- What the other end's application sends, and what `WebSocket.recv` receives.

   The server compresses what it is given, or some of it, with the settings of the handshake, and
   puts its frames on the wire, PINGs, PONGs and a Close frame among them. The bytes arrive in any
   pieces, the first of them with the handshake response. At any time the connection has had some
   of them; `given` is all that the server was given up to its last byte.

   What is proved:
     1. `inflateAll_before` — of any frames of a server in step, the messages before its first Close
        frame are recovered.
     2. `drain_served` — the frames in a part of the server's bytes are the first of its frames.
     3. `Flowing.arrivals_given` — the message loop has gone through the messages that the server
        was given before its Close frame, in order, up to where it has come; and when all bytes
        have arrived and nothing is left below the loop, through all of them. -/
namespace JetSocket.Manager
open JetSocket.Core JetSocket.Transport Transition StatefulCodec Incremental

namespace Intake

/-! ## The server's end -/

/-- The deflater is the one `connect` made with the settings. -/
def Agreed {Z : Zlib} : Option DeflateParams → Option (Deflater Z) → Prop
  | none, none => True
  | some p, some d => p.deflater Z = .ok d
  | _, _ => False

/-- The server's compressor. -/
def serverCompressor (Z : ZlibModule) (params : Option DeflateParams) :
    Option (CompressHalf Z) :=
  params.map (fun p => p.swap.compressor Z)

/-- The frames before the first Close frame. -/
def beforeClose (fs : List Frame) : List Frame := fs.takeWhile (fun f => f.opcode ≠ .close)

section Server
variable {Z : ZlibModule}

theorem Agreed.paired {params : Option DeflateParams} {d : Option (Deflater Z.toZlib)}
    (h : Agreed params d) : Paired (serverCompressor Z params) d := by
  cases params with
  | none =>
    cases d with
    | none => trivial
    | some d => exact h.elim
  | some p =>
    cases d with
    | none => exact h.elim
    | some d => exact inStep_new h

theorem contents_dataFrames (queued : List Frame) :
    contents (dataFrames queued) = contents (beforeClose queued) := by
  unfold contents dataFrames beforeClose
  rw [List.filter_filter]
  simp only [Bool.and_self]

theorem beforeClose_open {fs : List Frame} (h : ∀ f ∈ fs, f.opcode ≠ .close) (gs : List Frame) :
    beforeClose (fs ++ gs) = fs ++ beforeClose gs := by
  unfold beforeClose
  exact List.takeWhile_append_of_pos (by simpa using h)

theorem beforeClose_close {f : Frame} (h : f.opcode = .close) (fs : List Frame) :
    beforeClose (f :: fs) = [] :=
  List.takeWhile_cons_of_neg (by simp [h])

theorem beforeClose_mono {fs gs : List Frame} (h : fs <+: gs) :
    beforeClose fs <+: beforeClose gs := by
  obtain ⟨more, rfl⟩ := h
  unfold beforeClose
  rw [List.takeWhile_append]
  split
  · exact (List.takeWhile_prefix _).trans (List.prefix_append _ _)
  · exact ⟨[], List.append_nil _⟩

/-- Inflating keeps the opcode. -/
theorem inflate_opcodes {Z : Zlib} {d d' : Option (Deflater Z)} {f : Frame} {qs : List Frame}
    (h : inflate d f = some (qs, d')) : ∀ q ∈ qs, q.opcode = f.opcode := by
  unfold inflate at h
  split at h
  · cases h
    exact fun q hq => absurd hq List.not_mem_nil
  · split at h
    · cases h
      exact fun q hq => by rw [List.mem_singleton.mp hq]
    · split at h
      · obtain ⟨r, -, hr⟩ := Option.map_eq_some_iff.mp h
        cases hr
        exact fun q hq => by rw [List.mem_singleton.mp hq]
      · cases h
        exact fun q hq => by rw [List.mem_singleton.mp hq]

theorem wire_opcode (c : Option (CompressHalf Z)) (g : Given) :
    (seen (g.wire c).1).opcode = g.frame.opcode := by
  unfold Given.wire
  split <;> rfl

/-- **The messages before the Close frame** are recovered. -/
theorem inflateAll_before (hz : Z.SyncFlushed) (gs : List Given) :
    ∀ {c : Option (CompressHalf Z)} {d : Option (Deflater Z.toZlib)}, Paired c d →
      (∀ g ∈ gs, g.Allowed) →
      ∃ qs d', inflateAll d ((encodeRun Given.wire c gs).1.map seen) = some (qs, d') ∧
        contents (beforeClose qs) = contents (beforeClose (gs.map Given.frame)) := by
  induction gs with
  | nil => exact fun {_ d} _ _ => ⟨[], d, rfl, rfl⟩
  | cons g gs ih =>
    intro c d h hgs
    obtain ⟨qs₁, d₁, hone, hm₁, h₁⟩ := inflate_given hz h (hgs g List.mem_cons_self)
    obtain ⟨qs₂, d₂, hmore, hm₂⟩ := ih h₁ (fun g' hg => hgs g' (List.mem_cons_of_mem g hg))
    have hopcodes := inflate_opcodes hone
    simp only [wire_opcode] at hopcodes
    refine ⟨qs₁ ++ qs₂, d₂, ?_, ?_⟩
    · simp only [encodeRun, List.map_cons, inflateAll, hone, Option.bind_some, hmore,
        Option.map_some]
    · rw [List.map_cons]
      by_cases hclose : g.frame.opcode = .close
      · -- the Close frame itself is queued
        have hself : qs₁ = [seen (g.wire c).1] := by
          have hinflate : inflate d (seen (g.wire c).1) = some ([seen (g.wire c).1], d) := by
            unfold inflate
            rw [wire_opcode, hclose]
            rfl
          rw [hinflate] at hone
          cases hone
          rfl
        rw [hself, List.singleton_append, beforeClose_close (by rw [wire_opcode, hclose]),
          beforeClose_close hclose]
      · have hopen : ∀ q ∈ qs₁, q.opcode ≠ .close := fun q hq => by
          rw [hopcodes q hq]
          exact hclose
        have hfirst : ∀ f ∈ [g.frame], f.opcode ≠ .close := fun f hf => by
          rw [List.mem_singleton.mp hf]
          exact hclose
        rw [beforeClose_open hopen, ← List.singleton_append, beforeClose_open hfirst,
          contents_append, contents_append, hm₁, hm₂]

/-- **A part of the server's bytes** has the first of its frames, and the whole has them all. -/
theorem drain_served {maxFrameSize : Nat} (sender : FrameParser) (order : Word.ByteOrder)
    (c : Option (CompressHalf Z)) (given : List Given) (wire : List (WireFrame maxFrameSize))
    (hwire : wire.map WireFrame.frame = (encodeRun Given.wire c given).1.map seen) {stream : Bytes}
    (hstream : stream <+: encodeAll sender wire) :
    ∃ k rest n, drain (parseFrame order maxFrameSize) stream =
        (rest, .ok ((encodeRun Given.wire c (given.take k)).1.map seen, n)) ∧
      (stream = encodeAll sender wire → given.take k = given) := by
  have hstable := parseFrame_stable order maxFrameSize
  let blocks := wire.map (fun w => (w.encode sender, w.frame))
  have hitems : Items (parseFrame order maxFrameSize) blocks := by
    intro x hx
    obtain ⟨w, -, rfl⟩ := List.mem_map.mp hx
    exact parseFrame_encode sender order w
  have hfst : blocks.map Prod.fst = wire.map (WireFrame.encode sender) := by
    rw [List.map_map]
    rfl
  have hsnd : blocks.map Prod.snd = (encodeRun Given.wire c given).1.map seen := by
    rw [← hwire, List.map_map]
    rfl
  have hbytes : elements blocks = encodeAll sender wire := congrArg List.flatten hfst
  obtain ⟨later, hlater⟩ := hstream
  obtain ⟨now, tail, hblocks, -, hdrain⟩ :=
    drain_within hstable blocks hitems (hlater.trans hbytes.symm)
  have hnow : now.map Prod.snd =
      (encodeRun Given.wire c (given.take now.length)).1.map seen := by
    have hsplit := hsnd
    rw [hblocks, List.map_append] at hsplit
    rw [← List.take_append_drop now.length given, encodeRun_append, List.map_append] at hsplit
    refine (List.append_inj hsplit ?_).1
    have hcount := congrArg List.length hsnd
    rw [hblocks, List.length_map, List.length_map, encodeRun_length, List.length_append] at hcount
    rw [List.length_map, List.length_map, encodeRun_length, List.length_take]
    omega
  refine ⟨now.length, tail, _, hnow ▸ hdrain, fun hwhole => ?_⟩
  have hall := drain_encodeAll sender order wire []
  rw [List.append_nil, drain_none hstable.nil, Drained.after_ok, List.append_nil, ← hwhole,
    hdrain, hwire] at hall
  have hsame : now.map Prod.snd = (encodeRun Given.wire c given).1.map seen := by
    simp only [Prod.mk.injEq, Except.ok.injEq] at hall
    exact hall.2.1
  have hcount := congrArg List.length hsame
  rw [List.length_map, List.length_map, encodeRun_length] at hcount
  rw [hcount, List.take_length]

end Server

/-! ## From one end to the other -/

/-- A server that has the settings of the handshake, and has sent at least what the connection has
had: what it was given to send, and the frames that this makes on the wire. -/
structure Server {Z : ZlibModule} (config : TransportConfig) (c : Trace Z.toZlib) where
  params : Option DeflateParams
  given : List Given
  sender : FrameParser
  wire : List (WireFrame config.maxFrameSize)
  agreed : Agreed params c.deflater
  allowed : ∀ g ∈ given, g.Allowed
  frames : wire.map WireFrame.frame =
    (encodeRun Given.wire (serverCompressor Z params) given).1.map seen
  sent : c.stream <+: encodeAll sender wire

namespace Server
variable {Z : ZlibModule} {config : TransportConfig} {c : Trace Z.toZlib}

/-- The messages before the Close frame. -/
def messages (server : Server config c) : List (Opcode × Bytes × Bool) :=
  contents (beforeClose (server.given.map Given.frame))

/-- All of it has arrived. -/
def Done (server : Server config c) : Prop := c.stream = encodeAll server.sender server.wire

end Server

/-- The message loop has gone through messages that the server was given, from the first on, and
with nothing left below it through them all. -/
theorem Flowing.arrivals_given {α σ : Type} {Z : ZlibModule} (hz : Z.SyncFlushed)
    {config : TransportConfig} {request : Bytes} {d₀ : LoopData α σ} {s : Intake Z.toZlib α σ}
    (h : Flowing config request d₀ s) (server : Server config s.connection) :
    contents (s.arrivals.map Arrival.frame) <+: server.messages ∧
      (s.stage = .ready ∨ s.stage = .receiving → s.connection.transport.conn.proto.frames = [] →
        server.Done → contents (s.arrivals.map Arrival.frame) = server.messages) := by
  obtain ⟨params, given, sender, wire, hagreed, hallowed, hwire, hstream⟩ := server
  obtain ⟨k, rest, n, hparse, hwhole⟩ :=
    drain_served sender config.order (serverCompressor Z params) given wire hwire hstream
  have hfirst : ∀ g ∈ given.take k, g.Allowed := fun g hg => hallowed g (List.mem_of_mem_take hg)
  obtain ⟨queued, d, hinflate, hcontents⟩ :=
    inflateAll_before hz (given.take k) hagreed.paired hfirst
  have hpart : contents (beforeClose ((given.take k).map Given.frame)) <+:
      contents (beforeClose (given.map Given.frame)) := by
    have htake : (given.take k).map Given.frame <+: given.map Given.frame :=
      (List.take_prefix k given).map _
    have hbefore := beforeClose_mono htake
    exact (hbefore.filter _).map _
  refine ⟨?_, fun hstage hempty hdone => ?_⟩
  · refine List.IsPrefix.trans ?_ hpart
    rw [← hcontents, ← contents_dataFrames]
    exact ((h.arrivals_first hparse hinflate).filter _).map _
  · rw [h.arrivals_all hparse hinflate hstage hempty, contents_dataFrames, hcontents,
      hwhole hdone]
    rfl

end Intake
end JetSocket.Manager
