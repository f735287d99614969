import JetSocket.Core.Violation
import JetSocket.Transport.Delivery
import JetSocket.Transport.SyncTransport

/- What the blocking transport returns of a stream that ends with a Close frame.

   A read may complete several frames. `recv` returns the first data frame of them and keeps the
   rest for the next calls; where one of them is the Close frame, the socket is gone and the next
   call raises before it looks at what was kept.

   What is proved:
     `delivers_iff` — successive calls return all data frames in front of the Close frame, and
     then raise, exactly when the read that completes the Close frame completes at most one data
     frame. -/
namespace JetSocket.Transport
open JetSocket.Core Incremental AsyncTransport

variable {Z : Zlib}

/-! ## Successive calls -/

namespace SyncTransport

/-- The reads of one call of `recv`: each brings the next chunk, and times out when there is
none. The masking keys go by how many chunks are left. -/
def readLoop (keys : Nat → Nat → MaskKey) :
    List Bytes → SyncTransport Z → SyncTransport Z × RecvStop × List Bytes
  | [], t =>
    let r := t.recvChunk .timedOut (keys 0)
    (r.1, r.2, [])
  | chunk :: chunks, t =>
    match t.recvChunk (.chunk chunk) (keys (chunks.length + 1)) with
    | (t, .waiting) => readLoop keys chunks t
    | (t, stop) => (t, stop, chunks)

/-- One call of `recv`, with the chunks it leaves. -/
def recvCall (keys : Nat → Nat → MaskKey) (chunks : List Bytes) (t : SyncTransport Z) :
    SyncTransport Z × RecvStop × List Bytes :=
  match t.recv with
  | (t, .waiting) => readLoop keys chunks t
  | (t, stop) => (t, stop, chunks)

/-- What so many calls of `recv` come to, one after the other. -/
def recvCalls (keys : Nat → Nat → MaskKey) :
    Nat → List Bytes → SyncTransport Z → List RecvStop
  | 0, _, _ => []
  | n + 1, chunks, t =>
    let r := recvCall keys chunks t
    r.2.1 :: recvCalls keys n r.2.2 r.1

end SyncTransport

/-- Successive calls return these frames, and the next one raises `ConnectionError`. -/
def Delivers (keys : Nat → Nat → MaskKey) (chunks : List Bytes) (t : SyncTransport Z)
    (expected : List Frame) : Prop :=
  ∃ msg, t.recvCalls keys (expected.length + 1) chunks =
    expected.map .returned ++ [.raised (.connectionError msg)]

/-- The frames that the last read completes. -/
def ofLastRead (order : Word.ByteOrder) (frames chunks : List Bytes) : List Frame :=
  (behind chunks.dropLast.flatten.length (blocksOf order frames)).map Prod.snd

/-! ## The frame loop -/

/-- A data frame is what `recv` returns. -/
theorem passedOn_iff {f : Frame} (hping : f.opcode ≠ .ping) :
    passedOn f = !f.opcode.isControl := by
  unfold passedOn
  cases hop : f.opcode <;> simp [hop, Opcode.isControl, Opcode.value] at hping ⊢

/-- As many frames are returned as there are data frames. -/
theorem inflate_length {d d' : Option (Deflater Z)} {f : Frame} {qs : List Frame}
    (h : inflate d f = some (qs, d')) :
    (qs.filter passedOn).length = ([f].filter (fun f => !f.opcode.isControl)).length := by
  have hself : f.opcode ≠ .ping →
      ([f].filter passedOn).length = ([f].filter (fun f => !f.opcode.isControl)).length := by
    intro hping
    rw [List.filter_congr (fun g hg => ?_)]
    rw [List.mem_singleton.mp hg]
    exact passedOn_iff hping
  unfold inflate at h
  split at h
  · rename_i hping
    cases h
    simp [hping, Opcode.isControl, Opcode.value]
  · rename_i hping
    split at h
    · cases h
      exact hself hping
    · rename_i hdata
      split at h
      · obtain ⟨r, -, hr⟩ := Option.map_eq_some_iff.mp h
        cases hr
        have hout : passedOn { opcode := f.opcode, payload := r.1, fin := f.fin } = true := by
          rw [passedOn_iff (by exact hping)]
          simpa using hdata
        simp [hout, hdata]
      · cases h
        exact hself hping

theorem inflateAll_length : ∀ (fs : List Frame) {d d' : Option (Deflater Z)} {qs : List Frame},
    inflateAll d fs = some (qs, d') →
    (qs.filter passedOn).length = (fs.filter (fun f => !f.opcode.isControl)).length
  | [], _, _, _, h => by
    cases h
    rfl
  | f :: fs, d, d', qs, h => by
    obtain ⟨⟨q₁, d₁⟩, hone, h⟩ := Option.bind_eq_some_iff.mp h
    obtain ⟨⟨q₂, d₂⟩, hmore, h⟩ := Option.map_eq_some_iff.mp h
    cases h
    have hfirst := inflate_length hone
    have hrest := inflateAll_length fs hmore
    calc ((q₁ ++ q₂).filter passedOn).length
        = (q₁.filter passedOn).length + (q₂.filter passedOn).length := by
          rw [List.filter_append, List.length_append]
      _ = ([f].filter (fun f => !f.opcode.isControl)).length +
            (fs.filter (fun f => !f.opcode.isControl)).length := by rw [hfirst, hrest]
      _ = ((f :: fs).filter (fun f => !f.opcode.isControl)).length := by
          rw [← List.length_append, ← List.filter_append, List.singleton_append]

namespace SyncTransport

/-- A connection in use: what the parser holds back, the decompressor, and what is kept. -/
structure InUse (config : TransportConfig) (tail : Bytes) (d : Option (Deflater Z))
    (pending : List Frame) (t : SyncTransport Z) : Prop where
  connected : t.connected = true
  socket : t.socket = true
  parser : t.parser = some { config.parser with buffer := tail }
  deflater : t.deflater = d
  pendingFrames : t.pendingFrames = pending

variable {config : TransportConfig} {tail : Bytes} {d d' : Option (Deflater Z)}
  {pending : List Frame} {t : SyncTransport Z}

theorem InUse.sendAll (h : InUse config tail d pending t) (data : Bytes) :
    InUse config tail d pending (t.sendAll data) := by
  unfold SyncTransport.sendAll
  split
  · exact ⟨h.connected, h.socket, h.parser, h.deflater, h.pendingFrames⟩
  · exact h

theorem InUse.handleFrame (h : InUse config tail d pending t) {f : Frame} {qs : List Frame}
    (hclose : f.opcode ≠ .close) (hi : inflate d f = some (qs, d')) (key : MaskKey) :
    ∃ u, t.handleFrame key f = some (u, qs.filter passedOn) ∧ InUse config tail d' pending u := by
  unfold inflate at hi
  unfold SyncTransport.handleFrame
  rw [if_neg hclose]
  split at hi
  · rename_i hping
    cases hi
    rw [if_pos hping]
    refine ⟨_, rfl, ?_⟩
    unfold handlePingFrame
    rw [h.parser]
    exact h.sendAll _
  · rename_i hping
    rw [if_neg hping]
    split at hi
    · rename_i hcontrol
      cases hi
      have hpong : f.opcode = .pong := by
        cases hop : f.opcode <;> simp [hop, Opcode.isControl, Opcode.value] at *
      refine ⟨t, ?_, h⟩
      rw [if_pos hpong, List.filter_cons_of_neg (by simp [passedOn, hpong]), List.filter_nil]
    · rename_i hdata
      have hpong : f.opcode ≠ .pong := by
        intro hpong
        simp [hpong, Opcode.isControl, Opcode.value] at hdata
      have hpassed : passedOn f = true := by simp [passedOn, hpong, hclose]
      rw [if_neg hpong, h.deflater]
      cases hr : f.rsv1 with
      | false =>
        rw [hr] at hi
        cases hi
        refine ⟨t, ?_, h⟩
        rw [List.filter_cons_of_pos hpassed, List.filter_nil]
      | true =>
        rw [hr] at hi
        cases d with
        | none =>
          cases hi
          refine ⟨t, ?_, h⟩
          rw [List.filter_cons_of_pos hpassed, List.filter_nil]
        | some deflater =>
          obtain ⟨r, hr', hq⟩ := Option.map_eq_some_iff.mp hi
          cases hq
          have hout : passedOn { opcode := f.opcode, payload := r.1, fin := f.fin } = true :=
            hpassed
          refine ⟨{ t with deflater := some r.2 }, ?_,
            ⟨h.connected, h.socket, h.parser, rfl, h.pendingFrames⟩⟩
          simp only [hr', Option.map_some, List.filter_cons_of_pos hout, List.filter_nil]

/-- **The frame loop** without a Close frame. -/
theorem InUse.handleFrames : ∀ (fs : List Frame) {t : SyncTransport Z} {d d' : Option (Deflater Z)}
    {qs : List Frame}, InUse config tail d pending t → (∀ f ∈ fs, f.opcode ≠ .close) →
    inflateAll d fs = some (qs, d') → ∀ keys : Nat → MaskKey, ∃ u,
    t.handleFrames keys fs = (u, some (qs.filter passedOn)) ∧ InUse config tail d' pending u
  | [], t, d, d', qs, h, _, hi, keys => by
    cases hi
    exact ⟨t, rfl, h⟩
  | f :: fs, t, d, d', qs, h, hclose, hi, keys => by
    obtain ⟨⟨q₁, d₁⟩, hone, hi⟩ := Option.bind_eq_some_iff.mp hi
    obtain ⟨⟨q₂, d₂⟩, hmore, hi⟩ := Option.map_eq_some_iff.mp hi
    cases hi
    obtain ⟨v, hv, hin⟩ := h.handleFrame (hclose f List.mem_cons_self) hone (keys 0)
    obtain ⟨u, hu, hout⟩ := InUse.handleFrames fs hin
      (fun g hg => hclose g (List.mem_cons_of_mem f hg)) hmore (fun i => keys (i + 1))
    refine ⟨u, ?_, hout⟩
    simp only [SyncTransport.handleFrames, hv, hu, Option.map_some, List.filter_append]

theorem handleFrames_append : ∀ (fs gs : List Frame) (t : SyncTransport Z) {u : SyncTransport Z}
    {out : List Frame} (keys : Nat → MaskKey), t.handleFrames keys fs = (u, some out) →
    t.handleFrames keys (fs ++ gs) =
      ((u.handleFrames (fun i => keys (i + fs.length)) gs).1,
        (u.handleFrames (fun i => keys (i + fs.length)) gs).2.map (out ++ ·))
  | [], gs, t, u, out, keys, h => by
    cases h
    simp
  | f :: fs, gs, t, u, out, keys, h => by
    simp only [SyncTransport.handleFrames, List.cons_append] at h ⊢
    cases hf : t.handleFrame (keys 0) f with
    | none =>
      rw [hf] at h
      cases h
    | some r =>
      rw [hf] at h
      simp only [Prod.mk.injEq] at h
      obtain ⟨rfl, hout⟩ := h
      obtain ⟨mid, hmid, rfl⟩ := Option.map_eq_some_iff.mp hout
      have hrest := handleFrames_append fs gs r.1 (fun i => keys (i + 1))
        (u := (r.1.handleFrames (fun i => keys (i + 1)) fs).1) (Prod.ext rfl hmid)
      dsimp only
      rw [hrest]
      simp only [List.length_cons, Option.map_map, Nat.add_assoc, Function.comp_def,
        List.append_assoc]

/-! ## One read, and the calls -/

/-- A read of part of a stream goes to the frame loop. -/
theorem InUse.recvChunk (h : InUse config tail d pending t) {data rest : Bytes} {fs : List Frame}
    {n : Nat} (hdata : data ≠ [])
    (hdrain : drain (parseFrame config.order config.maxFrameSize) (tail ++ data) =
      (rest, .ok (fs, n))) (keys : Nat → MaskKey) :
    t.recvChunk (.chunk data) keys =
      match ({ t with parser := some { config.parser with buffer := rest } } :
          SyncTransport Z).handleFrames keys fs with
      | (t, none) => (t, .raised .zlibError)
      | (t, some []) => (t, .waiting)
      | (t, some (frame :: more)) =>
        ({ t with pendingFrames := t.pendingFrames ++ more }, .returned frame) := by
  have hfeed : ({ config.parser with buffer := tail } : FrameParser).feed data =
      ({ config.parser with buffer := rest }, .ok (fs, n)) := by
    simp only [FrameParser.feed, Incremental.feed, TransportConfig.parser, FrameParser.new, hdrain]
  unfold SyncTransport.recvChunk
  rw [if_neg (by simp [h.socket])]
  cases data with
  | nil => exact absurd rfl hdata
  | cons b bs =>
    rw [h.parser]
    dsimp only
    generalize FrameParser.feed _ (b :: bs) = fed at hfeed ⊢
    subst hfeed
    rfl

/-- `recv` of a connection in use returns what is kept, or reads. -/
theorem InUse.recv_kept {frame : Frame} (h : InUse config tail d (frame :: pending) t) :
    t.recv = ({ t with pendingFrames := pending }, .returned frame) := by
  unfold SyncTransport.recv
  rw [if_neg (by simp [h.connected, h.parser]), h.pendingFrames]

theorem InUse.recv_nothing (h : InUse config tail d [] t) : t.recv = (t, .waiting) := by
  unfold SyncTransport.recv
  rw [if_neg (by simp [h.connected, h.parser]), h.pendingFrames]

/-- What is kept is returned first. -/
theorem InUse.recvCalls_pending (keys : Nat → Nat → MaskKey) (chunks : List Bytes) (n : Nat) :
    ∀ (pending : List Frame) {t : SyncTransport Z}, InUse config tail d pending t → ∃ u,
      t.recvCalls keys (pending.length + n) chunks =
          pending.map .returned ++ u.recvCalls keys n chunks ∧ InUse config tail d [] u
  | [], t, h => ⟨t, by simp, h⟩
  | frame :: pending, t, h => by
    have hrest : InUse config tail d pending { t with pendingFrames := pending } :=
      ⟨h.connected, h.socket, h.parser, h.deflater, rfl⟩
    obtain ⟨u, hcalls, hu⟩ := InUse.recvCalls_pending keys chunks n pending hrest
    refine ⟨u, ?_, hu⟩
    rw [List.length_cons, Nat.add_right_comm, recvCalls]
    simp only [recvCall, h.recv_kept, hcalls]
    rfl

/-- A call with nothing kept reads. -/
theorem InUse.recvCall (h : InUse config tail d [] t) (keys : Nat → Nat → MaskKey)
    (chunks : List Bytes) : t.recvCall keys chunks = t.readLoop keys chunks := by
  unfold SyncTransport.recvCall
  rw [h.recv_nothing]

/-- **One read** that completes no Close frame: its data frames are returned, and then what the
next reads bring. -/
theorem InUse.recvCalls_read (h : InUse config tail d [] t) {data rest : Bytes} {fs qs : List Frame}
    {n : Nat} (hdata : data ≠ [])
    (hdrain : drain (parseFrame config.order config.maxFrameSize) (tail ++ data) =
      (rest, .ok (fs, n)))
    (hclose : ∀ f ∈ fs, f.opcode ≠ .close) (hi : inflateAll d fs = some (qs, d'))
    (keys : Nat → Nat → MaskKey) (chunks : List Bytes) (m : Nat) :
    ∃ u, t.recvCalls keys ((qs.filter passedOn).length + m) (data :: chunks) =
        (qs.filter passedOn).map .returned ++ u.recvCalls keys m chunks ∧
      InUse config rest d' [] u := by
  have hfed : InUse config rest d []
      { t with parser := some { config.parser with buffer := rest } } :=
    ⟨h.connected, h.socket, rfl, h.deflater, h.pendingFrames⟩
  obtain ⟨u, hloop, hu⟩ := hfed.handleFrames fs hclose hi (keys (chunks.length + 1))
  have hread := h.recvChunk hdata hdrain (keys (chunks.length + 1))
  rw [hloop] at hread
  cases hout : qs.filter passedOn with
  | nil =>
    -- nothing to return: the call reads on, as a call on the next chunks would
    rw [hout] at hread
    refine ⟨u, ?_, hu⟩
    simp only [List.length_nil, Nat.zero_add, List.map_nil, List.nil_append]
    cases m with
    | zero => rfl
    | succ m =>
      simp only [recvCalls, h.recvCall, hu.recvCall, readLoop, hread]
  | cons frame more =>
    rw [hout] at hread
    have hkept : InUse config rest d' more
        { u with pendingFrames := u.pendingFrames ++ more } :=
      ⟨hu.connected, hu.socket, hu.parser, hu.deflater, by rw [hu.pendingFrames, List.nil_append]⟩
    obtain ⟨v, hcalls, hv⟩ := InUse.recvCalls_pending keys chunks m more hkept
    refine ⟨v, ?_, hv⟩
    rw [List.length_cons, Nat.add_right_comm, recvCalls]
    simp only [h.recvCall, readLoop, hread, hcalls]
    rfl

/-- A connection that is over raises, whatever it has kept. -/
theorem recvCalls_over {t : SyncTransport Z} (h : t.connected = false) (keys : Nat → Nat → MaskKey)
    (chunks : List Bytes) : ∀ n : Nat, t.recvCalls keys n chunks =
      List.replicate n (.raised (.connectionError "Transport is not connected"))
  | 0 => rfl
  | n + 1 => by
    have hrecv : t.recv =
        (t, .raised (.connectionError "Transport is not connected")) := by
      unfold SyncTransport.recv
      rw [if_pos (by simp [h])]
    simp only [recvCalls, recvCall, hrecv, recvCalls_over h keys chunks n, List.replicate_succ]

/-- **The last read**, which completes the Close frame: its first data frame is returned, and
nothing behind it. -/
theorem InUse.recvCalls_last (h : InUse config tail d [] t) {data rest : Bytes} {fs qs : List Frame}
    {close : Frame} {n : Nat} (hdata : data ≠ [])
    (hdrain : drain (parseFrame config.order config.maxFrameSize) (tail ++ data) =
      (rest, .ok (fs ++ [close], n)))
    (hopen : ∀ f ∈ fs, f.opcode ≠ .close) (hclose : close.opcode = .close)
    (hi : inflateAll d fs = some (qs, d')) (keys : Nat → Nat → MaskKey) :
    (∃ msg, t.recvCalls keys ((qs.filter passedOn).length + 1) [data] =
        (qs.filter passedOn).map .returned ++ [.raised (.connectionError msg)]) ↔
      (qs.filter passedOn).length ≤ 1 := by
  have hfed : InUse config rest d []
      { t with parser := some { config.parser with buffer := rest } } :=
    ⟨h.connected, h.socket, rfl, h.deflater, h.pendingFrames⟩
  obtain ⟨u, hloop, hu⟩ := hfed.handleFrames fs hopen hi (keys 1)
  obtain ⟨v, hv, hsocket, hconnected⟩ : ∃ v : SyncTransport Z,
      u.handleFrames (fun i => keys 1 (i + fs.length)) [close] = (v, some []) ∧
        v.socket = false ∧ v.connected = false := by
    refine ⟨u.handleCloseFrame (keys 1 (0 + fs.length)) close, ?_, rfl, rfl⟩
    simp only [SyncTransport.handleFrames, SyncTransport.handleFrame, if_pos hclose,
      Option.map_some, List.append_nil]
  have hread := h.recvChunk hdata hdrain (keys 1)
  rw [handleFrames_append fs [close] _ (keys 1) hloop, hv] at hread
  simp only [Option.map_some, List.append_nil] at hread
  cases hout : qs.filter passedOn with
  | nil =>
    rw [hout] at hread
    refine iff_of_true ⟨"Socket is not connected", ?_⟩ (Nat.zero_le 1)
    have hlast : v.recvChunk .timedOut (keys 0) =
        (v, .raised (.connectionError "Socket is not connected")) := by
      unfold SyncTransport.recvChunk
      rw [if_pos (by simp [hsocket])]
    simp only [List.length_nil, recvCalls, h.recvCall, readLoop, hread, hlast, List.map_nil,
      List.nil_append]
  | cons frame more =>
    rw [hout] at hread
    have hover := recvCalls_over (t := { v with pendingFrames := v.pendingFrames ++ more })
      hconnected keys []
    have hcalls : t.recvCalls keys ((frame :: more).length + 1) [data] = .returned frame ::
        List.replicate (more.length + 1)
          (.raised (.connectionError "Transport is not connected")) := by
      rw [List.length_cons, recvCalls]
      simp only [h.recvCall, readLoop, List.length_nil, Nat.zero_add, hread, hover]
    rw [hcalls]
    cases more with
    | nil => exact iff_of_true ⟨_, rfl⟩ (Nat.le_refl 1)
    | cons second more =>
      refine iff_of_false ?_ (by simp)
      rintro ⟨msg, heq⟩
      simp [List.replicate_succ] at heq

end SyncTransport

/-! ## The whole stream -/

variable {config : TransportConfig} {close : Bytes} (keys : Nat → Nat → MaskKey)

/-- The front of a list is shorter. -/
theorem shorter {front back whole : Bytes} (h : front ++ back = whole) (hback : 0 < back.length) :
    front.length < whole.length := by
  rw [← h, List.length_append]
  omega

/-- The last read takes all that is left. -/
theorem drain_last {frames : List Bytes} {b : Bytes}
    (hwf : ∀ f ∈ frames ++ [close], WellFormed config.maxFrameSize f)
    (hb : b = (frames ++ [close]).flatten) : ∃ n,
      drain (parseFrame config.order config.maxFrameSize) b =
        ([], .ok (frames.map (frameOf config.order) ++ [frameOf config.order close], n)) := by
  have hstable := parseFrame_stable config.order config.maxFrameSize
  have hdrain := drain_blocks hstable (blocksOf config.order (frames ++ [close])) []
    (items_blocksOf hwf)
  have hitems : (blocksOf config.order (frames ++ [close])).map Prod.snd =
      frames.map (frameOf config.order) ++ [frameOf config.order close] := by
    simp [blocksOf]
  rw [drain_none hstable.nil, Drained.after_ok, List.append_nil, List.append_nil, hitems,
    ← elements, elements_blocksOf, ← hb] at hdrain
  exact ⟨_, hdrain⟩

/-- **A read that is not the last** takes the frames that are whole in it, and what is left is that
much of the stream in front of the rest. -/
theorem drain_early {frames : List Bytes} {b more : Bytes}
    (hwf : ∀ f ∈ frames ++ [close], WellFormed config.maxFrameSize f)
    (hsplit : b ++ more = (frames ++ [close]).flatten) (hmore : 0 < more.length) :
    ∃ early late tail n, frames = early ++ late ∧
      drain (parseFrame config.order config.maxFrameSize) b =
        (tail, .ok (early.map (frameOf config.order), n)) ∧
      tail ++ more = (late ++ [close]).flatten ∧
      (∀ m, behind (b.length + m) (blocksOf config.order frames) =
        behind (tail.length + m) (blocksOf config.order late)) ∧
      behind tail.length (blocksOf config.order late) = blocksOf config.order late := by
  have hpart : b ++ more = elements (blocksOf config.order (frames ++ [close])) := by
    rw [elements_blocksOf, hsplit]
  obtain ⟨now, tail, hsnoc, rfl, hdrain⟩ :=
    drain_within (parseFrame_stable config.order config.maxFrameSize) _ (items_blocksOf hwf) hpart
  -- the Close frame is not whole in it
  have hshort := shorter hpart hmore
  have hblocks : blocksOf config.order (frames ++ [close]) =
      blocksOf config.order frames ++ [(close, frameOf config.order close)] := List.map_append
  rw [hblocks] at hsnoc hshort
  rw [behind_snoc _ _ hshort, ← List.append_assoc] at hsnoc
  obtain ⟨early, late, rfl, rfl, hlate⟩ :=
    List.map_eq_append_iff.mp (List.append_cancel_right hsnoc)
  change blocksOf config.order late = _ at hlate
  have hnow : elements (early.map (fun f => (f, frameOf config.order f))) = early.flatten :=
    elements_blocksOf config.order early
  have hitems : (early.map (fun f => (f, frameOf config.order f))).map Prod.snd =
      early.map (frameOf config.order) := by
    rw [List.map_map]
    rfl
  rw [hnow] at hsplit hlate hdrain ⊢
  rw [hitems] at hdrain
  have hahead : ∀ m, behind ((early.flatten ++ tail).length + m)
      (blocksOf config.order (early ++ late)) =
        behind (tail.length + m) (blocksOf config.order late) := by
    intro m
    have hsplits : blocksOf config.order (early ++ late) =
        blocksOf config.order early ++ blocksOf config.order late := List.map_append
    rw [hsplits, List.length_append, ← elements_blocksOf config.order early, Nat.add_assoc,
      behind_whole]
  refine ⟨early, late, tail, _, rfl, hdrain, ?_, hahead, ?_⟩
  · rw [List.append_assoc, List.append_assoc, List.flatten_append] at hsplit
    exact List.append_cancel_left hsplit
  · have hzero := hahead 0
    rw [Nat.add_zero, Nat.add_zero] at hzero
    rw [← hzero, ← hlate]

/-- **Calls on what is left of a stream.** The induction is on the reads: each but the last hands
on a shorter stream, of which nothing is whole yet. -/
theorem delivers_of_inUse (hclose : (frameOf config.order close).opcode = .close) :
    ∀ (chunks : List Bytes) {t : SyncTransport Z} {tail : Bytes} {d d' : Option (Deflater Z)}
      {frames : List Bytes} {queued : List Frame}, t.InUse config tail d [] →
      (∀ f ∈ frames ++ [close], WellFormed config.maxFrameSize f) →
      (∀ f ∈ frames, (frameOf config.order f).opcode ≠ .close) →
      inflateAll d (frames.map (frameOf config.order)) = some (queued, d') →
      (∀ c ∈ chunks, c ≠ []) → tail ++ chunks.flatten = (frames ++ [close]).flatten →
      behind tail.length (blocksOf config.order frames) = blocksOf config.order frames →
      tail.length < (frames ++ [close]).flatten.length →
      (Delivers keys chunks t (queued.filter passedOn) ↔
        ((behind (tail.length + chunks.dropLast.flatten.length)
          (blocksOf config.order frames)).filter (fun x => !x.2.opcode.isControl)).length ≤ 1)
  | [], t, tail, d, d', frames, queued, _, _, _, _, _, hsplit, _, hlt => by
    rw [List.flatten_nil, List.append_nil] at hsplit
    rw [hsplit] at hlt
    exact absurd hlt (Nat.lt_irrefl _)
  | [data], t, tail, d, d', frames, queued, h, hwf, hopen, hi, hne, hsplit, hbehind, _ => by
    rw [List.flatten_singleton] at hsplit
    obtain ⟨n, hdrain⟩ := drain_last hwf hsplit
    have hlast := h.recvCalls_last (hne data List.mem_cons_self) hdrain
      (by simpa using hopen) hclose hi keys
    have hcount : (queued.filter passedOn).length =
        ((blocksOf config.order frames).filter (fun x => !x.2.opcode.isControl)).length := by
      rw [inflateAll_length _ hi]
      simp only [blocksOf, List.filter_map, List.length_map]
      rfl
    rw [List.dropLast_singleton, List.flatten_nil, List.length_nil, Nat.add_zero, hbehind, ← hcount]
    exact hlast
  | data :: next :: chunks, t, tail, d, d', frames, queued, h, hwf, hopen, hi, hne, hsplit,
      hbehind, hlt => by
    have hlater : ∀ c ∈ next :: chunks, c ≠ [] := fun c hc => hne c (List.mem_cons_of_mem data hc)
    have hpos : 0 < (next :: chunks).flatten.length := by
      refine List.length_pos_of_ne_nil (fun hnil => ?_)
      exact hlater next List.mem_cons_self (List.append_eq_nil_iff.mp hnil).1
    rw [List.flatten_cons, ← List.append_assoc] at hsplit
    obtain ⟨early, late, tail', n, rfl, hdrain, hrest, hahead, hlate⟩ :=
      drain_early hwf hsplit hpos
    rw [List.map_append, inflateAll_append] at hi
    obtain ⟨⟨q₁, d₁⟩, hearly, hi⟩ := Option.bind_eq_some_iff.mp hi
    obtain ⟨⟨q₂, d₂⟩, hlate', hi⟩ := Option.map_eq_some_iff.mp hi
    cases hi
    have hopen' : ∀ f ∈ early.map (frameOf config.order), f.opcode ≠ .close := by
      intro f hf
      obtain ⟨b, hb, rfl⟩ := List.mem_map.mp hf
      exact hopen b (List.mem_append_left late hb)
    obtain ⟨u, hcalls, hu⟩ := h.recvCalls_read (hne data List.mem_cons_self) hdrain hopen' hearly
      keys (next :: chunks) ((q₂.filter passedOn).length + 1)
    have hwf' : ∀ f ∈ late ++ [close], WellFormed config.maxFrameSize f := by
      intro f hf
      rw [List.append_assoc] at hwf
      exact hwf f (List.mem_append_right early hf)
    have hstep := delivers_of_inUse hclose (next :: chunks) hu hwf'
      (fun f hf => hopen f (List.mem_append_right early hf)) hlate' hlater hrest hlate
      (shorter hrest hpos)
    have hdrop : tail.length + (data :: next :: chunks).dropLast.flatten.length =
        (tail ++ data).length + (next :: chunks).dropLast.flatten.length := by
      rw [List.dropLast_cons_cons, List.flatten_cons, List.length_append, List.length_append,
        Nat.add_assoc]
    rw [hdrop, hahead, ← hstep]
    unfold Delivers
    rw [List.filter_append, List.length_append, Nat.add_assoc, hcalls, List.map_append]
    refine exists_congr (fun msg => ?_)
    rw [List.append_assoc]
    exact List.append_right_inj _

/-- **A stream that ends with a Close frame**, in any reads: successive calls return all data
frames in front of it, inflated, and then raise, exactly when the last read completes at most one
of them. -/
theorem delivers_iff (Z : Zlib) (config : TransportConfig) (deflater : Option (Deflater Z))
    {frames chunks : List Bytes} {close : Bytes} {queued : List Frame} {d : Option (Deflater Z)}
    (hwf : ∀ f ∈ frames ++ [close], WellFormed config.maxFrameSize f)
    (hopen : ∀ f ∈ frames, (frameOf config.order f).opcode ≠ .close)
    (hclose : (frameOf config.order close).opcode = .close)
    (hinflate : inflateAll deflater (frames.map (frameOf config.order)) = some (queued, d))
    (hchunks : chunks.flatten = (frames ++ [close]).flatten) (hread : ∀ c ∈ chunks, c ≠ [])
    (keys : Nat → Nat → MaskKey) :
    Delivers keys chunks ((SyncTransport.new Z config).finishConnect deflater)
        (queued.filter passedOn) ↔
      ((ofLastRead config.order frames chunks).filter
        (fun f => !f.opcode.isControl)).length ≤ 1 := by
  have hstart : ((SyncTransport.new Z config).finishConnect deflater).InUse config [] deflater [] :=
    ⟨rfl, rfl, rfl, Option.or_none, rfl⟩
  have hstable := parseFrame_stable config.order config.maxFrameSize
  have hwf' : ∀ f ∈ frames, WellFormed config.maxFrameSize f :=
    fun f hf => hwf f (List.mem_append_left _ hf)
  have hparse : parseFrame config.order config.maxFrameSize close =
      .ok (some (frameOf config.order close, close.length)) := (hwf close (by simp)).parse
  have hpos : 0 < close.length := (hstable.consumed hparse).1
  have hlast := delivers_of_inUse keys hclose chunks hstart hwf hopen hinflate hread hchunks
    (behind_zero hstable (items_blocksOf hwf'))
    (by
      rw [List.flatten_append, List.flatten_singleton, List.length_append]
      exact Nat.add_pos_right _ hpos)
  rw [hlast, List.length_nil, Nat.zero_add]
  unfold ofLastRead
  rw [List.filter_map, List.length_map]
  rfl

/-- A Text frame of one byte, and a Close frame without a payload. -/
def textFrame (b : UInt8) : Bytes := [0x81, 0x01, b]

def emptyClose : Bytes := [0x88, 0x00]

theorem wellFormed_two :
    ∀ f ∈ [textFrame 0x41, textFrame 0x42] ++ [emptyClose], WellFormed 1024 f := by
  have hparsed : ∀ f ∈ [textFrame 0x41, textFrame 0x42] ++ [emptyClose],
      parseFrame .little 1024 f = .ok (some (frameOf .little f, f.length)) := by
    decide
  intro f hf
  have hwhole := parse_wellFormed (hparsed f hf)
  rwa [List.take_length] at hwhole

def plainConfig : TransportConfig := ⟨.little, 1024, 4096, false⟩

def noKeys : Nat → Nat → MaskKey := fun _ _ => ⟨0, 0, 0, 0⟩

/-- The Close frame comes with the end of the second of two Text frames. -/
theorem delivers_two :
    Delivers noKeys [[0x81, 0x01, 0x41, 0x81], [0x01, 0x42, 0x88, 0x00]]
      ((SyncTransport.new plainZlib plainConfig).finishConnect none)
      [{ opcode := .text, payload := [0x41] }, { opcode := .text, payload := [0x42] }] :=
  (delivers_iff plainZlib plainConfig none wellFormed_two (by decide) (by decide) rfl
    (by decide) (by decide) noKeys).mpr (by decide)

/-- It comes with both: the second is never returned. -/
theorem delivers_fails :
    (∀ f ∈ [textFrame 0x41, textFrame 0x42] ++ [emptyClose], WellFormed 1024 f) ∧
      ¬ Delivers noKeys [textFrame 0x41 ++ textFrame 0x42 ++ emptyClose]
        ((SyncTransport.new plainZlib plainConfig).finishConnect none)
        ([textFrame 0x41, textFrame 0x42].map (frameOf .little)) := by
  refine ⟨wellFormed_two, ?_⟩
  rintro ⟨msg, h⟩
  have hcalls : SyncTransport.recvCalls noKeys 3 [textFrame 0x41 ++ textFrame 0x42 ++ emptyClose]
      ((SyncTransport.new plainZlib plainConfig).finishConnect none) =
      .returned (frameOf .little (textFrame 0x41)) ::
        List.replicate 2 (.raised (.connectionError "Transport is not connected")) := by
    decide +kernel
  rw [List.length_map, show [textFrame 0x41, textFrame 0x42].length + 1 = 3 from rfl, hcalls] at h
  cases h

end JetSocket.Transport
