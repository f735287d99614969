import JetSocket.Manager.PongPath

/- Fragmented messages on the receive path.

   The parser declares `_message_buffer` and `_message_opcode` and nothing fills them;
   `data_received` queues every data frame, `recv` returns each, and the message loop
   hands the payload of each to the deserializer.

   What is proved:
     1. `session_step` — in any run, the message loop has handled the frames `recv`
        returned, but for one it may have in hand.
     2. `handed_length` — once everything received is handled, the deserializer has been
        given one payload for every data frame of the stream.
     3. `fragments_handed_apart` — so a message in fragments is never handed over as the
        same message in one frame is. -/
namespace JetSocket.Manager
open JetSocket.Core JetSocket.Transport Transition AsyncTransport Incremental

variable {Z : Zlib} {T : Type}

/-- A wire frame with a part of a message in it. -/
def isData {maxFrameSize : Nat} (w : WireFrame maxFrameSize) : Bool := !w.opcode.isControl

/-- A message in fragments with control frames between them, and in one frame. -/
structure Fragmentation (maxFrameSize : Nat) where
  first : WireFrame maxFrameSize
  between : List (WireFrame maxFrameSize)
  last : WireFrame maxFrameSize
  whole : WireFrame maxFrameSize
  first_data : first.opcode = .text ∨ first.opcode = .binary
  first_fin : first.fin = false
  between_ok : ∀ w ∈ between, (w.opcode = .continuation ∧ w.fin = false) ∨ w.opcode = .ping ∨
    w.opcode = .pong
  last_continuation : last.opcode = .continuation
  last_fin : last.fin = true
  whole_opcode : whole.opcode = first.opcode
  whole_fin : whole.fin = true
  whole_payload : whole.payload = first.payload ++
    (between.filter isData).flatMap WireFrame.payload ++ last.payload

/-- The frames of the fragmented message, in order. -/
def Fragmentation.frames {maxFrameSize : Nat} (m : Fragmentation maxFrameSize) :
    List (WireFrame maxFrameSize) :=
  m.first :: (m.between ++ [m.last])

/-! ## The message loop handles what recv returns -/

/-- The frame the message loop has in hand. -/
def LoopState.inHand : LoopState → List Frame
  | .handling f => [f]
  | _ => []

/-- Everything received has been handled. -/
def Session.Drained (s : Session Z T) : Prop :=
  s.connection.transport.conn.proto.frames = [] ∧ s.loop.inHand = []

/-- The invariant of runs: the connection is orderly, and what `recv` returned is handled or
in hand. -/
structure Following (config : TransportConfig) (request : Bytes) (s : Session Z T) : Prop where
  orderly : Orderly config request s.connection
  returned : s.connection.returned = s.handled ++ s.loop.inHand

variable {config : TransportConfig} {request : Bytes} {deserializer : Bytes → Except Exc T}

/-- A ping is no PONG. -/
theorem sendPing_orderly {c c' : Trace Z} (h : Orderly config request c) {payload : Bytes}
    {key : MaskKey} (hs : Session.sendPing c payload key = .ok c') :
    Orderly config request c' ∧ c'.returned = c.returned := by
  unfold Session.sendPing ping at hs
  split at hs
  · cases hs
  · split at hs
    · cases hs
      exact ⟨h.write (fun order => pongPayload_other (by decide) ..), rfl⟩
    · cases hs

theorem loopRecv_following {s s' : Session Z T} {i : Input Z} (h : Following config request s)
    (hloop : s.loop.inHand = []) (hs : s.loopRecv i = some s') : Following config request s' := by
  obtain ⟨⟨c, stop⟩, hr, rfl⟩ := Option.map_eq_some_iff.mp hs
  refine ⟨orderly_recvStep h.orderly hr, ?_⟩
  rw [recvStep_returned hr, h.returned, hloop, List.append_nil]
  cases stop <;> rfl

theorem handleFrame_following {s : Session Z T} (h : Following config request s) {f : Frame}
    (hloop : s.loop = .handling f) : Following config request (s.handleFrame deserializer f) := by
  have hreturned : s.connection.returned = s.handled ++ [f] := by
    rw [h.returned, hloop]
    rfl
  have done : ∀ s' : Session Z T, s'.connection = s.connection → s'.handled = s.handled ++ [f] →
      s'.loop = .ready → Following config request s' := by
    intro s' hc hh hl
    refine ⟨hc ▸ h.orderly, ?_⟩
    rw [hc, hh, hl, hreturned]
    exact (List.append_nil _).symm
  unfold Session.handleFrame
  dsimp only
  split
  · exact done _ rfl rfl rfl
  · split
    · split <;> exact done _ rfl rfl rfl
    · exact done _ rfl rfl rfl

/-- **One step** keeps the invariant. -/
theorem session_step (s : Session Z T) (i : SessionInput Z) (s' : Session Z T)
    (h : Following config request s) (hs : s.step deserializer i = some s') :
    Following config request s' := by
  cases Session.step_stepped hs with
  | @network i c hi hc =>
    refine ⟨orderly_step _ _ _ h.orderly hc, ?_⟩
    rw [← h.returned]
    cases i with
    | dataReceived | connectionLost | finishConnect =>
      simp only [Trace.step] at hc
      obtain ⟨t, -, rfl⟩ := Option.map_eq_some_iff.mp hc
      rfl
    | recv | resume | timeout => simp [Trace.step, Trace.recvStep, hi] at hc
  | connected hidle =>
    refine ⟨h.orderly, ?_⟩
    rw [h.returned, hidle]
    rfl
  | received _ hloop hrecv =>
    refine loopRecv_following h ?_ hrecv
    rcases hloop with hloop | hloop <;> rw [hloop] <;> rfl
  | handled hloop => exact handleFrame_following h hloop
  | pinged _ _ _ _ hping =>
    obtain ⟨hc, hreturned⟩ := sendPing_orderly h.orderly hping
    exact ⟨hc, hreturned.trans h.returned⟩
  | advanced | pingFailed | notPinged | waits | wakes | wakesLate | timesOut | stopped =>
    exact ⟨h.orderly, h.returned⟩

/-! ## One payload for every data frame -/

/-- A parsed data frame is queued as one frame, any other as none that is passed on. -/
theorem inflate_passedOn {d d' : Option (Deflater Z)} {f : Frame} {qs : List Frame}
    (h : inflate d f = some (qs, d')) :
    (qs.filter passedOn).length = if f.opcode.isControl then 0 else 1 := by
  unfold inflate at h
  split at h
  · rename_i hping
    simp only [Option.some.injEq, Prod.mk.injEq] at h
    obtain ⟨rfl, -⟩ := h
    rw [hping]
    rfl
  · rename_i hping
    have hdata : ¬ f.opcode.isControl = true → ∀ g : Frame, g.opcode = f.opcode →
        ([g].filter passedOn).length = 1 := by
      intro hctl g hg
      have hpass : passedOn g = true := by
        unfold passedOn
        rw [hg]
        cases hop : f.opcode <;> simp [hop, Opcode.isControl, Opcode.value] at hctl ⊢
      simp [hpass]
    split at h
    · rename_i hctl
      simp only [Option.some.injEq, Prod.mk.injEq] at h
      obtain ⟨rfl, -⟩ := h
      have hstop : passedOn f = false := by
        unfold passedOn
        cases hop : f.opcode <;> simp [hop, Opcode.isControl, Opcode.value] at hping hctl ⊢
      simp [hctl, hstop]
    · rename_i hctl
      rw [if_neg hctl]
      split at h
      · obtain ⟨r, -, hr⟩ := Option.map_eq_some_iff.mp h
        simp only [Prod.mk.injEq] at hr
        obtain ⟨rfl, -⟩ := hr
        exact hdata hctl _ rfl
      · simp only [Option.some.injEq, Prod.mk.injEq] at h
        obtain ⟨rfl, -⟩ := h
        exact hdata hctl f rfl

theorem inflateAll_passedOn : ∀ (fs : List Frame) {qs : List Frame} {d d' : Option (Deflater Z)},
    inflateAll d fs = some (qs, d') →
      (qs.filter passedOn).length = (fs.filter (fun f => !f.opcode.isControl)).length
  | [], qs, d, d', h => by
    simp only [inflateAll, Option.some.injEq, Prod.mk.injEq] at h
    obtain ⟨rfl, -⟩ := h
    rfl
  | f :: rest, qs, d, d', h => by
    obtain ⟨⟨q₁, d₁⟩, hone, h⟩ := Option.bind_eq_some_iff.mp h
    obtain ⟨⟨q₂, d₂⟩, hmore, h⟩ := Option.map_eq_some_iff.mp h
    simp only [Prod.mk.injEq] at h
    obtain ⟨rfl, -⟩ := h
    rw [List.filter_append, List.length_append, inflate_passedOn hone,
      inflateAll_passedOn rest hmore, List.filter_cons]
    cases f.opcode.isControl <;> simp [Nat.add_comm]

theorem following_start (Z : Zlib) (config : TransportConfig) (request : Bytes)
    (heartbeat : Option (HeartbeatConfig T)) :
    Following config request (Session.start Z config request heartbeat) :=
  ⟨orderly_start Z config request, rfl⟩

/-- **One payload for every data frame**: once everything is handled, the deserializer was
given as many payloads as the stream has data frames. -/
theorem handed_length {s : Session Z T} (h : Following config request s) (hd : s.Drained)
    {wire : List (WireFrame config.maxFrameSize)} {sender : FrameParser}
    (hstream : s.connection.stream = encodeAll sender wire)
    {queued : List Frame} {d : Option (Deflater Z)}
    (hinflate : inflateAll s.connection.deflater (wire.map WireFrame.frame) = some (queued, d)) :
    s.handed.length = (wire.filter isData).length := by
  obtain ⟨hframes, hhand⟩ := hd
  have hparse : drain (parseFrame config.order config.maxFrameSize) s.connection.stream =
      ([], .ok (wire.map WireFrame.frame, (encodeAll sender wire).length)) := by
    have henc := drain_encodeAll sender config.order wire []
    rw [List.append_nil, drain_none (parseFrame_stable _ _).nil, Drained.after_ok, List.append_nil,
      Nat.add_zero] at henc
    rw [hstream, henc]
  obtain ⟨hqueue, -⟩ := h.orderly.queue hparse hinflate
  rw [hframes, List.append_nil] at hqueue
  have hhandled : s.handled = queued.filter passedOn := by
    have hret := h.returned
    rw [hhand, List.append_nil] at hret
    rw [← hret, returned_eq _ h.orderly.log, hqueue]
  have hall : s.handled.filter (fun f => f.opcode ≠ .pong) = s.handled := by
    rw [List.filter_eq_self]
    intro f hf
    rw [hhandled] at hf
    have hpass := (List.mem_filter.mp hf).2
    simp only [passedOn, decide_eq_true_eq] at hpass
    simpa using hpass.1
  unfold Session.handed
  rw [List.length_map, hall, hhandled, inflateAll_passedOn _ hinflate, List.filter_map,
    List.length_map]
  rfl

/-- A fragmented message has at least two data frames. -/
theorem Fragmentation.two_le {maxFrameSize : Nat} (m : Fragmentation maxFrameSize) :
    2 ≤ (m.frames.filter isData).length := by
  have hfirst : isData m.first = true := by
    rcases m.first_data with h | h <;> rw [isData, h] <;> rfl
  have hlast : isData m.last = true := by
    rw [isData, m.last_continuation]
    rfl
  rw [Fragmentation.frames, List.filter_cons_of_pos hfirst, List.filter_append,
    List.filter_cons_of_pos hlast, List.filter_nil, List.length_cons, List.length_append,
    List.length_singleton]
  omega

/-- One frame is one data frame. -/
theorem Fragmentation.whole_one {maxFrameSize : Nat} (m : Fragmentation maxFrameSize) :
    ([m.whole].filter isData).length = 1 := by
  have hwhole : isData m.whole = true := by
    rw [isData, m.whole_opcode]
    rcases m.first_data with h | h <;> rw [h] <;> rfl
  rw [List.filter_cons_of_pos hwhole]
  rfl

/-- **Fragments are handed over apart.** However a message is split, interleaved with
control frames, cut into arrivals and read: the payloads given to the deserializer are not
those given when it comes as one frame. -/
theorem fragments_handed_apart (Z : Zlib) (config : TransportConfig) (request : Bytes) (T : Type)
    (deserializer : Bytes → Except Exc T) (heartbeat : Option (HeartbeatConfig T))
    (sender : FrameParser) (m : Fragmentation config.maxFrameSize)
    (splitRun wholeRun : List (SessionInput Z)) {split whole : Session Z T}
    (hsplit : exec (Session.step deserializer) (Session.start Z config request heartbeat) splitRun =
      some split)
    (hwhole : exec (Session.step deserializer) (Session.start Z config request heartbeat) wholeRun =
      some whole)
    (hs : split.connection.stream = encodeAll sender m.frames)
    (hw : whole.connection.stream = encodeAll sender [m.whole])
    (hsd : split.Drained) (hwd : whole.Drained)
    (hsi : (inflateAll split.connection.deflater (m.frames.map WireFrame.frame)).isSome = true)
    (hwi : (inflateAll whole.connection.deflater ([m.whole].map WireFrame.frame)).isSome = true) :
    split.handed ≠ whole.handed := by
  obtain ⟨⟨qs, ds⟩, hsi⟩ := Option.isSome_iff_exists.mp hsi
  obtain ⟨⟨qw, dw⟩, hwi⟩ := Option.isSome_iff_exists.mp hwi
  have hfs := exec_invariant session_step (following_start Z config request heartbeat) hsplit
  have hfw := exec_invariant session_step (following_start Z config request heartbeat) hwhole
  have hslen := handed_length hfs hsd hs hsi
  have hwlen := handed_length hfw hwd hw hwi
  have htwo := m.two_le
  rw [m.whole_one] at hwlen
  intro heq
  rw [heq] at hslen
  omega

/-! ## "ab" as two text fragments with a PING between them -/

def abFragments : Fragmentation 1024 :=
  { first := ⟨.text, [0x61], false, false, none, by decide, by decide, by decide, by decide⟩
    between := [⟨.ping, [], true, false, none, by decide, by decide, by decide, by decide⟩]
    last := ⟨.continuation, [0x62], true, false, none, by decide, by decide, by decide, by decide⟩
    whole := ⟨.text, [0x61, 0x62], true, false, none, by decide, by decide, by decide, by decide⟩
    first_data := Or.inl rfl, first_fin := rfl, between_ok := by decide
    last_continuation := rfl, last_fin := rfl, whole_opcode := rfl, whole_fin := rfl
    whole_payload := rfl }

/-- A connection on which `data` arrives with the handshake response, and the message loop
goes through `n` frames. -/
def readAll (data : Bytes) (n : Nat) : List (SessionInput plainZlib) :=
  [.network (.dataReceived (headerEnd ++ data) (fun _ => ⟨0, 0, 0, 0⟩)),
    .network (.finishConnect none (fun _ => ⟨0, 0, 0, 0⟩)), .connected] ++
    (List.replicate n [.recv ⟨0, 0, 0, 0⟩, .handle]).flatten

def abConfig : TransportConfig := ⟨.little, 1024, 4096, false⟩

def abStart : Session plainZlib Bytes := Session.start plainZlib abConfig [] none

def abSplit : List (SessionInput plainZlib) :=
  readAll (encodeAll (FrameParser.new .little 0 0) abFragments.frames) 2

def abWhole : List (SessionInput plainZlib) :=
  readAll (encodeAll (FrameParser.new .little 0 0) [abFragments.whole]) 1

/-- The two fragments are two messages, "a" and "b"; the frame is one, "ab". -/
theorem ab_handed_apart :
    (exec (Session.step Except.ok) abStart abSplit).map Session.handed = some [[0x61], [0x62]] ∧
      (exec (Session.step Except.ok) abStart abWhole).map Session.handed = some [[0x61, 0x62]] :=
  ⟨rfl, rfl⟩

theorem fragments_handed_apart_ab : ∃ split whole,
    exec (Session.step Except.ok) abStart abSplit = some split ∧
      exec (Session.step Except.ok) abStart abWhole = some whole ∧ split.handed ≠ whole.handed :=
  ⟨_, _, rfl, rfl, fragments_handed_apart plainZlib abConfig [] Bytes Except.ok none
    (FrameParser.new .little 0 0) abFragments abSplit abWhole rfl rfl rfl rfl ⟨rfl, rfl⟩ ⟨rfl, rfl⟩
    rfl rfl⟩

end JetSocket.Manager
