import JetSocket.Transport.Feed

/- What `recv` hands out, against the frames of the byte stream behind the handshake.

   What is proved:
     1. `recvRun_consumed` — what one run of `recv` takes off the queue, by how it stops.
     2. `recv_delivers` — for every cut of the stream into arrivals, the first of them
        possibly with the handshake response, and every interleaving with the `recv`
        calls of one consumer: the frames returned are a prefix of the data frames
        before the first Close frame; every PING has had one PONG with its payload,
        in order; and whoever reads next gets the next of these data frames, or behind
        the last of them the exception of the Close frame. Only where neither has come
        does a call sleep.
     3. `recv_drains` — a connected consumer that goes on calling `recv` has every data
        frame that has come before the Close frame, and then the exception.

   The invariant (`Orderly`) relates the frames parsed from the bytes that arrived, those
   taken from the queue, those still in it, and the PONGs written. Progress rests on a
   second one (`Hungry`): a call sleeps over an empty queue only. -/
namespace JetSocket.Transport
open JetSocket.Core Incremental Transition AsyncTransport

variable {Z : Zlib}

/-! ## The consumer -/

/-- What a run of `recv` took from the queue, by how it stopped. -/
inductive Took : List Frame → RecvStop → Prop where
  | nothing (e : Exc) : Took [] (.raised e)
  | waits {ps : List Frame} (h : ∀ f ∈ ps, f.opcode = .pong) : Took ps .waiting
  | returns {ps : List Frame} {f : Frame} (h : ∀ f ∈ ps, f.opcode = .pong)
      (hpong : f.opcode ≠ .pong) (hclose : f.opcode ≠ .close) : Took (ps ++ [f]) (.returned f)
  | closes {ps : List Frame} {f : Frame} (h : ∀ f ∈ ps, f.opcode = .pong)
      (hclose : f.opcode = .close) :
      Took (ps ++ [f]) (.raised (.connectionError "Connection closed by remote"))

/-- No call of `recv` has not ended. -/
def Idle (t : AsyncTransport Z) : Prop :=
  t.conn.proto.frameReady.parked = [] ∧ t.conn.proto.frameReady.woken = []

/-- At most one has not. -/
def Single (t : AsyncTransport Z) : Prop :=
  (t.conn.proto.frameReady.parked ++ t.conn.proto.frameReady.woken).length ≤ 1

theorem Idle.single {t : AsyncTransport Z} (h : Idle t) : Single t := by
  simp [Single, h.1, h.2]

/-- What a run of `recv` from `t` to `t'` does to the connection. -/
structure Consumed (t t' : AsyncTransport Z) (taken : List Frame) (stop : RecvStop) : Prop where
  config : t'.config = t.config
  frames : t.conn.proto.frames = taken ++ t'.conn.proto.frames
  proto : t'.conn.proto = { t.conn.proto with
    frames := t'.conn.proto.frames, frameReady := t'.conn.proto.frameReady }
  written : ∃ ws, t'.conn.sock.written = t.conn.sock.written ++ ws ∧
    ∀ order, ws.filterMap (pongPayload order) = []
  took : Took taken stop
  single : Single t'
  closed : (∃ f ∈ taken, f.opcode = .close) → Idle t' ∧ t'.protocol = false

theorem value_pong (f : Frame) : f.opcode.value = 0xA ↔ f.opcode = .pong := by
  cases h : f.opcode <;> simp [Opcode.value]

theorem value_close (f : Frame) : f.opcode.value = 0x8 ↔ f.opcode = .close := by
  cases h : f.opcode <;> simp [Opcode.value]

theorem takeWhile_skipped (fs : List Frame) : ∀ f ∈ fs.takeWhile Skipped, f.opcode = .pong := by
  intro f hf
  have h := List.mem_takeWhile_imp hf
  simp only [Skipped, beq_iff_eq] at h
  exact (value_pong f).mp h

theorem closeTransport_written (t : AsyncTransport Z) :
    t.closeTransport.conn.sock.written = t.conn.sock.written := by
  unfold closeTransport
  dsimp only
  split <;> rfl

/-- A Close frame writes at most its echo. -/
theorem recvClose_written (t : AsyncTransport Z) (key : MaskKey) (f : Frame) :
    ∃ ws, (t.recvClose key f).conn.sock.written = t.conn.sock.written ++ ws ∧
      ∀ order, ws.filterMap (pongPayload order) = [] := by
  unfold recvClose
  rw [closeTransport_written]
  dsimp only
  split
  · exact ⟨[], (List.append_nil _).symm, fun _ => rfl⟩
  · split
    · refine ⟨[_], rfl, fun order => ?_⟩
      have hclose : Opcode.close ≠ .pong := by decide
      exact List.filterMap_cons_none (pongPayload_other hclose ..)
    · exact ⟨[], (List.append_nil _).symm, fun _ => rfl⟩

theorem recvClose_config (t : AsyncTransport Z) (key : MaskKey) (f : Frame) :
    (t.recvClose key f).config = t.config := by
  unfold recvClose closeTransport
  dsimp only
  split
  · rfl
  · split <;> rfl

/-- Behind the Pong frames that `recv` drops comes none. -/
theorem dropWhile_not_pong {fs rest : List Frame} {f : Frame}
    (h : fs.dropWhile Skipped = f :: rest) : f.opcode ≠ .pong := by
  intro hop
  have hnot := List.head?_dropWhile_not Skipped fs
  rw [h] at hnot
  simp [Skipped, (value_pong f).mpr hop] at hnot

/-- `recv` over the queue, with no other call of it open. -/
theorem recvLoop_consumed (t : AsyncTransport Z) (task : Nat) (key : MaskKey) (hidle : Idle t) :
    ∃ taken, Consumed t (t.recvLoop task key t.conn.proto.frames).1 taken
      (t.recvLoop task key t.conn.proto.frames).2 := by
  have hsplit := List.takeWhile_append_dropWhile (p := Skipped) (l := t.conn.proto.frames)
  have hpongs := takeWhile_skipped t.conn.proto.frames
  obtain ⟨hparked, hwoken⟩ := hidle
  rw [recvLoop_eq]
  cases hd : t.conn.proto.frames.dropWhile Skipped with
  | nil =>
    rw [hd, List.append_nil] at hsplit
    rw [hsplit] at hpongs
    refine ⟨t.conn.proto.frames, rfl, (List.append_nil _).symm, rfl,
      ⟨[], (List.append_nil _).symm, fun _ => rfl⟩, Took.waits hpongs, ?_, ?_⟩
    · simp [Single, park, setFrames, hparked, hwoken]
    · rintro ⟨f, hf, hclose⟩
      rw [hpongs f hf] at hclose
      cases hclose
  | cons f rest =>
    rw [hd] at hsplit
    have hpong := dropWhile_not_pong hd
    dsimp only
    by_cases hclose : f.opcode = .close
    · rw [if_pos ((value_close f).mpr hclose)]
      have hproto := recvClose_proto (t.setFrames rest) key f
      have hidle : Idle ((t.setFrames rest).recvClose key f) := by
        rw [Idle, hproto]
        exact ⟨hparked, hwoken⟩
      refine ⟨t.conn.proto.frames.takeWhile Skipped ++ [f], recvClose_config .., ?_, ?_,
        recvClose_written (t.setFrames rest) key f, Took.closes hpongs hclose, ?_,
        fun _ => ⟨hidle, rfl⟩⟩
      · rw [hproto, List.append_assoc]
        exact hsplit.symm
      · rw [hproto]
        rfl
      · exact hidle.single
    · rw [if_neg (fun h => hclose ((value_close f).mp h))]
      refine ⟨t.conn.proto.frames.takeWhile Skipped ++ [f], rfl, ?_, rfl,
        ⟨[], (List.append_nil _).symm, fun _ => rfl⟩, Took.returns hpongs hpong hclose, ?_, ?_⟩
      · rw [List.append_assoc]
        exact hsplit.symm
      · exact Idle.single ⟨hparked, hwoken⟩
      · rintro ⟨g, hg, hgclose⟩
        rcases List.mem_append.mp hg with hg | hg
        · rw [hpongs g hg] at hgclose
          cases hgclose
        · rw [List.mem_singleton.mp hg] at hgclose
          exact absurd hgclose hclose

/-- A run of `recv` in which nothing is taken. -/
theorem Consumed.of_raised {t t' : AsyncTransport Z} {e : Exc} (hconfig : t'.config = t.config)
    (hproto : t'.conn.proto = { t.conn.proto with frameReady := t'.conn.proto.frameReady })
    (hsock : t'.conn.sock = t.conn.sock) (hsingle : Single t') :
    Consumed t t' [] (.raised e) where
  config := hconfig
  frames := by rw [hproto]; rfl
  proto := by rw [hproto]
  written := ⟨[], by rw [hsock, List.append_nil], fun _ => rfl⟩
  took := Took.nothing e
  single := hsingle
  closed := by simp

/-- One consumer: it calls `recv` only when its last call has ended. -/
def inTurn (t : AsyncTransport Z) : Input Z → Bool
  | .recv _ _ => t.conn.proto.frameReady.parked.isEmpty && t.conn.proto.frameReady.woken.isEmpty
  | _ => true

/-- A call that has not ended is the only one. -/
theorem single_task {t : AsyncTransport Z} {task : Nat} (h : Single t) (hmem : InRecv t task) :
    (t.conn.proto.frameReady.parked = [task] ∧ t.conn.proto.frameReady.woken = []) ∨
      (t.conn.proto.frameReady.parked = [] ∧ t.conn.proto.frameReady.woken = [task]) := by
  unfold Single at h
  unfold InRecv at hmem
  generalize t.conn.proto.frameReady.parked = parked at h hmem ⊢
  generalize t.conn.proto.frameReady.woken = woken at h hmem ⊢
  rw [List.length_append] at h
  rcases hmem with hm | hm
  · have hpos := List.length_pos_of_mem hm
    obtain ⟨x, rfl⟩ := List.length_eq_one_iff.mp (show parked.length = 1 by omega)
    rw [List.mem_singleton.mp hm]
    exact Or.inl ⟨rfl, List.length_eq_zero_iff.mp (by omega)⟩
  · have hpos := List.length_pos_of_mem hm
    obtain ⟨x, rfl⟩ := List.length_eq_one_iff.mp (show woken.length = 1 by omega)
    rw [List.mem_singleton.mp hm]
    exact Or.inr ⟨List.length_eq_zero_iff.mp (by omega), rfl⟩

/-- The woken task leaves the event idle, and goes on as a fresh call would. -/
theorem idle_resume {t : AsyncTransport Z} {task : Nat} (h : Single t)
    (hw : task ∈ t.conn.proto.frameReady.woken) :
    Idle (t.withReady (t.conn.proto.frameReady.resume task)) := by
  rcases single_task h (Or.inr hw) with ⟨-, hnil⟩ | ⟨hparked, hwoken⟩
  · rw [hnil] at hw
    cases hw
  · exact ⟨hparked, by simp [withReady, hwoken]⟩

/-- **One run of `recv`** of the one consumer. -/
theorem recvRun_consumed {t t' : AsyncTransport Z} {i : Input Z} {stop : RecvStop}
    (hsingle : Single t) (hturn : inTurn t i = true) (h : recvRun t i = some (t', stop)) :
    ∃ taken, Consumed t t' taken stop := by
  cases i with
  | dataReceived | connectionLost | finishConnect => cases h
  | recv task key =>
    simp only [recvRun] at h
    split at h
    · cases h
    · have hidle : Idle t := by simpa [inTurn, Idle] using hturn
      simp only [Option.some.injEq] at h
      unfold recv at h
      split at h
      · cases h
        exact ⟨[], Consumed.of_raised rfl rfl rfl hsingle⟩
      · rw [← Prod.eta (t.recvLoop _ _ _)] at h
        cases h
        exact recvLoop_consumed t task key hidle
  | resume task key =>
    simp only [recvRun] at h
    split at h
    · rename_i hw
      have hidle := idle_resume hsingle hw
      simp only [Option.some.injEq] at h
      unfold recvResume at h
      dsimp only at h
      split at h
      · cases h
        exact ⟨[], Consumed.of_raised rfl rfl rfl hidle.single⟩
      · rw [← Prod.eta (AsyncTransport.recvLoop _ _ _ _)] at h
        cases h
        obtain ⟨taken, hc⟩ := recvLoop_consumed _ task key hidle
        exact ⟨taken, hc.config, hc.frames, hc.proto, hc.written, hc.took, hc.single, hc.closed⟩
    · cases h
  | timeout task =>
    simp only [recvRun] at h
    split at h
    · rename_i hready
      cases h
      refine ⟨[], Consumed.of_raised rfl rfl rfl ?_⟩
      rcases single_task hsingle hready.2 with ⟨hparked, hwoken⟩ | ⟨hparked, hwoken⟩ <;>
        simp [Single, hparked, hwoken]
    · cases h

/-! ## Runs -/

/-- A run so far: the transport, the bytes that arrived, the decompressor the handshake
gave, and what each run of `recv` took and how it stopped. -/
structure Trace (Z : Zlib) where
  transport : AsyncTransport Z
  received : Bytes
  deflater : Option (Deflater Z)
  log : List (List Frame × RecvStop)

namespace Trace

/-- A connection with its handshake begun. -/
def start (Z : Zlib) (config : TransportConfig) (request : Bytes) : Trace Z :=
  { transport := Transport.start Z config request, received := [], deflater := none, log := [] }

/-- The frames a run of `recv` took off the front of the queue. -/
def popped (t t' : AsyncTransport Z) : List Frame :=
  t.conn.proto.frames.take (t.conn.proto.frames.length - t'.conn.proto.frames.length)

/-- A run of the one consumer's `recv`, and how it stopped. -/
def recvStep (s : Trace Z) (i : Input Z) : Option (Trace Z × RecvStop) :=
  if inTurn s.transport i then
    (recvRun s.transport i).map (fun r =>
      ({ s with transport := r.1, log := s.log ++ [(popped s.transport r.1, r.2)] }, r.2))
  else none

/-- One step, with one consumer. -/
def step (s : Trace Z) : Input Z → Option (Trace Z)
  | .dataReceived data keys =>
    (Transport.step s.transport (.dataReceived data keys)).map (fun t =>
      { s with transport := t, received := s.received ++ data })
  | .connectionLost exc =>
    (Transport.step s.transport (.connectionLost exc)).map (fun t => { s with transport := t })
  | .finishConnect deflater keys =>
    (Transport.step s.transport (.finishConnect deflater keys)).map (fun t =>
      { s with transport := t, deflater := deflater })
  | i => (s.recvStep i).map Prod.fst

/-- The bytes handed to the parser: those behind the handshake response. -/
def stream (s : Trace Z) : Bytes :=
  if s.transport.conn.proto.handshakeDone then leftover s.received else []

/-- The frames taken from the queue. -/
def taken (s : Trace Z) : List Frame := s.log.flatMap Prod.fst

/-- The frames `recv` returned. -/
def returned (s : Trace Z) : List Frame := s.log.filterMap (fun e => e.2.frame)

end Trace

/-- The data frames of a stream before its first Close frame. -/
def due (frames : List Frame) : List Frame :=
  (frames.takeWhile (fun f => f.opcode ≠ .close)).filter (fun f => !f.opcode.isControl)

/-- How `recv` stops over the frames of a stream after it has returned `n` of them: with the
next one that is due, behind the last of them at the Close frame, or with neither there to
wait. -/
def stopAfter (frames : List Frame) (n : Nat) : RecvStop :=
  match (due frames)[n]? with
  | some f => .returned f
  | none =>
    if ∃ f ∈ frames, f.opcode = .close then
      .raised (.connectionError "Connection closed by remote")
    else .waiting

/-- A run of `recv` that looks at the queue: a call on a connected transport, or a woken one
that does not wake to a lost connection with nothing queued. -/
def Looks (t : AsyncTransport Z) : Input Z → Prop
  | .recv _ _ => t.connected = true ∧ t.protocol = true ∧ Idle t
  | .resume task _ => task ∈ t.conn.proto.frameReady.woken ∧
      ¬ (t.conn.proto.connectionLost = true ∧ t.conn.proto.frames = [])
  | _ => False

/-- The handshake is not over: nothing is queued, taken or answered. -/
structure Handshaking (request : Bytes) (s : Trace Z) : Prop where
  handshakeDone : s.transport.conn.proto.handshakeDone = false
  received : s.transport.conn.proto.handshakeBuffer = s.received
  frames : s.transport.conn.proto.frames = []
  taken : s.taken = []
  written : ∃ ws, s.transport.conn.sock.written = request :: ws ∧
    ∀ order, ws.filterMap (pongPayload order) = []
  header : ∀ data, s.transport.conn.proto.handshakeFuture = .result data →
    (findSub headerEnd s.received).isSome = true

/-- The handshake is over: the buffer holds the header, and the connection is fed. -/
structure Framed (config : TransportConfig) (request : Bytes) (s : Trace Z) : Prop where
  handshakeDone : s.transport.conn.proto.handshakeDone = true
  header : (findSub headerEnd s.received).isSome = true
  fed : ∀ rest frames n queued d,
    drain (parseFrame config.order config.maxFrameSize) (leftover s.received) =
      (rest, .ok (frames, n)) →
    inflateAll s.deflater frames = some (queued, d) →
    Fed config request s.taken s.transport.conn rest frames queued d

/-- The invariant of runs. A Close frame that was taken was the last frame taken. -/
structure Orderly (config : TransportConfig) (request : Bytes) (s : Trace Z) : Prop where
  settings : s.transport.config = config
  single : Single s.transport
  log : ∀ e ∈ s.log, Took e.1 e.2
  closed : (∀ f ∈ s.taken, f.opcode ≠ .close) ∨
    ((∃ pre c, s.taken = pre ++ [c] ∧ (∀ f ∈ pre, f.opcode ≠ .close) ∧ c.opcode = .close) ∧
      Idle s.transport ∧ s.transport.protocol = false)
  phase : Handshaking request s ∨ Framed config request s

/-- More bytes go behind the header. -/
theorem leftover_append {data : Bytes} (h : (findSub headerEnd data).isSome = true)
    (more : Bytes) : leftover (data ++ more) = leftover data ++ more := by
  obtain ⟨i, hi⟩ := Option.isSome_iff_exists.mp h
  have hlen := findSub_length headerEnd data i hi
  simp only [headerEnd, List.length_cons, List.length_nil] at hlen
  simp only [leftover, hi, findSub_append headerEnd data more i hi]
  exact List.drop_append_of_le_length (by omega)

theorem single_of_set {t t' : AsyncTransport Z} (hs : Single t)
    (h : t'.conn.proto.frameReady = t.conn.proto.frameReady ∨
      t'.conn.proto.frameReady = t.conn.proto.frameReady.set) : Single t' := by
  unfold Single at hs ⊢
  rcases h with h | h
  · rw [h]
    exact hs
  · rw [h, Event.set_parked, Event.set_woken, List.nil_append, List.length_append]
    rw [List.length_append] at hs
    omega

theorem idle_of_set {t t' : AsyncTransport Z} (hi : Idle t)
    (h : t'.conn.proto.frameReady = t.conn.proto.frameReady ∨
      t'.conn.proto.frameReady = t.conn.proto.frameReady.set) : Idle t' := by
  unfold Idle at hi ⊢
  rcases h with h | h
  · rw [h]
    exact hi
  · rw [h, Event.set_parked, Event.set_woken, hi.1, hi.2]
    exact ⟨rfl, rfl⟩

variable {config : TransportConfig} {request : Bytes}

/-- A step that only moves bytes keeps what the log says. -/
theorem Orderly.of_quiet {s s' : Trace Z} (h : Orderly config request s)
    (hconfig : s'.transport.config = s.transport.config) (hlog : s'.log = s.log)
    (hprotocol : s'.transport.protocol = s.transport.protocol)
    (hready : s'.transport.conn.proto.frameReady = s.transport.conn.proto.frameReady ∨
      s'.transport.conn.proto.frameReady = s.transport.conn.proto.frameReady.set)
    (hphase : Handshaking request s' ∨ Framed config request s') : Orderly config request s' where
  settings := hconfig.trans h.settings
  single := single_of_set h.single hready
  log := by
    rw [hlog]
    exact h.log
  closed := by
    have htaken : s'.taken = s.taken := by rw [Trace.taken, hlog, Trace.taken]
    rw [htaken, hprotocol]
    rcases h.closed with hopen | ⟨hend, hidle, hproto⟩
    · exact Or.inl hopen
    · exact Or.inr ⟨hend, idle_of_set hidle hready, hproto⟩
  phase := hphase

/-- Bytes of the handshake. -/
theorem Handshaking.dataReceived {s : Trace Z} (h : Handshaking request s) (data : Bytes)
    (keys : Nat → MaskKey) :
    Handshaking request { s with
      transport := { s.transport with conn := (dataReceived s.transport.conn data keys).1 }
      received := s.received ++ data } := by
  have hbuf : s.transport.conn.proto.handshakeBuffer ++ data = s.received ++ data := by
    rw [h.received]
  unfold Transport.dataReceived
  rw [h.handshakeDone]
  simp only [Bool.not_false, if_true]
  refine ⟨h.handshakeDone, hbuf, h.frames, h.taken, h.written, ?_⟩
  intro d hd
  dsimp only at hd ⊢
  rw [hbuf] at hd
  split at hd
  · rename_i hfound
    exact hfound.1
  · obtain ⟨i, hi⟩ := Option.isSome_iff_exists.mp (h.header d hd)
    rw [findSub_append headerEnd s.received data i hi]
    rfl

/-- Bytes behind the handshake. -/
theorem Framed.dataReceived {s : Trace Z} (h : Framed config request s) (data : Bytes)
    (keys : Nat → MaskKey) :
    Framed config request { s with
      transport := { s.transport with conn := (dataReceived s.transport.conn data keys).1 }
      received := s.received ++ data } := by
  have hgrows := dataReceived_done h.handshakeDone data keys
  obtain ⟨i, hi⟩ := Option.isSome_iff_exists.mp h.header
  refine ⟨hgrows.handshakeDone.trans h.handshakeDone, ?_, ?_⟩
  · dsimp only
    rw [findSub_append headerEnd s.received data i hi]
    rfl
  · intro rest frames n queued d hdrain hinf
    dsimp only at hdrain hinf
    rw [leftover_append h.header, drain_append (parseFrame_stable _ _)] at hdrain
    -- What arrived before parses too, or the whole stream would not.
    rcases hfirst : drain (parseFrame config.order config.maxFrameSize) (leftover s.received) with
      ⟨r, _ | ⟨fs, m⟩⟩
    · simp [hfirst] at hdrain
    · simp only [hfirst] at hdrain
      obtain ⟨gs, k, hmore, rfl, rfl⟩ := Drained.after_eq_ok hdrain
      rw [inflateAll_append] at hinf
      obtain ⟨⟨q₁, d₁⟩, hone, hinf⟩ := Option.bind_eq_some_iff.mp hinf
      obtain ⟨⟨q₂, d₂⟩, htwo, hinf⟩ := Option.map_eq_some_iff.mp hinf
      simp only [Prod.mk.injEq] at hinf
      obtain ⟨rfl, rfl⟩ := hinf
      exact (dataReceived_fed (h.fed r fs m q₁ d₁ hfirst hone) keys hmore htwo).2

/-- **The handshake ends**: what followed the response is the start of the stream. -/
theorem Handshaking.finishConnect {s : Trace Z} (h : Handshaking request s)
    (hconfig : s.transport.config = config) (hresp : responded s.transport = true)
    (deflater : Option (Deflater Z)) (keys : Nat → MaskKey) :
    Framed config request { s with
      transport := (s.transport.finishConnect deflater keys).1, deflater := deflater } := by
  obtain ⟨ws, hw, hp⟩ := h.written
  have base : Fed config request s.taken (s.transport.switchToFrames deflater) [] [] [] deflater := by
    refine ⟨rfl, ?_, rfl, ?_, ws, hw, hp _⟩
    · show some s.transport.config.parser = some config.parser
      rw [hconfig]
    · show s.taken ++ s.transport.conn.proto.frames = []
      rw [h.taken, h.frames, List.append_nil]
  have hheader : (findSub headerEnd s.received).isSome = true := by
    unfold responded at hresp
    split at hresp
    · rename_i data hfuture
      exact h.header data hfuture
    · cases hresp
  have hconn := finishConnect_conn s.transport deflater keys
  rw [h.received] at hconn
  refine ⟨?_, hheader, ?_⟩
  · dsimp only
    rw [hconn]
    split
    · rfl
    · exact (dataReceived_done (c := s.transport.switchToFrames deflater) rfl _ keys).handshakeDone
  · intro rest frames n queued d hdrain hinf
    rw [← h.received] at hdrain
    exact (finishConnect_fed base keys hdrain hinf).2

/-- The queue as it was before a run of `recv` shows what the run took. -/
theorem popped_eq {t t' : AsyncTransport Z} {taken : List Frame} {stop : RecvStop}
    (h : Consumed t t' taken stop) : Trace.popped t t' = taken := by
  have hlen : t.conn.proto.frames.length - t'.conn.proto.frames.length = taken.length := by
    rw [h.frames, List.length_append]
    omega
  rw [Trace.popped, hlen, h.frames, List.take_left]

/-- A run of `recv` that takes a Close frame takes it last. -/
theorem took_close {taken : List Frame} {stop : RecvStop} (h : Took taken stop) :
    (∀ f ∈ taken, f.opcode ≠ .close) ∨
      ∃ ps c, taken = ps ++ [c] ∧ (∀ f ∈ ps, f.opcode ≠ .close) ∧ c.opcode = .close ∧
        stop = .raised (.connectionError "Connection closed by remote") := by
  have notClose : ∀ {ps : List Frame}, (∀ f ∈ ps, f.opcode = .pong) →
      ∀ f ∈ ps, f.opcode ≠ .close := by
    intro ps hps f hf hclose
    rw [hps f hf] at hclose
    cases hclose
  cases h with
  | nothing e => exact Or.inl (by simp)
  | waits hps => exact Or.inl (notClose hps)
  | @returns ps f hps hpong hclose =>
    refine Or.inl (fun g hg => ?_)
    rcases List.mem_append.mp hg with hg | hg
    · exact notClose hps g hg
    · rw [List.mem_singleton.mp hg]
      exact hclose
  | @closes ps f hps hclose => exact Or.inr ⟨ps, f, rfl, notClose hps, hclose, rfl⟩

/-- **A run of `recv`** keeps the invariant. -/
theorem Orderly.recv {s : Trace Z} (h : Orderly config request s) {t' : AsyncTransport Z}
    {taken : List Frame} {stop : RecvStop} (hc : Consumed s.transport t' taken stop)
    (hlast : Idle s.transport → s.transport.protocol = false → t' = s.transport ∧ taken = []) :
    Orderly config request { s with transport := t', log := s.log ++ [(taken, stop)] } := by
  have htaken : Trace.taken { s with transport := t', log := s.log ++ [(taken, stop)] } =
      s.taken ++ taken := by
    simp [Trace.taken]
  obtain ⟨ws, hws, hquiet⟩ := hc.written
  refine ⟨hc.config.trans h.settings, hc.single, ?_, ?_, ?_⟩
  · intro e he
    rcases List.mem_append.mp he with he | he
    · exact h.log e he
    · rw [List.mem_singleton.mp he]
      exact hc.took
  · rw [htaken]
    rcases h.closed with hopen | ⟨hend, hidle, hproto⟩
    · rcases took_close hc.took with hnone | ⟨ps, c, hlist, hps, hclose, -⟩
      · refine Or.inl (fun f hf => ?_)
        rcases List.mem_append.mp hf with hf | hf
        · exact hopen f hf
        · exact hnone f hf
      · refine Or.inr ⟨⟨s.taken ++ ps, c, ?_, ?_, hclose⟩, hc.closed ⟨c, ?_, hclose⟩⟩
        · rw [hlist, List.append_assoc]
        · intro f hf
          rcases List.mem_append.mp hf with hf | hf
          · exact hopen f hf
          · exact hps f hf
        · rw [hlist]
          exact List.mem_append_right _ List.mem_cons_self
    · obtain ⟨rfl, rfl⟩ := hlast hidle hproto
      rw [List.append_nil]
      exact Or.inr ⟨hend, hidle, hproto⟩
  · rcases h.phase with hs | hs
    · -- An empty queue gives nothing.
      have hnil : taken = [] ∧ t'.conn.proto.frames = [] :=
        List.append_eq_nil_iff.mp (hc.frames.symm.trans hs.frames)
      obtain ⟨vs, hvs, hvq⟩ := hs.written
      refine Or.inl ⟨?_, ?_, hnil.2, ?_, ⟨vs ++ ws, ?_, ?_⟩, ?_⟩
      · dsimp only
        rw [hc.proto]
        exact hs.handshakeDone
      · dsimp only
        rw [hc.proto]
        exact hs.received
      · rw [htaken, hs.taken, hnil.1, List.append_nil]
      · dsimp only
        rw [hws, hvs, List.cons_append]
      · intro order
        rw [List.filterMap_append, hvq, hquiet, List.append_nil]
      · intro d hd
        dsimp only at hd
        rw [hc.proto] at hd
        exact hs.header d hd
    · refine Or.inr ⟨?_, hs.header, ?_⟩
      · dsimp only
        rw [hc.proto]
        exact hs.handshakeDone
      · intro rest frames n queued d hdrain hinf
        have hf := hs.fed rest frames n queued d hdrain hinf
        obtain ⟨vs, hvs, hvq⟩ := hf.pongs
        refine ⟨?_, ?_, ?_, ?_, vs ++ ws, ?_, ?_⟩
        · dsimp only
          rw [hc.proto]
          exact hf.handshakeDone
        · dsimp only
          rw [hc.proto]
          exact hf.parser
        · dsimp only
          rw [hc.proto]
          exact hf.deflater
        · rw [htaken, List.append_assoc, ← hc.frames]
          exact hf.queue
        · dsimp only
          rw [hws, hvs, List.cons_append]
        · rw [List.filterMap_append, hvq, hquiet, List.append_nil]

/-- After the connection was dropped with no call open, `recv` changes nothing. -/
theorem recvRun_dropped {t t' : AsyncTransport Z} {i : Input Z} {stop : RecvStop}
    (hidle : Idle t) (hproto : t.protocol = false) (h : recvRun t i = some (t', stop)) : t' = t := by
  have notIn : ∀ task, ¬ InRecv t task := by
    rintro task (hm | hm)
    · rw [hidle.1] at hm
      cases hm
    · rw [hidle.2] at hm
      cases hm
  cases i with
  | dataReceived | connectionLost | finishConnect => cases h
  | recv task key =>
    simp only [recvRun, if_neg (notIn task), AsyncTransport.recv, hproto, Bool.not_false,
      Bool.or_true, if_true, Option.some.injEq, Prod.mk.injEq] at h
    exact h.1.symm
  | resume task key =>
    simp only [recvRun] at h
    split at h
    · rename_i hw
      exact absurd (Or.inr hw) (notIn task)
    · cases h
  | timeout task =>
    simp only [recvRun] at h
    split at h
    · rename_i hready
      exact absurd hready.2 (notIn task)
    · cases h

theorem orderly_recvStep {s : Trace Z} (h : Orderly config request s) {i : Input Z}
    {c : Trace Z × RecvStop} (hs : s.recvStep i = some c) : Orderly config request c.1 := by
  unfold Trace.recvStep at hs
  split at hs
  · rename_i hturn
    obtain ⟨r, hr, rfl⟩ := Option.map_eq_some_iff.mp hs
    obtain ⟨taken, hc⟩ := recvRun_consumed h.single hturn hr
    dsimp only
    rw [popped_eq hc]
    refine h.recv hc (fun hidle hproto => ?_)
    have hsame := recvRun_dropped hidle hproto hr
    have hframes := hc.frames
    rw [hsame] at hframes
    exact ⟨hsame, List.append_left_eq_self.mp hframes.symm⟩
  · cases hs

/-- **One step** keeps the invariant. -/
theorem orderly_step (s : Trace Z) (i : Input Z) (s' : Trace Z) (h : Orderly config request s)
    (hs : s.step i = some s') : Orderly config request s' := by
  cases i with
  | dataReceived data keys =>
    simp only [Trace.step, Transport.step, Option.map_some, Option.some.injEq] at hs
    subst hs
    have hgrows := dataReceived_grows s.transport.conn data keys
    refine h.of_quiet rfl rfl rfl hgrows.2 ?_
    rcases h.phase with hp | hp
    · exact Or.inl (hp.dataReceived data keys)
    · exact Or.inr (hp.dataReceived data keys)
  | connectionLost exc =>
    simp only [Trace.step, Transport.step, Option.map_some, Option.some.injEq] at hs
    subst hs
    refine h.of_quiet rfl rfl rfl (Or.inr rfl) ?_
    rcases h.phase with hp | hp
    · refine Or.inl ⟨hp.handshakeDone, hp.received, hp.frames, hp.taken, hp.written, ?_⟩
      intro d hd
      simp only [connectionLost] at hd
      split at hd
      · cases hd
      · exact hp.header d hd
    · exact Or.inr ⟨hp.handshakeDone, hp.header, fun rest frames n queued d hd hi =>
        have hf := hp.fed rest frames n queued d hd hi
        ⟨hf.handshakeDone, hf.parser, hf.deflater, hf.queue, hf.pongs⟩⟩
  | finishConnect deflater keys =>
    simp only [Trace.step, Transport.step] at hs
    split at hs
    · rename_i hresp
      simp only [Option.map_some, Option.some.injEq] at hs
      subst hs
      have hgrows := finishConnect_grows s.transport deflater keys
      have hfinished := finishConnect_finished s.transport deflater keys
      refine h.of_quiet hfinished.config rfl hfinished.protocol hgrows.2 ?_
      rcases h.phase with hp | hp
      · exact Or.inr (hp.finishConnect h.settings hresp deflater keys)
      · -- The handshake ends only once.
        unfold responded at hresp
        split at hresp
        · rw [hp.handshakeDone] at hresp
          cases hresp
        · cases hresp
    · cases hs
  | recv | resume | timeout =>
    obtain ⟨r, hr, rfl⟩ := Option.map_eq_some_iff.mp hs
    exact orderly_recvStep h hr

theorem orderly_start (Z : Zlib) (config : TransportConfig) (request : Bytes) :
    Orderly config request (Trace.start Z config request) where
  settings := rfl
  single := Nat.zero_le _
  log := by simp [Trace.start]
  closed := Or.inl (by simp [Trace.start, Trace.taken])
  phase := Or.inl ⟨rfl, rfl, rfl, rfl, ⟨[], rfl, fun _ => rfl⟩, fun _ h => by cases h⟩

/-- A write that is no PONG keeps a connection orderly. -/
theorem Orderly.write {c : Trace Z} (h : Orderly config request c) {data : Bytes}
    (hdata : ∀ order, pongPayload order data = none) :
    Orderly config request { c with
      transport := { c.transport with conn := c.transport.conn.write data } } := by
  refine h.of_quiet rfl rfl rfl (Or.inl rfl) ?_
  have append : ∀ {ws : List Bytes}, c.transport.conn.sock.written = request :: ws →
      (c.transport.conn.write data).sock.written = request :: (ws ++ [data]) := by
    intro ws hws
    show c.transport.conn.sock.written ++ [data] = request :: (ws ++ [data])
    rw [hws, List.cons_append]
  have quiet : ∀ (ws : List Bytes) (order : Word.ByteOrder),
      (ws ++ [data]).filterMap (pongPayload order) = ws.filterMap (pongPayload order) := by
    intro ws order
    rw [List.filterMap_append, List.filterMap_cons_none (hdata order), List.filterMap_nil,
      List.append_nil]
  rcases h.phase with hp | hp
  · obtain ⟨ws, hws, hq⟩ := hp.written
    refine Or.inl ⟨hp.handshakeDone, hp.received, hp.frames, hp.taken, ⟨ws ++ [data], append hws, ?_⟩,
      hp.header⟩
    intro order
    rw [quiet, hq]
  · refine Or.inr ⟨hp.handshakeDone, hp.header, fun rest frames n queued d hd hi => ?_⟩
    have hf := hp.fed rest frames n queued d hd hi
    obtain ⟨ws, hws, hq⟩ := hf.pongs
    exact ⟨hf.handshakeDone, hf.parser, hf.deflater, hf.queue, ws ++ [data], append hws,
      (quiet ws _).trans hq⟩

/-! ## What was returned -/

/-- The frames `recv` passes on. -/
def passedOn (f : Frame) : Bool := f.opcode ≠ .pong ∧ f.opcode ≠ .close

/-- `recv` returns what it takes, but for Pong and Close frames. -/
theorem took_passedOn {taken : List Frame} {stop : RecvStop} (h : Took taken stop) :
    taken.filter passedOn = stop.frame.toList := by
  have dropped : ∀ {ps : List Frame}, (∀ f ∈ ps, f.opcode = .pong) → ps.filter passedOn = [] := by
    intro ps hps
    rw [List.filter_eq_nil_iff]
    intro f hf
    simp [passedOn, hps f hf]
  cases h with
  | nothing e => rfl
  | waits hps => exact dropped hps
  | returns hps hpong hclose =>
    rw [List.filter_append, dropped hps, List.nil_append,
      List.filter_cons_of_pos (by simp [passedOn, hpong, hclose])]
    rfl
  | closes hps hclose =>
    rw [List.filter_append, dropped hps, List.nil_append,
      List.filter_cons_of_neg (by simp [passedOn, hclose])]
    rfl

theorem returned_eq (s : Trace Z) (h : ∀ e ∈ s.log, Took e.1 e.2) :
    s.returned = s.taken.filter passedOn := by
  unfold Trace.returned Trace.taken
  generalize s.log = log at h
  induction log with
  | nil => rfl
  | cons e rest ih =>
    rw [List.flatMap_cons, List.filter_append, took_passedOn (h e List.mem_cons_self),
      ← ih (fun e' he => h e' (List.mem_cons_of_mem _ he)), List.filterMap_cons]
    cases e.2.frame <;> rfl

/-- A run of `recv` returns what it stops with. -/
theorem recvStep_returned {s : Trace Z} {i : Input Z} {c : Trace Z × RecvStop}
    (hs : s.recvStep i = some c) : c.1.returned = s.returned ++ c.2.frame.toList := by
  unfold Trace.recvStep at hs
  split at hs
  · obtain ⟨r, -, rfl⟩ := Option.map_eq_some_iff.mp hs
    unfold Trace.returned
    rw [List.filterMap_append, List.filterMap_cons]
    cases r.2.frame <;> rfl
  · cases hs

/-- No PING is queued. -/
theorem inflate_no_ping {d d' : Option (Deflater Z)} {f : Frame} {qs : List Frame}
    (h : inflate d f = some (qs, d')) : ∀ g ∈ qs, g.opcode ≠ .ping := by
  unfold inflate at h
  split at h
  · simp only [Option.some.injEq, Prod.mk.injEq] at h
    obtain ⟨rfl, -⟩ := h
    simp
  · rename_i hping
    have hself : ∀ g ∈ [f], g.opcode ≠ .ping := by
      intro g hg
      rw [List.mem_singleton.mp hg]
      exact hping
    split at h
    · simp only [Option.some.injEq, Prod.mk.injEq] at h
      obtain ⟨rfl, -⟩ := h
      exact hself
    · split at h
      · obtain ⟨r, -, hr⟩ := Option.map_eq_some_iff.mp h
        simp only [Prod.mk.injEq] at hr
        obtain ⟨rfl, -⟩ := hr
        intro g hg
        rw [List.mem_singleton.mp hg]
        exact hping
      · simp only [Option.some.injEq, Prod.mk.injEq] at h
        obtain ⟨rfl, -⟩ := h
        exact hself

theorem inflateAll_no_ping : ∀ (fs : List Frame) {qs : List Frame} {d d' : Option (Deflater Z)},
    inflateAll d fs = some (qs, d') → ∀ g ∈ qs, g.opcode ≠ .ping
  | [], qs, d, d', h => by
    simp only [inflateAll, Option.some.injEq, Prod.mk.injEq] at h
    obtain ⟨rfl, -⟩ := h
    simp
  | f :: rest, qs, d, d', h => by
    obtain ⟨⟨q₁, d₁⟩, hone, h⟩ := Option.bind_eq_some_iff.mp h
    obtain ⟨⟨q₂, d₂⟩, hmore, h⟩ := Option.map_eq_some_iff.mp h
    simp only [Prod.mk.injEq] at h
    obtain ⟨rfl, -⟩ := h
    intro g hg
    rcases List.mem_append.mp hg with hg | hg
    · exact inflate_no_ping hone g hg
    · exact inflateAll_no_ping rest hmore g hg

/-- What was taken off the front of a queue, with at most one Close frame, the last: no
more is passed on than the queue held before its first Close frame. -/
theorem passedOn_prefix {taken left : List Frame}
    (h : (∀ f ∈ taken, f.opcode ≠ .close) ∨
      ∃ pre c, taken = pre ++ [c] ∧ (∀ f ∈ pre, f.opcode ≠ .close) ∧ c.opcode = .close) :
    taken.filter passedOn <+:
      ((taken ++ left).takeWhile (fun f => f.opcode ≠ .close)).filter passedOn := by
  rcases h with hopen | ⟨pre, c, rfl, hpre, hclose⟩
  · rw [List.takeWhile_append_of_pos (by simpa using hopen), List.filter_append]
    exact List.prefix_append _ _
  · have hkept : (pre ++ [c] ++ left).takeWhile (fun f => f.opcode ≠ .close) = pre := by
      rw [List.append_assoc, List.takeWhile_append_of_pos (by simpa using hpre),
        List.singleton_append, List.takeWhile_cons_of_neg (by simp [hclose]), List.append_nil]
    have htaken : (pre ++ [c]).filter passedOn = pre.filter passedOn := by
      simp [passedOn, hclose]
    exact ⟨[], (List.append_nil _).trans (htaken.trans (congrArg (List.filter passedOn) hkept.symm))⟩

/-- What the invariant says of the frames of the stream so far. -/
theorem Orderly.queue {s : Trace Z} (h : Orderly config request s) {rest : Bytes}
    {frames queued : List Frame} {n : Nat} {d : Option (Deflater Z)}
    (hparse : drain (parseFrame config.order config.maxFrameSize) s.stream =
      (rest, .ok (frames, n)))
    (hinflate : inflateAll s.deflater frames = some (queued, d)) :
    s.taken ++ s.transport.conn.proto.frames = queued ∧
      ∃ ws, s.transport.conn.sock.written = request :: ws ∧
        ws.filterMap (pongPayload config.order) =
          (frames.filter (fun f => f.opcode = .ping)).map Frame.payload := by
  rcases h.phase with hp | hp
  · rw [Trace.stream, hp.handshakeDone] at hparse
    have hnil : frames = [] := by
      rw [if_neg (by decide), drain_none (parseFrame_stable _ _).nil] at hparse
      simp only [Prod.mk.injEq, Except.ok.injEq] at hparse
      exact hparse.2.1.symm
    subst hnil
    simp only [inflateAll, Option.some.injEq, Prod.mk.injEq] at hinflate
    obtain ⟨ws, hws, hquiet⟩ := hp.written
    refine ⟨?_, ws, hws, hquiet _⟩
    rw [hp.taken, hp.frames, ← hinflate.1]
    rfl
  · rw [Trace.stream, hp.handshakeDone, if_pos rfl] at hparse
    have hfed := hp.fed rest frames n queued d hparse hinflate
    exact ⟨hfed.queue, hfed.pongs⟩

/-! ## What a reader gets next -/

/-- Without PING, what `recv` passes on are the data frames. -/
theorem passedOn_data {f : Frame} (hping : f.opcode ≠ .ping) :
    passedOn f = !f.opcode.isControl := by
  unfold passedOn
  cases hop : f.opcode <;> simp [hop, Opcode.isControl, Opcode.value] at hping ⊢

theorem due_close {f : Frame} (h : f.opcode = .close) (rest : List Frame) :
    due (f :: rest) = [] := by
  simp [due, h]

theorem due_pong {f : Frame} (h : f.opcode = .pong) (rest : List Frame) :
    due (f :: rest) = due rest := by
  simp [due, h, Opcode.isControl, Opcode.value]

theorem due_data {f : Frame} (hclose : f.opcode ≠ .close) (h : (!f.opcode.isControl) = true)
    (rest : List Frame) : due (f :: rest) = f :: due rest := by
  simp [due, hclose, h]

theorem due_append {taken : List Frame} (hopen : ∀ f ∈ taken, f.opcode ≠ .close)
    (left : List Frame) :
    due (taken ++ left) = taken.filter (fun f => !f.opcode.isControl) ++ due left := by
  unfold due
  rw [List.takeWhile_append_of_pos (by simpa using hopen), List.filter_append]

/-- **The loop of `recv`** stops as the frames in the queue say. -/
theorem recvLoop_stop (t : AsyncTransport Z) (task : Nat) (key : MaskKey) : ∀ fs : List Frame,
    (∀ f ∈ fs, f.opcode ≠ .ping) → (t.recvLoop task key fs).2 = stopAfter fs 0
  | [], _ => rfl
  | f :: rest, hping => by
    have ih := recvLoop_stop t task key rest (fun g hg => hping g (List.mem_cons_of_mem _ hg))
    unfold AsyncTransport.recvLoop
    by_cases hclose : f.opcode = .close
    · rw [if_pos ((value_close f).mpr hclose)]
      simp [stopAfter, due_close hclose, hclose]
    · rw [if_neg (fun h => hclose ((value_close f).mp h))]
      by_cases hpong : f.opcode = .pong
      · rw [if_pos ((value_pong f).mpr hpong), ih]
        simp [stopAfter, due_pong hpong, hpong]
      · rw [if_neg (fun h => hpong ((value_pong f).mp h))]
        have hdata : (!f.opcode.isControl) = true := by
          rw [← passedOn_data (hping f List.mem_cons_self)]
          simp [passedOn, hpong, hclose]
        simp [stopAfter, due_data hclose hdata]

/-- What was taken before the first Close frame only counts for what it returned. -/
theorem stopAfter_append {taken : List Frame} (hopen : ∀ f ∈ taken, f.opcode ≠ .close)
    (left : List Frame) :
    stopAfter (taken ++ left) (taken.filter (fun f => !f.opcode.isControl)).length =
      stopAfter left 0 := by
  have hany : (∃ f ∈ taken ++ left, f.opcode = .close) ↔ ∃ f ∈ left, f.opcode = .close := by
    constructor
    · rintro ⟨f, hf, hclose⟩
      rcases List.mem_append.mp hf with hf | hf
      · exact absurd hclose (hopen f hf)
      · exact ⟨f, hf, hclose⟩
    · rintro ⟨f, hf, hclose⟩
      exact ⟨f, List.mem_append_right _ hf, hclose⟩
  unfold stopAfter
  rw [due_append hopen, List.getElem?_append_right (Nat.le_refl _), Nat.sub_self]
  simp only [hany]

/-- A call of `recv` sleeps over an empty queue only. -/
def Hungry (c : Conn Z) : Prop := c.proto.frameReady.parked ≠ [] → c.proto.frames = []

theorem hungry_of_set {c : Conn Z} (h : c.proto.frameReady.parked = []) : Hungry c :=
  fun hparked => absurd h hparked

/-- **Bytes that queue a frame** wake whoever sleeps. -/
theorem dataReceived_hungry {c : Conn Z} (h : Hungry c) (data : Bytes) (keys : Nat → MaskKey) :
    Hungry (dataReceived c data keys).1 := by
  have hone : ∀ {c c' : Conn Z} {key : MaskKey} {f : Frame}, Handled c key f c' →
      Hungry c → Hungry c' := by
    intro c c' key f hf hc
    cases hf with
    | answered | ignored => exact hc
    | queued | inflated => exact hungry_of_set rfl
  unfold dataReceived
  split
  · exact h
  · split
    · exact h
    · dsimp only
      split
      · exact h
      · exact h
      · exact handleFrames_keeps (R := fun a b => Hungry a → Hungry b) (fun _ => id)
          (fun h h' => h' ∘ h) hone _ _ keys h

theorem recvLoop_hungry {t : AsyncTransport Z} (hidle : Idle t) (task : Nat) (key : MaskKey) :
    Hungry (t.recvLoop task key t.conn.proto.frames).1.conn := by
  rw [recvLoop_eq]
  split
  · exact fun _ => rfl
  · split
    · refine hungry_of_set ?_
      dsimp only
      rw [recvClose_proto]
      exact hidle.1
    · exact hungry_of_set hidle.1

theorem recvRun_hungry {t t' : AsyncTransport Z} {i : Input Z} {stop : RecvStop}
    (hsingle : Single t) (hturn : inTurn t i = true) (h : Hungry t.conn)
    (hs : recvRun t i = some (t', stop)) : Hungry t'.conn := by
  cases i with
  | dataReceived | connectionLost | finishConnect => cases hs
  | recv task key =>
    simp only [recvRun] at hs
    split at hs
    · cases hs
    · simp only [Option.some.injEq] at hs
      unfold recv at hs
      split at hs
      · cases hs
        exact h
      · rw [← Prod.eta (t.recvLoop _ _ _)] at hs
        cases hs
        exact recvLoop_hungry (by simpa [inTurn, Idle] using hturn) task key
  | resume task key =>
    simp only [recvRun] at hs
    split at hs
    · rename_i hw
      have hidle := idle_resume hsingle hw
      simp only [Option.some.injEq] at hs
      unfold recvResume at hs
      dsimp only at hs
      split at hs
      · cases hs
        exact hungry_of_set hidle.1
      · rw [← Prod.eta (AsyncTransport.recvLoop _ _ _ _)] at hs
        cases hs
        exact recvLoop_hungry hidle task key
    · cases hs
  | timeout task =>
    simp only [recvRun] at hs
    split at hs
    · rename_i hready
      cases hs
      refine hungry_of_set ?_
      rcases single_task hsingle hready.2 with ⟨hparked, -⟩ | ⟨hparked, -⟩ <;> simp [hparked]
    · cases hs

/-- **One step** leaves no call asleep over a queue with frames in it. -/
theorem hungry_step {s s' : Trace Z} {i : Input Z} (hsingle : Single s.transport)
    (h : Hungry s.transport.conn) (hs : s.step i = some s') : Hungry s'.transport.conn := by
  cases i with
  | dataReceived data keys =>
    simp only [Trace.step, Transport.step, Option.map_some, Option.some.injEq] at hs
    subst hs
    exact dataReceived_hungry h data keys
  | connectionLost exc =>
    simp only [Trace.step, Transport.step, Option.map_some, Option.some.injEq] at hs
    subst hs
    exact hungry_of_set rfl
  | finishConnect deflater keys =>
    simp only [Trace.step, Transport.step] at hs
    split at hs
    · simp only [Option.map_some, Option.some.injEq] at hs
      subst hs
      dsimp only
      have hswitch : Hungry (s.transport.switchToFrames deflater) := h
      rw [finishConnect_conn]
      split
      · exact hswitch
      · exact dataReceived_hungry hswitch _ keys
    · cases hs
  | recv | resume | timeout =>
    obtain ⟨c, hc, rfl⟩ := Option.map_eq_some_iff.mp hs
    unfold Trace.recvStep at hc
    split at hc
    · rename_i hturn
      obtain ⟨r, hr, rfl⟩ := Option.map_eq_some_iff.mp hc
      exact recvRun_hungry hsingle hturn h hr
    · cases hc

/-- How `recv` stops over the queue, with what the stream has put there and what was
returned. -/
theorem Orderly.loop_stop {s : Trace Z} (h : Orderly config request s) {queued : List Frame}
    (hqueue : s.taken ++ s.transport.conn.proto.frames = queued)
    (hping : ∀ f ∈ queued, f.opcode ≠ .ping) (hopen : ∀ f ∈ s.taken, f.opcode ≠ .close)
    (t : AsyncTransport Z) (task : Nat) (key : MaskKey) :
    (t.recvLoop task key s.transport.conn.proto.frames).2 =
      stopAfter queued s.returned.length := by
  subst hqueue
  have hsame : s.returned = s.taken.filter (fun f => !f.opcode.isControl) := by
    rw [returned_eq s h.log]
    exact List.filter_congr (fun f hf => passedOn_data (hping f (List.mem_append_left _ hf)))
  rw [hsame, stopAfter_append hopen]
  exact recvLoop_stop t task key _ (fun f hf => hping f (List.mem_append_right _ hf))

/-- While somebody sleeps, or the connection is there, no Close frame has been taken. -/
theorem Orderly.open {s : Trace Z} (h : Orderly config request s)
    (hstill : ¬ (Idle s.transport ∧ s.transport.protocol = false)) :
    ∀ f ∈ s.taken, f.opcode ≠ .close := by
  rcases h.closed with hopen | ⟨-, hend⟩
  · exact hopen
  · exact absurd hend hstill

/-- **The next reader is served**: whoever looks at the queue stops as the stream says. -/
theorem Orderly.recvStep_stop {s : Trace Z} (h : Orderly config request s) {queued : List Frame}
    (hqueue : s.taken ++ s.transport.conn.proto.frames = queued)
    (hping : ∀ f ∈ queued, f.opcode ≠ .ping) {i : Input Z} (hlooks : Looks s.transport i) :
    ∃ s', s.recvStep i = some (s', stopAfter queued s.returned.length) := by
  -- Nobody looks behind a Close frame that was taken.
  have hstill : ¬ (Idle s.transport ∧ s.transport.protocol = false) := by
    rintro ⟨hidle, hprotocol⟩
    cases i with
    | recv task key => exact absurd hlooks.2.1 (by simp [hprotocol])
    | resume task key => exact absurd hlooks.1 (by simp [hidle.2])
    | dataReceived | connectionLost | finishConnect | timeout => exact hlooks
  have hstop := h.loop_stop hqueue hping (h.open hstill)
  cases i with
  | dataReceived | connectionLost | finishConnect | timeout => exact hlooks.elim
  | recv task key =>
    obtain ⟨hconnected, hprotocol, hidle⟩ := hlooks
    have hfree : ¬ InRecv s.transport task := by simp [InRecv, hidle.1, hidle.2]
    have hturn : inTurn s.transport (.recv task key) = true := by
      simp [inTurn, hidle.1, hidle.2]
    have hrecv : s.transport.recv task key =
        s.transport.recvLoop task key s.transport.conn.proto.frames := by
      simp [AsyncTransport.recv, hconnected, hprotocol]
    unfold Trace.recvStep
    rw [if_pos hturn, recvRun, if_neg hfree, hrecv, Option.map_some, hstop]
    exact ⟨_, rfl⟩
  | resume task key =>
    obtain ⟨hwoken, hlost⟩ := hlooks
    have hgoes : s.transport.recvResume task key =
        (s.transport.withReady (s.transport.conn.proto.frameReady.resume task)).recvLoop task key
          s.transport.conn.proto.frames := by
      unfold recvResume
      dsimp only
      rw [if_neg (by simpa using hlost)]
      rfl
    have hturn : inTurn s.transport (.resume task key) = true := rfl
    unfold Trace.recvStep
    rw [if_pos hturn, recvRun, if_pos hwoken, hgoes, Option.map_some, hstop]
    exact ⟨_, rfl⟩

/-- A call that returns a frame leaves the connection to the next call, over the same
stream. -/
theorem recvStep_goes_on {s s' : Trace Z} {task : Nat} {key : MaskKey} {f : Frame}
    (hlooks : Looks s.transport (.recv task key))
    (h : s.recvStep (.recv task key) = some (s', .returned f)) :
    Looks s'.transport (.recv task key) ∧ s'.stream = s.stream ∧ s'.deflater = s.deflater := by
  have hreturned : ∀ fs, (s.transport.recvLoop task key fs).2 = .returned f →
      ∃ rest, (s.transport.recvLoop task key fs).1 = s.transport.setFrames rest := by
    intro fs hstop
    rw [recvLoop_eq] at hstop ⊢
    split at hstop
    · cases hstop
    · split at hstop
      · cases hstop
      · rename_i g rest hdrop hclose
        exact ⟨rest, congrArg Prod.fst (if_neg hclose)⟩
  obtain ⟨hconnected, hprotocol, hidle⟩ := hlooks
  unfold Trace.recvStep at h
  split at h
  · obtain ⟨r, hr, heq⟩ := Option.map_eq_some_iff.mp h
    simp only [Prod.mk.injEq] at heq
    obtain ⟨rfl, hstop⟩ := heq
    simp only [recvRun] at hr
    split at hr
    · cases hr
    · simp only [AsyncTransport.recv, hconnected, hprotocol, Bool.not_true, Bool.or_self,
        Bool.false_eq_true, if_false, Option.some.injEq] at hr
      subst hr
      obtain ⟨rest, hrest⟩ := hreturned _ hstop
      refine ⟨⟨?_, ?_, ?_⟩, ?_, rfl⟩
      · rw [hrest]
        exact hconnected
      · rw [hrest]
        exact hprotocol
      · rw [hrest]
        exact hidle
      · unfold Trace.stream
        rw [hrest]
        rfl
  · cases h

/-- **A consumer that goes on calling `recv`** has every data frame before the first Close
frame, one a call. -/
theorem recv_drains {queued : List Frame} {rest : Bytes} {frames : List Frame} {n : Nat}
    {d : Option (Deflater Z)} (task : Nat) (key : MaskKey) : ∀ (k : Nat) {s : Trace Z},
    Orderly config request s → Looks s.transport (.recv task key) →
    drain (parseFrame config.order config.maxFrameSize) s.stream = (rest, .ok (frames, n)) →
    inflateAll s.deflater frames = some (queued, d) →
    s.returned.length + k = (due queued).length →
    ∃ s', exec Trace.step s (List.replicate k (.recv task key)) = some s' ∧
      Looks s'.transport (.recv task key) ∧
      s'.returned = s.returned ++ (due queued).drop s.returned.length
  | 0, s, _, hlooks, _, _, hlen => by
    refine ⟨s, rfl, hlooks, ?_⟩
    rw [List.drop_of_length_le (by omega), List.append_nil]
  | k + 1, s, h, hlooks, hparse, hinflate, hlen => by
    obtain ⟨hqueue, -⟩ := h.queue hparse hinflate
    obtain ⟨s', hs'⟩ := h.recvStep_stop hqueue (inflateAll_no_ping frames hinflate) hlooks
    -- A frame is due, so this call returns it.
    have hlt : s.returned.length < (due queued).length := by omega
    have hstop : stopAfter queued s.returned.length = .returned (due queued)[s.returned.length] := by
      unfold stopAfter
      rw [List.getElem?_eq_getElem hlt]
    rw [hstop] at hs'
    have hreturned : s'.returned = s.returned ++ [(due queued)[s.returned.length]] :=
      recvStep_returned hs'
    obtain ⟨hlooks', hstream, hdeflater⟩ := recvStep_goes_on hlooks hs'
    rw [← hstream] at hparse
    rw [← hdeflater] at hinflate
    have hlen' : s'.returned.length = s.returned.length + 1 := by
      rw [hreturned, List.length_append, List.length_singleton]
    have horderly : Orderly config request s' := orderly_recvStep h hs'
    have hstep : s.step (.recv task key) = some s' := congrArg (Option.map Prod.fst) hs'
    obtain ⟨s'', hrun, hlooks'', hall⟩ :=
      recv_drains task key k horderly hlooks' hparse hinflate (by omega)
    refine ⟨s'', ?_, hlooks'', ?_⟩
    · rw [List.replicate_succ, exec, hstep]
      exact hrun
    · rw [hall, hlen', hreturned, List.append_assoc, List.singleton_append,
        List.getElem_cons_drop]

/-- **Delivery.** Over any run of one consumer whose stream so far parses and inflates: the
frames returned are the data frames of the stream before its first Close frame, in order,
up to some point; every PING has had one PONG with its payload, in order; the `recv` that
takes the Close frame raises. From every state of the run on, whoever looks at the queue next
is handed the data frame behind the last one returned, or with none left the exception of the
Close frame; a call sleeps only where neither has come. -/
theorem recv_delivers (Z : Zlib) (config : TransportConfig) (request : Bytes)
    (run : List (Input Z)) {s : Trace Z} {rest : Bytes} {frames queued : List Frame} {n : Nat}
    {d : Option (Deflater Z)}
    (hrun : exec Trace.step (Trace.start Z config request) run = some s)
    (hparse : drain (parseFrame config.order config.maxFrameSize) s.stream =
      (rest, .ok (frames, n)))
    (hinflate : inflateAll s.deflater frames = some (queued, d)) :
    s.returned <+: (queued.takeWhile (fun f => f.opcode ≠ .close)).filter
        (fun f => !f.opcode.isControl) ∧
      (s.transport.conn.sock.written.drop 1).filterMap (pongPayload config.order) =
        (frames.filter (fun f => f.opcode = .ping)).map Frame.payload ∧
      (∀ e ∈ s.log, (∃ f ∈ e.1, f.opcode = .close) →
        e.2 = .raised (.connectionError "Connection closed by remote")) ∧
      (∀ i, Looks s.transport i → ∃ s',
        s.recvStep i = some (s', stopAfter queued s.returned.length) ∧
          s'.returned = s.returned ++ (stopAfter queued s.returned.length).frame.toList) ∧
      (s.transport.conn.proto.frameReady.parked ≠ [] →
        stopAfter queued s.returned.length = .waiting) := by
  have hstep : ∀ (s : Trace Z) i s', Orderly config request s ∧ Hungry s.transport.conn →
      s.step i = some s' → Orderly config request s' ∧ Hungry s'.transport.conn :=
    fun s i s' h hs => ⟨orderly_step s i s' h.1 hs, hungry_step h.1.single h.2 hs⟩
  obtain ⟨hinv, hhungry⟩ :=
    exec_invariant hstep ⟨orderly_start Z config request, hungry_of_set rfl⟩ hrun
  obtain ⟨hqueue, ws, hws, hpongs⟩ := hinv.queue hparse hinflate
  have hping := inflateAll_no_ping frames hinflate
  refine ⟨?_, ?_, ?_, ?_, ?_⟩
  · have hsame : (queued.takeWhile (fun f => f.opcode ≠ .close)).filter
        (fun f => !f.opcode.isControl) =
        (queued.takeWhile (fun f => f.opcode ≠ .close)).filter passedOn :=
      List.filter_congr (fun f hf =>
        (passedOn_data (hping f ((List.takeWhile_sublist _).mem hf))).symm)
    rw [hsame, returned_eq s hinv.log, ← hqueue]
    refine passedOn_prefix ?_
    rcases hinv.closed with hopen | ⟨hend, -, -⟩
    · exact Or.inl hopen
    · exact Or.inr hend
  · rw [hws]
    exact hpongs
  · rintro e he ⟨f, hf, hclose⟩
    rcases took_close (hinv.log e he) with hnone | ⟨_, _, _, _, _, hstop⟩
    · exact absurd hclose (hnone f hf)
    · exact hstop
  · intro i hlooks
    obtain ⟨s', hs'⟩ := hinv.recvStep_stop hqueue hping hlooks
    exact ⟨s', hs', recvStep_returned hs'⟩
  · intro hparked
    have hstop := hinv.loop_stop hqueue hping (hinv.open (fun h => hparked h.1.1)) s.transport 0
      ⟨0, 0, 0, 0⟩
    rw [hhungry hparked] at hstop
    exact hstop.symm

/-- A PING and the head of a text frame come with the handshake response, the rest and a
Close frame after the first `recv`. -/
def leftoverRun : List (Input plainZlib) :=
  [.dataReceived (headerEnd ++ [0x89, 0x00, 0x81]) (fun _ => ⟨0, 0, 0, 0⟩),
    .finishConnect none (fun _ => ⟨0, 0, 0, 0⟩), .recv 0 ⟨0, 0, 0, 0⟩,
    .dataReceived [0x01, 0x41, 0x88, 0x00] (fun _ => ⟨0, 0, 0, 0⟩),
    .resume 0 ⟨0, 0, 0, 0⟩, .recv 0 ⟨0, 0, 0, 0⟩]

theorem recv_delivers_leftover :
    (∃ s, exec Trace.step (Trace.start plainZlib ⟨.little, 1024, 4096, false⟩ []) leftoverRun =
        some s ∧
      s.returned <+: [{ opcode := .text, payload := [0x41] }] ∧
      (s.transport.conn.sock.written.drop 1).filterMap (pongPayload .little) = [[]]) ∧
    -- The woken call returns the text frame, and the call after it raises.
    (∃ s s', exec Trace.step (Trace.start plainZlib ⟨.little, 1024, 4096, false⟩ [])
        (leftoverRun.take 4) = some s ∧
      s.recvStep (.resume 0 ⟨0, 0, 0, 0⟩) =
        some (s', .returned { opcode := .text, payload := [0x41] }) ∧
      s'.returned = [{ opcode := .text, payload := [0x41] }]) ∧
    ∃ s s', exec Trace.step (Trace.start plainZlib ⟨.little, 1024, 4096, false⟩ [])
        (leftoverRun.take 5) = some s ∧
      s.recvStep (.recv 0 ⟨0, 0, 0, 0⟩) =
        some (s', .raised (.connectionError "Connection closed by remote")) := by
  have h := recv_delivers plainZlib ⟨.little, 1024, 4096, false⟩ [] leftoverRun rfl rfl rfl
  have hwoken := recv_delivers plainZlib ⟨.little, 1024, 4096, false⟩ [] (leftoverRun.take 4)
    rfl rfl rfl
  have hcall := recv_delivers plainZlib ⟨.little, 1024, 4096, false⟩ [] (leftoverRun.take 5)
    rfl rfl rfl
  obtain ⟨s', hs', hreturned⟩ := hwoken.2.2.2.1 (.resume 0 ⟨0, 0, 0, 0⟩)
    ⟨by decide, by decide⟩
  obtain ⟨s'', hs'', -⟩ := hcall.2.2.2.1 (.recv 0 ⟨0, 0, 0, 0⟩)
    ⟨rfl, rfl, rfl, rfl⟩
  exact ⟨⟨_, rfl, h.1, h.2.1⟩, ⟨_, s', rfl, hs', hreturned⟩, _, s'', rfl, hs''⟩

end JetSocket.Transport
