import JetSocket.Manager.Session

/- When the heartbeat of a connected `WebSocket` times out.

   `recv` drops Pong frames, so the message loop never sees one and `on_pong` is never
   called: the event a ping waits for is set by `on_application_message` alone.

   What is proved:
     1. `recvRun_not_pong` — no Pong frame leaves `recv`.
     2. `cycle_step` — while a ping is out, its event is set exactly when the message
        loop has handled a message that `pong_matcher` accepts since the ping.
     3. `no_timeout_iff` — a run calls `on_timeout` nowhere exactly when every ping that
        runs out of time was answered by such a message. -/
namespace JetSocket.Manager
open JetSocket.Core JetSocket.Transport Transition AsyncTransport

variable {Z : Zlib} {T : Type}

/-- A frame with a message that `pong_matcher` takes for a pong. -/
def accepts (deserializer : Bytes → Except Exc T) (config : HeartbeatConfig T) (f : Frame) : Bool :=
  match deserializer f.payload, config.pongMatcher with
  | .ok data, some pongMatcher =>
    match pongMatcher data with
    | .ok b => b
    | .error _ => false
  | _, _ => false

/-- One of them has been handled. -/
def answered (deserializer : Bytes → Except Exc T) (config : HeartbeatConfig T)
    (seen : List Frame) : Bool :=
  seen.any (accepts deserializer config)

/-! ## No Pong frame leaves recv -/

theorem recvLoop_not_pong (t : AsyncTransport Z) (task : Nat) (key : MaskKey) (fs : List Frame)
    (f : Frame) (h : (t.recvLoop task key fs).2 = .returned f) : f.opcode ≠ .pong := by
  rw [recvLoop_eq] at h
  cases hd : fs.dropWhile Skipped with
  | nil =>
    rw [hd] at h
    cases h
  | cons g rest =>
    rw [hd] at h
    dsimp only at h
    split at h
    · cases h
    · cases h
      exact dropWhile_not_pong hd

/-- **No Pong frame leaves `recv`.** -/
theorem recvRun_not_pong {t t' : AsyncTransport Z} {i : Input Z} {f : Frame}
    (h : recvRun t i = some (t', .returned f)) : f.opcode ≠ .pong := by
  have hran := recvRun_cases h
  generalize hstop : RecvStop.returned f = stop at hran
  cases hran with
  | refused | lost | timedOut => cases hstop
  | looped ready task key => exact recvLoop_not_pong _ task key _ f hstop.symm

/-! ## One cycle of the heartbeat -/

/-- What holds of a heartbeat, with the frames handled since its last ping: while the ping
is out, its event tells whether one of them was accepted. -/
def Cycle (deserializer : Bytes → Except Exc T) (seen : List Frame) (m : HeartbeatManager T) :
    Prop :=
  match m.task with
  | .none | .timedOut | .ended => True
  | .sleeping _ => m.running = true ∧ m.pongEvent.isSome = true
  | .pinging | .waiting _ =>
    m.running = true ∧ m.pongEvent = some (answered deserializer m.config seen) ∧
      (answered deserializer m.config seen = false → m.lastPingTime.isSome = true)

variable {deserializer : Bytes → Except Exc T} {seen : List Frame} {m : HeartbeatManager T}

theorem Cycle.start (h : Cycle deserializer seen m) (now : ℚ) :
    Cycle deserializer seen (m.start now) := by
  unfold HeartbeatManager.start
  split
  · exact h
  · exact ⟨rfl, rfl⟩

theorem cycle_stop : Cycle deserializer seen m.stop := trivial

/-- A turn that ends leaves the loop asleep or done. -/
theorem cycle_next (hrunning : m.running = true) (hevent : m.pongEvent.isSome = true)
    (now : ℚ) (seen : List Frame) : Cycle deserializer seen (m.nextCycle now) := by
  simp only [HeartbeatManager.nextCycle, hrunning, if_true, Cycle]
  exact ⟨trivial, hevent⟩

/-- A ping goes out: nothing has answered it. -/
theorem cycle_begin (hrunning : m.running = true) (hevent : m.pongEvent.isSome = true) (now : ℚ) :
    Cycle deserializer [] (m.beginPing now) := by
  obtain ⟨b, hb⟩ := Option.isSome_iff_exists.mp hevent
  simp only [HeartbeatManager.beginPing, hrunning, if_true, Cycle, hb, Option.map_some, answered,
    List.any_nil]
  exact ⟨trivial, trivial, fun _ => rfl⟩

/-- Nothing in the frame is accepted. -/
theorem Cycle.ignore (h : Cycle deserializer seen m) {f : Frame}
    (hf : accepts deserializer m.config f = false) : Cycle deserializer (seen ++ [f]) m := by
  have hsame : answered deserializer m.config (seen ++ [f]) = answered deserializer m.config seen := by
    simp [answered, hf]
  unfold Cycle at h ⊢
  cases ht : m.task <;> simp only [ht] at h ⊢
  · exact h
  · rw [hsame]
    exact h
  · rw [hsame]
    exact h

/-- An accepted frame answers the ping. -/
theorem answered_accepts (seen : List Frame) {config : HeartbeatConfig T} {f : Frame}
    (hf : accepts deserializer config f = true) : answered deserializer config (seen ++ [f]) = true := by
  simp [answered, hf]

/-- An accepted frame sets the event of the ping that is out. -/
theorem Cycle.record (h : Cycle deserializer seen m) {f : Frame}
    (hf : accepts deserializer m.config f = true) (now sent : ℚ) :
    Cycle deserializer (seen ++ [f]) (m.recordLatency now sent) := by
  have hans := answered_accepts seen hf
  unfold Cycle at h ⊢
  cases ht : m.task <;> simp only [ht, HeartbeatManager.recordLatency] at h ⊢
  · simpa using h
  · rw [h.2.1, hans]
    exact ⟨h.1, rfl, fun hno => by cases hno⟩
  · rw [h.2.1, hans]
    exact ⟨h.1, rfl, fun hno => by cases hno⟩

/-- An accepted frame finds the event set if no ping time is kept. -/
theorem Cycle.again (h : Cycle deserializer seen m) {f : Frame}
    (hf : accepts deserializer m.config f = true) (hnone : m.lastPingTime = none) :
    Cycle deserializer (seen ++ [f]) m := by
  have hans := answered_accepts seen hf
  have set : (answered deserializer m.config seen = false → m.lastPingTime.isSome = true) →
      answered deserializer m.config seen = true := by
    intro hping
    by_contra hno
    have := hping (by simpa using hno)
    rw [hnone] at this
    cases this
  unfold Cycle at h ⊢
  cases ht : m.task <;> simp only [ht] at h ⊢
  · exact h
  · rw [hans, h.2.1, set h.2.2]
    exact ⟨h.1, rfl, fun hno => by cases hno⟩
  · rw [hans, h.2.1, set h.2.2]
    exact ⟨h.1, rfl, fun hno => by cases hno⟩

/-- **A message is handled**: while a ping is out, its event is set exactly if this message,
or one before it, is accepted. -/
theorem Cycle.message (h : Cycle deserializer seen m) {f : Frame} {data : T}
    (hdata : deserializer f.payload = .ok data) (now : ℚ) {m' : HeartbeatManager T} {b : Bool}
    (hm : m.onApplicationMessage now data = .ok (m', b)) :
    Cycle deserializer (seen ++ [f]) m' := by
  unfold HeartbeatManager.onApplicationMessage at hm
  cases hp : m.config.pongMatcher with
  | none =>
    simp only [hp, Except.ok.injEq, Prod.mk.injEq] at hm
    obtain ⟨rfl, -⟩ := hm
    exact h.ignore (by simp [accepts, hdata, hp])
  | some pongMatcher =>
    simp only [hp] at hm
    cases hmatch : pongMatcher data with
    | error e => simp [hmatch] at hm
    | ok matched =>
      have hacc : accepts deserializer m.config f = matched := by
        simp [accepts, hdata, hp, hmatch]
      cases matched with
      | false =>
        simp only [hmatch, Except.ok.injEq, Prod.mk.injEq] at hm
        obtain ⟨rfl, -⟩ := hm
        exact h.ignore hacc
      | true =>
        simp only [hmatch] at hm
        cases hping : m.lastPingTime with
        | none =>
          simp only [hping, Except.ok.injEq, Prod.mk.injEq] at hm
          obtain ⟨rfl, -⟩ := hm
          exact h.again hacc hping
        | some sent =>
          simp only [hping, Except.ok.injEq, Prod.mk.injEq] at hm
          obtain ⟨rfl, -⟩ := hm
          exact h.record hacc now sent

/-! ## Runs -/

/-- The invariant of runs: the frame in hand is no Pong, and the heartbeat is in a cycle. -/
structure Beating (deserializer : Bytes → Except Exc T) (s : Session Z T) : Prop where
  frame : ∀ f, s.loop = .handling f → f.opcode ≠ .pong
  cycle : ∀ m, s.heartbeat = some m → Cycle deserializer s.sincePing m

/-- `on_timeout` has not been called. -/
def NoTimeout (s : Session Z T) : Prop := ∀ m, s.heartbeat = some m → m.task ≠ .timedOut

/-- It has. -/
def Session.timedOut (s : Session Z T) : Bool :=
  s.heartbeat.any (fun m => match m.task with
    | .timedOut => true
    | _ => false)

theorem timedOut_iff {s : Session Z T} :
    s.timedOut = true ↔ ∃ m, s.heartbeat = some m ∧ m.task = .timedOut := by
  unfold Session.timedOut
  cases s.heartbeat with
  | none => simp
  | some m => cases ht : m.task <;> simp [ht]

/-- A ping whose time runs out has been answered, by a message that `pong_matcher` accepts
and the message loop has handled since the ping. -/
def InTime (deserializer : Bytes → Except Exc T) (s : Session Z T) : SessionInput Z → Prop
  | .timeoutOver =>
    ∀ m, s.heartbeat = some m → answered deserializer m.config s.sincePing = true
  | _ => True

theorem handleFrame_beating {s : Session Z T} (h : Beating deserializer s) {f : Frame}
    (hloop : s.loop = .handling f) : Beating deserializer (s.handleFrame deserializer f) := by
  have hpong := h.frame f hloop
  unfold Session.handleFrame
  dsimp only
  rw [if_neg hpong]
  have ignored : ∀ m, s.heartbeat = some m → accepts deserializer m.config f = false →
      Cycle deserializer (s.sincePing ++ [f]) m := fun m hm => (h.cycle m hm).ignore
  cases hdata : deserializer f.payload with
  | error e =>
    refine ⟨fun g hg => (by cases hg), fun m hm => ignored m hm ?_⟩
    simp [accepts, hdata]
  | ok data =>
    cases hhb : s.heartbeat with
    | none => exact ⟨fun g hg => (by cases hg), fun m hm => by simp at hm⟩
    | some m =>
      dsimp only
      cases hm : m.onApplicationMessage s.now data with
      | error e =>
        refine ⟨fun g hg => (by cases hg), fun m' hm' => ignored m' (by rw [hhb]; exact hm') ?_⟩
        -- An exception of the matcher accepts nothing.
        cases hm'
        unfold HeartbeatManager.onApplicationMessage at hm
        unfold accepts
        rw [hdata]
        split at hm
        · cases hm
        · rename_i pongMatcher hp
          simp only [hp]
          split at hm
          · rename_i hmatch
            rw [hmatch]
          · cases hm
          · split at hm <;> cases hm
      | ok r =>
        refine ⟨fun g hg => (by cases hg), fun m' hm' => ?_⟩
        cases hm'
        exact (h.cycle m hhb).message hdata s.now hm

theorem loopRecv_beating {s s' : Session Z T} {i : Input Z} (h : Beating deserializer s)
    (hs : s.loopRecv i = some s') : Beating deserializer s' := by
  obtain ⟨⟨c, stop⟩, hr, rfl⟩ := Option.map_eq_some_iff.mp hs
  refine ⟨fun f hf => ?_, h.cycle⟩
  unfold Trace.recvStep at hr
  split at hr
  · obtain ⟨⟨t, stop⟩, hrun, hr⟩ := Option.map_eq_some_iff.mp hr
    cases hr
    cases stop with
    | waiting => cases hf
    | raised e => cases hf
    | returned g =>
      cases hf
      exact recvRun_not_pong hrun
  · cases hr

/-- **One step** keeps the invariant. -/
theorem beating_step (s : Session Z T) (i : SessionInput Z) (s' : Session Z T)
    (h : Beating deserializer s) (hs : s.step deserializer i = some s') :
    Beating deserializer s' := by
  -- A step that replaces the heartbeat, with `seen` since its last ping.
  have beats : ∀ (c : Trace Z) (m' : HeartbeatManager T) (seen : List Frame),
      Cycle deserializer seen m' →
      Beating deserializer { s with connection := c, heartbeat := some m', sincePing := seen } :=
    fun c m' seen hcycle => ⟨h.frame, fun m hm => (by cases hm; exact hcycle)⟩
  cases Session.step_stepped hs with
  | network => exact ⟨h.frame, h.cycle⟩
  | connected =>
    refine ⟨fun f hf => (by cases hf), fun m hm => ?_⟩
    obtain ⟨m₀, hm₀, rfl⟩ := Option.map_eq_some_iff.mp hm
    exact (h.cycle m₀ hm₀).start s.now
  | received _ _ hrecv => exact loopRecv_beating h hrecv
  | handled hloop => exact handleFrame_beating h hloop
  | advanced => exact ⟨h.frame, h.cycle⟩
  | pinged hm htask =>
    have hcycle := h.cycle _ hm
    simp only [Cycle, htask] at hcycle
    exact beats _ _ _ (cycle_begin hcycle.1 hcycle.2 s.now)
  | @pingFailed _ m _ _ hm htask =>
    have hcycle := h.cycle _ hm
    simp only [Cycle, htask] at hcycle
    obtain ⟨hrunning, hevent⟩ := hcycle
    have hnext : Cycle deserializer [] ((m.beginPing s.now).nextCycle s.now) := by
      apply cycle_next
      · simp [HeartbeatManager.beginPing, hrunning]
      · simpa [HeartbeatManager.beginPing, hrunning] using hevent
    exact beats _ _ _ hnext
  | notPinged hm htask _ hping =>
    have hcycle := h.cycle _ hm
    simp only [Cycle, htask] at hcycle
    simp [HeartbeatManager.beginPing, hcycle.1] at hping
  | @waits m hm htask =>
    have hcycle := h.cycle _ hm
    simp only [Cycle, htask] at hcycle
    obtain ⟨hrunning, hevent, hout⟩ := hcycle
    have hwait : Cycle deserializer s.sincePing (m.awaitPong s.now) := by
      simp only [HeartbeatManager.awaitPong, hevent, Option.isSome_some, if_true, Cycle]
      exact ⟨hrunning, trivial, hout⟩
    exact beats _ _ _ hwait
  | wakes hm htask hevent | wakesLate hm htask _ hevent =>
    have hcycle := h.cycle _ hm
    simp only [Cycle, htask] at hcycle
    have hset := congrArg Option.isSome hevent
    exact beats _ _ _ (cycle_next hcycle.1 hset s.now _)
  | @timesOut m _ hm htask =>
    have hcycle := h.cycle _ hm
    simp only [Cycle, htask] at hcycle
    have hover : Cycle deserializer s.sincePing (m.pongTimeout s.now) := by
      simp only [HeartbeatManager.pongTimeout, hcycle.1, if_true, Cycle]
    exact beats _ _ _ hover
  | stopped =>
    refine ⟨h.frame, fun m hm => ?_⟩
    obtain ⟨m₀, -, rfl⟩ := Option.map_eq_some_iff.mp hm
    exact cycle_stop

theorem nextCycle_task (m : HeartbeatManager T) (now : ℚ) : (m.nextCycle now).task ≠ .timedOut := by
  unfold HeartbeatManager.nextCycle
  dsimp only
  split <;> simp

theorem beginPing_task (m : HeartbeatManager T) (now : ℚ) : (m.beginPing now).task ≠ .timedOut := by
  unfold HeartbeatManager.beginPing
  split <;> simp

theorem onApplicationMessage_task {m m' : HeartbeatManager T} {now : ℚ} {data : T} {b : Bool}
    (h : m.onApplicationMessage now data = .ok (m', b)) : m'.task = m.task := by
  unfold HeartbeatManager.onApplicationMessage at h
  repeat' split at h
  all_goals cases h
  all_goals rfl

theorem handleFrame_noTimeout {s : Session Z T} (h : NoTimeout s) {f : Frame}
    (hpong : f.opcode ≠ .pong) : NoTimeout (s.handleFrame deserializer f) := by
  unfold Session.handleFrame
  dsimp only
  rw [if_neg hpong]
  split
  · rename_i hhb
    split
    · rename_i m' _ hm
      intro m'' hm''
      cases hm''
      rw [onApplicationMessage_task hm]
      exact h _ hhb
    · exact h
  · exact h

/-- **One step**: `on_timeout` is called exactly where the time of an unanswered ping runs
out. -/
theorem timeout_step (s : Session Z T) (i : SessionInput Z) (s' : Session Z T)
    (hb : Beating deserializer s) (h : NoTimeout s) (hs : s.step deserializer i = some s') :
    NoTimeout s' ↔ InTime deserializer s i := by
  -- A step that replaces the heartbeat by one that has not timed out.
  have quiet : ∀ (c : Trace Z) (m' : HeartbeatManager T) (seen : List Frame),
      m'.task ≠ .timedOut →
      NoTimeout { s with connection := c, heartbeat := some m', sincePing := seen } :=
    fun c m' seen hm' m hm => (by cases hm; exact hm')
  -- Where the time of a ping runs out, its event tells whether it was answered.
  have hiff : ∀ {m : HeartbeatManager T} {deadline : ℚ}, s.heartbeat = some m →
      m.task = .waiting deadline →
      (InTime deserializer s .timeoutOver ↔ m.pongEvent = some true) := by
    intro m deadline hm htask
    have hcycle := hb.cycle m hm
    simp only [Cycle, htask] at hcycle
    rw [hcycle.2.1, Option.some.injEq]
    constructor
    · exact fun hin => hin m hm
    · intro hans m' hm'
      rw [hm] at hm'
      cases hm'
      exact hans
  cases Session.step_stepped hs with
  | network | advanced => exact iff_of_true h trivial
  | connected =>
    refine iff_of_true ?_ trivial
    intro m hm
    obtain ⟨m₀, hm₀, rfl⟩ := Option.map_eq_some_iff.mp hm
    unfold HeartbeatManager.start
    split
    · exact h m₀ hm₀
    · simp
  | received hi _ hrecv =>
    obtain ⟨c, -, rfl⟩ := Option.map_eq_some_iff.mp hrecv
    refine iff_of_true h ?_
    cases i with
    | timeoutOver => cases hi
    | _ => trivial
  | handled hloop => exact iff_of_true (handleFrame_noTimeout h (hb.frame _ hloop)) trivial
  | @pinged _ m | @notPinged _ m =>
    exact iff_of_true (quiet _ _ _ (beginPing_task m s.now)) trivial
  | @pingFailed _ m =>
    exact iff_of_true (quiet _ _ _ (nextCycle_task (m.beginPing s.now) s.now)) trivial
  | @waits m =>
    have htask : (m.awaitPong s.now).task ≠ .timedOut := by
      unfold HeartbeatManager.awaitPong
      split
      · simp
      · exact nextCycle_task m s.now
    exact iff_of_true (quiet _ _ _ htask) trivial
  | @wakes m => exact iff_of_true (quiet _ _ _ (nextCycle_task m s.now)) trivial
  | @wakesLate m _ hm htask _ hevent =>
    exact iff_of_true (quiet _ _ _ (nextCycle_task m s.now)) ((hiff hm htask).mpr hevent)
  | @timesOut m _ hm htask _ hevent =>
    refine iff_of_false ?_ (fun hin => hevent ((hiff hm htask).mp hin))
    intro hno
    have hcycle := hb.cycle m hm
    simp only [Cycle, htask] at hcycle
    refine hno _ rfl ?_
    simp [HeartbeatManager.pongTimeout, hcycle.1]
  | stopped =>
    refine iff_of_true ?_ trivial
    intro m hm
    obtain ⟨m₀, -, rfl⟩ := Option.map_eq_some_iff.mp hm
    simp [HeartbeatManager.stop]

/-- **When the heartbeat does not time out.** A run calls `on_timeout` nowhere exactly when
every ping whose time runs out in it was answered by a message that `pong_matcher` accepts
and the message loop handled in time. -/
theorem no_timeout_iff (Z : Zlib) (config : TransportConfig) (request : Bytes) (T : Type)
    (deserializer : Bytes → Except Exc T) (heartbeat : HeartbeatConfig T)
    (run : List (SessionInput Z)) :
    Always (Session.step deserializer) NoTimeout (Session.start Z config request (some heartbeat))
        run ↔
      Meets (Session.step deserializer) (InTime deserializer)
        (Session.start Z config request (some heartbeat)) run := by
  refine always_iff_meets_of_inv beating_step timeout_step run ?_ ?_
  · refine ⟨fun f hf => (by cases hf), fun m hm => ?_⟩
    cases hm
    trivial
  · intro m hm
    cases hm
    simp [HeartbeatManager.new]

/-- The default interval and timeout, and no matcher. -/
def plainHeartbeat : HeartbeatConfig Bytes :=
  { interval := 30, timeout := 10, payload := [], useWsPing := true, applicationPing := false,
    pongMatcher := none, interval_pos := by decide, timeout_pos := by decide,
    timeout_lt := by decide, one_ping := by decide }

/-- One ping, whose PONG arrives at once while the message loop waits in `recv`. -/
def answeredPing : List (SessionInput plainZlib) :=
  [.network (.dataReceived headerEnd (fun _ => ⟨0, 0, 0, 0⟩)),
    .network (.finishConnect none (fun _ => ⟨0, 0, 0, 0⟩)), .connected, .recv ⟨0, 0, 0, 0⟩,
    .advance 30, .intervalOver ⟨0, 0, 0, 0⟩, .pingHandled,
    .network (.dataReceived [0x8A, 0x00] (fun _ => ⟨0, 0, 0, 0⟩)), .resume ⟨0, 0, 0, 0⟩,
    .advance 10, .timeoutOver]

/-- A PONG with the payload of the ping, received in time and read by the message loop, does
not keep the heartbeat from timing out. -/
theorem answered_ping_times_out :
    ¬ Always (Session.step Except.ok) NoTimeout
      (Session.start plainZlib ⟨.little, 1024, 4096, false⟩ [] (some plainHeartbeat))
      answeredPing := by
  have hend : (exec (Session.step Except.ok)
      (Session.start plainZlib ⟨.little, 1024, 4096, false⟩ [] (some plainHeartbeat))
      answeredPing).map Session.timedOut = some true := by decide +kernel
  intro h
  obtain ⟨s, hs, htimed⟩ := Option.map_eq_some_iff.mp hend
  obtain ⟨m, hm, htask⟩ := timedOut_iff.mp htimed
  exact h.last hs m hm htask

end JetSocket.Manager
