import JetSocket.Lib.AsyncQueue
import JetSocket.Manager.Fragments
import JetSocket.Manager.MessageLoop

/- From the wire to `WebSocket.recv`: one connection, its message loop, the queue that the loop
   fills, and the calls of `recv` and `__anext__` that take from it, in any interleaving.

   Three queues lie on the way, each with a reader that may sleep: the bytes of a frame that is
   not complete, in the parser; the frames behind `_frame_ready`, in the protocol; and the values
   in `_message_queue`. `arrivals` has the frames that the loop has gone through, with what the
   user's functions made of them, and `taken` the values that were taken. The loop may be left at
   any time, by `close` or by a cancellation; a frame that it has in hand then is lost.

   Correspondence (Python ↔ Lean):
     `await self._transport.recv()` in `_message_loop` ↔ `Input.recv`, `resume`, `readTimeout`
     the body behind it                                ↔ `Input.handle`, `LoopData.handleFrame`
     the loop's condition, or its cancellation         ↔ `Input.leave`
     `self._message_queue.get()`                       ↔ `Input.get`, `wake`, `giveUp`

   What is proved:
     1. `flowing_step` — one step keeps what is on the way where it is, in order.
     2. `recv_receives` — over every run: what was taken and what is in the queue are the values
        of the data frames before the first Close frame, in order, up to where the loop has
        come; and with nothing left in between, of all of them. -/
namespace JetSocket.Manager
open JetSocket.Core JetSocket.Transport Transition AsyncTransport Incremental

namespace Intake

/-- Where the message loop stands. -/
inductive Stage where
  | idle
  | ready
  | receiving
  | handling (frame : Frame)
  | over
  deriving DecidableEq, Repr

/-- The message loop, after a run of `recv`. -/
def afterRecv : RecvStop → Stage
  | .waiting => .receiving
  | .returned frame => .handling frame
  | .raised _ => .over

/-- The frame the loop has in hand. -/
def Stage.inHand : Stage → List Frame
  | .handling frame => [frame]
  | _ => []

/-- What can happen next. -/
inductive Input (Z : Zlib) (α : Type) where
  | network (i : Transport.Input Z)
  | connected
  | recv (key : MaskKey)
  | resume (key : MaskKey)
  | readTimeout
  | handle (now : ℚ) (deserialized : Except Exc (Option α)) (matched : Except Exc Bool)
  | leave
  | ping (payload : Bytes) (key : MaskKey)
  | get (task : Nat)
  | wake (task : Nat)
  | giveUp (task : Nat)

end Intake

/-- The connection, its message loop, and the queue with what was taken from it. -/
structure Intake (Z : Zlib) (α σ : Type) where
  connection : Trace Z
  stage : Intake.Stage
  data : LoopData α σ
  queue : AsyncQueue (Option α)
  arrivals : List (Arrival α)
  taken : List (Option α)

namespace Intake
variable {Z : Zlib} {α σ : Type}

/-- A connection with its handshake begun; what an earlier one has left is in the queue. -/
def start (Z : Zlib) (config : TransportConfig) (request : Bytes) (data : LoopData α σ) :
    Intake Z α σ :=
  { connection := Trace.start Z config request, stage := .idle, data
    queue := ⟨data.messageQueue, [], []⟩, arrivals := [], taken := [] }

/-- `recv` as the message loop calls it and resumes in it; it is task 0. -/
def loopRecv (s : Intake Z α σ) (i : Transport.Input Z) : Option (Intake Z α σ) :=
  (s.connection.recvStep i).map (fun r => { s with connection := r.1, stage := afterRecv r.2 })

/-- A `get` has run. -/
def answered (s : Intake Z α σ) (r : AsyncQueue (Option α) × Option (Option α)) : Intake Z α σ :=
  { s with queue := r.1, taken := s.taken ++ r.2.toList }

variable [DecidableEq σ]

/-- The body of the loop: what it has put goes to the queue. -/
def handleFrame (handlers : HandlerOutcomes α) (s : Intake Z α σ) (a : Arrival α) :
    Intake Z α σ :=
  let data := s.data.handleFrame handlers a
  { s with
    stage := .ready
    data
    queue := (data.messageQueue.drop s.data.messageQueue.length).foldl AsyncQueue.put s.queue
    arrivals := s.arrivals ++ [a] }

/-- One step. -/
def step (handlers : HandlerOutcomes α) (s : Intake Z α σ) : Input Z α → Option (Intake Z α σ)
  | .network i =>
    match i with
    | .dataReceived _ _ | .connectionLost _ | .finishConnect _ _ =>
      (s.connection.step i).map (fun c => { s with connection := c })
    | _ => none
  | .connected =>
    if s.stage = .idle ∧ s.connection.transport.connected = true then some { s with stage := .ready }
    else none
  | .recv key => if s.stage = .ready then s.loopRecv (.recv 0 key) else none
  | .resume key => if s.stage = .receiving then s.loopRecv (.resume 0 key) else none
  | .readTimeout => if s.stage = .receiving then s.loopRecv (.timeout 0) else none
  | .handle now deserialized matched =>
    match s.stage with
    | .handling frame => some (s.handleFrame handlers { frame, now, deserialized, matched })
    | _ => none
  | .leave => some { s with stage := .over }
  | .ping payload key =>
    match Session.sendPing s.connection payload key with
    | .ok c => some { s with connection := c }
    | .error _ => some s
  | .get task => if s.queue.Waits task then none else some (s.answered (s.queue.get task))
  | .wake task => if task ∈ s.queue.woken then some (s.answered (s.queue.resume task)) else none
  | .giveUp task =>
    if s.queue.Waits task then some { s with queue := s.queue.giveUp task } else none

/-- The invariant of runs, from the data `d₀` on. -/
structure Flowing (config : TransportConfig) (request : Bytes) (d₀ : LoopData α σ)
    (s : Intake Z α σ) : Prop where
  orderly : Orderly config request s.connection
  passed : s.arrivals.map Arrival.frame ++ s.stage.inHand <+: s.connection.returned
  whole : s.stage ≠ .over →
    s.connection.returned = s.arrivals.map Arrival.frame ++ s.stage.inHand
  adds : ∃ bytes failures, LoopData.Adds d₀ s.data
    (s.arrivals.filterMap (fun a => (a.route d₀.matching).value)) bytes failures
  queue : s.taken ++ s.queue.items = s.data.messageQueue

variable {config : TransportConfig} {request : Bytes} {d₀ : LoopData α σ} {s s' : Intake Z α σ}

omit [DecidableEq σ] in
/-- The connection moves, and `recv` has returned nothing more. -/
theorem Flowing.connection (h : Flowing config request d₀ s) {c : Trace Z}
    (orderly : Orderly config request c) (returned : c.returned = s.connection.returned) :
    Flowing config request d₀ { s with connection := c } where
  orderly := orderly
  passed := by rw [returned]; exact h.passed
  whole hstage := returned.trans (h.whole hstage)
  adds := h.adds
  queue := h.queue

omit [DecidableEq σ] in
/-- The loop calls `recv`, or goes on in it. -/
theorem Flowing.loopRecv (h : Flowing config request d₀ s) {i : Transport.Input Z}
    (hstage : s.stage = .ready ∨ s.stage = .receiving) (hs : s.loopRecv i = some s') :
    Flowing config request d₀ s' := by
  obtain ⟨⟨c, stop⟩, hr, rfl⟩ := Option.map_eq_some_iff.mp hs
  have hbefore : s.connection.returned = s.arrivals.map Arrival.frame := by
    rcases hstage with hstage | hstage
    · rw [h.whole (by rw [hstage]; decide), hstage]
      exact List.append_nil _
    · rw [h.whole (by rw [hstage]; decide), hstage]
      exact List.append_nil _
  have hafter : c.returned = s.arrivals.map Arrival.frame ++ (afterRecv stop).inHand := by
    rw [recvStep_returned hr, hbefore]
    cases stop <;> rfl
  refine ⟨orderly_recvStep h.orderly hr, ?_, fun _ => hafter, h.adds, h.queue⟩
  exact ⟨[], (List.append_nil _).trans hafter.symm⟩

omit [DecidableEq σ] in
/-- The loop is left: what it has in hand is lost. -/
theorem Flowing.leave (h : Flowing config request d₀ s) :
    Flowing config request d₀ { s with stage := .over } where
  orderly := h.orderly
  passed := by
    refine List.IsPrefix.trans ?_ h.passed
    rw [show Stage.inHand .over = [] from rfl, List.append_nil]
    exact List.prefix_append _ _
  whole hstage := absurd rfl hstage
  adds := h.adds
  queue := h.queue

omit [DecidableEq σ] in
theorem items_puts (vs : List (Option α)) : ∀ q : AsyncQueue (Option α),
    (vs.foldl AsyncQueue.put q).items = q.items ++ vs := by
  induction vs with
  | nil => exact fun q => (List.append_nil _).symm
  | cons v vs ih =>
    intro q
    rw [List.foldl_cons, ih, AsyncQueue.items_put, List.append_assoc, List.singleton_append]

/-- **The body of the loop**: its frame goes to the arrivals, and its value to the queue. -/
theorem Flowing.handleFrame (h : Flowing config request d₀ s) (handlers : HandlerOutcomes α)
    {a : Arrival α} (hstage : s.stage = .handling a.frame) :
    Flowing config request d₀ (s.handleFrame handlers a) := by
  have hreturned : s.connection.returned = (s.arrivals ++ [a]).map Arrival.frame := by
    rw [h.whole (by rw [hstage]; simp), hstage, List.map_append]
    rfl
  obtain ⟨bytes, failures, hadds⟩ := h.adds
  have hone := LoopData.handleFrame_adds handlers s.data a
  rw [hadds.matching] at hone
  have hboth := hadds.trans hone
  have hready : (s.arrivals ++ [a]).map Arrival.frame ++ Stage.inHand .ready =
      (s.arrivals ++ [a]).map Arrival.frame := List.append_nil _
  have hvalues : (s.arrivals ++ [a]).filterMap (fun a => (a.route d₀.matching).value) =
      s.arrivals.filterMap (fun a => (a.route d₀.matching).value) ++
        (a.route d₀.matching).value.toList := by
    rw [List.filterMap_append, List.filterMap_cons]
    cases (a.route d₀.matching).value <;> rfl
  refine ⟨h.orderly, ?_, fun _ => ?_, ?_, ?_⟩
  · show (s.arrivals ++ [a]).map Arrival.frame ++ Stage.inHand .ready <+: _
    rw [hready, ← hreturned]
    exact List.prefix_rfl
  · exact hreturned.trans hready.symm
  · rw [← hvalues] at hboth
    exact ⟨_, _, hboth⟩
  · show s.taken ++ (List.foldl AsyncQueue.put s.queue _).items = _
    rw [items_puts, hone.messageQueue, List.drop_left, ← List.append_assoc, h.queue]
    exact hone.messageQueue.symm

omit [DecidableEq σ] in
/-- A `get` runs. -/
theorem Flowing.answered (h : Flowing config request d₀ s)
    {r : AsyncQueue (Option α) × Option (Option α)} (hr : s.queue.Pops r) :
    Flowing config request d₀ (s.answered r) := by
  refine ⟨h.orderly, h.passed, h.whole, h.adds, ?_⟩
  have hqueue := h.queue
  unfold AsyncQueue.Pops at hr
  obtain ⟨queue, value⟩ := r
  show (s.taken ++ value.toList) ++ queue.items = _
  cases value with
  | none =>
    rw [hr.1] at hqueue
    rw [hr.2, Option.toList_none, List.append_nil]
    exact hqueue
  | some v =>
    rw [hr] at hqueue
    rw [Option.toList_some, List.append_assoc, List.singleton_append]
    exact hqueue

/-- **One step** keeps what is on the way. -/
theorem flowing_step (handlers : HandlerOutcomes α) (s : Intake Z α σ) (i : Input Z α)
    (s' : Intake Z α σ) (h : Flowing config request d₀ s) (hs : s.step handlers i = some s') :
    Flowing config request d₀ s' := by
  cases i with
  | network i =>
    cases i with
    | dataReceived | connectionLost | finishConnect =>
      simp only [step] at hs
      obtain ⟨c, hc, rfl⟩ := Option.map_eq_some_iff.mp hs
      refine h.connection (orderly_step _ _ _ h.orderly hc) ?_
      simp only [Trace.step] at hc
      obtain ⟨t, -, rfl⟩ := Option.map_eq_some_iff.mp hc
      rfl
    | recv | resume | timeout => cases hs
  | connected =>
    simp only [step] at hs
    split at hs
    · rename_i hidle
      cases hs
      have hhand : s.stage.inHand = [] := by rw [hidle.1]; rfl
      have hpassed := h.passed
      have hwhole := h.whole (by rw [hidle.1]; decide)
      rw [hhand] at hpassed hwhole
      exact ⟨h.orderly, hpassed, fun _ => hwhole, h.adds, h.queue⟩
    · cases hs
  | recv key =>
    simp only [step] at hs
    split at hs
    · exact h.loopRecv (.inl ‹_›) hs
    · cases hs
  | resume key | readTimeout =>
    simp only [step] at hs
    split at hs
    · exact h.loopRecv (.inr ‹_›) hs
    · cases hs
  | handle now deserialized matched =>
    simp only [step] at hs
    split at hs
    · rename_i frame hstage
      cases hs
      exact h.handleFrame handlers hstage
    · cases hs
  | leave =>
    cases hs
    exact h.leave
  | ping payload key =>
    simp only [step] at hs
    split at hs
    · rename_i c hping
      cases hs
      obtain ⟨hc, hreturned⟩ := sendPing_orderly h.orderly hping
      exact h.connection hc hreturned
    · cases hs
      exact h
  | get task =>
    simp only [step] at hs
    split at hs
    · cases hs
    · cases hs
      exact h.answered (s.queue.get_pops task)
  | wake task =>
    simp only [step] at hs
    split at hs
    · cases hs
      exact h.answered (s.queue.resume_pops task)
    · cases hs
  | giveUp task =>
    simp only [step] at hs
    split at hs
    · cases hs
      exact ⟨h.orderly, h.passed, h.whole, h.adds, by
        rw [AsyncQueue.items_giveUp]
        exact h.queue⟩
    · cases hs

omit [DecidableEq σ] in
theorem flowing_start (config : TransportConfig) (request : Bytes) (d₀ : LoopData α σ) :
    Flowing config request d₀ (start Z config request d₀) where
  orderly := orderly_start Z config request
  passed := List.prefix_rfl
  whole _ := rfl
  adds := ⟨0, 0, .nothing rfl rfl rfl rfl rfl⟩
  queue := rfl

/-- The data frames before the first Close frame. -/
def dataFrames (queued : List Frame) : List Frame :=
  (queued.takeWhile (fun f => f.opcode ≠ .close)).filter (fun f => !f.opcode.isControl)

/-- No PING is queued: what `recv` passes on are the data frames. -/
theorem dataFrames_passedOn {queued : List Frame} (h : ∀ f ∈ queued, f.opcode ≠ .ping) :
    dataFrames queued = (queued.takeWhile (fun f => f.opcode ≠ .close)).filter passedOn := by
  refine List.filter_congr (fun f hf => ?_)
  have hping := h f ((List.takeWhile_sublist _).mem hf)
  unfold passedOn
  cases hop : f.opcode <;> simp [hop, Opcode.isControl, Opcode.value] at hping ⊢

/-- All that was queued was taken: no more was to be passed on. -/
theorem passedOn_all {taken : List Frame}
    (h : (∀ f ∈ taken, f.opcode ≠ .close) ∨
      ∃ pre c, taken = pre ++ [c] ∧ (∀ f ∈ pre, f.opcode ≠ .close) ∧ c.opcode = .close) :
    taken.filter passedOn =
      (taken.takeWhile (fun f => f.opcode ≠ .close)).filter passedOn := by
  rcases h with hopen | ⟨pre, c, rfl, hpre, hclose⟩
  · rw [List.takeWhile_eq_self_iff.mpr (by simpa using hopen)]
  · rw [List.takeWhile_append_of_pos (by simpa using hpre),
      List.takeWhile_cons_of_neg (by simp [hclose]), List.append_nil, List.filter_append,
      List.filter_cons_of_neg (by simp [passedOn, hclose]), List.filter_nil, List.append_nil]

section Read
variable {s : Intake Z α σ} {rest : Bytes} {frames queued : List Frame} {n : Nat}
  {d : Option (Deflater Z)}

omit [DecidableEq σ] in
/-- The queue holds what was taken and what is still there. -/
theorem Flowing.values (h : Flowing config request d₀ s) :
    s.taken ++ s.queue.items =
      d₀.messageQueue ++ s.arrivals.filterMap (fun a => (a.route d₀.matching).value) := by
  obtain ⟨bytes, failures, hadds⟩ := h.adds
  exact h.queue.trans hadds.messageQueue

omit [DecidableEq σ] in
/-- The loop has gone through data frames of the stream, from the first on. -/
theorem Flowing.arrivals_first (h : Flowing config request d₀ s)
    (hparse : drain (parseFrame config.order config.maxFrameSize) s.connection.stream =
      (rest, .ok (frames, n)))
    (hinflate : inflateAll s.connection.deflater frames = some (queued, d)) :
    s.arrivals.map Arrival.frame <+: dataFrames queued := by
  obtain ⟨hqueue, -⟩ := h.orderly.queue hparse hinflate
  have hpings : ∀ f ∈ queued, f.opcode ≠ .ping := inflateAll_no_ping frames hinflate
  have hpassed := (List.prefix_append _ _).trans h.passed
  rw [returned_eq s.connection h.orderly.log] at hpassed
  rw [dataFrames_passedOn hpings, ← hqueue]
  exact hpassed.trans <| passedOn_prefix (h.orderly.closed.imp id And.left)

omit [DecidableEq σ] in
/-- Back in `recv` with nothing queued below, it has gone through all of them. -/
theorem Flowing.arrivals_all (h : Flowing config request d₀ s)
    (hparse : drain (parseFrame config.order config.maxFrameSize) s.connection.stream =
      (rest, .ok (frames, n)))
    (hinflate : inflateAll s.connection.deflater frames = some (queued, d))
    (hstage : s.stage = .ready ∨ s.stage = .receiving)
    (hempty : s.connection.transport.conn.proto.frames = []) :
    s.arrivals.map Arrival.frame = dataFrames queued := by
  obtain ⟨hqueue, -⟩ := h.orderly.queue hparse hinflate
  have hpings : ∀ f ∈ queued, f.opcode ≠ .ping := inflateAll_no_ping frames hinflate
  have hall : s.connection.returned = s.arrivals.map Arrival.frame := by
    rcases hstage with hstage | hstage
    · rw [h.whole (by rw [hstage]; decide), hstage]
      exact List.append_nil _
    · rw [h.whole (by rw [hstage]; decide), hstage]
      exact List.append_nil _
  rw [hempty, List.append_nil] at hqueue
  rw [← hall, returned_eq s.connection h.orderly.log, dataFrames_passedOn hpings, ← hqueue,
    passedOn_all (h.orderly.closed.imp id And.left)]

end Read

/-- **From the wire to `recv`.** Over any run whose stream so far parses and inflates: the frames
the message loop has gone through are the data frames before the first Close frame, in order, up
to some point; what was taken, and behind it what is in the queue, is what an earlier connection
left and the values of these frames; `messages_received` counts them; and where the loop has
nothing in hand and no frame is queued, all the data frames were gone through. -/
theorem recv_receives (Z : Zlib) (handlers : HandlerOutcomes α) (config : TransportConfig)
    (request : Bytes) (d₀ : LoopData α σ) (run : List (Input Z α)) {s : Intake Z α σ}
    {rest : Bytes} {frames queued : List Frame} {n : Nat} {d : Option (Deflater Z)}
    (hrun : exec (step handlers) (start Z config request d₀) run = some s)
    (hparse : drain (parseFrame config.order config.maxFrameSize) s.connection.stream =
      (rest, .ok (frames, n)))
    (hinflate : inflateAll s.connection.deflater frames = some (queued, d)) :
    s.arrivals.map Arrival.frame <+: dataFrames queued ∧
      s.taken ++ s.queue.items =
        d₀.messageQueue ++ s.arrivals.filterMap (fun a => (a.route d₀.matching).value) ∧
      s.data.messagesReceived + d₀.messageQueue.length =
        d₀.messagesReceived + s.taken.length + s.queue.items.length ∧
      (s.stage = .ready ∨ s.stage = .receiving → s.connection.transport.conn.proto.frames = [] →
        s.arrivals.map Arrival.frame = dataFrames queued) := by
  have hinv : Flowing config request d₀ s :=
    exec_invariant (flowing_step handlers) (flowing_start config request d₀) hrun
  obtain ⟨bytes, failures, hadds⟩ := hinv.adds
  have hvalues := hinv.values
  refine ⟨hinv.arrivals_first hparse hinflate, hvalues, ?_, hinv.arrivals_all hparse hinflate⟩
  have hlength := congrArg List.length hvalues
  rw [List.length_append, List.length_append] at hlength
  rw [hadds.messagesReceived]
  omega

/-- A WebSocket with "x" left over from an earlier connection. -/
def leftData : LoopData Bytes Unit :=
  { heartbeat := none, replayer := Replayer.new none none, messageQueue := [some [0x78]]
    messagesReceived := 1, bytesReceived := 1, emitted := [], dropped := [] }

/-- "a", a PING and the head of a frame come with the handshake response; one call of `recv` takes
what was left over, one waits; then come "b" and a Close frame. -/
def twoMessages : List (Input plainZlib Bytes) :=
  [.network (.dataReceived (headerEnd ++ [0x81, 0x01, 0x61, 0x89, 0x00, 0x81])
      (fun _ => ⟨0, 0, 0, 0⟩)),
    .network (.finishConnect none (fun _ => ⟨0, 0, 0, 0⟩)), .connected, .get 1, .get 2,
    .recv ⟨0, 0, 0, 0⟩, .handle 0 (.ok (some [0x61])) (.ok false), .recv ⟨0, 0, 0, 0⟩,
    .network (.dataReceived [0x01, 0x62, 0x88, 0x00] (fun _ => ⟨0, 0, 0, 0⟩)), .wake 2,
    .resume ⟨0, 0, 0, 0⟩, .handle 0 (.ok (some [0x62])) (.ok false)]

theorem recv_receives_two :
    ∃ s, exec (step (fun _ _ => []))
        (start plainZlib ⟨.little, 1024, 4096, false⟩ [] leftData) twoMessages = some s ∧
      s.taken ++ s.queue.items = [some [0x78], some [0x61], some [0x62]] ∧
      s.data.messagesReceived + 1 = 1 + s.taken.length + s.queue.items.length := by
  obtain ⟨-, hvalues, hcount, -⟩ := recv_receives plainZlib (fun _ _ => [])
    ⟨.little, 1024, 4096, false⟩ [] leftData twoMessages rfl rfl rfl
  exact ⟨_, rfl, hvalues, hcount⟩

end Intake
end JetSocket.Manager
