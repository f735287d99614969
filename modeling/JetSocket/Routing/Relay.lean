import JetSocket.Manager.Lifetime
import JetSocket.Routing.Faithful

/- A multiplexed connection over its WebSocket: from the bytes of a server to the subscriptions.

   The router is the one consumer of the WebSocket's queue: `__anext__` gives it a message, at once
   or when it is woken, and it routes the message before it asks for the next. Beside it the bytes
   come in, the message loop reads and handles frames, one connection follows another, and users
   subscribe, close and receive, in any order.

   What a subscription has heard is a part of the stream of messages without a gap, from the call of
   `subscribe` on and, while it is active, up to the last message that was routed: of this part the
   messages of its channel.

   What is proved:
     1. `heard_step` — one step of the router or a user keeps what was heard.
     2. `relaying_step` — one step of the whole keeps the stream together.
     3. `channels_served` — over every run: the messages that the servers were given go, up to where
        the message loop and the router have come, to the subscriptions of their channels, in
        order; a message that a subscription has heard is received or in its queue, unless the
        queue was full; and the rest was counted as unroutable. -/
namespace JetSocket.Routing
open JetSocket.Core JetSocket.Transport JetSocket.Manager Transition StatefulCodec

/-! ## What a subscription has heard -/

section Heard
variable {M K : Type} {t t' : Trace M K} {taken : List (Option M)}

/-- The message is for the channel. -/
def OnChannel (config : MultiplexConfig M K) [DecidableEq K] (channel : K) (message : Option M) :
    Bool :=
  config.channelExtractor message = .channel channel

theorem History.leave_arrived (h : History M) (fate : Fate) :
    (h.leave fate).arrived = h.arrived := by
  unfold History.leave
  split <;> rfl

theorem History.answer_arrived (h : History M) (answer : Answer M) :
    (h.answer answer).arrived = h.arrived := by
  cases answer with
  | returned message => exact h.leave_arrived .received
  | ended => exact h.leave_arrived .mistaken
  | waits | closed => rfl

theorem History.arrive_arrived (h : History M) (full : Bool) (length : Nat) (message : Option M) :
    (h.arrive full length message).arrived = h.arrived ++ [message] := by
  unfold History.arrive
  dsimp only
  split
  · exact History.leave_arrived _ _
  · rfl

variable [DecidableEq K]

/-- Of a part of the stream without a gap, the messages of the channel; while the subscription is
active the part goes on to the end. -/
def Heard (config : MultiplexConfig M K) (taken : List (Option M)) (s : Subscription M K)
    (arrived : List (Option M)) : Prop :=
  ∃ before during after, taken = before ++ during ++ after ∧
    arrived = during.filter (OnChannel config s.channel) ∧ (s.active = true → after = [])

variable {config : MultiplexConfig M K} {s s' : Subscription M K} {arrived : List (Option M)}

theorem heard_new (config : MultiplexConfig M K) (taken : List (Option M)) (channel : K) :
    Heard config taken (Subscription.new channel) [] :=
  ⟨taken, [], [], by rw [List.append_nil, List.append_nil], rfl, fun _ => rfl⟩

/-- The subscription goes on under its name, and is not woken up. -/
theorem Heard.kept (h : Heard config taken s arrived) (hchannel : s'.channel = s.channel)
    (hactive : s'.active = true → s.active = true) : Heard config taken s' arrived := by
  obtain ⟨before, during, after, htaken, harrived, hafter⟩ := h
  exact ⟨before, during, after, htaken, by rw [hchannel, harrived], hafter ∘ hactive⟩

/-- A message of its own. -/
theorem Heard.snoc (h : Heard config taken s arrived) (hactive : s.active = true)
    {message : Option M} (hchannel : config.channelExtractor message = .channel s.channel) :
    Heard config (taken ++ [message]) s (arrived ++ [message]) := by
  obtain ⟨before, during, after, htaken, harrived, hafter⟩ := h
  have hnone := hafter hactive
  refine ⟨before, during ++ [message], [], ?_, ?_, fun _ => rfl⟩
  · rw [htaken, hnone, List.append_nil, List.append_nil, List.append_assoc]
  · have hown : OnChannel config s.channel message = true := decide_eq_true hchannel
    rw [List.filter_append, ← harrived, List.filter_cons_of_pos hown, List.filter_nil]

/-- A message of another channel, or one that comes too late. -/
theorem Heard.pass (h : Heard config taken s arrived) {message : Option M}
    (hother : s.active = true → config.channelExtractor message ≠ .channel s.channel) :
    Heard config (taken ++ [message]) s arrived := by
  obtain ⟨before, during, after, htaken, harrived, hafter⟩ := h
  cases hactive : s.active with
  | true =>
    have hnone := hafter hactive
    have hnot : ¬ OnChannel config s.channel message = true := by
      unfold OnChannel
      rw [decide_eq_true_iff]
      exact hother hactive
    refine ⟨before, during ++ [message], [], ?_, ?_, fun _ => rfl⟩
    · rw [htaken, hnone, List.append_nil, List.append_nil, List.append_assoc]
    · rw [List.filter_append, ← harrived, List.filter_cons_of_neg hnot, List.filter_nil,
        List.append_nil]
  | false =>
    refine ⟨before, during, after ++ [message], ?_, harrived, fun hset => ?_⟩
    · rw [htaken, List.append_assoc]
    · exact absurd (hactive.symm.trans hset) Bool.false_ne_true

/-- Every subscription has heard its part. -/
def AllHeard (t : Trace M K) (taken : List (Option M)) : Prop :=
  ∀ i s, t.mux.created[i]? = some s → Heard t.mux.config taken s (t.histories i).arrived

/-- One subscription goes on, under its name; it is not woken up, and nothing arrives. -/
theorem AllHeard.set (h : AllHeard t taken) {i : Nat} {s : Subscription M K}
    (s' : Subscription M K) (hi : t.mux.created[i]? = some s) (hchannel : s'.channel = s.channel)
    (hactive : s'.active = true → s.active = true) {histories : Nat → History M}
    (harrived : ∀ j, (histories j).arrived = (t.histories j).arrived) (j : Nat)
    (u : Subscription M K) (hu : (t.mux.created.set i s')[j]? = some u) :
    Heard t.mux.config taken u (histories j).arrived := by
  rw [harrived j]
  rcases set_cases hi hu with ⟨rfl, rfl⟩ | ⟨-, hu⟩
  · exact (h j s hi).kept hchannel hactive
  · exact h j u hu

/-- The messages that a step takes in. -/
def Multiplex.Input.messages : Multiplex.Input M K → List (Option M)
  | .consume message => [message]
  | _ => []

omit [DecidableEq K] in
theorem messages_quiet {input : Multiplex.Input M K} (h : input.Quiet) : input.messages = [] := by
  cases input with
  | consume => exact h.elim
  | _ => rfl

omit [DecidableEq K] in
theorem answered_arrived (t : Trace M K) (i : Nat) (answer : Answer M) (j : Nat) :
    (Function.update t.histories i ((t.histories i).answer answer) j).arrived =
      (t.histories j).arrived := by
  by_cases hj : j = i
  · subst hj
    rw [Function.update_self]
    exact History.answer_arrived _ _
  · rw [Function.update_of_ne hj]

/-- **One step** keeps what was heard, the messages that it takes in included. -/
theorem heard_step (t : Trace M K) (input : Multiplex.Input M K) (t' : Trace M K) (h : Ready t)
    (hheard : AllHeard t taken) (hs : t.step input = some t') :
    AllHeard t' (taken ++ input.messages) := by
  obtain ⟨mux', hmux, rfl⟩ := Option.map_eq_some_iff.mp hs
  cases step_acts h.wired hmux with
  | died message hkeyed => exact absurd (h.keyed message) hkeyed
  | unrouted message hkeyed hnone =>
    intro j u hu
    have hlog : t.log (.consume message) j = t.histories j := by rw [log_unrouted hnone]
    show Heard t.mux.config _ u (t.log (.consume message) j).arrived
    rw [hlog]
    exact (hheard j u hu).pass (hnone j u hu)
  | routed message i s queue hr =>
    intro j u hu
    show Heard t.mux.config _ u (t.log (.consume message) j).arrived
    rw [hr.log]
    rcases set_cases hr.created hu with ⟨rfl, rfl⟩ | ⟨hne, hu⟩
    · rw [Function.update_self, History.arrive_arrived]
      have hown := (hheard j s hr.created).snoc hr.active hr.channel
      exact hown.kept rfl id
    · rw [Function.update_of_ne (Ne.symm hne)]
      exact (hheard j u hu).pass
        (fun hactive hchannel => hne (hr.only j u hu hactive hchannel).symm)
  | subscribed connected channel hnone =>
    intro j u hu
    show Heard t.mux.config (taken ++ []) u (t.histories j).arrived
    rw [List.append_nil]
    by_cases hlt : j < t.mux.created.length
    · rw [List.getElem?_append_left hlt] at hu
      exact hheard j u hu
    · rw [List.getElem?_append_right (by omega)] at hu
      rw [h.fresh j (by omega)]
      obtain rfl := List.mem_singleton.mp (List.mem_of_getElem? hu)
      exact heard_new _ taken channel
  | kept input hquiet =>
    rw [messages_quiet hquiet, List.append_nil]
    intro j u hu
    show Heard t.mux.config taken u (t.log input j).arrived
    rw [(log_quiet hquiet).1]
    exact hheard j u hu
  | closed input hquiet i s hi hsub =>
    rw [messages_quiet hquiet, List.append_nil]
    intro j u hu
    show Heard t.mux.config taken u (t.log input j).arrived
    rw [(log_quiet hquiet).1]
    exact hheard.set (s.signalled t.mux.config.maxsize) hi rfl (fun ha => by cases ha)
      (fun _ => rfl) j u hu
  | gaveUp i task s hi =>
    simp only [Multiplex.Input.messages, List.append_nil]
    exact hheard.set { s with queue := s.queue.giveUp task } hi rfl id (fun _ => rfl)
  | refused i task s hi hactive =>
    simp only [Multiplex.Input.messages, List.append_nil]
    intro j u hu
    show Heard t.mux.config taken u (t.log (.recv i task) j).arrived
    rw [log_refused hi hactive]
    exact hheard j u hu
  | received i task s hi hactive =>
    simp only [Multiplex.Input.messages, List.append_nil]
    obtain ⟨-, hchannel, hkept, -⟩ := took_bounded (AsyncQueue.get_pops s.queue task)
    refine hheard.set _ hi hchannel hkept (fun j => ?_)
    rw [log_received hi hactive]
    exact answered_arrived t i _ j
  | resumed i task s hi =>
    simp only [Multiplex.Input.messages, List.append_nil]
    obtain ⟨-, hchannel, hkept, -⟩ := took_bounded (AsyncQueue.resume_pops s.queue task)
    refine hheard.set _ hi hchannel hkept (fun j => ?_)
    rw [log_resumed hi]
    exact answered_arrived t i _ j

end Heard

/-! ## Over a WebSocket -/

/-- A consumer of the WebSocket's queue moves. -/
def consumes {Z : Zlib} {α σ : Type} : Lifetime.Input Z α σ → Bool
  | .within (.get _) | .within (.wake _) | .within (.giveUp _) => true
  | _ => false

theorem step_taken {Z : Zlib} {α σ : Type} [DecidableEq σ] {handlers : HandlerOutcomes α}
    {config : TransportConfig} {s s' : Lifetime Z α σ} {i : Lifetime.Input Z α σ}
    (hi : consumes i = false) (hs : s.step handlers config i = some s') :
    s'.now.intake.taken = s.now.intake.taken := by
  cases i with
  | reconnect request heartbeat replayer =>
    simp only [Lifetime.step] at hs
    split at hs <;> cases hs
    rfl
  | within i =>
    obtain ⟨intake, hintake, rfl⟩ := Option.map_eq_some_iff.mp hs
    clear hs
    show intake.taken = s.now.intake.taken
    cases i with
    | network i =>
      cases i with
      | dataReceived | connectionLost | finishConnect =>
        simp only [Intake.step] at hintake
        obtain ⟨c, -, rfl⟩ := Option.map_eq_some_iff.mp hintake
        rfl
      | recv | resume | timeout => cases hintake
    | connected =>
      simp only [Intake.step] at hintake
      split at hintake <;> cases hintake
      rfl
    | recv key | resume key | readTimeout =>
      simp only [Intake.step] at hintake
      split at hintake
      · obtain ⟨r, -, rfl⟩ := Option.map_eq_some_iff.mp hintake
        rfl
      · cases hintake
    | handle now deserialized matched =>
      simp only [Intake.step] at hintake
      split at hintake <;> cases hintake
      rfl
    | leave =>
      cases hintake
      rfl
    | ping payload key =>
      simp only [Intake.step] at hintake
      split at hintake <;> cases hintake <;> rfl
    | get | wake | giveUp => cases hi

/-- The WebSocket, with its connections, and the multiplexed connection over it. -/
structure Relay (Z : Zlib) (α σ K : Type) where
  life : Lifetime Z α σ
  trace : Trace α K

namespace Relay
variable {Z : Zlib} {α σ K : Type} [DecidableEq K]

/-- What can happen next. The router is task 0 of the WebSocket's queue. -/
inductive Input (Z : Zlib) (α σ K : Type) where
  | below (i : Lifetime.Input Z α σ)
  | next
  | wake
  | call (i : Multiplex.Input α K)

/-- The handshake has begun, and there are no subscriptions. -/
def start (Z : Zlib) (config : TransportConfig) (request : Bytes) (data : LoopData α σ)
    (muxConfig : MultiplexConfig α K) : Relay Z α σ K :=
  { life := Lifetime.start Z config request data, trace := Trace.new muxConfig }

/-- The messages that the router has taken. -/
def taken (s : Relay Z α σ K) : List (Option α) := s.life.now.intake.taken

/-- The WebSocket's queue. -/
def queue (s : Relay Z α σ K) : AsyncQueue (Option α) := s.life.now.intake.queue

variable [DecidableEq σ]

/-- `__anext__` goes on to `life`, with its answer: it has waited, or given the router a message,
which is routed. -/
def answered (s : Relay Z α σ K) (life : Lifetime Z α σ) :
    Option (Option α) → Option (Relay Z α σ K)
  | none => some { s with life }
  | some message => (s.trace.step (.consume message)).map (fun trace => { life, trace })

def step (handlers : HandlerOutcomes α) (config : TransportConfig) (s : Relay Z α σ K) :
    Input Z α σ K → Option (Relay Z α σ K)
  | .below i =>
    if consumes i then none
    else (s.life.step handlers config i).map (fun life => { s with life })
  | .next =>
    if s.trace.mux.routing then
      (s.life.step handlers config (.within (.get 0))).bind
        (fun life => s.answered life (s.queue.get 0).2)
    else none
  | .wake =>
    (s.life.step handlers config (.within (.wake 0))).bind
      (fun life => s.answered life (s.queue.resume 0).2)
  | .call i =>
    match i with
    | .consume _ => none
    | i => (s.trace.step i).map (fun trace => { s with trace })

/-- No call of `recv` takes a `null` from the queue of a subscription. -/
def Careful (s : Relay Z α σ K) : Input Z α σ K → Prop
  | .call i => NoNull s.trace i
  | _ => True

omit [DecidableEq K] [DecidableEq σ] in
instance [DecidableEq α] (s : Relay Z α σ K) : ∀ i, Decidable (s.Careful i)
  | .call i =>
    match i with
    | .recv i _ =>
      inferInstanceAs (Decidable (∀ u ∈ s.trace.mux.created[i]?, u.active = true → ¬ _))
    | .resume i _ => inferInstanceAs (Decidable (¬ (s.trace.histories i).NullFirst))
    | .consume _ | .subscribe _ _ | .unsubscribe _ | .close _ | .giveUp _ _ => isTrue trivial
  | .below _ | .next | .wake => isTrue trivial

/-- The invariant of runs. -/
structure Relaying (config : TransportConfig) (d₀ : LoopData α σ) (s : Relay Z α σ K) :
    Prop where
  living : Lifetime.Living config d₀ s.life
  ready : Ready s.trace
  faithful : Faithful s.trace
  heard : AllHeard s.trace s.taken
  consumed : s.trace.consumed = s.taken.length

variable {handlers : HandlerOutcomes α} {config : TransportConfig} {d₀ : LoopData α σ}
  {s s' : Relay Z α σ K}

omit [DecidableEq σ] in
/-- **The router** has its answer. -/
theorem Relaying.answered (h : Relaying config d₀ s) {life : Lifetime Z α σ}
    {value : Option (Option α)} (hliving : Lifetime.Living config d₀ life)
    (htaken : life.now.intake.taken = s.taken ++ value.toList)
    (hs : s.answered life value = some s') : Relaying config d₀ s' := by
  cases value with
  | none =>
    cases hs
    have hsame : life.now.intake.taken = s.taken := htaken.trans (List.append_nil _)
    refine ⟨hliving, h.ready, h.faithful, ?_, ?_⟩
    · show AllHeard s.trace life.now.intake.taken
      rw [hsame]
      exact h.heard
    · show s.trace.consumed = life.now.intake.taken.length
      rw [hsame]
      exact h.consumed
  | some message =>
    obtain ⟨trace, hstep, rfl⟩ := Option.map_eq_some_iff.mp hs
    refine ⟨hliving, ready_step _ _ _ h.ready hstep,
      (faithful_step_iff _ _ _ h.ready h.faithful hstep).mpr trivial, ?_, ?_⟩
    · show AllHeard trace life.now.intake.taken
      rw [htaken]
      exact heard_step _ _ _ h.ready h.heard hstep
    · obtain ⟨mux, -, rfl⟩ := Option.map_eq_some_iff.mp hstep
      show s.trace.consumed + 1 = life.now.intake.taken.length
      rw [htaken, h.consumed, List.length_append]
      rfl

/-- **One step** keeps the stream together. -/
theorem relaying_step (handlers : HandlerOutcomes α) (s : Relay Z α σ K) (i : Input Z α σ K)
    (s' : Relay Z α σ K) (h : Relaying config d₀ s) (hcare : s.Careful i)
    (hs : s.step handlers config i = some s') : Relaying config d₀ s' := by
  cases i with
  | below i =>
    simp only [step] at hs
    split at hs
    · cases hs
    · rename_i hi
      obtain ⟨life, hlife, rfl⟩ := Option.map_eq_some_iff.mp hs
      have htaken : life.now.intake.taken = s.taken :=
        step_taken (eq_false_of_ne_true hi) hlife
      refine ⟨Lifetime.living_step handlers _ _ _ h.living hlife, h.ready, h.faithful, ?_, ?_⟩
      · show AllHeard s.trace life.now.intake.taken
        rw [htaken]
        exact h.heard
      · show s.trace.consumed = life.now.intake.taken.length
        rw [htaken]
        exact h.consumed
  | next =>
    simp only [step] at hs
    split at hs
    · obtain ⟨life, hlife, hs⟩ := Option.bind_eq_some_iff.mp hs
      refine h.answered (Lifetime.living_step handlers _ _ _ h.living hlife) ?_ hs
      simp only [Lifetime.step, Intake.step] at hlife
      split at hlife <;> cases hlife
      rfl
    · cases hs
  | wake =>
    obtain ⟨life, hlife, hs⟩ := Option.bind_eq_some_iff.mp hs
    refine h.answered (Lifetime.living_step handlers _ _ _ h.living hlife) ?_ hs
    simp only [Lifetime.step, Intake.step] at hlife
    split at hlife <;> cases hlife
    rfl
  | call i =>
    have hcall : i.messages = [] ∧
        (s.trace.step i).map (fun trace => { s with trace }) = some s' := by
      cases i with
      | consume => cases hs
      | _ => exact ⟨rfl, hs⟩
    obtain ⟨hnone, hcall⟩ := hcall
    obtain ⟨trace, hstep, rfl⟩ := Option.map_eq_some_iff.mp hcall
    have hheard := heard_step _ _ _ h.ready h.heard hstep
    rw [hnone, List.append_nil] at hheard
    refine ⟨h.living, ready_step _ _ _ h.ready hstep,
      (faithful_step_iff _ _ _ h.ready h.faithful hstep).mpr hcare, hheard, ?_⟩
    show trace.consumed = s.taken.length
    rw [← h.consumed]
    obtain ⟨mux, -, rfl⟩ := Option.map_eq_some_iff.mp hstep
    cases i with
    | consume => cases hs
    | _ => rfl

omit [DecidableEq σ] in
theorem relaying_start (config : TransportConfig) (request : Bytes) (d₀ : LoopData α σ)
    (extract : Option α → Option K) (queueSize : Int) :
    Relaying config d₀ (start Z config request d₀ (totalConfig extract queueSize)) where
  living := Lifetime.living_start config request d₀
  ready := ⟨wired_new _, rfl, totalConfig_keyed extract queueSize, fun _ _ => rfl⟩
  faithful := ⟨rfl, fun _ _ h => (by cases h), fun _ _ h => (by cases h), rfl⟩
  heard _ _ h := (by cases h)
  consumed := rfl

/-- **From the servers to the subscriptions**, over any number of connections. The router takes the
values of the connections, one after the other, and of each connection they are of the messages
that its server was given. The router has counted what it has taken. Each subscription has heard
its channel, from `subscribe` on without a gap; of what it has heard, in order, everything was
received or is in its queue that did not make room where the queue was full. -/
theorem channels_served {Z : ZlibModule} (hz : Z.SyncFlushed) (handlers : HandlerOutcomes α)
    (config : TransportConfig) (request : Bytes) (d₀ : LoopData α σ)
    (extract : Option α → Option K) (queueSize : Int) (run : List (Input Z.toZlib α σ K))
    {s : Relay Z.toZlib α σ K}
    (hrun : exec (step handlers config)
      (start Z.toZlib config request d₀ (totalConfig extract queueSize)) run = some s)
    (hcare : Meets (step handlers config) Careful
      (start Z.toZlib config request d₀ (totalConfig extract queueSize)) run) :
    s.taken ++ s.queue.items =
        d₀.messageQueue ++ s.life.episodes.flatMap Episode.values ∧
      s.life.Served config ∧
      s.trace.mux.totalMessagesRouted + s.trace.mux.unroutableMessages = s.taken.length ∧
      ∀ i u, s.trace.mux.created[i]? = some u →
        Heard s.trace.mux.config s.taken u (s.trace.histories i).arrived ∧
          Served s.trace.mux.config.maxsize u (s.trace.histories i) := by
  have hinv : Relaying config d₀ s :=
    (always_of_meets (I := Relaying config d₀) (relaying_step handlers)
      (relaying_start config request d₀ extract queueSize) hcare).last hrun
  refine ⟨hinv.living.queue, hinv.living.served hz, ?_, fun i u hu => ?_⟩
  · rw [hinv.faithful.counted, hinv.consumed]
  · exact ⟨hinv.heard i u hu, hinv.faithful.served i u hu⟩

/-- A WebSocket with nothing behind it. -/
def unusedData : LoopData Bytes Unit :=
  { heartbeat := none, replayer := Replayer.new none none, messageQueue := [], messagesReceived := 0
    bytesReceived := 0, emitted := [], dropped := [] }

/-- The first byte of a message is its channel. -/
def firstByte (message : Option Bytes) : Option UInt8 := message.bind List.head?

/-- Bytes arrive. -/
def receives (data : Bytes) : Input smallZlib.toZlib Bytes Unit UInt8 :=
  .below (.within (.network (.dataReceived data (fun _ => ⟨0, 0, 0, 0⟩))))

/-- The handshake ends, and the message loop begins. -/
def connects : List (Input smallZlib.toZlib Bytes Unit UInt8) :=
  [.below (.within (.network (.finishConnect none (fun _ => ⟨0, 0, 0, 0⟩)))),
    .below (.within .connected), .below (.within (.recv ⟨0, 0, 0, 0⟩))]

/-- The message loop handles a frame with this payload. -/
def handles (payload : Bytes) : Input smallZlib.toZlib Bytes Unit UInt8 :=
  .below (.within (.handle 0 (.ok (some payload)) (.ok false)))

/-- "a1" and "b" arrive, and on a second connection "a2". The router waits for the first of them,
and so does a call of `recv` on the channel of "a". -/
def relayRun : List (Input smallZlib.toZlib Bytes Unit UInt8) :=
  [receives (headerEnd ++ [0x81, 0x02, 0x61]), .call (.subscribe true 0x61), .next,
    .call (.recv 0 7)] ++ connects ++
  [receives [0x31, 0x81, 0x01, 0x62, 0x81], .below (.within (.resume ⟨0, 0, 0, 0⟩)),
    handles [0x61, 0x31], .wake, .call (.resume 0 7), .below (.within (.recv ⟨0, 0, 0, 0⟩)),
    handles [0x62], .below (.within .leave),
    .below (.reconnect [] none (Replayer.new none none)),
    receives (headerEnd ++ [0x81, 0x02, 0x61, 0x32])] ++ connects ++
  [handles [0x61, 0x32], .next, .next]

theorem channels_served_twice :
    ∃ s, exec (step (fun _ _ => []) ⟨.little, 1024, 4096, false⟩)
        (start smallZlib.toZlib ⟨.little, 1024, 4096, false⟩ [] unusedData
          (totalConfig firstByte 1)) relayRun = some s ∧
      s.trace.mux.totalMessagesRouted + s.trace.mux.unroutableMessages = 3 ∧
      ∃ u, s.trace.mux.created[0]? = some u ∧
        Heard s.trace.mux.config [some [0x61, 0x31], some [0x62], some [0x61, 0x32]] u
          [some [0x61, 0x31], some [0x61, 0x32]] := by
  obtain ⟨-, -, hcounted, hserved⟩ := channels_served smallZlib_syncFlushed (fun _ _ => [])
    ⟨.little, 1024, 4096, false⟩ [] unusedData firstByte 1 relayRun rfl (by decide)
  exact ⟨_, rfl, hcounted, _, rfl, (hserved 0 _ rfl).1⟩

end Relay
end JetSocket.Routing
