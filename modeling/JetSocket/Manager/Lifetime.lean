import JetSocket.Manager.Inbound

/- What a `WebSocket` receives over its whole life, connection after connection.

   `_connect_internal` makes a new transport and, behind the replay, a new heartbeat and a new
   message loop. The queue and the counters stay, and so do the calls of `recv` and `__anext__` that
   wait. `Lifetime` has the connection there is and those there were, each as its message loop left
   it; a connection is made once the loop of the one before is over.

   What is proved:
     1. `living_step` — one step keeps each connection's account, and the order of the values.
     2. `lifetime_received` — over every life: the values taken and those in the queue are those of
        the first connection, then those of the second, and so on; of each connection they are the
        messages that its server was given, from the first on and before the Close frame; and
        `messages_received` counts them. -/
namespace JetSocket.Manager
open JetSocket.Core JetSocket.Transport Transition StatefulCodec

/-! ## A life -/

/-- A connection, with what the loop found when it began. -/
structure Episode (Z : Zlib) (α σ : Type) where
  base : LoopData α σ
  intake : Intake Z α σ

namespace Episode
variable {Z : Zlib} {α σ : Type}

/-- The values of the messages. -/
def values (e : Episode Z α σ) : List (Option α) :=
  e.intake.arrivals.filterMap (fun a => (a.route e.base.matching).value)

/-- Nothing is left below the message loop. -/
def Drained (e : Episode Z α σ) : Prop :=
  (e.intake.stage = .ready ∨ e.intake.stage = .receiving) ∧
    e.intake.connection.transport.conn.proto.frames = []

end Episode

/-- The connections there were, and the one there is. -/
structure Lifetime (Z : Zlib) (α σ : Type) where
  past : List (Episode Z α σ)
  now : Episode Z α σ

namespace Lifetime
variable {Z : Zlib} {α σ : Type}

/-- What can happen next: in the connection, or a new one with its handshake begun; the heartbeat is
new, and the replay has changed the buffer. -/
inductive Input (Z : Zlib) (α σ : Type) where
  | within (i : Intake.Input Z α)
  | reconnect (request : Bytes) (heartbeat : Option (HeartbeatManager (Option α)))
      (replayer : Replayer α σ)

/-- The first connection. -/
def start (Z : Zlib) (config : TransportConfig) (request : Bytes) (data : LoopData α σ) :
    Lifetime Z α σ :=
  { past := [], now := { base := data, intake := Intake.start Z config request data } }

/-- A new connection: the queue and those who wait on it stay. -/
def reopened (config : TransportConfig) (request : Bytes) (data : LoopData α σ)
    (s : Intake Z α σ) : Episode Z α σ :=
  { base := data
    intake := { Intake.start Z config request data with queue := s.queue, taken := s.taken } }

variable [DecidableEq σ]

def step (handlers : HandlerOutcomes α) (config : TransportConfig) (s : Lifetime Z α σ) :
    Input Z α σ → Option (Lifetime Z α σ)
  | .within i =>
    (s.now.intake.step handlers i).map (fun intake => { s with now := { s.now with intake } })
  | .reconnect request heartbeat replayer =>
    if s.now.intake.stage = .over then
      some { past := s.past ++ [s.now]
             now := reopened config request { s.now.intake.data with heartbeat, replayer }
               s.now.intake }
    else none

/-- The connections, in their order. -/
def episodes (s : Lifetime Z α σ) : List (Episode Z α σ) := s.past ++ [s.now]

/-- The invariant of lives. -/
structure Living (config : TransportConfig) (d₀ : LoopData α σ) (s : Lifetime Z α σ) : Prop where
  flowing : ∀ e ∈ s.episodes, ∃ request, Intake.Flowing config request e.base e.intake
  queued : s.now.base.messageQueue = d₀.messageQueue ++ s.past.flatMap Episode.values
  counted : s.now.base.messagesReceived =
    d₀.messagesReceived + (s.past.flatMap Episode.values).length

variable {handlers : HandlerOutcomes α} {config : TransportConfig} {d₀ : LoopData α σ}
  {s s' : Lifetime Z α σ}

omit [DecidableEq σ] in
/-- The connection has come to an end: its values are behind those of the others. -/
theorem Living.values (h : Living config d₀ s) :
    s.now.intake.data.messageQueue = d₀.messageQueue ++ s.episodes.flatMap Episode.values ∧
      s.now.intake.data.messagesReceived =
        d₀.messagesReceived + (s.episodes.flatMap Episode.values).length := by
  obtain ⟨request, hflowing⟩ := h.flowing s.now (List.mem_append_right _ List.mem_cons_self)
  obtain ⟨bytes, failures, hadds⟩ := hflowing.adds
  have hvalues : s.episodes.flatMap Episode.values =
      s.past.flatMap Episode.values ++ s.now.values := by
    unfold episodes
    rw [List.flatMap_append, List.flatMap_singleton]
  rw [hvalues]
  constructor
  · rw [hadds.messageQueue, h.queued, List.append_assoc]
    rfl
  · rw [hadds.messagesReceived, h.counted, List.length_append, Nat.add_assoc]
    rfl

/-- **One step** keeps the accounts. -/
theorem living_step (handlers : HandlerOutcomes α) (s : Lifetime Z α σ) (i : Input Z α σ)
    (s' : Lifetime Z α σ) (h : Living config d₀ s) (hs : s.step handlers config i = some s') :
    Living config d₀ s' := by
  obtain ⟨request, hflowing⟩ := h.flowing s.now (List.mem_append_right _ List.mem_cons_self)
  have hpast : ∀ e ∈ s.past, ∃ request, Intake.Flowing config request e.base e.intake :=
    fun e he => h.flowing e (List.mem_append_left _ he)
  cases i with
  | within i =>
    obtain ⟨intake, hintake, rfl⟩ := Option.map_eq_some_iff.mp hs
    refine ⟨fun e he => ?_, h.queued, h.counted⟩
    rcases List.mem_append.mp he with he | he
    · exact hpast e he
    · rw [List.mem_singleton.mp he]
      exact ⟨request, Intake.flowing_step handlers _ _ _ hflowing hintake⟩
  | reconnect request' heartbeat replayer =>
    simp only [step] at hs
    split at hs
    · cases hs
      obtain ⟨hvalues, hcount⟩ := h.values
      refine ⟨fun e he => ?_, hvalues, hcount⟩
      rcases List.mem_append.mp he with he | he
      · exact h.flowing e he
      · rw [List.mem_singleton.mp he]
        refine ⟨request', orderly_start Z config request', List.prefix_rfl, fun _ => rfl, ?_,
          hflowing.queue⟩
        exact ⟨0, 0, .nothing rfl rfl rfl rfl rfl⟩
    · cases hs

omit [DecidableEq σ] in
theorem living_start (config : TransportConfig) (request : Bytes) (d₀ : LoopData α σ) :
    Living config d₀ (start Z config request d₀) where
  flowing e he := by
    rw [List.mem_singleton.mp he]
    exact ⟨request, Intake.flowing_start config request d₀⟩
  queued := (List.append_nil _).symm
  counted := rfl

/-- Of each connection the message loop has gone through messages that its server was given. -/
def Served {Z : ZlibModule} (config : TransportConfig) (s : Lifetime Z.toZlib α σ) : Prop :=
  ∀ e ∈ s.episodes, ∀ server : Intake.Server config e.intake.connection,
    contents (e.intake.arrivals.map Arrival.frame) <+: server.messages ∧
      (e.Drained → server.Done →
        contents (e.intake.arrivals.map Arrival.frame) = server.messages)

omit [DecidableEq σ] in
theorem Living.queue (h : Living config d₀ s) :
    s.now.intake.taken ++ s.now.intake.queue.items =
      d₀.messageQueue ++ s.episodes.flatMap Episode.values := by
  obtain ⟨request, hflowing⟩ := h.flowing s.now (List.mem_append_right _ List.mem_cons_self)
  rw [hflowing.queue, h.values.1]

omit [DecidableEq σ] in
theorem Living.served {Z : ZlibModule} (hz : Z.SyncFlushed) {s : Lifetime Z.toZlib α σ}
    (h : Living config d₀ s) : s.Served config := by
  intro e he server
  obtain ⟨request, hflowing⟩ := h.flowing e he
  obtain ⟨hfirst, hall⟩ := hflowing.arrivals_given hz server
  exact ⟨hfirst, fun hdrained hdone => hall hdrained.1 hdrained.2 hdone⟩

/-- **What is received over a life.** The values taken and those in the queue are those of the
connections, one after the other; they are counted; and each connection's are of the messages that
its server was given. -/
theorem lifetime_received {Z : ZlibModule} (hz : Z.SyncFlushed) (handlers : HandlerOutcomes α)
    (config : TransportConfig) (request : Bytes) (d₀ : LoopData α σ)
    (run : List (Input Z.toZlib α σ)) {s : Lifetime Z.toZlib α σ}
    (hrun : exec (step handlers config) (start Z.toZlib config request d₀) run = some s) :
    s.now.intake.taken ++ s.now.intake.queue.items =
        d₀.messageQueue ++ s.episodes.flatMap Episode.values ∧
      s.now.intake.data.messagesReceived =
        d₀.messagesReceived + (s.episodes.flatMap Episode.values).length ∧
      s.Served config := by
  have hinv : Living config d₀ s :=
    exec_invariant (living_step handlers) (living_start config request d₀) hrun
  exact ⟨hinv.queue, hinv.values.2, hinv.served hz⟩

/-- A text message that the server compresses, a PING, a fragment that it does not compress, and a
Close frame. -/
def served : List Given :=
  [⟨{ opcode := .text, payload := hello }, true⟩, ⟨{ opcode := .ping, payload := [] }, false⟩,
    ⟨{ opcode := .binary, payload := [0x61], fin := false }, false⟩,
    ⟨{ opcode := .close, payload := [] }, false⟩]

/-- The server's settings: none but the defaults. -/
def settings : DeflateParams := {}

/-- The deflater that `connect` makes with them. -/
def settingsDeflater : Deflater smallZlib.toZlib :=
  { clientNoContextTakeover := false, serverNoContextTakeover := false
    clientMaxWindowBits := 15, serverMaxWindowBits := 15, decompressor := () }

/-- In a connection. -/
def withins (is : List (Intake.Input smallZlib.toZlib Bytes)) :
    List (Input smallZlib.toZlib Bytes Unit) := is.map .within

/-- A byte of the first server's Close frame is still to come when the connection is lost. Two of
the calls of `recv` wait; the second of them gets "b", from the second connection. -/
def twoLives : List (Input smallZlib.toZlib Bytes Unit) :=
  withins [.network (.dataReceived (headerEnd ++ [0xC1, 0x07, 0xF2, 0x48, 0xCD, 0xC9])
      (fun _ => ⟨0, 0, 0, 0⟩)),
    .network (.finishConnect (some settingsDeflater) (fun _ => ⟨0, 0, 0, 0⟩)), .connected,
    .recv ⟨0, 0, 0, 0⟩, .get 1, .get 1,
    .network (.dataReceived [0xC9, 0x07, 0x00, 0x89, 0x00, 0x02, 0x01, 0x61, 0x88]
      (fun _ => ⟨0, 0, 0, 0⟩)),
    .resume ⟨0, 0, 0, 0⟩, .handle 0 (.ok (some hello)) (.ok false), .wake 1,
    .recv ⟨0, 0, 0, 0⟩, .handle 0 (.ok (some [0x61])) (.ok false), .get 1, .get 1, .get 2,
    .recv ⟨0, 0, 0, 0⟩, .network (.connectionLost none), .resume ⟨0, 0, 0, 0⟩] ++
  [.reconnect [] none (Replayer.new none none)] ++
  withins [.network (.dataReceived (headerEnd ++ [0x81, 0x01, 0x62]) (fun _ => ⟨0, 0, 0, 0⟩)),
    .network (.finishConnect none (fun _ => ⟨0, 0, 0, 0⟩)), .connected,
    .recv ⟨0, 0, 0, 0⟩, .handle 0 (.ok (some [0x62])) (.ok false), .giveUp 1, .wake 2]

theorem lifetime_received_twice :
    ∃ s, exec (step (fun _ _ => []) ⟨.little, 1024, 4096, false⟩)
        (start smallZlib.toZlib ⟨.little, 1024, 4096, false⟩ [] Intake.leftData) twoLives =
          some s ∧
      s.now.intake.taken ++ s.now.intake.queue.items =
        [some [0x78], some hello, some [0x61], some [0x62]] ∧
      s.now.intake.data.messagesReceived = 4 ∧
      ∃ e ∈ s.episodes, contents (e.intake.arrivals.map Arrival.frame) <+:
        [(.text, hello, true), (.binary, [0x61], false)] := by
  -- what the first server was given, as frames on the wire
  let wire : List (WireFrame 1024) :=
    [⟨.text, [0xF2, 0x48, 0xCD, 0xC9, 0xC9, 0x07, 0x00], true, true, none, by decide, fun _ => rfl,
        fun _ => by decide, by decide⟩,
      ⟨.ping, [], true, false, none, by decide, fun _ => rfl, fun _ => by decide, by decide⟩,
      ⟨.binary, [0x61], false, false, none, by decide, fun h => absurd h (by decide),
        fun _ => by decide, by decide⟩,
      ⟨.close, [], true, false, none, by decide, fun _ => rfl, fun _ => by decide, by decide⟩]
  obtain ⟨hvalues, hcount, hserved⟩ := lifetime_received smallZlib_syncFlushed (fun _ _ => [])
    ⟨.little, 1024, 4096, false⟩ [] Intake.leftData twoLives rfl
  obtain ⟨hfirst, -⟩ := hserved _ List.mem_cons_self ⟨some settings, served,
    FrameParser.new .big 1024 4096, wire, by exact rfl, by decide, rfl, ⟨[0x00], by rfl⟩⟩
  exact ⟨_, rfl, hvalues, hcount, _, List.mem_cons_self, hfirst⟩

end Lifetime
end JetSocket.Manager
