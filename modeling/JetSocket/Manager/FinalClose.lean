import JetSocket.Manager.OneConnection
import JetSocket.Manager.Wiring

/- What is left when `close` has returned.

   From the first call of `close` on, every coroutine is in one of four places: it rests,
   and will set no state any more; it is the message loop, which `close` waits for; it is a
   `close`; or it is in `_connect_internal`, which is where a `close` can be overtaken.
   `Closing` is the invariant from that call on, `Final` the one from its return on.

   Results:
     `close_final`     — in a run whose steps are all `Patient`, a `close` that has returned
                         is final. As everywhere over `Client.step`, no handler awaits `close`.
     `close_overtaken` — a `close` beside a `connect` that is still connecting is not: its
                         socket opens behind it. -/
namespace JetSocket.Manager
open JetSocket.Transport TaskPool Transition

/-- Where a coroutine is, once the user has closed. -/
inductive Place where
  /-- It sets no state any more. -/
  | rests
  /-- It reads the connection, gives it up, or schedules an attempt. -/
  | follows
  /-- It is in `_connect_internal`, and may come to have a connection. -/
  | attempts
  /-- It is a `close`, in the handlers of `closing`, -/
  | announces
  /-- or behind them, before CLOSED. -/
  | closes
  deriving DecidableEq

namespace Point

def place : Point → Place
  | .exhaustedState | .exhaustedEmit | .failedState _ | .backingOffState _ | .sleeping _
  | .closedState _ | .closedEmit | .closedByUserState _ | .closedByUserEmit | .beatSleep | .pingEmit
  | .awaitingPong | .timeoutEmit | .ageSleep | .ageEmit | .done _ => .rests
  | .errorEmit _ | .reconnectingState | .reconnectingEmit _ | .stoppingHeartbeat _ _
  | .cancellingAge _ _ | .disconnectedState _ | .disconnectedEmit _ | .loopStart | .receiving _
  | .handling _ _ | .fatalErrorEmit _ => .follows
  | .connectingState | .connectingEmit | .opening _ | .handshaking _ | .reconnectedEmit
  | .connectedState _ | .connectedEmit _ | .replaying => .attempts
  | .closingEmit _ => .announces
  | .disconnectingState _ | .closeStopping _ _ | .closeCancellingAge _ _ | .callingTransport _ _
  | .closingTransport _ _ | .closeAwaitingMessage _ _ => .closes

/-- The coroutine is a `close`, before CLOSED. -/
def inClose (p : Point) : Bool := p.place = .announces || p.place = .closes

theorem rests_of_not {p : Point} (ha : p.place ≠ .attempts) (hf : p.place ≠ .follows)
    (hn : p.place ≠ .announces) (hc : p.place ≠ .closes) : p.place = .rests := by
  cases h : p.place with
  | rests => rfl
  | attempts => exact (ha h).elim
  | follows => exact (hf h).elim
  | announces => exact (hn h).elim
  | closes => exact (hc h).elim

end Point

/-- A new connection is announced. -/
def Event.announces : Event → Bool
  | .connected | .reconnected _ => true
  | _ => false

/-- Since then, no connection was announced. -/
def Adds (w w' : WebSocket) : Prop :=
  ∃ es, w'.emitted = w.emitted ++ es ∧ ∀ e ∈ es, e.announces = false

/-- Every open socket is the one `close` will shut. -/
def Attended (w : WebSocket) : Prop :=
  ∀ l, w.isOpen l = true → w.transport = some l ∧ w.isConnected l = true ∧ w.isClosing l = false

/-! ## The condition and the property -/

/-- A call of `close` that will be final: the client has not failed, no coroutine is in
`_connect_internal`, one that gives a connection up is the message loop that `close` waits
for, and the socket is one that `close` will shut. Another `close` may be under way only
when no socket is open. -/
structure Closable (c : Client) : Prop where
  notFailed : c.shared.state ≠ .failed
  noAttempt : ∀ (k : Nat) (t : AsyncTask), c.tasks[k]? = some t → t.point.place ≠ .attempts
  loop : ∀ (k : Nat) (t : AsyncTask), c.tasks[k]? = some t → t.point.place = .follows →
    t.kind = .messageLoop ∧ c.shared.messageTask = some k
  attended : Attended c.shared
  others : (∀ (k : Nat) (t : AsyncTask), c.tasks[k]? = some t → t.point.inClose = false) ∨
    (Clear c.shared ∧ c.shared.state ≠ .connected ∧
      ∀ (k : Nat) (t : AsyncTask), c.tasks[k]? = some t → t.point.place ≠ .announces)
  closed : c.shared.state = .closed → Clear c.shared ∧
    ∀ (k : Nat) (t : AsyncTask), c.tasks[k]? = some t → t.point.place ≠ .follows

/-- The steps that leave a `close` its effect. Once the user has closed, `connect` is not
called where it is allowed, and no heartbeat timeout or age limit is acted on; and
`close_timeout` does not cut `transport.close` off before the socket is shut. -/
def Patient (c : Client) : Action → Prop
  | .close _ => Closable c
  | .connect => c.shared.userClosed = true →
      c.shared.state ≠ .idle ∧ c.shared.state ≠ .disconnected
  | .resume k => ∀ t, c.tasks[k]? = some t → t.cancelled = false →
      t.point = .timeoutEmit ∨ t.point = .ageEmit → c.shared.userClosed = false
  | .closeCut k => ∀ t args l, c.tasks[k]? = some t → t.point = .closingTransport args l →
      c.shared.isOpen l = false
  | _ => True

/-- A call of `close` has returned. -/
def Returned (c : Client) : Prop :=
  ∃ (k : Nat) (t : AsyncTask), c.tasks[k]? = some t ∧ t.kind = .close ∧ t.point = .done false

/-- Nothing has come back since `c`. -/
structure Over (c c' : Client) : Prop where
  closed : c'.shared.state = .closed
  shut : Clear c'.shared
  silent : Adds c.shared c'.shared

/-! ## Moves -/

section Moves
variable {w w' : WebSocket} {k : Nat} {m : Move}

theorem Adds.refl : Adds w w := ⟨[], by simp, by simp⟩

theorem Adds.trans {w'' : WebSocket} (h : Adds w w') (h' : Adds w' w'') : Adds w w'' := by
  obtain ⟨es, he, hes⟩ := h
  obtain ⟨es', he', hes'⟩ := h'
  refine ⟨es ++ es', by rw [he', he, List.append_assoc], fun e hm => ?_⟩
  exact (List.mem_append.mp hm).elim (hes e) (hes' e)

theorem Adds.log {e : Event} (he : e.announces = false) : Adds w (w.log e) :=
  ⟨[e], rfl, fun x hx => by rw [List.mem_singleton.mp hx]; exact he⟩

/-- Nothing new in the log. -/
theorem Adds.of_eq (h : w'.emitted = w.emitted) : Adds w w' := ⟨[], by simp [h], by simp⟩

/-- No socket is opened, and the user has closed. -/
structure Frame (w w' : WebSocket) : Prop where
  userClosed : w'.userClosed = w.userClosed
  isOpen : ∀ l, w'.isOpen l = true → w.isOpen l = true

/-- What the coroutines other than `close` do: they leave an open socket to it. -/
structure Tends (w w' : WebSocket) : Prop extends Frame w w' where
  messageTask : w'.messageTask = w.messageTask
  transport : w'.transport = w.transport
  attended : ∀ l, w'.isOpen l = true → (w.isConnected l = true → w'.isConnected l = true) ∧
    (w.isClosing l = false → w'.isClosing l = false)

theorem Frame.clear (h : Frame w w') (hc : Clear w) : Clear w' := by
  intro l
  by_contra hl
  rw [Bool.not_eq_false] at hl
  have hopen := h.isOpen l hl
  rw [hc l] at hopen
  cases hopen

theorem Frame.trans {w'' : WebSocket} (h : Frame w w') (h' : Frame w' w'') : Frame w w'' :=
  ⟨h'.userClosed.trans h.userClosed, fun l hl => h.isOpen l (h'.isOpen l hl)⟩

theorem Tends.trans {w'' : WebSocket} (h : Tends w w') (h' : Tends w' w'') : Tends w w'' := by
  refine ⟨h.toFrame.trans h'.toFrame, h'.messageTask.trans h.messageTask,
    h'.transport.trans h.transport, fun l hl => ⟨fun hc => ?_, fun hc => ?_⟩⟩
  · exact (h'.attended l hl).1 ((h.attended l (h'.isOpen l hl)).1 hc)
  · exact (h'.attended l hl).2 ((h.attended l (h'.isOpen l hl)).2 hc)

/-- Links and transport as before. -/
theorem Tends.of_same (hl : w'.links = w.links) (ht : w'.transport = w.transport)
    (hu : w'.userClosed = w.userClosed) (hm : w'.messageTask = w.messageTask) : Tends w w' := by
  refine ⟨⟨hu, fun l h => ?_⟩, hm, ht, fun l _ => ⟨fun h => ?_, fun h => ?_⟩⟩
  · rwa [WebSocket.isOpen, hl] at h
  · rwa [WebSocket.isConnected, hl]
  · rwa [WebSocket.isClosing, hl]

theorem Tends.refl : Tends w w := .of_same rfl rfl rfl rfl

/-- The link of a lost connection is changed. -/
theorem Tends.setLink {l : Nat} {f : Link → Link}
    (ho : ∀ x, (f x).isOpen = true → x.isOpen = true) (hshut : (w.setLink l f).isOpen l = false) :
    Tends w (w.setLink l f) := by
  refine ⟨⟨rfl, fun _ => isOpen_setLink_le ho⟩, rfl, rfl, fun j hj => ?_⟩
  have hne : l ≠ j := fun h => by
    rw [← h, hshut] at hj
    cases hj
  simp [WebSocket.isConnected, WebSocket.isClosing, WebSocket.setLink, hne]

theorem clear_attended (h : Clear w) : Attended w := fun l hl => by
  rw [h l] at hl
  cases hl

theorem Tends.isAttended (h : Tends w w') (hw : Attended w) : Attended w' := by
  intro l hl
  obtain ⟨ht, hc, hcl⟩ := hw l (h.isOpen l hl)
  exact ⟨h.transport.trans ht, (h.attended l hl).1 hc, (h.attended l hl).2 hcl⟩

/-- What a `close` relies on where it is suspended. -/
def Bears (w : WebSocket) : Point → Prop
  | .closingEmit _ | .disconnectingState _ | .closeStopping _ _ | .closeCancellingAge _ _ =>
    Attended w
  | .callingTransport _ l => Attended w ∧ (w.transport = some l ∨ Clear w)
  | .closingTransport _ l => ∀ j, w.isOpen j = true → j = l
  | .closeAwaitingMessage _ u => Clear w ∧ (w.messageTask = some u ∨ w.messageTask = none)
  | _ => True

theorem inClose_of_rests {p : Point} (h : p.place = .rests) : p.inClose = false := by
  simp [Point.inClose, h]

theorem inClose_of_follows {p : Point} (h : p.place = .follows) : p.inClose = false := by
  simp [Point.inClose, h]

theorem bears_of_not {p : Point} (h : p.inClose = false) : Bears w p := by
  cases p <;> first
    | exact trivial
    | cases h

theorem bears_of_rests {p : Point} (h : p.place = .rests) : Bears w p :=
  bears_of_not (inClose_of_rests h)

theorem bears_tends (h : Tends w w') {p : Point} (hp : Bears w p) : Bears w' p := by
  cases p <;> first
    | exact trivial
    | exact h.isAttended hp
    | exact ⟨h.isAttended hp.1, hp.2.imp h.transport.trans h.toFrame.clear⟩
    | exact fun j hj => hp j (h.isOpen j hj)
    | exact ⟨h.toFrame.clear hp.1, hp.2.imp h.messageTask.trans h.messageTask.trans⟩

/-- Where no socket is open, a `close` relies on the message task only. -/
theorem bears_clear (hc : Clear w') (hm : w'.messageTask = w.messageTask ∨ w'.messageTask = none)
    {p : Point} (hp : Bears w p) : Bears w' p := by
  cases p <;> first
    | exact trivial
    | exact clear_attended hc
    | exact ⟨clear_attended hc, .inr hc⟩
    | exact fun j hj => absurd hj (by rw [hc j]; simp)
    | exact ⟨hc, hm.elim (fun h => hp.2.imp h.trans h.trans) .inr⟩

/-! ### The coroutines that rest -/

/-- The move at most emits an event, not that of a connection, and the coroutine rests. -/
structure Bystands (w : WebSocket) (m : Move) : Prop where
  rests : m.point.place = .rests
  same : m.ws = w ∨ ∃ e : Event, e.announces = false ∧ m.ws = w.log e

theorem Bystands.goto {p : Point} (hp : p.place = .rests) : Bystands w (w.goto p) := ⟨hp, .inl rfl⟩

theorem Bystands.emitAt {e : Event} {p : Point} (hp : p.place = .rests) (he : e.announces = false) :
    Bystands w (w.emitAt e p) := ⟨hp, .inr ⟨e, he, rfl⟩⟩

theorem Bystands.tends (h : Bystands w m) : Tends w m.ws := by
  rcases h.same with hs | ⟨e, -, hs⟩ <;> rw [hs]
  · exact .refl
  · exact .of_same rfl rfl rfl rfl

theorem Bystands.adds (h : Bystands w m) : Adds w m.ws := by
  rcases h.same with hs | ⟨e, he, hs⟩ <;> rw [hs]
  · exact .refl
  · exact .log he

theorem Bystands.state (h : Bystands w m) : m.ws.state = w.state := by
  rcases h.same with hs | ⟨e, -, hs⟩ <;> rw [hs]
  rfl

theorem sendPing_bystands (k : Nat) : Bystands w (w.sendPing k) := by
  unfold WebSocket.sendPing
  split
  · exact .goto rfl
  · split
    · exact .goto rfl
    · split
      · exact .goto rfl
      · split
        · exact .emitAt rfl rfl
        · exact .goto rfl

theorem pongArrived_bystands (k : Nat) : Bystands w (w.pongArrived k) := by
  unfold WebSocket.pongArrived
  split <;> exact .goto rfl

theorem pongTimedOut_bystands (k : Nat) : Bystands w (w.pongTimedOut k) := by
  unfold WebSocket.pongTimedOut
  split
  · exact .emitAt rfl rfl
  · exact .goto rfl

theorem ageOver_bystands : Bystands w w.ageOver := by
  unfold WebSocket.ageOver
  split
  · exact .emitAt rfl rfl
  · exact .goto rfl

/-- The backoff sleep ends without another attempt. -/
theorem afterBackoff_bystands (hu : w.userClosed = true) : Bystands w w.afterBackoff := by
  unfold WebSocket.afterBackoff
  rw [if_pos (by simp [hu])]
  exact .goto rfl

/-- A resumed coroutine that rests. -/
theorem resume_bystands {p : Point} (hp : p.place = .rests) (hu : w.userClosed = true)
    (hfree : p ≠ .timeoutEmit ∧ p ≠ .ageEmit) (hm : w.resume k p = some m) : Bystands w m := by
  cases p with
  | exhaustedState | closedState loss | closedByUserState args =>
    obtain rfl := Option.some.inj hm
    exact .emitAt rfl rfl
  | exhaustedEmit | closedEmit | closedByUserEmit | failedState e | backingOffState d | pingEmit =>
    obtain rfl := Option.some.inj hm
    exact .goto rfl
  | sleeping d =>
    obtain rfl := Option.some.inj hm
    exact afterBackoff_bystands hu
  | beatSleep =>
    obtain rfl := Option.some.inj hm
    exact sendPing_bystands k
  | ageSleep =>
    obtain rfl := Option.some.inj hm
    exact ageOver_bystands
  | timeoutEmit => exact (hfree.1 rfl).elim
  | ageEmit => exact (hfree.2 rfl).elim
  | awaitingPong | done raised => cases hm
  | _ => cases hp

/-! ### The message loop -/

/-- The coroutine leaves an open socket to `close`, and starts no attempt. -/
structure Follows (w : WebSocket) (m : Move) : Prop where
  tends : Tends w m.ws
  point : m.point.place = .follows ∨ m.point.place = .rests

theorem Follows.from (h : Follows w' m) (hw : Tends w w') : Follows w m :=
  ⟨hw.trans h.tends, h.point⟩

theorem Follows.goto {p : Point} (hp : p.place = .follows ∨ p.place = .rests) : Follows w (w.goto p) :=
  ⟨.refl, hp⟩

theorem Follows.emit_from {e : Event} {p : Point} (hw : Tends w w')
    (hp : p.place = .follows ∨ p.place = .rests) : Follows w (w'.emitAt e p) :=
  ⟨hw.trans (.of_same rfl rfl rfl rfl), hp⟩

theorem follows_setState {s : ConnectionState} {p : Point} {next : WebSocket → Move}
    (hp : p.place = .follows ∨ p.place = .rests) (hn : Follows w (next w)) :
    Follows w (w.setState s p next) :=
  WebSocket.setState_cases (Q := Follows w) (fun _ => hn)
    (fun _ => .emit_from (.of_same rfl rfl rfl rfl) hp)

theorem announceReconnecting_follows : Follows w w.announceReconnecting := by
  unfold WebSocket.announceReconnecting
  split
  · exact .goto (.inr rfl)
  · exact .emit_from (.of_same rfl rfl rfl rfl) (.inl rfl)

theorem scheduleReconnect_follows : Follows w w.scheduleReconnect := by
  unfold WebSocket.scheduleReconnect
  split
  · exact follows_setState (.inr rfl) (.emit_from .refl (.inr rfl))
  · exact follows_setState (.inl rfl) announceReconnecting_follows

theorem afterError_follows (e : Exc) : Follows w (w.afterError e) := by
  unfold WebSocket.afterError
  split
  · exact follows_setState (.inr rfl) (.goto (.inr rfl))
  · split
    · exact scheduleReconnect_follows
    · exact follows_setState (.inr rfl) (.goto (.inr rfl))

theorem beginBackoff_follows (delay : ℚ) : Follows w (w.beginBackoff delay) :=
  follows_setState (.inr rfl) (.goto (.inr rfl))

theorem toDisconnected_follows (loss : Loss) :
    Follows w (w.setState .disconnected (.disconnectedState loss)
      (WebSocket.announceDisconnected loss)) :=
  follows_setState (.inl rfl) (.emit_from .refl (.inl rfl))

theorem cancelAge_follows (loss : Loss) : Follows w (w.cancelAge loss) := by
  unfold WebSocket.cancelAge
  split
  · exact ⟨.refl, .inl rfl⟩
  · exact toDisconnected_follows loss

theorem handleDisconnect_follows (loss : Loss) : Follows w (w.handleDisconnect loss) := by
  unfold WebSocket.handleDisconnect
  split
  · dsimp only
    split
    · exact ⟨.of_same rfl rfl rfl rfl, .inl rfl⟩
    · exact (cancelAge_follows (w := w.setBeat _ _) loss).from (.of_same rfl rfl rfl rfl)
  · exact cancelAge_follows loss

theorem lost_follows (msg : String) : Follows w (w.lost msg) :=
  (handleDisconnect_follows (w := { w with lastError := some (.connectionError msg) }) _).from
    (.of_same rfl rfl rfl rfl)

theorem afterStop_follows (loss : Loss) : Follows w (w.afterStop loss) := by
  unfold WebSocket.afterStop
  split
  · exact cancelAge_follows loss
  · exact .goto (.inr rfl)

theorem afterAge_follows (loss : Loss) : Follows w (w.afterAge loss) :=
  (toDisconnected_follows (w := { w with ageTask := none }) loss).from (.of_same rfl rfl rfl rfl)

theorem afterDisconnected_follows (loss : Loss) : Follows w (w.afterDisconnected loss) := by
  unfold WebSocket.afterDisconnected
  split
  · exact scheduleReconnect_follows
  · exact follows_setState (.inr rfl) (.emit_from .refl (.inr rfl))

theorem loopTop_follows : Follows w w.loopTop := by
  unfold WebSocket.loopTop
  split
  · split
    · exact .emit_from (.of_same rfl rfl rfl rfl) (.inl rfl)
    · split
      · exact .goto (.inl rfl)
      · exact lost_follows _
  · exact .goto (.inr rfl)

theorem loopStart_follows : Follows w w.loopStart := by
  unfold WebSocket.loopStart
  split
  · exact .goto (.inr rfl)
  · exact loopTop_follows

theorem received_follows (l : Nat) (isPong : Bool) : Follows w (w.received l isPong) := by
  unfold WebSocket.received
  split <;> exact .emit_from .refl (.inl rfl)

theorem handled_follows (l : Nat) (outcome : WebSocket.Outcome) :
    Follows w (w.handled l outcome) := by
  unfold WebSocket.handled
  split
  · exact loopTop_follows
  all_goals exact .emit_from .refl (.inl rfl)

/-- The resumed message loop. -/
theorem resume_follows {p : Point} (hp : p.place = .follows) (hm : w.resume k p = some m) :
    Follows w m := by
  cases p with
  | errorEmit e =>
    obtain rfl := Option.some.inj hm
    exact afterError_follows e
  | reconnectingState =>
    obtain rfl := Option.some.inj hm
    exact announceReconnecting_follows
  | reconnectingEmit delay =>
    obtain rfl := Option.some.inj hm
    exact beginBackoff_follows delay
  | disconnectedState loss =>
    obtain rfl := Option.some.inj hm
    exact .emit_from .refl (.inl rfl)
  | disconnectedEmit loss =>
    obtain rfl := Option.some.inj hm
    exact afterDisconnected_follows loss
  | loopStart =>
    obtain rfl := Option.some.inj hm
    exact loopStart_follows
  | handling l stage =>
    cases stage with
    | raw => cases hm
    | overflow =>
      obtain rfl := Option.some.inj hm
      exact .emit_from .refl (.inl rfl)
    | message | failed | pong =>
      obtain rfl := Option.some.inj hm
      exact loopTop_follows
  | fatalErrorEmit loss =>
    obtain rfl := Option.some.inj hm
    exact handleDisconnect_follows loss
  | stoppingHeartbeat loss task | cancellingAge loss task | receiving l => cases hm
  | _ => cases hp

/-! ### The moves of close -/

/-- Where a move of `close` ends: it goes on, it has set CLOSED, or it raises. -/
inductive Shutting (w : WebSocket) : Point → Prop
  | on {p : Point} (hp : p.place = .closes) (hb : Bears w p) : Shutting w p
  | closed {p : Point} (hp : p.place = .rests) (hs : w.state = .closed) (hc : Clear w)
      (hm : w.messageTask = none) : Shutting w p
  | raised : Shutting w (.done true)

/-- In `close`, or at rest. -/
theorem Shutting.place {p : Point} (h : Shutting w p) : p.place = .closes ∨ p.place = .rests := by
  cases h with
  | on hp => exact .inl hp
  | closed hp => exact .inr hp
  | raised => exact .inr rfl

theorem Shutting.bears {p : Point} (h : Shutting w p) : Bears w p := by
  cases h with
  | on hp hb => exact hb
  | closed hp => exact bears_of_rests hp
  | raised => exact trivial

/-- `close` has set CLOSED, or is at its end. -/
def Point.behind : Point → Bool
  | .closedByUserState _ | .closedByUserEmit | .done false => true
  | _ => false

theorem Point.rests_of_behind {p : Point} (h : p.behind = true) : p.place = .rests := by
  cases p <;> first
    | rfl
    | cases h

/-- Behind CLOSED nothing is left. -/
theorem Shutting.of_behind {p : Point} (h : Shutting w p) (hb : p.behind = true) :
    p.place = .rests ∧ w.state = .closed ∧ Clear w ∧ w.messageTask = none := by
  cases h with
  | on hp =>
    rw [Point.rests_of_behind hb] at hp
    cases hp
  | closed hp hs hc hm => exact ⟨hp, hs, hc, hm⟩
  | raised => cases hb

/-- A move of `close` behind the handlers of `closing`. -/
structure Shuts (w : WebSocket) (m : Move) : Prop where
  frame : Frame w m.ws
  messageTask : m.ws.messageTask = w.messageTask
  ends : Shutting m.ws m.point
  closed : w.state = .closed → m.ws.state = .closed
  adds : Adds w m.ws

/-- What `close` does to the object on the way. -/
structure Passes (w w' : WebSocket) : Prop extends Frame w w' where
  state : w'.state = w.state
  emitted : w'.emitted = w.emitted

theorem Shuts.from (h : Shuts w' m) (hw : Passes w w') (hm : w'.messageTask = w.messageTask) :
    Shuts w m :=
  ⟨hw.toFrame.trans h.frame, h.messageTask.trans hm, h.ends, fun hs => h.closed (hw.state.trans hs),
    (Adds.of_eq hw.emitted).trans h.adds⟩

theorem Passes.of_same (hl : w'.links = w.links) (hu : w'.userClosed = w.userClosed)
    (hs : w'.state = w.state) (he : w'.emitted = w.emitted) : Passes w w' := by
  refine ⟨⟨hu, fun l h => ?_⟩, hs, he⟩
  rwa [WebSocket.isOpen, hl] at h

theorem Passes.setLink {l : Nat} {f : Link → Link}
    (ho : ∀ x, (f x).isOpen = true → x.isOpen = true) : Passes w (w.setLink l f) :=
  ⟨⟨rfl, fun _ => isOpen_setLink_le ho⟩, rfl, rfl⟩

/-- `close` suspends behind a change. -/
theorem Shuts.on {p : Point} {o : Option Nat} (hw : Passes w w')
    (hm : w'.messageTask = w.messageTask) (hp : p.place = .closes) (hb : Bears w' p) :
    Shuts w { ws := w', point := p, cancel := o } :=
  ⟨hw.toFrame, hm, .on hp hb, hw.state.trans, .of_eq hw.emitted⟩

theorem closeLast_shuts (hc : Clear w) (hm : w.messageTask = none) (args : CloseArgs) :
    Shuts w (w.closeLast args) := by
  refine WebSocket.setState_cases (Q := Shuts w) (fun hs => ?_) (fun _ => ?_)
  · exact ⟨⟨rfl, fun _ => id⟩, rfl, .closed rfl hs hc hm, id, .log rfl⟩
  · exact ⟨⟨rfl, fun _ => id⟩, rfl, .closed rfl rfl hc hm, fun _ => rfl, .log rfl⟩

theorem raise_shuts : Shuts w w.raise := ⟨⟨rfl, fun _ => id⟩, rfl, .raised, id, .refl⟩

theorem closeMessageTask_shuts (hc : Clear w) (args : CloseArgs) :
    Shuts w (w.closeMessageTask args) := by
  unfold WebSocket.closeMessageTask
  split
  · rename_i task hm
    exact .on (.of_same rfl rfl rfl rfl) rfl rfl ⟨hc, .inl hm⟩
  · rename_i hm
    exact closeLast_shuts hc hm args

theorem closeTransport_shuts (ha : Attended w) (args : CloseArgs) :
    Shuts w (w.closeTransport args) := by
  unfold WebSocket.closeTransport
  split
  · rename_i l ht
    exact .on (.of_same rfl rfl rfl rfl) rfl rfl ⟨ha, .inl ht⟩
  · rename_i ht
    refine closeMessageTask_shuts (fun l => ?_) args
    by_contra hl
    rw [Bool.not_eq_false] at hl
    have hopen := (ha l hl).1
    rw [ht] at hopen
    cases hopen

theorem closeCutOff_shuts (hc : Clear w) (args : CloseArgs) : Shuts w (w.closeCutOff args) :=
  (closeMessageTask_shuts (w := { w with transport := none }) hc args).from
    (.of_same rfl rfl rfl rfl) rfl

theorem closeCalled_shuts {args : CloseArgs} {l : Nat} (hb : Bears w (.callingTransport args l)) :
    Shuts w (w.closeCalled args l) := by
  obtain ⟨ha, ht⟩ := hb
  have honly : ∀ j, w.isOpen j = true → j = l := by
    intro j hj
    rcases ht with ht | hc
    · exact Option.some.inj ((ha j hj).1.symm.trans ht)
    · rw [hc j] at hj
      cases hj
  unfold WebSocket.closeCalled
  split
  · rename_i hidle
    -- an open socket would be connected, and not closing
    refine closeCutOff_shuts (fun j => ?_) args
    by_contra hj
    rw [Bool.not_eq_false] at hj
    obtain ⟨-, hconnected, hclosing⟩ := ha j hj
    rw [honly j hj] at hconnected hclosing
    rw [hconnected, hclosing] at hidle
    cases hidle
  · have hpass : Passes w (w.setLink l (fun x => { x with closing := true })) :=
      .setLink (fun _ => id)
    exact .on hpass rfl rfl (fun j hj => honly j (hpass.isOpen j hj))

theorem closeReturned_shuts {args : CloseArgs} {l : Nat} (hb : Bears w (.closingTransport args l)) :
    Shuts w (w.closeReturned args l) := by
  have hpass : Passes w (w.setLink l (fun x => { x with isOpen := false, connected := false })) :=
    .setLink (fun _ h => by cases h)
  refine (closeCutOff_shuts (w := w.setLink l _) (fun j => ?_) args).from hpass rfl
  by_contra hj
  rw [Bool.not_eq_false] at hj
  rw [hb j (hpass.isOpen j hj), isOpen_setLink_shut (fun _ => rfl)] at hj
  cases hj

theorem closeAge_shuts (ha : Attended w) (args : CloseArgs) : Shuts w (w.closeAge args) := by
  unfold WebSocket.closeAge
  split
  · exact .on (.of_same rfl rfl rfl rfl) rfl rfl ha
  · exact closeTransport_shuts ha args

theorem closeHeartbeat_shuts (ha : Attended w) (args : CloseArgs) :
    Shuts w (w.closeHeartbeat args) := by
  unfold WebSocket.closeHeartbeat
  split
  · dsimp only
    split
    · exact .on (.of_same rfl rfl rfl rfl) rfl rfl ha
    · exact (closeAge_shuts (w := { w.setBeat _ _ with heartbeat := none }) ha args).from
        (.of_same rfl rfl rfl rfl) rfl
  · exact closeAge_shuts ha args

end Moves

/-! ## Steps -/

/-- What is known of a task once `close` has been called. -/
structure Yields (w : WebSocket) (k : Nat) (t : AsyncTask) : Prop where
  noAttempt : t.point.place ≠ .attempts
  loop : t.point.place = .follows → t.kind = .messageLoop ∧ w.messageTask = some k
  bears : Bears w t.point

/-- The invariant from the first call of `close` on. -/
structure Closing (c : Client) : Prop where
  userClosed : c.shared.userClosed = true
  yields : c.Each Yields
  order : c.AtMostOne (fun t => t.point.inClose) ∨ (Clear c.shared ∧
    ∀ (k : Nat) (t : AsyncTask), c.tasks[k]? = some t → t.point.place ≠ .announces)

/-- The invariant once a `close` has set CLOSED. -/
structure Final (c : Client) : Prop where
  closed : c.shared.state = .closed
  clear : Clear c.shared
  ends : ∀ (k : Nat) (t : AsyncTask), c.tasks[k]? = some t →
    t.point.place = .rests ∨ t.point.place = .closes

section Steps
variable {c c' : Client} {k : Nat} {kind : Kind} {w : WebSocket} {p : Point} {t : AsyncTask}

/-- A move that leaves an open socket to `close`. -/
theorem Closing.tends (h : Closing c) (hm : Client.Moved c c' k kind w p)
    (ht : Tends c.shared w)
    (hp : p.place = .rests ∨
      (p.place = .follows ∧ kind = .messageLoop ∧ c.shared.messageTask = some k))
    (ho : c.AtMostOne (fun t => t.point.inClose) → c'.AtMostOne (fun t => t.point.inClose)) :
    Closing c' := by
  have hout : p.place ≠ .attempts ∧ p.place ≠ .announces ∧ p.inClose = false := by
    rcases hp with hp | ⟨hp, -⟩ <;> simp [Point.inClose, hp]
  refine ⟨?_, fun j u hj => ?_, ?_⟩
  · rw [hm.shared, ht.userClosed]
    exact h.userClosed
  · rw [hm.shared]
    rcases hm.tasks j u hj with ⟨rfl, hkind, rfl⟩ | ⟨-, v, hv, hkind, hpoint⟩
    · refine ⟨hout.1, fun hf => ?_, bears_of_not hout.2.2⟩
      rcases hp with hp | ⟨-, hk, hmessage⟩
      · rw [hf] at hp
        cases hp
      · exact ⟨hkind.trans hk, ht.messageTask.trans hmessage⟩
    · obtain ⟨ha, hf, hb⟩ := h.yields j v hv
      rw [← hpoint] at ha hf hb
      exact ⟨ha, fun hu => ⟨hkind.trans (hf hu).1, ht.messageTask.trans (hf hu).2⟩,
        bears_tends ht hb⟩
  · refine h.order.imp ho (fun ⟨hc, hn⟩ => ⟨?_, fun j u hj => ?_⟩)
    · rw [hm.shared]
      exact ht.toFrame.clear hc
    · rcases hm.tasks j u hj with ⟨-, -, rfl⟩ | ⟨-, v, hv, -, hpoint⟩
      · exact hout.2.1
      · rw [hpoint]
        exact hn j v hv

/-- A move of `close`: it is the only one, or no socket is open. The message task it
drops has ended, so no message loop is left. -/
theorem Closing.shuts (h : Closing c) (hm : Client.Moved c c' k kind w p)
    (hf : Frame c.shared w) (hp : p.place ≠ .attempts ∧ p.place ≠ .follows ∧ Bears w p)
    (hmessage : w.messageTask = c.shared.messageTask ∨ (w.messageTask = none ∧
      ∀ (j : Nat) (u : AsyncTask), c.tasks[j]? = some u → u.point.place ≠ .follows))
    (halone : Clear c.shared ∨
      ∀ (j : Nat) (u : AsyncTask), j ≠ k → c.tasks[j]? = some u → u.point.inClose = false)
    (ho : c'.AtMostOne (fun t => t.point.inClose) ∨ (Clear c.shared ∧ p.place ≠ .announces ∧
      ∀ (j : Nat) (u : AsyncTask), j ≠ k → c.tasks[j]? = some u → u.point.place ≠ .announces)) :
    Closing c' := by
  refine ⟨?_, fun j u hj => ?_, ?_⟩
  · rw [hm.shared, hf.userClosed]
    exact h.userClosed
  · rw [hm.shared]
    rcases hm.tasks j u hj with ⟨rfl, -, rfl⟩ | ⟨hne, v, hv, hkind, hpoint⟩
    · exact ⟨hp.1, fun hfu => (hp.2.1 hfu).elim, hp.2.2⟩
    · obtain ⟨ha, hfv, hb⟩ := h.yields j v hv
      rw [← hpoint] at ha hfv hb
      refine ⟨ha, fun hu => ?_, ?_⟩
      · rcases hmessage with hmessage | ⟨-, hnone⟩
        · exact ⟨hkind.trans (hfv hu).1, hmessage.trans (hfv hu).2⟩
        · exact (hnone j v hv (hpoint ▸ hu)).elim
      · rcases halone with hc | hothers
        · exact bears_clear (hf.clear hc) (hmessage.imp id And.left) hb
        · rw [hpoint]
          exact bears_of_not (hothers j v hne hv)
  · refine ho.imp id (fun ⟨hc, hpa, hn⟩ => ⟨?_, fun j u hj => ?_⟩)
    · rw [hm.shared]
      exact hf.clear hc
    · rcases hm.tasks j u hj with ⟨-, -, rfl⟩ | ⟨hne, v, hv, -, hpoint⟩
      · exact hpa
      · rw [hpoint]
        exact hn j v hne hv

/-- `close` has set CLOSED. -/
theorem Closing.final (h : Closing c) (hm : Client.Moved c c' k kind w p)
    (hs : w.state = .closed) (hc : Clear w) (hp : p.place = .rests)
    (hf : ∀ (j : Nat) (u : AsyncTask), j ≠ k → c.tasks[j]? = some u → u.point.place ≠ .follows)
    (hn : ∀ (j : Nat) (u : AsyncTask), j ≠ k → c.tasks[j]? = some u → u.point.place ≠ .announces) :
    Final c' := by
  refine ⟨by rw [hm.shared]; exact hs, by rw [hm.shared]; exact hc, fun j u hj => ?_⟩
  rcases hm.tasks j u hj with ⟨-, -, rfl⟩ | ⟨hne, v, hv, -, hpoint⟩
  · exact .inl hp
  · rw [hpoint]
    by_cases hcl : v.point.place = .closes
    · exact .inr hcl
    · exact .inl (Point.rests_of_not (h.yields j v hv).noAttempt (hf j v hne hv) (hn j v hne hv) hcl)

/-- What a step does once `close` has been called. -/
structure Outcome (c c' : Client) : Prop where
  closing : Closing c'
  final : Final c → Final c' ∧ Adds c.shared c'.shared
  behind : ∀ (j : Nat) (u : AsyncTask), c'.tasks[j]? = some u → u.kind = .close →
    u.point.behind = true →
      Final c' ∨ ∃ v, c.tasks[j]? = some v ∧ v.kind = .close ∧ v.point.behind = true

/-- What was behind CLOSED before. -/
theorem behind_moved (hm : Client.Moved c c' k kind w p)
    (hback : kind = .close → p.behind = true →
      Final c' ∨ ∃ v, c.tasks[k]? = some v ∧ v.kind = .close ∧ v.point.behind = true) :
    ∀ (j : Nat) (u : AsyncTask), c'.tasks[j]? = some u → u.kind = .close → u.point.behind = true →
      Final c' ∨ ∃ v, c.tasks[j]? = some v ∧ v.kind = .close ∧ v.point.behind = true := by
  intro j u hj hk hb
  rcases hm.tasks j u hj with ⟨rfl, hkind, rfl⟩ | ⟨-, v, hv, hkind, hpoint⟩
  · exact hback (hkind.symm.trans hk) hb
  · exact .inr ⟨v, hv, hkind.symm.trans hk, hpoint ▸ hb⟩

theorem final_moved (h : Final c) (hm : Client.Moved c c' k kind w p) (hs : w.state = .closed)
    (hf : Frame c.shared w) (hp : p.place = .rests ∨ p.place = .closes) : Final c' := by
  refine ⟨by rw [hm.shared]; exact hs, by rw [hm.shared]; exact hf.clear h.clear, fun j u hj => ?_⟩
  rcases hm.tasks j u hj with ⟨-, -, rfl⟩ | ⟨-, v, hv, -, hpoint⟩
  · exact hp
  · rw [hpoint]
    exact h.ends j v hv

theorem rests_settle {m : Move} (h : m.point.place = .rests) :
    (AsyncTask.settle k kind m).point.place = .rests := by
  unfold AsyncTask.settle
  split
  · dsimp only
    split <;> rfl
  · exact h

/-- A coroutine that rests moves. -/
theorem Outcome.bystand (h : Closing c) (ht : c.tasks[k]? = some t) {m : Move}
    (hb : Bystands c.shared m)
    (hback : t.kind = .close → (AsyncTask.settle k t.kind m).point.behind = true →
      t.point.behind = true) : Outcome c (c.run k t.kind m) := by
  have hm : Client.Moved c (c.run k t.kind m) k t.kind m.ws (AsyncTask.settle k t.kind m).point :=
    Client.moved_run (List.getElem?_eq_some_iff.mp ht).1
  have hp : (AsyncTask.settle k t.kind m).point.place = .rests := rests_settle hb.rests
  refine ⟨h.tends hm hb.tends (.inl hp) (fun ho => ?_), fun hfinal => ⟨?_, ?_⟩,
    behind_moved hm (fun hk hbehind => .inr ⟨t, ht, hk, hback hk hbehind⟩)⟩
  · refine Client.atMostOne_run (fun _ _ => rfl) ho ht (fun hin => ?_)
    rw [inClose_of_rests hp] at hin
    cases hin
  · exact final_moved hfinal hm (hb.state.trans hfinal.closed) hb.tends.toFrame (.inl hp)
  · rw [hm.shared]
    exact hb.adds

/-- The message loop moves. -/
theorem Outcome.follow (h : Closing c) (ht : c.tasks[k]? = some t) (hp : t.point.place = .follows)
    {m : Move} (hf : Follows c.shared m) : Outcome c (c.run k t.kind m) := by
  obtain ⟨hkind, hmessage⟩ := (h.yields k t ht).loop hp
  have hsettle : AsyncTask.settle k t.kind m = m := Client.settle_of_ne (by rw [hkind]; simp) m
  have hm : Client.Moved c (c.run k t.kind m) k t.kind m.ws (AsyncTask.settle k t.kind m).point :=
    Client.moved_run (List.getElem?_eq_some_iff.mp ht).1
  rw [hsettle] at hm
  refine ⟨h.tends hm hf.tends ?_ (fun ho => ?_), fun hfinal => ?_,
    behind_moved hm (fun hk => by rw [hkind] at hk; cases hk)⟩
  · exact hf.point.symm.imp id (fun hp => ⟨hp, hkind, hmessage⟩)
  · refine Client.atMostOne_run (fun _ _ => rfl) ho ht (fun hin => ?_)
    rw [hsettle, hf.point.elim inClose_of_follows inClose_of_rests] at hin
    cases hin
  · -- CLOSED is set only when no message loop is left
    rcases hfinal.ends k t ht with he | he <;>
    · rw [hp] at he
      cases he

/-- The other tasks are in no `close`, or no socket is open. -/
theorem Closing.alone (h : Closing c) (ht : c.tasks[k]? = some t) (hin : t.point.inClose = true) :
    (∀ (j : Nat) (u : AsyncTask), j ≠ k → c.tasks[j]? = some u → u.point.inClose = false) ∨
      (Clear c.shared ∧
        ∀ (j : Nat) (u : AsyncTask), c.tasks[j]? = some u → u.point.place ≠ .announces) := by
  refine h.order.imp (fun ho j u hj hu => ?_) id
  by_contra hc
  rw [Bool.not_eq_false] at hc
  exact hj (ho.unique hu ht hc hin)

theorem Point.not_announces {p : Point} (h : p.inClose = false) : p.place ≠ .announces := by
  intro hp
  simp [Point.inClose, hp] at h

/-- A `close` moves. -/
theorem Outcome.shuts (h : Closing c) (ht : c.tasks[k]? = some t) (hk : t.kind = .close)
    (hin : t.point.inClose = true) {m : Move} (hf : Frame c.shared m.ws)
    (hs : Shutting m.ws m.point)
    (hmessage : m.ws.messageTask = c.shared.messageTask ∨ (m.ws.messageTask = none ∧
      ∀ (j : Nat) (u : AsyncTask), c.tasks[j]? = some u → u.point.place ≠ .follows))
    (hfinal : Final c → m.ws.state = .closed ∧ Adds c.shared m.ws) :
    Outcome c (c.run k t.kind m) := by
  have hm : Client.Moved c (c.run k t.kind m) k t.kind m.ws (AsyncTask.settle k t.kind m).point :=
    Client.moved_run (List.getElem?_eq_some_iff.mp ht).1
  rw [Client.settle_of_ne (by rw [hk]; simp)] at hm
  have halone := h.alone ht hin
  have hn : ∀ (j : Nat) (u : AsyncTask), j ≠ k → c.tasks[j]? = some u →
      u.point.place ≠ .announces := by
    intro j u hj hu
    rcases halone with hothers | ⟨-, hn⟩
    · exact Point.not_announces (hothers j u hj hu)
    · exact hn j u hu
  have hplace : m.point.place ≠ .attempts ∧ m.point.place ≠ .follows ∧
      m.point.place ≠ .announces := by
    rcases hs.place with hp | hp <;> rw [hp] <;> simp
  have hclosing : Closing (c.run k t.kind m) := by
    refine h.shuts hm hf ⟨hplace.1, hplace.2.1, hs.bears⟩ hmessage (halone.symm.imp And.left id) ?_
    refine h.order.imp (fun ho => ?_) (fun ⟨hc, _⟩ => ⟨hc, hplace.2.2, hn⟩)
    exact Client.atMostOne_run (fun _ _ => rfl) ho ht (fun _ => hin)
  refine ⟨hclosing, fun hfin => ⟨?_, ?_⟩, behind_moved hm (fun _ hbehind => ?_)⟩
  · exact final_moved hfin hm (hfinal hfin).1 hf hs.place.symm
  · rw [hm.shared]
    exact (hfinal hfin).2
  · obtain ⟨hp, hstate, hc, hnone⟩ := hs.of_behind hbehind
    refine .inl (h.final hm hstate hc hp (fun j u _ hu hfu => ?_) hn)
    -- no message loop is left
    rcases hmessage with hmessage | ⟨-, hloops⟩
    · rw [hmessage, ((h.yields j u hu).loop hfu).2] at hnone
      cases hnone
    · exact hloops j u hu hfu

/-- The task of a coroutine in `close`. -/
theorem close_of_inClose (hw : Wired c) (ht : c.tasks[k]? = some t) (hin : t.point.inClose = true) :
    t.kind = .close := by
  have hclose : t.point.ofClose = true ∧ t.live = true := by
    unfold AsyncTask.live
    generalize t.point = p at hin ⊢
    cases p <;> first
      | exact ⟨rfl, rfl⟩
      | cases hin
  have hside := (hw.stands k t ht).2 hclose.2
  rw [hclose.1] at hside
  exact of_decide_eq_true hside.symm

theorem Point.inClose_of_closes {p : Point} (h : p.place = .closes) : p.inClose = true := by
  simp [Point.inClose, h]

theorem Outcome.of_shuts (h : Closing c) (hw : Wired c) (ht : c.tasks[k]? = some t)
    (hp : t.point.place = .closes) {m : Move} (hs : Shuts c.shared m) :
    Outcome c (c.run k t.kind m) :=
  have hin := Point.inClose_of_closes hp
  .shuts h ht (close_of_inClose hw ht hin) hin hs.frame hs.ends (.inl hs.messageTask)
    (fun hf => ⟨hs.closed hf.closed, hs.adds⟩)

/-- A `close` that rests is at its end. -/
theorem behind_of_rests (hw : Wired c) (ht : c.tasks[k]? = some t) (hl : t.live = true)
    (hp : t.point.place = .rests) (hk : t.kind = .close) : t.point.behind = true := by
  have hside := (hw.stands k t ht).2 hl
  rw [decide_eq_true hk] at hside
  generalize t.point = p at hside hp
  cases p with
  | closedByUserState args | closedByUserEmit => rfl
  | closingEmit | disconnectingState | closeStopping | closeCancellingAge | callingTransport
  | closingTransport | closeAwaitingMessage => cases hp
  | _ => cases hside

/-- The handlers of `closing` are over. -/
theorem closingEmit_shuts (ha : Attended w) (args : CloseArgs) :
    Frame w (w.setState .disconnecting (.disconnectingState args)
      (fun w => w.closeHeartbeat args)).ws ∧
    Shutting (w.setState .disconnecting (.disconnectingState args)
      (fun w => w.closeHeartbeat args)).ws
      (w.setState .disconnecting (.disconnectingState args)
        (fun w => w.closeHeartbeat args)).point ∧
    (w.setState .disconnecting (.disconnectingState args)
      (fun w => w.closeHeartbeat args)).ws.messageTask = w.messageTask := by
  refine WebSocket.setState_cases (Q := fun m => Frame w m.ws ∧ Shutting m.ws m.point ∧
    m.ws.messageTask = w.messageTask) (fun _ => ?_) (fun _ => ?_)
  · have hs := closeHeartbeat_shuts ha args
    exact ⟨hs.frame, hs.ends, hs.messageTask⟩
  · exact ⟨⟨rfl, fun _ => id⟩, .on rfl ha, rfl⟩

/-- The handlers or the sleep of task `k` are over. -/
theorem Closing.resumed (h : Closing c) (hw : Wired c) (ht : c.tasks[k]? = some t)
    (hc : t.cancelled = false) (ho : Patient c (.resume k)) {m : Move}
    (hm : c.shared.resume k t.point = some m) : Outcome c (c.run k t.kind m) := by
  have hy := h.yields k t ht
  cases hp : t.point.place with
  | rests =>
    have hfree : t.point ≠ .timeoutEmit ∧ t.point ≠ .ageEmit := by
      refine ⟨fun he => ?_, fun he => ?_⟩
      · exact Bool.false_ne_true ((ho t ht hc (.inl he)).symm.trans h.userClosed)
      · exact Bool.false_ne_true ((ho t ht hc (.inr he)).symm.trans h.userClosed)
    exact .bystand h ht (resume_bystands hp h.userClosed hfree hm)
      (fun hk _ => behind_of_rests hw ht (Client.live_of_resume hm) hp hk)
  | follows => exact .follow h ht hp (resume_follows hp hm)
  | attempts => exact (hy.noAttempt hp).elim
  | announces =>
    have hin : t.point.inClose = true := by simp [Point.inClose, hp]
    have hk := close_of_inClose hw ht hin
    have hb := hy.bears
    have hnotFinal : ¬ Final c := fun hf => by
      rcases hf.ends k t ht with he | he <;>
      · rw [hp] at he
        cases he
    have hgo : Frame c.shared m.ws ∧ Shutting m.ws m.point ∧
        m.ws.messageTask = c.shared.messageTask := by
      generalize t.point = p at hp hb hm
      cases p with
      | closingEmit args =>
        obtain rfl := Option.some.inj hm
        exact closingEmit_shuts hb args
      | _ => cases hp
    exact .shuts h ht hk hin hgo.1 hgo.2.1 (.inl hgo.2.2) (fun hf => (hnotFinal hf).elim)
  | closes =>
    have hb := hy.bears
    have hgo : ∀ hs : Shuts c.shared m, Outcome c (c.run k t.kind m) :=
      fun hs => .of_shuts h hw ht hp hs
    generalize t.point = p at hp hb hm
    cases p with
    | disconnectingState args =>
      obtain rfl := Option.some.inj hm
      exact hgo (closeHeartbeat_shuts hb args)
    | callingTransport args l =>
      obtain rfl := Option.some.inj hm
      exact hgo (closeCalled_shuts hb)
    | closeStopping | closeCancellingAge | closingTransport | closeAwaitingMessage => cases hm
    | _ => cases hp

/-- The task that task `k` waited for has ended. -/
theorem Closing.awaited (h : Closing c) (hw : Wired c) (ht : c.tasks[k]? = some t) {u : Nat}
    {raised : Bool} (hwait : WebSocket.awaits t.point = some u)
    (hu : (u = k ∧ raised = false) ∨ ∃ s, c.tasks[u]? = some s ∧ s.point = .done raised)
    {m : Move} (hm : c.shared.awaited raised t.point = some m) :
    Outcome c (c.run k t.kind m) := by
  have hy := h.yields k t ht
  have hstands := hw.stands k t ht
  have hfollow : t.point.place = .follows → Follows c.shared m → Outcome c (c.run k t.kind m) :=
    fun hp hf => .follow h ht hp hf
  have hshut : t.point.place = .closes → Shuts c.shared m → Outcome c (c.run k t.kind m) :=
    fun hp hs => .of_shuts h hw ht hp hs
  have hmine : t.point.inClose = true → t.kind = .close := close_of_inClose hw ht
  have hb := hy.bears
  have hl := Client.live_of_awaited hm
  cases hp : t.point with
  | stoppingHeartbeat loss task =>
    rw [hp] at hm hfollow
    obtain rfl := Option.some.inj hm
    exact hfollow rfl ((afterStop_follows (w := c.shared.setBeat task _) loss).from
      (.of_same rfl rfl rfl rfl))
  | cancellingAge loss task =>
    rw [hp] at hm hfollow
    obtain rfl := Option.some.inj hm
    split
    · exact .follow h ht (by rw [hp]; rfl) (.goto (.inr rfl))
    · exact .follow h ht (by rw [hp]; rfl) (afterAge_follows loss)
  | closeStopping args task =>
    rw [hp] at hm hshut hb
    obtain rfl := Option.some.inj hm
    exact hshut rfl ((closeAge_shuts
      (w := { c.shared.setBeat task _ with heartbeat := none }) hb args).from
      (.of_same rfl rfl rfl rfl) rfl)
  | closeCancellingAge args task =>
    rw [hp] at hm hshut hb
    obtain rfl := Option.some.inj hm
    split
    · exact .of_shuts h hw ht (by rw [hp]; rfl) raise_shuts
    · exact .of_shuts h hw ht (by rw [hp]; rfl) ((closeTransport_shuts
        (w := { c.shared with ageTask := none }) hb args).from (.of_same rfl rfl rfl rfl) rfl)
  | closeAwaitingMessage args task =>
    rw [hp] at hm hb hwait
    obtain rfl := Option.some.inj hwait
    obtain rfl := Option.some.inj hm
    have hin : t.point.inClose = true := by rw [hp]; rfl
    split
    · exact .of_shuts h hw ht (by rw [hp]; rfl) raise_shuts
    · -- the message task has ended, so no message loop is left
      have hnone : ∀ (j : Nat) (v : AsyncTask), c.tasks[j]? = some v →
          v.point.place ≠ .follows := by
        intro j v hj hf
        obtain ⟨-, hjm⟩ := (h.yields j v hj).loop hf
        have hju : j = task := by
          rcases hb.2 with hmt | hmt
          · exact Option.some.inj (hjm.symm.trans hmt)
          · rw [hmt] at hjm
            cases hjm
        subst hju
        rcases hu with ⟨rfl, -⟩ | ⟨s, hs, hd⟩
        · obtain rfl := Option.some.inj (ht.symm.trans hj)
          rw [hp] at hf
          cases hf
        · obtain rfl := Option.some.inj (hs.symm.trans hj)
          rw [hd] at hf
          cases hf
      have hs := closeLast_shuts (w := { c.shared with messageTask := none }) hb.1 rfl args
      exact .shuts h ht (hmine hin) hin ⟨hs.frame.userClosed, hs.frame.isOpen⟩ hs.ends
        (.inr ⟨hs.messageTask, hnone⟩) (fun hf => ⟨hs.closed hf.closed, hs.adds⟩)
  | _ =>
    rw [hp] at hm
    cases hm

/-- What task `k` waited for has happened. -/
theorem Closing.reacts (h : Closing c) (hw : Wired c) (ht : c.tasks[k]? = some t) {a : Action}
    (ha : Client.actor a = some k) (ho : Patient c a) {m : Move}
    (hm : Client.Reacts c.shared k a t.point m) : Outcome c (c.run k t.kind m) := by
  have hy := h.yields k t ht
  have hl := Client.live_of_reacts hm
  have hb := hy.bears
  have hattempt := hy.noAttempt
  have hbehind : t.point.place = .rests → t.kind = .close → t.point.behind = true :=
    fun hp hk => behind_of_rests hw ht hl hp hk
  generalize hp : t.point = p at hm hb hattempt hbehind
  cases hm with
  | opened | connected | aborted | refused | unreached => exact (hattempt rfl).elim
  | frame j l isPong => exact .follow h ht (by rw [hp]; rfl) (received_follows l isPong)
  | handle j l outcome => exact .follow h ht (by rw [hp]; rfl) (handled_follows l outcome)
  | closeFrame j l code =>
    exact .follow h ht (by rw [hp]; rfl) ((lost_follows (w := c.shared.closeFrame l code) _).from
      (.setLink (fun _ hx => by cases hx) (isOpen_setLink_shut (fun _ => rfl))))
  | lossSeen j l hl =>
    have hle : ∀ x : Link, ({ x with connected := false } : Link).isOpen = true → x.isOpen = true :=
      fun _ => id
    refine .follow h ht (by rw [hp]; rfl) ((lost_follows (w := c.shared.setLink l _) _).from
      (.setLink hle ?_))
    by_contra hopen
    rw [Bool.not_eq_false] at hopen
    rw [isOpen_setLink_le hle hopen] at hl
    cases hl
  | pong j => exact .bystand h ht (pongArrived_bystands k) (fun hk _ => hp ▸ hbehind rfl hk)
  | pongTimeout j => exact .bystand h ht (pongTimedOut_bystands k) (fun hk _ => hp ▸ hbehind rfl hk)
  | closeDone j args l => exact .of_shuts h hw ht (by rw [hp]; rfl) (closeReturned_shuts hb)
  | closeCut j args l =>
    obtain rfl := Option.some.inj ha
    have hshut := ho t args l ht hp
    refine .of_shuts h hw ht (by rw [hp]; rfl) (closeCutOff_shuts (fun i => ?_) args)
    by_contra hi
    rw [Bool.not_eq_false] at hi
    rw [hb i hi, hshut] at hi
    cases hi

/-- The object changes by itself, and leaves an open socket to `close`. -/
theorem Outcome.share (h : Closing c) (ht : Tends c.shared w) (hs : w.state = c.shared.state)
    (ha : w.emitted = c.shared.emitted) : Outcome c (c.share w) := by
  have hm := Client.moved_share (c := c) (s := w)
  refine ⟨h.tends hm ht (.inl rfl) id, fun hf => ⟨?_, .of_eq ha⟩,
    behind_moved hm (fun hk => by cases hk)⟩
  exact final_moved hf hm (hs.trans hf.closed) ht.toFrame (.inl rfl)

/-- A call of `connect` that is refused. -/
theorem Outcome.refused (h : Closing c) : Outcome c (c.enter .connect c.shared.raise) := by
  have hm : Client.Moved c (c.enter .connect c.shared.raise) c.tasks.length .connect c.shared
      (.done true) := Client.moved_enter
  refine ⟨h.tends hm .refl (.inl rfl) (fun ho => Client.atMostOne_enter (fun _ _ => rfl) ho rfl),
    fun hf => ⟨?_, ?_⟩, behind_moved hm (fun hk => by cases hk)⟩
  · exact final_moved hf hm hf.closed ⟨rfl, fun _ => id⟩ (.inl rfl)
  · rw [hm.shared]
    exact .refl

/-- A patient step other than a call of `close`. -/
theorem Closing.step (h : Closing c) (hw : Wired c) {a : Action} (ho : Patient c a)
    (hne : ∀ args, a ≠ .close args) (hs : c.step a = some c') : Outcome c c' := by
  rcases Client.step_cases hs with ⟨d, rfl, rfl⟩ | ⟨l, rfl, rfl⟩ | ⟨rfl, rfl⟩ | ⟨args, rfl, rfl⟩ |
    ⟨k, t, rfl, ht, -, hst, rfl⟩ | ⟨k, t, m, ht, hm, rfl⟩
  · exact .share h (.of_same rfl rfl rfl rfl) rfl rfl
  · exact .share h (.setLink (fun _ hx => by cases hx) (isOpen_setLink_shut (fun _ => rfl))) rfl rfl
  · obtain ⟨hidle, hdisconnected⟩ := ho h.userClosed
    unfold WebSocket.connect
    rw [if_neg (fun hs => hs.elim hidle hdisconnected)]
    exact .refused h
  · exact (hne args rfl).elim
  · have hattempt := (h.yields k t ht).noAttempt
    generalize t.point = p at hst hattempt
    cases p with
    | connectedEmit | replaying => exact (hattempt rfl).elim
    | _ => cases hst
  · cases hm with
    | cancelled hc hwait =>
      refine .bystand h ht (.goto rfl) (fun hk _ => ?_)
      rw [hw.calls k t ht (by rw [hk]; rfl)] at hc
      cases hc
    | resumed hc hwait hm => exact h.resumed hw ht hc ho hm
    | awaited hwait hu hm => exact h.awaited hw ht hwait hu hm
    | reacts ha hc hm => exact h.reacts hw ht ha ho hm

/-- The flags are set by a call of `close` that will be final. -/
theorem closing_of_closable (hw : Wired c)
    (hphase : (∀ (k : Nat) (t : AsyncTask), c.tasks[k]? = some t → t.kind ≠ .close) ∨ Closing c)
    (hc : Closable c) :
    Closing (c.share { c.shared with userClosed := true, running := false }) := by
  refine ⟨rfl, fun k t ht => ⟨hc.noAttempt k t ht, hc.loop k t ht, ?_⟩,
    hc.others.imp (fun hnone => ?_) (fun ⟨hclear, _, hn⟩ => ⟨hclear, hn⟩)⟩
  · rcases hphase with hnone | hclosing
    · refine bears_of_not ?_
      by_contra hin
      exact hnone k t ht (close_of_inClose hw ht (by simpa using hin))
    · have hflags : Tends c.shared { c.shared with userClosed := true, running := false } :=
        .of_same rfl rfl hclosing.userClosed.symm rfl
      exact bears_tends hflags (hclosing.yields k t ht).bears
  · have hzero : c.tasks.countP (fun t => t.point.inClose) = 0 := by
      rw [List.countP_eq_zero]
      intro t ht
      obtain ⟨k, hk⟩ := List.mem_iff_getElem?.mp ht
      simp [hnone k t hk]
    exact Nat.le_of_eq hzero |>.trans (Nat.zero_le _)

/-- The first move of a `close`, behind its flags. -/
theorem Outcome.enters (h : Closing c) {m : Move} (hf : Frame c.shared m.ws)
    (hmessage : m.ws.messageTask = c.shared.messageTask)
    (hp : m.point.place ≠ .attempts ∧ m.point.place ≠ .follows ∧ Bears m.ws m.point)
    (hothers : (∀ (k : Nat) (t : AsyncTask), c.tasks[k]? = some t → t.point.inClose = false) ∨
      (Clear c.shared ∧ m.point.place ≠ .announces ∧
        ∀ (k : Nat) (t : AsyncTask), c.tasks[k]? = some t → t.point.place ≠ .announces))
    (hfinal : Final c → m.ws.state = .closed ∧ Adds c.shared m.ws ∧ m.point.place ≠ .announces)
    (hbehind : m.point.behind = true → m.ws.state = .closed ∧ Clear m.ws ∧
      ∀ (k : Nat) (t : AsyncTask), c.tasks[k]? = some t → t.point.place ≠ .follows) :
    Outcome c (c.enter .close m) := by
  have hm : Client.Moved c (c.enter .close m) c.tasks.length .close m.ws m.point :=
    Client.moved_enter
  have hn : ∀ (k : Nat) (t : AsyncTask), c.tasks[k]? = some t → t.point.place ≠ .announces := by
    intro k t ht
    rcases hothers with hnone | ⟨-, -, hn⟩
    · exact Point.not_announces (hnone k t ht)
    · exact hn k t ht
  refine ⟨?_, fun hfin => ⟨?_, ?_⟩, behind_moved hm (fun _ hb => ?_)⟩
  · refine h.shuts hm hf hp (.inl hmessage) ?_ ?_
    · exact hothers.symm.imp And.left (fun hnone j u _ hu => hnone j u hu)
    · exact hothers.imp (fun hnone => Client.atMostOne_enter_take (fun _ _ => rfl) hnone)
        (fun ⟨hc, hpa, hn⟩ => ⟨hc, hpa, fun j u _ hu => hn j u hu⟩)
  · obtain ⟨hs, -, hpa⟩ := hfinal hfin
    refine final_moved hfin hm hs hf ?_
    by_cases hc : m.point.place = .closes
    · exact .inr hc
    · exact .inl (Point.rests_of_not hp.1 hp.2.1 hpa hc)
  · rw [hm.shared]
    exact (hfinal hfin).2.1
  · obtain ⟨hs, hc, hfollows⟩ := hbehind hb
    exact .inl (h.final hm hs hc (Point.rests_of_behind hb) (fun j u _ hu => hfollows j u hu)
      (fun j u _ hu => hn j u hu))

/-- `close` is called. -/
theorem Outcome.close (hw : Wired c)
    (hphase : (∀ (k : Nat) (t : AsyncTask), c.tasks[k]? = some t → t.kind ≠ .close) ∨ Closing c)
    (hc : Closable c) (args : CloseArgs) :
    Outcome c (c.enter .close (c.shared.close args)) := by
  have h := closing_of_closable hw hphase hc
  -- The call moves from the state with its flags.
  suffices hout : Outcome (c.share { c.shared with userClosed := true, running := false })
      (Client.enter (c.share { c.shared with userClosed := true, running := false }) .close
        (c.shared.close args)) from
    ⟨hout.closing, fun hf => hout.final ⟨hf.closed, hf.clear, hf.ends⟩, hout.behind⟩
  have hn : ∀ (k : Nat) (t : AsyncTask), c.tasks[k]? = some t → t.point.place ≠ .announces := by
    intro k t ht
    rcases hc.others with hnone | ⟨-, -, hn⟩
    · exact Point.not_announces (hnone k t ht)
    · exact hn k t ht
  unfold WebSocket.close
  dsimp only
  split
  · -- the state is terminal, so CLOSED
    rename_i hterminal
    have hclosed : c.shared.state = .closed := by
      have hnf := hc.notFailed
      revert hterminal hnf
      cases c.shared.state <;> simp [ConnectionState.isTerminal]
    obtain ⟨hclear, hfollows⟩ := hc.closed hclosed
    refine .enters h ⟨rfl, fun _ => id⟩ rfl ⟨by simp [WebSocket.finish, WebSocket.goto, Point.place],
      by simp [WebSocket.finish, WebSocket.goto, Point.place], trivial⟩ (.inr ⟨hclear, ?_, hn⟩)
      (fun _ => ⟨hclosed, .refl, ?_⟩) (fun _ => ⟨hclosed, hclear, hfollows⟩)
    all_goals simp [WebSocket.finish, WebSocket.goto, Point.place]
  · split
    · rename_i hs
      have hnone : ∀ (k : Nat) (t : AsyncTask), c.tasks[k]? = some t → t.point.inClose = false := by
        rcases hc.others with hnone | ⟨-, hnc, -⟩
        · exact hnone
        · exact (hnc hs).elim
      refine .enters h ⟨rfl, fun _ => id⟩ rfl
        ⟨fun he => (by cases he), fun he => (by cases he), hc.attended⟩ (.inl hnone) (fun hf => ?_) (fun hb => (by cases hb))
      have hclosed : c.shared.state = .closed := hf.closed
      rw [show c.shared.state = .connected from hs] at hclosed
      cases hclosed
    · have hs := closeHeartbeat_shuts (w := { c.shared with userClosed := true, running := false })
        hc.attended args
      have hplace : ∀ q, q ≠ Place.closes → q ≠ Place.rests →
          (WebSocket.closeHeartbeat { c.shared with userClosed := true, running := false }
            args).point.place ≠ q := by
        intro q hq hq' he
        rcases hs.ends.place with hp | hp
        · exact hq (he.symm.trans hp)
        · exact hq' (he.symm.trans hp)
      refine .enters h hs.frame hs.messageTask ⟨hplace _ (by simp) (by simp),
        hplace _ (by simp) (by simp), hs.ends.bears⟩ ?_ (fun hf => ⟨hs.closed hf.closed, hs.adds,
        hplace _ (by simp) (by simp)⟩) (fun hb => ?_)
      · rcases hc.others with hnone | ⟨hclear, -, hn⟩
        · exact .inl hnone
        · exact .inr ⟨hclear, hplace _ (by simp) (by simp), hn⟩
      · obtain ⟨-, hstate, hclear, hnone⟩ := hs.ends.of_behind hb
        refine ⟨hstate, hclear, fun j u hu hfu => ?_⟩
        have hm := (hc.loop j u hu hfu).2
        rw [← show _ = c.shared.messageTask from hs.messageTask, hnone] at hm
        cases hm

end Steps

/-! ## Runs -/

/-- No `close` was called, or the invariant holds, and the other where one has set CLOSED. -/
structure Attends (c : Client) : Prop where
  wired : Wired c
  phase : (∀ (k : Nat) (t : AsyncTask), c.tasks[k]? = some t → t.kind ≠ .close) ∨
    (Closing c ∧ ∀ (k : Nat) (t : AsyncTask), c.tasks[k]? = some t → t.kind = .close →
      t.point.behind = true → Final c)

theorem Attends.of_outcome {c c' : Client} (h : Attends c) (hw : Wired c') (ho : Outcome c c') :
    Attends c' := by
  refine ⟨hw, .inr ⟨ho.closing, fun k t ht hk hb => ?_⟩⟩
  rcases ho.behind k t ht hk hb with hf | ⟨v, hv, hkv, hbv⟩
  · exact hf
  · rcases h.phase with hnone | ⟨-, hfinal⟩
    · exact (hnone k v hv hkv).elim
    · exact (ho.final (hfinal k v hv hkv hbv)).1

/-- Only a call starts a `close`. -/
theorem no_close_step {c c' : Client} {a : Action}
    (h : ∀ (k : Nat) (t : AsyncTask), c.tasks[k]? = some t → t.kind ≠ .close)
    (hne : ∀ args, a ≠ .close args) (hs : c.step a = some c') :
    ∀ (k : Nat) (t : AsyncTask), c'.tasks[k]? = some t → t.kind ≠ .close := by
  have hmoved : ∀ {k kind w p}, kind ≠ .close → Client.Moved c c' k kind w p →
      ∀ (j : Nat) (u : AsyncTask), c'.tasks[j]? = some u → u.kind ≠ .close := by
    intro k kind w p hk hm j u hu
    rcases hm.tasks j u hu with ⟨-, hkind, -⟩ | ⟨-, v, hv, hkind, -⟩
    · rw [hkind]
      exact hk
    · rw [hkind]
      exact h j v hv
  rcases Client.step_cases hs with ⟨d, rfl, rfl⟩ | ⟨l, rfl, rfl⟩ | ⟨rfl, rfl⟩ | ⟨args, rfl, rfl⟩ |
    ⟨k, t, rfl, ht, -, hst, rfl⟩ | ⟨k, t, m, ht, hm, rfl⟩
  · exact h
  · exact h
  · exact hmoved (by simp) Client.moved_enter
  · exact (hne args rfl).elim
  · exact Client.each_start (L := fun _ _ t => t.kind ≠ .close) h ht (h k t ht) (fun _ => by simp)
      (fun _ => by simp) (fun _ _ => by simp) (fun _ _ _ _ => id)
  · exact hmoved (h k t ht) (Client.moved_run (List.getElem?_eq_some_iff.mp ht).1)

/-- One patient step. -/
theorem Attends.step {c c' : Client} {a : Action} (h : Attends c) (ho : Patient c a)
    (hs : c.step a = some c') : Attends c' := by
  have hw := h.wired.step hs
  by_cases hcall : ∃ args, a = .close args
  · obtain ⟨args, rfl⟩ := hcall
    obtain rfl := Option.some.inj hs
    exact h.of_outcome hw (.close h.wired (h.phase.imp id And.left) ho args)
  · have hne : ∀ args, a ≠ .close args := fun args ha => hcall ⟨args, ha⟩
    rcases h.phase with hnone | ⟨hclosing, -⟩
    · exact ⟨hw, .inl (no_close_step hnone hne hs)⟩
    · exact h.of_outcome hw (hclosing.step h.wired ho hne hs)

/-- A patient step behind the return of a `close`. -/
theorem Attends.final_step {c c' : Client} {a : Action} (h : Attends c) (hclosing : Closing c)
    (hf : Final c) (ho : Patient c a) (hs : c.step a = some c') :
    Closing c' ∧ Final c' ∧ Adds c.shared c'.shared := by
  have hout : Outcome c c' := by
    by_cases hcall : ∃ args, a = .close args
    · obtain ⟨args, rfl⟩ := hcall
      obtain rfl := Option.some.inj hs
      exact .close h.wired (.inr hclosing) ho args
    · exact hclosing.step h.wired ho (fun args ha => hcall ⟨args, ha⟩) hs
  exact ⟨hout.closing, hout.final hf⟩

theorem attends_init (settings : Settings) (backoff : BackoffConfig) :
    Attends (Client.init settings backoff) :=
  ⟨wired_init settings backoff, .inl (fun _ _ h => (by cases h))⟩

/-- **A `close` that has returned is final**, in every run whose steps are patient. -/
theorem close_final (settings : Settings) (backoff : BackoffConfig) (as bs : List Action)
    (h : Meets Client.step Patient (Client.init settings backoff) (as ++ bs)) (c : Client)
    (he : exec Client.step (Client.init settings backoff) as = some c) (hr : Returned c) :
    Always Client.step (Over c) c bs := by
  have hattends : Attends c :=
    (always_of_meets (fun _ _ _ hc ho hs => hc.step ho hs) (attends_init settings backoff)
      h.take).last he
  obtain ⟨k, t, ht, hk, hp⟩ := hr
  obtain ⟨hclosing, hfinal⟩ : Closing c ∧ Final c := by
    rcases hattends.phase with hnone | ⟨hclosing, hfinal⟩
    · exact (hnone k t ht hk).elim
    · exact ⟨hclosing, hfinal k t ht hk (by rw [hp]; rfl)⟩
  refine (always_of_meets (I := fun c' => Attends c' ∧ Closing c' ∧ Final c' ∧
    Adds c.shared c'.shared) (fun c₁ a c₂ hc ho hs => ?_) ⟨hattends, hclosing, hfinal, .refl⟩
    (h.drop he)).mono (fun c' hc => ⟨hc.2.2.1.closed, hc.2.2.1.clear, hc.2.2.2⟩)
  obtain ⟨ha, hcl, hf, hadds⟩ := hc
  obtain ⟨hcl', hf', hadds'⟩ := ha.final_step hcl hf ho hs
  exact ⟨ha.step ho hs, hcl', hf', hadds.trans hadds'⟩

/-- The steps of tasks that are at neither of the two timers. -/
theorem patient_of_free {c : Client} {k : Nat} {t : AsyncTask} (ht : c.tasks[k]? = some t)
    (h : t.point ≠ .timeoutEmit ∧ t.point ≠ .ageEmit) : Patient c (.resume k) := by
  intro u hu _ hp
  obtain rfl := Option.some.inj (ht.symm.trans hu)
  exact (hp.elim h.1 h.2).elim

/-- The user closes behind `connectRun`, as task 2, and the peer answers. -/
def closeRun : List Action :=
  connectRun ++ [.close ⟨normal, ""⟩, .resume 2, .resume 2, .resume 2, .closeDone 2, .resume 1,
    .resume 2, .resume 2, .resume 2]

/-- The first connection can be closed. -/
theorem closable_connected {c : Client} {t u : AsyncTask} (h : c.tasks = [t, u])
    (ht : t.point = .done false) (hu : u.kind = .messageLoop ∧ u.point = .receiving 0)
    (hs : c.shared.state = .connected) (hm : c.shared.messageTask = some 1)
    (ha : Attended c.shared) : Closable c := by
  have htasks : ∀ (k : Nat) (v : AsyncTask), c.tasks[k]? = some v →
      (k = 0 ∧ v = t) ∨ (k = 1 ∧ v = u) := by
    intro k v hv
    rw [h] at hv
    match k, hv with
    | 0, hv => exact .inl ⟨rfl, (Option.some.inj hv).symm⟩
    | 1, hv => exact .inr ⟨rfl, (Option.some.inj hv).symm⟩
  refine ⟨by simp [hs], fun k v hv => ?_, fun k v hv hf => ?_, ha, .inl (fun k v hv => ?_),
    fun hc => by rw [hs] at hc; cases hc⟩
  · rcases htasks k v hv with ⟨-, rfl⟩ | ⟨-, rfl⟩
    · simp [ht, Point.place]
    · simp [hu.2, Point.place]
  · rcases htasks k v hv with ⟨-, rfl⟩ | ⟨rfl, rfl⟩
    · simp [ht, Point.place] at hf
    · exact ⟨hu.1, hm⟩
  · rcases htasks k v hv with ⟨-, rfl⟩ | ⟨-, rfl⟩
    · simp [ht, Point.inClose, Point.place]
    · simp [hu.2, Point.inClose, Point.place]

/-- The user closes a connection, and calls `connect` again. -/
theorem close_final_connected : ∃ c, exec Client.step (Client.init plainSettings plainBackoff)
    closeRun = some c ∧ Always Client.step (Over c) c [.connect] := by
  refine ⟨_, rfl, ?_⟩
  refine close_final plainSettings plainBackoff closeRun [.connect] ?_ _ rfl ⟨2, _, rfl, rfl, rfl⟩
  refine .cons rfl (fun h => by cases h) (.cons rfl ?_ (.cons rfl ?_ (.cons rfl trivial (.cons rfl
    trivial (.cons rfl ?_ (.cons rfl ?_ (.cons rfl ?_ (.cons rfl ?close (.cons rfl ?_ (.cons rfl ?_
    (.cons rfl ?_ (.cons rfl trivial (.cons rfl ?_ (.cons rfl ?_ (.cons rfl ?_ (.cons rfl ?_ (.cons rfl
    (fun _ => ⟨fun h => (by cases h), fun h => (by cases h)⟩) trivial)))))))))))))))))
  case close =>
    refine closable_connected rfl rfl ⟨rfl, rfl⟩ rfl rfl (fun l hl => ?_)
    match l, hl with
    | 0, _ => exact ⟨rfl, rfl, rfl⟩
  all_goals exact patient_of_free rfl ⟨fun h => (by cases h), fun h => (by cases h)⟩

/-- The user closes while the first task is in `transport.connect`. -/
def earlyCloseRun : List Action :=
  [.connect, .resume 0, .resume 0, .close ⟨normal, ""⟩, .resume 1, .resume 1, .resume 1]

/-- The attempt goes on behind the return of `close`, and the socket opens. -/
theorem close_overtaken : ∃ c, exec Client.step (Client.init plainSettings plainBackoff)
    earlyCloseRun = some c ∧ Returned c ∧
      ¬ Always Client.step (Over c) c [.opened 0, .attempt 0 .connected] := by
  refine ⟨_, rfl, ⟨1, _, rfl, rfl, rfl⟩, fun h => ?_⟩
  have hopened : Over _ _ := (h.2 _ rfl).head
  cases hopened.shut 0

end JetSocket.Manager
