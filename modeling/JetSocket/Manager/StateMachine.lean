import JetSocket.Manager.Client

/- The transitions `_set_state` performs, against the table `VALID_TRANSITIONS`.

   At most one coroutine at a time drives the connection: it is on its way to another
   state, in `_connect_internal`, `_schedule_reconnect`, `_handle_disconnect` or in `close`
   before `DISCONNECTING`. `Expects` is what a suspended coroutine relies on; for the
   driver it fixes the state, and for a `close` past that point it says the state is one
   that leads to `CLOSED`.

   Results:
     `states_lawful`      — in a run whose steps are all `Orderly`, every transition is in
                            the table.
     `retry_unlisted`     — a first attempt that fails takes CONNECTING to RECONNECTING,
                            which is not. -/
namespace JetSocket.Manager
open JetSocket.Transport TaskPool Transition

/-- Every transition performed so far is listed. -/
def Lawful (ws : WebSocket) : Prop :=
  ∀ a b, Event.stateChange a b ∈ ws.emitted → isValidTransition a b = true

namespace Point

/-- The coroutine is on its way to another state. -/
def drives : Point → Bool
  | .connectingState | .connectingEmit | .opening _ | .handshaking _ | .errorEmit _
  | .reconnectedEmit | .connectedState _ | .connectedEmit _ | .replaying
  | .reconnectingState | .reconnectingEmit _ | .backingOffState _ | .sleeping _
  | .stoppingHeartbeat _ _ | .cancellingAge _ _ | .disconnectedState _ | .disconnectedEmit _
  | .closingEmit _ => true
  | _ => false

end Point

/-- A `close` is past `DISCONNECTING`, and the state leads to `CLOSED`. -/
def Late (ws : WebSocket) : Prop :=
  ws.userClosed = true ∧ (ws.state = .disconnecting ∨ ws.state = .disconnected ∨
    ws.state = .backingOff ∨ ws.state = .closed)

/-- What coroutine `k` relies on where it is suspended. -/
def Expects (ws : WebSocket) (k : Nat) : Point → Prop
  | .connectingState | .connectingEmit | .opening _ | .handshaking _ | .errorEmit _
  | .reconnectedEmit => ws.state = .connecting
  | .connectedState _ | .connectedEmit _ | .replaying => ws.state = .connected
  | .reconnectingState | .reconnectingEmit _ => ws.state = .reconnecting
  | .backingOffState _ | .sleeping _ =>
    ws.state = .backingOff ∨ (ws.state = .closed ∧ ws.userClosed = true)
  | .stoppingHeartbeat _ _ | .cancellingAge _ _ =>
    ws.state = .connected ∨ (ws.state = .disconnecting ∧ ws.messageTask = some k)
  | .disconnectedState _ | .disconnectedEmit _ =>
    ws.state = .disconnected ∨ (ws.state = .closed ∧ ws.userClosed = true)
  | .closingEmit _ => ws.userClosed = true ∧ ws.state = .connected
  | .disconnectingState _ | .closeStopping _ _ | .closeCancellingAge _ _
  | .callingTransport _ _ | .closingTransport _ _ => Late ws
  | .closeAwaitingMessage _ t =>
    Late ws ∧ (ws.messageTask = some t ∨ ws.messageTask = none)
  | _ => True

/-! ## The condition -/

/-- The message loop's next `recv` is refused. -/
def recvRefused (ws : WebSocket) : Bool :=
  ws.running && ws.state = .connected &&
    match ws.transport with
    | some l => !ws.isConnected l
    | none => false

/-- The step takes the coroutine into `_handle_disconnect`. -/
def disconnects (ws : WebSocket) : Action → Point → Bool
  | .closeFrame _ _, .receiving _ | .lossSeen _, .receiving _ => true
  | .handle _ .applicationPong, .handling _ .raw => recvRefused ws
  | .resume _, .fatalErrorEmit _ | .resume _, .timeoutEmit | .resume _, .ageEmit => true
  | .resume _, .loopStart => recvRefused ws
  | .resume _, .handling _ stage => stage != .raw && stage != .overflow && recvRefused ws
  | _, _ => false

/-- No other task than `k` drives. -/
def AloneDriving (c : Client) (k : Nat) : Prop :=
  ∀ (j : Nat) (u : AsyncTask), j ≠ k → c.tasks[j]? = some u → u.point.drives = false

/-- The connection may be given up now by task `k`: it is connected and nothing else is
under way, or it is being closed and `k` is its message loop. -/
def MayDisconnect (c : Client) (k : Nat) : Prop :=
  (c.shared.state = .connected ∨
    (c.shared.state = .disconnecting ∧ c.shared.messageTask = some k)) ∧ AloneDriving c k

/-- The steps that keep to the table. -/
def Orderly (c : Client) (a : Action) : Prop :=
  match a with
  | .connect => c.shared.state ≠ .disconnected
  | .close _ =>
    c.shared.state ≠ .idle ∧ c.shared.state ≠ .connecting ∧ c.shared.state ≠ .reconnecting ∧
      (c.shared.state = .connected →
        ∀ (j : Nat) (u : AsyncTask), c.tasks[j]? = some u → u.point.drives = false)
  | a =>
    ∀ (k : Nat) (t : AsyncTask), Client.actor a = some k → c.tasks[k]? = some t →
      t.cancelled = false →
      (disconnects c.shared a t.point = true → MayDisconnect c k) ∧
      (∀ e, a = .resume k → t.point = .errorEmit e → isFatalError e = true ∨
        c.shared.settings.reconnect = false ∨ c.shared.backoff.exhausted = true) ∧
      (∀ loss, a = .resume k → t.point = .disconnectedEmit loss →
        c.shared.backoff.exhausted = true → c.shared.settings.reconnect = false ∨
          c.shared.userClosed = true)

/-! ## Moves -/

section Moves
variable {w : WebSocket} {k : Nat}

/-- Another event than a change of state. -/
theorem Lawful.log (h : Lawful w) {e : Event} (he : ∀ a b, e ≠ .stateChange a b) :
    Lawful (w.log e) := by
  intro a b hab
  rcases List.mem_append.mp hab with hab | hab
  · exact h a b hab
  · exact (he a b (List.mem_singleton.mp hab).symm).elim

/-- A listed transition. -/
theorem Lawful.change (h : Lawful w) {s : ConnectionState} {p : Point}
    (hs : isValidTransition w.state s = true) :
    Lawful ({ w with state := s }.emitAt (.stateChange w.state s) p).ws := by
  intro a b hab
  rcases List.mem_append.mp hab with hab | hab
  · exact h a b hab
  · obtain ⟨rfl, rfl⟩ := Event.stateChange.inj (List.mem_singleton.mp hab)
    exact hs

/-- What a move does to the state, as the others see it: it keeps what a late `close`
relies on. -/
structure Drives (w : WebSocket) (k : Nat) (m : Move) : Prop where
  lawful : Lawful m.ws
  expects : Expects m.ws k m.point
  late : Late w → Late m.ws
  messageTask : m.ws.messageTask = w.messageTask

/-- The move leaves the state alone. -/
structure Quiet (w : WebSocket) (k : Nat) (m : Move) : Prop where
  lawful : Lawful m.ws
  expects : Expects m.ws k m.point
  state : m.ws.state = w.state
  userClosed : m.ws.userClosed = w.userClosed
  messageTask : m.ws.messageTask = w.messageTask

theorem Quiet.drives {m : Move} (h : Quiet w k m) : Drives w k m := by
  refine ⟨h.lawful, h.expects, fun hl => ?_, h.messageTask⟩
  unfold Late at hl ⊢
  rwa [h.state, h.userClosed]

/-- Suspended in handlers, the state as it was. -/
theorem Quiet.emitAt (h : Lawful w) {e : Event} {p : Point} (he : ∀ a b, e ≠ .stateChange a b)
    (hp : Expects w k p) : Quiet w k (w.emitAt e p) := by
  refine ⟨h.log he, ?_, rfl, rfl, rfl⟩
  cases p <;> exact hp

theorem Quiet.goto (h : Lawful w) {p : Point} (hp : Expects w k p) : Quiet w k (w.goto p) :=
  ⟨h, hp, rfl, rfl, rfl⟩

theorem Quiet.finish (h : Lawful w) : Quiet w k w.finish := .goto h trivial

theorem Quiet.raise (h : Lawful w) : Quiet w k w.raise := .goto h trivial

/-- A move seen from a state that differs in nothing the others rely on. -/
theorem Drives.from {w' : WebSocket} {m : Move} (h : Drives w' k m) (hl : Late w → Late w')
    (hm : w'.messageTask = w.messageTask) : Drives w k m :=
  ⟨h.lawful, h.expects, fun hw => h.late (hl hw), h.messageTask.trans hm⟩

/-- The driver takes a listed transition. -/
theorem drives_setState (h : Lawful w) {s : ConnectionState} {p : Point}
    {next : WebSocket → Move} (hs : isValidTransition w.state s = true)
    (hp : Expects { w with state := s } k p) (hl : Late w → Late { w with state := s }) :
    Drives w k (w.setState s p next) := by
  refine WebSocket.setState_cases (Q := Drives w k) (fun he => ?_) (fun _ => ?_)
  · rw [he] at hs
    cases s <;> cases hs
  · refine ⟨h.change (p := p) hs, ?_, hl, rfl⟩
    cases p <;> exact hp

/-! ### The driver -/

theorem announceReconnecting_quiet (h : Lawful w) (hs : w.state = .reconnecting) :
    Quiet w k w.announceReconnecting := by
  unfold WebSocket.announceReconnecting
  split
  · exact .raise h
  · rename_i backoff delay _
    exact ⟨Lawful.log (w := { w with backoff }) h (fun _ _ => by simp), hs, rfl, rfl, rfl⟩

theorem scheduleReconnect_drives (h : Lawful w) (hl : ¬ Late w)
    (hx : w.backoff.exhausted = true → isValidTransition w.state .failed = true)
    (hr : w.backoff.exhausted = false → isValidTransition w.state .reconnecting = true) :
    Drives w k w.scheduleReconnect := by
  unfold WebSocket.scheduleReconnect
  split
  · rename_i he
    exact drives_setState h (hx he) trivial (fun hw => (hl hw).elim)
  · rename_i he
    exact drives_setState h (hr (by simpa using he)) rfl (fun hw => (hl hw).elim)

theorem connectInternal_drives (h : Lawful w) (hl : ¬ Late w)
    (hs : isValidTransition w.state .connecting = true) : Drives w k w.connectInternal :=
  .from (drives_setState (w := { w with attempt := w.attempt + 1 }) h hs rfl
    (fun hw => (hl hw).elim)) id rfl

theorem afterBackoff_drives (h : Lawful w)
    (hs : w.state = .backingOff ∨ (w.state = .closed ∧ w.userClosed = true)) :
    Drives w k w.afterBackoff := by
  unfold WebSocket.afterBackoff
  split
  · exact (Quiet.finish h).drives
  · rename_i hgo
    have hopen : w.userClosed = false := by
      cases hu : w.userClosed
      · rfl
      · simp [hu] at hgo
    have hstate : w.state = .backingOff := by
      rcases hs with hs | ⟨-, hu⟩
      · exact hs
      · rw [hopen] at hu
        cases hu
    refine connectInternal_drives h (fun hl => ?_) (by rw [hstate]; rfl)
    rw [hl.1] at hopen
    cases hopen

theorem connectFailed_quiet (h : Lawful w) (hs : w.state = .connecting) (e : Exc) :
    Quiet w k (w.connectFailed e) := by
  unfold WebSocket.connectFailed
  split
  · exact ⟨Lawful.log (w := { w with lastError := some e }) h (fun _ _ => by simp), hs, rfl, rfl,
      rfl⟩
  · exact .raise h

theorem afterError_drives (h : Lawful w) (hs : w.state = .connecting) (e : Exc)
    (hx : isFatalError e = true ∨ w.settings.reconnect = false ∨ w.backoff.exhausted = true) :
    Drives w k (w.afterError e) := by
  have hl : ¬ Late w := fun hl => by simp [Late, hs] at hl
  have hfailed : isValidTransition w.state .failed = true := by rw [hs]; rfl
  unfold WebSocket.afterError
  split
  · exact drives_setState h hfailed trivial (fun hw => (hl hw).elim)
  · rename_i hf
    split
    · rename_i hr
      have hex : w.backoff.exhausted = true := by
        rcases hx with hx | hx | hx
        · exact (hf hx).elim
        · rw [hx] at hr
          cases hr
        · exact hx
      exact scheduleReconnect_drives h hl (fun _ => hfailed)
        (fun he => by rw [hex] at he; cases he)
    · exact drives_setState h hfailed trivial (fun hw => (hl hw).elim)

theorem established_drives (h : Lawful w) (hs : w.state = .connecting) (isReconnect : Bool) :
    Drives w k (w.established isReconnect) := by
  have hl : ¬ Late w := fun hl => by simp [Late, hs] at hl
  exact .from (drives_setState
    (w := { w with backoff := w.backoff.success w.now, lastError := none }) h (by rw [hs]; rfl) rfl
    (fun hw => (hl hw).elim)) id rfl

theorem connectReturned_drives (h : Lawful w) (hs : w.state = .connecting) :
    Drives w k w.connectReturned := by
  unfold WebSocket.connectReturned
  split
  · exact Quiet.drives (.emitAt h (fun _ _ => by simp) hs)
  · exact established_drives h hs false

theorem beginBackoff_drives (h : Lawful w) (hs : w.state = .reconnecting) (delay : ℚ) :
    Drives w k (w.beginBackoff delay) := by
  have hl : ¬ Late w := fun hl => by simp [Late, hs] at hl
  exact drives_setState h (by rw [hs]; rfl) (.inl rfl) (fun hw => (hl hw).elim)

/-! ### Giving the connection up -/

/-- `DISCONNECTED`, from where it may be reached. -/
theorem toDisconnected_drives (h : Lawful w) {loss : Loss} {next : WebSocket → Move}
    (hs : w.state = .connected ∨ w.state = .disconnecting) :
    Drives w k (w.setState .disconnected (.disconnectedState loss) next) := by
  refine drives_setState h ?_ (.inl rfl) (fun hl => ⟨hl.1, .inr (.inl rfl)⟩)
  rcases hs with hs | hs <;> rw [hs] <;> rfl

theorem cancelAge_drives (h : Lawful w) (loss : Loss)
    (hs : w.state = .connected ∨ (w.state = .disconnecting ∧ w.messageTask = some k)) :
    Drives w k (w.cancelAge loss) := by
  unfold WebSocket.cancelAge
  split
  · exact ⟨h, hs, id, rfl⟩
  · exact toDisconnected_drives h (hs.imp id And.left)

theorem handleDisconnect_drives (h : Lawful w) (loss : Loss)
    (hs : w.state = .connected ∨ (w.state = .disconnecting ∧ w.messageTask = some k)) :
    Drives w k (w.handleDisconnect loss) := by
  unfold WebSocket.handleDisconnect
  split
  · dsimp only
    split
    · exact ⟨h, hs, id, rfl⟩
    · exact .from (cancelAge_drives (w := w.setBeat _ _) h loss hs) id rfl
  · exact cancelAge_drives h loss hs

theorem lost_drives (h : Lawful w) (msg : String)
    (hs : w.state = .connected ∨ (w.state = .disconnecting ∧ w.messageTask = some k)) :
    Drives w k (w.lost msg) :=
  .from (handleDisconnect_drives (w := { w with lastError := some (.connectionError msg) }) h _ hs)
    id rfl

theorem afterStop_drives (h : Lawful w) (loss : Loss)
    (hs : w.state = .connected ∨ (w.state = .disconnecting ∧ w.messageTask = some k)) :
    Drives w k (w.afterStop loss) := by
  unfold WebSocket.afterStop
  split
  · exact cancelAge_drives h loss hs
  · exact (Quiet.raise h).drives

theorem afterAge_drives (h : Lawful w) (loss : Loss)
    (hs : w.state = .connected ∨ (w.state = .disconnecting ∧ w.messageTask = some k)) :
    Drives w k (w.afterAge loss) :=
  .from (toDisconnected_drives (w := { w with ageTask := none }) h (hs.imp id And.left)) id rfl

theorem afterDisconnected_drives (h : Lawful w) (loss : Loss)
    (hs : w.state = .disconnected ∨ (w.state = .closed ∧ w.userClosed = true))
    (hx : w.backoff.exhausted = true →
      w.settings.reconnect = false ∨ w.userClosed = true) :
    Drives w k (w.afterDisconnected loss) := by
  unfold WebSocket.afterDisconnected
  split
  · rename_i hgo
    simp only [Bool.and_eq_true, Bool.not_eq_true'] at hgo
    obtain ⟨⟨hr, hu⟩, -⟩ := hgo
    have hstate : w.state = .disconnected := by
      rcases hs with hs | ⟨-, hc⟩
      · exact hs
      · rw [hu] at hc
        cases hc
    refine scheduleReconnect_drives h (fun hl => ?_) (fun he => ?_) (fun _ => by rw [hstate]; rfl)
    · rw [hl.1] at hu
      cases hu
    · rcases hx he with hc | hc
      · rw [hr] at hc
        cases hc
      · rw [hu] at hc
        cases hc
  · rcases hs with hs | ⟨hs, -⟩
    · exact drives_setState h (by rw [hs]; rfl) trivial (fun hl => ⟨hl.1, .inr (.inr (.inr rfl))⟩)
    · -- another `close` has set CLOSED
      refine WebSocket.setState_cases (Q := Drives w k) (fun _ => ?_)
        (fun hne => (hne hs).elim)
      exact Quiet.drives (.emitAt h (fun _ _ => by simp) trivial)

/-! ### The loops -/

/-- The state stays, and the coroutine is not the driver afterwards. -/
structure Passive (w : WebSocket) (k : Nat) (m : Move) : Prop extends Quiet w k m where
  idle : m.point.drives = false

theorem Passive.emitAt (h : Lawful w) {e : Event} {p : Point} (he : ∀ a b, e ≠ .stateChange a b)
    (hp : Expects w k p) (hd : p.drives = false) : Passive w k (w.emitAt e p) :=
  ⟨Quiet.emitAt h he hp, hd⟩

theorem Passive.goto (h : Lawful w) {p : Point} (hp : Expects w k p) (hd : p.drives = false) :
    Passive w k (w.goto p) := ⟨Quiet.goto h hp, hd⟩

theorem Passive.finish (h : Lawful w) : Passive w k w.finish := .goto h trivial rfl

theorem Passive.raise (h : Lawful w) : Passive w k w.raise := .goto h trivial rfl

theorem loopTop_passive (h : Lawful w) (hr : recvRefused w = false) : Passive w k w.loopTop := by
  unfold WebSocket.loopTop
  split
  · rename_i hgo
    split
    · exact ⟨⟨Lawful.log (w := { w with lastError := _ }) h (fun _ _ => by simp), trivial, rfl, rfl,
        rfl⟩, rfl⟩
    · rename_i l hl
      split
      · exact .goto h trivial rfl
      · rename_i hc
        unfold recvRefused at hr
        rw [hgo, hl] at hr
        simp [hc] at hr
  · exact .finish h

theorem loopTop_refused (h : Lawful w) (hr : recvRefused w = true)
    (hs : w.state = .connected ∨ (w.state = .disconnecting ∧ w.messageTask = some k)) :
    Drives w k w.loopTop := by
  unfold recvRefused at hr
  unfold WebSocket.loopTop
  split
  · split
    · rename_i hl
      simp [hl] at hr
    · rename_i l hl
      split
      · rename_i hc
        simp [hl, hc] at hr
      · exact lost_drives h _ hs
  · rename_i hgo
    simp only [Bool.and_eq_true] at hr hgo
    exact (hgo hr.1).elim

theorem received_passive (h : Lawful w) (l : Nat) (isPong : Bool) :
    Passive w k (w.received l isPong) := by
  unfold WebSocket.received
  split
  · exact .emitAt h (fun _ _ => by simp) trivial rfl
  · exact .emitAt h (fun _ _ => by simp) trivial rfl

theorem sendPing_passive (h : Lawful w) (j : Nat) : Passive w k (w.sendPing j) := by
  unfold WebSocket.sendPing
  split
  · exact .finish h
  · split
    · exact .goto h trivial rfl
    · split
      · exact .goto h trivial rfl
      · split
        · exact .emitAt h (fun _ _ => by simp) trivial rfl
        · exact .raise h

theorem pongArrived_passive (h : Lawful w) (j : Nat) : Passive w k (w.pongArrived j) := by
  unfold WebSocket.pongArrived
  split
  · exact .goto h trivial rfl
  · exact .finish h

theorem pongTimedOut_passive (h : Lawful w) (j : Nat) : Passive w k (w.pongTimedOut j) := by
  unfold WebSocket.pongTimedOut
  split
  · exact .emitAt h (fun _ _ => by simp) trivial rfl
  · exact .finish h

theorem ageOver_passive (h : Lawful w) : Passive w k w.ageOver := by
  unfold WebSocket.ageOver
  split
  · exact .emitAt h (fun _ _ => by simp) trivial rfl
  · exact .finish h

theorem disconnectTransport_drives (h : Lawful w) (loss : Loss)
    (hs : w.state = .connected ∨ (w.state = .disconnecting ∧ w.messageTask = some k)) :
    Drives w k (w.disconnectTransport.handleDisconnect loss) := by
  unfold WebSocket.disconnectTransport
  split
  · exact .from (handleDisconnect_drives (w := w.setLink _ _) h loss hs) id rfl
  · exact handleDisconnect_drives h loss hs

/-! ### close -/

/-- A move of a `close` past DISCONNECTING: the state stays, or becomes CLOSED with no
message task left. -/
structure Closes (w : WebSocket) (m : Move) : Prop where
  lawful : Lawful m.ws
  expects : ∀ k, Expects m.ws k m.point
  idle : m.point.drives = false
  userClosed : m.ws.userClosed = w.userClosed
  ends : (m.ws.state = w.state ∧ m.ws.messageTask = w.messageTask) ∨
    (m.ws.state = .closed ∧ w.messageTask = none ∧ m.ws.messageTask = none)

theorem Closes.from {w' : WebSocket} {m : Move} (h : Closes w' m) (hs : w'.state = w.state)
    (hu : w'.userClosed = w.userClosed) (hm : w'.messageTask = w.messageTask) : Closes w m :=
  ⟨h.lawful, h.expects, h.idle, h.userClosed.trans hu, by rw [← hs, ← hm]; exact h.ends⟩

/-- Suspended, nothing changed. -/
theorem Closes.stay (h : Lawful w) {p : Point} {cancel : Option Nat} (hp : ∀ k, Expects w k p)
    (hd : p.drives = false) : Closes w { ws := w, point := p, cancel } :=
  ⟨h, hp, hd, rfl, .inl ⟨rfl, rfl⟩⟩

theorem closeLast_closes (h : Lawful w) (hl : Late w) (hm : w.messageTask = none)
    (args : CloseArgs) : Closes w (w.closeLast args) := by
  refine WebSocket.setState_cases (Q := Closes w) (fun _ => ?_) (fun hne => ?_)
  · exact ⟨h.log (fun _ _ => by simp), fun _ => trivial, rfl, rfl, .inl ⟨rfl, rfl⟩⟩
  · refine ⟨h.change (p := .done false) ?_, fun _ => trivial, rfl, rfl, .inr ⟨rfl, hm, hm⟩⟩
    rcases hl.2 with hs | hs | hs | hs
    · rw [hs]; rfl
    · rw [hs]; rfl
    · rw [hs]; rfl
    · exact (hne hs).elim

theorem closeMessageTask_closes (h : Lawful w) (hl : Late w) (args : CloseArgs) :
    Closes w (w.closeMessageTask args) := by
  unfold WebSocket.closeMessageTask
  split
  · rename_i task hm
    exact .stay h (fun _ => ⟨hl, .inl hm⟩) rfl
  · rename_i hm
    exact closeLast_closes h hl hm args

theorem closeTransport_closes (h : Lawful w) (hl : Late w) (args : CloseArgs) :
    Closes w (w.closeTransport args) := by
  unfold WebSocket.closeTransport
  split
  · exact .stay h (fun _ => hl) rfl
  · exact closeMessageTask_closes h hl args

theorem closeCalled_closes (h : Lawful w) (hl : Late w) (args : CloseArgs) (l : Nat) :
    Closes w (w.closeCalled args l) := by
  unfold WebSocket.closeCalled
  split
  · exact .from (closeMessageTask_closes (w := { w with transport := none }) h hl args) rfl rfl rfl
  · exact .from (.stay (w := w.setLink l _) h (fun _ => hl) rfl) rfl rfl rfl

theorem closeReturned_closes (h : Lawful w) (hl : Late w) (args : CloseArgs) (l : Nat) :
    Closes w (w.closeReturned args l) :=
  .from (closeMessageTask_closes (w := { w.setLink l _ with transport := none }) h hl args)
    rfl rfl rfl

theorem closeCutOff_closes (h : Lawful w) (hl : Late w) (args : CloseArgs) :
    Closes w (w.closeCutOff args) :=
  .from (closeMessageTask_closes (w := { w with transport := none }) h hl args) rfl rfl rfl

theorem closeAge_closes (h : Lawful w) (hl : Late w) (args : CloseArgs) :
    Closes w (w.closeAge args) := by
  unfold WebSocket.closeAge
  split
  · exact .stay h (fun _ => hl) rfl
  · exact closeTransport_closes h hl args

theorem closeHeartbeat_closes (h : Lawful w) (hl : Late w) (args : CloseArgs) :
    Closes w (w.closeHeartbeat args) := by
  unfold WebSocket.closeHeartbeat
  split
  · dsimp only
    split
    · exact .from (.stay (w := w.setBeat _ _) h (fun _ => hl) rfl) rfl rfl rfl
    · exact .from (closeAge_closes (w := { w.setBeat _ _ with heartbeat := none }) h hl args)
        rfl rfl rfl
  · exact closeAge_closes h hl args

/-! ## What the others rely on -/

/-- Nothing they rely on has changed. -/
theorem expects_quiet {w' : WebSocket} {p : Point} (hs : w'.state = w.state)
    (hu : w'.userClosed = w.userClosed) (hm : w'.messageTask = w.messageTask)
    (h : Expects w k p) : Expects w' k p := by
  cases p <;> simp only [Expects, Late, hs, hu, hm] at h ⊢ <;> exact h

/-- The driver's move, seen by another task. -/
theorem expects_late {w' : WebSocket} {p : Point} (hp : p.drives = false)
    (hl : Late w → Late w') (hm : w'.messageTask = w.messageTask) (h : Expects w k p) :
    Expects w' k p := by
  cases p
  case closeAwaitingMessage => exact ⟨hl h.1, by rw [hm]; exact h.2⟩
  all_goals first
    | exact hl h
    | exact trivial
    | cases hp

/-- The move of a late `close`, seen by another task. -/
theorem expects_closes {m : Move} {p : Point} (hc : Closes w m) (hl : Late w)
    (h : Expects w k p) : Expects m.ws k p := by
  rcases hc.ends with ⟨hs, hm⟩ | ⟨hs, hm, hm'⟩
  · exact expects_quiet hs hc.userClosed hm h
  · have hu : m.ws.userClosed = true := hc.userClosed.trans hl.1
    -- The states before DISCONNECTING are excluded by the `close` itself.
    have hstate := hl.2
    cases p
    case closeAwaitingMessage => exact ⟨⟨hu, .inr (.inr (.inr hs))⟩, .inr hm'⟩
    case disconnectingState | closeStopping | closeCancellingAge | callingTransport |
        closingTransport =>
      exact ⟨hu, .inr (.inr (.inr hs))⟩
    case backingOffState | sleeping | disconnectedState | disconnectedEmit => exact .inr ⟨hs, hu⟩
    case stoppingHeartbeat | cancellingAge =>
      rcases h with h | ⟨-, h⟩
      · simp [h] at hstate
      · rw [hm] at h
        cases h
    case closingEmit => simp [h.2] at hstate
    all_goals first
      | exact trivial
      | simp [show w.state = _ from h] at hstate

/-- The user closes: what is closed by the user stays so. -/
theorem expects_userClosed {w' : WebSocket} {p : Point} (hs : w'.state = w.state)
    (hu : w'.userClosed = true) (hm : w'.messageTask = w.messageTask) (h : Expects w k p) :
    Expects w' k p := by
  cases p <;> simp only [Expects, Late, hs, hu, hm, and_true, true_and] at h ⊢ <;> grind

/-- The message task has ended and is forgotten. -/
theorem expects_noMessageTask {p : Point} (hp : w.messageTask = some k → p.drives = false)
    (h : Expects w k p) : Expects { w with messageTask := none } k p := by
  cases p
  case closeAwaitingMessage => exact ⟨h.1, .inr rfl⟩
  case stoppingHeartbeat | cancellingAge =>
    rcases h with h | ⟨-, h⟩
    · exact .inl h
    · cases hp h
  all_goals exact h

/-- Before the first `connect` nobody relies on anything. -/
theorem expects_idle {w' : WebSocket} {p : Point} (hs : w.state = .idle) (h : Expects w k p) :
    p.drives = false ∧ Expects w' k p := by
  cases p <;> simp_all [Expects, Late, Point.drives]

end Moves

/-! ## The invariant -/

/-- The transitions so far are listed, every coroutine finds what it relies on, and at most
one drives. -/
structure Ordered (c : Client) : Prop where
  lawful : Lawful c.shared
  expects : c.Each (fun w k t => Expects w k t.point)
  driver : c.AtMostOne (fun t => t.point.drives)

section Steps
variable {c : Client} {k : Nat} {t : AsyncTask}

/-- A heartbeat behind an exception relies on nothing. -/
theorem expects_settle {w : WebSocket} {kind : Kind} {m : Move} (h : Expects w k m.point) :
    Expects w k (AsyncTask.settle k kind m).point := by
  unfold AsyncTask.settle
  split
  · dsimp only
    split <;> trivial
  · exact h

theorem drives_settle {kind : Kind} {m : Move}
    (h : (AsyncTask.settle k kind m).point.drives = true) : m.point.drives = true := by
  unfold AsyncTask.settle at h
  split at h
  · dsimp only at h
    split at h <;> cases h
  · exact h

/-- The driver's move, or a move to become it. -/
theorem Ordered.drives (h : Ordered c) (ht : c.tasks[k]? = some t) {m : Move}
    (hm : Drives c.shared k m) (halone : t.point.drives = true ∨ AloneDriving c k) :
    Ordered (c.run k t.kind m) := by
  have hothers : AloneDriving c k := by
    rcases halone with hd | ha
    · intro j u hj hu
      by_contra hdu
      exact hj (h.driver.unique hu ht (by simpa using hdu) hd)
    · exact ha
  refine ⟨by simpa using hm.lawful, Client.each_run (fun _ _ _ _ hw => hw) h.expects ht ?_ ?_, ?_⟩
  · exact expects_settle hm.expects
  · exact fun j u hj hu hw => expects_late (hothers j u hj hu) hm.late hm.messageTask hw
  · exact Client.atMostOne_run_take (fun _ _ => rfl) ht hothers

/-- A move that leaves the state alone. -/
theorem Ordered.passive (h : Ordered c) (ht : c.tasks[k]? = some t) {m : Move}
    (hm : Passive c.shared k m) : Ordered (c.run k t.kind m) := by
  refine ⟨by simpa using hm.lawful, Client.each_run (fun _ _ _ _ hw => hw) h.expects ht ?_ ?_, ?_⟩
  · exact expects_settle hm.expects
  · exact fun j u _ _ hw => expects_quiet hm.state hm.userClosed hm.messageTask hw
  · refine Client.atMostOne_run (fun _ _ => rfl) h.driver ht (fun hd => ?_)
    have := drives_settle hd
    rw [hm.idle] at this
    cases this

/-- A move of a late `close`. -/
theorem Ordered.closes (h : Ordered c) (ht : c.tasks[k]? = some t) (hl : Late c.shared) {m : Move}
    (hm : Closes c.shared m) : Ordered (c.run k t.kind m) := by
  refine ⟨by simpa using hm.lawful, Client.each_run (fun _ _ _ _ hw => hw) h.expects ht ?_ ?_, ?_⟩
  · exact expects_settle (hm.expects k)
  · exact fun j u _ _ hw => expects_closes hm hl hw
  · refine Client.atMostOne_run (fun _ _ => rfl) h.driver ht (fun hd => ?_)
    have := drives_settle hd
    rw [hm.idle] at this
    cases this

/-- A late `close` whose message task has ended. -/
theorem Ordered.messageTaskEnded (h : Ordered c) {args : CloseArgs} {u : Nat}
    (ht : c.tasks[k]? = some t) (hp : t.point = .closeAwaitingMessage args u)
    (hu : u = k ∨ ∃ s, c.tasks[u]? = some s ∧ s.live = false) :
    Ordered (c.run k t.kind ({ c.shared with messageTask := none }.closeLast args)) := by
  obtain ⟨hl, hmt⟩ : Late c.shared ∧
      (c.shared.messageTask = some u ∨ c.shared.messageTask = none) := by
    have he := h.expects k t ht
    simp only [hp] at he
    exact he
  -- The forgotten task does not drive: it has ended, or is this `close`.
  have hforgotten : ∀ j s, c.tasks[j]? = some s → c.shared.messageTask = some j →
      s.point.drives = false := by
    intro j s hs hj
    rcases hmt with hmt | hmt
    · obtain rfl : u = j := Option.some.inj (hmt.symm.trans hj)
      rcases hu with rfl | ⟨s', hs', hlive⟩
      · rw [ht] at hs
        cases hs
        rw [hp]
        rfl
      · rw [hs'] at hs
        cases hs
        unfold AsyncTask.live at hlive
        split at hlive
        · rename_i hd
          rw [hd]
          rfl
        · cases hlive
    · rw [hmt] at hj
      cases hj
  have hm := closeLast_closes (w := { c.shared with messageTask := none }) h.lawful hl rfl args
  refine ⟨by simpa using hm.lawful, Client.each_run (fun _ _ _ _ hw => hw) h.expects ht ?_ ?_, ?_⟩
  · exact expects_settle (hm.expects k)
  · intro j s _ hs hw
    exact expects_closes hm hl (expects_noMessageTask (hforgotten j s hs) hw)
  · refine Client.atMostOne_run (fun _ _ => rfl) h.driver ht (fun hd => ?_)
    have := drives_settle hd
    rw [hm.idle] at this
    cases this

/-- The handlers or the sleep of task `k` are over. -/
theorem Ordered.resumed (h : Ordered c) (ht : c.tasks[k]? = some t) (hc : t.cancelled = false)
    (ho : Orderly c (.resume k)) {m : Move} (hm : c.shared.resume k t.point = some m) :
    Ordered (c.run k t.kind m) := by
  obtain ⟨hlose, herror, hexhausted⟩ := ho k t rfl ht hc
  have he : Expects c.shared k t.point := h.expects k t ht
  have hlaw := h.lawful
  -- Before each case: what the coroutine relies on, and that it drives.
  generalize hp : t.point = p at hm he hlose
  have hdrive : p.drives = true → t.point.drives = true := fun hd => by rw [hp]; exact hd
  cases p with
  | connectingState =>
    obtain rfl := Option.some.inj hm
    exact h.drives ht (Quiet.drives (.emitAt hlaw (fun _ _ => by simp) he)) (.inl (hdrive rfl))
  | connectingEmit =>
    obtain rfl := Option.some.inj hm
    exact h.drives ht ⟨hlaw, he, id, rfl⟩ (.inl (hdrive rfl))
  | errorEmit e =>
    obtain rfl := Option.some.inj hm
    exact h.drives ht (afterError_drives hlaw he e (herror e rfl hp)) (.inl (hdrive rfl))
  | failedState e =>
    obtain rfl := Option.some.inj hm
    exact h.passive ht (.raise hlaw)
  | reconnectedEmit =>
    obtain rfl := Option.some.inj hm
    exact h.drives ht (established_drives hlaw he true) (.inl (hdrive rfl))
  | connectedState isReconnect =>
    obtain rfl := Option.some.inj hm
    exact h.drives ht (Quiet.drives (.emitAt hlaw (fun _ _ => by simp) he)) (.inl (hdrive rfl))
  | connectedEmit isReconnect =>
    simp only [WebSocket.resume, WebSocket.afterConnected] at hm
    split at hm
    · obtain rfl := Option.some.inj hm
      exact h.drives ht (Quiet.drives (.emitAt hlaw (fun _ _ => by simp) he)) (.inl (hdrive rfl))
    · cases hm
  | exhaustedState =>
    obtain rfl := Option.some.inj hm
    exact h.passive ht (.emitAt hlaw (fun _ _ => by simp) trivial rfl)
  | exhaustedEmit =>
    obtain rfl := Option.some.inj hm
    exact h.passive ht (.finish hlaw)
  | reconnectingState =>
    obtain rfl := Option.some.inj hm
    exact h.drives ht (announceReconnecting_quiet hlaw he).drives (.inl (hdrive rfl))
  | reconnectingEmit delay =>
    obtain rfl := Option.some.inj hm
    exact h.drives ht (beginBackoff_drives hlaw he delay) (.inl (hdrive rfl))
  | backingOffState delay =>
    obtain rfl := Option.some.inj hm
    exact h.drives ht (Quiet.drives (.goto hlaw he)) (.inl (hdrive rfl))
  | sleeping delay =>
    obtain rfl := Option.some.inj hm
    exact h.drives ht (afterBackoff_drives hlaw he) (.inl (hdrive rfl))
  | disconnectedState loss =>
    obtain rfl := Option.some.inj hm
    exact h.drives ht (Quiet.drives (.emitAt hlaw (fun _ _ => by simp) he)) (.inl (hdrive rfl))
  | disconnectedEmit loss =>
    obtain rfl := Option.some.inj hm
    exact h.drives ht (afterDisconnected_drives hlaw loss he (hexhausted loss rfl hp))
      (.inl (hdrive rfl))
  | closedState loss =>
    obtain rfl := Option.some.inj hm
    exact h.passive ht (.emitAt hlaw (fun _ _ => by simp) trivial rfl)
  | closedEmit =>
    obtain rfl := Option.some.inj hm
    exact h.passive ht (.finish hlaw)
  | loopStart =>
    obtain rfl := Option.some.inj hm
    unfold WebSocket.loopStart
    split
    · exact h.passive ht (.finish hlaw)
    · cases hr : recvRefused c.shared with
      | false => exact h.passive ht (loopTop_passive hlaw hr)
      | true =>
        obtain ⟨hs, halone⟩ := hlose hr
        exact h.drives ht (loopTop_refused hlaw hr hs) (.inr halone)
  | handling l stage =>
    cases stage with
    | raw => cases hm
    | overflow =>
      obtain rfl := Option.some.inj hm
      exact h.passive ht (.emitAt hlaw (fun _ _ => by simp) trivial rfl)
    | message | failed | pong =>
      obtain rfl := Option.some.inj hm
      cases hr : recvRefused c.shared with
      | false => exact h.passive ht (loopTop_passive hlaw hr)
      | true =>
        obtain ⟨hs, halone⟩ := hlose hr
        exact h.drives ht (loopTop_refused hlaw hr hs) (.inr halone)
  | fatalErrorEmit loss =>
    obtain rfl := Option.some.inj hm
    obtain ⟨hs, halone⟩ := hlose rfl
    exact h.drives ht (handleDisconnect_drives hlaw loss hs) (.inr halone)
  | beatSleep =>
    obtain rfl := Option.some.inj hm
    exact h.passive ht (sendPing_passive hlaw k)
  | pingEmit =>
    obtain rfl := Option.some.inj hm
    exact h.passive ht (.goto hlaw trivial rfl)
  | timeoutEmit =>
    obtain rfl := Option.some.inj hm
    obtain ⟨hs, halone⟩ := hlose rfl
    exact h.drives ht (disconnectTransport_drives hlaw _ hs) (.inr halone)
  | ageSleep =>
    obtain rfl := Option.some.inj hm
    exact h.passive ht (ageOver_passive hlaw)
  | ageEmit =>
    obtain rfl := Option.some.inj hm
    obtain ⟨hs, halone⟩ := hlose rfl
    exact h.drives ht (disconnectTransport_drives hlaw _ hs) (.inr halone)
  | closingEmit args =>
    obtain rfl := Option.some.inj hm
    obtain ⟨hu, hs⟩ := he
    refine h.drives ht (drives_setState hlaw (by rw [hs]; rfl) ⟨hu, .inl rfl⟩ (fun hl => ?_))
      (.inl (hdrive rfl))
    exact ⟨hl.1, .inl rfl⟩
  | disconnectingState args =>
    obtain rfl := Option.some.inj hm
    exact h.closes ht he (closeHeartbeat_closes hlaw he args)
  | callingTransport args l =>
    obtain rfl := Option.some.inj hm
    exact h.closes ht he (closeCalled_closes hlaw he args l)
  | closedByUserState args =>
    obtain rfl := Option.some.inj hm
    exact h.passive ht (.emitAt hlaw (fun _ _ => by simp) trivial rfl)
  | closedByUserEmit =>
    obtain rfl := Option.some.inj hm
    exact h.passive ht (.finish hlaw)
  | _ => cases hm

/-- The task that task `k` waited for has ended. -/
theorem Ordered.awaited (h : Ordered c) (ht : c.tasks[k]? = some t) {u : Nat} {raised : Bool}
    (hw : WebSocket.awaits t.point = some u)
    (hu : (u = k ∧ raised = false) ∨ ∃ s, c.tasks[u]? = some s ∧ s.point = .done raised)
    {m : Move} (hm : c.shared.awaited raised t.point = some m) : Ordered (c.run k t.kind m) := by
  have he : Expects c.shared k t.point := h.expects k t ht
  have hlaw := h.lawful
  generalize hp : t.point = p at hm he hw
  have hdrive : p.drives = true → t.point.drives = true := fun hd => by rw [hp]; exact hd
  cases p with
  | stoppingHeartbeat loss task =>
    obtain rfl := Option.some.inj hm
    exact h.drives ht (.from (afterStop_drives (w := c.shared.setBeat _ _) hlaw loss he) id rfl)
      (.inl (hdrive rfl))
  | cancellingAge loss task =>
    obtain rfl := Option.some.inj hm
    split
    · exact h.passive ht (.raise hlaw)
    · exact h.drives ht (afterAge_drives hlaw loss he) (.inl (hdrive rfl))
  | closeStopping args task =>
    obtain rfl := Option.some.inj hm
    exact h.closes ht he (.from (closeAge_closes
      (w := { c.shared.setBeat task _ with heartbeat := none }) hlaw he args) rfl rfl rfl)
  | closeCancellingAge args task =>
    obtain rfl := Option.some.inj hm
    split
    · exact h.passive ht (.raise hlaw)
    · exact h.closes ht he (.from (closeTransport_closes
        (w := { c.shared with ageTask := none }) hlaw he args) rfl rfl rfl)
  | closeAwaitingMessage args task =>
    obtain rfl := Option.some.inj hm
    obtain rfl := Option.some.inj hw
    split
    · exact h.passive ht (.raise hlaw)
    · refine h.messageTaskEnded ht hp ?_
      rcases hu with ⟨huk, -⟩ | ⟨s, hs, hd⟩
      · exact .inl huk
      · exact .inr ⟨s, hs, by rw [AsyncTask.live, hd]⟩
  | _ => cases hm

/-- What task `k` waited for has happened. -/
theorem Ordered.reacts (h : Ordered c) (ht : c.tasks[k]? = some t) {a : Action}
    (ha : Client.actor a = some k) (hc : t.cancelled = false) (ho : Orderly c a) {m : Move}
    (hm : Client.Reacts c.shared k a t.point m) : Ordered (c.run k t.kind m) := by
  have he : Expects c.shared k t.point := h.expects k t ht
  have hlaw := h.lawful
  generalize hp : t.point = p at hm he
  have hdrive : p.drives = true → t.point.drives = true := fun hd => by rw [hp]; exact hd
  cases hm with
  | opened j l => exact h.drives ht ⟨hlaw, he, id, rfl⟩ (.inl (hdrive rfl))
  | connected j l =>
    exact h.drives ht (.from (connectReturned_drives (w := c.shared.setLink l _) hlaw he) id rfl)
      (.inl (hdrive rfl))
  | aborted j l e | unreached j l e =>
    exact h.drives ht (connectFailed_quiet hlaw he e).drives (.inl (hdrive rfl))
  | refused j l e =>
    exact h.drives ht
      (.from (connectFailed_quiet (w := c.shared.setLink l _) hlaw he e).drives id rfl)
      (.inl (hdrive rfl))
  | frame j l isPong => exact h.passive ht (received_passive hlaw l isPong)
  | handle j l outcome =>
    unfold WebSocket.handled
    split
    · cases hr : recvRefused c.shared with
      | false => exact h.passive ht (loopTop_passive hlaw hr)
      | true =>
        obtain ⟨hlose, -⟩ := ho k t ha ht hc
        obtain ⟨hs, halone⟩ := hlose (by rw [hp]; exact hr)
        exact h.drives ht (loopTop_refused hlaw hr hs) (.inr halone)
    all_goals exact h.passive ht (.emitAt hlaw (fun _ _ => by simp) trivial rfl)
  | closeFrame j l code =>
    obtain ⟨hlose, -⟩ := ho k t ha ht hc
    obtain ⟨hs, halone⟩ := hlose (by rw [hp]; rfl)
    exact h.drives ht (.from (lost_drives (w := c.shared.closeFrame l code) hlaw _ hs) id rfl)
      (.inr halone)
  | lossSeen j l =>
    obtain ⟨hlose, -⟩ := ho k t ha ht hc
    obtain ⟨hs, halone⟩ := hlose (by rw [hp]; rfl)
    exact h.drives ht (.from (lost_drives (w := c.shared.setLink l _) hlaw _ hs) id rfl)
      (.inr halone)
  | pong j => exact h.passive ht (pongArrived_passive hlaw k)
  | pongTimeout j => exact h.passive ht (pongTimedOut_passive hlaw k)
  | closeDone j args l => exact h.closes ht he (closeReturned_closes hlaw he args l)
  | closeCut j args l => exact h.closes ht he (closeCutOff_closes hlaw he args)

/-- The connected task starts the message loop. -/
theorem Ordered.start (h : Ordered c) (ht : c.tasks[k]? = some t)
    (hs : c.shared.starts t.point = true) : Ordered (c.start k t.kind) := by
  -- It drives, in state CONNECTED, so no `close` is late.
  obtain ⟨hstate, hd⟩ : c.shared.state = .connected ∧ t.point.drives = true := by
    have he : Expects c.shared k t.point := h.expects k t ht
    generalize t.point = p at hs he
    cases p <;> first
      | exact ⟨he, rfl⟩
      | cases hs
  have hnotLate : ¬ Late c.shared := fun hl => by simp [Late, hstate] at hl
  have hsame : (c.shared.startTasks c.tasks.length).1.emitted = c.shared.emitted := by
    unfold WebSocket.startTasks
    dsimp only
    split <;> split <;> rfl
  refine ⟨fun a b hab => h.lawful a b (hsame ▸ hab), ?_, ?_⟩
  · refine Client.each_start h.expects ht trivial (fun _ => trivial) (fun _ => trivial)
      (fun _ _ => trivial) (fun j u hj hu hw => ?_)
    have hdu : u.point.drives = false := by
      by_contra hdu
      exact hj (h.driver.unique hu ht (by simpa using hdu) hd)
    generalize u.point = p at hw hdu
    cases p <;> first
      | exact trivial
      | exact (hnotLate hw).elim
      | exact (hnotLate hw.1).elim
      | cases hdu
  · refine Client.atMostOne_start h.driver ht ?_
    have hnone : (c.shared.startTasks c.tasks.length).2.countP (fun t => t.point.drives) = 0 := by
      rw [List.countP_eq_zero]
      intro u hu
      obtain ⟨i, hi⟩ := List.mem_iff_getElem?.mp hu
      rcases Client.mem_startTasks hi with rfl | rfl | ⟨rfl, -⟩ <;> simp [Point.drives]
    rw [List.countP_cons_of_neg (by simp [Point.drives]), hnone]
    exact Nat.zero_le _

/-- `connect` is called. -/
theorem Ordered.connect (h : Ordered c) (hs : c.shared.state ≠ .disconnected) :
    Ordered (c.enter .connect c.shared.connect) := by
  unfold WebSocket.connect
  split
  · rename_i hidle
    have hidle : c.shared.state = .idle := hidle.resolve_right hs
    have hm : Drives { c.shared with userClosed := false, running := true } c.tasks.length
        ({ c.shared with userClosed := false, running := true } : WebSocket).connectInternal :=
      connectInternal_drives (w := { c.shared with userClosed := false, running := true }) h.lawful
        (fun hl => by simp [Late] at hl) (by simp only [hidle]; rfl)
    refine ⟨by rw [Client.shared_enter]; exact hm.lawful, ?_, ?_⟩
    · exact Client.each_enter (fun _ _ _ _ hw => hw) h.expects hm.expects
        (fun j u hu hw => (expects_idle hidle hw).2)
    · exact Client.atMostOne_enter_take (fun _ _ => rfl)
        (fun j u hu => (expects_idle hidle (h.expects j u hu) : _ ∧ Expects c.shared j _).1)
  · exact ⟨by rw [Client.shared_enter]; exact h.lawful,
      Client.each_enter (fun _ _ _ _ hw => hw) h.expects trivial (fun _ _ _ hw => hw),
      Client.atMostOne_enter (fun _ _ => rfl) h.driver rfl⟩

/-- `close` is called. -/
theorem Ordered.close (h : Ordered c) (args : CloseArgs) (ho : Orderly c (.close args)) :
    Ordered (c.enter .close (c.shared.close args)) := by
  obtain ⟨hidle, hconnecting, hreconnecting, hconnected⟩ := ho
  -- The flags are set first.
  have hflags : ∀ j p, Expects c.shared j p →
      Expects { c.shared with userClosed := true, running := false } j p :=
    fun j p => expects_userClosed rfl rfl rfl
  unfold WebSocket.close
  dsimp only
  split
  · exact ⟨by rw [Client.shared_enter]; exact h.lawful,
      Client.each_enter (fun _ _ _ _ hw => hw) h.expects trivial (fun j u _ hw => hflags j _ hw),
      Client.atMostOne_enter (fun _ _ => rfl) h.driver rfl⟩
  · rename_i hterminal
    split
    · rename_i hs
      refine ⟨?_, ?_, ?_⟩
      · rw [Client.shared_enter]
        exact Lawful.log h.lawful (fun _ _ => by simp)
      · exact Client.each_enter (fun _ _ _ _ hw => hw) h.expects ⟨rfl, hs⟩
          (fun j u _ hw => expects_quiet rfl rfl rfl (hflags j _ hw))
      · exact Client.atMostOne_enter_take (fun _ _ => rfl) (hconnected hs)
    · rename_i hs
      have hl : Late { c.shared with userClosed := true, running := false } := by
        refine ⟨rfl, ?_⟩
        cases hst : c.shared.state <;> simp_all [ConnectionState.isTerminal]
      have hm := closeHeartbeat_closes
        (w := { c.shared with userClosed := true, running := false }) h.lawful hl args
      refine ⟨by rw [Client.shared_enter]; exact hm.lawful, ?_, ?_⟩
      · exact Client.each_enter (fun _ _ _ _ hw => hw) h.expects (hm.expects _)
          (fun j u _ hw => expects_closes hm hl (hflags j _ hw))
      · exact Client.atMostOne_enter (fun _ _ => rfl) h.driver hm.idle

/-- One orderly step. -/
theorem Ordered.step {c' : Client} {a : Action} (h : Ordered c) (ho : Orderly c a)
    (hs : c.step a = some c') : Ordered c' := by
  rcases Client.step_cases hs with ⟨d, rfl, rfl⟩ | ⟨l, rfl, rfl⟩ | ⟨rfl, rfl⟩ | ⟨args, rfl, rfl⟩ |
    ⟨k, t, rfl, ht, -, hst, rfl⟩ | ⟨k, t, m, ht, hm, rfl⟩
  · exact ⟨h.lawful, h.expects.share (fun _ _ _ hw => expects_quiet rfl rfl rfl hw),
      h.driver.share _⟩
  · exact ⟨h.lawful, h.expects.share (fun _ _ _ hw => expects_quiet rfl rfl rfl hw),
      h.driver.share _⟩
  · exact h.connect ho
  · exact h.close args ho
  · exact h.start ht hst
  · cases hm with
    | cancelled => exact h.passive ht (.finish h.lawful)
    | resumed hc hw hm => exact h.resumed ht hc ho hm
    | awaited hw hu hm => exact h.awaited ht hw hu hm
    | reacts ha hc hm => exact h.reacts ht ha hc ho hm

end Steps

theorem ordered_init (settings : Settings) (backoff : BackoffConfig) :
    Ordered (Client.init settings backoff) :=
  ⟨fun _ _ h => (by cases h), fun _ _ h => (by cases h), Nat.zero_le _⟩

/-- **The manager keeps to the table** in every run whose steps are orderly. -/
theorem states_lawful (settings : Settings) (backoff : BackoffConfig) (as : List Action)
    (h : Meets Client.step Orderly (Client.init settings backoff) as) :
    Always Client.step (fun c => Lawful c.shared) (Client.init settings backoff) as :=
  (always_of_meets (fun _ _ _ hc ho hs => hc.step ho hs) (ordered_init settings backoff) h).mono
    (fun _ hc => hc.lawful)

/-- Reconnection, and nothing else that can be configured. -/
def plainSettings : Settings :=
  { reconnect := true, heartbeat := false, maxConnectionAge := false, replay := false,
    pow := fun b n => some (b ^ n), uniform := id }

/-- The default backoff, without jitter. -/
def plainBackoff : BackoffConfig :=
  { base := 1, multiplier := 2, cap := 60, jitter := false, maxAttempts := 0, resetAfter := 60,
    base_pos := by decide +kernel, one_le_multiplier := by decide +kernel,
    base_le_cap := by decide +kernel, resetAfter_nonneg := by decide +kernel }

/-- Up to the first message loop. -/
def connectRun : List Action :=
  [.connect, .resume 0, .resume 0, .opened 0, .attempt 0 .connected, .resume 0, .resume 0, .resume 1]

/-- The connection is lost behind it, and a reconnection begins. -/
def lossRun : List Action := connectRun ++ [.closeFrame 1 1001, .resume 1, .resume 1]

/-- The message loop makes the second connection, and a new one begins to read it. -/
def returnRun : List Action :=
  lossRun ++ [.resume 1, .resume 1, .resume 1, .resume 1, .resume 1, .resume 1, .opened 1,
    .attempt 1 .connected, .resume 1, .resume 1, .resume 1, .resume 2, .frame 2 false]

/-- The steps of `returnRun` that nothing is asked of: all but the loss. -/
theorem orderly_of_free {c : Client} {a : Action} {k : Nat} {t : AsyncTask}
    (ha : Client.actor a = some k) (ht : c.tasks[k]? = some t)
    (hd : disconnects c.shared a t.point = false) (he : ∀ e, t.point ≠ .errorEmit e)
    (hx : c.shared.backoff.exhausted = false) : Orderly c a := by
  cases a with
  | connect | close | advance | linkLost => cases ha
  | _ =>
    intro j u hj hu _
    obtain rfl := Option.some.inj (ha.symm.trans hj)
    obtain rfl := Option.some.inj (ht.symm.trans hu)
    exact ⟨fun h => (by rw [hd] at h; cases h), fun e _ hp => (he e hp).elim,
      fun _ _ _ h => (by rw [hx] at h; cases h)⟩

/-- A connection that is lost, and the one behind it. -/
theorem states_lawful_reconnect :
    Always Client.step (fun c => Lawful c.shared) (Client.init plainSettings plainBackoff)
      returnRun := by
  refine states_lawful plainSettings plainBackoff returnRun ?_
  have hcall : Orderly (Client.init plainSettings plainBackoff) .connect := fun h => by cases h
  refine .cons rfl hcall (.cons rfl ?_ (.cons rfl ?_ (.cons rfl ?_ (.cons rfl ?_ (.cons rfl ?_
    (.cons rfl ?_ (.cons rfl ?_ (.cons rfl ?_ (.cons rfl ?_ (.cons rfl ?_ (.cons rfl ?_ (.cons rfl ?_
    (.cons rfl ?_ (.cons rfl ?_ (.cons rfl ?_ (.cons rfl ?_ (.cons rfl ?_ (.cons rfl ?_ (.cons rfl ?_
    (.cons rfl ?_ (.cons rfl ?_ (.cons rfl ?_ (.cons rfl ?_ trivial)))))))))))))))))))))))
  case refine_8 =>
    -- the loss: the message loop is connected and alone
    intro j u hj hu _
    obtain rfl := Option.some.inj hj
    obtain rfl := Option.some.inj hu
    refine ⟨fun _ => ⟨.inl rfl, fun i v hi hv => ?_⟩, fun e h => (by cases h), fun _ h => (by cases h)⟩
    match i, hv with
    | 0, hv => cases hv; rfl
    | 1, _ => exact (hi rfl).elim
  all_goals exact orderly_of_free rfl rfl rfl (fun e h => by cases h) rfl

/-- The first attempt fails and a second one is scheduled. -/
def retryRun : List Action :=
  [.connect, .resume 0, .resume 0, .attempt 0 (.raised (.connectionError
    "DNS resolution failed for example.com: [Errno -2] Name or service not known")), .resume 0]

/-- A failed attempt that is retried goes from CONNECTING to RECONNECTING. -/
theorem retry_unlisted :
    ¬ Always Client.step (fun c => Lawful c.shared) (Client.init plainSettings plainBackoff)
      retryRun := by
  intro h
  have hend : exec Client.step (Client.init plainSettings plainBackoff) retryRun = some _ := rfl
  have hlaw : Lawful _ := h.last hend
  cases hlaw .connecting .reconnecting (by decide +kernel)

end JetSocket.Manager
