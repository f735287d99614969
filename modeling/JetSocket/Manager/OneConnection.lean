import JetSocket.Manager.StateMachine

/- One live connection: how many sockets are open, and how many message loops run.

   The token is with the coroutine that connects, or with the message loop it started; a
   heartbeat and an age timer never have it, and they give the connection up only where no
   reconnection can follow. `Relies` is what a suspended coroutine relies on, with the
   token or without it. `Calm` is what the coroutines without it do to the object.

   Results:
     `one_connection`          — in a run whose steps are all `Careful`, at most one socket
                                 is open, at most one message loop runs, and the events of
                                 a superseded transport change nothing.
     `timeout_opens_second`    — a heartbeat timeout opens a second connection beside the
                                 first, which stays open and is still read. -/
namespace JetSocket.Manager
open JetSocket.Transport TaskPool Transition

/-- No reconnection follows a loss. -/
def Settled (w : WebSocket) : Prop := w.settings.reconnect = false ∨ w.userClosed = true

/-- No socket is open. -/
def Clear (w : WebSocket) : Prop := ∀ l, w.isOpen l = false

/-- The transport is the last one created. -/
def Latest (w : WebSocket) (l : Nat) : Prop := l + 1 = w.links.length

/-- The connection can be read, or there is nothing left of it. -/
def Usable (w : WebSocket) : Prop :=
  Settled w ∨ ∃ l, w.transport = some l ∧ (w.isConnected l = true ∨ Clear w)

/-- Message loops, and the calls of `connect`. -/
def Kind.holds : Kind → Bool
  | .connect | .messageLoop => true
  | _ => false

/-- The task has the token. -/
def AsyncTask.token (t : AsyncTask) : Bool := t.kind.holds && t.live

/-- What a coroutine relies on where it is suspended, with the token or without. -/
def Relies (w : WebSocket) (token : Bool) : Point → Prop
  | .connectingState | .connectingEmit | .errorEmit _ | .reconnectingState | .reconnectingEmit _
  | .backingOffState _ | .sleeping _ => token = true ∧ Clear w
  | .opening l => token = true ∧ Clear w ∧ Latest w l ∧ (Settled w ∨ w.transport = some l)
  | .handshaking l => token = true ∧ Latest w l ∧ (Settled w ∨ w.transport = some l)
  | .reconnectedEmit | .connectedState _ | .connectedEmit _ | .replaying | .loopStart =>
    token = true ∧ Usable w
  | .receiving l | .handling l _ => token = true ∧ Latest w l ∧ Usable w
  | .fatalErrorEmit _ => Settled w
  | .stoppingHeartbeat _ _ | .cancellingAge _ _ | .disconnectedState _ | .disconnectedEmit _ =>
    (token = true ∧ Clear w) ∨ Settled w
  | .beatSleep | .pingEmit | .awaitingPong | .timeoutEmit | .ageSleep | .ageEmit => token = false
  | .closingEmit _ | .disconnectingState _ | .closeStopping _ _ | .closeCancellingAge _ _
  | .callingTransport _ _ | .closingTransport _ _ | .closeAwaitingMessage _ _
  | .closedByUserState _ | .closedByUserEmit => token = false ∧ w.userClosed = true
  | .failedState _ | .exhaustedState | .exhaustedEmit | .closedState _ | .closedEmit
  | .done _ => True

/-! ## The condition and the property -/

/-- The steps that keep to one connection: `connect` is not called in DISCONNECTED, and no
heartbeat timeout or age limit is acted on while a reconnection could follow. -/
def Careful (c : Client) : Action → Prop
  | .connect => c.shared.state ≠ .disconnected
  | .resume k => ∀ t, c.tasks[k]? = some t → t.cancelled = false →
      t.point = .timeoutEmit ∨ t.point = .ageEmit → Settled c.shared
  | _ => True

/-- The transport an action is an event of: its socket is lost, or it delivers something to
the task that reads it, which handles it. -/
def eventOf (c : Client) (a : Action) : Option Nat :=
  match a with
  | .linkLost l => some l
  | .frame k _ | .closeFrame k _ | .lossSeen k | .handle k _ =>
    match (c.tasks[k]?).map AsyncTask.point with
    | some (.receiving l) | some (.handling l _) => some l
    | _ => none
  | _ => none

/-- One live connection. -/
structure OneLive (c : Client) : Prop where
  sockets : c.shared.links.countP Link.isOpen ≤ 1
  loops : c.tasks.countP (fun t => t.kind = .messageLoop && t.live) ≤ 1
  superseded : ∀ (a : Action) (l : Nat) (c' : Client), eventOf c a = some l →
    l + 1 < c.shared.links.length → c.step a = some c' →
      c'.tasks = c.tasks ∧ c'.shared.state = c.shared.state ∧ c'.shared.emitted = c.shared.emitted

/-! ## Links -/

section Links
variable {w : WebSocket} {l j : Nat} {f : Link → Link}

theorem isOpen_setLink_ne (h : j ≠ l) : (w.setLink l f).isOpen j = w.isOpen j := by
  simp [WebSocket.isOpen, WebSocket.setLink, Ne.symm h]

theorem isConnected_setLink_self (h : l < w.links.length) :
    (w.setLink l f).isConnected l = (f w.links[l]).connected := by
  simp [WebSocket.isConnected, WebSocket.setLink, h]

theorem length_setLink : (w.setLink l f).links.length = w.links.length :=
  List.length_modify ..

/-- A change that opens no socket. -/
theorem isOpen_setLink_le (hf : ∀ x, (f x).isOpen = true → x.isOpen = true)
    (h : (w.setLink l f).isOpen j = true) : w.isOpen j = true := by
  by_cases hj : j = l
  · subst hj
    revert h
    simp only [WebSocket.isOpen, WebSocket.setLink, List.getElem?_modify, if_true]
    cases w.links[j]? with
    | none => exact id
    | some x => exact hf x
  · rwa [isOpen_setLink_ne hj] at h

/-- A change that shuts the socket. -/
theorem isOpen_setLink_shut (hf : ∀ x, (f x).isOpen = false) : (w.setLink l f).isOpen l = false := by
  simp only [WebSocket.isOpen, WebSocket.setLink, List.getElem?_modify, if_true]
  cases w.links[l]? with
  | none => rfl
  | some x => exact hf x

/-- A change that disconnects nothing. -/
theorem isConnected_setLink_le (hf : ∀ x, x.connected = true → (f x).connected = true)
    (h : w.isConnected j = true) : (w.setLink l f).isConnected j = true := by
  revert h
  simp only [WebSocket.isConnected, WebSocket.setLink, List.getElem?_modify]
  cases w.links[j]? with
  | none => exact id
  | some x =>
    intro h
    by_cases hj : l = j
    · simpa [hj] using hf x h
    · simpa [hj] using h

/-- Nothing but the last element has `P`. -/
theorem countP_le_one {α : Type*} {P : α → Bool} {xs : List α}
    (h : ∀ i x, xs[i]? = some x → P x = true → i + 1 = xs.length) : xs.countP P ≤ 1 := by
  rcases List.eq_nil_or_concat xs with rfl | ⟨ys, y, rfl⟩
  · exact Nat.zero_le _
  · have hys : ys.countP P = 0 := by
      rw [List.countP_eq_zero]
      intro x hx hP
      obtain ⟨i, hi⟩ := List.mem_iff_getElem?.mp hx
      have hlt : i < ys.length := (List.getElem?_eq_some_iff.mp hi).1
      have hlast := h i x (by rw [List.concat_eq_append, List.getElem?_append_left hlt, hi]) hP
      simp only [List.concat_eq_append, List.length_append, List.length_singleton] at hlast
      omega
    rw [List.concat_eq_append, List.countP_append, hys, Nat.zero_add]
    exact List.countP_le_length

end Links

/-! ## What the moves keep -/

section Moves
variable {w w' : WebSocket} {k : Nat} {b : Bool}

/-- What holds of the object at any time. -/
structure Fits (w : WebSocket) : Prop where
  latest : ∀ l, w.isOpen l = true → Latest w l
  current : ∀ l, w.transport = some l → Latest w l
  fresh : w.state = .idle → Clear w ∧ w.heartbeat = none ∧ w.ageTask = none ∧
    w.transport = none ∧ w.messageTask = none

/-- What every coroutine keeps. -/
structure Steady (w w' : WebSocket) : Prop where
  settings : w'.settings = w.settings
  userClosed : w.userClosed = true → w'.userClosed = true
  busy : w.state ≠ .idle → w'.state ≠ .idle

/-- What a coroutine without the token keeps: it opens nothing, and it takes the connection
away only where no reconnection follows. -/
structure Calm (w w' : WebSocket) : Prop extends Steady w w' where
  length : w'.links.length = w.links.length
  isOpen : ∀ l, w'.isOpen l = true → w.isOpen l = true
  transport : ∀ l, w'.transport = some l → w.transport = some l
  usable : Settled w' ∨ (w'.transport = w.transport ∧
    ∀ l, w.isConnected l = true → w'.isConnected l = true)

theorem Steady.settled (h : Steady w w') (hw : Settled w) : Settled w' := by
  refine hw.imp (fun hr => ?_) h.userClosed
  rw [h.settings]
  exact hr

theorem Steady.trans {w'' : WebSocket} (h : Steady w w') (h' : Steady w' w'') : Steady w w'' :=
  ⟨h'.settings.trans h.settings, fun hu => h'.userClosed (h.userClosed hu),
    fun hb => h'.busy (h.busy hb)⟩

theorem Calm.trans {w'' : WebSocket} (h : Calm w w') (h' : Calm w' w'') : Calm w w'' := by
  refine ⟨h.toSteady.trans h'.toSteady, h'.length.trans h.length,
    fun l hl => h.isOpen l (h'.isOpen l hl), fun l hl => h.transport l (h'.transport l hl), ?_⟩
  rcases h'.usable with hs | ⟨ht', hc'⟩
  · exact .inl hs
  · rcases h.usable with hs | ⟨ht, hc⟩
    · exact .inl (h'.toSteady.settled hs)
    · exact .inr ⟨ht'.trans ht, fun l hl => hc' l (hc l hl)⟩

/-- Links, transport and state as before. -/
theorem Calm.of_same (hl : w'.links = w.links) (ht : w'.transport = w.transport)
    (hs : w'.settings = w.settings) (hu : w.userClosed = true → w'.userClosed = true)
    (hb : w.state ≠ .idle → w'.state ≠ .idle) : Calm w w' := by
  refine ⟨⟨hs, hu, hb⟩, by rw [hl], fun l h => ?_, fun l h => ht ▸ h, .inr ⟨ht, fun l h => ?_⟩⟩
  · rwa [WebSocket.isOpen, hl] at h
  · rwa [WebSocket.isConnected, hl]

/-- A change of a link that opens nothing. -/
theorem Calm.setLink {l : Nat} {f : Link → Link} (hs : Settled w)
    (hf : ∀ x, (f x).isOpen = true → x.isOpen = true) : Calm w (w.setLink l f) :=
  ⟨⟨rfl, id, id⟩, length_setLink, fun _ => isOpen_setLink_le hf, fun _ => id, .inl hs⟩

/-- The socket of a link is lost. -/
theorem Calm.loseLink {l : Nat} {f : Link → Link}
    (ho : ∀ x, (f x).isOpen = true → x.isOpen = true)
    (hc : ∀ x, x.connected = true → (f x).connected = true) : Calm w (w.setLink l f) :=
  ⟨⟨rfl, id, id⟩, length_setLink, fun _ => isOpen_setLink_le ho, fun _ => id,
    .inr ⟨rfl, fun _ => isConnected_setLink_le hc⟩⟩

theorem Calm.dropTransport (hs : Settled w) : Calm w { w with transport := none } :=
  ⟨⟨rfl, id, id⟩, rfl, fun _ => id, fun _ h => (by cases h), .inl hs⟩

theorem Calm.refl : Calm w w := .of_same rfl rfl rfl id id

theorem Calm.clear (h : Calm w w') (hw : Clear w) : Clear w' := by
  intro l
  by_contra ho
  rw [Bool.not_eq_false] at ho
  have hopen := h.isOpen l ho
  rw [hw l] at hopen
  cases hopen

theorem Calm.isUsable (h : Calm w w') (hw : Usable w) : Usable w' := by
  rcases h.usable with hs | ⟨ht, hc⟩
  · exact .inl hs
  · rcases hw with hs | ⟨l, hl, hw⟩
    · exact .inl (h.toSteady.settled hs)
    · exact .inr ⟨l, ht.trans hl, hw.imp (hc l) h.clear⟩

theorem Calm.isLatest (h : Calm w w') {l : Nat} (hw : Latest w l) : Latest w' l := by
  unfold Latest at hw ⊢
  rw [h.length]
  exact hw

theorem Calm.holding (h : Calm w w') {l : Nat} (hw : Settled w ∨ w.transport = some l) :
    Settled w' ∨ w'.transport = some l := by
  rcases h.usable with hs | ⟨ht, -⟩
  · exact .inl hs
  · exact hw.imp h.toSteady.settled ht.trans

theorem Calm.fits (h : Calm w w') (hb : w'.state ≠ .idle) (hw : Fits w) : Fits w' :=
  ⟨fun l hl => h.isLatest (hw.latest l (h.isOpen l hl)),
    fun l hl => h.isLatest (hw.current l (h.transport l hl)), fun hi => (hb hi).elim⟩

/-- A calm move of another coroutine. -/
theorem relies_calm (h : Calm w w') {p : Point} (hp : Relies w b p) : Relies w' b p := by
  cases p <;> first
    | exact hp
    | exact ⟨hp.1, h.clear hp.2⟩
    | exact ⟨hp.1, h.clear hp.2.1, h.isLatest hp.2.2.1, h.holding hp.2.2.2⟩
    | exact ⟨hp.1, h.isLatest hp.2.1, h.holding hp.2.2⟩
    | exact ⟨hp.1, h.isLatest hp.2.1, h.isUsable hp.2.2⟩
    | exact ⟨hp.1, h.isUsable hp.2⟩
    | exact h.toSteady.settled hp
    | exact hp.imp (And.imp_right h.clear) h.toSteady.settled
    | exact ⟨hp.1, h.userClosed hp.2⟩

/-- Without the token, any move of another coroutine. -/
theorem relies_steady (h : Steady w w') {p : Point} (hp : Relies w false p) :
    Relies w' false p := by
  cases p <;> first
    | exact hp
    | exact (Bool.false_ne_true hp.1).elim
    | exact h.settled hp
    | exact hp.imp (fun hc => (Bool.false_ne_true hc.1).elim) h.settled
    | exact ⟨hp.1, h.userClosed hp.2⟩

/-- A calm move, and where it ends. -/
structure Rests (w : WebSocket) (b : Bool) (m : Move) : Prop where
  calm : Calm w m.ws
  relies : Relies m.ws b m.point

theorem Rests.from {m : Move} (h : Rests w' b m) (hw : Calm w w') : Rests w b m :=
  ⟨hw.trans h.calm, h.relies⟩

theorem Rests.goto {p : Point} (hp : Relies w b p) : Rests w b (w.goto p) := ⟨.refl, hp⟩

theorem Rests.finish : Rests w b w.finish := .goto trivial

theorem Rests.raise : Rests w b w.raise := .goto trivial

/-- Suspended in handlers. -/
theorem Rests.emitAt {e : Event} {p : Point} (hp : Relies w b p) : Rests w b (w.emitAt e p) := by
  have hc : Calm w (w.log e) := .of_same rfl rfl rfl id id
  exact ⟨hc, relies_calm hc hp⟩

/-- Suspended in handlers, behind a calm change. -/
theorem Rests.emit_from {e : Event} {p : Point} (hc : Calm w w') (hp : Relies w' b p) :
    Rests w b (w'.emitAt e p) :=
  (Rests.emitAt hp).from hc

/-- `_set_state` goes to a state, or finds it set. -/
theorem rests_setState {s : ConnectionState} {p : Point} {next : WebSocket → Move} (hs : s ≠ .idle)
    (hp : Relies w b p) (hn : Rests w b (next w)) : Rests w b (w.setState s p next) := by
  refine WebSocket.setState_cases (Q := Rests w b) (fun _ => hn) (fun _ => ?_)
  have hc : Calm w { w with state := s } := .of_same rfl rfl rfl id (fun _ => hs)
  exact .emit_from hc (relies_calm hc hp)

theorem rests_setState_from {s : ConnectionState} {p : Point} {next : WebSocket → Move}
    (hc : Calm w w') (hs : s ≠ .idle) (hp : Relies w' b p) (hn : Rests w' b (next w')) :
    Rests w b (w'.setState s p next) :=
  (rests_setState hs hp hn).from hc

/-! ### Attempts -/

theorem announceReconnecting_rests (hc : Clear w) : Rests w true w.announceReconnecting := by
  unfold WebSocket.announceReconnecting
  split
  · exact .raise
  · rename_i backoff delay _
    exact .emit_from (.of_same rfl rfl rfl id id) ⟨rfl, hc⟩

theorem scheduleReconnect_rests (hc : Clear w) : Rests w true w.scheduleReconnect := by
  unfold WebSocket.scheduleReconnect
  split
  · exact rests_setState (by simp) trivial (.emitAt trivial)
  · exact rests_setState (by simp) ⟨rfl, hc⟩ (announceReconnecting_rests hc)

theorem connectInternal_rests (hc : Clear w) : Rests w true w.connectInternal :=
  rests_setState_from (.of_same rfl rfl rfl id id) (by simp) ⟨rfl, hc⟩ (.emitAt ⟨rfl, hc⟩)

theorem afterBackoff_rests (hc : Clear w) : Rests w true w.afterBackoff := by
  unfold WebSocket.afterBackoff
  split
  · exact .finish
  · exact connectInternal_rests hc

theorem connectFailed_rests {e : Exc} (hc : isCaught e = true → Clear w) :
    Rests w true (w.connectFailed e) := by
  unfold WebSocket.connectFailed
  split
  · rename_i he
    exact .emit_from (.of_same rfl rfl rfl id id) ⟨rfl, hc he⟩
  · exact .raise

theorem afterError_rests (hc : Clear w) (e : Exc) : Rests w true (w.afterError e) := by
  unfold WebSocket.afterError
  split
  · exact rests_setState (by simp) trivial .raise
  · split
    · exact scheduleReconnect_rests hc
    · exact rests_setState (by simp) trivial .raise

theorem established_rests (hw : Usable w) (isReconnect : Bool) :
    Rests w true (w.established isReconnect) :=
  rests_setState_from (.of_same rfl rfl rfl id id) (by simp) ⟨rfl, hw⟩ (.emitAt ⟨rfl, hw⟩)

theorem connectReturned_rests (hw : Usable w) : Rests w true w.connectReturned := by
  unfold WebSocket.connectReturned
  split
  · exact .emitAt ⟨rfl, hw⟩
  · exact established_rests hw false

theorem beginBackoff_rests (hc : Clear w) (delay : ℚ) : Rests w true (w.beginBackoff delay) :=
  rests_setState (by simp) ⟨rfl, hc⟩ (.goto ⟨rfl, hc⟩)

/-! ### Giving the connection up -/

/-- What a coroutine knows in `_handle_disconnect`: it has the token and no socket is open,
or no reconnection follows. -/
def Down (w : WebSocket) (b : Bool) : Prop := (b = true ∧ Clear w) ∨ Settled w

theorem Down.calm (h : Down w b) (hc : Calm w w') : Down w' b :=
  h.imp (And.imp_right hc.clear) hc.toSteady.settled

theorem toDisconnected_rests (h : Down w b) (loss : Loss) :
    Rests w b (w.setState .disconnected (.disconnectedState loss)
      (WebSocket.announceDisconnected loss)) :=
  rests_setState (by simp) h (.emitAt h)

theorem cancelAge_rests (h : Down w b) (loss : Loss) : Rests w b (w.cancelAge loss) := by
  unfold WebSocket.cancelAge
  split
  · exact ⟨.refl, h⟩
  · exact toDisconnected_rests h loss

theorem handleDisconnect_rests (h : Down w b) (loss : Loss) : Rests w b (w.handleDisconnect loss) := by
  unfold WebSocket.handleDisconnect
  split
  · rename_i task _
    have hc : Calm w (w.setBeat task (fun x => { x with running := false })) :=
      .of_same rfl rfl rfl id id
    dsimp only
    split
    · exact ⟨hc, h.calm hc⟩
    · exact (cancelAge_rests (h.calm hc) loss).from hc
  · exact cancelAge_rests h loss

theorem lost_rests (h : Down w b) (msg : String) : Rests w b (w.lost msg) :=
  (handleDisconnect_rests (w := { w with lastError := some (.connectionError msg) }) h _).from
    (.of_same rfl rfl rfl id id)

theorem afterStop_rests (h : Down w b) (loss : Loss) : Rests w b (w.afterStop loss) := by
  unfold WebSocket.afterStop
  split
  · exact cancelAge_rests h loss
  · exact .raise

theorem afterAge_rests (h : Down w b) (loss : Loss) : Rests w b (w.afterAge loss) :=
  (toDisconnected_rests (w := { w with ageTask := none }) h loss).from (.of_same rfl rfl rfl id id)

/-- Only the coroutine with the token goes on to reconnect. -/
theorem afterDisconnected_rests (h : Down w b) (loss : Loss) :
    Rests w b (w.afterDisconnected loss) := by
  unfold WebSocket.afterDisconnected
  split
  · rename_i hgo
    simp only [Bool.and_eq_true, Bool.not_eq_true'] at hgo
    obtain ⟨⟨hr, hu⟩, -⟩ := hgo
    rcases h with ⟨rfl, hc⟩ | hs | hs
    · exact scheduleReconnect_rests hc
    · rw [hs] at hr
      cases hr
    · rw [hs] at hu
      cases hu
  · exact rests_setState (by simp) trivial (.emitAt trivial)

/-! ### The message loop -/

theorem loopTop_rests (hf : Fits w) (hw : Usable w) : Rests w true w.loopTop := by
  unfold WebSocket.loopTop
  split
  · split
    · rename_i ht
      have hs : Settled w := by
        rcases hw with hs | ⟨l, hl, -⟩
        · exact hs
        · rw [ht] at hl
          cases hl
      exact .emit_from (.of_same rfl rfl rfl id id) hs
    · rename_i l ht
      split
      · exact .goto ⟨rfl, hf.current l ht, hw⟩
      · rename_i hc
        refine lost_rests ?_ _
        rcases hw with hs | ⟨l', hl, hcl⟩
        · exact .inr hs
        · obtain rfl := Option.some.inj (ht.symm.trans hl)
          exact .inl ⟨rfl, hcl.resolve_left hc⟩
  · exact .finish

theorem loopStart_rests (hf : Fits w) (hw : Usable w) : Rests w true w.loopStart := by
  unfold WebSocket.loopStart
  split
  · exact .finish
  · exact loopTop_rests hf hw

theorem received_rests {l : Nat} (hl : Latest w l) (hw : Usable w) (isPong : Bool) :
    Rests w true (w.received l isPong) := by
  unfold WebSocket.received
  split <;> exact .emitAt ⟨rfl, hl, hw⟩

theorem handled_rests (hf : Fits w) {l : Nat} (hl : Latest w l) (hw : Usable w)
    (outcome : WebSocket.Outcome) : Rests w true (w.handled l outcome) := by
  unfold WebSocket.handled
  split
  · exact loopTop_rests hf hw
  all_goals exact .emitAt ⟨rfl, hl, hw⟩

/-! ### Heartbeat and age timer -/

theorem disconnectTransport_calm (hs : Settled w) : Calm w w.disconnectTransport := by
  unfold WebSocket.disconnectTransport
  split
  · exact .setLink hs (fun _ => id)
  · exact .refl

theorem sendPing_rests (k : Nat) : Rests w false (w.sendPing k) := by
  unfold WebSocket.sendPing
  split
  · exact .finish
  · split
    · exact .goto rfl
    · split
      · exact .goto rfl
      · split
        · exact .emitAt rfl
        · exact .raise

theorem pongArrived_rests (k : Nat) : Rests w false (w.pongArrived k) := by
  unfold WebSocket.pongArrived
  split
  · exact .goto rfl
  · exact .finish

theorem pongTimedOut_rests (k : Nat) : Rests w false (w.pongTimedOut k) := by
  unfold WebSocket.pongTimedOut
  split
  · exact .emitAt rfl
  · exact .finish

theorem ageOver_rests : Rests w false w.ageOver := by
  unfold WebSocket.ageOver
  split
  · exact .emitAt rfl
  · exact .finish

theorem beatTimeout_rests (hs : Settled w) : Rests w false w.beatTimeout :=
  have hc := disconnectTransport_calm hs
  (handleDisconnect_rests (.inr (hc.toSteady.settled hs)) _).from hc

theorem ageTimeout_rests (hs : Settled w) : Rests w false w.ageTimeout :=
  have hc := disconnectTransport_calm hs
  (handleDisconnect_rests (.inr (hc.toSteady.settled hs)) _).from hc

/-! ### close -/

theorem closeLast_rests (hu : w.userClosed = true) (args : CloseArgs) :
    Rests w false (w.closeLast args) :=
  rests_setState (by simp) ⟨rfl, hu⟩ (.emitAt ⟨rfl, hu⟩)

theorem closeMessageTask_rests (hu : w.userClosed = true) (args : CloseArgs) :
    Rests w false (w.closeMessageTask args) := by
  unfold WebSocket.closeMessageTask
  split
  · exact ⟨.refl, rfl, hu⟩
  · exact closeLast_rests hu args

theorem closeTransport_rests (hu : w.userClosed = true) (args : CloseArgs) :
    Rests w false (w.closeTransport args) := by
  unfold WebSocket.closeTransport
  split
  · exact .goto ⟨rfl, hu⟩
  · exact closeMessageTask_rests hu args

theorem closeCutOff_rests (hu : w.userClosed = true) (args : CloseArgs) :
    Rests w false (w.closeCutOff args) :=
  (closeMessageTask_rests (w := { w with transport := none }) hu args).from
    (.dropTransport (.inr hu))

theorem closeCalled_rests (hu : w.userClosed = true) (args : CloseArgs) (l : Nat) :
    Rests w false (w.closeCalled args l) := by
  unfold WebSocket.closeCalled
  split
  · exact closeCutOff_rests hu args
  · exact ⟨.setLink (.inr hu) (fun _ => id), rfl, hu⟩

theorem closeReturned_rests (hu : w.userClosed = true) (args : CloseArgs) (l : Nat) :
    Rests w false (w.closeReturned args l) := by
  have hc : Calm w (w.setLink l (fun x => { x with isOpen := false, connected := false })) :=
    .setLink (.inr hu) (fun _ h => by cases h)
  exact (closeCutOff_rests (w := w.setLink l _) hu args).from hc

theorem closeAge_rests (hu : w.userClosed = true) (args : CloseArgs) :
    Rests w false (w.closeAge args) := by
  unfold WebSocket.closeAge
  split
  · exact ⟨.refl, rfl, hu⟩
  · exact closeTransport_rests hu args

theorem closeHeartbeat_rests (hu : w.userClosed = true) (args : CloseArgs) :
    Rests w false (w.closeHeartbeat args) := by
  unfold WebSocket.closeHeartbeat
  split
  · dsimp only
    split
    · exact ⟨.of_same rfl rfl rfl id id, rfl, hu⟩
    · exact (closeAge_rests (w := { w.setBeat _ _ with heartbeat := none }) hu args).from
        (.of_same rfl rfl rfl id id)
  · exact closeAge_rests hu args

/-! ### With the token -/

/-- A move of the coroutine with the token, as the others see it. -/
structure Takes (w : WebSocket) (m : Move) : Prop where
  steady : Steady w m.ws
  fits : Fits m.ws
  relies : Relies m.ws true m.point

/-- A calm move behind a change only the token allows. -/
theorem Rests.takes {m : Move} (h : Rests w' true m) (hs : Steady w w') (hf : Fits w')
    (hb : w'.state ≠ .idle) : Takes w m :=
  ⟨hs.trans h.calm.toSteady, h.calm.fits (h.calm.busy hb) hf, h.relies⟩

theorem Fits.setLink (h : Fits w) {l : Nat} {f : Link → Link}
    (hf : ∀ x, (f x).isOpen = true → x.isOpen = true) : Fits (w.setLink l f) := by
  refine ⟨fun j hj => ?_, fun j hj => ?_, fun hi => ⟨fun j => ?_, (h.fresh hi).2⟩⟩
  · exact (h.latest j (isOpen_setLink_le hf hj)).trans length_setLink.symm
  · exact (h.current j hj).trans length_setLink.symm
  · by_contra hj
    rw [Bool.not_eq_false] at hj
    have hopen := isOpen_setLink_le hf hj
    rw [(h.fresh hi).1 j] at hopen
    cases hopen

/-- The last transport is shut, so none is open. -/
theorem clear_of_shut (h : Fits w) {l : Nat} (hl : Latest w l)
    (ho : ∀ j, w'.isOpen j = true → w.isOpen j = true) (hshut : w'.isOpen l = false) : Clear w' := by
  intro j
  by_contra hj
  rw [Bool.not_eq_false] at hj
  have hlast : j + 1 = w.links.length := h.latest j (ho j hj)
  have hjl : j = l := by
    unfold Latest at hl
    omega
  rw [hjl, hshut] at hj
  cases hj

theorem openTransport_takes (hb : w.state ≠ .idle) (hc : Clear w) : Takes w w.openTransport := by
  have hclear : Clear w.openTransport.ws := by
    intro l
    simp only [WebSocket.openTransport, WebSocket.goto, WebSocket.isOpen]
    rcases Nat.lt_or_ge l w.links.length with hl | hl
    · rw [List.getElem?_append_left hl]
      exact hc l
    · rw [List.getElem?_append_right hl]
      cases l - w.links.length <;> rfl
  have hlatest : Latest w.openTransport.ws w.links.length := by
    simp [Latest, WebSocket.openTransport, WebSocket.goto]
  refine ⟨⟨rfl, id, id⟩, ⟨fun l hl => ?_, fun l hl => ?_, fun hi => (hb hi).elim⟩,
    rfl, hclear, hlatest, .inr rfl⟩
  · rw [hclear l] at hl
    cases hl
  · obtain rfl := Option.some.inj hl
    exact hlatest

theorem opened_takes (hb : w.state ≠ .idle) (hf : Fits w) {l : Nat}
    (h : Relies w true (.opening l)) :
    Takes w ((w.setLink l (fun x => { x with isOpen := true })).goto (.handshaking l)) := by
  obtain ⟨-, hc, hl, ht⟩ := h
  refine ⟨⟨rfl, id, id⟩, ⟨fun j hj => ?_, fun j hj => ?_, fun hi => (hb hi).elim⟩, rfl, ?_, ht⟩
  · by_cases hjl : j = l
    · rw [hjl]
      exact hl.trans length_setLink.symm
    · have hopen : w.isOpen j = true := isOpen_setLink_ne hjl ▸ hj
      rw [hc j] at hopen
      cases hopen
  · exact (hf.current j hj).trans length_setLink.symm
  · exact hl.trans length_setLink.symm

theorem connected_takes (hb : w.state ≠ .idle) (hf : Fits w) {l : Nat}
    (h : Relies w true (.handshaking l)) :
    Takes w (w.setLink l (fun x => { x with connected := true })).connectReturned := by
  obtain ⟨-, hl, ht⟩ := h
  refine (connectReturned_rests ?_).takes ⟨rfl, id, id⟩ (hf.setLink (fun _ => id)) hb
  refine ht.imp id (fun ht => ⟨l, ht, .inl ?_⟩)
  exact isConnected_setLink_self (by unfold Latest at hl; omega)

theorem refused_takes (hb : w.state ≠ .idle) (hf : Fits w) {l : Nat}
    (h : Relies w true (.handshaking l)) (e : Exc) :
    Takes w ((w.setLink l (fun x => { x with isOpen := false })).connectFailed e) :=
  (connectFailed_rests (fun _ => clear_of_shut hf h.2.1
    (fun _ => isOpen_setLink_le (fun _ hx => by cases hx))
    (isOpen_setLink_shut (fun _ => rfl)))).takes ⟨rfl, id, id⟩
    (hf.setLink (fun _ hx => by cases hx)) hb

/-- The message loop learns that its connection is gone. -/
theorem lost_takes (hb : w.state ≠ .idle) (hf : Fits w) {l : Nat} {f : Link → Link}
    (hl : Latest w l) (ho : ∀ x, (f x).isOpen = true → x.isOpen = true)
    (hshut : (w.setLink l f).isOpen l = false) (msg : String) : Takes w ((w.setLink l f).lost msg) :=
  (lost_rests (.inl ⟨rfl, clear_of_shut hf hl (fun _ => isOpen_setLink_le ho) hshut⟩) msg).takes
    ⟨rfl, id, id⟩ (hf.setLink ho) hb

end Moves

/-! ## Steps -/

/-- What is known of every task. -/
def Knows (w : WebSocket) (_ : Nat) (t : AsyncTask) : Prop :=
  (t.live = true → w.state ≠ .idle) ∧ Relies w t.kind.holds t.point

/-- The invariant: the object fits, every task has what it relies on, and one has the token
at most. -/
structure Single (c : Client) : Prop where
  fits : Fits c.shared
  knows : c.Each Knows
  token : c.AtMostOne AsyncTask.token

theorem relies_of_dead {w : WebSocket} {b : Bool} {t : AsyncTask} (h : t.live = false) :
    Relies w b t.point := by
  unfold AsyncTask.live at h
  generalize t.point = p at h ⊢
  cases p <;> first
    | exact trivial
    | cases h

/-- Only a heartbeat goes on behind an exception. -/
theorem relies_settle {w : WebSocket} {k : Nat} {kind : Kind} {m : Move}
    (h : Relies w kind.holds m.point) : Relies w kind.holds (AsyncTask.settle k kind m).point := by
  unfold AsyncTask.settle
  split
  · rename_i hk
    rw [hk.1]
    dsimp only
    split
    · rfl
    · exact trivial
  · exact h

section Steps
variable {c : Client} {k : Nat} {t : AsyncTask}

theorem Single.busy (h : Single c) (ht : c.tasks[k]? = some t) (hl : t.live = true) :
    c.shared.state ≠ .idle := (h.knows k t ht).1 hl

/-- A calm move of any task. -/
theorem Single.rests {b : Bool} (h : Single c) (ht : c.tasks[k]? = some t) (hl : t.live = true)
    (hk : t.kind.holds = b) {m : Move} (hm : Rests c.shared b m) : Single (c.run k t.kind m) := by
  subst hk
  have hb := hm.calm.busy (h.busy ht hl)
  refine ⟨?_, ?_, ?_⟩
  · rw [Client.shared_run]
    exact hm.calm.fits hb h.fits
  · refine Client.each_run (fun _ _ _ _ hw => hw) h.knows ht ⟨fun _ => hb, relies_settle hm.relies⟩
      (fun j u _ _ hw => ⟨fun _ => hb, relies_calm hm.calm hw.2⟩)
  · refine Client.atMostOne_run (fun _ _ => rfl) h.token ht (fun htoken => ?_)
    simp only [AsyncTask.token, Bool.and_eq_true] at htoken ⊢
    exact ⟨htoken.1, hl⟩

/-- Another move of the task with the token. -/
theorem Single.takes (h : Single c) (ht : c.tasks[k]? = some t) (hl : t.live = true)
    (hk : t.kind.holds = true) {m : Move} (hm : Takes c.shared m) : Single (c.run k t.kind m) := by
  have hb := hm.steady.busy (h.busy ht hl)
  refine ⟨?_, ?_, ?_⟩
  · rw [Client.shared_run]
    exact hm.fits
  · refine Client.each_run (fun _ _ _ _ hw => hw) h.knows ht ⟨fun _ => hb, relies_settle ?_⟩
      (fun j u hj hu hw => ⟨fun _ => hb, ?_⟩)
    · rw [hk]
      exact hm.relies
    · cases hlu : u.live with
      | false => exact relies_of_dead hlu
      | true =>
        -- The token is with task `k`.
        have hku : u.kind.holds = false := by
          by_contra hku
          rw [Bool.not_eq_false] at hku
          exact hj (h.token.unique hu ht (by simp [AsyncTask.token, hku, hlu])
            (by simp [AsyncTask.token, hk, hl]))
        have hw := hw.2
        rw [hku] at hw ⊢
        exact relies_steady hm.steady hw
  · refine Client.atMostOne_run (fun _ _ => rfl) h.token ht (fun _ => ?_)
    simp [AsyncTask.token, hk, hl]

/-- A cancelled task returns. -/
theorem Single.finish (h : Single c) (ht : c.tasks[k]? = some t) :
    Single (c.run k t.kind c.shared.finish) := by
  refine ⟨?_, ?_, ?_⟩
  · rw [Client.shared_run]
    exact h.fits
  · refine Client.each_run (fun _ _ _ _ hw => hw) h.knows ht ⟨fun hl => ?_, relies_settle trivial⟩
      (fun _ _ _ _ hw => hw)
    unfold AsyncTask.settle at hl
    rw [if_neg (fun hm => by cases hm.2)] at hl
    cases hl
  · refine Client.atMostOne_run (fun _ _ => rfl) h.token ht (fun htoken => ?_)
    unfold AsyncTask.settle at htoken
    rw [if_neg (fun hm => by cases hm.2)] at htoken
    simp [AsyncTask.token, AsyncTask.live, WebSocket.finish, WebSocket.goto] at htoken

/-- The handlers or the sleep of task `k` are over. -/
theorem Single.resumed (h : Single c) (ht : c.tasks[k]? = some t) (hc : t.cancelled = false)
    (ho : Careful c (.resume k)) {m : Move} (hm : c.shared.resume k t.point = some m) :
    Single (c.run k t.kind m) := by
  have hl := Client.live_of_resume hm
  have hb := h.busy ht hl
  have hr : Relies c.shared t.kind.holds t.point := (h.knows k t ht).2
  have hsettled := ho t ht hc
  generalize t.point = p at hm hr hsettled
  cases p with
  | connectingState =>
    obtain rfl := Option.some.inj hm
    exact h.rests ht hl hr.1 (.emitAt ⟨rfl, hr.2⟩)
  | connectingEmit =>
    obtain rfl := Option.some.inj hm
    exact h.takes ht hl hr.1 (openTransport_takes hb hr.2)
  | errorEmit e =>
    obtain rfl := Option.some.inj hm
    exact h.rests ht hl hr.1 (afterError_rests hr.2 e)
  | failedState e =>
    obtain rfl := Option.some.inj hm
    exact h.rests ht hl rfl .raise
  | reconnectedEmit =>
    obtain rfl := Option.some.inj hm
    exact h.rests ht hl hr.1 (established_rests hr.2 true)
  | connectedState isReconnect =>
    obtain rfl := Option.some.inj hm
    exact h.rests ht hl hr.1 (.emitAt ⟨rfl, hr.2⟩)
  | connectedEmit isReconnect =>
    simp only [WebSocket.resume, WebSocket.afterConnected] at hm
    split at hm
    · obtain rfl := Option.some.inj hm
      exact h.rests ht hl hr.1 (.emitAt ⟨rfl, hr.2⟩)
    · cases hm
  | exhaustedState =>
    obtain rfl := Option.some.inj hm
    exact h.rests ht hl rfl (.emitAt trivial)
  | exhaustedEmit | closedEmit =>
    obtain rfl := Option.some.inj hm
    exact h.rests ht hl rfl .finish
  | reconnectingState =>
    obtain rfl := Option.some.inj hm
    exact h.rests ht hl hr.1 (announceReconnecting_rests hr.2)
  | reconnectingEmit delay =>
    obtain rfl := Option.some.inj hm
    exact h.rests ht hl hr.1 (beginBackoff_rests hr.2 delay)
  | backingOffState delay =>
    obtain rfl := Option.some.inj hm
    exact h.rests ht hl hr.1 (.goto ⟨rfl, hr.2⟩)
  | sleeping delay =>
    obtain rfl := Option.some.inj hm
    exact h.rests ht hl hr.1 (afterBackoff_rests hr.2)
  | disconnectedState loss =>
    obtain rfl := Option.some.inj hm
    exact h.rests ht hl rfl (.emitAt hr)
  | disconnectedEmit loss =>
    obtain rfl := Option.some.inj hm
    exact h.rests ht hl rfl (afterDisconnected_rests hr loss)
  | closedState loss =>
    obtain rfl := Option.some.inj hm
    exact h.rests ht hl rfl (.emitAt trivial)
  | loopStart =>
    obtain rfl := Option.some.inj hm
    exact h.rests ht hl hr.1 (loopStart_rests h.fits hr.2)
  | handling l stage =>
    cases stage with
    | raw => cases hm
    | overflow =>
      obtain rfl := Option.some.inj hm
      exact h.rests ht hl hr.1 (.emitAt ⟨rfl, hr.2⟩)
    | message | failed | pong =>
      obtain rfl := Option.some.inj hm
      exact h.rests ht hl hr.1 (loopTop_rests h.fits hr.2.2)
  | fatalErrorEmit loss =>
    obtain rfl := Option.some.inj hm
    exact h.rests ht hl rfl (handleDisconnect_rests (.inr hr) loss)
  | beatSleep =>
    obtain rfl := Option.some.inj hm
    exact h.rests ht hl hr (sendPing_rests k)
  | pingEmit =>
    obtain rfl := Option.some.inj hm
    exact h.rests ht hl hr (.goto rfl)
  | timeoutEmit =>
    obtain rfl := Option.some.inj hm
    exact h.rests ht hl hr (beatTimeout_rests (hsettled (.inl rfl)))
  | ageSleep =>
    obtain rfl := Option.some.inj hm
    exact h.rests ht hl hr ageOver_rests
  | ageEmit =>
    obtain rfl := Option.some.inj hm
    exact h.rests ht hl hr (ageTimeout_rests (hsettled (.inr rfl)))
  | closingEmit args =>
    obtain rfl := Option.some.inj hm
    exact h.rests ht hl hr.1 (rests_setState (by simp) ⟨rfl, hr.2⟩ (closeHeartbeat_rests hr.2 args))
  | disconnectingState args =>
    obtain rfl := Option.some.inj hm
    exact h.rests ht hl hr.1 (closeHeartbeat_rests hr.2 args)
  | callingTransport args l =>
    obtain rfl := Option.some.inj hm
    exact h.rests ht hl hr.1 (closeCalled_rests hr.2 args l)
  | closedByUserState args =>
    obtain rfl := Option.some.inj hm
    exact h.rests ht hl hr.1 (.emitAt ⟨rfl, hr.2⟩)
  | closedByUserEmit =>
    obtain rfl := Option.some.inj hm
    exact h.rests ht hl rfl .finish
  | _ => cases hm

/-- The task that task `k` waited for has ended. -/
theorem Single.awaited (h : Single c) (ht : c.tasks[k]? = some t) {raised : Bool} {m : Move}
    (hm : c.shared.awaited raised t.point = some m) : Single (c.run k t.kind m) := by
  have hl := Client.live_of_awaited hm
  have hr : Relies c.shared t.kind.holds t.point := (h.knows k t ht).2
  generalize t.point = p at hm hr
  cases p with
  | stoppingHeartbeat loss task =>
    obtain rfl := Option.some.inj hm
    exact h.rests ht hl rfl ((afterStop_rests (w := c.shared.setBeat task _) hr loss).from
      (.of_same rfl rfl rfl id id))
  | cancellingAge loss task =>
    obtain rfl := Option.some.inj hm
    split
    · exact h.rests ht hl rfl .raise
    · exact h.rests ht hl rfl (afterAge_rests hr loss)
  | closeStopping args task =>
    obtain rfl := Option.some.inj hm
    exact h.rests ht hl hr.1 ((closeAge_rests
      (w := { c.shared.setBeat task _ with heartbeat := none }) hr.2 args).from
      (.of_same rfl rfl rfl id id))
  | closeCancellingAge args task =>
    obtain rfl := Option.some.inj hm
    split
    · exact h.rests ht hl rfl .raise
    · exact h.rests ht hl hr.1 ((closeTransport_rests
        (w := { c.shared with ageTask := none }) hr.2 args).from (.of_same rfl rfl rfl id id))
  | closeAwaitingMessage args task =>
    obtain rfl := Option.some.inj hm
    split
    · exact h.rests ht hl rfl .raise
    · exact h.rests ht hl hr.1 ((closeLast_rests
        (w := { c.shared with messageTask := none }) hr.2 args).from (.of_same rfl rfl rfl id id))
  | _ => cases hm

/-- What task `k` waited for has happened. -/
theorem Single.reacts (h : Single c) (ht : c.tasks[k]? = some t) {a : Action} {m : Move}
    (hm : Client.Reacts c.shared k a t.point m) : Single (c.run k t.kind m) := by
  have hl := Client.live_of_reacts hm
  have hb := h.busy ht hl
  have hr : Relies c.shared t.kind.holds t.point := (h.knows k t ht).2
  generalize t.point = p at hm hr
  cases hm with
  | opened j l => exact h.takes ht hl hr.1 (opened_takes hb h.fits ⟨rfl, hr.2⟩)
  | connected j l => exact h.takes ht hl hr.1 (connected_takes hb h.fits ⟨rfl, hr.2⟩)
  | aborted j l e he =>
    exact h.rests ht hl hr.1 (connectFailed_rests (fun h => by rw [he] at h; cases h))
  | refused j l e => exact h.takes ht hl hr.1 (refused_takes hb h.fits ⟨rfl, hr.2⟩ e)
  | unreached j l e => exact h.rests ht hl hr.1 (connectFailed_rests (fun _ => hr.2.1))
  | frame j l isPong => exact h.rests ht hl hr.1 (received_rests hr.2.1 hr.2.2 isPong)
  | handle j l outcome => exact h.rests ht hl hr.1 (handled_rests h.fits hr.2.1 hr.2.2 outcome)
  | closeFrame j l code =>
    exact h.takes ht hl hr.1 (lost_takes hb h.fits hr.2.1 (fun _ hx => by cases hx)
      (isOpen_setLink_shut (fun _ => rfl)) _)
  | lossSeen j l hshut =>
    have hle : ∀ x : Link, ({ x with connected := false } : Link).isOpen = true → x.isOpen = true :=
      fun _ => id
    refine h.takes ht hl hr.1 (lost_takes hb h.fits hr.2.1 hle ?_ _)
    by_contra hopen
    rw [Bool.not_eq_false] at hopen
    rw [isOpen_setLink_le hle hopen] at hshut
    cases hshut
  | pong j => exact h.rests ht hl hr (pongArrived_rests k)
  | pongTimeout j => exact h.rests ht hl hr (pongTimedOut_rests k)
  | closeDone j args l => exact h.rests ht hl hr.1 (closeReturned_rests hr.2 args l)
  | closeCut j args l => exact h.rests ht hl hr.1 (closeCutOff_rests hr.2 args)

/-- The connected task hands the token to the message loop. -/
theorem Single.start (h : Single c) (ht : c.tasks[k]? = some t)
    (hs : c.shared.starts t.point = true) : Single (c.start k t.kind) := by
  obtain ⟨hl, hk, hw⟩ : t.live = true ∧ t.kind.holds = true ∧ Usable c.shared := by
    have hr : Relies c.shared t.kind.holds t.point := (h.knows k t ht).2
    unfold AsyncTask.live
    generalize t.point = p at hs hr ⊢
    cases p <;> first
      | exact ⟨rfl, hr⟩
      | cases hs
  have hc : Calm c.shared (c.shared.startTasks c.tasks.length).1 := by
    unfold WebSocket.startTasks
    dsimp only
    split <;> split <;> exact .of_same rfl rfl rfl id id
  have hb := hc.busy (h.busy ht hl)
  refine ⟨hc.fits hb h.fits, ?_, ?_⟩
  · exact Client.each_start h.knows ht ⟨fun _ => hb, trivial⟩ (fun _ => ⟨fun _ => hb, rfl⟩)
      (fun _ => ⟨fun _ => hb, rfl⟩) (fun _ _ => ⟨fun _ => hb, rfl, hc.isUsable hw⟩)
      (fun _ _ _ _ hw => ⟨fun _ => hb, relies_calm hc hw.2⟩)
  · refine Client.atMostOne_start h.token ht ?_
    have hone : [t].countP AsyncTask.token = 1 :=
      List.countP_singleton.trans (if_pos (by simp [AsyncTask.token, hk, hl]))
    have hdone : AsyncTask.token { kind := t.kind, point := .done false } = false :=
      Bool.and_false _
    rw [hone, List.countP_cons_of_neg (by simp [hdone])]
    exact Client.countP_startTasks rfl rfl

theorem connectInternal_state (w : WebSocket) : w.connectInternal.ws.state = .connecting :=
  WebSocket.setState_cases (Q := fun m => m.ws.state = .connecting) (fun h => h) (fun _ => rfl)

/-- `connect` is called. -/
theorem Single.connect (h : Single c) (hs : c.shared.state ≠ .disconnected) :
    Single (c.enter .connect c.shared.connect) := by
  unfold WebSocket.connect
  split
  · rename_i hidle
    have hidle : c.shared.state = .idle := hidle.resolve_right hs
    -- Nothing has happened before.
    have hdead : ∀ j (u : AsyncTask), c.tasks[j]? = some u → u.live = false := fun j u hu => by
      by_contra hl
      exact h.busy hu (by simpa using hl) hidle
    have hf : Fits { c.shared with userClosed := false, running := true } :=
      ⟨h.fits.latest, h.fits.current, h.fits.fresh⟩
    have hm := connectInternal_rests (w := { c.shared with userClosed := false, running := true })
      (h.fits.fresh hidle).1
    have hb : (WebSocket.connectInternal
        { c.shared with userClosed := false, running := true }).ws.state ≠ .idle := by
      rw [connectInternal_state]
      simp
    refine ⟨?_, ?_, ?_⟩
    · rw [Client.shared_enter]
      exact hm.calm.fits hb hf
    · exact Client.each_enter (fun _ _ _ _ hw => hw) h.knows ⟨fun _ => hb, hm.relies⟩
        (fun j u hu _ => ⟨fun _ => hb, relies_of_dead (hdead j u hu)⟩)
    · exact Client.atMostOne_enter_take (fun _ _ => rfl)
        (fun j u hu => by simp [AsyncTask.token, hdead j u hu])
  · refine ⟨?_, ?_, ?_⟩
    · rw [Client.shared_enter]
      exact h.fits
    · exact Client.each_enter (fun _ _ _ _ hw => hw) h.knows ⟨fun hl => (by cases hl), trivial⟩
        (fun _ _ _ hw => hw)
    · exact Client.atMostOne_enter (fun _ _ => rfl) h.token rfl

/-- A call of `close`. -/
theorem Single.enter_close (h : Single c) {m : Move} (hm : Rests c.shared false m)
    (hb : m.ws.state ≠ .idle) : Single (c.enter .close m) := by
  refine ⟨?_, ?_, ?_⟩
  · rw [Client.shared_enter]
    exact hm.calm.fits hb h.fits
  · exact Client.each_enter (fun _ _ _ _ hw => hw) h.knows ⟨fun _ => hb, hm.relies⟩
      (fun _ _ _ hw => ⟨fun _ => hb, relies_calm hm.calm hw.2⟩)
  · exact Client.atMostOne_enter (fun _ _ => rfl) h.token rfl

theorem Single.close (h : Single c) (args : CloseArgs) :
    Single (c.enter .close (c.shared.close args)) := by
  have hc : Calm c.shared { c.shared with userClosed := true, running := false } :=
    .of_same rfl rfl rfl (fun _ => rfl) id
  unfold WebSocket.close
  dsimp only
  split
  · rename_i hterminal
    refine h.enter_close (Rests.finish.from hc) (fun hi => ?_)
    rw [show c.shared.state = .idle from hi] at hterminal
    cases hterminal
  · split
    · rename_i hs
      refine h.enter_close (.emit_from hc ⟨rfl, rfl⟩) (fun hi => ?_)
      rw [show c.shared.state = .idle from hi] at hs
      cases hs
    · have hm := closeHeartbeat_rests (w := { c.shared with userClosed := true, running := false })
        rfl args
      refine h.enter_close (hm.from hc) ?_
      by_cases hidle : c.shared.state = .idle
      · -- a `close` before any `connect` goes straight to CLOSED
        obtain ⟨-, hbeat, hage, htransport, hmessage⟩ := h.fits.fresh hidle
        simp only [WebSocket.closeHeartbeat, hbeat, WebSocket.closeAge, hage,
          WebSocket.closeTransport, htransport, WebSocket.closeMessageTask, hmessage]
        exact WebSocket.setState_cases (Q := fun m => m.ws.state ≠ .idle)
          (fun hs => by rw [hidle] at hs; cases hs) (fun _ => by simp [WebSocket.emitAt,
            WebSocket.goto, WebSocket.log])
      · exact hm.calm.busy hidle

/-- One careful step. -/
theorem Single.step {c' : Client} {a : Action} (h : Single c) (ho : Careful c a)
    (hs : c.step a = some c') : Single c' := by
  rcases Client.step_cases hs with ⟨d, rfl, rfl⟩ | ⟨l, rfl, rfl⟩ | ⟨rfl, rfl⟩ | ⟨args, rfl, rfl⟩ |
    ⟨k, t, rfl, ht, -, hst, rfl⟩ | ⟨k, t, m, ht, hm, rfl⟩
  · have hc : Calm c.shared { c.shared with now := c.shared.now + d } :=
      .of_same rfl rfl rfl id id
    exact ⟨⟨h.fits.latest, h.fits.current, h.fits.fresh⟩,
      h.knows.share (fun _ _ _ hw => ⟨hw.1, relies_calm hc hw.2⟩), h.token.share _⟩
  · have hc : Calm c.shared (c.shared.setLink l (fun x => { x with isOpen := false })) :=
      .loseLink (fun _ hx => by cases hx) (fun _ => id)
    exact ⟨h.fits.setLink (fun _ hx => by cases hx),
      h.knows.share (fun _ _ _ hw => ⟨hw.1, relies_calm hc hw.2⟩), h.token.share _⟩
  · exact h.connect ho
  · exact h.close args
  · exact h.start ht hst
  · cases hm with
    | cancelled => exact h.finish ht
    | resumed hc hw hm => exact h.resumed ht hc ho hm
    | awaited hw hu hm => exact h.awaited ht hm
    | reacts ha hc hm => exact h.reacts ht hm

end Steps

theorem single_init (settings : Settings) (backoff : BackoffConfig) :
    Single (Client.init settings backoff) :=
  ⟨⟨fun _ h => (by cases h), fun _ h => (by cases h), fun _ => ⟨fun _ => rfl, rfl, rfl, rfl, rfl⟩⟩,
    fun _ _ h => (by cases h), Nat.zero_le _⟩

/-- A task that reads a transport reads the last one. -/
theorem Single.latest_of_event {c : Client} (h : Single c) {a : Action} {l : Nat}
    (ha : eventOf c a = some l) (hne : a ≠ .linkLost l) : Latest c.shared l := by
  have hpoint : ∀ k : Nat, (match (c.tasks[k]?).map AsyncTask.point with
      | some (.receiving l) | some (.handling l _) => some l
      | _ => none) = some l → Latest c.shared l := by
    intro k hk
    cases ht : c.tasks[k]? with
    | none => simp [ht] at hk
    | some t =>
      have hr : Relies c.shared t.kind.holds t.point := (h.knows k t ht).2
      simp only [ht, Option.map_some] at hk
      generalize t.point = p at hk hr
      cases p <;> first
        | cases hk; exact hr.2.1
        | cases hk
  cases a with
  | linkLost j =>
    obtain rfl := Option.some.inj ha
    exact (hne rfl).elim
  | frame k _ | closeFrame k _ | lossSeen k | handle k _ => exact hpoint k ha
  | _ => cases ha

theorem Single.oneLive {c : Client} (h : Single c) : OneLive c := by
  refine ⟨?_, ?_, ?_⟩
  · refine countP_le_one (fun l x hx ho => h.fits.latest l ?_)
    simp [WebSocket.isOpen, hx, ho]
  · refine Nat.le_trans (List.countP_mono_left (fun t _ ht => ?_)) h.token
    simp only [Bool.and_eq_true, decide_eq_true_eq] at ht
    simp [AsyncTask.token, ht.1, ht.2, Kind.holds]
  · intro a l c' ha hl hs
    by_cases hlost : a = .linkLost l
    · subst hlost
      obtain rfl := Option.some.inj hs
      exact ⟨rfl, rfl, rfl⟩
    · have hlast := h.latest_of_event ha hlost
      unfold Latest at hlast
      omega

/-- **One live connection** in every run whose steps are careful. -/
theorem one_connection (settings : Settings) (backoff : BackoffConfig) (as : List Action)
    (h : Meets Client.step Careful (Client.init settings backoff) as) :
    Always Client.step OneLive (Client.init settings backoff) as :=
  (always_of_meets (fun _ _ _ hc ho hs => hc.step ho hs) (single_init settings backoff) h).mono
    (fun _ hc => hc.oneLive)

/-- The steps of tasks that are at neither of the two timers. -/
theorem careful_of_free {c : Client} {k : Nat} {t : AsyncTask} (ht : c.tasks[k]? = some t)
    (h : t.point ≠ .timeoutEmit ∧ t.point ≠ .ageEmit) : Careful c (.resume k) := by
  intro u hu _ hp
  obtain rfl := Option.some.inj (ht.symm.trans hu)
  exact (hp.elim h.1 h.2).elim

/-- A connection that is lost, and the one behind it. -/
theorem one_connection_reconnect :
    Always Client.step OneLive (Client.init plainSettings plainBackoff) returnRun := by
  refine one_connection plainSettings plainBackoff returnRun ?_
  refine .cons rfl (fun h => by cases h) (.cons rfl ?_ (.cons rfl ?_ (.cons rfl trivial (.cons rfl
    trivial (.cons rfl ?_ (.cons rfl ?_ (.cons rfl ?_ (.cons rfl trivial (.cons rfl ?_ (.cons rfl ?_
    (.cons rfl ?_ (.cons rfl ?_ (.cons rfl ?_ (.cons rfl ?_ (.cons rfl ?_ (.cons rfl ?_ (.cons rfl
    trivial (.cons rfl trivial (.cons rfl ?_ (.cons rfl ?_ (.cons rfl ?_ (.cons rfl ?_ (.cons rfl
    trivial trivial)))))))))))))))))))))))
  all_goals exact careful_of_free rfl ⟨fun h => (by cases h), fun h => (by cases h)⟩

/-- A heartbeat, and reconnection. -/
def beatSettings : Settings := { plainSettings with heartbeat := true }

/-- Connected: the heartbeat is task 1, the message loop task 2. The peer stays silent, the
ping times out, and the heartbeat connects again. -/
def timeoutRun : List Action :=
  [.connect, .resume 0, .resume 0, .opened 0, .attempt 0 .connected, .resume 0, .resume 0,
    .resume 2, .resume 1, .resume 1, .pongTimeout 1, .resume 1, .resume 1, .resume 1, .resume 1,
    .resume 1, .resume 1, .resume 1, .resume 1, .resume 1, .resume 1, .opened 1]

/-- A heartbeat timeout opens a second connection beside the first. -/
theorem timeout_opens_second :
    ¬ Always Client.step OneLive (Client.init beatSettings plainBackoff) timeoutRun := by
  intro h
  have hend : exec Client.step (Client.init beatSettings plainBackoff) timeoutRun = some _ := rfl
  have hone : OneLive _ := h.last hend
  exact absurd hone.sockets (by decide +kernel)

end JetSocket.Manager
