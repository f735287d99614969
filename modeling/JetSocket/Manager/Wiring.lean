import JetSocket.Manager.Client

/- Who waits for whom, and who is cancelled.

   `_heartbeat`, `_age_task` and `_message_task` name tasks that the manager started
   itself, and only those are awaited or cancelled by it. So a call of `connect` or `close`
   is never cancelled, and where a task stands tells whether it is a `close`.

   Result:
     `wired` — in every reachable state, of every run. -/
namespace JetSocket.Manager
open JetSocket.Transport TaskPool Transition

/-- The points of `close`. -/
def Point.ofClose : Point → Bool
  | .closingEmit _ | .disconnectingState _ | .closeStopping _ _ | .closeCancellingAge _ _
  | .callingTransport _ _ | .closingTransport _ _ | .closeAwaitingMessage _ _
  | .closedByUserState _ | .closedByUserEmit => true
  | _ => false

/-- The manager starts these itself. -/
def Kind.background : Kind → Bool
  | .messageLoop | .heartbeat | .ageTimer => true
  | .connect | .close => false

/-- `_heartbeat`, `_age_task` or `_message_task` is task `u`. -/
def Names (w : WebSocket) (u : Nat) : Prop :=
  w.heartbeat = some u ∨ w.ageTask = some u ∨ w.messageTask = some u

/-! ## Moves -/

/-- A move of a task that is a `close`, or is none: it names no other task than before, and
awaits and cancels only what was named. -/
structure Wires (w : WebSocket) (isClose : Bool) (m : Move) : Prop where
  names : ∀ u, Names m.ws u → Names w u
  waits : ∀ u, WebSocket.awaits m.point = some u → Names w u
  cancels : ∀ u, m.cancel = some u → Names w u
  side : m.point.ofClose = isClose ∨ ∃ raised, m.point = .done raised

section Moves
variable {w w' : WebSocket} {k : Nat} {b : Bool} {m : Move}

theorem Wires.from (h : Wires w' b m) (hn : ∀ u, Names w' u → Names w u) : Wires w b m :=
  ⟨fun u hu => hn u (h.names u hu), fun u hu => hn u (h.waits u hu),
    fun u hu => hn u (h.cancels u hu), h.side⟩

theorem Wires.goto {p : Point} (hw : WebSocket.awaits p = none) (hp : p.ofClose = b) :
    Wires w b (w.goto p) := by
  refine ⟨fun _ => id, fun u hu => ?_, fun u hu => (by cases hu), .inl hp⟩
  rw [show (w.goto p).point = p from rfl, hw] at hu
  cases hu

theorem Wires.goto_from {p : Point} (hn : ∀ u, Names w' u → Names w u)
    (hw : WebSocket.awaits p = none) (hp : p.ofClose = b) : Wires w b (w'.goto p) :=
  (Wires.goto hw hp).from hn

theorem Wires.finish : Wires w b w.finish :=
  ⟨fun _ => id, fun _ h => (by cases h), fun _ h => (by cases h), .inr ⟨_, rfl⟩⟩

theorem Wires.raise : Wires w b w.raise :=
  ⟨fun _ => id, fun _ h => (by cases h), fun _ h => (by cases h), .inr ⟨_, rfl⟩⟩

theorem Wires.emitAt {e : Event} {p : Point} (hw : WebSocket.awaits p = none)
    (hp : p.ofClose = b) : Wires w b (w.emitAt e p) :=
  (Wires.goto (w := w.log e) hw hp).from (fun _ => id)

/-- Suspended in handlers, the names as before. -/
theorem Wires.emit_from {e : Event} {p : Point} (hn : ∀ u, Names w' u → Names w u)
    (hw : WebSocket.awaits p = none) (hp : p.ofClose = b) : Wires w b (w'.emitAt e p) :=
  (Wires.emitAt hw hp).from hn

/-- Suspended until a named task has ended, which is cancelled. -/
theorem Wires.wait {p : Point} {u : Nat} (hn : ∀ u, Names w' u → Names w u)
    (hw : WebSocket.awaits p = some u) (hu : Names w u) (hp : p.ofClose = b) :
    Wires w b { ws := w', point := p, cancel := some u } := by
  refine ⟨hn, fun v hv => ?_, fun v hv => ?_, .inl hp⟩
  · obtain rfl := Option.some.inj (hw.symm.trans hv)
    exact hu
  · obtain rfl := Option.some.inj hv
    exact hu

theorem wires_setState {s : ConnectionState} {p : Point} {next : WebSocket → Move}
    (hn : ∀ u, Names w' u → Names w u) (hw : WebSocket.awaits p = none) (hp : p.ofClose = b)
    (hnext : Wires w' b (next w')) : Wires w b (w'.setState s p next) :=
  WebSocket.setState_cases (Q := Wires w b) (fun _ => hnext.from hn)
    (fun _ => .emit_from hn hw hp)

/-! ### _connect_internal and _schedule_reconnect -/

theorem announceReconnecting_wires : Wires w false w.announceReconnecting := by
  unfold WebSocket.announceReconnecting
  split
  · exact .raise
  · exact .emit_from (fun _ => id) rfl rfl

theorem scheduleReconnect_wires : Wires w false w.scheduleReconnect := by
  unfold WebSocket.scheduleReconnect
  split
  · exact wires_setState (fun _ => id) rfl rfl (.emitAt rfl rfl)
  · exact wires_setState (fun _ => id) rfl rfl announceReconnecting_wires

theorem beginBackoff_wires (delay : ℚ) : Wires w false (w.beginBackoff delay) :=
  wires_setState (fun _ => id) rfl rfl (.goto rfl rfl)

theorem connectInternal_wires : Wires w false w.connectInternal :=
  wires_setState (fun _ => id) rfl rfl (.emitAt rfl rfl)

theorem afterBackoff_wires : Wires w false w.afterBackoff := by
  unfold WebSocket.afterBackoff
  split
  · exact .finish
  · exact connectInternal_wires

theorem openTransport_wires : Wires w false w.openTransport :=
  ⟨fun _ => id, fun _ h => (by cases h), fun _ h => (by cases h), .inl rfl⟩

theorem connectFailed_wires (e : Exc) : Wires w false (w.connectFailed e) := by
  unfold WebSocket.connectFailed
  split
  · exact .emit_from (fun _ => id) rfl rfl
  · exact .raise

theorem afterError_wires (e : Exc) : Wires w false (w.afterError e) := by
  unfold WebSocket.afterError
  split
  · exact wires_setState (fun _ => id) rfl rfl .raise
  · split
    · exact scheduleReconnect_wires
    · exact wires_setState (fun _ => id) rfl rfl .raise

theorem established_wires (isReconnect : Bool) : Wires w false (w.established isReconnect) :=
  wires_setState (fun _ => id) rfl rfl (.emitAt rfl rfl)

theorem connectReturned_wires : Wires w false w.connectReturned := by
  unfold WebSocket.connectReturned
  split
  · exact .emitAt rfl rfl
  · exact established_wires false

/-! ### _handle_disconnect -/

theorem cancelAge_wires (loss : Loss) : Wires w false (w.cancelAge loss) := by
  unfold WebSocket.cancelAge
  split
  · rename_i task hage
    exact .wait (fun _ => id) rfl (.inr (.inl hage)) rfl
  · exact wires_setState (fun _ => id) rfl rfl (.emitAt rfl rfl)

theorem handleDisconnect_wires (loss : Loss) : Wires w false (w.handleDisconnect loss) := by
  unfold WebSocket.handleDisconnect
  split
  · rename_i task hbeat
    dsimp only
    split
    · exact .wait (fun _ => id) rfl (.inl hbeat) rfl
    · exact (cancelAge_wires (w := w.setBeat task _) loss).from (fun _ => id)
  · exact cancelAge_wires loss

theorem lost_wires (msg : String) : Wires w false (w.lost msg) :=
  (handleDisconnect_wires (w := { w with lastError := some (.connectionError msg) }) _).from
    (fun _ => id)

theorem afterStop_wires (loss : Loss) : Wires w false (w.afterStop loss) := by
  unfold WebSocket.afterStop
  split
  · exact cancelAge_wires loss
  · exact .raise

/-- A name is dropped. -/
theorem names_drop_age {u : Nat} (h : Names { w with ageTask := none } u) : Names w u :=
  h.imp id (fun h => .inr (h.resolve_left (fun h => by cases h)))

theorem names_drop_heartbeat {u : Nat} (h : Names { w with heartbeat := none } u) : Names w u :=
  .inr (h.resolve_left (fun h => by cases h))

theorem names_drop_message {u : Nat} (h : Names { w with messageTask := none } u) : Names w u :=
  h.imp id (fun h => .inl (h.resolve_right (fun h => by cases h)))

theorem afterAge_wires (loss : Loss) : Wires w false (w.afterAge loss) :=
  wires_setState (fun _ => names_drop_age) rfl rfl (.emitAt rfl rfl)

theorem afterDisconnected_wires (loss : Loss) : Wires w false (w.afterDisconnected loss) := by
  unfold WebSocket.afterDisconnected
  split
  · exact scheduleReconnect_wires
  · exact wires_setState (fun _ => id) rfl rfl (.emitAt rfl rfl)

/-! ### The background tasks -/

theorem loopTop_wires : Wires w false w.loopTop := by
  unfold WebSocket.loopTop
  split
  · split
    · exact .emit_from (fun _ => id) rfl rfl
    · split
      · exact .goto rfl rfl
      · exact lost_wires _
  · exact .finish

theorem loopStart_wires : Wires w false w.loopStart := by
  unfold WebSocket.loopStart
  split
  · exact .finish
  · exact loopTop_wires

theorem received_wires (l : Nat) (isPong : Bool) : Wires w false (w.received l isPong) := by
  unfold WebSocket.received
  split <;> exact .emitAt rfl rfl

theorem handled_wires (l : Nat) (outcome : WebSocket.Outcome) :
    Wires w false (w.handled l outcome) := by
  unfold WebSocket.handled
  split
  · exact loopTop_wires
  all_goals exact .emitAt rfl rfl

theorem sendPing_wires (k : Nat) : Wires w false (w.sendPing k) := by
  unfold WebSocket.sendPing
  split
  · exact .finish
  · split
    · exact .goto rfl rfl
    · split
      · exact .goto rfl rfl
      · split
        · exact .emitAt rfl rfl
        · exact .raise

theorem pongArrived_wires (k : Nat) : Wires w false (w.pongArrived k) := by
  unfold WebSocket.pongArrived
  split
  · exact .goto rfl rfl
  · exact .finish

theorem pongTimedOut_wires (k : Nat) : Wires w false (w.pongTimedOut k) := by
  unfold WebSocket.pongTimedOut
  split
  · exact .emitAt rfl rfl
  · exact .finish

theorem names_disconnectTransport {u : Nat} (h : Names w.disconnectTransport u) : Names w u := by
  unfold WebSocket.disconnectTransport at h
  split at h <;> exact h

theorem ageOver_wires : Wires w false w.ageOver := by
  unfold WebSocket.ageOver
  split
  · exact .emitAt rfl rfl
  · exact .finish

/-! ### close -/

theorem closeLast_wires (args : CloseArgs) : Wires w true (w.closeLast args) :=
  wires_setState (fun _ => id) rfl rfl (.emitAt rfl rfl)

theorem closeMessageTask_wires (args : CloseArgs) : Wires w true (w.closeMessageTask args) := by
  unfold WebSocket.closeMessageTask
  split
  · rename_i task hmessage
    exact .wait (fun _ => id) rfl (.inr (.inr hmessage)) rfl
  · exact closeLast_wires args

theorem closeTransport_wires (args : CloseArgs) : Wires w true (w.closeTransport args) := by
  unfold WebSocket.closeTransport
  split
  · exact .goto rfl rfl
  · exact closeMessageTask_wires args

theorem closeCutOff_wires (args : CloseArgs) : Wires w true (w.closeCutOff args) :=
  (closeMessageTask_wires (w := { w with transport := none }) args).from (fun _ => id)

theorem closeCalled_wires (args : CloseArgs) (l : Nat) : Wires w true (w.closeCalled args l) := by
  unfold WebSocket.closeCalled
  split
  · exact closeCutOff_wires args
  · exact Wires.goto_from (fun _ => id) rfl rfl

theorem closeReturned_wires (args : CloseArgs) (l : Nat) :
    Wires w true (w.closeReturned args l) :=
  (closeCutOff_wires (w := w.setLink l _) args).from (fun _ => id)

theorem closeAge_wires (args : CloseArgs) : Wires w true (w.closeAge args) := by
  unfold WebSocket.closeAge
  split
  · rename_i task hage
    exact .wait (fun _ => id) rfl (.inr (.inl hage)) rfl
  · exact closeTransport_wires args

theorem closeHeartbeat_wires (args : CloseArgs) : Wires w true (w.closeHeartbeat args) := by
  unfold WebSocket.closeHeartbeat
  split
  · rename_i task hbeat
    dsimp only
    split
    · exact .wait (fun _ => id) rfl (.inl hbeat) rfl
    · exact (closeAge_wires (w := { w.setBeat task _ with heartbeat := none }) args).from
        (fun _ => names_drop_heartbeat)
  · exact closeAge_wires args

theorem close_wires (args : CloseArgs) : Wires w true (w.close args) := by
  unfold WebSocket.close
  dsimp only
  split
  · exact Wires.finish.from (fun _ => id)
  · split
    · exact .emit_from (fun _ => id) rfl rfl
    · exact (closeHeartbeat_wires (w := { w with userClosed := true, running := false }) args).from
        (fun _ => id)

theorem connect_wires : Wires w false w.connect := by
  unfold WebSocket.connect
  split
  · exact (connectInternal_wires (w := { w with userClosed := false, running := true })).from
      (fun _ => id)
  · exact .raise

/-! ### The moves of a task -/

theorem resume_wires {p : Point} (hm : w.resume k p = some m) : Wires w p.ofClose m := by
  cases p with
  | connectingState | connectedState _ | closedState _ | disconnectedState _ | exhaustedState
  | closedByUserState _ =>
    obtain rfl := Option.some.inj hm
    exact .emitAt rfl rfl
  | connectingEmit =>
    obtain rfl := Option.some.inj hm
    exact openTransport_wires
  | errorEmit e =>
    obtain rfl := Option.some.inj hm
    exact afterError_wires e
  | failedState e =>
    obtain rfl := Option.some.inj hm
    exact .raise
  | reconnectedEmit =>
    obtain rfl := Option.some.inj hm
    exact established_wires true
  | connectedEmit isReconnect =>
    simp only [WebSocket.resume, WebSocket.afterConnected] at hm
    split at hm
    · obtain rfl := Option.some.inj hm
      exact .emitAt rfl rfl
    · cases hm
  | exhaustedEmit | closedEmit | closedByUserEmit =>
    obtain rfl := Option.some.inj hm
    exact .finish
  | reconnectingState =>
    obtain rfl := Option.some.inj hm
    exact announceReconnecting_wires
  | reconnectingEmit delay =>
    obtain rfl := Option.some.inj hm
    exact beginBackoff_wires delay
  | backingOffState delay | pingEmit =>
    obtain rfl := Option.some.inj hm
    exact .goto rfl rfl
  | sleeping delay =>
    obtain rfl := Option.some.inj hm
    exact afterBackoff_wires
  | disconnectedEmit loss =>
    obtain rfl := Option.some.inj hm
    exact afterDisconnected_wires loss
  | loopStart =>
    obtain rfl := Option.some.inj hm
    exact loopStart_wires
  | handling l stage =>
    cases stage with
    | raw => cases hm
    | overflow =>
      obtain rfl := Option.some.inj hm
      exact .emitAt rfl rfl
    | message | failed | pong =>
      obtain rfl := Option.some.inj hm
      exact loopTop_wires
  | fatalErrorEmit loss =>
    obtain rfl := Option.some.inj hm
    exact handleDisconnect_wires loss
  | beatSleep =>
    obtain rfl := Option.some.inj hm
    exact sendPing_wires k
  | timeoutEmit | ageEmit =>
    obtain rfl := Option.some.inj hm
    exact (handleDisconnect_wires (w := w.disconnectTransport) _).from
      (fun _ => names_disconnectTransport)
  | ageSleep =>
    obtain rfl := Option.some.inj hm
    exact ageOver_wires
  | closingEmit args =>
    obtain rfl := Option.some.inj hm
    exact wires_setState (fun _ => id) rfl rfl (closeHeartbeat_wires args)
  | disconnectingState args =>
    obtain rfl := Option.some.inj hm
    exact closeHeartbeat_wires args
  | callingTransport args l =>
    obtain rfl := Option.some.inj hm
    exact closeCalled_wires args l
  | _ => cases hm

theorem awaited_wires {p : Point} {raised : Bool} (hm : w.awaited raised p = some m) :
    Wires w p.ofClose m := by
  cases p with
  | stoppingHeartbeat loss task =>
    obtain rfl := Option.some.inj hm
    exact (afterStop_wires (w := w.setBeat task _) loss).from (fun _ => id)
  | cancellingAge loss task =>
    obtain rfl := Option.some.inj hm
    split
    · exact .raise
    · exact afterAge_wires loss
  | closeStopping args task =>
    obtain rfl := Option.some.inj hm
    exact (closeAge_wires (w := { w.setBeat task _ with heartbeat := none }) args).from
      (fun _ => names_drop_heartbeat)
  | closeCancellingAge args task =>
    obtain rfl := Option.some.inj hm
    split
    · exact .raise
    · exact (closeTransport_wires (w := { w with ageTask := none }) args).from
        (fun _ => names_drop_age)
  | closeAwaitingMessage args task =>
    obtain rfl := Option.some.inj hm
    split
    · exact .raise
    · exact (closeLast_wires (w := { w with messageTask := none }) args).from
        (fun _ => names_drop_message)
  | _ => cases hm

theorem reacts_wires {a : Action} {p : Point} (hm : Client.Reacts w k a p m) :
    Wires w p.ofClose m := by
  cases hm with
  | opened j l => exact Wires.goto_from (fun _ => id) rfl rfl
  | connected j l => exact (connectReturned_wires (w := w.setLink l _)).from (fun _ => id)
  | aborted j l e | unreached j l e => exact connectFailed_wires e
  | refused j l e => exact (connectFailed_wires (w := w.setLink l _) e).from (fun _ => id)
  | frame j l isPong => exact received_wires l isPong
  | handle j l outcome => exact handled_wires l outcome
  | closeFrame j l code => exact (lost_wires (w := w.closeFrame l code) _).from (fun _ => id)
  | lossSeen j l => exact (lost_wires (w := w.setLink l _) _).from (fun _ => id)
  | pong j => exact pongArrived_wires k
  | pongTimeout j => exact pongTimedOut_wires k
  | closeDone j args l => exact closeReturned_wires args l
  | closeCut j args l => exact closeCutOff_wires args

end Moves

/-! ## Runs -/

/-- Task `u` was started by the manager. -/
def Background (c : Client) (u : Nat) : Prop :=
  ∃ t, c.tasks[u]? = some t ∧ t.kind.background = true

/-- The task awaits what the manager started, and it is a `close` if it stands in one. -/
def Stands (B : Nat → Prop) (t : AsyncTask) : Prop :=
  (∀ u, WebSocket.awaits t.point = some u → B u) ∧
    (t.live = true → t.point.ofClose = decide (t.kind = .close))

/-- What holds of the tasks at any time. -/
structure Wired (c : Client) : Prop where
  names : ∀ u, Names c.shared u → Background c u
  stands : ∀ (k : Nat) (t : AsyncTask), c.tasks[k]? = some t → Stands (Background c) t
  calls : ∀ (k : Nat) (t : AsyncTask), c.tasks[k]? = some t → t.kind.background = false →
    t.cancelled = false

section Runs
variable {c : Client} {k : Nat} {t : AsyncTask} {m : Move}

/-- A call is not among what is cancelled. -/
theorem calls_cancel (hstands : ∀ (k : Nat) (t : AsyncTask), c.tasks[k]? = some t →
      Stands (Background c) t)
    (h : ∀ (k : Nat) (t : AsyncTask), c.tasks[k]? = some t → t.kind.background = false →
      t.cancelled = false) (fuel : Nat) {k : Nat} (hk : Background c k) :
    ∀ (j : Nat) (u : AsyncTask), (Client.cancel fuel c k).tasks[j]? = some u →
      u.kind.background = false → u.cancelled = false := by
  have hnote : ∀ k, Background c k → ∀ (j : Nat) (u : AsyncTask),
      (c.note k (fun t => { t with cancelled := true })).tasks[j]? = some u →
        u.kind.background = false → u.cancelled = false := by
    rintro k ⟨t, ht, hb⟩ j u hu hc
    simp only [Pool.note, List.getElem?_modify] at hu
    cases hj : c.tasks[j]? with
    | none => simp [hj] at hu
    | some v =>
      simp only [hj, Option.map_eq_map, Option.map_some, Option.some.injEq] at hu
      by_cases hkj : k = j
      · -- the flagged task is a background task
        subst hkj
        obtain rfl := Option.some.inj (ht.symm.trans hj)
        rw [if_pos rfl] at hu
        subst hu
        rw [show t.kind.background = false from hc] at hb
        cases hb
      · rw [if_neg hkj] at hu
        subst hu
        exact h j v hj hc
  induction fuel generalizing k with
  | zero => exact h
  | succ fuel ih =>
    rw [Client.cancel]
    split
    · exact h
    · rename_i t ht
      split
      · rename_i u hu
        split
        · exact hnote k hk
        · exact ih ((hstands k t ht).1 u hu)
      · split
        · exact hnote k hk
        · exact h

theorem background_cancelOpt {u : Nat} (h : Background c u) (k : Option Nat) :
    Background (c.cancelOpt k) u := by
  obtain ⟨t, ht, hb⟩ := h
  obtain ⟨b, hc⟩ := Client.getElem?_cancelOpt k ht
  exact ⟨_, hc, hb⟩

/-- Cancelling what the manager started. -/
theorem Wired.cancelOpt (h : Wired c) {k : Option Nat} (hk : ∀ u, k = some u → Background c u) :
    Wired (c.cancelOpt k) := by
  refine ⟨fun u hu => ?_, ?_, ?_⟩
  · rw [Client.shared_cancelOpt] at hu
    exact background_cancelOpt (h.names u hu) k
  · have heach : Pool.Each (fun _ _ t => Stands (Background (c.cancelOpt k)) t) c :=
      fun j t ht => ⟨fun u hu => background_cancelOpt ((h.stands j t ht).1 u hu) k,
        (h.stands j t ht).2⟩
    exact Client.each_cancelOpt (fun _ _ _ _ hw => hw) heach k
  · cases k with
    | none => exact h.calls
    | some k => exact calls_cancel h.stands h.calls _ (hk k rfl)

@[simp] theorem settle_cancel (k : Nat) (kind : Kind) (m : Move) :
    (AsyncTask.settle k kind m).cancel = m.cancel := by
  unfold AsyncTask.settle
  split <;> rfl

theorem background_move (ht : c.tasks[k]? = some t) {m : TaskPool.Move WebSocket AsyncTask}
    (hk : m.self.kind = t.kind) {u : Nat} (h : Background c u) : Background (c.move k m) u := by
  obtain ⟨v, hv, hb⟩ := h
  by_cases huk : u = k
  · subst huk
    obtain rfl := Option.some.inj (ht.symm.trans hv)
    exact ⟨m.self, Pool.getElem?_move_self (List.getElem?_eq_some_iff.mp ht).1, by rw [hk]; exact hb⟩
  · exact ⟨v, Pool.getElem?_move_ne huk hv, hb⟩

/-- Where a task stands behind its move. -/
theorem stands_settle {B : Nat → Prop} {w : WebSocket} {kind : Kind}
    (hm : Wires w (decide (kind = .close)) m) (hB : ∀ u, Names w u → B u) :
    Stands B { kind, point := (AsyncTask.settle k kind m).point } := by
  unfold AsyncTask.settle
  split
  · rename_i hk
    rw [hk.1]
    dsimp only
    split
    · exact ⟨fun _ hu => (by cases hu), fun _ => rfl⟩
    · exact ⟨fun _ hu => (by cases hu), fun hl => (by cases hl)⟩
  · refine ⟨fun u hu => hB u (hm.waits u hu), fun hl => ?_⟩
    rcases hm.side with hside | ⟨raised, hraised⟩
    · exact hside
    · rw [AsyncTask.live, hraised] at hl
      cases hl

/-- A task makes a move. -/
theorem Wired.run (h : Wired c) (ht : c.tasks[k]? = some t)
    (hm : Wires c.shared (decide (t.kind = .close)) m) : Wired (c.run k t.kind m) := by
  have hlt : k < c.tasks.length := (List.getElem?_eq_some_iff.mp ht).1
  have hB : ∀ u, Background c u →
      Background (c.move k ((AsyncTask.settle k t.kind m).toPool t.kind)) u :=
    fun u hu => background_move ht rfl hu
  refine Wired.cancelOpt ⟨fun u hu => ?_, fun j u hj => ?_, fun j u hj hc => ?_⟩ (fun u hu => ?_)
  · simp only [Pool.shared_move, Move.toPool, Client.settle_ws] at hu
    exact hB u (h.names u (hm.names u hu))
  · rcases Pool.getElem?_move hlt hj with ⟨rfl, rfl⟩ | ⟨-, hu⟩ | ⟨i, -, hi⟩
    · exact stands_settle hm (fun u hu => hB u (h.names u hu))
    · exact ⟨fun v hv => hB v ((h.stands j u hu).1 v hv), (h.stands j u hu).2⟩
    · cases hi
  · rcases Pool.getElem?_move hlt hj with ⟨rfl, rfl⟩ | ⟨-, hu⟩ | ⟨i, -, hi⟩
    · rfl
    · exact h.calls j u hu hc
    · cases hi
  · rw [settle_cancel] at hu
    exact hB u (h.names u (hm.cancels u hu))

/-- A call makes its first move. -/
theorem Wired.enter (h : Wired c) {kind : Kind} (hm : Wires c.shared (decide (kind = .close)) m) :
    Wired (c.enter kind m) := by
  have hB : ∀ u, Background c u → Background (c.call (m.toPool kind)) u := by
    rintro u ⟨v, hv, hb⟩
    refine ⟨v, ?_, hb⟩
    rw [Pool.call, List.getElem?_append_left (List.getElem?_eq_some_iff.mp hv).1]
    exact hv
  refine Wired.cancelOpt ⟨fun u hu => ?_, fun j u hj => ?_, fun j u hj hc => ?_⟩ (fun u hu => ?_)
  · exact hB u (h.names u (hm.names u hu))
  · rcases Pool.getElem?_call hj with hu | ⟨-, rfl⟩ | ⟨i, -, hi⟩
    · exact ⟨fun v hv => hB v ((h.stands j u hu).1 v hv), (h.stands j u hu).2⟩
    · refine ⟨fun v hv => hB v (h.names v (hm.waits v hv)), fun hl => ?_⟩
      rcases hm.side with hside | ⟨raised, hraised⟩
      · exact hside
      · rw [AsyncTask.live, show (m.toPool kind).self.point = .done raised from hraised] at hl
        cases hl
    · cases hi
  · rcases Pool.getElem?_call hj with hu | ⟨-, rfl⟩ | ⟨i, -, hi⟩
    · exact h.calls j u hu hc
    · rfl
    · cases hi
  · exact hB u (h.names u (hm.cancels u hu))

/-- The names are those of before, and the new tasks. -/
theorem names_startTasks {w : WebSocket} {fresh u : Nat} (h : Names (w.startTasks fresh).1 u) :
    Names w u ∨ ∃ i t, u = fresh + i ∧ (w.startTasks fresh).2[i]? = some t := by
  have hnew : ∀ {i : Nat}, i < (w.startTasks fresh).2.length → some (fresh + i) = some u →
      ∃ i t, u = fresh + i ∧ (w.startTasks fresh).2[i]? = some t := by
    intro i hi hu
    exact ⟨i, _, (Option.some.inj hu).symm, List.getElem?_eq_getElem hi⟩
  unfold WebSocket.startTasks at h hnew ⊢
  cases hb : w.settings.heartbeat <;> cases ha : w.settings.maxConnectionAge <;>
    simp only [hb, ha, Names, Bool.false_eq_true, if_true, if_false, List.nil_append,
      List.cons_append, List.length_nil, List.length_cons, Nat.add_zero] at h hnew ⊢
  · rcases h with h | h | h
    · exact .inl (.inl h)
    · exact .inl (.inr (.inl h))
    · exact .inr (hnew (i := 0) (by omega) h)
  · rcases h with h | h | h
    · exact .inl (.inl h)
    · exact .inr (hnew (i := 0) (by omega) h)
    · exact .inr (hnew (i := 1) (by omega) h)
  · rcases h with h | h | h
    · exact .inr (hnew (i := 0) (by omega) h)
    · exact .inl (.inr (.inl h))
    · exact .inr (hnew (i := 1) (by omega) h)
  · rcases h with h | h | h
    · exact .inr (hnew (i := 0) (by omega) h)
    · exact .inr (hnew (i := 1) (by omega) h)
    · exact .inr (hnew (i := 2) (by omega) h)

/-- The tasks of a connection start. -/
theorem Wired.start (h : Wired c) (ht : c.tasks[k]? = some t) : Wired (c.start k t.kind) := by
  have hlt : k < c.tasks.length := (List.getElem?_eq_some_iff.mp ht).1
  have hB : ∀ u, Background c u → Background (c.start k t.kind) u :=
    fun u hu => background_move ht rfl hu
  have hnew : ∀ (i : Nat) (u : AsyncTask), (c.shared.startTasks c.tasks.length).2[i]? = some u →
      u = ⟨.heartbeat, .beatSleep, false⟩ ∨ u = ⟨.ageTimer, .ageSleep, false⟩ ∨
        u = ⟨.messageLoop, .loopStart, false⟩ :=
    fun i u hu => (Client.mem_startTasks hu).imp id (Or.imp id And.left)
  refine ⟨fun u hu => ?_, fun j u hj => ?_, fun j u hj hc => ?_⟩
  · rcases names_startTasks hu with hu | ⟨i, v, rfl, hv⟩
    · exact hB u (h.names u hu)
    · refine ⟨v, Pool.getElem?_move_spawned hv, ?_⟩
      rcases hnew i v hv with rfl | rfl | rfl <;> rfl
  · rcases Pool.getElem?_move hlt hj with ⟨rfl, rfl⟩ | ⟨-, hu⟩ | ⟨i, -, hi⟩
    · exact ⟨fun _ hu => (by cases hu), fun hl => (by cases hl)⟩
    · exact ⟨fun v hv => hB v ((h.stands j u hu).1 v hv), (h.stands j u hu).2⟩
    · rcases hnew i u hi with rfl | rfl | rfl <;>
        exact ⟨fun _ hu => (by cases hu), fun _ => rfl⟩
  · rcases Pool.getElem?_move hlt hj with ⟨rfl, rfl⟩ | ⟨-, hu⟩ | ⟨i, -, hi⟩
    · rfl
    · exact h.calls j u hu hc
    · rcases hnew i u hi with rfl | rfl | rfl <;> rfl

/-- Every step of the system. -/
theorem Wired.step {c' : Client} {a : Action} (h : Wired c) (hs : c.step a = some c') :
    Wired c' := by
  rcases Client.step_cases hs with ⟨d, rfl, rfl⟩ | ⟨l, rfl, rfl⟩ | ⟨rfl, rfl⟩ | ⟨args, rfl, rfl⟩ |
    ⟨k, t, rfl, ht, -, -, rfl⟩ | ⟨k, t, m, ht, hm, rfl⟩
  · exact ⟨h.names, h.stands, h.calls⟩
  · exact ⟨h.names, h.stands, h.calls⟩
  · exact h.enter connect_wires
  · exact h.enter (close_wires args)
  · exact h.start ht
  · have hside : t.live = true → t.point.ofClose = decide (t.kind = .close) := (h.stands k t ht).2
    cases hm with
    | cancelled => exact h.run ht .finish
    | resumed hc hw hm => exact h.run ht (hside (Client.live_of_resume hm) ▸ resume_wires hm)
    | awaited hw hu hm => exact h.run ht (hside (Client.live_of_awaited hm) ▸ awaited_wires hm)
    | reacts ha hc hm => exact h.run ht (hside (Client.live_of_reacts hm) ▸ reacts_wires hm)

end Runs

theorem wired_init (settings : Settings) (backoff : BackoffConfig) :
    Wired (Client.init settings backoff) := by
  refine ⟨fun u hu => ?_, fun _ _ h => (by cases h), fun _ _ h => (by cases h)⟩
  rcases hu with hu | hu | hu <;> cases hu

/-- **Who waits for whom**, in every reachable state. -/
theorem wired (settings : Settings) (backoff : BackoffConfig) {c : Client} {as : List Action}
    (h : exec Client.step (Client.init settings backoff) as = some c) : Wired c :=
  exec_invariant (fun _ _ _ hc hs => hc.step hs) (wired_init settings backoff) h

end JetSocket.Manager
