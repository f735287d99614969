import JetSocket.Manager.Accounting

/- What the events of a WebSocket tell somebody who sees nothing else.

   Every change of state is announced, with the state before and behind it, and every retry with
   its number and the delay that is slept. `Speaks` says of one step what its event tells; each
   method has one lemma. `Watched` keeps, beside the client, how many calls of `connect` were
   accepted: a task that is on its way through a backoff has one of the announced retries for
   itself, and the next attempt is its own.

   What is proved:
     1. `step_speaks` — one step emits nothing and changes no state, or its event tells the change.
     2. `events_tell` — in every run, whoever follows the `state_change` events from IDLE on meets
        no gap and is in the state of the object; the `reconnecting` events are numbered 1, 2, 3, …
        over the whole life and carry the delays of the schedule, never more than `max_attempts`;
        the numbers that `connecting` and `reconnected` carry never go down; and there are never
        more attempts than accepted calls of `connect` and announced retries. -/
namespace JetSocket.Manager
open JetSocket.Transport TaskPool Transition

/-! ## What is heard -/

/-- Somebody who believes the state is `s` follows the changes; `none` where one does not fit. -/
def follow : ConnectionState → List Event → Option ConnectionState
  | s, [] => some s
  | s, .stateChange oldState newState :: es =>
    if oldState = s ∧ newState ≠ oldState then follow newState es else none
  | s, _ :: es => follow s es

/-- The number and the delay of each retry. -/
def retries (es : List Event) : List (Nat × ℚ) :=
  es.filterMap (fun e => match e with
    | .reconnecting attempt delay _ => some (attempt, delay)
    | _ => none)

/-- The number of the attempt that the event carries. -/
def Event.number : Event → Option Nat
  | .connecting attempt | .reconnected attempt => some attempt
  | _ => none

/-- The delay behind `n` retries. -/
def retryDelay (settings : Settings) (config : BackoffConfig) (n : Nat) : Option ℚ :=
  (settings.pow config.multiplier n).map (fun p =>
    if config.jitter then settings.uniform (min (config.base * p) config.cap)
    else min (config.base * p) config.cap)

theorem follow_append (es fs : List Event) : ∀ s : ConnectionState,
    follow s (es ++ fs) = (follow s es).bind (fun r => follow r fs) := by
  induction es with
  | nil => exact fun _ => rfl
  | cons e es ih =>
    intro s
    rw [List.cons_append]
    cases e with
    | stateChange oldState newState =>
      simp only [follow]
      split
      · exact ih newState
      · rfl
    | _ => exact ih s

/-! ## One step -/

/-- The event tells no change of state, no retry and no number. -/
def Event.plain : Event → Bool
  | .stateChange _ _ | .reconnecting _ _ _ | .connecting _ | .reconnected _ => false
  | _ => true

/-- What is emitted between `w` and `v`. -/
inductive Speaks (w v : WebSocket) : Prop
  | nothing (emitted : v.emitted = w.emitted) (state : v.state = w.state)
      (retry : v.backoff.attempt = w.backoff.attempt)
  | changes (emitted : v.emitted = w.emitted ++ [.stateChange w.state v.state])
      (state : w.state ≠ v.state) (retry : v.backoff.attempt = w.backoff.attempt)
  | retries (delay : ℚ) (lastError : Option Exc)
      (emitted : v.emitted = w.emitted ++ [.reconnecting v.backoff.attempt delay lastError])
      (state : v.state = w.state)
      (next : w.backoff.nextDelay w.settings.pow w.settings.uniform = .ok (v.backoff, delay))
  | tells (e : Event) (emitted : v.emitted = w.emitted ++ [e])
      (plain : e.plain = true ∨ e.number = some v.attempt)
      (state : v.state = w.state) (retry : v.backoff.attempt = w.backoff.attempt)

/-- The step, with what never changes, and the count of the attempts. -/
structure Records (w v : WebSocket) : Prop where
  speaks : Speaks w v
  settings : v.settings = w.settings
  config : v.backoff.config = w.backoff.config
  attempt : w.attempt ≤ v.attempt

section Methods
variable {w v u : WebSocket}

theorem Records.refl (w : WebSocket) : Records w w :=
  ⟨.nothing rfl rfl rfl, rfl, rfl, Nat.le_refl _⟩

/-- What is not heard of changes first. -/
theorem Records.from (h : Records v u) (emitted : v.emitted = w.emitted) (state : v.state = w.state)
    (backoff : v.backoff = w.backoff) (settings : v.settings = w.settings)
    (attempt : w.attempt ≤ v.attempt) : Records w u := by
  obtain ⟨hspeaks, hsettings, hconfig, hattempt⟩ := h
  refine ⟨?_, hsettings.trans settings, hconfig.trans (congrArg _ backoff), attempt.trans hattempt⟩
  cases hspeaks with
  | nothing he hs hr =>
    exact .nothing (he.trans emitted) (hs.trans state) (hr.trans (by rw [backoff]))
  | changes he hs hr =>
    rw [emitted, state] at he
    exact .changes he (state ▸ hs) (hr.trans (by rw [backoff]))
  | retries delay lastError he hs hn =>
    rw [emitted] at he
    rw [backoff, settings] at hn
    exact .retries delay lastError he (hs.trans state) hn
  | tells e he hp hs hr =>
    rw [emitted] at he
    exact .tells e he hp (hs.trans state) (hr.trans (by rw [backoff]))

/-- An event that tells nothing, or the number of the object. -/
theorem Records.emitAt {e : Event} {q : Point} (he : e.plain = true ∨ e.number = some w.attempt) :
    Records w (w.emitAt e q).ws :=
  ⟨.tells e rfl he rfl rfl, rfl, rfl, Nat.le_refl _⟩

/-- `_set_state`. -/
theorem Records.set {r : ConnectionState} {q : Point} {next : WebSocket → Move}
    (hnext : Records w (next w).ws) : Records w (w.setState r q next).ws :=
  WebSocket.setState_cases (Q := fun m => Records w m.ws) (fun _ => hnext)
    (fun hne => ⟨.changes rfl hne rfl, rfl, rfl, Nat.le_refl _⟩)

/-- A heartbeat is told to stop. -/
theorem Records.setBeat {k : Nat} {f : Beat → Beat} (h : Records (w.setBeat k f) u) :
    Records w u :=
  h.from rfl rfl rfl rfl (Nat.le_refl _)

/-- Something happens to a transport. -/
theorem Records.setLink {l : Nat} {f : Link → Link} (h : Records (w.setLink l f) u) :
    Records w u :=
  h.from rfl rfl rfl rfl (Nat.le_refl _)

/-! ### The way to a connection -/

theorem announceExhausted_records : Records w w.announceExhausted.ws :=
  .emitAt (.inl rfl)

theorem announceReconnecting_records : Records w w.announceReconnecting.ws := by
  unfold WebSocket.announceReconnecting
  split
  · exact .refl w
  · rename_i backoff delay hnext
    have hconfig : backoff.config = w.backoff.config := by
      rw [(BackoffStrategy.nextDelay_eq hnext).1]
    exact ⟨.retries delay w.lastError rfl rfl hnext, rfl, hconfig, Nat.le_refl _⟩

theorem scheduleReconnect_records : Records w w.scheduleReconnect.ws := by
  unfold WebSocket.scheduleReconnect
  split
  · exact .set announceExhausted_records
  · exact .set announceReconnecting_records

theorem connectInternal_records : Records w w.connectInternal.ws :=
  Records.from (v := { w with attempt := w.attempt + 1 })
    (.set (.emitAt (.inr rfl)))
    rfl rfl rfl rfl (Nat.le_succ _)

theorem afterBackoff_records : Records w w.afterBackoff.ws := by
  unfold WebSocket.afterBackoff
  split
  · exact .refl w
  · exact connectInternal_records

theorem openTransport_records : Records w w.openTransport.ws :=
  ⟨.nothing rfl rfl rfl, rfl, rfl, Nat.le_refl _⟩

theorem connectFailed_records (e : Exc) : Records w (w.connectFailed e).ws := by
  unfold WebSocket.connectFailed
  split
  · exact Records.from (v := { w with lastError := some e })
      (.emitAt (.inl rfl)) rfl rfl rfl rfl (Nat.le_refl _)
  · exact .refl w

theorem afterError_records (e : Exc) : Records w (w.afterError e).ws := by
  unfold WebSocket.afterError
  split
  · exact .set (.refl w)
  · split
    · exact scheduleReconnect_records
    · exact .set (.refl w)

/-- The success is noted in the backoff, which keeps its count. -/
theorem established_records (isReconnect : Bool) : Records w (w.established isReconnect).ws := by
  have hset : Records { w with backoff := w.backoff.success w.now, lastError := none }
      (w.established isReconnect).ws :=
    .set (.emitAt (.inl rfl))
  obtain ⟨hspeaks, hsettings, hconfig, hattempt⟩ := hset
  refine ⟨?_, hsettings, hconfig, hattempt⟩
  unfold WebSocket.established at hspeaks ⊢
  refine WebSocket.setState_cases (Q := fun m => Speaks w m.ws) (fun _ => ?_) (fun hne => ?_)
  · exact .tells .connected rfl (.inl rfl) rfl rfl
  · exact .changes rfl hne rfl

theorem connectReturned_records : Records w w.connectReturned.ws := by
  unfold WebSocket.connectReturned
  split
  · exact .emitAt (.inr rfl)
  · exact established_records false

theorem startTasks_records (fresh : Nat) : Records w (w.startTasks fresh).1 := by
  unfold WebSocket.startTasks
  dsimp only
  split <;> split <;> exact ⟨.nothing rfl rfl rfl, rfl, rfl, Nat.le_refl _⟩

/-! ### The loss of one -/

theorem toDisconnected_records (loss : Loss) {q : Point} :
    Records w (w.setState .disconnected q (WebSocket.announceDisconnected loss)).ws :=
  .set (.emitAt (.inl rfl))

theorem cancelAge_records (loss : Loss) : Records w (w.cancelAge loss).ws := by
  unfold WebSocket.cancelAge
  split
  · exact .refl w
  · exact toDisconnected_records loss

theorem handleDisconnect_records (loss : Loss) : Records w (w.handleDisconnect loss).ws := by
  unfold WebSocket.handleDisconnect
  split
  · rename_i task _
    have hage : Records (w.setBeat task fun b => { b with running := false })
        ((w.setBeat task fun b => { b with running := false }).cancelAge loss).ws :=
      cancelAge_records loss
    dsimp only
    split
    · exact ⟨.nothing rfl rfl rfl, rfl, rfl, Nat.le_refl _⟩
    · exact hage.setBeat
  · exact cancelAge_records loss

theorem lost_records (msg : String) : Records w (w.lost msg).ws :=
  Records.from (v := { w with lastError := some (.connectionError msg) })
    (handleDisconnect_records _) rfl rfl rfl rfl (Nat.le_refl _)

theorem afterStop_records (loss : Loss) : Records w (w.afterStop loss).ws := by
  unfold WebSocket.afterStop
  split
  · exact cancelAge_records loss
  · exact .refl w

theorem afterAge_records (loss : Loss) : Records w (w.afterAge loss).ws :=
  Records.from (v := { w with ageTask := none }) (toDisconnected_records loss)
    rfl rfl rfl rfl (Nat.le_refl _)

theorem afterDisconnected_records (loss : Loss) : Records w (w.afterDisconnected loss).ws := by
  unfold WebSocket.afterDisconnected
  split
  · exact scheduleReconnect_records
  · exact .set (.emitAt (.inl rfl))

theorem loopTop_records : Records w w.loopTop.ws := by
  unfold WebSocket.loopTop
  split
  · split
    · exact Records.from (v := { w with lastError := _ })
        (.emitAt (.inl rfl)) rfl rfl rfl rfl (Nat.le_refl _)
    · split
      · exact .refl w
      · exact lost_records _
  · exact .refl w

theorem loopStart_records : Records w w.loopStart.ws := by
  unfold WebSocket.loopStart
  split
  · exact .refl w
  · exact loopTop_records

theorem received_records (l : Nat) (isPong : Bool) : Records w (w.received l isPong).ws := by
  unfold WebSocket.received
  split
  · exact .emitAt (.inl rfl)
  · exact .emitAt (.inl rfl)

theorem handled_records (l : Nat) (outcome : WebSocket.Outcome) :
    Records w (w.handled l outcome).ws := by
  cases outcome with
  | applicationPong => exact loopTop_records
  | message overflow =>
    cases overflow <;> exact .emitAt (.inl rfl)
  | undecodable e => exact .emitAt (.inl rfl)

theorem sendPing_records (k : Nat) : Records w (w.sendPing k).ws := by
  unfold WebSocket.sendPing
  split
  · exact .refl w
  · split
    · exact .refl w
    · split
      · exact .refl w
      · split
        · exact .emitAt (.inl rfl)
        · exact .refl w

theorem pongArrived_records (k : Nat) : Records w (w.pongArrived k).ws := by
  unfold WebSocket.pongArrived
  split <;> exact .refl w

theorem pongTimedOut_records (k : Nat) : Records w (w.pongTimedOut k).ws := by
  unfold WebSocket.pongTimedOut
  split
  · exact .emitAt (.inl rfl)
  · exact .refl w

theorem ageOver_records : Records w w.ageOver.ws := by
  unfold WebSocket.ageOver
  split
  · exact .emitAt (.inl rfl)
  · exact .refl w

/-- The heartbeat or the age timer gives the connection up. -/
theorem disconnectTransport_records (loss : Loss) :
    Records w (w.disconnectTransport.handleDisconnect loss).ws := by
  have h : Records w.disconnectTransport (w.disconnectTransport.handleDisconnect loss).ws :=
    handleDisconnect_records loss
  unfold WebSocket.disconnectTransport at h ⊢
  split at h
  · exact h.setLink
  · exact h

/-! ### close -/

theorem closeLast_records (args : CloseArgs) : Records w (w.closeLast args).ws :=
  .set (.emitAt (.inl rfl))

theorem closeMessageTask_records (args : CloseArgs) : Records w (w.closeMessageTask args).ws := by
  unfold WebSocket.closeMessageTask
  split
  · exact .refl w
  · exact closeLast_records args

theorem closeTransport_records (args : CloseArgs) : Records w (w.closeTransport args).ws := by
  unfold WebSocket.closeTransport
  split
  · exact .refl w
  · exact closeMessageTask_records args

/-- The transport is dropped. -/
theorem dropped_records (args : CloseArgs) :
    Records w (WebSocket.closeMessageTask { w with transport := none } args).ws :=
  (closeMessageTask_records args).from rfl rfl rfl rfl (Nat.le_refl _)

theorem closeCalled_records (args : CloseArgs) (l : Nat) :
    Records w (w.closeCalled args l).ws := by
  unfold WebSocket.closeCalled
  split
  · exact dropped_records args
  · exact ⟨.nothing rfl rfl rfl, rfl, rfl, Nat.le_refl _⟩

theorem closeReturned_records (args : CloseArgs) (l : Nat) :
    Records w (w.closeReturned args l).ws :=
  (dropped_records args).setLink

theorem closeAge_records (args : CloseArgs) : Records w (w.closeAge args).ws := by
  unfold WebSocket.closeAge
  split
  · exact .refl w
  · exact closeTransport_records args

theorem closeHeartbeat_records (args : CloseArgs) : Records w (w.closeHeartbeat args).ws := by
  unfold WebSocket.closeHeartbeat
  split
  · dsimp only
    split
    · exact ⟨.nothing rfl rfl rfl, rfl, rfl, Nat.le_refl _⟩
    · exact (closeAge_records args).from rfl rfl rfl rfl (Nat.le_refl _)
  · exact closeAge_records args

theorem close_records (args : CloseArgs) : Records w (w.close args).ws := by
  refine Records.from (v := { w with userClosed := true, running := false }) ?_
    rfl rfl rfl rfl (Nat.le_refl _)
  unfold WebSocket.close
  dsimp only
  split
  · exact .refl _
  · split
    · exact .emitAt (.inl rfl)
    · exact closeHeartbeat_records args

theorem connect_records : Records w w.connect.ws := by
  unfold WebSocket.connect
  split
  · exact connectInternal_records.from rfl rfl rfl rfl (Nat.le_refl _)
  · exact .refl w

/-! ### Resuming -/

theorem resume_records {k : Nat} {p : Point} {m : Move} (hm : w.resume k p = some m) :
    Records w m.ws := by
  cases p with
  | connectingState =>
    obtain rfl := Option.some.inj hm
    exact .emitAt (.inr rfl)
  | connectingEmit =>
    obtain rfl := Option.some.inj hm
    exact openTransport_records
  | errorEmit e =>
    obtain rfl := Option.some.inj hm
    exact afterError_records e
  | reconnectedEmit =>
    obtain rfl := Option.some.inj hm
    exact established_records true
  | connectedEmit isReconnect =>
    have hm : w.afterConnected isReconnect = some m := hm
    unfold WebSocket.afterConnected at hm
    split at hm
    · obtain rfl := Option.some.inj hm
      exact .emitAt (.inl rfl)
    · cases hm
  | connectedState _ | exhaustedState | disconnectedState _ | closedState _ | closedByUserState _ =>
    obtain rfl := Option.some.inj hm
    exact .emitAt (.inl rfl)
  | reconnectingState =>
    obtain rfl := Option.some.inj hm
    exact announceReconnecting_records
  | reconnectingEmit delay =>
    obtain rfl := Option.some.inj hm
    exact .set (.refl w)
  | failedState _ | exhaustedEmit | backingOffState _ | closedEmit | pingEmit | closedByUserEmit =>
    obtain rfl := Option.some.inj hm
    exact .refl w
  | sleeping delay =>
    obtain rfl := Option.some.inj hm
    exact afterBackoff_records
  | disconnectedEmit loss =>
    obtain rfl := Option.some.inj hm
    exact afterDisconnected_records loss
  | loopStart =>
    obtain rfl := Option.some.inj hm
    exact loopStart_records
  | handling l stage =>
    cases stage with
    | raw => cases hm
    | overflow =>
      obtain rfl := Option.some.inj hm
      exact .emitAt (.inl rfl)
    | message | failed | pong =>
      obtain rfl := Option.some.inj hm
      exact loopTop_records
  | fatalErrorEmit loss =>
    obtain rfl := Option.some.inj hm
    exact handleDisconnect_records loss
  | beatSleep =>
    obtain rfl := Option.some.inj hm
    exact sendPing_records k
  | timeoutEmit | ageEmit =>
    obtain rfl := Option.some.inj hm
    exact disconnectTransport_records _
  | ageSleep =>
    obtain rfl := Option.some.inj hm
    exact ageOver_records
  | closingEmit args =>
    obtain rfl := Option.some.inj hm
    exact .set (closeHeartbeat_records args)
  | disconnectingState args =>
    obtain rfl := Option.some.inj hm
    exact closeHeartbeat_records args
  | callingTransport args l =>
    obtain rfl := Option.some.inj hm
    exact closeCalled_records args l
  | _ => cases hm

theorem awaited_records {raised : Bool} {p : Point} {m : Move}
    (hm : w.awaited raised p = some m) : Records w m.ws := by
  cases p with
  | stoppingHeartbeat loss task =>
    obtain rfl := Option.some.inj hm
    exact (afterStop_records loss).setBeat
  | cancellingAge loss task =>
    obtain rfl := Option.some.inj hm
    cases raised with
    | true => exact .refl w
    | false => exact afterAge_records loss
  | closeStopping args task =>
    obtain rfl := Option.some.inj hm
    exact (closeAge_records args).from rfl rfl rfl rfl (Nat.le_refl _)
  | closeCancellingAge args task =>
    obtain rfl := Option.some.inj hm
    cases raised with
    | true => exact .refl w
    | false => exact (closeTransport_records args).from rfl rfl rfl rfl (Nat.le_refl _)
  | closeAwaitingMessage args task =>
    obtain rfl := Option.some.inj hm
    cases raised with
    | true => exact .refl w
    | false => exact (closeLast_records args).from rfl rfl rfl rfl (Nat.le_refl _)
  | _ => cases hm

theorem reacts_records {k : Nat} {a : Action} {p : Point} {m : Move}
    (hm : Client.Reacts w k a p m) : Records w m.ws := by
  cases hm with
  | opened j l => exact ⟨.nothing rfl rfl rfl, rfl, rfl, Nat.le_refl _⟩
  | connected j l => exact connectReturned_records.setLink
  | aborted j l e _ => exact connectFailed_records e
  | refused j l e => exact (connectFailed_records e).setLink
  | unreached j l e => exact connectFailed_records e
  | frame j l isPong => exact received_records l isPong
  | handle j l outcome => exact handled_records l outcome
  | closeFrame j l code => exact (lost_records _).setLink
  | lossSeen j l _ => exact (lost_records _).setLink
  | pong j => exact pongArrived_records k
  | pongTimeout j => exact pongTimedOut_records k
  | closeDone j args l => exact closeReturned_records args l
  | closeCut j args l => exact dropped_records args

end Methods

/-- **One step.** -/
theorem step_speaks {c c' : Client} {a : Action} (h : c.step a = some c') :
    Records c.shared c'.shared := by
  rcases Client.step_cases h with ⟨d, -, rfl⟩ | ⟨l, -, rfl⟩ | ⟨-, rfl⟩ | ⟨args, -, rfl⟩ |
    ⟨k, t, -, -, -, -, rfl⟩ | ⟨k, t, m, -, hm, rfl⟩
  · exact ⟨.nothing rfl rfl rfl, rfl, rfl, Nat.le_refl _⟩
  · exact ⟨.nothing rfl rfl rfl, rfl, rfl, Nat.le_refl _⟩
  · rw [Client.shared_enter]
    exact connect_records
  · rw [Client.shared_enter]
    exact close_records args
  · exact startTasks_records _
  · rw [Client.shared_run]
    cases hm with
    | cancelled => exact .refl _
    | resumed _ _ hm => exact resume_records hm
    | awaited _ _ hm => exact awaited_records hm
    | reacts _ _ hm => exact reacts_records hm

/-! ## A whole life -/

/-- What was heard so far, against the object. -/
structure Heard (settings : Settings) (config : BackoffConfig) (ws : WebSocket) : Prop where
  sameSettings : ws.settings = settings
  sameConfig : ws.backoff.config = config
  state : follow .idle ws.emitted = some ws.state
  schedule : (retries ws.emitted).map (fun r => (r.1, some r.2)) =
    (List.range ws.backoff.attempt).map (fun i => (i + 1, retryDelay settings config i))
  capped : config.maxAttempts ≠ 0 → ws.backoff.attempt ≤ config.maxAttempts
  numbers : ∀ n ∈ ws.emitted.filterMap Event.number, n ≤ ws.attempt
  sorted : (ws.emitted.filterMap Event.number).Pairwise (· ≤ ·)

section Heard
variable {settings : Settings} {config : BackoffConfig} {w v : WebSocket}

/-- An event that is no change of state is not followed. -/
theorem follow_other {e : Event} (he : ∀ a b, e ≠ .stateChange a b) (s : ConnectionState) :
    follow s [e] = some s := by
  cases e with
  | stateChange a b => exact (he a b rfl).elim
  | _ => rfl

/-- Nothing more is numbered. -/
theorem Heard.unnumbered (h : Heard settings config w) {es : List Event}
    (emitted : v.emitted = w.emitted ++ es) (none : es.filterMap Event.number = [])
    (attempt : w.attempt ≤ v.attempt) :
    (∀ n ∈ v.emitted.filterMap Event.number, n ≤ v.attempt) ∧
      (v.emitted.filterMap Event.number).Pairwise (· ≤ ·) := by
  rw [emitted, List.filterMap_append, none, List.append_nil]
  exact ⟨fun n hn => (h.numbers n hn).trans attempt, h.sorted⟩

/-- A retry that can be computed is the next of the schedule, and one that was left. -/
theorem nextDelay_schedule {b b' : BackoffStrategy} {delay : ℚ}
    (h : b.nextDelay settings.pow settings.uniform = .ok (b', delay)) :
    b'.attempt = b.attempt + 1 ∧ retryDelay settings b.config b.attempt = some delay ∧
      (b.config.maxAttempts ≠ 0 → b.attempt < b.config.maxAttempts) := by
  obtain ⟨rfl, p, hp, rfl⟩ := BackoffStrategy.nextDelay_eq h
  refine ⟨rfl, ?_, fun hmax => ?_⟩
  · unfold retryDelay
    rw [hp]
    rfl
  · by_contra hle
    have hexhausted : b.exhausted = true := by
      unfold BackoffStrategy.exhausted
      rw [if_neg hmax]
      exact decide_eq_true (Nat.not_lt.mp hle)
    unfold BackoffStrategy.nextDelay at h
    rw [if_pos hexhausted] at h
    cases h

/-- **One step** is heard as it was. -/
theorem Heard.step (h : Heard settings config w) (hr : Records w v) : Heard settings config v := by
  obtain ⟨hspeaks, hsettings, hconfig, hattempt⟩ := hr
  replace hsettings := hsettings.trans h.sameSettings
  replace hconfig := hconfig.trans h.sameConfig
  cases hspeaks with
  | nothing emitted state retry =>
    obtain ⟨hnumbers, hsorted⟩ := h.unnumbered (emitted.trans (List.append_nil _).symm) rfl hattempt
    refine ⟨hsettings, hconfig, ?_, ?_, ?_, hnumbers, hsorted⟩
    · rw [emitted, state, h.state]
    · rw [emitted, retry, h.schedule]
    · rw [retry]
      exact h.capped
  | changes emitted state retry =>
    obtain ⟨hnumbers, hsorted⟩ := h.unnumbered emitted rfl hattempt
    refine ⟨hsettings, hconfig, ?_, ?_, ?_, hnumbers, hsorted⟩
    · rw [emitted, follow_append, h.state, Option.bind_some]
      exact if_pos ⟨rfl, state.symm⟩
    · have hretries : retries v.emitted = retries w.emitted := by
        rw [emitted]
        unfold retries
        rw [List.filterMap_append]
        exact List.append_nil _
      rw [hretries, retry, h.schedule]
    · rw [retry]
      exact h.capped
  | retries delay lastError emitted state next =>
    obtain ⟨hnumbers, hsorted⟩ := h.unnumbered emitted rfl hattempt
    rw [h.sameSettings] at next
    obtain ⟨hcount, hdelay, hleft⟩ := nextDelay_schedule next
    rw [h.sameConfig] at hdelay hleft
    refine ⟨hsettings, hconfig, ?_, ?_, ?_, hnumbers, hsorted⟩
    · rw [emitted, follow_append, h.state, state]
      rfl
    · have hretries : retries v.emitted = retries w.emitted ++ [(v.backoff.attempt, delay)] := by
        rw [emitted]
        unfold retries
        rw [List.filterMap_append]
        rfl
      rw [hretries, List.map_append, h.schedule, hcount, List.range_succ, List.map_append,
        List.map_singleton, List.map_singleton, hdelay]
    · intro hmax
      rw [hcount]
      exact hleft hmax
  | tells e emitted plain state retry =>
    have hother : ∀ a b, e ≠ .stateChange a b := by
      rintro a b rfl
      rcases plain with hp | hp
      · cases hp
      · cases hp
    have hquiet : retries [e] = [] := by
      cases e with
      | reconnecting n d err =>
        rcases plain with hp | hp
        · cases hp
        · cases hp
      | _ => rfl
    have hretries : retries v.emitted = retries w.emitted := by
      unfold retries at hquiet ⊢
      rw [emitted, List.filterMap_append, hquiet, List.append_nil]
    have hnumbers : (∀ n ∈ v.emitted.filterMap Event.number, n ≤ v.attempt) ∧
        (v.emitted.filterMap Event.number).Pairwise (· ≤ ·) := by
      rcases plain with hp | hp
      · refine h.unnumbered emitted ?_ hattempt
        cases e with
        | connecting n | reconnected n => cases hp
        | _ => rfl
      · have hone : [e].filterMap Event.number = [v.attempt] := by
          rw [List.filterMap_cons, hp]
          rfl
        have hle : ∀ n ∈ w.emitted.filterMap Event.number, n ≤ v.attempt :=
          fun n hn => (h.numbers n hn).trans hattempt
        rw [emitted, List.filterMap_append, hone]
        refine ⟨fun n hn => ?_, ?_⟩
        · rcases List.mem_append.mp hn with hn | hn
          · exact hle n hn
          · rw [List.mem_singleton.mp hn]
        · refine List.pairwise_append.mpr ⟨h.sorted, List.pairwise_singleton _ _, ?_⟩
          intro n hn m hm
          rw [List.mem_singleton.mp hm]
          exact hle n hn
    refine ⟨hsettings, hconfig, ?_, ?_, ?_, hnumbers.1, hnumbers.2⟩
    · rw [emitted, follow_append, h.state, state]
      exact follow_other hother _
    · rw [hretries, retry, h.schedule]
    · rw [retry]
      exact h.capped

theorem heard_new (settings : Settings) (config : BackoffConfig) :
    Heard settings config (WebSocket.new settings config) :=
  ⟨rfl, rfl, rfl, rfl, fun _ => Nat.zero_le _, fun _ hn => absurd hn List.not_mem_nil,
    List.Pairwise.nil⟩

end Heard

/-! ## Whose attempt it is -/

/-- The coroutine has announced a retry, and has not begun it. -/
def Point.retrying : Point → Bool
  | .reconnectingEmit _ | .backingOffState _ | .sleeping _ => true
  | _ => false

/-- The state stands for an attempt, or for the sleep before one. -/
def startsRetry : ConnectionState → Bool
  | .connecting | .backingOff => true
  | _ => false

section Sets
variable {w : WebSocket}

theorem scheduleSets_rests : startsRetry w.scheduleSets = false := by
  unfold WebSocket.scheduleSets
  split <;> rfl

theorem errorSets_rests (e : Exc) : startsRetry (w.errorSets e) = false := by
  unfold WebSocket.errorSets
  split
  · rfl
  · split
    · exact scheduleSets_rests
    · rfl

theorem disconnectedSets_rests (loss : Loss) : startsRetry (w.disconnectedSets loss) = false := by
  unfold WebSocket.disconnectedSets
  split
  · exact scheduleSets_rests
  · rfl

theorem ageSets_rests : w.ageSets.any startsRetry = false := by
  unfold WebSocket.ageSets
  split <;> rfl

theorem lossSets_rests : w.lossSets.any startsRetry = false := by
  unfold WebSocket.lossSets
  split
  · rfl
  · exact ageSets_rests

theorem loopSets_rests : w.loopSets.any startsRetry = false := by
  unfold WebSocket.loopSets
  split
  · exact lossSets_rests
  · rfl

theorem closeMessageSets_rests : w.closeMessageSets.any startsRetry = false := by
  unfold WebSocket.closeMessageSets
  split <;> rfl

theorem closeTransportSets_rests : w.closeTransportSets.any startsRetry = false := by
  unfold WebSocket.closeTransportSets
  split
  · exact closeMessageSets_rests
  · rfl

theorem closeAgeSets_rests : w.closeAgeSets.any startsRetry = false := by
  unfold WebSocket.closeAgeSets
  split
  · exact closeTransportSets_rests
  · rfl

theorem closeSets_rests : w.closeSets.any startsRetry = false := by
  unfold WebSocket.closeSets
  split
  · rfl
  · exact closeAgeSets_rests

theorem closeCallSets_rests : w.closeCallSets.any startsRetry = false := by
  unfold WebSocket.closeCallSets
  split
  · rfl
  · exact closeSets_rests

theorem awaitedSets_rests {raised : Bool} {p : Point} :
    (w.awaitedSets raised p).any startsRetry = false := by
  cases p with
  | stoppingHeartbeat =>
    show (if w.heartbeat.isNone then none else w.ageSets).any startsRetry = false
    split
    · rfl
    · exact ageSets_rests
  | closeStopping => exact closeAgeSets_rests
  | cancellingAge => cases raised <;> rfl
  | closeCancellingAge =>
    cases raised with
    | true => rfl
    | false => exact closeTransportSets_rests
  | closeAwaitingMessage => cases raised <;> rfl
  | _ => rfl

theorem reactSets_rests {a : Action} {p : Point} : (w.reactSets a p).any startsRetry = false := by
  unfold WebSocket.reactSets
  split
  · split <;> rfl
  · exact loopSets_rests
  · exact lossSets_rests
  · exact lossSets_rests
  · exact closeMessageSets_rests
  · exact closeMessageSets_rests
  · rfl

/-- What is resumed begins an attempt behind its sleep, and a sleep behind its announcement. -/
theorem resumeSets_starts {p : Point} {r : ConnectionState} (h : w.resumeSets p = some r)
    (hr : startsRetry r = true) :
    (r = .connecting ∧ ∃ delay, p = .sleeping delay) ∨
      (r = .backingOff ∧ ∃ delay, p = .reconnectingEmit delay) := by
  have hrests : ∀ s : Option ConnectionState, s.any startsRetry = false → s ≠ some r := by
    rintro s hs rfl
    rw [Option.any_some, hr] at hs
    cases hs
  have hstate : ∀ s, startsRetry s = false → some s ≠ some r :=
    fun s hs => hrests _ (by rw [Option.any_some, hs])
  cases p with
  | sleeping delay =>
    have h : (if !w.running || w.userClosed then none else some .connecting) = some r := h
    split at h
    · cases h
    · exact .inl ⟨(Option.some.inj h).symm, delay, rfl⟩
  | reconnectingEmit delay => exact .inr ⟨(Option.some.inj h).symm, delay, rfl⟩
  | errorEmit e => exact (hstate _ (errorSets_rests e) h).elim
  | disconnectedEmit loss => exact (hstate _ (disconnectedSets_rests loss) h).elim
  | reconnectedEmit => exact (hstate _ rfl h).elim
  | loopStart => exact (hrests _ loopSets_rests h).elim
  | handling l stage =>
    cases stage with
    | overflow | raw => cases h
    | message | failed | pong => exact (hrests _ loopSets_rests h).elim
  | fatalErrorEmit | timeoutEmit | ageEmit => exact (hrests _ lossSets_rests h).elim
  | closingEmit =>
    have h : (if w.state = .disconnecting then w.closeSets else some .disconnecting) = some r := h
    split at h
    · exact (hrests _ closeSets_rests h).elim
    · exact (hstate _ rfl h).elim
  | disconnectingState => exact (hrests _ closeSets_rests h).elim
  | callingTransport args l =>
    have h : (if !w.isConnected l || w.isClosing l then w.closeMessageSets else none) = some r := h
    split at h
    · exact (hrests _ closeMessageSets_rests h).elim
    · cases h
  | _ => cases h

end Sets

/-- The call of `connect` is accepted. -/
def Client.accepts (c : Client) (a : Action) : Bool :=
  a = .connect ∧ (c.shared.state = .idle ∨ c.shared.state = .disconnected)

/-- **Who begins an attempt, or a sleep**: an accepted call of `connect`, or a task that has
announced a retry. -/
theorem sets_starts {c : Client} {a : Action} {r : ConnectionState} (h : c.sets a = some r)
    (hr : startsRetry r = true) :
    (c.accepts a = true ∧ r = .connecting) ∨
      ∃ k t, Client.actor a = some k ∧ c.tasks[k]? = some t ∧
        ((r = .connecting ∧ ∃ delay, t.point = .sleeping delay) ∨
          (r = .backingOff ∧ ∃ delay, t.point = .reconnectingEmit delay)) := by
  have hrests : ∀ s : Option ConnectionState, s.any startsRetry = false → s ≠ some r := by
    rintro s hs rfl
    rw [Option.any_some, hr] at hs
    cases hs
  cases ha : Client.actor a with
  | none =>
    cases a with
    | connect =>
      have h : c.shared.connectSets = some r := h
      unfold WebSocket.connectSets at h
      split at h
      · rename_i hs
        exact .inl ⟨decide_eq_true ⟨rfl, hs⟩, (Option.some.inj h).symm⟩
      · cases h
    | close args => exact (hrests _ closeCallSets_rests h).elim
    | advance | linkLost => cases h
    | _ => cases ha
  | some k =>
    cases ht : c.tasks[k]? with
    | none =>
      have hnone : c.sets a = none := by
        unfold Client.sets
        cases a with
        | connect | close | advance | linkLost => cases ha
        | _ => simp only [ha, Option.bind_some, ht, Option.bind_none]
      rw [hnone] at h
      cases h
    | some t =>
      rw [sets_of_actor ha ht] at h
      split at h
      · exact (hrests _ awaitedSets_rests h).elim
      · split at h
        · cases h
        · split at h
          · exact .inr ⟨k, t, rfl, ht, resumeSets_starts h hr⟩
          · exact (hrests _ reactSets_rests h).elim

/-! ## Attempts, calls and retries -/

/-- A client, and how many calls of `connect` were accepted. -/
structure Watched where
  client : Client
  connects : Nat

namespace Watched

def init (settings : Settings) (backoff : BackoffConfig) : Watched :=
  { client := Client.init settings backoff, connects := 0 }

def step (s : Watched) (a : Action) : Option Watched :=
  (s.client.step a).map (fun c =>
    { client := c, connects := s.connects + if s.client.accepts a then 1 else 0 })

end Watched

/-- The tasks that have announced a retry, and have not begun it. -/
def retrying (c : Client) : Finset Nat :=
  (Finset.range c.tasks.length).filter (fun k =>
    (c.tasks[k]?).any (fun t => t.point.retrying))

section Budget
variable {c c' : Client} {a : Action} {k : Nat} {p q : Point}

theorem mem_retrying {j : Nat} :
    j ∈ retrying c ↔ ∃ t, c.tasks[j]? = some t ∧ t.point.retrying = true := by
  unfold retrying
  rw [Finset.mem_filter, Finset.mem_range, Option.any_eq_true]
  exact ⟨fun h => h.2, fun ⟨t, ht, hp⟩ => ⟨(List.getElem?_eq_some_iff.mp ht).1, t, ht, hp⟩⟩

/-- Whoever has a retry behind the step had one, or is the task that moved. -/
theorem Told.retrying_cases (h : Told c c' a k p q) {j : Nat} (hj : j ∈ retrying c') :
    (j = k ∧ q.retrying = true) ∨ (j ≠ k ∧ j ∈ retrying c) := by
  obtain ⟨u, hu, hp⟩ := mem_retrying.mp hj
  rcases h.tasks j u hu with ⟨rfl, rfl⟩ | ⟨hne, v, hv, -, hpoint⟩ | ⟨-, hstart⟩
  · exact .inl ⟨rfl, hp⟩
  · exact .inr ⟨hne, mem_retrying.mpr ⟨v, hv, hpoint ▸ hp⟩⟩
  · generalize u.point = r at hp hstart
    cases r with
    | beatSleep | ageSleep | loopStart => cases hp
    | _ => cases hstart

/-- The task that moved had a retry. -/
theorem Told.mem_retrying_of (h : Told c c' a k p q) (hp : p.retrying = true) : k ∈ retrying c := by
  rcases h.actor with ⟨-, t, ht, rfl⟩ | ⟨-, -, rfl⟩
  · exact mem_retrying.mpr ⟨t, ht, hp⟩
  · cases hp

/-- The task that begins an attempt, or a sleep, without being called. -/
theorem Told.starts (h : Told c c' a k p q) {r : ConnectionState} (hs : c.sets a = some r)
    (hr : startsRetry r = true) : (c.accepts a = true ∧ r = .connecting) ∨
      (r = .connecting ∧ ∃ delay, p = .sleeping delay) ∨
        (r = .backingOff ∧ ∃ delay, p = .reconnectingEmit delay) := by
  rcases sets_starts hs hr with hacc | ⟨j, t, ha, ht, hpoint⟩
  · exact .inl hacc
  · rcases h.actor with ⟨hk, u, hu, rfl⟩ | ⟨hk, -, -⟩
    · obtain rfl := Option.some.inj (hk.symm.trans ha)
      obtain rfl := Option.some.inj (hu.symm.trans ht)
      exact .inr hpoint
    · rw [hk] at ha
      cases ha

/-- Who comes to have a retry announces it, or has had it. -/
theorem Told.retrying_point (h : Told c c' a k p q) (hq : q.retrying = true) :
    q.topic = some .reconnecting ∨ (p.retrying = true ∧ c.sets a ≠ some .connecting) := by
  cases q with
  | reconnectingEmit delay => exact .inl rfl
  | backingOffState delay =>
    have hset : c.sets a = some .backingOff := (h.tells.entered .backingOff rfl).1
    refine .inr ⟨?_, by rw [hset]; decide⟩
    rcases h.starts hset rfl with ⟨-, hr⟩ | ⟨hr, -⟩ | ⟨-, delay', rfl⟩
    · cases hr
    · cases hr
    · rfl
  | sleeping delay =>
    refine .inr ?_
    rcases h.tells.reports .backingOff rfl with hentered | ⟨hset, -⟩
    · -- it slept behind the handlers of the change
      have hp : ∃ delay', p = .backingOffState delay' := by
        cases p with
        | backingOffState delay' => exact ⟨delay', rfl⟩
        | _ => cases hentered
      obtain ⟨delay', rfl⟩ := hp
      refine ⟨rfl, fun hset => ?_⟩
      rcases h.starts hset rfl with ⟨hacc, -⟩ | ⟨-, _, hp⟩ | ⟨hr, -⟩
      · have hactor : Client.actor a = none := by
          rw [(of_decide_eq_true hacc).1]
          rfl
        rcases h.actor with ⟨hk, -⟩ | ⟨-, -, hp⟩
        · rw [hactor] at hk
          cases hk
        · cases hp
      · cases hp
      · cases hr
    · refine ⟨?_, by rw [hset]; decide⟩
      rcases h.starts hset rfl with ⟨-, hr⟩ | ⟨hr, -⟩ | ⟨-, delay', rfl⟩
      · cases hr
      · cases hr
      · rfl
  | _ => cases hq

/-- Every attempt begun, and every one still to begin, has a call or a retry of its own. -/
def Budgeted (s : Watched) : Prop :=
  s.client.shared.attempt + (retrying s.client).card ≤ s.connects + s.client.shared.backoff.attempt

/-- **One step** keeps the budget. -/
theorem budgeted_step (s : Watched) (a : Action) (s' : Watched) (h : Budgeted s)
    (hs : s.step a = some s') : Budgeted s' := by
  obtain ⟨c', hc, rfl⟩ := Option.map_eq_some_iff.mp hs
  obtain ⟨k, p, q, hd⟩ := step_told hc
  unfold Budgeted at h ⊢
  dsimp only
  have hattempt : c'.shared.attempt =
      s.client.shared.attempt + if s.client.sets a = some .connecting then 1 else 0 := by
    rw [hd.tells.attempt, Client.entry_attempt]
  have hretries : c'.shared.backoff.attempt =
      s.client.shared.backoff.attempt + if q.topic = some .reconnecting then 1 else 0 := by
    rw [hd.tells.retries, Client.entry_backoff]
  have hinsert : (retrying c').card ≤ ((retrying s.client).erase k).card +
      if q.retrying then 1 else 0 := by
    split
    · refine (Finset.card_le_card (t := insert k ((retrying s.client).erase k)) ?_).trans
        (Finset.card_insert_le _ _)
      intro j hj
      rcases hd.retrying_cases hj with ⟨rfl, -⟩ | ⟨hne, hj⟩
      · exact Finset.mem_insert_self _ _
      · exact Finset.mem_insert_of_mem (Finset.mem_erase.mpr ⟨hne, hj⟩)
    · rename_i hq
      rw [Nat.add_zero]
      refine Finset.card_le_card (fun j hj => ?_)
      rcases hd.retrying_cases hj with ⟨-, hqr⟩ | ⟨hne, hj⟩
      · exact (hq hqr).elim
      · exact Finset.mem_erase.mpr ⟨hne, hj⟩
  have herase : ((retrying s.client).erase k).card +
      (if p.retrying then 1 else 0) ≤ (retrying s.client).card := by
    split
    · rename_i hp
      have hmem := hd.mem_retrying_of hp
      have hcard := Finset.card_erase_of_mem hmem
      have hpos : 0 < (retrying s.client).card := Finset.card_pos.mpr ⟨k, hmem⟩
      omega
    · rw [Nat.add_zero]
      exact Finset.card_le_card (Finset.erase_subset _ _)
  -- an attempt that nobody called for was a retry
  have hcalled : s.client.sets a = some .connecting →
      s.client.accepts a = true ∨ p.retrying = true := by
    intro hset
    rcases hd.starts hset rfl with ⟨hacc, -⟩ | ⟨-, delay, rfl⟩ | ⟨hr, -⟩
    · exact .inl hacc
    · exact .inr rfl
    · cases hr
  by_cases hset : s.client.sets a = some .connecting
  · rw [if_pos hset] at hattempt
    rcases hcalled hset with hacc | hp
    · rw [if_pos hacc]
      by_cases hq : q.retrying = true
      · rw [if_pos hq] at hinsert
        rw [if_pos ((hd.retrying_point hq).resolve_right (fun hp => hp.2 hset))] at hretries
        omega
      · rw [if_neg hq] at hinsert
        omega
    · rw [if_pos hp] at herase
      by_cases hq : q.retrying = true
      · rw [if_pos hq] at hinsert
        rw [if_pos ((hd.retrying_point hq).resolve_right (fun hp => hp.2 hset))] at hretries
        omega
      · rw [if_neg hq] at hinsert
        omega
  · rw [if_neg hset] at hattempt
    by_cases hq : q.retrying = true
    · rw [if_pos hq] at hinsert
      rcases hd.retrying_point hq with htopic | ⟨hp, -⟩
      · rw [if_pos htopic] at hretries
        omega
      · rw [if_pos hp] at herase
        omega
    · rw [if_neg hq] at hinsert
      omega

end Budget

/-- **What the events tell**, in every run: the state, the retries with their delays, and how many
attempts there can have been. -/
theorem events_tell (settings : Settings) (config : BackoffConfig) (as : List Action) {s : Watched}
    (h : exec Watched.step (Watched.init settings config) as = some s) :
    Heard settings config s.client.shared ∧
      s.client.shared.attempt + (retrying s.client).card ≤
        s.connects + s.client.shared.backoff.attempt ∧
      (config.maxAttempts ≠ 0 → s.client.shared.attempt ≤ s.connects + config.maxAttempts) := by
  have hheard : Heard settings config s.client.shared := by
    refine exec_invariant (I := fun s => Heard settings config s.client.shared)
      (fun s a s' hi hs => ?_) (heard_new settings config) h
    obtain ⟨c', hc, rfl⟩ := Option.map_eq_some_iff.mp hs
    exact hi.step (step_speaks hc)
  have hbudget : Budgeted s := by
    refine exec_invariant budgeted_step ?_ h
    exact Nat.le_refl 0
  refine ⟨hheard, hbudget, fun hmax => ?_⟩
  have hcapped := hheard.capped hmax
  unfold Budgeted at hbudget
  omega

/-- The first attempt fails, and the second one succeeds. -/
theorem events_tell_late :
    ∃ s, exec Watched.step (Watched.init plainSettings plainBackoff) lateSuccessRun = some s ∧
      follow .idle s.client.shared.emitted = some s.client.shared.state ∧
      s.client.shared.attempt + (retrying s.client).card ≤
        1 + s.client.shared.backoff.attempt := by
  obtain ⟨hheard, hbudget, -⟩ := events_tell plainSettings plainBackoff lateSuccessRun rfl
  exact ⟨_, rfl, hheard.state, hbudget⟩

end JetSocket.Manager
