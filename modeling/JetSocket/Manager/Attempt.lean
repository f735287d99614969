import JetSocket.Manager.StateMachine
import JetSocket.Transport.Receive

/- One connection attempt: from the end of `transport.connect` to the end of the attempt,
   which is the end of the task or the sleep before the next attempt.

   `Settles` is the run of the task to that point, between steps of others that leave the
   attempt alone, and `Stage` where it can be on the way, for each end of
   `transport.connect`. `WellSettled` is what an attempt owes.

   Results:
     `attempt_settles_iff` — an attempt ends as it owes exactly when `transport.connect`
                             returned, or raised one of the three exceptions that
                             `_connect_internal` catches and, where a retry is due, the
                             delay can be computed.
     `bad_scheme_strands`  — a URI that is refused leaves the manager in CONNECTING. -/
namespace JetSocket.Manager
open JetSocket.Core JetSocket.Transport TaskPool Transition

namespace Point

/-- The task has ended, or its heartbeat goes on. -/
def ended : Point → Bool
  | .done _ | .beatSleep => true
  | _ => false

/-- The attempt is over: it ended, or another one is scheduled. -/
def attemptOver : Point → Bool
  | .sleeping _ => true
  | p => p.ended

end Point

/-- The exception ends the attempts: it is fatal, or there is no retry left. -/
def GivesUp (w : WebSocket) (e : Exc) : Prop :=
  isFatalError e = true ∨ w.settings.reconnect = false ∨ w.backoff.exhausted = true

/-- The next delay is a float. -/
def DelayFits (w : WebSocket) : Prop :=
  (w.settings.pow w.backoff.config.multiplier w.backoff.attempt).isSome = true

/-- The exception `transport.connect` raised. -/
def Raises (r : ConnectEnd) (e : Exc) : Prop := r = .raised e ∨ r = .aborted e

/-- What the attempt owes when it is over: `w₀` is the object before `transport.connect`
ended with `r`, `w` the object afterwards, and `p` where the task stands. -/
structure WellSettled (w₀ w : WebSocket) (p : Point) (r : ConnectEnd) : Prop where
  notConnecting : w.state ≠ .connecting
  success : r = .connected → w.state = .connected
  failed : ∀ e, Raises r e → GivesUp w₀ e → w.state = .failed
  scheduled : ∀ e, Raises r e → ¬ GivesUp w₀ e → w₀.userClosed = false →
    w.state = .backingOff ∧ ∃ delay, p = .sleeping delay

/-- The end of `transport.connect` that `_connect_internal` deals with. -/
def Handled (w₀ : WebSocket) (r : ConnectEnd) : Prop :=
  r = .connected ∨ ∃ e, r = .raised e ∧ isCaught e = true ∧
    (GivesUp w₀ e ∨ w₀.userClosed = true ∨ DelayFits w₀)

/-- Another task's step leaves the attempt of task `k` alone. -/
def Undisturbed (c c' : Client) (k : Nat) : Prop :=
  c'.tasks[k]? = c.tasks[k]? ∧ c'.shared.state = c.shared.state ∧
    c'.shared.settings = c.shared.settings ∧ c'.shared.backoff = c.shared.backoff ∧
    c'.shared.userClosed = c.shared.userClosed

/-- Task `k` runs until its attempt is over, between steps that leave it alone. It is not
cancelled. -/
inductive Settles (k : Nat) : Client → Client → Prop
  | ended {c : Client} {t : AsyncTask} (ht : c.tasks[k]? = some t)
      (hp : t.point.attemptOver = true) : Settles k c c
  | own {c c' c'' : Client} {t : AsyncTask} (ht : c.tasks[k]? = some t)
      (hp : t.point.attemptOver = false) (hc : t.cancelled = false)
      (hs : c.step (.resume k) = some c')
      (h : Settles k c' c'') : Settles k c c''
  | other {c c' c'' : Client} {a : Action} (hs : c.step a = some c') (hu : Undisturbed c c' k)
      (h : Settles k c' c'') : Settles k c c''

/-! ## The stages -/

/-- Nothing the rest of the attempt reads has changed. -/
def Same (w₀ w : WebSocket) : Prop :=
  w.settings = w₀.settings ∧ w.backoff = w₀.backoff

/-- Where an attempt can be after `transport.connect` ended. -/
inductive Stage (w₀ : WebSocket) : ConnectEnd → WebSocket → Point → Prop
  | reconnected {w : WebSocket} (hs : w.state = .connecting) : Stage w₀ .connected w .reconnectedEmit
  | connectedState {w : WebSocket} {b : Bool} (hs : w.state = .connected) :
      Stage w₀ .connected w (.connectedState b)
  | connectedEmit {w : WebSocket} {b : Bool} (hs : w.state = .connected) :
      Stage w₀ .connected w (.connectedEmit b)
  | replaying {w : WebSocket} (hs : w.state = .connected) : Stage w₀ .connected w .replaying
  | connected {w : WebSocket} {p : Point} (hs : w.state = .connected) (hp : p.ended = true) :
      Stage w₀ .connected w p
  | uncaught {w : WebSocket} {r : ConnectEnd} {e : Exc} {p : Point} (hr : Raises r e)
      (he : isCaught e = false) (hs : w.state = .connecting) (hp : p.ended = true) : Stage w₀ r w p
  | error {w : WebSocket} {e : Exc} (he : isCaught e = true) (hs : w.state = .connecting)
      (hsame : Same w₀ w) : Stage w₀ (.raised e) w (.errorEmit e)
  | failedState {w : WebSocket} {e : Exc} (he : isCaught e = true) (hg : GivesUp w₀ e)
      (hs : w.state = .failed) : Stage w₀ (.raised e) w (.failedState e)
  | exhaustedState {w : WebSocket} {e : Exc} (he : isCaught e = true) (hg : GivesUp w₀ e)
      (hs : w.state = .failed) : Stage w₀ (.raised e) w .exhaustedState
  | exhaustedEmit {w : WebSocket} {e : Exc} (he : isCaught e = true) (hg : GivesUp w₀ e)
      (hs : w.state = .failed) : Stage w₀ (.raised e) w .exhaustedEmit
  | failed {w : WebSocket} {e : Exc} {p : Point} (he : isCaught e = true) (hg : GivesUp w₀ e)
      (hs : w.state = .failed) (hp : p.ended = true) : Stage w₀ (.raised e) w p
  | reconnecting {w : WebSocket} {e : Exc} (he : isCaught e = true) (hg : ¬ GivesUp w₀ e)
      (hs : w.state = .reconnecting) (hsame : Same w₀ w) :
      Stage w₀ (.raised e) w .reconnectingState
  | overflow {w : WebSocket} {e : Exc} {p : Point} (he : isCaught e = true) (hg : ¬ GivesUp w₀ e)
      (hd : ¬ DelayFits w₀) (hs : w.state = .reconnecting) (hp : p.ended = true) :
      Stage w₀ (.raised e) w p
  | delayed {w : WebSocket} {e : Exc} {d : ℚ} (he : isCaught e = true) (hg : ¬ GivesUp w₀ e)
      (hd : DelayFits w₀) (hs : w.state = .reconnecting) :
      Stage w₀ (.raised e) w (.reconnectingEmit d)
  | backingOff {w : WebSocket} {e : Exc} {d : ℚ} (he : isCaught e = true) (hg : ¬ GivesUp w₀ e)
      (hd : DelayFits w₀) (hs : w.state = .backingOff) :
      Stage w₀ (.raised e) w (.backingOffState d)
  | sleeping {w : WebSocket} {e : Exc} {d : ℚ} (he : isCaught e = true) (hg : ¬ GivesUp w₀ e)
      (hd : DelayFits w₀) (hs : w.state = .backingOff) : Stage w₀ (.raised e) w (.sleeping d)

theorem Point.not_ended {p : Point} (hover : p.attemptOver = false) : p.ended = false := by
  cases p <;> first | rfl | cases hover

section Stages
variable {w₀ w : WebSocket} {r : ConnectEnd} {k : Nat} {kind : Kind}

/-- An exception that leaves the attempt ends it, in a heartbeat too. -/
theorem ended_settle_raise : (AsyncTask.settle k kind w.raise).point.ended = true := by
  unfold AsyncTask.settle
  split
  · dsimp only
    split <;> rfl
  · rfl

/-- Nothing else is changed by `settle`. -/
theorem settle_eq {m : Move} (h : m.point ≠ .done true) : AsyncTask.settle k kind m = m := by
  unfold AsyncTask.settle
  rw [if_neg (fun hm => h hm.2)]

theorem stage_settle {m : Move} (h : Stage w₀ r m.ws m.point) (hm : m.point ≠ .done true) :
    Stage w₀ r m.ws (AsyncTask.settle k kind m).point := by
  rw [settle_eq hm]
  exact h

/-- `next_delay` in a stage that retries. -/
theorem stage_announceReconnecting {e : Exc} (he : isCaught e = true) (hg : ¬ GivesUp w₀ e)
    (hs : w.state = .reconnecting) (hsame : Same w₀ w) :
    Stage w₀ (.raised e) w.announceReconnecting.ws
      (AsyncTask.settle k kind w.announceReconnecting).point := by
  have hx : w.backoff.exhausted = false := by
    rw [hsame.2]
    cases hb : w₀.backoff.exhausted with
    | false => rfl
    | true => exact (hg (.inr (.inr hb))).elim
  have hok : (∃ b' delay, w.backoff.nextDelay w.settings.pow w.settings.uniform = .ok (b', delay) ∧
      b'.attempt = w.backoff.attempt + 1) ↔
      (w.settings.pow w.backoff.config.multiplier w.backoff.attempt).isSome = true :=
    BackoffStrategy.nextDelay_ok hx
  unfold WebSocket.announceReconnecting
  cases hn : w.backoff.nextDelay w.settings.pow w.settings.uniform with
  | error e' =>
    refine .overflow he hg (fun hd => ?_) hs ended_settle_raise
    unfold DelayFits at hd
    rw [← hsame.1, ← hsame.2] at hd
    obtain ⟨b, d, hbd, -⟩ := hok.mpr hd
    rw [hn] at hbd
    cases hbd
  | ok bd =>
    refine stage_settle (.delayed he hg ?_ hs) (fun h => by cases h)
    unfold DelayFits
    rw [← hsame.1, ← hsame.2]
    have hattempt : bd.1.attempt = w.backoff.attempt + 1 := by
      unfold BackoffStrategy.nextDelay at hn
      rw [hx] at hn
      cases hu : w.backoff.uncapped w.settings.pow with
      | error e' => simp [hu, Except.map] at hn
      | ok d =>
        simp only [hu, Except.map, Bool.false_eq_true, if_false, Except.ok.injEq] at hn
        rw [← hn]
    exact hok.mp ⟨bd.1, bd.2, hn, hattempt⟩

/-- The rest of the `except` clause. -/
theorem stage_afterError {e : Exc} (he : isCaught e = true) (hs : w.state = .connecting)
    (hsame : Same w₀ w) :
    Stage w₀ (.raised e) (w.afterError e).ws (AsyncTask.settle k kind (w.afterError e)).point := by
  have hfailed : ∀ next, GivesUp w₀ e → Stage w₀ (.raised e)
      (w.setState .failed (.failedState e) next).ws
      (AsyncTask.settle k kind (w.setState .failed (.failedState e) next)).point := by
    intro next hg
    refine WebSocket.setState_cases (Q := fun m => Stage w₀ (.raised e) m.ws
      (AsyncTask.settle k kind m).point) (fun h => ?_) (fun _ => ?_)
    · rw [hs] at h
      cases h
    · exact stage_settle (.failedState he hg rfl) (fun h => by cases h)
  unfold WebSocket.afterError
  split
  · rename_i hf
    exact hfailed _ (.inl hf)
  · rename_i hf
    split
    · rename_i hr
      unfold WebSocket.scheduleReconnect
      split
      · rename_i hx
        refine WebSocket.setState_cases (Q := fun m => Stage w₀ (.raised e) m.ws
          (AsyncTask.settle k kind m).point) (fun h => ?_) (fun _ => ?_)
        · rw [hs] at h
          cases h
        · exact stage_settle (.exhaustedState he (.inr (.inr (hsame.2 ▸ hx))) rfl)
            (fun h => by cases h)
      · rename_i hx
        refine WebSocket.setState_cases (Q := fun m => Stage w₀ (.raised e) m.ws
          (AsyncTask.settle k kind m).point) (fun h => ?_) (fun _ => ?_)
        · rw [hs] at h
          cases h
        · refine stage_settle (.reconnecting he ?_ rfl hsame) (fun h => by cases h)
          rintro (hg | hg | hg)
          · exact hf hg
          · rw [← hsame.1, hr] at hg
            cases hg
          · exact hx (by rw [hsame.2]; exact hg)
    · rename_i hr
      exact hfailed _ (.inr (.inl (by rw [← hsame.1]; simpa using hr)))

theorem stage_established (hs : w.state = .connecting) (b : Bool) :
    Stage w₀ .connected (w.established b).ws (AsyncTask.settle k kind (w.established b)).point := by
  refine WebSocket.setState_cases (Q := fun m => Stage w₀ .connected m.ws
    (AsyncTask.settle k kind m).point) (fun h => ?_) (fun _ => ?_)
  · rw [show w.state = .connected from h] at hs
    cases hs
  · exact stage_settle (.connectedState rfl) (fun h => by cases h)

/-- A resumed task goes on to the next stage. -/
theorem stage_resume {p : Point} (h : Stage w₀ r w p) (hover : p.attemptOver = false) {m : Move}
    (hm : w.resume k p = some m) : Stage w₀ r m.ws (AsyncTask.settle k kind m).point := by
  cases h with
  | reconnected hs =>
    obtain rfl := Option.some.inj hm
    exact stage_established hs true
  | connectedState hs =>
    obtain rfl := Option.some.inj hm
    exact stage_settle (.connectedEmit hs) (fun h => by cases h)
  | connectedEmit hs =>
    simp only [WebSocket.resume, WebSocket.afterConnected] at hm
    split at hm
    · obtain rfl := Option.some.inj hm
      exact stage_settle (.replaying hs) (fun h => by cases h)
    · cases hm
  | replaying hs => cases hm
  | error he hs hsame =>
    obtain rfl := Option.some.inj hm
    exact stage_afterError he hs hsame
  | failedState he hg hs =>
    obtain rfl := Option.some.inj hm
    exact .failed he hg hs ended_settle_raise
  | exhaustedState he hg hs =>
    obtain rfl := Option.some.inj hm
    exact stage_settle (.exhaustedEmit he hg hs) (fun h => by cases h)
  | exhaustedEmit he hg hs =>
    obtain rfl := Option.some.inj hm
    exact stage_settle (.failed he hg hs rfl) (fun h => by cases h)
  | reconnecting he hg hs hsame =>
    obtain rfl := Option.some.inj hm
    exact stage_announceReconnecting he hg hs hsame
  | delayed he hg hd hs =>
    obtain rfl := Option.some.inj hm
    refine WebSocket.setState_cases (Q := fun m => Stage w₀ _ m.ws
      (AsyncTask.settle k kind m).point) (fun h => ?_) (fun _ => ?_)
    · rw [hs] at h
      cases h
    · exact stage_settle (.backingOff he hg hd rfl) (fun h => by cases h)
  | backingOff he hg hd hs =>
    obtain rfl := Option.some.inj hm
    exact stage_settle (.sleeping he hg hd hs) (fun h => by cases h)
  | sleeping => cases hover
  | connected _ hp | uncaught _ _ _ hp | failed _ _ _ hp | overflow _ _ _ _ hp =>
    rw [Point.not_ended hover] at hp
    cases hp

/-- The stage behind the end of `transport.connect`. -/
theorem stage_reacts {a : ConnectEnd} {p : Point} (hs : w.state = .connecting) {m : Move}
    (hm : Client.Reacts w k (.attempt k a) p m) :
    Stage w a m.ws (AsyncTask.settle k kind m).point := by
  -- What `connectFailed` does, from an object that differs from `w` in its links.
  have hfailed : ∀ (w' : WebSocket) (e : Exc), Raises a e → (isCaught e = true → a = .raised e) →
      w'.state = .connecting → Same w w' →
      Stage w a (w'.connectFailed e).ws (AsyncTask.settle k kind (w'.connectFailed e)).point := by
    intro w' e hr ha hs' hsame
    unfold WebSocket.connectFailed
    split
    · rename_i he
      obtain rfl := ha he
      exact stage_settle (.error he hs' hsame) (fun h => by cases h)
    · rename_i he
      exact .uncaught hr (by simpa using he) hs' ended_settle_raise
  cases hm with
  | connected _ l =>
    unfold WebSocket.connectReturned
    split
    · exact stage_settle (.reconnected hs) (fun h => by cases h)
    · exact stage_established (w := w.setLink _ _) hs false
  | aborted _ l e he =>
    exact hfailed w e (.inr rfl) (fun hc => by rw [he] at hc; cases hc) hs ⟨rfl, rfl⟩
  | refused _ l e => exact hfailed _ e (.inl rfl) (fun _ => rfl) hs ⟨rfl, rfl⟩
  | unreached _ l e => exact hfailed w e (.inl rfl) (fun _ => rfl) hs ⟨rfl, rfl⟩

end Stages

/-! ## The run to the end of the attempt -/

section Runs
variable {c c' : Client} {k : Nat} {w₀ : WebSocket} {r : ConnectEnd}

/-- Task `k` is at a stage of the attempt. -/
def AtStage (w₀ : WebSocket) (r : ConnectEnd) (k : Nat) (c : Client) : Prop :=
  ∃ t, c.tasks[k]? = some t ∧ Stage w₀ r c.shared t.point

theorem atStage_own {t : AsyncTask} (ht : c.tasks[k]? = some t) (hc : t.cancelled = false)
    (hp : t.point.attemptOver = false) (h : Stage w₀ r c.shared t.point)
    (hs : c.step (.resume k) = some c') : AtStage w₀ r k c' := by
  have hk : k < c.tasks.length := (List.getElem?_eq_some_iff.mp ht).1
  obtain ⟨u, hu, hstep⟩ := Client.step_of_actor rfl hs
  obtain rfl := Option.some.inj (ht.symm.trans hu)
  rcases hstep with ⟨-, -, hst, rfl⟩ | ⟨m, hm, rfl⟩
  · refine ⟨_, Pool.getElem?_move_self hk, ?_⟩
    -- Only a connected attempt goes on to start tasks, and they leave the state.
    have hstate : c.shared.state = .connected ∧ r = .connected := by
      generalize t.point = p at h hst hp
      cases h with
      | connectedEmit hs | replaying hs => exact ⟨hs, rfl⟩
      | connected hs _ => exact ⟨hs, rfl⟩
      | uncaught _ _ _ hended | failed _ _ _ hended | overflow _ _ _ _ hended =>
        rw [Point.not_ended hp] at hended
        cases hended
      | _ => cases hst
    obtain ⟨hstate, rfl⟩ := hstate
    refine .connected ?_ rfl
    show (c.shared.startTasks c.tasks.length).1.state = .connected
    unfold WebSocket.startTasks
    dsimp only
    split <;> split <;> exact hstate
  · refine Client.exists_run_self (Q := Stage w₀ r) hk (stage_resume h hp ?_)
    show c.shared.resume k t.point = some m
    cases hm with
    | cancelled hcan _ =>
      rw [hc] at hcan
      cases hcan
    | resumed _ _ hm => exact hm
    | awaited hw _ _ =>
      generalize t.point = p at h hw hp
      cases h with
      | connected _ hended | uncaught _ _ _ hended | failed _ _ _ hended
      | overflow _ _ _ _ hended =>
        rw [Point.not_ended hp] at hended
        cases hended
      | _ => cases hw
    | reacts _ _ hm => cases hm

theorem Stage.of_eq {w w' : WebSocket} {p : Point} (hs : w'.state = w.state)
    (hse : w'.settings = w.settings) (hb : w'.backoff = w.backoff) (h : Stage w₀ r w p) :
    Stage w₀ r w' p := by
  cases h with
  | reconnected h => exact .reconnected (hs.trans h)
  | connectedState h => exact .connectedState (hs.trans h)
  | connectedEmit h => exact .connectedEmit (hs.trans h)
  | replaying h => exact .replaying (hs.trans h)
  | connected h hp => exact .connected (hs.trans h) hp
  | uncaught hr he h hp => exact .uncaught hr he (hs.trans h) hp
  | error he h hsame => exact .error he (hs.trans h) ⟨hse.trans hsame.1, hb.trans hsame.2⟩
  | failedState he hg h => exact .failedState he hg (hs.trans h)
  | exhaustedState he hg h => exact .exhaustedState he hg (hs.trans h)
  | exhaustedEmit he hg h => exact .exhaustedEmit he hg (hs.trans h)
  | failed he hg h hp => exact .failed he hg (hs.trans h) hp
  | reconnecting he hg h hsame =>
    exact .reconnecting he hg (hs.trans h) ⟨hse.trans hsame.1, hb.trans hsame.2⟩
  | overflow he hg hd h hp => exact .overflow he hg hd (hs.trans h) hp
  | delayed he hg hd h => exact .delayed he hg hd (hs.trans h)
  | backingOff he hg hd h => exact .backingOff he hg hd (hs.trans h)
  | sleeping he hg hd h => exact .sleeping he hg hd (hs.trans h)

/-- The run keeps the attempt at its stages, up to the last. -/
theorem atStage_settles (h : AtStage w₀ r k c) (hend : Settles k c c') :
    ∃ t, c'.tasks[k]? = some t ∧ t.point.attemptOver = true ∧ Stage w₀ r c'.shared t.point := by
  induction hend with
  | ended ht hp =>
    obtain ⟨u, hu, hstage⟩ := h
    obtain rfl := Option.some.inj (ht.symm.trans hu)
    exact ⟨_, ht, hp, hstage⟩
  | own ht hp hc hs _ ih =>
    obtain ⟨u, hu, hstage⟩ := h
    obtain rfl := Option.some.inj (ht.symm.trans hu)
    exact ih (atStage_own ht hc hp hstage hs)
  | other _ hu _ ih =>
    obtain ⟨u, huk, hstage⟩ := h
    obtain ⟨htasks, hst, hse, hb, -⟩ := hu
    exact ih ⟨u, htasks.trans huk, hstage.of_eq hst hse hb⟩

/-- At the last stage, the attempt ends as it owes exactly when its end is handled. -/
theorem wellSettled_iff {w : WebSocket} {p : Point} (h : Stage w₀ r w p)
    (hover : p.attemptOver = true) : WellSettled w₀ w p r ↔ Handled w₀ r := by
  have hnever : ∀ {e e' : Exc}, Raises (.raised e) e' → e' = e := by
    intro e e' hr
    rcases hr with hr | hr
    · exact (ConnectEnd.raised.inj hr).symm
    · cases hr
  cases h with
  | connected hs =>
    refine ⟨fun _ => .inl rfl, fun _ => ⟨by rw [hs]; simp, fun _ => hs, ?_, ?_⟩⟩
    · rintro e (hr | hr) <;> cases hr
    · rintro e (hr | hr) <;> cases hr
  | uncaught hr he hs =>
    refine ⟨fun hw => (hw.notConnecting hs).elim, fun hh => ?_⟩
    rcases hh with rfl | ⟨e', rfl, hc, -⟩
    · rcases hr with hr | hr <;> cases hr
    · obtain rfl := hnever hr
      rw [he] at hc
      cases hc
  | failed he hg hs =>
    refine ⟨fun _ => .inr ⟨_, rfl, he, .inl hg⟩, fun _ => ⟨by rw [hs]; simp, by simp, ?_, ?_⟩⟩
    · exact fun _ _ _ => hs
    · intro e' hr hn
      obtain rfl := hnever hr
      exact (hn hg).elim
  | overflow he hg hd hs hp =>
    constructor
    · intro hw
      refine .inr ⟨_, rfl, he, .inr (.inl ?_)⟩
      by_contra hu
      obtain ⟨hs', -⟩ := hw.scheduled _ (.inl rfl) hg (by simpa using hu)
      rw [hs] at hs'
      cases hs'
    · intro hh
      rcases hh with hh | ⟨e', he', -, hh⟩
      · cases hh
      obtain rfl := ConnectEnd.raised.inj he'
      refine ⟨by rw [hs]; simp, by simp, ?_, ?_⟩
      · intro e' hr hg'
        obtain rfl := hnever hr
        exact (hg hg').elim
      · intro e' hr _ hu
        rcases hh with hh | hh | hh
        · exact (hg hh).elim
        · rw [hu] at hh
          cases hh
        · exact (hd hh).elim
  | sleeping he hg hd hs =>
    refine ⟨fun _ => .inr ⟨_, rfl, he, .inr (.inr hd)⟩, fun _ => ⟨by rw [hs]; simp, by simp, ?_, ?_⟩⟩
    · intro e' hr hg'
      obtain rfl := hnever hr
      exact (hg hg').elim
    · exact fun _ _ _ _ => ⟨hs, _, rfl⟩
  | _ => cases hover

end Runs

/-- Task `k` is in `transport.connect`. -/
def Connecting (c : Client) (k : Nat) : Prop :=
  c.shared.state = .connecting ∧
    ∃ t l, c.tasks[k]? = some t ∧ (t.point = .opening l ∨ t.point = .handshaking l)

/-- The end of a call of `transport.connect` on a new transport. -/
def connectEnd (Z : Zlib) (config : TransportConfig) (urlparse : UrlParse)
    (acceptKey : String → String) (handshake : HandshakeConfig) (key uri : String) (net : Network) :
    ConnectEnd :=
  ((AsyncTransport.new Z config).connect urlparse acceptKey handshake key uri net).2

/-- **How an attempt ends.** Whatever the URI, the network and the server make of
`transport.connect`, the attempt ends as it owes exactly when that end is handled. -/
theorem attempt_settles_iff (Z : Zlib) (config : TransportConfig) (urlparse : UrlParse)
    (acceptKey : String → String) (handshake : HandshakeConfig) (key uri : String) (net : Network)
    {c c₁ c' : Client} {k : Nat} {t' : AsyncTask} (hin : Connecting c k)
    (hs : c.step (.attempt k (connectEnd Z config urlparse acceptKey handshake key uri net)) =
      some c₁) (hend : Settles k c₁ c') (ht' : c'.tasks[k]? = some t') :
    WellSettled c.shared c'.shared t'.point
        (connectEnd Z config urlparse acceptKey handshake key uri net) ↔
      Handled c.shared (connectEnd Z config urlparse acceptKey handshake key uri net) := by
  generalize connectEnd Z config urlparse acceptKey handshake key uri net = r at hs ⊢
  have hfirst : AtStage c.shared r k c₁ := by
    obtain ⟨u, m, hu, -, hm, rfl⟩ := Client.reacts_of_step rfl (fun h => by cases h) hs
    have hk : k < c.tasks.length := (List.getElem?_eq_some_iff.mp hu).1
    exact Client.exists_run_self (Q := Stage c.shared r) hk (stage_reacts hin.1 hm)
  obtain ⟨t, ht, hover, hstage⟩ := atStage_settles hfirst hend
  obtain rfl := Option.some.inj (ht.symm.trans ht')
  exact wellSettled_iff hstage hover

/-! ## Two attempts -/

/-- `urlparse` on a URI of the given scheme, with the host `example.com` and the path
`/ws`. -/
def exampleUrl (scheme : String) : UrlParse := fun _ =>
  .ok { scheme, hostname := some "example.com", port := .ok none, path := "/ws", query := "",
        fragment := "", username := none, password := none }

/-- A host that does not resolve. -/
def unknownHost : Network :=
  { lookup := .gaierror "[Errno -2] Name or service not known", dial := fun _ => .timedOut,
    response := .timedOut, keys := fun _ => ⟨0, 0, 0, 0⟩ }

def plainHandshake : HandshakeConfig :=
  { compression := true, origin := none, subprotocols := [], extraHeaders := [] }

/-- A transport that does not connect, for a URI of the given scheme. -/
def unresolved (scheme : String) : ConnectEnd :=
  connectEnd plainZlib ⟨.little, 1024, 4096, false⟩ (exampleUrl scheme) id plainHandshake "key"
    (scheme ++ "://example.com/ws") unknownHost

/-- The first task is in `transport.connect`. -/
def inConnect : Client :=
  (exec Client.step (Client.init plainSettings plainBackoff)
    [.connect, .resume 0, .resume 0]).getD (Client.init plainSettings plainBackoff)

/-- The exceptions of the two transports. -/
theorem unresolved_ws : unresolved "ws" = .raised (.connectionError
    "DNS resolution failed for example.com: [Errno -2] Name or service not known") := by
  decide +kernel

theorem unresolved_http : unresolved "http" = .raised (.valueError
    "Invalid WebSocket scheme: 'http'. Must be 'ws' or 'wss'") := by
  decide +kernel

theorem connecting_inConnect : Connecting inConnect 0 :=
  ⟨rfl, _, 0, rfl, .inl rfl⟩

/-- The host does not resolve: the attempt ends, and the next one is scheduled. -/
theorem attempt_settles_retry : ∃ c₁ c' t', inConnect.step (.attempt 0 (unresolved "ws")) = some c₁ ∧
    Settles 0 c₁ c' ∧ c'.tasks[0]? = some t' ∧
      WellSettled inConnect.shared c'.shared t'.point (unresolved "ws") := by
  have hfirst : ∃ c₁, inConnect.step (.attempt 0 (unresolved "ws")) = some c₁ ∧
      ∃ c' t', Settles 0 c₁ c' ∧ c'.tasks[0]? = some t' := by
    rw [unresolved_ws]
    exact ⟨_, rfl, _, _, .own rfl rfl rfl rfl (.own rfl rfl rfl rfl (.own rfl rfl rfl rfl
      (.own rfl rfl rfl rfl (.ended rfl rfl)))), rfl⟩
  obtain ⟨c₁, hs, c', t', hend, ht'⟩ := hfirst
  refine ⟨c₁, c', t', hs, hend, ht', ?_⟩
  refine (attempt_settles_iff plainZlib ⟨.little, 1024, 4096, false⟩ (exampleUrl "ws") id
    plainHandshake "key" ("ws" ++ "://example.com/ws") unknownHost connecting_inConnect hs hend
    ht').mpr (.inr ⟨_, unresolved_ws, rfl, .inr (.inr rfl)⟩)

/-- A URI with another scheme leaves the manager in CONNECTING. -/
theorem bad_scheme_strands : ¬ ∀ (c c₁ c' : Client) (k : Nat) (t' : AsyncTask), Connecting c k →
    c.step (.attempt k (unresolved "http")) = some c₁ → Settles k c₁ c' → c'.tasks[k]? = some t' →
      WellSettled c.shared c'.shared t'.point (unresolved "http") := by
  rw [unresolved_http]
  intro h
  have hsettled := h inConnect _ _ 0 _ connecting_inConnect rfl (.ended rfl rfl) rfl
  exact hsettled.notConnecting rfl

end JetSocket.Manager
