import JetSocket.Manager.Attempt

/- `_schedule_reconnect`, from its call to the sleep before the next attempt.

   `Schedules w₀` says where the coroutine can be, `w₀` being the object at the call, and
   `settles_rule` carries what each step of a coroutine preserves, and the steps of others
   leave alone, to the end of its run. -/
namespace JetSocket.Manager
open JetSocket.Transport TaskPool Transition

/-- Where `_schedule_reconnect` can be, called on `w₀`. -/
inductive Schedules (w₀ : WebSocket) : WebSocket → Point → Prop
  | exhaustedState {w : WebSocket} (hx : w₀.backoff.exhausted = true) (hs : w.state = .failed) :
      Schedules w₀ w .exhaustedState
  | exhaustedEmit {w : WebSocket} (hx : w₀.backoff.exhausted = true) (hs : w.state = .failed) :
      Schedules w₀ w .exhaustedEmit
  | exhausted {w : WebSocket} (hx : w₀.backoff.exhausted = true) (hs : w.state = .failed) :
      Schedules w₀ w (.done false)
  | reconnecting {w : WebSocket} (hx : w₀.backoff.exhausted = false) (hs : w.state = .reconnecting)
      (hsame : Same w₀ w) : Schedules w₀ w .reconnectingState
  | overflow {w : WebSocket} {p : Point} (hx : w₀.backoff.exhausted = false)
      (hd : ¬ DelayFits w₀) (hs : w.state = .reconnecting) (hp : p.ended = true) : Schedules w₀ w p
  | delayed {w : WebSocket} {d : ℚ} (hx : w₀.backoff.exhausted = false)
      (hn : w₀.backoff.nextDelay w₀.settings.pow w₀.settings.uniform = .ok (w.backoff, d))
      (hs : w.state = .reconnecting) : Schedules w₀ w (.reconnectingEmit d)
  | backingOff {w : WebSocket} {d : ℚ} (hx : w₀.backoff.exhausted = false)
      (hn : w₀.backoff.nextDelay w₀.settings.pow w₀.settings.uniform = .ok (w.backoff, d))
      (hs : w.state = .backingOff) : Schedules w₀ w (.backingOffState d)
  | sleeping {w : WebSocket} {d : ℚ} (hx : w₀.backoff.exhausted = false)
      (hn : w₀.backoff.nextDelay w₀.settings.pow w₀.settings.uniform = .ok (w.backoff, d))
      (hs : w.state = .backingOff) : Schedules w₀ w (.sleeping d)

section Moves
variable {w₀ w : WebSocket} {k : Nat} {kind : Kind}

/-- A delay that was computed. -/
theorem delayFits_of_ok {b : BackoffStrategy} {d : ℚ}
    (h : w₀.backoff.nextDelay w₀.settings.pow w₀.settings.uniform = .ok (b, d)) : DelayFits w₀ := by
  unfold BackoffStrategy.nextDelay at h
  split at h
  · cases h
  · unfold DelayFits
    cases hp : w₀.settings.pow w₀.backoff.config.multiplier w₀.backoff.attempt with
    | none => simp [BackoffStrategy.uncapped, hp, Except.map] at h
    | some p => rfl

theorem Schedules.settle {m : Move} (h : Schedules w₀ m.ws m.point) (hm : m.point ≠ .done true) :
    Schedules w₀ m.ws (AsyncTask.settle k kind m).point := by
  rw [settle_eq hm]
  exact h

theorem announceReconnecting_schedules (hx : w₀.backoff.exhausted = false)
    (hs : w.state = .reconnecting) (hsame : Same w₀ w) :
    Schedules w₀ w.announceReconnecting.ws
      (AsyncTask.settle k kind w.announceReconnecting).point := by
  unfold WebSocket.announceReconnecting
  rw [hsame.1, hsame.2]
  cases hn : w₀.backoff.nextDelay w₀.settings.pow w₀.settings.uniform with
  | error e =>
    refine .overflow hx (fun hd => ?_) hs ended_settle_raise
    obtain ⟨b, d, hok, -⟩ := (BackoffStrategy.nextDelay_ok hx).mpr hd
    rw [hn] at hok
    cases hok
  | ok bd => exact Schedules.settle (.delayed hx hn hs) (fun h => by cases h)

/-- The call. -/
theorem scheduleReconnect_schedules (hsame : Same w₀ w) :
    Schedules w₀ w.scheduleReconnect.ws (AsyncTask.settle k kind w.scheduleReconnect).point := by
  unfold WebSocket.scheduleReconnect
  split
  · rename_i hx
    have hx₀ : w₀.backoff.exhausted = true := hsame.2 ▸ hx
    refine WebSocket.setState_cases (Q := fun m => Schedules w₀ m.ws
      (AsyncTask.settle k kind m).point) (fun hs => ?_) (fun _ => ?_)
    · exact Schedules.settle (.exhaustedEmit hx₀ hs) (fun h => by cases h)
    · exact Schedules.settle (.exhaustedState hx₀ rfl) (fun h => by cases h)
  · rename_i hx
    have hx₀ : w₀.backoff.exhausted = false := by
      rw [← hsame.2]
      simpa using hx
    refine WebSocket.setState_cases (Q := fun m => Schedules w₀ m.ws
      (AsyncTask.settle k kind m).point) (fun hs => ?_) (fun _ => ?_)
    · exact announceReconnecting_schedules hx₀ hs hsame
    · exact Schedules.settle (.reconnecting hx₀ rfl hsame) (fun h => by cases h)

/-- A resumed coroutine goes on in `_schedule_reconnect`. -/
theorem schedules_resume {p : Point} (h : Schedules w₀ w p) (hover : p.attemptOver = false)
    {m : Move} (hm : w.resume k p = some m) :
    Schedules w₀ m.ws (AsyncTask.settle k kind m).point := by
  cases h with
  | exhaustedState hx hs =>
    obtain rfl := Option.some.inj hm
    exact Schedules.settle (.exhaustedEmit hx hs) (fun h => by cases h)
  | exhaustedEmit hx hs =>
    obtain rfl := Option.some.inj hm
    exact Schedules.settle (.exhausted hx hs) (fun h => by cases h)
  | reconnecting hx hs hsame =>
    obtain rfl := Option.some.inj hm
    exact announceReconnecting_schedules hx hs hsame
  | delayed hx hn hs =>
    obtain rfl := Option.some.inj hm
    refine WebSocket.setState_cases (Q := fun m => Schedules w₀ m.ws
      (AsyncTask.settle k kind m).point) (fun h => ?_) (fun _ => ?_)
    · rw [hs] at h
      cases h
    · exact Schedules.settle (.backingOff hx hn rfl) (fun h => by cases h)
  | backingOff hx hn hs =>
    obtain rfl := Option.some.inj hm
    exact Schedules.settle (.sleeping hx hn hs) (fun h => by cases h)
  | exhausted | sleeping => cases hover
  | overflow _ _ _ hp =>
    rw [Point.not_ended hover] at hp
    cases hp

/-- It waits for no task and starts none. -/
theorem Schedules.free {p : Point} (h : Schedules w₀ w p) (hover : p.attemptOver = false) :
    WebSocket.awaits p = none ∧ w.starts p = false := by
  cases h with
  | exhausted | sleeping => cases hover
  | overflow _ _ _ hp =>
    rw [Point.not_ended hover] at hp
    cases hp
  | _ => exact ⟨rfl, rfl⟩

/-- What others leave alone. -/
theorem Schedules.of_eq {w' : WebSocket} {p : Point} (hs : w'.state = w.state)
    (hse : w'.settings = w.settings) (hb : w'.backoff = w.backoff) (h : Schedules w₀ w p) :
    Schedules w₀ w' p := by
  cases h with
  | exhaustedState hx h => exact .exhaustedState hx (hs.trans h)
  | exhaustedEmit hx h => exact .exhaustedEmit hx (hs.trans h)
  | exhausted hx h => exact .exhausted hx (hs.trans h)
  | reconnecting hx h hsame =>
    exact .reconnecting hx (hs.trans h) ⟨hse.trans hsame.1, hb.trans hsame.2⟩
  | overflow hx hd h hp => exact .overflow hx hd (hs.trans h) hp
  | delayed hx hn h => exact .delayed hx (hb ▸ hn) (hs.trans h)
  | backingOff hx hn h => exact .backingOff hx (hb ▸ hn) (hs.trans h)
  | sleeping hx hn h => exact .sleeping hx (hb ▸ hn) (hs.trans h)

/-- How it ends: exhausted, without a delay, or asleep before the next attempt. -/
theorem Schedules.over {p : Point} (h : Schedules w₀ w p) (hover : p.attemptOver = true) :
    (w₀.backoff.exhausted = true ∧ w.state = .failed ∧ p = .done false) ∨
    (w₀.backoff.exhausted = false ∧ ¬ DelayFits w₀ ∧ w.state = .reconnecting ∧ p.ended = true) ∨
    (w₀.backoff.exhausted = false ∧ DelayFits w₀ ∧ w.state = .backingOff ∧
      ∃ d, p = .sleeping d ∧
        w₀.backoff.nextDelay w₀.settings.pow w₀.settings.uniform = .ok (w.backoff, d)) := by
  cases h with
  | exhausted hx hs => exact .inl ⟨hx, hs, rfl⟩
  | overflow hx hd hs hp => exact .inr (.inl ⟨hx, hd, hs, hp⟩)
  | sleeping hx hn hs => exact .inr (.inr ⟨hx, delayFits_of_ok hn, hs, _, rfl, hn⟩)
  | _ => cases hover

end Moves

/-! ## Runs -/

section Runs
variable {S : WebSocket → Point → Prop} {c c' : Client} {k : Nat}

/-- **Run rule.** What a coroutine's own steps preserve, and the steps of others leave alone,
holds when its attempt is over. -/
theorem settles_rule
    (own : ∀ w p kind m, S w p → p.attemptOver = false → w.resume k p = some m →
      S m.ws (AsyncTask.settle k kind m).point)
    (free : ∀ w p, S w p → p.attemptOver = false → WebSocket.awaits p = none ∧ w.starts p = false)
    (stable : ∀ w w' p, w'.state = w.state → w'.settings = w.settings → w'.backoff = w.backoff →
      S w p → S w' p) {t : AsyncTask} (ht : c.tasks[k]? = some t) (h : S c.shared t.point)
    (hend : Settles k c c') :
    ∃ t', c'.tasks[k]? = some t' ∧ t'.point.attemptOver = true ∧ S c'.shared t'.point := by
  induction hend generalizing t with
  | ended hu hp =>
    obtain rfl := Option.some.inj (hu.symm.trans ht)
    exact ⟨_, ht, hp, h⟩
  | @own c₁ c₂ _ u hu hp hc hs _ ih =>
    obtain rfl := Option.some.inj (hu.symm.trans ht)
    have hk : k < c₁.tasks.length := (List.getElem?_eq_some_iff.mp ht).1
    obtain ⟨haw, hst⟩ := free _ _ h hp
    obtain ⟨v, hv, hstep⟩ := Client.step_of_actor rfl hs
    obtain rfl := Option.some.inj (hv.symm.trans ht)
    rcases hstep with ⟨-, -, hstart, -⟩ | ⟨m, hm, rfl⟩
    · rw [hst] at hstart
      cases hstart
    · cases hm with
      | cancelled hcan _ =>
        rw [hc] at hcan
        cases hcan
      | awaited hw _ _ =>
        rw [haw] at hw
        cases hw
      | reacts _ _ hm => cases hm
      | resumed _ _ hresume =>
        obtain ⟨t', ht', h'⟩ :=
          Client.exists_run_self (Q := S) hk (own _ _ v.kind _ h hp hresume)
        exact ih ht' h'
  | other _ hu _ ih =>
    obtain ⟨htasks, hst, hse, hb, -⟩ := hu
    exact ih (htasks.trans ht) (stable _ _ _ hst hse hb h)

end Runs
end JetSocket.Manager
