import JetSocket.Manager.SetState
import JetSocket.Manager.Scheduling

/- A lost connection, from the step that notices the loss to the end of `_handle_disconnect`
   and of the `_schedule_reconnect` it calls.

   `Loses` says where the coroutine can be on the way, and `Lapses` is its run, between steps of
   others that leave the loss alone. The code of a Close frame is stored by the transport and
   goes no further: `recv` raises the same exception for every code, and the message loop calls
   `_handle_disconnect` with 1006. `maybe_reset` has no caller: the counter of the backoff is
   the number of reconnects ever scheduled.

   Results:
     `close_code_heeded_iff` — the code of a Close frame has the effect it should exactly when it
                               is 1006 and, where a reconnect is due, one can be scheduled.
     `fatal_close_retried`   — 4401 is retried.
     `budget_reset_iff`      — behind a stable connection the reconnects start afresh exactly
                               when none was ever scheduled.
     `budget_kept`           — the second one goes on with the second delay. -/
namespace JetSocket.Manager
open JetSocket.Transport TaskPool Transition

def Event.loss : Event → Option Loss
  | .disconnected loss => some loss
  | _ => none

namespace WebSocket

/-- The `DisconnectedEvent`s emitted. -/
def losses (ws : WebSocket) : List Loss := ws.emitted.filterMap Event.loss

/-- `recv` refuses, as `Transport is not connected`. -/
def refusal (ws : WebSocket) : Option Loss :=
  if recvRefused ws then
    some { code := abnormal, reason := "Transport is not connected", wasClean := false }
  else none

/-- The arguments with which a step calls `_handle_disconnect`. -/
def lossOf (ws : WebSocket) : Action → Point → Option Loss
  | .closeFrame _ _, .receiving _ | .lossSeen _, .receiving _ =>
    some { code := abnormal, reason := "Connection closed by remote", wasClean := false }
  | .handle _ .applicationPong, .handling _ .raw => ws.refusal
  | .resume _, .fatalErrorEmit loss => some loss
  | .resume _, .timeoutEmit =>
    some { code := abnormal, reason := "Heartbeat timeout", wasClean := false }
  | .resume _, .ageEmit => some { code := normal, reason := ageMessage, wasClean := true }
  | .resume _, .loopStart => ws.refusal
  | .resume _, .handling _ .raw | .resume _, .handling _ .overflow => none
  | .resume _, .handling _ _ => ws.refusal
  | _, _ => none

end WebSocket

/-- A reconnect follows the loss. -/
def Reconnects (w : WebSocket) (loss : Loss) : Prop :=
  w.settings.reconnect = true ∧ w.userClosed = false ∧ isFatalCode loss.code = false

/-- What `_handle_disconnect` reads has not changed. -/
structure Kept (w₀ w : WebSocket) : Prop where
  same : Same w₀ w
  userClosed : w.userClosed = w₀.userClosed

/-- Where the coroutine can be behind the call of `_handle_disconnect`; `w₀` is the object
before it. -/
inductive Loses (w₀ : WebSocket) (loss : Loss) : WebSocket → Point → Prop
  | stopping {w : WebSocket} {u : Nat} (hk : Kept w₀ w) (hl : w.losses = w₀.losses)
      (hb : w.heartbeat.isSome = true) : Loses w₀ loss w (.stoppingHeartbeat loss u)
  | cancelling {w : WebSocket} {u : Nat} (hk : Kept w₀ w) (hl : w.losses = w₀.losses) :
      Loses w₀ loss w (.cancellingAge loss u)
  | disconnectedState {w : WebSocket} (hk : Kept w₀ w) (hl : w.losses = w₀.losses) :
      Loses w₀ loss w (.disconnectedState loss)
  | disconnectedEmit {w : WebSocket} (hk : Kept w₀ w) (hl : w.losses = w₀.losses ++ [loss]) :
      Loses w₀ loss w (.disconnectedEmit loss)
  | schedules {w : WebSocket} {p : Point} (hr : Reconnects w₀ loss)
      (hl : w.losses = w₀.losses ++ [loss]) (h : Schedules w₀ w p) : Loses w₀ loss w p
  | closedState {w : WebSocket} (hr : ¬ Reconnects w₀ loss) (hl : w.losses = w₀.losses ++ [loss])
      (hs : w.state = .closed) : Loses w₀ loss w (.closedState loss)
  | closedEmit {w : WebSocket} (hr : ¬ Reconnects w₀ loss) (hl : w.losses = w₀.losses ++ [loss])
      (hs : w.state = .closed) : Loses w₀ loss w .closedEmit
  | closed {w : WebSocket} (hr : ¬ Reconnects w₀ loss) (hl : w.losses = w₀.losses ++ [loss])
      (hs : w.state = .closed) : Loses w₀ loss w (.done false)

/-- Another task's step leaves the loss that task `k` deals with alone. -/
structure Apart (c c' : Client) (k : Nat) : Prop where
  undisturbed : Undisturbed c c' k
  heartbeat : c'.shared.heartbeat = c.shared.heartbeat
  losses : c'.shared.losses = c.shared.losses

/-- Task `k` runs until it has dealt with the loss, between steps that leave it alone. Nobody
else cancels it, and the tasks it waits for end without an exception. -/
inductive Lapses (k : Nat) : Client → Client → Prop
  | ended {c : Client} {t : AsyncTask} (ht : c.tasks[k]? = some t)
      (hp : t.point.attemptOver = true) : Lapses k c c
  | own {c c' c'' : Client} {t : AsyncTask} (ht : c.tasks[k]? = some t)
      (hp : t.point.attemptOver = false)
      (hc : t.cancelled = true → WebSocket.awaits t.point = some k)
      (hw : ∀ (j : Nat) (u : AsyncTask), WebSocket.awaits t.point = some j →
        c.tasks[j]? = some u → u.point ≠ .done true)
      (hs : c.step (.resume k) = some c') (h : Lapses k c' c'') : Lapses k c c''
  | other {c c' c'' : Client} {a : Action} (hs : c.step a = some c') (hu : Apart c c' k)
      (h : Lapses k c' c'') : Lapses k c c''

/-! ## Moves -/

section Moves
variable {w₀ w : WebSocket} {loss : Loss} {k : Nat} {kind : Kind} {p : Point}
  {s : Option ConnectionState} {m : Move}

theorem losses_log_disconnected :
    (w.log (.disconnected loss)).losses = w.losses ++ [loss] := by
  unfold WebSocket.losses WebSocket.log
  simp [Event.loss]

theorem losses_log {e : Event} (he : e.loss = none) : (w.log e).losses = w.losses := by
  unfold WebSocket.losses WebSocket.log
  rw [List.filterMap_append, List.filterMap_cons_none he]
  simp

/-- Only the handlers of `disconnected` know of a new loss. -/
theorem Tells.losses_eq (h : Tells w p s m) (ht : m.point.topic ≠ some .disconnected) :
    m.ws.losses = w.losses := by
  rcases h.emitted with ⟨he, -⟩ | ⟨e, he, htopic⟩
  · unfold WebSocket.losses
    rw [he]
  · have hnone : e.loss = none := by
      cases e with
      | disconnected loss => exact (ht htopic).elim
      | _ => rfl
    calc m.ws.losses = (w.log e).losses := by
          unfold WebSocket.losses WebSocket.log
          rw [he]
      _ = w.losses := losses_log hnone

/-- A move leaves the coroutine at a place of the loss. -/
def LosesBy (w₀ : WebSocket) (loss : Loss) (k : Nat) (kind : Kind) (m : Move) : Prop :=
  Loses w₀ loss m.ws (AsyncTask.settle k kind m).point

theorem losesBy_of {m : Move} (h : Loses w₀ loss m.ws m.point) (hm : m.point ≠ .done true) :
    LosesBy w₀ loss k kind m := by
  unfold LosesBy
  rw [settle_eq hm]
  exact h

/-- DISCONNECTED is set, and announced. -/
theorem toDisconnected_loses (hk : Kept w₀ w) (hl : w.losses = w₀.losses) :
    LosesBy w₀ loss k kind (w.setState .disconnected (.disconnectedState loss)
      (WebSocket.announceDisconnected loss)) := by
  refine WebSocket.setState_cases (Q := LosesBy w₀ loss k kind) (fun _ => ?_) (fun _ => ?_)
  · refine losesBy_of (.disconnectedEmit ⟨hk.same, hk.userClosed⟩ ?_) (fun h => by cases h)
    show (w.log (.disconnected loss)).losses = w₀.losses ++ [loss]
    rw [losses_log_disconnected, hl]
  · refine losesBy_of (.disconnectedState ⟨hk.same, hk.userClosed⟩ ?_) (fun h => by cases h)
    exact (losses_log rfl).trans hl

theorem cancelAge_loses (hk : Kept w₀ w) (hl : w.losses = w₀.losses) :
    LosesBy w₀ loss k kind (w.cancelAge loss) := by
  unfold WebSocket.cancelAge
  split
  · exact losesBy_of (.cancelling hk hl) (fun h => by cases h)
  · exact toDisconnected_loses hk hl

/-- The call of `_handle_disconnect`. -/
theorem handleDisconnect_loses (hk : Kept w₀ w) (hl : w.losses = w₀.losses) :
    LosesBy w₀ loss k kind (w.handleDisconnect loss) := by
  unfold WebSocket.handleDisconnect
  cases hb : w.heartbeat with
  | none => exact cancelAge_loses hk hl
  | some task =>
    dsimp only
    have hk' : Kept w₀ (w.setBeat task (fun b => { b with running := false })) :=
      ⟨hk.same, hk.userClosed⟩
    split
    · refine losesBy_of (.stopping hk' hl ?_) (fun h => by cases h)
      show w.heartbeat.isSome = true
      rw [hb]
      rfl
    · exact cancelAge_loses hk' hl

/-- The end of `_handle_disconnect`. -/
theorem afterDisconnected_loses (hk : Kept w₀ w) (hl : w.losses = w₀.losses ++ [loss]) :
    LosesBy w₀ loss k kind (w.afterDisconnected loss) := by
  have hcond : (w.settings.reconnect && !w.userClosed && !isFatalCode loss.code) = true ↔
      Reconnects w₀ loss := by
    unfold Reconnects
    rw [hk.same.1, hk.userClosed]
    simp [and_assoc]
  unfold WebSocket.afterDisconnected
  split
  · rename_i hr
    have hr : Reconnects w₀ loss := hcond.mp hr
    refine .schedules hr ?_ (scheduleReconnect_schedules hk.same)
    have htells : Tells w (.disconnectedEmit loss) _ w.scheduleReconnect := scheduleReconnect_tells
    refine (htells.losses_eq ?_).trans hl
    unfold WebSocket.scheduleReconnect
    split
    · exact WebSocket.setState_cases (Q := fun m => m.point.topic ≠ some .disconnected)
        (fun _ h => by cases h) (fun _ h => by cases h)
    · refine WebSocket.setState_cases (Q := fun m => m.point.topic ≠ some .disconnected)
        (fun _ => ?_) (fun _ h => by cases h)
      unfold WebSocket.announceReconnecting
      split <;> exact fun h => (by cases h)
  · rename_i hr
    have hr : ¬ Reconnects w₀ loss := fun h => hr (hcond.mpr h)
    refine WebSocket.setState_cases (Q := LosesBy w₀ loss k kind) (fun hs => ?_) (fun _ => ?_)
    · refine losesBy_of (.closedEmit hr ?_ hs) (fun h => by cases h)
      exact (losses_log rfl).trans hl
    · exact losesBy_of (.closedState hr ((losses_log rfl).trans hl) rfl) (fun h => by cases h)

theorem Schedules.topic (h : Schedules w₀ w p) : p.topic ≠ some .disconnected := by
  cases h with
  | overflow _ _ _ hp =>
    rintro hd
    cases p with
    | done | beatSleep => cases hd
    | _ => cases hp
  | _ => exact fun h => (by cases h)

/-- A resumed coroutine goes on with the loss. -/
theorem loses_resume (h : Loses w₀ loss w p) (hover : p.attemptOver = false)
    (hm : w.resume k p = some m) : LosesBy w₀ loss k kind m := by
  cases h with
  | stopping | cancelling => cases hm
  | disconnectedState hk hl =>
    obtain rfl := Option.some.inj hm
    refine losesBy_of (.disconnectedEmit ⟨hk.same, hk.userClosed⟩ ?_) (fun h => by cases h)
    show (w.log (.disconnected loss)).losses = w₀.losses ++ [loss]
    rw [losses_log_disconnected, hl]
  | disconnectedEmit hk hl =>
    obtain rfl := Option.some.inj hm
    exact afterDisconnected_loses hk hl
  | schedules hr hl h =>
    have hnext : Schedules w₀ m.ws (AsyncTask.settle k kind m).point :=
      schedules_resume h hover hm
    refine .schedules hr ?_ hnext
    have htells : Tells w p (w.resumeSets p) m := resume_tells hm
    refine (htells.losses_eq (fun ht => ?_)).trans hl
    -- A point in the handlers of an event is none where an exception was swallowed.
    rw [settle_eq (fun hd => by rw [hd] at ht; cases ht)] at hnext
    exact hnext.topic ht
  | closedState hr hl hs =>
    obtain rfl := Option.some.inj hm
    exact losesBy_of (.closedEmit hr ((losses_log rfl).trans hl) hs) (fun h => by cases h)
  | closedEmit hr hl hs =>
    obtain rfl := Option.some.inj hm
    exact losesBy_of (.closed hr hl hs) (fun h => by cases h)
  | closed => cases hover

/-- The task it waited for has ended. -/
theorem loses_awaited (h : Loses w₀ loss w p) (hover : p.attemptOver = false)
    (hm : w.awaited false p = some m) : LosesBy w₀ loss k kind m := by
  cases h with
  | stopping hk hl hb =>
    obtain rfl := Option.some.inj hm
    unfold WebSocket.afterStop
    split
    · exact cancelAge_loses ⟨hk.same, hk.userClosed⟩ hl
    · rename_i hnone
      have hnone : w.heartbeat = none := hnone
      rw [hnone] at hb
      cases hb
  | cancelling hk hl =>
    obtain rfl := Option.some.inj hm
    exact toDisconnected_loses (w := { w with ageTask := none }) ⟨hk.same, hk.userClosed⟩ hl
  | schedules _ _ h =>
    cases h with
    | overflow _ _ _ hp =>
      rw [Point.not_ended hover] at hp
      cases hp
    | _ => cases hm
  | _ => cases hm

theorem Loses.starts (h : Loses w₀ loss w p) (hover : p.attemptOver = false) :
    w.starts p = false := by
  cases h with
  | schedules _ _ h => exact (h.free hover).2
  | _ => rfl

/-- What others leave alone. -/
theorem Loses.of_eq {w' : WebSocket} (hs : w'.state = w.state) (hse : w'.settings = w.settings)
    (hb : w'.backoff = w.backoff) (hu : w'.userClosed = w.userClosed)
    (hh : w'.heartbeat = w.heartbeat) (hlo : w'.losses = w.losses) (h : Loses w₀ loss w p) :
    Loses w₀ loss w' p := by
  have hkept : Kept w₀ w → Kept w₀ w' := fun hk =>
    ⟨⟨hse.trans hk.same.1, hb.trans hk.same.2⟩, hu.trans hk.userClosed⟩
  cases h with
  | stopping hk hl hbeat => exact .stopping (hkept hk) (hlo.trans hl) (hh ▸ hbeat)
  | cancelling hk hl => exact .cancelling (hkept hk) (hlo.trans hl)
  | disconnectedState hk hl => exact .disconnectedState (hkept hk) (hlo.trans hl)
  | disconnectedEmit hk hl => exact .disconnectedEmit (hkept hk) (hlo.trans hl)
  | schedules hr hl h => exact .schedules hr (hlo.trans hl) (h.of_eq hs hse hb)
  | closedState hr hl h => exact .closedState hr (hlo.trans hl) (hs.trans h)
  | closedEmit hr hl h => exact .closedEmit hr (hlo.trans hl) (hs.trans h)
  | closed hr hl h => exact .closed hr (hlo.trans hl) (hs.trans h)

theorem loopTop_loses (hr : w.refusal = some loss) : LosesBy w loss k kind w.loopTop := by
  unfold WebSocket.refusal at hr
  split at hr
  · rename_i hrefused
    obtain rfl := Option.some.inj hr
    rw [loopTop_of_refused hrefused]
    exact handleDisconnect_loses ⟨⟨rfl, rfl⟩, rfl⟩ rfl
  · cases hr

theorem loopStart_loses (hr : w.refusal = some loss) : LosesBy w loss k kind w.loopStart := by
  unfold WebSocket.loopStart
  split
  · rename_i ht
    simp [WebSocket.refusal, recvRefused, ht] at hr
  · exact loopTop_loses hr

theorem disconnectTransport_loses :
    LosesBy w loss k kind (w.disconnectTransport.handleDisconnect loss) := by
  unfold WebSocket.disconnectTransport
  split
  · exact handleDisconnect_loses ⟨⟨rfl, rfl⟩, rfl⟩ rfl
  · exact handleDisconnect_loses ⟨⟨rfl, rfl⟩, rfl⟩ rfl

/-- The step that notices the loss. -/
theorem loses_of_moves {c : Client} {t : AsyncTask} {a : Action} (hm : Client.Moves c k t a m)
    (hc : t.cancelled = false) (hl : c.shared.lossOf a t.point = some loss) :
    LosesBy c.shared loss k kind m := by
  generalize hp : t.point = p at hl
  cases hm with
  | cancelled hcan _ =>
    rw [hc] at hcan
    cases hcan
  | resumed _ _ hm =>
    rw [hp] at hm
    cases p with
    | fatalErrorEmit l =>
      obtain rfl := Option.some.inj hm
      obtain rfl := Option.some.inj hl
      exact handleDisconnect_loses ⟨⟨rfl, rfl⟩, rfl⟩ rfl
    | timeoutEmit | ageEmit =>
      obtain rfl := Option.some.inj hm
      obtain rfl := Option.some.inj hl
      exact disconnectTransport_loses
    | loopStart =>
      obtain rfl := Option.some.inj hm
      exact loopStart_loses hl
    | handling l stage =>
      cases stage with
      | raw | overflow => cases hl
      | _ =>
        obtain rfl := Option.some.inj hm
        exact loopTop_loses hl
    | _ => cases hl
  | awaited hw _ _ =>
    rw [hp] at hw
    cases p with
    | stoppingHeartbeat | cancellingAge | closeStopping | closeCancellingAge
    | closeAwaitingMessage => cases hl
    | _ => cases hw
  | reacts _ _ hm =>
    rw [hp] at hm
    cases hm with
    | closeFrame _ l code =>
      obtain rfl := Option.some.inj hl
      exact handleDisconnect_loses ⟨⟨rfl, rfl⟩, rfl⟩ rfl
    | lossSeen _ l _ =>
      obtain rfl := Option.some.inj hl
      exact handleDisconnect_loses ⟨⟨rfl, rfl⟩, rfl⟩ rfl
    | handle _ l outcome =>
      cases outcome with
      | applicationPong => exact loopTop_loses hl
      | _ => cases hl
    | _ => cases hl

end Moves

/-! ## Runs -/

section Runs
variable {c c' : Client} {k : Nat} {t : AsyncTask} {a : Action} {w₀ : WebSocket} {loss : Loss}

/-- A step of the coroutine itself. -/
theorem loses_own (ht : c.tasks[k]? = some t) (h : Loses w₀ loss c.shared t.point)
    (hp : t.point.attemptOver = false) (hc : t.cancelled = true → WebSocket.awaits t.point = some k)
    (hw : ∀ (j : Nat) (u : AsyncTask), WebSocket.awaits t.point = some j →
      c.tasks[j]? = some u → u.point ≠ .done true)
    (hs : c.step (.resume k) = some c') :
    ∃ t', c'.tasks[k]? = some t' ∧ Loses w₀ loss c'.shared t'.point := by
  have hk : k < c.tasks.length := (List.getElem?_eq_some_iff.mp ht).1
  obtain ⟨v, hv, hstep⟩ := Client.step_of_actor rfl hs
  obtain rfl := Option.some.inj (hv.symm.trans ht)
  rcases hstep with ⟨-, -, hstart, -⟩ | ⟨m, hm, rfl⟩
  · rw [h.starts hp] at hstart
    cases hstart
  · refine Client.exists_run_self (Q := Loses w₀ loss) hk ?_
    cases hm with
    | cancelled hcan hnone =>
      rw [hc hcan] at hnone
      cases hnone
    | resumed _ _ hm => exact loses_resume h hp hm
    | @awaited u raised _ hwait hu hm =>
      obtain rfl : raised = false := by
        rcases hu with ⟨-, hr⟩ | ⟨s, hs, hdone⟩
        · exact hr
        · cases raised with
          | false => rfl
          | true => exact (hw u s hwait hs hdone).elim
      exact loses_awaited h hp hm
    | reacts _ _ hm => cases hm

/-- `n` steps of task `k`, which waits for no task, up to its end. -/
def lapse (k : Nat) : Nat → Client → Option Client
  | 0, c => if (c.tasks[k]?.map (fun t => t.point.attemptOver)).getD false then some c else none
  | n + 1, c =>
    (c.tasks[k]?).bind (fun t =>
      if t.point.attemptOver || t.cancelled || (WebSocket.awaits t.point).isSome then none
      else (c.step (.resume k)).bind (lapse k n))

theorem lapses_of_lapse {n : Nat} (h : lapse k n c = some c') : Lapses k c c' := by
  induction n generalizing c with
  | zero =>
    unfold lapse at h
    split at h
    · rename_i hover
      obtain rfl := Option.some.inj h
      cases ht : c.tasks[k]? with
      | none => simp [ht] at hover
      | some t => exact .ended ht (by simpa [ht] using hover)
    · cases h
  | succ n ih =>
    obtain ⟨t, ht, h⟩ := Option.bind_eq_some_iff.mp h
    split at h
    · cases h
    · rename_i hgo
      simp only [Bool.or_eq_true, not_or, Bool.not_eq_true] at hgo
      obtain ⟨⟨hp, hc⟩, hw⟩ := hgo
      have hw : WebSocket.awaits t.point = none := by simpa using hw
      obtain ⟨d, hs, h⟩ := Option.bind_eq_some_iff.mp h
      refine .own ht hp (fun hcan => ?_) (fun j u hj _ => ?_) hs (ih h)
      · rw [hc] at hcan
        cases hcan
      · rw [hw] at hj
        cases hj

/-- **Run rule.** The coroutine stays with the loss up to its end. -/
theorem loses_lapses (hend : Lapses k c c') (ht : c.tasks[k]? = some t)
    (h : Loses w₀ loss c.shared t.point) :
    ∃ t', c'.tasks[k]? = some t' ∧ t'.point.attemptOver = true ∧
      Loses w₀ loss c'.shared t'.point := by
  induction hend generalizing t with
  | ended hu hp =>
    obtain rfl := Option.some.inj (hu.symm.trans ht)
    exact ⟨_, ht, hp, h⟩
  | own hu hp hc hw hs _ ih =>
    obtain rfl := Option.some.inj (hu.symm.trans ht)
    obtain ⟨t', ht', h'⟩ := loses_own hu h hp hc hw hs
    exact ih ht' h'
  | other _ hu _ ih =>
    obtain ⟨⟨htasks, hst, hse, hb, huc⟩, hbeat, hlosses⟩ := hu
    exact ih (htasks.trans ht) (h.of_eq hst hse hb huc hbeat hlosses)

/-- From the step that notices the loss to its end. -/
theorem loses_of_step {c₁ : Client} (hact : Client.actor a = some k) (ht : c.tasks[k]? = some t)
    (hc : t.cancelled = false) (hl : c.shared.lossOf a t.point = some loss)
    (hs : c.step a = some c₁) (hend : Lapses k c₁ c') :
    ∃ t', c'.tasks[k]? = some t' ∧ t'.point.attemptOver = true ∧
      Loses c.shared loss c'.shared t'.point := by
  have hk : k < c.tasks.length := (List.getElem?_eq_some_iff.mp ht).1
  obtain ⟨v, hv, hstep⟩ := Client.step_of_actor hact hs
  obtain rfl := Option.some.inj (hv.symm.trans ht)
  rcases hstep with ⟨rfl, -, hstart, -⟩ | ⟨m, hm, rfl⟩
  · generalize v.point = p at hstart hl
    cases p with
    | connectedEmit | replaying => cases hl
    | _ => cases hstart
  · obtain ⟨t₁, ht₁, h₁⟩ :=
      Client.exists_run_self (Q := Loses c.shared loss) hk (loses_of_moves hm hc hl)
    exact loses_lapses hend ht₁ h₁

/-- How it ends. -/
theorem Loses.over {w : WebSocket} {p : Point} (h : Loses w₀ loss w p)
    (hover : p.attemptOver = true) : w.losses = w₀.losses ++ [loss] ∧
      ((¬ Reconnects w₀ loss ∧ w.state = .closed ∧ p = .done false) ∨
        (Reconnects w₀ loss ∧ Schedules w₀ w p)) := by
  cases h with
  | schedules hr hl h => exact ⟨hl, .inr ⟨hr, h⟩⟩
  | closed hr hl hs => exact ⟨hl, .inl ⟨hr, hs, rfl⟩⟩
  | _ => cases hover

end Runs

/-! ## The code of a Close frame -/

/-- What a Close frame with this code owes when the loss is dealt with: `w₀` is the object
before it, `w` the object afterwards, and `p` where the task stands. -/
structure HeedsCode (w₀ w : WebSocket) (p : Point) (code : Nat) : Prop where
  event : ∃ loss, w.losses = w₀.losses ++ [loss] ∧ loss.code = code
  scheduled : (∃ delay, p = .sleeping delay) ↔
    w₀.settings.reconnect = true ∧ isFatalCode code = false
  fatal : isFatalCode code = true → w.state = .closed

/-- **What a close code does.** For every code, it has the effect it should exactly when it is
1006 and, where reconnection is enabled, the attempts are not exhausted and the delay can be
computed. -/
theorem close_code_heeded_iff {c c₁ c' : Client} {k code : Nat} {t' : AsyncTask}
    (huser : c.shared.userClosed = false) (hs : c.step (.closeFrame k code) = some c₁)
    (hend : Lapses k c₁ c') (ht' : c'.tasks[k]? = some t') :
    HeedsCode c.shared c'.shared t'.point code ↔
      code = abnormal ∧ (c.shared.settings.reconnect = false ∨
        (c.shared.backoff.exhausted = false ∧ DelayFits c.shared)) := by
  obtain ⟨t, ht, hc, l, hp⟩ : ∃ t, c.tasks[k]? = some t ∧ t.cancelled = false ∧
      ∃ l, t.point = .receiving l := by
    obtain ⟨u, m, hu, hc, hm, -⟩ := Client.reacts_of_step rfl (fun h => by cases h) hs
    refine ⟨u, hu, hc, ?_⟩
    generalize u.point = p at hm
    cases hm
    exact ⟨_, rfl⟩
  have hloss : c.shared.lossOf (.closeFrame k code) t.point =
      some ⟨abnormal, "Connection closed by remote", false⟩ := by
    rw [hp]
    rfl
  obtain ⟨t'', ht'', hover, hstage⟩ := loses_of_step rfl ht hc hloss hs hend
  obtain rfl := Option.some.inj (ht''.symm.trans ht')
  obtain ⟨hlosses, hend⟩ := hstage.over hover
  have hevent : (∃ loss, c'.shared.losses = c.shared.losses ++ [loss] ∧ loss.code = code) ↔
      code = abnormal := by
    constructor
    · rintro ⟨loss, hnew, rfl⟩
      rw [hlosses] at hnew
      obtain rfl := List.singleton_inj.mp (List.append_cancel_left hnew)
      rfl
    · rintro rfl
      exact ⟨_, hlosses, rfl⟩
  have hreconnects : ∀ {loss : Loss}, loss.code = abnormal →
      (Reconnects c.shared loss ↔ c.shared.settings.reconnect = true) := by
    intro loss hcode
    unfold Reconnects
    rw [hcode]
    exact ⟨And.left, fun h => ⟨h, huser, rfl⟩⟩
  -- A 1006 is not fatal: what is left is whether the reconnect can be scheduled.
  constructor
  · intro h
    have hcode : code = abnormal := hevent.mp h.event
    refine ⟨hcode, ?_⟩
    cases hrec : c.shared.settings.reconnect with
    | false => exact .inl rfl
    | true =>
      obtain ⟨d, hd⟩ := h.scheduled.mpr ⟨hrec, by rw [hcode]; rfl⟩
      rcases hend with ⟨hno, -, -⟩ | ⟨-, hsched⟩
      · exact (hno ((hreconnects rfl).mpr hrec)).elim
      · rcases hsched.over hover with ⟨-, -, hdone⟩ | ⟨-, -, -, hended⟩ | ⟨hx, hfits, -⟩
        · rw [hd] at hdone
          cases hdone
        · rw [hd] at hended
          cases hended
        · exact .inr ⟨hx, hfits⟩
  · rintro ⟨rfl, hcan⟩
    refine ⟨hevent.mpr rfl, ⟨?_, ?_⟩, fun hf => (by cases hf)⟩
    · rintro ⟨d, hd⟩
      rcases hend with ⟨-, -, hdone⟩ | ⟨hr, -⟩
      · rw [hd] at hdone
        cases hdone
      · exact ⟨hr.1, rfl⟩
    · rintro ⟨hrec, -⟩
      obtain ⟨hx, hfits⟩ := hcan.resolve_left (by simp [hrec])
      rcases hend with ⟨hno, -, -⟩ | ⟨-, hsched⟩
      · exact (hno ((hreconnects rfl).mpr hrec)).elim
      · rcases hsched.over hover with ⟨hx', -, -⟩ | ⟨-, hfits', -, -⟩ | ⟨-, -, -, d, hd, -⟩
        · rw [hx] at hx'
          cases hx'
        · exact (hfits' hfits).elim
        · exact ⟨d, hd⟩

/-- The first message loop waits for a frame. -/
def inRecv : Client :=
  (exec Client.step (Client.init plainSettings plainBackoff) connectRun).getD
    (Client.init plainSettings plainBackoff)

/-- The loss is dealt with when another attempt is scheduled. -/
theorem lapses_inRecv (code : Nat) (h : ((inRecv.step (.closeFrame 1 code)).bind (fun c =>
      (lapse 1 5 c).bind (fun c => (c.tasks[1]?).map (fun _ => c.shared.state)))) =
        some .backingOff) :
    ∃ c₁ c' t', inRecv.step (.closeFrame 1 code) = some c₁ ∧ Lapses 1 c₁ c' ∧
      c'.tasks[1]? = some t' ∧ c'.shared.state = .backingOff := by
  obtain ⟨c₁, hs, h⟩ := Option.bind_eq_some_iff.mp h
  obtain ⟨c', hl, h⟩ := Option.bind_eq_some_iff.mp h
  obtain ⟨t', ht', hstate⟩ := Option.map_eq_some_iff.mp h
  exact ⟨c₁, c', t', hs, lapses_of_lapse hl, ht', hstate⟩

/-- 1006. -/
theorem close_code_heeded_abnormal : ∃ c₁ c' t', inRecv.step (.closeFrame 1 1006) = some c₁ ∧
    Lapses 1 c₁ c' ∧ c'.tasks[1]? = some t' ∧
      HeedsCode inRecv.shared c'.shared t'.point 1006 := by
  obtain ⟨c₁, c', t', hs, hend, ht', -⟩ :=
    lapses_inRecv 1006 (by decide +kernel)
  exact ⟨c₁, c', t', hs, hend, ht', (close_code_heeded_iff rfl hs hend ht').mpr
    ⟨rfl, .inr ⟨rfl, rfl⟩⟩⟩

/-- 4401: another attempt is scheduled. -/
theorem fatal_close_retried : ¬ ∀ (c₁ c' : Client) (t' : AsyncTask),
    inRecv.step (.closeFrame 1 4401) = some c₁ → Lapses 1 c₁ c' → c'.tasks[1]? = some t' →
      HeedsCode inRecv.shared c'.shared t'.point 4401 := by
  intro h
  obtain ⟨c₁, c', t', hs, hend, ht', hstate⟩ :=
    lapses_inRecv 4401 (by decide +kernel)
  have hclosed := (h c₁ c' t' hs hend ht').fatal rfl
  rw [hstate] at hclosed
  cases hclosed

/-! ## The counter of the backoff -/

/-- The reconnects that were scheduled. -/
def WebSocket.scheduled (ws : WebSocket) : Nat :=
  ws.emitted.countP (fun e => e.topic = .reconnecting)

/-- Nothing but the scheduling of a reconnect moves the counter. -/
theorem scheduled_step {c c' : Client} {a : Action}
    (h : c.shared.backoff.attempt = c.shared.scheduled) (hs : c.step a = some c') :
    c'.shared.backoff.attempt = c'.shared.scheduled := by
  obtain ⟨k, p, q, hd⟩ := step_told hs
  have hretries := hd.tells.retries
  have hemitted := hd.tells.emitted
  simp only [Client.entry_backoff, Client.entry_emitted] at hretries hemitted
  unfold WebSocket.scheduled at h ⊢
  rw [hretries, h]
  rcases hemitted with ⟨he, hq⟩ | ⟨e, he, hq⟩
  · rw [he, hq, if_neg (fun h => by cases h)]
    rfl
  · rw [he, hq, List.countP_append, List.countP_singleton]
    simp

/-- The loss of a connection that was stable: it was established at least `reset_after` ago, and
a reconnect follows. -/
structure LostStable (c : Client) (a : Action) (k : Nat) (loss : Loss) : Prop where
  noticed : ∃ t, Client.actor a = some k ∧ c.tasks[k]? = some t ∧ t.cancelled = false ∧
    c.shared.lossOf a t.point = some loss
  stable : ∃ time, c.shared.backoff.lastSuccess = some time ∧
    time + c.shared.backoff.config.resetAfter ≤ c.shared.now
  reconnects : Reconnects c.shared loss

/-- The reconnects start afresh: the first delay is drawn for attempt 0. -/
structure StartsAfresh (w₀ w : WebSocket) (p : Point) : Prop where
  delay : ∃ f, w₀.settings.pow w₀.backoff.config.multiplier 0 = some f ∧
    p = .sleeping (if w₀.backoff.config.jitter then
        w₀.settings.uniform (min (w₀.backoff.config.base * f) w₀.backoff.config.cap)
      else min (w₀.backoff.config.base * f) w₀.backoff.config.cap)
  attempt : w.backoff.attempt = 1
  state : w.state = .backingOff

/-- A delay for attempt 0 is drawn where the counter is at 0. -/
theorem startsAfresh_iff {w₀ w : WebSocket} {p : Point} (h : Schedules w₀ w p)
    (hover : p.attemptOver = true)
    (hpow : (w₀.settings.pow w₀.backoff.config.multiplier 0).isSome = true) :
    StartsAfresh w₀ w p ↔ w₀.backoff.attempt = 0 := by
  have hzero : w₀.backoff.attempt = 0 → w₀.backoff.exhausted = false ∧ DelayFits w₀ := by
    intro h0
    constructor
    · unfold BackoffStrategy.exhausted
      split
      · rfl
      · rename_i hmax
        rw [h0]
        simpa using hmax
    · unfold DelayFits
      rw [h0]
      exact hpow
  rcases h.over hover with ⟨hx, -, hp⟩ | ⟨-, hfits, -, hp⟩ | ⟨-, -, hstate, d, hp, hn⟩
  · constructor
    · intro h
      obtain ⟨f, -, hd⟩ := h.delay
      rw [hp] at hd
      cases hd
    · intro h0
      rw [(hzero h0).1] at hx
      cases hx
  · constructor
    · intro h
      obtain ⟨f, -, hd⟩ := h.delay
      rw [hd] at hp
      cases hp
    · exact fun h0 => (hfits (hzero h0).2).elim
  · obtain ⟨hb, f, hf, hd⟩ := BackoffStrategy.nextDelay_eq hn
    have hattempt : w.backoff.attempt = w₀.backoff.attempt + 1 := by rw [hb]
    constructor
    · intro h
      have h1 : w.backoff.attempt = 1 := h.attempt
      omega
    · intro h0
      rw [h0] at hf
      exact ⟨⟨f, hf, by rw [hp, hd]⟩, by rw [hattempt, h0], hstate⟩

/-- **When the budget is fresh.** In every run, the reconnects behind the loss of a stable
connection start afresh exactly when the run has scheduled none before. -/
theorem budget_reset_iff (settings : Settings) (backoff : BackoffConfig) (as : List Action)
    {c c₁ c' : Client} {a : Action} {k : Nat} {loss : Loss} {t' : AsyncTask}
    (he : exec Client.step (Client.init settings backoff) as = some c)
    (hpow : (c.shared.settings.pow c.shared.backoff.config.multiplier 0).isSome = true)
    (hl : LostStable c a k loss) (hs : c.step a = some c₁) (hend : Lapses k c₁ c')
    (ht' : c'.tasks[k]? = some t') :
    StartsAfresh c.shared c'.shared t'.point ↔ c.shared.scheduled = 0 := by
  obtain ⟨t, hact, ht, hc, hloss⟩ := hl.noticed
  have hcount : c.shared.backoff.attempt = c.shared.scheduled :=
    exec_invariant (I := fun c => c.shared.backoff.attempt = c.shared.scheduled)
      (fun _ _ _ h hs => scheduled_step h hs) rfl he
  obtain ⟨t'', ht'', hover, hstage⟩ := loses_of_step hact ht hc hloss hs hend
  obtain rfl := Option.some.inj (ht''.symm.trans ht')
  obtain ⟨-, ⟨hno, -, -⟩ | ⟨-, hsched⟩⟩ := hstage.over hover
  · exact (hno hl.reconnects).elim
  · rw [startsAfresh_iff hsched hover hpow, hcount]

/-- A minute behind `connectRun`. -/
def stableRun : List Action := connectRun ++ [.advance 60]

/-- The connection is lost, made again, and stable again. -/
def stableAgainRun : List Action :=
  stableRun ++ [.closeFrame 1 1001, .resume 1, .resume 1, .resume 1, .resume 1, .resume 1,
    .resume 1, .resume 1, .resume 1, .opened 1, .attempt 1 .connected, .resume 1, .resume 1,
    .resume 1, .resume 2, .advance 60]

/-- The first connection is lost: the first delay is drawn. -/
theorem budget_reset_first : ∃ c c₁ c' t',
    exec Client.step (Client.init plainSettings plainBackoff) stableRun = some c ∧
      c.step (.closeFrame 1 1001) = some c₁ ∧ Lapses 1 c₁ c' ∧ c'.tasks[1]? = some t' ∧
        StartsAfresh c.shared c'.shared t'.point := by
  have hrun : ∃ c c₁ c' t',
      exec Client.step (Client.init plainSettings plainBackoff) stableRun = some c ∧
        c.step (.closeFrame 1 1001) = some c₁ ∧ lapse 1 5 c₁ = some c' ∧ c'.tasks[1]? = some t' ∧
          LostStable c (.closeFrame 1 1001) 1 ⟨1006, "Connection closed by remote", false⟩ ∧
            (c.shared.settings.pow c.shared.backoff.config.multiplier 0).isSome = true ∧
              c.shared.scheduled = 0 :=
    ⟨_, _, _, _, rfl, rfl, rfl, rfl, ⟨⟨_, rfl, rfl, rfl, rfl⟩, ⟨_, rfl, by decide +kernel⟩,
      ⟨rfl, rfl, rfl⟩⟩, rfl, rfl⟩
  obtain ⟨c, c₁, c', t', he, hs, hl, ht', hstable, hpow, hnone⟩ := hrun
  refine ⟨c, c₁, c', t', he, hs, lapses_of_lapse hl, ht', ?_⟩
  exact (budget_reset_iff plainSettings plainBackoff stableRun he hpow hstable hs
    (lapses_of_lapse hl) ht').mpr hnone

/-- The second one is lost: the counter goes on. -/
theorem budget_kept : ¬ ∀ (c c₁ c' : Client) (loss : Loss) (t' : AsyncTask),
    exec Client.step (Client.init plainSettings plainBackoff) stableAgainRun = some c →
      LostStable c (.closeFrame 2 1001) 2 loss → c.step (.closeFrame 2 1001) = some c₁ →
        Lapses 2 c₁ c' → c'.tasks[2]? = some t' → StartsAfresh c.shared c'.shared t'.point := by
  intro h
  have hrun : ∃ c c₁ c' t',
      exec Client.step (Client.init plainSettings plainBackoff) stableAgainRun = some c ∧
        c.step (.closeFrame 2 1001) = some c₁ ∧ lapse 2 5 c₁ = some c' ∧ c'.tasks[2]? = some t' ∧
          LostStable c (.closeFrame 2 1001) 2 ⟨1006, "Connection closed by remote", false⟩ ∧
            c'.shared.backoff.attempt = 2 :=
    ⟨_, _, _, _, rfl, rfl, rfl, rfl, ⟨⟨_, rfl, rfl, rfl, rfl⟩, ⟨_, rfl, by decide +kernel⟩,
      ⟨rfl, rfl, rfl⟩⟩, rfl⟩
  obtain ⟨c, c₁, c', t', he, hs, hl, ht', hstable, htwo⟩ := hrun
  have hone := (h c c₁ c' _ t' he hstable hs (lapses_of_lapse hl) ht').attempt
  rw [htwo] at hone
  cases hone

end JetSocket.Manager
