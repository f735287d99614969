import JetSocket.Manager.SetState

/- What a handler of `connected` or `reconnected` finds when it calls `send`.

   These handlers are invoked while the connecting task is suspended in them, behind the end
   of `transport.connect`. `connected` is emitted behind `_set_state(CONNECTED)`, but
   `reconnected` before it: every success but the first attempt's meets a `send` that raises.

   Results:
     `handlers_send`       — in a run in which only a first attempt succeeds, with the transport
                             in place, and no other coroutine takes the state away, the handlers
                             can send until a disconnect or a close happens.
     `reconnected_mutes`   — a handler of `reconnected` cannot. -/
namespace JetSocket.Manager
open JetSocket.Transport TaskPool Transition

/-- The state check of `send`, which gives the transport. -/
def WebSocket.sendCheck (ws : WebSocket) : Except Exc Nat :=
  let invalid := Exc.invalidStateError ("Cannot send in state " ++ ws.state.value) ws.state.value
    ["connected"]
  if !ws.state.canSend then .error invalid
  else
    match ws.transport with
    | none => .error invalid
    | some l => .ok l

/-- The state is CONNECTED, and `send` passes its check. -/
def Sendable (w : WebSocket) : Prop := w.state = .connected ∧ ∃ l, w.sendCheck = .ok l

namespace Point

/-- The coroutine is in the handlers of `connected` or `reconnected`. -/
def announces (p : Point) : Bool := p.topic = some .connected || p.topic = some .reconnected

/-- The coroutine is behind the end of `transport.connect`, up to these handlers. -/
def welcomes : Point → Bool
  | .reconnectedEmit | .connectedState _ | .connectedEmit _ => true
  | _ => false

/-- The same, or behind them. -/
def greets : Point → Bool
  | .reconnectedEmit | .connectedState _ | .connectedEmit _ | .replaying | .done false => true
  | _ => false

/-- The points of `_handle_disconnect`. -/
def ofDisconnect : Point → Bool
  | .stoppingHeartbeat _ _ | .cancellingAge _ _ | .disconnectedState _ | .disconnectedEmit _
  | .closedState _ | .closedEmit => true
  | _ => false

end Point

/-- The step is a disconnect or a close: it is one of `close` or `_handle_disconnect`. -/
def Breaks (c : Client) (a : Action) : Prop :=
  (∃ args, a = .close args) ∨
    ∃ (k : Nat) (t : AsyncTask), Client.actor a = some k ∧ c.tasks[k]? = some t ∧
      (t.point.ofClose = true ∨ t.point.ofDisconnect = true ∨
        disconnects c.shared a t.point = true)

/-- The handlers can send: behind every end of a `transport.connect` that succeeded, until a
disconnect or a close happens. -/
def HandlersSend (c : Client) (as : List Action) : Prop :=
  ∀ (before after : List Action) (k : Nat) (c₀ c₁ c₂ : Client) (t : AsyncTask),
    before ++ .attempt k .connected :: after <+: as →
    exec Client.step c before = some c₀ → c₀.step (.attempt k .connected) = some c₁ →
    Meets Client.step (fun c a => ¬ Breaks c a) c₁ after → exec Client.step c₁ after = some c₂ →
    c₂.tasks[k]? = some t → t.point.announces = true → Sendable c₂.shared

/-- `transport.connect` succeeds in a first attempt only (or in state CONNECTED), while the
object still has a transport; and in state CONNECTED, while the success is announced, no other
coroutine than one of a disconnect or a close sets another state. -/
structure Welcomes (c : Client) (a : Action) : Prop where
  success : ∀ k, a = .attempt k .connected →
    (c.shared.attempt ≤ 1 ∨ c.shared.state = .connected) ∧ c.shared.transport.isSome = true
  undisturbed : c.shared.state = .connected →
    (∃ (k : Nat) (t : AsyncTask), c.tasks[k]? = some t ∧ t.point.welcomes = true) →
      Breaks c a ∨ c.sets a = none ∨ c.sets a = some .connected

theorem sendable_iff {w : WebSocket} :
    Sendable w ↔ w.state = .connected ∧ w.transport.isSome = true := by
  unfold Sendable WebSocket.sendCheck
  constructor
  · rintro ⟨hs, l, hl⟩
    refine ⟨hs, ?_⟩
    cases ht : w.transport with
    | none => simp [hs, ht, ConnectionState.canSend] at hl
    | some l => rfl
  · rintro ⟨hs, ht⟩
    obtain ⟨l, hl⟩ := Option.isSome_iff_exists.mp ht
    exact ⟨hs, l, by simp [hs, hl, ConnectionState.canSend]⟩

section Steps
variable {w : WebSocket} {c c' : Client} {k : Nat} {t : AsyncTask} {a : Action}

theorem Point.welcomes_of_announces {p : Point} (h : p.announces = true) : p.welcomes = true := by
  cases p with
  | handling l stage => cases stage <;> cases h
  | _ => first
    | rfl
    | cases h

theorem Point.greets_of_welcomes {p : Point} (h : p.welcomes = true) : p.greets = true := by
  cases p <;> first
    | rfl
    | cases h

theorem established_welcomes (b : Bool) : (w.established b).point.welcomes = true := by
  refine WebSocket.setState_cases (Q := fun m => m.point.welcomes = true) (fun _ => ?_)
    (fun _ => ?_)
  · rfl
  · rfl

/-- A coroutine that greets goes on to greet, and does not come to welcome again. -/
theorem resume_greets {p : Point} (hp : p.greets = true) {m : Move} (hm : w.resume k p = some m) :
    m.point.greets = true ∧ p.welcomes = true := by
  cases p with
  | reconnectedEmit =>
    obtain rfl := Option.some.inj hm
    exact ⟨Point.greets_of_welcomes (established_welcomes true), rfl⟩
  | connectedState b =>
    obtain rfl := Option.some.inj hm
    exact ⟨rfl, rfl⟩
  | connectedEmit b =>
    simp only [WebSocket.resume, WebSocket.afterConnected] at hm
    split at hm
    · obtain rfl := Option.some.inj hm
      exact ⟨rfl, rfl⟩
    · cases hm
  | replaying | done => cases hm
  | _ => cases hp

theorem settle_greets {kind : Kind} {m : Move} (h : m.point.greets = true) :
    AsyncTask.settle k kind m = m :=
  settle_eq (fun hm => by rw [hm] at h; cases h)

/-- Where task `k` stands behind a step of another one. -/
theorem point_of_others {kind : Kind} {m : Move} {j : Nat} (hj : j ≠ k)
    (ht : c.tasks[k]? = some t) :
    ∃ t', (c.run j kind m).tasks[k]? = some t' ∧ t'.point = t.point := by
  have hold : (c.move j ((AsyncTask.settle j kind m).toPool kind)).tasks[k]? = some t :=
    Pool.getElem?_move_ne (Ne.symm hj) ht
  obtain ⟨b, hb⟩ := Client.getElem?_cancelOpt (AsyncTask.settle j kind m).cancel hold
  exact ⟨_, hb, rfl⟩

theorem point_of_call {kind : Kind} {m : Move} (ht : c.tasks[k]? = some t) :
    ∃ t', (c.enter kind m).tasks[k]? = some t' ∧ t'.point = t.point := by
  have hk : k < c.tasks.length := (List.getElem?_eq_some_iff.mp ht).1
  have hold : (c.call (m.toPool kind)).tasks[k]? = some t := by
    simp only [Pool.call, List.getElem?_append_left hk]
    exact ht
  obtain ⟨b, hb⟩ := Client.getElem?_cancelOpt m.cancel hold
  exact ⟨_, hb, rfl⟩

/-- The task of a coroutine that greets, whatever step is taken. -/
theorem greets_step (ht : c.tasks[k]? = some t) (hg : t.point.greets = true)
    (hs : c.step a = some c') : ∃ t', c'.tasks[k]? = some t' ∧ t'.point.greets = true ∧
      (t'.point.welcomes = true → t.point.welcomes = true) := by
  have hk : k < c.tasks.length := (List.getElem?_eq_some_iff.mp ht).1
  have hsame : ∀ {d : Client}, (∃ t', d.tasks[k]? = some t' ∧ t'.point = t.point) →
      ∃ t', d.tasks[k]? = some t' ∧ t'.point.greets = true ∧
        (t'.point.welcomes = true → t.point.welcomes = true) := by
    rintro d ⟨t', ht', hp⟩
    exact ⟨t', ht', hp ▸ hg, fun hw => hp ▸ hw⟩
  rcases Client.step_cases hs with ⟨d, rfl, rfl⟩ | ⟨l, rfl, rfl⟩ | ⟨rfl, rfl⟩ | ⟨args, rfl, rfl⟩ |
    ⟨j, u, rfl, hu, -, -, rfl⟩ | ⟨j, u, m, hu, hm, rfl⟩
  · exact hsame ⟨t, ht, rfl⟩
  · exact hsame ⟨t, ht, rfl⟩
  · exact hsame (point_of_call ht)
  · exact hsame (point_of_call ht)
  · by_cases hjk : j = k
    · subst hjk
      exact ⟨_, Pool.getElem?_move_self hk, rfl, fun hw => (by cases hw)⟩
    · exact hsame ⟨t, Pool.getElem?_move_ne (Ne.symm hjk) ht, rfl⟩
  · by_cases hjk : j = k
    · subst hjk
      obtain rfl := Option.some.inj (hu.symm.trans ht)
      obtain ⟨b, hb⟩ : ∃ b, (c.run j u.kind m).tasks[j]? = some ⟨u.kind, _, b⟩ :=
        Client.getElem?_run_self hk
      cases hm with
      | cancelled =>
        rw [settle_greets (k := j) (m := c.shared.finish) rfl] at hb
        exact ⟨_, hb, rfl, fun hw => (by cases hw)⟩
      | resumed _ _ hm =>
        obtain ⟨hg', hw⟩ := resume_greets hg hm
        rw [settle_greets hg'] at hb
        exact ⟨_, hb, hg', fun _ => hw⟩
      | awaited hw =>
        generalize u.point = p at hg hw
        cases p with
        | reconnectedEmit | connectedState | connectedEmit | replaying | done => cases hw
        | _ => cases hg
      | reacts _ _ hm =>
        generalize u.point = p at hg hm
        cases hm <;> cases hg
    · exact hsame (point_of_others hjk ht)

/-- Task `k` is behind the end of `transport.connect`, and what it announces is true. -/
def Greeting (k : Nat) (c : Client) : Prop :=
  ∃ t, c.tasks[k]? = some t ∧ t.point.greets = true ∧
    (t.point.welcomes = true → c.shared.state = .connected ∧ c.shared.transport.isSome = true)

/-- A step that is neither a disconnect nor a close keeps state and transport. -/
theorem keeps_connection (hs : c.step a = some c') (hb : ¬ Breaks c a)
    (hset : c.sets a = none ∨ c.sets a = some .connected) (hc : c.shared.state = .connected)
    (ht : c.shared.transport.isSome = true) :
    c'.shared.state = .connected ∧ c'.shared.transport.isSome = true := by
  obtain ⟨j, p, q, hd⟩ := step_told hs
  constructor
  · have hstate : c'.shared.state = (c.sets a).getD c.shared.state := by
      rw [hd.tells.state, Client.entry_state]
    rcases hset with hset | hset <;> rw [hstate, hset]
    · exact hc
    · rfl
  · refine hd.tells.transport ?_ (by rw [Client.entry_transport]; exact ht)
    rcases hd.actor with ⟨ha, u, hu, rfl⟩ | ⟨-, -, rfl⟩
    · by_contra hclose
      exact hb (.inr ⟨j, u, ha, hu, .inl (by simpa using hclose)⟩)
    · rfl

theorem Greeting.step (h : Greeting k c) (ho : Welcomes c a ∧ ¬ Breaks c a)
    (hs : c.step a = some c') : Greeting k c' := by
  obtain ⟨t, ht, hg, hw⟩ := h
  obtain ⟨t', ht', hg', hwelcomes⟩ := greets_step ht hg hs
  refine ⟨t', ht', hg', fun hw' => ?_⟩
  obtain ⟨hc, htr⟩ := hw (hwelcomes hw')
  have hset : c.sets a = none ∨ c.sets a = some .connected :=
    (ho.1.undisturbed hc ⟨k, t, ht, hwelcomes hw'⟩).resolve_left ho.2
  exact keeps_connection hs ho.2 hset hc htr

/-- `transport.connect` succeeds. -/
theorem greeting_of_success (ho : Welcomes c (.attempt k .connected))
    (hs : c.step (.attempt k .connected) = some c') : Greeting k c' := by
  obtain ⟨hfirst, htr⟩ := ho.success k rfl
  obtain ⟨u, m, hu, -, hm, rfl⟩ := Client.reacts_of_step rfl (fun h => by cases h) hs
  have hk : k < c.tasks.length := (List.getElem?_eq_some_iff.mp hu).1
  have hmove : m.point.welcomes = true ∧ m.ws.state = .connected ∧
      m.ws.transport.isSome = true := by
    generalize u.point = p at hm
    cases hm with
    | connected _ l =>
      unfold WebSocket.connectReturned
      split
      · rename_i hlater
        have hlater : 1 < c.shared.attempt := hlater
        exact ⟨rfl, hfirst.resolve_left (by omega), htr⟩
      · refine WebSocket.setState_cases (Q := fun m => m.point.welcomes = true ∧
          m.ws.state = .connected ∧ m.ws.transport.isSome = true) (fun he => ?_) (fun _ => ?_)
        · exact ⟨rfl, he, htr⟩
        · exact ⟨rfl, rfl, htr⟩
  obtain ⟨hw, hstate, htransport⟩ := hmove
  have hg : m.point.greets = true := Point.greets_of_welcomes hw
  refine Client.exists_run_self (Q := fun w p => p.greets = true ∧
    (p.welcomes = true → w.state = .connected ∧ w.transport.isSome = true)) hk ?_
  rw [settle_greets hg]
  exact ⟨hg, fun _ => ⟨hstate, htransport⟩⟩

end Steps

/-- **The handlers can send** in every run whose successes are welcome. -/
theorem handlers_send (settings : Settings) (backoff : BackoffConfig) (as : List Action)
    (h : Meets Client.step Welcomes (Client.init settings backoff) as) :
    HandlersSend (Client.init settings backoff) as := by
  rintro before after k c₀ c₁ c₂ t ⟨rest, rfl⟩ he hs hbreaks he₂ ht ha
  have hmeets : Meets Client.step Welcomes c₀ (.attempt k .connected :: after) := h.take.drop he
  obtain ⟨hsuccess, hafter⟩ := hmeets c₁ hs
  have hgreeting : Greeting k c₂ :=
    (always_of_meets (fun _ _ _ hg ho hs => Greeting.step hg ho hs)
      (greeting_of_success hsuccess hs) (hafter.and hbreaks)).last he₂
  obtain ⟨t', ht', -, hw⟩ := hgreeting
  obtain rfl := Option.some.inj (ht'.symm.trans ht)
  exact sendable_iff.mpr (hw (Point.welcomes_of_announces ha))

/-- The first connection. -/
theorem handlers_send_connect :
    HandlersSend (Client.init plainSettings plainBackoff) connectRun := by
  refine handlers_send plainSettings plainBackoff connectRun ?_
  refine .cons rfl ?_ (.cons rfl ?_ (.cons rfl ?_ (.cons rfl ?_ (.cons rfl ?success (.cons rfl ?_
    (.cons rfl ?_ (.cons rfl ?_ trivial)))))))
  case success =>
    refine ⟨fun _ _ => ⟨.inl (by decide), rfl⟩, fun h => (by cases h)⟩
  case refine_5 | refine_6 | refine_7 =>
    exact ⟨fun _ h => (by cases h), fun _ _ => .inr (.inl rfl)⟩
  all_goals exact ⟨fun _ h => (by cases h), fun h => (by cases h)⟩

/-- The connection is lost, and the message loop makes another one. -/
def reconnectRun : List Action :=
  lossRun ++ [.resume 1, .resume 1, .resume 1, .resume 1, .resume 1, .resume 1, .opened 1,
    .attempt 1 .connected]

/-- The handlers of `reconnected` are invoked in state CONNECTING. -/
theorem reconnected_mutes :
    ¬ HandlersSend (Client.init plainSettings plainBackoff) reconnectRun := by
  intro h
  have hsend : Sendable _ := h (lossRun ++ [.resume 1, .resume 1, .resume 1, .resume 1, .resume 1,
    .resume 1, .opened 1]) [] 1 _ _ _ _ ⟨[], rfl⟩ rfl rfl trivial rfl rfl rfl
  cases hsend.1

end JetSocket.Manager
