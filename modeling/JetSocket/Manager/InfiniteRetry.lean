import JetSocket.Manager.Attempt
import Mathlib.Algebra.Order.Archimedean.Basic
import Mathlib.Data.Rat.Floor

/- What happens to a client that is to retry for ever (`max_attempts = 0`).

   `_connect_internal` awaits `_schedule_reconnect`, which awaits `_connect_internal`: a frame of
   each stays on the stack of the coroutine until the last attempt ends. The methods are modelled
   cut at their suspensions, without a stack, so `Stacked` adds one: a call pushes a frame, and
   the end of the coroutine pops them all. And `next_delay` computes the power before it applies
   the cap.

   Results:
     `nesting_failures`     — behind `n` failed attempts, `2 * n + 1` frames are on the stack.
     `never_retries_forever` — no configuration retries for ever within a bounded stack.
     `delay_overflows`      — with a multiplier above 1, `next_delay` raises in the end. -/
namespace JetSocket.Manager
open JetSocket.Transport TaskPool Transition

/-! ## The stack -/

/-- The coroutines that call one another. -/
inductive StackFrame where
  | connectInternal
  | scheduleReconnect
  deriving DecidableEq, Repr

/-- The call with which a resumed coroutine goes on. -/
def WebSocket.calls (ws : WebSocket) : Point → Option StackFrame
  | .errorEmit e =>
    if isFatalError e then none else if ws.settings.reconnect then some .scheduleReconnect else none
  | .disconnectedEmit loss =>
    if ws.settings.reconnect && !ws.userClosed && !isFatalCode loss.code then
      some .scheduleReconnect
    else none
  | .sleeping _ => if !ws.running || ws.userClosed then none else some .connectInternal
  | _ => none

/-- The call that task `k` makes in the step. -/
def Client.calls (c : Client) (k : Nat) : Action → Option StackFrame
  | .connect =>
    if k = c.tasks.length ∧ (c.shared.state = .idle ∨ c.shared.state = .disconnected) then
      some .connectInternal
    else none
  | .resume j =>
    match c.tasks[k]? with
    | some t => if j = k ∧ t.cancelled = false then c.shared.calls t.point else none
    | none => none
  | _ => none

/-- A client, and of each task the frames of `_connect_internal` and `_schedule_reconnect` on its
stack, the innermost first. -/
structure Stacked where
  client : Client
  frames : Nat → List StackFrame

namespace Stacked

def init (settings : Settings) (backoff : BackoffConfig) : Stacked :=
  { client := Client.init settings backoff, frames := fun _ => [] }

def step (s : Stacked) (a : Action) : Option Stacked :=
  (s.client.step a).map (fun c' =>
    { client := c'
      frames := fun k =>
        if (c'.tasks[k]?).any (fun t => t.point.ended) then []
        else (s.client.calls k a).toList ++ s.frames k })

/-- How deep the calls of task `k` are nested. -/
def nesting (s : Stacked) (k : Nat) : Nat := (s.frames k).length

end Stacked

/-! ## The property -/

/-- The error is retried. -/
def Retriable (e : Exc) : Prop := isCaught e = true ∧ isFatalError e = false

/-- An attempt of task 0 fails, and the next one begins: its error is announced, the delay
computed and announced, and slept through. -/
def failedAttempt (e : Exc) : List Action :=
  [.attempt 0 (.raised e), .resume 0, .resume 0, .resume 0, .resume 0, .resume 0, .resume 0,
    .resume 0]

/-- `connect` is called, and the attempts fail with these errors, one after the other. -/
def failures (es : List Exc) : List Action :=
  [.connect, .resume 0, .resume 0] ++ es.flatMap failedAttempt

/-- Task 0 is in `transport.connect`, in attempt `n`. -/
def InAttempt (c : Client) (n : Nat) : Prop :=
  c.shared.attempt = n ∧ ∃ t l, c.tasks[0]? = some t ∧ t.point = .opening l

/-- The backoff behind `n` delays. -/
def backoffAt (backoff : BackoffConfig) (n : Nat) : BackoffStrategy :=
  { BackoffStrategy.new backoff with attempt := n }

/-- Infinite retry is infinite: the delay can be computed in every attempt, behind any failures
the next attempt is made, and the calls are not nested deeper and deeper. -/
structure RetriesForever (settings : Settings) (backoff : BackoffConfig) : Prop where
  delays : ∀ n, ∃ r, (backoffAt backoff n).nextDelay settings.pow settings.uniform = .ok r
  goesOn : ∀ es, (∀ e ∈ es, Retriable e) → ∃ s, exec Stacked.step (Stacked.init settings backoff)
    (failures es) = some s ∧ InAttempt s.client (es.length + 1)
  bounded : ∃ bound, ∀ es s, (∀ e ∈ es, Retriable e) →
    exec Stacked.step (Stacked.init settings backoff) (failures es) = some s → s.nesting 0 ≤ bound

/-! ## One failure -/

/-- Task 0 is suspended at `p`, and not cancelled. -/
def At (s : Stacked) (p : Point) : Prop := s.client.tasks[0]? = some ⟨.connect, p, false⟩

/-- What a retry reads of the object. -/
structure Ready (settings : Settings) (b : BackoffStrategy) (n : Nat) (state : ConnectionState)
    (w : WebSocket) : Prop where
  settings : w.settings = settings
  backoff : w.backoff = b
  attempt : w.attempt = n
  state : w.state = state
  running : w.running = true
  userClosed : w.userClosed = false

/-- Task 0 is in an attempt behind `n` failed ones, and on its stack are two frames of each. -/
structure Retrying (settings : Settings) (backoff : BackoffConfig) (n : Nat) (s : Stacked) :
    Prop where
  point : ∃ l, At s (.opening l)
  ready : Ready settings (backoffAt backoff n) (n + 1) .connecting s.client.shared
  nesting : s.nesting 0 = 2 * n + 1

section Steps
variable {w : WebSocket} {s s' : Stacked} {p : Point} {m : Move}

/-- Task 0 makes a move, and does not end. -/
theorem step_move {a : Action} (hp : At s p) (hlive : m.cancel = none)
    (hended : m.point.ended = false)
    (ha : s.client.step a = some (s.client.run 0 .connect m)) :
    ∃ s', s.step a = some s' ∧ s'.client.shared = m.ws ∧ At s' m.point ∧
      s'.nesting 0 = (s.client.calls 0 a).toList.length + s.nesting 0 := by
  have hk : 0 < s.client.tasks.length := (List.getElem?_eq_some_iff.mp hp).1
  have hself : (s.client.run 0 .connect m).tasks[0]? = some ⟨.connect, m.point, false⟩ := by
    unfold Client.run
    rw [Client.settle_of_ne (by decide)]
    dsimp only
    rw [hlive]
    exact Pool.getElem?_move_self hk
  refine ⟨⟨s.client.run 0 .connect m, _⟩, by rw [Stacked.step, ha]; rfl, Client.shared_run ..,
    hself, ?_⟩
  unfold Stacked.nesting
  dsimp only
  rw [hself, Option.any_some, hended, if_neg Bool.false_ne_true, List.length_append]

/-- It is resumed. -/
theorem step_resume (hp : At s p) (hm : s.client.shared.resume 0 p = some m)
    (hw : WebSocket.awaits p = none) (hst : s.client.shared.starts p = false)
    (hlive : m.cancel = none) (hended : m.point.ended = false) :
    ∃ s', s.step (.resume 0) = some s' ∧ s'.client.shared = m.ws ∧ At s' m.point ∧
      s'.nesting 0 = (s.client.shared.calls p).toList.length + s.nesting 0 := by
  have ht : s.client.tasks[0]? = some ⟨.connect, p, false⟩ := hp
  have hstep : s.client.step (.resume 0) = some (s.client.run 0 .connect m) := by
    simp [Client.step, Client.actor, ht, hst, Client.moveOf, Client.resumed, hw, hm]
  have hcalls : s.client.calls 0 (.resume 0) = s.client.shared.calls p := by
    simp [Client.calls, ht]
  rw [← hcalls]
  exact step_move hp hlive hended hstep

/-! The moves of a retry. -/

theorem setState_of_ne {r : ConnectionState} {q : Point} {next : WebSocket → Move}
    (h : w.state ≠ r) : w.setState r q next =
      { w with state := r }.emitAt (.stateChange w.state r) q :=
  if_neg (fun he => h he.symm)

theorem afterError_retry {e : Exc} (he : Retriable e) (hr : w.settings.reconnect = true)
    (hx : w.backoff.exhausted = false) (hs : w.state = .connecting) :
    w.afterError e = { w with state := .reconnecting }.emitAt
      (.stateChange .connecting .reconnecting) .reconnectingState := by
  unfold WebSocket.afterError WebSocket.scheduleReconnect
  rw [if_neg (by simp [he.2]), if_pos hr, if_neg (by simp [hx]), setState_of_ne (by simp [hs]), hs]

theorem announceReconnecting_delay {b : BackoffStrategy} {d : ℚ}
    (h : w.backoff.nextDelay w.settings.pow w.settings.uniform = .ok (b, d)) :
    w.announceReconnecting = { w with backoff := b }.emitAt
      (.reconnecting b.attempt d w.lastError) (.reconnectingEmit d) := by
  unfold WebSocket.announceReconnecting
  rw [h]

theorem afterBackoff_retry (hr : w.running = true) (hu : w.userClosed = false)
    (hs : w.state = .backingOff) :
    w.afterBackoff = { w with attempt := w.attempt + 1, state := .connecting }.emitAt
      (.stateChange .backingOff .connecting) .connectingState := by
  unfold WebSocket.afterBackoff WebSocket.connectInternal
  rw [if_neg (by simp [hr, hu]), setState_of_ne (by simp [hs])]
  simp [hs]

end Steps

/-- **One failure**: the next attempt is made, two calls deeper. -/
theorem Retrying.goes_on {settings : Settings} {backoff : BackoffConfig} {n : Nat} {s : Stacked}
    (h : Retrying settings backoff n s) (hr : settings.reconnect = true) {b : BackoffStrategy}
    {d : ℚ} (hd : (backoffAt backoff n).nextDelay settings.pow settings.uniform = .ok (b, d))
    {e : Exc} (he : Retriable e) :
    ∃ s', exec Stacked.step s (failedAttempt e) = some s' ∧
      Retrying settings backoff (n + 1) s' := by
  obtain ⟨l, hp⟩ := h.point
  obtain ⟨hse, hba, hat, hst, hru, hus⟩ := h.ready
  have hx : (backoffAt backoff n).exhausted = false := by
    cases hx : (backoffAt backoff n).exhausted with
    | false => rfl
    | true => simp [BackoffStrategy.nextDelay, hx] at hd
  -- the error is announced,
  have hfailed : s.client.step (.attempt 0 (.raised e)) =
      some (s.client.run 0 .connect (s.client.shared.connectFailed e)) := by
    have ht : s.client.tasks[0]? = some ⟨.connect, .opening l, false⟩ := hp
    simp [Client.step, Client.actor, ht, Client.moveOf, Client.react]
  have hemit : s.client.shared.connectFailed e = { s.client.shared with lastError := some e }.emitAt
      (.error e false) (.errorEmit e) := by
    unfold WebSocket.connectFailed
    rw [if_pos he.1, he.2]
  rw [hemit] at hfailed
  obtain ⟨s₁, h₁, hw₁, hp₁, hn₁⟩ := step_move hp rfl rfl hfailed
  have hready₁ : Ready settings (backoffAt backoff n) (n + 1) .connecting s₁.client.shared := by
    rw [hw₁]
    exact ⟨hse, hba, hat, hst, hru, hus⟩
  -- a retry is scheduled,
  have hmove₂ := afterError_retry he (by rw [hready₁.settings]; exact hr)
    (by rw [hready₁.backoff]; exact hx) hready₁.state
  obtain ⟨s₂, h₂, hw₂, hp₂, hn₂⟩ := step_resume hp₁ (congrArg some hmove₂) rfl rfl rfl rfl
  have hready₂ : Ready settings (backoffAt backoff n) (n + 1) .reconnecting s₂.client.shared := by
    rw [hw₂]
    exact ⟨hready₁.settings, hready₁.backoff, hready₁.attempt, rfl, hready₁.running,
      hready₁.userClosed⟩
  -- its delay computed and announced,
  have hmove₃ := announceReconnecting_delay (w := s₂.client.shared) (b := b) (d := d)
    (by rw [hready₂.settings, hready₂.backoff]; exact hd)
  obtain ⟨s₃, h₃, hw₃, hp₃, hn₃⟩ := step_resume hp₂ (congrArg some hmove₃) rfl rfl rfl rfl
  have hb : b = backoffAt backoff (n + 1) := (BackoffStrategy.nextDelay_eq hd).1
  have hready₃ : Ready settings (backoffAt backoff (n + 1)) (n + 1) .reconnecting
      s₃.client.shared := by
    rw [hw₃]
    exact ⟨hready₂.settings, hb, hready₂.attempt, hready₂.state, hready₂.running,
      hready₂.userClosed⟩
  -- and slept through,
  have hmove₄ : s₃.client.shared.beginBackoff d = _ := setState_of_ne (by rw [hready₃.state]; simp)
  obtain ⟨s₄, h₄, hw₄, hp₄, hn₄⟩ := step_resume hp₃ (congrArg some hmove₄) rfl rfl rfl rfl
  have hready₄ : Ready settings (backoffAt backoff (n + 1)) (n + 1) .backingOff
      s₄.client.shared := by
    rw [hw₄]
    exact ⟨hready₃.settings, hready₃.backoff, hready₃.attempt, rfl, hready₃.running,
      hready₃.userClosed⟩
  obtain ⟨s₅, h₅, hw₅, hp₅, hn₅⟩ := step_resume hp₄ rfl rfl rfl rfl rfl
  have hready₅ : Ready settings (backoffAt backoff (n + 1)) (n + 1) .backingOff
      s₅.client.shared := by
    rw [hw₅]
    exact hready₄
  -- and the next attempt begins.
  have hmove₆ := afterBackoff_retry hready₅.running hready₅.userClosed hready₅.state
  obtain ⟨s₆, h₆, hw₆, hp₆, hn₆⟩ := step_resume hp₅ (congrArg some hmove₆) rfl rfl rfl rfl
  have hready₆ : Ready settings (backoffAt backoff (n + 1)) (n + 2) .connecting
      s₆.client.shared := by
    rw [hw₆]
    exact ⟨hready₅.settings, hready₅.backoff, congrArg (· + 1) hready₅.attempt, rfl,
      hready₅.running, hready₅.userClosed⟩
  obtain ⟨s₇, h₇, hw₇, hp₇, hn₇⟩ := step_resume hp₆ rfl rfl rfl rfl rfl
  have hready₇ : Ready settings (backoffAt backoff (n + 1)) (n + 2) .connecting
      s₇.client.shared := by
    rw [hw₇]
    exact ⟨hready₆.settings, hready₆.backoff, hready₆.attempt, hready₆.state, hready₆.running,
      hready₆.userClosed⟩
  obtain ⟨s₈, h₈, hw₈, hp₈, hn₈⟩ := step_resume hp₇ rfl rfl rfl rfl rfl
  refine ⟨s₈, ?_, ⟨_, hp₈⟩, ?_, ?_⟩
  · simp only [failedAttempt, exec, h₁, h₂, h₃, h₄, h₅, h₆, h₇, h₈, Option.bind_some]
  · rw [hw₈]
    exact ⟨hready₇.settings, hready₇.backoff, hready₇.attempt, hready₇.state, hready₇.running,
      hready₇.userClosed⟩
  · -- the two calls
    have hcall₂ : s₁.client.shared.calls (.errorEmit e) = some .scheduleReconnect := by
      unfold WebSocket.calls
      dsimp only
      rw [if_neg (by simp [he.2]), if_pos (by rw [hready₁.settings]; exact hr)]
    have hcall₆ : s₅.client.shared.calls (.sleeping d) = some .connectInternal := by
      unfold WebSocket.calls
      dsimp only
      rw [if_neg (by simp [hready₅.running, hready₅.userClosed])]
    have hpush₂ : s₂.nesting 0 = 1 + s₁.nesting 0 := hn₂.trans (by
      show (s₁.client.shared.calls (.errorEmit e)).toList.length + _ = _
      rw [hcall₂]
      rfl)
    have hpush₆ : s₆.nesting 0 = 1 + s₅.nesting 0 := hn₆.trans (by
      show (s₅.client.shared.calls (.sleeping d)).toList.length + _ = _
      rw [hcall₆]
      rfl)
    have hnesting := h.nesting
    have hkeep₁ : s₁.nesting 0 = s.nesting 0 := hn₁.trans (Nat.zero_add _)
    have hkeep₃ : s₃.nesting 0 = s₂.nesting 0 := hn₃.trans (Nat.zero_add _)
    have hkeep₄ : s₄.nesting 0 = s₃.nesting 0 := hn₄.trans (Nat.zero_add _)
    have hkeep₅ : s₅.nesting 0 = s₄.nesting 0 := hn₅.trans (Nat.zero_add _)
    have hkeep₇ : s₇.nesting 0 = s₆.nesting 0 := hn₇.trans (Nat.zero_add _)
    have hkeep₈ : s₈.nesting 0 = s₇.nesting 0 := hn₈.trans (Nat.zero_add _)
    omega

/-- The first attempt begins. -/
theorem retrying_first (settings : Settings) (backoff : BackoffConfig) :
    ∃ s, exec Stacked.step (Stacked.init settings backoff) [.connect, .resume 0, .resume 0] =
      some s ∧ Retrying settings backoff 0 s :=
  ⟨_, rfl, ⟨0, rfl⟩, ⟨rfl, rfl, rfl, rfl, rfl, rfl⟩, rfl⟩

/-- **Behind `n` failures**, as long as the delays can be computed, the next attempt is made, and
`2 * n + 1` frames are on the stack. -/
theorem nesting_failures {settings : Settings} {backoff : BackoffConfig}
    (hr : settings.reconnect = true) (es : List Exc) (he : ∀ e ∈ es, Retriable e)
    (hd : ∀ n < es.length, ∃ r,
      (backoffAt backoff n).nextDelay settings.pow settings.uniform = .ok r) :
    ∃ s, exec Stacked.step (Stacked.init settings backoff) (failures es) = some s ∧
      InAttempt s.client (es.length + 1) ∧ s.nesting 0 = 2 * es.length + 1 := by
  -- the failures one after the other, from any attempt on
  have hrun : ∀ (es : List Exc) (n : Nat) (s : Stacked), (∀ e ∈ es, Retriable e) →
      (∀ i < es.length, ∃ r, (backoffAt backoff (n + i)).nextDelay settings.pow settings.uniform =
        .ok r) → Retrying settings backoff n s →
      ∃ s', exec Stacked.step s (es.flatMap failedAttempt) = some s' ∧
        Retrying settings backoff (n + es.length) s' := by
    intro es
    induction es with
    | nil => exact fun n s _ _ h => ⟨s, rfl, h⟩
    | cons e es ih =>
      intro n s he hd h
      obtain ⟨⟨b, d⟩, hbd⟩ := hd 0 (by simp)
      obtain ⟨s₁, h₁, hs₁⟩ := h.goes_on hr hbd (he e (List.mem_cons_self ..))
      obtain ⟨s', h', hs'⟩ := ih (n + 1) s₁ (fun e' he' => he e' (List.mem_cons_of_mem _ he'))
        (fun i hi => by
          rw [Nat.add_assoc, Nat.add_comm 1 i]
          exact hd (i + 1) (by simpa using hi)) hs₁
      refine ⟨s', ?_, ?_⟩
      · rw [List.flatMap_cons, exec_append, h₁]
        exact h'
      · rw [List.length_cons, ← Nat.add_assoc, Nat.add_right_comm]
        exact hs'
  obtain ⟨s₀, h₀, hs₀⟩ := retrying_first settings backoff
  obtain ⟨s, h, hs⟩ := hrun es 0 s₀ he (fun i hi => by rw [Nat.zero_add]; exact hd i hi) hs₀
  rw [Nat.zero_add] at hs
  obtain ⟨l, hp⟩ := hs.point
  refine ⟨s, ?_, ⟨hs.ready.attempt, _, l, hp, rfl⟩, hs.nesting⟩
  rw [failures, exec_append, h₀]
  exact h

/-- A retriable error. -/
def connectionRefused : Exc := .connectionError "Failed to connect to 192.0.2.1"

/-- **Never**: whatever the backoff, where the delays can be computed the stack has no bound. -/
theorem never_retries_forever (settings : Settings) (backoff : BackoffConfig)
    (hr : settings.reconnect = true) : ¬ RetriesForever settings backoff := by
  intro h
  obtain ⟨bound, hbound⟩ := h.bounded
  have he : ∀ e ∈ List.replicate bound connectionRefused, Retriable e := by
    intro e he
    rw [List.eq_of_mem_replicate he]
    exact ⟨rfl, rfl⟩
  obtain ⟨s, hs, -, hnesting⟩ := nesting_failures hr _ he (fun n _ => h.delays n)
  have hle : s.nesting 0 ≤ bound := hbound _ s he hs
  rw [List.length_replicate] at hnesting
  omega

/-- The default backoff. -/
theorem never_retries_forever_default : plainBackoff.maxAttempts = 0 ∧
    ¬ RetriesForever plainSettings plainBackoff :=
  ⟨rfl, never_retries_forever plainSettings plainBackoff rfl⟩

/-! ## The power -/

/-- The power of a float is a float below `2 ^ 1024`, and `OverflowError` from there on. -/
def Limited (pow : FloatPow) : Prop := ∀ b n, pow b n = none ↔ (2 : ℚ) ^ 1024 ≤ b ^ n

/-- **The delay overflows**: with a multiplier above 1, `next_delay` raises at some attempt, the
cap notwithstanding. -/
theorem delay_overflows {pow : FloatPow} (hp : Limited pow) (uniform : ℚ → ℚ)
    {backoff : BackoffConfig} (hm : 1 < backoff.multiplier) (hmax : backoff.maxAttempts = 0) :
    ∃ n, (backoffAt backoff n).nextDelay pow uniform =
      .error (.overflowError "Result too large") := by
  obtain ⟨n, hn⟩ := pow_unbounded_of_one_lt ((2 : ℚ) ^ 1024) hm
  have hnone : pow backoff.multiplier n = none := (hp _ _).mpr hn.le
  have hx : (backoffAt backoff n).exhausted = false := by
    unfold BackoffStrategy.exhausted
    exact if_pos hmax
  refine ⟨n, ?_⟩
  unfold BackoffStrategy.nextDelay BackoffStrategy.uncapped
  rw [hx, if_neg Bool.false_ne_true, show pow (backoffAt backoff n).config.multiplier
    (backoffAt backoff n).attempt = none from hnone]
  rfl

/-- Without growth there is nothing to overflow. -/
theorem delay_fits {pow : FloatPow} (hp : Limited pow) (uniform : ℚ → ℚ)
    {backoff : BackoffConfig} (hm : backoff.multiplier = 1) (hmax : backoff.maxAttempts = 0)
    (n : Nat) : ∃ r, (backoffAt backoff n).nextDelay pow uniform = .ok r := by
  have hsome : (pow backoff.multiplier n).isSome = true := by
    rw [Option.isSome_iff_ne_none]
    intro hnone
    have hle : (2 : ℚ) ^ 1024 ≤ backoff.multiplier ^ n := (hp _ _).mp hnone
    rw [hm, one_pow] at hle
    exact absurd (one_lt_pow₀ (by norm_num : (1 : ℚ) < 2) (by norm_num)) (not_lt.mpr hle)
  have hx : (backoffAt backoff n).exhausted = false := by
    unfold BackoffStrategy.exhausted
    exact if_pos hmax
  obtain ⟨b, d, hbd, -⟩ := (BackoffStrategy.nextDelay_ok hx).mpr hsome
  exact ⟨(b, d), hbd⟩

/-- So only the stack ends the attempts then. -/
theorem unscaled_goes_on {settings : Settings} {backoff : BackoffConfig}
    (hr : settings.reconnect = true) (hp : Limited settings.pow) (hm : backoff.multiplier = 1)
    (hmax : backoff.maxAttempts = 0) (es : List Exc) (he : ∀ e ∈ es, Retriable e) :
    ∃ s, exec Stacked.step (Stacked.init settings backoff) (failures es) = some s ∧
      InAttempt s.client (es.length + 1) := by
  obtain ⟨s, hs, hin, -⟩ := nesting_failures hr es he
    (fun n _ => delay_fits hp settings.uniform hm hmax n)
  exact ⟨s, hs, hin⟩

/-- `**` of Python. -/
def floatPow : FloatPow := fun b n => if (2 : ℚ) ^ 1024 ≤ b ^ n then none else some (b ^ n)

theorem limited_floatPow : Limited floatPow := by
  intro b n
  unfold floatPow
  split
  · rename_i h
    exact ⟨fun _ => h, fun _ => rfl⟩
  · rename_i h
    exact ⟨fun hn => (by cases hn), fun hle => (h hle).elim⟩

/-- The default backoff, with the powers of Python, doubles its delay up to an overflow. -/
theorem default_delay_overflows :
    ¬ RetriesForever { plainSettings with pow := floatPow } plainBackoff := by
  intro h
  have hmultiplier : 1 < plainBackoff.multiplier := by decide +kernel
  obtain ⟨n, hn⟩ := delay_overflows limited_floatPow id hmultiplier rfl
  obtain ⟨r, hr⟩ := h.delays n
  cases hn.symm.trans hr

end JetSocket.Manager
