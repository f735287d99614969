import JetSocket.Exceptions
import Mathlib.Data.Rat.Defs
import Mathlib.Algebra.Order.Ring.Unbundled.Rat

/- Exponential backoff (`backoff.py`) over exact rationals. Two things are not
   arithmetic: `multiplier ** attempt` raises `OverflowError` where the power is too
   large for a float, and jitter draws at random. `FloatPow` and the draw are arguments.

   Correspondence (Python ↔ Lean):
     `exhausted`, `next_delay`, `peek_delay`  ↔ `exhausted`, `nextDelay`, `peekDelay`
     `success`, `reset`, `maybe_reset`        ↔ `success`, `reset`, `maybeReset` -/
namespace JetSocket

/-- `base ** n` on floats: `none` is `OverflowError`. -/
abbrev FloatPow := ℚ → Nat → Option ℚ

/-- A configuration that passed `__post_init__`. -/
structure BackoffConfig where
  base : ℚ
  multiplier : ℚ
  cap : ℚ
  jitter : Bool
  maxAttempts : Nat
  resetAfter : ℚ
  base_pos : 0 < base
  one_le_multiplier : 1 ≤ multiplier
  base_le_cap : base ≤ cap
  resetAfter_nonneg : 0 ≤ resetAfter

structure BackoffStrategy where
  config : BackoffConfig
  attempt : Nat
  lastSuccess : Option ℚ

namespace BackoffStrategy

/-- `BackoffStrategy.__init__`. -/
def new (config : BackoffConfig) : BackoffStrategy :=
  { config, attempt := 0, lastSuccess := none }

/-- `exhausted`. -/
def exhausted (b : BackoffStrategy) : Bool :=
  if b.config.maxAttempts = 0 then false else b.config.maxAttempts ≤ b.attempt

/-- `min(base * multiplier ** attempt, cap)`. -/
def uncapped (pow : FloatPow) (b : BackoffStrategy) : Except Exc ℚ :=
  match pow b.config.multiplier b.attempt with
  | none => .error (.overflowError "Result too large")
  | some p => .ok (min (b.config.base * p) b.config.cap)

/-- `next_delay`; `uniform` is `random.uniform(0, ·)`. -/
def nextDelay (pow : FloatPow) (uniform : ℚ → ℚ) (b : BackoffStrategy) :
    Except Exc (BackoffStrategy × ℚ) :=
  if b.exhausted then
    .error (.runtimeError s!"Max attempts ({b.config.maxAttempts}) exhausted")
  else
    (b.uncapped pow).map (fun delay =>
      ({ b with attempt := b.attempt + 1 }, if b.config.jitter then uniform delay else delay))

/-- `peek_delay`. -/
def peekDelay (pow : FloatPow) (b : BackoffStrategy) : Except Exc ℚ :=
  (b.uncapped pow).map (fun delay => if b.config.jitter then delay / 2 else delay)

/-- `success`. -/
def success (b : BackoffStrategy) (now : ℚ) : BackoffStrategy :=
  { b with lastSuccess := some now }

/-- `reset`. -/
def reset (b : BackoffStrategy) : BackoffStrategy := { b with attempt := 0, lastSuccess := none }

/-- `maybe_reset`. -/
def maybeReset (b : BackoffStrategy) (now : ℚ) : BackoffStrategy × Bool :=
  match b.lastSuccess with
  | none => (b, false)
  | some t => if b.config.resetAfter ≤ now - t then ({ b with attempt := 0 }, true) else (b, false)

/-- The delay can be computed, attempts being left. -/
theorem nextDelay_ok {pow : FloatPow} {uniform : ℚ → ℚ} {b : BackoffStrategy}
    (h : b.exhausted = false) :
    (∃ b' delay, b.nextDelay pow uniform = .ok (b', delay) ∧ b'.attempt = b.attempt + 1) ↔
      (pow b.config.multiplier b.attempt).isSome = true := by
  unfold nextDelay uncapped
  rw [h]
  cases pow b.config.multiplier b.attempt with
  | none => simp [Except.map]
  | some p => simp [Except.map]

/-- What a delay that was computed is, and what it leaves. -/
theorem nextDelay_eq {pow : FloatPow} {uniform : ℚ → ℚ} {b b' : BackoffStrategy} {delay : ℚ}
    (h : b.nextDelay pow uniform = .ok (b', delay)) :
    b' = { b with attempt := b.attempt + 1 } ∧ ∃ p, pow b.config.multiplier b.attempt = some p ∧
      delay = (if b.config.jitter then uniform (min (b.config.base * p) b.config.cap)
        else min (b.config.base * p) b.config.cap) := by
  unfold nextDelay at h
  split at h
  · cases h
  · unfold uncapped at h
    cases hp : pow b.config.multiplier b.attempt with
    | none => simp [hp, Except.map] at h
    | some p =>
      simp only [hp, Except.map, Except.ok.injEq, Prod.mk.injEq] at h
      exact ⟨h.1.symm, p, rfl, h.2.symm⟩

end BackoffStrategy
end JetSocket
