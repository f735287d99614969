import JetSocket.Backoff
import Mathlib.Algebra.Order.Field.Rat

/- The delays of a backoff strategy over the whole of its life (`backoff.py`): calls of
   `next_delay`, `peek_delay`, `success`, `maybe_reset` and `reset` in any order, the powers
   taken over exact rationals. A stretch is what lies between two moments at which the
   attempt counter is set to 0; `extend` keeps the delays of the one that is under way.

   Correspondence (Python ↔ Lean):
     `random.random()`, `random.uniform` ↔ `Draw`, `Draw.uniform`
     the five methods, as called         ↔ `Call`, `call`
     what they return or raise           ↔ `Answer`

   What is proved:
     1. `Kept.call` — the counter is the number of delays of the stretch, and each delay is
        the one that is due, or is drawn below it.
     2. `due_le_due`, `base_le_due`, `due_le_cap` — what is due grows, between the base and
        the cap.
     3. `delays_eq_of_draws` — until the counter is set to 0, the delays depend on the calls
        of `next_delay` and their draws alone.
     4. `backoff_schedule` — all of it, for every sequence of calls. -/
namespace JetSocket

/-- A result of `random.random()`. -/
structure Draw where
  value : ℚ
  nonneg : 0 ≤ value
  lt_one : value < 1

/-- `random.uniform`. -/
def Draw.uniform (r : Draw) (a b : ℚ) : ℚ := a + (b - a) * r.value

theorem Draw.uniform_mem (r : Draw) {d : ℚ} (hd : 0 ≤ d) :
    0 ≤ r.uniform 0 d ∧ r.uniform 0 d ≤ d := by
  have heq : r.uniform 0 d = d * r.value := by
    unfold Draw.uniform
    rw [sub_zero, zero_add]
  rw [heq]
  exact ⟨mul_nonneg hd r.nonneg, mul_le_of_le_one_right hd r.lt_one.le⟩

namespace BackoffConfig

/-- The delay of attempt `k`, counted from 0. -/
def due (config : BackoffConfig) (k : Nat) : ℚ :=
  min (config.base * config.multiplier ^ k) config.cap

variable (config : BackoffConfig)

theorem base_le_due (k : Nat) : config.base ≤ config.due k := by
  apply le_min _ config.base_le_cap
  exact le_mul_of_one_le_right config.base_pos.le (one_le_pow₀ config.one_le_multiplier)

theorem due_le_cap (k : Nat) : config.due k ≤ config.cap := min_le_right _ _

theorem due_le_due {j k : Nat} (h : j ≤ k) : config.due j ≤ config.due k := by
  apply min_le_min_right
  apply mul_le_mul_of_nonneg_left _ config.base_pos.le
  exact pow_le_pow_right₀ config.one_le_multiplier h

theorem due_nonneg (k : Nat) : 0 ≤ config.due k :=
  config.base_pos.le.trans (config.base_le_due k)

/-- `delay` is one that attempt `k` may return. -/
def Allows (k : Nat) (delay : ℚ) : Prop :=
  if config.jitter then 0 ≤ delay ∧ delay ≤ config.due k else delay = config.due k

end BackoffConfig

namespace BackoffStrategy

/-- `**` over exact rationals. -/
def exactPow : FloatPow := fun base n => some (base ^ n)

inductive Call where
  | nextDelay (draw : Draw)
  | peekDelay
  | success (now : ℚ)
  | maybeReset (now : ℚ)
  | reset

/-- What a call returns, or raises. -/
inductive Answer where
  | delay (d : ℚ)
  | peeked (d : ℚ)
  | reset (done : Bool)
  | nothing
  | raised (e : Exc)

/-- One call. -/
def call (b : BackoffStrategy) : Call → BackoffStrategy × Answer
  | .nextDelay draw =>
    match b.nextDelay exactPow (draw.uniform 0) with
    | .ok (b', d) => (b', .delay d)
    | .error e => (b, .raised e)
  | .peekDelay =>
    match b.peekDelay exactPow with
    | .ok d => (b, .peeked d)
    | .error e => (b, .raised e)
  | .success now => (b.success now, .nothing)
  | .maybeReset now => ((b.maybeReset now).1, .reset (b.maybeReset now).2)
  | .reset => (b.reset, .nothing)

/-- The call has set the counter to 0. -/
def zeroes : Call → Answer → Bool
  | .reset, _ => true
  | .maybeReset _, .reset done => done
  | _, _ => false

/-- The delays of the stretch, with what the call adds to them. -/
def extend (delays : List ℚ) (c : Call) (a : Answer) : List ℚ :=
  if zeroes c a then [] else
    match a with
    | .delay d => delays ++ [d]
    | _ => delays

/-- The strategy and the delays of its stretch, after one more call. -/
def play (s : BackoffStrategy × List ℚ) (c : Call) : BackoffStrategy × List ℚ :=
  ((s.1.call c).1, extend s.2 c (s.1.call c).2)

/-- A new strategy, after these calls. -/
def history (config : BackoffConfig) (calls : List Call) : BackoffStrategy × List ℚ :=
  calls.foldl play (new config, [])

/-- The text of the error. -/
def exhaustedError (config : BackoffConfig) : Exc :=
  .runtimeError s!"Max attempts ({config.maxAttempts}) exhausted"

/-! ## One call -/

section Calls
variable {b : BackoffStrategy}

theorem exhausted_iff : b.exhausted = true ↔
    0 < b.config.maxAttempts ∧ b.config.maxAttempts ≤ b.attempt := by
  unfold exhausted
  by_cases h : b.config.maxAttempts = 0
  · simp [h]
  · rw [if_neg h, decide_eq_true_iff]
    omega

theorem uncapped_exact (b : BackoffStrategy) :
    b.uncapped exactPow = .ok (b.config.due b.attempt) := rfl

/-- What `next_delay` returns while there are attempts left. -/
theorem call_nextDelay (h : b.exhausted = false) (draw : Draw) :
    b.call (.nextDelay draw) = ({ b with attempt := b.attempt + 1 },
      .delay (if b.config.jitter then draw.uniform 0 (b.config.due b.attempt)
        else b.config.due b.attempt)) := by
  simp only [call, nextDelay, h, uncapped_exact, Except.map, Bool.false_eq_true, if_false]

/-- Afterwards it raises. -/
theorem call_exhausted (h : b.exhausted = true) (draw : Draw) :
    b.call (.nextDelay draw) = (b, .raised (exhaustedError b.config)) := by
  simp only [call, nextDelay, h, if_true]
  rfl

theorem call_peekDelay (b : BackoffStrategy) : (b.call .peekDelay).1 = b ∧
    zeroes .peekDelay (b.call .peekDelay).2 = false ∧
    ∀ delays, extend delays .peekDelay (b.call .peekDelay).2 = delays := by
  simp [call, peekDelay, uncapped_exact, Except.map, extend, zeroes]

/-- What `maybe_reset` does: set the counter to 0 and say so, or nothing. -/
theorem maybeReset_cases (b : BackoffStrategy) (now : ℚ) :
    b.maybeReset now = ({ b with attempt := 0 }, true) ∨ b.maybeReset now = (b, false) := by
  unfold maybeReset
  cases b.lastSuccess with
  | none => exact .inr rfl
  | some t =>
    by_cases h : b.config.resetAfter ≤ now - t
    · exact .inl (if_pos h)
    · exact .inr (if_neg h)

theorem call_config (b : BackoffStrategy) (c : Call) : (b.call c).1.config = b.config := by
  cases c with
  | nextDelay draw =>
    cases h : b.exhausted with
    | true => rw [call_exhausted h]
    | false => rw [call_nextDelay h]
  | peekDelay => rw [b.call_peekDelay.1]
  | success now => rfl
  | maybeReset now =>
    show (b.maybeReset now).1.config = b.config
    obtain h | h := b.maybeReset_cases now
    · rw [h]
    · rw [h]
  | reset => rfl

end Calls

/-! ## The stretch that is under way -/

/-- The counter is the number of the delays, and each was allowed. -/
structure Kept (config : BackoffConfig) (s : BackoffStrategy × List ℚ) : Prop where
  setup : s.1.config = config
  attempt : s.1.attempt = s.2.length
  allowed : ∀ k d, s.2[k]? = some d → config.Allows k d
  bounded : 0 < config.maxAttempts → s.2.length ≤ config.maxAttempts

section Kept
variable {config : BackoffConfig} {s : BackoffStrategy × List ℚ}

theorem kept_new (config : BackoffConfig) : Kept config (new config, []) where
  setup := rfl
  attempt := rfl
  allowed k d h := by simp at h
  bounded _ := Nat.zero_le _

/-- A new stretch. -/
theorem kept_nil {b : BackoffStrategy} (hc : b.config = config) (ha : b.attempt = 0) :
    Kept config (b, []) :=
  ⟨hc, ha, fun k d h => by simp at h, fun _ => Nat.zero_le _⟩

/-- The delay that `next_delay` returns is allowed. -/
theorem allows_draw (config : BackoffConfig) (k : Nat) (draw : Draw) :
    config.Allows k (if config.jitter then draw.uniform 0 (config.due k) else config.due k) := by
  unfold BackoffConfig.Allows
  split
  · exact draw.uniform_mem (config.due_nonneg k)
  · rfl

theorem Kept.exhausted_iff (h : Kept config s) : s.1.exhausted = true ↔
    0 < config.maxAttempts ∧ s.2.length = config.maxAttempts := by
  rw [BackoffStrategy.exhausted_iff, h.setup, h.attempt]
  have hbounded := h.bounded
  omega

/-- One more delay. -/
theorem Kept.nextDelay (h : Kept config s) (draw : Draw) :
    Kept config (play s (.nextDelay draw)) := by
  unfold play
  cases hex : s.1.exhausted with
  | true =>
    rw [call_exhausted hex]
    exact h
  | false =>
    have hroom : ¬ (0 < config.maxAttempts ∧ s.2.length = config.maxAttempts) := by
      rw [← h.exhausted_iff, hex]
      decide
    rw [call_nextDelay hex, h.setup, h.attempt]
    refine ⟨rfl, ?_, fun k d hk => ?_, fun hN => ?_⟩
    · show s.2.length + 1 = (s.2 ++ [_]).length
      rw [List.length_append, List.length_singleton]
    · -- an earlier delay, or the one that is returned
      replace hk : (s.2 ++ [_])[k]? = some d := hk
      rw [List.getElem?_append] at hk
      split at hk
      · exact h.allowed k d hk
      · next hlt =>
        have hlast : k = s.2.length := by
          have hsome : k - s.2.length < 1 := (List.getElem?_eq_some_iff.mp hk).1
          omega
        rw [hlast, Nat.sub_self, List.getElem?_cons_zero] at hk
        rw [hlast, ← Option.some.inj hk]
        exact allows_draw config _ draw
    · show (s.2 ++ [_]).length ≤ config.maxAttempts
      rw [List.length_append, List.length_singleton]
      have hbounded := h.bounded hN
      omega

/-- **One call.** -/
theorem Kept.call (h : Kept config s) (c : Call) : Kept config (play s c) := by
  cases c with
  | nextDelay draw => exact h.nextDelay draw
  | peekDelay =>
    have hpeek := s.1.call_peekDelay
    unfold play
    rw [hpeek.1, hpeek.2.2]
    exact h
  | success now => exact ⟨h.setup, h.attempt, h.allowed, h.bounded⟩
  | maybeReset now =>
    unfold play
    simp only [BackoffStrategy.call]
    obtain hreset | hsame := s.1.maybeReset_cases now
    · rw [hreset]
      exact kept_nil h.setup rfl
    · rw [hsame]
      exact h
  | reset => exact kept_nil h.setup rfl

theorem kept_history (config : BackoffConfig) (calls : List Call) :
    Kept config (history config calls) := by
  unfold history
  -- The induction goes on from any strategy that is kept, not from a new one.
  generalize hs : (new config, ([] : List ℚ)) = s
  have h : Kept config s := hs ▸ kept_new config
  clear hs
  induction calls generalizing s with
  | nil => exact h
  | cons c calls ih => exact ih _ (h.call c)

/-- Without jitter the delays are those that are due. -/
theorem Kept.delays (h : Kept config s) (hj : config.jitter = false) :
    s.2 = (List.range s.2.length).map config.due := by
  apply List.ext_getElem?
  intro k
  by_cases hk : k < s.2.length
  · have hallowed := h.allowed k _ (List.getElem?_eq_getElem hk)
    unfold BackoffConfig.Allows at hallowed
    rw [if_neg (by rw [hj]; decide)] at hallowed
    rw [List.getElem?_eq_getElem hk, hallowed, List.getElem?_map, List.getElem?_range hk]
    rfl
  · rw [List.getElem?_eq_none (by omega), List.getElem?_eq_none (by simpa using hk)]

end Kept

/-! ## What the delays depend on -/

/-- The answers to the calls of `next_delay`. -/
def delays : BackoffStrategy → List Call → List Answer
  | _, [] => []
  | b, .nextDelay draw :: calls =>
    (b.call (.nextDelay draw)).2 :: delays (b.call (.nextDelay draw)).1 calls
  | b, c :: calls => delays (b.call c).1 calls

/-- None of the calls sets the counter to 0. -/
def Unreset : BackoffStrategy → List Call → Prop
  | _, [] => True
  | b, c :: calls => zeroes c (b.call c).2 = false ∧ Unreset (b.call c).1 calls

/-- The draws of the calls of `next_delay`. -/
def draws : List Call → List Draw
  | [] => []
  | .nextDelay draw :: calls => draw :: draws calls
  | _ :: calls => draws calls

/-- `peek_delay` and `success`. -/
def Call.quiet : Call → Bool
  | .peekDelay | .success _ => true
  | _ => false

theorem draws_filter (calls : List Call) : draws (calls.filter (!·.quiet)) = draws calls := by
  induction calls with
  | nil => rfl
  | cons c calls ih =>
    cases c with
    | nextDelay draw => exact congrArg (draw :: ·) ih
    | peekDelay | success | maybeReset | reset => exact ih

/-- What the counter is at decides what the calls return. -/
theorem call_nextDelay_congr {b u : BackoffStrategy} (hc : b.config = u.config)
    (ha : b.attempt = u.attempt) (draw : Draw) :
    (b.call (.nextDelay draw)).2 = (u.call (.nextDelay draw)).2 ∧
      (b.call (.nextDelay draw)).1.attempt = (u.call (.nextDelay draw)).1.attempt := by
  have hex : b.exhausted = u.exhausted := by
    unfold exhausted
    rw [hc, ha]
  cases h : u.exhausted with
  | true =>
    rw [call_exhausted (hex.trans h), call_exhausted h, hc]
    exact ⟨rfl, ha⟩
  | false =>
    rw [call_nextDelay (hex.trans h), call_nextDelay h, hc, ha]
    exact ⟨rfl, rfl⟩

/-- Any other call that does not set the counter to 0 leaves it alone. -/
theorem call_attempt {b : BackoffStrategy} {c : Call} (hc : ∀ draw, c ≠ .nextDelay draw)
    (hz : zeroes c (b.call c).2 = false) : (b.call c).1.attempt = b.attempt := by
  cases c with
  | nextDelay draw => exact absurd rfl (hc draw)
  | peekDelay => rw [b.call_peekDelay.1]
  | success now => rfl
  | maybeReset now =>
    obtain h | h := b.maybeReset_cases now
    · replace hz : (b.maybeReset now).2 = false := hz
      rw [h] at hz
      cases hz
    · show (b.maybeReset now).1.attempt = b.attempt
      rw [h]
  | reset => cases hz

/-- The answers, from the counter and the draws. -/
def dueAnswers (config : BackoffConfig) : Nat → List Draw → List Answer
  | _, [] => []
  | attempt, draw :: more =>
    let b : BackoffStrategy := { config, attempt, lastSuccess := none }
    (b.call (.nextDelay draw)).2 :: dueAnswers config (b.call (.nextDelay draw)).1.attempt more

/-- **Until the counter is set to 0**, only `next_delay` counts. -/
theorem delays_eq_of_draws {b : BackoffStrategy} {calls : List Call} (h : Unreset b calls) :
    delays b calls = dueAnswers b.config b.attempt (draws calls) := by
  induction calls generalizing b with
  | nil => rfl
  | cons c calls ih =>
    obtain ⟨hzero, hmore⟩ := h
    have hrest := ih hmore
    rw [call_config] at hrest
    cases c with
    | nextDelay draw =>
      obtain ⟨hanswer, hattempt⟩ := call_nextDelay_congr (b := b)
        (u := { config := b.config, attempt := b.attempt, lastSuccess := none }) rfl rfl draw
      show _ :: delays _ calls = _ :: dueAnswers _ _ (draws calls)
      rw [hrest, hanswer, hattempt]
    | peekDelay | success | maybeReset | reset =>
      -- no delay is returned, and the counter stays
      rw [call_attempt (fun _ h => by cases h) hzero] at hrest
      exact hrest

/-- **The backoff schedule.** For every configuration and every sequence of calls, the stretch
that is under way is the one that is due, or drawn below it; without jitter it stays between the
base and the cap and never decreases; with a limit, that many calls succeed, and those behind
them raise and change nothing; and calls of `peek_delay` and `success` more or less make no
difference until the counter is set to 0. -/
theorem backoff_schedule (config : BackoffConfig) (calls : List Call) :
    let s := history config calls
    (∀ k d, s.2[k]? = some d → config.Allows k d) ∧
    (config.jitter = false → s.2.Pairwise (· ≤ ·) ∧
      ∀ d ∈ s.2, config.base ≤ d ∧ d ≤ config.cap) ∧
    (config.maxAttempts = 0 → ∀ draw, ∃ d, (s.1.call (.nextDelay draw)).2 = .delay d) ∧
    (0 < config.maxAttempts → s.2.length ≤ config.maxAttempts ∧ ∀ draw,
      (s.2.length < config.maxAttempts → ∃ d, (s.1.call (.nextDelay draw)).2 = .delay d) ∧
      (s.2.length = config.maxAttempts →
        s.1.call (.nextDelay draw) = (s.1, .raised (exhaustedError config)))) ∧
    (∀ later later' : List Call, later.filter (!·.quiet) = later'.filter (!·.quiet) →
      Unreset s.1 later → Unreset s.1 later' → delays s.1 later = delays s.1 later') := by
  intro s
  have hs : Kept config s := kept_history config calls
  have hsucceeds : s.1.exhausted = false → ∀ draw, ∃ d,
      (s.1.call (.nextDelay draw)).2 = .delay d := by
    intro hex draw
    exact ⟨_, congrArg Prod.snd (call_nextDelay hex draw)⟩
  have hroom : ¬ (0 < config.maxAttempts ∧ s.2.length = config.maxAttempts) →
      s.1.exhausted = false := by
    intro h
    rwa [← hs.exhausted_iff, Bool.not_eq_true] at h
  refine ⟨hs.allowed, fun hj => ?_, fun hN => ?_, fun hN => ⟨hs.bounded hN, fun draw => ?_⟩, ?_⟩
  · rw [hs.delays hj]
    constructor
    · rw [List.pairwise_map]
      exact List.pairwise_lt_range.imp (fun h => config.due_le_due h.le)
    · intro d hd
      obtain ⟨k, -, rfl⟩ := List.mem_map.mp hd
      exact ⟨config.base_le_due k, config.due_le_cap k⟩
  · exact hsucceeds (hroom (by omega))
  · constructor
    · intro hlt
      exact hsucceeds (hroom (by omega)) draw
    · intro hlength
      rw [call_exhausted (hs.exhausted_iff.mpr ⟨hN, hlength⟩), hs.setup]
  · intro later later' hsame hlater hlater'
    calc delays s.1 later
        = dueAnswers s.1.config s.1.attempt (draws later) := delays_eq_of_draws hlater
      _ = dueAnswers s.1.config s.1.attempt (draws later') := by
          rw [← draws_filter later, hsame, draws_filter]
      _ = delays s.1 later' := (delays_eq_of_draws hlater').symm

end BackoffStrategy
end JetSocket
