import JetSocket.Manager.SetState
import Mathlib.Data.Finset.Card

/- The accounting of reconnections: `reconnect_count`, the event `reconnected`, and the calls of
   `_replay_on_reconnect`.

   Whether a success is a reconnection is read off `_attempt`, which counts the failures too.
   `Books` keeps a history beside the client: which tasks made a connection, announced it as a
   reconnection, and called the replay. Of the attempts begun, each success has one of its own
   (`Balanced`), so every success but the first is announced; the first one is announced too,
   unless it is the first attempt.

   Correspondence (Python ↔ Lean):
     `_MutableStats.mark_connected`, `mark_reconnected`
                                 ↔ `MutableStats.markConnected`, `markReconnected`
     `is_reconnect` and its branches in `_connect_internal`
                                 ↔ `MutableStats.connected`, `Client.replays`

   Results:
     `accounted_iff`        — the books are right in a run exactly when no attempt fails before
                              the first success.
     `late_success_counted` — a first connection that took two attempts counts as a
                              reconnection. -/
namespace JetSocket.Manager
open JetSocket.Transport TaskPool Transition

/-- `_MutableStats`: what the two marks of a success write, and nothing else changes. -/
structure MutableStats where
  reconnectCount : Nat
  firstConnectAt : Option ℚ
  lastReconnectAt : Option ℚ

namespace MutableStats

def new : MutableStats := { reconnectCount := 0, firstConnectAt := none, lastReconnectAt := none }

/-- `mark_connected`. -/
def markConnected (s : MutableStats) (now : ℚ) : MutableStats :=
  match s.firstConnectAt with
  | none => { s with firstConnectAt := some now }
  | some _ => s

/-- `mark_reconnected`. -/
def markReconnected (s : MutableStats) (now : ℚ) : MutableStats :=
  { s with reconnectCount := s.reconnectCount + 1, lastReconnectAt := some now }.markConnected now

/-- What `_connect_internal` marks behind a success. -/
def connected (s : MutableStats) (ws : WebSocket) : MutableStats :=
  if 1 < ws.attempt then s.markReconnected ws.now else s.markConnected ws.now

@[simp] theorem reconnectCount_markConnected (s : MutableStats) (now : ℚ) :
    (s.markConnected now).reconnectCount = s.reconnectCount := by
  unfold markConnected
  split <;> rfl

theorem reconnectCount_connected (s : MutableStats) (ws : WebSocket) :
    (s.connected ws).reconnectCount = s.reconnectCount + if 1 < ws.attempt then 1 else 0 := by
  unfold connected
  split
  · exact reconnectCount_markConnected _ _
  · exact reconnectCount_markConnected _ _

end MutableStats

/-- The task whose `transport.connect` succeeds. -/
def Action.success : Action → Option Nat
  | .attempt k .connected => some k
  | _ => none

/-- The task that calls `_replay_on_reconnect`. -/
def Client.replays (c : Client) : Action → Option Nat
  | .resume k =>
    match c.tasks[k]? with
    | some { point := .connectedEmit true, cancelled := false, .. } => some k
    | _ => none
  | _ => none

/-- The step from `c` to `c'` emits `reconnected`. -/
def emitsReconnected (c c' : Client) : Bool :=
  (c'.shared.emitted.drop c.shared.emitted.length).any (fun e => e.topic = .reconnected)

/-- A client with its statistics, and the tasks, in order, that made a connection, that
announced it by `reconnected`, and that called `_replay_on_reconnect`. -/
structure Books where
  client : Client
  stats : MutableStats
  successes : List Nat
  announced : List Nat
  replayed : List Nat

namespace Books

def init (settings : Settings) (backoff : BackoffConfig) : Books :=
  { client := Client.init settings backoff, stats := MutableStats.new, successes := [],
    announced := [], replayed := [] }

def step (b : Books) (a : Action) : Option Books :=
  (b.client.step a).map (fun c' =>
    { client := c'
      stats := if a.success.isSome then b.stats.connected b.client.shared else b.stats
      successes := b.successes ++ a.success.toList
      announced := b.announced ++
        if emitsReconnected b.client c' then (Client.actor a).toList else []
      replayed := b.replayed ++ (b.client.replays a).toList })

end Books

/-- Every success but the first counts, is announced once, and no other one is replayed. -/
structure Accounted (b : Books) : Prop where
  count : b.stats.reconnectCount = b.successes.length - 1
  announced : b.announced = b.successes.tail
  replayed : ∀ k ∈ b.replayed, k ∈ b.successes.tail

/-- The first success is that of the first attempt. -/
def FirstSucceeds (b : Books) (a : Action) : Prop :=
  a.success.isSome = true → b.successes = [] → b.client.shared.attempt ≤ 1

/-! ## Attempts under way -/

/-- The tasks that are in an attempt, and have no connection yet. -/
def attempting (c : Client) : Finset Nat :=
  (Finset.range c.tasks.length).filter (fun k =>
    (c.tasks[k]?).any (fun t => t.point.attempting))

section Steps
variable {c c' : Client} {a : Action} {k : Nat} {p q : Point}

theorem mem_attempting {j : Nat} :
    j ∈ attempting c ↔ ∃ t, c.tasks[j]? = some t ∧ t.point.attempting = true := by
  unfold attempting
  rw [Finset.mem_filter, Finset.mem_range, Option.any_eq_true]
  refine ⟨fun h => h.2, fun ⟨t, ht, hp⟩ => ⟨(List.getElem?_eq_some_iff.mp ht).1, t, ht, hp⟩⟩

/-- Whoever is in an attempt behind the step was in one, or is the task that moved. -/
theorem Told.attempting_cases (h : Told c c' a k p q) {j : Nat} (hj : j ∈ attempting c') :
    (j = k ∧ q.attempting = true) ∨ (j ≠ k ∧ j ∈ attempting c) := by
  obtain ⟨u, hu, hp⟩ := mem_attempting.mp hj
  rcases h.tasks j u hu with ⟨rfl, rfl⟩ | ⟨hne, v, hv, -, hpoint⟩ | ⟨-, hstart⟩
  · exact .inl ⟨rfl, hp⟩
  · exact .inr ⟨hne, mem_attempting.mpr ⟨v, hv, hpoint ▸ hp⟩⟩
  · generalize u.point = r at hp hstart
    cases r with
    | beatSleep | ageSleep | loopStart => cases hp
    | _ => cases hstart

/-- No attempt is begun or ended without being counted. -/
theorem Told.card_attempting (h : Told c c' a k p q) :
    (attempting c').card + c.shared.attempt ≤ (attempting c).card + c'.shared.attempt := by
  have hattempt : c'.shared.attempt =
      c.shared.attempt + if c.sets a = some .connecting then 1 else 0 := by
    rw [h.tells.attempt, Client.entry_attempt]
  by_cases hset : c.sets a = some .connecting
  · have hsub : attempting c' ⊆ insert k (attempting c) := by
      intro j hj
      rcases h.attempting_cases hj with ⟨rfl, -⟩ | ⟨-, hj⟩
      · exact Finset.mem_insert_self _ _
      · exact Finset.mem_insert_of_mem hj
    have hcard : (attempting c').card ≤ (attempting c).card + 1 :=
      (Finset.card_le_card hsub).trans (Finset.card_insert_le _ _)
    rw [if_pos hset] at hattempt
    omega
  · have hsub : attempting c' ⊆ attempting c := by
      intro j hj
      rcases h.attempting_cases hj with ⟨rfl, hq⟩ | ⟨-, hj⟩
      · -- the task that moved was in its attempt before
        have hp : p.attempting = true := (h.tells.attempting hq).resolve_right hset
        rcases h.actor with ⟨-, t, ht, rfl⟩ | ⟨-, -, rfl⟩
        · exact mem_attempting.mpr ⟨t, ht, hp⟩
        · cases hp
      · exact hj
    have hcard : (attempting c').card ≤ (attempting c).card := Finset.card_le_card hsub
    rw [if_neg hset] at hattempt
    omega

/-- A step that emits `reconnected`. -/
theorem Told.emits_iff (h : Told c c' a k p q) :
    emitsReconnected c c' = true ↔ q.topic = some .reconnected := by
  unfold emitsReconnected
  rcases h.tells.emitted with ⟨he, ht⟩ | ⟨e, he, ht⟩
  · rw [Client.entry_emitted] at he
    have ht : q.topic = none := ht
    rw [show c'.shared.emitted = c.shared.emitted from he, ht, List.drop_length]
    simp
  · rw [Client.entry_emitted] at he
    have ht : q.topic = some e.topic := ht
    rw [show c'.shared.emitted = c.shared.emitted ++ [e] from he, ht, List.drop_left]
    simp

theorem Point.reconnected_topic : p.topic = some .reconnected ↔ p = .reconnectedEmit := by
  cases p with
  | handling l stage => cases stage <;> exact ⟨fun h => (by cases h), fun h => (by cases h)⟩
  | reconnectedEmit => exact ⟨fun _ => rfl, fun _ => rfl⟩
  | _ => exact ⟨fun h => (by cases h), fun h => (by cases h)⟩

/-- Where the task that moved stands. -/
theorem Told.point (h : Told c c' a k p q) {t u : AsyncTask} (ht : c.tasks[k]? = some t)
    (hu : c'.tasks[k]? = some u) : u.point = q := by
  have hk : k < c.tasks.length := (List.getElem?_eq_some_iff.mp ht).1
  rcases h.tasks k u hu with ⟨-, hp⟩ | ⟨hne, -⟩ | ⟨hle, -⟩
  · exact hp
  · exact (hne rfl).elim
  · omega

/-- A success: its task leaves the attempt, and announces it as its number says. -/
theorem success_cases (hs : c.step (.attempt k .connected) = some c') :
    ∃ p q, Told c c' (.attempt k .connected) k p q ∧ k ∈ attempting c ∧ q.attempting = false ∧
      (q = .reconnectedEmit ↔ 1 < c.shared.attempt) := by
  obtain ⟨j, p, q, hd⟩ := step_told hs
  obtain rfl : k = j := by
    rcases hd.actor with ⟨ha, -⟩ | ⟨ha, -⟩
    · exact Option.some.inj ha
    · cases ha
  refine ⟨p, q, hd, ?_⟩
  obtain ⟨u, m, hu, -, hm, rfl⟩ := Client.reacts_of_step rfl (fun h => by cases h) hs
  have hk : k < c.tasks.length := (List.getElem?_eq_some_iff.mp hu).1
  obtain ⟨b, hb⟩ : ∃ b, (c.run k u.kind m).tasks[k]? = some ⟨u.kind, _, b⟩ :=
    Client.getElem?_run_self hk
  have hq : (AsyncTask.settle k u.kind m).point = q := hd.point hu hb
  obtain ⟨kind, point, cancelled⟩ := u
  dsimp only at hm hq
  cases hm with
  | connected _ l =>
    refine ⟨mem_attempting.mpr ⟨_, hu, rfl⟩, ?_⟩
    unfold WebSocket.connectReturned at hq
    split at hq
    · rename_i hlater
      rw [settle_eq (fun h => by cases h)] at hq
      subst hq
      exact ⟨rfl, fun _ => hlater, fun _ => rfl⟩
    · rename_i hfirst
      have hpoint : ∀ w : WebSocket, (w.established false).point = .connectedState false ∨
          (w.established false).point = .connectedEmit false := by
        intro w
        refine WebSocket.setState_cases (Q := fun m => m.point = .connectedState false ∨
          m.point = .connectedEmit false) (fun _ => .inr rfl) (fun _ => .inl rfl)
      rcases hpoint (c.shared.setLink l _) with hp | hp
      · rw [settle_eq (fun h => by cases hp.symm.trans h), hp] at hq
        subst hq
        exact ⟨rfl, fun h => (by cases h), fun h => (hfirst h).elim⟩
      · rw [settle_eq (fun h => by cases hp.symm.trans h), hp] at hq
        subst hq
        exact ⟨rfl, fun h => (by cases h), fun h => (hfirst h).elim⟩

/-- No other step comes to announce a reconnection. -/
theorem Told.not_reconnected (h : Told c c' a k p q) (hs : c.step a = some c')
    (ha : a.success = none) : q ≠ .reconnectedEmit := by
  intro hq
  obtain ⟨l, rfl⟩ := h.tells.reconnected hq
  obtain ⟨hactor, t, ht, hp⟩ : Client.actor a = some k ∧ ∃ t, c.tasks[k]? = some t ∧
      t.point = .handshaking l := by
    rcases h.actor with h | ⟨-, -, h⟩
    · exact h
    · cases h
  have hk : k < c.tasks.length := (List.getElem?_eq_some_iff.mp ht).1
  obtain ⟨u, hu, hstep⟩ := Client.step_of_actor hactor hs
  obtain rfl := Option.some.inj (hu.symm.trans ht)
  rcases hstep with ⟨-, -, hst, -⟩ | ⟨m, hm, rfl⟩
  · rw [hp] at hst
    cases hst
  · -- what it raised is not caught, or its error is announced
    have hfailed : ∀ (w : WebSocket) (e : Exc),
        (AsyncTask.settle k u.kind (w.connectFailed e)).point ≠ .reconnectedEmit := by
      intro w e
      unfold WebSocket.connectFailed
      split
      · rw [settle_eq (fun h => by cases h)]
        exact fun h => (by cases h)
      · intro h
        have hended : (AsyncTask.settle k u.kind w.raise).point.ended = true :=
          ended_settle_raise
        rw [h] at hended
        cases hended
    have hend : ∀ (w : WebSocket),
        (AsyncTask.settle k u.kind w.finish).point ≠ .reconnectedEmit := by
      intro w
      rw [settle_eq (fun h => by cases h)]
      exact fun h => (by cases h)
    have hself : (AsyncTask.settle k u.kind m).point = .reconnectedEmit := by
      obtain ⟨b, hb⟩ : ∃ b, (c.run k u.kind m).tasks[k]? = some ⟨u.kind, _, b⟩ :=
        Client.getElem?_run_self hk
      exact (h.point hu hb).trans hq
    cases hm with
    | cancelled => exact hend _ hself
    | resumed _ _ hm =>
      rw [hp] at hm
      cases hm
    | awaited hw =>
      rw [hp] at hw
      cases hw
    | reacts _ _ hm =>
      rw [hp] at hm
      cases hm with
      | connected => cases ha
      | aborted | refused => exact hfailed _ _ hself

/-! ## The books -/

/-- Every success had an attempt of its own, and so has every task that is in one; and who has
a connection that is a reconnection has announced it. -/
structure Balanced (b : Books) : Prop where
  tries : b.successes.length + (attempting b.client).card ≤ b.client.shared.attempt
  again : ∀ (k : Nat) (t : AsyncTask), b.client.tasks[k]? = some t → t.point.again = true →
    k ∈ b.announced

section Books
variable {b b' : Books}

/-- Who announces the reconnection: a task comes to `reconnectedEmit` in the step that emits. -/
theorem Told.again_announced (h : Told c c' a k p q) {xs : List Nat}
    (hagain : ∀ (j : Nat) (t : AsyncTask), c.tasks[j]? = some t → t.point.again = true → j ∈ xs)
    {j : Nat} {u : AsyncTask} (hu : c'.tasks[j]? = some u) (hp : u.point.again = true) :
    j ∈ xs ++ if emitsReconnected c c' then (Client.actor a).toList else [] := by
  rcases h.tasks j u hu with ⟨rfl, rfl⟩ | ⟨-, v, hv, -, hpoint⟩ | ⟨-, hstart⟩
  · rcases h.actor with ⟨hactor, t, ht, rfl⟩ | ⟨-, -, rfl⟩
    · rcases h.tells.again hp with hagain' | ⟨-, hq⟩
      · exact List.mem_append_left _ (hagain _ t ht hagain')
      · have hq : u.point = .reconnectedEmit := hq
        rw [if_pos (h.emits_iff.mpr (Point.reconnected_topic.mpr hq)), hactor]
        exact List.mem_append_right _ (List.mem_singleton_self _)
    · rcases h.tells.again hp with hagain' | ⟨-, hq⟩
      · cases hagain'
      · obtain ⟨l, hl⟩ := h.tells.reconnected hq
        cases hl
  · exact List.mem_append_left _ (hagain j v hv (hpoint ▸ hp))
  · generalize u.point = r at hp hstart
    cases r with
    | beatSleep | ageSleep | loopStart => cases hp
    | _ => cases hstart

/-- The invariant. -/
theorem Balanced.step (h : Balanced b) (hs : b.step a = some b') : Balanced b' := by
  obtain ⟨c', hc, rfl⟩ := Option.map_eq_some_iff.mp hs
  obtain ⟨k, p, q, hd⟩ := step_told hc
  refine ⟨?_, fun j u hu hp => hd.again_announced h.again hu hp⟩
  have htries := h.tries
  have hcard := hd.card_attempting
  dsimp only
  rw [List.length_append]
  cases hsucc : a.success with
  | none =>
    rw [Option.toList_none, List.length_nil]
    omega
  | some i =>
    obtain rfl : a = .attempt i .connected := by
      unfold Action.success at hsucc
      split at hsucc
      · rw [Option.some.inj hsucc]
      · cases hsucc
    -- its attempt is over, and counted for the success
    obtain ⟨p, q, hd, hin, hq, -⟩ := success_cases hc
    have hsub : attempting c' ⊆ (attempting b.client).erase i := by
      intro j hj
      rcases hd.attempting_cases hj with ⟨-, hqa⟩ | ⟨hne, hj⟩
      · rw [hq] at hqa
        cases hqa
      · exact Finset.mem_erase.mpr ⟨hne, hj⟩
    have hless : (attempting c').card + 1 ≤ (attempting b.client).card := by
      have herase := Finset.card_erase_of_mem hin
      have hpos : 0 < (attempting b.client).card := Finset.card_pos.mpr ⟨i, hin⟩
      have hle := Finset.card_le_card hsub
      omega
    have hattempt : b.client.shared.attempt ≤ c'.shared.attempt := by
      rw [hd.tells.attempt, Client.entry_attempt]
      exact Nat.le_add_right _ _
    rw [Option.toList_some, List.length_singleton]
    omega

/-- A step without a success announces nothing. -/
theorem Accounted.other (h : Accounted b) (hb : Balanced b) (hs : b.step a = some b')
    (ha : a.success = none) : Accounted b' := by
  obtain ⟨c', hc, rfl⟩ := Option.map_eq_some_iff.mp hs
  obtain ⟨k, p, q, hd⟩ := step_told hc
  have hquiet : emitsReconnected b.client c' = false := by
    by_contra hemits
    refine hd.not_reconnected hc ha (Point.reconnected_topic.mp (hd.emits_iff.mp ?_))
    simpa using hemits
  refine ⟨?_, ?_, ?_⟩
  · simpa [ha] using h.count
  · simpa [ha, hquiet] using h.announced
  · -- who replays has announced
    simp only [ha, Option.toList_none, List.append_nil]
    intro j hj
    rcases List.mem_append.mp hj with hj | hj
    · exact h.replayed j hj
    · have hj : b.client.replays a = some j := by simpa using hj
      unfold Client.replays at hj
      split at hj
      · split at hj
        · rename_i i _ _ ht
          obtain rfl := Option.some.inj hj
          rw [← h.announced]
          exact hb.again _ _ ht rfl
        · cases hj
      · cases hj

/-- The books behind a success. -/
theorem success_books {c' : Client} {k : Nat} (hc : b.client.step (.attempt k .connected) = some c')
    {b' : Books} (hs : b.step (.attempt k .connected) = some b') :
    b'.successes = b.successes ++ [k] ∧ b'.replayed = b.replayed ∧
      b'.stats.reconnectCount =
        b.stats.reconnectCount + (if 1 < b.client.shared.attempt then 1 else 0) ∧
      b'.announced = b.announced ++ if 1 < b.client.shared.attempt then [k] else [] := by
  obtain ⟨d, hd, rfl⟩ := Option.map_eq_some_iff.mp hs
  obtain rfl : c' = d := Option.some.inj (hc.symm.trans hd)
  obtain ⟨p, q, hd, -, -, hq⟩ := success_cases hc
  have hemits : emitsReconnected b.client c' = true ↔ 1 < b.client.shared.attempt :=
    hd.emits_iff.trans (Point.reconnected_topic.trans hq)
  refine ⟨rfl, List.append_nil _, MutableStats.reconnectCount_connected _ _, ?_⟩
  by_cases hlate : 1 < b.client.shared.attempt
  · rw [if_pos hlate]
    dsimp only
    rw [if_pos (hemits.mpr hlate)]
    rfl
  · rw [if_neg hlate]
    dsimp only
    rw [if_neg (fun h => hlate (hemits.mp h))]

/-- A success. -/
theorem Accounted.success (h : Accounted b) (hb : Balanced b) {k : Nat}
    (hs : b.step (.attempt k .connected) = some b') :
    Accounted b' ↔ FirstSucceeds b (.attempt k .connected) := by
  obtain ⟨c', hc, -⟩ := Option.map_eq_some_iff.mp hs
  obtain ⟨hsuccesses, hreplayed, hcount, hannounced⟩ := success_books hc hs
  obtain ⟨-, -, -, hin, -⟩ := success_cases hc
  rw [h.count] at hcount
  rw [h.announced] at hannounced
  cases hxs : b.successes with
  | nil =>
    -- the first one: it is announced unless it is the first attempt
    rw [hxs] at hsuccesses hcount hannounced
    by_cases hlate : 1 < b.client.shared.attempt
    · rw [if_pos hlate] at hannounced
      constructor
      · intro hacc
        have hempty := hacc.announced
        rw [hsuccesses, hannounced] at hempty
        cases hempty
      · intro hone
        exact absurd (hone rfl hxs) (by omega)
    · rw [if_neg hlate] at hcount hannounced
      refine ⟨fun _ _ _ => by omega, fun _ => ⟨?_, ?_, fun j hj => ?_⟩⟩
      · rw [hcount, hsuccesses]
        rfl
      · rw [hannounced, hsuccesses]
        rfl
      · rw [hreplayed] at hj
        have hold := h.replayed j hj
        rw [hxs] at hold
        cases hold
  | cons x xs =>
    -- a later one: its attempt is not the first
    have hpos : 0 < (attempting b.client).card := Finset.card_pos.mpr ⟨k, hin⟩
    have htries := hb.tries
    rw [hxs] at hsuccesses hcount hannounced htries
    have hlate : 1 < b.client.shared.attempt := by
      rw [List.length_cons] at htries
      omega
    rw [if_pos hlate] at hcount hannounced
    refine ⟨fun _ _ hnil => ?_, fun _ => ⟨?_, ?_, fun j hj => ?_⟩⟩
    · rw [hxs] at hnil
      cases hnil
    · rw [hcount, hsuccesses]
      simp
    · rw [hannounced, hsuccesses]
      rfl
    · rw [hreplayed] at hj
      have hold := h.replayed j hj
      rw [hxs] at hold
      rw [hsuccesses]
      exact List.mem_append_left _ hold

theorem accounted_step (hb : Balanced b) (h : Accounted b) (hs : b.step a = some b') :
    Accounted b' ↔ FirstSucceeds b a := by
  cases hsucc : a.success with
  | none =>
    refine ⟨fun _ hsome => ?_, fun _ => h.other hb hs hsucc⟩
    rw [hsucc] at hsome
    cases hsome
  | some k =>
    obtain rfl : a = .attempt k .connected := by
      unfold Action.success at hsucc
      split at hsucc
      · rw [Option.some.inj hsucc]
      · cases hsucc
    exact h.success hb hs

end Books
end Steps

theorem balanced_init (settings : Settings) (backoff : BackoffConfig) :
    Balanced (Books.init settings backoff) := by
  refine ⟨?_, fun k t ht => (by cases ht)⟩
  have hnone : attempting (Client.init settings backoff) = ∅ := rfl
  show 0 + (attempting (Client.init settings backoff)).card ≤ 0
  rw [hnone, Finset.card_empty]

/-- **The books are right** in a run exactly when the first attempt that succeeds is the first
attempt. -/
theorem accounted_iff (settings : Settings) (backoff : BackoffConfig) (as : List Action) :
    Always Books.step Accounted (Books.init settings backoff) as ↔
      Meets Books.step FirstSucceeds (Books.init settings backoff) as :=
  always_iff_meets_of_inv (I := Balanced) (fun _ _ _ hb hs => hb.step hs)
    (fun _ _ _ hb h hs => accounted_step hb h hs) as (balanced_init settings backoff)
    ⟨rfl, rfl, fun _ h => (by cases h)⟩

/-- The first attempt fails, the second one succeeds. -/
def lateSuccessRun : List Action :=
  retryRun ++ [.resume 0, .resume 0, .resume 0, .resume 0, .resume 0, .resume 0, .opened 0,
    .attempt 0 .connected]

/-- The one connection counts as a reconnection. -/
theorem late_success_counted :
    ¬ Always Books.step Accounted (Books.init plainSettings plainBackoff) lateSuccessRun := by
  intro h
  have hend : exec Books.step (Books.init plainSettings plainBackoff) lateSuccessRun = some _ := rfl
  have haccounted : Accounted _ := h.last hend
  cases haccounted.count

end JetSocket.Manager
