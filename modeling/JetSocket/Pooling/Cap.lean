import JetSocket.Pooling.Leases

/- The bound on open connections.

   A permit bounds the leases. An idle connection has none, and an acquire for another URI opens a
   connection beside it: nothing is closed to make room.

   What is proved:
     `capped` — the open connections, leased and idle, are at most `max_connections`, where a
                connection is opened only if fewer are idle, or being opened, than permits are free
                or held by acquires. -/
namespace JetSocket.Pooling
open ResourcePool Transition

namespace Pool

/-- Idle connections that are open. -/
def openIdle (p : Pool) : Nat :=
  p.shared.listed.countP (fun c => !p.shared.inUse c && !(p.shared.manager c).isTerminal)

/-- Leased connections that are open. -/
def openLeased (p : Pool) : Nat :=
  p.shared.leases.countP (fun l => !l.givenBack && !(p.shared.manager l.state).isTerminal)

/-- Connections that acquires are opening. -/
def opening (p : Pool) : Nat := p.tasks.countP (fun t => t.point.opening.isSome)

/-- A connection is opened. -/
def opens (p : Pool) (i : Input) : Bool :=
  (p.step i).any (fun p' => p.shared.states.length < p'.shared.states.length)

/-- Fewer connections are idle, or being opened, than permits are free or held by acquires. -/
def room (p : Pool) : Bool := p.openIdle + p.opening < p.shared.semaphore.value + p.holding

end Pool

/-- At most `n` connections are open, leased and idle. -/
def Capped (n : Nat) (p : Pool) : Prop := p.openLeased + p.openIdle ≤ n

theorem card_opening (p : Pool) : p.books.opening.card = p.opening := by
  show (p.points.filterMap Point.opening).card = _
  unfold Pool.points Pool.opening
  rw [Multiset.map_coe, Multiset.filterMap_coe, Multiset.coe_card]
  generalize p.tasks = ts
  induction ts with
  | nil => rfl
  | cons t ts ih =>
    rw [List.map_cons, List.filterMap_cons, List.countP_cons, ← ih]
    cases t.point.opening <;> rfl

theorem card_idle (p : Pool) (h : p.books.Known) : p.books.idle.card = p.openIdle := by
  classical
  unfold ResourcePool.idle Pool.openIdle
  rw [← Multiset.countP_eq_card_filter]
  show Multiset.countP _ (p.shared.listed : Multiset Nat) = _
  rw [Multiset.coe_countP]
  refine List.countP_congr (fun c hc => ?_)
  have hknown : c < p.shared.states.length := h.listed_known c (Multiset.mem_coe.mpr hc)
  rw [decide_eq_true_iff, Bool.and_eq_true, Bool.not_eq_true', Bool.not_eq_true']
  refine and_congr ?_ ?_
  · show ¬ p.shared.inUse c = true ↔ _
    rw [Bool.not_eq_true]
  · show ¬ (c < p.shared.states.length ∧ (p.shared.manager c).isTerminal = true) ↔ _
    rw [not_and, Bool.not_eq_true]
    exact ⟨fun h => h hknown, fun h _ => h⟩

theorem openLeased_le (p : Pool) : p.openLeased ≤ p.live :=
  List.countP_mono_left (fun l _ hl => by
    rw [Bool.and_eq_true] at hl
    exact hl.1)

/-- **The cap**, where a connection is opened only if there is room for it, no lease is given back
again, and no WebSocket leaves a terminal state. -/
theorem capped (config : ConnectionPoolConfig) (is : List Input)
    (h : Meets Pool.step (fun p i => (p.opens i = true → p.room = true) ∧ p.again i = false ∧
      p.revives i = false) (Pool.init config) is) :
    Always Pool.step (Capped config.maxConnections) (Pool.init config) is := by
  have hinv : Always Pool.step (fun p => p.books.Exclusive ∧
      p.books.spare + p.books.held.card ≤ config.maxConnections ∧
      p.books.Within config.maxConnections) (Pool.init config) is := by
    refine always_of_meets ?_ ⟨exclusive_init config, ?_, ?_⟩ h
    · rintro p i p' ⟨hexcl, hspare, hwithin⟩ ⟨hroom, hagain, hrevives⟩ hstep
      obtain ⟨e, hbooks, hentry⟩ := books_step hexcl.toKnown hstep
      have hne : e ≠ .again := fun he => by
        rw [hentry.again.mp he] at hagain
        cases hagain
      refine ⟨hbooks.exclusive hexcl hne, (hbooks.balance_le hne).trans hspare,
        hbooks.within hexcl hne (fun he => ?_) (fun he => ?_) hspare hwithin⟩
      · rw [hentry.revive he] at hrevives
        cases hrevives
      · have hopens : p.opens i = true := by
          unfold Pool.opens
          rw [hstep, Option.any_some]
          exact decide_eq_true (hentry.opens he)
        have hlt := of_decide_eq_true (hroom hopens)
        rw [card_idle p hexcl.toKnown, card_opening, spare_eq]
        exact hlt
    · show config.maxConnections + 0 + 0 ≤ config.maxConnections
      exact le_rfl
    · show ((Pool.init config).books.idle).card + 0 + 0 ≤ config.maxConnections
      rw [card_idle _ (exclusive_init config).toKnown]
      exact Nat.zero_le _
  refine hinv.mono (fun p hp => ?_)
  obtain ⟨hexcl, -, hwithin⟩ := hp
  unfold ResourcePool.Within at hwithin
  rw [card_idle p hexcl.toKnown, card_held] at hwithin
  have hleased := openLeased_le p
  unfold Capped
  omega

/-- Room for two connections. -/
def pair : ConnectionPoolConfig :=
  { single with maxConnections := 2, maxConnections_pos := Nat.two_pos }

/-- A second connection is opened beside the first, which is used again. -/
theorem capped_beside : Always Pool.step (Capped 2) (Pool.init pair)
    [.acquire "wss://a", .moves 0 .connected, .connected 0, .acquire "wss://b", .moves 1 .connected,
      .connected 1, .release 0, .acquire "wss://a"] :=
  capped pair _ (by decide +kernel)

/-- One connection is idle, and one for another URI is leased. -/
theorem second_uri_opens : ¬ Always Pool.step (Capped 1) (Pool.init single)
    [.acquire "wss://a", .moves 0 .connected, .connected 0, .release 0, .acquire "wss://b",
      .moves 1 .connected, .connected 2] := by
  unfold Capped
  decide +kernel

end JetSocket.Pooling
