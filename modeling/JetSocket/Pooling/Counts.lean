import JetSocket.Pooling.Leases

/- What the pool tells of itself (`pool.py`, `ConnectionPool.stats`).

   `stats` goes over the list: a connection counts as active where it is marked as in use, and the
   messages are those of the WebSockets that are listed. `_connection_count` goes up behind the
   `append` of `_create_connection`, and nothing else makes the list longer, so that it is counted
   here by how much a step makes the list grow.

   Correspondence (Python ↔ Lean):
     `PoolStats`, `stats`       ↔ `PoolStats`, `Counted.stats`
     `self._connection_count`   ↔ `Counted.connectionCount`
     `manager.stats()`          ↔ the argument of `Counted.stats`

   What is proved:
     1. `telling_step` — one step keeps the count of the connections that were ever leased.
     2. `stats_tell` — in every run in which no lease is given back again: the active connections
        are the leases that are not given back and whose connection is listed, at most
        `max_connections`; the idle ones are listed and have no lease; and the total is of the
        connections that were ever leased, the listed ones among them. -/
namespace JetSocket.Pooling
open ResourcePool Transition

/-- What `stats` reads of a WebSocket. -/
structure ConnectionStats where
  messagesSent : Nat
  messagesReceived : Nat
  reconnectCount : Nat

structure PoolStats where
  totalConnections : Nat
  activeConnections : Nat
  idleConnections : Nat
  totalMessagesSent : Nat
  totalMessagesReceived : Nat
  totalReconnects : Nat
  deriving DecidableEq, Repr

/-- The pool with its `_connection_count`. -/
structure Counted where
  pool : Pool
  connectionCount : Nat

namespace Counted

def init (config : ConnectionPoolConfig) : Counted :=
  { pool := Pool.init config, connectionCount := 0 }

def step (s : Counted) (i : Input) : Option Counted :=
  (s.pool.step i).map (fun p =>
    { pool := p
      connectionCount :=
        s.connectionCount + (p.shared.listed.length - s.pool.shared.listed.length) })

/-- `stats`. -/
def stats (s : Counted) (managers : Nat → ConnectionStats) : PoolStats :=
  let listed := s.pool.shared.listed
  { totalConnections := s.connectionCount
    activeConnections := listed.countP (fun c => s.pool.shared.inUse c)
    idleConnections := listed.countP (fun c => !s.pool.shared.inUse c)
    totalMessagesSent := listed.foldl (fun n c => n + (managers c).messagesSent) 0
    totalMessagesReceived := listed.foldl (fun n c => n + (managers c).messagesReceived) 0
    totalReconnects := listed.foldl (fun n c => n + (managers c).reconnectCount) 0 }

end Counted

/-- The connections that were ever leased. -/
def Pool.everLeased (p : Pool) : Finset Nat :=
  (p.shared.leases.map PooledConnection.state).toFinset

/-- A connection is leased: one of its leases is not given back. -/
def Pool.leased (p : Pool) (c : Nat) : Bool :=
  p.shared.leases.any (fun l => !l.givenBack && l.state == c)

/-! ## Leases and the book -/

section Book
variable {p p' : Pool} {i : Input} {e : Event Nat} {c : Nat}

theorem mem_held : c ∈ p.books.held ↔ p.leased c = true := by
  show c ∈ (p.shared.leases : Multiset PooledConnection).filterMap PooledConnection.held ↔ _
  rw [Multiset.mem_filterMap]
  unfold Pool.leased
  rw [List.any_eq_true]
  refine exists_congr (fun l => and_congr Multiset.mem_coe ?_)
  unfold PooledConnection.held
  cases l.givenBack <;> simp

/-- A step that lends makes one more lease, and it is the one of the book. -/
theorem Entry.lends (h : Entry p i p' e) (he : e.lends) :
    ∃ c, p'.books.held = c ::ₘ p.books.held ∧ p'.everLeased = insert c p.everLeased := by
  have hleases : ∃ c, p'.shared.leases = p.shared.leases ++
      [{ state := c, released := false, givenBack := false, late := p.shared.closeReturned }] := by
    cases e with
    | reuse | publish => exact h.leases
    | _ => exact he.elim
  obtain ⟨c, hleases⟩ := hleases
  refine ⟨c, ?_, ?_⟩
  · show (p'.shared.leases : Multiset PooledConnection).filterMap PooledConnection.held = _
    rw [hleases, ← Multiset.coe_add, Multiset.filterMap_add]
    exact Multiset.add_comm _ _
  · unfold Pool.everLeased
    rw [hleases, List.map_append, List.toFinset_append, Finset.union_comm]
    rfl

/-- A lease stays one of its connection. -/
theorem states_set {ls : List PooledConnection} {j : Nat} {l m : PooledConnection}
    (hj : ls[j]? = some l) (hm : m.state = l.state) :
    (ls.set j m).map PooledConnection.state = ls.map PooledConnection.state := by
  obtain ⟨hlt, rfl⟩ := List.getElem?_eq_some_iff.mp hj
  have hmap : j < (ls.map PooledConnection.state).length := by
    rw [List.length_map]
    exact hlt
  rw [List.map_set, hm, ← List.getElem_map PooledConnection.state (h := hmap),
    List.set_getElem_self]

/-- Another one leaves the leases to their connections. -/
theorem Entry.keeps (h : Entry p i p' e) (he : ¬ e.lends) : p'.everLeased = p.everLeased := by
  have hleases := h.leases
  unfold Pool.everLeased
  cases e with
  | reuse | publish => exact absurd trivial he
  | giveBack | again =>
    obtain ⟨j, l, hl, ⟨-, -, hleases⟩ | ⟨-, hleases⟩⟩ := hleases
    all_goals
      rw [hleases]
      exact congrArg List.toFinset (states_set hl rfl)
  | _ =>
    rw [show p'.shared.leases = p.shared.leases from hleases]

/-- A connection is marked exactly while it is lent. -/
theorem inUse_held (hexcl : p.books.Exclusive) (hmarked : p.books.Marked) :
    p.shared.inUse c = true ↔ c ∈ p.books.held :=
  ⟨fun h => hmarked c h, fun h => hexcl.held_used c h⟩

/-- The active connections are the leases of what is listed. -/
theorem active_eq (hexcl : p.books.Exclusive) (hmarked : p.books.Marked) :
    p.shared.listed.countP (fun c => p.shared.inUse c) =
      p.shared.leases.countP (fun l => !l.givenBack && decide (l.state ∈ p.shared.listed)) := by
  have hlisted : p.shared.listed.Nodup := Multiset.coe_nodup.mp hexcl.listed_nodup
  have hheld : (p.shared.leases.filterMap PooledConnection.held).Nodup :=
    Multiset.coe_nodup.mp hexcl.held_nodup
  have hsame : p.shared.leases.countP
        (fun l => !l.givenBack && decide (l.state ∈ p.shared.listed)) =
      (p.shared.leases.filterMap PooledConnection.held).countP
        (fun c => decide (c ∈ p.shared.listed)) := by
    rw [List.countP_filterMap]
    refine List.countP_congr (fun l _ => ?_)
    unfold PooledConnection.held
    cases l.givenBack <;> simp
  rw [hsame, List.countP_eq_length_filter, List.countP_eq_length_filter]
  refine List.Perm.length_eq ((List.perm_ext_iff_of_nodup (hlisted.filter _)
    (hheld.filter _)).mpr (fun c => ?_))
  have hiff : p.shared.inUse c = true ↔ c ∈ p.shared.leases.filterMap PooledConnection.held :=
    (inUse_held hexcl hmarked).trans Multiset.mem_coe
  rw [List.mem_filter, List.mem_filter, decide_eq_true_iff, hiff, and_comm]

end Book

/-! ## Runs -/

/-- What `stats` tells is so, in a pool of at most `n` connections. -/
structure Told (n : Nat) (s : Counted) (t : PoolStats) : Prop where
  total : t.totalConnections = s.pool.everLeased.card
  active : t.activeConnections =
    s.pool.shared.leases.countP (fun l => !l.givenBack && decide (l.state ∈ s.pool.shared.listed))
  bounded : t.activeConnections ≤ n
  idle : t.idleConnections = s.pool.shared.listed.countP (fun c => !s.pool.leased c)
  known : ∀ c ∈ s.pool.shared.listed, c ∈ s.pool.everLeased
  all : t.activeConnections + t.idleConnections = s.pool.shared.listed.length
  created : s.pool.shared.listed.length ≤ t.totalConnections

/-- The invariant of runs. -/
structure Telling (n : Nat) (s : Counted) : Prop where
  exclusive : s.pool.books.Exclusive
  balance : s.pool.books.spare + s.pool.books.held.card ≤ n
  marked : s.pool.books.Marked
  totals : s.pool.books.Totals s.pool.everLeased s.connectionCount

variable {n : Nat} {s s' : Counted} {i : Input}

/-- **One step** that gives no lease back again. -/
theorem telling_step (h : Telling n s) (hagain : s.pool.again i = false)
    (hs : s.step i = some s') : Telling n s' := by
  obtain ⟨p', hp, rfl⟩ := Option.map_eq_some_iff.mp hs
  obtain ⟨e, hbooks, hentry⟩ := books_step h.exclusive.toKnown hp
  have hne : e ≠ .again := fun he => by
    rw [hentry.again.mp he] at hagain
    cases hagain
  exact ⟨hbooks.exclusive h.exclusive hne, (hbooks.balance_le hne).trans h.balance,
    hbooks.marked h.marked, hbooks.totals h.totals hentry.lends hentry.keeps⟩

theorem telling_init (config : ConnectionPoolConfig) :
    Telling config.maxConnections (Counted.init config) where
  exclusive := exclusive_init config
  balance := le_rfl
  marked c hc := by
    have hnone : (Pool.init config).shared.inUse c = false := rfl
    exact absurd (hnone.symm.trans hc) Bool.false_ne_true
  totals :=
    { total := rfl
      known := fun c hc => absurd hc (Finset.notMem_empty c)
      listed := fun c hc => absurd hc (Multiset.notMem_zero c)
      opening := fun c hc => absurd hc (Multiset.notMem_zero c)
      opening_known := fun c hc => absurd hc (Multiset.notMem_zero c)
      opening_nodup := Multiset.nodup_zero }

/-- What the invariant says of `stats`. -/
theorem Telling.told (h : Telling n s) (managers : Nat → ConnectionStats) :
    Told n s (s.stats managers) := by
  have hactive := active_eq h.exclusive h.marked
  have hknown : ∀ c ∈ s.pool.shared.listed, c ∈ s.pool.everLeased :=
    fun c hc => h.totals.listed c (Multiset.mem_coe.mpr hc)
  have hlisted : s.pool.shared.listed.Nodup := Multiset.coe_nodup.mp h.exclusive.listed_nodup
  have hlive : s.pool.shared.leases.countP
      (fun l => !l.givenBack && decide (l.state ∈ s.pool.shared.listed)) ≤ s.pool.live :=
    List.countP_mono_left (fun l _ hl => (Bool.and_eq_true_iff.mp hl).1)
  have hbalance := h.balance
  rw [card_held] at hbalance
  refine ⟨h.totals.total, hactive, ?_, ?_, hknown, ?_, ?_⟩
  · show s.pool.shared.listed.countP _ ≤ n
    rw [hactive]
    omega
  · refine List.countP_congr (fun c _ => ?_)
    rw [Bool.not_eq_true', Bool.not_eq_true', ← Bool.not_eq_true, ← Bool.not_eq_true,
      inUse_held h.exclusive h.marked, mem_held]
  · show s.pool.shared.listed.countP _ + s.pool.shared.listed.countP _ = _
    rw [List.length_eq_countP_add_countP (fun c => s.pool.shared.inUse c)]
    simp only [Bool.not_eq_true, Bool.decide_eq_false]
  · show _ ≤ s.connectionCount
    rw [h.totals.total]
    calc s.pool.shared.listed.length = s.pool.shared.listed.toFinset.card :=
          (List.toFinset_card_of_nodup hlisted).symm
      _ ≤ s.pool.everLeased.card :=
          Finset.card_le_card (fun c hc => hknown c (List.mem_toFinset.mp hc))

/-- **What `stats` tells is so**, whenever it is called, in every run in which no lease is given
back again. -/
theorem stats_tell (config : ConnectionPoolConfig) (is : List Input)
    (h : Meets Counted.step (fun s i => s.pool.again i = false) (Counted.init config) is) :
    Always Counted.step
      (fun s => ∀ managers, Told config.maxConnections s (s.stats managers))
      (Counted.init config) is :=
  (always_of_meets (fun _ _ _ ht hagain hs => telling_step ht hagain hs) (telling_init config)
    h).mono (fun _ ht => ht.told)

/-- Of two connections, one for each of two URIs, the idle one breaks down, and the health check
takes it off the list. -/
def sweptRun : List Input :=
  [.acquire "wss://a", .moves 0 .connected, .connected 0, .release 0, .acquire "wss://b",
    .moves 1 .connected, .connected 2, .moves 0 .failed, .start, .resume 3]

theorem stats_tell_swept : ∃ s, exec Counted.step (Counted.init single) sweptRun = some s ∧
    ∀ managers, Told 1 s (s.stats managers) ∧ (s.stats managers).totalConnections = 2 ∧
      (s.stats managers).activeConnections = 1 ∧ (s.stats managers).idleConnections = 0 := by
  have htells := stats_tell single sweptRun (by decide +kernel)
  exact ⟨_, rfl, fun managers => ⟨htells.last rfl managers, rfl, rfl, rfl⟩⟩

end JetSocket.Pooling
