import JetSocket.Pooling.Entries

/- Leases and permits.

   A lease is the only one of its connection, whatever is cancelled and whenever: an idle
   connection is marked before the next suspension, and a new one is handed out as it is listed.
   The permits add up but for two slips. `acquire` gives its permit back in `except Exception`,
   which a cancellation passes by; and a lease given back with `ConnectionPool.release` is given
   back again by its own `release`.

   What is proved:
     `leased_once`           — no connection has two leases that are not released.
     `permits_conserved_iff` — the permits add up throughout a run exactly when no acquire past the
                               semaphore is cancelled and no lease is given back twice. -/
namespace JetSocket.Pooling
open ResourcePool Transition

theorem exclusive_init (config : ConnectionPoolConfig) : (Pool.init config).books.Exclusive where
  held_known c hc := absurd hc (Multiset.notMem_zero c)
  listed_known c hc := absurd hc (Multiset.notMem_zero c)
  opening_known c hc := absurd hc (Multiset.notMem_zero c)
  held_nodup := Multiset.nodup_zero
  listed_nodup := Multiset.nodup_zero
  opening_nodup := Multiset.nodup_zero
  held_used c hc := absurd hc (Multiset.notMem_zero c)
  opening_unlisted c hc := absurd hc (Multiset.notMem_zero c)
  opening_unheld c hc := absurd hc (Multiset.notMem_zero c)

/-- Without a lease given back again, leases stay exclusive. -/
theorem exclusive_step {p p' : Pool} {i : Input} (hexcl : p.books.Exclusive)
    (hagain : p.again i = false) (h : p.step i = some p') : p'.books.Exclusive := by
  obtain ⟨e, hstep, hentry⟩ := books_step hexcl.toKnown h
  refine hstep.exclusive hexcl (fun he => ?_)
  rw [hentry.again.mp he] at hagain
  cases hagain

/-! ## One lease for a connection -/

/-- No connection has two leases that are not released. -/
def LeasedOnce (p : Pool) : Prop :=
  ∀ (i j : Nat) (l l' : PooledConnection), p.shared.leases[i]? = some l →
    p.shared.leases[j]? = some l' → l.released = false → l'.released = false →
    l.state = l'.state → i = j

/-- Leases are given back by their own `release`. -/
def Owned (s : ConnectionPool) : Prop := ∀ l ∈ s.leases, l.givenBack = true → l.released = true

theorem owned_step {p p' : Pool} {i : Input} {e : Event Nat} (h : Owned p.shared)
    (hi : ∀ j, i ≠ .poolRelease j) (he : Entry p i p' e) : Owned p'.shared := by
  have hleases := he.leases
  intro l hl hback
  cases e with
  | quiet | revive | opens | fails | lost =>
    rw [show p'.shared.leases = p.shared.leases from hleases] at hl
    exact h l hl hback
  | reuse _ | publish =>
    obtain ⟨c, hleases⟩ := hleases
    rw [hleases] at hl
    rcases List.mem_append.mp hl with hl | hl
    · exact h l hl hback
    · rw [List.mem_singleton.mp hl] at hback
      cases hback
  | giveBack | again =>
    obtain ⟨j, m, hm, ⟨-, -, hleases⟩ | ⟨hi', -⟩⟩ := hleases
    · rw [hleases] at hl
      rcases List.mem_or_eq_of_mem_set hl with hl | rfl
      · exact h l hl hback
      · rfl
    · exact absurd hi' (hi j)

/-- What is lent once has one lease. -/
theorem leasedOnce_of {p : Pool} (hexcl : p.books.Exclusive) (howned : Owned p.shared) :
    LeasedOnce p := by
  intro i j l l' hi hj hl hl' hsame
  have hnodup : (p.shared.leases.filterMap PooledConnection.held).Nodup :=
    Multiset.coe_nodup.mp hexcl.held_nodup
  have hheld : ∀ {k : Nat} {m : PooledConnection}, p.shared.leases[k]? = some m →
      m.released = false → m.held = some m.state := by
    intro k m hk hm
    have hback : m.givenBack = false := by
      rw [Bool.eq_false_iff]
      intro hback
      rw [howned m (List.mem_of_getElem? hk) hback] at hm
      cases hm
    unfold PooledConnection.held
    rw [hback, if_neg Bool.false_ne_true]
  have hpair := List.pairwise_filterMap.mp hnodup
  rw [List.pairwise_iff_getElem] at hpair
  obtain ⟨hil, rfl⟩ := List.getElem?_eq_some_iff.mp hi
  obtain ⟨hjl, rfl⟩ := List.getElem?_eq_some_iff.mp hj
  rcases Nat.lt_trichotomy i j with hlt | heq | hlt
  · exact absurd hsame (hpair i j hil hjl hlt _ (hheld hi hl) _ (hheld hj hl'))
  · exact heq
  · exact absurd hsame.symm (hpair j i hjl hil hlt _ (hheld hj hl') _ (hheld hi hl))

/-- **A lease is the only one of its connection**, in every run in which leases are given back by
their own `release`. -/
theorem leased_once (config : ConnectionPoolConfig) (is : List Input)
    (h : ∀ j, .poolRelease j ∉ is) : Always Pool.step LeasedOnce (Pool.init config) is := by
  have hmeets : Meets Pool.step (fun _ i => ∀ j, i ≠ .poolRelease j) (Pool.init config) is :=
    Meets.of_forall (fun i hi _ j hj => by
      subst hj
      exact h j hi) _
  have hinv : Always Pool.step (fun p => p.books.Exclusive ∧ Owned p.shared)
      (Pool.init config) is := by
    refine always_of_meets ?_ ⟨exclusive_init config, fun l hl => absurd hl List.not_mem_nil⟩ hmeets
    rintro p i p' ⟨hexcl, howned⟩ hi hstep
    obtain ⟨e, hbooks, hentry⟩ := books_step hexcl.toKnown hstep
    refine ⟨exclusive_step hexcl ?_ hstep, owned_step howned hi hentry⟩
    cases i with
    | release j =>
      show (p.shared.leases[j]?).any _ = false
      cases hl : p.shared.leases[j]? with
      | none => rfl
      | some l =>
        have hback := howned l (List.mem_of_getElem? hl)
        cases hg : l.givenBack with
        | false => simp [hg]
        | true => simp [hback hg]
    | poolRelease j => exact absurd rfl (hi j)
    | _ => rfl
  exact hinv.mono (fun p hp => leasedOnce_of hp.1 hp.2)

/-- A pool of one connection. -/
def single : ConnectionPoolConfig where
  maxConnections := 1
  maxIdleTime := 1
  maxConnections_pos := Nat.one_pos
  maxIdleTime_pos := one_pos

theorem leased_once_reused : Always Pool.step LeasedOnce (Pool.init single)
    [.acquire "wss://a", .moves 0 .connected, .connected 0, .acquire "wss://a", .release 0,
      .resume 1] :=
  leased_once single _ (by simp)

/-! ## Permits -/

namespace Pool

/-- The leases that are not given back. -/
def live (p : Pool) : Nat := p.shared.leases.countP (fun l => !l.givenBack)

/-- The acquires that hold a permit, be it that they have yet to see it. -/
def holding (p : Pool) : Nat :=
  p.shared.semaphore.granted.length + p.tasks.countP (fun t => t.point.past)

end Pool

/-- Free permits, leases, and acquires that hold a permit are `n`. -/
def Conserved (n : Nat) (p : Pool) : Prop := p.shared.semaphore.value + p.live + p.holding = n

theorem card_held (p : Pool) : p.books.held.card = p.live := by
  show ((p.shared.leases : Multiset PooledConnection).filterMap _).card = _
  unfold Pool.live
  generalize p.shared.leases = ls
  induction ls with
  | nil => rfl
  | cons l ls ih =>
    rw [← Multiset.cons_coe, List.countP_cons]
    cases hg : l.givenBack with
    | true =>
      rw [Multiset.filterMap_cons_none _ _ (by simp [PooledConnection.held, hg]), ih]
      simp
    | false =>
      rw [Multiset.filterMap_cons_some _ _ _ (show l.held = some l.state by
        simp [PooledConnection.held, hg]), Multiset.card_cons, ih]
      simp

theorem spare_eq (p : Pool) : p.books.spare = p.shared.semaphore.value + p.holding := by
  show p.shared.semaphore.value + p.shared.semaphore.granted.length + p.points.countP _ = _
  have hcount : p.points.countP (fun x => x.past = true) =
      p.tasks.countP (fun t => t.point.past) := by
    unfold Pool.points
    rw [Multiset.map_coe, Multiset.coe_countP, List.countP_map]
    congr 1
    funext t
    simp
  rw [hcount, Nat.add_assoc]
  rfl

theorem conserved_iff (n : Nat) (p : Pool) :
    Conserved n p ↔ p.books.spare + p.books.held.card = n := by
  unfold Conserved
  rw [spare_eq, card_held]
  omega

/-- **Permits are conserved** exactly when no acquire past the semaphore is cancelled, and no lease
is given back again. -/
theorem permits_conserved_iff (config : ConnectionPoolConfig) (is : List Input) :
    Always Pool.step (Conserved config.maxConnections) (Pool.init config) is ↔
      Meets Pool.step (fun p i => p.loses i = false ∧ p.again i = false) (Pool.init config) is := by
  refine always_iff_meets_of_inv (I := fun p => p.books.Known) ?_ ?_ is
    (exclusive_init config).toKnown ?_
  · intro p i p' hknown hstep
    obtain ⟨e, hbooks, -⟩ := books_step hknown hstep
    exact hbooks.known hknown
  · intro p i p' hknown hp hstep
    obtain ⟨e, hbooks, hentry⟩ := books_step hknown hstep
    rw [conserved_iff] at hp ⊢
    rw [← hp]
    constructor
    · intro hsame
      constructor
      · rw [Bool.eq_false_iff]
        intro hloses
        have := (hentry.lost.mpr hloses ▸ hbooks).balance_lost
        omega
      · rw [Bool.eq_false_iff]
        intro hagain
        have := (hentry.again.mpr hagain ▸ hbooks).balance_again
        omega
    · rintro ⟨hloses, hagain⟩
      refine hbooks.balance (fun he => ?_) (fun he => ?_)
      · rw [hentry.lost.mp he] at hloses
        cases hloses
      · rw [hentry.again.mp he] at hagain
        cases hagain
  · show config.maxConnections + 0 + (0 + 0) = config.maxConnections
    rfl

/-- An acquire that is cancelled while it connects takes its permit along. -/
theorem cancelled_permit_lost : ¬ Always Pool.step (Conserved 1) (Pool.init single)
    [.acquire "wss://a", .cancel 0, .resume 0] := by
  unfold Conserved
  decide

end JetSocket.Pooling
