import JetSocket.Pooling.Leases

/- The background loops against leases.

   A pass collects idle connections under the lock and closes them one after another outside it.
   While it closes the first, an acquire may take the second: it is not in use, and CONNECTED. The
   pass then closes it under its lease.

   What is proved:
     `untouched_leases` — where no acquire takes what a pass has collected, no leased connection is
                          closed or removed by a loop, and none that is is leased later. -/
namespace JetSocket.Pooling
open ResourcePool Transition

/-- No lease is of a connection that a loop has begun to close. -/
def Untouched (p : Pool) : Prop :=
  ∀ l ∈ p.shared.leases, l.givenBack = false → l.state ∉ p.shared.touched

namespace Pool

/-- A pass has collected the connection, and has begun to close it or will. -/
def condemned (p : Pool) (c : Nat) : Bool :=
  p.shared.touched.contains c || p.tasks.any (fun t => t.point.pending.contains c)

/-- An acquire takes an idle connection that a pass has collected. -/
def takesCondemned (p : Pool) (i : Input) : Bool :=
  match (p.looksUp i).bind p.shared.getIdleConnection with
  | some c => ConnectionPool.usable (p.shared.manager c) && p.condemned c
  | none => false

end Pool

theorem mem_condemned {p : Pool} {c : Nat} :
    c ∈ p.books.condemned ↔ p.condemned c = true := by
  unfold Pool.condemned
  rw [Bool.or_eq_true, List.contains_iff_mem, List.any_eq_true]
  show (c ∈ p.shared.touched ∨ ∃ x ∈ p.points, c ∈ x.pending) ↔ _
  refine or_congr_right ?_
  constructor
  · rintro ⟨x, hx, hc⟩
    obtain ⟨t, ht, rfl⟩ := Multiset.mem_map.mp hx
    exact ⟨t, Multiset.mem_coe.mp ht, List.contains_iff_mem.mpr hc⟩
  · rintro ⟨t, ht, hc⟩
    exact ⟨t.point, Multiset.mem_map_of_mem Task.point (Multiset.mem_coe.mpr ht),
      List.contains_iff_mem.mp hc⟩

theorem untouched_of {p : Pool} (h : p.books.Spared) : Untouched p := by
  intro l hl hback htouched
  have hheld : l.state ∈ p.books.held :=
    (Multiset.mem_filterMap _ _).mpr ⟨l, Multiset.mem_coe.mpr hl, by
      simp [PooledConnection.held, hback]⟩
  exact (h l.state (.inl htouched)).2.1 hheld

/-- **Loops and leases.** Where no acquire takes a connection that a pass has collected, and no
lease is given back again, the loops touch no leased connection, and what they have touched is not
leased again. -/
theorem untouched_leases (config : ConnectionPoolConfig) (is : List Input)
    (h : Meets Pool.step (fun p i => p.takesCondemned i = false ∧ p.again i = false)
      (Pool.init config) is) : Always Pool.step Untouched (Pool.init config) is := by
  have hinv : Always Pool.step (fun p => p.books.Exclusive ∧ p.books.Spared)
      (Pool.init config) is := by
    refine always_of_meets ?_ ⟨exclusive_init config, fun c hc => ?_⟩ h
    · rintro p i p' ⟨hexcl, hspared⟩ ⟨htakes, hagain⟩ hstep
      obtain ⟨e, hbooks, hentry⟩ := books_step hexcl.toKnown hstep
      refine ⟨exclusive_step hexcl hagain hstep, hbooks.spared hexcl hspared ?_⟩
      rintro c rfl hc
      obtain ⟨uri, hlooks, hfind, hup⟩ := hentry.reuse c rfl
      have htaken : p.takesCondemned i = true := by
        unfold Pool.takesCondemned
        rw [hlooks, Option.bind_some, hfind]
        dsimp only
        rw [hup, mem_condemned.mp hc]
        rfl
      rw [htaken] at htakes
      cases htakes
    · rcases hc with hc | ⟨x, hx, -⟩
      · exact absurd hc List.not_mem_nil
      · exact absurd hx (Multiset.notMem_zero x)
  exact hinv.mono (fun p hp => untouched_of hp.2)

/-- A pool of two connections. -/
def double : ConnectionPoolConfig :=
  { single with maxConnections := 2, maxConnections_pos := Nat.two_pos }

/-- Two connections are used, and given back; the loops are tasks 4 and 5. -/
def twoIdle : List Input :=
  [.acquire "wss://a", .moves 0 .connected, .connected 0, .acquire "wss://b", .moves 1 .connected,
    .connected 1, .release 0, .release 1, .start, .advance 2]

theorem untouched_swept : Always Pool.step Untouched (Pool.init double)
    (twoIdle ++ [.resume 5, .moves 0 .closed, .closeEnds 5, .closeEnds 5]) :=
  untouched_leases double _ (by decide +kernel)

/-- While the pass closes the first connection, the second is leased. -/
theorem collected_then_leased : ¬ Always Pool.step Untouched (Pool.init double)
    (twoIdle ++ [.resume 5, .acquire "wss://b", .closeEnds 5]) := by
  unfold Untouched
  decide +kernel

end JetSocket.Pooling
