import JetSocket.Pooling.Acquiring

/- What the pool's methods leave behind.

   `Sound` is what a suspended task relies on: a connection that it is to take off the list is in a
   terminal state; a task of `close` runs in a closed pool, and an acquire that opens a connection
   in one that is open. `Tidies` is what a task leaves: what goes off the list is in a terminal
   state, and what is created is being opened. -/
namespace JetSocket.Pooling
open TaskPool ResourcePool

/-- The WebSocket is in a terminal state. -/
def ConnectionPool.shut (p : ConnectionPool) (c : Nat) : Bool := (p.manager c).isTerminal

/-- What a task relies on where it is suspended. -/
def Point.Sound (s : ConnectionPool) : Point → Prop
  | .locking (.dead _ c) | .locking (.remove c) | .locking (.removeThen _ c _) => s.shut c = true
  | .locking .closeAll | .joinHealth _ | .joinCleanup _ | .gathering _ => s.closed = true
  | .locking (.publish _ _) | .connecting _ _ => s.closed = false
  | _ => True

/-- What a task leaves behind; `n` is the number of the next task. -/
structure Tidies (s : ConnectionPool) (n : Nat) (r : Run) : Prop where
  created : ∀ c, c < r.pool.states.length → c < s.states.length ∨ r.point.opening = some c
  manager : ∀ c, c < s.states.length → r.pool.manager c = s.manager c
  kept : ∀ c ∈ s.listed, c ∈ r.pool.listed ∨ s.shut c = true
  listed : ∀ c ∈ r.pool.listed, c ∈ s.listed ∨ s.closed = false
  closed : r.pool.closed = s.closed
  returned : r.pool.closeReturned = true →
    s.closeReturned = true ∨ r.pool.listed = [] ∧ r.pool.closed = true
  late : ∀ l ∈ r.pool.leases, l.late = true →
    (∃ m ∈ s.leases, m.late = true) ∨ s.closed = false ∧ s.closeReturned = true
  sound : r.point.Sound r.pool
  gathering : ∀ children, r.point = .gathering children → ∀ c ∈ r.pool.listed, ∃ i,
    n + i ∈ children ∧ (r.spawned[i]?).map Task.point = some (.closing c .nothing)
  spawned : ∀ t ∈ r.spawned, (∀ q, t.point.Sound q) ∧ ∀ children, t.point ≠ .gathering children

section Tidying
variable {s q : ConnectionPool} {n k : Nat} {r : Run} {uri : String} {c : Nat}

/-- A created connection's state is there. -/
theorem lt_of_shut (h : s.shut c = true) : c < s.states.length := by
  unfold ConnectionPool.shut ConnectionPool.manager at h
  by_contra hge
  rw [List.getElem?_eq_none (Nat.le_of_not_lt hge)] at h
  cases h

/-- The pool `s` has come to `q`, and only dead connections are off the list. -/
structure Clears (s q : ConnectionPool) : Prop where
  states : q.states = s.states
  leases : q.leases = s.leases
  closed : q.closed = s.closed
  closeReturned : q.closeReturned = s.closeReturned
  kept : ∀ c ∈ s.listed, c ∈ q.listed ∨ s.shut c = true
  listed : ∀ c ∈ q.listed, c ∈ s.listed

theorem Clears.shut (h : Clears s q) (c : Nat) : q.shut c = s.shut c := by
  unfold ConnectionPool.shut
  rw [manager_congr h.states]

theorem Clears.trans {t : ConnectionPool} (h : Clears s q) (h' : Clears q t) : Clears s t where
  states := h'.states.trans h.states
  leases := h'.leases.trans h.leases
  closed := h'.closed.trans h.closed
  closeReturned := h'.closeReturned.trans h.closeReturned
  kept c hc := by
    rcases h.kept c hc with hc | hc
    · exact (h'.kept c hc).imp_right (fun hshut => (h.shut c).symm.trans hshut)
    · exact .inr hc
  listed c hc := h.listed c (h'.listed c hc)

theorem clears_same (hstates : q.states = s.states) (hconnections : q.connections = s.connections)
    (hleases : q.leases = s.leases) (hclosed : q.closed = s.closed)
    (hreturned : q.closeReturned = s.closeReturned) : Clears s q := by
  have hlisted : q.listed = s.listed := by
    unfold ConnectionPool.listed
    rw [hconnections]
  exact ⟨hstates, hleases, hclosed, hreturned, fun c hc => .inl (hlisted ▸ hc),
    fun c hc => hlisted ▸ hc⟩

/-- A dead connection is removed. -/
theorem clears_removeConnection (hshut : s.shut c = true) : Clears s (s.removeConnection c) where
  states := rfl
  leases := rfl
  closed := rfl
  closeReturned := rfl
  kept d hd := by
    by_cases hdc : d = c
    · exact .inr (hdc ▸ hshut)
    · exact .inl (Multimap.mem_values_discard _ hd hdc)
  listed _ hd := (Multimap.values_discard _ _ _).subset hd

/-- A task comes to a point where it starts no others. -/
theorem Clears.tidies (h : Clears s q) {x : Point} {o : Option Nat} (hx : x.Sound q)
    (hgathering : ∀ children, x ≠ .gathering children) :
    Tidies s n { pool := q, point := x, cancels := o } where
  created d hd := .inl (by rw [← h.states]; exact hd)
  manager d _ := by rw [manager_congr h.states]
  kept := h.kept
  listed d hd := .inl (h.listed d hd)
  closed := h.closed
  returned hreturned := .inl (h.closeReturned.symm.trans hreturned)
  late l hl hlate := .inl ⟨l, h.leases ▸ hl, hlate⟩
  sound := hx
  gathering children hchildren := absurd hchildren (hgathering children)
  spawned t ht := absurd ht List.not_mem_nil

/-- What a task leaves after the pool has come to `q`. -/
theorem Tidies.after (h : Tidies q n r) (hq : Clears s q) : Tidies s n r where
  created c hc := by
    rw [← hq.states]
    exact h.created c hc
  manager c hc := by
    rw [← hq.states] at hc
    rw [h.manager c hc, manager_congr hq.states]
  kept c hc := by
    rcases hq.kept c hc with hc | hc
    · exact (h.kept c hc).imp_right (fun hshut => (hq.shut c).symm.trans hshut)
    · exact .inr hc
  listed c hc := (h.listed c hc).imp (hq.listed c) (fun hopen => hq.closed.symm.trans hopen)
  closed := h.closed.trans hq.closed
  returned hreturned := (h.returned hreturned).imp_left hq.closeReturned.symm.trans
  late l hl hlate := by
    rcases h.late l hl hlate with ⟨m, hm, hlate⟩ | ⟨hopen, hreturned⟩
    · exact .inl ⟨m, hq.leases ▸ hm, hlate⟩
    · exact .inr ⟨hq.closed.symm.trans hopen, hq.closeReturned.symm.trans hreturned⟩
  sound := h.sound
  gathering := h.gathering
  spawned := h.spawned

/-! ## In the background -/

theorem tidies_closeNext (k : Nat) (loop : Loop) (cs : List Nat) (s : ConnectionPool) :
    Tidies s n (s.closeNext k loop cs) := by
  induction cs generalizing s with
  | nil =>
    unfold ConnectionPool.closeNext
    refine (clears_same rfl rfl rfl rfl rfl).tidies ?_ (fun children h => ?_)
    · split <;> trivial
    · split at h <;> cases h
  | cons c rest ih =>
    have htouch : Clears s { s with touched := s.touched ++ [c] } := clears_same rfl rfl rfl rfl rfl
    unfold ConnectionPool.closeNext
    dsimp only
    split
    · rename_i hshut
      split
      · exact (ih _).after (htouch.trans (clears_removeConnection hshut))
      · have hpark : Clears s { s with touched := s.touched ++ [c], lock := s.lock.wait k } :=
          clears_same rfl rfl rfl rfl rfl
        exact hpark.tidies (x := .locking (.removeThen loop c rest)) hshut
          (fun children h => by cases h)
    · exact htouch.tidies trivial (fun children h => by cases h)

theorem tidies_closeAll (hclosed : s.closed = true) : Tidies s n (s.closeAll n) := by
  unfold ConnectionPool.closeAll
  split
  · rename_i hempty
    have hnone : s.listed = [] := List.isEmpty_iff.mp hempty
    exact
      { created := fun c hc => .inl hc
        manager := fun c hc => rfl
        kept := fun c hc => by
          rw [hnone] at hc
          exact absurd hc List.not_mem_nil
        listed := fun c hc => absurd hc List.not_mem_nil
        closed := rfl
        returned := fun _ => .inr ⟨rfl, hclosed⟩
        late := fun l hl hlate => .inl ⟨l, hl, hlate⟩
        sound := trivial
        gathering := fun children h => by cases h
        spawned := fun t ht => absurd ht List.not_mem_nil }
  · exact
      { created := fun c hc => .inl hc
        manager := fun c hc => rfl
        kept := fun c hc => .inl hc
        listed := fun c hc => .inl hc
        closed := rfl
        returned := .inl
        late := fun l hl hlate => .inl ⟨l, hl, hlate⟩
        sound := hclosed
        gathering := by
          rintro children h c hc
          cases h
          obtain ⟨i, hi⟩ : ∃ i, s.listed[i]? = some c := List.mem_iff_getElem?.mp hc
          refine ⟨i, ?_, ?_⟩
          · rw [List.mem_range'_1]
            have hlt : i < s.listed.length := (List.getElem?_eq_some_iff.mp hi).1
            omega
          · show ((s.listed.map _)[i]?).map _ = _
            rw [List.getElem?_map, hi]
            rfl
        spawned := by
          intro t ht
          obtain ⟨c, -, rfl⟩ := List.mem_map.mp ht
          exact ⟨fun q => trivial, fun children h => by cases h⟩ }

/-! ## Acquiring, in an open pool -/

theorem tidies_createConnection (hopen : s.closed = false) (uri : String) :
    Tidies s n (s.createConnection uri) where
  created c hc := by
    have hlast : c < (s.states ++ [_]).length := hc
    rw [List.length_append, List.length_singleton] at hlast
    rcases Nat.lt_or_ge c s.states.length with hlt | hge
    · exact .inl hlt
    · exact .inr (congrArg some (Nat.le_antisymm hge (Nat.le_of_lt_succ hlast)))
  manager c hc := by
    show ((s.states ++ [_])[c]?).elim _ _ = _
    rw [List.getElem?_append_left hc]
    rfl
  kept c hc := .inl hc
  listed c hc := .inl hc
  closed := rfl
  returned := .inl
  late l hl hlate := .inl ⟨l, hl, hlate⟩
  sound := hopen
  gathering children h := by cases h
  spawned t ht := absurd ht List.not_mem_nil

theorem tidies_dropDead (hopen : s.closed = false) (hshut : s.shut c = true) (uri : String) :
    Tidies s n (s.dropDead uri c) := by
  have hcreate : Tidies (s.removeConnection c) n (s.dropDead uri c) :=
    tidies_createConnection (s := s.removeConnection c) hopen uri
  exact hcreate.after (clears_removeConnection hshut)

/-- A lease comes with no connection. -/
theorem tidies_lease (hopen : s.closed = false) (c : Nat) :
    Tidies s n { pool := s.lease c, point := .done } where
  created d hd := .inl (by
    rw [← show (s.lease c).states.length = s.states.length from length_modifyState _]
    exact hd)
  manager d _ := by
    rw [show (s.lease c).manager = s.manager from manager_modifyState (fun _ => rfl)]
  kept d hd := .inl hd
  listed d hd := .inl hd
  closed := rfl
  returned := .inl
  late l hl hlate := by
    rcases List.mem_append.mp hl with hl | hl
    · exact .inl ⟨l, hl, hlate⟩
    · rw [List.mem_singleton.mp hl] at hlate
      exact .inr ⟨hopen, hlate⟩
  sound := trivial
  gathering children h := by cases h
  spawned t ht := absurd ht List.not_mem_nil

/-- A connection is listed as it is leased. -/
theorem tidies_publish (hopen : s.closed = false) (uri : String) (c : Nat) :
    Tidies s n (s.publish uri c) ∧ c ∈ (s.publish uri c).pool.listed := by
  have hpush : ∀ d, d ∈ (s.publish uri c).pool.listed ↔ d = c ∨ d ∈ s.listed := by
    intro d
    show d ∈ (s.connections.push uri c).values ↔ _
    rw [(Multimap.values_push s.connections uri c).mem_iff, List.mem_cons]
    rfl
  have hlease : Tidies { s with connections := s.connections.push uri c } n (s.publish uri c) :=
    tidies_lease (s := { s with connections := s.connections.push uri c }) hopen c
  refine ⟨{ hlease with kept := fun d hd => .inl ((hpush d).mpr (.inr hd)),
                        listed := fun d hd => .inr hopen }, (hpush c).mpr (.inl rfl)⟩

/-- An idle connection that cannot be used is dead. -/
theorem tidies_useIdle (hopen : s.closed = false)
    (hidle : ∀ c, s.getIdleConnection uri = some c →
      ConnectionPool.usable (s.manager c) = true ∨ s.shut c = true) :
    Tidies s n (s.useIdle k uri) := by
  unfold ConnectionPool.useIdle
  split
  · exact tidies_createConnection hopen uri
  · rename_i c hfind
    split
    · exact tidies_lease hopen c
    · rename_i hunusable
      have hshut : s.shut c = true := (hidle c hfind).resolve_left hunusable
      split
      · exact tidies_dropDead hopen hshut uri
      · have hpark : Clears s { s with lock := s.lock.wait k } := clears_same rfl rfl rfl rfl rfl
        exact hpark.tidies (x := .locking (.dead uri c)) hshut (fun children h => by cases h)

/-! ## Under the lock -/

/-- An acquire that has yet to find its connection. -/
def Point.acquiring : Point → Bool
  | .waitPermit _ | .locking (.idle _) | .locking (.dead _ _) => true
  | _ => false

/-- Everything under the lock, where the task relies on what it should. -/
theorem tidies_body {b : Body} (hb : (Point.locking b).Sound s)
    (hopen : (Point.locking b).acquiring = true → s.closed = false)
    (hidle : ∀ uri, b = .idle uri → ∀ c, s.getIdleConnection uri = some c →
      ConnectionPool.usable (s.manager c) = true ∨ s.shut c = true) :
    Tidies s n (s.body k n b) := by
  cases b with
  | idle uri => exact tidies_useIdle (hopen rfl) (hidle uri rfl)
  | dead uri c => exact tidies_dropDead (hopen rfl) hb uri
  | publish uri c => exact (tidies_publish hb uri c).1
  | remove c =>
    exact (clears_removeConnection hb).tidies trivial (fun children h => by cases h)
  | scan loop => exact tidies_closeNext k loop _ s
  | removeThen loop c rest =>
    exact (tidies_closeNext k loop rest _).after (clears_removeConnection hb)
  | closeAll => exact tidies_closeAll hb

theorem tidies_underLock {b : Body} (hb : (Point.locking b).Sound s)
    (hopen : (Point.locking b).acquiring = true → s.closed = false)
    (hidle : ∀ uri, b = .idle uri → s.lock.free = true → ∀ c, s.getIdleConnection uri = some c →
      ConnectionPool.usable (s.manager c) = true ∨ s.shut c = true) :
    Tidies s n (s.underLock k n b) := by
  unfold ConnectionPool.underLock
  split
  · rename_i hfree
    exact tidies_body hb hopen (fun uri huri => hidle uri huri hfree)
  · have hpark : Clears s { s with lock := s.lock.wait k } := clears_same rfl rfl rfl rfl rfl
    refine hpark.tidies (x := .locking b) ?_ (fun children h => by cases h)
    cases b <;> exact hb

theorem tidies_closeConnection (c : Nat) (s : ConnectionPool) :
    Tidies s n (s.closeConnection k n c) := by
  unfold ConnectionPool.closeConnection
  split
  · rename_i hshut
    exact tidies_underLock (b := .remove c) hshut (fun h => by cases h) (fun uri h => by cases h)
  · exact (clears_same rfl rfl rfl rfl rfl).tidies trivial (fun children h => by cases h)

/-- A lease given back is not handed out anew. -/
theorem tidies_release {i : Nat} {l₀ l : PooledConnection} (hi : s.leases[i]? = some l₀)
    (hlate : l.late = l₀.late) : Tidies s n (s.release k n i l) := by
  have hmanager : (s.takeBack i l).manager = s.manager := manager_modifyState (fun _ => rfl)
  have hlength : (s.takeBack i l).states.length = s.states.length := length_modifyState _
  have hshut : (s.takeBack i l).shut = s.shut := by
    funext c
    unfold ConnectionPool.shut
    rw [hmanager]
  have hrelease : Tidies (s.takeBack i l) n (s.release k n i l) := by
    unfold ConnectionPool.release
    dsimp only
    split
    · exact tidies_closeConnection _ _
    · exact (clears_same rfl rfl rfl rfl rfl).tidies trivial (fun children h => by cases h)
  exact
    { created := by
        rw [← hlength]
        exact hrelease.created
      manager := by
        rw [← hlength, ← hmanager]
        exact hrelease.manager
      kept := by
        rw [← hshut]
        exact hrelease.kept
      listed := hrelease.listed
      closed := hrelease.closed
      returned := hrelease.returned
      late := by
        intro m hm hmlate
        rcases hrelease.late m hm hmlate with ⟨m', hm', hlate'⟩ | hnew
        · rcases List.mem_or_eq_of_mem_set hm' with hold | rfl
          · exact .inl ⟨m', hold, hlate'⟩
          · exact .inl ⟨l₀, List.mem_of_getElem? hi, hlate.symm.trans hlate'⟩
        · exact .inr hnew
      sound := hrelease.sound
      gathering := hrelease.gathering
      spawned := hrelease.spawned }

theorem tidies_joinCleanupTask (hclosed : s.closed = true) :
    Tidies s n (s.joinCleanupTask k n) := by
  unfold ConnectionPool.joinCleanupTask
  split
  · rename_i j hj
    have hsame : Clears s s := clears_same rfl rfl rfl rfl rfl
    exact hsame.tidies (x := .joinCleanup j) hclosed (fun children h => by cases h)
  · exact tidies_underLock (b := .closeAll) hclosed (fun h => by cases h) (fun uri h => by cases h)

end Tidying
end JetSocket.Pooling
