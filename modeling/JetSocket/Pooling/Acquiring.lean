import JetSocket.Pooling.Books

/- What acquiring and giving back do to the book.

   An acquire that goes on with its permit parks, takes an idle connection, or opens one
   (`Obtains`); each is an entry of the book (`Obtains.step`), as is the listing of a connection
   that was opened (`step_publish`). A lease given back is an entry too, and a fault if it was
   before (`step_release`). -/
namespace JetSocket.Pooling
open TaskPool ResourcePool

/-! ## Leases -/

section Lease
variable {s : ConnectionPool} {xs : Multiset Point} {c : Nat}

theorem inUse_modifyState (f : PooledConnectionState → PooledConnectionState) (d : Nat) :
    (s.modifyState c f).inUse d =
      (s.states[d]?).elim false (fun u => if c = d then (f u).inUse else u.inUse) := by
  unfold ConnectionPool.inUse ConnectionPool.modifyState
  rw [List.getElem?_modify]
  cases s.states[d]? with
  | none => rfl
  | some u => by_cases h : c = d <;> simp [h]

theorem manager_modifyState {f : PooledConnectionState → PooledConnectionState}
    (hf : ∀ u, (f u).manager = u.manager) : (s.modifyState c f).manager = s.manager := by
  funext d
  unfold ConnectionPool.manager ConnectionPool.modifyState
  rw [List.getElem?_modify]
  cases s.states[d]? with
  | none => rfl
  | some u => by_cases h : c = d <;> simp [h, hf]

theorem length_modifyState (f : PooledConnectionState → PooledConnectionState) :
    (s.modifyState c f).states.length = s.states.length := List.length_modify f _ _

/-- A WebSocket changes its state. -/
theorem manager_moves {d : Nat} (hd : d < s.states.length) (state : ConnectionState) :
    (s.modifyState c (fun u => { u with manager := state })).manager d =
      if c = d then state else s.manager d := by
  unfold ConnectionPool.manager ConnectionPool.modifyState
  rw [List.getElem?_modify, List.getElem?_eq_getElem hd]
  by_cases h : c = d <;> simp [h]

theorem inUse_moves (state : ConnectionState) :
    (s.modifyState c (fun u => { u with manager := state })).inUse = s.inUse := by
  funext d
  rw [inUse_modifyState]
  unfold ConnectionPool.inUse
  cases s.states[d]? with
  | none => rfl
  | some u => exact ite_self _

/-- A lease is in the book. -/
theorem view_lease (hc : c < s.states.length) : view (s.lease c) xs = (view s xs).lend c := by
  apply ResourcePool.ext
  · show {d | d < (s.lease c).states.length} = _
    rw [show (s.lease c).states.length = s.states.length from length_modifyState _]
    rfl
  · ext d
    show (s.modifyState c _).inUse d = true ↔ d ∈ insert c {d | s.inUse d = true}
    rw [inUse_modifyState, Set.mem_insert_iff, Set.mem_ofPred_eq]
    by_cases hd : d = c
    · subst hd
      simp [List.getElem?_eq_getElem hc]
    · unfold ConnectionPool.inUse
      cases s.states[d]? with
      | none => simp [hd]
      | some u => simp [hd, Ne.symm hd]
  · show {d | d < (s.lease c).states.length ∧ _} = _
    rw [show (s.lease c).states.length = s.states.length from length_modifyState _,
      show (s.lease c).manager = s.manager from manager_modifyState (fun _ => rfl)]
    rfl
  · rfl
  · rfl
  · show Multiset.filterMap PooledConnection.held (↑(s.leases ++ [_] : List PooledConnection)) = _
    rw [← Multiset.coe_add, Multiset.filterMap_add, add_comm]
    rfl
  · rfl
  · rfl

/-- A listed connection is in the book. -/
theorem view_push (uri : String) :
    view { s with connections := s.connections.push uri c } xs = (view s xs).enlist c := by
  have hperm : ((s.connections.push uri c).values : Multiset Nat) = c ::ₘ s.listed :=
    Multiset.coe_eq_coe.mpr (Multimap.values_push s.connections uri c)
  apply ResourcePool.ext
  case listed => exact hperm
  all_goals rfl

/-- A connection that is created is on no list. -/
theorem view_create {u : PooledConnectionState} (hidle : u.inUse = false)
    (hup : u.manager.isTerminal = false) :
    view { s with states := s.states ++ [u] } xs = (view s xs).learn s.states.length := by
  have hlast : ∀ d, d < (s.states ++ [u]).length ↔ d = s.states.length ∨ d < s.states.length := by
    intro d
    rw [List.length_append, List.length_singleton]
    omega
  apply ResourcePool.ext
  · ext d
    exact hlast d
  · ext d
    show ((s.states ++ [u])[d]?).elim false _ = true ↔ (s.states[d]?).elim false _ = true
    rcases Nat.lt_trichotomy d s.states.length with hd | rfl | hd
    · rw [List.getElem?_append_left hd]
    · rw [List.getElem?_concat_length, List.getElem?_eq_none le_rfl]
      simp [hidle]
    · rw [List.getElem?_eq_none hd.le, List.getElem?_eq_none]
      rw [List.length_append, List.length_singleton]
      omega
  · ext d
    show d < (s.states ++ [u]).length ∧
        (((s.states ++ [u])[d]?).elim ConnectionState.idle _).isTerminal = true ↔
      d < s.states.length ∧ ((s.states[d]?).elim ConnectionState.idle _).isTerminal = true
    rw [hlast]
    rcases Nat.lt_trichotomy d s.states.length with hd | rfl | hd
    · rw [List.getElem?_append_left hd]
      simp [hd]
    · rw [List.getElem?_concat_length]
      simp [hup]
    · constructor
      · rintro ⟨h | h, -⟩ <;> omega
      · rintro ⟨h, -⟩
        omega
  all_goals rfl

theorem view_cons_none {x : Point} (hpending : x.pending = []) (hopening : x.opening = none) :
    view s (x ::ₘ xs) = (view s xs).permit x.past.toNat := by
  unfold view permit
  simp only [opening_cons hopening, past_cons, pending_cons, hpending, List.not_mem_nil, false_or,
    Nat.add_assoc]

theorem view_cons_some {x : Point} (hpending : x.pending = []) (hopening : x.opening = some c) :
    view s (x ::ₘ xs) = ((view s xs).expect c).permit x.past.toNat := by
  unfold view permit expect
  simp only [Multiset.filterMap_cons_some _ x xs hopening, past_cons, pending_cons, hpending,
    List.not_mem_nil, false_or, Nat.add_assoc]

end Lease

/-! ## Acquiring -/

/-- What becomes of an acquire that goes on, under an event: it parks past the semaphore, it takes
an idle connection, or it opens one. -/
inductive Obtains (s : ConnectionPool) (uri : String) : Event Nat → Run → Prop
  | parks {lock : Lock} {x : Point} (hpast : x.past = true) (hopening : x.opening = none)
      (hpending : x.pending = []) : Obtains s uri .quiet { pool := { s with lock }, point := x }
  | reuses {c : Nat} (hfind : s.getIdleConnection uri = some c)
      (hup : ConnectionPool.usable (s.manager c) = true) :
      Obtains s uri (.reuse c) { pool := s.lease c, point := .done }
  | opens {connections : Multimap String Nat}
      (hlisted : List.Sublist connections.values s.connections.values) :
      Obtains s uri .opens (({ s with connections } : ConnectionPool).createConnection uri)

section Obtains
variable {s : ConnectionPool} {uri : String} {e : Event Nat} {r : Run}

theorem obtains_dropDead (s : ConnectionPool) (uri : String) (c : Nat) :
    Obtains s uri .opens (s.dropDead uri c) :=
  .opens (Multimap.values_discard s.connections (s.uri c) c)

theorem obtains_useIdle (k : Nat) (s : ConnectionPool) (uri : String) :
    ∃ e, Obtains s uri e (s.useIdle k uri) := by
  unfold ConnectionPool.useIdle
  split
  · exact ⟨_, .opens (List.Sublist.refl s.connections.values)⟩
  · rename_i c hfind
    split
    · rename_i hup
      exact ⟨_, .reuses hfind hup⟩
    · split
      · exact ⟨_, obtains_dropDead s uri c⟩
      · exact ⟨_, .parks rfl rfl rfl⟩

/-- An acquire that finds the lock held parks. -/
theorem obtains_underLock (k n : Nat) (s : ConnectionPool) (uri : String) :
    ∃ e, Obtains s uri e (s.underLock k n (.idle uri)) ∧
      ∀ c, e = .reuse c → s.lock.free = true := by
  unfold ConnectionPool.underLock
  split
  · rename_i hfree
    obtain ⟨e, he⟩ := obtains_useIdle k s uri
    exact ⟨e, he, fun _ _ => hfree⟩
  · exact ⟨.quiet, .parks rfl rfl rfl, fun c hc => by cases hc⟩

theorem Obtains.spawned (h : Obtains s uri e r) : r.spawned = [] := by
  cases h <;> rfl

/-- An idle connection is listed, and not in use. -/
theorem idle_of_find {c : Nat} (h : s.getIdleConnection uri = some c) :
    c ∈ s.listed ∧ s.inUse c = false := by
  unfold ConnectionPool.getIdleConnection at h
  have hidle := List.find?_some h
  rw [Bool.not_eq_true'] at hidle
  exact ⟨Multimap.get_subset _ _ c (List.mem_of_find?_eq_some h), hidle⟩

theorem usable_up {state : ConnectionState} (h : ConnectionPool.usable state = true) :
    state.isTerminal = false := by
  cases state <;> first | rfl | cases h

/-- The entry of an acquire that goes on: its permit was in the semaphore before, or its own. -/
theorem Obtains.step {a : ResourcePool Nat} {rest : Multiset Point} (h : Obtains s uri e r)
    (hknown : ∀ c ∈ s.listed, c < s.states.length) (ha : a = (view s rest).permit 1) :
    Step a e (view r.pool (r.point ::ₘ rest)) := by
  subst ha
  cases h with
  | @parks lock y hpast hopening hpending =>
    rw [view_cons_none hpending hopening, hpast]
    exact Step.quiet (a := (view s rest).permit 1) subset_rfl (fun c hc => .inl hc) le_rfl
  | @reuses c hfind hup =>
    obtain ⟨hlisted, hidle⟩ := idle_of_find hfind
    rw [view_done, view_lease (hknown c hlisted)]
    refine Step.reuse (a := (view s rest).permit 1) hlisted ?_ ?_ rfl
    · exact fun hused => Bool.false_ne_true (hidle.symm.trans hused)
    · exact fun hdown => Bool.false_ne_true ((usable_up hup).symm.trans hdown.2)
  | @opens connections hlisted =>
    have hcreate : view (({ s with connections } : ConnectionPool).createConnection uri).pool rest =
        (view { s with connections } rest).learn s.states.length :=
      view_create (s := { s with connections }) rfl rfl
    have hnew : s.states.length ∉ (view s rest).known := lt_irrefl s.states.length
    rw [view_cons_some rfl rfl, hcreate]
    exact Step.opens (a := (view s rest).permit 1) hnew (Multiset.coe_le.mpr hlisted.subperm)

end Obtains

/-- The entry of an acquire that lists its connection. -/
theorem step_publish {s : ConnectionPool} {uri : String} {c : Nat} {rest : Multiset Point}
    {x : Point} (hc : c < s.states.length) (hpending : x.pending = [])
    (hopening : x.opening = some c) (hpast : x.past = true) :
    Step (view s (x ::ₘ rest)) .publish
      (view (s.publish uri c).pool ((s.publish uri c).point ::ₘ rest)) := by
  have hafter : view (s.publish uri c).pool ((s.publish uri c).point ::ₘ rest) =
      ((view s rest).enlist c).lend c := by
    show view _ (Point.done ::ₘ rest) = _
    rw [view_done, ← view_push uri]
    exact view_lease hc
  rw [hafter, view_cons_some hpending hopening, hpast]
  exact Step.publish (a := ((view s rest).expect c).permit 1) rfl rfl

/-! ## Giving back -/

section Release
variable {s : ConnectionPool} {i : Nat} {l₀ l : PooledConnection}

theorem exists_leases (hi : s.leases[i]? = some l₀) : ∃ others : Multiset PooledConnection,
    (s.leases : Multiset PooledConnection) = l₀ ::ₘ others ∧
      ∀ l, ((s.leases.set i l : List PooledConnection) : Multiset PooledConnection) =
        l ::ₘ others := by
  obtain ⟨hlt, rfl⟩ := List.getElem?_eq_some_iff.mp hi
  exact ⟨(s.leases.eraseIdx i : List PooledConnection),
    (Multiset.coe_eq_coe.mpr (List.getElem_cons_eraseIdx_perm hlt)).symm,
    fun l => Multiset.coe_eq_coe.mpr (List.set_perm_cons_eraseIdx hlt l)⟩

/-- A lease given back is no loan, and its connection is marked as not in use. -/
theorem view_takeBack (hi : s.leases[i]? = some l₀) (hstate : l.state = l₀.state)
    (xs : Multiset Point) : ∃ held : Multiset Nat,
      (view s xs).held = (if l₀.givenBack then held else l.state ::ₘ held) ∧
      view (s.takeBack i l) xs = ((view s xs).unmark l.state).withHeld held := by
  obtain ⟨others, hbefore, hafter⟩ := exists_leases hi
  refine ⟨others.filterMap PooledConnection.held, ?_, ?_⟩
  · show (s.leases : Multiset PooledConnection).filterMap _ = _
    rw [hbefore]
    cases hg : l₀.givenBack with
    | true => exact Multiset.filterMap_cons_none _ _ (by simp [PooledConnection.held, hg])
    | false =>
      exact Multiset.filterMap_cons_some _ _ _ (by simp [PooledConnection.held, hg, hstate])
  · apply ResourcePool.ext
    · show {d | d < (s.markReleased l.state).states.length} = _
      rw [show (s.markReleased l.state).states.length = s.states.length from length_modifyState _]
      rfl
    · ext d
      show (s.modifyState l.state _).inUse d = true ↔ d ∈ {d | s.inUse d = true} \ {l.state}
      rw [inUse_modifyState, Set.mem_sdiff, Set.mem_ofPred_eq, Set.mem_singleton_iff]
      unfold ConnectionPool.inUse
      cases s.states[d]? with
      | none => simp
      | some u =>
        by_cases hd : l.state = d
        · simp [hd]
        · simp [hd, Ne.symm hd]
    · show {d | d < (s.markReleased l.state).states.length ∧
        ((s.markReleased l.state).manager d).isTerminal = true} = _
      rw [show (s.markReleased l.state).states.length = s.states.length from length_modifyState _,
        show (s.markReleased l.state).manager = s.manager from manager_modifyState (fun _ => rfl)]
      rfl
    · rfl
    · rfl
    · show Multiset.filterMap PooledConnection.held
        (↑(s.leases.set i _ : List PooledConnection)) = _
      rw [hafter]
      exact Multiset.filterMap_cons_none _ _ (by simp [PooledConnection.held])
    · rfl
    · show s.semaphore.release.permits + _ = s.semaphore.permits + _ + 1
      rw [Semaphore.permits_release]
      omega

theorem background_release (k n : Nat) :
    Background (s.takeBack i l) (fun _ => False) (s.release k n i l) := by
  unfold ConnectionPool.release
  dsimp only
  split
  · exact background_closeConnection k n l.state _ _
  · exact (Trims.refl _ _).background Point.plain_done

theorem leases_release (k n : Nat) :
    (s.release k n i l).pool.leases = s.leases.set i { l with givenBack := true } :=
  (background_release k n).trims.leases

/-- The entry of a lease given back: the fault is in the second time. -/
theorem step_release (k n : Nat) (hi : s.leases[i]? = some l₀) (hstate : l.state = l₀.state)
    (xs : Multiset Point) :
    Step (view s xs) (if l₀.givenBack then .again else .giveBack)
      (view (s.release k n i l).pool ((s.release k n i l).point ::ₘ
        (xs + ((s.release k n i l).spawned.map Task.point : List Point)))) := by
  obtain ⟨held, hheld, hback⟩ := view_takeBack hi hstate xs
  obtain ⟨listed, hlisted, condemned, hcondemned, hafter⟩ :=
    (background_release (s := s) (i := i) (l := l) k n).view xs
  rw [hback] at hlisted hcondemned hafter
  have hsub : condemned ⊆ (view s xs).condemned := fun c hc => (hcondemned c hc).resolve_right id
  rw [hafter]
  cases hg : l₀.givenBack with
  | true =>
    rw [hg, if_pos rfl] at hheld
    rw [if_pos rfl, ← hheld]
    exact Step.again hlisted hsub
  | false =>
    rw [hg, if_neg Bool.false_ne_true] at hheld
    rw [if_neg Bool.false_ne_true]
    exact Step.giveBack hheld hlisted hsub

end Release

end JetSocket.Pooling
