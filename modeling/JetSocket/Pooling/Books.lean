import JetSocket.Lib.ResourcePool
import JetSocket.Pooling.ConnectionPool

/- The pool as a pool that lends resources: `books` reads the book off the pool and off where its
   tasks are suspended, and every step is an entry of the book (`books_step`).

   An acquire past the semaphore holds its permit until it has a lease; from the start of
   `manager.connect()` until the connection is listed, the connection is on its way in. A loop's
   pass condemns what it has collected. The faults of the book are two: an acquire past the
   semaphore is cancelled (`Loses`), and a lease is given back that was (`Again`). -/
namespace JetSocket.Pooling
open TaskPool ResourcePool

namespace Point

/-- An acquire that runs with a permit. -/
def past : Point → Bool
  | .locking (.idle _) | .locking (.dead _ _) | .locking (.publish _ _) | .connecting _ _ => true
  | _ => false

/-- The connection that an acquire connects, or is about to list. -/
def opening : Point → Option Nat
  | .connecting _ c | .locking (.publish _ c) => some c
  | _ => none

/-- What a loop's pass has yet to close. -/
def pending : Point → List Nat
  | .closing _ (.sweep _ rest) | .locking (.removeThen _ _ rest) => rest
  | _ => []

/-- No part of the book. -/
def Plain (x : Point) : Prop := x.past = false ∧ x.opening = none ∧ x.pending = []

theorem plain_done : done.Plain := ⟨rfl, rfl, rfl⟩

end Point

/-- The connection of a lease that is not given back. -/
def PooledConnection.held (l : PooledConnection) : Option Nat :=
  if l.givenBack then none else some l.state

/-- The book, where tasks are suspended at `xs`. -/
def view (s : ConnectionPool) (xs : Multiset Point) : ResourcePool Nat where
  known := {c | c < s.states.length}
  used := {c | s.inUse c = true}
  down := {c | c < s.states.length ∧ (s.manager c).isTerminal = true}
  condemned := {c | c ∈ s.touched ∨ ∃ x ∈ xs, c ∈ x.pending}
  listed := (s.listed : Multiset Nat)
  held := (s.leases : Multiset PooledConnection).filterMap PooledConnection.held
  opening := xs.filterMap Point.opening
  spare := s.semaphore.permits + xs.countP (fun x => x.past = true)

namespace Pool

def points (p : Pool) : Multiset Point := (p.tasks : Multiset Task).map Task.point

def books (p : Pool) : ResourcePool Nat := view p.shared p.points

end Pool

section View
variable {s : ConnectionPool} {xs ys : Multiset Point} {x : Point}

theorem opening_cons (h : x.opening = none) :
    (x ::ₘ xs).filterMap Point.opening = xs.filterMap Point.opening :=
  Multiset.filterMap_cons_none x xs h

theorem past_cons (x : Point) (xs : Multiset Point) :
    (x ::ₘ xs).countP (fun x => x.past = true) =
      xs.countP (fun x => x.past = true) + x.past.toNat := by
  rw [Multiset.countP_cons]
  cases x.past <;> rfl

theorem pending_cons (c : Nat) :
    (∃ y ∈ x ::ₘ xs, c ∈ y.pending) ↔ c ∈ x.pending ∨ ∃ y ∈ xs, c ∈ y.pending := by
  simp only [Multiset.mem_cons, exists_eq_or_imp]

/-- Tasks with no part in the book leave no trace in it. -/
theorem view_add (h : ∀ y ∈ ys, y.Plain) : view s (xs + ys) = view s xs := by
  induction ys using Multiset.induction_on with
  | empty => rw [add_zero]
  | cons y ys ih =>
    obtain ⟨hpast, hopening, hpending⟩ := h y (Multiset.mem_cons_self y ys)
    rw [Multiset.add_cons, ← ih (fun z hz => h z (Multiset.mem_cons_of_mem hz))]
    unfold view
    simp only [opening_cons hopening, past_cons, hpast, pending_cons, hpending, Bool.toNat_false,
      add_zero, List.not_mem_nil, false_or]

theorem inUse_congr {q : ConnectionPool} (h : q.states = s.states) : q.inUse = s.inUse := by
  funext c
  unfold ConnectionPool.inUse
  rw [h]

theorem manager_congr {q : ConnectionPool} (h : q.states = s.states) : q.manager = s.manager := by
  funext c
  unfold ConnectionPool.manager
  rw [h]

theorem view_done : view s (Point.done ::ₘ xs) = view s xs := by
  unfold view
  simp only [opening_cons (show Point.done.opening = none from rfl), past_cons, pending_cons]
  simp [Point.past, Point.pending]

end View

/-! ## What runs in the background -/

/-- `q` is `s` after connections have left the list, and some with `P` have been touched. -/
structure Trims (s : ConnectionPool) (P : Nat → Prop) (q : ConnectionPool) : Prop where
  config : q.config = s.config
  states : q.states = s.states
  leases : q.leases = s.leases
  permits : q.semaphore.permits = s.semaphore.permits
  listed : List.Sublist q.listed s.listed
  touched : ∀ c ∈ q.touched, c ∈ s.touched ∨ P c

/-- A task trims the pool, and comes to a point outside the book, but for some with `P` that it has
yet to close. -/
structure Background (s : ConnectionPool) (P : Nat → Prop) (r : Run) : Prop where
  trims : Trims s P r.pool
  past : r.point.past = false
  opening : r.point.opening = none
  pending : ∀ c ∈ r.point.pending, P c
  spawned : ∀ t ∈ r.spawned, t.point.Plain

section Background
variable {s q : ConnectionPool} {P Q : Nat → Prop} {r : Run}

theorem Trims.refl (s : ConnectionPool) (P : Nat → Prop) : Trims s P s :=
  ⟨rfl, rfl, rfl, rfl, List.Sublist.refl _, fun _ hc => .inl hc⟩

theorem Trims.trans {t : ConnectionPool} (h : Trims s P q) (h' : Trims q P t) : Trims s P t where
  config := h'.config.trans h.config
  states := h'.states.trans h.states
  leases := h'.leases.trans h.leases
  permits := h'.permits.trans h.permits
  listed := h'.listed.trans h.listed
  touched c hc := (h'.touched c hc).elim (h.touched c) .inr

theorem Trims.mono (h : Trims s P q) (hPQ : ∀ c, P c → Q c) : Trims s Q q :=
  { h with touched := fun c hc => (h.touched c hc).imp_right (hPQ c) }

theorem Background.after (h : Background q P r) (hq : Trims s P q) : Background s P r :=
  { h with trims := hq.trans h.trims }

theorem Background.mono (h : Background s P r) (hPQ : ∀ c, P c → Q c) : Background s Q r :=
  { h with
    trims := h.trims.mono hPQ
    pending := fun c hc => hPQ c (h.pending c hc) }

/-- The task comes to a point outside the book. -/
theorem Trims.background {x : Point} (h : Trims s P q) (hx : x.Plain) :
    Background s P { pool := q, point := x } where
  trims := h
  past := hx.1
  opening := hx.2.1
  pending c hc := by
    rw [hx.2.2] at hc
    exact absurd hc List.not_mem_nil
  spawned _ ht := absurd ht List.not_mem_nil

theorem trims_lock (s : ConnectionPool) (P : Nat → Prop) (lock : Lock) :
    Trims s P { s with lock } :=
  ⟨rfl, rfl, rfl, rfl, List.Sublist.refl _, fun _ hc => .inl hc⟩

theorem trims_touch (s : ConnectionPool) {c : Nat} (hc : P c) :
    Trims s P { s with touched := s.touched ++ [c] } where
  config := rfl
  states := rfl
  leases := rfl
  permits := rfl
  listed := List.Sublist.refl _
  touched d hd := by
    rcases List.mem_append.mp hd with hd | hd
    · exact .inl hd
    · exact .inr (List.mem_singleton.mp hd ▸ hc)

theorem trims_removeConnection (s : ConnectionPool) (P : Nat → Prop) (c : Nat) :
    Trims s P (s.removeConnection c) :=
  ⟨rfl, rfl, rfl, rfl, Multimap.values_discard _ _ _, fun _ hd => .inl hd⟩

/-- A pass touches what it is to close, and nothing else. -/
theorem background_closeNext (k : Nat) (loop : Loop) (cs : List Nat) (s : ConnectionPool) :
    Background s (· ∈ cs) (s.closeNext k loop cs) := by
  induction cs generalizing s with
  | nil =>
    unfold ConnectionPool.closeNext
    split
    · exact (Trims.refl s _).background Point.plain_done
    · exact (Trims.refl s _).background ⟨rfl, rfl, rfl⟩
  | cons c rest ih =>
    have htouch : Trims s (· ∈ c :: rest) { s with touched := s.touched ++ [c] } :=
      trims_touch s List.mem_cons_self
    have hlater : ∀ d, d ∈ rest → d ∈ c :: rest := fun d hd => List.mem_cons_of_mem c hd
    unfold ConnectionPool.closeNext
    dsimp only
    split
    · split
      · exact ((ih _).mono hlater).after (htouch.trans (trims_removeConnection _ _ c))
      · exact ⟨htouch.trans (trims_lock _ _ _), rfl, rfl, hlater,
          fun t ht => absurd ht List.not_mem_nil⟩
    · exact ⟨htouch, rfl, rfl, hlater, fun t ht => absurd ht List.not_mem_nil⟩

/-- What a pass collects is listed, and not in use. -/
theorem background_sweep (k : Nat) (loop : Loop) (s : ConnectionPool) :
    Background s (fun c => c ∈ s.listed ∧ s.inUse c = false) (s.sweep k loop) := by
  unfold ConnectionPool.sweep
  refine (background_closeNext k loop _ s).mono (fun c hc => ?_)
  obtain ⟨hlisted, hcollects⟩ := List.mem_filter.mp hc
  refine ⟨hlisted, ?_⟩
  unfold ConnectionPool.collects at hcollects
  rw [Bool.and_eq_true, Bool.not_eq_true'] at hcollects
  exact hcollects.1

theorem trims_clear (s : ConnectionPool) (P : Nat → Prop) : Trims s P s.clear :=
  ⟨rfl, rfl, rfl, rfl, List.nil_sublist _, fun _ hc => .inl hc⟩

theorem background_closeAll (n : Nat) (s : ConnectionPool) (P : Nat → Prop) :
    Background s P (s.closeAll n) := by
  unfold ConnectionPool.closeAll
  split
  · exact (trims_clear s P).background Point.plain_done
  · refine ⟨trims_lock s P _, rfl, rfl, fun c hc => absurd hc List.not_mem_nil, fun t ht => ?_⟩
    obtain ⟨c, -, rfl⟩ := List.mem_map.mp ht
    exact ⟨rfl, rfl, rfl⟩

/-- What a pass has yet to close, and what it may collect. -/
def Picked (s : ConnectionPool) (x : Point) (c : Nat) : Prop :=
  c ∈ x.pending ∨ c ∈ s.listed ∧ s.inUse c = false

/-- Everything under the lock but the work of `acquire`. -/
theorem background_body (k n : Nat) {b : Body} (s : ConnectionPool)
    (hb : (Point.locking b).past = false) :
    Background s (Picked s (.locking b)) (s.body k n b) := by
  cases b with
  | idle uri | dead uri c | publish uri c => cases hb
  | remove c => exact (trims_removeConnection s _ c).background Point.plain_done
  | scan loop => exact (background_sweep k loop s).mono (fun c => .inr)
  | removeThen loop c rest =>
    exact ((background_closeNext k loop rest _).mono (fun d => .inl)).after
      (trims_removeConnection s _ c)
  | closeAll => exact background_closeAll n s _

theorem background_underLock (k n : Nat) {b : Body} (s : ConnectionPool)
    (hb : (Point.locking b).past = false) (hopening : (Point.locking b).opening = none) :
    Background s (Picked s (.locking b)) (s.underLock k n b) := by
  unfold ConnectionPool.underLock
  split
  · exact background_body k n s hb
  · exact ⟨trims_lock s _ _, hb, hopening, fun c => .inl, fun t ht => absurd ht List.not_mem_nil⟩

/-- Closing what was given back touches nothing. -/
theorem background_closeConnection (k n : Nat) (c : Nat) (s : ConnectionPool) (P : Nat → Prop) :
    Background s P (s.closeConnection k n c) := by
  unfold ConnectionPool.closeConnection
  split
  · unfold ConnectionPool.underLock
    split
    · exact (trims_removeConnection s P c).background Point.plain_done
    · exact (trims_lock s P _).background ⟨rfl, rfl, rfl⟩
  · exact (Trims.refl s P).background ⟨rfl, rfl, rfl⟩

theorem background_joinCleanupTask (k n : Nat) (s : ConnectionPool) :
    Background s (Picked s .done) (s.joinCleanupTask k n) := by
  unfold ConnectionPool.joinCleanupTask
  split
  · exact ⟨Trims.refl s _, rfl, rfl, fun c hc => absurd hc List.not_mem_nil,
      fun t ht => absurd ht List.not_mem_nil⟩
  · exact background_underLock (b := .closeAll) k n s rfl rfl

theorem background_close (k n : Nat) (s : ConnectionPool) :
    Background s (Picked s .done) (s.close k n) := by
  have hclosed : Trims s (Picked s .done) { s with closed := true } :=
    ⟨rfl, rfl, rfl, rfl, List.Sublist.refl _, fun _ hc => .inl hc⟩
  unfold ConnectionPool.close
  dsimp only
  split
  · exact ⟨hclosed, rfl, rfl, fun c hc => absurd hc List.not_mem_nil,
      fun t ht => absurd ht List.not_mem_nil⟩
  · have hjoin : Background { s with closed := true } (Picked s .done)
        (({ s with closed := true } : ConnectionPool).joinCleanupTask k n) :=
      background_joinCleanupTask k n _
    exact hjoin.after hclosed

/-- The book after what runs in the background. -/
theorem Background.view (h : Background s P r) (rest : Multiset Point) :
    ∃ listed ≤ (Pooling.view s rest).listed, ∃ condemned : Set Nat,
      (∀ c ∈ condemned, c ∈ (Pooling.view s rest).condemned ∨ P c) ∧
      Pooling.view r.pool (r.point ::ₘ (rest + (r.spawned.map Task.point : List Point))) =
        (Pooling.view s rest).trim listed condemned := by
  have hplain : ∀ y ∈ ((r.spawned.map Task.point : List Point) : Multiset Point), y.Plain := by
    intro y hy
    obtain ⟨t, ht, rfl⟩ := List.mem_map.mp (Multiset.mem_coe.mp hy)
    exact h.spawned t ht
  rw [← Multiset.cons_add, view_add hplain]
  refine ⟨r.pool.listed, Multiset.coe_le.mpr h.trims.listed.subperm,
    {c | c ∈ r.pool.touched ∨ ∃ y ∈ r.point ::ₘ rest, c ∈ y.pending}, ?_, ?_⟩
  · rintro c (hc | hc)
    · exact (h.trims.touched c hc).imp_left .inl
    · rcases (pending_cons c).mp hc with hc | hc
      · exact .inr (h.pending c hc)
      · exact .inl (.inr hc)
  · apply ResourcePool.ext
    · show {c | c < r.pool.states.length} = {c | c < s.states.length}
      rw [h.trims.states]
    · show {c | r.pool.inUse c = true} = {c | s.inUse c = true}
      rw [inUse_congr h.trims.states]
    · show {c | c < r.pool.states.length ∧ _} = {c | c < s.states.length ∧ _}
      rw [h.trims.states, manager_congr h.trims.states]
    · rfl
    · rfl
    · show (r.pool.leases : Multiset PooledConnection).filterMap _ = _
      rw [h.trims.leases]
      rfl
    · exact opening_cons h.opening
    · show r.pool.semaphore.permits + _ = s.semaphore.permits + _
      rw [h.trims.permits, past_cons, h.past]
      rfl

/-- What runs in the background makes a quiet entry. -/
theorem Background.step {x : Point} {rest : Multiset Point} (h : Background s (Picked s x) r)
    (hpast : x.past = false) (hopening : x.opening = none) :
    Step (Pooling.view s (x ::ₘ rest)) .quiet
      (Pooling.view r.pool (r.point ::ₘ (rest + (r.spawned.map Task.point : List Point)))) := by
  have hbefore : Pooling.view s (x ::ₘ rest) = (Pooling.view s rest).trim
      (Pooling.view s rest).listed ((Pooling.view s rest).condemned ∪ {c | c ∈ x.pending}) := by
    apply ResourcePool.ext
    case condemned =>
      ext c
      show (c ∈ s.touched ∨ _) ↔ (c ∈ s.touched ∨ _) ∨ _
      rw [pending_cons, or_comm (a := c ∈ x.pending), ← or_assoc]
      rfl
    case opening => exact opening_cons hopening
    case spare =>
      show s.semaphore.permits + _ = s.semaphore.permits + _
      rw [past_cons, hpast]
      rfl
    all_goals rfl
  obtain ⟨listed, hlisted, condemned, hcondemned, hafter⟩ := h.view rest
  rw [hbefore, hafter]
  refine Step.quiet (a := (Pooling.view s rest).trim (Pooling.view s rest).listed
    ((Pooling.view s rest).condemned ∪ {c | c ∈ x.pending})) subset_rfl (fun c hc => ?_) hlisted
  rcases hcondemned c hc with hold | (hpending | ⟨hlist, hidle⟩)
  · exact .inl (.inl hold)
  · exact .inl (.inr hpending)
  · exact .inr ⟨hlist, fun hused => Bool.false_ne_true (hidle.symm.trans hused)⟩

end Background
end JetSocket.Pooling
