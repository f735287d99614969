import JetSocket.Pooling.Acquiring

/- The entries that the pool's steps make in its book.

   `Entry` is what the event of a step tells: the two faults, whether it opens a connection,
   whether it hands out an idle one, whether a WebSocket leaves a terminal state, and what becomes
   of the leases.

   What is proved:
     `books_step` — every step is an entry of the book, under an event that `Entry` allows. -/
namespace JetSocket.Pooling
open TaskPool ResourcePool

namespace Pool
variable {p : Pool} {k : Nat}

theorem points_flag (p : Pool) (ks : List Nat) : (flag p ks).points = p.points := by
  have hlist : (flag p ks).tasks.map Task.point = p.tasks.map Task.point := by
    apply List.ext_getElem?
    intro j
    simp only [flag, List.getElem?_map, List.getElem?_mapIdx, Option.map_map]
    congr 1
    funext t
    by_cases hj : j ∈ ks <;> simp [hj]
  exact congrArg (fun l : List Point => (l : Multiset Point)) hlist

/-- A cancellation is not seen in the book. -/
theorem books_interrupt (p : Pool) (k : Nat) (x : Point) : (p.interrupt k x).books = p.books := by
  have hflag : ∀ q : Pool, view q.shared (flag q [k]).points = q.books := fun q => by
    rw [points_flag]
    rfl
  cases x with
  | waitPermit uri =>
    exact hflag (p.share { p.shared with semaphore := p.shared.semaphore.cancel k })
  | locking b => exact hflag (p.share { p.shared with lock := p.shared.lock.cancel k })
  | connecting uri c | closing c next | sleeping loop => exact hflag p
  | joinHealth j | joinCleanup j | gathering cs | done => rfl

theorem books_cancel (p : Pool) (k : Nat) : (p.cancel k).books = p.books := by
  unfold cancel
  split
  · rfl
  · split
    · rfl
    · exact books_interrupt p _ _
  · split
    · rfl
    · exact books_interrupt p _ _
  · unfold books
    rw [points_flag]
    rfl
  · exact books_interrupt p k _

theorem books_cancelOpt (p : Pool) (k : Option Nat) : (cancelOpt p k).books = p.books := by
  cases k with
  | none => rfl
  | some k => exact books_cancel p k

theorem books_enter (p : Pool) (r : Run) :
    (p.enter r).books =
      view r.pool (r.point ::ₘ (p.points + (r.spawned.map Task.point : List Point))) := by
  unfold enter
  rw [books_cancelOpt]
  unfold books
  congr 1
  show ((p.tasks ++ _ :: r.spawned : List Task) : Multiset Task).map Task.point = _
  rw [← Multiset.coe_add, Multiset.map_add, ← Multiset.cons_coe, Multiset.map_cons,
    Multiset.add_cons]
  rfl

/-- A cancellation changes the semaphore and the lock only. -/
theorem shared_interrupt (p : Pool) (k : Nat) (x : Point) : ∃ semaphore lock,
    (p.interrupt k x).shared = { p.shared with semaphore := semaphore, lock := lock } := by
  cases x with
  | waitPermit uri => exact ⟨p.shared.semaphore.cancel k, p.shared.lock, rfl⟩
  | locking b => exact ⟨p.shared.semaphore, p.shared.lock.cancel k, rfl⟩
  | connecting uri c | closing c next | sleeping loop | joinHealth j | joinCleanup j | gathering cs
  | done => exact ⟨p.shared.semaphore, p.shared.lock, rfl⟩

theorem shared_cancel (p : Pool) (k : Nat) : ∃ semaphore lock,
    (p.cancel k).shared = { p.shared with semaphore := semaphore, lock := lock } := by
  unfold cancel
  split
  · exact ⟨_, _, rfl⟩
  · split
    · exact ⟨_, _, rfl⟩
    · exact shared_interrupt p _ _
  · split
    · exact ⟨_, _, rfl⟩
    · exact shared_interrupt p _ _
  · exact ⟨_, _, rfl⟩
  · exact shared_interrupt p k _

theorem shared_cancelOpt (p : Pool) (k : Option Nat) : ∃ semaphore lock,
    (cancelOpt p k).shared = { p.shared with semaphore := semaphore, lock := lock } := by
  cases k with
  | none => exact ⟨_, _, rfl⟩
  | some k => exact shared_cancel p k

theorem shared_run (p : Pool) (k : Nat) (r : Run) : ∃ semaphore lock,
    (p.run k r).shared = { r.pool with semaphore := semaphore, lock := lock } :=
  shared_cancelOpt _ r.cancels

theorem shared_enter (p : Pool) (r : Run) : ∃ semaphore lock,
    (p.enter r).shared = { r.pool with semaphore := semaphore, lock := lock } :=
  shared_cancelOpt _ r.cancels

theorem leases_run (p : Pool) (k : Nat) (r : Run) : (p.run k r).shared.leases = r.pool.leases := by
  obtain ⟨semaphore, lock, h⟩ := shared_run p k r
  rw [h]

theorem leases_enter (p : Pool) (r : Run) : (p.enter r).shared.leases = r.pool.leases := by
  obtain ⟨semaphore, lock, h⟩ := shared_enter p r
  rw [h]

/-- The book before and after task `k` goes on. -/
theorem exists_rest {t : Task} (hk : p.tasks[k]? = some t) : ∃ rest : Multiset Point,
    p.books = view p.shared (t.point ::ₘ rest) ∧ ∀ r : Run, (p.run k r).books =
      view r.pool (r.point ::ₘ (rest + (r.spawned.map Task.point : List Point))) := by
  obtain ⟨others, hbefore, hafter⟩ := TaskPool.Pool.exists_others hk
  refine ⟨others.map Task.point, ?_, fun r => ?_⟩
  · unfold books points
    rw [hbefore, Multiset.map_cons]
  · unfold run
    rw [books_cancelOpt]
    unfold books points
    rw [hafter, Multiset.map_cons, Multiset.map_add]
    rfl

/-! ### What a step is -/

/-- An acquire past the semaphore is cancelled. -/
def loses (p : Pool) : Input → Bool
  | .resume k => (p.tasks[k]?).any (fun t => t.cancelled && t.point.past)
  | _ => false

/-- A lease is given back that was. -/
def again (p : Pool) : Input → Bool
  | .release i => (p.shared.leases[i]?).any (fun l => !l.released && l.givenBack)
  | .poolRelease i => (p.shared.leases[i]?).any PooledConnection.givenBack
  | _ => false

/-- A WebSocket leaves a terminal state. -/
def revives (p : Pool) : Input → Bool
  | .moves c state => (p.shared.manager c).isTerminal && !state.isTerminal
  | _ => false

/-- The step runs `_get_idle_connection`. -/
def looksUp (p : Pool) : Input → Option String
  | .acquire uri =>
    if p.shared.closed || p.shared.semaphore.locked || !p.shared.lock.free then none else some uri
  | .resume k =>
    match p.tasks[k]? with
    | some { point := .waitPermit uri, cancelled := false } =>
      if p.shared.lock.free then some uri else none
    | some { point := .locking (.idle uri), cancelled := false } => some uri
    | _ => none
  | _ => none

end Pool

/-- What becomes of the leases under an event. -/
def Leased (p : Pool) (i : Input) (p' : Pool) : Event Nat → Prop
  | .reuse _ | .publish =>
    ∃ c, p'.shared.leases = p.shared.leases ++
      [{ state := c, released := false, givenBack := false, late := p.shared.closeReturned }]
  | .giveBack | .again =>
    ∃ j l, p.shared.leases[j]? = some l ∧
      (i = .release j ∧ l.released = false ∧
          p'.shared.leases = p.shared.leases.set j { l with released := true, givenBack := true } ∨
        i = .poolRelease j ∧ p'.shared.leases = p.shared.leases.set j { l with givenBack := true })
  | _ => p'.shared.leases = p.shared.leases

/-- The event of a step. -/
structure Entry (p : Pool) (i : Input) (p' : Pool) (e : Event Nat) : Prop where
  leases : Leased p i p' e
  lost : e = .lost ↔ p.loses i = true
  again : e = .again ↔ p.again i = true
  revive : e = .revive → p.revives i = true
  opens : e = .opens → p.shared.states.length < p'.shared.states.length
  reuse : ∀ c, e = .reuse c →
    ∃ uri, p.looksUp i = some uri ∧ p.shared.getIdleConnection uri = some c ∧
      ConnectionPool.usable (p.shared.manager c) = true

/-- A step that is no fault, opens no connection and hands out none. -/
theorem Entry.plain {p p' : Pool} {i : Input} {e : Event Nat}
    (he : e = .quiet ∨ e = .publish ∨ e = .fails ∨ e = .giveBack) (hleases : Leased p i p' e)
    (hloses : p.loses i = false) (hagain : p.again i = false) : Entry p i p' e := by
  rcases he with rfl | rfl | rfl | rfl <;>
  exact
    { leases := hleases
      lost := by simp [hloses]
      again := by simp [hagain]
      revive := fun h => by cases h
      opens := fun h => by cases h
      reuse := fun c h => by cases h }

section Step
variable {p p' : Pool} {i : Input} {k : Nat} {t : Task} {r : Run}

/-- Task `k` goes on in the background. -/
theorem run_background (hk : p.tasks[k]? = some t) (hpast : t.point.past = false)
    (hopening : t.point.opening = none) (h : Background p.shared (Picked p.shared t.point) r) :
    Step p.books .quiet (p.run k r).books ∧ (p.run k r).shared.leases = p.shared.leases := by
  obtain ⟨rest, hbefore, hafter⟩ := Pool.exists_rest hk
  rw [hbefore, hafter, Pool.leases_run]
  exact ⟨h.step hpast hopening, h.trims.leases⟩

/-- A call that works in the background. -/
theorem enter_background (h : Background p.shared (Picked p.shared .done) r) :
    Step p.books .quiet (p.enter r).books ∧ (p.enter r).shared.leases = p.shared.leases := by
  have hbefore : p.books = view p.shared (Point.done ::ₘ p.points) := view_done.symm
  rw [Pool.books_enter, hbefore, Pool.leases_enter]
  exact ⟨h.step rfl rfl, h.trims.leases⟩

/-- An acquire goes on, or a new one does. -/
theorem entry_obtains {s : ConnectionPool} {uri : String} {e : Event Nat}
    (h : Obtains s uri e r) (hstates : s.states = p.shared.states)
    (hleases : s.leases = p.shared.leases) (hlate : s.closeReturned = p.shared.closeReturned)
    (hp' : ∃ semaphore lock, p'.shared = { r.pool with semaphore := semaphore, lock := lock })
    (hloses : p.loses i = false) (hagain : p.again i = false)
    (hlooks : ∀ c, e = .reuse c → p.looksUp i = some uri ∧
      p.shared.getIdleConnection uri = s.getIdleConnection uri) : Entry p i p' e := by
  obtain ⟨semaphore, lock, hp'⟩ := hp'
  cases h with
  | parks =>
    refine Entry.plain (.inl rfl) ?_ hloses hagain
    show p'.shared.leases = _
    rw [hp']
    exact hleases
  | @reuses c hfind hup =>
    exact
      { leases := by
          refine ⟨c, ?_⟩
          rw [hp', ← hleases, ← hlate]
          rfl
        lost := by simp [hloses]
        again := by simp [hagain]
        revive := fun h => by cases h
        opens := fun h => by cases h
        reuse := by
          intro d hd
          cases hd
          obtain ⟨hlook, hsame⟩ := hlooks c rfl
          rw [manager_congr hstates] at hup
          exact ⟨uri, hlook, hsame.trans hfind, hup⟩ }
  | opens =>
    exact
      { leases := by
          show p'.shared.leases = _
          rw [hp']
          exact hleases
        lost := by simp [hloses]
        again := by simp [hagain]
        revive := fun h => by cases h
        opens := by
          intro _
          rw [hp', ← hstates]
          show s.states.length < (s.states ++ [_]).length
          rw [List.length_append, List.length_singleton]
          exact Nat.lt_succ_self _
        reuse := fun c h => by cases h }

/-- A step's entry. -/
def Entered (p : Pool) (i : Input) (p' : Pool) : Prop :=
  ∃ e, Step p.books e p'.books ∧ Entry p i p' e

/-- A quiet step. -/
theorem entered_quiet (h : Step p.books .quiet p'.books ∧ p'.shared.leases = p.shared.leases)
    (hloses : p.loses i = false) (hagain : p.again i = false) : Entered p i p' :=
  ⟨.quiet, h.1, Entry.plain (.inl rfl) h.2 hloses hagain⟩

theorem entered_same (h : p'.books = p.books) (hleases : p'.shared.leases = p.shared.leases)
    (hloses : p.loses i = false) (hagain : p.again i = false) : Entered p i p' := by
  refine entered_quiet ⟨?_, hleases⟩ hloses hagain
  rw [h]
  exact Step.quiet (a := p.books) subset_rfl (fun c hc => .inl hc) le_rfl

theorem entered_acquire {uri : String} (hknown : ∀ c ∈ p.shared.listed, c < p.shared.states.length)
    (h : p.step (.acquire uri) = some p') : Entered p (.acquire uri) p' := by
  simp only [Pool.step] at h
  split at h
  · cases h
    exact entered_same rfl rfl rfl rfl
  · rename_i hclosed
    cases h
    unfold ConnectionPool.acquire
    split
    · refine entered_same ?_ (Pool.leases_enter _ _) rfl rfl
      rw [Pool.books_enter]
      show view _ (Point.waitPermit uri ::ₘ (p.points + 0)) = _
      rw [add_zero, view_cons_none rfl rfl]
      rfl
    · rename_i hlocked
      rw [Bool.not_eq_true] at hlocked
      obtain ⟨e, he, hfree⟩ := obtains_underLock p.tasks.length (p.tasks.length + 1)
        { p.shared with semaphore := p.shared.semaphore.take } uri
      refine ⟨e, ?_, entry_obtains he rfl rfl rfl (Pool.shared_enter p _) rfl rfl
        (fun c hc => ⟨?_, rfl⟩)⟩
      · rw [Pool.books_enter, he.spawned]
        show Step _ e (view _ (_ ::ₘ (p.points + 0)))
        rw [add_zero]
        refine he.step hknown ?_
        apply ResourcePool.ext
        case spare =>
          show p.shared.semaphore.permits + _ = p.shared.semaphore.take.permits + _ + 1
          have := Semaphore.permits_take hlocked
          omega
        all_goals rfl
      · have hlock : p.shared.lock.free = true := hfree c hc
        simp [Pool.looksUp, hclosed, hlocked, hlock]

/-- A lease is given back, for the first time or again. -/
theorem entry_release {b : Bool} (hleases : Leased p i p' .giveBack) (hloses : p.loses i = false)
    (hagain : p.again i = b) : Entry p i p' (if b then .again else .giveBack) := by
  cases b with
  | false => exact Entry.plain (by simp) hleases hloses hagain
  | true =>
    exact
      { leases := hleases
        lost := by simp [hloses]
        again := ⟨fun _ => hagain, fun _ => rfl⟩
        revive := fun h => by cases h
        opens := fun h => by cases h
        reuse := fun c h => by cases h }

theorem entered_release {j : Nat} (h : p.step (.release j) = some p') :
    Entered p (.release j) p' := by
  obtain ⟨l, hl, hp'⟩ := Option.map_eq_some_iff.mp h
  have hagain : p.again (.release j) = (!l.released && l.givenBack) := by
    show (p.shared.leases[j]?).any _ = _
    rw [hl]
    rfl
  cases hreleased : l.released with
  | true =>
    rw [hreleased, if_pos rfl] at hp'
    subst hp'
    rw [hreleased] at hagain
    exact entered_same rfl rfl rfl hagain
  | false =>
    rw [hreleased, if_neg Bool.false_ne_true] at hp'
    subst hp'
    rw [hreleased] at hagain
    refine ⟨_, ?_, entry_release ⟨j, l, hl, .inl ⟨rfl, hreleased, ?_⟩⟩ rfl hagain⟩
    · rw [Pool.books_enter]
      exact step_release (l := { l with released := true }) _ _ hl rfl p.points
    · rw [Pool.leases_enter]
      exact leases_release (l := { l with released := true }) _ _

theorem entered_poolRelease {j : Nat} (h : p.step (.poolRelease j) = some p') :
    Entered p (.poolRelease j) p' := by
  obtain ⟨l, hl, hp'⟩ := Option.map_eq_some_iff.mp h
  have hagain : p.again (.poolRelease j) = l.givenBack := by
    show (p.shared.leases[j]?).any _ = _
    rw [hl]
    rfl
  subst hp'
  refine ⟨_, ?_, entry_release ⟨j, l, hl, .inr ⟨rfl, ?_⟩⟩ rfl hagain⟩
  · rw [Pool.books_enter]
    exact step_release _ _ hl rfl p.points
  · rw [Pool.leases_enter]
    exact leases_release _ _

/-- A cancelled acquire past the semaphore ends with its permit. -/
theorem entered_lost {s : ConnectionPool} (hk : p.tasks[k]? = some t)
    (hcancelled : t.cancelled = true) (hpast : t.point.past = true) (hpending : t.point.pending = [])
    (hs : ∀ xs, view s xs = view p.shared xs) (hleases : s.leases = p.shared.leases) :
    Entered p (.resume k) (p.run k { pool := s, point := .done }) := by
  obtain ⟨rest, hbefore, hafter⟩ := Pool.exists_rest hk
  have hloses : p.loses (.resume k) = true := by
    show (p.tasks[k]?).any _ = true
    simp [hk, hcancelled, hpast]
  refine ⟨.lost, ?_, ?_⟩
  · rw [hbefore, hafter]
    show Step _ _ (view s (Point.done ::ₘ (rest + 0)))
    rw [add_zero, view_done, hs]
    cases hopening : t.point.opening with
    | none =>
      rw [view_cons_none hpending hopening, hpast]
      exact Step.lost (a := (view p.shared rest).permit 1) le_rfl rfl
    | some c =>
      rw [view_cons_some hpending hopening, hpast]
      exact Step.lost (a := ((view p.shared rest).expect c).permit 1)
        (Multiset.le_cons_self _ _) rfl
  · exact
      { leases := (Pool.leases_run _ _ _).trans hleases
        lost := ⟨fun _ => hloses, fun _ => rfl⟩
        again := by simp [Pool.again]
        revive := fun h => by cases h
        opens := fun h => by cases h
        reuse := fun c h => by cases h }

theorem not_loses (hk : p.tasks[k]? = some t) (h : t.cancelled = false ∨ t.point.past = false) :
    p.loses (.resume k) = false := by
  show (p.tasks[k]?).any _ = false
  rw [hk]
  rcases h with h | h <;> simp [h]

/-- A task that is resumed in the background. -/
theorem resumed_background (hk : p.tasks[k]? = some t) (hpast : t.point.past = false)
    (hopening : t.point.opening = none) (h : Background p.shared (Picked p.shared t.point) r) :
    Entered p (.resume k) (p.run k r) :=
  entered_quiet (run_background hk hpast hopening h) (not_loses hk (.inr hpast)) rfl

/-- An acquire that is resumed goes on. -/
theorem resumed_obtains {s : ConnectionPool} {uri : String} {e : Event Nat}
    (hknown : ∀ c ∈ p.shared.listed, c < p.shared.states.length) (hk : p.tasks[k]? = some t)
    (hcancelled : t.cancelled = false) (hpending : t.point.pending = [])
    (hopening : t.point.opening = none) (he : Obtains s uri e r)
    (hs : ∀ xs, (view p.shared xs).permit t.point.past.toNat = (view s xs).permit 1)
    (hstates : s.states = p.shared.states) (hconnections : s.connections = p.shared.connections)
    (hleases : s.leases = p.shared.leases) (hlate : s.closeReturned = p.shared.closeReturned)
    (hlooks : ∀ c, e = .reuse c → p.looksUp (.resume k) = some uri) :
    Entered p (.resume k) (p.run k r) := by
  obtain ⟨rest, hbefore, hafter⟩ := Pool.exists_rest hk
  have hfind : p.shared.getIdleConnection uri = s.getIdleConnection uri := by
    unfold ConnectionPool.getIdleConnection
    rw [inUse_congr hstates, hconnections]
  refine ⟨e, ?_, entry_obtains he hstates hleases hlate (Pool.shared_run p k r)
    (not_loses hk (.inl hcancelled)) rfl (fun c hc => ⟨hlooks c hc, hfind⟩)⟩
  rw [hbefore, hafter, he.spawned]
  show Step _ e (view _ (_ ::ₘ (rest + 0)))
  rw [add_zero]
  refine he.step ?_ ((view_cons_none hpending hopening).trans (hs rest))
  unfold ConnectionPool.listed
  rw [hconnections, hstates]
  exact hknown

theorem entered_waitPermit {uri : String} {b : Bool}
    (hknown : ∀ c ∈ p.shared.listed, c < p.shared.states.length)
    (hk : p.tasks[k]? = some ⟨.waitPermit uri, b⟩) (h : p.resumed k ⟨.waitPermit uri, b⟩ = some r) :
    Entered p (.resume k) (p.run k r) := by
  simp only [Pool.resumed] at h
  cases b with
  | true =>
    cases h
    -- the permit it was granted, if any, is in the semaphore again
    refine resumed_background hk rfl rfl (Trims.background ?_ Point.plain_done)
    exact ⟨rfl, rfl, rfl, Semaphore.permits_giveUp _ _, List.Sublist.refl _, fun _ hc => .inl hc⟩
  | false =>
    rw [if_neg Bool.false_ne_true] at h
    split at h
    · rename_i hgranted
      cases h
      obtain ⟨e, he, hfree⟩ := obtains_underLock k p.tasks.length
        { p.shared with semaphore := p.shared.semaphore.resume k } uri
      refine resumed_obtains hknown hk rfl rfl rfl he (fun xs => ?_) rfl rfl rfl rfl
        (fun c hc => ?_)
      · apply ResourcePool.ext
        case spare =>
          show p.shared.semaphore.permits + _ + 0 = (p.shared.semaphore.resume k).permits + _ + 1
          have := Semaphore.permits_resume hgranted
          omega
        all_goals rfl
      · have hlock : p.shared.lock.free = true := hfree c hc
        simp [Pool.looksUp, hk, hlock]
    · cases h

/-- An acquire with its connection comes to the list, now or later. -/
theorem entered_publish {s : ConnectionPool} {uri : String} {c : Nat} {b : Bool} {j : Input}
    (hk : p.tasks[k]? = some t) (hopening : t.point.opening = some c) (hpast : t.point.past = true)
    (hpending : t.point.pending = []) (hc : c < p.shared.states.length)
    (hs : s = { p.shared with lock := s.lock }) (hloses : p.loses j = false)
    (hagain : p.again j = false)
    (hr : r = if b then s.publish uri c
      else { pool := { s with lock := s.lock.wait k }, point := .locking (.publish uri c) }) :
    Entered p j (p.run k r) := by
  obtain ⟨rest, hbefore, hafter⟩ := Pool.exists_rest hk
  have hview : ∀ xs, view s xs = view p.shared xs := fun xs => by
    rw [hs]
    rfl
  have hlength : c < s.states.length := by
    rw [hs]
    exact hc
  cases b with
  | true =>
    rw [if_pos rfl] at hr
    subst hr
    refine ⟨.publish, ?_, Entry.plain (.inr (.inl rfl)) ⟨c, ?_⟩ hloses hagain⟩
    · rw [hbefore, hafter, ← hview]
      show Step _ _ (view _ (_ ::ₘ (rest + 0)))
      rw [add_zero]
      exact step_publish hlength hpending hopening hpast
    · rw [Pool.leases_run, hs]
      rfl
  | false =>
    rw [if_neg Bool.false_ne_true] at hr
    subst hr
    refine entered_same ?_ ?_ hloses hagain
    · rw [hbefore, hafter, ← hview, view_cons_some hpending hopening, hpast]
      show view s (Point.locking (.publish uri c) ::ₘ (rest + 0)) = _
      rw [add_zero, view_cons_some rfl rfl]
      rfl
    · rw [Pool.leases_run, hs]

theorem entered_locking {b : Body} {cancelled : Bool}
    (hknown : ∀ c ∈ p.shared.listed, c < p.shared.states.length)
    (hopened : ∀ c, (Point.locking b).opening = some c → c < p.shared.states.length)
    (hk : p.tasks[k]? = some ⟨.locking b, cancelled⟩)
    (h : p.resumed k ⟨.locking b, cancelled⟩ = some r) : Entered p (.resume k) (p.run k r) := by
  simp only [Pool.resumed] at h
  cases cancelled with
  | true =>
    cases h
    cases hpast : (Point.locking b).past with
    | true =>
      refine entered_lost hk rfl hpast ?_ (fun xs => rfl) rfl
      cases b <;> first | rfl | cases hpast
    | false =>
      refine resumed_background hk hpast ?_ ((trims_lock p.shared _ _).background Point.plain_done)
      cases b <;> first | rfl | cases hpast
  | false =>
    rw [if_neg Bool.false_ne_true] at h
    split at h
    · cases h
      have hlock : Trims p.shared (Picked p.shared (.locking b))
          { p.shared with lock := p.shared.lock.handOn } := trims_lock p.shared _ _
      have hbody : (Point.locking b).past = false →
          Background p.shared (Picked p.shared (.locking b))
            (({ p.shared with lock := p.shared.lock.handOn } : ConnectionPool).body k
              p.tasks.length b) := fun hpast =>
        (background_body k p.tasks.length
          { p.shared with lock := p.shared.lock.handOn } hpast).after hlock
      cases b with
      | idle uri =>
        obtain ⟨e, he⟩ := obtains_useIdle k { p.shared with lock := p.shared.lock.handOn } uri
        refine resumed_obtains hknown hk rfl rfl rfl he (fun xs => rfl) rfl rfl rfl rfl
          (fun c hc => ?_)
        simp [Pool.looksUp, hk]
      | dead uri c =>
        exact resumed_obtains hknown hk rfl rfl rfl
          (obtains_dropDead { p.shared with lock := p.shared.lock.handOn } uri c)
          (fun xs => rfl) rfl rfl rfl rfl (fun d hd => by cases hd)
      | publish uri c =>
        exact entered_publish (b := true) hk rfl rfl rfl (hopened c rfl) rfl
          (not_loses hk (.inl rfl)) rfl rfl
      | remove c | scan loop | removeThen loop c rest | closeAll =>
        exact resumed_background hk rfl rfl (hbody rfl)
    · cases h

/-- A task that is resumed elsewhere. -/
theorem entered_resume (hknown : ∀ c ∈ p.shared.listed, c < p.shared.states.length)
    (hopened : ∀ c, t.point.opening = some c → c < p.shared.states.length)
    (hk : p.tasks[k]? = some t) (h : p.resumed k t = some r) :
    Entered p (.resume k) (p.run k r) := by
  obtain ⟨x, cancelled⟩ := t
  cases x with
  | waitPermit uri => exact entered_waitPermit hknown hk h
  | locking b => exact entered_locking hknown hopened hk h
  | connecting uri c =>
    simp only [Pool.resumed] at h
    split at h
    · rename_i hcancelled
      cases h
      exact entered_lost hk hcancelled rfl rfl (fun xs => rfl) rfl
    · cases h
  | closing c next =>
    simp only [Pool.resumed] at h
    split at h
    · cases h
      exact resumed_background hk rfl rfl ((Trims.refl _ _).background Point.plain_done)
    · cases h
  | sleeping loop =>
    simp only [Pool.resumed] at h
    split at h
    · cases h
      exact resumed_background hk rfl rfl ((Trims.refl _ _).background Point.plain_done)
    · cases h
      exact resumed_background hk rfl rfl
        (background_underLock (b := .scan loop) k p.tasks.length p.shared rfl rfl)
  | joinHealth j =>
    simp only [Pool.resumed] at h
    split at h
    · cases h
      have hjoin := background_joinCleanupTask k p.tasks.length
        { p.shared with healthCheckTask := none }
      exact resumed_background hk rfl rfl (hjoin.after (s := p.shared)
        ⟨rfl, rfl, rfl, rfl, List.Sublist.refl _, fun _ hc => .inl hc⟩)
    · cases h
  | joinCleanup j =>
    simp only [Pool.resumed] at h
    split at h
    · cases h
      have hclose := background_underLock (b := .closeAll) k p.tasks.length
        { p.shared with cleanupTask := none } rfl rfl
      exact resumed_background hk rfl rfl (hclose.after (s := p.shared)
        ⟨rfl, rfl, rfl, rfl, List.Sublist.refl _, fun _ hc => .inl hc⟩)
    · cases h
  | gathering children =>
    simp only [Pool.resumed] at h
    split at h
    · split at h
      · cases h
        exact resumed_background hk rfl rfl ((trims_lock _ _ _).background Point.plain_done)
      · cases h
        exact resumed_background hk rfl rfl
          (((trims_lock p.shared _ _).trans (trims_clear _ _)).background Point.plain_done)
    · cases h
  | done => cases h

/-- What follows a call on a manager. -/
theorem entered_returned (hopened : ∀ c, t.point.opening = some c → c < p.shared.states.length)
    (hk : p.tasks[k]? = some t) (hloses : p.loses i = false) (hagain : p.again i = false)
    (h : p.returned k i t = some r) : Entered p i (p.run k r) := by
  obtain ⟨x, cancelled⟩ := t
  unfold Pool.returned at h
  dsimp only at h
  split at h
  · rename_i uri c
    split at h
    · cases h
    · cases h
      unfold ConnectionPool.underLock
      exact entered_publish (b := p.shared.lock.free) hk rfl rfl rfl (hopened c rfl) rfl hloses
        hagain rfl
  · rename_i uri c
    split at h
    · cases h
    · cases h
      obtain ⟨rest, hbefore, hafter⟩ := Pool.exists_rest hk
      refine ⟨.fails, ?_, Entry.plain (.inr (.inr (.inl rfl))) (Pool.leases_run _ _ _) hloses
        hagain⟩
      have hreleased : view { p.shared with semaphore := p.shared.semaphore.release } rest =
          (view p.shared rest).permit 1 := by
        apply ResourcePool.ext
        case spare =>
          show p.shared.semaphore.release.permits + _ = p.shared.semaphore.permits + _ + 1
          rw [Semaphore.permits_release]
          omega
        all_goals rfl
      rw [hbefore, hafter, view_cons_some rfl rfl]
      show Step _ _ (view _ (Point.done ::ₘ (rest + 0)))
      rw [add_zero, view_done, hreleased]
      exact Step.fails (a := ((view p.shared rest).expect c).permit 1) (Multiset.le_cons_self _ _)
  · rename_i c next
    refine entered_quiet ?_ hloses hagain
    cases next with
    | remove =>
      cases h
      exact run_background hk rfl rfl
        (background_underLock (b := .remove c) k p.tasks.length p.shared rfl rfl)
    | sweep loop rest =>
      cases h
      exact run_background hk rfl rfl
        (background_underLock (b := .removeThen loop c rest) k p.tasks.length p.shared rfl rfl)
    | nothing =>
      cases h
      exact run_background hk rfl rfl ((Trims.refl _ _).background Point.plain_done)
  · cases h

/-- A move is seen in what is down. -/
theorem books_moves (p : Pool) (c : Nat) (state : ConnectionState) :
    let s := p.shared.modifyState c (fun u => { u with manager := state })
    Pool.books (TaskPool.Pool.share p s) =
      p.books.withDown {d | d < p.shared.states.length ∧ (s.manager d).isTerminal = true} := by
  intro s
  have hstates : s.states.length = p.shared.states.length := length_modifyState _
  apply ResourcePool.ext
  case known =>
    show {d | d < s.states.length} = {d | d < p.shared.states.length}
    rw [hstates]
  case used =>
    show {d | s.inUse d = true} = {d | p.shared.inUse d = true}
    rw [inUse_moves]
  case down =>
    show {d | d < s.states.length ∧ _} = _
    rw [hstates]
    rfl
  all_goals rfl

/-- Where none leaves a terminal state, what is down stays down. -/
theorem down_moves {c d : Nat} {state : ConnectionState}
    (hrevives : p.revives (.moves c state) = false) (hd : d < p.shared.states.length)
    (hdown : (p.shared.manager d).isTerminal = true) :
    ((p.shared.modifyState c (fun u => { u with manager := state })).manager d).isTerminal =
      true := by
  rw [manager_moves hd]
  split
  · rename_i hcd
    subst hcd
    simpa [Pool.revives, hdown] using hrevives
  · exact hdown

theorem entered_moves {c : Nat} {state : ConnectionState}
    (h : p.step (.moves c state) = some p') : Entered p (.moves c state) p' := by
  simp only [Pool.step] at h
  split at h
  · cases h
    cases hrevives : p.revives (.moves c state) with
    | true =>
      refine ⟨.revive, ?_, ?_⟩
      · rw [books_moves]
        exact Step.revive
      · exact
          { leases := rfl
            lost := by simp [Pool.loses]
            again := by simp [Pool.again]
            revive := fun _ => hrevives
            opens := fun h => by cases h
            reuse := fun c h => by cases h }
    | false =>
      refine entered_quiet ⟨?_, rfl⟩ rfl rfl
      rw [books_moves]
      exact Step.quiet (fun d hd => ⟨hd.1, down_moves hrevives hd.1 hd.2⟩) (fun d hd => .inl hd)
        le_rfl
  · cases h

end Step

/-- **Every step** makes an entry in the book. -/
theorem books_step {p p' : Pool} {i : Input} (hbooks : p.books.Known) (h : p.step i = some p') :
    ∃ e, Step p.books e p'.books ∧ Entry p i p' e := by
  have hknown : ∀ c ∈ p.shared.listed, c < p.shared.states.length :=
    fun c hc => hbooks.listed_known c (Multiset.mem_coe.mpr hc)
  have hopened : ∀ (k : Nat) (t : Task), p.tasks[k]? = some t → ∀ c, t.point.opening = some c →
      c < p.shared.states.length := by
    intro k t hk c hc
    have ht : t.point ∈ p.points :=
      Multiset.mem_map_of_mem Task.point (Multiset.mem_coe.mpr (List.mem_of_getElem? hk))
    exact hbooks.opening_known c ((Multiset.mem_filterMap Point.opening p.points).mpr ⟨_, ht, hc⟩)
  cases i with
  | acquire uri => exact entered_acquire hknown h
  | release j => exact entered_release h
  | poolRelease j => exact entered_poolRelease h
  | close =>
    cases h
    exact entered_quiet (enter_background (background_close _ _ p.shared)) rfl rfl
  | start =>
    cases h
    refine entered_quiet ?_ rfl rfl
    exact enter_background (r := {
      pool := { p.shared with
        healthCheckTask := some p.tasks.length, cleanupTask := some (p.tasks.length + 1) }
      point := .sleeping .healthCheck
      spawned := [{ point := .sleeping .cleanup }] })
      ⟨⟨rfl, rfl, rfl, rfl, List.Sublist.refl _, fun _ hc => .inl hc⟩, rfl, rfl,
        fun c hc => absurd hc List.not_mem_nil, fun t ht => by
          rw [List.mem_singleton] at ht
          subst ht
          exact ⟨rfl, rfl, rfl⟩⟩
  | cancel k =>
    simp only [Pool.step] at h
    split at h
    · cases h
      obtain ⟨semaphore, lock, hshared⟩ := Pool.shared_cancel p k
      exact entered_same (Pool.books_cancel p k) (by rw [hshared]) rfl rfl
    · cases h
  | resume k =>
    obtain ⟨t, hk, h⟩ := Option.bind_eq_some_iff.mp h
    obtain ⟨r, hr, rfl⟩ := Option.map_eq_some_iff.mp h
    exact entered_resume hknown (hopened k t hk) hk hr
  | connected k | connectRaises k | closeEnds k =>
    obtain ⟨t, hk, h⟩ := Option.bind_eq_some_iff.mp h
    obtain ⟨r, hr, rfl⟩ := Option.map_eq_some_iff.mp h
    exact entered_returned (hopened k t hk) hk rfl rfl hr
  | moves c state => exact entered_moves h
  | advance d =>
    simp only [Pool.step] at h
    split at h
    · cases h
      exact entered_same rfl rfl rfl rfl
    · cases h

end JetSocket.Pooling
