import JetSocket.Pooling.Entries
import JetSocket.Pooling.Tidying

/- The invariant behind every open connection having an owner.

   `Tidy`: outside the list, connections are being opened or in a terminal state, each task has what
   it relies on, and what `close` gathers covers the list. A task that goes on keeps it
   (`Tidy.run`), as does a call (`Tidy.enter`), where what it leaves is as `Tidies` has it. -/
namespace JetSocket.Pooling
open TaskPool

/-- Every connection that is not in a terminal state is listed, or an acquire is connecting it. -/
def Listed (p : Pool) : Prop :=
  ∀ c, c < p.shared.states.length → p.shared.shut c = false →
    c ∈ p.shared.listed ∨ ∃ t ∈ p.tasks, t.point.opening = some c

/-- When `close` has returned, every connection is in a terminal state, and no acquire returns a
lease. -/
def ClosedDown (p : Pool) : Prop :=
  p.shared.closeReturned = true →
    (∀ c, c < p.shared.states.length → p.shared.shut c = true) ∧
      ∀ l ∈ p.shared.leases, l.late = false

/-- What `close` gathers covers the list. -/
def Gathered (p : Pool) : Prop :=
  ∀ (g : Nat) (t : Task) (children : List Nat), p.tasks[g]? = some t →
    t.point = .gathering children → t.cancelled = false → ∀ c ∈ p.shared.listed,
      p.shared.shut c = true ∨
        ∃ j ∈ children, (p.tasks[j]?).map Task.point = some (.closing c .nothing)

structure Tidy (p : Pool) : Prop where
  listed : Listed p
  sound : ∀ (j : Nat) (t : Task), p.tasks[j]? = some t → t.point.Sound p.shared
  gathered : Gathered p
  closed : p.shared.closeReturned = true → p.shared.closed = true ∧
    ∀ c, c < p.shared.states.length → p.shared.shut c = true
  late : ∀ l ∈ p.shared.leases, l.late = false

/-! ## The tasks after a step -/

namespace Pool
variable {p : Pool} {k j : Nat} {t t' : Task} {r : Run}

/-- A cancellation is noted in a task, and changes it no further. -/
def Flagged (p q : Pool) : Prop :=
  ∀ j : Nat, ∃ f : Task → Task, q.tasks[j]? = (p.tasks[j]?).map f ∧
    ∀ t, (f t).point = t.point ∧ (t.cancelled = true → (f t).cancelled = true)

theorem flagged_refl (p : Pool) : Flagged p p :=
  fun _ => ⟨id, Option.map_id_fun ▸ rfl, fun _ => ⟨rfl, id⟩⟩

theorem flagged_flag (p : Pool) (ks : List Nat) : Flagged p (flag p ks) := by
  intro j
  refine ⟨fun t => if j ∈ ks then { t with cancelled := true } else t, List.getElem?_mapIdx, ?_⟩
  intro t
  by_cases hj : j ∈ ks <;> simp [hj]

theorem flagged_interrupt (p : Pool) (k : Nat) (x : Point) : Flagged p (p.interrupt k x) := by
  cases x with
  | waitPermit uri =>
    exact flagged_flag (p.share { p.shared with semaphore := p.shared.semaphore.cancel k }) [k]
  | locking b => exact flagged_flag (p.share { p.shared with lock := p.shared.lock.cancel k }) [k]
  | connecting uri c | closing c next | sleeping loop => exact flagged_flag p [k]
  | joinHealth j | joinCleanup j | gathering cs | done => exact flagged_refl p

theorem flagged_cancel (p : Pool) (k : Nat) : Flagged p (p.cancel k) := by
  unfold cancel
  split
  · exact flagged_refl p
  · split
    · exact flagged_refl p
    · exact flagged_interrupt p _ _
  · split
    · exact flagged_refl p
    · exact flagged_interrupt p _ _
  · exact flagged_flag p _
  · exact flagged_interrupt p k _

theorem flagged_cancelOpt (p : Pool) (k : Option Nat) : Flagged p (cancelOpt p k) := by
  cases k with
  | none => exact flagged_refl p
  | some k => exact flagged_cancel p k

theorem Flagged.task {p q : Pool} (h : Flagged p q) (ht : q.tasks[j]? = some t') :
    ∃ t, p.tasks[j]? = some t ∧ t'.point = t.point ∧
      (t.cancelled = true → t'.cancelled = true) := by
  obtain ⟨f, hf, hkeeps⟩ := h j
  rw [hf] at ht
  obtain ⟨t, hp, rfl⟩ := Option.map_eq_some_iff.mp ht
  exact ⟨t, hp, (hkeeps t).1, (hkeeps t).2⟩

theorem Flagged.point {p q : Pool} (h : Flagged p q) (j : Nat) :
    (q.tasks[j]?).map Task.point = (p.tasks[j]?).map Task.point := by
  obtain ⟨f, hf, hkeeps⟩ := h j
  rw [hf, Option.map_map]
  congr 1
  funext t
  exact (hkeeps t).1

/-- A task after task `k` has gone on: it, another one, or a new one. -/
theorem task_run (hk : k < p.tasks.length) (h : (p.run k r).tasks[j]? = some t') :
    (j = k ∧ t'.point = r.point) ∨
      (j ≠ k ∧ ∃ t, p.tasks[j]? = some t ∧ t'.point = t.point ∧
        (t.cancelled = true → t'.cancelled = true)) ∨ ∃ u ∈ r.spawned, t'.point = u.point := by
  obtain ⟨t, ht, hpoint, hcancelled⟩ := (flagged_cancelOpt _ r.cancels).task h
  rcases TaskPool.Pool.getElem?_move hk ht with ⟨hj, rfl⟩ | ⟨hj, ht⟩ | ⟨i, -, hi⟩
  · exact .inl ⟨hj, hpoint⟩
  · exact .inr (.inl ⟨hj, t, ht, hpoint, hcancelled⟩)
  · exact .inr (.inr ⟨t, List.mem_of_getElem? hi, hpoint⟩)

theorem point_run_self (hk : k < p.tasks.length) :
    ((p.run k r).tasks[k]?).map Task.point = some r.point := by
  unfold run
  rw [(flagged_cancelOpt _ r.cancels).point, TaskPool.Pool.getElem?_move_self hk]
  rfl

theorem point_run_ne (hj : j ≠ k) (h : p.tasks[j]? = some t) :
    ((p.run k r).tasks[j]?).map Task.point = some t.point := by
  unfold run
  rw [(flagged_cancelOpt _ r.cancels).point, TaskPool.Pool.getElem?_move_ne hj h]
  rfl

theorem point_run_spawned {i : Nat} {x : Point} (h : (r.spawned[i]?).map Task.point = some x) :
    ((p.run k r).tasks[p.tasks.length + i]?).map Task.point = some x := by
  obtain ⟨t, ht, rfl⟩ := Option.map_eq_some_iff.mp h
  unfold run
  rw [(flagged_cancelOpt _ r.cancels).point, TaskPool.Pool.getElem?_move_spawned ht]
  rfl

/-- A call is a task that has yet to begin. -/
theorem enter_eq (p : Pool) (r : Run) :
    p.enter r = run { p with tasks := p.tasks ++ [{ point := .done }] } p.tasks.length r := by
  unfold enter run
  congr 1
  unfold TaskPool.Pool.call TaskPool.Pool.move
  simp

end Pool

/-! ## The invariant -/

section Invariant
variable {p : Pool} {k : Nat} {t : Task} {r : Run}

/-- What a task relies on lasts. -/
theorem sound_of_tidies {s q : ConnectionPool} {x : Point} (h : x.Sound s)
    (hshut : ∀ c, s.shut c = true → q.shut c = true) (hclosed : q.closed = s.closed) :
    x.Sound q := by
  cases x with
  | locking b =>
    cases b with
    | dead uri c => exact hshut c h
    | remove c => exact hshut c h
    | removeThen loop c rest => exact hshut c h
    | closeAll | publish uri c => exact hclosed.trans h
    | idle uri | scan loop => trivial
  | connecting uri c | joinHealth j | joinCleanup j | gathering cs => exact hclosed.trans h
  | waitPermit uri | closing c next | sleeping loop | done => trivial

/-- A connection is opened in an open pool. -/
theorem open_of_opening {s : ConnectionPool} {x : Point} {c : Nat} (h : x.Sound s)
    (hx : x.opening = some c) : s.closed = false := by
  unfold Point.opening at hx
  split at hx
  · exact h
  · exact h
  · cases hx

theorem listed_iff {p : Pool} : Listed p ↔ ∀ c, c < p.shared.states.length →
    p.shared.shut c = false → c ∈ p.shared.listed ∨
      ∃ (j : Nat) (x : Point), (p.tasks[j]?).map Task.point = some x ∧ x.opening = some c := by
  unfold Listed
  refine forall_congr' (fun c => imp_congr_right (fun _ => imp_congr_right (fun _ =>
    or_congr_right ⟨?_, ?_⟩)))
  · rintro ⟨t, ht, hc⟩
    obtain ⟨j, hj⟩ := List.mem_iff_getElem?.mp ht
    exact ⟨j, t.point, by rw [hj]; rfl, hc⟩
  · rintro ⟨j, x, hj, hc⟩
    obtain ⟨t, ht, rfl⟩ := Option.map_eq_some_iff.mp hj
    exact ⟨t, List.mem_of_getElem? ht, hc⟩

/-- What is in a terminal state stays in one. -/
theorem Tidies.stays {s : ConnectionPool} {n c : Nat} (hr : Tidies s n r) (hc : s.shut c = true) :
    r.pool.shut c = true := by
  unfold ConnectionPool.shut
  rw [hr.manager c (lt_of_shut hc)]
  exact hc

/-- A cancellation that a task has is not lost. -/
theorem not_cancelled {t' : Task} (hmono : t.cancelled = true → t'.cancelled = true)
    (h : t'.cancelled = false) : t.cancelled = false := by
  rw [Bool.eq_false_iff]
  intro htrue
  rw [hmono htrue] at h
  cases h

section Running
variable (h : Tidy p) (hk : p.tasks[k]? = some t) (hr : Tidies p.shared p.tasks.length r)
include h hk hr

/-- When task `k` has gone on, each task has what it relies on. -/
theorem Tidy.sound_run {j : Nat} {u : Task} (hj : (p.run k r).tasks[j]? = some u) :
    u.point.Sound r.pool := by
  have hlt : k < p.tasks.length := (List.getElem?_eq_some_iff.mp hk).1
  rcases Pool.task_run hlt hj with ⟨-, hpoint⟩ | ⟨-, v, hv, hpoint, -⟩ | ⟨v, hv, hpoint⟩
  · rw [hpoint]
    exact hr.sound
  · rw [hpoint]
    exact sound_of_tidies (h.sound j v hv) (fun _ => hr.stays) hr.closed
  · rw [hpoint]
    exact (hr.spawned v hv).1 r.pool

/-- What task `k` was opening is still being opened, or is listed, or in a terminal state; the
rest is where it was. -/
theorem Tidy.listed_run
    (harrives : ∀ c, t.point.opening = some c →
      r.point.opening = some c ∨ c ∈ r.pool.listed ∨ p.shared.shut c = true)
    {c : Nat} (hc : c < r.pool.states.length) (hup : r.pool.shut c = false) :
    c ∈ r.pool.listed ∨ ∃ (j : Nat) (x : Point),
      ((p.run k r).tasks[j]?).map Task.point = some x ∧ x.opening = some c := by
  have hlt : k < p.tasks.length := (List.getElem?_eq_some_iff.mp hk).1
  rcases hr.created c hc with hold | hnew
  · have hup' : p.shared.shut c = false := by
      rw [Bool.eq_false_iff]
      intro hshut
      rw [hr.stays hshut] at hup
      cases hup
    rcases listed_iff.mp h.listed c hold hup' with hin | ⟨j, x, hj, hopening⟩
    · exact .inl ((hr.kept c hin).resolve_right (by rw [hup']; exact Bool.false_ne_true))
    · obtain ⟨u, hu, rfl⟩ := Option.map_eq_some_iff.mp hj
      by_cases hjk : j = k
      · subst hjk
        obtain rfl := Option.some.inj (hk.symm.trans hu)
        rcases harrives c hopening with hstill | hin | hshut
        · exact .inr ⟨j, r.point, Pool.point_run_self hlt, hstill⟩
        · exact .inl hin
        · rw [hup'] at hshut
          cases hshut
      · exact .inr ⟨j, u.point, Pool.point_run_ne hjk hu, hopening⟩
  · exact .inr ⟨k, r.point, Pool.point_run_self hlt, hnew⟩

/-- When `close` has returned, with this step or before, nothing is open. -/
theorem Tidy.closed_run
    (harrives : ∀ c, t.point.opening = some c →
      r.point.opening = some c ∨ c ∈ r.pool.listed ∨ p.shared.shut c = true)
    (hreturned : r.pool.closeReturned = true) :
    r.pool.closed = true ∧ ∀ c, c < r.pool.states.length → r.pool.shut c = true := by
  rcases hr.returned hreturned with hold | ⟨hempty, hclosed⟩
  · obtain ⟨hclosed, hall⟩ := h.closed hold
    refine ⟨hr.closed.trans hclosed, fun c hc => ?_⟩
    rcases hr.created c hc with hlt' | hnew
    · exact hr.stays (hall c hlt')
    · have hfalse := open_of_opening hr.sound hnew
      rw [hr.closed, hclosed] at hfalse
      cases hfalse
  · refine ⟨hclosed, fun c hc => ?_⟩
    by_contra hup
    rw [Bool.not_eq_true] at hup
    rcases h.listed_run hk hr harrives hc hup with hin | ⟨j, x, hj, hopening⟩
    · rw [hempty] at hin
      exact absurd hin List.not_mem_nil
    · -- in a closed pool nothing is being opened
      obtain ⟨u, hu, rfl⟩ := Option.map_eq_some_iff.mp hj
      have hfalse := open_of_opening (h.sound_run hk hr hu) hopening
      rw [hclosed] at hfalse
      cases hfalse

/-- What `close` gathers covers the list still, where a closing task has closed its connection, or
ends with its `close`. -/
theorem Tidy.gathered_run
    (hchild : ∀ c, t.point = .closing c .nothing → p.shared.shut c = true ∨
      ∀ (g : Nat) (u : Task) (children : List Nat), p.tasks[g]? = some u →
        u.point = .gathering children → k ∈ children → u.cancelled = true)
    {g : Nat} {u : Task} {children : List Nat} (hg : (p.run k r).tasks[g]? = some u)
    (hgathering : u.point = .gathering children) (hflag : u.cancelled = false)
    {c : Nat} (hc : c ∈ r.pool.listed) : r.pool.shut c = true ∨
      ∃ j ∈ children, ((p.run k r).tasks[j]?).map Task.point = some (.closing c .nothing) := by
  have hlt : k < p.tasks.length := (List.getElem?_eq_some_iff.mp hk).1
  rcases Pool.task_run hlt hg with ⟨rfl, hpoint⟩ | ⟨hgk, v, hv, hpoint, hmono⟩ | ⟨v, hv, hpoint⟩
  · -- it has started a closing task for each listed connection
    obtain ⟨i, hi, hspawned⟩ := hr.gathering children (hpoint.symm.trans hgathering) c hc
    exact .inr ⟨_, hi, Pool.point_run_spawned hspawned⟩
  · have hgathering' : v.point = .gathering children := hpoint.symm.trans hgathering
    have hflag' : v.cancelled = false := not_cancelled hmono hflag
    have hclosed : p.shared.closed = true := by
      have hv' := h.sound g v hv
      rw [hgathering'] at hv'
      exact hv'
    have hin : c ∈ p.shared.listed :=
      (hr.listed c hc).resolve_right (by simp [hclosed])
    rcases h.gathered g v children hv hgathering' hflag' c hin with hshut | ⟨j, hj, hclosing⟩
    · exact .inl (hr.stays hshut)
    · obtain ⟨w, hw, hwpoint⟩ := Option.map_eq_some_iff.mp hclosing
      by_cases hjk : j = k
      · -- the closing task has ended
        subst hjk
        obtain rfl := Option.some.inj (hk.symm.trans hw)
        rcases hchild c hwpoint with hshut | hall
        · exact .inl (hr.stays hshut)
        · rw [hall g v children hv hgathering' hj] at hflag'
          cases hflag'
      · refine .inr ⟨j, hj, ?_⟩
        rw [Pool.point_run_ne hjk hw, hwpoint]
  · exact absurd (hpoint.symm.trans hgathering) ((hr.spawned v hv).2 children)

/-- **Task `k` goes on** and leaves the pool tidy. -/
theorem Tidy.run
    (harrives : ∀ c, t.point.opening = some c →
      r.point.opening = some c ∨ c ∈ r.pool.listed ∨ p.shared.shut c = true)
    (hchild : ∀ c, t.point = .closing c .nothing → p.shared.shut c = true ∨
      ∀ (g : Nat) (u : Task) (children : List Nat), p.tasks[g]? = some u →
        u.point = .gathering children → k ∈ children → u.cancelled = true) :
    Tidy (p.run k r) := by
  -- The shared state is that of the run, but for the semaphore and the lock.
  obtain ⟨semaphore, lock, hshared⟩ := Pool.shared_run p k r
  refine ⟨?_, ?_, ?_, ?_, ?_⟩
  · rw [listed_iff, hshared]
    exact fun c hc hup => h.listed_run hk hr harrives hc hup
  · rw [hshared]
    exact fun j u hj => h.sound_run hk hr hj
  · intro g u children hg hgathering hflag c hc
    rw [hshared] at hc ⊢
    exact h.gathered_run hk hr hchild hg hgathering hflag hc
  · rw [hshared]
    exact fun hreturned => h.closed_run hk hr harrives hreturned
  · rw [hshared]
    intro l hl
    rw [Bool.eq_false_iff]
    intro hlate
    rcases hr.late l hl hlate with ⟨m, hm, hlate⟩ | ⟨hfalse, hreturned⟩
    · rw [h.late m hm] at hlate
      cases hlate
    · rw [(h.closed hreturned).1] at hfalse
      cases hfalse

end Running

/-- A call leaves the pool tidy. -/
theorem Tidy.enter (h : Tidy p) (hr : Tidies p.shared (p.tasks.length + 1) r) :
    Tidy (p.enter r) := by
  obtain ⟨q, hq⟩ : ∃ q : Pool, q = { p with tasks := p.tasks ++ [{ point := .done }] } := ⟨_, rfl⟩
  have hshared : q.shared = p.shared := by rw [hq]
  have htasks : q.tasks = p.tasks ++ [{ point := .done }] := by rw [hq]
  have hlast : ∀ (j : Nat) (u : Task), q.tasks[j]? = some u →
      p.tasks[j]? = some u ∨ u.point = .done := by
    intro j u hj
    rw [htasks] at hj
    rcases List.mem_append.mp (List.mem_of_getElem? hj) with hu | hu
    · rcases Nat.lt_or_ge j p.tasks.length with hlt | hge
      · exact .inl (by rwa [List.getElem?_append_left hlt] at hj)
      · rw [List.getElem?_append_right hge] at hj
        exact .inr (by rw [List.mem_singleton.mp (List.mem_of_getElem? hj)])
    · exact .inr (by rw [List.mem_singleton.mp hu])
  have hfirst : ∀ (j : Nat) (u : Task), p.tasks[j]? = some u → q.tasks[j]? = some u := by
    intro j u hj
    rw [htasks, List.getElem?_append_left (List.getElem?_eq_some_iff.mp hj).1]
    exact hj
  have hsame : p.enter r = q.run p.tasks.length r := by rw [hq, Pool.enter_eq]
  have htidy : Tidy q := by
    refine ⟨?_, fun j u hj => ?_, ?_, ?_, ?_⟩
    · intro c hc hup
      rw [hshared] at hc hup ⊢
      refine (h.listed c hc hup).imp_right ?_
      rintro ⟨u, hu, hopening⟩
      exact ⟨u, by rw [htasks]; exact List.mem_append_left _ hu, hopening⟩
    · rw [hshared]
      rcases hlast j u hj with hj | hdone
      · exact h.sound j u hj
      · rw [hdone]
        trivial
    · intro g u children hg hgathering hflag c hc
      rw [hshared] at hc ⊢
      rcases hlast g u hg with hg | hdone
      · refine (h.gathered g u children hg hgathering hflag c hc).imp_right ?_
        rintro ⟨j, hj, hclosing⟩
        obtain ⟨w, hw, hwpoint⟩ := Option.map_eq_some_iff.mp hclosing
        exact ⟨j, hj, by rw [hfirst j w hw, ← hwpoint]; rfl⟩
      · rw [hdone] at hgathering
        cases hgathering
    · rw [hshared]
      exact h.closed
    · rw [hshared]
      exact h.late
  rw [hsame]
  refine htidy.run (t := { point := .done }) ?_ ?_ (fun c hc => by cases hc)
    (fun c hc => by cases hc)
  · rw [htasks, List.getElem?_concat_length]
  · rw [hshared, htasks, List.length_append]
    exact hr

/-- The shared state changes, but for the list; what was in a terminal state stays in one. -/
theorem Tidy.share {s : ConnectionPool} (h : Tidy p)
    (hlength : s.states.length = p.shared.states.length)
    (hconnections : s.connections = p.shared.connections) (hleases : s.leases = p.shared.leases)
    (hreturned : s.closeReturned = p.shared.closeReturned)
    (hclosed : p.shared.closed = true → s.closed = true)
    (hshut : ∀ c, p.shared.shut c = true → s.shut c = true)
    (hsound : ∀ (j : Nat) (t : Task), p.tasks[j]? = some t → t.point.Sound s) :
    Tidy (p.share s) := by
  have hlisted : s.listed = p.shared.listed := by
    unfold ConnectionPool.listed
    rw [hconnections]
  have hup : ∀ c, s.shut c = false → p.shared.shut c = false := by
    intro c hc
    rw [Bool.eq_false_iff]
    intro htrue
    rw [hshut c htrue] at hc
    cases hc
  refine ⟨fun c hc hopen => ?_, hsound, fun g t children hg hgathering hcancelled c hc => ?_,
    fun hs => ?_, ?_⟩
  · show c ∈ s.listed ∨ _
    rw [hlisted]
    exact h.listed c (hlength ▸ hc) (hup c hopen)
  · have hin : c ∈ p.shared.listed := hlisted ▸ hc
    exact (h.gathered g t children hg hgathering hcancelled c hin).imp_left (hshut c)
  · obtain ⟨hc, hall⟩ := h.closed (hreturned.symm.trans hs)
    exact ⟨hclosed hc, fun c hlt => hshut c (hall c (hlength ▸ hlt))⟩
  · show ∀ l ∈ s.leases, _
    rw [hleases]
    exact h.late

/-- A request to cancel leaves the pool tidy. -/
theorem Tidy.flagged {q : Pool} (h : Tidy p) (hflag : Pool.Flagged p q)
    (hshared : ∃ semaphore lock,
      q.shared = { p.shared with semaphore := semaphore, lock := lock }) : Tidy q := by
  obtain ⟨semaphore, lock, hshared⟩ := hshared
  refine ⟨?_, fun j u hj => ?_, ?_, ?_, ?_⟩
  · rw [listed_iff, hshared]
    intro c hc hup
    refine (listed_iff.mp h.listed c hc hup).imp_right ?_
    rintro ⟨j, x, hj, hopening⟩
    exact ⟨j, x, by rw [hflag.point, hj], hopening⟩
  · obtain ⟨v, hv, hpoint, -⟩ := hflag.task hj
    rw [hpoint, hshared]
    exact h.sound j v hv
  · intro g u children hg hgathering hcancelled c hc
    obtain ⟨v, hv, hpoint, hmono⟩ := hflag.task hg
    rw [hshared] at hc ⊢
    have hcancelled' : v.cancelled = false := not_cancelled hmono hcancelled
    refine (h.gathered g v children hv (hpoint.symm.trans hgathering) hcancelled' c hc).imp_right ?_
    rintro ⟨j, hj, hclosing⟩
    exact ⟨j, hj, by rw [hflag.point, hclosing]⟩
  · rw [hshared]
    exact h.closed
  · rw [hshared]
    exact h.late

end Invariant
end JetSocket.Pooling
