import JetSocket.Pooling.Cap
import JetSocket.Pooling.Tidy

/- Connections that nobody closes.

   A connection leaves `_connections` in four places, and not each time it is closed: `acquire`
   takes an idle one that it cannot use for dead, though it may be CONNECTING. A connection that is
   being opened was never there, so `close` does not see it, and a cancelled acquire drops it.

   What is proved:
     `no_orphans` — where each step is `careful`, every connection that is not in a terminal state
                    is listed or being opened, and when `close` has returned there is none, and no
                    acquire returns a lease. -/
namespace JetSocket.Pooling
open TaskPool Transition

namespace Pool

/-! ## The condition -/

/-- The idle connection that an acquire finds can be used, or is in a terminal state. -/
def findsUsable (p : Pool) (i : Input) : Bool :=
  match (p.looksUp i).bind p.shared.getIdleConnection with
  | some c => ConnectionPool.usable (p.shared.manager c) || p.shared.shut c
  | none => true

/-- An acquire that fails, or is cancelled, leaves its WebSocket in a terminal state. -/
def failsShut (p : Pool) : Input → Bool
  | .connectRaises k => (p.tasks[k]?).all (fun t => t.point.opening.all p.shared.shut)
  | .resume k =>
    (p.tasks[k]?).all (fun t => !t.cancelled || t.point.opening.all p.shared.shut)
  | _ => true

/-- A `manager.close()` that returns, or raises, leaves the WebSocket in a terminal state. -/
def endsShut (p : Pool) : Input → Bool
  | .closeEnds k =>
    (p.tasks[k]?).all (fun t => match t.point with
      | .closing c _ => p.shared.shut c
      | _ => true)
  | _ => true

/-- A closing task of `close` is cancelled with that `close` only. -/
def cancelsWhole (p : Pool) : Input → Bool
  | .resume k =>
    (p.tasks[k]?).all (fun t => match t.point with
      | .closing _ .nothing =>
        p.tasks.all (fun u => match u.point with
          | .gathering children => u.cancelled || !children.contains k
          | _ => true)
      | _ => true)
  | _ => true

/-- `close` is called while no acquire opens a connection, and in a closed pool no acquire that
waits goes on. -/
def closesAlone (p : Pool) : Input → Bool
  | .close => p.tasks.all (fun t => t.point.opening.isNone)
  | .resume k =>
    !p.shared.closed || (p.tasks[k]?).all (fun t => t.cancelled || !t.point.acquiring)
  | _ => true

def careful (p : Pool) (i : Input) : Bool :=
  p.findsUsable i && p.failsShut i && p.endsShut i && p.cancelsWhole i && p.closesAlone i &&
    !p.revives i

end Pool

section Step
variable {p p' : Pool} {k : Nat} {t : Task} {r : Run}

theorem careful_iff {i : Input} : p.careful i = true ↔
    p.findsUsable i = true ∧ p.failsShut i = true ∧ p.endsShut i = true ∧
      p.cancelsWhole i = true ∧ p.closesAlone i = true ∧ p.revives i = false := by
  unfold Pool.careful
  simp only [Bool.and_eq_true, Bool.not_eq_true', and_assoc]

/-- What an acquire finds, where it looks up. -/
theorem usable_or_shut {i : Input} {uri : String} (h : p.findsUsable i = true)
    (hlooks : p.looksUp i = some uri) : ∀ c, p.shared.getIdleConnection uri = some c →
      ConnectionPool.usable (p.shared.manager c) = true ∨ p.shared.shut c = true := by
  intro c hc
  unfold Pool.findsUsable at h
  rw [hlooks, Option.bind_some, hc] at h
  exact (Bool.or_eq_true _ _).mp h

/-- An acquire that is resumed goes on in an open pool. -/
theorem open_of_acquiring (h : p.closesAlone (.resume k) = true) (hk : p.tasks[k]? = some t)
    (hcancelled : t.cancelled = false) (hacquiring : t.point.acquiring = true) :
    p.shared.closed = false := by
  unfold Pool.closesAlone at h
  simpa [hk, hcancelled, hacquiring] using h

/-- A cancelled acquire leaves its WebSocket in a terminal state. -/
theorem shut_of_cancelled {c : Nat} (h : p.failsShut (.resume k) = true) (hk : p.tasks[k]? = some t)
    (hcancelled : t.cancelled = true) (hopening : t.point.opening = some c) :
    p.shared.shut c = true := by
  unfold Pool.failsShut at h
  simpa [hk, hcancelled, hopening] using h

/-- A task that goes on, and was not opening or closing anything. -/
theorem Tidy.goes (h : Tidy p) (hk : p.tasks[k]? = some t)
    (hr : Tidies p.shared p.tasks.length r) (hopening : t.point.opening = none)
    (hchild : ∀ c, t.point ≠ .closing c .nothing) : Tidy (p.run k r) := by
  refine h.run hk hr (fun c hc => ?_) (fun c hc => absurd hc (hchild c))
  rw [hopening] at hc
  cases hc

theorem tidy_waitPermit {uri : String} {b : Bool} (h : Tidy p)
    (hcareful : p.careful (.resume k) = true) (hk : p.tasks[k]? = some ⟨.waitPermit uri, b⟩)
    (hr : p.resumed k ⟨.waitPermit uri, b⟩ = some r) : Tidy (p.run k r) := by
  obtain ⟨hfinds, -, -, -, hcloses, -⟩ := careful_iff.mp hcareful
  simp only [Pool.resumed] at hr
  cases b with
  | true =>
    cases hr
    have hsame : Clears p.shared (p.shared.unwind k (.waitPermit uri)) :=
      clears_same rfl rfl rfl rfl rfl
    exact h.goes hk (hsame.tidies trivial (fun _ h => by cases h)) rfl (fun _ h => by cases h)
  | false =>
    rw [if_neg Bool.false_ne_true] at hr
    split at hr
    · cases hr
      have hopen := open_of_acquiring hcloses hk rfl rfl
      have hsame : Clears p.shared { p.shared with semaphore := p.shared.semaphore.resume k } :=
        clears_same rfl rfl rfl rfl rfl
      refine h.goes hk (Tidies.after ?_ hsame) rfl (fun _ h => by cases h)
      refine tidies_underLock trivial (fun _ => hopen) (fun uri' huri hfree => ?_)
      cases huri
      have hlock : p.shared.lock.free = true := hfree
      exact usable_or_shut hfinds (by simp [Pool.looksUp, hk, hlock])
    · cases hr

theorem tidy_locking {b : Body} {cancelled : Bool} (h : Tidy p)
    (hcareful : p.careful (.resume k) = true) (hk : p.tasks[k]? = some ⟨.locking b, cancelled⟩)
    (hr : p.resumed k ⟨.locking b, cancelled⟩ = some r) : Tidy (p.run k r) := by
  obtain ⟨hfinds, hfails, -, -, hcloses, -⟩ := careful_iff.mp hcareful
  simp only [Pool.resumed] at hr
  cases cancelled with
  | true =>
    cases hr
    have hsame : Clears p.shared (p.shared.unwind k (.locking b)) :=
      clears_same rfl rfl rfl rfl rfl
    refine h.run hk (hsame.tidies trivial (fun _ h => by cases h)) (fun c hc => ?_)
      (fun c hc => by cases hc)
    exact .inr (.inr (shut_of_cancelled hfails hk rfl hc))
  | false =>
    rw [if_neg Bool.false_ne_true] at hr
    split at hr
    · cases hr
      have hsame : Clears p.shared { p.shared with lock := p.shared.lock.handOn } :=
        clears_same rfl rfl rfl rfl rfl
      have hsound : (Point.locking b).Sound { p.shared with lock := p.shared.lock.handOn } :=
        sound_of_tidies (h.sound k _ hk) (fun c hc => hc) rfl
      have hbody : Tidies { p.shared with lock := p.shared.lock.handOn } p.tasks.length
          (({ p.shared with lock := p.shared.lock.handOn } : ConnectionPool).body k
            p.tasks.length b) := by
        refine tidies_body hsound (fun hacquiring => open_of_acquiring hcloses hk rfl hacquiring) ?_
        rintro uri rfl
        exact usable_or_shut hfinds (by simp [Pool.looksUp, hk])
      refine h.run hk (hbody.after hsame) (fun c hc => ?_) (fun c hc => by cases hc)
      cases b with
      | publish uri d =>
        cases hc
        exact .inr (.inl (tidies_publish (n := p.tasks.length)
          (s := { p.shared with lock := p.shared.lock.handOn }) hsound uri c).2)
      | idle _ | dead _ _ | remove _ | scan _ | removeThen _ _ _ | closeAll => cases hc
    · cases hr

/-- `close` clears the list when the closing tasks are over. -/
theorem tidies_gathered {children : List Nat} (h : Tidy p)
    (hk : p.tasks[k]? = some ⟨.gathering children, false⟩)
    (hdone : children.all p.isDone = true) : Tidies p.shared p.tasks.length
      { pool := ({ p.shared with lock := p.shared.lock.release } : ConnectionPool).clear,
        point := .done } where
  created c hc := .inl hc
  manager c _ := rfl
  kept c hc := by
    refine .inr ((h.gathered k _ children hk rfl rfl c hc).resolve_right ?_)
    rintro ⟨j, hj, hclosing⟩
    have hover := List.all_eq_true.mp hdone j hj
    obtain ⟨u, hu, hpoint⟩ := Option.map_eq_some_iff.mp hclosing
    unfold Pool.isDone at hover
    rw [hu] at hover
    obtain ⟨x, cancelled⟩ := u
    cases hpoint
    cases hover
  listed c hc := absurd hc List.not_mem_nil
  closed := rfl
  returned _ := .inr ⟨rfl, h.sound k _ hk⟩
  late l hl hlate := .inl ⟨l, hl, hlate⟩
  sound := trivial
  gathering _ h := by cases h
  spawned t ht := absurd ht List.not_mem_nil

theorem tidy_resume (h : Tidy p) (hcareful : p.careful (.resume k) = true)
    (hk : p.tasks[k]? = some t) (hr : p.resumed k t = some r) : Tidy (p.run k r) := by
  obtain ⟨x, cancelled⟩ := t
  have hself : Clears p.shared p.shared := clears_same rfl rfl rfl rfl rfl
  cases x with
  | waitPermit uri => exact tidy_waitPermit h hcareful hk hr
  | locking b => exact tidy_locking h hcareful hk hr
  | connecting uri c =>
    simp only [Pool.resumed] at hr
    split at hr
    · rename_i hcancelled
      cases hr
      refine h.run hk (hself.tidies trivial (fun _ h => by cases h)) (fun d hd => ?_)
        (fun d hd => by cases hd)
      exact .inr (.inr (shut_of_cancelled (careful_iff.mp hcareful).2.1 hk hcancelled hd))
    · cases hr
  | closing c next =>
    simp only [Pool.resumed] at hr
    split at hr
    · cases hr
      refine h.run hk (hself.tidies trivial (fun _ h => by cases h)) (fun d hd => by cases hd)
        (fun d hd => .inr ?_)
      -- its `close` has been cancelled
      cases hd
      intro g u children hg hgathering hmem
      have hwhole := (careful_iff.mp hcareful).2.2.2.1
      unfold Pool.cancelsWhole at hwhole
      simp only [hk, Option.all_some, List.all_eq_true] at hwhole
      have hu := hwhole u (List.mem_of_getElem? hg)
      rw [hgathering] at hu
      simpa [hmem] using hu
    · cases hr
  | sleeping loop =>
    simp only [Pool.resumed] at hr
    split at hr
    · cases hr
      exact h.goes hk (hself.tidies trivial (fun _ h => by cases h)) rfl (fun _ h => by cases h)
    · cases hr
      exact h.goes hk (tidies_underLock (b := .scan loop) trivial (fun h => by cases h)
        (fun uri h => by cases h)) rfl (fun _ h => by cases h)
  | joinHealth j =>
    simp only [Pool.resumed] at hr
    split at hr
    · cases hr
      have hclosed : p.shared.closed = true := h.sound k _ hk
      have hsame : Clears p.shared { p.shared with healthCheckTask := none } :=
        clears_same rfl rfl rfl rfl rfl
      exact h.goes hk (Tidies.after (tidies_joinCleanupTask hclosed) hsame) rfl
        (fun _ h => by cases h)
    · cases hr
  | joinCleanup j =>
    simp only [Pool.resumed] at hr
    split at hr
    · cases hr
      have hclosed : p.shared.closed = true := h.sound k _ hk
      have hsame : Clears p.shared { p.shared with cleanupTask := none } :=
        clears_same rfl rfl rfl rfl rfl
      exact h.goes hk (Tidies.after (tidies_underLock (b := .closeAll) hclosed
        (fun h => by cases h) (fun uri h => by cases h)) hsame) rfl (fun _ h => by cases h)
    · cases hr
  | gathering children =>
    simp only [Pool.resumed] at hr
    split at hr
    · rename_i hdone
      split at hr
      · cases hr
        have hsame : Clears p.shared (p.shared.unwind k (.gathering children)) :=
          clears_same rfl rfl rfl rfl rfl
        exact h.goes hk (hsame.tidies trivial (fun _ h => by cases h)) rfl (fun _ h => by cases h)
      · rename_i hcancelled
        cases hr
        rw [Bool.not_eq_true] at hcancelled
        subst hcancelled
        exact h.goes hk (tidies_gathered h hk hdone) rfl (fun _ h => by cases h)
    · cases hr
  | done => cases hr

/-- What follows a call on a manager. -/
theorem tidy_returned {i : Input} (h : Tidy p) (hk : p.tasks[k]? = some t)
    (hfails : i = .connectRaises k → p.failsShut i = true)
    (hends : i = .closeEnds k → p.endsShut i = true)
    (hi : i = .connected k ∨ i = .connectRaises k ∨ i = .closeEnds k)
    (hr : p.returned k i t = some r) : Tidy (p.run k r) := by
  obtain ⟨x, cancelled⟩ := t
  have hself : Clears p.shared p.shared := clears_same rfl rfl rfl rfl rfl
  unfold Pool.returned at hr
  dsimp only at hr
  split at hr
  · rename_i uri c
    split at hr
    · cases hr
    · cases hr
      have hsound : (Point.locking (.publish uri c)).Sound p.shared := h.sound k _ hk
      refine h.run hk (tidies_underLock hsound (fun h => by cases h) (fun uri h => by cases h)) ?_
        (fun d hd => by cases hd)
      rintro d hd
      cases hd
      unfold ConnectionPool.underLock
      split
      · exact .inr (.inl (tidies_publish (n := 0) hsound uri c).2)
      · exact .inl rfl
  · rename_i j uri c
    split at hr
    · cases hr
    · cases hr
      have hsame : Clears p.shared { p.shared with semaphore := p.shared.semaphore.release } :=
        clears_same rfl rfl rfl rfl rfl
      refine h.run hk (hsame.tidies trivial (fun _ h => by cases h)) (fun d hd => ?_)
        (fun d hd => by cases hd)
      cases hd
      obtain rfl : j = k := by
        rcases hi with hi | hi | hi <;> cases hi
        rfl
      have hshut := hfails rfl
      unfold Pool.failsShut at hshut
      exact .inr (.inr (by simpa [hk, Point.opening] using hshut))
  · rename_i j c next
    obtain rfl : j = k := by
      rcases hi with hi | hi | hi <;> cases hi
      rfl
    have hshut : p.shared.shut c = true := by
      have hshut := hends rfl
      unfold Pool.endsShut at hshut
      simpa [hk] using hshut
    cases next with
    | remove =>
      cases hr
      exact h.run hk (tidies_underLock (b := .remove c) hshut (fun h => by cases h)
        (fun uri h => by cases h)) (fun d hd => by cases hd) (fun d hd => by cases hd)
    | sweep loop rest =>
      cases hr
      exact h.run hk (tidies_underLock (b := .removeThen loop c rest) hshut (fun h => by cases h)
        (fun uri h => by cases h)) (fun d hd => by cases hd) (fun d hd => by cases hd)
    | nothing =>
      cases hr
      refine h.run hk (hself.tidies trivial (fun _ h => by cases h)) (fun d hd => by cases hd) ?_
      intro d hd
      cases hd
      exact .inl hshut
  · cases hr

theorem tidy_acquire {uri : String} (h : Tidy p) (hcareful : p.careful (.acquire uri) = true)
    (hs : p.step (.acquire uri) = some p') : Tidy p' := by
  simp only [Pool.step] at hs
  split at hs
  · cases hs
    exact h
  · rename_i hclosed
    rw [Bool.not_eq_true] at hclosed
    cases hs
    refine h.enter ?_
    unfold ConnectionPool.acquire
    split
    · have hwait : Clears p.shared
          { p.shared with semaphore := p.shared.semaphore.wait p.tasks.length } :=
        clears_same rfl rfl rfl rfl rfl
      exact hwait.tidies trivial (fun _ h => by cases h)
    · rename_i hlocked
      rw [Bool.not_eq_true] at hlocked
      have htake : Clears p.shared { p.shared with semaphore := p.shared.semaphore.take } :=
        clears_same rfl rfl rfl rfl rfl
      refine Tidies.after ?_ htake
      refine tidies_underLock trivial (fun _ => hclosed) (fun uri' huri hfree => ?_)
      cases huri
      have hlock : p.shared.lock.free = true := hfree
      exact usable_or_shut (careful_iff.mp hcareful).1
        (by simp [Pool.looksUp, hclosed, hlocked, hlock])

/-- `close` finds no acquire opening a connection. -/
theorem tidy_close (h : Tidy p) (hcareful : p.careful .close = true)
    (hs : p.step .close = some p') : Tidy p' := by
  obtain ⟨-, -, -, -, hcloses, -⟩ := careful_iff.mp hcareful
  cases hs
  have hsound : ∀ (j : Nat) (t : Task), p.tasks[j]? = some t →
      t.point.Sound { p.shared with closed := true } := by
    intro j t hj
    have hold := h.sound j t hj
    have hopening : t.point.opening = none := by
      have hnone := List.all_eq_true.mp hcloses t (List.mem_of_getElem? hj)
      exact Option.isNone_iff_eq_none.mp hnone
    generalize t.point = x at hold hopening
    cases x with
    | locking b =>
      cases b with
      | publish uri c => cases hopening
      | closeAll => rfl
      | idle uri | dead uri c | remove c | scan loop | removeThen loop c rest => exact hold
    | connecting uri c => cases hopening
    | joinHealth j | joinCleanup j | gathering cs => rfl
    | waitPermit uri | closing c next | sleeping loop | done => trivial
  have hclosed : Tidy (TaskPool.Pool.share p { p.shared with closed := true }) :=
    h.share rfl rfl rfl rfl (fun _ => rfl) (fun _ hc => hc) hsound
  refine hclosed.enter (r := p.shared.close p.tasks.length (p.tasks.length + 1)) ?_
  show Tidies { p.shared with closed := true } _ _
  unfold ConnectionPool.close
  dsimp only
  split
  · have hself : Clears { p.shared with closed := true } { p.shared with closed := true } :=
      clears_same rfl rfl rfl rfl rfl
    rename_i j hj
    exact hself.tidies (x := .joinHealth j) rfl (fun _ h => by cases h)
  · exact tidies_joinCleanupTask rfl

theorem tidy_start (h : Tidy p) : Tidy p.start := by
  refine h.enter (r := {
    pool := { p.shared with
      healthCheckTask := some p.tasks.length, cleanupTask := some (p.tasks.length + 1) }
    point := .sleeping .healthCheck
    spawned := [{ point := .sleeping .cleanup }] }) ?_
  have hsame : Clears p.shared { p.shared with
      healthCheckTask := some p.tasks.length, cleanupTask := some (p.tasks.length + 1) } :=
    clears_same rfl rfl rfl rfl rfl
  have halone := hsame.tidies (n := p.tasks.length + 1) (x := .sleeping .healthCheck)
    (o := none) trivial (fun _ h => by cases h)
  exact { halone with
    gathering := fun _ h => by cases h
    spawned := fun t ht => by
      rw [List.mem_singleton] at ht
      subst ht
      exact ⟨fun _ => trivial, fun _ h => by cases h⟩ }

theorem tidy_moves {c : Nat} {state : ConnectionState} (h : Tidy p)
    (hcareful : p.careful (.moves c state) = true) (hs : p.step (.moves c state) = some p') :
    Tidy p' := by
  obtain ⟨-, -, -, -, -, hrevives⟩ := careful_iff.mp hcareful
  simp only [Pool.step] at hs
  split at hs
  · cases hs
    have hshut : ∀ d, p.shared.shut d = true →
        (p.shared.modifyState c (fun s => { s with manager := state })).shut d = true := by
      intro d hd
      exact down_moves hrevives (lt_of_shut hd) hd
    exact h.share (length_modifyState _) rfl rfl rfl (fun hclosed => hclosed) hshut
      (fun j t hj => sound_of_tidies (h.sound j t hj) hshut rfl)
  · cases hs

/-- **A careful step** leaves the pool tidy. -/
theorem tidy_step {i : Input} (h : Tidy p) (hcareful : p.careful i = true)
    (hs : p.step i = some p') : Tidy p' := by
  cases i with
  | acquire uri => exact tidy_acquire h hcareful hs
  | release j =>
    obtain ⟨l, hl, rfl⟩ := Option.map_eq_some_iff.mp hs
    split
    · exact h
    · exact h.enter (tidies_release hl rfl)
  | poolRelease j =>
    obtain ⟨l, hl, rfl⟩ := Option.map_eq_some_iff.mp hs
    exact h.enter (tidies_release hl rfl)
  | close => exact tidy_close h hcareful hs
  | start =>
    cases hs
    exact tidy_start h
  | cancel k =>
    simp only [Pool.step] at hs
    split at hs
    · cases hs
      exact h.flagged (Pool.flagged_cancel p k) (Pool.shared_cancel p k)
    · cases hs
  | resume k =>
    obtain ⟨t, hk, hs⟩ := Option.bind_eq_some_iff.mp hs
    obtain ⟨r, hr, rfl⟩ := Option.map_eq_some_iff.mp hs
    exact tidy_resume h hcareful hk hr
  | connected k | connectRaises k | closeEnds k =>
    obtain ⟨t, hk, hs⟩ := Option.bind_eq_some_iff.mp hs
    obtain ⟨r, hr, rfl⟩ := Option.map_eq_some_iff.mp hs
    obtain ⟨-, hfails, hends, -⟩ := careful_iff.mp hcareful
    exact tidy_returned h hk (fun _ => hfails) (fun _ => hends) (by simp) hr
  | moves c state => exact tidy_moves h hcareful hs
  | advance d =>
    simp only [Pool.step] at hs
    split at hs
    · cases hs
      exact h.share rfl rfl rfl rfl (fun hclosed => hclosed) (fun _ hc => hc)
        (fun j t hj => sound_of_tidies (h.sound j t hj) (fun _ hc => hc) rfl)
    · cases hs

end Step

/-- **No orphan**, in every run whose steps are all careful. -/
theorem no_orphans (config : ConnectionPoolConfig) (is : List Input)
    (h : Meets Pool.step (fun p i => p.careful i = true) (Pool.init config) is) :
    Always Pool.step (fun p => Listed p ∧ ClosedDown p) (Pool.init config) is := by
  have hinit : Tidy (Pool.init config) :=
    { listed := fun c hc => absurd hc (Nat.not_lt_zero c)
      sound := fun j t hj => absurd (List.mem_of_getElem? hj) List.not_mem_nil
      gathered := fun g t _ hg => absurd (List.mem_of_getElem? hg) List.not_mem_nil
      closed := fun hreturned => absurd hreturned Bool.false_ne_true
      late := fun l hl => absurd hl List.not_mem_nil }
  have hinv : Always Pool.step Tidy (Pool.init config) is :=
    always_of_meets (fun _ _ _ htidy hcareful hs => tidy_step htidy hcareful hs) hinit h
  exact hinv.mono (fun p hp => ⟨hp.listed, fun hreturned => ⟨(hp.closed hreturned).2, hp.late⟩⟩)

/-- A leased connection is closed with the pool, and then given back. -/
theorem no_orphans_closed : Always Pool.step (fun p => Listed p ∧ ClosedDown p) (Pool.init single)
    [.acquire "wss://a", .moves 0 .connected, .connected 0, .start, .close, .resume 1, .resume 3,
      .resume 2, .resume 3, .moves 0 .closed, .closeEnds 4, .resume 3, .release 0] :=
  no_orphans single _ (by decide +kernel)

/-- An acquire takes a connection that is reconnecting for dead, and nobody closes it. -/
theorem reconnecting_orphaned : ¬ Always Pool.step (fun p => Listed p ∧ ClosedDown p)
    (Pool.init single)
    [.acquire "wss://a", .moves 0 .connected, .connected 0, .release 0, .moves 0 .disconnected,
      .moves 0 .reconnecting, .moves 0 .backingOff, .moves 0 .connecting, .acquire "wss://a"] := by
  unfold Listed ClosedDown
  decide +kernel

end JetSocket.Pooling
