import JetSocket.Manager.SetState

/- `closed` is emitted once, and nothing changes the state behind it.

   `close` and `_handle_disconnect` both end with `_set_state(CLOSED)` and `closed`, and test
   for a terminal state only where `close` begins. While the state is not CLOSED, no task is in
   the handlers of its `state_change` and no `closed` is out; the one task that sets it emits
   the one `closed`. That breaks exactly where a task in state CLOSED goes on to `_set_state`.

   Results:
     `closed_once`        — in a run in which no task goes on to `_set_state` in state CLOSED,
                            `closed` is emitted once and no change of state follows it.
     `closed_twice`       — two calls of `close` that overlap emit it twice. -/
namespace JetSocket.Manager
open JetSocket.Transport TaskPool Transition

/-- At most one `closed`, and no change of state behind it. -/
def ClosedOnce (es : List Event) : Prop :=
  ∀ before after e, es = before ++ e :: after → e.topic = .closed →
    ∀ e' ∈ after, e'.topic ≠ .closed ∧ e'.topic ≠ .stateChange

/-- The step does not go on to `_set_state` in state CLOSED. -/
def LeavesClosed (c : Client) (a : Action) : Prop := c.shared.state = .closed → c.sets a = none

/-- No `closed` so far. -/
def Unclosed (es : List Event) : Prop := ∀ e ∈ es, e.topic ≠ .closed

section Events
variable {es : List Event} {e : Event}

theorem Unclosed.closedOnce (h : Unclosed es) : ClosedOnce es := by
  intro before after e he ht
  exact (h e (by simp [he]) ht).elim

/-- Event `j`, behind a `closed`. -/
theorem ClosedOnce.behind (h : ClosedOnce es) {i j : Nat} (hij : i < j) {e e' : Event}
    (hi : es[i]? = some e) (hj : es[j]? = some e') (ht : e.topic = .closed) :
    e'.topic ≠ .closed ∧ e'.topic ≠ .stateChange := by
  obtain ⟨hlt, rfl⟩ := List.getElem?_eq_some_iff.mp hi
  have hsplit : es = es.take i ++ es[i] :: es.drop (i + 1) := by
    rw [← List.drop_eq_getElem_cons, List.take_append_drop]
  refine h _ _ _ hsplit ht e' (List.mem_of_getElem? (i := j - (i + 1)) ?_)
  rw [List.getElem?_drop, Nat.add_sub_cancel' hij]
  exact hj

theorem Unclosed.push (h : Unclosed es) (he : e.topic ≠ .closed) : Unclosed (es ++ [e]) := by
  intro x hx
  rcases List.mem_append.mp hx with hx | hx
  · exact h x hx
  · rw [List.mem_singleton.mp hx]
    exact he

/-- One more event: no `closed` before it, or it is another event and no change of state. -/
theorem ClosedOnce.push (h : ClosedOnce es)
    (he : Unclosed es ∨ (e.topic ≠ .closed ∧ e.topic ≠ .stateChange)) : ClosedOnce (es ++ [e]) := by
  intro before after x hx ht y hy
  rcases List.eq_nil_or_concat after with rfl | ⟨init, last, rfl⟩
  · cases hy
  · -- `x` is among the events before, so the last one is not of the two topics
    rw [List.concat_eq_append, ← List.cons_append, ← List.append_assoc] at hx
    obtain ⟨hes, hlast⟩ := List.append_inj' hx rfl
    have he₁ : e = last := List.head_eq_of_cons_eq hlast
    have hother : e.topic ≠ .closed ∧ e.topic ≠ .stateChange := by
      refine he.resolve_left (fun hu => ?_)
      exact hu x (by rw [hes]; simp) ht
    rw [List.concat_eq_append] at hy
    rcases List.mem_append.mp hy with hy | hy
    · exact h before init x hes ht y hy
    · rw [List.mem_singleton.mp hy, ← he₁]
      exact hother

end Events

namespace Point

/-- In the handlers of `closed`, the task has set and announced CLOSED. -/
theorem reports_of_closed {p : Point} (h : p.topic = some .closed) : p.reports = some .closed := by
  cases p with
  | closedEmit | closedByUserEmit => rfl
  | handling l stage => cases stage <;> cases h
  | _ => cases h

/-- In the handlers of `state_change`, the task has set a state. -/
theorem entered_of_stateChange {p : Point} (h : p.topic = some .stateChange) :
    ∃ r, p.entered = some r := by
  cases p with
  | handling l stage => cases stage <;> cases h
  | _ => first
    | exact ⟨_, rfl⟩
    | cases h

theorem entered_of_starting {p : Point} (h : p.starting = true) : p.entered = none := by
  cases p <;> first
    | rfl
    | cases h

end Point

/-! ## The invariant -/

/-- The task is in the handlers of the change to CLOSED. -/
def Pending (c : Client) (k : Nat) : Prop :=
  ∃ t, c.tasks[k]? = some t ∧ t.point.entered = some .closed

/-- What the tasks still owe: nothing before CLOSED, and one `closed` at most behind it. -/
structure Owing (c : Client) : Prop where
  closedOnce : ClosedOnce c.shared.emitted
  before : c.shared.state ≠ .closed → Unclosed c.shared.emitted ∧ ∀ k, ¬ Pending c k
  behind : ∀ k, Pending c k → Unclosed c.shared.emitted
  unique : ∀ j k, Pending c j → Pending c k → j = k

section Steps
variable {c c' : Client} {a : Action} {k : Nat} {p q : Point}

/-- The others owe what they owed. -/
theorem Told.pending (h : Told c c' a k p q) {j : Nat} (hj : Pending c' j) :
    (j = k ∧ q.entered = some .closed) ∨ (j ≠ k ∧ Pending c j) := by
  obtain ⟨u, hu, hp⟩ := hj
  rcases h.tasks j u hu with ⟨rfl, rfl⟩ | ⟨hne, v, hv, -, hpoint⟩ | ⟨-, hstart⟩
  · exact .inl ⟨rfl, hp⟩
  · exact .inr ⟨hne, v, hv, hpoint ▸ hp⟩
  · rw [Point.entered_of_starting hstart] at hp
    cases hp

/-- A task that comes from the handlers of the change to CLOSED. -/
theorem Told.owed (h : Told c c' a k p q) (hp : p.entered = some .closed) : Pending c k := by
  rcases h.actor with ⟨-, t, ht, rfl⟩ | ⟨-, -, rfl⟩
  · exact ⟨t, ht, hp⟩
  · cases hp

/-- A step in another state than CLOSED: no `closed` yet. -/
theorem Owing.open (h : Owing c) (hd : Told c c' a k p q) (hs : c.shared.state ≠ .closed) :
    Owing c' := by
  obtain ⟨hunclosed, hnone⟩ := h.before hs
  have hstate : c'.shared.state = (c.sets a).getD c.shared.state := by
    rw [hd.tells.state, Client.entry_state]
  -- The task does not come to announce `closed`: nobody had set CLOSED.
  have hq : q.topic ≠ some .closed := by
    intro ht
    rcases hd.tells.reports _ (Point.reports_of_closed ht) with hp | ⟨-, hw⟩
    · exact hnone k (hd.owed hp)
    · rw [Client.entry_state] at hw
      exact hs hw
  have hunclosed' : Unclosed c'.shared.emitted := by
    rcases hd.tells.emitted with ⟨he, -⟩ | ⟨e, he, ht⟩
    · rw [he, Client.entry_emitted]
      exact hunclosed
    · rw [he, Client.entry_emitted]
      exact hunclosed.push (fun hc => hq (by rw [ht, hc]))
  have hpending : ∀ j, Pending c' j → j = k ∧ c.sets a = some .closed := by
    intro j hj
    rcases hd.pending hj with ⟨hjk, hp⟩ | ⟨-, hj⟩
    · exact ⟨hjk, (hd.tells.entered _ hp).1⟩
    · exact (hnone j hj).elim
  refine ⟨hunclosed'.closedOnce, fun hs' => ⟨hunclosed', fun j hj => ?_⟩, fun _ _ => hunclosed',
    fun i j hi hj => (hpending i hi).1.trans (hpending j hj).1.symm⟩
  rw [hstate, (hpending j hj).2] at hs'
  exact hs' rfl

/-- A step in state CLOSED that does not set a state. -/
theorem Owing.closed (h : Owing c) (hd : Told c c' a k p q) (hs : c.shared.state = .closed)
    (hn : c.sets a = none) : Owing c' := by
  have hstate : c'.shared.state = .closed := by
    rw [hd.tells.state, Client.entry_state, hn]
    exact hs
  have hq : ∀ r, q.entered ≠ some r := by
    intro r hr
    have hset := (hd.tells.entered r hr).1
    rw [hn] at hset
    cases hset
  have hpending : ∀ j, Pending c' j → j ≠ k ∧ Pending c j := by
    intro j hj
    exact (hd.pending hj).resolve_left (fun hjk => hq _ hjk.2)
  have hunique : ∀ i j, Pending c' i → Pending c' j → i = j :=
    fun i j hi hj => h.unique i j (hpending i hi).2 (hpending j hj).2
  rcases hd.tells.emitted with ⟨he, -⟩ | ⟨e, he, ht⟩
  · rw [Client.entry_emitted] at he
    refine ⟨he ▸ h.closedOnce, fun hs' => (hs' hstate).elim, fun j hj => ?_, hunique⟩
    rw [he]
    exact h.behind j (hpending j hj).2
  · rw [Client.entry_emitted] at he
    have hchange : e.topic ≠ .stateChange := by
      intro hc
      obtain ⟨r, hr⟩ := Point.entered_of_stateChange (ht.trans (congrArg some hc))
      exact hq r hr
    by_cases hc : e.topic = .closed
    · -- the task owed it, so no other task does
      have howed : Pending c k := by
        rcases hd.tells.reports _ (Point.reports_of_closed (ht.trans (congrArg some hc))) with
          hp | ⟨hset, -⟩
        · exact hd.owed hp
        · rw [hn] at hset
          cases hset
      refine ⟨?_, fun hs' => (hs' hstate).elim, fun j hj => ?_, hunique⟩
      · rw [he]
        exact h.closedOnce.push (.inl (h.behind k howed))
      · obtain ⟨hne, hj⟩ := hpending j hj
        exact (hne (h.unique j k hj howed)).elim
    · refine ⟨?_, fun hs' => (hs' hstate).elim, fun j hj => ?_, hunique⟩
      · rw [he]
        exact h.closedOnce.push (.inr ⟨hc, hchange⟩)
      · rw [he]
        exact (h.behind j (hpending j hj).2).push hc

/-- One step. -/
theorem Owing.step (h : Owing c) (ho : LeavesClosed c a) (hs : c.step a = some c') : Owing c' := by
  obtain ⟨k, p, q, hd⟩ := step_told hs
  by_cases hc : c.shared.state = .closed
  · exact h.closed hd hc (ho hc)
  · exact h.open hd hc

end Steps

theorem owing_init (settings : Settings) (backoff : BackoffConfig) :
    Owing (Client.init settings backoff) := by
  have hnone : ∀ k, ¬ Pending (Client.init settings backoff) k := by
    rintro k ⟨t, ht, -⟩
    cases ht
  have hunclosed : Unclosed (Client.init settings backoff).shared.emitted := by
    intro e he
    cases he
  exact ⟨hunclosed.closedOnce, fun _ => ⟨hunclosed, hnone⟩, fun _ _ => hunclosed,
    fun i _ hi _ => (hnone i hi).elim⟩

/-- **`closed` is emitted once**, and no change of state follows it, in every run in which no
task goes on to `_set_state` in state CLOSED. -/
theorem closed_once (settings : Settings) (backoff : BackoffConfig) (as : List Action)
    (h : Meets Client.step LeavesClosed (Client.init settings backoff) as) :
    Always Client.step (fun c => ClosedOnce c.shared.emitted) (Client.init settings backoff) as :=
  (always_of_meets (fun _ _ _ hc ho hs => hc.step ho hs) (owing_init settings backoff) h).mono
    (fun _ hc => hc.closedOnce)

/-- A connection that the user closes, and closes again. -/
theorem closed_once_by_user : Always Client.step (fun c => ClosedOnce c.shared.emitted)
    (Client.init plainSettings plainBackoff)
    (connectRun ++ [.close ⟨normal, ""⟩, .resume 2, .resume 2, .resume 2, .closeDone 2, .resume 1,
      .resume 2, .resume 2, .resume 2, .close ⟨normal, ""⟩]) := by
  refine closed_once plainSettings plainBackoff _ ?_
  refine .cons rfl ?_ (.cons rfl ?_ (.cons rfl ?_ (.cons rfl ?_ (.cons rfl ?_ (.cons rfl ?_
    (.cons rfl ?_ (.cons rfl ?_ (.cons rfl ?_ (.cons rfl ?_ (.cons rfl ?_ (.cons rfl ?_
    (.cons rfl ?_ (.cons rfl ?_ (.cons rfl ?_ (.cons rfl ?_ (.cons rfl ?_ (.cons rfl ?_
    trivial)))))))))))))))))
  case refine_16 | refine_17 | refine_18 => exact fun _ => rfl
  all_goals exact fun h => (by cases h)

/-- Two calls of `close`, as tasks 2 and 3: the second one finds the transport closing, and
waits for the message loop; the first one sets CLOSED before it. -/
def twoClosesRun : List Action :=
  connectRun ++ [.close ⟨normal, ""⟩, .close ⟨normal, ""⟩, .resume 2, .resume 3, .resume 2,
    .resume 2, .resume 3, .closeDone 2, .resume 1, .resume 2, .resume 2, .resume 3]

/-- Both of them emit `closed`. -/
theorem closed_twice : ¬ Always Client.step (fun c => ClosedOnce c.shared.emitted)
    (Client.init plainSettings plainBackoff) twoClosesRun := by
  intro h
  have hend : exec Client.step (Client.init plainSettings plainBackoff) twoClosesRun = some _ := rfl
  have honce : ClosedOnce _ := h.last hend
  exact (honce.behind (i := 8) (j := 9) (by decide) rfl rfl rfl).1 rfl

end JetSocket.Manager
