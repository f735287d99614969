import JetSocket.Manager.SetState

/- `run`, which waits for the message loop that is the current one when it is called.

   A reconnection is made from inside a message loop (or from the heartbeat or the age timer),
   and the new connection gets a message loop of its own: the one that `run` waits for ends, and
   `run` returns beside an open connection.

   `RunAction` adds to the steps of a client the calls of `run`, their wakeups, and their
   cancellation, which asyncio passes on to the message loop. Each call notes the state in which
   it returned.

   Results:
     `run_outlasts`       — in a run in which the message loops that are waited for end behind
                            their last event, or under a `close`, `run` returns in a terminal
                            state.
     `run_ends_connected` — behind a reconnection it returns in CONNECTED. -/
namespace JetSocket

/-- The states in which `run` and `recv` wait. -/
def ConnectionState.isUnderWay : ConnectionState → Bool
  | .connected | .reconnecting | .backingOff => true
  | _ => false

namespace Manager
open JetSocket.Transport TaskPool Transition

/-- A call of `run`: it awaits a task (`cancelled`: and will be resumed with `CancelledError`),
or it has ended. -/
inductive RunCall where
  | waiting (task : Nat) (cancelled : Bool)
  | returned (state : ConnectionState)
  | raised
  deriving DecidableEq, Repr

structure Runner where
  client : Client
  calls : List RunCall

inductive RunAction where
  | base (a : Action)
  | run
  | resume (i : Nat)
  | cancel (i : Nat)
  deriving DecidableEq

/-- How the task ended, by an exception or without one. -/
def Client.ended (c : Client) (u : Nat) : Option Bool :=
  match (c.tasks[u]?).map AsyncTask.point with
  | some (.done raised) => some raised
  | _ => none

namespace RunCall

/-- Behind the wait for task `u`, where that has ended. -/
def await (c : Client) (u : Nat) : RunCall :=
  match c.ended u with
  | some true => .raised
  | some false => .returned c.shared.state
  | none => .waiting u false

/-- The call of `run`. -/
def start (c : Client) : RunCall :=
  if !c.shared.state.isUnderWay then .raised
  else
    match c.shared.messageTask with
    | none => .returned c.shared.state
    | some u => await c u

/-- The call is resumed. -/
def resume (c : Client) : RunCall → Option RunCall
  | .waiting u cancelled =>
    match c.ended u with
    | none => none
    | some _ => some (if cancelled then .returned c.shared.state else await c u)
  | _ => none

/-- The task it waits for. -/
def task : RunCall → Option Nat
  | .waiting u _ => some u
  | _ => none

end RunCall

namespace Runner

def init (settings : Settings) (backoff : BackoffConfig) : Runner :=
  { client := Client.init settings backoff, calls := [] }

def step (s : Runner) : RunAction → Option Runner
  | .base a => (s.client.step a).map (fun client => { s with client })
  | .run => some { s with calls := s.calls ++ [RunCall.start s.client] }
  | .resume i =>
    (s.calls[i]?).bind (fun call =>
      (call.resume s.client).map (fun call => { s with calls := s.calls.set i call }))
  | .cancel i =>
    match s.calls[i]? with
    | some (.waiting u false) =>
      if (s.client.ended u).isSome then some { s with calls := s.calls.set i (.waiting u true) }
      else some { s with client := s.client.cancelOpt (some u) }
    | _ => none

end Runner

/-- `run` lasts as long as the client: it returned in terminal states only. -/
def Outlasts (s : Runner) : Prop :=
  ∀ call ∈ s.calls, ∀ state, call = .returned state → state.isTerminal = true

/-! ## The condition -/

/-- A `close` waits for the task. -/
def Client.closeWaits (c : Client) (u : Nat) : Bool :=
  c.tasks.any (fun t =>
    match t.point with
    | .closeAwaitingMessage _ v => v = u
    | _ => false)

/-- The coroutine is in the handlers of its last event. -/
def Point.last : Point → Bool
  | .closedEmit | .exhaustedEmit => true
  | _ => false

/-- The step ends the task, and no exception does. -/
def Client.ends (c : Client) (a : Action) (u : Nat) : Bool :=
  (c.step a).any (fun c' => c'.ended u = some false)

/-- The steps with which `run` lasts: it is called while the message loop is live; a message loop
that it waits for ends behind its last event, or while a `close` waits for it, too; in that case
the `close` goes on first; from a terminal state no coroutine sets another one; and no call is
cancelled behind an exception of its message loop. -/
def Lasting (s : Runner) : RunAction → Prop
  | .base a =>
    (s.client.shared.state.isTerminal = true →
      ∀ state ∈ s.client.sets a, state.isTerminal = true) ∧
    ∀ call ∈ s.calls, ∀ u ∈ call.task, s.client.ended u ≠ some false → s.client.ends a u = true →
      (∃ t ∈ s.client.tasks[u]?, t.point.last = true) ∨ s.client.closeWaits u = true
  | .run =>
    s.client.shared.state.isUnderWay = true →
      ∃ u ∈ s.client.shared.messageTask, ∃ t ∈ s.client.tasks[u]?, t.point ≠ .done false
  | .resume i =>
    ∀ call ∈ s.calls[i]?, ∀ u ∈ call.task, s.client.closeWaits u = false
  | .cancel i => ∀ call ∈ s.calls[i]?, ∀ u ∈ call.task, s.client.ended u ≠ some true

instance decidableLasting (s : Runner) : ∀ a : RunAction, Decidable (Lasting s a)
  | .base _ => inferInstanceAs (Decidable (_ ∧ _))
  | .run => inferInstanceAs (Decidable (_ → _))
  | .resume _ => inferInstanceAs (Decidable (∀ _ ∈ _, _))
  | .cancel _ => inferInstanceAs (Decidable (∀ _ ∈ _, _))

instance decidableOutlasts (s : Runner) : Decidable (Outlasts s) :=
  decidable_of_iff (s.calls.all (fun call =>
      match call with
      | .returned state => state.isTerminal
      | _ => true) = true) (by
    unfold Outlasts
    rw [List.all_eq_true]
    constructor
    · rintro h call hcall state rfl
      exact h _ hcall
    · intro h call hcall
      cases call with
      | returned state => exact h _ hcall state rfl
      | _ => rfl)

/-! ## Steps of the client -/

section Steps
variable {c c' : Client} {k u : Nat} {a : Action} {p q : Point}

/-- No task goes away. -/
theorem task_of_step {t : AsyncTask} (hs : c.step a = some c') (ht : c.tasks[u]? = some t) :
    ∃ t', c'.tasks[u]? = some t' := by
  have hu : u < c.tasks.length := (List.getElem?_eq_some_iff.mp ht).1
  have hrun : ∀ (j : Nat) (m : TaskPool.Move WebSocket AsyncTask) (cancelled : Option Nat),
      j < c.tasks.length → ∃ t', (Client.cancelOpt (c.move j m) cancelled).tasks[u]? = some t' := by
    intro j m cancelled hj
    obtain ⟨v, hv⟩ : ∃ v, (c.move j m).tasks[u]? = some v := by
      by_cases huj : u = j
      · subst huj
        exact ⟨_, Pool.getElem?_move_self hj⟩
      · exact ⟨_, Pool.getElem?_move_ne huj ht⟩
    obtain ⟨b, hb⟩ := Client.getElem?_cancelOpt cancelled hv
    exact ⟨_, hb⟩
  have henter : ∀ (kind : Kind) (m : Move), ∃ t', (c.enter kind m).tasks[u]? = some t' := by
    intro kind m
    have hv : (c.call (m.toPool kind)).tasks[u]? = some t := by
      simp only [Pool.call, List.getElem?_append_left hu]
      exact ht
    obtain ⟨b, hb⟩ := Client.getElem?_cancelOpt m.cancel hv
    exact ⟨_, hb⟩
  rcases Client.step_cases hs with ⟨d, rfl, rfl⟩ | ⟨l, rfl, rfl⟩ | ⟨rfl, rfl⟩ | ⟨args, rfl, rfl⟩ |
    ⟨j, v, rfl, hv, -, -, rfl⟩ | ⟨j, v, m, hv, -, rfl⟩
  · exact ⟨t, ht⟩
  · exact ⟨t, ht⟩
  · exact henter _ _
  · exact henter _ _
  · exact hrun j _ none (List.getElem?_eq_some_iff.mp hv).1
  · exact hrun j _ _ (List.getElem?_eq_some_iff.mp hv).1

theorem ended_eq {raised : Bool} : c.ended u = some raised ↔
    ∃ t, c.tasks[u]? = some t ∧ t.point = .done raised := by
  unfold Client.ended
  constructor
  · intro h
    split at h
    · rename_i raised' hu
      obtain rfl := Option.some.inj h
      exact Option.map_eq_some_iff.mp hu
    · cases h
  · rintro ⟨t, ht, hp⟩
    rw [ht, Option.map_some, hp]

theorem closeWaits_iff : c.closeWaits u = true ↔
    ∃ (j : Nat) (t : AsyncTask), c.tasks[j]? = some t ∧
      ∃ args, t.point = .closeAwaitingMessage args u := by
  unfold Client.closeWaits
  rw [List.any_eq_true]
  constructor
  · rintro ⟨t, ht, hp⟩
    obtain ⟨j, hj⟩ := List.mem_iff_getElem?.mp ht
    refine ⟨j, t, hj, ?_⟩
    split at hp
    · rename_i args v hpoint
      have hv : v = u := by simpa using hp
      exact ⟨args, hv ▸ hpoint⟩
    · cases hp
  · rintro ⟨j, t, hj, args, hp⟩
    refine ⟨t, List.mem_of_getElem? hj, ?_⟩
    rw [hp]
    exact decide_eq_true rfl

/-- The task that moved is the only one that stands somewhere else. -/
theorem point_of_told (hd : Told c c' a k p q) {t t' : AsyncTask} (ht : c.tasks[u]? = some t)
    (ht' : c'.tasks[u]? = some t') : t'.point = t.point ∨
      (Client.actor a = some u ∧ u = k ∧ t.point = p ∧ t'.point = q) := by
  have hu : u < c.tasks.length := (List.getElem?_eq_some_iff.mp ht).1
  rcases hd.tasks u t' ht' with ⟨rfl, hq⟩ | ⟨-, v, hv, -, hp⟩ | ⟨hlen, -⟩
  · rcases hd.actor with ⟨ha, v, hv, hp⟩ | ⟨-, hk, -⟩
    · obtain rfl := Option.some.inj (hv.symm.trans ht)
      exact .inr ⟨ha, rfl, hp, hq⟩
    · omega
  · obtain rfl := Option.some.inj (hv.symm.trans ht)
    exact .inl hp
  · omega

/-- The state is the one that was set. -/
theorem state_of_told (hd : Told c c' a k p q) :
    c'.shared.state = (c.sets a).getD c.shared.state := by
  rw [hd.tells.state, Client.entry_state]

/-- Terminal states last, where no coroutine sets another one. -/
theorem terminal_step (hd : Told c c' a k p q)
    (hc : c.shared.state.isTerminal = true → ∀ state ∈ c.sets a, state.isTerminal = true)
    (ht : c.shared.state.isTerminal = true) : c'.shared.state.isTerminal = true := by
  rw [state_of_told hd]
  cases hset : c.sets a with
  | none => exact ht
  | some state => exact hc ht state hset

/-- A `close` that waits for a task which has ended sets CLOSED when it goes on. -/
theorem closeWaits_step (hs : c.step a = some c') (hd : Told c c' a k p q)
    (hw : c.closeWaits u = true) (he : c'.ended u = some false) :
    c'.shared.state.isTerminal = true ∨ c'.closeWaits u = true := by
  obtain ⟨j, t, ht, args, hp⟩ := closeWaits_iff.mp hw
  obtain ⟨t', ht'⟩ := task_of_step hs ht
  rcases point_of_told hd ht ht' with hsame | ⟨ha, rfl, rfl, -⟩
  · exact .inr (closeWaits_iff.mpr ⟨j, t', ht', args, hsame.trans hp⟩)
  · left
    have hset : c.sets a = c.shared.awaitedSets (c.waitRaised j u) t.point := by
      rw [sets_of_actor ha ht, hp]
      rfl
    have hraised : c.waitRaised j u = false := by
      unfold Client.waitRaised
      by_cases huj : u = j
      · simp [huj]
      · obtain ⟨v', hv', hdone⟩ := ended_eq.mp he
        rcases hd.tasks u v' hv' with ⟨huj', -⟩ | ⟨-, v, hv, -, hpoint⟩ | ⟨-, hstart⟩
        · exact (huj huj').elim
        · rw [hv]
          simp [← hpoint, hdone]
        · rw [hdone] at hstart
          cases hstart
    rw [state_of_told hd, hset, hraised, hp]
    rfl

end Steps

/-! ## The invariant -/

/-- A coroutine that has set a terminal state finds the client in one; so does a call of `run`
whose message loop has ended, unless a `close` that waits for it too goes on before. -/
structure Sound (s : Runner) : Prop where
  set : ∀ (j : Nat) (t : AsyncTask) (state : ConnectionState), s.client.tasks[j]? = some t →
    t.point.entered = some state ∨ t.point.reports = some state → state.isTerminal = true →
    s.client.shared.state.isTerminal = true
  known : ∀ u cancelled, .waiting u cancelled ∈ s.calls → ∃ t, s.client.tasks[u]? = some t
  cancelled : ∀ u, .waiting u true ∈ s.calls → s.client.ended u = some false
  finished : ∀ u cancelled, .waiting u cancelled ∈ s.calls → s.client.ended u = some false →
    s.client.shared.state.isTerminal = true ∨ s.client.closeWaits u = true
  outlasts : Outlasts s

section Preserved
variable {s : Runner} {c' : Client} {k u : Nat} {a : Action} {p q : Point}

theorem Point.terminal_of_last {p : Point} (h : p.last = true) :
    ∃ state, p.reports = some state ∧ state.isTerminal = true := by
  cases p with
  | closedEmit => exact ⟨_, rfl, rfl⟩
  | exhaustedEmit => exact ⟨_, rfl, rfl⟩
  | _ => cases h

/-- A task that returned stays so. -/
theorem ended_step {c : Client} (hs : c.step a = some c') (hd : Told c c' a k p q)
    (h : c.ended u = some false) : c'.ended u = some false := by
  obtain ⟨t, ht, hp⟩ := ended_eq.mp h
  obtain ⟨t', ht'⟩ := task_of_step hs ht
  refine ended_eq.mpr ⟨t', ht', ?_⟩
  rcases point_of_told hd ht ht' with hsame | ⟨ha, -, -, -⟩
  · exact hsame.trans hp
  · have hu : u < c.tasks.length := (List.getElem?_eq_some_iff.mp ht).1
    obtain ⟨v, hv, hstep⟩ := Client.step_of_actor ha hs
    obtain rfl := Option.some.inj (hv.symm.trans ht)
    rcases hstep with ⟨-, -, hst, -⟩ | ⟨m, hm, rfl⟩
    · rw [hp] at hst
      cases hst
    · have hlive : v.live = false := by
        unfold AsyncTask.live
        rw [hp]
      -- The only move left is the `CancelledError`, which leaves it where it is.
      cases hm with
      | cancelled =>
        obtain ⟨b, hb⟩ : ∃ b, (c.run u v.kind c.shared.finish).tasks[u]? = some ⟨v.kind, _, b⟩ :=
          Client.getElem?_run_self hu
        rw [settle_eq (fun hdone => by cases hdone)] at hb
        obtain rfl := Option.some.inj (hb.symm.trans ht')
        rfl
      | resumed _ _ hm =>
        rw [Client.live_of_resume hm] at hlive
        cases hlive
      | awaited _ _ hm =>
        rw [Client.live_of_awaited hm] at hlive
        cases hlive
      | reacts _ _ hm =>
        rw [Client.live_of_reacts hm] at hlive
        cases hlive

theorem Sound.base (h : Sound s) (hc : Lasting s (.base a)) (hs : s.client.step a = some c') :
    Sound { s with client := c' } := by
  obtain ⟨k, p, q, hd⟩ := step_told hs
  obtain ⟨hterminal, hends⟩ := hc
  have hkeep : s.client.shared.state.isTerminal = true → c'.shared.state.isTerminal = true :=
    terminal_step hd hterminal
  refine ⟨fun j t' state ht' hat hst => ?_, fun u b hu => ?_, fun u hu => ?_, fun u b hu he => ?_,
    h.outlasts⟩
  · rcases hd.tasks j t' ht' with ⟨-, hq⟩ | ⟨-, v, hv, -, hp⟩ | ⟨-, hstart⟩
    · rw [hq] at hat
      -- The state was set by this step, or announced behind the handlers in which it was set.
      have hset : s.client.sets a = some state → c'.shared.state.isTerminal = true := by
        intro hset
        rw [state_of_told hd, hset]
        exact hst
      rcases hat with hat | hat
      · exact hset (hd.tells.entered state hat).1
      · rcases hd.tells.reports state hat with hp | ⟨hs, -⟩
        · rcases hd.actor with ⟨-, v, hv, hpv⟩ | ⟨-, -, hpv⟩
          · exact hkeep (h.set k v state hv (.inl (hpv ▸ hp)) hst)
          · rw [hpv] at hp
            cases hp
        · exact hset hs
    · rw [hp] at hat
      exact hkeep (h.set j v state hv hat hst)
    · exfalso
      generalize t'.point = r at hat hstart
      cases r with
      | beatSleep | ageSleep | loopStart =>
        rcases hat with hat | hat
        · cases hat
        · cases hat
      | _ => cases hstart
  · obtain ⟨t, ht⟩ := h.known u b hu
    exact task_of_step hs ht
  · exact ended_step hs hd (h.cancelled u hu)
  · have hover : s.client.shared.state.isTerminal = true ∨ s.client.closeWaits u = true := by
      by_cases hbefore : s.client.ended u = some false
      · exact h.finished u b hu hbefore
      · have hend : s.client.ends a u = true := by
          unfold Client.ends
          rw [hs, Option.any_some]
          exact decide_eq_true he
        rcases hends _ hu u rfl hbefore hend with ⟨t, ht, hlast⟩ | hw
        · obtain ⟨state, hr, hst⟩ := Point.terminal_of_last hlast
          exact .inl (h.set u t state ht (.inr hr) hst)
        · exact .inr hw
    rcases hover with ht | hw
    · exact .inl (hkeep ht)
    · exact closeWaits_step hs hd hw he

/-- A call of `run` that begins, or is resumed, or is cancelled. -/
theorem Sound.calls (h : Sound s) {calls : List RunCall}
    (hcalls : ∀ call ∈ calls, call ∈ s.calls ∨ call = .raised ∨
      (∃ state, call = .returned state ∧ state.isTerminal = true) ∨
      (∃ u, call = .waiting u false ∧ (∃ t, s.client.tasks[u]? = some t) ∧
        s.client.ended u ≠ some false) ∨
      (∃ u, call = .waiting u true ∧ .waiting u false ∈ s.calls ∧ s.client.ended u = some false)) :
    Sound { s with calls } := by
  refine ⟨h.set, fun u b hu => ?_, fun u hu => ?_, fun u b hu he => ?_, fun call hcall st hst => ?_⟩
  · rcases hcalls _ hu with hu | hu | ⟨_, hu, -⟩ | ⟨v, hu, ht, -⟩ | ⟨v, hu, hold, -⟩
    · exact h.known u b hu
    · cases hu
    · cases hu
    · cases hu
      exact ht
    · cases hu
      exact h.known u false hold
  · rcases hcalls _ hu with hu | hu | ⟨_, hu, -⟩ | ⟨v, hu, -⟩ | ⟨v, hu, -, he⟩
    · exact h.cancelled u hu
    · cases hu
    · cases hu
    · cases hu
    · cases hu
      exact he
  · rcases hcalls _ hu with hu | hu | ⟨_, hu, -⟩ | ⟨v, hu, -, hne⟩ | ⟨v, hu, hold, -⟩
    · exact h.finished u b hu he
    · cases hu
    · cases hu
    · cases hu
      exact (hne he).elim
    · cases hu
      exact h.finished u false hold he
  · rcases hcalls _ hcall with hold | rfl | ⟨state, rfl, ht⟩ | ⟨v, rfl, -⟩ | ⟨v, rfl, -⟩
    · exact h.outlasts call hold st hst
    · cases hst
    · cases hst
      exact ht
    · cases hst
    · cases hst

theorem Sound.run (h : Sound s) (hc : Lasting s .run) :
    Sound { s with calls := s.calls ++ [RunCall.start s.client] } := by
  refine h.calls (fun call hcall => ?_)
  rcases List.mem_append.mp hcall with hcall | hcall
  · exact .inl hcall
  · obtain rfl := List.mem_singleton.mp hcall
    unfold RunCall.start
    split
    · exact .inr (.inl rfl)
    · rename_i hway
      obtain ⟨u, hu, t, ht, hp⟩ := hc (by simpa using hway)
      rw [Option.mem_def.mp hu]
      dsimp only
      unfold RunCall.await
      split
      · exact .inr (.inl rfl)
      · rename_i he
        obtain ⟨t', ht', hp'⟩ := ended_eq.mp he
        obtain rfl := Option.some.inj (ht'.symm.trans ht)
        exact (hp hp').elim
      · rename_i he
        exact .inr (.inr (.inr (.inl ⟨u, rfl, ⟨t, ht⟩, by simp [he]⟩)))

theorem Sound.resume (h : Sound s) {i : Nat} (hc : Lasting s (.resume i)) {call call' : RunCall}
    (hi : s.calls[i]? = some call) (hr : call.resume s.client = some call') :
    Sound { s with calls := s.calls.set i call' } := by
  have hcall : call ∈ s.calls := List.mem_of_getElem? hi
  have hnew : call' = .raised ∨ ∃ state, call' = .returned state ∧ state.isTerminal = true := by
    cases call with
    | waiting u b =>
      have hterminal : s.client.ended u = some false →
          s.client.shared.state.isTerminal = true := by
        intro he
        rcases h.finished u b hcall he with ht | hw
        · exact ht
        · rw [hc _ hi u rfl] at hw
          cases hw
      simp only [RunCall.resume] at hr
      split at hr
      · cases hr
      · rename_i raised he
        obtain rfl := Option.some.inj hr
        split
        · rename_i hb
          have hb : .waiting u true ∈ s.calls := by simpa [hb] using hcall
          exact .inr ⟨_, rfl, hterminal (h.cancelled u hb)⟩
        · unfold RunCall.await
          split
          · exact .inl rfl
          · rename_i hfalse
            exact .inr ⟨_, rfl, hterminal hfalse⟩
          · rename_i hnone
            rw [he] at hnone
            cases hnone
    | returned | raised => cases hr
  refine h.calls (fun d hd => ?_)
  rcases List.mem_or_eq_of_mem_set hd with hd | rfl
  · exact .inl hd
  · rcases hnew with hnew | hnew
    · exact .inr (.inl hnew)
    · exact .inr (.inr (.inl hnew))

/-- Cancelling a message loop moves no task. -/
theorem Sound.cancelOpt (h : Sound s) (v : Option Nat) :
    Sound { s with client := s.client.cancelOpt v } := by
  have hended : ∀ u raised, (s.client.cancelOpt v).ended u = some raised ↔
      s.client.ended u = some raised := by
    intro u raised
    rw [ended_eq, ended_eq]
    constructor
    · rintro ⟨t, ht, hp⟩
      obtain ⟨t', ht', -, hp'⟩ := Client.getElem?_of_cancelOpt v ht
      exact ⟨t', ht', hp'.symm.trans hp⟩
    · rintro ⟨t, ht, hp⟩
      obtain ⟨b, hb⟩ := Client.getElem?_cancelOpt v ht
      exact ⟨_, hb, hp⟩
  refine ⟨fun j t state ht hat hst => ?_, fun u b hu => ?_, fun u hu => ?_, fun u b hu he => ?_,
    h.outlasts⟩
  · obtain ⟨t', ht', -, hp⟩ := Client.getElem?_of_cancelOpt v ht
    rw [Client.shared_cancelOpt]
    exact h.set j t' state ht' (hp ▸ hat) hst
  · obtain ⟨t, ht⟩ := h.known u b hu
    obtain ⟨b', hb'⟩ := Client.getElem?_cancelOpt v ht
    exact ⟨_, hb'⟩
  · exact (hended u false).mpr (h.cancelled u hu)
  · rw [Client.shared_cancelOpt]
    refine (h.finished u b hu ((hended u false).mp he)).imp id (fun hw => ?_)
    obtain ⟨j, t, ht, args, hp⟩ := closeWaits_iff.mp hw
    obtain ⟨b', hb'⟩ := Client.getElem?_cancelOpt v ht
    exact closeWaits_iff.mpr ⟨j, _, hb', args, hp⟩

theorem Sound.cancel (h : Sound s) {i u : Nat} (hc : Lasting s (.cancel i))
    (hi : s.calls[i]? = some (.waiting u false)) (he : (s.client.ended u).isSome = true) :
    Sound { s with calls := s.calls.set i (.waiting u true) } := by
  refine h.calls (fun d hd => ?_)
  rcases List.mem_or_eq_of_mem_set hd with hd | rfl
  · exact .inl hd
  · obtain ⟨raised, hraised⟩ := Option.isSome_iff_exists.mp he
    cases raised with
    | false =>
      exact .inr (.inr (.inr (.inr ⟨u, rfl, List.mem_of_getElem? hi, hraised⟩)))
    | true => exact (hc _ hi u rfl hraised).elim

/-- **One step.** -/
theorem Sound.step {a : RunAction} {s' : Runner} (h : Sound s) (hc : Lasting s a)
    (hs : s.step a = some s') : Sound s' := by
  cases a with
  | base a =>
    obtain ⟨c', hc', rfl⟩ := Option.map_eq_some_iff.mp hs
    exact h.base hc hc'
  | run =>
    obtain rfl := Option.some.inj hs
    exact h.run hc
  | resume i =>
    obtain ⟨call, hi, hs⟩ := Option.bind_eq_some_iff.mp hs
    obtain ⟨call', hr, rfl⟩ := Option.map_eq_some_iff.mp hs
    exact h.resume hc hi hr
  | cancel i =>
    simp only [Runner.step] at hs
    split at hs
    · rename_i u hi
      split at hs
      · rename_i he
        obtain rfl := Option.some.inj hs
        exact h.cancel hc hi he
      · obtain rfl := Option.some.inj hs
        exact h.cancelOpt _
    · cases hs

end Preserved

/-- **`run` lasts as long as the client** in every run that meets the condition. -/
theorem run_outlasts (settings : Settings) (backoff : BackoffConfig) (as : List RunAction)
    (h : Meets Runner.step Lasting (Runner.init settings backoff) as) :
    Always Runner.step Outlasts (Runner.init settings backoff) as := by
  have hinit : Sound (Runner.init settings backoff) := by
    refine ⟨fun j t state ht => ?_, fun u b hu => ?_, fun u hu => ?_, fun u b hu => ?_,
      fun call hcall => ?_⟩
    · cases ht
    · cases hu
    · cases hu
    · cases hu
    · cases hcall
  exact (always_of_meets (fun _ _ _ hi hc hs => Sound.step hi hc hs) hinit h).mono
    (fun _ hs => hs.outlasts)

/-! ## Two runs -/

/-- `connect`, `run`, and the user closes. -/
def runCloseRun : List RunAction :=
  connectRun.map .base ++ [.run, .base (.close ⟨normal, ""⟩), .base (.resume 2), .base (.resume 2),
    .base (.resume 2), .base (.closeDone 2), .base (.resume 1), .base (.resume 2), .resume 0]

/-- `run` returns in CLOSED. -/
theorem run_outlasts_close :
    (exec Runner.step (Runner.init plainSettings plainBackoff) runCloseRun).map Runner.calls =
        some [.returned .closed] ∧
      Always Runner.step Outlasts (Runner.init plainSettings plainBackoff) runCloseRun :=
  ⟨by decide +kernel, run_outlasts plainSettings plainBackoff runCloseRun (by decide +kernel)⟩

/-- `connect`, `run`, and the connection is lost and made again. -/
def runReconnectRun : List RunAction :=
  connectRun.map .base ++ [.run, .base (.closeFrame 1 1001)] ++
    List.replicate 8 (.base (.resume 1)) ++
    [.base (.opened 1), .base (.attempt 1 .connected), .base (.resume 1), .base (.resume 1),
      .base (.resume 1), .resume 0]

/-- `run` returns in CONNECTED. -/
theorem run_ends_connected :
    ¬ Always Runner.step Outlasts (Runner.init plainSettings plainBackoff) runReconnectRun := by
  decide +kernel

end Manager
end JetSocket
