import JetSocket.Routing.Dictionary

/- `Multiplex.close` against every order of the other calls.

   `close` puts one `None` into the queue of each subscription, awaits the router, awaits the
   WebSocket and clears the dictionary. One `None` wakes one `recv`, and a full queue takes none.
   `subscribe` asks whether the WebSocket is connected, which it still is while `close` awaits the
   router, and does not ask whether `close` was called.

   Correspondence (Python ↔ Lean):
     `_closed`                        ↔ `Shutdown.closed`
     the loop over `_subscriptions`   ↔ `Multiplex.signalAll`
     `await self._router_task`        ↔ `Input.joined`; it raises what the router raised
     `await self._manager.close()`    ↔ `Input.disconnected`, with what follows it

   What is proved:
     `Kept.step` — a step keeps those closed for good that were, and those signalled freed.
     `close_releases` — `close` releases everyone in each run where one `None` is enough for all
                        that wait when it is put, and nobody subscribes anew behind `close`. -/
namespace JetSocket.Routing
open Transition

variable {M K : Type}

/-- Where the first call of `close` is. -/
inductive Stage where
  | idle
  | stopping
  | disconnecting
  | finished
  deriving DecidableEq, Repr

/-- A multiplexed connection with the calls of `close`. `failed`: the router has raised; `manager`:
there is a WebSocket; `returned`: some call of `close` has returned. -/
structure Shutdown (M K : Type) where
  mux : Multiplex M K
  failed : Bool
  stage : Stage
  manager : Bool
  returned : Bool

/-- Each subscription in the dictionary is closed, and the router cancelled. -/
def Multiplex.signalAll [DecidableEq K] (mux : Multiplex M K) : Multiplex M K :=
  { mux with
    created := mux.created.mapIdx (fun i s =>
      if mux.subscriptions s.channel = some i then s.signalled mux.config.maxsize else s)
    routing := false }

namespace Shutdown

def new (config : MultiplexConfig M K) : Shutdown M K :=
  { mux := Multiplex.new config, failed := false, stage := .idle, manager := true,
    returned := false }

/-- `_closed`. -/
def closed (t : Shutdown M K) : Bool := t.stage != .idle

inductive Input (M K : Type) where
  | call (input : Multiplex.Input M K)
  | routerEnds
  | close
  | joined
  | disconnected (raises : Bool)
  deriving DecidableEq

variable [DecidableEq K]

/-- What a call is given: no WebSocket is connected where there is none. -/
def seen (t : Shutdown M K) : Multiplex.Input M K → Multiplex.Input M K
  | .subscribe connected channel => .subscribe (t.manager && connected) channel
  | input => input

def step (t : Shutdown M K) : Input M K → Option (Shutdown M K)
  | .call input =>
    (t.mux.step (t.seen input)).map (fun mux =>
      { t with mux, failed := t.failed || (t.mux.routing && !mux.routing) })
  | .routerEnds => if t.mux.routing then some { t with mux := t.mux.died } else none
  | .close =>
    if t.closed then some { t with returned := true }
    else some { t with mux := t.mux.signalAll, stage := .stopping }
  | .joined =>
    if t.stage = .stopping then
      some { t with stage := if t.failed then .finished else .disconnecting }
    else none
  | .disconnected raises =>
    if t.stage = .disconnecting then
      if raises then some { t with stage := .finished }
      else
        some { t with
          mux := { t.mux with subscriptions := fun _ => none }
          manager := false, stage := .finished, returned := true }
    else none

end Shutdown

/-- **Everyone is released** once `close` has returned: all subscriptions are inactive, nobody is
parked, and each call that is about to run has an item to take. -/
def ReleasedAll (t : Shutdown M K) : Prop :=
  t.returned = true → ∀ s ∈ t.mux.created, s.active = false ∧ s.queue.Freed

/-- Where one `None` is enough for all calls that wait on a subscription that is closed, and no
subscription is made once `close` was called. -/
def Releases [DecidableEq K] (t : Shutdown M K) : Shutdown.Input M K → Prop
  | .call (.subscribe connected channel) =>
    t.closed = true → (t.manager && connected) = true → t.mux.subscriptions channel ≠ none
  | .call (.unsubscribe channel) =>
    ∀ i s, t.mux.lookup channel = some (i, s) → s.queue.Freeable t.mux.config.maxsize
  | .call (.close i) =>
    ∀ s : Subscription M K, t.mux.created[i]? = some s → s.active = true →
      s.queue.Freeable t.mux.config.maxsize
  | .close =>
    t.closed = false → ∀ (i : Nat) (s : Subscription M K), t.mux.created[i]? = some s →
      t.mux.subscriptions s.channel = some i → s.queue.Freeable t.mux.config.maxsize
  | _ => True

/-- A subscription that was closed and whose waiting calls are freed. -/
def Subscription.Over (s : Subscription M K) : Prop := s.active = false ∧ s.queue.Freed

/-- What is not in the dictionary is over; once `close` was called, everything is. -/
structure Kept (closed : Bool) (mux : Multiplex M K) : Prop where
  wired : Wired mux
  gone : ∀ (i : Nat) (s : Subscription M K), mux.created[i]? = some s →
    closed = true ∨ mux.subscriptions s.channel ≠ some i → s.Over

section Steps
variable {closed : Bool} {mux mux' : Multiplex M K} {input : Multiplex.Input M K} {i : Nat}
  {s s' : Subscription M K}

theorem signalled_over_iff (s : Subscription M K) (maxsize : Nat) :
    (s.signalled maxsize).Over ↔ s.queue.Freeable maxsize := by
  rw [← AsyncQueue.freed_putNowait_iff s.queue maxsize none]
  exact ⟨fun h => h.2, fun h => ⟨rfl, h⟩⟩

/-- Where one subscription goes on, and is over if it was. -/
theorem Kept.set (h : Kept closed mux)
    (hwired : Wired { mux with created := mux.created.set i s' }) (hi : mux.created[i]? = some s)
    (hchannel : s'.channel = s.channel) (hover : s.Over → s'.Over) :
    Kept closed { mux with created := mux.created.set i s' } := by
  refine ⟨hwired, fun j u hu hout => ?_⟩
  dsimp only at hu hout
  obtain ⟨rfl, rfl⟩ | ⟨-, hu⟩ := set_cases hi hu
  · rw [hchannel] at hout
    exact hover (h.gone j s hi hout)
  · exact h.gone j u hu hout

variable [DecidableEq K]

/-- A call that was woken runs. -/
theorem resume_woken {task : Nat} (hs : mux.step (.resume i task) = some mux')
    (hi : mux.created[i]? = some s) : task ∈ s.queue.woken := by
  obtain ⟨u, hu, hs⟩ := Option.bind_eq_some_iff.mp hs
  rw [hi] at hu
  cases hu
  split at hs
  · assumption
  · cases hs

omit [DecidableEq K] in
/-- A subscription that is over stays so when a woken call of it runs. -/
theorem Subscription.Over.resume (h : s.Over) {task : Nat} (ht : task ∈ s.queue.woken) :
    (s.took (s.queue.resume task)).1.Over := by
  refine ⟨?_, ?_⟩
  · have hkept := (took_bounded (AsyncQueue.resume_pops s.queue task)).2.2.1
    exact Bool.eq_false_iff.mpr (fun ha => Bool.eq_false_iff.mp h.1 (hkept ha))
  · rw [took_queue]
    exact h.2.resume ht

/-- **One step** keeps over what is over, where a `None` frees all that wait. -/
theorem Kept.step (h : Kept closed mux)
    (hnew : closed = true → ∀ channel, input = .subscribe true channel →
      mux.subscriptions channel ≠ none)
    (hfrees : ∀ i s, mux.created[i]? = some s → mux.subscriptions s.channel = some i →
      input = .close i ∧ s.active = true ∨ input = .unsubscribe s.channel →
      s.queue.Freeable mux.config.maxsize)
    (hs : mux.step input = some mux') : Kept closed mux' := by
  have hwired := wired_step h.wired hs
  have hopen : ∀ {t : Subscription M K}, t.active = true → t.Over → False :=
    fun hactive hover => Bool.eq_false_iff.mp hover.1 hactive
  have hquiet : input.Quiet → Kept closed mux' := by
    intro hquiet
    cases h.wired.calls hquiet hs with
    | kept input => exact h
    | subscribed channel hnone =>
      have hstill : ¬ closed = true := fun hc => hnew hc channel rfl hnone
      refine ⟨hwired, fun j u hu hout => ?_⟩
      have hname := hout.resolve_left hstill
      dsimp only at hname
      rcases appended_cases hu with hold | ⟨rfl, rfl⟩
      · refine h.gone j u hold (.inr (fun hsub => hname ?_))
        have hne : u.channel ≠ channel := by
          rintro rfl
          rw [hsub] at hnone
          cases hnone
        rw [Function.update_of_ne hne]
        exact hsub
      · exact absurd (Function.update_self ..) hname
    | closed input i s hi hsub hinput =>
      refine ⟨hwired, fun j u hu hout => ?_⟩
      dsimp only at hu hout
      obtain ⟨rfl, rfl⟩ | ⟨hij, hu⟩ := set_cases hi hu
      · exact (signalled_over_iff s _).mpr (hfrees j s hi hsub hinput)
      · refine h.gone j u hu (hout.imp_right (fun hname hlisted => hname ?_))
        have hne : u.channel ≠ s.channel := by
          intro hname
          rw [hname, hsub] at hlisted
          exact hij (Option.some.inj hlisted)
        rw [Function.update_of_ne hne]
        exact hlisted
  cases step_acts h.wired hs with
  | died message hkeyed => exact ⟨hwired, h.gone⟩
  | unrouted message hkeyed hnone => exact ⟨hwired, h.gone⟩
  | routed message i s queue hr =>
    have hset : Kept closed { mux with created := mux.created.set i (s.counted queue) } :=
      h.set ⟨hwired.named, hwired.listed, hwired.bounded⟩ hr.created rfl
        (fun hover => (hopen hr.active hover).elim)
    exact ⟨hwired, hset.gone⟩
  | subscribed connected channel hnone => exact hquiet trivial
  | kept input hq => exact hquiet hq
  | closed input hq => exact hquiet hq
  | gaveUp i task s hi => exact h.set hwired hi rfl (fun hover => ⟨hover.1, hover.2.giveUp task⟩)
  | refused i task s hi hactive => exact h
  | received i task s hi hactive =>
    exact h.set hwired hi (took_bounded (AsyncQueue.get_pops _ _)).2.1
      (fun hover => (hopen hactive hover).elim)
  | resumed i task s hi =>
    exact h.set hwired hi (took_bounded (AsyncQueue.resume_pops _ _)).2.1
      (fun hover => hover.resume (resume_woken hs hi))

/-- The loop of `close`. -/
theorem Kept.signalAll (h : Kept false mux)
    (hfrees : ∀ (i : Nat) (s : Subscription M K), mux.created[i]? = some s →
      mux.subscriptions s.channel = some i → s.queue.Freeable mux.config.maxsize) :
    Kept true mux.signalAll := by
  have hcreated : ∀ {i : Nat} {s' : Subscription M K}, mux.signalAll.created[i]? = some s' →
      ∃ s, mux.created[i]? = some s ∧ (mux.subscriptions s.channel = some i ∧
        s' = s.signalled mux.config.maxsize ∨ mux.subscriptions s.channel ≠ some i ∧ s' = s) := by
    intro i s' hs'
    unfold Multiplex.signalAll at hs'
    rw [List.getElem?_mapIdx] at hs'
    obtain ⟨s, hs, rfl⟩ := Option.map_eq_some_iff.mp hs'
    refine ⟨s, hs, ?_⟩
    split
    · exact .inl ⟨‹_›, rfl⟩
    · exact .inr ⟨‹_›, rfl⟩
  have hover : ∀ (i : Nat) (s' : Subscription M K), mux.signalAll.created[i]? = some s' →
      s'.Over := by
    intro i s' hs'
    obtain ⟨s, hs, ⟨hsub, rfl⟩ | ⟨hsub, rfl⟩⟩ := hcreated hs'
    · exact (signalled_over_iff s _).mpr (hfrees i s hs hsub)
    · exact h.gone i _ hs (.inr hsub)
  refine ⟨⟨fun k i hk => ?_, fun i s' hs' hactive => ?_, fun i s' hs' hpos => ?_⟩,
    fun i s' hs' _ => hover i s' hs'⟩
  · obtain ⟨s, hs, rfl⟩ := h.wired.named k i hk
    have hsub : mux.subscriptions s.channel = some i := hk
    refine ⟨s.signalled mux.config.maxsize, ?_, rfl⟩
    unfold Multiplex.signalAll
    rw [List.getElem?_mapIdx, hs, Option.map_some, if_pos hsub]
  · exact (Bool.eq_false_iff.mp (hover i s' hs').1 hactive).elim
  · obtain ⟨s, hs, ⟨-, rfl⟩ | ⟨-, rfl⟩⟩ := hcreated hs'
    · exact signalled_bounded hpos (h.wired.bounded i s hs hpos)
    · exact h.wired.bounded i _ hs hpos

omit [DecidableEq K] in
/-- Nothing is left to be looked up. -/
theorem Kept.clear (h : Kept true mux) :
    Kept true { mux with subscriptions := fun _ => none } := by
  have hover : ∀ (i : Nat) (s : Subscription M K), mux.created[i]? = some s → s.Over :=
    fun i s hi => h.gone i s hi (.inl rfl)
  exact ⟨⟨fun _ _ hk => (by cases hk),
    fun i s hi hactive => (Bool.eq_false_iff.mp (hover i s hi).1 hactive).elim, h.wired.bounded⟩,
    fun i s hi _ => hover i s hi⟩

end Steps

/-! ## Runs -/

/-- The invariant of runs. -/
structure Closing (t : Shutdown M K) : Prop where
  kept : Kept t.closed t.mux
  fresh : t.closed = false → t.returned = false

theorem Closing.released {t : Shutdown M K} (h : Closing t) : ReleasedAll t := by
  intro hreturned s hs
  have hclosed : t.closed = true := by
    refine Bool.not_eq_false _ |>.mp (fun hopen => ?_)
    rw [h.fresh hopen] at hreturned
    cases hreturned
  obtain ⟨i, hi⟩ := List.getElem?_of_mem hs
  exact h.kept.gone i s hi (.inl hclosed)

/-- Behind the first call of `close`, everything is over. -/
theorem Closing.kept_behind {t : Shutdown M K} (h : Closing t) (hstage : t.stage ≠ .idle) :
    Kept true t.mux := by
  have hclosed : t.closed = true := bne_iff_ne.mpr hstage
  have hkept := h.kept
  rw [hclosed] at hkept
  exact hkept

theorem closing_new (config : MultiplexConfig M K) : Closing (Shutdown.new config) :=
  ⟨⟨wired_new config, fun _ _ hi => (by cases hi)⟩, fun _ => rfl⟩

variable [DecidableEq K]

/-- What `Releases` asks of a call, for the subscription that the call closes. -/
theorem Releases.frees {t : Shutdown M K} {input : Multiplex.Input M K}
    (hc : Releases t (.call input)) {i : Nat} {s : Subscription M K}
    (hi : t.mux.created[i]? = some s) (hsub : t.mux.subscriptions s.channel = some i)
    (hinput : t.seen input = .close i ∧ s.active = true ∨
      t.seen input = .unsubscribe s.channel) : s.queue.Freeable t.mux.config.maxsize := by
  have hlookup : t.mux.lookup s.channel = some (i, s) := by
    unfold Multiplex.lookup
    rw [hsub, Option.bind_some, hi, Option.map_some]
  cases input with
  | unsubscribe channel =>
    rcases hinput with ⟨h, -⟩ | h
    · cases h
    · cases h
      exact hc i s hlookup
  | close j =>
    rcases hinput with ⟨h, hactive⟩ | h
    · cases h
      exact hc s hi hactive
    · cases h
  | _ => rcases hinput with ⟨h, -⟩ | h <;> cases h

theorem closing_step (t : Shutdown M K) (input : Shutdown.Input M K) (t' : Shutdown M K)
    (h : Closing t) (hc : Releases t input) (ht : t.step input = some t') : Closing t' := by
  cases input with
  | call input =>
    obtain ⟨mux, hmux, rfl⟩ := Option.map_eq_some_iff.mp ht
    refine ⟨h.kept.step ?_ (fun i s hi hsub => hc.frees hi hsub) hmux, h.fresh⟩
    intro hclosed channel hinput
    cases input with
    | subscribe connected name =>
      obtain ⟨hconnected, rfl⟩ := Multiplex.Input.subscribe.inj hinput
      exact hc hclosed hconnected
    | _ => cases hinput
  | routerEnds =>
    simp only [Shutdown.step] at ht
    split at ht
    · cases ht
      exact ⟨⟨⟨h.kept.wired.named, h.kept.wired.listed, h.kept.wired.bounded⟩, h.kept.gone⟩,
        h.fresh⟩
    · cases ht
  | close =>
    simp only [Shutdown.step] at ht
    split at ht
    · rename_i hclosed
      cases ht
      refine ⟨h.kept, fun hopen => ?_⟩
      rw [show t.closed = false from hopen] at hclosed
      cases hclosed
    · rename_i hopen
      cases ht
      have hopen' : t.closed = false := Bool.eq_false_iff.mpr hopen
      have hkept := h.kept
      rw [hopen'] at hkept
      exact ⟨hkept.signalAll (hc hopen'), fun hstage => (by cases hstage)⟩
  | joined =>
    simp only [Shutdown.step] at ht
    split at ht
    · rename_i hstage
      cases ht
      have hkept : Kept true t.mux := h.kept_behind (by rw [hstage]; decide)
      cases t.failed with
      | false => exact ⟨hkept, fun hopen => (by cases hopen)⟩
      | true => exact ⟨hkept, fun hopen => (by cases hopen)⟩
    · cases ht
  | disconnected raises =>
    simp only [Shutdown.step] at ht
    split at ht
    · rename_i hstage
      have hkept : Kept true t.mux := h.kept_behind (by rw [hstage]; decide)
      split at ht
      · cases ht
        exact ⟨hkept, fun hopen => (by cases hopen)⟩
      · cases ht
        exact ⟨hkept.clear, fun hopen => (by cases hopen)⟩
    · cases ht

/-- **`close` releases everyone**, in each run where one `None` is enough for all calls that wait
on a subscription when it is closed, and no subscription is made once `close` was called. -/
theorem close_releases (config : MultiplexConfig M K) (run : List (Shutdown.Input M K))
    (hrun : Meets Shutdown.step Releases (Shutdown.new config) run) :
    Always Shutdown.step ReleasedAll (Shutdown.new config) run := by
  have hall : Always Shutdown.step Closing (Shutdown.new config) run :=
    always_of_meets closing_step (closing_new config) hrun
  exact hall.mono (fun _ h => h.released)

/-- Messages that name their channels. -/
def plainConfig (queueSize : Int) : MultiplexConfig Nat Nat :=
  { channelExtractor := fun message => message.elim .absent .channel, queueSize }

/-- One call waits, and is told. -/
theorem close_releases_one :
    Always Shutdown.step ReleasedAll (Shutdown.new (plainConfig 10))
      [.call (.subscribe true 7), .call (.recv 0 1), .close, .call (.resume 0 1), .joined,
        .disconnected false] := by
  apply close_releases
  refine .cons rfl (fun hclosed => (by cases hclosed)) (.cons rfl trivial (.cons rfl ?_
    (.cons rfl trivial (.cons rfl trivial (.cons rfl trivial trivial)))))
  intro _ i s hi _
  match i with
  | 0 =>
    cases hi
    exact ⟨by decide, by decide⟩

/-- Two calls wait, and one is told. -/
theorem second_waits :
    ¬ Always Shutdown.step ReleasedAll (Shutdown.new (plainConfig 10))
      [.call (.subscribe true 7), .call (.recv 0 1), .call (.recv 0 2), .close,
        .call (.resume 0 1), .joined, .disconnected false] := by
  intro h
  have hparked := ((h.last rfl) rfl _ List.mem_cons_self).2.1
  cases hparked

/-- A subscription made while `close` awaits the router stays active. -/
example :
    ¬ Always Shutdown.step ReleasedAll (Shutdown.new (plainConfig 10))
      [.close, .call (.subscribe true 7), .joined, .disconnected false] := by
  intro h
  have hactive := ((h.last rfl) rfl _ List.mem_cons_self).1
  cases hactive

end JetSocket.Routing
