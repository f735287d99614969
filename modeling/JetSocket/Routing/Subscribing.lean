import JetSocket.Routing.Closing

/- `subscribe` with the message that it sends.

   A subscription is put into the dictionary and counted before `subscribe_message` is called and
   its message sent. Where one of these fails the call raises, and both stay. A later `subscribe` to
   the channel finds the subscription and sends nothing.

   Calls have numbers. A call is over at once, or sends; what happens before it is sent, or is not,
   is up to everyone else.

   Correspondence (Python ↔ Lean):
     `subscribe`, to its first wait     ↔ `Subscribing.subscribe`
     `await self._manager.send(msg)`    ↔ `Input.sent`, `Input.unsent` where it raises
     everything else                    ↔ `Input.other`

   What is proved:
     `failed_subscribe_stays` — a `subscribe` to a new channel that raises never leaves things as
                                they were, and no later one sends the message. -/
namespace JetSocket.Routing
open Transition

variable {M K W : Type}

/-- A call of `subscribe`. `refused` and `raised` both raise: one at the test of the connection,
the other behind it. -/
inductive SubscribeCall (W : Type) where
  | idle
  | refused
  | sending (i : Nat) (message : W)
  | raised
  | returned (i : Nat)
  deriving DecidableEq, Repr

/-- A multiplexed connection with the calls of `subscribe`, and what the server has been sent by
them. `subscribe_message` gives `none` where it raises. -/
structure Subscribing (M K W : Type) where
  base : Shutdown M K
  subscribeMessage : Option (K → Option W)
  totalSubscriptions : Nat
  calls : Nat → SubscribeCall W
  wire : List W

namespace Subscribing

def new (config : MultiplexConfig M K) (subscribeMessage : Option (K → Option W)) :
    Subscribing M K W :=
  { base := Shutdown.new config, subscribeMessage, totalSubscriptions := 0,
    calls := fun _ => .idle, wire := [] }

/-- The call goes on. -/
def goOn (t : Subscribing M K W) (call : Nat) (state : SubscribeCall W) : Subscribing M K W :=
  { t with calls := Function.update t.calls call state }

@[simp] theorem goOn_self (t : Subscribing M K W) (call : Nat) (state : SubscribeCall W) :
    (t.goOn call state).calls call = state := Function.update_self ..

inductive Input (M K : Type) where
  | subscribe (call : Nat) (connected : Bool) (channel : K)
  | sent (call : Nat)
  | unsent (call : Nat)
  | other (input : Shutdown.Input M K)
  deriving DecidableEq

variable [DecidableEq K]

/-- The new subscription, in the dictionary and counted. -/
def register (t : Subscribing M K W) (channel : K) : Subscribing M K W :=
  { t with
    base := { t.base with mux := t.base.mux.subscribe true channel }
    totalSubscriptions := t.totalSubscriptions + 1 }

/-- `subscribe`, to its return or its first wait. -/
def subscribe (t : Subscribing M K W) (call : Nat) (connected : Bool) (channel : K) :
    Subscribing M K W :=
  if !(t.base.manager && connected) then t.goOn call .refused
  else
    match t.base.mux.subscriptions channel with
    | some i => t.goOn call (.returned i)
    | none =>
      let i := t.base.mux.created.length
      let t := t.register channel
      match t.subscribeMessage with
      | none => t.goOn call (.returned i)
      | some message =>
        match message channel with
        | none => t.goOn call .raised
        | some message => t.goOn call (.sending i message)

/-- Calls that are not `subscribe`. -/
def Other : Shutdown.Input M K → Bool
  | .call (.subscribe _ _) => false
  | _ => true

def step (t : Subscribing M K W) : Input M K → Option (Subscribing M K W)
  | .subscribe call connected channel =>
    match t.calls call with
    | .idle => some (t.subscribe call connected channel)
    | _ => none
  | .sent call =>
    match t.calls call with
    | .sending i message =>
      some ({ t with wire := t.wire ++ [message] }.goOn call (.returned i))
    | _ => none
  | .unsent call =>
    match t.calls call with
    | .sending _ _ => some (t.goOn call .raised)
    | _ => none
  | .other input =>
    if Other input then (t.base.step input).map (fun base => { t with base }) else none

end Subscribing

/-- **As before**: what a failed call should leave. -/
structure AsBefore (t t' : Subscribing M K W) : Prop where
  subscriptions : t'.base.mux.subscriptions = t.base.mux.subscriptions
  total : t'.totalSubscriptions = t.totalSubscriptions

/-- No `subscribe` to the channel that is made now sends anything. -/
def Silent [DecidableEq K] (t : Subscribing M K W) (channel : K) : Prop :=
  ∀ call connected t', t.step (.subscribe call connected channel) = some t' →
    t'.wire = t.wire ∧ ∀ i message, t'.calls call ≠ .sending i message

/-- Nobody unsubscribes from the channel or closes a subscription to it. -/
def Leaves (channel : K) (t : Subscribing M K W) : Subscribing.Input M K → Prop
  | .other (.call (.unsubscribe name)) => name ≠ channel
  | .other (.call (.close i)) =>
    ∀ s : Subscription M K, t.base.mux.created[i]? = some s → s.channel ≠ channel
  | .other (.disconnected raises) => raises = true
  | _ => True

section Steps
variable [DecidableEq K] {t t' t'' : Subscribing M K W} {input : Subscribing.Input M K}
  {call : Nat} {connected : Bool} {channel : K}

/-- All that a call of `subscribe` can come to. -/
theorem subscribe_cases (t : Subscribing M K W) (call : Nat) (connected : Bool) (channel : K) :
    (∃ state, (state = .refused ∨ ∃ i, t.base.mux.subscriptions channel = some i ∧
        state = .returned i) ∧ t.subscribe call connected channel = t.goOn call state) ∨
      t.base.mux.subscriptions channel = none ∧
        ∃ state, t.subscribe call connected channel = (t.register channel).goOn call state := by
  unfold Subscribing.subscribe
  split
  · exact .inl ⟨.refused, .inl rfl, rfl⟩
  · cases hsub : t.base.mux.subscriptions channel with
    | some i => exact .inl ⟨.returned i, .inr ⟨i, rfl, rfl⟩, rfl⟩
    | none =>
      refine .inr ⟨rfl, ?_⟩
      dsimp only
      split
      · exact ⟨_, rfl⟩
      · split
        · exact ⟨_, rfl⟩
        · exact ⟨_, rfl⟩

/-- **What one step does**: a call goes on, in a new place or behind a new subscription, or what is
underneath does. -/
inductive Proceeds (t : Subscribing M K W) : Subscribing.Input M K → Subscribing M K W → Prop
  | went (input : Subscribing.Input M K) (call : Nat) (state : SubscribeCall W) (wire : List W)
      (h : t.calls call = .idle ∨ ∃ i message, t.calls call = .sending i message) :
      Proceeds t input ({ t with wire }.goOn call state)
  | registered (call : Nat) (connected : Bool) (channel : K) (state : SubscribeCall W)
      (hidle : t.calls call = .idle) (hnone : t.base.mux.subscriptions channel = none) :
      Proceeds t (.subscribe call connected channel) ((t.register channel).goOn call state)
  | other (input : Shutdown.Input M K) (base : Shutdown M K)
      (hother : Subscribing.Other input = true) (hbase : t.base.step input = some base) :
      Proceeds t (.other input) { t with base }

theorem step_proceeds (hs : t.step input = some t') : Proceeds t input t' := by
  cases input with
  | subscribe call connected channel =>
    simp only [Subscribing.step] at hs
    split at hs
    · rename_i hidle
      cases hs
      rcases subscribe_cases t call connected channel with ⟨state, -, heq⟩ | ⟨hnone, state, heq⟩
      · rw [heq]
        exact .went _ call state t.wire (.inl hidle)
      · rw [heq]
        exact .registered call connected channel state hidle hnone
    · cases hs
  | sent call =>
    simp only [Subscribing.step] at hs
    split at hs
    · rename_i i message hsending
      cases hs
      exact .went _ call _ _ (.inr ⟨i, message, hsending⟩)
    · cases hs
  | unsent call =>
    simp only [Subscribing.step] at hs
    split at hs
    · rename_i i message hsending
      cases hs
      exact .went _ call _ t.wire (.inr ⟨i, message, hsending⟩)
    · cases hs
  | other input =>
    simp only [Subscribing.step] at hs
    split at hs
    · rename_i hother
      obtain ⟨base, hbase, rfl⟩ := Option.map_eq_some_iff.mp hs
      exact .other input base hother hbase
    · cases hs

/-- A call that is over stays as it is. -/
theorem step_calls (hs : t.step input = some t') (call : Nat) :
    t'.calls call = t.calls call ∨ t.calls call = .idle ∨
      ∃ i message, t.calls call = .sending i message := by
  cases step_proceeds hs with
  | went input c state wire h =>
    by_cases hcall : call = c
    · subst hcall
      exact .inr h
    · exact .inl (Function.update_of_ne hcall _ _)
  | registered c connected channel state hidle hnone =>
    by_cases hcall : call = c
    · subst hcall
      exact .inr (.inl hidle)
    · exact .inl (Function.update_of_ne hcall _ _)
  | other input base hother hbase => exact .inl rfl

/-- The count never falls. -/
theorem step_total (hs : t.step input = some t') :
    t.totalSubscriptions ≤ t'.totalSubscriptions := by
  cases step_proceeds hs with
  | went input call state wire h => exact Nat.le_refl _
  | registered call connected channel state hidle hnone => exact Nat.le_succ _
  | other input base hother hbase => exact Nat.le_refl _

/-- The entry of a new subscription. -/
theorem registered_entry {mux : Multiplex M K} {name : K} (hnone : mux.subscriptions name = none)
    (h : channel = name ∨ mux.subscriptions channel ≠ none) :
    (mux.subscribe true name).subscriptions channel ≠ none := by
  unfold Multiplex.subscribe
  rw [hnone]
  show Function.update mux.subscriptions name _ channel ≠ none
  by_cases hname : channel = name
  · subst hname
    rw [Function.update_self]
    exact Option.some_ne_none _
  · rw [Function.update_of_ne hname]
    exact h.resolve_left hname

omit [DecidableEq K] in
theorem route_subscriptions (mux : Multiplex M K) (message : Option M) :
    (mux.route message).subscriptions = mux.subscriptions := by
  unfold Multiplex.route
  split
  · rfl
  · rfl
  · rfl
  · split
    · rfl
    · split
      · rfl
      · split <;> rfl

theorem unsubscribe_other {mux : Multiplex M K} {name : K} (hname : name ≠ channel) :
    (mux.unsubscribe name).subscriptions channel = mux.subscriptions channel := by
  unfold Multiplex.unsubscribe
  split
  · rfl
  · exact Function.update_of_ne hname.symm _ _

/-- A call of another kind leaves the entry of a channel alone that it is not about. -/
theorem other_registered (channel : K) {mux mux' : Multiplex M K} {input : Multiplex.Input M K}
    (hs : mux.step input = some mux') (hother : Subscribing.Other (.call input) = true)
    (hleaves : (∀ name, input = .unsubscribe name → name ≠ channel) ∧
      ∀ i s, input = .close i → mux.created[i]? = some s → s.channel ≠ channel) :
    mux'.subscriptions channel = mux.subscriptions channel := by
  cases input with
  | consume message =>
    simp only [Multiplex.step] at hs
    split at hs
    · cases hs
      exact congrFun (route_subscriptions mux message) channel
    · cases hs
  | subscribe connected name => cases hother
  | unsubscribe name =>
    cases hs
    exact unsubscribe_other (hleaves.1 name rfl)
  | close i =>
    obtain ⟨s, hi, rfl⟩ := Option.map_eq_some_iff.mp hs
    unfold Multiplex.closeSubscription
    split
    · rfl
    · exact unsubscribe_other (hleaves.2 i s rfl hi)
  | recv i task | resume i task | giveUp i task =>
    obtain ⟨s, hi, hs⟩ := Option.bind_eq_some_iff.mp hs
    split at hs
    · cases hs <;> rfl
    · cases hs <;> rfl

/-- **One step** leaves the channel registered, if nobody unsubscribes from it. -/
theorem step_registered (hs : t.step input = some t') (hleaves : Leaves channel t input)
    (hsub : t.base.mux.subscriptions channel ≠ none) :
    t'.base.mux.subscriptions channel ≠ none := by
  cases step_proceeds hs with
  | went input call state wire h => exact hsub
  | registered call connected name state hidle hnone => exact registered_entry hnone (.inr hsub)
  | other input base hother hbase =>
    cases input with
    | call input =>
      obtain ⟨mux, hmux, rfl⟩ := Option.map_eq_some_iff.mp hbase
      have hseen : t.base.seen input = input := by
        cases input with
        | subscribe connected name => cases hother
        | _ => rfl
      rw [hseen] at hmux
      have hsame := other_registered channel hmux hother ⟨?_, ?_⟩
      · show mux.subscriptions channel ≠ none
        rw [hsame]
        exact hsub
      · rintro name rfl
        exact hleaves
      · rintro i s rfl hi
        exact hleaves s hi
    | routerEnds =>
      simp only [Shutdown.step] at hbase
      split at hbase <;> cases hbase
      exact hsub
    | close =>
      simp only [Shutdown.step] at hbase
      split at hbase <;> cases hbase
      · exact hsub
      · exact hsub
    | joined =>
      simp only [Shutdown.step] at hbase
      split at hbase <;> cases hbase
      exact hsub
    | disconnected raises =>
      have hraises : raises = true := hleaves
      subst hraises
      simp only [Shutdown.step, if_true] at hbase
      split at hbase <;> cases hbase
      exact hsub

/-- A registered channel is found, and nothing is sent for it. -/
theorem registered_silent (hsub : t.base.mux.subscriptions channel ≠ none) :
    Silent t channel := by
  intro call connected t' hs
  simp only [Subscribing.step] at hs
  split at hs
  · cases hs
    rcases subscribe_cases t call connected channel with ⟨state, hstate, heq⟩ | ⟨hnone, -⟩
    · rw [heq]
      refine ⟨rfl, fun i message hsending => ?_⟩
      rw [Subscribing.goOn_self] at hsending
      rcases hstate with rfl | ⟨j, -, rfl⟩
      · cases hsending
      · cases hsending
    · exact absurd hnone hsub
  · cases hs

/-- **A failed `subscribe`** to a new channel never leaves things as they were: the subscription is
counted, whatever happens until the call raises. And for as long as nobody unsubscribes from the
channel, no later `subscribe` to it sends anything. -/
theorem failed_subscribe_stays (t : Subscribing M K W) (call : Nat) (connected : Bool)
    (channel : K) {t₁ t' : Subscribing M K W} (during : List (Subscribing.Input M K))
    (hnew : t.base.mux.subscriptions channel = none)
    (hcall : t.step (.subscribe call connected channel) = some t₁)
    (hrun : exec Subscribing.step t₁ during = some t') (hraised : t'.calls call = .raised) :
    ¬ AsBefore t t' ∧ ∀ later t'', exec Subscribing.step t' later = some t'' →
      Meets Subscribing.step (Leaves channel) t₁ (during ++ later) → Silent t'' channel := by
  have hbegun : t₁ = t.subscribe call connected channel := by
    simp only [Subscribing.step] at hcall
    split at hcall
    · exact (Option.some.inj hcall).symm
    · cases hcall
  rcases subscribe_cases t call connected channel with ⟨state, hstate, heq⟩ | ⟨-, state, heq⟩
  · -- the call was over before it registered anything, and did not raise this
    exfalso
    have hrefused : state = .refused := by
      rcases hstate with h | ⟨i, hi, -⟩
      · exact h
      · rw [hnew] at hi
        cases hi
    have hstart : t₁.calls call = .refused := by
      rw [hbegun, heq, hrefused]
      exact Subscribing.goOn_self ..
    have hend : t'.calls call = .refused := by
      refine exec_invariant (I := fun u => u.calls call = .refused) ?_ hstart hrun
      intro u input u' hu hs
      rcases step_calls hs call with hsame | hidle | ⟨i, message, hsending⟩
      · exact hsame.trans hu
      · rw [hu] at hidle
        cases hidle
      · rw [hu] at hsending
        cases hsending
    rw [hend] at hraised
    cases hraised
  · have htotal : t.totalSubscriptions + 1 = t₁.totalSubscriptions := by
      rw [hbegun, heq]
      rfl
    have hregistered : t₁.base.mux.subscriptions channel ≠ none := by
      rw [hbegun, heq]
      exact registered_entry hnew (.inl rfl)
    have hcounted : t₁.totalSubscriptions ≤ t'.totalSubscriptions :=
      exec_invariant (I := fun u => t₁.totalSubscriptions ≤ u.totalSubscriptions)
        (fun _ _ _ hu hs => Nat.le_trans hu (step_total hs)) (Nat.le_refl _) hrun
    refine ⟨fun h => ?_, fun later t'' hlater hleaves => ?_⟩
    · have hsame := h.total
      omega
    · have hall : Always Subscribing.step
          (fun u => u.base.mux.subscriptions channel ≠ none) t₁ (during ++ later) :=
        always_of_meets (fun _ _ _ hu hc hs => step_registered hs hc hu) hregistered hleaves
      have hexec : exec Subscribing.step t₁ (during ++ later) = some t'' := by
        rw [exec_append, hrun, Option.bind_some]
        exact hlater
      exact registered_silent (hall.last hexec)

end Steps

/-- The channel is its message. -/
def plainMessage : Option (Nat → Option Nat) := some some

/-- The theorem for a message that cannot be sent. -/
theorem failed_subscribe_stays_unsent :
    ∃ t', exec Subscribing.step (Subscribing.new (plainConfig 10) plainMessage)
        [.subscribe 1 true 7, .unsent 1] = some t' ∧
      ¬ AsBefore (Subscribing.new (plainConfig 10) plainMessage) t' ∧ Silent t' 7 := by
  obtain ⟨hkept, hsilent⟩ := failed_subscribe_stays
    (Subscribing.new (plainConfig 10) plainMessage) 1 true 7 [.unsent 1] rfl rfl rfl rfl
  exact ⟨_, rfl, hkept, hsilent [] _ rfl (fun _ _ => ⟨trivial, trivial⟩)⟩

/-- The message cannot be sent; the next call returns, and nothing was sent. -/
theorem lost_subscribe :
    ∃ t', exec Subscribing.step (Subscribing.new (plainConfig 10) plainMessage)
        [.subscribe 1 true 7, .unsent 1] = some t' ∧ t'.calls 1 = .raised ∧
      ¬ AsBefore (Subscribing.new (plainConfig 10) plainMessage) t' ∧
      ∃ t'', t'.step (.subscribe 2 true 7) = some t'' ∧ t''.calls 2 = .returned 0 ∧
        t''.wire = [] := by
  refine ⟨_, rfl, rfl, fun h => ?_, _, rfl, rfl, rfl⟩
  have htotal := h.total
  cases htotal

end JetSocket.Routing
