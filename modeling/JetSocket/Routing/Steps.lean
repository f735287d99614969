import JetSocket.Routing.Multiplex

/- What the steps of a multiplexed connection do.

   `Wired` is the invariant: the dictionary names the active subscriptions, each under its own
   channel, and the queues stay within their bound. Under it, a message that can be looked up is
   counted as unroutable or goes to the one active subscription to its channel, and delivery does
   not raise.

   What is proved:
     `step_acts`  — `Acts` is all that a step can do.
     `wired_step` — every step keeps `Wired`. -/
namespace JetSocket.Routing

variable {M K : Type}

/-- A message without a channel, or with one that can be looked up. -/
def MultiplexConfig.Keyed (config : MultiplexConfig M K) (message : Option M) : Prop :=
  config.channelExtractor message = .absent ∨ ∃ k, config.channelExtractor message = .channel k

/-- Calls that neither take from a queue nor put a message into one. -/
def Multiplex.Input.Quiet : Multiplex.Input M K → Prop
  | .subscribe _ _ | .unsubscribe _ | .close _ => True
  | _ => False

/-- The dictionary, and the bound of the queues. -/
structure Wired (mux : Multiplex M K) : Prop where
  named : ∀ k i, mux.subscriptions k = some i → ∃ s, mux.created[i]? = some s ∧ s.channel = k
  listed : ∀ i s, mux.created[i]? = some s → s.active = true →
    mux.subscriptions s.channel = some i
  bounded : ∀ (i : Nat) (s : Subscription M K), mux.created[i]? = some s → 0 < mux.config.maxsize →
    s.queue.items.length ≤ mux.config.maxsize

/-- What a list holds once one place is set. -/
theorem set_cases {α : Type} {l : List α} {i j : Nat} {x y z : α} (hi : l[i]? = some x)
    (hj : (l.set i y)[j]? = some z) : j = i ∧ z = y ∨ i ≠ j ∧ l[j]? = some z := by
  by_cases hij : i = j
  · subst hij
    rw [List.getElem?_set_self (List.getElem?_eq_some_iff.mp hi).1] at hj
    exact .inl ⟨rfl, (Option.some.inj hj).symm⟩
  · rw [List.getElem?_set_ne hij] at hj
    exact .inr ⟨hij, hj⟩

section Wiring
variable {mux : Multiplex M K} {i : Nat} {s s' : Subscription M K}

theorem Wired.counters (h : Wired mux) (routed unroutable : Nat) :
    Wired { mux with totalMessagesRouted := routed, unroutableMessages := unroutable } :=
  ⟨h.named, h.listed, h.bounded⟩

/-- A subscription goes on under its name, and is not woken up. -/
theorem Wired.set (h : Wired mux) (s' : Subscription M K) (hi : mux.created[i]? = some s)
    (hchannel : s'.channel = s.channel)
    (hactive : s'.active = true → s.active = true)
    (hbound : 0 < mux.config.maxsize → s'.queue.items.length ≤ mux.config.maxsize) :
    Wired { mux with created := mux.created.set i s' } where
  named k j hk := by
    obtain ⟨u, hu, hname⟩ := h.named k j hk
    by_cases hj : i = j
    · subst hj
      rw [hi] at hu
      cases hu
      exact ⟨s', List.getElem?_set_self (List.getElem?_eq_some_iff.mp hi).1, hchannel.trans hname⟩
    · exact ⟨u, (List.getElem?_set_ne hj).trans hu, hname⟩
  listed j u hu hactive' := by
    obtain ⟨rfl, rfl⟩ | ⟨-, hu⟩ := set_cases hi hu
    · rw [hchannel]
      exact h.listed j s hi (hactive hactive')
    · exact h.listed j u hu hactive'
  bounded j u hu hpos := by
    obtain ⟨rfl, rfl⟩ | ⟨-, hu⟩ := set_cases hi hu
    · exact hbound hpos
    · exact h.bounded j u hu hpos

/-- The dictionary's entry is the subscription. -/
theorem Wired.lookup (h : Wired mux) {k : K} (hk : mux.subscriptions k = some i) :
    ∃ s, mux.lookup k = some (i, s) ∧ mux.created[i]? = some s ∧ s.channel = k := by
  obtain ⟨s, hs, hname⟩ := h.named k i hk
  refine ⟨s, ?_, hs, hname⟩
  unfold Multiplex.lookup
  rw [hk, Option.bind_some, hs, Option.map_some]

theorem lookup_none {k : K} (hk : mux.subscriptions k = none) : mux.lookup k = none := by
  unfold Multiplex.lookup
  rw [hk, Option.bind_none]

/-- **Delivery** within the bound does not raise. -/
theorem deliver_eq {maxsize : Nat} (hbound : 0 < maxsize → s.queue.items.length ≤ maxsize)
    (message : Option M) : ∃ queue, s.deliver maxsize message = some (s.counted queue) ∧
      queue.items = (if s.queue.full maxsize then s.queue.items.tail else s.queue.items) ++
        [message] := by
  unfold Subscription.deliver
  cases hfull : s.queue.full maxsize with
  | false =>
    have hput : s.queue.putNowait maxsize message = some (s.queue.put message) := by
      unfold AsyncQueue.putNowait
      rw [hfull, if_neg Bool.false_ne_true]
    rw [hput]
    exact ⟨_, rfl, AsyncQueue.items_put _ _⟩
  | true =>
    have hput : s.queue.putNowait maxsize message = none := by
      unfold AsyncQueue.putNowait
      rw [hfull, if_pos rfl]
    have hpos := ((AsyncQueue.full_iff s.queue maxsize).mp hfull).1
    obtain ⟨oldest, rest, q₁, q₂, hitems, hget, hput', hq₂⟩ :=
      AsyncQueue.putNowait_getNowait hfull (hbound hpos) message
    rw [hput, hget]
    dsimp only
    rw [hput', hitems]
    exact ⟨q₂, rfl, hq₂⟩

/-- The queue stays within the bound. -/
theorem deliver_bounded {maxsize : Nat} {queue : AsyncQueue (Option M)}
    (hbound : s.queue.items.length ≤ maxsize) (hpos : 0 < maxsize) {message : Option M}
    (hitems : queue.items =
      (if s.queue.full maxsize then s.queue.items.tail else s.queue.items) ++ [message]) :
    queue.items.length ≤ maxsize := by
  rw [hitems, List.length_append, List.length_singleton]
  split
  · rename_i hfull
    have hle := ((AsyncQueue.full_iff s.queue maxsize).mp hfull).2
    rw [List.length_tail]
    omega
  · rename_i hfull
    have hroom : ¬ maxsize ≤ s.queue.items.length :=
      fun hle => hfull ((AsyncQueue.full_iff s.queue maxsize).mpr ⟨hpos, hle⟩)
    omega

/-- A message goes to one subscription. -/
structure Routed (mux : Multiplex M K) (message : Option M) (i : Nat) (s : Subscription M K)
    (queue : AsyncQueue (Option M)) : Prop where
  created : mux.created[i]? = some s
  active : s.active = true
  channel : mux.config.channelExtractor message = .channel s.channel
  items : queue.items =
    (if s.queue.full mux.config.maxsize then s.queue.items.tail else s.queue.items) ++ [message]
  only : ∀ j u, mux.created[j]? = some u → u.active = true →
    mux.config.channelExtractor message = .channel u.channel → j = i
  route : mux.route message =
    { mux with
      created := mux.created.set i (s.counted queue)
      totalMessagesRouted := mux.totalMessagesRouted + 1 }

/-- **What the router does** with a message that it can look up. -/
theorem Wired.route (h : Wired mux) {message : Option M} (hkeyed : mux.config.Keyed message) :
    (mux.route message = mux.unroutable ∧ ∀ (j : Nat) (u : Subscription M K),
        mux.created[j]? = some u → u.active = true →
        mux.config.channelExtractor message ≠ .channel u.channel) ∨
      ∃ i s queue, Routed mux message i s queue := by
  have hother : ∀ {k : K} {j : Nat} {u : Subscription M K},
      mux.config.channelExtractor message = .channel k → mux.created[j]? = some u →
      u.active = true → mux.config.channelExtractor message = .channel u.channel →
      mux.subscriptions k = some j := by
    intro k j u hk hu hactive hchannel
    rw [hk] at hchannel
    cases hchannel
    exact h.listed j u hu hactive
  rcases hkeyed with habsent | ⟨k, hk⟩
  · refine .inl ⟨?_, fun j u _ _ hchannel => ?_⟩
    · unfold Multiplex.route
      rw [habsent]
    · rw [habsent] at hchannel
      cases hchannel
  · cases hsub : mux.subscriptions k with
    | none =>
      refine .inl ⟨?_, fun j u hu hactive hchannel => ?_⟩
      · unfold Multiplex.route
        rw [hk]
        dsimp only
        rw [lookup_none hsub]
      · rw [hother hk hu hactive hchannel] at hsub
        cases hsub
    | some i =>
      obtain ⟨s, hlookup, hs, rfl⟩ := h.lookup hsub
      cases hactive : s.active with
      | false =>
        refine .inl ⟨?_, fun j u hu hactive' hchannel => ?_⟩
        · unfold Multiplex.route
          rw [hk]
          dsimp only
          rw [hlookup]
          simp only [hactive, Bool.not_false, if_true]
        · have hj := hother hk hu hactive' hchannel
          rw [hsub] at hj
          cases hj
          rw [hs] at hu
          cases hu
          rw [hactive] at hactive'
          cases hactive'
      | true =>
        obtain ⟨queue, hdeliver, hitems⟩ := deliver_eq (h.bounded i s hs) message
        refine .inr ⟨i, s, queue, hs, hactive, hk, hitems, fun j u hu hactive' hchannel => ?_, ?_⟩
        · have hj := hother hk hu hactive' hchannel
          rw [hsub] at hj
          exact (Option.some.inj hj).symm
        · unfold Multiplex.route
          rw [hk]
          dsimp only
          rw [hlookup]
          simp only [hactive, Bool.not_true, Bool.false_eq_true, if_false, hdeliver]

variable [DecidableEq K]

omit [DecidableEq K] in
/-- The `None` at the end of a queue stays within the bound too. -/
theorem signalled_bounded {maxsize : Nat} (hpos : 0 < maxsize)
    (hbound : s.queue.items.length ≤ maxsize) :
    (s.signalled maxsize).queue.items.length ≤ maxsize := by
  unfold Subscription.signalled AsyncQueue.putNowait
  split
  · exact hbound
  · rename_i hfull
    have hroom : ¬ maxsize ≤ s.queue.items.length :=
      fun hle => hfull ((AsyncQueue.full_iff s.queue _).mpr ⟨hpos, hle⟩)
    simp only [Option.getD_some, AsyncQueue.items_put, List.length_append, List.length_singleton]
    omega

/-- Closing takes the subscription out of the dictionary. -/
theorem Wired.unlisted (h : Wired mux) (hi : mux.created[i]? = some s)
    (hsub : mux.subscriptions s.channel = some i) :
    Wired { mux with
      created := mux.created.set i (s.signalled mux.config.maxsize)
      subscriptions := Function.update mux.subscriptions s.channel none } := by
  have hset := h.set (s.signalled mux.config.maxsize) hi rfl (fun ha => (by cases ha))
    (fun hpos => signalled_bounded hpos (h.bounded i s hi hpos))
  refine ⟨fun k j hk => ?_, fun j u hu hactive => ?_, hset.bounded⟩
  · dsimp only at hk
    by_cases hname : k = s.channel
    · subst hname
      rw [Function.update_self] at hk
      cases hk
    · rw [Function.update_of_ne hname] at hk
      exact hset.named k j hk
  · have hlisted := hset.listed j u hu hactive
    have hname : u.channel ≠ s.channel := by
      intro hname
      rw [hname, hsub] at hlisted
      cases hlisted
      dsimp only at hu
      rw [List.getElem?_set_self (List.getElem?_eq_some_iff.mp hi).1] at hu
      cases hu
      cases hactive
    dsimp only
    rw [Function.update_of_ne hname]
    exact hlisted

/-- **What `unsubscribe` does.** -/
theorem Wired.unsubscribe (h : Wired mux) (channel : K) : mux.unsubscribe channel = mux ∨
    ∃ i s, mux.created[i]? = some s ∧ mux.subscriptions s.channel = some i ∧
      mux.unsubscribe channel =
        { mux with
          created := mux.created.set i (s.signalled mux.config.maxsize)
          subscriptions := Function.update mux.subscriptions s.channel none } := by
  unfold Multiplex.unsubscribe
  cases hsub : mux.subscriptions channel with
  | none =>
    rw [lookup_none hsub]
    exact .inl rfl
  | some i =>
    obtain ⟨s, hlookup, hs, rfl⟩ := h.lookup hsub
    rw [hlookup]
    exact .inr ⟨i, s, hs, hsub, rfl⟩

/-- `Subscription.close` is `unsubscribe`, for an active subscription. -/
theorem Wired.closeSubscription (h : Wired mux) (hi : mux.created[i]? = some s)
    (hactive : s.active = true) : mux.closeSubscription i s =
      { mux with
        created := mux.created.set i (s.signalled mux.config.maxsize)
        subscriptions := Function.update mux.subscriptions s.channel none } := by
  have hsub := h.listed i s hi hactive
  have hset := (h.set { s with active := false } hi rfl (fun ha => (by cases ha))
    (h.bounded i s hi))
  obtain ⟨u, hlookup, hu, -⟩ := hset.lookup hsub
  dsimp only at hu
  rw [List.getElem?_set_self (List.getElem?_eq_some_iff.mp hi).1] at hu
  cases hu
  unfold Multiplex.closeSubscription Multiplex.unsubscribe
  rw [hactive, if_neg (by decide), hlookup]
  dsimp only
  rw [List.set_set]
  rfl

/-- A new subscription leaves the old ones alone. -/
theorem Wired.subscribed (h : Wired mux) {channel : K}
    (hnone : mux.subscriptions channel = none) :
    Wired { mux with
      created := mux.created ++ [Subscription.new channel]
      subscriptions := Function.update mux.subscriptions channel (some mux.created.length) } := by
  have hlast : (mux.created ++ [Subscription.new channel])[mux.created.length]? =
      some (Subscription.new channel : Subscription M K) := by
    rw [List.getElem?_append_right (Nat.le_refl _), Nat.sub_self]
    rfl
  have hcases : ∀ (j : Nat) (u : Subscription M K),
      (mux.created ++ [Subscription.new channel])[j]? = some u →
      mux.created[j]? = some u ∨ j = mux.created.length ∧ u = Subscription.new channel := by
    intro j u hu
    rcases Nat.lt_trichotomy j mux.created.length with hlt | rfl | hgt
    · rw [List.getElem?_append_left hlt] at hu
      exact .inl hu
    · rw [hlast] at hu
      exact .inr ⟨rfl, (Option.some.inj hu).symm⟩
    · rw [List.getElem?_eq_none (by simp; omega)] at hu
      cases hu
  refine ⟨fun k j hk => ?_, fun j u hu hactive => ?_, fun j u hu hpos => ?_⟩
  · dsimp only at hk ⊢
    by_cases hname : k = channel
    · subst hname
      rw [Function.update_self] at hk
      cases hk
      exact ⟨_, hlast, rfl⟩
    · rw [Function.update_of_ne hname] at hk
      obtain ⟨u, hu, hchannel⟩ := h.named k j hk
      refine ⟨u, ?_, hchannel⟩
      rw [List.getElem?_append_left (List.getElem?_eq_some_iff.mp hu).1]
      exact hu
  · dsimp only
    rcases hcases j u hu with hold | ⟨rfl, rfl⟩
    · have hlisted := h.listed j u hold hactive
      have hname : u.channel ≠ channel := by
        intro hname
        rw [hname, hnone] at hlisted
        cases hlisted
      rw [Function.update_of_ne hname]
      exact hlisted
    · exact Function.update_self ..
  · rcases hcases j u hu with hold | ⟨rfl, rfl⟩
    · exact h.bounded j u hold hpos
    · exact Nat.zero_le _

omit [DecidableEq K] in
@[simp] theorem took_queue (s : Subscription M K)
    (r : AsyncQueue (Option M) × Option (Option M)) : (s.took r).1.queue = r.1 := by
  unfold Subscription.took
  split <;> rfl

omit [DecidableEq K] in
theorem took_bounded {r : AsyncQueue (Option M) × Option (Option M)}
    (hr : s.queue.Pops r) : (s.took r).1.queue.items.length ≤ s.queue.items.length ∧
      (s.took r).1.channel = s.channel ∧ ((s.took r).1.active = true → s.active = true) ∧
      (s.took r).1.messagesReceived = s.messagesReceived := by
  obtain ⟨queue, o⟩ := r
  unfold AsyncQueue.Pops at hr
  cases o with
  | none => exact ⟨Nat.le_of_eq (congrArg List.length (hr.2.trans hr.1.symm)), rfl, id, rfl⟩
  | some item =>
    dsimp only at hr
    rw [hr]
    cases item with
    | none => exact ⟨Nat.le_succ _, rfl, fun ha => (by cases ha), rfl⟩
    | some message => exact ⟨Nat.le_succ _, rfl, id, rfl⟩

/-- **What one step does**, all of it. -/
inductive Acts (mux : Multiplex M K) : Multiplex.Input M K → Multiplex M K → Prop
  | died (message : Option M) (h : ¬ mux.config.Keyed message) :
      Acts mux (.consume message) mux.died
  | unrouted (message : Option M) (hkeyed : mux.config.Keyed message)
      (h : ∀ (j : Nat) (u : Subscription M K), mux.created[j]? = some u → u.active = true →
        mux.config.channelExtractor message ≠ .channel u.channel) :
      Acts mux (.consume message) mux.unroutable
  | routed (message : Option M) (i : Nat) (s : Subscription M K) (queue : AsyncQueue (Option M))
      (h : Routed mux message i s queue) :
      Acts mux (.consume message)
        { mux with
          created := mux.created.set i (s.counted queue)
          totalMessagesRouted := mux.totalMessagesRouted + 1 }
  | subscribed (connected : Bool) (channel : K) (h : mux.subscriptions channel = none) :
      Acts mux (.subscribe connected channel)
        { mux with
          created := mux.created ++ [Subscription.new channel]
          subscriptions := Function.update mux.subscriptions channel (some mux.created.length) }
  | kept (input : Multiplex.Input M K) (h : input.Quiet) : Acts mux input mux
  | closed (input : Multiplex.Input M K) (h : input.Quiet) (i : Nat) (s : Subscription M K)
      (hi : mux.created[i]? = some s) (hsub : mux.subscriptions s.channel = some i) :
      Acts mux input
        { mux with
          created := mux.created.set i (s.signalled mux.config.maxsize)
          subscriptions := Function.update mux.subscriptions s.channel none }
  | gaveUp (i task : Nat) (s : Subscription M K) (hi : mux.created[i]? = some s) :
      Acts mux (.giveUp i task)
        { mux with created := mux.created.set i { s with queue := s.queue.giveUp task } }
  | refused (i task : Nat) (s : Subscription M K) (hi : mux.created[i]? = some s)
      (hactive : s.active = false) : Acts mux (.recv i task) mux
  | received (i task : Nat) (s : Subscription M K) (hi : mux.created[i]? = some s)
      (hactive : s.active = true) :
      Acts mux (.recv i task)
        { mux with created := mux.created.set i (s.took (s.queue.get task)).1 }
  | resumed (i task : Nat) (s : Subscription M K) (hi : mux.created[i]? = some s) :
      Acts mux (.resume i task)
        { mux with created := mux.created.set i (s.took (s.queue.resume task)).1 }

omit [DecidableEq K] in
theorem Multiplex.route_died {message : Option M} (h : ¬ mux.config.Keyed message) :
    mux.route message = mux.died := by
  unfold Multiplex.route
  cases he : mux.config.channelExtractor message with
  | raises => rfl
  | unhashable => rfl
  | absent => exact absurd (.inl he) h
  | channel k => exact absurd (.inr ⟨k, he⟩) h

theorem step_acts (h : Wired mux) {input : Multiplex.Input M K} {mux' : Multiplex M K}
    (hs : mux.step input = some mux') : Acts mux input mux' := by
  cases input with
  | consume message =>
    simp only [Multiplex.step] at hs
    split at hs
    · cases hs
      by_cases hkeyed : mux.config.Keyed message
      · rcases h.route hkeyed with ⟨hroute, hnone⟩ | ⟨i, s, queue, hrouted⟩
        · rw [hroute]
          exact .unrouted message hkeyed hnone
        · rw [hrouted.route]
          exact .routed message i s queue hrouted
      · rw [Multiplex.route_died hkeyed]
        exact .died message hkeyed
    · cases hs
  | subscribe connected channel =>
    cases hs
    unfold Multiplex.subscribe
    cases connected with
    | false => exact .kept _ trivial
    | true =>
      simp only [Bool.not_true, Bool.false_eq_true, if_false]
      cases hsub : mux.subscriptions channel with
      | some i => exact .kept _ trivial
      | none => exact .subscribed true channel hsub
  | unsubscribe channel =>
    cases hs
    rcases h.unsubscribe channel with hsame | ⟨i, s, hi, hsub, hclosed⟩
    · rw [hsame]
      exact .kept _ trivial
    · rw [hclosed]
      exact .closed (.unsubscribe channel) trivial i s hi hsub
  | close i =>
    obtain ⟨s, hi, rfl⟩ := Option.map_eq_some_iff.mp hs
    cases hactive : s.active with
    | false =>
      unfold Multiplex.closeSubscription
      simp only [hactive, Bool.not_false, if_true]
      exact .kept _ trivial
    | true =>
      rw [h.closeSubscription hi hactive]
      exact .closed (.close i) trivial i s hi (h.listed i s hi hactive)
  | recv i task =>
    obtain ⟨s, hi, hs⟩ := Option.bind_eq_some_iff.mp hs
    split at hs
    · cases hs
    · cases hs
      unfold Subscription.recv
      cases hactive : s.active with
      | false =>
        have hset : mux.created.set i s = mux.created := by
          obtain ⟨hlt, rfl⟩ := List.getElem?_eq_some_iff.mp hi
          exact List.set_getElem_self hlt
        simp only [Bool.not_false, if_true, hset]
        exact .refused i task s hi hactive
      | true =>
        simp only [Bool.not_true, Bool.false_eq_true, if_false]
        exact .received i task s hi hactive
  | resume i task =>
    obtain ⟨s, hi, hs⟩ := Option.bind_eq_some_iff.mp hs
    split at hs
    · cases hs
      exact .resumed i task s hi
    · cases hs
  | giveUp i task =>
    obtain ⟨s, hi, hs⟩ := Option.bind_eq_some_iff.mp hs
    split at hs
    · cases hs
      exact .gaveUp i task s hi
    · cases hs

omit [DecidableEq K] in
/-- The answer of a queue leaves it within the bound. -/
theorem Wired.took (h : Wired mux) (hi : mux.created[i]? = some s)
    {r : AsyncQueue (Option M) × Option (Option M)} (hr : s.queue.Pops r) :
    Wired { mux with created := mux.created.set i (s.took r).1 } := by
  obtain ⟨hle, hchannel, hactive, -⟩ := took_bounded hr
  exact h.set _ hi hchannel hactive (fun hpos => Nat.le_trans hle (h.bounded i s hi hpos))

/-- **One step** keeps the dictionary and the bound. -/
theorem wired_step (h : Wired mux) {input : Multiplex.Input M K} {mux' : Multiplex M K}
    (hs : mux.step input = some mux') : Wired mux' := by
  cases step_acts h hs with
  | died message hkeyed => exact ⟨h.named, h.listed, h.bounded⟩
  | unrouted message hkeyed hnone => exact h.counters _ _
  | routed message i s queue hr =>
    have hset := h.set (s.counted queue) hr.created rfl (fun _ => hr.active)
      (fun hpos => deliver_bounded (h.bounded i s hr.created hpos) hpos hr.items)
    exact hset.counters _ _
  | subscribed connected channel hnone => exact h.subscribed hnone
  | kept input hquiet => exact h
  | closed input hquiet i s hi hsub => exact h.unlisted hi hsub
  | gaveUp i task s hi =>
    refine h.set _ hi rfl id (fun hpos => ?_)
    rw [AsyncQueue.items_giveUp]
    exact h.bounded i s hi hpos
  | refused i task s hi hactive => exact h
  | received i task s hi hactive => exact h.took hi (AsyncQueue.get_pops _ _)
  | resumed i task s hi => exact h.took hi (AsyncQueue.resume_pops _ _)

theorem step_config (h : Wired mux) {input : Multiplex.Input M K} {mux' : Multiplex M K}
    (hs : mux.step input = some mux') : mux'.config = mux.config := by
  cases step_acts h hs <;> rfl

omit [DecidableEq K] in
theorem wired_new (config : MultiplexConfig M K) : Wired (Multiplex.new config) :=
  ⟨fun _ _ h => (by cases h), fun _ _ h => (by cases h), fun _ _ h => (by cases h)⟩

end Wiring
end JetSocket.Routing
