import JetSocket.Routing.Router

/- The dictionary of subscriptions against the flags.

   A subscription says itself whether it is active, and the dictionary names one for each channel.
   Five methods write to these. An active subscription never meets a `None` in its queue where the
   extractor gives no channel to a `null`, which that of `channel_key` does not: a `None` is put
   behind the messages when the flag is down already.

   What is proved:
     `Clean.becomes` — what a step makes of one subscription.
     `always_mapped` — under a `channel_key` the dictionary and the flags agree, a subscription
                       that was closed is left alone, and so is any newer one to its channel. -/
namespace JetSocket.Routing
open Transition

variable {M K : Type}

/-- The messages in the queue of a subscription. -/
def Subscription.messages (s : Subscription M K) : List M := s.queue.items.filterMap id

/-- The dictionary names active subscriptions only, and these have no `None` in their queues. -/
structure Clean (mux : Multiplex M K) : Prop where
  wired : Wired mux
  stored : ∀ k i s, mux.subscriptions k = some i → mux.created[i]? = some s → s.active = true
  unended : ∀ (i : Nat) (s : Subscription M K), mux.created[i]? = some s → s.active = true →
    none ∉ s.queue.items
  null : ∀ k, mux.config.channelExtractor none ≠ .channel k

/-- **What a step makes of a subscription.** -/
inductive Becomes (mux : Multiplex M K) (input : Multiplex.Input M K) (i : Nat)
    (s : Subscription M K) : Subscription M K → Prop
  | kept : Becomes mux input i s s
  | counted (message : Option M) (queue : AsyncQueue (Option M))
      (h : Routed mux message i s queue) : Becomes mux input i s (s.counted queue)
  | signalled (hactive : s.active = true) (h : input = .close i ∨ input = .unsubscribe s.channel) :
      Becomes mux input i s (s.signalled mux.config.maxsize)
  | gaveUp (task : Nat) : Becomes mux input i s { s with queue := s.queue.giveUp task }
  | took (r : AsyncQueue (Option M) × Option (Option M)) (h : s.queue.Pops r) :
      Becomes mux input i s (s.took r).1

/-- **What `subscribe`, `unsubscribe` and `close` do**, and to which subscription. -/
inductive Calls [DecidableEq K] (mux : Multiplex M K) :
    Multiplex.Input M K → Multiplex M K → Prop
  | kept (input : Multiplex.Input M K) : Calls mux input mux
  | subscribed (channel : K) (h : mux.subscriptions channel = none) :
      Calls mux (.subscribe true channel)
        { mux with
          created := mux.created ++ [Subscription.new channel]
          subscriptions := Function.update mux.subscriptions channel (some mux.created.length) }
  | closed (input : Multiplex.Input M K) (i : Nat) (s : Subscription M K)
      (hi : mux.created[i]? = some s) (hsub : mux.subscriptions s.channel = some i)
      (hinput : input = .close i ∧ s.active = true ∨ input = .unsubscribe s.channel) :
      Calls mux input
        { mux with
          created := mux.created.set i (s.signalled mux.config.maxsize)
          subscriptions := Function.update mux.subscriptions s.channel none }

section Steps
variable {mux mux' : Multiplex M K} {input : Multiplex.Input M K} {i j : Nat}
  {s s' u u' : Subscription M K}

theorem clean_new {config : MultiplexConfig M K}
    (hnull : ∀ k, config.channelExtractor none ≠ .channel k) : Clean (Multiplex.new config) :=
  ⟨wired_new config, fun _ _ _ h => (by cases h), fun _ _ h => (by cases h), hnull⟩

/-- Where one subscription goes on as another. -/
theorem set_becomes (hj : mux.created[j]? = some u) (hi : mux.created[i]? = some s)
    (h : j = i → u = s → Becomes mux input i s u') :
    ∃ s', (mux.created.set j u')[i]? = some s' ∧ Becomes mux input i s s' := by
  by_cases hij : j = i
  · subst hij
    rw [hj] at hi
    refine ⟨u', List.getElem?_set_self (List.getElem?_eq_some_iff.mp hj).1, ?_⟩
    exact h rfl (Option.some.inj hi)
  · exact ⟨s, (List.getElem?_set_ne hij).trans hi, .kept⟩

/-- A queue's answer to an active subscription is no `None`. -/
theorem took_active {r : AsyncQueue (Option M) × Option (Option M)} (hr : s.queue.Pops r)
    (hactive : s.active = true) (hnone : none ∉ s.queue.items) :
    (s.took r).1.active = true ∧ none ∉ (s.took r).1.queue.items := by
  obtain ⟨queue, o⟩ := r
  unfold AsyncQueue.Pops at hr
  cases o with
  | none =>
    refine ⟨hactive, ?_⟩
    show none ∉ queue.items
    rw [hr.2]
    exact List.not_mem_nil
  | some item =>
    dsimp only at hr
    rw [hr] at hnone
    cases item with
    | none => exact absurd List.mem_cons_self hnone
    | some message => exact ⟨hactive, fun h => hnone (List.mem_cons_of_mem _ h)⟩

/-- What is put into the queue of a subscription that is active. -/
theorem Routed.unended {message : Option M} {queue : AsyncQueue (Option M)}
    (hr : Routed mux message i s queue) (h : Clean mux) : none ∉ queue.items := by
  have hold := h.unended i s hr.created hr.active
  intro hnone
  rw [hr.items] at hnone
  rcases List.mem_append.mp hnone with hin | hin
  · split at hin
    · exact hold (List.mem_of_mem_tail hin)
    · exact hold hin
  · have hnull := hr.channel
    rw [← List.mem_singleton.mp hin] at hnull
    exact h.null _ hnull

/-- A subscription goes on, and is active if it was. -/
theorem Clean.set (h : Clean mux) (hwired : Wired { mux with created := mux.created.set i s' })
    (hi : mux.created[i]? = some s) (hactive : s.active = true → s'.active = true)
    (hunended : s'.active = true → none ∉ s'.queue.items) :
    Clean { mux with created := mux.created.set i s' } := by
  refine ⟨hwired, fun k j u hk hu => ?_, fun j u hu ha => ?_, h.null⟩
  · obtain ⟨rfl, rfl⟩ | ⟨-, hu⟩ := set_cases hi hu
    · exact hactive (h.stored k j s hk hi)
    · exact h.stored k j u hk hu
  · obtain ⟨rfl, rfl⟩ | ⟨-, hu⟩ := set_cases hi hu
    · exact hunended ha
    · exact h.unended j u hu ha

theorem Clean.took (h : Clean mux) (hi : mux.created[i]? = some s)
    {r : AsyncQueue (Option M) × Option (Option M)} (hr : s.queue.Pops r) :
    Clean { mux with created := mux.created.set i (s.took r).1 } := by
  refine h.set (h.wired.took hi hr) hi (fun ha => ?_) (fun ha => ?_)
  · exact (took_active hr ha (h.unended i s hi ha)).1
  · have hactive := (took_bounded hr).2.2.1 ha
    exact (took_active hr hactive (h.unended i s hi hactive)).2

/-- What is found behind a new subscription. -/
theorem appended_cases {channel : K}
    (hu : (mux.created ++ [Subscription.new channel])[i]? = some u) :
    mux.created[i]? = some u ∨ i = mux.created.length ∧ u = Subscription.new channel := by
  rcases Nat.lt_or_ge i mux.created.length with hlt | hge
  · rw [List.getElem?_append_left hlt] at hu
    exact .inl hu
  · rw [List.getElem?_append_right hge] at hu
    obtain ⟨hlt, hget⟩ := List.getElem?_eq_some_iff.mp hu
    rw [List.length_singleton] at hlt
    refine .inr ⟨by omega, ?_⟩
    rw [List.getElem_singleton] at hget
    exact hget.symm

variable [DecidableEq K]

/-- Calls end the one subscription they are about. -/
theorem Wired.calls (h : Wired mux) (hquiet : input.Quiet) (hs : mux.step input = some mux') :
    Calls mux input mux' := by
  cases input with
  | subscribe connected channel =>
    cases hs
    unfold Multiplex.subscribe
    cases connected with
    | false => exact .kept _
    | true =>
      simp only [Bool.not_true, Bool.false_eq_true, if_false]
      cases hsub : mux.subscriptions channel with
      | some i => exact .kept _
      | none => exact .subscribed channel hsub
  | unsubscribe channel =>
    cases hs
    unfold Multiplex.unsubscribe
    cases hsub : mux.subscriptions channel with
    | none =>
      rw [lookup_none hsub]
      exact .kept _
    | some i =>
      obtain ⟨s, hlookup, hi, rfl⟩ := h.lookup hsub
      rw [hlookup]
      exact .closed _ i s hi hsub (.inr rfl)
  | close i =>
    obtain ⟨s, hi, rfl⟩ := Option.map_eq_some_iff.mp hs
    cases hactive : s.active with
    | false =>
      unfold Multiplex.closeSubscription
      rw [hactive]
      exact .kept _
    | true =>
      rw [h.closeSubscription hi hactive]
      exact .closed _ i s hi (h.listed i s hi hactive) (.inl ⟨rfl, hactive⟩)
  | consume message => exact hquiet.elim
  | recv i task => exact hquiet.elim
  | resume i task => exact hquiet.elim
  | giveUp i task => exact hquiet.elim

/-- **One step** keeps the dictionary clean. -/
theorem Clean.step (h : Clean mux) (hs : mux.step input = some mux') : Clean mux' := by
  have hwired := wired_step h.wired hs
  cases step_acts h.wired hs with
  | died message hkeyed => exact ⟨hwired, h.stored, h.unended, h.null⟩
  | unrouted message hkeyed hnone => exact ⟨hwired, h.stored, h.unended, h.null⟩
  | routed message i s queue hr =>
    have hset : Clean { mux with created := mux.created.set i (s.counted queue) } :=
      h.set ⟨hwired.named, hwired.listed, hwired.bounded⟩ hr.created (fun _ => hr.active)
        (fun _ => hr.unended h)
    exact ⟨hwired, hset.stored, hset.unended, h.null⟩
  | subscribed connected channel hnone =>
    refine ⟨hwired, fun k j u hk hu => ?_, fun j u hu hactive => ?_, h.null⟩
    · rcases appended_cases hu with hold | ⟨rfl, rfl⟩
      · dsimp only at hk
        by_cases hname : k = channel
        · subst hname
          rw [Function.update_self] at hk
          obtain rfl := Option.some.inj hk
          exact absurd (List.getElem?_eq_some_iff.mp hold).1 (Nat.lt_irrefl _)
        · rw [Function.update_of_ne hname] at hk
          exact h.stored k j u hk hold
      · rfl
    · rcases appended_cases hu with hold | ⟨rfl, rfl⟩
      · exact h.unended j u hold hactive
      · exact List.not_mem_nil
  | kept input hquiet => exact h
  | closed input hquiet i s hi hsub =>
    -- what stays in the dictionary is another subscription, and was there before
    refine ⟨hwired, fun k j u hk hu => ?_, fun j u hu hactive => ?_, h.null⟩
    · dsimp only at hk hu
      by_cases hname : k = s.channel
      · subst hname
        rw [Function.update_self] at hk
        cases hk
      · rw [Function.update_of_ne hname] at hk
        obtain ⟨v, hv, hchannel⟩ := h.wired.named k j hk
        have hij : i ≠ j := by
          rintro rfl
          rw [hi] at hv
          cases hv
          exact hname hchannel.symm
        rw [List.getElem?_set_ne hij] at hu
        exact h.stored k j u hk hu
    · dsimp only at hu
      obtain ⟨rfl, rfl⟩ | ⟨-, hu⟩ := set_cases hi hu
      · cases hactive
      · exact h.unended j u hu hactive
  | gaveUp i task s hi =>
    refine h.set hwired hi id (fun hactive => ?_)
    rw [AsyncQueue.items_giveUp]
    exact h.unended i s hi hactive
  | refused i task s hi hactive => exact h
  | received i task s hi hactive => exact h.took hi (AsyncQueue.get_pops _ _)
  | resumed i task s hi => exact h.took hi (AsyncQueue.resume_pops _ _)

/-- A call of `subscribe`, `unsubscribe` or `close` leaves each subscription alone, or closes it. -/
theorem Clean.quiet (h : Clean mux) (hquiet : input.Quiet) (hs : mux.step input = some mux')
    (hi : mux.created[i]? = some s) :
    ∃ s', mux'.created[i]? = some s' ∧ Becomes mux input i s s' := by
  cases h.wired.calls hquiet hs with
  | kept input => exact ⟨s, hi, .kept⟩
  | subscribed channel hnone =>
    exact ⟨s, (List.getElem?_append_left (List.getElem?_eq_some_iff.mp hi).1).trans hi, .kept⟩
  | closed input j u hj hsub hinput =>
    refine set_becomes hj hi ?_
    rintro rfl rfl
    exact .signalled (h.stored _ _ _ hsub hj) (hinput.imp_left And.left)

theorem Clean.becomes (h : Clean mux) (hs : mux.step input = some mux')
    (hi : mux.created[i]? = some s) :
    ∃ s', mux'.created[i]? = some s' ∧ Becomes mux input i s s' := by
  cases step_acts h.wired hs with
  | died message hkeyed => exact ⟨s, hi, .kept⟩
  | unrouted message hkeyed hnone => exact ⟨s, hi, .kept⟩
  | routed message j u queue hr =>
    refine set_becomes hr.created hi ?_
    rintro rfl rfl
    exact .counted message queue hr
  | subscribed connected channel hnone => exact h.quiet trivial hs hi
  | kept input hquiet => exact h.quiet hquiet hs hi
  | closed input hquiet j u hj hsub => exact h.quiet hquiet hs hi
  | gaveUp j task u hj =>
    refine set_becomes hj hi ?_
    rintro rfl rfl
    exact .gaveUp task
  | refused j task u hj hactive => exact ⟨s, hi, .kept⟩
  | received j task u hj hactive =>
    refine set_becomes hj hi ?_
    rintro rfl rfl
    exact .took _ (AsyncQueue.get_pops _ _)
  | resumed j task u hj =>
    refine set_becomes hj hi ?_
    rintro rfl rfl
    exact .took _ (AsyncQueue.resume_pops _ _)

omit [DecidableEq K] in
/-- A subscription that was closed gets no message. -/
theorem Becomes.shut (h : Becomes mux input i s s') (hactive : s.active = false) :
    s'.active = false ∧ s'.messagesReceived = s.messagesReceived ∧ s'.messages <:+ s.messages := by
  have hopen : s.active = true → False := fun ha => by
    rw [hactive] at ha
    cases ha
  cases h with
  | kept => exact ⟨hactive, rfl, List.suffix_refl _⟩
  | counted message queue hr => exact (hopen hr.active).elim
  | signalled ha => exact (hopen ha).elim
  | gaveUp task =>
    have hsame : (s.queue.giveUp task).items.filterMap id = s.messages :=
      congrArg (List.filterMap id) (AsyncQueue.items_giveUp s.queue task)
    exact ⟨hactive, rfl, hsame ▸ List.suffix_refl _⟩
  | took r hr =>
    have hkept := (took_bounded hr).2.2
    refine ⟨?_, hkept.2, ?_⟩
    · exact Bool.eq_false_iff.mpr (fun ha => hopen (hkept.1 ha))
    · obtain ⟨queue, o⟩ := r
      unfold AsyncQueue.Pops at hr
      cases o with
      | none =>
        have hsame : queue.items.filterMap id = s.messages :=
          congrArg (List.filterMap id) (hr.2.trans hr.1.symm)
        exact hsame ▸ List.suffix_refl _
      | some item =>
        dsimp only at hr
        unfold Subscription.messages
        rw [took_queue, hr]
        exact List.IsSuffix.filterMap id (List.suffix_cons item queue.items)

end Steps

/-- **The dictionary and the flags agree**, now and over the next step. -/
structure Mapped [DecidableEq K] (mux : Multiplex M K) : Prop where
  listed : ∀ i s, mux.created[i]? = some s →
    (s.active = true ↔ mux.subscriptions s.channel = some i)
  stale : ∀ (i : Nat) (s : Subscription M K), mux.created[i]? = some s → s.active = false →
    mux.step (.close i) = some mux
  ends : ∀ (input : Multiplex.Input M K) (mux' : Multiplex M K) (i : Nat)
    (s s' : Subscription M K), mux.step input = some mux' → mux.created[i]? = some s →
    mux'.created[i]? = some s' → s.active = true → s'.active = false →
    input = .close i ∨ input = .unsubscribe s.channel
  shut : ∀ (input : Multiplex.Input M K) (mux' : Multiplex M K) (i : Nat)
    (s s' : Subscription M K), mux.step input = some mux' → mux.created[i]? = some s →
    mux'.created[i]? = some s' → s.active = false →
    s'.active = false ∧ s'.messagesReceived = s.messagesReceived ∧ s'.messages <:+ s.messages

theorem Clean.mapped [DecidableEq K] {mux : Multiplex M K} (h : Clean mux) : Mapped mux := by
  refine ⟨fun i s hi => ⟨h.wired.listed i s hi, fun hk => h.stored _ i s hk hi⟩, ?_, ?_, ?_⟩
  · intro i s hi hactive
    show (mux.created[i]?).map (mux.closeSubscription i) = some mux
    rw [hi, Option.map_some]
    unfold Multiplex.closeSubscription
    rw [hactive]
    rfl
  · intro input mux' i s s' hs hi hi' hactive hinactive
    obtain ⟨t, ht, hbecomes⟩ := h.becomes hs hi
    rw [hi'] at ht
    cases ht
    cases hbecomes with
    | signalled _ hwhich => exact hwhich
    | kept => exact (Bool.eq_false_iff.mp hinactive hactive).elim
    | counted message queue hr => exact (Bool.eq_false_iff.mp hinactive hactive).elim
    | gaveUp task => exact (Bool.eq_false_iff.mp hinactive hactive).elim
    | took r hr =>
      have hstill := (took_active hr hactive (h.unended i s hi hactive)).1
      exact (Bool.eq_false_iff.mp hinactive hstill).elim
  · intro input mux' i s s' hs hi hi' hinactive
    obtain ⟨t, ht, hbecomes⟩ := h.becomes hs hi
    rw [hi'] at ht
    cases ht
    exact hbecomes.shut hinactive

theorem always_mapped (k : String) (queueSize : Int) (run : List (Multiplex.Input Value Key)) :
    Always Multiplex.step Mapped (Multiplex.new (keyConfig k queueSize)) run := by
  have hclean : Clean (Multiplex.new (keyConfig k queueSize)) :=
    clean_new (fun key h => (by cases h))
  have hall : Always Multiplex.step Clean (Multiplex.new (keyConfig k queueSize)) run :=
    always_of_step (fun _ _ _ h hs => h.step hs) run hclean
  exact hall.mono (fun _ h => h.mapped)

end JetSocket.Routing
