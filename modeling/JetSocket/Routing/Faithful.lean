import JetSocket.Lib.Transition
import JetSocket.Routing.Steps
import Mathlib.Algebra.GroupWithZero.Nat

/- What becomes of the messages that the router takes in.

   A `History` is kept beside each subscription: the messages of its channel that arrived while it
   was active, those `recv` returned, and what became of each one that has left the queue. A queue
   is first in, first out, so the messages in it are those that arrived and have not left.

   `recv` takes a `None` from the queue for the end, and a JSON `null` in the queue is one.

   What is proved:
     `Served.answered_iff` — a call of `recv` keeps the account of a subscription exactly when it
     does not take a `null`.
     `faithful_iff` — the account of all subscriptions, and the counters, are right throughout a
     run exactly when no call of `recv` takes a `null`. -/
namespace JetSocket.Routing
open Transition

variable {M K : Type}

/-- What became of a message that has left a queue: `recv` returned it, or took it for the end;
or it made room, with so many messages behind it, the new one included. -/
inductive Fate where
  | received
  | mistaken
  | dropped (behind : Nat)
  deriving DecidableEq, Repr

structure History (M : Type) where
  arrived : List (Option M)
  received : List M
  left : List (Option M × Fate)

namespace History

def empty : History M := ⟨[], [], []⟩

/-- What has arrived and not left. -/
def queued (h : History M) : List (Option M) := h.arrived.drop h.left.length

/-- The first message in the queue leaves it, if there is one. -/
def leave (h : History M) (fate : Fate) : History M :=
  match h.queued with
  | [] => h
  | message :: _ => { h with left := h.left ++ [(message, fate)] }

theorem leave_received (h : History M) (fate : Fate) : (h.leave fate).received = h.received := by
  unfold leave
  split <;> rfl

/-- A message is put into a queue that is full or not, of so many. -/
def arrive (h : History M) (full : Bool) (length : Nat) (message : Option M) : History M :=
  let h := { h with arrived := h.arrived ++ [message] }
  if full then h.leave (.dropped length) else h

/-- A call of `recv` has come to this. -/
def answer (h : History M) : Answer M → History M
  | .returned message => { h.leave .received with received := h.received ++ [message] }
  | .ended => h.leave .mistaken
  | .waits | .closed => h

/-- `null` is the first message in the queue. -/
def NullFirst (h : History M) : Prop := h.queued.head? = some none

instance (h : History M) [DecidableEq M] : Decidable h.NullFirst :=
  inferInstanceAs (Decidable (_ = _))

end History

/-- **The account of a subscription.** Its queue holds what has arrived and not left, and perhaps
close sentinels behind that; of what has left, all was received that did not make room for a
message when the queue was full. -/
structure Served (maxsize : Nat) (s : Subscription M K) (h : History M) : Prop where
  queue : ∃ n, s.queue.items = h.queued ++ List.replicate n none ∧ (s.active = true → n = 0)
  whole : h.left.map Prod.fst ++ h.queued = h.arrived
  received : h.received.map some = (h.left.filter (fun x => x.2 = .received)).map Prod.fst
  missing : ∀ x ∈ h.left, x.2 ≠ .received → x.2 = .dropped maxsize ∧ 0 < maxsize

section Account
variable {maxsize : Nat} {s s' : Subscription M K} {h : History M}

/-- **In order, and without repetition.** -/
theorem Served.ordered (hs : Served maxsize s h) :
    List.Sublist (h.received.map some ++ h.queued) h.arrived := by
  have hsub : List.Sublist (h.received.map some) (h.left.map Prod.fst) := by
    rw [hs.received]
    exact List.Sublist.map Prod.fst List.filter_sublist
  calc List.Sublist (h.received.map some ++ h.queued) (h.left.map Prod.fst ++ h.queued) :=
        hsub.append_right h.queued
    _ = h.arrived := hs.whole

theorem served_new (maxsize : Nat) (channel : K) :
    Served maxsize (Subscription.new channel : Subscription M K) History.empty :=
  ⟨⟨0, rfl, fun _ => rfl⟩, rfl, rfl, fun _ hx => absurd hx List.not_mem_nil⟩

/-- What leaves the queue alone. -/
theorem Served.of_same (hs : Served maxsize s h) (hitems : s'.queue.items = s.queue.items)
    (hactive : s'.active = true → s.active = true) : Served maxsize s' h := by
  obtain ⟨n, hq, hn⟩ := hs.queue
  exact ⟨⟨n, hitems.trans hq, fun ha => hn (hactive ha)⟩, hs.whole, hs.received, hs.missing⟩

/-- The first message leaves: it is the last of those that have left. -/
theorem Served.leave (hs : Served maxsize s h) {message : Option M} {rest : List (Option M)}
    (hq : h.queued = message :: rest) (fate : Fate) :
    (h.leave fate).queued = rest ∧ (h.leave fate).left = h.left ++ [(message, fate)] ∧
      (h.leave fate).left.map Prod.fst ++ rest = h.arrived ∧
      (h.leave fate).arrived = h.arrived := by
  have hleave : h.leave fate = { h with left := h.left ++ [(message, fate)] } := by
    unfold History.leave
    rw [hq]
  have hwhole := hs.whole
  rw [hq] at hwhole
  rw [hleave]
  refine ⟨?_, rfl, ?_, rfl⟩
  · have hdrop : h.arrived.drop h.left.length = message :: rest := hq
    unfold History.queued
    dsimp only
    rw [List.length_append, List.length_singleton, ← List.drop_drop, hdrop]
    rfl
  · rw [List.map_append, List.append_assoc]
    exact hwhole

/-- What `recv` takes is the first message, or a sentinel behind all messages. -/
theorem Served.first (hs : Served maxsize s h) {item : Option M} {rest : List (Option M)}
    (hitems : s.queue.items = item :: rest) :
    (∃ more, h.queued = item :: more ∧ ∃ n, rest = more ++ List.replicate n none ∧
        (s.active = true → n = 0)) ∨
      h.queued = [] ∧ item = none ∧ s.active = false ∧ ∃ n, rest = List.replicate n none := by
  obtain ⟨n, hq, hn⟩ := hs.queue
  rw [hitems] at hq
  cases hqueued : h.queued with
  | cons message more =>
    rw [hqueued] at hq
    obtain ⟨rfl, rfl⟩ := List.cons.inj hq
    exact .inl ⟨more, rfl, n, rfl, hn⟩
  | nil =>
    rw [hqueued, List.nil_append] at hq
    cases n with
    | zero => cases hq
    | succ n =>
      obtain ⟨rfl, rfl⟩ := List.cons.inj hq
      refine .inr ⟨rfl, rfl, ?_, n, rfl⟩
      cases ha : s.active with
      | false => rfl
      | true => exact absurd (hn ha) (Nat.succ_ne_zero n)

/-- **`recv`** keeps the account exactly when it does not take a `null`. -/
theorem Served.answered_iff (hs : Served maxsize s h)
    {r : AsyncQueue (Option M) × Option (Option M)} (hr : s.queue.Pops r) :
    Served maxsize (s.took r).1 (h.answer (s.took r).2) ↔ ¬ h.NullFirst := by
  obtain ⟨queue, o⟩ := r
  unfold AsyncQueue.Pops at hr
  dsimp only at hr
  cases o with
  | none =>
    obtain ⟨hempty, hitems⟩ := hr
    obtain ⟨n, hq, hn⟩ := hs.queue
    have hnone : h.queued = [] := by
      rw [hempty] at hq
      exact (List.append_eq_nil_iff.mp hq.symm).1
    refine iff_of_true (hs.of_same (hitems.trans hempty.symm) id) ?_
    simp [History.NullFirst, hnone]
  | some item =>
    dsimp only at hr
    rcases hs.first hr with ⟨more, hq, n, hrest, hn⟩ | ⟨hq, rfl, hactive, n, hrest⟩
    · cases item with
      | none =>
        -- the account says of a message that it was taken for the end
        refine iff_of_false (fun hserved => ?_) (by simp [History.NullFirst, hq])
        obtain ⟨-, hleft, -⟩ := hs.leave hq .mistaken
        have hmissing := hserved.missing (none, .mistaken) (by
          simp only [Subscription.took, History.answer, hleft]
          exact List.mem_append_right _ List.mem_cons_self)
        cases (hmissing Fate.noConfusion).1
      | some message =>
        obtain ⟨hqueued, hleft, hwhole, harrived⟩ := hs.leave hq .received
        refine iff_of_true ⟨⟨n, ?_, hn⟩, ?_, ?_, ?_⟩ ?_
        · simp only [Subscription.took, History.answer, History.queued] at hqueued ⊢
          rw [hqueued]
          exact hrest
        · simp only [Subscription.took, History.answer, History.queued] at hqueued ⊢
          rw [hqueued, hwhole, harrived]
        · simp only [Subscription.took, History.answer, hleft, List.map_append, List.filter_append,
            hs.received]
          rfl
        · simp only [Subscription.took, History.answer, hleft]
          intro x hx hne
          rcases List.mem_append.mp hx with hx | hx
          · exact hs.missing x hx hne
          · rw [List.mem_singleton.mp hx] at hne
            exact absurd rfl hne
        · simp [History.NullFirst, hq]
    · have hsame : h.leave .mistaken = h := by
        unfold History.leave
        rw [hq]
      refine iff_of_true ?_ (by simp [History.NullFirst, hq])
      simp only [Subscription.took, History.answer, hsame]
      refine ⟨⟨n, ?_, fun ha => (by cases ha)⟩, hs.whole, hs.received, hs.missing⟩
      rw [hq, List.nil_append]
      exact hrest

/-- A message is put into the queue, for the oldest where that is full. -/
theorem Served.arrive (hs : Served maxsize s h) (s' : Subscription M K) (hactive : s.active = true)
    (hbound : 0 < maxsize → s.queue.items.length ≤ maxsize) {message : Option M}
    (hitems : s'.queue.items =
      (if s.queue.full maxsize then s.queue.items.tail else s.queue.items) ++ [message]) :
    Served maxsize s' (h.arrive (s.queue.full maxsize) s.queue.items.length message) := by
  obtain ⟨n, hq, hn⟩ := hs.queue
  rw [hn hactive, List.replicate_zero, List.append_nil] at hq
  have hwhole := hs.whole
  -- the history with the message in it
  have hlonger : h.left.length ≤ h.arrived.length := by
    rw [← hwhole, List.length_append, List.length_map]
    omega
  have hqueued : ({ h with arrived := h.arrived ++ [message] } : History M).queued =
      h.queued ++ [message] := by
    unfold History.queued
    dsimp only
    rw [List.drop_append_of_le_length hlonger]
  have hgrown : Served maxsize { s with queue := ⟨h.queued ++ [message], [], []⟩ }
      { h with arrived := h.arrived ++ [message] } := by
    refine ⟨⟨0, ?_, fun _ => rfl⟩, ?_, hs.received, hs.missing⟩
    · rw [hqueued, List.replicate_zero, List.append_nil]
    · rw [hqueued, ← List.append_assoc, hwhole]
  unfold History.arrive
  dsimp only
  cases hfull : s.queue.full maxsize with
  | false =>
    rw [hfull, if_neg Bool.false_ne_true, hq] at hitems
    rw [if_neg Bool.false_ne_true]
    exact hgrown.of_same hitems (fun _ => hactive)
  | true =>
    obtain ⟨hpos, hle⟩ := (AsyncQueue.full_iff s.queue maxsize).mp hfull
    have hlength : s.queue.items.length = maxsize := Nat.le_antisymm (hbound hpos) hle
    rw [if_pos rfl, hlength]
    obtain ⟨oldest, rest, hcons⟩ :=
      List.exists_cons_of_length_pos (show 0 < s.queue.items.length by omega)
    rw [hfull, if_pos rfl, hcons, List.tail_cons] at hitems
    have hfirst : ({ h with arrived := h.arrived ++ [message] } : History M).queued =
        oldest :: (rest ++ [message]) := by
      rw [hqueued, ← hq, hcons, List.cons_append]
    obtain ⟨hafter, hleft, hall, harrived⟩ := hgrown.leave hfirst (.dropped maxsize)
    have hreceived := hgrown.received
    refine ⟨⟨0, ?_, fun _ => rfl⟩, ?_, ?_, ?_⟩
    · rw [hafter, hitems, List.replicate_zero, List.append_nil]
    · rw [hafter, hall, harrived]
    · rw [hleft, History.leave_received, List.filter_append, List.map_append, ← hreceived,
        List.filter_cons_of_neg (by simp), List.filter_nil, List.map_nil, List.append_nil]
    · rw [hleft]
      intro x hx hne
      rcases List.mem_append.mp hx with hx | hx
      · exact hs.missing x hx hne
      · rw [List.mem_singleton.mp hx]
        exact ⟨rfl, hpos⟩

/-- Closing leaves the messages in the queue, and puts a sentinel behind them if there is room. -/
theorem Served.signalled (hs : Served maxsize s h) : Served maxsize (s.signalled maxsize) h := by
  obtain ⟨n, hq, -⟩ := hs.queue
  refine ⟨?_, hs.whole, hs.received, hs.missing⟩
  unfold Subscription.signalled AsyncQueue.putNowait
  split
  · exact ⟨n, hq, fun ha => (by cases ha)⟩
  · refine ⟨n + 1, ?_, fun ha => (by cases ha)⟩
    simp only [Option.getD_some, AsyncQueue.items_put, hq, List.replicate_succ', List.append_assoc]

end Account

/-! ## All subscriptions -/

/-- A multiplexed connection, how many messages its router has taken in, and the histories of its
subscriptions, by number. -/
structure Trace (M K : Type) where
  mux : Multiplex M K
  consumed : Nat
  histories : Nat → History M

namespace Trace
variable [DecidableEq K]

def new (config : MultiplexConfig M K) : Trace M K :=
  { mux := Multiplex.new config, consumed := 0, histories := fun _ => History.empty }

/-- How the histories go on. A message arrives for each active subscription to its channel. -/
def log (t : Trace M K) : Multiplex.Input M K → Nat → History M
  | .consume message => fun i =>
    match t.mux.created[i]? with
    | some s =>
      if s.active ∧ t.mux.config.channelExtractor message = .channel s.channel then
        (t.histories i).arrive (s.queue.full t.mux.config.maxsize) s.queue.items.length message
      else t.histories i
    | none => t.histories i
  | .recv i task =>
    match t.mux.created[i]? with
    | some s => Function.update t.histories i ((t.histories i).answer (s.recv task).2)
    | none => t.histories
  | .resume i task =>
    match t.mux.created[i]? with
    | some s => Function.update t.histories i ((t.histories i).answer (s.resume task).2)
    | none => t.histories
  | _ => t.histories

def step (t : Trace M K) (input : Multiplex.Input M K) : Option (Trace M K) :=
  (t.mux.step input).map (fun mux =>
    { mux
      consumed := match input with
        | .consume _ => t.consumed + 1
        | _ => t.consumed
      histories := t.log input })

end Trace

/-- **Faithful routing**: what was taken in was routed or counted as unroutable; each subscription
has its account; and the counters of the subscriptions add up. -/
structure Faithful (t : Trace M K) : Prop where
  counted : t.mux.totalMessagesRouted + t.mux.unroutableMessages = t.consumed
  served : ∀ i s, t.mux.created[i]? = some s →
    Served t.mux.config.maxsize s (t.histories i)
  ordered : ∀ i s, t.mux.created[i]? = some s →
    List.Sublist ((t.histories i).received.map some ++ (t.histories i).queued)
      (t.histories i).arrived
  summed : (t.mux.created.map Subscription.messagesReceived).sum = t.mux.totalMessagesRouted

/-- No call of `recv` that goes on takes a `null` from the queue. -/
def NoNull (t : Trace M K) : Multiplex.Input M K → Prop
  | .recv i _ => ∀ s, t.mux.created[i]? = some s → s.active = true → ¬ (t.histories i).NullFirst
  | .resume i _ => ¬ (t.histories i).NullFirst
  | _ => True

/-! ## Steps -/

section Steps
variable {t t' : Trace M K}

/-- The invariant of runs: every message can be looked up, and a subscription starts with an empty
history. -/
structure Ready (t : Trace M K) : Prop where
  wired : Wired t.mux
  routing : t.mux.routing = true
  keyed : ∀ message, t.mux.config.Keyed message
  fresh : ∀ i, t.mux.created.length ≤ i → t.histories i = History.empty

theorem sum_set_add {α : Type} (f : α → Nat) : ∀ {l : List α} {i : Nat} {x : α}, l[i]? = some x →
    ∀ y, ((l.set i y).map f).sum + f x = (l.map f).sum + f y
  | [], _, _, h, _ => by cases h
  | a :: l, 0, x, h, y => by
    cases h
    simp only [List.set_cons_zero, List.map_cons, List.sum_cons]
    omega
  | a :: l, i + 1, x, h, y => by
    have hrest := sum_set_add f (l := l) (i := i) h y
    simp only [List.set_cons_succ, List.map_cons, List.sum_cons]
    omega

theorem Faithful.of_served
    (counted : t.mux.totalMessagesRouted + t.mux.unroutableMessages = t.consumed)
    (served : ∀ (i : Nat) (s : Subscription M K), t.mux.created[i]? = some s →
      Served t.mux.config.maxsize s (t.histories i))
    (summed : (t.mux.created.map Subscription.messagesReceived).sum = t.mux.totalMessagesRouted) :
    Faithful t :=
  ⟨counted, served, fun i s hi => (served i s hi).ordered, summed⟩

/-- One subscription goes on, with its history; the others are as they were. -/
theorem Faithful.set (h : Faithful t) {i : Nat} {s' : Subscription M K} {history : History M}
    (hserved : Served t.mux.config.maxsize s' history) (j : Nat) (u : Subscription M K)
    (hu : (t.mux.created.set i s')[j]? = some u) :
    Served t.mux.config.maxsize u (Function.update t.histories i history j) := by
  by_cases hj : i = j
  · subst hj
    have hlt : i < t.mux.created.length := by
      have hset := (List.getElem?_eq_some_iff.mp hu).1
      rwa [List.length_set] at hset
    rw [List.getElem?_set_self hlt] at hu
    cases hu
    rw [Function.update_self]
    exact hserved
  · rw [List.getElem?_set_ne hj] at hu
    rw [Function.update_of_ne (Ne.symm hj)]
    exact h.served j u hu

theorem Faithful.set_iff (h : Faithful t) {i : Nat} {s : Subscription M K} (s' : Subscription M K)
    (hi : t.mux.created[i]? = some s) (hsame : s'.messagesReceived = s.messagesReceived)
    (subscriptions : K → Option Nat) (history : History M) :
    Faithful
        { mux := { t.mux with created := t.mux.created.set i s', subscriptions }
          consumed := t.consumed
          histories := Function.update t.histories i history } ↔
      Served t.mux.config.maxsize s' history := by
  have hlt := (List.getElem?_eq_some_iff.mp hi).1
  constructor
  · intro h'
    have hserved := h'.served i s' (List.getElem?_set_self hlt)
    simpa using hserved
  · intro hserved
    refine Faithful.of_served h.counted (h.set hserved) ?_
    have hsum := sum_set_add Subscription.messagesReceived hi s'
    have hold := h.summed
    dsimp only
    omega

variable [DecidableEq K]

theorem Routed.log {message : Option M} {i : Nat} {s : Subscription M K}
    {queue : AsyncQueue (Option M)} (h : Routed t.mux message i s queue) :
    t.log (.consume message) = Function.update t.histories i ((t.histories i).arrive
      (s.queue.full t.mux.config.maxsize) s.queue.items.length message) := by
  funext j
  simp only [Trace.log]
  by_cases hj : j = i
  · subst hj
    rw [h.created, Function.update_self]
    exact if_pos ⟨h.active, h.channel⟩
  · rw [Function.update_of_ne hj]
    cases hu : t.mux.created[j]? with
    | none => rfl
    | some u => exact if_neg (fun ⟨hactive, hchannel⟩ => hj (h.only j u hu hactive hchannel))

theorem log_unrouted {message : Option M}
    (h : ∀ (j : Nat) (u : Subscription M K), t.mux.created[j]? = some u → u.active = true →
      t.mux.config.channelExtractor message ≠ .channel u.channel) :
    t.log (.consume message) = t.histories := by
  funext j
  simp only [Trace.log]
  cases hu : t.mux.created[j]? with
  | none => rfl
  | some u => exact if_neg (fun ⟨hactive, hchannel⟩ => h j u hu hactive hchannel)

/-- A call of `recv` that goes on to the queue. -/
theorem log_received {i task : Nat} {s : Subscription M K} (hi : t.mux.created[i]? = some s)
    (hactive : s.active = true) : t.log (.recv i task) = Function.update t.histories i
      ((t.histories i).answer (s.took (s.queue.get task)).2) := by
  simp only [Trace.log, hi, Subscription.recv, hactive, Bool.not_true, Bool.false_eq_true, if_false]

theorem log_refused {i task : Nat} {s : Subscription M K} (hi : t.mux.created[i]? = some s)
    (hactive : s.active = false) : t.log (.recv i task) = t.histories := by
  simp only [Trace.log, hi, Subscription.recv, hactive, Bool.not_false, if_true, History.answer,
    Function.update_eq_self]

theorem log_resumed {i task : Nat} {s : Subscription M K} (hi : t.mux.created[i]? = some s) :
    t.log (.resume i task) = Function.update t.histories i
      ((t.histories i).answer (s.took (s.queue.resume task)).2) := by
  simp only [Trace.log, hi, Subscription.resume]

theorem log_quiet {input : Multiplex.Input M K} (h : input.Quiet) :
    t.log input = t.histories ∧ NoNull t input ∧ ∀ message, input ≠ .consume message := by
  cases input with
  | subscribe | unsubscribe | close => exact ⟨rfl, trivial, fun _ he => (by cases he)⟩
  | consume | recv | resume | giveUp => exact h.elim

/-- **One step** keeps the invariant. -/
theorem ready_step (t : Trace M K) (input : Multiplex.Input M K) (t' : Trace M K) (h : Ready t)
    (hs : t.step input = some t') : Ready t' := by
  obtain ⟨mux', hmux, rfl⟩ := Option.map_eq_some_iff.mp hs
  have hwired := wired_step h.wired hmux
  have hupdated : ∀ {i : Nat} {s : Subscription M K} {history : History M},
      t.mux.created[i]? = some s → ∀ j, t.mux.created.length ≤ j →
        Function.update t.histories i history j = History.empty := by
    intro i s history hi j hj
    have hlt := (List.getElem?_eq_some_iff.mp hi).1
    rw [Function.update_of_ne (by omega)]
    exact h.fresh j hj
  cases step_acts h.wired hmux with
  | died message hkeyed => exact absurd (h.keyed message) hkeyed
  | unrouted message hkeyed hnone =>
    exact ⟨hwired, h.routing, h.keyed, (log_unrouted hnone).symm ▸ h.fresh⟩
  | routed message i s queue hr =>
    refine ⟨hwired, h.routing, h.keyed, fun j hj => ?_⟩
    dsimp only at hj ⊢
    rw [hr.log]
    exact hupdated hr.created j (by simpa using hj)
  | subscribed connected channel hnone =>
    refine ⟨hwired, h.routing, h.keyed, fun j hj => h.fresh j ?_⟩
    simp only [List.length_append, List.length_singleton] at hj
    omega
  | kept input hquiet =>
    exact ⟨hwired, h.routing, h.keyed, (log_quiet hquiet).1.symm ▸ h.fresh⟩
  | closed input hquiet i s hi hsub =>
    refine ⟨hwired, h.routing, h.keyed, fun j hj => ?_⟩
    dsimp only at hj ⊢
    rw [(log_quiet hquiet).1]
    exact h.fresh j (by simpa using hj)
  | gaveUp i task s hi =>
    exact ⟨hwired, h.routing, h.keyed, fun j hj => h.fresh j (by simpa using hj)⟩
  | refused i task s hi hactive =>
    exact ⟨hwired, h.routing, h.keyed, (log_refused hi hactive).symm ▸ h.fresh⟩
  | received i task s hi hactive =>
    refine ⟨hwired, h.routing, h.keyed, fun j hj => ?_⟩
    dsimp only at hj ⊢
    rw [log_received hi hactive]
    exact hupdated hi j (by simpa using hj)
  | resumed i task s hi =>
    refine ⟨hwired, h.routing, h.keyed, fun j hj => ?_⟩
    dsimp only at hj ⊢
    rw [log_resumed hi]
    exact hupdated hi j (by simpa using hj)

/-- **One step** keeps the account exactly when no call takes a `null`. -/
theorem faithful_step_iff (t : Trace M K) (input : Multiplex.Input M K) (t' : Trace M K)
    (h : Ready t) (hf : Faithful t) (hs : t.step input = some t') :
    Faithful t' ↔ NoNull t input := by
  obtain ⟨mux', hmux, rfl⟩ := Option.map_eq_some_iff.mp hs
  have hcounted := hf.counted
  have hsummed := hf.summed
  cases step_acts h.wired hmux with
  | died message hkeyed => exact absurd (h.keyed message) hkeyed
  | unrouted message hkeyed hnone =>
    refine iff_of_true (Faithful.of_served ?_ ?_ hsummed) trivial
    · simp only [Multiplex.unroutable]
      omega
    · exact (log_unrouted hnone).symm ▸ hf.served
  | routed message i s queue hr =>
    have hserved := (hf.served i s hr.created).arrive (s.counted queue) hr.active
      (h.wired.bounded i s hr.created) hr.items
    have hsum := sum_set_add Subscription.messagesReceived hr.created (s.counted queue)
    have hone : (s.counted queue).messagesReceived = s.messagesReceived + 1 := rfl
    refine iff_of_true (Faithful.of_served ?_ ?_ ?_) trivial
    · dsimp only
      omega
    · dsimp only
      rw [hr.log]
      exact hf.set hserved
    · dsimp only
      omega
  | subscribed connected channel hnone =>
    refine iff_of_true (Faithful.of_served hcounted (fun j u hu => ?_) ?_) trivial
    · dsimp only [Trace.log] at hu ⊢
      by_cases hlt : j < t.mux.created.length
      · rw [List.getElem?_append_left hlt] at hu
        exact hf.served j u hu
      · rw [List.getElem?_append_right (by omega)] at hu
        rw [h.fresh j (by omega)]
        obtain rfl := List.mem_singleton.mp (List.mem_of_getElem? hu)
        exact served_new _ channel
    · simp only [List.map_append, List.sum_append]
      exact hsummed
  | kept input hquiet =>
    obtain ⟨hlog, hnull, hnone⟩ := log_quiet (t := t) hquiet
    refine iff_of_true ?_ hnull
    rw [hlog]
    cases input with
    | consume message => exact absurd rfl (hnone message)
    | _ => exact hf
  | closed input hquiet i s hi hsub =>
    obtain ⟨hlog, hnull, hnone⟩ := log_quiet (t := t) hquiet
    have hiff := hf.set_iff (s.signalled t.mux.config.maxsize) hi rfl
      (Function.update t.mux.subscriptions s.channel none) (t.histories i)
    rw [Function.update_eq_self] at hiff
    have hclosed := hiff.mpr (hf.served i s hi).signalled
    refine iff_of_true ?_ hnull
    rw [hlog]
    cases input with
    | consume message => exact absurd rfl (hnone message)
    | _ => exact hclosed
  | gaveUp i task s hi =>
    have hiff := hf.set_iff { s with queue := s.queue.giveUp task } hi rfl
      t.mux.subscriptions (t.histories i)
    rw [Function.update_eq_self] at hiff
    exact iff_of_true
      (hiff.mpr ((hf.served i s hi).of_same (AsyncQueue.items_giveUp _ _) id)) trivial
  | refused i task s hi hactive =>
    dsimp only
    rw [log_refused hi hactive]
    refine iff_of_true hf (fun u hu hactive' => ?_)
    rw [hi] at hu
    cases hu
    rw [hactive] at hactive'
    cases hactive'
  | received i task s hi hactive =>
    have hpops := AsyncQueue.get_pops s.queue task
    rw [log_received hi hactive, hf.set_iff _ hi (took_bounded hpops).2.2.2,
      (hf.served i s hi).answered_iff hpops]
    exact ⟨fun hn u _ _ => hn, fun hc => hc s hi hactive⟩
  | resumed i task s hi =>
    have hpops := AsyncQueue.resume_pops s.queue task
    rw [log_resumed hi, hf.set_iff _ hi (took_bounded hpops).2.2.2,
      (hf.served i s hi).answered_iff hpops]
    exact Iff.rfl

end Steps

/-- An extractor that gives a key or `None`. -/
def totalConfig (extract : Option M → Option K) (queueSize : Int) : MultiplexConfig M K :=
  { channelExtractor := fun message =>
      match extract message with
      | none => .absent
      | some k => .channel k
    queueSize }

theorem totalConfig_keyed (extract : Option M → Option K) (queueSize : Int) (message : Option M) :
    (totalConfig extract queueSize).Keyed message := by
  unfold MultiplexConfig.Keyed totalConfig
  dsimp only
  cases extract message with
  | none => exact .inl rfl
  | some k => exact .inr ⟨k, rfl⟩

/-- **Routing is faithful** throughout a run exactly when no call of `recv` takes a `null`. -/
theorem faithful_iff [DecidableEq K] (extract : Option M → Option K) (queueSize : Int)
    (run : List (Multiplex.Input M K)) :
    Always Trace.step Faithful (Trace.new (totalConfig extract queueSize)) run ↔
      Meets Trace.step NoNull (Trace.new (totalConfig extract queueSize)) run :=
  always_iff_meets_of_inv ready_step faithful_step_iff run
    ⟨wired_new _, rfl, totalConfig_keyed extract queueSize, fun _ _ => rfl⟩
    ⟨rfl, fun _ _ h => (by cases h), fun _ _ h => (by cases h), rfl⟩

/-- An extractor with one channel for every message, and a server that sends `null`. -/
theorem null_unfaithful :
    ¬ Always Trace.step Faithful (Trace.new (totalConfig (fun _ : Option Nat => some ()) 1000))
      [.subscribe true (), .consume none, .recv 0 0] := by
  intro h
  have hlast := h.last rfl
  have hmissing := (hlast.served 0 _ rfl).missing (none, .mistaken) List.mem_cons_self
  cases (hmissing Fate.noConfusion).1

end JetSocket.Routing
