import Mathlib.Logic.Function.Basic
import JetSocket.Lib.AsyncQueue

/- The multiplexed connection (`multiplex.py`, `Multiplex` and `Subscription`): subscriptions by
   channel, and the task that routes what the WebSocket delivers to their queues.

   `created` is all subscriptions ever made, by number; `subscriptions` is the dictionary. A
   message is a JSON value, with `none` for `null`, which Python delivers as `None`; a queue holds
   messages, and `None` once more where a subscription was closed. The extractor and the hashing
   of its result are one parameter, `channelExtractor`.

   `subscribe` and `unsubscribe` send to the server behind what is modelled, which is over when
   they first suspend. A call of `recv` that times out or is cancelled gives its wait up.
   `__anext__` waits and takes as `recv` does; where that raises, or is cancelled, it ends the
   iteration.

   Correspondence (Python ↔ Lean):
     `Subscription.recv`, `__anext__`    ↔ `Subscription.recv`, `Subscription.resume`
     `Subscription.close`                ↔ `closeSubscription`
     `subscribe`, `unsubscribe`          ↔ `subscribe`, `unsubscribe`
     the loop body of `_message_router`  ↔ `route`
     its insertion into the queue        ↔ `Subscription.deliver` -/
namespace JetSocket.Routing

variable {M K : Type}

/-- What a message has for a channel: the extractor raises, gives `None`, or a value that is no
key of a dictionary, or one that is. -/
inductive Extracted (K : Type) where
  | raises
  | absent
  | unhashable
  | channel (k : K)
  deriving DecidableEq, Repr

structure MultiplexConfig (M K : Type) where
  channelExtractor : Option M → Extracted K
  queueSize : Int

/-- The bound that `subscribe` gives to a queue. -/
def MultiplexConfig.maxsize (config : MultiplexConfig M K) : Nat :=
  if 0 < config.queueSize then config.queueSize.toNat else 0

structure Subscription (M K : Type) where
  channel : K
  queue : AsyncQueue (Option M)
  active : Bool
  messagesReceived : Nat

/-- What a call of `recv` comes to. `closed` and `ended` both raise `InvalidStateError`: one
before the queue is looked at, the other for a `None` from it. -/
inductive Answer (M : Type) where
  | returned (message : M)
  | waits
  | closed
  | ended
  deriving DecidableEq, Repr

namespace Subscription

/-- `Subscription.__init__`, with a new queue. -/
def new (channel : K) : Subscription M K :=
  { channel, queue := AsyncQueue.empty, active := true, messagesReceived := 0 }

/-- `recv`, from the queue's answer on. -/
def took (s : Subscription M K) : AsyncQueue (Option M) × Option (Option M) →
    Subscription M K × Answer M
  | (queue, none) => ({ s with queue }, .waits)
  | (queue, some none) => ({ s with queue, active := false }, .ended)
  | (queue, some (some message)) => ({ s with queue }, .returned message)

/-- `recv`, to its return or its first wait. -/
def recv (s : Subscription M K) (task : Nat) : Subscription M K × Answer M :=
  if !s.active then (s, .closed) else s.took (s.queue.get task)

/-- `recv`, from a wakeup on. -/
def resume (s : Subscription M K) (task : Nat) : Subscription M K × Answer M :=
  s.took (s.queue.resume task)

/-- What closing does to a subscription: it is inactive, and whoever waits is told, if there is
room. -/
def signalled (s : Subscription M K) (maxsize : Nat) : Subscription M K :=
  { s with active := false, queue := (s.queue.putNowait maxsize none).getD s.queue }

/-- `_messages_received += 1`, with the queue. -/
def counted (s : Subscription M K) (queue : AsyncQueue (Option M)) : Subscription M K :=
  { s with queue, messagesReceived := s.messagesReceived + 1 }

/-- A message goes into the queue, for the oldest where that is full; `none` where the second
`put_nowait` raises. -/
def deliver (s : Subscription M K) (maxsize : Nat) (message : Option M) :
    Option (Subscription M K) :=
  match s.queue.putNowait maxsize message with
  | some queue => some (s.counted queue)
  | none =>
    let queue := match s.queue.getNowait with
      | some (queue, _) => queue
      | none => s.queue
    (queue.putNowait maxsize message).map s.counted

end Subscription

structure Multiplex (M K : Type) where
  config : MultiplexConfig M K
  created : List (Subscription M K)
  subscriptions : K → Option Nat
  totalMessagesRouted : Nat
  unroutableMessages : Nat
  routing : Bool

namespace Multiplex

/-- A connected `Multiplex`, with its router task. -/
def new (config : MultiplexConfig M K) : Multiplex M K :=
  { config, created := [], subscriptions := fun _ => none, totalMessagesRouted := 0,
    unroutableMessages := 0, routing := true }

/-- `unroutable_messages += 1`. -/
def unroutable (mux : Multiplex M K) : Multiplex M K :=
  { mux with unroutableMessages := mux.unroutableMessages + 1 }

/-- The router task ends with an exception. -/
def died (mux : Multiplex M K) : Multiplex M K := { mux with routing := false }

/-- `_subscriptions.get(channel)`: the subscription, with its number. -/
def lookup (mux : Multiplex M K) (channel : K) : Option (Nat × Subscription M K) :=
  (mux.subscriptions channel).bind (fun i => (mux.created[i]?).map (fun s => (i, s)))

/-- The loop body of `_message_router`. -/
def route (mux : Multiplex M K) (message : Option M) : Multiplex M K :=
  match mux.config.channelExtractor message with
  | .raises | .unhashable => mux.died
  | .absent => mux.unroutable
  | .channel k =>
    match mux.lookup k with
    | none => mux.unroutable
    | some (i, s) =>
      if !s.active then mux.unroutable
      else
        match s.deliver mux.config.maxsize message with
        | none => mux.died
        | some s =>
          { mux with
            created := mux.created.set i s
            totalMessagesRouted := mux.totalMessagesRouted + 1 }

variable [DecidableEq K]

/-- `subscribe`. -/
def subscribe (mux : Multiplex M K) (connected : Bool) (channel : K) : Multiplex M K :=
  if !connected then mux
  else
    match mux.subscriptions channel with
    | some _ => mux
    | none =>
      { mux with
        created := mux.created ++ [Subscription.new channel]
        subscriptions := Function.update mux.subscriptions channel (some mux.created.length) }

/-- `unsubscribe`. -/
def unsubscribe (mux : Multiplex M K) (channel : K) : Multiplex M K :=
  match mux.lookup channel with
  | none => mux
  | some (i, s) =>
    { mux with
      created := mux.created.set i (s.signalled mux.config.maxsize)
      subscriptions := Function.update mux.subscriptions channel none }

/-- `Subscription.close`. -/
def closeSubscription (mux : Multiplex M K) (i : Nat) (s : Subscription M K) : Multiplex M K :=
  if !s.active then mux
  else ({ mux with created := mux.created.set i { s with active := false } } :
    Multiplex M K).unsubscribe s.channel

/-- What happens next. -/
inductive Input (M K : Type) where
  | consume (message : Option M)
  | subscribe (connected : Bool) (channel : K)
  | unsubscribe (channel : K)
  | close (i : Nat)
  | recv (i task : Nat)
  | resume (i task : Nat)
  | giveUp (i task : Nat)
  deriving DecidableEq

def step (mux : Multiplex M K) : Input M K → Option (Multiplex M K)
  | .consume message => if mux.routing then some (mux.route message) else none
  | .subscribe connected channel => some (mux.subscribe connected channel)
  | .unsubscribe channel => some (mux.unsubscribe channel)
  | .close i => (mux.created[i]?).map (mux.closeSubscription i)
  | .recv i task =>
    (mux.created[i]?).bind (fun s =>
      if s.queue.Waits task then none
      else some { mux with created := mux.created.set i (s.recv task).1 })
  | .resume i task =>
    (mux.created[i]?).bind (fun s =>
      if task ∈ s.queue.woken then some { mux with created := mux.created.set i (s.resume task).1 }
      else none)
  | .giveUp i task =>
    (mux.created[i]?).bind (fun s =>
      if s.queue.Waits task then
        some { mux with created := mux.created.set i { s with queue := s.queue.giveUp task } }
      else none)

end Multiplex
end JetSocket.Routing
