import JetSocket.Manager.Run
import JetSocket.Lib.AsyncQueue

/- `recv` and `__anext__`, which take messages from the queue that the message loop fills.

   `__anext__` stops when `_running` is cleared and the queue is empty. `_running` is cleared by
   `close` only, not by the other ways into CLOSED and FAILED, and nothing wakes the calls that
   wait on the queue.

   `ConsumerAction` adds to the steps of a client the calls of `recv` and `__anext__`, their
   wakeups, and their cancellation. The queue holds a unit for a message.

   Results:
     `consumers_end`     — in a run in which terminal states are set behind `close` while each
                           waiting call has a message in the queue, no call waits on a dead client.
     `consumer_stranded` — without reconnection, a server that closes leaves `__anext__` waiting. -/
namespace JetSocket.Manager
open JetSocket.Transport TaskPool Transition

/-- How a call of `recv` or `__anext__` goes: it takes a message, waits, or raises
`InvalidStateError` or `StopAsyncIteration`. -/
inductive Answer where
  | message
  | waits
  | invalidState
  | stopIteration
  deriving DecidableEq, Repr

structure Consumed where
  client : Client
  queue : AsyncQueue Unit

inductive ConsumerAction where
  | base (a : Action)
  | recv (task : Nat)
  | next (task : Nat)
  | resume (task : Nat)
  | cancel (task : Nat)
  deriving DecidableEq

/-- The step takes the message loop past the handlers of `message`, where it puts the message into
the queue. -/
def Client.puts (c : Client) : Action → Bool
  | .resume k =>
    match c.tasks[k]? with
    | some { point := .handling _ .message, cancelled := false, .. } => true
    | _ => false
  | _ => false

namespace Consumed

def init (settings : Settings) (backoff : BackoffConfig) : Consumed :=
  { client := Client.init settings backoff, queue := AsyncQueue.empty }

/-- `await self._message_queue.get()`. -/
def get (s : Consumed) (task : Nat) : Consumed × Answer :=
  match s.queue.get task with
  | (queue, some _) => ({ s with queue }, .message)
  | (queue, none) => ({ s with queue }, .waits)

/-- `recv`. -/
def recv (s : Consumed) (task : Nat) : Consumed × Answer :=
  if !s.client.shared.state.isUnderWay then
    if !s.queue.items.isEmpty then s.get task else (s, .invalidState)
  else s.get task

/-- `__anext__`. -/
def next (s : Consumed) (task : Nat) : Consumed × Answer :=
  if !s.client.shared.running && s.queue.items.isEmpty then (s, .stopIteration) else s.get task

def step (s : Consumed) : ConsumerAction → Option Consumed
  | .base a => (s.client.step a).map (fun client =>
      { client, queue := if s.client.puts a then s.queue.put () else s.queue })
  | .recv task => if s.queue.Waits task then none else some (s.recv task).1
  | .next task => if s.queue.Waits task then none else some (s.next task).1
  | .resume task =>
    if task ∈ s.queue.woken then some { s with queue := (s.queue.resume task).1 } else none
  | .cancel task =>
    if s.queue.Waits task then some { s with queue := s.queue.giveUp task } else none

end Consumed

/-- No call waits on a dead client: where the state is terminal and the queue empty, `__anext__`
stops, and no earlier call waits. -/
def NoneStranded (s : Consumed) : Prop :=
  s.client.shared.state.isTerminal = true → s.queue.items = [] →
    ∀ task, (s.next task).2 = .stopIteration ∧ ¬ s.queue.Waits task

/-- The steps that strand no call: a terminal state is set when `_running` is cleared and each
call that waits has a message in the queue; and in a terminal state a call takes a message only if
there is one more than calls that wait. -/
def Spares (s : Consumed) : ConsumerAction → Prop
  | .base a =>
    ∀ state ∈ s.client.sets a, state.isTerminal = true →
      (s.client.entry a).running = false ∧ s.queue.Covered
  | .recv _ | .next _ =>
    s.client.shared.state.isTerminal = true →
      s.queue.items = [] ∨ s.queue.waiting < s.queue.items.length
  | _ => True

instance decidableSpares (s : Consumed) : ∀ a : ConsumerAction, Decidable (Spares s a)
  | .base _ => inferInstanceAs (Decidable (∀ _ ∈ _, _))
  | .recv _ | .next _ => inferInstanceAs (Decidable (_ → _))
  | .resume _ | .cancel _ => inferInstanceAs (Decidable True)

/-- On a dead client `_running` is cleared, and each call that waits has a message. -/
structure Winding (s : Consumed) : Prop where
  running : s.client.shared.state.isTerminal = true → s.client.shared.running = false
  covered : s.client.shared.state.isTerminal = true → s.queue.Covered

section Steps
variable {s : Consumed} {c' : Client} {a : Action} {task : Nat}

theorem Winding.noneStranded (h : Winding s) : NoneStranded s := by
  intro ht he task
  constructor
  · unfold Consumed.next
    rw [h.running ht, he]
    rfl
  · exact (h.covered ht).none he task

/-- `connect` is refused in a terminal state, and `close` clears the flag. -/
theorem running_entry (ht : s.client.shared.state.isTerminal = true)
    (hr : s.client.shared.running = false) : (s.client.entry a).running = false := by
  cases a with
  | connect =>
    unfold Client.entry
    dsimp only
    split
    · rename_i hs
      rcases hs with hs | hs <;> rw [hs] at ht <;> cases ht
    · exact hr
  | close args => rfl
  | _ => exact hr

theorem Winding.base (h : Winding s) (hc : Spares s (.base a)) (hs : s.client.step a = some c') :
    Winding { client := c', queue := if s.client.puts a then s.queue.put () else s.queue } := by
  obtain ⟨k, p, q, hd⟩ := step_told hs
  have hboth : c'.shared.state.isTerminal = true →
      (s.client.entry a).running = false ∧ s.queue.Covered := by
    intro ht
    rw [state_of_told hd] at ht
    cases hset : s.client.sets a with
    | none =>
      rw [hset] at ht
      exact ⟨running_entry ht (h.running ht), h.covered ht⟩
    | some state =>
      rw [hset] at ht
      exact hc state hset ht
  refine ⟨fun ht => hd.tells.running.trans (hboth ht).1, fun ht => ?_⟩
  dsimp only
  split
  · exact (hboth ht).2.put ()
  · exact (hboth ht).2

theorem queue_get : (s.get task).1 = { s with queue := (s.queue.get task).1 } := by
  unfold Consumed.get
  split <;> rename_i h <;> rw [h]

/-- A call leaves the messages of those that wait. -/
theorem Winding.get (h : Winding s) (hc : s.client.shared.state.isTerminal = true →
    s.queue.waiting < s.queue.items.length) : Winding (s.get task).1 := by
  rw [queue_get]
  exact ⟨h.running, fun ht => AsyncQueue.Covered.get (hc ht) task⟩

theorem Winding.recv (h : Winding s) (hc : Spares s (.recv task)) : Winding (s.recv task).1 := by
  unfold Consumed.recv
  split
  · rename_i hway
    split
    · rename_i hitems
      refine h.get (fun ht => (hc ht).resolve_left (fun hnil => ?_))
      simp [hnil] at hitems
    · exact h
  · rename_i hway
    -- The state is not terminal.
    refine h.get (fun ht => ?_)
    exfalso
    generalize s.client.shared.state = state at ht hway
    cases state with
    | failed | closed => exact hway rfl
    | _ => cases ht

theorem Winding.next (h : Winding s) (hc : Spares s (.next task)) : Winding (s.next task).1 := by
  unfold Consumed.next
  split
  · exact h
  · rename_i hgo
    refine h.get (fun ht => (hc ht).resolve_left (fun hnil => ?_))
    simp [hnil, h.running ht] at hgo

/-- **One step.** -/
theorem Winding.step {a : ConsumerAction} {s' : Consumed} (h : Winding s) (hc : Spares s a)
    (hs : s.step a = some s') : Winding s' := by
  cases a with
  | base a =>
    obtain ⟨c', hc', rfl⟩ := Option.map_eq_some_iff.mp hs
    exact h.base hc hc'
  | recv task =>
    simp only [Consumed.step] at hs
    split at hs
    · cases hs
    · obtain rfl := Option.some.inj hs
      exact h.recv hc
  | next task =>
    simp only [Consumed.step] at hs
    split at hs
    · cases hs
    · obtain rfl := Option.some.inj hs
      exact h.next hc
  | resume task =>
    simp only [Consumed.step] at hs
    split at hs
    · rename_i hw
      obtain rfl := Option.some.inj hs
      exact ⟨h.running, fun ht => (h.covered ht).resume hw⟩
    · cases hs
  | cancel task =>
    simp only [Consumed.step] at hs
    split at hs
    · obtain rfl := Option.some.inj hs
      exact ⟨h.running, fun ht => (h.covered ht).giveUp task⟩
    · cases hs

end Steps

/-- **No call waits on a dead client** in every run that meets the condition. -/
theorem consumers_end (settings : Settings) (backoff : BackoffConfig) (as : List ConsumerAction)
    (h : Meets Consumed.step Spares (Consumed.init settings backoff) as) :
    Always Consumed.step NoneStranded (Consumed.init settings backoff) as := by
  have hinit : Winding (Consumed.init settings backoff) :=
    ⟨fun ht => (by cases ht), fun ht => (by cases ht)⟩
  exact (always_of_meets (fun _ _ _ hi hc hs => Winding.step hi hc hs) hinit h).mono
    (fun _ hs => hs.noneStranded)

/-! ## Two runs -/

/-- Without reconnection. -/
def onceSettings : Settings := { plainSettings with reconnect := false }

/-- `__anext__` gets a message, and the user closes. -/
def consumeRun : List ConsumerAction :=
  connectRun.map .base ++ [.next 0, .base (.frame 1 false), .base (.handle 1 (.message false)),
    .base (.resume 1), .resume 0, .base (.close ⟨normal, ""⟩), .base (.resume 2),
    .base (.resume 2), .base (.resume 2), .base (.closeDone 2), .base (.resume 1),
    .base (.resume 2), .next 0]

/-- The call behind CLOSED stops. -/
theorem consumers_end_close :
    ((exec Consumed.step (Consumed.init plainSettings plainBackoff) consumeRun).map
        (fun s => (s.client.shared.state, (s.next 0).2)) = some (.closed, .stopIteration)) ∧
      Always Consumed.step NoneStranded (Consumed.init plainSettings plainBackoff) consumeRun :=
  ⟨by decide +kernel, consumers_end plainSettings plainBackoff consumeRun (by decide +kernel)⟩

/-- The server closes. -/
def serverCloseRun : List ConsumerAction :=
  connectRun.map .base ++ [.base (.closeFrame 1 1000), .base (.resume 1), .base (.resume 1)]

/-- Behind CLOSED, `__anext__` waits. -/
theorem consumer_stranded :
    ¬ Always Consumed.step NoneStranded (Consumed.init onceSettings plainBackoff)
      serverCloseRun := by
  intro h
  obtain ⟨s, he, hclosed, hempty, hwaits⟩ : ∃ s,
      exec Consumed.step (Consumed.init onceSettings plainBackoff) serverCloseRun = some s ∧
        s.client.shared.state.isTerminal = true ∧ s.queue.items = [] ∧ (s.next 0).2 = .waits :=
    ⟨_, rfl, rfl, rfl, rfl⟩
  have hstop := (h.last he hclosed hempty 0).1
  rw [hwaits] at hstop
  cases hstop

end JetSocket.Manager
