import JetSocket.Lib.Transition

/- `recv` of the synchronous client in many threads, and the end of the connection.

   `recv` looks whether the client is closed and the queue empty, and then takes from the queue.
   `close` sets the flag, puts one `_SHUTDOWN` into the queue and goes on to stop the background
   thread. A second `close` returns at once. A background WebSocket that ends by itself puts
   nothing and sets no flag.

   A step is an operation on the queue, or on the flag under the lock. The flag is never cleared,
   so that a `recv` that finds it set looks at the queue later.

   Correspondence (Python ↔ Lean):
     the test at the top of `recv`         ↔ `Input.recv`
     `self._message_queue.get(...)`        ↔ `Input.get`, `Input.timeout` where it raises `Empty`
     the block of `close` under the lock   ↔ `Input.close`
     `self._message_queue.put(_SHUTDOWN)`  ↔ `Input.signal`
     the rest of `close`                   ↔ `Input.finish`
     `_on_message`                         ↔ `Input.onMessage`

   What is proved:
     `served_step`    — a step keeps an item for each call that has passed its test.
     `nobody_blocked` — nobody is left blocked in each run in which the WebSocket ends behind a
                        `_SHUTDOWN` that is enough for the calls that have passed their test. -/
namespace JetSocket.SyncClient
open Transition

variable {M : Type}

/-- Where the first call of `close` is. -/
inductive ClosePhase where
  | idle
  | flagged
  | signalled
  | finished
  deriving DecidableEq, Repr

/-- The `_SHUTDOWN` is in the queue, or was. -/
def ClosePhase.told : ClosePhase → Bool
  | .signalled | .finished => true
  | .idle | .flagged => false

/-- The queue, with `none` for `_SHUTDOWN`, the threads that are past their test and have not
taken anything yet, and whether some `close` has returned and the WebSocket is terminal. -/
structure Receiving (M : Type) where
  queue : List (Option M)
  waiting : List Nat
  phase : ClosePhase
  returned : Bool
  terminal : Bool

namespace Receiving

def new : Receiving M :=
  { queue := [], waiting := [], phase := .idle, returned := false, terminal := false }

/-- `_closed`. -/
def closed (s : Receiving M) : Bool := s.phase != .idle

inductive Input (M : Type) where
  | onMessage (message : M)
  | recv (thread : Nat)
  | get (thread : Nat)
  | timeout (thread : Nat)
  | close
  | signal
  | finish
  | terminate
  deriving DecidableEq

/-- A `get` on an empty queue blocks: it is no step. -/
def step (s : Receiving M) : Input M → Option (Receiving M)
  | .onMessage message => some { s with queue := s.queue ++ [some message] }
  | .recv thread =>
    if thread ∈ s.waiting then none
    else if s.closed && s.queue.isEmpty then some s
    else some { s with waiting := s.waiting ++ [thread] }
  | .get thread =>
    if thread ∈ s.waiting then
      match s.queue with
      | [] => none
      | _ :: rest => some { s with queue := rest, waiting := s.waiting.erase thread }
    else none
  | .timeout thread =>
    if thread ∈ s.waiting then some { s with waiting := s.waiting.erase thread } else none
  | .close =>
    if s.closed then some { s with returned := true } else some { s with phase := .flagged }
  | .signal =>
    if s.phase = .flagged then some { s with queue := s.queue ++ [none], phase := .signalled }
    else none
  | .finish =>
    if s.phase = .signalled then some { s with phase := .finished, returned := true } else none
  | .terminate => some { s with terminal := true }

end Receiving

/-- **Nobody is left blocked** once some `close` has returned or the WebSocket is terminal, and the
messages are consumed: no call waits on the empty queue, and a new one would raise, at its test or
for a `_SHUTDOWN` that is left. -/
def NobodyBlocked (s : Receiving M) : Prop :=
  s.returned = true ∨ s.terminal = true → (∀ item ∈ s.queue, item = none) →
    (s.queue = [] → s.waiting = []) ∧ s.closed = true

/-- Where the one `_SHUTDOWN` is enough: it is put when no more calls are past their test than
there will be items; behind it, a call passes its test only if there is one more item than such
calls; the WebSocket gets terminal behind it, and no other `close` returns between the flag and
it. -/
def Serves (s : Receiving M) : Receiving.Input M → Prop
  | .recv _ => s.phase.told = true → s.queue = [] ∨ s.waiting.length < s.queue.length
  | .close => s.phase ≠ .flagged
  | .signal => s.waiting.length ≤ s.queue.length + 1
  | .terminate => s.phase.told = true
  | _ => True

/-- Behind the `_SHUTDOWN` there is an item for each call that has passed its test. Before it
nothing has ended. -/
structure Served (s : Receiving M) : Prop where
  items : s.phase.told = true → s.waiting.length ≤ s.queue.length
  early : s.phase.told = false → s.returned = false ∧ s.terminal = false

theorem closed_of_told {s : Receiving M} (h : s.phase.told = true) : s.closed = true := by
  unfold Receiving.closed
  cases hphase : s.phase with
  | idle =>
    rw [hphase] at h
    cases h
  | flagged | signalled | finished => rfl

/-- With the flag set and no `_SHUTDOWN` put, the first `close` is between the two. -/
theorem flagged_of_closed {s : Receiving M} (hclosed : s.closed = true)
    (h : s.phase.told = false) : s.phase = .flagged := by
  unfold Receiving.closed at hclosed
  cases hphase : s.phase with
  | idle =>
    rw [hphase] at hclosed
    cases hclosed
  | flagged => rfl
  | signalled | finished =>
    rw [hphase] at h
    cases h

theorem served_new : Served (Receiving.new : Receiving M) :=
  ⟨fun h => (by cases h), fun _ => ⟨rfl, rfl⟩⟩

theorem Served.nobodyBlocked {s : Receiving M} (h : Served s) : NobodyBlocked s := by
  intro hended _
  have htold : s.phase.told = true := by
    cases htold : s.phase.told with
    | true => rfl
    | false =>
      obtain ⟨hreturned, hterminal⟩ := h.early htold
      rw [hreturned, hterminal] at hended
      rcases hended with hended | hended <;> cases hended
  refine ⟨fun hempty => ?_, closed_of_told htold⟩
  have hitems := h.items htold
  rw [hempty] at hitems
  exact List.length_eq_zero_iff.mp (Nat.le_zero.mp hitems)

/-- **One step** keeps an item for each call that has passed its test. -/
theorem served_step (s : Receiving M) (input : Receiving.Input M) (s' : Receiving M)
    (h : Served s) (hc : Serves s input) (hs : s.step input = some s') : Served s' := by
  cases input with
  | onMessage message =>
    cases hs
    refine ⟨fun htold => ?_, h.early⟩
    have hitems := h.items htold
    simp only [List.length_append, List.length_singleton]
    omega
  | recv thread =>
    simp only [Receiving.step] at hs
    split at hs
    · cases hs
    · split at hs
      · cases hs
        exact h
      · rename_i hopen
        cases hs
        refine ⟨fun htold => ?_, h.early⟩
        -- behind the `_SHUTDOWN` the flag is set, so the call has seen an item
        have hsome : s.queue ≠ [] := by
          intro hempty
          refine hopen ?_
          have hclosed : s.closed = true := closed_of_told htold
          rw [hclosed, hempty]
          rfl
        have hroom := (hc htold).resolve_left hsome
        simp only [List.length_append, List.length_singleton]
        omega
  | get thread =>
    simp only [Receiving.step] at hs
    split at hs
    · rename_i hin
      split at hs
      · cases hs
      · rename_i item rest hqueue
        cases hs
        refine ⟨fun htold => ?_, h.early⟩
        have hitems := h.items htold
        have hleft := List.length_erase_add_one hin
        rw [hqueue, List.length_cons] at hitems
        dsimp only
        omega
    · cases hs
  | timeout thread =>
    simp only [Receiving.step] at hs
    split at hs
    · rename_i hin
      cases hs
      refine ⟨fun htold => ?_, h.early⟩
      have hitems := h.items htold
      have hleft := List.length_erase_add_one hin
      dsimp only
      omega
    · cases hs
  | close =>
    simp only [Receiving.step] at hs
    split at hs
    · rename_i hclosed
      cases hs
      exact ⟨h.items, fun htold => absurd (flagged_of_closed hclosed htold) hc⟩
    · rename_i hopen
      cases hs
      refine ⟨fun htold => (by cases htold), fun _ => h.early ?_⟩
      exact Bool.eq_false_iff.mpr (fun htold => hopen (closed_of_told htold))
  | signal =>
    simp only [Receiving.step] at hs
    split at hs
    · cases hs
      refine ⟨fun _ => ?_, fun htold => (by cases htold)⟩
      simp only [List.length_append, List.length_singleton]
      exact hc
    · cases hs
  | finish =>
    simp only [Receiving.step] at hs
    split at hs
    · rename_i hphase
      cases hs
      refine ⟨fun _ => h.items ?_, fun htold => (by cases htold)⟩
      rw [hphase]
      rfl
    · cases hs
  | terminate =>
    cases hs
    refine ⟨h.items, fun htold => ?_⟩
    rw [show s.phase.told = true from hc] at htold
    cases htold

/-- **No consumer is left blocked** in each run in which the WebSocket gets terminal only behind
the `_SHUTDOWN` of a `close`, and one `_SHUTDOWN` is enough for all calls that have passed their
test. -/
theorem nobody_blocked (run : List (Receiving.Input M))
    (hrun : Meets Receiving.step Serves Receiving.new run) :
    Always Receiving.step NobodyBlocked Receiving.new run := by
  have hall : Always Receiving.step Served (Receiving.new : Receiving M) run :=
    always_of_meets served_step served_new hrun
  exact hall.mono (fun _ h => h.nobodyBlocked)

/-- One thread waits when `close` is called. -/
theorem nobody_blocked_one :
    Always Receiving.step NobodyBlocked (Receiving.new : Receiving Nat)
      [.onMessage 5, .recv 1, .get 1, .recv 1, .close, .signal, .get 1, .terminate, .finish,
        .recv 2] := by
  apply nobody_blocked
  refine .cons rfl trivial (.cons rfl (fun h => (by cases h)) (.cons rfl trivial (.cons rfl
    (fun h => (by cases h)) (.cons rfl (fun h => (by cases h)) (.cons rfl ?_ (.cons rfl trivial
    (.cons rfl rfl (.cons rfl trivial (.cons rfl (fun _ => .inl rfl) trivial)))))))))
  exact Nat.le_refl 1

/-- Two threads wait when `close` is called; one of them is told. -/
theorem second_blocked :
    ¬ Always Receiving.step NobodyBlocked (Receiving.new : Receiving Nat)
      [.recv 1, .recv 2, .close, .signal, .get 1, .terminate, .finish] := by
  intro h
  have hwaiting := ((h.last rfl) (.inl rfl) (fun _ hx => absurd hx List.not_mem_nil)).1 rfl
  cases hwaiting

/-- The WebSocket ends by itself, and nobody is told. -/
example :
    ¬ Always Receiving.step NobodyBlocked (Receiving.new : Receiving Nat)
      [.recv 1, .terminate] := by
  intro h
  have hwaiting := ((h.last rfl) (.inr rfl) (fun _ hx => absurd hx List.not_mem_nil)).1 rfl
  cases hwaiting

end JetSocket.SyncClient
