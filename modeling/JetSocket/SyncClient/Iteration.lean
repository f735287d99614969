import JetSocket.SyncClient.Consumers

/- `__next__` of the synchronous client while no message arrives.

   `__next__` polls the queue for a tenth of a second. Where the poll comes back empty and the
   client is not closed, it calls itself: each silent poll leaves one more call on the stack.
   `frames` is how many nested calls of `__next__`, with their polls, the recursion limit leaves
   room for; one more raises `RecursionError`.

   One thread iterates, and others may put messages and close at any time. `silent` counts the
   polls of a call that came back empty. `available` has what was in the queue when the call
   began, or from the last empty poll on what arrived since.

   Correspondence (Python ↔ Lean):
     the call                                  ↔ `Input.next`
     `if self._closed and ...empty()`          ↔ `Input.move` from `Call.testing`
     `self._message_queue.get(timeout=0.1)`    ↔ `Input.move` from `Call.getting`, `Input.timeout`
                                                 where it raises `Empty`
     `except queue.Empty`                      ↔ `Input.move` from `Call.retrying`

   What is proved:
     `polling_step`       — the calls on the stack are the empty polls and one.
     `survives_iff_step`  — a step keeps the iteration going, exactly under `Fits`.
     `iteration_survives` — each call of `__next__` answers in exactly the runs in which fewer of
                            its polls come back empty than there is room for.
     `exec_silence`       — a silence that there is room for, of any length. -/
namespace JetSocket.SyncClient
open Transition

variable {M : Type}

/-- Where a call of `__next__` is, with the number of calls on the stack, or how it has ended. -/
inductive Call (M : Type) where
  | idle
  | testing (depth : Nat)
  | getting (depth : Nat)
  | retrying (depth : Nat)
  | returned (message : M)
  | stopIteration
  | recursionError
  deriving DecidableEq, Repr

namespace Call

def underWay : Call M → Bool
  | testing _ | getting _ | retrying _ => true
  | _ => false

/-- The calls on the stack. -/
def depth : Call M → Nat
  | testing depth | getting depth | retrying depth => depth
  | _ => 0

/-- One more call. -/
def enter (frames depth : Nat) : Call M := if depth ≤ frames then testing depth else recursionError

variable {frames depth : Nat}

theorem enter_of_le (h : depth ≤ frames) : (enter frames depth : Call M) = testing depth :=
  if_pos h

theorem enter_of_lt (h : frames < depth) : (enter frames depth : Call M) = recursionError :=
  if_neg (Nat.not_le.mpr h)

end Call

/-- In the queue, `none` is `_SHUTDOWN`. -/
structure Iterating (M : Type) where
  queue : List (Option M)
  phase : ClosePhase
  call : Call M
  silent : Nat
  available : List (Option M)

namespace Iterating

inductive Input (M : Type) where
  | onMessage (message : M)
  | close
  | signal
  | next
  | move
  | timeout
  deriving DecidableEq

/-- The inputs that are steps of the call. -/
def Input.own : Input M → Bool
  | .move | .timeout => true
  | _ => false

def new : Iterating M :=
  { queue := [], phase := .idle, call := .idle, silent := 0, available := [] }

/-- `_closed`. -/
def closed (s : Iterating M) : Bool := s.phase != .idle

def put (s : Iterating M) (item : Option M) : Iterating M :=
  { s with queue := s.queue ++ [item], available := s.available ++ [item] }

/-- The block of `close` under the lock. -/
def close (s : Iterating M) : Iterating M := if s.closed then s else { s with phase := .flagged }

/-- The next step of the call. A `get` on an empty queue waits. -/
def move (frames : Nat) (s : Iterating M) : Option (Iterating M) :=
  match s.call with
  | .testing depth =>
    if s.closed && s.queue.isEmpty then some { s with call := .stopIteration }
    else some { s with call := .getting depth }
  | .getting _ =>
    match s.queue with
    | [] => none
    | some message :: rest => some { s with queue := rest, call := .returned message }
    | none :: rest => some { s with queue := rest, call := .stopIteration }
  | .retrying depth =>
    if s.closed then some { s with call := .stopIteration }
    else some { s with call := .enter frames (depth + 1) }
  | _ => none

def step (frames : Nat) (s : Iterating M) : Input M → Option (Iterating M)
  | .onMessage message => some (s.put (some message))
  | .close => some s.close
  | .signal =>
    if s.phase = .flagged then some { s.put none with phase := .signalled } else none
  | .next =>
    if s.call.underWay then none
    else some { s with call := .enter frames 1, silent := 0, available := s.queue }
  | .move => s.move frames
  | .timeout =>
    match s.call, s.queue with
    | .getting depth, [] =>
      some { s with call := .retrying depth, silent := s.silent + 1, available := [] }
    | _, _ => none

end Iterating

/-- Left alone, the call ends so. -/
def Ends (frames : Nat) (s : Iterating M) (call : Call M) : Prop :=
  ∃ steps s', (∀ input ∈ steps, input.own = true) ∧
    exec (Iterating.step frames) s steps = some s' ∧ s'.call = call

/-- **Iteration survives**: no call raises `RecursionError`, however many polls come back empty. A
call returns the first message there is, or raises `StopIteration` when the client is closed. A
call that is under way will return the first message when one arrives, and stop if the client is
closed and none has arrived. -/
structure Survives (frames : Nat) (s : Iterating M) : Prop where
  room : s.call ≠ .recursionError
  depth : s.call.depth ≤ frames
  first : ∀ message, s.call = .returned message → s.available.head? = some (some message)
  stopped : s.call = .stopIteration → s.closed = true
  returns : s.call.underWay = true → s.closed = false → ∀ message, ∃ first,
    (s.available ++ [some message]).head? = some (some first) ∧
      Ends frames (s.put (some message)) (.returned first)
  stops : s.call.underWay = true → s.queue = [] →
    Ends frames s.close .stopIteration

/-- Where there is room: for the call, and behind an empty poll for one more. -/
def Fits (frames : Nat) (s : Iterating M) : Iterating.Input M → Prop
  | .next => 0 < frames
  | .timeout => s.closed = true ∨ s.silent + 1 < frames
  | _ => True

/-- The calls on the stack, by where the innermost is. -/
def Call.Stacked (frames silent : Nat) : Call M → Prop
  | testing depth | getting depth => depth = silent + 1 ∧ depth ≤ frames
  | retrying depth => depth = silent ∧ depth ≤ frames
  | _ => True

/-- A `_SHUTDOWN` comes behind the flag. A call that is under way can take what is in the queue,
and has one call on the stack for each empty poll, besides the first. -/
structure Polling (frames : Nat) (s : Iterating M) : Prop where
  shutdown : none ∈ s.queue → s.closed = true
  available : s.call.underWay = true → s.available = s.queue
  first : ∀ message, s.call = .returned message → s.available.head? = some (some message)
  stopped : s.call = .stopIteration → s.closed = true
  stacked : s.call.Stacked frames s.silent

section Steps
variable {frames : Nat} {s s' : Iterating M} {call : Call M}

namespace Ends

theorem now (h : s.call = call) : Ends frames s call :=
  ⟨[], s, fun _ hmem => absurd hmem List.not_mem_nil, rfl, h⟩

theorem cons {input : Iterating.Input M} (hown : input.own = true)
    (hs : s.step frames input = some s') (h : Ends frames s' call) : Ends frames s call := by
  obtain ⟨steps, t, hsteps, he, hcall⟩ := h
  refine ⟨input :: steps, t, ?_, ?_, hcall⟩
  · intro other hother
    obtain rfl | hmem := List.mem_cons.mp hother
    · exact hown
    · exact hsteps other hmem
  · exact Option.bind_eq_some_iff.mpr ⟨s', hs, he⟩

theorem move (hs : s.move frames = some s') (h : Ends frames s' call) : Ends frames s call :=
  have hown : (Iterating.Input.move : Iterating.Input M).own = true := rfl
  cons hown hs h

end Ends

theorem close_eq (s : Iterating M) :
    s.close.closed = true ∧ s.close.call = s.call ∧ s.close.queue = s.queue := by
  unfold Iterating.close
  split
  · rename_i hclosed
    exact ⟨hclosed, rfl, rfl⟩
  · exact ⟨rfl, rfl, rfl⟩

/-! ## How a call ends -/

theorem ends_getting {depth : Nat} {message : M} {rest : List (Option M)}
    (hcall : s.call = .getting depth) (hqueue : s.queue = some message :: rest) :
    Ends frames s (.returned message) := by
  have hmove : s.move frames = some { s with queue := rest, call := .returned message } := by
    unfold Iterating.move
    rw [hcall, hqueue]
  exact .move hmove (.now rfl)

theorem ends_testing {depth : Nat} {message : M} {rest : List (Option M)}
    (hcall : s.call = .testing depth) (hqueue : s.queue = some message :: rest) :
    Ends frames s (.returned message) := by
  have hmove : s.move frames = some { s with call := .getting depth } := by
    unfold Iterating.move
    rw [hcall, hqueue, List.isEmpty_cons, Bool.and_false]
    rfl
  exact .move hmove (ends_getting rfl hqueue)

theorem ends_retrying {depth : Nat} {message : M} {rest : List (Option M)}
    (hcall : s.call = .retrying depth) (hopen : s.closed = false) (hroom : depth < frames)
    (hqueue : s.queue = some message :: rest) : Ends frames s (.returned message) := by
  have hmove : s.move frames = some { s with call := .testing (depth + 1) } := by
    unfold Iterating.move
    rw [hcall, hopen]
    dsimp only
    rw [Call.enter_of_le hroom]
    rfl
  exact .move hmove (ends_testing rfl hqueue)

/-- The check behind an empty poll. -/
theorem ends_closed {depth : Nat} (hcall : s.call = .retrying depth) (hclosed : s.closed = true) :
    Ends frames s .stopIteration := by
  have hmove : s.move frames = some { s with call := .stopIteration } := by
    unfold Iterating.move
    rw [hcall, hclosed]
    rfl
  exact .move hmove (.now rfl)

/-- After a close, with nothing in the queue. -/
theorem ends_stopped (hway : s.call.underWay = true) (hclosed : s.closed = true)
    (hempty : s.queue = []) : Ends frames s .stopIteration := by
  cases hcall : s.call with
  | testing depth =>
    have hmove : s.move frames = some { s with call := .stopIteration } := by
      unfold Iterating.move
      rw [hcall, hclosed, hempty]
      rfl
    exact .move hmove (.now rfl)
  | getting depth =>
    have htimeout : s.step frames .timeout = some
        { s with call := .retrying depth, silent := s.silent + 1, available := [] } := by
      unfold Iterating.step
      rw [hcall, hempty]
    exact .cons rfl htimeout (ends_closed rfl hclosed)
  | retrying depth => exact ends_closed hcall hclosed
  | idle | returned | stopIteration | recursionError =>
    rw [hcall] at hway
    cases hway

/-- The first step of a call that has not ended yet. -/
theorem Ends.own (h : Ends frames s call) (hcall : s.call ≠ call) : ∃ input s', input.own = true ∧
    s.step frames input = some s' ∧ Ends frames s' call := by
  obtain ⟨steps, t, hsteps, he, hend⟩ := h
  cases steps with
  | nil =>
    cases he
    exact absurd hend hcall
  | cons input steps =>
    obtain ⟨s', hs, he⟩ := Option.bind_eq_some_iff.mp he
    exact ⟨input, s', hsteps input List.mem_cons_self, hs, steps, t,
      fun other hother => hsteps other (List.mem_cons_of_mem input hother), he, hend⟩

/-- Behind `RecursionError` the call does nothing. -/
theorem not_ends_of_recursionError (hcall : s.call = .recursionError) (message : M) :
    ¬ Ends frames s (.returned message) := by
  intro h
  obtain ⟨input, s', hown, hs, -⟩ := h.own (by rw [hcall]; exact nofun)
  cases input with
  | move | timeout =>
    simp only [Iterating.step, Iterating.move, hcall] at hs
    cases hs
  | onMessage | close | signal | next => cases hown

/-- A call that comes back from an empty poll with no room for one more returns nothing. -/
theorem room_of_ends {depth : Nat} {message : M} (hcall : s.call = .retrying depth)
    (hopen : s.closed = false) (h : Ends frames s (.returned message)) : depth < frames := by
  obtain ⟨input, s', hown, hs, hrest⟩ := h.own (by rw [hcall]; exact nofun)
  cases input with
  | move =>
    simp only [Iterating.step, Iterating.move, hcall, hopen] at hs
    cases hs
    refine Nat.lt_of_not_le (fun hfull => not_ends_of_recursionError ?_ message hrest)
    exact Call.enter_of_lt (Nat.lt_succ_of_le hfull)
  | timeout =>
    simp only [Iterating.step, hcall] at hs
    cases hs
  | onMessage | close | signal | next => cases hown

/-! ## What a step does -/

/-- The steps of the call, one by one. -/
inductive Iterating.Moves (frames : Nat) (s : Iterating M) : Iterating M → Prop
  | test (depth : Nat) (hcall : s.call = .testing depth) :
      Iterating.Moves frames s { s with call := .getting depth }
  | closed (hclosed : s.closed = true) : Iterating.Moves frames s { s with call := .stopIteration }
  | get (depth : Nat) (message : M) (rest : List (Option M)) (hcall : s.call = .getting depth)
      (hqueue : s.queue = some message :: rest) :
      Iterating.Moves frames s { s with queue := rest, call := .returned message }
  | shutdown (rest : List (Option M)) (hqueue : s.queue = none :: rest) :
      Iterating.Moves frames s { s with queue := rest, call := .stopIteration }
  | retry (depth : Nat) (hcall : s.call = .retrying depth) (hopen : s.closed = false) :
      Iterating.Moves frames s { s with call := .enter frames (depth + 1) }

theorem moves_of_move (h : s.move frames = some s') : Iterating.Moves frames s s' := by
  unfold Iterating.move at h
  split at h
  · rename_i depth hcall
    split at h
    · rename_i hstop
      cases h
      exact .closed (Bool.and_eq_true_iff.mp hstop).1
    · cases h
      exact .test depth hcall
  · rename_i depth hcall
    split at h
    · cases h
    · rename_i message rest hqueue
      cases h
      exact .get depth message rest hcall hqueue
    · rename_i rest hqueue
      cases h
      exact .shutdown rest hqueue
  · rename_i depth hcall
    split at h
    · rename_i hclosed
      cases h
      exact .closed hclosed
    · rename_i hopen
      cases h
      exact .retry depth hcall (Bool.not_eq_true _ ▸ hopen)
  · cases h

theorem timeout_eq (h : s.step frames .timeout = some s') :
    ∃ depth, s.call = .getting depth ∧ s.queue = [] ∧
      s' = { s with call := .retrying depth, silent := s.silent + 1, available := [] } := by
  unfold Iterating.step at h
  dsimp only at h
  split at h
  · rename_i depth hcall hqueue
    exact ⟨depth, hcall, hqueue, (Option.some.inj h).symm⟩
  · cases h

theorem polling_new : Polling frames (Iterating.new : Iterating M) :=
  ⟨fun h => (by cases h), fun h => (by cases h), fun _ h => (by cases h), fun h => (by cases h),
    trivial⟩

theorem Polling.put (h : Polling frames s) {item : Option M}
    (hitem : item = none → s.closed = true) : Polling frames (s.put item) := by
  refine ⟨fun hmem => ?_, fun hway => ?_, fun message hcall => ?_, h.stopped, h.stacked⟩
  · obtain hold | hnew := List.mem_append.mp hmem
    · exact h.shutdown hold
    · exact hitem (List.mem_singleton.mp hnew).symm
  · exact congrArg (· ++ [item]) (h.available hway)
  · have hfirst := h.first message hcall
    show (s.available ++ [item]).head? = _
    rw [List.head?_append, hfirst]
    rfl

/-- `close` goes on. -/
theorem Polling.phase (h : Polling frames s) {phase : ClosePhase}
    (hphase : (phase != .idle) = true) : Polling frames { s with phase } :=
  ⟨fun _ => hphase, h.available, h.first, fun _ => hphase, h.stacked⟩

/-- One more call, and what it can take is what is in the queue. -/
theorem Polling.enter (h : Polling frames s) {silent : Nat} {available : List (Option M)}
    (havailable : available = s.queue) :
    Polling frames { s with call := .enter frames (silent + 1), silent, available } := by
  by_cases hroom : silent + 1 ≤ frames
  · rw [Call.enter_of_le hroom]
    exact ⟨h.shutdown, fun _ => havailable, fun _ hreturned => (by cases hreturned),
      fun hstop => (by cases hstop), rfl, hroom⟩
  · rw [Call.enter_of_lt (Nat.lt_of_not_le hroom)]
    exact ⟨h.shutdown, fun hway => (by cases hway), fun _ hreturned => (by cases hreturned),
      fun hstop => (by cases hstop), trivial⟩

/-- The call stops, with the flag set. -/
theorem polling_stop (hclosed : s.closed = true) (queue : List (Option M)) :
    Polling frames { s with queue, call := .stopIteration } :=
  ⟨fun _ => hclosed, fun hway => (by cases hway), fun _ hcall => (by cases hcall),
    fun _ => hclosed, trivial⟩

theorem Polling.move (h : Polling frames s) (hs : Iterating.Moves frames s s') :
    Polling frames s' := by
  cases hs with
  | test depth hcall =>
    have hstacked := h.stacked
    rw [hcall] at hstacked
    refine ⟨h.shutdown, fun _ => h.available ?_, fun _ hreturned => (by cases hreturned),
      fun hstop => (by cases hstop), hstacked⟩
    rw [hcall]
    rfl
  | closed hclosed => exact polling_stop hclosed s.queue
  | get depth message rest hcall hqueue =>
    refine ⟨fun hmem => h.shutdown ?_, fun hway => (by cases hway), fun other hreturned => ?_,
      fun hstop => (by cases hstop), trivial⟩
    · rw [hqueue]
      exact List.mem_cons_of_mem _ hmem
    · cases hreturned
      have havailable := h.available (by rw [hcall]; rfl)
      dsimp only
      rw [havailable, hqueue]
      rfl
  | shutdown rest hqueue =>
    refine polling_stop (h.shutdown ?_) rest
    rw [hqueue]
    exact List.mem_cons_self
  | retry depth hcall hopen =>
    have hstacked := h.stacked
    rw [hcall] at hstacked
    obtain ⟨rfl, -⟩ := hstacked
    exact h.enter (h.available (by rw [hcall]; rfl))

/-- **One step** leaves a call for each empty poll, and one. -/
theorem polling_step (s : Iterating M) (input : Iterating.Input M) (s' : Iterating M)
    (h : Polling frames s) (hs : s.step frames input = some s') : Polling frames s' := by
  cases input with
  | onMessage message =>
    cases hs
    exact h.put (fun hnone => by cases hnone)
  | close =>
    cases hs
    unfold Iterating.close
    split
    · exact h
    · exact h.phase rfl
  | signal =>
    simp only [Iterating.step] at hs
    split at hs
    · rename_i hphase
      cases hs
      have hclosed : s.closed = true := by
        unfold Iterating.closed
        rw [hphase]
        rfl
      exact (h.put (fun _ => hclosed)).phase rfl
    · cases hs
  | next =>
    simp only [Iterating.step] at hs
    split at hs
    · cases hs
    · cases hs
      exact h.enter rfl
  | move => exact h.move (moves_of_move hs)
  | timeout =>
    obtain ⟨depth, hcall, hqueue, rfl⟩ := timeout_eq hs
    have hstacked := h.stacked
    rw [hcall] at hstacked
    exact ⟨h.shutdown, fun _ => hqueue.symm, fun _ hreturned => (by cases hreturned),
      fun hstop => (by cases hstop), hstacked⟩

/-! ## Which states survive -/

theorem Call.Stacked.depth_le {silent : Nat} (h : call.Stacked frames silent) :
    call.depth ≤ frames := by
  cases call with
  | testing | getting | retrying => exact h.2
  | _ => exact Nat.zero_le frames

/-- Before the flag, what comes first is a message. -/
theorem Polling.first_message (h : Polling frames s) (hopen : s.closed = false) (message : M) :
    ∃ first rest, s.queue ++ [some message] = some first :: rest := by
  cases hqueue : s.queue with
  | nil => exact ⟨message, [], rfl⟩
  | cons item rest =>
    cases item with
    | some first => exact ⟨first, rest ++ [some message], rfl⟩
    | none =>
      have hclosed := h.shutdown (by rw [hqueue]; exact List.mem_cons_self)
      rw [hopen] at hclosed
      cases hclosed

/-- Room is needed in one place only: behind an empty poll. -/
theorem Polling.survives (h : Polling frames s) (hroom : s.call ≠ .recursionError)
    (hretry : ∀ depth, s.call = .retrying depth → s.closed = true ∨ depth < frames) :
    Survives frames s := by
  refine ⟨hroom, h.stacked.depth_le, h.first, h.stopped, fun hway hopen message => ?_,
    fun hway hempty => ?_⟩
  · obtain ⟨first, rest, hqueue⟩ := h.first_message hopen message
    refine ⟨first, ?_, ?_⟩
    · rw [h.available hway, hqueue]
      rfl
    · cases hcall : s.call with
      | testing depth => exact ends_testing hcall hqueue
      | getting depth => exact ends_getting hcall hqueue
      | retrying depth =>
        have hlt : depth < frames := by
          obtain hclosed | hlt := hretry depth hcall
          · rw [hopen] at hclosed
            cases hclosed
          · exact hlt
        exact ends_retrying hcall hopen hlt hqueue
      | idle | returned | stopIteration | recursionError =>
        rw [hcall] at hway
        cases hway
  · obtain ⟨hclosed, hcall, hqueue⟩ := close_eq s
    refine ends_stopped ?_ hclosed (hqueue.trans hempty)
    rw [hcall]
    exact hway

/-- A call that has just begun. -/
theorem Polling.survives_enter (h : Polling frames s) {depth : Nat}
    (hcall : s.call = .enter frames depth) : Survives frames s ↔ depth ≤ frames := by
  constructor
  · intro hsurvives
    refine Nat.le_of_not_lt (fun hfull => hsurvives.room ?_)
    exact hcall.trans (Call.enter_of_lt hfull)
  · intro hroom
    rw [Call.enter_of_le hroom] at hcall
    refine h.survives ?_ (fun other hretry => ?_)
    · rw [hcall]
      exact nofun
    · rw [hcall] at hretry
      cases hretry

/-- A call that has no room for one more gives up the message that arrives. -/
theorem Survives.retry [Inhabited M] (h : Survives frames s) {depth : Nat}
    (hcall : s.call = .retrying depth) : s.closed = true ∨ depth < frames := by
  cases hopen : s.closed with
  | true => exact .inl rfl
  | false =>
    obtain ⟨first, -, hends⟩ := h.returns (by rw [hcall]; rfl) hopen default
    have hput : (s.put (some default)).call = .retrying depth := hcall
    exact .inr (room_of_ends hput hopen hends)

theorem survives_new : Survives frames (Iterating.new : Iterating M) :=
  polling_new.survives nofun nofun

/-- **One step**, exactly. -/
theorem survives_iff_step [Inhabited M] (s : Iterating M) (input : Iterating.Input M)
    (s' : Iterating M) (h : Polling frames s) (hsurvives : Survives frames s)
    (hs : s.step frames input = some s') : Survives frames s' ↔ Fits frames s input := by
  have h' : Polling frames s' := polling_step s input s' h hs
  cases input with
  | onMessage message =>
    cases hs
    exact iff_of_true (h'.survives hsurvives.room (fun _ hcall => hsurvives.retry hcall)) trivial
  | close =>
    cases hs
    obtain ⟨hclosed, hcall, -⟩ := close_eq s
    refine iff_of_true (h'.survives ?_ (fun _ _ => .inl hclosed)) trivial
    rw [hcall]
    exact hsurvives.room
  | signal =>
    simp only [Iterating.step] at hs
    split at hs
    · cases hs
      exact iff_of_true (h'.survives hsurvives.room (fun _ _ => .inl rfl)) trivial
    · cases hs
  | next =>
    simp only [Iterating.step] at hs
    split at hs
    · cases hs
    · cases hs
      exact h'.survives_enter rfl
  | move =>
    refine iff_of_true ?_ trivial
    cases moves_of_move hs with
    | test | closed | get | shutdown => exact h'.survives nofun nofun
    | retry depth hcall hopen =>
      have hroom : depth < frames := by
        obtain hclosed | hroom := hsurvives.retry hcall
        · rw [hopen] at hclosed
          cases hclosed
        · exact hroom
      exact (h'.survives_enter rfl).mpr hroom
  | timeout =>
    obtain ⟨depth, hcall, -, rfl⟩ := timeout_eq hs
    have hstacked := h.stacked
    rw [hcall] at hstacked
    obtain ⟨rfl, -⟩ := hstacked
    constructor
    · exact fun hnext => hnext.retry rfl
    · intro hroom
      refine h'.survives nofun (fun depth hretry => ?_)
      cases hretry
      exact hroom

end Steps

/-- **Iteration survives silence** in exactly the runs in which fewer polls of a call come back
empty, the client not being closed, than there is room for nested calls. -/
theorem iteration_survives [Inhabited M] (frames : Nat) (run : List (Iterating.Input M)) :
    Always (Iterating.step frames) (Survives frames) Iterating.new run ↔
      Meets (Iterating.step frames) (Fits frames) Iterating.new run :=
  always_iff_meets_of_inv polling_step survives_iff_step run polling_new survives_new

/-! ## A long silence -/

/-- The polls of a silence, one after the other. -/
def silence : Nat → List (Iterating.Input M)
  | 0 => []
  | k + 1 => silence k ++ [.move, .timeout, .move]

/-- One empty poll. -/
theorem exec_poll (frames k : Nat) :
    exec (Iterating.step frames)
        { (Iterating.new : Iterating M) with call := .testing (k + 1), silent := k }
        [.move, .timeout, .move] =
      some { Iterating.new with call := .enter frames (k + 2), silent := k + 1 } := rfl

/-- **A silence of `k` polls** leaves `k + 1` calls on the stack. -/
theorem exec_silence {frames k : Nat} (h : k < frames) :
    exec (Iterating.step frames) Iterating.new (.next :: silence k) =
      some { (Iterating.new : Iterating M) with call := .testing (k + 1), silent := k } := by
  induction k with
  | zero =>
    have henter : (Call.enter frames 1 : Call M) = .testing 1 := Call.enter_of_le h
    rw [← henter]
    rfl
  | succ k ih =>
    have henter : (Call.enter frames (k + 2) : Call M) = .testing (k + 2) := Call.enter_of_le h
    rw [silence, ← List.cons_append, exec_append, ih (Nat.lt_of_succ_lt h), Option.bind_some,
      exec_poll, henter]

/-- **A silence with no room left** raises `RecursionError`. -/
theorem exec_silence_full (frames : Nat) :
    exec (Iterating.step frames) Iterating.new (.next :: silence frames) =
      some { (Iterating.new : Iterating M) with call := .recursionError, silent := frames } := by
  cases frames with
  | zero => rfl
  | succ k =>
    have henter : (Call.enter (k + 1) (k + 2) : Call M) = .recursionError :=
      Call.enter_of_lt (Nat.lt_succ_self _)
    rw [silence, ← List.cons_append, exec_append, exec_silence (Nat.lt_succ_self k),
      Option.bind_some, exec_poll, henter]

/-- With room for a thousand calls, a thousand silent polls are not survived. -/
theorem thousand_silent_polls :
    ¬ Always (Iterating.step 1000) (Survives 1000) (Iterating.new : Iterating Nat)
      (.next :: silence 1000) :=
  fun h => (h.last (exec_silence_full 1000)).room rfl

end JetSocket.SyncClient
