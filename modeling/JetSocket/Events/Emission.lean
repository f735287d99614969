import JetSocket.SyncClient.Handlers

/- The events of `events.py`: handlers that come and go, and emissions that call them.

   `emit_async` copies the handlers under the lock and goes over the copy. A handler may do
   what it likes while it runs, and where an emission awaits a coroutine other tasks run: any
   number of emissions are under way at a time, and between two steps of one there may be
   calls of `add_handler`, `remove_handler` and `clear_handlers`, and steps of the others.

   `since`, `clock` and the last three fields of `Emission` are no part of the program. `since`
   has for each event the times at which its present handlers were registered: the call of
   `add_handler` that found the handler absent.

   Correspondence (Python ↔ Lean):
     `add_handler`, `remove_handler`, `clear_handlers` ↔ the first three of `Act`
     `emit_async`, up to the copy                      ↔ `Act.emit`
     its loop                                          ↔ `Act.goOn`, `Emission.step`
     `except Exception`                                ↔ `Move.raises`

   What is proved:
     1. `Ordered.add`, `Ordered.remove` — the handlers of an event are in the order of their
        registration, none twice.
     2. `Follows.step` — an emission calls the handlers of its copy in their order, and goes
        on behind a coroutine only when that is done.
     3. `emission_law` — both, for every run. -/
namespace JetSocket.Events
open JetSocket.SyncClient InsertionOrder Transition

variable {H : Type} [DecidableEq H]

/-! ## The order of registration -/

/-- `handlers` are the ones that have a time, in the order of their times. -/
structure Ordered (handlers : List H) (since : H → Option Nat) (clock : Nat) : Prop where
  nodup : handlers.Nodup
  mem : ∀ h, h ∈ handlers ↔ (since h).isSome = true
  sorted : handlers.Pairwise (fun x y => ∃ m n, since x = some m ∧ since y = some n ∧ m < n)
  past : ∀ h n, since h = some n → n < clock

/-- The handler was registered now, unless it was there. -/
def registered (since : H → Option Nat) (clock : Nat) (handler : H) : H → Option Nat :=
  if (since handler).isSome then since else Function.update since handler (some clock)

namespace Ordered
variable {handlers : List H} {since : H → Option Nat} {clock : Nat}

omit [DecidableEq H] in
theorem nil (clock : Nat) : Ordered ([] : List H) (fun _ => none) clock where
  nodup := List.nodup_nil
  mem h := by simp
  sorted := List.Pairwise.nil
  past h n hn := by cases hn

omit [DecidableEq H] in
/-- Time goes on. -/
theorem tick (h : Ordered handlers since clock) : Ordered handlers since (clock + 1) :=
  ⟨h.nodup, h.mem, h.sorted, fun x n hn => Nat.lt_succ_of_lt (h.past x n hn)⟩

/-- A handler is added. -/
theorem add (h : Ordered handlers since clock) (x : H) :
    Ordered (push handlers x) (registered since clock x) (clock + 1) := by
  unfold registered
  by_cases hx : x ∈ handlers
  · rw [push_of_mem hx, if_pos ((h.mem x).mp hx)]
    exact h.tick
  · have hold : ∀ y ∈ handlers, Function.update since x (some clock) y = since y := by
      intro y hy
      apply Function.update_of_ne
      rintro rfl
      exact hx hy
    have hnow : Function.update since x (some clock) x = some clock := Function.update_self ..
    rw [push_of_not_mem hx, if_neg (fun hs => hx ((h.mem x).mpr hs))]
    -- the new handler comes last, and its time is later than any other
    refine ⟨?_, fun y => ?_, ?_, fun y n hn => ?_⟩
    · rw [← push_of_not_mem hx]
      exact nodup_push h.nodup x
    · by_cases hy : y = x
      · simp [hy]
      · rw [Function.update_of_ne hy, ← h.mem y]
        simp [hy]
    · rw [List.pairwise_append]
      refine ⟨h.sorted.imp_of_mem (fun {y z} hy hz hyz => ?_), List.pairwise_singleton _ _,
        fun y hy z hz => ?_⟩
      · rw [hold y hy, hold z hz]
        exact hyz
      · obtain rfl := List.mem_singleton.mp hz
        obtain ⟨n, hn⟩ := Option.isSome_iff_exists.mp ((h.mem y).mp hy)
        exact ⟨n, clock, (hold y hy).trans hn, hnow, h.past y n hn⟩
    · by_cases hy : y = x
      · rw [hy, hnow] at hn
        obtain rfl := Option.some.inj hn
        exact Nat.lt_succ_self _
      · rw [Function.update_of_ne hy] at hn
        exact Nat.lt_succ_of_lt (h.past y n hn)

/-- A handler is taken out. -/
theorem remove (h : Ordered handlers since clock) (x : H) :
    Ordered (handlers.erase x) (Function.update since x none) (clock + 1) := by
  have hne : ∀ y ∈ handlers.erase x, y ≠ x := by
    rintro y hy rfl
    exact h.nodup.not_mem_erase hy
  refine ⟨h.nodup.erase x, fun y => ?_, ?_, fun y n hn => ?_⟩
  · by_cases hy : y = x
    · subst hy
      simp [h.nodup.not_mem_erase]
    · rw [Function.update_of_ne hy, List.mem_erase_of_ne hy]
      exact h.mem y
  · refine (h.sorted.sublist List.erase_sublist).imp_of_mem (fun {y z} hy hz hyz => ?_)
    rw [Function.update_of_ne (hne y hy), Function.update_of_ne (hne z hz)]
    exact hyz
  · by_cases hy : y = x
    · rw [hy, Function.update_self] at hn
      cases hn
    · rw [Function.update_of_ne hy] at hn
      exact Nat.lt_succ_of_lt (h.past y n hn)

end Ordered

/-! ## An emission -/

/-- Where the loop of `emit_async` is: between two handlers, in a handler, in the wait for the
coroutine that one returned, or over, by its end or by an exception that is no `Exception`. -/
inductive Place (H : Type) where
  | ready
  | calling (handler : H)
  | awaiting (handler : H)
  | returned
  | broken
  deriving DecidableEq, Repr

/-- The place behind an exception. -/
def Place.caught (exception : Bool) : Place H := if exception then .ready else .broken

/-- `rest` is what the loop has not come to. `called`, `coroutines` and `awaited` are the handlers
it has called, those that returned a coroutine, and those whose coroutine is done. -/
structure Emission (H : Type) where
  event : EventType
  rest : List H
  place : Place H
  called : List H
  coroutines : List H
  awaited : List H
  deriving DecidableEq, Repr

/-- A step of the loop: its next turn, the return of the handler with a coroutine or not, the end
of the coroutine, or an exception of either, which is an `Exception` or not. -/
inductive Move where
  | turn
  | returns (coroutine : Bool)
  | done
  | raises (exception : Bool)
  deriving DecidableEq, Repr

namespace Emission
variable {em em' : Emission H}

/-- `emit_async`, up to its loop. -/
def start (event : EventType) (handlers : List H) : Emission H :=
  { event, rest := handlers, place := .ready, called := [], coroutines := [], awaited := [] }

def step (em : Emission H) : Move → Option (Emission H)
  | .turn =>
    match em.place, em.rest with
    | .ready, [] => some { em with place := .returned }
    | .ready, h :: rest => some { em with rest, place := .calling h, called := em.called ++ [h] }
    | _, _ => none
  | .returns coroutine =>
    match em.place with
    | .calling h =>
      if coroutine then some { em with place := .awaiting h, coroutines := em.coroutines ++ [h] }
      else some { em with place := .ready }
    | _ => none
  | .done =>
    match em.place with
    | .awaiting h => some { em with place := .ready, awaited := em.awaited ++ [h] }
    | _ => none
  | .raises exception =>
    match em.place with
    | .calling _ => some { em with place := .caught exception }
    | .awaiting h => some { em with place := .caught exception, awaited := em.awaited ++ [h] }
    | _ => none

/-- The coroutine that is awaited. -/
def pending (em : Emission H) : List H :=
  match em.place with
  | .awaiting h => [h]
  | _ => []

end Emission

/-- The emission has called the first of these handlers and has the others before it. It is
behind every coroutine but the one it awaits. -/
structure Follows (handlers : List H) (em : Emission H) : Prop where
  calls : em.called ++ em.rest = handlers
  coroutines : em.awaited ++ em.pending = em.coroutines
  returned : em.place = .returned → em.rest = []

section Emission
variable {em em' : Emission H} {handlers : List H} {m : Move}

omit [DecidableEq H] in
theorem follows_start (event : EventType) (handlers : List H) :
    Follows handlers (.start event handlers) where
  calls := List.nil_append handlers
  coroutines := rfl
  returned h := by cases h

omit [DecidableEq H] in
/-- **One step** of an emission. Only an exception that is no `Exception` breaks it. -/
theorem Follows.step (h : Follows handlers em) (hs : em.step m = some em') :
    Follows handlers em' ∧ em'.event = em.event ∧ (em'.place = .broken → m = .raises false) := by
  obtain ⟨event, rest, place, called, coroutines, awaited⟩ := em
  obtain ⟨hcalls, hcoroutines, hreturned⟩ := h
  -- Only an emission that awaits is behind its coroutines.
  have hquiet : (∀ x, place ≠ .awaiting x) → awaited = coroutines := by
    intro hplace
    cases place with
    | awaiting x => exact absurd rfl (hplace x)
    | ready | calling | returned | broken => exact (List.append_nil awaited).symm.trans hcoroutines
  cases m with
  | turn =>
    cases place with
    | ready =>
      cases rest with
      | nil =>
        cases hs
        exact ⟨⟨hcalls, hcoroutines, fun _ => rfl⟩, rfl, fun h => by cases h⟩
      | cons x rest =>
        cases hs
        refine ⟨⟨?_, hcoroutines, fun h => by cases h⟩, rfl, fun h => by cases h⟩
        exact (List.append_cons called x rest).symm.trans hcalls
    | calling | awaiting | returned | broken => cases hs
  | returns coroutine =>
    cases place with
    | calling x =>
      cases coroutine with
      | true =>
        cases hs
        refine ⟨⟨hcalls, ?_, fun h => by cases h⟩, rfl, fun h => by cases h⟩
        exact congrArg (· ++ [x]) (hquiet (fun _ h => by cases h))
      | false =>
        cases hs
        exact ⟨⟨hcalls, hcoroutines, fun h => by cases h⟩, rfl, fun h => by cases h⟩
    | ready | awaiting | returned | broken => cases hs
  | done =>
    cases place with
    | awaiting x =>
      cases hs
      refine ⟨⟨hcalls, ?_, fun h => by cases h⟩, rfl, fun h => by cases h⟩
      exact (List.append_nil _).trans hcoroutines
    | ready | calling | returned | broken => cases hs
  | raises exception =>
    have hcaught : (Place.caught exception : Place H) ≠ .returned ∧
        ((Place.caught exception : Place H) = .broken →
          Move.raises exception = .raises false) ∧
        ∀ xs ys : List H, xs ++ Emission.pending (H := H) ⟨event, rest, .caught exception, called,
          coroutines, ys⟩ = xs := by
      cases exception with
      | true =>
        exact ⟨(fun h => by cases h), (fun h => by cases h), fun xs _ => List.append_nil xs⟩
      | false => exact ⟨(fun h => by cases h), fun _ => rfl, fun xs _ => List.append_nil xs⟩
    cases place with
    | calling x =>
      cases hs
      exact ⟨⟨hcalls, (hcaught.2.2 awaited _).trans (hquiet (fun _ h => by cases h)),
        fun h => absurd h hcaught.1⟩, rfl, hcaught.2.1⟩
    | awaiting x =>
      cases hs
      exact ⟨⟨hcalls, (hcaught.2.2 (awaited ++ [x]) _).trans hcoroutines,
        fun h => absurd h hcaught.1⟩, rfl, hcaught.2.1⟩
    | ready | returned | broken => cases hs

omit [DecidableEq H] in
/-- An emission that is not over can go on. -/
theorem can_go_on (hr : em.place ≠ .returned) (hb : em.place ≠ .broken) :
    ∃ m, (em.step m).isSome = true := by
  cases hp : em.place with
  | ready =>
    refine ⟨.turn, ?_⟩
    cases hrest : em.rest with
    | nil => simp [Emission.step, hp, hrest]
    | cons x rest => simp [Emission.step, hp, hrest]
  | calling x => exact ⟨.returns false, by simp [Emission.step, hp]⟩
  | awaiting x => exact ⟨.done, by simp [Emission.step, hp]⟩
  | returned => exact absurd hp hr
  | broken => exact absurd hp hb

end Emission

/-! ## Runs -/

/-- The emitter and the emissions that have been started, by number. -/
structure Emitting (H : Type) where
  emitter : EventEmitter H
  emissions : List (Emission H)
  since : EventType → H → Option Nat
  clock : Nat

inductive Act (H : Type) where
  | addHandler (event : EventType) (handler : H)
  | removeHandler (event : EventType) (handler : H)
  | clearHandlers (event : Option EventType)
  | emit (event : EventType)
  | goOn (i : Nat) (m : Move)
  deriving DecidableEq, Repr

namespace Emitting

omit [DecidableEq H] in
def new : Emitting H :=
  { emitter := .new, emissions := [], since := fun _ _ => none, clock := 0 }

/-- The handlers of an event have gone. -/
def cleared (since : EventType → H → Option Nat) (event : Option EventType) :
    EventType → H → Option Nat :=
  fun e => if event = none ∨ event = some e then fun _ => none else since e

def step (s : Emitting H) : Act H → Option (Emitting H)
  | .addHandler event handler =>
    some { s with
      emitter := s.emitter.addHandler event handler
      since := Function.update s.since event (registered (s.since event) s.clock handler)
      clock := s.clock + 1 }
  | .removeHandler event handler =>
    some { s with
      emitter := (s.emitter.removeHandler event handler).1
      since := Function.update s.since event (Function.update (s.since event) handler none)
      clock := s.clock + 1 }
  | .clearHandlers event =>
    some { s with
      emitter := s.emitter.clearHandlers event
      since := cleared s.since event
      clock := s.clock + 1 }
  | .emit event =>
    -- the handlers of now: what is registered later is not among them
    some { s with emissions := s.emissions ++ [.start event (s.emitter.handlers event)] }
  | .goOn i m =>
    match s.emissions[i]? with
    | none => none
    | some em => (em.step m).map (fun em' => { s with emissions := s.emissions.set i em' })

end Emitting

section Runs
variable {s s' : Emitting H} {a : Act H}

/-- The handlers of every event are in the order of their registration. -/
def AllOrdered (s : Emitting H) : Prop :=
  ∀ e, Ordered (s.emitter.handlers e) (s.since e) s.clock

omit [DecidableEq H] in
theorem allOrdered_new : AllOrdered (.new : Emitting H) := fun _ => .nil 0

/-- What the step of an emission is. -/
theorem step_goOn {i : Nat} {m : Move} (h : s.step (.goOn i m) = some s') : ∃ em em',
    s.emissions[i]? = some em ∧ em.step m = some em' ∧
      s' = { s with emissions := s.emissions.set i em' } := by
  simp only [Emitting.step] at h
  cases hi : s.emissions[i]? with
  | none => simp [hi] at h
  | some em =>
    simp only [hi] at h
    obtain ⟨em', hem', heq⟩ := Option.map_eq_some_iff.mp h
    exact ⟨em, em', rfl, hem', heq.symm⟩

/-- **One step** of any kind keeps the order. -/
theorem AllOrdered.step (h : AllOrdered s) (hs : s.step a = some s') : AllOrdered s' := by
  intro e
  cases a with
  | addHandler event handler =>
    cases hs
    show Ordered ((s.emitter.addHandler event handler).handlers e)
      (Function.update s.since event _ e) (s.clock + 1)
    rw [EventEmitter.handlers_addHandler]
    by_cases he : e = event
    · subst he
      rw [if_pos rfl, Function.update_self]
      exact (h e).add handler
    · rw [if_neg he, Function.update_of_ne he]
      exact (h e).tick
  | removeHandler event handler =>
    cases hs
    show Ordered ((s.emitter.removeHandler event handler).1.handlers e)
      (Function.update s.since event _ e) (s.clock + 1)
    rw [EventEmitter.handlers_removeHandler]
    by_cases he : e = event
    · subst he
      rw [if_pos rfl, Function.update_self]
      exact (h e).remove handler
    · rw [if_neg he, Function.update_of_ne he]
      exact (h e).tick
  | clearHandlers event =>
    cases hs
    show Ordered ((s.emitter.clearHandlers event).handlers e)
      (Emitting.cleared s.since event e) (s.clock + 1)
    rw [EventEmitter.handlers_clearHandlers]
    unfold Emitting.cleared
    split
    · exact .nil _
    · exact (h e).tick
  | emit event =>
    cases hs
    exact h e
  | goOn i m =>
    obtain ⟨em, em', -, -, rfl⟩ := step_goOn hs
    exact h e

/-- Emission `i` is `em`: it is for `event` and goes over `handlers`. -/
structure Sees (s : Emitting H) (i : Nat) (event : EventType) (handlers : List H)
    (em : Emission H) : Prop where
  emission : s.emissions[i]? = some em
  event : em.event = event
  follows : Follows handlers em

variable {i : Nat} {event : EventType} {handlers : List H} {em : Emission H}

/-- **One step** of any kind, seen by an emission. -/
theorem Sees.step (h : Sees s i event handlers em) (hs : s.step a = some s') :
    ∃ em', Sees s' i event handlers em' ∧
      (em'.place = .broken → em.place = .broken ∨ a = .goOn i (.raises false)) := by
  cases a with
  | addHandler | removeHandler | clearHandlers =>
    cases hs
    exact ⟨em, ⟨h.emission, h.event, h.follows⟩, .inl⟩
  | emit event =>
    -- a new emission comes behind the others
    cases hs
    have hlt := (List.getElem?_eq_some_iff.mp h.emission).1
    exact ⟨em, ⟨(List.getElem?_append_left hlt).trans h.emission, h.event, h.follows⟩, .inl⟩
  | goOn j m =>
    obtain ⟨em₀, em', hj, hem', rfl⟩ := step_goOn hs
    by_cases hij : j = i
    · subst hij
      obtain rfl : em₀ = em := Option.some.inj (hj.symm.trans h.emission)
      obtain ⟨hfollows, hevent, hbroken⟩ := h.follows.step hem'
      have hlt := (List.getElem?_eq_some_iff.mp hj).1
      refine ⟨em', ⟨List.getElem?_set_self hlt, hevent.trans h.event, hfollows⟩, fun hp => ?_⟩
      exact .inr (by rw [hbroken hp])
    · exact ⟨em, ⟨(List.getElem?_set_ne hij).trans h.emission, h.event, h.follows⟩, .inl⟩

/-- The run lemma. -/
theorem Sees.exec {run : List (Act H)} (h : Sees s i event handlers em)
    (hs : exec Emitting.step s run = some s') :
    ∃ em', Sees s' i event handlers em' ∧
      (em'.place = .broken → em.place = .broken ∨ .goOn i (.raises false) ∈ run) := by
  -- It breaks in the first step or behind it.
  induction run generalizing s em with
  | nil =>
    cases hs
    exact ⟨em, h, .inl⟩
  | cons a run ih =>
    obtain ⟨s₁, hs₁, hs⟩ := Option.bind_eq_some_iff.mp hs
    obtain ⟨em₁, h₁, hb₁⟩ := h.step hs₁
    obtain ⟨em', h', hb'⟩ := ih h₁ hs
    refine ⟨em', h', fun hp => ?_⟩
    obtain hp₁ | hmem := hb' hp
    · obtain hp₀ | rfl := hb₁ hp₁
      · exact .inl hp₀
      · exact .inr List.mem_cons_self
    · exact .inr (List.mem_cons_of_mem a hmem)

end Runs

/-- The emission calls these handlers, each once, in this order, and awaits the coroutines they
return. It is over when it has called them all, or where `breaks`. -/
structure Emits (em : Emission H) (handlers : List H) (breaks : Prop) : Prop where
  calls : em.called ++ em.rest = handlers
  once : handlers.Nodup
  coroutines : em.awaited ++ em.pending = em.coroutines
  returned : em.place = .returned → em.called = handlers ∧ em.awaited = em.coroutines
  broken : em.place = .broken → breaks
  goesOn : em.place ≠ .returned → em.place ≠ .broken → ∃ m, (em.step m).isSome = true

/-- **The emission law.** After every run the handlers of each event are in the order of their
registration, none twice; and each emission started in it calls the handlers that were
registered then, each once and in that order, whatever was registered, removed or raised since. -/
theorem emission_law {run : List (Act H)} {s : Emitting H}
    (hs : exec Emitting.step .new run = some s) :
    (∀ e, Ordered (s.emitter.handlers e) (s.since e) s.clock) ∧
    ∀ before event after, run = before ++ .emit event :: after → ∃ s₀ em,
      exec Emitting.step .new before = some s₀ ∧ s.emissions[s₀.emissions.length]? = some em ∧
        em.event = event ∧ Emits em (s₀.emitter.handlers event)
          (.goOn s₀.emissions.length (.raises false) ∈ after) := by
  have hordered : ∀ {t : Emitting H} {run : List (Act H)},
      exec Emitting.step .new run = some t → AllOrdered t := by
    intro t run ht
    exact exec_invariant (fun _ _ _ h hstep => h.step hstep) allOrdered_new ht
  refine ⟨hordered hs, ?_⟩
  rintro before event after rfl
  rw [exec_append] at hs
  obtain ⟨s₀, hs₀, hrest⟩ := Option.bind_eq_some_iff.mp hs
  obtain ⟨s₁, hs₁, hs⟩ := Option.bind_eq_some_iff.mp hrest
  have hstart : Sees s₁ s₀.emissions.length event (s₀.emitter.handlers event)
      (.start event (s₀.emitter.handlers event)) := by
    cases hs₁
    exact ⟨by simp, rfl, follows_start _ _⟩
  obtain ⟨em, hem, hbroken⟩ := hstart.exec hs
  refine ⟨s₀, em, hs₀, hem.emission, hem.event, hem.follows.calls, (hordered hs₀ event).nodup,
    hem.follows.coroutines, fun hp => ?_, fun hp => ?_, can_go_on⟩
  · have hcalls := hem.follows.calls
    have hcoroutines := hem.follows.coroutines
    rw [hem.follows.returned hp, List.append_nil] at hcalls
    unfold Emission.pending at hcoroutines
    rw [hp, List.append_nil] at hcoroutines
    exact ⟨hcalls, hcoroutines⟩
  · exact (hbroken hp).resolve_left (fun h => by cases h)

/-- The first of two handlers takes both out, puts itself back, and raises. -/
def unruly : List (Act Nat) :=
  [.addHandler .message 1, .addHandler .message 2, .emit .message, .goOn 0 .turn,
    .clearHandlers (some .message), .addHandler .message 1, .goOn 0 (.raises true), .goOn 0 .turn,
    .goOn 0 (.returns true), .goOn 0 .done, .goOn 0 .turn]

/-- Both are called, and only the first is left. -/
theorem emission_law_unruly :
    (exec Emitting.step .new unruly).map (fun s =>
        (s.emissions.map Emission.called, s.emitter.handlers .message)) = some ([[1, 2]], [1]) ∧
      ∃ s s₀ em, exec Emitting.step .new unruly = some s ∧
        (∀ e, Ordered (s.emitter.handlers e) (s.since e) s.clock) ∧
        exec Emitting.step .new [.addHandler .message 1, .addHandler .message 2] = some s₀ ∧
        s.emissions[s₀.emissions.length]? = some em ∧
        Emits em (s₀.emitter.handlers .message)
          (.goOn s₀.emissions.length (.raises false) ∈ unruly.drop 3) := by
  refine ⟨by decide, ?_⟩
  obtain ⟨s, hs⟩ : ∃ s, exec Emitting.step .new unruly = some s := ⟨_, rfl⟩
  obtain ⟨hordered, hemits⟩ := emission_law hs
  obtain ⟨s₀, em, hs₀, hem, -, hfaithful⟩ :=
    hemits [.addHandler .message 1, .addHandler .message 2] .message (unruly.drop 3) rfl
  exact ⟨s, s₀, em, hs, hordered, hs₀, hem, hfaithful⟩

end JetSocket.Events
