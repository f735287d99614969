import Mathlib.Logic.Function.Basic
import JetSocket.Lib.InsertionOrder
import JetSocket.Lib.Transition

/- The handlers of the synchronous client (`sync_client.py`) beside a plain `EventEmitter`.

   Before there is a WebSocket, handlers are kept in a list of pairs, with repetitions; a removal
   takes the first equal pair out of it. The background thread makes the WebSocket, then moves the
   list into its emitter under the lock and clears it. Where `connect` fails behind that, the
   WebSocket is dropped with all its handlers.

   The lock makes `add_handler` and `remove_handler` single steps. One `connect` goes on at a time;
   another thread may come in wherever it has left the lock.

   Correspondence (Python ↔ Lean):
     `self._manager = WebSocket(...)`            ↔ `Input.create`
     the loop over `_pending_handlers`           ↔ `Input.register`
     `add_handler("message", self._on_message)`  ↔ `Input.forward`
     `connect`, behind `_started`                ↔ `Input.connected`, with `_shutdown_loop`

   What is proved:
     `agrees_step_iff`   — a step keeps what will be registered what an emitter would hold, exactly
                           under `Mirrored.Keeps`.
     `handlers_mirrored` — after each `connect` that succeeds the WebSocket has the handlers of a
                           plain emitter, in each run whose steps meet `Mirrored.Keeps`. -/
namespace JetSocket.SyncClient
open InsertionOrder Transition

inductive EventType where
  | connecting | connected | disconnected | reconnecting | reconnected | message | rawMessage
  | error | stateChange | ping | pong | closing | closed | replayStarted | replayCompleted
  | bufferOverflow
  deriving DecidableEq, Repr

variable {H : Type} [DecidableEq H]

/-! ## The emitter -/

structure EventEmitter (H : Type) where
  handlers : EventType → List H

namespace EventEmitter

def new : EventEmitter H := { handlers := fun _ => [] }

/-- `add_handler`. -/
def addHandler (em : EventEmitter H) (event : EventType) (handler : H) : EventEmitter H :=
  { handlers := Function.update em.handlers event (push (em.handlers event) handler) }

/-- `remove_handler`, with its answer. -/
def removeHandler (em : EventEmitter H) (event : EventType) (handler : H) :
    EventEmitter H × Bool :=
  if handler ∈ em.handlers event then
    ({ handlers := Function.update em.handlers event ((em.handlers event).erase handler) }, true)
  else (em, false)

omit [DecidableEq H] in
/-- `clear_handlers`. -/
def clearHandlers (em : EventEmitter H) : Option EventType → EventEmitter H
  | none => new
  | some event => { handlers := Function.update em.handlers event [] }

theorem handlers_addHandler (em : EventEmitter H) (event e : EventType) (handler : H) :
    (em.addHandler event handler).handlers e =
      if e = event then push (em.handlers e) handler else em.handlers e := by
  unfold addHandler
  by_cases h : e = event
  · subst h
    rw [if_pos rfl]
    exact Function.update_self ..
  · rw [if_neg h]
    exact Function.update_of_ne h _ _

theorem handlers_removeHandler (em : EventEmitter H) (event e : EventType) (handler : H) :
    (em.removeHandler event handler).1.handlers e =
      if e = event then (em.handlers e).erase handler else em.handlers e := by
  unfold removeHandler
  by_cases h : e = event
  · subst h
    rw [if_pos rfl]
    split
    · exact Function.update_self ..
    · rename_i hnot
      exact (List.erase_of_not_mem hnot).symm
  · rw [if_neg h]
    split
    · exact Function.update_of_ne h _ _
    · rfl

omit [DecidableEq H] in
theorem handlers_clearHandlers (em : EventEmitter H) (event : Option EventType) (e : EventType) :
    (em.clearHandlers event).handlers e =
      if event = none ∨ event = some e then [] else em.handlers e := by
  cases event with
  | none => rfl
  | some event =>
    by_cases h : e = event
    · subst h
      rw [if_pos (.inr rfl)]
      exact Function.update_self ..
    · rw [if_neg (by simp [Ne.symm h])]
      exact Function.update_of_ne h _ _

end EventEmitter

/-! ## The client -/

/-- What is registered on the WebSocket: a handler of the user, or `_on_message`. -/
inductive Registered (H : Type) where
  | user (handler : H)
  | onMessage
  deriving DecidableEq, Repr

/-- The user's handler. -/
def Registered.ofUser : Registered H → Option H
  | .user handler => some handler
  | .onMessage => none

/-- The handlers of the user that an emitter has. -/
def EventEmitter.users (em : EventEmitter (Registered H)) (event : EventType) : List H :=
  (em.handlers event).filterMap Registered.ofUser

/-- Where `connect` is. -/
inductive Stage where
  | idle
  | starting
  | created
  | registered
  | ready
  | connected
  deriving DecidableEq, Repr

structure SyncWebSocket (H : Type) where
  pendingHandlers : List (EventType × H)
  manager : Option (EventEmitter (Registered H))
  stage : Stage

namespace SyncWebSocket

def new : SyncWebSocket H := { pendingHandlers := [], manager := none, stage := .idle }

/-- `add_handler`. -/
def addHandler (ws : SyncWebSocket H) (event : EventType) (handler : H) : SyncWebSocket H :=
  match ws.manager with
  | some manager => { ws with manager := some (manager.addHandler event (.user handler)) }
  | none => { ws with pendingHandlers := ws.pendingHandlers ++ [(event, handler)] }

/-- `remove_handler`, with its answer. -/
def removeHandler (ws : SyncWebSocket H) (event : EventType) (handler : H) :
    SyncWebSocket H × Bool :=
  match ws.manager with
  | some manager =>
    let (manager, found) := manager.removeHandler event (.user handler)
    ({ ws with manager := some manager }, found)
  | none =>
    if (event, handler) ∈ ws.pendingHandlers then
      ({ ws with pendingHandlers := ws.pendingHandlers.erase (event, handler) }, true)
    else (ws, false)

inductive Input (H : Type) where
  | addHandler (event : EventType) (handler : H)
  | removeHandler (event : EventType) (handler : H)
  | connect
  | create (raises : Bool)
  | register
  | forward
  | connected (raises : Bool)
  deriving DecidableEq

/-- A `connect` beside another one, or behind one that succeeded, raises and changes nothing. -/
def step (ws : SyncWebSocket H) : Input H → Option (SyncWebSocket H)
  | .addHandler event handler => some (ws.addHandler event handler)
  | .removeHandler event handler => some (ws.removeHandler event handler).1
  | .connect => some (if ws.stage = .idle then { ws with stage := .starting } else ws)
  | .create raises =>
    if ws.stage = .starting then
      some (if raises then { ws with stage := .idle }
        else { ws with manager := some EventEmitter.new, stage := .created })
    else none
  | .register =>
    match ws.stage, ws.manager with
    | .created, some manager =>
      some
        { pendingHandlers := []
          manager := some (ws.pendingHandlers.foldl
            (fun em pair => em.addHandler pair.1 (.user pair.2)) manager)
          stage := .registered }
    | _, _ => none
  | .forward =>
    match ws.stage, ws.manager with
    | .registered, some manager =>
      some { ws with manager := some (manager.addHandler .message .onMessage), stage := .ready }
    | _, _ => none
  | .connected raises =>
    if ws.stage = .ready then
      some (if raises then { ws with manager := none, stage := .idle }
        else { ws with stage := .connected })
    else none

/-- The handlers of the user that the WebSocket has. -/
def registered (ws : SyncWebSocket H) (event : EventType) : List H :=
  match ws.manager with
  | none => []
  | some manager => manager.users event

/-- The handlers that wait for a WebSocket. -/
def queued (ws : SyncWebSocket H) (event : EventType) : List H :=
  ws.pendingHandlers.filterMap (fun pair => if pair.1 = event then some pair.2 else none)

/-- The handlers that the WebSocket has or is going to have. -/
def planned (ws : SyncWebSocket H) (event : EventType) : List H :=
  pushAll (ws.registered event) (ws.queued event)

end SyncWebSocket

section Emitters

omit [DecidableEq H] in
@[simp] theorem mem_users {em : EventEmitter (Registered H)} {event : EventType} {handler : H} :
    handler ∈ em.users event ↔ .user handler ∈ em.handlers event := by
  unfold EventEmitter.users
  rw [List.mem_filterMap]
  constructor
  · rintro ⟨r, hr, huser⟩
    cases r with
    | user h =>
      cases huser
      exact hr
    | onMessage => cases huser
  · exact fun h => ⟨.user handler, h, rfl⟩

theorem users_addHandler (em : EventEmitter (Registered H)) (event e : EventType) (handler : H) :
    (em.addHandler event (.user handler)).users e =
      if e = event then push (em.users e) handler else em.users e := by
  have hmem : handler ∈ em.users e ↔ .user handler ∈ em.handlers e := mem_users
  unfold EventEmitter.users at *
  rw [EventEmitter.handlers_addHandler]
  split
  · unfold push
    by_cases h : .user handler ∈ em.handlers e
    · rw [if_pos h, if_pos (hmem.mpr h)]
    · rw [if_neg h, if_neg (fun hu => h (hmem.mp hu)), List.filterMap_append]
      rfl
  · rfl

/-- The client's own handler does not count. -/
theorem users_onMessage (em : EventEmitter (Registered H)) (event e : EventType) :
    (em.addHandler event .onMessage).users e = em.users e := by
  unfold EventEmitter.users
  rw [EventEmitter.handlers_addHandler]
  split
  · unfold push
    split
    · rfl
    · rw [List.filterMap_append]
      exact List.append_nil _
  · rfl

theorem filterMap_erase (l : List (Registered H)) (handler : H) :
    (l.erase (.user handler)).filterMap Registered.ofUser =
      (l.filterMap Registered.ofUser).erase handler := by
  induction l with
  | nil => rfl
  | cons r l ih =>
    cases r with
    | onMessage =>
      rw [List.erase_cons_tail (by simp), List.filterMap_cons, List.filterMap_cons]
      exact ih
    | user h =>
      by_cases he : h = handler
      · subst he
        rw [List.erase_cons_head, List.filterMap_cons]
        exact (List.erase_cons_head ..).symm
      · rw [List.erase_cons_tail (by simpa using he), List.filterMap_cons, List.filterMap_cons]
        show h :: (l.erase (.user handler)).filterMap Registered.ofUser =
          (h :: l.filterMap Registered.ofUser).erase handler
        rw [List.erase_cons_tail (by simpa using he), ih]

theorem users_removeHandler (em : EventEmitter (Registered H)) (event e : EventType)
    (handler : H) : (em.removeHandler event (.user handler)).1.users e =
      if e = event then (em.users e).erase handler else em.users e := by
  unfold EventEmitter.users
  rw [EventEmitter.handlers_removeHandler]
  split
  · exact filterMap_erase _ _
  · rfl

/-- The loop over the pairs adds, for each event, its handlers. -/
theorem users_foldl (pairs : List (EventType × H)) (em : EventEmitter (Registered H))
    (e : EventType) :
    (pairs.foldl (fun em pair => em.addHandler pair.1 (.user pair.2)) em).users e =
      pushAll (em.users e)
        (pairs.filterMap (fun pair => if pair.1 = e then some pair.2 else none)) := by
  induction pairs generalizing em with
  | nil => rfl
  | cons pair pairs ih =>
    rw [List.foldl_cons, ih, users_addHandler, List.filterMap_cons]
    by_cases h : e = pair.1
    · rw [if_pos h, if_pos h.symm]
      rfl
    · rw [if_neg h, if_neg (fun he => h he.symm)]

/-- A pair is taken out of the list: its handler out of those of its event. -/
theorem filterMap_erase_pair (pairs : List (EventType × H)) (event e : EventType) (handler : H) :
    (pairs.erase (event, handler)).filterMap
        (fun pair => if pair.1 = e then some pair.2 else none) =
      if e = event then
        (pairs.filterMap (fun pair => if pair.1 = e then some pair.2 else none)).erase handler
      else pairs.filterMap (fun pair => if pair.1 = e then some pair.2 else none) := by
  induction pairs with
  | nil => split <;> rfl
  | cons pair pairs ih =>
    by_cases hpair : pair = (event, handler)
    · subst hpair
      rw [List.erase_cons_head, List.filterMap_cons]
      by_cases h : e = event
      · subst h
        rw [if_pos rfl, if_pos rfl]
        exact (List.erase_cons_head ..).symm
      · rw [if_neg h, if_neg (fun he => h he.symm)]
    · rw [List.erase_cons_tail (by simpa using hpair), List.filterMap_cons, List.filterMap_cons,
        ih]
      by_cases h : e = event
      · subst h
        rw [if_pos rfl, if_pos rfl]
        by_cases he : pair.1 = e
        · have hne : pair.2 ≠ handler := fun hh => hpair (Prod.ext he hh)
          rw [if_pos he]
          exact (List.erase_cons_tail (by simpa using hne)).symm
        · rw [if_neg he]
      · rw [if_neg h, if_neg h]

end Emitters

/-! ## The client beside an emitter -/

/-- A client, and an emitter that has seen the same calls of `add_handler` and `remove_handler`. -/
structure Mirrored (H : Type) where
  client : SyncWebSocket H
  emitter : EventEmitter H

namespace Mirrored

def new : Mirrored H := { client := SyncWebSocket.new, emitter := EventEmitter.new }

/-- The emitter's part of a step. -/
def follow (em : EventEmitter H) : SyncWebSocket.Input H → EventEmitter H
  | .addHandler event handler => em.addHandler event handler
  | .removeHandler event handler => (em.removeHandler event handler).1
  | _ => em

def step (t : Mirrored H) (input : SyncWebSocket.Input H) : Option (Mirrored H) :=
  (t.client.step input).map (fun client => { client, emitter := follow t.emitter input })

/-- Where both go on alike. Without a WebSocket, a pair that is removed is in the list once at most.
With one that the list has not been moved to, a handler that is removed is not in the list, and one
that is added is on the WebSocket already, or is the first that the list adds for its event, or the
list adds none. A `connect` that fails when the list was moved finds no handler. -/
def Keeps (t : Mirrored H) : SyncWebSocket.Input H → Prop
  | .addHandler event handler =>
    t.client.manager ≠ none → handler ∈ t.client.registered event ∨
      ∀ first, ((t.client.queued event).filter (· ∉ t.client.registered event)).head? =
        some first → first = handler
  | .removeHandler event handler =>
    if t.client.manager = none then (t.client.queued event).count handler ≤ 1
    else handler ∉ t.client.queued event
  | .connected raises => raises = true → ∀ event, t.client.registered event = []
  | _ => True

end Mirrored

/-- **The handlers are mirrored**: after a `connect` that succeeded, the WebSocket has those of the
emitter, in its order. -/
def HandlersMirrored (t : Mirrored H) : Prop :=
  t.client.stage = .connected → ∃ manager, t.client.manager = some manager ∧
    ∀ event, manager.users event = t.emitter.handlers event

/-- What the WebSocket has or is going to have is what the emitter has. -/
def Agrees (t : Mirrored H) : Prop :=
  ∀ event, t.client.planned event = t.emitter.handlers event

/-- What goes with the stages of `connect`. -/
structure Shape (ws : SyncWebSocket H) : Prop where
  unmade : ws.stage = .idle ∨ ws.stage = .starting → ws.manager = none
  made : ws.stage ≠ .idle → ws.stage ≠ .starting → ws.manager ≠ none
  moved : ws.stage ≠ .created → ws.manager ≠ none → ws.pendingHandlers = []
  nodup : ∀ event, (ws.registered event).Nodup

section Steps
variable {ws ws' : SyncWebSocket H} {t t' : Mirrored H} {input : SyncWebSocket.Input H}
  {event e : EventType} {handler : H}

omit [DecidableEq H] in
theorem registered_none (h : ws.manager = none) : ws.registered e = [] := by
  unfold SyncWebSocket.registered
  rw [h]

omit [DecidableEq H] in
theorem registered_some {manager : EventEmitter (Registered H)} (h : ws.manager = some manager) :
    ws.registered e = manager.users e := by
  unfold SyncWebSocket.registered
  rw [h]

theorem addHandler_none (h : ws.manager = none) : ws.addHandler event handler =
    { ws with pendingHandlers := ws.pendingHandlers ++ [(event, handler)] } := by
  unfold SyncWebSocket.addHandler
  rw [h]

theorem addHandler_some {manager : EventEmitter (Registered H)} (h : ws.manager = some manager) :
    ws.addHandler event handler =
      { ws with manager := some (manager.addHandler event (.user handler)) } := by
  unfold SyncWebSocket.addHandler
  rw [h]

theorem removeHandler_none (h : ws.manager = none) : (ws.removeHandler event handler).1 =
    { ws with pendingHandlers := ws.pendingHandlers.erase (event, handler) } := by
  obtain ⟨pending, manager, stage⟩ := ws
  obtain rfl : manager = none := h
  unfold SyncWebSocket.removeHandler
  dsimp only
  split
  · rfl
  · rename_i hnot
    rw [List.erase_of_not_mem hnot]

theorem removeHandler_some {manager : EventEmitter (Registered H)}
    (h : ws.manager = some manager) : (ws.removeHandler event handler).1 =
      { ws with manager := some (manager.removeHandler event (.user handler)).1 } := by
  unfold SyncWebSocket.removeHandler
  rw [h]

/-- Without a WebSocket, a handler is added behind what is planned. -/
theorem planned_addHandler_none (h : ws.manager = none) :
    (ws.addHandler event handler).planned e =
      if e = event then push (ws.planned e) handler else ws.planned e := by
  have hqueued : (ws.addHandler event handler).queued e =
      ws.queued e ++ (if e = event then [handler] else []) := by
    rw [addHandler_none h]
    unfold SyncWebSocket.queued
    rw [List.filterMap_append, List.filterMap_cons, List.filterMap_nil]
    by_cases he : e = event
    · rw [if_pos he, if_pos he.symm]
    · rw [if_neg he, if_neg (fun h => he h.symm)]
  have hregistered : (ws.addHandler event handler).registered e = ws.registered e := by
    rw [addHandler_none h]
    rfl
  unfold SyncWebSocket.planned
  rw [hqueued, hregistered, pushAll_append]
  split
  · rfl
  · rfl

/-- With one, it is added to what is registered. -/
theorem planned_addHandler_some (h : ws.manager ≠ none) :
    (ws.addHandler event handler).planned e =
      if e = event then pushAll (push (ws.registered e) handler) (ws.queued e)
      else ws.planned e := by
  obtain ⟨manager, hm⟩ := Option.ne_none_iff_exists'.mp h
  have hregistered : (ws.addHandler event handler).registered e =
      if e = event then push (ws.registered e) handler else ws.registered e := by
    rw [addHandler_some hm, registered_some hm]
    exact users_addHandler manager event e handler
  have hqueued : (ws.addHandler event handler).queued e = ws.queued e := by
    rw [addHandler_some hm]
    rfl
  unfold SyncWebSocket.planned
  rw [hqueued, hregistered]
  split
  · rfl
  · rfl

theorem planned_removeHandler_none (h : ws.manager = none) :
    (ws.removeHandler event handler).1.planned e =
      if e = event then pushAll [] ((ws.queued e).erase handler) else ws.planned e := by
  have hqueued : (ws.removeHandler event handler).1.queued e =
      if e = event then (ws.queued e).erase handler else ws.queued e := by
    rw [removeHandler_none h]
    exact filterMap_erase_pair ws.pendingHandlers event e handler
  have hregistered : (ws.removeHandler event handler).1.registered e = [] := by
    rw [removeHandler_none h]
    exact registered_none h
  unfold SyncWebSocket.planned
  rw [hqueued, hregistered, registered_none h]
  split
  · rfl
  · rfl

theorem planned_removeHandler_some (h : ws.manager ≠ none) :
    (ws.removeHandler event handler).1.planned e =
      if e = event then pushAll ((ws.registered e).erase handler) (ws.queued e)
      else ws.planned e := by
  obtain ⟨manager, hm⟩ := Option.ne_none_iff_exists'.mp h
  have hregistered : (ws.removeHandler event handler).1.registered e =
      if e = event then (ws.registered e).erase handler else ws.registered e := by
    rw [removeHandler_some hm, registered_some hm]
    exact users_removeHandler manager event e handler
  have hqueued : (ws.removeHandler event handler).1.queued e = ws.queued e := by
    rw [removeHandler_some hm]
    rfl
  unfold SyncWebSocket.planned
  rw [hqueued, hregistered]
  split
  · rfl
  · rfl

/-- The loop over the list changes nothing in what is planned. -/
theorem planned_register {manager : EventEmitter (Registered H)} (h : ws.manager = some manager)
    (stage : Stage) : SyncWebSocket.planned
      { pendingHandlers := []
        manager := some (ws.pendingHandlers.foldl
          (fun em pair => em.addHandler pair.1 (.user pair.2)) manager)
        stage } e = ws.planned e := by
  unfold SyncWebSocket.planned
  rw [registered_some h]
  exact users_foldl ws.pendingHandlers manager e

omit [DecidableEq H] in
/-- Behind the loop there is a WebSocket, and the list is empty. -/
theorem Shape.behind_register (h : Shape ws) (hstage : ws.stage = .ready ∨ ws.stage = .connected) :
    ws.manager ≠ none ∧ ws.pendingHandlers = [] := by
  have hmade : ws.manager ≠ none := by
    rcases hstage with hstage | hstage
    · exact h.made (by rw [hstage]; decide) (by rw [hstage]; decide)
    · exact h.made (by rw [hstage]; decide) (by rw [hstage]; decide)
  refine ⟨hmade, h.moved ?_ hmade⟩
  rcases hstage with hstage | hstage
  · rw [hstage]
    decide
  · rw [hstage]
    decide

/-- With an empty list, what is planned is what is registered. -/
theorem planned_of_moved (h : ws.pendingHandlers = []) : ws.planned e = ws.registered e := by
  unfold SyncWebSocket.planned SyncWebSocket.queued
  rw [h]
  rfl

theorem shape_addHandler (h : Shape ws) : Shape (ws.addHandler event handler) := by
  cases hm : ws.manager with
  | none =>
    rw [addHandler_none hm]
    exact ⟨h.unmade, h.made, fun _ hne => absurd hm hne, h.nodup⟩
  | some manager =>
    have hnone : ws.manager ≠ none := by
      rw [hm]
      exact Option.some_ne_none manager
    rw [addHandler_some hm]
    refine ⟨fun hs => absurd (h.unmade hs) hnone, fun _ _ => Option.some_ne_none _,
      fun hs _ => h.moved hs hnone, fun e => ?_⟩
    have hold := h.nodup e
    rw [registered_some hm] at hold
    show ((manager.addHandler event (.user handler)).users e).Nodup
    rw [users_addHandler]
    split
    · exact nodup_push hold handler
    · exact hold

theorem shape_removeHandler (h : Shape ws) : Shape (ws.removeHandler event handler).1 := by
  cases hm : ws.manager with
  | none =>
    rw [removeHandler_none hm]
    exact ⟨h.unmade, h.made, fun _ hne => absurd hm hne, h.nodup⟩
  | some manager =>
    have hnone : ws.manager ≠ none := by
      rw [hm]
      exact Option.some_ne_none manager
    rw [removeHandler_some hm]
    refine ⟨fun hs => absurd (h.unmade hs) hnone, fun _ _ => Option.some_ne_none _,
      fun hs _ => h.moved hs hnone, fun e => ?_⟩
    have hold := h.nodup e
    rw [registered_some hm] at hold
    show ((manager.removeHandler event (.user handler)).1.users e).Nodup
    rw [users_removeHandler]
    split
    · exact hold.erase handler
    · exact hold

/-- **What one step does.** -/
inductive Moves (ws : SyncWebSocket H) : SyncWebSocket.Input H → SyncWebSocket H → Prop
  | added (event : EventType) (handler : H) :
      Moves ws (.addHandler event handler) (ws.addHandler event handler)
  | removed (event : EventType) (handler : H) :
      Moves ws (.removeHandler event handler) (ws.removeHandler event handler).1
  | refused : Moves ws .connect ws
  | begun (h : ws.stage = .idle) : Moves ws .connect { ws with stage := .starting }
  | unmade (h : ws.stage = .starting) : Moves ws (.create true) { ws with stage := .idle }
  | made (h : ws.stage = .starting) :
      Moves ws (.create false) { ws with manager := some EventEmitter.new, stage := .created }
  | moved (manager : EventEmitter (Registered H)) (hm : ws.manager = some manager) :
      Moves ws .register
        { pendingHandlers := []
          manager := some (ws.pendingHandlers.foldl
            (fun em pair => em.addHandler pair.1 (.user pair.2)) manager)
          stage := .registered }
  | forwarded (manager : EventEmitter (Registered H)) (h : ws.stage = .registered)
      (hm : ws.manager = some manager) :
      Moves ws .forward
        { ws with manager := some (manager.addHandler .message .onMessage), stage := .ready }
  | failed (h : ws.stage = .ready) :
      Moves ws (.connected true) { ws with manager := none, stage := .idle }
  | connected (h : ws.stage = .ready) :
      Moves ws (.connected false) { ws with stage := .connected }

theorem step_moves (hs : ws.step input = some ws') : Moves ws input ws' := by
  cases input with
  | addHandler event handler =>
    cases hs
    exact .added event handler
  | removeHandler event handler =>
    cases hs
    exact .removed event handler
  | connect =>
    cases hs
    split
    · exact .begun ‹_›
    · exact .refused
  | create raises =>
    simp only [SyncWebSocket.step] at hs
    split at hs
    · cases hs
      cases raises with
      | true => exact .unmade ‹_›
      | false => exact .made ‹_›
    · cases hs
  | register =>
    simp only [SyncWebSocket.step] at hs
    split at hs
    · rename_i manager hstage hm
      cases hs
      exact .moved manager hm
    · cases hs
  | forward =>
    simp only [SyncWebSocket.step] at hs
    split at hs
    · rename_i manager hstage hm
      cases hs
      exact .forwarded manager hstage hm
    · cases hs
  | connected raises =>
    simp only [SyncWebSocket.step] at hs
    split at hs
    · cases hs
      cases raises with
      | true => exact .failed ‹_›
      | false => exact .connected ‹_›
    · cases hs

omit [DecidableEq H] in
/-- A WebSocket whose handlers are without repetition, with the list behind it or empty. -/
theorem shape_of_manager {pending : List (EventType × H)} {manager : EventEmitter (Registered H)}
    {stage : Stage} (hidle : stage ≠ .idle) (hstarting : stage ≠ .starting)
    (hmoved : stage ≠ .created → pending = []) (hnodup : ∀ e, (manager.users e).Nodup) :
    Shape { pendingHandlers := pending, manager := some manager, stage } :=
  ⟨fun hs => (hs.elim hidle hstarting).elim, fun _ _ => Option.some_ne_none _,
    fun hs _ => hmoved hs, hnodup⟩

omit [DecidableEq H] in
/-- No WebSocket. -/
theorem shape_of_none {pending : List (EventType × H)} {stage : Stage}
    (h : stage = .idle ∨ stage = .starting) :
    Shape { pendingHandlers := pending, manager := (none : Option (EventEmitter (Registered H))),
            stage } :=
  ⟨fun _ => rfl, fun hidle hstarting => (h.elim hidle hstarting).elim,
    fun _ hne => absurd rfl hne, fun _ => List.nodup_nil⟩

theorem shape_step (h : Shape ws) (hs : ws.step input = some ws') : Shape ws' := by
  cases step_moves hs with
  | added event handler => exact shape_addHandler h
  | removed event handler => exact shape_removeHandler h
  | refused => exact h
  | begun hidle =>
    rw [h.unmade (.inl hidle)]
    exact shape_of_none (.inr rfl)
  | unmade hstarting =>
    rw [h.unmade (.inr hstarting)]
    exact shape_of_none (.inl rfl)
  | made hstarting =>
    exact shape_of_manager (by decide) (by decide) (fun hne => absurd rfl hne)
      (fun _ => List.nodup_nil)
  | moved manager hm =>
    refine shape_of_manager (by decide) (by decide) (fun _ => rfl) (fun e => ?_)
    have hold := h.nodup e
    rw [registered_some hm] at hold
    rw [users_foldl]
    exact nodup_pushAll hold _
  | forwarded manager hstage hm =>
    refine shape_of_manager (by decide) (by decide) (fun _ => h.moved ?_ ?_) (fun e => ?_)
    · rw [hstage]
      decide
    · rw [hm]
      exact Option.some_ne_none manager
    · have hold := h.nodup e
      rw [registered_some hm] at hold
      rw [users_onMessage]
      exact hold
  | failed hready => exact shape_of_none (.inl rfl)
  | connected hready =>
    obtain ⟨hmade, hmoved⟩ := h.behind_register (.inl hready)
    obtain ⟨manager, hm⟩ := Option.ne_none_iff_exists'.mp hmade
    rw [hm, hmoved]
    refine shape_of_manager (by decide) (by decide) (fun _ => rfl) (fun e => ?_)
    have hold := h.nodup e
    rw [registered_some hm] at hold
    exact hold

/-- Where one event changes on both sides. -/
theorem agrees_iff_at (ha : Agrees t) (event : EventType) (f g : EventType → List H)
    (hplanned : ∀ e, t'.client.planned e = if e = event then f e else t.client.planned e)
    (hemitter : ∀ e, t'.emitter.handlers e = if e = event then g e else t.emitter.handlers e) :
    Agrees t' ↔ f event = g event := by
  constructor
  · intro h
    have hevent := h event
    rw [hplanned, hemitter, if_pos rfl, if_pos rfl] at hevent
    exact hevent
  · intro hvalue e
    rw [hplanned, hemitter]
    by_cases he : e = event
    · rw [if_pos he, if_pos he, he]
      exact hvalue
    · rw [if_neg he, if_neg he]
      exact ha e

/-- Where neither side changes. -/
theorem agrees_of_same (ha : Agrees t) (hplanned : ∀ e, t'.client.planned e = t.client.planned e)
    (hemitter : t'.emitter = t.emitter) : Agrees t' := by
  intro e
  rw [hplanned, hemitter]
  exact ha e

/-- `add_handler` is that of an emitter exactly where the order comes out the same. -/
theorem agrees_addHandler_iff (ha : Agrees t) :
    Agrees { client := t.client.addHandler event handler,
             emitter := t.emitter.addHandler event handler } ↔
      t.Keeps (.addHandler event handler) := by
  by_cases hm : t.client.manager = none
  · refine iff_of_true ((agrees_iff_at ha event _ _ (fun e => planned_addHandler_none hm)
      (fun e => EventEmitter.handlers_addHandler t.emitter event e handler)).mpr ?_)
      (fun hne => absurd hm hne)
    exact congrArg (push · handler) (ha event)
  · refine (agrees_iff_at ha event _ _ (fun e => planned_addHandler_some hm)
      (fun e => EventEmitter.handlers_addHandler t.emitter event e handler)).trans ?_
    rw [← ha event]
    refine (pushAll_push_iff _ _ handler).trans ?_
    exact ⟨fun h _ => h, fun h => h hm⟩

/-- `remove_handler` is that of an emitter exactly where the handler goes altogether. -/
theorem agrees_removeHandler_iff (h : Shape t.client) (ha : Agrees t) :
    Agrees { client := (t.client.removeHandler event handler).1,
             emitter := (t.emitter.removeHandler event handler).1 } ↔
      t.Keeps (.removeHandler event handler) := by
  unfold Mirrored.Keeps
  by_cases hm : t.client.manager = none
  · refine (agrees_iff_at ha event _ _ (fun e => planned_removeHandler_none hm)
      (fun e => EventEmitter.handlers_removeHandler t.emitter event e handler)).trans ?_
    dsimp only
    rw [if_pos hm, ← ha event]
    unfold SyncWebSocket.planned
    rw [registered_none hm]
    exact pushAll_of_erase_iff List.nodup_nil List.not_mem_nil _
  · refine (agrees_iff_at ha event _ _ (fun e => planned_removeHandler_some hm)
      (fun e => EventEmitter.handlers_removeHandler t.emitter event e handler)).trans ?_
    dsimp only
    rw [if_neg hm, ← ha event]
    exact pushAll_erase_iff (h.nodup event) _ handler

/-- A `connect` that fails leaves nothing planned: that is right exactly where nothing was. -/
theorem agrees_failed_iff (h : Shape t.client) (ha : Agrees t) (hready : t.client.stage = .ready) :
    Agrees { t with client := { t.client with manager := none, stage := .idle } } ↔
      t.Keeps (.connected true) := by
  have hmoved := (h.behind_register (.inl hready)).2
  have hplanned : ∀ e, t.client.planned e = t.client.registered e :=
    fun e => planned_of_moved hmoved
  have hgone : ∀ e, SyncWebSocket.planned
      { t.client with manager := none, stage := .idle } e = [] :=
    fun e => planned_of_moved hmoved
  constructor
  · intro h' _ e
    calc t.client.registered e = t.client.planned e := (hplanned e).symm
      _ = t.emitter.handlers e := ha e
      _ = SyncWebSocket.planned { t.client with manager := none, stage := .idle } e :=
        (h' e).symm
      _ = [] := hgone e
  · intro hkeeps e
    calc SyncWebSocket.planned { t.client with manager := none, stage := .idle } e = [] := hgone e
      _ = t.client.registered e := (hkeeps rfl e).symm
      _ = t.client.planned e := (hplanned e).symm
      _ = t.emitter.handlers e := ha e

/-- **One step** keeps what is planned what the emitter has exactly under `Keeps`. -/
theorem agrees_step_iff (t : Mirrored H) (input : SyncWebSocket.Input H) (t' : Mirrored H)
    (h : Shape t.client) (ha : Agrees t) (hs : t.step input = some t') :
    Agrees t' ↔ t.Keeps input := by
  obtain ⟨client, hclient, rfl⟩ := Option.map_eq_some_iff.mp hs
  cases step_moves hclient with
  | added event handler => exact agrees_addHandler_iff ha
  | removed event handler => exact agrees_removeHandler_iff h ha
  | refused | begun hidle | unmade hstarting =>
    exact iff_of_true (agrees_of_same ha (fun e => rfl) rfl) trivial
  | made hstarting =>
    refine iff_of_true (agrees_of_same ha (fun e => ?_) rfl) trivial
    unfold SyncWebSocket.planned
    rw [registered_none (h.unmade (.inr hstarting))]
    rfl
  | moved manager hm =>
    exact iff_of_true (agrees_of_same ha (fun e => planned_register hm _) rfl) trivial
  | forwarded manager hstage hm =>
    refine iff_of_true (agrees_of_same ha (fun e => ?_) rfl) trivial
    unfold SyncWebSocket.planned
    rw [registered_some hm]
    exact congrArg (fun l => pushAll l (t.client.queued e)) (users_onMessage manager .message e)
  | failed hready => exact agrees_failed_iff h ha hready
  | connected hready =>
    exact iff_of_true (agrees_of_same ha (fun e => rfl) rfl) (fun hraises => (by cases hraises))

/-- A client that is connected has what is planned. -/
theorem mirrored_of_agrees (h : Shape t.client) (ha : Agrees t) : HandlersMirrored t := by
  intro hconnected
  obtain ⟨hmade, hmoved⟩ := h.behind_register (.inr hconnected)
  obtain ⟨manager, hm⟩ := Option.ne_none_iff_exists'.mp hmade
  refine ⟨manager, hm, fun e => ?_⟩
  rw [← ha e, ← registered_some hm]
  exact (planned_of_moved hmoved).symm

omit [DecidableEq H] in
theorem shape_new : Shape (SyncWebSocket.new : SyncWebSocket H) :=
  ⟨fun _ => rfl, fun h => absurd rfl h, fun _ h => absurd rfl h, fun _ => List.nodup_nil⟩

end Steps

/-- **What is planned** is what an emitter has throughout a run exactly when its steps meet
`Keeps`. -/
theorem always_agrees_iff (run : List (SyncWebSocket.Input H)) :
    Always Mirrored.step Agrees Mirrored.new run ↔
      Meets Mirrored.step Mirrored.Keeps Mirrored.new run := by
  refine always_iff_meets_of_inv (I := fun t => Shape t.client) ?_ agrees_step_iff run shape_new
    (fun e => rfl)
  intro t input t' h hs
  obtain ⟨client, hclient, rfl⟩ := Option.map_eq_some_iff.mp hs
  exact shape_step h hclient

/-- **The WebSocket has the handlers of an emitter** after each `connect` that succeeds, in each
run whose steps meet `Keeps`. -/
theorem handlers_mirrored (run : List (SyncWebSocket.Input H))
    (hrun : Meets Mirrored.step Mirrored.Keeps Mirrored.new run) :
    Always Mirrored.step HandlersMirrored Mirrored.new run := by
  have hall : Always Mirrored.step (fun t => Shape t.client ∧ Agrees t) Mirrored.new run := by
    refine always_of_meets ?_ ⟨shape_new, fun e => rfl⟩ hrun
    intro t input t' h hc hs
    refine ⟨?_, (agrees_step_iff t input t' h.1 h.2 hs).mpr hc⟩
    obtain ⟨client, hclient, rfl⟩ := Option.map_eq_some_iff.mp hs
    exact shape_step h.1 hclient
  exact hall.mono (fun _ h => mirrored_of_agrees h.1 h.2)

/-- A failed attempt, a removal, and a `connect` that succeeds. -/
theorem handlers_mirrored_retried :
    Always Mirrored.step HandlersMirrored (Mirrored.new : Mirrored Nat)
      [.connect, .create true, .addHandler .connected 1, .addHandler .message 2,
        .removeHandler .connected 1, .connect, .create false, .register, .forward,
        .connected false] := by
  apply handlers_mirrored
  refine .cons rfl trivial (.cons rfl trivial (.cons rfl (fun hne => absurd rfl hne) (.cons rfl
    (fun hne => absurd rfl hne) (.cons rfl ?_ (.cons rfl trivial (.cons rfl trivial (.cons rfl
    trivial (.cons rfl trivial (.cons rfl (fun hraises => (by cases hraises)) trivial)))))))))
  exact Nat.le_refl 1

/-- A handler that was added twice and removed once is still there. -/
theorem handler_kept :
    ¬ Always Mirrored.step HandlersMirrored (Mirrored.new : Mirrored Nat)
      [.addHandler .connected 1, .addHandler .connected 1, .removeHandler .connected 1, .connect,
        .create false, .register, .forward, .connected false] := by
  intro h
  obtain ⟨manager, hm, hall⟩ := (h.last rfl) rfl
  cases hm
  have hevent : [1] = [] := hall .connected
  cases hevent

/-- The handlers of a `connect` that failed are gone. -/
example :
    ¬ Always Mirrored.step HandlersMirrored (Mirrored.new : Mirrored Nat)
      [.addHandler .connected 1, .connect, .create false, .register, .forward, .connected true,
        .connect, .create false, .register, .forward, .connected false] := by
  intro h
  obtain ⟨manager, hm, hall⟩ := (h.last rfl) rfl
  cases hm
  have hevent : [] = [1] := hall .connected
  cases hevent

end JetSocket.SyncClient
