import JetSocket.Manager.WebSocket
import JetSocket.Lib.TaskPool
import JetSocket.Lib.Transition

/- A WebSocket with all its tasks, as a transition system: every call of `connect` and
   `close`, the connecting tasks, the message loops, the heartbeats and the age timers, in
   any interleaving, each running from one suspension to the next.

   Every call of `connect` and `close` is a task of its own. A handler of an event, or the
   callback `on_replay`, that itself awaits `close` is not modelled: there `close` runs inside
   the task that emits, its cancelling of that task and its wait for it are suppressed, and
   the task goes on behind CLOSED. (A `close` awaited in a handler of `reconnecting` returns,
   and then BACKING_OFF is set.)

   What asyncio does is in `step` and `cancel`: a cancelled task is resumed with
   `CancelledError`, which ends it wherever it is suspended, except where it waits for another
   task. There `contextlib.suppress(CancelledError)` stands around the wait, cancelling passes
   on to the awaited task, and the waiting task goes on when that one has ended. A task that
   cancels itself and waits for itself is resumed with the `CancelledError`, and goes on. -/
namespace JetSocket.Manager
open JetSocket.Transport TaskPool Transition

abbrev Client := Pool WebSocket AsyncTask

/-- What can happen next. Where a task is named, it runs up to its next suspension. -/
inductive Action where
  | advance (d : ℚ)
  | connect
  | close (args : CloseArgs)
  /-- The handlers, the sleep or the task it waited for are over, or it was cancelled. -/
  | resume (k : Nat)
  /-- `transport.connect` has a socket and begins the handshake. -/
  | opened (k : Nat)
  /-- `transport.connect` ends. -/
  | attempt (k : Nat) (result : ConnectEnd)
  /-- The socket is lost. -/
  | linkLost (link : Nat)
  | frame (k : Nat) (isPong : Bool)
  | handle (k : Nat) (outcome : WebSocket.Outcome)
  /-- The message loop's `recv` meets a Close frame, or sees that the socket is lost. -/
  | closeFrame (k code : Nat)
  | lossSeen (k : Nat)
  | pong (k : Nat)
  | pongTimeout (k : Nat)
  /-- `transport.close` returns, or `close_timeout` is over before it does. -/
  | closeDone (k : Nat)
  | closeCut (k : Nat)
  deriving DecidableEq

namespace AsyncTask

/-- The task has not ended. -/
def live (t : AsyncTask) : Bool :=
  match t.point with
  | .done _ => false
  | _ => true

/-- `_heartbeat_loop` goes on behind an exception. -/
def settle (k : Nat) (kind : Kind) (m : Move) : Move :=
  if kind = .heartbeat ∧ m.point = .done true then
    { m with point := if (m.ws.beats k).running then .beatSleep else .done false }
  else m

end AsyncTask

/-- The move, as the pool takes it. -/
def Move.toPool (kind : Kind) (m : Move) : TaskPool.Move WebSocket AsyncTask :=
  { shared := m.ws, self := { kind, point := m.point } }

namespace Client

/-- The start. -/
def init (settings : Settings) (backoff : BackoffConfig) : Client :=
  { shared := WebSocket.new settings backoff, tasks := [] }

/-- `task.cancel()`, along at most `fuel` tasks that wait for one another. -/
def cancel : Nat → Client → Nat → Client
  | 0, c, _ => c
  | fuel + 1, c, k =>
    match c.tasks[k]? with
    | none => c
    | some t =>
      match WebSocket.awaits t.point with
      | some u => if u = k then c.note k (fun t => { t with cancelled := true }) else cancel fuel c u
      | none => if t.live then c.note k (fun t => { t with cancelled := true }) else c

def cancelOpt (c : Client) : Option Nat → Client
  | none => c
  | some k => cancel c.tasks.length c k

/-- Task `k` makes a move. -/
def run (c : Client) (k : Nat) (kind : Kind) (m : Move) : Client :=
  let m := AsyncTask.settle k kind m
  cancelOpt (c.move k (m.toPool kind)) m.cancel

/-- Task `k` starts the tasks of a connection, and returns. -/
def start (c : Client) (k : Nat) (kind : Kind) : Client :=
  let r := c.shared.startTasks c.tasks.length
  c.move k { shared := r.1, self := { kind, point := .done false }, spawned := r.2 }

/-- A call from outside makes its first move. -/
def enter (c : Client) (kind : Kind) (m : Move) : Client :=
  cancelOpt (c.call (m.toPool kind)) m.cancel

/-- The move of task `k` when it is resumed. -/
def resumed (c : Client) (k : Nat) (t : AsyncTask) : Option Move :=
  match WebSocket.awaits t.point with
  | some u =>
    if u = k then c.shared.awaited false t.point
    else
      match c.tasks[u]? with
      | some { point := .done raised, .. } => c.shared.awaited raised t.point
      | _ => none
  | none => if t.cancelled then some c.shared.finish else c.shared.resume k t.point

/-- The move of task `k`, suspended at `p`, when what it waits for happens. -/
def react (ws : WebSocket) (k : Nat) (a : Action) (p : Point) : Option Move :=
  match a with
  | .opened _ =>
    match p with
    | .opening l => some ((ws.setLink l (fun x => { x with isOpen := true })).goto (.handshaking l))
    | _ => none
  | .attempt _ result =>
    match p, result with
    | .handshaking l, .connected =>
      some (ws.setLink l (fun x => { x with connected := true })).connectReturned
    | .handshaking _, .aborted e => if isCaught e then none else some (ws.connectFailed e)
    | .handshaking l, .raised e =>
      some ((ws.setLink l (fun x => { x with isOpen := false })).connectFailed e)
    | .opening _, .raised e => some (ws.connectFailed e)
    | _, _ => none
  | .frame _ isPong =>
    match p with
    | .receiving l => some (ws.received l isPong)
    | _ => none
  | .handle _ outcome =>
    match p with
    | .handling l .raw => some (ws.handled l outcome)
    | _ => none
  | .closeFrame _ code =>
    match p with
    | .receiving l => some ((ws.closeFrame l code).lost "Connection closed by remote")
    | _ => none
  | .lossSeen _ =>
    match p with
    | .receiving l =>
      if ws.isOpen l then none
      else some ((ws.setLink l (fun x => { x with connected := false })).lost
        "Connection closed by remote")
    | _ => none
  | .pong _ =>
    match p with
    | .awaitingPong => some (ws.pongArrived k)
    | _ => none
  | .pongTimeout _ =>
    match p with
    | .awaitingPong => some (ws.pongTimedOut k)
    | _ => none
  | .closeDone _ =>
    match p with
    | .closingTransport args l => some (ws.closeReturned args l)
    | _ => none
  | .closeCut _ =>
    match p with
    | .closingTransport args _ => some (ws.closeCutOff args)
    | _ => none
  | _ => none

/-- The move of task `k` for an action that names it. -/
def moveOf (c : Client) (k : Nat) (t : AsyncTask) : Action → Option Move
  | .resume _ => c.resumed k t
  | a => react c.shared k a t.point

/-- The task an action runs. -/
def actor : Action → Option Nat
  | .resume k | .opened k | .attempt k _ | .frame k _ | .handle k _ | .closeFrame k _ | .lossSeen k
  | .pong k | .pongTimeout k | .closeDone k | .closeCut k => some k
  | _ => none

/-- One step. A cancelled task can only be resumed. -/
def step (c : Client) (a : Action) : Option Client :=
  match a with
  | .advance d => if 0 ≤ d then some (c.share { c.shared with now := c.shared.now + d }) else none
  | .linkLost l => some (c.share (c.shared.setLink l (fun x => { x with isOpen := false })))
  | .connect => some (c.enter .connect c.shared.connect)
  | .close args => some (c.enter .close (c.shared.close args))
  | a =>
    (actor a).bind (fun k =>
      (c.tasks[k]?).bind (fun t =>
        if t.cancelled ∧ a ≠ .resume k then none
        else if a = .resume k ∧ t.cancelled = false ∧ c.shared.starts t.point = true then
          some (c.start k t.kind)
        else (c.moveOf k t a).map (fun m => c.run k t.kind m)))

/-! ## Cancelling changes flags only -/

@[simp] theorem shared_cancel (fuel : Nat) (c : Client) (k : Nat) :
    (cancel fuel c k).shared = c.shared := by
  induction fuel generalizing k with
  | zero => rfl
  | succ fuel ih =>
    rw [cancel]
    split
    · rfl
    · split
      · split
        · rfl
        · exact ih _
      · split <;> rfl

@[simp] theorem shared_cancelOpt (c : Client) (k : Option Nat) :
    (cancelOpt c k).shared = c.shared := by
  cases k with
  | none => rfl
  | some k => exact shared_cancel _ c k

/-- What does not depend on the flag `cancelled`. -/
def Flagless (L : WebSocket → Nat → AsyncTask → Prop) : Prop :=
  ∀ ws k t b, L ws k t → L ws k { t with cancelled := b }

theorem each_cancel {L : WebSocket → Nat → AsyncTask → Prop} (hL : Flagless L) {c : Client}
    (h : c.Each L) (fuel k : Nat) : Pool.Each L (cancel fuel c k) := by
  induction fuel generalizing k with
  | zero => exact h
  | succ fuel ih =>
    rw [cancel]
    split
    · exact h
    · split
      · split
        · exact h.note (fun ws j t => hL ws j t true)
        · exact ih _
      · split
        · exact h.note (fun ws j t => hL ws j t true)
        · exact h

theorem each_cancelOpt {L : WebSocket → Nat → AsyncTask → Prop} (hL : Flagless L) {c : Client}
    (h : c.Each L) (k : Option Nat) : Pool.Each L (cancelOpt c k) := by
  cases k with
  | none => exact h
  | some k => exact each_cancel hL h _ k

theorem atMostOne_cancelOpt {P : AsyncTask → Bool} (hP : ∀ t b, P { t with cancelled := b } = P t)
    {c : Client} (h : c.AtMostOne P) (k : Option Nat) : Pool.AtMostOne P (cancelOpt c k) := by
  have hcancel : ∀ fuel k, Pool.AtMostOne P (cancel fuel c k) := by
    intro fuel
    induction fuel with
    | zero => exact fun _ => h
    | succ fuel ih =>
      intro k
      rw [cancel]
      split
      · exact h
      · split
        · split
          · exact h.note (fun t => hP t true)
          · exact ih _
        · split
          · exact h.note (fun t => hP t true)
          · exact h
  cases k with
  | none => exact h
  | some k => exact hcancel _ k

/-- Every task stays where it is. -/
theorem getElem?_cancelOpt {c : Client} {j : Nat} {t : AsyncTask} (k : Option Nat)
    (h : c.tasks[j]? = some t) : ∃ b, (cancelOpt c k).tasks[j]? = some { t with cancelled := b } := by
  have hnote : ∀ k, ∃ b, (c.note k (fun t => { t with cancelled := true })).tasks[j]? =
      some { t with cancelled := b } := by
    intro k
    simp only [Pool.note, List.getElem?_modify, h]
    by_cases hkj : k = j
    · exact ⟨true, by simp [hkj]⟩
    · exact ⟨t.cancelled, by simp [hkj]⟩
  have hcancel : ∀ fuel k, ∃ b, (cancel fuel c k).tasks[j]? = some { t with cancelled := b } := by
    intro fuel
    induction fuel with
    | zero => exact fun _ => ⟨t.cancelled, h⟩
    | succ fuel ih =>
      intro k
      rw [cancel]
      split
      · exact ⟨t.cancelled, h⟩
      · split
        · split
          · exact hnote k
          · exact ih _
        · split
          · exact hnote k
          · exact ⟨t.cancelled, h⟩
  cases k with
  | none => exact ⟨t.cancelled, h⟩
  | some k => exact hcancel _ k

/-- Where a task stands, and its kind, it has from before. -/
theorem getElem?_of_cancelOpt {c : Client} {j : Nat} {t : AsyncTask} (k : Option Nat)
    (h : (cancelOpt c k).tasks[j]? = some t) :
    ∃ u, c.tasks[j]? = some u ∧ t.kind = u.kind ∧ t.point = u.point := by
  have heach : Pool.Each (fun _ j t => ∃ u, c.tasks[j]? = some u ∧ t.kind = u.kind ∧
      t.point = u.point) c :=
    fun j t ht => ⟨t, ht, rfl, rfl⟩
  exact each_cancelOpt (fun _ _ _ _ hw => hw) heach k j t h

/-! ## What one step does -/

@[simp] theorem settle_ws (k : Nat) (kind : Kind) (m : Move) :
    (AsyncTask.settle k kind m).ws = m.ws := by
  unfold AsyncTask.settle
  split <;> rfl

/-- Only a heartbeat is kept by an exception. -/
theorem settle_of_ne {k : Nat} {kind : Kind} (h : kind ≠ .heartbeat) (m : Move) :
    AsyncTask.settle k kind m = m := by
  unfold AsyncTask.settle
  rw [if_neg (fun hm => h hm.1)]

@[simp] theorem shared_run (c : Client) (k : Nat) (kind : Kind) (m : Move) :
    (c.run k kind m).shared = m.ws := by
  simp [run, Move.toPool]

@[simp] theorem shared_enter (c : Client) (kind : Kind) (m : Move) :
    (c.enter kind m).shared = m.ws := by
  simp [enter, Move.toPool]

/-- The reactions of a suspended task, one by one. -/
inductive Reacts (ws : WebSocket) (k : Nat) : Action → Point → Move → Prop
  | opened (j l : Nat) : Reacts ws k (.opened j) (.opening l)
      ((ws.setLink l (fun x => { x with isOpen := true })).goto (.handshaking l))
  | connected (j l : Nat) : Reacts ws k (.attempt j .connected) (.handshaking l)
      (ws.setLink l (fun x => { x with connected := true })).connectReturned
  | aborted (j l : Nat) (e : Exc) (he : isCaught e = false) :
      Reacts ws k (.attempt j (.aborted e)) (.handshaking l) (ws.connectFailed e)
  | refused (j l : Nat) (e : Exc) : Reacts ws k (.attempt j (.raised e)) (.handshaking l)
      ((ws.setLink l (fun x => { x with isOpen := false })).connectFailed e)
  | unreached (j l : Nat) (e : Exc) :
      Reacts ws k (.attempt j (.raised e)) (.opening l) (ws.connectFailed e)
  | frame (j l : Nat) (isPong : Bool) :
      Reacts ws k (.frame j isPong) (.receiving l) (ws.received l isPong)
  | handle (j l : Nat) (outcome : WebSocket.Outcome) :
      Reacts ws k (.handle j outcome) (.handling l .raw) (ws.handled l outcome)
  | closeFrame (j l code : Nat) : Reacts ws k (.closeFrame j code) (.receiving l)
      ((ws.closeFrame l code).lost "Connection closed by remote")
  | lossSeen (j l : Nat) (hl : ws.isOpen l = false) : Reacts ws k (.lossSeen j) (.receiving l)
      ((ws.setLink l (fun x => { x with connected := false })).lost "Connection closed by remote")
  | pong (j : Nat) : Reacts ws k (.pong j) .awaitingPong (ws.pongArrived k)
  | pongTimeout (j : Nat) : Reacts ws k (.pongTimeout j) .awaitingPong (ws.pongTimedOut k)
  | closeDone (j : Nat) (args : CloseArgs) (l : Nat) :
      Reacts ws k (.closeDone j) (.closingTransport args l) (ws.closeReturned args l)
  | closeCut (j : Nat) (args : CloseArgs) (l : Nat) :
      Reacts ws k (.closeCut j) (.closingTransport args l) (ws.closeCutOff args)

theorem reacts_of_react {ws : WebSocket} {k : Nat} {a : Action} {p : Point} {m : Move}
    (h : react ws k a p = some m) : Reacts ws k a p m := by
  unfold react at h
  split at h
  · split at h
    · exact Option.some.inj h ▸ .opened _ _
    · cases h
  · split at h
    · exact Option.some.inj h ▸ .connected _ _
    · split at h
      · cases h
      · rename_i he
        exact Option.some.inj h ▸ .aborted _ _ _ (by simpa using he)
    · exact Option.some.inj h ▸ .refused _ _ _
    · exact Option.some.inj h ▸ .unreached _ _ _
    · cases h
  · split at h
    · exact Option.some.inj h ▸ .frame _ _ _
    · cases h
  · split at h
    · exact Option.some.inj h ▸ .handle _ _ _
    · cases h
  · split at h
    · exact Option.some.inj h ▸ .closeFrame _ _ _
    · cases h
  · split at h
    · split at h
      · cases h
      · rename_i hl
        exact Option.some.inj h ▸ .lossSeen _ _ (by simpa using hl)
    · cases h
  · split at h
    · exact Option.some.inj h ▸ .pong _
    · cases h
  · split at h
    · exact Option.some.inj h ▸ .pongTimeout _
    · cases h
  · split at h
    · exact Option.some.inj h ▸ .closeDone _ _ _
    · cases h
  · split at h
    · exact Option.some.inj h ▸ .closeCut _ _ _
    · cases h
  · cases h

/-- The four ways a task comes to move: it is cancelled, its handlers or sleep are over,
the task it waited for has ended, or what it waited for has happened. -/
inductive Moves (c : Client) (k : Nat) (t : AsyncTask) : Action → Move → Prop
  | cancelled (ht : t.cancelled = true) (hw : WebSocket.awaits t.point = none) :
      Moves c k t (.resume k) c.shared.finish
  | resumed {m : Move} (ht : t.cancelled = false) (hw : WebSocket.awaits t.point = none)
      (hm : c.shared.resume k t.point = some m) : Moves c k t (.resume k) m
  | awaited {u : Nat} {raised : Bool} {m : Move} (hw : WebSocket.awaits t.point = some u)
      (hu : (u = k ∧ raised = false) ∨ ∃ s, c.tasks[u]? = some s ∧ s.point = .done raised)
      (hm : c.shared.awaited raised t.point = some m) : Moves c k t (.resume k) m
  | reacts {a : Action} {m : Move} (ha : actor a = some k) (ht : t.cancelled = false)
      (hm : Reacts c.shared k a t.point m) : Moves c k t a m

theorem moves_of_moveOf {c : Client} {k : Nat} {t : AsyncTask} {a : Action} {m : Move}
    (ha : actor a = some k) (hc : t.cancelled = true → a = .resume k)
    (h : c.moveOf k t a = some m) : Moves c k t a m := by
  unfold moveOf at h
  split at h
  · obtain rfl := Option.some.inj ha
    unfold resumed at h
    split at h
    · rename_i u hu
      split at h
      · rename_i huk
        exact .awaited hu (.inl ⟨huk, rfl⟩) h
      · split at h
        · rename_i hs
          exact .awaited hu (.inr ⟨_, hs, rfl⟩) h
        · cases h
    · rename_i hw
      split at h
      · rename_i ht
        exact Option.some.inj h ▸ .cancelled ht hw
      · rename_i ht
        exact .resumed (by simpa using ht) hw h
  · rename_i hne
    refine .reacts ha ?_ (reacts_of_react h)
    by_contra ht
    exact hne _ (hc (by simpa using ht))

/-- A task that makes a move has not ended. -/
theorem live_of_resume {w : WebSocket} {k : Nat} {t : AsyncTask} {m : Move}
    (hm : w.resume k t.point = some m) : t.live = true := by
  unfold AsyncTask.live
  generalize t.point = p at hm ⊢
  cases p <;> first
    | rfl
    | cases hm

theorem live_of_awaited {w : WebSocket} {t : AsyncTask} {raised : Bool} {m : Move}
    (hm : w.awaited raised t.point = some m) : t.live = true := by
  unfold AsyncTask.live
  generalize t.point = p at hm ⊢
  cases p <;> first
    | rfl
    | cases hm

theorem live_of_reacts {w : WebSocket} {k : Nat} {t : AsyncTask} {a : Action} {m : Move}
    (hm : Reacts w k a t.point m) : t.live = true := by
  unfold AsyncTask.live
  generalize t.point = p at hm ⊢
  cases hm <;> rfl

/-- The six kinds of steps. -/
theorem step_cases {c c' : Client} {a : Action} (h : c.step a = some c') :
    (∃ d, a = .advance d ∧ c' = c.share { c.shared with now := c.shared.now + d }) ∨
    (∃ l, a = .linkLost l ∧ c' = c.share (c.shared.setLink l (fun x => { x with isOpen := false }))) ∨
    (a = .connect ∧ c' = c.enter .connect c.shared.connect) ∨
    (∃ args, a = .close args ∧ c' = c.enter .close (c.shared.close args)) ∨
    (∃ k t, a = .resume k ∧ c.tasks[k]? = some t ∧ t.cancelled = false ∧
      c.shared.starts t.point = true ∧ c' = c.start k t.kind) ∨
    (∃ k t m, c.tasks[k]? = some t ∧ Moves c k t a m ∧ c' = c.run k t.kind m) := by
  -- The actions that name a task share one branch of `step`.
  have hrun : ∀ k, actor a = some k →
      ((actor a).bind (fun k => (c.tasks[k]?).bind (fun t =>
        if t.cancelled ∧ a ≠ .resume k then none
        else if a = .resume k ∧ t.cancelled = false ∧ c.shared.starts t.point = true then
          some (c.start k t.kind)
        else (c.moveOf k t a).map (fun m => c.run k t.kind m))) = some c') →
      (∃ k t, a = .resume k ∧ c.tasks[k]? = some t ∧ t.cancelled = false ∧
        c.shared.starts t.point = true ∧ c' = c.start k t.kind) ∨
      (∃ k t m, c.tasks[k]? = some t ∧ Moves c k t a m ∧ c' = c.run k t.kind m) := by
    intro k hk hstep
    rw [hk] at hstep
    obtain ⟨j, hj, hstep⟩ := Option.bind_eq_some_iff.mp hstep
    cases hj
    obtain ⟨t, ht, hstep⟩ := Option.bind_eq_some_iff.mp hstep
    split at hstep
    · cases hstep
    · rename_i hc
      split at hstep
      · rename_i hs
        exact .inl ⟨k, t, hs.1, ht, hs.2.1, hs.2.2, (Option.some.inj hstep).symm⟩
      obtain ⟨m, hm, rfl⟩ := Option.map_eq_some_iff.mp hstep
      exact .inr ⟨k, t, m, ht, moves_of_moveOf hk (fun hct => by_contra (fun hne => hc ⟨hct, hne⟩)) hm, rfl⟩
  cases a with
  | advance d =>
    simp only [step] at h
    split at h
    · exact .inl ⟨d, rfl, (Option.some.inj h).symm⟩
    · cases h
  | linkLost l => exact .inr (.inl ⟨l, rfl, (Option.some.inj h).symm⟩)
  | connect => exact .inr (.inr (.inl ⟨rfl, (Option.some.inj h).symm⟩))
  | close args => exact .inr (.inr (.inr (.inl ⟨args, rfl, (Option.some.inj h).symm⟩)))
  | _ => exact .inr (.inr (.inr (.inr (hrun _ rfl h))))

/-- The task that moved stands where its move left it. -/
theorem getElem?_run_self {c : Client} {k : Nat} {kind : Kind} {m : Move}
    (hk : k < c.tasks.length) : ∃ b, (c.run k kind m).tasks[k]? =
      some { kind, point := (AsyncTask.settle k kind m).point, cancelled := b } := by
  obtain ⟨b, hb⟩ := getElem?_cancelOpt (AsyncTask.settle k kind m).cancel
    (Pool.getElem?_move_self (m := (AsyncTask.settle k kind m).toPool kind) hk)
  exact ⟨b, hb⟩

/-- Something that holds of a move holds of the task that moved. -/
theorem exists_run_self {Q : WebSocket → Point → Prop} {c : Client} {k : Nat} {kind : Kind}
    {m : Move} (hk : k < c.tasks.length) (h : Q m.ws (AsyncTask.settle k kind m).point) :
    ∃ t, (c.run k kind m).tasks[k]? = some t ∧ Q (c.run k kind m).shared t.point := by
  obtain ⟨b, hb⟩ : ∃ b, (c.run k kind m).tasks[k]? = some ⟨kind, _, b⟩ := getElem?_run_self hk
  refine ⟨_, hb, ?_⟩
  rw [shared_run]
  exact h

theorem actor_of_moves {c : Client} {k : Nat} {t : AsyncTask} {a : Action} {m : Move}
    (h : Moves c k t a m) : actor a = some k := by
  cases h with
  | reacts ha => exact ha
  | _ => rfl

/-- A step that names task `k`: the task starts those of a connection, or makes a move. -/
theorem step_of_actor {c c' : Client} {k : Nat} {a : Action} (ha : actor a = some k)
    (h : c.step a = some c') : ∃ t, c.tasks[k]? = some t ∧
      ((a = .resume k ∧ t.cancelled = false ∧ c.shared.starts t.point = true ∧
          c' = c.start k t.kind) ∨
        ∃ m, Moves c k t a m ∧ c' = c.run k t.kind m) := by
  rcases step_cases h with ⟨d, rfl, -⟩ | ⟨l, rfl, -⟩ | ⟨rfl, -⟩ | ⟨args, rfl, -⟩ |
    ⟨j, t, rfl, ht, hc, hst, rfl⟩ | ⟨j, t, m, ht, hm, rfl⟩
  · cases ha
  · cases ha
  · cases ha
  · cases ha
  · obtain rfl := Option.some.inj ha
    exact ⟨t, ht, .inl ⟨rfl, hc, hst, rfl⟩⟩
  · obtain rfl : j = k := Option.some.inj ((actor_of_moves hm).symm.trans ha)
    exact ⟨t, ht, .inr ⟨m, hm, rfl⟩⟩

/-- A step with which something happens to task `k`. -/
theorem reacts_of_step {c c' : Client} {k : Nat} {a : Action} (ha : actor a = some k)
    (hne : a ≠ .resume k) (h : c.step a = some c') : ∃ t m, c.tasks[k]? = some t ∧
      t.cancelled = false ∧ Reacts c.shared k a t.point m ∧ c' = c.run k t.kind m := by
  obtain ⟨t, ht, ⟨hr, -⟩ | ⟨m, hm, rfl⟩⟩ := step_of_actor ha h
  · exact (hne hr).elim
  · cases hm with
    | reacts _ hc hm => exact ⟨t, m, ht, hc, hm, rfl⟩
    | _ => exact (hne rfl).elim

/-- A move or a first move of task `k`: the object is what it left, task `k` stands at `p`,
and the others where they stood. -/
structure Moved (c c' : Client) (k : Nat) (kind : Kind) (w : WebSocket) (p : Point) : Prop where
  shared : c'.shared = w
  tasks : ∀ (j : Nat) (u : AsyncTask), c'.tasks[j]? = some u →
    (j = k ∧ u.kind = kind ∧ u.point = p) ∨
      (j ≠ k ∧ ∃ v, c.tasks[j]? = some v ∧ u.kind = v.kind ∧ u.point = v.point)

theorem moved_run {c : Client} {k : Nat} {kind : Kind} {m : Move} (hk : k < c.tasks.length) :
    Moved c (c.run k kind m) k kind m.ws (AsyncTask.settle k kind m).point := by
  refine ⟨shared_run .., fun j u hj => ?_⟩
  obtain ⟨v, hv, hkind, hpoint⟩ := getElem?_of_cancelOpt _ hj
  rcases Pool.getElem?_move hk hv with ⟨rfl, rfl⟩ | ⟨hne, hv⟩ | ⟨i, -, hi⟩
  · exact .inl ⟨rfl, hkind, hpoint⟩
  · exact .inr ⟨hne, v, hv, hkind, hpoint⟩
  · cases hi

theorem moved_enter {c : Client} {kind : Kind} {m : Move} :
    Moved c (c.enter kind m) c.tasks.length kind m.ws m.point := by
  refine ⟨shared_enter .., fun j u hj => ?_⟩
  obtain ⟨v, hv, hkind, hpoint⟩ := getElem?_of_cancelOpt _ hj
  rcases Pool.getElem?_call hv with hv | ⟨rfl, rfl⟩ | ⟨i, -, hi⟩
  · have hlt : j < c.tasks.length := (List.getElem?_eq_some_iff.mp hv).1
    exact .inr ⟨by omega, v, hv, hkind, hpoint⟩
  · exact .inl ⟨rfl, hkind, hpoint⟩
  · cases hi

/-- The object changes by itself: nobody moves. -/
theorem moved_share {c : Client} {s : WebSocket} :
    Moved c (c.share s) c.tasks.length .connect s (.done true) := by
  refine ⟨rfl, fun j u hj => .inr ⟨?_, u, hj, rfl, rfl⟩⟩
  have hlt : j < c.tasks.length := (List.getElem?_eq_some_iff.mp hj).1
  omega

/-! ## Invariants of the tasks -/

variable {L : WebSocket → Nat → AsyncTask → Prop} {c : Client} {k : Nat}

/-- Interference freedom for a move of task `k`. -/
theorem each_run (hL : Flagless L) (h : c.Each L) {t : AsyncTask} (hk : c.tasks[k]? = some t)
    {m : Move} (self : L m.ws k { kind := t.kind, point := (AsyncTask.settle k t.kind m).point })
    (stable : ∀ j u, j ≠ k → c.tasks[j]? = some u → L c.shared j u → L m.ws j u) :
    Pool.Each L (c.run k t.kind m) := by
  have hlt : k < c.tasks.length := (List.getElem?_eq_some_iff.mp hk).1
  refine each_cancelOpt hL (h.move hlt ?_ ?_ ?_) _
  · simpa [Move.toPool] using self
  · simp [Move.toPool]
  · simpa [Move.toPool] using stable

/-- Interference freedom for a call. -/
theorem each_enter (hL : Flagless L) (h : c.Each L) {kind : Kind} {m : Move}
    (self : L m.ws c.tasks.length { kind, point := m.point })
    (stable : ∀ j u, c.tasks[j]? = some u → L c.shared j u → L m.ws j u) :
    Pool.Each L (c.enter kind m) := by
  refine each_cancelOpt hL (h.call ?_ ?_ ?_) _
  · simpa [Move.toPool] using self
  · simp [Move.toPool]
  · simpa [Move.toPool] using stable

/-- The tasks of a connection stand at their starts, the message loop last. -/
theorem mem_startTasks {ws : WebSocket} {fresh i : Nat} {u : AsyncTask}
    (h : (ws.startTasks fresh).2[i]? = some u) :
    u = ⟨.heartbeat, .beatSleep, false⟩ ∨ u = ⟨.ageTimer, .ageSleep, false⟩ ∨
      (u = ⟨.messageLoop, .loopStart, false⟩ ∧
        (ws.startTasks fresh).1.messageTask = some (fresh + i)) := by
  unfold WebSocket.startTasks at h ⊢
  cases hb : ws.settings.heartbeat <;> cases ha : ws.settings.maxConnectionAge <;>
    simp only [hb, ha, Bool.false_eq_true, if_true, if_false, List.nil_append, List.cons_append,
      List.length_nil, List.length_cons, Nat.add_zero] at h ⊢
  · match i, h with
    | 0, h => exact .inr (.inr ⟨(Option.some.inj h).symm, rfl⟩)
  · match i, h with
    | 0, h => exact .inr (.inl (Option.some.inj h).symm)
    | 1, h => exact .inr (.inr ⟨(Option.some.inj h).symm, rfl⟩)
  · match i, h with
    | 0, h => exact .inl (Option.some.inj h).symm
    | 1, h => exact .inr (.inr ⟨(Option.some.inj h).symm, rfl⟩)
  · match i, h with
    | 0, h => exact .inl (Option.some.inj h).symm
    | 1, h => exact .inr (.inl (Option.some.inj h).symm)
    | 2, h => exact .inr (.inr ⟨(Option.some.inj h).symm, rfl⟩)

/-- A property of neither the heartbeat nor the age timer holds of one new task at most. -/
theorem countP_startTasks {ws : WebSocket} {fresh : Nat} {P : AsyncTask → Bool}
    (beat : P ⟨.heartbeat, .beatSleep, false⟩ = false)
    (age : P ⟨.ageTimer, .ageSleep, false⟩ = false) : (ws.startTasks fresh).2.countP P ≤ 1 := by
  have hloop : [(⟨.messageLoop, .loopStart, false⟩ : AsyncTask)].countP P ≤ 1 :=
    List.countP_le_length
  unfold WebSocket.startTasks
  cases ws.settings.heartbeat <;> cases ws.settings.maxConnectionAge <;>
    simpa [List.countP_cons, beat, age] using hloop

/-- Interference freedom for the start of a connection's tasks. -/
theorem each_start (h : c.Each L) {t : AsyncTask} (hk : c.tasks[k]? = some t)
    (self : L (c.shared.startTasks c.tasks.length).1 k { kind := t.kind, point := .done false })
    (beat : ∀ j, L (c.shared.startTasks c.tasks.length).1 j ⟨.heartbeat, .beatSleep, false⟩)
    (age : ∀ j, L (c.shared.startTasks c.tasks.length).1 j ⟨.ageTimer, .ageSleep, false⟩)
    (loop : ∀ j, (c.shared.startTasks c.tasks.length).1.messageTask = some j →
      L (c.shared.startTasks c.tasks.length).1 j ⟨.messageLoop, .loopStart, false⟩)
    (stable : ∀ j u, j ≠ k → c.tasks[j]? = some u → L c.shared j u →
      L (c.shared.startTasks c.tasks.length).1 j u) :
    Pool.Each L (c.start k t.kind) := by
  have hlt : k < c.tasks.length := (List.getElem?_eq_some_iff.mp hk).1
  refine h.move hlt self (fun i u hu => ?_) stable
  rcases mem_startTasks hu with rfl | rfl | ⟨rfl, hm⟩
  · exact beat _
  · exact age _
  · exact loop _ hm

variable {P : AsyncTask → Bool}

/-- The moving task keeps `P` or drops it. -/
theorem atMostOne_run (hP : ∀ t b, P { t with cancelled := b } = P t) (h : c.AtMostOne P)
    {t : AsyncTask} (hk : c.tasks[k]? = some t) {m : Move}
    (hm : P { kind := t.kind, point := (AsyncTask.settle k t.kind m).point } = true → P t = true) :
    Pool.AtMostOne P (c.run k t.kind m) := by
  refine atMostOne_cancelOpt hP (h.pass hk ?_) _
  simp only [Move.toPool, List.countP_cons, List.countP_nil, settle_ws]
  by_cases hPt : P t = true
  · simp only [hPt, if_true]
    split <;> omega
  · rw [if_neg (fun hp => hPt (hm hp))]
    omega

/-- The moving task takes `P`. -/
theorem atMostOne_run_take (hP : ∀ t b, P { t with cancelled := b } = P t) {t : AsyncTask}
    (hk : c.tasks[k]? = some t) {m : Move}
    (hothers : ∀ (j : Nat) (u : AsyncTask), j ≠ k → c.tasks[j]? = some u → P u = false) :
    Pool.AtMostOne P (c.run k t.kind m) := by
  refine atMostOne_cancelOpt hP (Pool.AtMostOne.take hk hothers ?_) _
  exact List.countP_le_length

theorem atMostOne_enter (hP : ∀ t b, P { t with cancelled := b } = P t) (h : c.AtMostOne P)
    {kind : Kind} {m : Move} (hm : P { kind, point := m.point } = false) :
    Pool.AtMostOne P (c.enter kind m) := by
  refine atMostOne_cancelOpt hP (h.call ?_) _
  simp [Move.toPool, hm]

theorem atMostOne_enter_take (hP : ∀ t b, P { t with cancelled := b } = P t) {kind : Kind} {m : Move}
    (hnone : ∀ (j : Nat) (t : AsyncTask), c.tasks[j]? = some t → P t = false) :
    Pool.AtMostOne P (c.enter kind m) := by
  refine atMostOne_cancelOpt hP (Pool.AtMostOne.call_take hnone ?_) _
  exact List.countP_le_length

/-- A starting task has or hands on `P`. -/
theorem atMostOne_start (h : c.AtMostOne P) {t : AsyncTask} (hk : c.tasks[k]? = some t)
    (hm : ({ kind := t.kind, point := .done false } ::
      (c.shared.startTasks c.tasks.length).2).countP P ≤ [t].countP P) :
    Pool.AtMostOne P (c.start k t.kind) :=
  h.pass hk hm

end Client
end JetSocket.Manager
