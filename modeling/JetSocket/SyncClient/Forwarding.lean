import JetSocket.Manager.Consumers
import JetSocket.SyncClient.Consumers
import Mathlib.Data.List.ReduceOption

/- Where the messages of the synchronous client are (`sync_client.py`, `manager.py`).

   The client takes its messages from a queue of its own. `_on_message`, a handler of the
   WebSocket in the background thread, puts each message there. When the handlers are over, the
   message loop puts the same message into the queue of the WebSocket, for a `recv` of the
   WebSocket that the client never calls.

   `arrived` has the messages that were forwarded, and `taken` those that the user got.

   Correspondence (Python ↔ Lean):
     `connect`, up to the start of the thread  ↔ `Input.connect`
     `self._manager = WebSocket(...)`          ↔ `Input.create`
     `connect` returns, or raises              ↔ `Input.returned`, `Input.failed` where it stops
                                                 the thread
     the background event loop                 ↔ `Input.base`
     `_on_message`                             ↔ `Input.forward`
     `recv`, `__next__`                        ↔ `Input.recv`, `Input.next`, where they take an item
     `close`                                   ↔ `Input.close`, `Input.signal`, `Input.finish`

   What is proved:
     `delivered_step`   — what was forwarded was taken or is in the client's queue.
     `kept_run`         — what is in the WebSocket's queue stays there as long as the WebSocket.
     `nothing_kept_iff` — no message that was taken is held in exactly the runs in which the
                          WebSocket puts a message while there are others to take, and the last
                          one is taken while the WebSocket has put none. -/
namespace JetSocket.SyncClient
open JetSocket.Manager Transition

variable {M : Type}

/-! ## The WebSocket in the background -/

/-- The tasks, the queue, and for each message loop the message that `_on_message` has got and
that is not in the queue yet. -/
structure Background (M : Type) where
  client : Client
  messageQueue : List M
  forwarded : Nat → Option M

namespace Background

def new (settings : Settings) (backoff : BackoffConfig) : Background M :=
  { client := Client.init settings backoff, messageQueue := [], forwarded := fun _ => none }

/-- `_on_message`, called among the handlers of `message` by task `k`. -/
def forward (b : Background M) (k : Nat) (message : M) : Option (Background M) :=
  if b.client.puts (.resume k) && (b.forwarded k).isNone then
    some { b with forwarded := Function.update b.forwarded k (some message) }
  else none

/-- The message that the step puts into the queue. -/
def putting (b : Background M) (a : Action) : Option M :=
  if b.client.puts a then (Client.actor a).bind b.forwarded else none

/-- One step. The handlers of `message` are over when `_on_message` has been called. -/
def step (b : Background M) (a : Action) : Option (Background M) :=
  if b.client.puts a && (b.putting a).isNone then none
  else (b.client.step a).map (fun client =>
    { client
      messageQueue := b.messageQueue ++ (b.putting a).toList
      forwarded := (Client.actor a).elim b.forwarded
        (fun k => Function.update b.forwarded k none) })

variable {b b' : Background M} {a : Action} {k : Nat} {message : M}

theorem forwarded_of_putting (h : b.putting a = some message) :
    ∃ k, b.forwarded k = some message := by
  unfold putting at h
  split at h
  · obtain ⟨k, -, hk⟩ := Option.bind_eq_some_iff.mp h
    exact ⟨k, hk⟩
  · cases h

theorem putting_of_not_puts (h : b.client.puts a = false) : b.putting a = none := by
  unfold putting
  rw [h]
  rfl

/-- A step puts the message of the loop that goes on, if any, and forgets it. -/
theorem step_eq (h : b.step a = some b') :
    b'.messageQueue = b.messageQueue ++ (b.putting a).toList ∧
      (b.client.puts a = true → ∃ message, b.putting a = some message) ∧
        ∀ k message, b'.forwarded k = some message → b.forwarded k = some message := by
  unfold step at h
  split at h
  · cases h
  · rename_i hover
    obtain ⟨client, -, rfl⟩ := Option.map_eq_some_iff.mp h
    refine ⟨rfl, fun hputs => ?_, fun k message hk => ?_⟩
    · rw [hputs, Bool.true_and, Option.isNone_iff_eq_none] at hover
      exact Option.ne_none_iff_exists'.mp hover
    · dsimp only at hk
      cases hactor : Client.actor a with
      | none =>
        rw [hactor] at hk
        exact hk
      | some j =>
        rw [hactor] at hk
        dsimp only [Option.elim_some] at hk
        rw [Function.update_apply] at hk
        split at hk
        · cases hk
        · exact hk

theorem forward_eq (h : b.forward k message = some b') :
    b' = { b with forwarded := Function.update b.forwarded k (some message) } := by
  unfold forward at h
  split at h
  · exact (Option.some.inj h).symm
  · cases h

end Background

/-! ## The client -/

/-- `thread` is whether `_thread` is set, `starting` whether it has yet to make the WebSocket, and
`connecting` whether a call of `connect` goes on. In the queue, `none` is `_SHUTDOWN`. -/
structure Delivering (M : Type) where
  settings : Settings
  backoff : BackoffConfig
  manager : Option (Background M)
  messageQueue : List (Option M)
  phase : ClosePhase
  thread : Bool
  starting : Bool
  connecting : Bool
  arrived : List M
  taken : List M

namespace Delivering

inductive Input (M : Type) where
  | connect
  | create
  | returned
  | failed
  | base (a : Action)
  | forward (task : Nat) (message : M)
  | recv
  | next
  | close
  | signal
  | finish

/-- The inputs of `connect` and `close`. -/
def Input.lifecycle : Input M → Bool
  | .base _ | .forward _ _ | .recv | .next => false
  | _ => true

def new (settings : Settings) (backoff : BackoffConfig) : Delivering M :=
  { settings, backoff, manager := none, messageQueue := [], phase := .idle, thread := false
    starting := false, connecting := false, arrived := [], taken := [] }

/-- `_closed`. -/
def closed (s : Delivering M) : Bool := s.phase != .idle

/-- The calls of `connect` and `close` on the WebSocket are those of the client. -/
def calls (s : Delivering M) : Action → Bool
  | .connect => s.connecting
  | .close _ => s.phase == .signalled
  | _ => true

/-- `self._message_queue.get(...)`. On an empty queue it is no step. -/
def get (s : Delivering M) : Option (Delivering M) :=
  match s.messageQueue with
  | [] => none
  | some message :: rest => some { s with messageQueue := rest, taken := s.taken ++ [message] }
  | none :: rest => some { s with messageQueue := rest }

def step (s : Delivering M) : Input M → Option (Delivering M)
  | .connect =>
    if s.closed || s.thread then some s
    else some { s with thread := true, starting := true, connecting := true }
  | .create =>
    if s.starting then
      some { s with starting := false, manager := some (Background.new s.settings s.backoff) }
    else none
  | .returned => if s.connecting then some { s with connecting := false } else none
  | .failed =>
    if s.connecting && !s.starting then
      some { s with connecting := false, thread := false, manager := none }
    else none
  | .base a =>
    if s.calls a then
      (s.manager.bind (fun b => b.step a)).map (fun b => { s with manager := some b })
    else none
  | .forward task message =>
    (s.manager.bind (fun b => b.forward task message)).map (fun b =>
      { s with
        manager := some b
        messageQueue := s.messageQueue ++ [some message]
        arrived := s.arrived ++ [message] })
  | .recv | .next => s.get
  | .close => if s.closed then some s else some { s with phase := .flagged }
  | .signal =>
    if s.phase = .flagged then
      some { s with messageQueue := s.messageQueue ++ [none], phase := .signalled }
    else none
  | .finish =>
    if s.phase = .signalled then
      some { s with phase := .finished, thread := false, manager := none }
    else none

end Delivering

/-- **No delivered message is kept**: when the user has taken all that arrived, neither queue holds
any of it. -/
def NothingKept (s : Delivering M) : Prop :=
  s.taken = s.arrived →
    ∀ message ∈ s.arrived, some message ∉ s.messageQueue ∧
      ∀ b ∈ s.manager, message ∉ b.messageQueue

/-- Where nothing is kept: the WebSocket puts a message while there is one to take, and the last
one is taken while the queue of the WebSocket is empty. -/
def Clears (s : Delivering M) : Delivering.Input M → Prop
  | .base a => ∀ b ∈ s.manager, b.client.puts a = true → s.taken ≠ s.arrived
  | .recv | .next =>
    ∀ message rest, s.messageQueue = some message :: rest → (∀ item ∈ rest, item = none) →
      ∀ b ∈ s.manager, b.messageQueue = []
  | _ => True

/-- What arrived was taken or is still to take, and the WebSocket has nothing else. -/
structure Delivered (s : Delivering M) : Prop where
  arrived : s.arrived = s.taken ++ s.messageQueue.reduceOption
  held : ∀ b ∈ s.manager, ∀ message ∈ b.messageQueue, message ∈ s.arrived
  forwarded : ∀ b ∈ s.manager, ∀ k message, b.forwarded k = some message → message ∈ s.arrived

section Steps
variable {s s' : Delivering M}

theorem Delivered.taken_eq_iff (h : Delivered s) :
    s.taken = s.arrived ↔ s.messageQueue.reduceOption = [] := by
  rw [h.arrived, List.self_eq_append_right]

theorem reduceOption_eq_nil_iff_forall {items : List (Option M)} :
    items.reduceOption = [] ↔ ∀ item ∈ items, item = none := by
  unfold List.reduceOption
  rw [List.filterMap_eq_nil_iff]
  exact Iff.rfl

/-- The user's own queue holds nothing that was taken. -/
theorem Delivered.nothingKept_iff (h : Delivered s) :
    NothingKept s ↔ (s.taken = s.arrived → ∀ b ∈ s.manager, b.messageQueue = []) := by
  refine forall_congr' (fun htaken => ?_)
  constructor
  · intro hnone b hb
    rw [List.eq_nil_iff_forall_not_mem]
    intro message hmessage
    exact (hnone message (h.held b hb message hmessage)).2 b hb hmessage
  · intro hempty message _
    refine ⟨fun hqueue => ?_, fun b hb hmessage => ?_⟩
    · have hnil := reduceOption_eq_nil_iff_forall.mp (h.taken_eq_iff.mp htaken)
      cases hnil _ hqueue
    · rw [hempty b hb] at hmessage
      cases hmessage

theorem delivered_new (settings : Settings) (backoff : BackoffConfig) :
    Delivered (Delivering.new settings backoff : Delivering M) :=
  ⟨rfl, fun _ hb => (by cases hb), fun _ hb => (by cases hb)⟩

/-- A step of `connect` or `close`: no message is delivered, and the WebSocket is the one before,
or a new one, or there is none. -/
structure Lifecycle (s s' : Delivering M) : Prop where
  arrived : s'.arrived = s.arrived
  taken : s'.taken = s.taken
  messages : s'.messageQueue.reduceOption = s.messageQueue.reduceOption
  manager : ∀ b ∈ s'.manager, b ∈ s.manager ∨ b = Background.new s.settings s.backoff

theorem lifecycle_of_step {input : Delivering.Input M} (hinput : input.lifecycle = true)
    (hs : s.step input = some s') : Lifecycle s s' := by
  have hsame : ∀ b ∈ s.manager, b ∈ s.manager ∨ b = Background.new s.settings s.backoff :=
    fun b hb => .inl hb
  cases input with
  | base | forward | recv | next => cases hinput
  | connect | close =>
    simp only [Delivering.step] at hs
    split at hs
    all_goals
      cases hs
      exact ⟨rfl, rfl, rfl, hsame⟩
  | create =>
    simp only [Delivering.step] at hs
    split at hs
    · cases hs
      exact ⟨rfl, rfl, rfl, fun b hb => .inr (Option.some.inj hb).symm⟩
    · cases hs
  | returned =>
    simp only [Delivering.step] at hs
    split at hs
    · cases hs
      exact ⟨rfl, rfl, rfl, hsame⟩
    · cases hs
  | failed | finish =>
    simp only [Delivering.step] at hs
    split at hs
    · cases hs
      exact ⟨rfl, rfl, rfl, fun b hb => (by cases hb)⟩
    · cases hs
  | signal =>
    simp only [Delivering.step] at hs
    split at hs
    · cases hs
      refine ⟨rfl, rfl, ?_, hsame⟩
      dsimp only
      rw [List.reduceOption_append]
      exact List.append_nil _
    · cases hs

theorem base_eq {a : Action} (hs : s.step (.base a) = some s') :
    ∃ b b', b ∈ s.manager ∧ b.step a = some b' ∧ s' = { s with manager := some b' } := by
  simp only [Delivering.step] at hs
  split at hs
  · obtain ⟨b', hb', rfl⟩ := Option.map_eq_some_iff.mp hs
    obtain ⟨b, hb, hstep⟩ := Option.bind_eq_some_iff.mp hb'
    exact ⟨b, b', hb, hstep, rfl⟩
  · cases hs

theorem forward_eq {task : Nat} {message : M} (hs : s.step (.forward task message) = some s') :
    ∃ b b', b ∈ s.manager ∧ b.forward task message = some b' ∧
      s' = { s with
        manager := some b'
        messageQueue := s.messageQueue ++ [some message]
        arrived := s.arrived ++ [message] } := by
  obtain ⟨b', hb', rfl⟩ := Option.map_eq_some_iff.mp hs
  obtain ⟨b, hb, hstep⟩ := Option.bind_eq_some_iff.mp hb'
  exact ⟨b, b', hb, hstep, rfl⟩

/-- A step of the WebSocket. -/
theorem Delivered.base (h : Delivered s) {b b' : Background M} {a : Action} (hb : b ∈ s.manager)
    (hs : b.step a = some b') : Delivered { s with manager := some b' } := by
  obtain ⟨hqueue, -, hfrom⟩ := Background.step_eq hs
  refine ⟨h.arrived, fun c hc message hmessage => ?_, fun c hc k message hk => ?_⟩
  · obtain rfl := Option.some.inj hc
    rw [hqueue] at hmessage
    obtain hmem | hput := List.mem_append.mp hmessage
    · exact h.held b hb message hmem
    · obtain ⟨k, hk⟩ := Background.forwarded_of_putting (Option.mem_toList.mp hput)
      exact h.forwarded b hb k message hk
  · obtain rfl := Option.some.inj hc
    exact h.forwarded b hb k message (hfrom k message hk)

/-- `_on_message`. -/
theorem Delivered.forward (h : Delivered s) {b b' : Background M} {task : Nat} {message : M}
    (hb : b ∈ s.manager) (hs : b.forward task message = some b') :
    Delivered { s with
      manager := some b'
      messageQueue := s.messageQueue ++ [some message]
      arrived := s.arrived ++ [message] } := by
  obtain rfl := Background.forward_eq hs
  refine ⟨?_, fun c hc other hother => ?_, fun c hc k other hk => ?_⟩
  · dsimp only
    rw [h.arrived, List.reduceOption_append, List.append_assoc]
    rfl
  · obtain rfl := Option.some.inj hc
    exact List.mem_append_left _ (h.held b hb other hother)
  · obtain rfl := Option.some.inj hc
    dsimp only at hk
    rw [Function.update_apply] at hk
    split at hk
    · obtain rfl := Option.some.inj hk
      exact List.mem_append_right _ (List.mem_singleton_self _)
    · exact List.mem_append_left _ (h.forwarded b hb k other hk)

/-- The user's `get`. -/
theorem Delivered.get (h : Delivered s) (hs : s.get = some s') : Delivered s' := by
  unfold Delivering.get at hs
  have harrived := h.arrived
  split at hs
  · cases hs
  · rename_i message rest hqueue
    cases hs
    refine ⟨?_, h.held, h.forwarded⟩
    rw [hqueue, List.reduceOption_cons_of_some] at harrived
    dsimp only
    rw [harrived, List.append_assoc]
    rfl
  · rename_i rest hqueue
    cases hs
    refine ⟨?_, h.held, h.forwarded⟩
    rw [hqueue, List.reduceOption_cons_of_none] at harrived
    exact harrived

/-- `connect` and `close`. -/
theorem Delivered.lifecycle (h : Delivered s) (hs : Lifecycle s s') : Delivered s' := by
  refine ⟨?_, fun b hb message hmessage => ?_, fun b hb k message hk => ?_⟩
  · rw [hs.arrived, hs.taken, hs.messages]
    exact h.arrived
  · rw [hs.arrived]
    obtain hold | rfl := hs.manager b hb
    · exact h.held b hold message hmessage
    · cases hmessage
  · rw [hs.arrived]
    obtain hold | rfl := hs.manager b hb
    · exact h.forwarded b hold k message hk
    · cases hk

/-- **One step** keeps account of each message. -/
theorem delivered_step (s : Delivering M) (input : Delivering.Input M) (s' : Delivering M)
    (h : Delivered s) (hs : s.step input = some s') : Delivered s' := by
  cases input with
  | base a =>
    obtain ⟨b, b', hb, hb', rfl⟩ := base_eq hs
    exact h.base hb hb'
  | forward task message =>
    obtain ⟨b, b', hb, hb', rfl⟩ := forward_eq hs
    exact h.forward hb hb'
  | recv | next => exact h.get hs
  | _ => exact h.lifecycle (lifecycle_of_step rfl hs)

/-! ## What each step leaves -/

theorem base_iff (h : Delivered s) (hkept : NothingKept s) {a : Action}
    (hs : s.step (.base a) = some s') : NothingKept s' ↔ Clears s (.base a) := by
  have hnone := h.nothingKept_iff.mp hkept
  rw [(delivered_step s _ s' h hs).nothingKept_iff]
  obtain ⟨b, b', hb, hb', rfl⟩ := base_eq hs
  obtain ⟨hqueue, hputs, -⟩ := Background.step_eq hb'
  constructor
  · intro hempty c hc hput htaken
    obtain rfl := Option.mem_unique hb hc
    obtain ⟨message, hmessage⟩ := hputs hput
    have hnil := hempty htaken b' rfl
    rw [hqueue, hmessage] at hnil
    exact List.append_ne_nil_of_right_ne_nil _ (List.cons_ne_nil _ _) hnil
  · intro hclears htaken c hc
    obtain rfl := Option.some.inj hc
    have hput : b.client.puts a = false :=
      Bool.eq_false_iff.mpr (fun hput => hclears b hb hput htaken)
    rw [hqueue, Background.putting_of_not_puts hput, hnone htaken b hb]
    rfl

/-- Behind `_on_message` there is a message to take. -/
theorem nothingKept_forward (h : Delivered s) {task : Nat} {message : M}
    (hs : s.step (.forward task message) = some s') : NothingKept s' := by
  intro htaken
  have hnil := (delivered_step s _ s' h hs).taken_eq_iff.mp htaken
  obtain ⟨b, b', -, -, rfl⟩ := forward_eq hs
  dsimp only at hnil
  rw [List.reduceOption_append] at hnil
  exact absurd hnil (List.append_ne_nil_of_right_ne_nil _ (List.cons_ne_nil _ _))

theorem get_iff (h : Delivered s) (hkept : NothingKept s) (hs : s.get = some s') :
    NothingKept s' ↔ Clears s .recv := by
  have h' : Delivered s' := h.get hs
  unfold Delivering.get at hs
  split at hs
  · cases hs
  · rename_i message rest hqueue
    cases hs
    rw [h'.nothingKept_iff, h'.taken_eq_iff, reduceOption_eq_nil_iff_forall]
    constructor
    · intro hempty other rest' hother hnone
      rw [hqueue] at hother
      cases hother
      exact hempty hnone
    · exact fun hclears => hclears message rest hqueue
  · rename_i rest hqueue
    cases hs
    rw [h'.nothingKept_iff]
    constructor
    · intro _ other rest' hother
      rw [hqueue] at hother
      cases hother
    · exact fun _ => h.nothingKept_iff.mp hkept

theorem nothingKept_lifecycle (h : Delivered s) (hkept : NothingKept s) (hs : Lifecycle s s') :
    NothingKept s' := by
  rw [(h.lifecycle hs).nothingKept_iff, hs.taken, hs.arrived]
  intro htaken b hb
  obtain hold | rfl := hs.manager b hb
  · exact h.nothingKept_iff.mp hkept htaken b hold
  · rfl

/-- **One step**, exactly. -/
theorem nothingKept_step_iff (s : Delivering M) (input : Delivering.Input M) (s' : Delivering M)
    (h : Delivered s) (hkept : NothingKept s) (hs : s.step input = some s') :
    NothingKept s' ↔ Clears s input := by
  cases input with
  | base a => exact base_iff h hkept hs
  | forward task message => exact iff_of_true (nothingKept_forward h hs) trivial
  | recv | next => exact get_iff h hkept hs
  | _ => exact iff_of_true (nothingKept_lifecycle h hkept (lifecycle_of_step rfl hs)) trivial

/-- What the queue of the WebSocket has stays in it, whatever the user takes. -/
theorem kept_step {b : Background M} (hb : b ∈ s.manager) {input : Delivering.Input M}
    (hinput : input.lifecycle = false) (hs : s.step input = some s') :
    ∃ b' ∈ s'.manager, b.messageQueue <+: b'.messageQueue := by
  cases input with
  | base a =>
    obtain ⟨c, b', hc, hb', rfl⟩ := base_eq hs
    obtain rfl := Option.mem_unique hb hc
    obtain ⟨hqueue, -, -⟩ := Background.step_eq hb'
    exact ⟨b', rfl, by rw [hqueue]; exact List.prefix_append _ _⟩
  | forward task message =>
    obtain ⟨c, b', hc, hb', rfl⟩ := forward_eq hs
    obtain rfl := Option.mem_unique hb hc
    obtain rfl := Background.forward_eq hb'
    exact ⟨_, rfl, List.prefix_refl _⟩
  | recv | next =>
    refine ⟨b, ?_, List.prefix_refl _⟩
    simp only [Delivering.step, Delivering.get] at hs
    split at hs
    · cases hs
    all_goals
      cases hs
      exact hb
  | _ => cases hinput

end Steps

/-- **Nothing leaves the queue of the WebSocket** while neither `connect` nor `close` goes on. -/
theorem kept_run {s s' : Delivering M} {b : Background M} (hb : b ∈ s.manager)
    {run : List (Delivering.Input M)} (hrun : ∀ input ∈ run, input.lifecycle = false)
    (he : exec Delivering.step s run = some s') :
    ∃ b' ∈ s'.manager, b.messageQueue <+: b'.messageQueue := by
  induction run generalizing s b with
  | nil =>
    cases he
    exact ⟨b, hb, List.prefix_refl _⟩
  | cons input run ih =>
    obtain ⟨t, ht, he⟩ := Option.bind_eq_some_iff.mp he
    obtain ⟨c, hc, hfirst⟩ := kept_step hb (hrun input List.mem_cons_self) ht
    obtain ⟨b', hb', hrest⟩ :=
      ih hc (fun other hother => hrun other (List.mem_cons_of_mem input hother)) he
    exact ⟨b', hb', hfirst.trans hrest⟩

/-- **No delivered message is kept**, exactly in the runs in which the WebSocket puts each message
while there is one to take, and the last one is taken while the queue of the WebSocket is empty. -/
theorem nothing_kept_iff (settings : Settings) (backoff : BackoffConfig)
    (run : List (Delivering.Input M)) :
    Always Delivering.step NothingKept (Delivering.new settings backoff) run ↔
      Meets Delivering.step Clears (Delivering.new settings backoff) run := by
  refine always_iff_meets_of_inv delivered_step nothingKept_step_iff run
    (delivered_new settings backoff) ?_
  intro _ message hmessage
  cases hmessage

/-- One message: the user takes it, and the WebSocket still has it. -/
def oneMessageRun : List (Delivering.Input Nat) :=
  [.connect, .create] ++ connectRun.map .base ++
    [.returned, .base (.frame 1 false), .base (.handle 1 (.message false)), .forward 1 5,
      .base (.resume 1), .recv]

theorem one_message_kept :
    ¬ Always Delivering.step NothingKept (Delivering.new plainSettings plainBackoff)
      oneMessageRun := by
  intro h
  obtain ⟨s, he, htaken, harrived, b, hb, hkept⟩ : ∃ s,
      exec Delivering.step (Delivering.new plainSettings plainBackoff) oneMessageRun = some s ∧
        s.taken = [5] ∧ s.arrived = [5] ∧ ∃ b ∈ s.manager, b.messageQueue = [5] :=
    ⟨_, rfl, rfl, rfl, _, rfl, rfl⟩
  have hnone := h.last he (htaken.trans harrived.symm) 5
    (by rw [harrived]; exact List.mem_singleton_self 5)
  refine hnone.2 b hb ?_
  rw [hkept]
  exact List.mem_singleton_self 5

end JetSocket.SyncClient
