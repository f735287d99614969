import JetSocket.Heartbeat
import JetSocket.Lib.Transition
import Mathlib.Data.List.DropRight

/- The cycles of one heartbeat loop (`heartbeat.py`): the steps of `_heartbeat_loop`, with
   `on_pong` and `on_application_message` called between any two of them.

   A cycle begins where the loop records its ping, before `send_ping` is awaited, and its wait
   ends at the latest with the timeout. What the callbacks do is up to the program that gave
   them: `send_ping` and `on_timeout` return or raise, at any time. The wait succeeds exactly
   if the event is set when it is over.

   `cycles` and `samples` are no part of the program: the cycles, the newest first, each with
   the calls processed until its wait was over; and the latencies taken, each with the number
   of pings recorded before it, which is the number of the ping it belongs to.

   Correspondence (Python ↔ Lean):
     `on_pong`, `on_application_message`  ↔ `HeartbeatManager.process`
     `_heartbeat_loop`, between two awaits ↔ the inputs of `Beat.step` up to `timeoutRaised`

   What is proved:
     1. `process_cases` — a call is ignored, or it records the latency of the ping that is out
        and sets the event.
     2. `kept_step` — the event, the ping time and the pending payload agree on whether the
        ping that is out has been answered.
     3. `cycle_law` — where `send_ping` returns, `on_timeout` is called for a cycle exactly when
        nothing answered its ping in time; each ping has one latency at most; and behind an
        `on_timeout` that returned there is no ping.
     4. `latencies_kept` — the samples of the manager are the last ten of these latencies. -/
namespace JetSocket
open JetSocket.Core Transition

variable {T : Type}

/-! ## What may answer a ping -/

/-- A call of `on_pong` or `on_application_message`. -/
inductive ReplyCall (T : Type) where
  | onPong (payload : Bytes)
  | onApplicationMessage (data : T)

/-- It answers the ping: it has the payload, or is a message that `pong_matcher` accepts. -/
def HeartbeatConfig.answeredBy (config : HeartbeatConfig T) : ReplyCall T → Bool
  | .onPong payload => payload == config.payload
  | .onApplicationMessage data =>
    match config.pongMatcher with
    | none => false
    | some pongMatcher =>
      match pongMatcher data with
      | .ok accepted => accepted
      | .error _ => false

namespace HeartbeatManager

/-- The manager behind the call. -/
def process (m : HeartbeatManager T) (now : ℚ) : ReplyCall T → HeartbeatManager T
  | .onPong payload => (m.onPong now payload).1
  | .onApplicationMessage data =>
    match m.onApplicationMessage now data with
    | .ok r => r.1
    | .error _ => m

/-- From `m` to `m'` the ping sent at `sent` is answered. -/
structure Recorded (m m' : HeartbeatManager T) (now sent : ℚ) : Prop where
  config : m'.config = m.config
  task : m'.task = m.task
  running : m'.running = m.running
  lastPingTime : m'.lastPingTime = none
  lastLatency : m'.lastLatency = some ((now - sent) * 1000)
  latencySamples : m'.latencySamples = (m.latencySamples ++ [(now - sent) * 1000]).drop
    ((m.latencySamples ++ [(now - sent) * 1000]).length - 10)
  pongEvent : m'.pongEvent = m.pongEvent.map (fun _ => true)

/-- What becomes of a call. Where the ping that is out has its payload pending, the call tells
whether it answers. -/
inductive Processed (m : HeartbeatManager T) (now : ℚ) (r : ReplyCall T) :
    HeartbeatManager T → Prop where
  | ignored (h : m.lastPingTime.isSome = true → m.pendingPayload = some m.config.payload →
      m.config.answeredBy r = false) : Processed m now r m
  | recorded {m' : HeartbeatManager T} {sent : ℚ} (hsent : m.lastPingTime = some sent)
      (h : m.pendingPayload = some m.config.payload → m.config.answeredBy r = true)
      (hm : Recorded m m' now sent) : Processed m now r m'

/-- **A call** is ignored, or answers the ping that is out. -/
theorem process_cases (m : HeartbeatManager T) (now : ℚ) (r : ReplyCall T) :
    Processed m now r (m.process now r) := by
  cases r with
  | onPong payload =>
    unfold process onPong
    cases hsent : m.lastPingTime with
    | none => exact .ignored (fun h => by simp [hsent] at h)
    | some sent =>
      dsimp only
      by_cases hother : m.pendingPayload.isSome ∧ m.pendingPayload ≠ some payload
      · rw [if_pos hother]
        refine .ignored (fun _ hpending => ?_)
        have hne : payload ≠ m.config.payload := by
          rintro rfl
          exact hother.2 hpending
        exact beq_false_of_ne hne
      · rw [if_neg hother]
        refine .recorded hsent (fun hpending => ?_) ⟨rfl, rfl, rfl, rfl, rfl, rfl, rfl⟩
        have heq : m.config.payload = payload := by
          by_contra hne
          refine hother ⟨by rw [hpending]; rfl, ?_⟩
          rw [hpending]
          exact fun h => hne (Option.some.inj h)
        exact beq_iff_eq.mpr heq.symm
  | onApplicationMessage data =>
    have refused : m.config.answeredBy (.onApplicationMessage data) = false →
        Processed m now (.onApplicationMessage data) m := fun h => .ignored (fun _ _ => h)
    unfold process onApplicationMessage
    cases hmatcher : m.config.pongMatcher with
    | none => exact refused (by simp [HeartbeatConfig.answeredBy, hmatcher])
    | some pongMatcher =>
      dsimp only
      cases hmatch : pongMatcher data with
      | error e => exact refused (by simp [HeartbeatConfig.answeredBy, hmatcher, hmatch])
      | ok accepted =>
        cases accepted with
        | false => exact refused (by simp [HeartbeatConfig.answeredBy, hmatcher, hmatch])
        | true =>
          cases hsent : m.lastPingTime with
          | none => exact .ignored (fun h => by simp [hsent] at h)
          | some sent =>
            refine .recorded hsent (fun _ => ?_) ⟨rfl, rfl, rfl, rfl, rfl, rfl, rfl⟩
            simp [HeartbeatConfig.answeredBy, hmatcher, hmatch]

/-- What no call touches. -/
theorem Processed.keeps {m m' : HeartbeatManager T} {now : ℚ} {r : ReplyCall T}
    (h : Processed m now r m') :
    m'.config = m.config ∧ m'.task = m.task ∧ m'.running = m.running ∧
      m'.pongEvent.isSome = m.pongEvent.isSome := by
  cases h with
  | ignored => exact ⟨rfl, rfl, rfl, rfl⟩
  | recorded _ _ hm =>
    refine ⟨hm.config, hm.task, hm.running, ?_⟩
    rw [hm.pongEvent, Option.isSome_map]

end HeartbeatManager

/-! ## The loop -/

/-- How a cycle ended: its wait succeeded; `on_timeout` was called, and is running, has returned
or has raised; or `send_ping` raised. -/
inductive CycleEnd where
  | answered
  | timedOut
  | timeoutReturned
  | timeoutRaised
  | pingRaised
  deriving DecidableEq

/-- `on_timeout` was called. -/
def CycleEnd.calledTimeout : CycleEnd → Bool
  | .timedOut | .timeoutReturned | .timeoutRaised => true
  | .answered | .pingRaised => false

/-- A cycle: when its ping was recorded, and what was processed until its wait was over. -/
structure HeartbeatCycle (T : Type) where
  sent : ℚ
  seen : List (ReplyCall T)
  ending : Option CycleEnd

namespace HeartbeatCycle

/-- A call is processed. -/
def see (c : HeartbeatCycle T) (r : ReplyCall T) : HeartbeatCycle T :=
  if c.ending.isNone then { c with seen := c.seen ++ [r] } else c

/-- One of the calls answers the ping. -/
def answered (config : HeartbeatConfig T) (c : HeartbeatCycle T) : Bool :=
  c.seen.any config.answeredBy

end HeartbeatCycle

/-- A manager whose loop runs. -/
structure Beat (T : Type) where
  manager : HeartbeatManager T
  now : ℚ
  cycles : List (HeartbeatCycle T)
  samples : List (Nat × ℚ)

/-- What can happen next. -/
inductive BeatInput (T : Type) where
  | elapse (d : ℚ)
  | sleepOver
  | pingReturned
  | pingRaised
  | pongSeen
  | waitOver
  | timeoutReturned
  | timeoutRaised
  | process (r : ReplyCall T)
  | stop

namespace Beat

/-- `start`, on a manager that may have run before. -/
def start (m : HeartbeatManager T) (now : ℚ) : Beat T :=
  { manager := m.start now, now, cycles := [], samples := [] }

/-- The cycle that runs ends. -/
def finish (s : Beat T) (m : HeartbeatManager T) (e : CycleEnd) : Beat T :=
  { s with manager := m, cycles := s.cycles.modifyHead (fun c => { c with ending := some e }) }

/-- The latency a call takes: the ping time is dropped with it. -/
def taken (s : Beat T) (m : HeartbeatManager T) : List (Nat × ℚ) :=
  match s.manager.lastPingTime, m.lastPingTime, m.lastLatency with
  | some _, none, some latency => [(s.cycles.length, latency)]
  | _, _, _ => []

/-- One step. -/
def step (s : Beat T) : BeatInput T → Option (Beat T)
  | .elapse d => if 0 ≤ d then some { s with now := s.now + d } else none
  | .sleepOver =>
    match s.manager.task with
    | .sleeping due =>
      if due ≤ s.now then
        let m := s.manager.beginPing s.now
        some { s with
          manager := m
          cycles :=
            if m.task = .pinging then { sent := s.now, seen := [], ending := none } :: s.cycles
            else s.cycles }
      else none
    | _ => none
  | .pingReturned =>
    if s.manager.task = .pinging then some { s with manager := s.manager.awaitPong s.now } else none
  -- the loop goes on behind an exception
  | .pingRaised =>
    if s.manager.task = .pinging then some (s.finish (s.manager.nextCycle s.now) .pingRaised)
    else none
  | .pongSeen =>
    match s.manager.task, s.manager.pongEvent with
    | .waiting _, some true => some (s.finish (s.manager.nextCycle s.now) .answered)
    | _, _ => none
  | .waitOver =>
    match s.manager.task with
    | .waiting deadline =>
      if deadline ≤ s.now then
        if s.manager.pongEvent = some true then
          some (s.finish (s.manager.nextCycle s.now) .answered)
        else some (s.finish (s.manager.pongTimeout s.now) .timedOut)
      else none
    | _ => none
  | .timeoutReturned =>
    if s.manager.task = .timedOut then
      some (s.finish { s.manager with task := .ended } .timeoutReturned)
    else none
  | .timeoutRaised =>
    if s.manager.task = .timedOut then some (s.finish (s.manager.nextCycle s.now) .timeoutRaised)
    else none
  | .process r =>
    let m := s.manager.process s.now r
    some { s with
      manager := m
      cycles := s.cycles.modifyHead (fun c => c.see r)
      samples := s.samples ++ s.taken m }
  | .stop => some { s with manager := s.manager.stop }

/-! ## What holds of the cycles -/

end Beat

namespace HeartbeatCycle

/-- The cycle is over, and another one follows. -/
def Over (c : HeartbeatCycle T) : Prop :=
  c.ending = some .answered ∨ c.ending = some .timeoutRaised ∨ c.ending = some .pingRaised

/-- `on_timeout` is called for the cycle exactly when nothing in it answered its ping; unless
`send_ping` raised. -/
def Lawful (config : HeartbeatConfig T) (c : HeartbeatCycle T) : Prop :=
  ∀ e, c.ending = some e → e ≠ .pingRaised →
    (e.calledTimeout = true ↔ ∀ r ∈ c.seen, config.answeredBy r = false)

variable {config : HeartbeatConfig T} {c : HeartbeatCycle T}

theorem answered_eq_false : c.answered config = false ↔
    ∀ r ∈ c.seen, config.answeredBy r = false := by
  simp [answered]

theorem see_ended (h : c.ending.isSome = true) (r : ReplyCall T) : c.see r = c := by
  unfold see
  rw [if_neg]
  rw [Option.isSome_iff_ne_none] at h
  simpa using h

theorem see_open (h : c.ending = none) (r : ReplyCall T) :
    c.see r = { c with seen := c.seen ++ [r] } := by
  unfold see
  rw [h]
  rfl

theorem Over.ended (h : c.Over) : c.ending.isSome = true := by
  obtain h | h | h := h <;> rw [h] <;> rfl

theorem Lawful.see (h : c.Lawful config) (r : ReplyCall T) : (c.see r).Lawful config := by
  cases he : c.ending with
  | none =>
    rw [see_open he]
    intro e hend
    rw [he] at hend
    cases hend
  | some e => rwa [see_ended (by rw [he]; rfl)]

/-- The end of `on_timeout`. -/
theorem Lawful.again {e : CycleEnd} (h : c.Lawful config) (hc : c.ending = some .timedOut)
    (hcalled : e.calledTimeout = true) : Lawful config { c with ending := some e } := by
  intro e' hend _
  cases hend
  exact iff_of_true hcalled ((h .timedOut hc nofun).mp rfl)

end HeartbeatCycle

namespace Beat
open HeartbeatCycle HeartbeatManager

/-- A ping that is out: the event, the ping time and the pending payload agree on whether it
has been answered. -/
structure Out (config : HeartbeatConfig T) (m : HeartbeatManager T) (c : HeartbeatCycle T) :
    Prop where
  unanswered : c.answered config = false → m.pongEvent = some false ∧
    m.lastPingTime = some c.sent ∧ m.pendingPayload = some config.payload
  answered : c.answered config = true → m.pongEvent = some true ∧ m.lastPingTime = none

/-- Where the loop stands, against its cycles. -/
inductive Placed (config : HeartbeatConfig T) (m : HeartbeatManager T) :
    List (HeartbeatCycle T) → Prop where
  | asleep {due : ℚ} {cs : List (HeartbeatCycle T)} (htask : m.task = .sleeping due)
      (hover : ∀ c ∈ cs, c.Over) : Placed config m cs
  | out {c : HeartbeatCycle T} {cs : List (HeartbeatCycle T)}
      (htask : m.task = .pinging ∨ ∃ deadline, m.task = .waiting deadline)
      (hopen : c.ending = none) (hout : Out config m c) (hover : ∀ c ∈ cs, c.Over) :
      Placed config m (c :: cs)
  | timedOut {c : HeartbeatCycle T} {cs : List (HeartbeatCycle T)} (htask : m.task = .timedOut)
      (hc : c.ending = some .timedOut) (hover : ∀ c ∈ cs, c.Over) : Placed config m (c :: cs)
  | ended {c : HeartbeatCycle T} {cs : List (HeartbeatCycle T)} (htask : m.task = .ended)
      (hc : c.ending = some .timeoutReturned) (hover : ∀ c ∈ cs, c.Over) : Placed config m (c :: cs)

/-- The invariant of the runs in which nobody calls `stop`. -/
structure Kept (config : HeartbeatConfig T) (s : Beat T) : Prop where
  configured : s.manager.config = config
  running : s.manager.running = true
  event : s.manager.pongEvent.isSome = true
  placed : Placed config s.manager s.cycles
  lawful : ∀ c ∈ s.cycles, c.Lawful config
  ordered : (s.samples.map Prod.fst).Pairwise (· < ·)
  numbered : ∀ n ∈ s.samples.map Prod.fst, n ≤ s.cycles.length ∧
    (s.manager.lastPingTime.isSome = true → n < s.cycles.length)

variable {config : HeartbeatConfig T} {s s' : Beat T}

/-- An event that is set answers the ping that is out. -/
theorem Out.of_event {m : HeartbeatManager T} {c : HeartbeatCycle T} (h : Out config m c)
    (hevent : m.pongEvent = some true) : c.answered config = true := by
  by_contra hno
  have hclear := (h.unanswered (eq_false_of_ne_true hno)).1
  rw [hevent] at hclear
  cases hclear

theorem Out.of_clear {m : HeartbeatManager T} {c : HeartbeatCycle T} (h : Out config m c)
    (hevent : m.pongEvent ≠ some true) : c.answered config = false := by
  by_contra hno
  exact hevent (h.answered (eq_true_of_ne_false hno)).1

variable {m : HeartbeatManager T} {cs : List (HeartbeatCycle T)}

theorem Placed.sleeping {due : ℚ} (h : Placed config m cs) (htask : m.task = .sleeping due) :
    ∀ c ∈ cs, c.Over := by
  cases h with
  | asleep _ hover => exact hover
  | timedOut hno | ended hno =>
    rw [htask] at hno
    cases hno
  | out hno =>
    rw [htask] at hno
    obtain hno | ⟨d, hno⟩ := hno <;> cases hno

/-- The cycle whose ping is out. -/
theorem Placed.cycleOut (h : Placed config m cs)
    (htask : m.task = .pinging ∨ ∃ deadline, m.task = .waiting deadline) :
    ∃ c rest, cs = c :: rest ∧ c.ending = none ∧ Out config m c ∧ ∀ c ∈ rest, c.Over := by
  cases h with
  | out _ hopen hout hover => exact ⟨_, _, rfl, hopen, hout, hover⟩
  | asleep hno | timedOut hno | ended hno =>
    rw [hno] at htask
    obtain htask | ⟨d, htask⟩ := htask <;> cases htask

/-- The cycle that ran out of time. -/
theorem Placed.inTimeout (h : Placed config m cs) (htask : m.task = .timedOut) :
    ∃ c rest, cs = c :: rest ∧ c.ending = some .timedOut ∧ ∀ c ∈ rest, c.Over := by
  cases h with
  | timedOut _ hc hover => exact ⟨_, _, rfl, hc, hover⟩
  | asleep hno | ended hno =>
    rw [htask] at hno
    cases hno
  | out hno =>
    rw [htask] at hno
    obtain hno | ⟨d, hno⟩ := hno <;> cases hno

theorem nextCycle_running (hrunning : m.running = true) (now : ℚ) :
    m.nextCycle now = { m with task := .sleeping (now + m.config.interval) } := by
  unfold nextCycle
  rw [hrunning]
  rfl

/-- **The ping is recorded**: nothing answered it yet. -/
theorem Kept.sleepOver (h : Kept config s) (hs : s.step .sleepOver = some s') : Kept config s' := by
  simp only [step] at hs
  split at hs
  · rename_i due htask
    split at hs
    · cases hs
      obtain ⟨b, hb⟩ := Option.isSome_iff_exists.mp h.event
      have hbegin : s.manager.beginPing s.now = { s.manager with
          pongEvent := some false, pendingPayload := some config.payload,
          lastPingTime := some s.now, task := .pinging } := by
        simp [beginPing, h.running, hb, h.configured]
      have hout : Out config { s.manager with
            pongEvent := some false, pendingPayload := some config.payload,
            lastPingTime := some s.now, task := .pinging }
          { sent := s.now, seen := [], ending := none } := by
        refine ⟨fun _ => ⟨rfl, rfl, rfl⟩, fun hans => ?_⟩
        simp [HeartbeatCycle.answered] at hans
      simp only [hbegin, if_true]
      refine ⟨h.configured, h.running, rfl, .out (Or.inl rfl) rfl hout (h.placed.sleeping htask),
        fun c hc => ?_, h.ordered, fun n hn => ⟨?_, fun _ => ?_⟩⟩
      · obtain rfl | hc := List.mem_cons.mp hc
        · exact nofun
        · exact h.lawful c hc
      · exact Nat.le_succ_of_le (h.numbered n hn).1
      · exact Nat.lt_succ_of_le (h.numbered n hn).1
    · cases hs
  · cases hs

/-- **The wait begins.** -/
theorem Kept.pingReturned (h : Kept config s) (hs : s.step .pingReturned = some s') :
    Kept config s' := by
  simp only [step] at hs
  split at hs
  · rename_i htask
    cases hs
    obtain ⟨c, rest, hcs, hopen, hout, hover⟩ := h.placed.cycleOut (Or.inl htask)
    unfold awaitPong
    rw [if_pos h.event]
    refine ⟨h.configured, h.running, h.event, ?_, h.lawful, h.ordered, h.numbered⟩
    dsimp only
    rw [hcs]
    exact .out (Or.inr ⟨_, rfl⟩) hopen ⟨hout.unanswered, hout.answered⟩ hover
  · cases hs

/-- A cycle ends lawfully, and its end leaves the manager but for its task. -/
theorem Kept.finish {c : HeartbeatCycle T} {rest : List (HeartbeatCycle T)} {task : HeartbeatTask}
    {e : CycleEnd} (h : Kept config s) (hcs : s.cycles = c :: rest)
    (hlawful : HeartbeatCycle.Lawful config { c with ending := some e })
    (hplaced : Placed config { s.manager with task := task }
      ({ c with ending := some e } :: rest)) :
    Kept config (s.finish { s.manager with task := task } e) := by
  have hlength : (s.finish { s.manager with task := task } e).cycles.length = s.cycles.length :=
    List.length_modifyHead
  refine ⟨h.configured, h.running, h.event, ?_, fun c' hc' => ?_, h.ordered, ?_⟩
  · unfold Beat.finish
    rw [hcs]
    exact hplaced
  · unfold Beat.finish at hc'
    rw [hcs] at hc'
    obtain rfl | hc' := List.mem_cons.mp hc'
    · exact hlawful
    · exact h.lawful c' (by rw [hcs]; exact List.mem_cons_of_mem c hc')
  · rw [hlength]
    exact h.numbered

/-- **The wait succeeds**: the event is set, so the ping has been answered. -/
theorem Kept.answered {deadline : ℚ} (h : Kept config s)
    (htask : s.manager.task = .waiting deadline) (hevent : s.manager.pongEvent = some true) :
    Kept config (s.finish (s.manager.nextCycle s.now) .answered) := by
  obtain ⟨c, rest, hcs, hopen, hout, hover⟩ := h.placed.cycleOut (Or.inr ⟨deadline, htask⟩)
  rw [nextCycle_running h.running]
  refine h.finish hcs ?_ (.asleep rfl ?_)
  · intro e he _
    cases he
    refine iff_of_false nofun (fun hnone => ?_)
    have hans := hout.of_event hevent
    rw [(answered_eq_false (c := c)).mpr hnone] at hans
    cases hans
  · exact List.forall_mem_cons.mpr ⟨Or.inl rfl, hover⟩

/-- **`send_ping` raises**: the loop goes on. -/
theorem Kept.pingRaised (h : Kept config s) (hs : s.step .pingRaised = some s') :
    Kept config s' := by
  simp only [step] at hs
  split at hs
  · rename_i htask
    cases hs
    obtain ⟨c, rest, hcs, hopen, hout, hover⟩ := h.placed.cycleOut (Or.inl htask)
    rw [nextCycle_running h.running]
    refine h.finish hcs ?_ (.asleep rfl ?_)
    · intro e he hne
      cases he
      exact absurd rfl hne
    · exact List.forall_mem_cons.mpr ⟨Or.inr (Or.inr rfl), hover⟩
  · cases hs

/-- **The wait is over**, and the event is not set: nothing has answered the ping. -/
theorem Kept.timedOut {deadline : ℚ} (h : Kept config s)
    (htask : s.manager.task = .waiting deadline) (hevent : s.manager.pongEvent ≠ some true) :
    Kept config (s.finish (s.manager.pongTimeout s.now) .timedOut) := by
  obtain ⟨c, rest, hcs, hopen, hout, hover⟩ := h.placed.cycleOut (Or.inr ⟨deadline, htask⟩)
  unfold pongTimeout
  rw [if_pos h.running]
  refine h.finish hcs ?_ (.timedOut rfl rfl hover)
  intro e he _
  cases he
  exact iff_of_true rfl (answered_eq_false.mp (hout.of_clear hevent))

/-! ## The calls -/

variable {m' : HeartbeatManager T} {now : ℚ} {r : ReplyCall T}

theorem answered_see (c : HeartbeatCycle T) (r : ReplyCall T) :
    HeartbeatCycle.answered config { c with seen := c.seen ++ [r] } =
      (c.answered config || config.answeredBy r) := by
  simp [HeartbeatCycle.answered]

/-- **While the ping is out**, a call sets the event if it answers the ping. -/
theorem Out.process {c : HeartbeatCycle T} (hconfig : m.config = config) (h : Out config m c)
    (hr : Processed m now r m') : Out config m' { c with seen := c.seen ++ [r] } := by
  subst hconfig
  cases hr with
  | ignored hno =>
    refine ⟨fun hans => ?_, fun hans => ?_⟩
    · rw [answered_see] at hans
      exact h.unanswered (Bool.or_eq_false_iff.mp hans).1
    · cases hold : c.answered m.config with
      | true => exact h.answered hold
      | false =>
        obtain ⟨-, hsent, hpending⟩ := h.unanswered hold
        rw [answered_see, hold, hno (by rw [hsent]; rfl) hpending] at hans
        cases hans
  | @recorded _ sent hsent hyes hm =>
    have hold : c.answered m.config = false := by
      by_contra hans
      have hnone := (h.answered (eq_true_of_ne_false hans)).2
      rw [hsent] at hnone
      cases hnone
    obtain ⟨hevent, -, hpending⟩ := h.unanswered hold
    have hans : HeartbeatCycle.answered m.config { c with seen := c.seen ++ [r] } = true := by
      rw [answered_see, hyes hpending, Bool.or_true]
    refine ⟨fun hno => ?_, fun _ => ⟨?_, hm.lastPingTime⟩⟩
    · rw [hans] at hno
      cases hno
    · rw [hm.pongEvent, hevent]
      rfl

/-- A cycle that is over is left alone. -/
theorem modifyHead_see (h : ∀ c ∈ cs.head?, c.ending.isSome = true) (r : ReplyCall T) :
    cs.modifyHead (fun c => c.see r) = cs := by
  cases cs with
  | nil => rfl
  | cons c rest =>
    rw [List.modifyHead_cons, see_ended (h c rfl)]

theorem Placed.process (hconfig : m.config = config) (h : Placed config m cs)
    (hr : Processed m now r m') : Placed config m' (cs.modifyHead (fun c => c.see r)) := by
  have htask := hr.keeps.2.1
  cases h with
  | asleep hasleep hover =>
    rw [modifyHead_see (fun c hc => (hover c (List.mem_of_head? hc)).ended)]
    exact .asleep (htask.trans hasleep) hover
  | out hrun hopen hout hover =>
    rw [List.modifyHead_cons, see_open hopen]
    refine .out ?_ hopen (hout.process hconfig hr) hover
    rwa [htask]
  | timedOut hover hc hrest =>
    rw [List.modifyHead_cons, see_ended (by rw [hc]; rfl)]
    exact .timedOut (htask.trans hover) hc hrest
  | ended hover hc hrest =>
    rw [List.modifyHead_cons, see_ended (by rw [hc]; rfl)]
    exact .ended (htask.trans hover) hc hrest

/-- A call takes the latency of the ping that is out, if it takes one. -/
theorem taken_cases (h : Processed s.manager s.now r m') :
    m' = s.manager ∧ s.taken m' = [] ∨
      ∃ sent, s.manager.lastPingTime = some sent ∧ Recorded s.manager m' s.now sent ∧
        s.taken m' = [(s.cycles.length, (s.now - sent) * 1000)] := by
  cases h with
  | ignored =>
    refine Or.inl ⟨rfl, ?_⟩
    unfold taken
    cases s.manager.lastPingTime <;> rfl
  | @recorded _ sent hsent _ hm =>
    refine Or.inr ⟨sent, hsent, hm, ?_⟩
    unfold taken
    rw [hsent, hm.lastPingTime, hm.lastLatency]

/-- **A call** keeps the invariant. -/
theorem Kept.process (h : Kept config s) (hs : s.step (.process r) = some s') : Kept config s' := by
  cases hs
  have hr := process_cases s.manager s.now r
  generalize s.manager.process s.now r = m' at hr
  obtain ⟨hconfig, -, hrunning, hevent⟩ := hr.keeps
  have hlawful : ∀ c ∈ s.cycles.modifyHead (fun c => c.see r), c.Lawful config := by
    have hlawful := h.lawful
    cases hcs : s.cycles with
    | nil => exact fun c hc => by cases hc
    | cons c rest =>
      rw [hcs] at hlawful
      intro c' hc'
      obtain rfl | hc' := List.mem_cons.mp hc'
      · exact (hlawful c List.mem_cons_self).see r
      · exact hlawful c' (List.mem_cons_of_mem c hc')
  have hplaced := h.placed.process h.configured hr
  obtain ⟨rfl, htaken⟩ | ⟨sent, hsent, hm, htaken⟩ := taken_cases hr
  · refine ⟨h.configured, h.running, h.event, hplaced, hlawful, ?_, ?_⟩
    · rw [htaken, List.append_nil]
      exact h.ordered
    · rw [htaken, List.append_nil, List.length_modifyHead]
      exact h.numbered
  · refine ⟨hconfig.trans h.configured, hrunning.trans h.running, hevent.trans h.event, hplaced,
      hlawful, ?_, ?_⟩
    · rw [htaken, List.map_append]
      refine List.pairwise_append.mpr ⟨h.ordered, List.pairwise_singleton _ _, fun n hn k hk => ?_⟩
      rw [List.mem_singleton.mp hk]
      exact (h.numbered n hn).2 (by rw [hsent]; rfl)
    · intro n hn
      rw [List.length_modifyHead]
      refine ⟨?_, fun hsome => ?_⟩
      · rw [htaken, List.map_append] at hn
        obtain hn | hn := List.mem_append.mp hn
        · exact (h.numbered n hn).1
        · rw [List.mem_singleton.mp hn]
      · rw [hm.lastPingTime] at hsome
        cases hsome

/-! ## Whole runs -/

/-- Nobody calls `stop`. -/
def Undisturbed : BeatInput T → Prop
  | .stop => False
  | _ => True

/-- **One step** keeps the invariant. -/
theorem kept_step (s : Beat T) (i : BeatInput T) (s' : Beat T) (h : Kept config s)
    (hi : Undisturbed i) (hs : s.step i = some s') : Kept config s' := by
  cases i with
  | elapse d =>
    simp only [step] at hs
    split at hs
    · cases hs
      exact ⟨h.configured, h.running, h.event, h.placed, h.lawful, h.ordered, h.numbered⟩
    · cases hs
  | sleepOver => exact h.sleepOver hs
  | pingReturned => exact h.pingReturned hs
  | pingRaised => exact h.pingRaised hs
  | stop => exact absurd hi id
  | pongSeen =>
    simp only [step] at hs
    split at hs
    · rename_i htask hevent
      cases hs
      exact h.answered htask hevent
    · cases hs
  | waitOver =>
    simp only [step] at hs
    split at hs
    · rename_i htask
      split at hs
      · split at hs
        · rename_i hevent
          cases hs
          exact h.answered htask hevent
        · rename_i hevent
          cases hs
          exact h.timedOut htask hevent
      · cases hs
    · cases hs
  | timeoutReturned =>
    simp only [step] at hs
    split at hs
    · rename_i htask
      cases hs
      obtain ⟨c, rest, hcs, hc, hover⟩ := h.placed.inTimeout htask
      refine h.finish hcs ?_ (.ended rfl rfl hover)
      exact (h.lawful c (by rw [hcs]; exact List.mem_cons_self)).again hc rfl
    · cases hs
  | timeoutRaised =>
    simp only [step] at hs
    split at hs
    · rename_i htask
      cases hs
      obtain ⟨c, rest, hcs, hc, hover⟩ := h.placed.inTimeout htask
      rw [nextCycle_running h.running]
      refine h.finish hcs ?_ (.asleep rfl ?_)
      · exact (h.lawful c (by rw [hcs]; exact List.mem_cons_self)).again hc rfl
      · exact List.forall_mem_cons.mpr ⟨Or.inr (Or.inl rfl), hover⟩
    · cases hs
  | process r => exact h.process hs

theorem kept_start {m : HeartbeatManager T} (hm : m.running = false) (now : ℚ) :
    Kept m.config (start m now) := by
  have hstart : m.start now = { m with
      running := true, pongEvent := some false, task := .sleeping (now + m.config.interval) } := by
    simp [HeartbeatManager.start, hm]
  unfold start
  rw [hstart]
  exact ⟨rfl, rfl, rfl, .asleep rfl (fun c hc => (by cases hc)), fun c hc => (by cases hc),
    List.Pairwise.nil, fun n hn => (by cases hn)⟩

/-- What holds of the cycles of a loop. -/
structure CycleLaw (config : HeartbeatConfig T) (s : Beat T) : Prop where
  /-- `on_timeout` is called for a cycle whose `send_ping` returned exactly when nothing answered
  its ping in time. -/
  timeouts : ∀ c ∈ s.cycles, c.Lawful config
  /-- A ping has one latency at most. -/
  once : (s.samples.map Prod.fst).Nodup
  /-- Behind an `on_timeout` that is running or has returned there is no ping. -/
  last : ∀ c ∈ s.cycles.tail, c.ending ≠ some .timedOut ∧ c.ending ≠ some .timeoutReturned

theorem Kept.law (h : Kept config s) : CycleLaw config s where
  timeouts := h.lawful
  once := h.ordered.imp Nat.ne_of_lt
  last c hc := by
    have hover : c.Over := by
      have hplaced := h.placed
      generalize s.cycles = cs at hplaced hc
      cases hplaced with
      | asleep _ hover => exact hover c (List.mem_of_mem_tail hc)
      | out _ _ _ hover | timedOut _ _ hover | ended _ _ hover => exact hover c hc
    obtain h | h | h := hover <;> rw [h] <;> exact ⟨nofun, nofun⟩

/-- **The heartbeat cycle**, for every manager whose loop is started, and every order of its steps
and the calls. -/
theorem cycle_law {m : HeartbeatManager T} (hm : m.running = false) (now : ℚ)
    (run : List (BeatInput T)) (hrun : ∀ i ∈ run, Undisturbed i) :
    Always step (CycleLaw m.config) (start m now) run :=
  (always_of_meets (C := fun _ i => Undisturbed i) (fun s i s' h hi hs => kept_step s i s' h hi hs)
    (kept_start hm now) (Meets.of_forall (fun i hi _ => hrun i hi) _)).mono (fun _ h => h.law)

theorem plain_interval_pos : (0 : ℚ) < 30 := by decide
theorem plain_timeout_pos : (0 : ℚ) < 10 := by decide
theorem plain_timeout_lt : (10 : ℚ) < 30 := by decide
theorem plain_one_ping : ¬ (false = true ∧ true = true) := by decide

/-- The defaults. -/
def plainConfig (T : Type) : HeartbeatConfig T :=
  { interval := 30, timeout := 10, payload := [], useWsPing := true, applicationPing := false,
    pongMatcher := none, interval_pos := plain_interval_pos, timeout_pos := plain_timeout_pos,
    timeout_lt := plain_timeout_lt, one_ping := plain_one_ping }

/-- A pong with another payload, one with the right payload while `send_ping` is awaited, and a
second cycle that nothing answers. -/
theorem cycle_law_twice : Always step (CycleLaw (plainConfig Unit))
    (start (HeartbeatManager.new (plainConfig Unit)) 0)
    [.elapse 30, .sleepOver, .process (.onPong [1]), .process (.onPong []), .pingReturned,
      .pongSeen, .process (.onPong []), .elapse 30, .sleepOver, .pingReturned, .elapse 10,
      .waitOver, .process (.onPong []), .timeoutReturned] :=
  cycle_law (m := HeartbeatManager.new (plainConfig Unit)) rfl 0 _ (by simp [Undisturbed])

/-- An `on_timeout` that raises: the loop swallows the exception, sleeps, and sends a ping. -/
theorem ping_behind_timeout :
    ¬ Always step (fun s => ∀ c ∈ s.cycles.tail, ∀ e ∈ c.ending, e.calledTimeout = false)
      (start (HeartbeatManager.new (plainConfig Unit)) 0)
      [.elapse 30, .sleepOver, .pingReturned, .elapse 10, .waitOver, .timeoutRaised, .elapse 30,
        .sleepOver] := by
  have hend : (exec step (start (HeartbeatManager.new (plainConfig Unit)) 0)
      [.elapse 30, .sleepOver, .pingReturned, .elapse 10, .waitOver, .timeoutRaised, .elapse 30,
        .sleepOver]).map (fun s => s.cycles.map HeartbeatCycle.ending) =
      some [none, some .timeoutRaised] := by
    decide +kernel
  intro h
  obtain ⟨s, hs, hcycles⟩ := Option.map_eq_some_iff.mp hend
  have hlast := h.last hs
  cases hcs : s.cycles with
  | nil => simp [hcs] at hcycles
  | cons c rest =>
    simp only [hcs, List.map_cons, List.cons.injEq, List.map_eq_cons_iff] at hcycles
    obtain ⟨-, c', rest', hrest, hending, -⟩ := hcycles
    have hno := hlast c' (by rw [hcs, hrest]; exact List.mem_cons_self) .timeoutRaised hending
    cases hno

/-! ## The samples of the manager -/

theorem rtake_append_rtake (l xs : List ℚ) (n : Nat) :
    (l.rtake n ++ xs).rtake n = (l ++ xs).rtake n := by
  simp only [List.rtake_eq_reverse_take_reverse, List.reverse_append, List.reverse_reverse,
    List.take_append, List.take_take, Nat.min_eq_left (Nat.sub_le n _)]

@[simp] theorem nextCycle_latencySamples (m : HeartbeatManager T) (now : ℚ) :
    (m.nextCycle now).latencySamples = m.latencySamples := rfl

@[simp] theorem beginPing_latencySamples (m : HeartbeatManager T) (now : ℚ) :
    (m.beginPing now).latencySamples = m.latencySamples := by
  unfold beginPing
  split <;> rfl

@[simp] theorem awaitPong_latencySamples (m : HeartbeatManager T) (now : ℚ) :
    (m.awaitPong now).latencySamples = m.latencySamples := by
  unfold awaitPong
  split <;> rfl

@[simp] theorem pongTimeout_latencySamples (m : HeartbeatManager T) (now : ℚ) :
    (m.pongTimeout now).latencySamples = m.latencySamples := by
  unfold pongTimeout
  split <;> rfl

/-- A step leaves the samples alone, or takes one latency. -/
theorem samples_step {i : BeatInput T} (hs : s.step i = some s') :
    s'.samples = s.samples ∧ s'.manager.latencySamples = s.manager.latencySamples ∨
      ∃ n latency, s'.samples = s.samples ++ [(n, latency)] ∧
        s'.manager.latencySamples = (s.manager.latencySamples ++ [latency]).rtake 10 := by
  cases i with
  | process r =>
    cases hs
    have hr := process_cases s.manager s.now r
    generalize s.manager.process s.now r = m' at hr
    obtain ⟨rfl, htaken⟩ | ⟨sent, -, hm, htaken⟩ := taken_cases hr
    · refine Or.inl ⟨?_, rfl⟩
      rw [htaken, List.append_nil]
    · exact Or.inr ⟨s.cycles.length, (s.now - sent) * 1000, by rw [htaken], hm.latencySamples⟩
  | stop =>
    cases hs
    exact Or.inl ⟨rfl, rfl⟩
  | elapse | sleepOver | pingReturned | pingRaised | pongSeen | waitOver | timeoutReturned
  | timeoutRaised =>
    left
    simp only [step] at hs
    repeat' split at hs
    all_goals cases hs
    all_goals simp [finish]

/-- **The samples** of the manager are the last ten of the latencies taken, the earlier ones of
the manager before them. -/
theorem latencies_kept (m : HeartbeatManager T) (now : ℚ) (run : List (BeatInput T)) :
    Always step (fun s => s.manager.latencySamples.rtake 10 =
      (m.latencySamples ++ s.samples.map Prod.snd).rtake 10) (start m now) run := by
  refine always_of_step (fun s i s' h hs => ?_) run ?_
  · obtain ⟨hsamples, hlatencies⟩ | ⟨n, latency, hsamples, hlatencies⟩ := samples_step hs
    · rw [hsamples, hlatencies, h]
    · calc s'.manager.latencySamples.rtake 10
          = ((s.manager.latencySamples ++ [latency]).rtake 10 ++ []).rtake 10 := by
            rw [hlatencies, List.append_nil]
        _ = (s.manager.latencySamples.rtake 10 ++ [latency]).rtake 10 := by
            rw [rtake_append_rtake, List.append_nil, rtake_append_rtake]
        _ = (m.latencySamples ++ (s.samples.map Prod.snd ++ [latency])).rtake 10 := by
            rw [h, rtake_append_rtake, List.append_assoc]
        _ = (m.latencySamples ++ s'.samples.map Prod.snd).rtake 10 := by
            rw [hsamples, List.map_append]
            rfl
  · unfold start HeartbeatManager.start
    split <;> simp

end Beat

end JetSocket
