import JetSocket.Heartbeat.Cycle
import JetSocket.Transport.Receive
import JetSocket.State
import Mathlib.Tactic.Linarith

/- The first cycle of a heartbeat whose `send_ping` is `WebSocket._send_ping`.

   `_send_ping` returns at once where there is no transport or the state cannot send. Else
   `AsyncTransport.ping` writes the frame, or raises, for a payload over 125 bytes or a
   transport that is not connected; it does not suspend, so both happen in the step that ends
   the sleep. Behind the ping the handlers of "ping" run, for any time; they raise nothing. The
   rest of the program may put any transport and any state in between: input `elsewhere`.

   `heard` and `stopped` are no part of the program: whether a call has answered a ping, and
   whether `stop` was called.

   Correspondence (Python ↔ Lean):
     `WebSocket._send_ping` ↔ `Watch.sendPing`, `Watch.callSendPing`, `pingEmitted`

   What is proved:
     1. `called_step` — with nothing heard, a cycle ends by `on_timeout`, unless `send_ping`
        raises.
     2. `first_cycle_ends` — unless stopped, the loop comes to the end of its first cycle by its
        own steps.
     3. `dead_peer_detected_iff` — a run in which nothing is heard ends its first cycle by
        `on_timeout` exactly when the ping of the first cycle is not refused by the transport:
        `except Exception` in the loop goes on to the next cycle. -/
namespace JetSocket
open JetSocket.Core JetSocket.Transport Transition HeartbeatCycle

variable {Z : Zlib} {T : Type}

namespace Beat

/-- How the first cycle ended. -/
def firstEnding (b : Beat T) : Option CycleEnd := b.cycles.getLast?.bind HeartbeatCycle.ending

/-- If it ended, `on_timeout` was called. -/
def Called (b : Beat T) : Prop := ∀ e ∈ b.firstEnding, e.calledTimeout = true

/-- Nothing has answered a ping. -/
def Unheard (config : HeartbeatConfig T) (b : Beat T) : Prop :=
  ∀ c ∈ b.cycles, c.answered config = false

variable {config : HeartbeatConfig T} {b b' : Beat T} {i : BeatInput T} {c : HeartbeatCycle T}
  {rest : List (HeartbeatCycle T)}

theorem firstEnding_finish (hcs : b.cycles = c :: rest) (m : HeartbeatManager T) (e : CycleEnd) :
    (b.finish m e).firstEnding = if rest = [] then some e else b.firstEnding := by
  unfold firstEnding finish
  rw [hcs, List.modifyHead_cons]
  cases rest with
  | nil => rfl
  | cons d rest => simp [List.getLast?_cons_cons]

/-- A later cycle ends; or the first one, by a call of `on_timeout`. -/
theorem Called.finish (h : b.Called) (hcs : b.cycles = c :: rest) (m : HeartbeatManager T)
    {e : CycleEnd} (he : rest = [] → e.calledTimeout = true) : (b.finish m e).Called := by
  intro e' he'
  rw [firstEnding_finish hcs] at he'
  split at he'
  · rename_i hrest
    cases he'
    exact he hrest
  · exact h e' he'

/-- The sleep is over: a cycle begins, the first or a later one. -/
theorem sleepOver_cycles (h : Kept config b) (hs : b.step .sleepOver = some b') :
    b'.manager.task = .pinging ∧ b'.manager.config = b.manager.config ∧
      ∃ c, b'.cycles = c :: b.cycles ∧ c.seen = [] ∧ c.ending = none := by
  simp only [step] at hs
  split at hs
  · split at hs
    · cases hs
      simp only [HeartbeatManager.beginPing, h.running, if_true]
      exact ⟨trivial, trivial, _, rfl, rfl, rfl⟩
    · cases hs
  · cases hs

theorem firstEnding_cons (hcs : b'.cycles = c :: b.cycles) (hc : c.ending = none) :
    b'.firstEnding = b.firstEnding := by
  unfold firstEnding
  rw [hcs]
  cases hb : b.cycles with
  | nil => exact hc
  | cons d rest => simp [List.getLast?_cons_cons]

theorem see_ending (c : HeartbeatCycle T) (r : ReplyCall T) : (c.see r).ending = c.ending := by
  unfold HeartbeatCycle.see
  split <;> rfl

/-- The steps that end no cycle but by an answer or by `on_timeout`. -/
def Regular : BeatInput T → Prop
  | .pingRaised | .stop => False
  | _ => True

/-- **With nothing heard** a cycle ends by `on_timeout`. -/
theorem called_step (h : Kept config b) (hunheard : Unheard config b) (hcalled : b.Called)
    (hi : Regular i) (hs : b.step i = some b') : b'.Called := by
  -- A set event would be an answer.
  have noEvent : ∀ {deadline : ℚ}, b.manager.task = .waiting deadline →
      b.manager.pongEvent ≠ some true := by
    intro deadline htask hevent
    obtain ⟨c, rest, hcs, -, hout, -⟩ := h.placed.cycleOut (Or.inr ⟨deadline, htask⟩)
    have hans := hout.of_event hevent
    rw [hunheard c (by rw [hcs]; exact List.mem_cons_self)] at hans
    cases hans
  cases i with
  | pingRaised | stop => exact absurd hi id
  | sleepOver =>
    obtain ⟨-, -, c, hcs, -, hc⟩ := sleepOver_cycles h hs
    unfold Called
    rw [firstEnding_cons hcs hc]
    exact hcalled
  | elapse d =>
    simp only [step] at hs
    split at hs
    · cases hs
      exact hcalled
    · cases hs
  | pingReturned =>
    simp only [step] at hs
    split at hs
    · cases hs
      exact hcalled
    · cases hs
  | pongSeen =>
    simp only [step] at hs
    cases hs
  | waitOver =>
    simp only [step] at hs
    split at hs
    · rename_i deadline htask
      split at hs
      · rw [if_neg (noEvent htask)] at hs
        cases hs
        obtain ⟨c, rest, hcs, -⟩ := h.placed.cycleOut (Or.inr ⟨deadline, htask⟩)
        exact hcalled.finish hcs _ (fun _ => rfl)
      · cases hs
    · cases hs
  | timeoutReturned | timeoutRaised =>
    simp only [step] at hs
    split at hs
    · rename_i htask
      cases hs
      obtain ⟨c, rest, hcs, -⟩ := h.placed.inTimeout htask
      exact hcalled.finish hcs _ (fun _ => rfl)
    · cases hs
  | process r =>
    cases hs
    intro e he
    refine hcalled e ?_
    unfold firstEnding at he ⊢
    cases hcs : b.cycles with
    | nil => simp [hcs] at he
    | cons c rest =>
      simp only [hcs, List.modifyHead_cons] at he
      cases rest with
      | nil =>
        have hending : (c.see r).ending = some e := he
        rw [see_ending] at hending
        exact hending
      | cons d rest => simpa [List.getLast?_cons_cons] using he

/-- Only the cycle under way changes. -/
theorem unanswered_modifyHead {cs : List (HeartbeatCycle T)}
    {f : HeartbeatCycle T → HeartbeatCycle T} (h : ∀ c ∈ cs, c.answered config = false)
    (hf : ∀ c, c.answered config = false → (f c).answered config = false) :
    ∀ c ∈ cs.modifyHead f, c.answered config = false := by
  intro c hc
  cases cs with
  | nil => cases hc
  | cons d rest =>
    rw [List.modifyHead_cons] at hc
    obtain rfl | hc := List.mem_cons.mp hc
    · exact hf d (h d List.mem_cons_self)
    · exact h c (List.mem_cons_of_mem d hc)

/-- A call that answers nothing, and any other step. -/
theorem Unheard.step (h : Unheard config b)
    (hi : ∀ r, i = .process r → config.answeredBy r = false) (hs : b.step i = some b') :
    Unheard config b' := by
  have finished : ∀ (m : HeartbeatManager T) (e : CycleEnd), Unheard config (b.finish m e) :=
    fun _ _ => unanswered_modifyHead h (fun _ hc => hc)
  cases i with
  | process r =>
    cases hs
    refine unanswered_modifyHead h (fun c hc => ?_)
    unfold HeartbeatCycle.see
    split
    · rw [answered_see, hc, hi r rfl]
      rfl
    · exact hc
  | sleepOver =>
    simp only [Beat.step] at hs
    split at hs
    · split at hs
      · cases hs
        intro c hc
        dsimp only at hc
        split at hc
        · obtain rfl | hc := List.mem_cons.mp hc
          · rfl
          · exact h c hc
        · exact h c hc
      · cases hs
    · cases hs
  | stop =>
    cases hs
    exact h
  | elapse | pingReturned | pingRaised | pongSeen | waitOver | timeoutReturned | timeoutRaised =>
    simp only [Beat.step] at hs
    repeat' split at hs
    all_goals cases hs
    all_goals first
      | exact h
      | exact finished _ _

/-- The end of a cycle leaves the first one ended. -/
theorem firstEnding_isSome_finish (hcs : b.cycles = c :: rest) (hover : ∀ c ∈ rest, c.Over)
    (m : HeartbeatManager T) (e : CycleEnd) : (b.finish m e).firstEnding.isSome = true := by
  rw [firstEnding_finish hcs]
  split
  · rfl
  · rename_i hrest
    unfold firstEnding
    rw [hcs]
    obtain ⟨d, rest, rfl⟩ := List.exists_cons_of_ne_nil hrest
    rw [List.getLast?_cons_cons, List.getLast?_eq_some_getLast (List.cons_ne_nil d rest)]
    exact (hover _ (List.getLast_mem _)).ended

end Beat

/-- A `WebSocket` as its heartbeat sees it. -/
structure Watch (Z : Zlib) (T : Type) where
  beat : Beat T
  transport : Option (AsyncTransport Z)
  state : ConnectionState
  heard : Bool
  stopped : Bool

/-- What can happen next. -/
inductive WatchInput (Z : Zlib) (T : Type) where
  | elapse (d : ℚ)
  | sleepOver (key : MaskKey)
  | pingEmitted
  | pongSeen
  | waitOver
  | timeoutReturned
  | timeoutRaised
  | process (r : ReplyCall T)
  | stop
  | elsewhere (transport : Option (AsyncTransport Z)) (state : ConnectionState)

namespace Watch

def start (m : HeartbeatManager T) (now : ℚ) (transport : Option (AsyncTransport Z))
    (state : ConnectionState) : Watch Z T :=
  { beat := Beat.start m now, transport, state, heard := false, stopped := false }

/-- `_send_ping`, up to the handlers of "ping"; `false` where it returns before them. -/
def sendPing (s : Watch Z T) (payload : Bytes) (key : MaskKey) :
    Except Exc (Option (AsyncTransport Z) × Bool) :=
  match s.transport with
  | none => .ok (none, false)
  | some t =>
    if !s.state.canSend then .ok (some t, false)
    else (t.ping payload key).map (fun t => (some t, true))

/-- A step of the loop or a call. -/
def beats (s : Watch Z T) (i : BeatInput T) : Option (Watch Z T) :=
  (s.beat.step i).map (fun b => { s with beat := b })

/-- The loop calls `send_ping`. -/
def callSendPing (s : Watch Z T) (key : MaskKey) : Option (Watch Z T) :=
  match s.sendPing s.beat.manager.config.payload key with
  | .error _ => s.beats .pingRaised
  | .ok (transport, true) => some { s with transport }
  | .ok (transport, false) => { s with transport }.beats .pingReturned

/-- One step. -/
def step (s : Watch Z T) : WatchInput Z T → Option (Watch Z T)
  | .elapse d => s.beats (.elapse d)
  | .sleepOver key =>
    (s.beats .sleepOver).bind (fun s =>
      if s.beat.manager.task = .pinging then s.callSendPing key else some s)
  | .pingEmitted => s.beats .pingReturned
  | .pongSeen => s.beats .pongSeen
  | .waitOver => s.beats .waitOver
  | .timeoutReturned => s.beats .timeoutReturned
  | .timeoutRaised => s.beats .timeoutRaised
  | .process r =>
    (s.beats (.process r)).map (fun s' =>
      { s' with heard := s.heard || s.beat.manager.config.answeredBy r })
  | .stop => (s.beats .stop).map (fun s' => { s' with stopped := true })
  | .elsewhere transport state => some { s with transport, state }

/-- A step the loop takes by itself, in time. -/
def OwnStep : WatchInput Z T → Prop
  | .elapse _ | .sleepOver _ | .pingEmitted | .waitOver => True
  | _ => False

/-- The loop gets to the end of its first cycle by itself. -/
def Ends (s : Watch Z T) : Prop :=
  ∃ js s', exec step s js = some s' ∧ (∀ j ∈ js, OwnStep j) ∧ s'.beat.firstEnding.isSome = true

/-- `on_timeout` is called for the first cycle, unless something was heard or `stop` called. -/
def Called (s : Watch Z T) : Prop := s.heard = false → s.stopped = false → s.beat.Called

/-- Unless stopped, the first cycle ends, and by a call of `on_timeout` if nothing is heard. -/
def Detected (s : Watch Z T) : Prop := s.Called ∧ (s.stopped = false → s.Ends)

/-- The transport takes the ping, or `_send_ping` does not reach it. -/
def Passes (s : Watch Z T) : Prop :=
  ∀ t ∈ s.transport, s.state.canSend = true →
    s.beat.manager.config.payload.length ≤ 125 ∧ t.connected = true ∧ t.parser.isSome = true ∧
      t.asyncioTransport = true

instance (s : Watch Z T) : Decidable s.Passes :=
  inferInstanceAs (Decidable (∀ t ∈ s.transport, _ → _ ∧ _ ∧ _ ∧ _))

/-- The ping of the first cycle passes, unless something was heard before it. -/
def FirstPasses (s : Watch Z T) : WatchInput Z T → Prop
  | .sleepOver _ => s.beat.cycles.isEmpty = true → s.heard = false → s.stopped = false → s.Passes
  | _ => True

instance (s : Watch Z T) : ∀ i, Decidable (s.FirstPasses i)
  | .sleepOver _ => inferInstanceAs (Decidable (_ → _ → _ → s.Passes))
  | .elapse _ | .pingEmitted | .pongSeen | .waitOver | .timeoutReturned | .timeoutRaised
  | .process _ | .stop | .elsewhere _ _ => isTrue trivial

/-- The invariant. -/
structure Kept (config : HeartbeatConfig T) (s : Watch Z T) : Prop where
  beat : s.stopped = false → s.beat.Kept config
  unheard : s.heard = false → s.stopped = false → s.beat.Unheard config

variable {config : HeartbeatConfig T} {s s' : Watch Z T} {key : MaskKey}

/-! ## send_ping -/

/-- **`_send_ping` raises** exactly where the transport refuses the ping. -/
theorem sendPing_raises_iff (s : Watch Z T) (key : MaskKey) :
    (∃ e, s.sendPing s.beat.manager.config.payload key = .error e) ↔ ¬ s.Passes := by
  unfold sendPing Passes
  cases ht : s.transport with
  | none => simp
  | some t =>
    cases hs : s.state.canSend with
    | false => simp
    | true =>
      simp only [Bool.not_true, Bool.false_eq_true, if_false, Option.mem_some_iff, forall_eq',
        forall_const]
      unfold AsyncTransport.ping
      by_cases hlong : 125 < s.beat.manager.config.payload.length
      · rw [if_pos hlong]
        exact iff_of_true ⟨_, rfl⟩ (fun h => absurd h.1 (by omega))
      · rw [if_neg hlong]
        have hshort : s.beat.manager.config.payload.length ≤ 125 := by omega
        cases hc : t.connected with
        | false => exact iff_of_true ⟨_, rfl⟩ (fun h => Bool.false_ne_true h.2.1)
        | true =>
          cases hp : t.parser with
          | none => exact iff_of_true ⟨_, rfl⟩ (fun h => Bool.false_ne_true h.2.2.1)
          | some parser =>
            cases ha : t.asyncioTransport with
            | false => exact iff_of_true ⟨_, rfl⟩ (fun h => Bool.false_ne_true h.2.2.2)
            | true =>
              refine iff_of_false ?_ (fun h => h ⟨hshort, rfl, rfl, rfl⟩)
              rintro ⟨e, he⟩
              cases he

/-- What a call of `send_ping` by the loop comes to. -/
theorem callSendPing_cases (h : s.callSendPing key = some s') :
    ¬ s.Passes ∧ s.beats .pingRaised = some s' ∨
      s.Passes ∧ ∃ transport, s' = { s with transport } ∨
        { s with transport }.beats .pingReturned = some s' := by
  have hraises := sendPing_raises_iff s key
  unfold callSendPing at h
  split at h
  · rename_i e he
    exact Or.inl ⟨hraises.mp ⟨e, he⟩, h⟩
  · rename_i transport hok
    have hpasses : s.Passes := by
      by_contra hno
      obtain ⟨e, he⟩ := hraises.mpr hno
      rw [hok] at he
      cases he
    cases h
    exact Or.inr ⟨hpasses, transport, Or.inl rfl⟩
  · rename_i transport hok
    have hpasses : s.Passes := by
      by_contra hno
      obtain ⟨e, he⟩ := hraises.mpr hno
      rw [hok] at he
      cases he
    exact Or.inr ⟨hpasses, transport, Or.inr h⟩

/-! ## One step -/

theorem beats_eq {i : BeatInput T} (h : s.beats i = some s') :
    ∃ b, s.beat.step i = some b ∧ s' = { s with beat := b } := by
  obtain ⟨b, hb, rfl⟩ := Option.map_eq_some_iff.mp h
  exact ⟨b, hb, rfl⟩

theorem Kept.beats {i : BeatInput T} (h : s.Kept config) (hs : s.beats i = some s')
    (hi : Beat.Undisturbed i) (hquiet : ∀ r, i ≠ .process r) : s'.Kept config := by
  obtain ⟨b, hb, rfl⟩ := beats_eq hs
  refine ⟨fun hstopped => Beat.kept_step _ i b (h.beat hstopped) hi hb, fun hheard hstopped => ?_⟩
  exact (h.unheard hheard hstopped).step (fun r hr => absurd hr (hquiet r)) hb

theorem Kept.callSendPing (h : s.Kept config) (hs : s.callSendPing key = some s') :
    s'.Kept config := by
  obtain ⟨-, hs⟩ | ⟨-, transport, rfl | hs⟩ := callSendPing_cases hs
  · exact h.beats hs trivial nofun
  · exact ⟨h.beat, h.unheard⟩
  · have hsame : Kept config { s with transport } := ⟨h.beat, h.unheard⟩
    exact hsame.beats hs trivial nofun

theorem kept_step (s : Watch Z T) (i : WatchInput Z T) (s' : Watch Z T) (h : s.Kept config)
    (hs : s.step i = some s') : s'.Kept config := by
  cases i with
  | elapse d => exact h.beats hs trivial nofun
  | pingEmitted => exact h.beats (i := .pingReturned) hs trivial nofun
  | pongSeen => exact h.beats (i := .pongSeen) hs trivial nofun
  | waitOver => exact h.beats (i := .waitOver) hs trivial nofun
  | timeoutReturned => exact h.beats (i := .timeoutReturned) hs trivial nofun
  | timeoutRaised => exact h.beats (i := .timeoutRaised) hs trivial nofun
  | sleepOver key =>
    simp only [step] at hs
    obtain ⟨t, ht, hs⟩ := Option.bind_eq_some_iff.mp hs
    have hkept : Kept config t := h.beats ht trivial nofun
    split at hs
    · exact hkept.callSendPing hs
    · cases hs
      exact hkept
  | process r =>
    simp only [step] at hs
    obtain ⟨t, ht, rfl⟩ := Option.map_eq_some_iff.mp hs
    obtain ⟨b, hb, rfl⟩ := beats_eq ht
    refine ⟨fun hstopped => Beat.kept_step _ (.process r) b (h.beat hstopped) trivial hb,
      fun hheard hstopped => ?_⟩
    obtain ⟨hheard, hanswers⟩ := Bool.or_eq_false_iff.mp hheard
    refine (h.unheard hheard hstopped).step (fun r' hr => ?_) hb
    cases hr
    rwa [(h.beat hstopped).configured] at hanswers
  | stop =>
    simp only [step] at hs
    obtain ⟨t, -, rfl⟩ := Option.map_eq_some_iff.mp hs
    exact ⟨nofun, fun _ => nofun⟩
  | elsewhere transport state =>
    cases hs
    exact ⟨h.beat, h.unheard⟩

/-- A regular step of the loop. -/
theorem called_beats {i : BeatInput T} (h : s.Kept config) (hcalled : s.Called)
    (hs : s.beats i = some s') (hi : Beat.Regular i) : s'.Called := by
  obtain ⟨b, hb, rfl⟩ := beats_eq hs
  exact fun hheard hstopped =>
    Beat.called_step (h.beat hstopped) (h.unheard hheard hstopped) (hcalled hheard hstopped) hi hb

/-- **The sleep is over**: the first cycle is lost exactly where its ping is refused. -/
theorem called_sleepOver (h : s.Kept config) (hcalled : s.Called)
    (hs : s.step (.sleepOver key) = some s') :
    s'.Called ↔ s.FirstPasses (.sleepOver key) := by
  simp only [step] at hs
  obtain ⟨t, ht, hs⟩ := Option.bind_eq_some_iff.mp hs
  have hkept : Kept config t := h.beats ht trivial nofun
  have hcalled' : t.Called := called_beats h hcalled ht trivial
  obtain ⟨b, hb, rfl⟩ := beats_eq ht
  by_cases hwatched : s.heard = false ∧ s.stopped = false
  · obtain ⟨hheard, hstopped⟩ := hwatched
    obtain ⟨htask, hconfig, c, hcs, hseen, hc⟩ := Beat.sleepOver_cycles (h.beat hstopped) hb
    have hpasses : Passes { s with beat := b } ↔ s.Passes := by
      unfold Passes
      rw [hconfig]
    rw [if_pos htask] at hs
    obtain ⟨hrefused, hs⟩ | ⟨hpass, transport, rfl | hs⟩ := callSendPing_cases hs
    · rw [hpasses] at hrefused
      obtain ⟨b', hb', rfl⟩ := beats_eq hs
      simp only [Beat.step, htask, if_true, Option.some.injEq] at hb'
      subst hb'
      unfold Called FirstPasses
      rw [List.isEmpty_iff]
      cases hold : s.beat.cycles with
      | nil =>
        rw [hold] at hcs
        refine iff_of_false (fun hall => ?_) (fun hall => hrefused (hall rfl hheard hstopped))
        have hraised := hall hheard hstopped .pingRaised (by
          rw [Beat.firstEnding_finish hcs, if_pos rfl]
          rfl)
        cases hraised
      | cons d rest =>
        rw [hold] at hcs
        refine iff_of_true (fun _ _ => ?_) (fun hnil => by cases hnil)
        exact (hcalled' hheard hstopped).finish hcs _ (fun hnil => by cases hnil)
    · exact iff_of_true hcalled' (fun _ _ _ => hpasses.mp hpass)
    · have hkept' : Kept config { s with beat := b, transport := transport } :=
        ⟨hkept.beat, hkept.unheard⟩
      exact iff_of_true (called_beats hkept' hcalled' hs trivial) (fun _ _ _ => hpasses.mp hpass)
  · -- Something was heard before, or `stop` was called.
    have hsame : s'.heard = s.heard ∧ s'.stopped = s.stopped := by
      split at hs
      · obtain ⟨-, hs⟩ | ⟨-, transport, rfl | hs⟩ := callSendPing_cases hs
        · obtain ⟨b', -, rfl⟩ := beats_eq hs
          exact ⟨rfl, rfl⟩
        · exact ⟨rfl, rfl⟩
        · obtain ⟨b', -, rfl⟩ := beats_eq hs
          exact ⟨rfl, rfl⟩
      · cases hs
        exact ⟨rfl, rfl⟩
    refine iff_of_true (fun hheard hstopped => ?_) (fun _ hheard hstopped => ?_)
    · exact absurd ⟨hsame.1.symm.trans hheard, hsame.2.symm.trans hstopped⟩ hwatched
    · exact absurd ⟨hheard, hstopped⟩ hwatched

/-- **One step.** -/
theorem called_step (s : Watch Z T) (i : WatchInput Z T) (s' : Watch Z T) (h : s.Kept config)
    (hcalled : s.Called) (hs : s.step i = some s') : s'.Called ↔ s.FirstPasses i := by
  cases i with
  | sleepOver key => exact called_sleepOver h hcalled hs
  | elapse d => exact iff_of_true (called_beats h hcalled hs trivial) trivial
  | pingEmitted =>
    exact iff_of_true (called_beats (i := .pingReturned) h hcalled hs trivial) trivial
  | pongSeen => exact iff_of_true (called_beats (i := .pongSeen) h hcalled hs trivial) trivial
  | waitOver => exact iff_of_true (called_beats (i := .waitOver) h hcalled hs trivial) trivial
  | timeoutReturned =>
    exact iff_of_true (called_beats (i := .timeoutReturned) h hcalled hs trivial) trivial
  | timeoutRaised =>
    exact iff_of_true (called_beats (i := .timeoutRaised) h hcalled hs trivial) trivial
  | process r =>
    simp only [step] at hs
    obtain ⟨t, ht, rfl⟩ := Option.map_eq_some_iff.mp hs
    refine iff_of_true (fun hheard hstopped => ?_) trivial
    have hbefore : s.heard = false := (Bool.or_eq_false_iff.mp hheard).1
    have hcalled' := called_beats h hcalled ht trivial
    obtain ⟨b, hb, rfl⟩ := beats_eq ht
    exact hcalled' hbefore hstopped
  | stop =>
    simp only [step] at hs
    obtain ⟨t, -, rfl⟩ := Option.map_eq_some_iff.mp hs
    exact iff_of_true (fun _ => nofun) trivial
  | elsewhere transport state =>
    cases hs
    exact iff_of_true hcalled trivial

/-! ## The first cycle ends -/

theorem Ends.of_step {j : WatchInput Z T} (hs : s.step j = some s') (hj : OwnStep j)
    (h : s'.Ends) : s.Ends := by
  obtain ⟨js, t, he, hown, hend⟩ := h
  refine ⟨j :: js, t, ?_, fun k hk => ?_, hend⟩
  · unfold exec
    rw [hs]
    exact he
  · obtain rfl | hk := List.mem_cons.mp hk
    · exact hj
    · exact hown k hk

/-- Time passes until `due`. -/
theorem elapse_until (s : Watch Z T) (due : ℚ) : ∃ now, due ≤ now ∧
    s.step (.elapse (max 0 (due - s.beat.now))) = some { s with beat := { s.beat with now } } := by
  refine ⟨s.beat.now + max 0 (due - s.beat.now), ?_, ?_⟩
  · have hmax := le_max_right 0 (due - s.beat.now)
    linarith
  · simp [step, beats, Beat.step]

/-- A wait ends. -/
theorem ends_waiting {deadline : ℚ} (h : s.Kept config) (hstopped : s.stopped = false)
    (htask : s.beat.manager.task = .waiting deadline) : s.Ends := by
  obtain ⟨c, rest, hcs, -, -, hover⟩ := (h.beat hstopped).placed.cycleOut (Or.inr ⟨_, htask⟩)
  obtain ⟨now, hdue, helapse⟩ := elapse_until s deadline
  refine .of_step helapse trivial ?_
  have hlate : ∃ m e, step { s with beat := { s.beat with now } } .waitOver =
      some { s with beat := { s.beat with now }.finish m e } := by
    simp only [step, beats, Beat.step, htask, if_pos hdue]
    split
    · exact ⟨_, _, rfl⟩
    · exact ⟨_, _, rfl⟩
  obtain ⟨m, e, hlate⟩ := hlate
  refine .of_step hlate trivial ⟨[], _, rfl, List.forall_mem_nil _, ?_⟩
  exact Beat.firstEnding_isSome_finish (b := { s.beat with now }) hcs hover m e

/-- Once its first ping is recorded, the loop comes to the end of the first cycle. -/
theorem ends_of_ping (h : s.Kept config) (hstopped : s.stopped = false)
    (hne : s.beat.cycles ≠ []) : s.Ends := by
  have hbeat := h.beat hstopped
  -- A cycle that is over, and the first one behind it.
  have allOver : ∀ cs, s.beat.cycles = cs → (∀ c ∈ cs, c.ending.isSome = true) → s.Ends := by
    rintro cs rfl hall
    refine ⟨[], s, rfl, List.forall_mem_nil _, ?_⟩
    unfold Beat.firstEnding
    rw [List.getLast?_eq_some_getLast hne]
    exact hall _ (List.getLast_mem hne)
  have hplaced := hbeat.placed
  generalize hcs : s.beat.cycles = cs at hplaced
  cases hplaced with
  | asleep _ hover => exact allOver _ hcs (fun c hc => (hover c hc).ended)
  | timedOut _ hc hover | ended _ hc hover =>
    refine allOver _ hcs (fun c hmem => ?_)
    obtain rfl | hmem := List.mem_cons.mp hmem
    · rw [hc]
      rfl
    · exact (hover c hmem).ended
  | out htask =>
    obtain htask | ⟨deadline, htask⟩ := htask
    · have hreturn : s.step .pingEmitted =
          some { s with
            beat := { s.beat with manager := s.beat.manager.awaitPong s.beat.now } } := by
        simp [step, beats, Beat.step, htask]
      have hwait : (s.beat.manager.awaitPong s.beat.now).task =
          .waiting (s.beat.now + s.beat.manager.config.timeout) := by
        unfold HeartbeatManager.awaitPong
        rw [if_pos hbeat.event]
      exact .of_step hreturn trivial
        (ends_waiting (kept_step s .pingEmitted _ h hreturn) hstopped hwait)
    · exact ends_waiting h hstopped htask

theorem callSendPing_isSome (htask : s.beat.manager.task = .pinging) (key : MaskKey) :
    (s.callSendPing key).isSome = true := by
  unfold callSendPing
  split
  · simp [beats, Beat.step, htask]
  · rfl
  · simp [beats, Beat.step, htask]

/-- **The first cycle ends** by the loop's own steps, unless `stop` is called. -/
theorem first_cycle_ends (h : s.Kept config) (hstopped : s.stopped = false) : s.Ends := by
  by_cases hne : s.beat.cycles = []
  · have hplaced := (h.beat hstopped).placed
    rw [hne] at hplaced
    cases hplaced with
    | @asleep due _ htask _ =>
      obtain ⟨now, hdue, helapse⟩ := elapse_until s due
      have hkept := kept_step s _ _ h helapse
      refine .of_step helapse trivial ?_
      have hbegin : ∃ b, Beat.step { s.beat with now } .sleepOver = some b := by
        simp only [Beat.step, htask, if_pos hdue]
        exact ⟨_, rfl⟩
      obtain ⟨b, hb⟩ := hbegin
      obtain ⟨hping, -, c, hcs, -, -⟩ := Beat.sleepOver_cycles (hkept.beat hstopped) hb
      obtain ⟨t, ht⟩ := Option.isSome_iff_exists.mp
        (callSendPing_isSome (s := { s with beat := b }) hping ⟨0, 0, 0, 0⟩)
      have hstep : step { s with beat := { s.beat with now } } (.sleepOver ⟨0, 0, 0, 0⟩) =
          some t := by
        simp only [step, beats, hb, Option.map_some, Option.bind_some, if_pos hping]
        exact ht
      have hpinged : t.beat.cycles ≠ [] ∧ t.stopped = false := by
        have hcons : b.cycles ≠ [] := by
          rw [hcs]
          exact List.cons_ne_nil _ _
        obtain ⟨-, hs⟩ | ⟨-, transport, rfl | hs⟩ := callSendPing_cases ht
        · obtain ⟨b', hb', rfl⟩ := beats_eq hs
          simp only [Beat.step, hping, if_true, Option.some.injEq] at hb'
          subst hb'
          refine ⟨fun hnil => hcons ?_, hstopped⟩
          simpa [Beat.finish] using hnil
        · exact ⟨hcons, hstopped⟩
        · obtain ⟨b', hb', rfl⟩ := beats_eq hs
          simp only [Beat.step, hping, if_true, Option.some.injEq] at hb'
          subst hb'
          exact ⟨hcons, hstopped⟩
      exact .of_step hstep trivial
        (ends_of_ping (kept_step _ _ _ hkept hstep) hpinged.2 hpinged.1)
  · exact ends_of_ping h hstopped hne

/-! ## Whole runs -/

theorem kept_start {m : HeartbeatManager T} (hm : m.running = false) (now : ℚ)
    (transport : Option (AsyncTransport Z)) (state : ConnectionState) :
    Kept m.config (start m now transport state) :=
  ⟨fun _ => Beat.kept_start hm now, fun _ _ => List.forall_mem_nil _⟩

/-- **A dead peer is detected** in the runs in which the ping of the first cycle passes, and in
no others. -/
theorem dead_peer_detected_iff {m : HeartbeatManager T} (hm : m.running = false) (now : ℚ)
    (transport : Option (AsyncTransport Z)) (state : ConnectionState)
    (run : List (WatchInput Z T)) :
    Always step Detected (start m now transport state) run ↔
      Meets step FirstPasses (start m now transport state) run := by
  have hstart := kept_start hm now transport state
  have hcalled : Always step Called (start m now transport state) run ↔
      Meets step FirstPasses (start m now transport state) run :=
    always_iff_meets_of_inv kept_step called_step run hstart (fun _ _ => nofun)
  rw [← hcalled]
  constructor
  · exact fun h => h.mono (fun _ hdetected => hdetected.1)
  · intro h
    have hkept := always_of_step kept_step run hstart
    exact (h.and hkept).mono (fun _ hs => ⟨hs.1, first_cycle_ends hs.2⟩)

/-- A transport whose handshake is over. -/
def openTransport : AsyncTransport plainZlib :=
  ((Transport.start plainZlib ⟨.little, 1024, 4096, false⟩ []).finishConnect none
    (fun _ => ⟨0, 0, 0, 0⟩)).1

/-- The first cycle of a peer that answers nothing: its ping, its wait, and `on_timeout`. -/
def silence : List (WatchInput plainZlib Unit) :=
  [.elapse 30, .sleepOver ⟨0, 0, 0, 0⟩, .pingEmitted, .elapse 10, .waitOver, .timeoutReturned]

/-- With the default configuration. -/
theorem dead_peer_detected_default : Always step Detected
    (start (HeartbeatManager.new (Beat.plainConfig Unit)) 0 (some openTransport) .connected)
    silence :=
  (dead_peer_detected_iff (m := HeartbeatManager.new (Beat.plainConfig Unit)) rfl 0
    (some openTransport) .connected silence).mpr (by decide +kernel)

/-- A run after which the first cycle is over, with nothing heard and nobody told. -/
theorem not_detected {s : Watch Z T} {run : List (WatchInput Z T)}
    (h : (exec step s run).map (fun s => (s.beat.firstEnding, s.heard, s.stopped)) =
      some (some .pingRaised, false, false)) : ¬ Always step Detected s run := by
  intro hall
  obtain ⟨t, ht, hend⟩ := Option.map_eq_some_iff.mp h
  simp only [Prod.mk.injEq] at hend
  obtain ⟨hending, hheard, hstopped⟩ := hend
  have hcalled := (hall.last ht).1 hheard hstopped .pingRaised hending
  cases hcalled

/-- The default configuration with a payload of 126 bytes. -/
def longPayload : HeartbeatConfig Unit :=
  { Beat.plainConfig Unit with payload := List.replicate 126 0 }

/-- Every ping is refused: for a payload over 125 bytes; and on a transport that is no longer
connected, in a state that can send. The first cycle ends without `on_timeout`. -/
theorem dead_peer_undetected :
    ¬ Always step Detected
        (start (HeartbeatManager.new longPayload) 0 (some openTransport) .connected)
        [.elapse 30, .sleepOver ⟨0, 0, 0, 0⟩] ∧
      ¬ Always step Detected
        (start (HeartbeatManager.new (Beat.plainConfig Unit)) 0 (some openTransport) .connected)
        [.elsewhere (some { openTransport with connected := false }) .connected, .elapse 30,
          .sleepOver ⟨0, 0, 0, 0⟩] :=
  ⟨not_detected (by decide +kernel), not_detected (by decide +kernel)⟩

end Watch

end JetSocket
