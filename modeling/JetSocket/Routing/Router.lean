import Mathlib.Data.Rat.Defs
import JetSocket.Lib.Transition
import JetSocket.Routing.Steps

/- The router task against every message that a server can send.

   The task catches `CancelledError` and nothing else. An exception from the extractor ends it, and
   so does the dictionary lookup of a channel that is a list or a dict. Nothing reports that, and
   later messages stay with the WebSocket.

   What is proved:
     `channelKey_keyed_iff` — where the extractor of `channel_key` gives a channel that cannot be
                              looked up.
     `router_survives_iff`  — all messages are routed or counted, and the next one still would be,
                              throughout a run exactly when each could be looked up. -/
namespace JetSocket.Routing
open Transition

/-! ## JSON values, and the extractor of `channel_key` -/

/-- What `json.loads` gives for anything but `null`, which is `none`. -/
inductive Value where
  | bool (b : Bool)
  | number (q : Rat)
  | string (s : String)
  | list (items : List (Option Value))
  | dict (fields : List (String × Option Value))

/-- What values are as keys of a dictionary: `True` is 1, and 1.0 is 1. -/
inductive Key where
  | number (q : Rat)
  | string (s : String)
  deriving DecidableEq

/-- The key that a value is, `none` where hashing it raises `TypeError`. -/
def Value.key : Value → Option Key
  | .bool b => some (.number (if b then 1 else 0))
  | .number q => some (.number q)
  | .string s => some (.string s)
  | .list _ | .dict _ => none

/-- `msg.get(_k) if isinstance(msg, dict) else None`, and what the router then does with it. -/
def channelKey (k : String) : Option Value → Extracted Key
  | some (.dict fields) =>
    match fields.lookup k with
    | none | some none => .absent
    | some (some value) =>
      match value.key with
      | none => .unhashable
      | some key => .channel key
  | _ => .absent

/-- The configuration that `__init__` makes of a `channel_key`. -/
def keyConfig (k : String) (queueSize : Int) : MultiplexConfig Value Key :=
  { channelExtractor := channelKey k, queueSize }

/-- The messages whose channel is no array and no object. -/
def PlainChannel (k : String) (message : Option Value) : Prop :=
  ∀ fields value, message = some (.dict fields) → fields.lookup k = some (some value) →
    value.key ≠ none

/-- **The channel of a message** under a `channel_key` can be looked up unless it is an array or an
object. -/
theorem channelKey_keyed_iff (k : String) (queueSize : Int) (message : Option Value) :
    (keyConfig k queueSize).Keyed message ↔ PlainChannel k message := by
  unfold MultiplexConfig.Keyed keyConfig PlainChannel
  dsimp only
  constructor
  · rintro h fields value rfl hfield hnone
    unfold channelKey at h
    simp only [hfield, hnone] at h
    rcases h with h | ⟨key, h⟩
    · cases h
    · cases h
  · intro h
    unfold channelKey
    split
    · rename_i fields
      split
      · exact .inl rfl
      · exact .inl rfl
      · rename_i value hfield
        cases hkey : value.key with
        | none => exact absurd hkey (h fields value rfl hfield)
        | some key => exact .inr ⟨key, rfl⟩
    · exact .inl rfl

/-! ## Runs -/

variable {M K : Type} [DecidableEq K]

/-- A multiplexed connection, and how many messages the server has sent. -/
structure Sent (M K : Type) where
  mux : Multiplex M K
  count : Nat

namespace Sent

def new (config : MultiplexConfig M K) : Sent M K := { mux := Multiplex.new config, count := 0 }

/-- A message is sent, and taken in if the router lives; or a call goes on. -/
def step (t : Sent M K) : Multiplex.Input M K → Option (Sent M K)
  | .consume message =>
    some { mux := (t.mux.step (.consume message)).getD t.mux, count := t.count + 1 }
  | input => (t.mux.step input).map (fun mux => { t with mux })

end Sent

/-- **The router survives**: all that was sent was routed or counted as unroutable, and a message
to an active subscription would be put into its queue. -/
structure Survives (t : Sent M K) : Prop where
  counted : t.mux.totalMessagesRouted + t.mux.unroutableMessages = t.count
  routes : ∀ message k i s, t.mux.config.channelExtractor message = .channel k →
    t.mux.lookup k = some (i, s) → s.active = true →
    ∃ mux s', t.mux.step (.consume message) = some mux ∧ mux.created[i]? = some s' ∧
      s'.queue.items.getLast? = some message ∧
      mux.totalMessagesRouted = t.mux.totalMessagesRouted + 1
  routing : t.mux.routing = true

/-- The messages among the inputs, and a condition on them. -/
def OfMessages (P : Option M → Prop) : Multiplex.Input M K → Prop
  | .consume message => P message
  | _ => True

/-- A message to an active subscription goes to it. -/
theorem Wired.routes {mux : Multiplex M K} (h : Wired mux) (hrouting : mux.routing = true)
    {message : Option M} {k : K} {i : Nat} {s : Subscription M K}
    (hk : mux.config.channelExtractor message = .channel k)
    (hlookup : mux.lookup k = some (i, s)) (hactive : s.active = true) :
    ∃ mux' s', mux.step (.consume message) = some mux' ∧ mux'.created[i]? = some s' ∧
      s'.queue.items.getLast? = some message ∧
      mux'.totalMessagesRouted = mux.totalMessagesRouted + 1 := by
  obtain ⟨j, hj, hpair⟩ := Option.bind_eq_some_iff.mp hlookup
  obtain ⟨u, hu, heq⟩ := Option.map_eq_some_iff.mp hpair
  cases heq
  obtain ⟨v, hv, hname⟩ := h.named k i hj
  rw [hu] at hv
  cases hv
  rcases h.route (.inr ⟨k, hk⟩) with ⟨-, hnone⟩ | ⟨n, r, queue, hr⟩
  · exact absurd (hname.symm ▸ hk) (hnone i s hu hactive)
  · obtain rfl : i = n := hr.only i s hu hactive (hname.symm ▸ hk)
    have hlt := (List.getElem?_eq_some_iff.mp hu).1
    refine ⟨_, r.counted queue, if_pos hrouting, ?_, ?_, ?_⟩
    · rw [hr.route]
      exact List.getElem?_set_self hlt
    · show queue.items.getLast? = some message
      rw [hr.items, List.getLast?_append]
      rfl
    · rw [hr.route]

variable {config : MultiplexConfig M K}

/-- The invariant of runs. -/
structure Running (config : MultiplexConfig M K) (t : Sent M K) : Prop where
  wired : Wired t.mux
  config : t.mux.config = config

/-- A call goes on as it does without the count. -/
theorem sent_call {t t' : Sent M K} {input : Multiplex.Input M K}
    (hcall : ∀ message, input ≠ .consume message) (ht : t.step input = some t') :
    ∃ mux, t.mux.step input = some mux ∧ t' = { t with mux } := by
  have hmap : (t.mux.step input).map (fun mux => { t with mux }) = some t' := by
    cases input with
    | consume message => exact absurd rfl (hcall message)
    | _ => exact ht
  obtain ⟨mux, hmux, rfl⟩ := Option.map_eq_some_iff.mp hmap
  exact ⟨mux, hmux, rfl⟩

theorem running_step (t : Sent M K) (input : Multiplex.Input M K) (t' : Sent M K)
    (h : Running config t) (ht : t.step input = some t') : Running config t' := by
  cases input with
  | consume message =>
    cases ht
    cases hmux : t.mux.step (.consume message) with
    | none => exact ⟨h.wired, h.config⟩
    | some mux => exact ⟨wired_step h.wired hmux, (step_config h.wired hmux).trans h.config⟩
  | _ =>
    obtain ⟨mux, hmux, rfl⟩ := sent_call (fun _ he => (by cases he)) ht
    exact ⟨wired_step h.wired hmux, (step_config h.wired hmux).trans h.config⟩

theorem Survives.of_counted {t : Sent M K} (h : Wired t.mux) (hrouting : t.mux.routing = true)
    (hcounted : t.mux.totalMessagesRouted + t.mux.unroutableMessages = t.count) : Survives t :=
  ⟨hcounted, fun _ _ _ _ hk hlookup hactive => h.routes hrouting hk hlookup hactive, hrouting⟩

/-- A call leaves the router and the counters alone. -/
theorem call_counters {mux mux' : Multiplex M K} (h : Wired mux) {input : Multiplex.Input M K}
    (hs : mux.step input = some mux') (hcall : ∀ message, input ≠ .consume message) :
    mux'.routing = mux.routing ∧ mux'.totalMessagesRouted = mux.totalMessagesRouted ∧
      mux'.unroutableMessages = mux.unroutableMessages := by
  cases step_acts h hs with
  | died message | unrouted message | routed message => exact absurd rfl (hcall message)
  | _ => exact ⟨rfl, rfl, rfl⟩

/-- **One step** keeps the router alive exactly when its message can be looked up. -/
theorem survives_step_iff (t : Sent M K) (input : Multiplex.Input M K) (t' : Sent M K)
    (h : Running config t) (hs : Survives t) (ht : t.step input = some t') :
    Survives t' ↔ OfMessages config.Keyed input := by
  have hwired := (running_step t input t' h ht).wired
  have hcall : (∀ message, input ≠ .consume message) → Survives t' := by
    intro hcall
    obtain ⟨mux, hmux, rfl⟩ := sent_call hcall ht
    obtain ⟨hrouting, htotal, hunroutable⟩ := call_counters h.wired hmux hcall
    refine Survives.of_counted hwired (hrouting.trans hs.routing) ?_
    dsimp only
    rw [htotal, hunroutable]
    exact hs.counted
  cases input with
  | consume message =>
    cases ht
    obtain ⟨mux, hmux⟩ : ∃ mux, t.mux.step (.consume message) = some mux :=
      ⟨_, if_pos hs.routing⟩
    rw [hmux, Option.getD_some] at hwired ⊢
    have hcounted := hs.counted
    have hcondition : OfMessages config.Keyed (.consume message : Multiplex.Input M K) ↔
        t.mux.config.Keyed message := by
      rw [h.config]
      exact Iff.rfl
    rw [hcondition]
    cases step_acts h.wired hmux with
    | died message hkeyed => exact iff_of_false (fun h' => (by cases h'.routing)) hkeyed
    | unrouted message hkeyed hnone =>
      refine iff_of_true (Survives.of_counted hwired hs.routing ?_) hkeyed
      simp only [Multiplex.unroutable]
      omega
    | routed message i s queue hr =>
      refine iff_of_true (Survives.of_counted hwired hs.routing ?_) (.inr ⟨_, hr.channel⟩)
      dsimp only
      omega
    | kept input hquiet | closed input hquiet => exact hquiet.elim
  | _ => exact iff_of_true (hcall (fun _ he => (by cases he))) trivial

/-- **The router survives** a run exactly when every message that is sent can be looked up; under a
`channel_key`, when the channel of none is an array or an object. -/
theorem router_survives_iff :
    (∀ (config : MultiplexConfig M K) (run : List (Multiplex.Input M K)),
      Always Sent.step Survives (Sent.new config) run ↔
        Meets Sent.step (fun _ => OfMessages config.Keyed) (Sent.new config) run) ∧
    ∀ (k : String) (queueSize : Int) (run : List (Multiplex.Input Value Key)),
      Always Sent.step Survives (Sent.new (keyConfig k queueSize)) run ↔
        Meets Sent.step (fun _ => OfMessages (PlainChannel k)) (Sent.new (keyConfig k queueSize))
          run := by
  have hall : ∀ {N L : Type} [DecidableEq L] (config : MultiplexConfig N L)
      (run : List (Multiplex.Input N L)),
      Always Sent.step Survives (Sent.new config) run ↔
        Meets Sent.step (fun _ => OfMessages config.Keyed) (Sent.new config) run :=
    fun config run => always_iff_meets_of_inv running_step survives_step_iff run
      ⟨wired_new config, rfl⟩ (Survives.of_counted (wired_new config) rfl rfl)
  refine ⟨hall, fun k queueSize run => ?_⟩
  have hkeyed : (keyConfig k queueSize).Keyed = PlainChannel k :=
    funext (fun message => propext (channelKey_keyed_iff k queueSize message))
  rw [← hkeyed]
  exact hall (keyConfig k queueSize) run

/-- An object with an array for its channel ends the router, and the next message is left. -/
theorem list_channel_kills :
    ¬ Always Sent.step Survives (Sent.new (keyConfig "stream" 1000))
      [.subscribe true (.string "a"), .consume (some (.dict [("stream", some (.list []))])),
        .consume (some (.dict [("stream", some (.string "a"))]))] := by
  intro h
  have hrouting := (h.last rfl).routing
  cases hrouting

end JetSocket.Routing
