import JetSocket.Lib.Transition
import JetSocket.Manager.Replay
import Mathlib.Algebra.Order.Group.Multiset
import Mathlib.Tactic.Abel

/- Where the received messages are. A `Ledger` keeps, beside the buffer, the messages received,
   the ones the user took out of `ws.buffer`, and the duplicates.

   The counter and the events agree in every run (`Kept`). The messages are accounted for as long
   as each one meets a `ReplayConfig`, and a buffer that does not raise:
   `received_accounted_iff`. -/
namespace JetSocket.Manager
open JetSocket.Buffer Transition

/-- How the user takes messages out of `ws.buffer`. -/
inductive Removal where
  | pop
  | drain
  | drainWithSequences
  deriving DecidableEq, Repr

namespace Removal
variable {α σ : Type}

def op : Removal → MessageBuffer.Op α σ
  | .pop => .pop
  | .drain => .drain
  | .drainWithSequences => .drainWithSequences

/-- What leaves a buffer that stores `xs`, and what stays. -/
def taken (xs : List (Option α × Option σ)) : Removal → List (Option α × Option σ)
  | .pop => xs.take 1
  | .drain | .drainWithSequences => xs

def left (xs : List (Option α × Option σ)) : Removal → List (Option α × Option σ)
  | .pop => xs.tail
  | .drain | .drainWithSequences => []

theorem taken_append_left (xs : List (Option α × Option σ)) (r : Removal) :
    r.taken xs ++ r.left xs = xs := by
  cases r with
  | pop => cases xs <;> rfl
  | drain | drainWithSequences => exact List.append_nil xs

variable [DecidableEq σ]

/-- A removal leaves what it should, and the counter. -/
theorem stored_apply {b : MessageBuffer α σ} (h : b.Valid) (r : Removal) :
    (b.apply r.op).stored = r.left b.stored ∧ (b.apply r.op).totalDropped = b.totalDropped := by
  have hstores := h.stores
  cases r with
  | pop =>
    refine ⟨?_, (RingBuffer.Leaves.pop b.buffer).totalDropped⟩
    show b.buffer.pop.1.stored = b.stored.tail
    generalize b.stored = xs at hstores
    cases xs with
    | nil => rw [hstores.pop_nil, hstores.stored_eq, List.tail_nil]
    | cons x xs => exact hstores.pop_cons.2.stored_eq
  | drain => exact ⟨hstores.drain.2.stored_eq, (RingBuffer.Leaves.drain b.buffer).totalDropped⟩
  | drainWithSequences =>
    exact ⟨hstores.drainWithSequences.2.stored_eq,
      (RingBuffer.Leaves.drainWithSequences b.buffer).totalDropped⟩

end Removal

inductive BufferAction (α : Type) where
  | received (data : Option α)
  | remove (r : Removal)

/-- The messages received so far, the ones the user took out, and the duplicates. -/
structure Ledger (α σ : Type) where
  ws : Replayer α σ
  received : List (Option α)
  taken : List (Option α)
  duplicates : List (Option α)

namespace Ledger
variable {α σ : Type} [DecidableEq σ]

def start (bufferConfig : BufferConfig) (replayConfig : Option (ReplayConfig α σ)) : Ledger α σ :=
  { ws := .new (some bufferConfig) replayConfig, received := [], taken := [], duplicates := [] }

def stored (l : Ledger α σ) : List (Option α × Option σ) := l.ws.buffer.elim [] (·.stored)

def totalDropped (l : Ledger α σ) : Nat := l.ws.buffer.elim 0 (·.totalDropped)

/-- The message is looked up in the window, and found. -/
def rejects (l : Ledger α σ) (data : Option α) : Bool :=
  match l.ws.buffer, l.ws.replayConfig with
  | some buffer, some config => buffer.rejectsDuplicate (config.extract data)
  | _, _ => false

def step (l : Ledger α σ) : BufferAction α → Option (Ledger α σ)
  | .received data =>
    some { l with
      ws := l.ws.trackReceivedMessage data
      received := l.received ++ [data]
      duplicates := l.duplicates ++ if l.rejects data then [data] else [] }
  | .remove r =>
    some { l with
      ws := l.ws.callBuffer r.op
      taken := l.taken ++ (r.taken l.stored).map Prod.fst }

/-- The numbers that the `buffer_overflow` events report. -/
def droppedCounts (l : Ledger α σ) : List Int :=
  l.ws.emitted.filterMap (fun e => match e with
    | .bufferOverflow _ droppedCount _ => some droppedCount
    | _ => none)

/-- Every received message is stored, taken out, rejected as a duplicate, or one of
`total_dropped` many, which is what the events add up to. -/
structure Accounted (l : Ledger α σ) : Prop where
  messages : ∃ dropped : List (Option α), dropped.length = l.totalDropped ∧
    (l.received : Multiset (Option α)) =
      l.stored.map Prod.fst + l.taken + l.duplicates + dropped
  reported : l.droppedCounts.sum = l.totalDropped

/-- A message that is received meets a `ReplayConfig`, and a buffer that does not raise. -/
def Reports (l : Ledger α σ) : BufferAction α → Prop
  | .received data =>
    match l.ws.buffer, l.ws.replayConfig with
    | some buffer, some config =>
      buffer.rejectsDuplicate (config.extract data) = true ∨ buffer.isFull = false ∨
        buffer.config.overflowPolicy ≠ .error
    | _, _ => False
  | .remove _ => True

/-- What holds of every ledger of a `WebSocket` that has a buffer. -/
structure Kept (l : Ledger α σ) : Prop where
  buffer : ∃ buffer, l.ws.buffer = some buffer ∧ buffer.Valid
  last : l.ws.lastDroppedCount = l.totalDropped
  reported : l.droppedCounts.sum = l.totalDropped

/-! ## One step -/

section Step
variable {l : Ledger α σ} {buffer : MessageBuffer α σ} {config : ReplayConfig α σ}

theorem rejects_eq (hb : l.ws.buffer = some buffer) (hc : l.ws.replayConfig = some config)
    (data : Option α) :
    l.rejects data = buffer.rejectsDuplicate (config.extract data) := by
  unfold rejects
  rw [hb, hc]

theorem received_ws {l' : Ledger α σ} {data : Option α}
    (hs : l.step (.received data) = some l') : l'.ws = l.ws.trackReceivedMessage data := by
  cases hs
  rfl

theorem removed_ws {l' : Ledger α σ} {r : Removal} (hs : l.step (.remove r) = some l') :
    l'.ws = l.ws.callBuffer r.op := by
  cases hs
  rfl

theorem removed_buffer {l' : Ledger α σ} {r : Removal} (hb : l.ws.buffer = some buffer)
    (hs : l.step (.remove r) = some l') : l'.ws.buffer = some (buffer.apply r.op) := by
  rw [removed_ws hs]
  show l.ws.buffer.map _ = _
  rw [hb]
  rfl

/-- The counter goes up by one at most. A step up is reported, with what was not reported
before. -/
theorem track_reports (hv : buffer.Valid) (hb : l.ws.buffer = some buffer)
    (hc : l.ws.replayConfig = some config) (data : Option α) :
    let buffer' := (buffer.push data (config.extract data)).1
    let ws' := l.ws.trackReceivedMessage data
    buffer'.totalDropped = buffer.totalDropped ∧
        ws'.lastDroppedCount = l.ws.lastDroppedCount ∧ ws'.emitted = l.ws.emitted ∨
      buffer'.totalDropped = buffer.totalDropped + 1 ∧
        ws'.lastDroppedCount = buffer'.totalDropped ∧ ∃ capacity policy, ws'.emitted =
          l.ws.emitted ++ [.bufferOverflow capacity
            ((buffer'.totalDropped : Int) - l.ws.lastDroppedCount) policy] := by
  have htotal : (buffer.push data (config.extract data)).1.totalDropped = buffer.totalDropped ∨
      (buffer.push data (config.extract data)).1.totalDropped = buffer.totalDropped + 1 := by
    cases hv.fate data (config.extract data) with
    | duplicate _ hb => exact .inl (by rw [hb])
    | added _ _ _ ht | raised _ _ _ _ ht => exact .inl ht
    | evicted _ _ _ _ _ _ ht | dropped _ _ _ ht => exact .inr ht
  unfold Replayer.trackReceivedMessage
  rw [hb, hc]
  simp only
  obtain ht | ht := htotal
  · rw [if_neg (by rw [ht]; exact Nat.lt_irrefl _)]
    exact .inl ⟨ht, rfl, rfl⟩
  · rw [if_pos (by rw [ht]; exact Nat.lt_succ_self _)]
    exact .inr ⟨ht, rfl, _, _, rfl⟩

end Step

/-! ## The invariant -/

section Kept
variable {l l' : Ledger α σ} {buffer : MessageBuffer α σ}

omit [DecidableEq σ] in
theorem kept_start (bufferConfig : BufferConfig) (replayConfig : Option (ReplayConfig α σ)) :
    Kept (start bufferConfig replayConfig) :=
  ⟨⟨_, rfl, MessageBuffer.valid_new _⟩, rfl, rfl⟩

omit [DecidableEq σ] in
theorem totalDropped_eq (hb : l.ws.buffer = some buffer) :
    l.totalDropped = buffer.totalDropped := by
  unfold totalDropped
  rw [hb]
  rfl

omit [DecidableEq σ] in
theorem stored_eq (hb : l.ws.buffer = some buffer) : l.stored = buffer.stored := by
  unfold stored
  rw [hb]
  rfl

omit [DecidableEq σ] in
theorem droppedCounts_append {capacity : Nat} {n : Int} {policy : OverflowPolicy}
    (he : l'.ws.emitted = l.ws.emitted ++ [.bufferOverflow capacity n policy]) :
    l'.droppedCounts = l.droppedCounts ++ [n] := by
  unfold droppedCounts
  rw [he, List.filterMap_append]
  rfl

theorem Kept.received (h : Kept l) {data : Option α} (hs : l.step (.received data) = some l') :
    Kept l' := by
  obtain ⟨buffer, hb, hvalid⟩ := h.buffer
  have hlast := h.last
  have hreported := h.reported
  rw [totalDropped_eq hb] at hlast hreported
  have hws := received_ws hs
  cases hc : l.ws.replayConfig with
  | none =>
    rw [Replayer.track_none hc] at hws
    refine ⟨⟨buffer, hws ▸ hb, hvalid⟩, ?_, ?_⟩
    · rw [totalDropped_eq (hws ▸ hb), hws]
      exact hlast
    · rw [totalDropped_eq (hws ▸ hb), ← hreported]
      unfold droppedCounts
      rw [hws]
  | some config =>
    have hb' := Replayer.track_buffer hb hc data
    have hreports := track_reports hvalid hb hc data
    rw [← hws] at hb' hreports
    refine ⟨⟨_, hb', hvalid.push _ _⟩, ?_, ?_⟩
    · rw [totalDropped_eq hb']
      obtain ⟨ht, hl, -⟩ | ⟨-, hl, -⟩ := hreports
      · rw [hl, ht]
        exact hlast
      · exact hl
    · rw [totalDropped_eq hb']
      obtain ⟨ht, -, he⟩ | ⟨ht, -, _, _, he⟩ := hreports
      · rw [ht, ← hreported]
        unfold droppedCounts
        rw [he]
      · rw [droppedCounts_append he, List.sum_append, List.sum_singleton, hreported, hlast]
        omega

theorem Kept.removed (h : Kept l) {r : Removal} (hs : l.step (.remove r) = some l') : Kept l' := by
  obtain ⟨buffer, hb, hvalid⟩ := h.buffer
  have hlast := h.last
  have hreported := h.reported
  rw [totalDropped_eq hb] at hlast hreported
  have hws := removed_ws hs
  have hb' := removed_buffer hb hs
  have htotal := (r.stored_apply hvalid).2
  refine ⟨⟨_, hb', hvalid.apply _⟩, ?_, ?_⟩
  · rw [totalDropped_eq hb', htotal, hws]
    exact hlast
  · rw [totalDropped_eq hb', htotal, ← hreported]
    unfold droppedCounts
    rw [hws]
    rfl

theorem Kept.step (h : Kept l) {a : BufferAction α} (hs : l.step a = some l') : Kept l' := by
  cases a with
  | received data => exact h.received hs
  | remove r => exact h.removed hs

end Kept

/-! ## The accounts -/

section Accounted
variable {l l' : Ledger α σ} {data : Option α}

omit [DecidableEq σ] in
/-- In a ledger that accounts for the messages, there are as many as it says. -/
theorem Accounted.length (h : Accounted l) : l.received.length =
    l.stored.length + l.taken.length + l.duplicates.length + l.totalDropped := by
  obtain ⟨dropped, hlength, hmessages⟩ := h.messages
  have hcard := congrArg Multiset.card hmessages
  simpa [hlength, Nat.add_assoc] using hcard

/-- A message of which nothing is left. -/
theorem vanished (h : Accounted l) (hs : l.step (.received data) = some l')
    (hstored : l'.stored = l.stored) (hrejects : l.rejects data = false)
    (htotal : l'.totalDropped = l.totalDropped) : ¬ Accounted l' := by
  intro h'
  have hlength := h.length
  have hlength' := h'.length
  rw [hstored, htotal] at hlength'
  cases hs
  simp [hrejects] at hlength'
  omega

theorem regroup {β : Type} {S S' T U D E E' x : Multiset β} (h : S' + D + E' = S + x) :
    S + T + U + E + x = S' + T + (U + D) + (E + E') := by
  calc S + T + U + E + x = S + x + (T + U + E) := by abel
    _ = S' + D + E' + (T + U + E) := by rw [h]
    _ = S' + T + (U + D) + (E + E') := by abel

/-- A message that is kept account of: what is added to the accounts is the message. -/
theorem Accounted.received (h : Accounted l) (hk : Kept l')
    (hs : l.step (.received data) = some l') (dropped : List (Option α))
    (hdropped : l'.totalDropped = l.totalDropped + dropped.length)
    (hmessages : (l'.stored.map Prod.fst ++ (if l.rejects data then [data] else []) ++
      dropped).Perm (l.stored.map Prod.fst ++ [data])) : Accounted l' := by
  obtain ⟨earlier, hearlier, hreceived⟩ := h.messages
  refine ⟨⟨earlier ++ dropped, ?_, ?_⟩, hk.reported⟩
  · rw [List.length_append, hearlier, hdropped]
  · have hmessages := Multiset.coe_eq_coe.mpr hmessages
    cases hs
    simp only [← Multiset.coe_add] at hmessages ⊢
    rw [hreceived]
    exact regroup hmessages

/-- What one received message does to the accounts. -/
theorem accounted_received (hk : Kept l) (h : Accounted l)
    (hs : l.step (.received data) = some l') : Accounted l' ↔ Reports l (.received data) := by
  obtain ⟨buffer, hb, hvalid⟩ := hk.buffer
  have hk' := hk.received hs
  have hws := received_ws hs
  have htotal := totalDropped_eq hb
  have hstored := stored_eq hb
  unfold Reports
  cases hc : l.ws.replayConfig with
  | none =>
    rw [Replayer.track_none hc] at hws
    have hrejects : l.rejects data = false := by
      unfold rejects
      rw [hb, hc]
    have hlost := vanished h hs ((stored_eq (hws ▸ hb)).trans hstored.symm) hrejects
      ((totalDropped_eq (hws ▸ hb)).trans htotal.symm)
    rw [hb]
    exact iff_of_false hlost (fun hf => hf)
  | some config =>
    have hb' : l'.ws.buffer = some (buffer.push data (config.extract data)).1 := by
      rw [hws]
      exact Replayer.track_buffer hb hc data
    have hrejects := rejects_eq hb hc data
    have htotal' := totalDropped_eq hb'
    have hstored' := stored_eq hb'
    rw [hb]
    show _ ↔ buffer.rejectsDuplicate (config.extract data) = true ∨ buffer.isFull = false ∨
      buffer.config.overflowPolicy ≠ .error
    cases hvalid.fate data (config.extract data) with
    | duplicate hd he =>
      rw [he] at htotal' hstored'
      refine iff_of_true (h.received hk' hs [] (htotal'.trans htotal.symm) ?_) (.inl hd)
      rw [hrejects, hd, hstored', hstored, if_pos rfl, List.append_nil]
    | added hd hfull hs' ht =>
      refine iff_of_true (h.received hk' hs [] ?_ ?_) (.inr (.inl hfull))
      · rw [htotal', ht, htotal, List.length_nil, add_zero]
      · rw [hrejects, hd, hstored', hs', hstored, List.map_append, List.append_nil]
        exact .of_eq (List.append_nil _)
    | evicted x xs hd hp hx hs' ht =>
      refine iff_of_true (h.received hk' hs [x.1] ?_ ?_) (.inr (.inr ?_))
      · rw [htotal', ht, htotal, List.length_singleton]
      · rw [hrejects, hd, hstored', hs', hstored, hx, List.map_append, List.map_cons]
        show (_ ++ [data] ++ [] ++ [x.1]).Perm (x.1 :: (_ ++ [data]))
        rw [List.append_nil]
        exact List.perm_append_singleton _ _
      · rw [hp]
        decide
    | dropped hd hp hs' ht =>
      refine iff_of_true (h.received hk' hs [data] ?_ ?_) (.inr (.inr ?_))
      · rw [htotal', ht, htotal, List.length_singleton]
      · rw [hrejects, hd, hstored', hs', hstored]
        exact .of_eq (congrArg (· ++ [data]) (List.append_nil _))
      · rw [hp]
        decide
    | raised hd hfull hp hs' ht =>
      have hlost := vanished h hs (hstored'.trans (hs'.trans hstored.symm)) (hrejects.trans hd)
        (htotal'.trans (ht.trans htotal.symm))
      refine iff_of_false hlost ?_
      rw [hd, hfull, hp]
      decide

/-- What the user takes out is still accounted for. -/
theorem Accounted.removed {r : Removal} (hk : Kept l) (h : Accounted l)
    (hs : l.step (.remove r) = some l') : Accounted l' := by
  obtain ⟨buffer, hb, hvalid⟩ := hk.buffer
  obtain ⟨dropped, hlength, hmessages⟩ := h.messages
  obtain ⟨hleft, htotal⟩ := r.stored_apply hvalid
  have hreported := (hk.removed hs).reported
  have hb' := removed_buffer hb hs
  have hsplit : (l.stored.map Prod.fst : Multiset (Option α)) =
      (r.taken l.stored).map Prod.fst + (r.left l.stored).map Prod.fst := by
    rw [Multiset.coe_add, ← List.map_append, r.taken_append_left]
  refine ⟨⟨dropped, ?_, ?_⟩, hreported⟩
  · rw [hlength, totalDropped_eq hb', htotal, totalDropped_eq hb]
  · rw [stored_eq hb', hleft, ← stored_eq hb]
    cases hs
    simp only [← Multiset.coe_add, hmessages, hsplit]
    abel

theorem accounted_step (hk : Kept l) (h : Accounted l) {a : BufferAction α}
    (hs : l.step a = some l') : Accounted l' ↔ Reports l a := by
  cases a with
  | received data => exact accounted_received hk h hs
  | remove r => exact iff_of_true (h.removed hk hs) trivial

omit [DecidableEq σ] in
theorem accounted_start (bufferConfig : BufferConfig)
    (replayConfig : Option (ReplayConfig α σ)) : Accounted (start bufferConfig replayConfig) := by
  refine ⟨⟨[], rfl, ?_⟩, rfl⟩
  have hempty : (start bufferConfig replayConfig).stored = [] :=
    (RingBuffer.stores_new bufferConfig.capacity_pos _).stored_eq
  rw [hempty]
  rfl

/-- **Received messages are accounted for**, in every state of a run, exactly when each one that
is received meets a `ReplayConfig`, and a buffer that does not raise. -/
theorem received_accounted_iff (bufferConfig : BufferConfig)
    (replayConfig : Option (ReplayConfig α σ)) (actions : List (BufferAction α)) :
    Always step Accounted (start bufferConfig replayConfig) actions ↔
      Meets step Reports (start bufferConfig replayConfig) actions :=
  always_iff_meets_of_inv (fun _ _ _ hk hs => hk.step hs)
    (fun _ _ _ hk h hs => accounted_step hk h hs) actions (kept_start _ _)
    (accounted_start _ _)

end Accounted

/-- A full buffer of this kind raises. -/
def strict : BufferConfig :=
  { BufferConfig.default with
    capacity := 1, overflowPolicy := .error, capacity_pos := Nat.one_pos }

/-- A `ReplayConfig` without an extractor. -/
def plain : ReplayConfig Nat Nat :=
  { mode := .none, sequenceExtractor := none, onReplay := none,
    onReplay_some := fun h => by cases h }

/-- Without a `ReplayConfig` the first message vanishes, and with one that raises the second. -/
theorem received_vanish :
    ¬ Always step Accounted (start strict none : Ledger Nat Nat) [.received (some 1)] ∧
      ¬ Always step Accounted (start strict (some plain))
        [.received (some 1), .received (some 2)] := by
  constructor
  · intro h
    have hlength := (h.2 _ rfl).length
    revert hlength
    decide
  · intro h
    have hlength := ((h.2 _ rfl).2 _ rfl).length
    revert hlength
    decide

end Ledger

end JetSocket.Manager
