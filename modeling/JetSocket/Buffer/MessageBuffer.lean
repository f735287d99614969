import Mathlib.Data.List.Nodup
import JetSocket.Buffer.RingBuffer

/- The message buffer (`buffer.py`): a ring buffer, the last sequence id, and the window of
   sequence ids that deduplication looks at.

   Correspondence (Python ↔ Lean):
     `BufferConfig`, `__post_init__`             ↔ `BufferConfig`, `BufferConfig.postInit`
     `MessageBuffer`, `push`                     ↔ `MessageBuffer`, `push`
     `is_duplicate`, `_track_sequence`           ↔ `isDuplicate`, `trackSequence`
     `pop`, `drain`, `drain_with_sequences`      ↔ `pop`, `drain`, `drainWithSequences`
     `clear`, `clear_dedup`, `reset`             ↔ `clear`, `clearDedup`, `reset`

   The `OrderedDict` of seen ids is the list of its keys, oldest first. `push` writes the last id
   and the window before it asks the ring buffer, which may refuse: `refused_push_iff`. -/
namespace JetSocket.Buffer

/-- `overflow_policy`, one of the three names. -/
def OverflowPolicy.ofName : String → Option OverflowPolicy
  | "drop_oldest" => some .dropOldest
  | "drop_newest" => some .dropNewest
  | "error" => some .error
  | _ => none

structure BufferConfig where
  capacity : Nat
  overflowPolicy : OverflowPolicy
  enableDedup : Bool
  dedupWindow : Nat
  capacity_pos : 0 < capacity
  dedupWindow_pos : 0 < dedupWindow
  deriving DecidableEq, Repr

namespace BufferConfig

/-- `__post_init__`. -/
def postInit (capacity : Int) (overflowPolicy : String) (enableDedup : Bool) (dedupWindow : Int) :
    Except Exc BufferConfig :=
  if hc : capacity ≤ 0 then
    .error (.valueError s!"capacity must be positive, got {capacity}")
  else
    match OverflowPolicy.ofName overflowPolicy with
    | none => .error (.valueError s!"Invalid overflow_policy: {overflowPolicy}")
    | some policy =>
      if hw : dedupWindow ≤ 0 then
        .error (.valueError s!"dedup_window must be positive, got {dedupWindow}")
      else
        .ok { capacity := capacity.toNat, overflowPolicy := policy, enableDedup,
              dedupWindow := dedupWindow.toNat, capacity_pos := by omega,
              dedupWindow_pos := by omega }

/-- `BufferConfig()`. -/
def default : BufferConfig :=
  { capacity := 1000, overflowPolicy := .dropOldest, enableDedup := false, dedupWindow := 100,
    capacity_pos := by decide, dedupWindow_pos := by decide }

example : postInit 1000 "drop_oldest" false 100 = .ok default := rfl

end BufferConfig

structure MessageBuffer (α σ : Type) where
  config : BufferConfig
  buffer : RingBuffer α σ
  lastSequenceId : Option σ
  seenSequences : List σ
  deriving DecidableEq, Repr

namespace MessageBuffer
variable {α σ : Type}

/-- `__init__`: the ring buffer takes the capacity of every configuration. -/
def new (config : Option BufferConfig) : MessageBuffer α σ :=
  let config := config.getD .default
  { config, buffer := PythonRingBuffer.new config.capacity config.overflowPolicy,
    lastSequenceId := none, seenSequences := [] }

/-- The loop that evicts the oldest ids. -/
def evictOldest (dedupWindow : Nat) : List σ → List σ
  | [] => []
  | s :: seen =>
    if (s :: seen).length > dedupWindow then evictOldest dedupWindow seen else s :: seen

theorem evictOldest_eq_drop (w : Nat) (seen : List σ) :
    evictOldest w seen = seen.drop (seen.length - w) := by
  induction seen with
  | nil =>
    rw [List.drop_nil]
    rfl
  | cons s seen ih =>
    unfold evictOldest
    split
    · next h =>
      have hsub : (s :: seen).length - w = seen.length - w + 1 := by
        rw [List.length_cons] at h ⊢
        omega
      rw [ih, hsub, List.drop_succ_cons]
    · next h => rw [Nat.sub_eq_zero_of_le (by omega), List.drop_zero]

section Dedup
variable [DecidableEq σ]

/-- `is_duplicate`. -/
def isDuplicate (b : MessageBuffer α σ) (sequenceId : σ) : Bool := sequenceId ∈ b.seenSequences

/-- `_track_sequence`. -/
def trackSequence (b : MessageBuffer α σ) (sequenceId : σ) : MessageBuffer α σ :=
  let seen := if sequenceId ∈ b.seenSequences then b.seenSequences.erase sequenceId
    else b.seenSequences
  { b with seenSequences := evictOldest b.config.dedupWindow (seen ++ [sequenceId]) }

/-- `self._buffer.push`. -/
def pushBuffer (b : MessageBuffer α σ) (message : Option α) (sequenceId : Option σ) :
    MessageBuffer α σ × Except BufferOverflowError Bool :=
  let r := b.buffer.push message sequenceId
  ({ b with buffer := r.1 }, r.2)

/-- The last id is noted, and with deduplication the window. -/
def noteSequence (b : MessageBuffer α σ) (sequenceId : σ) : MessageBuffer α σ :=
  let b := { b with lastSequenceId := some sequenceId }
  if b.config.enableDedup then b.trackSequence sequenceId else b

/-- `push`. -/
def push (b : MessageBuffer α σ) (message : Option α) (sequenceId : Option σ) :
    MessageBuffer α σ × Except BufferOverflowError Bool :=
  match sequenceId with
  | none => b.pushBuffer message none
  | some s =>
    if b.config.enableDedup && b.isDuplicate s then (b, .ok false)
    else (b.noteSequence s).pushBuffer message (some s)

end Dedup

/-- `pop`. -/
def pop (b : MessageBuffer α σ) : MessageBuffer α σ × Option α :=
  ({ b with buffer := b.buffer.pop.1 }, b.buffer.pop.2)

/-- `drain`. -/
def drain (b : MessageBuffer α σ) : MessageBuffer α σ × List α :=
  ({ b with buffer := b.buffer.drain.1 }, b.buffer.drain.2)

/-- `drain_with_sequences`. -/
def drainWithSequences (b : MessageBuffer α σ) :
    MessageBuffer α σ × List (Option α × Option σ) :=
  ({ b with buffer := b.buffer.drainWithSequences.1 }, b.buffer.drainWithSequences.2)

/-- `clear`. -/
def clear (b : MessageBuffer α σ) : MessageBuffer α σ := { b with buffer := b.buffer.clear }

/-- `clear_dedup`. -/
def clearDedup (b : MessageBuffer α σ) : MessageBuffer α σ := { b with seenSequences := [] }

/-- `reset`. -/
def reset (b : MessageBuffer α σ) : MessageBuffer α σ :=
  { b.clear.clearDedup with lastSequenceId := none }

/-- `is_full`. -/
def isFull (b : MessageBuffer α σ) : Bool := b.buffer.isFull

/-- `is_empty`. -/
def isEmpty (b : MessageBuffer α σ) : Bool := b.buffer.isEmpty

/-- `total_dropped`. -/
def totalDropped (b : MessageBuffer α σ) : Nat := b.buffer.totalDropped

/-- `__len__`. -/
def len (b : MessageBuffer α σ) : Int := b.buffer.len

/-- `__bool__`. -/
def truth (b : MessageBuffer α σ) : Bool := !b.isEmpty

/-- The messages that are there, with their sequence ids. -/
def stored (b : MessageBuffer α σ) : List (Option α × Option σ) := b.buffer.stored

/-! ## The buffers a program can reach -/

inductive Op (α σ : Type) where
  | push (message : Option α) (sequenceId : Option σ)
  | pop
  | drain
  | drainWithSequences
  | clear
  | clearDedup
  | reset

def Op.isPush : Op α σ → Bool
  | .push _ _ => true
  | _ => false

variable [DecidableEq σ]

def apply (b : MessageBuffer α σ) : Op α σ → MessageBuffer α σ
  | .push message sequenceId => (b.push message sequenceId).1
  | .pop => b.pop.1
  | .drain => b.drain.1
  | .drainWithSequences => b.drainWithSequences.1
  | .clear => b.clear
  | .clearDedup => b.clearDedup
  | .reset => b.reset

def run (b : MessageBuffer α σ) (ops : List (Op α σ)) : MessageBuffer α σ := ops.foldl apply b

def Reachable (b : MessageBuffer α σ) : Prop := ∃ config ops, run (new config) ops = b

/-- The ring buffer is one the configuration describes, and the window holds different ids, no
more than it has room for. -/
structure Valid (b : MessageBuffer α σ) : Prop where
  stores : b.buffer.Stores b.stored
  capacity : b.buffer.capacity = b.config.capacity
  policy : b.buffer.policy = b.config.overflowPolicy
  nodup : b.seenSequences.Nodup
  window : b.seenSequences.length ≤ b.config.dedupWindow

/-! ## The window -/

section Window
variable {b : MessageBuffer α σ}

/-- The id comes last, and the oldest go. -/
theorem seenSequences_track (b : MessageBuffer α σ) (s : σ) :
    (b.trackSequence s).seenSequences = (b.seenSequences.erase s ++ [s]).drop
      ((b.seenSequences.erase s ++ [s]).length - b.config.dedupWindow) := by
  show evictOldest _ ((if s ∈ b.seenSequences then b.seenSequences.erase s
    else b.seenSequences) ++ [s]) = _
  rw [evictOldest_eq_drop]
  split
  · rfl
  · next hs => rw [List.erase_of_not_mem hs]

/-- The newest id is never the one evicted. -/
theorem mem_trackSequence (b : MessageBuffer α σ) (s : σ) :
    s ∈ (b.trackSequence s).seenSequences := by
  have hpos := b.config.dedupWindow_pos
  have hle : (b.seenSequences.erase s ++ [s]).length - b.config.dedupWindow ≤
      (b.seenSequences.erase s).length := by
    rw [List.length_append, List.length_singleton]
    omega
  rw [seenSequences_track, List.drop_append_of_le_length hle]
  exact List.mem_append_right _ (List.mem_singleton_self s)

theorem trackSequence_nodup (h : b.seenSequences.Nodup) (s : σ) :
    (b.trackSequence s).seenSequences.Nodup := by
  have hlast : (b.seenSequences.erase s ++ [s]).Nodup := by
    apply List.Nodup.append (h.erase s) (List.nodup_singleton s)
    rw [List.disjoint_singleton]
    exact h.not_mem_erase
  rw [seenSequences_track]
  exact hlast.sublist (List.drop_sublist _ _)

theorem trackSequence_length (b : MessageBuffer α σ) (s : σ) :
    (b.trackSequence s).seenSequences.length ≤ b.config.dedupWindow := by
  rw [seenSequences_track, List.length_drop]
  omega

end Window

/-! ## What a push does -/

/-- The push is answered before the ring buffer is asked. -/
def rejectsDuplicate (b : MessageBuffer α σ) (sequenceId : Option σ) : Bool :=
  sequenceId.any (fun s => b.config.enableDedup && b.isDuplicate s)

/-- The buffer once the id is noted. -/
def noted (b : MessageBuffer α σ) (sequenceId : Option σ) : MessageBuffer α σ :=
  sequenceId.elim b b.noteSequence

section Push
variable {b : MessageBuffer α σ} {m : Option α} {s : Option σ}

theorem push_duplicate (h : b.rejectsDuplicate s = true) : b.push m s = (b, .ok false) := by
  cases s with
  | none => cases h
  | some x =>
    unfold push
    exact if_pos h

theorem push_fresh (h : b.rejectsDuplicate s = false) :
    b.push m s = (b.noted s).pushBuffer m s := by
  cases s with
  | none => rfl
  | some x =>
    have hx : (b.config.enableDedup && b.isDuplicate x) = false := h
    unfold push
    simp only [hx]
    rfl

/-- Noting an id asks nothing of the ring buffer. -/
theorem noted_eq (b : MessageBuffer α σ) (s : Option σ) :
    (b.noted s).config = b.config ∧ (b.noted s).buffer = b.buffer := by
  cases s with
  | none => exact ⟨rfl, rfl⟩
  | some x =>
    show (b.noteSequence x).config = b.config ∧ (b.noteSequence x).buffer = b.buffer
    unfold noteSequence
    simp only
    split <;> exact ⟨rfl, rfl⟩

theorem noted_lastSequenceId (b : MessageBuffer α σ) (x : σ) :
    (b.noted (some x)).lastSequenceId = some x := by
  show (b.noteSequence x).lastSequenceId = some x
  unfold noteSequence
  simp only
  split <;> rfl

/-- The window, once the id is noted. -/
theorem noted_seenSequences (b : MessageBuffer α σ) (x : σ) :
    (b.noted (some x)).seenSequences =
      if b.config.enableDedup then (b.trackSequence x).seenSequences else b.seenSequences := by
  show (b.noteSequence x).seenSequences = _
  unfold noteSequence
  simp only
  split <;> rfl

theorem push_config (b : MessageBuffer α σ) (m : Option α) (s : Option σ) :
    (b.push m s).1.config = b.config := by
  cases h : b.rejectsDuplicate s with
  | true => rw [push_duplicate h]
  | false =>
    rw [push_fresh h]
    exact (b.noted_eq s).1

theorem push_buffer (h : b.rejectsDuplicate s = false) :
    (b.push m s).1.buffer = (b.buffer.push m s).1 ∧
      (b.push m s).2 = (b.buffer.push m s).2 := by
  rw [push_fresh h]
  unfold pushBuffer
  rw [(b.noted_eq s).2]
  exact ⟨rfl, rfl⟩

end Push

/-! ## The invariant -/

section Valid
variable {b : MessageBuffer α σ}

theorem apply_config (b : MessageBuffer α σ) (op : Op α σ) : (b.apply op).config = b.config := by
  cases op with
  | push m s => exact b.push_config m s
  | pop | drain | drainWithSequences | clear | clearDedup | reset => rfl

theorem run_config (b : MessageBuffer α σ) (ops : List (Op α σ)) :
    (b.run ops).config = b.config := by
  induction ops generalizing b with
  | nil => rfl
  | cons op ops ih => exact (ih _).trans (b.apply_config op)

omit [DecidableEq σ] in
theorem valid_new (config : Option BufferConfig) : Valid (new config : MessageBuffer α σ) := by
  have hstores := RingBuffer.stores_new (α := α) (σ := σ) (config.getD .default).capacity_pos
    (config.getD .default).overflowPolicy
  exact ⟨hstores.stored_self, rfl, rfl, List.nodup_nil, Nat.zero_le _⟩

omit [DecidableEq σ] in
/-- Items are taken out. -/
theorem Valid.removes (h : Valid b) {ring : RingBuffer α σ} {xs : List (Option α × Option σ)}
    (hs : ring.Stores xs) (hl : RingBuffer.Leaves b.buffer ring) :
    Valid { b with buffer := ring } :=
  ⟨hs.stored_self, hl.capacity.trans h.capacity, hl.policy.trans h.policy, h.nodup, h.window⟩

theorem Valid.noted (h : Valid b) (s : Option σ) :
    (b.noted s).seenSequences.Nodup ∧
      (b.noted s).seenSequences.length ≤ b.config.dedupWindow := by
  cases s with
  | none => exact ⟨h.nodup, h.window⟩
  | some x =>
    rw [noted_seenSequences]
    split
    · exact ⟨trackSequence_nodup h.nodup x, b.trackSequence_length x⟩
    · exact ⟨h.nodup, h.window⟩

omit [DecidableEq σ] in
/-- The ring buffer after a push, whatever became of the item. -/
theorem Valid.pushed (h : Valid b) (m : Option α) (s : Option σ) :
    ∃ xs, (b.buffer.push m s).1.Stores xs := by
  have hpushed := h.stores.push m s
  generalize b.buffer.push m s = r at hpushed
  obtain ⟨ring, answer⟩ := r
  cases hpushed with
  | added _ hs | evicted _ _ _ _ _ hs | dropped _ _ hs | raised _ _ _ hs => exact ⟨_, hs⟩

theorem Valid.push (h : Valid b) (m : Option α) (s : Option σ) : Valid (b.push m s).1 := by
  cases hd : b.rejectsDuplicate s with
  | true =>
    rw [push_duplicate hd]
    exact h
  | false =>
    obtain ⟨xs, hs⟩ := h.pushed m s
    obtain ⟨hcapacity, hpolicy⟩ := b.buffer.push_setup m s
    obtain ⟨hnodup, hwindow⟩ := h.noted s
    have hconfig := b.push_config m s
    have hbuffer : (b.push m s).1.buffer = (b.buffer.push m s).1 := (push_buffer hd).1
    have hseen : (b.push m s).1.seenSequences = (b.noted s).seenSequences := by
      rw [push_fresh hd]
      rfl
    refine ⟨?_, ?_, ?_, ?_, ?_⟩
    · show (b.push m s).1.buffer.Stores (b.push m s).1.buffer.stored
      rw [hbuffer]
      exact hs.stored_self
    · rw [hbuffer, hcapacity, hconfig]
      exact h.capacity
    · rw [hbuffer, hpolicy, hconfig]
      exact h.policy
    · rw [hseen]
      exact hnodup
    · rw [hseen, hconfig]
      exact hwindow

/-- What becomes of a message that is pushed. -/
inductive Fate (b : MessageBuffer α σ) (m : Option α) (s : Option σ) (b' : MessageBuffer α σ) :
    Prop
  | duplicate (hd : b.rejectsDuplicate s = true) (hb : b' = b)
  | added (hd : b.rejectsDuplicate s = false) (hfull : b.isFull = false)
      (hs : b'.stored = b.stored ++ [(m, s)]) (ht : b'.totalDropped = b.totalDropped)
  | evicted (x : Option α × Option σ) (xs : List (Option α × Option σ))
      (hd : b.rejectsDuplicate s = false) (hp : b.config.overflowPolicy = .dropOldest)
      (hx : b.stored = x :: xs) (hs : b'.stored = xs ++ [(m, s)])
      (ht : b'.totalDropped = b.totalDropped + 1)
  | dropped (hd : b.rejectsDuplicate s = false) (hp : b.config.overflowPolicy = .dropNewest)
      (hs : b'.stored = b.stored) (ht : b'.totalDropped = b.totalDropped + 1)
  | raised (hd : b.rejectsDuplicate s = false) (hfull : b.isFull = true)
      (hp : b.config.overflowPolicy = .error) (hs : b'.stored = b.stored)
      (ht : b'.totalDropped = b.totalDropped)

theorem Valid.fate (h : Valid b) (m : Option α) (s : Option σ) :
    Fate b m s (b.push m s).1 := by
  cases hd : b.rejectsDuplicate s with
  | true => exact .duplicate hd (by rw [push_duplicate hd])
  | false =>
    have hpushed := h.stores.push m s
    have hring : (b.push m s).1.buffer = (b.buffer.push m s).1 := (push_buffer hd).1
    generalize (b.push m s).1 = b' at hring
    generalize b.buffer.push m s = r at hpushed hring
    obtain ⟨ring, answer⟩ := r
    obtain rfl : b'.buffer = ring := hring
    cases hpushed with
    | added hfull hs ht => exact .added hd hfull hs.stored_eq ht
    | evicted y ys _ hp hy hs ht =>
      exact .evicted y ys hd (h.policy.symm.trans hp) hy hs.stored_eq ht
    | dropped _ hp hs ht => exact .dropped hd (h.policy.symm.trans hp) hs.stored_eq ht
    | raised _ hfull hp hs ht =>
      exact .raised hd hfull (h.policy.symm.trans hp) hs.stored_eq ht

/-- What one operation preserves. -/
theorem Valid.apply (h : Valid b) (op : Op α σ) : Valid (b.apply op) := by
  cases op with
  | push m s => exact h.push m s
  | pop =>
    have hpop : ∃ xs, b.buffer.pop.1.Stores xs := by
      have hstores := h.stores
      generalize b.stored = xs at hstores
      cases xs with
      | nil => exact ⟨[], by rw [hstores.pop_nil]; exact hstores⟩
      | cons x xs => exact ⟨xs, hstores.pop_cons.2⟩
    obtain ⟨xs, hs⟩ := hpop
    exact h.removes hs (.pop _)
  | drain => exact h.removes h.stores.drain.2 (.drain _)
  | drainWithSequences =>
    exact h.removes h.stores.drainWithSequences.2 (.drainWithSequences _)
  | clear => exact h.removes h.stores.clear (.clear _)
  | clearDedup => exact ⟨h.stores, h.capacity, h.policy, List.nodup_nil, Nat.zero_le _⟩
  | reset =>
    have hclear := h.removes h.stores.clear (.clear _)
    exact ⟨hclear.stores, hclear.capacity, hclear.policy, List.nodup_nil, Nat.zero_le _⟩

theorem Valid.run (h : Valid b) (ops : List (Op α σ)) : Valid (b.run ops) := by
  induction ops generalizing b with
  | nil => exact h
  | cons op ops ih => exact ih (h.apply op)

theorem Reachable.valid (h : Reachable b) : Valid b := by
  obtain ⟨config, ops, rfl⟩ := h
  exact (valid_new config).run ops

end Valid

/-! ## A push that is refused -/

/-- The push fails, and not for a duplicate: the buffer was full. -/
def refuses (b : MessageBuffer α σ) (message : Option α) (sequenceId : Option σ) : Bool :=
  match (b.push message sequenceId).2 with
  | .ok added => !added && !b.rejectsDuplicate sequenceId
  | .error _ => true

/-- The refused push is as if it had not been tried. Once operations other than pushes have made
room, the same push stores the message. -/
structure Unharmed (b : MessageBuffer α σ) (message : Option α) (sequenceId : Option σ) : Prop where
  lastSequenceId : (b.push message sequenceId).1.lastSequenceId = b.lastSequenceId
  seenSequences : (b.push message sequenceId).1.seenSequences = b.seenSequences
  stored : (b.push message sequenceId).1.stored = b.stored
  retried : ∀ ops : List (Op α σ), (∀ op ∈ ops, op.isPush = false) →
    ((b.push message sequenceId).1.run ops).isFull = false →
    (((b.push message sequenceId).1.run ops).push message sequenceId).2 = .ok true ∧
    (((b.push message sequenceId).1.run ops).push message sequenceId).1.stored =
      ((b.push message sequenceId).1.run ops).stored ++ [(message, sequenceId)]

section Refused
variable {b : MessageBuffer α σ} {m : Option α} {s : Option σ}

/-- What the ring buffer and the counter show of a refusal. -/
theorem Valid.refuses_iff (h : Valid b) : b.refuses m s = true ↔
    b.rejectsDuplicate s = false ∧ b.isFull = true ∧ b.config.overflowPolicy ≠ .dropOldest := by
  unfold refuses
  cases hd : b.rejectsDuplicate s with
  | true =>
    rw [push_duplicate hd]
    simp
  | false =>
    have hpushed := h.stores.push m s
    rw [(push_buffer hd).2, ← h.policy]
    show _ ↔ _ ∧ b.buffer.isFull = true ∧ _
    generalize b.buffer.push m s = r at hpushed
    obtain ⟨ring, answer⟩ := r
    cases hpushed with
    | added hfull => simp [hfull]
    | evicted _ _ hfull hp | dropped hfull hp | raised _ hfull hp => simp [hfull, hp]

/-- A refusal leaves the stored messages alone, and nothing else that was not written before. -/
theorem Valid.refused (h : Valid b) (hr : b.refuses m s = true) :
    (b.push m s).1.stored = b.stored ∧
      (b.push m s).1.lastSequenceId = (b.noted s).lastSequenceId ∧
      (b.push m s).1.seenSequences = (b.noted s).seenSequences := by
  obtain ⟨hd, hfull, hp⟩ := h.refuses_iff.mp hr
  have hpushed := h.stores.push m s
  rw [push_fresh hd]
  refine ⟨?_, rfl, rfl⟩
  show ((b.noted s).buffer.push m s).1.stored = b.stored
  rw [(b.noted_eq s).2]
  generalize b.buffer.push m s = r at hpushed
  obtain ⟨ring, answer⟩ := r
  cases hpushed with
  | added hroom => exact absurd (hfull.symm.trans hroom) (by decide)
  | evicted _ _ _ hpolicy => exact absurd (h.policy.symm.trans hpolicy) hp
  | dropped _ _ hs | raised _ _ _ hs => exact hs.stored_eq

/-- Noting a new id is seen in the window, or in the last id. -/
theorem noted_unchanged_iff (hd : b.rejectsDuplicate s = false) :
    (b.noted s).lastSequenceId = b.lastSequenceId ∧
        (b.noted s).seenSequences = b.seenSequences ↔
      s = none ∨ b.config.enableDedup = false ∧ s = b.lastSequenceId := by
  cases s with
  | none => exact ⟨fun _ => .inl rfl, fun _ => ⟨rfl, rfl⟩⟩
  | some x =>
    have hd : (b.config.enableDedup && b.isDuplicate x) = false := hd
    rw [noted_lastSequenceId, noted_seenSequences]
    cases he : b.config.enableDedup with
    | false => simp
    | true =>
      rw [he, Bool.true_and] at hd
      have hx : x ∉ b.seenSequences := of_decide_eq_false hd
      have hmem := b.mem_trackSequence x
      constructor
      · rintro ⟨-, hseen⟩
        rw [if_pos rfl] at hseen
        rw [hseen] at hmem
        exact absurd hmem hx
      · rintro (h | ⟨h, -⟩)
        · cases h
        · cases h

/-- A push with room, for an id that is not looked up. -/
theorem Valid.push_stores (h : Valid b) (hd : b.rejectsDuplicate s = false)
    (hroom : b.isFull = false) :
    (b.push m s).2 = .ok true ∧ (b.push m s).1.stored = b.stored ++ [(m, s)] := by
  have hpushed := h.stores.push m s
  obtain ⟨hbuffer, hanswer⟩ := push_buffer (m := m) hd
  show _ ∧ (b.push m s).1.buffer.stored = _
  rw [hbuffer, hanswer]
  generalize b.buffer.push m s = r at hpushed
  obtain ⟨ring, answer⟩ := r
  cases hpushed with
  | added _ hs => exact ⟨rfl, hs.stored_eq⟩
  | evicted _ _ hfull | dropped hfull | raised _ hfull =>
    exact absurd (hfull.symm.trans hroom) (by decide)

theorem rejectsDuplicate_of_unlooked {b' : MessageBuffer α σ}
    (hs : s = none ∨ b'.config.enableDedup = false) : b'.rejectsDuplicate s = false := by
  obtain rfl | he := hs
  · rfl
  · cases s with
    | none => rfl
    | some x =>
      show (b'.config.enableDedup && b'.isDuplicate x) = false
      rw [he, Bool.false_and]

/-- **A refused push spoils its own retry.** It leaves no trace exactly when it has no id to
note, or only the last one again, without deduplication. -/
theorem refused_push_iff (hb : Reachable b) (hr : b.refuses m s = true) :
    Unharmed b m s ↔ s = none ∨ b.config.enableDedup = false ∧ s = b.lastSequenceId := by
  have hvalid := hb.valid
  obtain ⟨hstored, hlast, hseen⟩ := hvalid.refused hr
  have hunchanged := noted_unchanged_iff (hvalid.refuses_iff.mp hr).1
  rw [← hlast, ← hseen] at hunchanged
  constructor
  · intro h
    exact hunchanged.mp ⟨h.lastSequenceId, h.seenSequences⟩
  · intro hs
    obtain ⟨hlast, hseen⟩ := hunchanged.mpr hs
    refine ⟨hlast, hseen, hstored, fun ops _ hroom => ?_⟩
    refine ((hvalid.push m s).run ops).push_stores (rejectsDuplicate_of_unlooked ?_) hroom
    rw [run_config, push_config]
    exact hs.imp_right And.left

end Refused

/-- Room for one message, and deduplication. -/
def small : BufferConfig :=
  { capacity := 1, overflowPolicy := .dropNewest, enableDedup := true, dedupWindow := 100,
    capacity_pos := by decide, dedupWindow_pos := by decide }

/-- One message is there, and a second one is turned away. -/
theorem refused_push_small :
    let b : MessageBuffer Nat Nat := run (new (some small)) [.push (some 10) none]
    Unharmed b (some 20) none ↔ (none : Option Nat) = none ∨
      b.config.enableDedup = false ∧ none = b.lastSequenceId :=
  refused_push_iff ⟨some small, [.push (some 10) none], rfl⟩ (by decide)

/-- With an id, the message is turned away for good: the retry finds its own id. -/
theorem refused_push_twice :
    let b : MessageBuffer Nat Nat := run (new (some small)) [.push (some 10) (some 1)]
    Reachable b ∧ b.refuses (some 20) (some 2) = true ∧
      (b.push (some 20) (some 2)).1.lastSequenceId = some 2 ∧
      (((b.push (some 20) (some 2)).1.run [.pop]).push (some 20) (some 2)).2 = .ok false ∧
      ¬ Unharmed b (some 20) (some 2) := by
  refine ⟨⟨some small, [.push (some 10) (some 1)], rfl⟩, by decide, by decide, by decide, ?_⟩
  intro h
  have hretried := (h.retried [.pop] (by decide) (by decide)).1
  revert hretried
  decide

end MessageBuffer

end JetSocket.Buffer
