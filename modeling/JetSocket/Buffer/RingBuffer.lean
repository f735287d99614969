import JetSocket.Exceptions
import JetSocket.Lib.BoundedQueue
import JetSocket.Lib.Circular

/- The ring buffer (`_core.pyx`, `buffer.py`): a list of slots, the numbers of the first
   and the first free one, and the length, updated one after the other by each operation.

   Correspondence (Python ↔ Lean):
     `_core.RingBuffer`, `_PythonRingBuffer`     ↔ `RingBuffer`; they differ in the constructor
     `__init__`                                  ↔ `RingBuffer.new`, `PythonRingBuffer.new`
     `push`, `pop`, `drain`                      ↔ `push`, `pop`, `drain`
     `drain_with_sequences`, `clear`             ↔ `drainWithSequences`, `clear`
     `is_empty`, `is_full`                       ↔ `isEmpty`, `isFull`

   An item may be `None`, and so may a slot and a sequence id. `Stores` reads the items off the
   slots, `Represents` relates them to the queue they stand for, and `ring_buffer_fifo` says
   that no sequence of operations tells the buffer from the queue. -/
namespace JetSocket.Buffer

inductive OverflowPolicy where
  | dropOldest
  | dropNewest
  | error
  deriving DecidableEq, Repr

structure BufferOverflowError where
  message : String
  capacity : Nat
  currentSize : Int
  deriving DecidableEq, Repr

/-- `item_tuple`, or `None`. -/
abbrev Slot (α σ : Type) := Option (Option α × Option σ)

structure RingBuffer (α σ : Type) where
  buffer : List (Slot α σ)
  head : Nat
  tail : Nat
  len : Int
  capacity : Nat
  policy : OverflowPolicy
  totalDropped : Nat
  deriving DecidableEq, Repr

variable {α σ : Type}

/-- `_PythonRingBuffer.__init__`. -/
def PythonRingBuffer.new (capacity : Nat) (policy : OverflowPolicy) : RingBuffer α σ :=
  { buffer := List.replicate capacity none, head := 0, tail := 0, len := 0, capacity, policy,
    totalDropped := 0 }

namespace RingBuffer

/-- `RingBuffer.__init__`. -/
def new (capacity : Int) (policy : OverflowPolicy) : Except Exc (RingBuffer α σ) :=
  if capacity ≤ 0 then .error (.valueError "Buffer capacity must be greater than 0")
  else .ok (PythonRingBuffer.new capacity.toNat policy)

/-- The last statements of `push`. -/
def put (b : RingBuffer α σ) (item : Option α) (sequenceId : Option σ) : RingBuffer α σ :=
  { b with
    buffer := b.buffer.set b.tail (some (item, sequenceId))
    tail := (b.tail + 1) % b.capacity
    len := b.len + 1 }

/-- `push`. -/
def push (b : RingBuffer α σ) (item : Option α) (sequenceId : Option σ) :
    RingBuffer α σ × Except BufferOverflowError Bool :=
  if b.len = b.capacity then
    match b.policy with
    | .dropOldest =>
      let b := { b with
        head := (b.head + 1) % b.capacity
        len := b.len - 1
        totalDropped := b.totalDropped + 1 }
      (b.put item sequenceId, .ok true)
    | .dropNewest => ({ b with totalDropped := b.totalDropped + 1 }, .ok false)
    | .error =>
      (b, .error { message := "Buffer is full", capacity := b.capacity, currentSize := b.len })
  else (b.put item sequenceId, .ok true)

/-- The slot at the head is read and cleared, and the head moves. -/
def take (b : RingBuffer α σ) : RingBuffer α σ × Slot α σ :=
  ({ b with
     buffer := b.buffer.set b.head none
     head := (b.head + 1) % b.capacity
     len := b.len - 1 }, (b.buffer[b.head]?).join)

/-- `pop`. -/
def pop (b : RingBuffer α σ) : RingBuffer α σ × Option α :=
  if b.len = 0 then (b, none) else (b.take.1, b.take.2.bind Prod.fst)

/-- The loop of `drain`, at most `fuel` times. -/
def drainLoop : Nat → RingBuffer α σ → List α → RingBuffer α σ × List α
  | 0, b, items => (b, items)
  | fuel + 1, b, items =>
    if 0 < b.len then
      match b.pop with
      | (b, some item) => drainLoop fuel b (items ++ [item])
      | (b, none) => drainLoop fuel b items
    else (b, items)

/-- `drain`: the length goes down by one with each item. -/
def drain (b : RingBuffer α σ) : RingBuffer α σ × List α := b.drainLoop b.len.toNat []

/-- The loop of `drain_with_sequences`, at most `fuel` times. -/
def drainWithSequencesLoop : Nat → RingBuffer α σ → List (Option α × Option σ) →
    RingBuffer α σ × List (Option α × Option σ)
  | 0, b, items => (b, items)
  | fuel + 1, b, items =>
    if 0 < b.len then
      match b.take with
      | (b, some itemTuple) => drainWithSequencesLoop fuel b (items ++ [itemTuple])
      | (b, none) => drainWithSequencesLoop fuel b items
    else (b, items)

/-- `drain_with_sequences`. -/
def drainWithSequences (b : RingBuffer α σ) : RingBuffer α σ × List (Option α × Option σ) :=
  b.drainWithSequencesLoop b.len.toNat []

/-- `clear`. -/
def clear (b : RingBuffer α σ) : RingBuffer α σ :=
  { b with
    buffer := (List.range b.capacity).foldl (fun buffer i => buffer.set i none) b.buffer
    head := 0
    tail := 0
    len := 0 }

/-- `is_empty`. -/
def isEmpty (b : RingBuffer α σ) : Bool := b.len = 0

/-- `is_full`. -/
def isFull (b : RingBuffer α σ) : Bool := b.len = b.capacity

theorem new_eq {c : Nat} (hc : 0 < c) (policy : OverflowPolicy) :
    (RingBuffer.new c policy : Except Exc (RingBuffer α σ)) =
      .ok (PythonRingBuffer.new c policy) := by
  unfold RingBuffer.new
  rw [if_neg (by omega), Int.toNat_natCast]

/-! ## What is stored -/

/-- The items that are there, in order: what `drain_with_sequences` would return. -/
def stored (b : RingBuffer α σ) : List (Option α × Option σ) := b.drainWithSequences.2

/-- What taking items out leaves as it was. -/
structure Leaves (b b' : RingBuffer α σ) : Prop where
  capacity : b'.capacity = b.capacity
  policy : b'.policy = b.policy
  totalDropped : b'.totalDropped = b.totalDropped

namespace Leaves

theorem refl (b : RingBuffer α σ) : Leaves b b := ⟨rfl, rfl, rfl⟩

theorem trans {b b' b'' : RingBuffer α σ} (h : Leaves b b') (h' : Leaves b' b'') : Leaves b b'' :=
  ⟨h'.capacity.trans h.capacity, h'.policy.trans h.policy,
    h'.totalDropped.trans h.totalDropped⟩

theorem pop (b : RingBuffer α σ) : Leaves b b.pop.1 := by
  unfold RingBuffer.pop
  split
  · exact refl b
  · exact ⟨rfl, rfl, rfl⟩

theorem drainLoop (n : Nat) (b : RingBuffer α σ) (items : List α) :
    Leaves b (b.drainLoop n items).1 := by
  induction n generalizing b items with
  | zero => exact refl b
  | succ n ih =>
    have hpop := Leaves.pop b
    unfold RingBuffer.drainLoop
    split
    · generalize b.pop = p at hpop
      obtain ⟨b', item⟩ := p
      cases item with
      | none => exact hpop.trans (ih b' items)
      | some item => exact hpop.trans (ih b' (items ++ [item]))
    · exact refl b

theorem drain (b : RingBuffer α σ) : Leaves b b.drain.1 := drainLoop _ b []

theorem drainWithSequencesLoop (n : Nat) (b : RingBuffer α σ)
    (items : List (Option α × Option σ)) :
    Leaves b (b.drainWithSequencesLoop n items).1 := by
  induction n generalizing b items with
  | zero => exact refl b
  | succ n ih =>
    have htake : Leaves b b.take.1 := ⟨rfl, rfl, rfl⟩
    unfold RingBuffer.drainWithSequencesLoop
    split
    · generalize b.take = p at htake
      obtain ⟨b', itemTuple⟩ := p
      cases itemTuple with
      | none => exact htake.trans (ih b' items)
      | some itemTuple => exact htake.trans (ih b' (items ++ [itemTuple]))
    · exact refl b

theorem drainWithSequences (b : RingBuffer α σ) : Leaves b b.drainWithSequences.1 :=
  drainWithSequencesLoop _ b []

theorem clear (b : RingBuffer α σ) : Leaves b b.clear := ⟨rfl, rfl, rfl⟩

end Leaves

/-- The items between the head and the tail. -/
structure Stores (b : RingBuffer α σ) (xs : List (Option α × Option σ)) : Prop where
  slots : b.buffer.length = b.capacity
  len : b.len = xs.length
  le : xs.length ≤ b.capacity
  head : b.head < b.capacity
  tail : b.tail = Circular.index b.buffer b.head xs.length
  holds : Circular.Holds b.buffer b.head (xs.map some)

namespace Stores
variable {b b' : RingBuffer α σ} {x : Option α × Option σ} {xs : List (Option α × Option σ)}

theorem full_iff (h : Stores b xs) : b.len = b.capacity ↔ ¬ xs.length < b.capacity := by
  have hle := h.le
  rw [h.len]
  omega

/-- The counter and the policy are no part of what is stored. -/
theorem of_eq (h : Stores b xs) (hbuffer : b'.buffer = b.buffer) (hhead : b'.head = b.head)
    (htail : b'.tail = b.tail) (hlen : b'.len = b.len) (hcapacity : b'.capacity = b.capacity) :
    Stores b' xs := by
  obtain ⟨hslots, hxs, hle, hlt, hindex, hholds⟩ := h
  refine ⟨?_, hlen.trans hxs, ?_, ?_, ?_, ?_⟩
  · rw [hbuffer, hcapacity]
    exact hslots
  · rw [hcapacity]
    exact hle
  · rw [hhead, hcapacity]
    exact hlt
  · rw [htail, hbuffer, hhead]
    exact hindex
  · rw [hbuffer, hhead]
    exact hholds

/-- The new item goes into a free slot. -/
theorem put (h : Stores b xs) (hlt : xs.length < b.capacity) (m : Option α) (s : Option σ) :
    Stores (b.put m s) (xs ++ [(m, s)]) := by
  have hcells : xs.length < b.buffer.length := by
    rw [h.slots]
    exact hlt
  have hlength : (b.put m s).buffer.length = b.buffer.length := List.length_set
  have hsucc : (xs ++ [(m, s)]).length = xs.length + 1 := by
    rw [List.length_append, List.length_singleton]
  refine ⟨hlength.trans h.slots, ?_, ?_, h.head, ?_, ?_⟩
  · rw [hsucc]
    show b.len + 1 = _
    rw [h.len]
    rfl
  · rw [hsucc]
    exact hlt
  · rw [hsucc, Circular.index_of_length hlength]
    show (b.tail + 1) % b.capacity = (b.head + (xs.length + 1)) % b.buffer.length
    rw [h.tail, h.slots]
    unfold Circular.index
    rw [h.slots, Nat.mod_add_mod, Nat.add_assoc]
  · rw [List.map_append]
    show Circular.Holds (b.buffer.set b.tail (some (m, s))) b.head _
    have happend := h.holds.append (by rwa [List.length_map]) (some (m, s))
    rw [List.length_map, ← h.tail] at happend
    exact happend

/-- The first item is dropped, its slot written or not. -/
theorem drop (h : Stores b (x :: xs)) (hcapacity : b'.capacity = b.capacity)
    (hhead : b'.head = (b.head + 1) % b.capacity) (htail : b'.tail = b.tail)
    (hlen : b'.len = b.len - 1) (hlength : b'.buffer.length = b.buffer.length)
    (hholds : Circular.Holds b'.buffer b'.head (xs.map some)) : Stores b' xs := by
  have hpos : 0 < b.capacity := by
    have hhead := h.head
    omega
  have hle := h.le
  rw [List.length_cons] at hle
  refine ⟨hlength.trans (h.slots.trans hcapacity.symm), ?_, ?_, ?_, ?_, hholds⟩
  · rw [hlen, h.len, List.length_cons]
    omega
  · rw [hcapacity]
    omega
  · rw [hhead, hcapacity]
    exact Nat.mod_lt _ hpos
  · rw [htail, h.tail, hhead, List.length_cons, ← h.slots, Circular.index_of_length hlength,
      Circular.index_succ]

/-- The head moves over the first item. -/
theorem advance (h : Stores b (x :: xs)) (dropped : Nat) :
    Stores { b with head := (b.head + 1) % b.capacity, len := b.len - 1,
                    totalDropped := dropped } xs := by
  refine h.drop rfl rfl rfl rfl rfl ?_
  have htail := h.holds.tail
  rwa [h.slots] at htail

/-- What `take` returns, and what it leaves. -/
theorem take (h : Stores b (x :: xs)) : b.take.2 = some x ∧ Stores b.take.1 xs := by
  have hlt : b.head < b.buffer.length := by
    rw [h.slots]
    exact h.head
  have hroom : (xs.map some).length < b.buffer.length := by
    have hle := h.le
    rw [List.length_cons] at hle
    rw [List.length_map, h.slots]
    omega
  constructor
  · show (b.buffer[b.head]?).join = some x
    rw [h.holds.first hlt]
    rfl
  · refine h.drop rfl rfl rfl rfl List.length_set ?_
    have hdrop := h.holds.drop hlt hroom none
    rwa [h.slots] at hdrop

theorem len_pos (h : Stores b (x :: xs)) : 0 < b.len := by
  rw [h.len, List.length_cons]
  omega

theorem len_toNat (h : Stores b xs) : b.len.toNat = xs.length := by
  rw [h.len]
  rfl

theorem pop_nil (h : Stores b []) : b.pop = (b, none) := by
  have hlen : b.len = 0 := h.len
  unfold RingBuffer.pop
  rw [if_pos hlen]

/-- `pop` from a buffer that is not empty. -/
theorem pop_cons (h : Stores b (x :: xs)) : b.pop.2 = x.1 ∧ Stores b.pop.1 xs := by
  obtain ⟨hslot, hrest⟩ := h.take
  have hlen : b.len ≠ 0 := by
    have hpos := h.len_pos
    omega
  unfold RingBuffer.pop
  rw [if_neg hlen]
  refine ⟨?_, hrest⟩
  show b.take.2.bind Prod.fst = x.1
  rw [hslot]
  rfl

/-- The loop of `drain`, item by item: one that is `None` is left out. -/
theorem drainLoop (h : Stores b xs) (items : List α) :
    (b.drainLoop xs.length items).2 = items ++ xs.filterMap Prod.fst ∧
      Stores (b.drainLoop xs.length items).1 [] := by
  induction xs generalizing b items with
  | nil => exact ⟨(List.append_nil items).symm, h⟩
  | cons x xs ih =>
    obtain ⟨hresult, hrest⟩ := h.pop_cons
    have hloop : b.drainLoop (x :: xs).length items =
        b.pop.1.drainLoop xs.length (items ++ x.1.toList) := by
      rw [List.length_cons, RingBuffer.drainLoop, if_pos h.len_pos, ← hresult]
      generalize b.pop = p
      obtain ⟨b', item⟩ := p
      cases item with
      | none =>
        show b'.drainLoop xs.length items = b'.drainLoop xs.length (items ++ [])
        rw [List.append_nil]
      | some item => rfl
    obtain ⟨hitems, hempty⟩ := ih hrest (items ++ x.1.toList)
    rw [hloop]
    refine ⟨?_, hempty⟩
    rw [hitems, List.append_assoc]
    cases hx : x.1 with
    | none =>
      rw [List.filterMap_cons_none hx]
      rfl
    | some item =>
      rw [List.filterMap_cons_some hx]
      rfl

/-- The loop of `drain_with_sequences`, slot by slot. -/
theorem drainWithSequencesLoop (h : Stores b xs) (items : List (Option α × Option σ)) :
    (b.drainWithSequencesLoop xs.length items).2 = items ++ xs ∧
      Stores (b.drainWithSequencesLoop xs.length items).1 [] := by
  induction xs generalizing b items with
  | nil => exact ⟨(List.append_nil items).symm, h⟩
  | cons x xs ih =>
    obtain ⟨hslot, hrest⟩ := h.take
    have hloop : b.drainWithSequencesLoop (x :: xs).length items =
        b.take.1.drainWithSequencesLoop xs.length (items ++ [x]) := by
      rw [List.length_cons, RingBuffer.drainWithSequencesLoop, if_pos h.len_pos]
      generalize hp : b.take = p at hslot
      obtain ⟨b', itemTuple⟩ := p
      obtain rfl : itemTuple = some x := hslot
      rfl
    obtain ⟨hitems, hempty⟩ := ih hrest (items ++ [x])
    rw [hloop]
    refine ⟨?_, hempty⟩
    rw [hitems, List.append_assoc]
    rfl

theorem drain (h : Stores b xs) :
    b.drain.2 = xs.filterMap Prod.fst ∧ Stores b.drain.1 [] := by
  unfold RingBuffer.drain
  rw [h.len_toNat]
  exact h.drainLoop []

theorem drainWithSequences (h : Stores b xs) :
    b.drainWithSequences.2 = xs ∧ Stores b.drainWithSequences.1 [] := by
  unfold RingBuffer.drainWithSequences
  rw [h.len_toNat]
  exact h.drainWithSequencesLoop []

theorem stored_eq (h : Stores b xs) : b.stored = xs := h.drainWithSequences.1

theorem stored_self (h : Stores b xs) : Stores b b.stored := by
  rw [h.stored_eq]
  exact h

theorem isFull_iff (h : Stores b xs) : b.isFull = true ↔ ¬ xs.length < b.capacity := by
  rw [← h.full_iff]
  exact decide_eq_true_iff

theorem isEmpty_iff (h : Stores b xs) : b.isEmpty = true ↔ xs = [] := by
  have hempty : b.isEmpty = true ↔ b.len = 0 := decide_eq_true_iff
  rw [hempty, h.len, ← List.length_eq_zero_iff]
  omega

theorem ne_nil_of_full (h : Stores b xs) (hfull : b.isFull = true) : ∃ y ys, xs = y :: ys := by
  have hlt := h.isFull_iff.mp hfull
  have hhead := h.head
  cases xs with
  | nil =>
    rw [List.length_nil] at hlt
    omega
  | cons y ys => exact ⟨y, ys, rfl⟩

/-- What a push can do to a buffer that stores `xs`. -/
inductive Pushed (b : RingBuffer α σ) (xs : List (Option α × Option σ)) (m : Option α)
    (s : Option σ) : RingBuffer α σ → Except BufferOverflowError Bool → Prop
  | added {b' : RingBuffer α σ} (hfull : b.isFull = false) (hs : Stores b' (xs ++ [(m, s)]))
      (ht : b'.totalDropped = b.totalDropped) : Pushed b xs m s b' (.ok true)
  | evicted {b' : RingBuffer α σ} (y : Option α × Option σ) (ys : List (Option α × Option σ))
      (hfull : b.isFull = true) (hp : b.policy = .dropOldest) (hy : xs = y :: ys)
      (hs : Stores b' (ys ++ [(m, s)])) (ht : b'.totalDropped = b.totalDropped + 1) :
      Pushed b xs m s b' (.ok true)
  | dropped {b' : RingBuffer α σ} (hfull : b.isFull = true) (hp : b.policy = .dropNewest)
      (hs : Stores b' xs) (ht : b'.totalDropped = b.totalDropped + 1) :
      Pushed b xs m s b' (.ok false)
  | raised {b' : RingBuffer α σ} (e : BufferOverflowError) (hfull : b.isFull = true)
      (hp : b.policy = .error) (hs : Stores b' xs) (ht : b'.totalDropped = b.totalDropped) :
      Pushed b xs m s b' (.error e)

theorem push (h : Stores b xs) (m : Option α) (s : Option σ) :
    Pushed b xs m s (b.push m s).1 (b.push m s).2 := by
  unfold RingBuffer.push
  cases hfull : b.isFull with
  | false =>
    have hlen : b.len ≠ b.capacity := of_decide_eq_false hfull
    have hlt : xs.length < b.capacity := by
      by_contra hge
      exact hlen (h.full_iff.mpr hge)
    rw [if_neg hlen]
    exact .added hfull (h.put hlt m s) rfl
  | true =>
    rw [if_pos (of_decide_eq_true hfull)]
    cases hp : b.policy with
    | dropOldest =>
      obtain ⟨y, ys, rfl⟩ := h.ne_nil_of_full hfull
      have hadvance := h.advance (b.totalDropped + 1)
      exact .evicted y ys hfull hp rfl ((hadvance.put h.le m s).of_eq rfl rfl rfl rfl rfl) rfl
    | dropNewest => exact .dropped hfull hp (h.of_eq rfl rfl rfl rfl rfl) rfl
    | error => exact .raised _ hfull hp h rfl

/-- `clear` writes every slot. -/
theorem clear (h : Stores b xs) : Stores b.clear [] := by
  have hlength : ∀ (is : List Nat) (cells : List (Slot α σ)),
      (is.foldl (fun buffer i => buffer.set i none) cells).length = cells.length := by
    intro is
    induction is with
    | nil => exact fun _ => rfl
    | cons i is ih => exact fun cells => (ih _).trans List.length_set
  have hpos : 0 < b.capacity := by
    have hhead := h.head
    omega
  refine ⟨(hlength _ _).trans h.slots, rfl, Nat.zero_le _, hpos, ?_, Circular.holds_nil⟩
  show 0 = (0 + 0) % _
  rw [Nat.zero_add, Nat.zero_mod]

end Stores

theorem push_setup (b : RingBuffer α σ) (m : Option α) (s : Option σ) :
    (b.push m s).1.capacity = b.capacity ∧ (b.push m s).1.policy = b.policy := by
  unfold push
  split
  · split <;> exact ⟨rfl, rfl⟩
  · exact ⟨rfl, rfl⟩

theorem stores_new {c : Nat} (hc : 0 < c) (policy : OverflowPolicy) :
    Stores (PythonRingBuffer.new c policy : RingBuffer α σ) [] := by
  refine ⟨List.length_replicate, rfl, Nat.zero_le _, hc, ?_, Circular.holds_nil⟩
  show 0 = (0 + 0) % _
  rw [Nat.zero_add, Nat.zero_mod]

end RingBuffer

/-! ## Operations and results -/

/-- An operation, with an item that is not `None`. -/
inductive Op (α σ : Type) where
  | push (item : α) (sequenceId : Option σ)
  | pop
  | drain
  | drainWithSequences
  | clear

inductive Result (α σ : Type) where
  | pushed (added : Bool)
  | raised (e : BufferOverflowError)
  | popped (item : Option α)
  | drained (items : List α)
  | drainedWith (items : List (Option α × Option σ))
  | cleared
  deriving DecidableEq, Repr

namespace RingBuffer

def step (b : RingBuffer α σ) : Op α σ → RingBuffer α σ × Result α σ
  | .push item sequenceId =>
    match b.push (some item) sequenceId with
    | (b, .ok added) => (b, .pushed added)
    | (b, .error e) => (b, .raised e)
  | .pop => (b.pop.1, .popped b.pop.2)
  | .drain => (b.drain.1, .drained b.drain.2)
  | .drainWithSequences => (b.drainWithSequences.1, .drainedWith b.drainWithSequences.2)
  | .clear => (b.clear, .cleared)

def run : RingBuffer α σ → List (Op α σ) → RingBuffer α σ × List (Result α σ)
  | b, [] => (b, [])
  | b, op :: ops =>
    let r := (b.step op).1.run ops
    (r.1, (b.step op).2 :: r.2)

/-- What an operation on `b` with this result adds to the tally. A push that is accepted by a
full buffer evicts an item. -/
def count (b : RingBuffer α σ) (t : BoundedQueue.Tally) : Result α σ → BoundedQueue.Tally
  | .pushed true =>
    { t with
      accepted := t.accepted + 1
      evicted := t.evicted + if b.len = b.capacity then 1 else 0 }
  | .pushed false => { t with rejected := t.rejected + 1 }
  | .raised _ => t
  | .popped item => { t with removed := t.removed + item.toList.length }
  | .drained items => { t with removed := t.removed + items.length }
  | .drainedWith items => { t with removed := t.removed + items.length }
  | .cleared => { t with removed := t.removed + b.len.toNat }

/-- The tally of a run, on top of an earlier one. -/
def tally : BoundedQueue.Tally → RingBuffer α σ → List (Op α σ) → BoundedQueue.Tally
  | t, _, [] => t
  | t, b, op :: ops => tally (b.count t (b.step op).2) (b.step op).1 ops

end RingBuffer

/-! ## The queue -/

def OverflowPolicy.onFull : OverflowPolicy → OnFull
  | .dropOldest => .evict
  | .dropNewest => .reject
  | .error => .refuse

/-- What the operation is for the queue of pairs. -/
def Op.onQueue : Op α σ → BoundedQueue.Op (α × Option σ)
  | .push item sequenceId => .push (item, sequenceId)
  | .pop => .pop
  | .drain | .drainWithSequences | .clear => .empty

/-- The result of an operation, from what the queue reports. -/
def Op.result (capacity : Nat) : Op α σ → BoundedQueue.Report (α × Option σ) → Result α σ
  | _, .added | _, .evicted _ => .pushed true
  | _, .rejected => .pushed false
  | _, .refused => .raised { message := "Buffer is full", capacity, currentSize := capacity }
  | _, .popped x => .popped (x.map Prod.fst)
  | .drain, .emptied xs => .drained (xs.map Prod.fst)
  | .drainWithSequences, .emptied xs => .drainedWith (xs.map (fun x => (some x.1, x.2)))
  | _, .emptied _ => .cleared

/-- A pair in its slot. -/
def slot (x : α × Option σ) : Slot α σ := some (some x.1, x.2)

/-- The buffer stands for the queue. -/
structure Represents (b : RingBuffer α σ) (q : BoundedQueue (α × Option σ)) : Prop where
  bound : b.capacity = q.bound
  onFull : b.policy.onFull = q.onFull
  slots : b.buffer.length = b.capacity
  len : b.len = q.items.length
  head : b.head < b.capacity
  tail : b.tail = Circular.index b.buffer b.head q.items.length
  holds : Circular.Holds b.buffer b.head (q.items.map slot)

/-- A pair as the buffer stores it. -/
def pair (x : α × Option σ) : Option α × Option σ := (some x.1, x.2)

theorem map_pair (xs : List (α × Option σ)) : (xs.map pair).map some = xs.map slot := by
  rw [List.map_map]
  rfl

namespace Represents
variable {b : RingBuffer α σ} {q : BoundedQueue (α × Option σ)}

theorem stores (h : Represents b q) : b.Stores (q.items.map pair) := by
  refine ⟨h.slots, ?_, ?_, h.head, ?_, ?_⟩
  · rw [List.length_map]
    exact h.len
  · rw [List.length_map, h.bound]
    exact q.length_le
  · rw [List.length_map]
    exact h.tail
  · rw [map_pair]
    exact h.holds

theorem of_stores {xs : List (α × Option σ)} (h : b.Stores (xs.map pair)) (hitems : q.items = xs)
    (hbound : b.capacity = q.bound) (hfull : b.policy.onFull = q.onFull) : Represents b q := by
  subst hitems
  obtain ⟨hslots, hlen, -, hhead, htail, hholds⟩ := h
  rw [List.length_map] at hlen htail
  rw [map_pair] at hholds
  exact ⟨hbound, hfull, hslots, hlen, hhead, htail, hholds⟩

/-! ## The operations -/

theorem len_eq_iff (h : Represents b q) : b.len = b.capacity ↔ ¬ q.items.length < q.bound := by
  have hle := q.length_le
  rw [h.len, h.bound]
  omega

/-- An operation of the buffer does and reports what the one of the queue does. -/
structure Agrees (b : RingBuffer α σ) (op : Op α σ) (r : RingBuffer α σ × Result α σ)
    (s : BoundedQueue (α × Option σ) × BoundedQueue.Report (α × Option σ)) : Prop where
  result : r.2 = op.result b.capacity s.2
  represents : Represents r.1 s.1
  count : ∀ t, b.count t r.2 = t.add s.2
  dropped : ∀ t : BoundedQueue.Tally, b.totalDropped = t.evicted + t.rejected →
    r.1.totalDropped = (t.add s.2).evicted + (t.add s.2).rejected

theorem push (h : Represents b q) (x : α) (s : Option σ) :
    Agrees b (.push x s) (b.step (.push x s)) (q.push (x, s)) := by
  unfold RingBuffer.step RingBuffer.push BoundedQueue.push
  by_cases hlt : q.items.length < q.bound
  · have hlen : b.len ≠ b.capacity := fun he => h.len_eq_iff.mp he hlt
    have hroom : (q.items.map pair).length < b.capacity := by
      rw [List.length_map, h.bound]
      exact hlt
    have hput : (b.put (some x) s).Stores ((q.items ++ [(x, s)]).map pair) := by
      rw [List.map_append]
      exact h.stores.put hroom (some x) s
    simp only [if_neg hlen, dif_pos hlt]
    refine ⟨rfl, of_stores hput rfl h.bound h.onFull, fun t => ?_, fun t ht => ht⟩
    simp [RingBuffer.count, BoundedQueue.Tally.add, hlen]
  · have hlen : b.len = b.capacity := h.len_eq_iff.mpr hlt
    simp only [if_pos hlen, dif_neg hlt, ← h.onFull]
    cases hp : b.policy with
    | dropOldest =>
      obtain ⟨y, ys, hitems⟩ : ∃ y ys, q.items = y :: ys := by
        have hpos := q.bound_pos
        cases hq : q.items with
        | nil =>
          rw [hq, List.length_nil] at hlt
          omega
        | cons y ys => exact ⟨y, ys, rfl⟩
      have hstores : b.Stores (pair y :: ys.map pair) := by
        have hstores := h.stores
        rwa [hitems, List.map_cons] at hstores
      have hroom : (ys.map pair).length < b.capacity := hstores.le
      have hrotate : (q.rotate (x, s)).items = ys ++ [(x, s)] := by
        show q.items.tail ++ [(x, s)] = _
        rw [hitems, List.tail_cons]
      refine ⟨rfl, ?_, fun t => ?_, fun t ht => ?_⟩
      · have hput := (hstores.advance (b.totalDropped + 1)).put hroom (some x) s
        rw [hp] at hput
        refine of_stores ?_ hrotate h.bound ((congrArg _ hp).symm.trans h.onFull)
        rw [List.map_append]
        exact hput
      · simp [RingBuffer.count, OverflowPolicy.onFull, BoundedQueue.Tally.add, hlen]
      · show b.totalDropped + 1 = _
        simp only [OverflowPolicy.onFull, BoundedQueue.Tally.add]
        omega
    | dropNewest =>
      refine ⟨rfl, of_stores (h.stores.of_eq rfl rfl rfl rfl rfl) rfl h.bound
        ((congrArg _ hp).symm.trans h.onFull), fun t => rfl, fun t ht => ?_⟩
      show b.totalDropped + 1 = _
      simp only [OverflowPolicy.onFull, BoundedQueue.Tally.add]
      omega
    | error =>
      refine ⟨?_, h, fun t => rfl, fun t ht => ht⟩
      show Result.raised _ = Result.raised _
      rw [hlen]

theorem pop (h : Represents b q) : Agrees b .pop (b.step .pop) q.pop := by
  have hstores := h.stores
  cases hitems : q.items with
  | nil =>
    rw [hitems] at hstores
    have hstep : b.step .pop = (b, .popped none) := by
      show (b.pop.1, Result.popped b.pop.2) = _
      rw [hstores.pop_nil]
    have hreport : q.pop.2 = .popped none := by
      show BoundedQueue.Report.popped q.items.head? = _
      rw [hitems]
      rfl
    have hsame : q.pop.1.items = [] := by
      show q.items.tail = []
      rw [hitems]
      rfl
    rw [hstep]
    refine ⟨?_, of_stores hstores hsame h.bound h.onFull, ?_, ?_⟩
    · rw [hreport]
      rfl
    · intro t
      rw [hreport]
      rfl
    · intro t ht
      rw [hreport]
      exact ht
  | cons x xs =>
    rw [hitems, List.map_cons] at hstores
    obtain ⟨hresult, hrest⟩ := hstores.pop_cons
    have hleaves := RingBuffer.Leaves.pop b
    have hreport : q.pop.2 = .popped (some x) := by
      show BoundedQueue.Report.popped q.items.head? = _
      rw [hitems]
      rfl
    have htail : q.pop.1.items = xs := by
      show q.items.tail = xs
      rw [hitems, List.tail_cons]
    refine ⟨?_, of_stores hrest htail (hleaves.capacity.trans h.bound)
      ((congrArg _ hleaves.policy).trans h.onFull), fun t => ?_, fun t ht => ?_⟩
    · show Result.popped b.pop.2 = _
      rw [hresult, hreport]
      rfl
    · show b.count t (.popped b.pop.2) = _
      rw [hresult, hreport]
      rfl
    · rw [hreport]
      exact hleaves.totalDropped.trans ht

theorem drain (h : Represents b q) : Agrees b .drain (b.step .drain) q.empty := by
  obtain ⟨hitems, hempty⟩ := h.stores.drain
  have hleaves := RingBuffer.Leaves.drain b
  have hmap : (q.items.map pair).filterMap Prod.fst = q.items.map Prod.fst := by
    rw [List.filterMap_map, ← List.filterMap_eq_map]
    rfl
  rw [hmap] at hitems
  refine ⟨?_, of_stores (List.map_nil ▸ hempty) rfl (hleaves.capacity.trans h.bound)
    ((congrArg _ hleaves.policy).trans h.onFull), fun t => ?_,
    fun t ht => hleaves.totalDropped.trans ht⟩
  · show Result.drained b.drain.2 = _
    rw [hitems]
    rfl
  · show b.count t (.drained b.drain.2) = _
    rw [hitems]
    simp [RingBuffer.count, BoundedQueue.empty, BoundedQueue.Tally.add]

theorem drainWithSequences (h : Represents b q) :
    Agrees b .drainWithSequences (b.step .drainWithSequences) q.empty := by
  obtain ⟨hitems, hempty⟩ := h.stores.drainWithSequences
  have hleaves := RingBuffer.Leaves.drainWithSequences b
  refine ⟨?_, of_stores (List.map_nil ▸ hempty) rfl (hleaves.capacity.trans h.bound)
    ((congrArg _ hleaves.policy).trans h.onFull), fun t => ?_,
    fun t ht => hleaves.totalDropped.trans ht⟩
  · show Result.drainedWith b.drainWithSequences.2 = _
    rw [hitems]
    rfl
  · show b.count t (.drainedWith b.drainWithSequences.2) = _
    rw [hitems]
    simp [RingBuffer.count, BoundedQueue.empty, BoundedQueue.Tally.add]

theorem clear (h : Represents b q) : Agrees b .clear (b.step .clear) q.empty := by
  refine ⟨rfl, of_stores (List.map_nil ▸ h.stores.clear) rfl h.bound h.onFull, fun t => ?_,
    fun t ht => ht⟩
  show { t with removed := t.removed + b.len.toNat } = _
  rw [h.stores.len_toNat, List.length_map]
  rfl

/-- What one operation preserves, and what it shows. -/
theorem step (h : Represents b q) (op : Op α σ) : Agrees b op (b.step op) (q.step op.onQueue) := by
  cases op with
  | push x s => exact h.push x s
  | pop => exact h.pop
  | drain => exact h.drain
  | drainWithSequences => exact h.drainWithSequences
  | clear => exact h.clear

end Represents

/-! ## Runs -/

/-- The results of a run of the queue. -/
def results (capacity : Nat) : List (Op α σ) → List (BoundedQueue.Report (α × Option σ)) →
    List (Result α σ)
  | op :: ops, r :: rs => op.result capacity r :: results capacity ops rs
  | _, _ => []

/-- After the operations, the buffer is as the queue is. -/
structure Follows (b : RingBuffer α σ) (q : BoundedQueue (α × Option σ)) (ops : List (Op α σ)) :
    Prop where
  results : (b.run ops).2 = results q.bound ops (q.run (ops.map Op.onQueue)).2
  len_nonneg : 0 ≤ (b.run ops).1.len
  len_le : (b.run ops).1.len ≤ q.bound
  tail : ((b.run ops).1.tail : Int) = ((b.run ops).1.head + (b.run ops).1.len) % q.bound
  accepted : (b.tally .zero ops).accepted =
    (b.run ops).1.len + (b.tally .zero ops).removed + (b.tally .zero ops).evicted
  dropped : (b.run ops).1.totalDropped = (b.tally .zero ops).evicted + (b.tally .zero ops).rejected

section Runs
variable {b : RingBuffer α σ} {q : BoundedQueue (α × Option σ)}

/-- The run lemma: results, slots and tally go along with the queue. -/
theorem Represents.run (h : Represents b q) (ops : List (Op α σ)) (t : BoundedQueue.Tally)
    (ht : b.totalDropped = t.evicted + t.rejected) :
    (b.run ops).2 = Buffer.results q.bound ops (q.run (ops.map Op.onQueue)).2 ∧
      Represents (b.run ops).1 (q.run (ops.map Op.onQueue)).1 ∧
      b.tally t ops = BoundedQueue.tally t (q.run (ops.map Op.onQueue)).2 ∧
      (b.run ops).1.totalDropped = (b.tally t ops).evicted + (b.tally t ops).rejected := by
  induction ops generalizing b q t with
  | nil => exact ⟨rfl, h, rfl, ht⟩
  | cons op ops ih =>
    have hstep := h.step op
    have hbound := BoundedQueue.step_bound q op.onQueue
    have ht' : (b.step op).1.totalDropped = (b.count t (b.step op).2).evicted +
        (b.count t (b.step op).2).rejected := by
      rw [hstep.count t]
      exact hstep.dropped t ht
    obtain ⟨hresults, hrep, htally, hdropped⟩ := ih hstep.represents _ ht'
    refine ⟨?_, hrep, ?_, hdropped⟩
    · show (b.step op).2 :: ((b.step op).1.run ops).2 = op.result q.bound _ :: _
      rw [hresults, hstep.result, hbound, h.bound]
    · show (b.step op).1.tally (b.count t (b.step op).2) ops = _
      rw [htally, hstep.count t]
      rfl

end Runs

/-- The empty buffer stands for the empty queue. -/
theorem represents_new {c : Nat} (hc : 0 < c) (policy : OverflowPolicy) :
    Represents (PythonRingBuffer.new c policy : RingBuffer α σ)
      (BoundedQueue.new c hc policy.onFull) := by
  have hnew := RingBuffer.stores_new (α := α) (σ := σ) hc policy
  exact Represents.of_stores (List.map_nil ▸ hnew) rfl rfl rfl

theorem follows_new {c : Nat} (hc : 0 < c) (policy : OverflowPolicy) (ops : List (Op α σ)) :
    Follows (PythonRingBuffer.new c policy) (BoundedQueue.new c hc policy.onFull) ops := by
  obtain ⟨hresults, hrep, htally, hdropped⟩ :=
    (represents_new hc policy).run ops BoundedQueue.Tally.zero rfl
  have hconserved := BoundedQueue.tally_conserved (q := BoundedQueue.new c hc policy.onFull)
    (t := BoundedQueue.Tally.zero) rfl (ops.map Op.onQueue)
  have hbound := BoundedQueue.run_bound (BoundedQueue.new c hc policy.onFull)
    (ops.map Op.onQueue : List (BoundedQueue.Op (α × Option σ)))
  refine ⟨hresults, ?_, ?_, ?_, ?_, hdropped⟩
  · rw [hrep.len]
    exact Int.natCast_nonneg _
  · rw [hrep.len, ← hbound]
    exact Int.ofNat_le.mpr (BoundedQueue.length_le _)
  · rw [hrep.tail, hrep.len, ← hbound, ← hrep.bound, ← hrep.slots]
    rfl
  · rw [hrep.len, htally]
    unfold BoundedQueue.Tally.Conserved at hconserved
    omega

/-- **The ring buffer is a bounded queue.** Both classes, for every capacity, policy and
sequence of operations. -/
theorem ring_buffer_fifo (c : Nat) (hc : 0 < c) (policy : OverflowPolicy) (ops : List (Op α σ)) :
    (∃ b : RingBuffer α σ, RingBuffer.new c policy = .ok b ∧
      Follows b (BoundedQueue.new c hc policy.onFull) ops) ∧
    Follows (PythonRingBuffer.new c policy) (BoundedQueue.new c hc policy.onFull) ops := by
  exact ⟨⟨PythonRingBuffer.new c policy, RingBuffer.new_eq hc policy, follows_new hc policy ops⟩,
    follows_new hc policy ops⟩

/-- A buffer of three, pushed to four times. -/
theorem ring_buffer_fifo_three :
    Follows (PythonRingBuffer.new 3 .dropOldest) (BoundedQueue.new 3 (by decide) .evict)
      [.push 1 none, .push 2 none, .push 3 (some 7), .push 4 none, .pop, .drain,
       (.clear : Op Nat Nat)] :=
  (ring_buffer_fifo 3 (by decide) .dropOldest _).2

end JetSocket.Buffer
