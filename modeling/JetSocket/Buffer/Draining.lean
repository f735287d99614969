import JetSocket.Buffer.MessageBuffer

/- The three ways in which a buffer is emptied (`_core.pyx`, `buffer.py`): `drain`,
   `drain_with_sequences`, and `pop` until the length is 0.

   `pop` returns `None` for a stored `None` as it does for an empty buffer, and `drain` leaves
   out every `None` that `pop` returns. `drain_with_sequences` looks at the slot.

   Correspondence (Python ↔ Lean):
     `peek`, `reset_dropped_counter` ↔ `peek`, `resetDroppedCounter`
     the methods of a ring buffer    ↔ `RingBuffer.Call`
     `while len: pop()`              ↔ `popAll`

   What is proved:
     1. `Stores.popAll` — the calls of `pop` return the stored items.
     2. `Stores.drainsAgree_iff` — the three agree exactly when no stored item is `None`.
     3. `drains_agree_iff` — so it is for every ring buffer and every message buffer that can
        be reached. -/
namespace JetSocket.Buffer

variable {α σ : Type}

/-- What `drain` returned, what `drain_with_sequences` returned, what the calls of `pop`
returned, and the lengths behind each. -/
structure Agree (drained : List α) (pairs : List (Option α × Option σ)) (popped : List (Option α))
    (lens : Int × Int × Int) : Prop where
  firsts : drained.map some = pairs.map Prod.fst
  pops : popped = drained.map some
  empty : lens = (0, 0, 0)

namespace RingBuffer

/-- `peek`. -/
def peek (b : RingBuffer α σ) : Option α :=
  if b.len = 0 then none else (b.buffer[b.head]?).join.bind Prod.fst

/-- `reset_dropped_counter`. -/
def resetDroppedCounter (b : RingBuffer α σ) : RingBuffer α σ := { b with totalDropped := 0 }

inductive Call (α σ : Type) where
  | push (item : Option α) (sequenceId : Option σ)
  | pop
  | peek
  | drain
  | drainWithSequences
  | clear
  | resetDroppedCounter

def call (b : RingBuffer α σ) : Call α σ → RingBuffer α σ
  | .push item sequenceId => (b.push item sequenceId).1
  | .pop => b.pop.1
  | .peek => b
  | .drain => b.drain.1
  | .drainWithSequences => b.drainWithSequences.1
  | .clear => b.clear
  | .resetDroppedCounter => b.resetDroppedCounter

/-- Either constructor, and calls in any order. -/
def Reachable (b : RingBuffer α σ) : Prop :=
  ∃ (c : Nat) (policy : OverflowPolicy) (b₀ : RingBuffer α σ) (calls : List (Call α σ)),
    (RingBuffer.new c policy = .ok b₀ ∨ 0 < c ∧ PythonRingBuffer.new c policy = b₀) ∧
      calls.foldl call b₀ = b

/-- The loop around `pop`, at most `fuel` times. -/
def popLoop : Nat → RingBuffer α σ → List (Option α) → RingBuffer α σ × List (Option α)
  | 0, b, items => (b, items)
  | fuel + 1, b, items =>
    if 0 < b.len then popLoop fuel b.pop.1 (items ++ [b.pop.2]) else (b, items)

/-- `pop`, until the length is 0. -/
def popAll (b : RingBuffer α σ) : RingBuffer α σ × List (Option α) := b.popLoop b.len.toNat []

def DrainsAgree (b : RingBuffer α σ) : Prop :=
  Agree b.drain.2 b.drainWithSequences.2 b.popAll.2
    (b.drain.1.len, b.drainWithSequences.1.len, b.popAll.1.len)

/-- No slot between the head and the tail holds the item `None`. -/
def HoldsNoNone (b : RingBuffer α σ) : Prop :=
  ∀ i < b.len.toNat, ∀ s, b.buffer[(b.head + i) % b.capacity]? ≠ some (some (none, s))

namespace Stores
variable {b : RingBuffer α σ} {xs : List (Option α × Option σ)}

/-- The slots hold no `None` exactly when the items are none. -/
theorem holdsNoNone_iff (h : Stores b xs) : b.HoldsNoNone ↔ ∀ x ∈ xs, x.1 ≠ none := by
  have hslot : ∀ i (hi : i < xs.length),
      b.buffer[(b.head + i) % b.capacity]? = some (some xs[i]) := by
    intro i hi
    rw [← h.slots]
    exact h.holds i (some xs[i]) (by rw [List.getElem?_map, List.getElem?_eq_getElem hi]; rfl)
  unfold HoldsNoNone
  rw [h.len_toNat]
  constructor
  · intro hnone x hx hx1
    obtain ⟨i, hi, rfl⟩ := List.mem_iff_getElem.mp hx
    apply hnone i hi xs[i].2
    rw [hslot i hi, ← hx1]
  · intro hsome i hi s hs
    rw [hslot i hi] at hs
    have hpair : xs[i] = (none, s) := Option.some.inj (Option.some.inj hs)
    exact hsome xs[i] (List.getElem_mem hi) (congrArg Prod.fst hpair)

/-- The loop around `pop`, item by item. -/
theorem popLoop (h : Stores b xs) (items : List (Option α)) :
    (b.popLoop xs.length items).2 = items ++ xs.map Prod.fst ∧
      Stores (b.popLoop xs.length items).1 [] := by
  -- The fuel is the number of items, so the loop ends with its condition.
  induction xs generalizing b items with
  | nil => exact ⟨(List.append_nil items).symm, h⟩
  | cons x xs ih =>
    obtain ⟨hresult, hrest⟩ := h.pop_cons
    obtain ⟨hitems, hempty⟩ := ih hrest (items ++ [x.1])
    rw [List.length_cons, RingBuffer.popLoop, if_pos h.len_pos, hresult]
    refine ⟨?_, hempty⟩
    rw [hitems, List.append_assoc]
    rfl

theorem popAll (h : Stores b xs) : b.popAll.2 = xs.map Prod.fst ∧ Stores b.popAll.1 [] := by
  unfold RingBuffer.popAll
  rw [h.len_toNat]
  exact h.popLoop []

end Stores

/-- Leaving out what is `None` leaves all there is exactly when nothing is. -/
theorem map_some_filterMap_iff (xs : List (Option α × Option σ)) :
    (xs.filterMap Prod.fst).map some = xs.map Prod.fst ↔ ∀ x ∈ xs, x.1 ≠ none := by
  induction xs with
  | nil => simp
  | cons x xs ih =>
    obtain ⟨item, s⟩ := x
    cases item with
    | none =>
      rw [List.filterMap_cons_none rfl]
      -- what is left is shorter
      refine iff_of_false (fun heq => ?_) (fun h => h _ List.mem_cons_self rfl)
      have hlength := congrArg List.length heq
      have hle := List.length_filterMap_le Prod.fst xs
      rw [List.length_map, List.length_map, List.length_cons] at hlength
      omega
    | some item =>
      have hhead : ((some item, s) :: xs).filterMap Prod.fst = item :: xs.filterMap Prod.fst := rfl
      rw [hhead]
      simpa using ih

namespace Stores
variable {b : RingBuffer α σ} {xs : List (Option α × Option σ)}

/-- **The drains agree** exactly when no stored item is `None`. -/
theorem drainsAgree_iff (h : Stores b xs) : b.DrainsAgree ↔ b.HoldsNoNone := by
  obtain ⟨hdrain, hdrained⟩ := h.drain
  obtain ⟨hpairs, hpaired⟩ := h.drainWithSequences
  obtain ⟨hpop, hpopped⟩ := h.popAll
  have hlens : (b.drain.1.len, b.drainWithSequences.1.len, b.popAll.1.len) = (0, 0, 0) := by
    rw [hdrained.len, hpaired.len, hpopped.len]
    rfl
  unfold DrainsAgree
  rw [h.holdsNoNone_iff, ← map_some_filterMap_iff, hdrain, hpairs, hpop]
  exact ⟨fun h => h.firsts, fun hfirsts => ⟨hfirsts, hfirsts.symm, hlens⟩⟩

/-- One call. -/
theorem call (h : Stores b xs) (c : Call α σ) : ∃ ys, Stores (b.call c) ys := by
  cases c with
  | push m s =>
    have hpushed := h.push m s
    show ∃ ys, Stores (b.push m s).1 ys
    generalize b.push m s = r at hpushed
    obtain ⟨ring, answer⟩ := r
    cases hpushed with
    | added _ hs | evicted _ _ _ _ _ hs | dropped _ _ hs | raised _ _ _ hs => exact ⟨_, hs⟩
  | pop =>
    cases xs with
    | nil => exact ⟨[], by show Stores b.pop.1 []; rw [h.pop_nil]; exact h⟩
    | cons x xs => exact ⟨xs, h.pop_cons.2⟩
  | peek => exact ⟨xs, h⟩
  | drain => exact ⟨[], h.drain.2⟩
  | drainWithSequences => exact ⟨[], h.drainWithSequences.2⟩
  | clear => exact ⟨[], h.clear⟩
  | resetDroppedCounter => exact ⟨xs, h.of_eq rfl rfl rfl rfl rfl⟩

theorem calls (h : Stores b xs) (cs : List (Call α σ)) :
    ∃ ys, Stores (cs.foldl RingBuffer.call b) ys := by
  induction cs generalizing b xs with
  | nil => exact ⟨xs, h⟩
  | cons c cs ih =>
    obtain ⟨ys, hys⟩ := h.call c
    exact ih hys

end Stores

theorem Reachable.stores {b : RingBuffer α σ} (h : Reachable b) : ∃ xs, Stores b xs := by
  obtain ⟨c, policy, b₀, calls, hnew, rfl⟩ := h
  have h₀ : Stores b₀ [] := by
    obtain hok | ⟨hc, rfl⟩ := hnew
    · unfold RingBuffer.new at hok
      split at hok
      · cases hok
      · next hc =>
        cases hok
        exact stores_new (by omega) policy
    · exact stores_new hc policy
  exact h₀.calls calls

end RingBuffer

namespace MessageBuffer

/-- The loop around `pop`, at most `fuel` times. -/
def popLoop : Nat → MessageBuffer α σ → List (Option α) → MessageBuffer α σ × List (Option α)
  | 0, b, items => (b, items)
  | fuel + 1, b, items =>
    if 0 < b.len then popLoop fuel b.pop.1 (items ++ [b.pop.2]) else (b, items)

/-- `pop`, until the length is 0. -/
def popAll (b : MessageBuffer α σ) : MessageBuffer α σ × List (Option α) :=
  b.popLoop b.len.toNat []

def DrainsAgree (b : MessageBuffer α σ) : Prop :=
  Agree b.drain.2 b.drainWithSequences.2 b.popAll.2
    (b.drain.1.len, b.drainWithSequences.1.len, b.popAll.1.len)

theorem popLoop_eq (n : Nat) (b : MessageBuffer α σ) (items : List (Option α)) :
    b.popLoop n items =
      ({ b with buffer := (b.buffer.popLoop n items).1 }, (b.buffer.popLoop n items).2) := by
  induction n generalizing b items with
  | zero => rfl
  | succ n ih =>
    unfold popLoop RingBuffer.popLoop
    by_cases h : 0 < b.buffer.len
    · rw [if_pos h, if_pos (show 0 < b.len from h), ih]
      rfl
    · rw [if_neg h, if_neg (show ¬ 0 < b.len from h)]

/-- The ring buffer does it all. -/
theorem drainsAgree_iff (b : MessageBuffer α σ) : b.DrainsAgree ↔ b.buffer.DrainsAgree := by
  have hpop : b.popAll = ({ b with buffer := b.buffer.popAll.1 }, b.buffer.popAll.2) :=
    popLoop_eq _ b []
  unfold DrainsAgree
  rw [hpop]
  rfl

end MessageBuffer

/-- **The two drains agree**, in what can be reached, exactly where no stored item is `None`. -/
theorem drains_agree_iff [DecidableEq σ] :
    (∀ b : RingBuffer α σ, b.Reachable → (b.DrainsAgree ↔ b.HoldsNoNone)) ∧
      ∀ b : MessageBuffer α σ, b.Reachable → (b.DrainsAgree ↔ b.buffer.HoldsNoNone) := by
  constructor
  · intro b hb
    obtain ⟨xs, hs⟩ := hb.stores
    exact hs.drainsAgree_iff
  · intro b hb
    rw [b.drainsAgree_iff]
    exact hb.valid.stores.drainsAgree_iff

/-- Room for two messages, the oldest of which goes. -/
def twoSlots : BufferConfig :=
  { MessageBuffer.small with
    capacity := 2, overflowPolicy := .dropOldest, enableDedup := false, capacity_pos := Nat.two_pos }

/-- Three messages in two slots, so that the third has gone round. -/
theorem drains_agree_wrapped :
    let ring : RingBuffer Nat Nat :=
      [RingBuffer.Call.push (some 10) none, .push (some 20) (some 1), .push (some 30) none].foldl
        RingBuffer.call (PythonRingBuffer.new 2 .dropOldest)
    let b : MessageBuffer Nat Nat :=
      MessageBuffer.run (MessageBuffer.new (some twoSlots))
        [.push (some 10) none, .push (some 20) (some 1), .push (some 30) none]
    ring.DrainsAgree ∧ b.DrainsAgree ∧ ring.drain.2 = [20, 30] := by
  intro ring b
  have hring : ring.Reachable := ⟨2, .dropOldest, _, _, .inr ⟨by decide, rfl⟩, rfl⟩
  have hb : b.Reachable := ⟨some twoSlots, _, rfl⟩
  have hslots : ring.buffer = [some (some 30, none), some (some 20, some 1)] ∧ ring.head = 1 ∧
      ring.capacity = 2 := by
    decide
  have hnone : ring.HoldsNoNone := by
    intro i hi s
    rw [hslots.1, hslots.2.1, hslots.2.2]
    match i, hi with
    | 0, _ => simp
    | 1, _ => simp
  exact ⟨(drains_agree_iff.1 ring hring).mpr hnone, (drains_agree_iff.2 b hb).mpr hnone, by decide⟩

/-- The message `None`: `drain` returns nothing, `drain_with_sequences` one pair. -/
theorem none_left_out :
    let b : MessageBuffer Nat Nat :=
      MessageBuffer.run (MessageBuffer.new (some MessageBuffer.small)) [.push none (some 1)]
    b.Reachable ∧ b.drain.2 = [] ∧ b.drainWithSequences.2 = [(none, some 1)] ∧
      b.popAll.2 = [none] ∧ ¬ b.DrainsAgree := by
  refine ⟨⟨some MessageBuffer.small, [.push none (some 1)], rfl⟩, by decide, by decide, by decide,
    fun h => ?_⟩
  have hfirsts := h.firsts
  revert hfirsts
  decide

end JetSocket.Buffer
