import Mathlib.Data.List.Basic

/- A bounded first-in-first-out queue. `onFull` says what a push onto a full queue does: it
   puts the first element out, or turns the new one away, silently or with an error.

   An operation reports what became of the elements (`Report`), and a `Tally` adds the
   reports up. `tally_conserved`: over every run, what was accepted is what is still there,
   what was taken out and what was evicted. -/

inductive OnFull where
  | evict
  | reject
  | refuse
  deriving DecidableEq, Repr

structure BoundedQueue (α : Type*) where
  bound : Nat
  onFull : OnFull
  items : List α
  bound_pos : 0 < bound
  length_le : items.length ≤ bound

namespace BoundedQueue

variable {α : Type*}

/-- What an operation did with the elements. -/
inductive Report (α : Type*) where
  | added
  | evicted (x : α)
  | rejected
  | refused
  | popped (x : Option α)
  | emptied (xs : List α)

inductive Op (α : Type*) where
  | push (x : α)
  | pop
  | empty

def new (bound : Nat) (h : 0 < bound) (onFull : OnFull) : BoundedQueue α :=
  ⟨bound, onFull, [], h, Nat.zero_le _⟩

/-- The first element goes, and the new one comes last. -/
def rotate (q : BoundedQueue α) (x : α) : BoundedQueue α :=
  { q with
    items := q.items.tail ++ [x]
    length_le := by
      have hle := q.length_le
      have hpos := q.bound_pos
      rw [List.length_append, List.length_tail, List.length_singleton]
      omega }

def push (q : BoundedQueue α) (x : α) : BoundedQueue α × Report α :=
  if h : q.items.length < q.bound then
    ({ q with
       items := q.items ++ [x]
       length_le := by rw [List.length_append]; exact h }, .added)
  else
    match q.onFull with
    | .evict => (q.rotate x, .evicted (q.items.headD x))
    | .reject => (q, .rejected)
    | .refuse => (q, .refused)

def pop (q : BoundedQueue α) : BoundedQueue α × Report α :=
  ({ q with
     items := q.items.tail
     length_le := by
      have hle := q.length_le
      rw [List.length_tail]
      omega }, .popped q.items.head?)

def empty (q : BoundedQueue α) : BoundedQueue α × Report α :=
  ({ q with items := [], length_le := Nat.zero_le _ }, .emptied q.items)

def step (q : BoundedQueue α) : Op α → BoundedQueue α × Report α
  | .push x => q.push x
  | .pop => q.pop
  | .empty => q.empty

theorem step_bound (q : BoundedQueue α) (op : Op α) : (q.step op).1.bound = q.bound := by
  cases op with
  | push x =>
    show (q.push x).1.bound = q.bound
    unfold push
    split
    · rfl
    · split <;> rfl
  | pop => rfl
  | empty => rfl

/-! ## Adding up -/

structure Tally where
  accepted : Nat
  removed : Nat
  evicted : Nat
  rejected : Nat
  deriving DecidableEq, Repr

namespace Tally

def zero : Tally := ⟨0, 0, 0, 0⟩

def add (t : Tally) : Report α → Tally
  | .added => { t with accepted := t.accepted + 1 }
  | .evicted _ => { t with accepted := t.accepted + 1, evicted := t.evicted + 1 }
  | .rejected => { t with rejected := t.rejected + 1 }
  | .refused => t
  | .popped x => { t with removed := t.removed + x.toList.length }
  | .emptied xs => { t with removed := t.removed + xs.length }

/-- Of the accepted elements, `length` are still there. -/
def Conserved (t : Tally) (length : Nat) : Prop := t.accepted = length + t.removed + t.evicted

end Tally

theorem push_conserved {q : BoundedQueue α} {t : Tally} (h : t.Conserved q.items.length) (x : α) :
    (t.add (q.push x).2).Conserved (q.push x).1.items.length := by
  unfold Tally.Conserved at h ⊢
  unfold push
  split
  · simp only [Tally.add, List.length_append, List.length_singleton]
    omega
  · rename_i hfull
    have hpos := q.bound_pos
    split
    · simp only [Tally.add, rotate, List.length_append, List.length_tail, List.length_singleton]
      omega
    · exact h
    · exact h

/-- What one operation preserves. -/
theorem step_conserved {q : BoundedQueue α} {t : Tally} (h : t.Conserved q.items.length)
    (op : Op α) : (t.add (q.step op).2).Conserved (q.step op).1.items.length := by
  cases op with
  | push x => exact push_conserved h x
  | pop =>
    unfold Tally.Conserved at h ⊢
    simp only [step, pop, Tally.add]
    cases hq : q.items with
    | nil => simpa [hq] using h
    | cons x xs =>
      rw [hq, List.length_cons] at h
      simp only [List.head?_cons, Option.toList_some, List.length_singleton, List.tail_cons]
      omega
  | empty =>
    unfold Tally.Conserved at h ⊢
    simp only [step, empty, Tally.add, List.length_nil]
    omega

/-! ## Runs -/

def run : BoundedQueue α → List (Op α) → BoundedQueue α × List (Report α)
  | q, [] => (q, [])
  | q, op :: ops =>
    let r := (q.step op).1.run ops
    (r.1, (q.step op).2 :: r.2)

theorem run_bound (q : BoundedQueue α) (ops : List (Op α)) : (q.run ops).1.bound = q.bound := by
  induction ops generalizing q with
  | nil => rfl
  | cons op ops ih => exact (ih _).trans (q.step_bound op)

/-- The tally of a run, on top of an earlier one. -/
def tally (t : Tally) (reports : List (Report α)) : Tally := reports.foldl Tally.add t

/-- **Nothing is lost or made up.** -/
theorem tally_conserved {q : BoundedQueue α} {t : Tally} (h : t.Conserved q.items.length)
    (ops : List (Op α)) : (tally t (q.run ops).2).Conserved (q.run ops).1.items.length := by
  induction ops generalizing q t with
  | nil => exact h
  | cons op ops ih => exact ih (step_conserved h op)

end BoundedQueue
