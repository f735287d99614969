import Mathlib.Data.List.Basic

/- A queue on a one-thread loop (`asyncio.Queue`). A `get` on an empty queue parks; a `put` wakes
   the first parked one, which runs later and takes an item then, if another `get` has not been
   faster. Where there is none it parks again, as the last. Tasks are named by numbers.

   `put` is that of an unbounded queue; `putNowait` and `getNowait` do not wait, and take the bound.

   `Covered` is what a user of the queue can keep up: each `get` that waits has an item of its
   own in the queue. `Freed` is `Covered` with nobody parked, and stays so without further puts;
   `freed_putNowait_iff` is when one put brings it about. -/

/-- The items, the `get`s that wait, and those woken that have not run yet. -/
structure AsyncQueue (α : Type*) where
  items : List α
  parked : List Nat
  woken : List Nat

namespace AsyncQueue
variable {α : Type*}

def empty : AsyncQueue α := ⟨[], [], []⟩

/-- `_wakeup_next`. -/
def wakeNext (q : AsyncQueue α) : AsyncQueue α :=
  match q.parked with
  | [] => q
  | task :: rest => ⟨q.items, rest, q.woken ++ [task]⟩

/-- `put`. -/
def put (q : AsyncQueue α) (item : α) : AsyncQueue α :=
  wakeNext ⟨q.items ++ [item], q.parked, q.woken⟩

/-- `get`: the item, or a wait. -/
def get (q : AsyncQueue α) (task : Nat) : AsyncQueue α × Option α :=
  match q.items with
  | [] => (⟨[], q.parked ++ [task], q.woken⟩, none)
  | item :: rest => (⟨rest, q.parked, q.woken⟩, some item)

/-- `full`. A bound of 0 is none. -/
def full (q : AsyncQueue α) (maxsize : Nat) : Bool := 0 < maxsize && maxsize ≤ q.items.length

/-- `put_nowait`, `none` where it raises `QueueFull`. -/
def putNowait (q : AsyncQueue α) (maxsize : Nat) (item : α) : Option (AsyncQueue α) :=
  if q.full maxsize then none else some (q.put item)

/-- `get_nowait`, `none` where it raises `QueueEmpty`. -/
def getNowait (q : AsyncQueue α) : Option (AsyncQueue α × α) :=
  match q.items with
  | [] => none
  | item :: rest => some (⟨rest, q.parked, q.woken⟩, item)

/-- A woken `get` runs. -/
def resume (q : AsyncQueue α) (task : Nat) : AsyncQueue α × Option α :=
  get ⟨q.items, q.parked, q.woken.erase task⟩ task

/-- A `get` is cancelled. One that was woken passes the wakeup on. -/
def giveUp (q : AsyncQueue α) (task : Nat) : AsyncQueue α :=
  if task ∈ q.woken then
    let q := ⟨q.items, q.parked, q.woken.erase task⟩
    if q.items.isEmpty then q else q.wakeNext
  else ⟨q.items, q.parked.erase task, q.woken⟩

/-- The `get`s that have not ended. -/
def waiting (q : AsyncQueue α) : Nat := q.parked.length + q.woken.length

/-- The task is in a `get`. -/
def Waits (q : AsyncQueue α) (task : Nat) : Prop := task ∈ q.parked ∨ task ∈ q.woken

instance (q : AsyncQueue α) (task : Nat) : Decidable (q.Waits task) :=
  inferInstanceAs (Decidable (_ ∨ _))

/-- Each `get` that waits has an item of its own. -/
def Covered (q : AsyncQueue α) : Prop := q.waiting ≤ q.items.length

instance (q : AsyncQueue α) : Decidable q.Covered := inferInstanceAs (Decidable (_ ≤ _))

/-- No `get` is parked, and each that was woken has an item of its own. -/
def Freed (q : AsyncQueue α) : Prop := q.parked = [] ∧ q.Covered

/-- One more item, put if there is room, is enough for all that wait. -/
def Freeable (q : AsyncQueue α) (maxsize : Nat) : Prop :=
  if q.full maxsize then q.Freed else q.parked.length ≤ 1 ∧ q.waiting ≤ q.items.length + 1

@[simp] theorem items_wakeNext (q : AsyncQueue α) : q.wakeNext.items = q.items := by
  unfold wakeNext
  split <;> rfl

@[simp] theorem waiting_wakeNext (q : AsyncQueue α) : q.wakeNext.waiting = q.waiting := by
  unfold wakeNext waiting
  split
  · rfl
  · rename_i task rest hp
    simp only [hp, List.length_append, List.length_cons, List.length_nil]
    omega

@[simp] theorem items_put (q : AsyncQueue α) (item : α) :
    (q.put item).items = q.items ++ [item] := items_wakeNext _

/-- There is room behind the bound, or there is none. -/
theorem full_iff (q : AsyncQueue α) (maxsize : Nat) :
    q.full maxsize = true ↔ 0 < maxsize ∧ maxsize ≤ q.items.length := by
  unfold full
  rw [Bool.and_eq_true, decide_eq_true_iff, decide_eq_true_iff]

theorem waiting_eq_zero {q : AsyncQueue α} : q.waiting = 0 ↔ ∀ task, ¬ q.Waits task := by
  unfold waiting Waits
  constructor
  · intro h task
    have hp : q.parked = [] := List.length_eq_zero_iff.mp (by omega)
    have hw : q.woken = [] := List.length_eq_zero_iff.mp (by omega)
    simp [hp, hw]
  · intro h
    have hp : q.parked = [] := List.eq_nil_iff_forall_not_mem.mpr (fun task ht => h task (.inl ht))
    have hw : q.woken = [] := List.eq_nil_iff_forall_not_mem.mpr (fun task ht => h task (.inr ht))
    simp [hp, hw]

/-- Nobody waits on an empty queue whose waits are covered. -/
theorem Covered.none {q : AsyncQueue α} (h : q.Covered) (he : q.items = []) (task : Nat) :
    ¬ q.Waits task := by
  refine waiting_eq_zero.mp ?_ task
  unfold Covered at h
  rw [he] at h
  exact Nat.le_zero.mp h

theorem Covered.put {q : AsyncQueue α} (h : q.Covered) (item : α) : (q.put item).Covered := by
  unfold Covered AsyncQueue.put at *
  rw [waiting_wakeNext, items_wakeNext]
  simp only [waiting, List.length_append, List.length_cons, List.length_nil] at h ⊢
  omega

/-- A `get` that takes an item takes it from nobody where there is one more than waits. -/
theorem Covered.get {q : AsyncQueue α} (h : q.waiting < q.items.length) (task : Nat) :
    (q.get task).1.Covered := by
  unfold AsyncQueue.get Covered
  cases hi : q.items with
  | nil => simp [hi] at h
  | cons item rest =>
    simp only [hi, List.length_cons] at h
    simp only [waiting] at h ⊢
    omega

theorem Covered.resume {q : AsyncQueue α} (h : q.Covered) {task : Nat} (ht : task ∈ q.woken) :
    (q.resume task).1.Covered := by
  refine Covered.get ?_ task
  have hlen : (q.woken.erase task).length + 1 = q.woken.length := by
    have := List.length_erase_of_mem ht
    have := List.length_pos_of_mem ht
    omega
  simp only [Covered, waiting] at h ⊢
  omega

theorem Covered.giveUp {q : AsyncQueue α} (h : q.Covered) (task : Nat) :
    (q.giveUp task).Covered := by
  have hw : (q.woken.erase task).length ≤ q.woken.length := List.length_erase_le
  have hp : (q.parked.erase task).length ≤ q.parked.length := List.length_erase_le
  have hfewer : Covered ⟨q.items, q.parked, q.woken.erase task⟩ := by
    simp only [Covered, waiting] at h ⊢
    omega
  unfold AsyncQueue.giveUp
  split
  · dsimp only
    split
    · exact hfewer
    · unfold Covered
      rw [waiting_wakeNext, items_wakeNext]
      exact hfewer
  · simp only [Covered, waiting] at h ⊢
    omega

/-- The answer of a `get`: a wait, on an empty queue, or the first item. -/
def Pops (q : AsyncQueue α) (r : AsyncQueue α × Option α) : Prop :=
  match r.2 with
  | none => q.items = [] ∧ r.1.items = []
  | some item => q.items = item :: r.1.items

theorem get_pops (q : AsyncQueue α) (task : Nat) : q.Pops (q.get task) := by
  unfold Pops get
  cases hi : q.items with
  | nil => exact ⟨rfl, rfl⟩
  | cons item rest => rfl

theorem resume_pops (q : AsyncQueue α) (task : Nat) : q.Pops (q.resume task) :=
  get_pops ⟨q.items, q.parked, q.woken.erase task⟩ task

@[simp] theorem items_giveUp (q : AsyncQueue α) (task : Nat) : (q.giveUp task).items = q.items := by
  unfold giveUp
  split
  · dsimp only
    split
    · rfl
    · exact items_wakeNext _
  · rfl

/-- Room for one item is made by taking one, within the bound. -/
theorem putNowait_getNowait {q : AsyncQueue α} {maxsize : Nat} (hfull : q.full maxsize = true)
    (hbound : q.items.length ≤ maxsize) (item : α) : ∃ oldest rest q₁ q₂,
      q.items = oldest :: rest ∧ q.getNowait = some (q₁, oldest) ∧
      q₁.putNowait maxsize item = some q₂ ∧ q₂.items = rest ++ [item] := by
  obtain ⟨hpos, hle⟩ := (full_iff q maxsize).mp hfull
  cases hi : q.items with
  | nil =>
    rw [hi, List.length_nil] at hle
    omega
  | cons oldest rest =>
    rw [hi, List.length_cons] at hle hbound
    have hroom : ¬ full (⟨rest, q.parked, q.woken⟩ : AsyncQueue α) maxsize = true := by
      rw [full_iff]
      dsimp only
      omega
    refine ⟨oldest, rest, ⟨rest, q.parked, q.woken⟩, put ⟨rest, q.parked, q.woken⟩ item, rfl, ?_,
      ?_, items_put _ _⟩
    · unfold getNowait
      rw [hi]
    · unfold putNowait
      rw [if_neg hroom]

theorem Freed.resume {q : AsyncQueue α} (h : q.Freed) {task : Nat} (ht : task ∈ q.woken) :
    (q.resume task).1.Freed := by
  refine ⟨?_, h.2.resume ht⟩
  have hpos : 0 < q.items.length := by
    have hwoken := List.length_pos_of_mem ht
    have hcovered := h.2
    simp only [Covered, waiting] at hcovered
    omega
  obtain ⟨item, rest, hitems⟩ := List.exists_cons_of_length_pos hpos
  unfold AsyncQueue.resume get
  rw [hitems]
  exact h.1

theorem Freed.giveUp {q : AsyncQueue α} (h : q.Freed) (task : Nat) : (q.giveUp task).Freed := by
  refine ⟨?_, h.2.giveUp task⟩
  unfold AsyncQueue.giveUp
  split
  · dsimp only
    split
    · exact h.1
    · unfold wakeNext
      simp only [h.1]
  · dsimp only
    rw [h.1]
    rfl

/-- **One put** frees all that wait exactly where one more item is enough. -/
theorem freed_putNowait_iff (q : AsyncQueue α) (maxsize : Nat) (item : α) :
    ((q.putNowait maxsize item).getD q).Freed ↔ q.Freeable maxsize := by
  unfold putNowait Freeable
  cases hfull : q.full maxsize with
  | true => exact Iff.rfl
  | false =>
    simp only [Bool.false_eq_true, if_false, Option.getD_some]
    unfold Freed Covered put
    rw [waiting_wakeNext, items_wakeNext]
    have hparked : (wakeNext ⟨q.items ++ [item], q.parked, q.woken⟩).parked = q.parked.tail := by
      unfold wakeNext
      split
      · rename_i hnil
        dsimp only at hnil ⊢
        rw [hnil]
        rfl
      · rename_i task rest hcons
        dsimp only at hcons ⊢
        rw [hcons]
        rfl
    have hone : q.parked.tail = [] ↔ q.parked.length ≤ 1 := by
      rw [← List.length_eq_zero_iff, List.length_tail]
      omega
    rw [hparked, hone, List.length_append, List.length_singleton]
    exact Iff.rfl

end AsyncQueue
