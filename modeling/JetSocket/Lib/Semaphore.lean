import Mathlib.Data.List.Basic

/- A counting semaphore on a one-thread loop (`asyncio.Semaphore`). Whoever finds no permit waits;
   `release` hands its permit to the first who waits, who runs later. Until then the permit is
   granted: neither free nor in use. Tasks are named by numbers.

   `permits` counts the free and the granted ones. Each operation changes it by what it takes or
   brings: waking and giving up move permits between the two and lose none. -/

/-- The free permits, the tasks that wait, and those with a permit that have not run yet. -/
structure Semaphore where
  value : Nat
  waiting : List Nat
  granted : List Nat
  deriving DecidableEq, Repr

namespace Semaphore

def new (value : Nat) : Semaphore := ⟨value, [], []⟩

/-- `locked`: nobody passes while others wait, or have yet to run. -/
def locked (s : Semaphore) : Bool := s.value == 0 || !s.waiting.isEmpty || !s.granted.isEmpty

/-- `acquire`, where it does not wait. -/
def take (s : Semaphore) : Semaphore := { s with value := s.value - 1 }

/-- `acquire`, where it waits. -/
def wait (s : Semaphore) (task : Nat) : Semaphore := { s with waiting := s.waiting ++ [task] }

/-- `_wake_up_next`. -/
def wakeNext (s : Semaphore) : Semaphore :=
  match s.waiting with
  | [] => s
  | task :: rest => ⟨s.value - 1, rest, s.granted ++ [task]⟩

def release (s : Semaphore) : Semaphore := wakeNext { s with value := s.value + 1 }

/-- `acquire`, from the wakeup on. -/
def resume (s : Semaphore) (task : Nat) : Semaphore :=
  let s := { s with granted := s.granted.erase task }
  if 0 < s.value then s.wakeNext else s

/-- A task that waits is cancelled: nobody wakes it any more. -/
def cancel (s : Semaphore) (task : Nat) : Semaphore :=
  { s with waiting := s.waiting.erase task }

/-- A cancelled task runs, and brings back the permit it was granted, if it was. -/
def giveUp (s : Semaphore) (task : Nat) : Semaphore :=
  if task ∈ s.granted then release { s with granted := s.granted.erase task } else s

/-- The permits that no task runs with. -/
def permits (s : Semaphore) : Nat := s.value + s.granted.length

theorem permits_take {s : Semaphore} (h : s.locked = false) : s.take.permits + 1 = s.permits := by
  have hvalue : s.value ≠ 0 := by
    intro hzero
    simp [locked, hzero] at h
  unfold permits take
  dsimp only
  omega

theorem permits_wakeNext {s : Semaphore} (h : 0 < s.value) : s.wakeNext.permits = s.permits := by
  unfold permits wakeNext
  split
  · rfl
  · simp only [List.length_append, List.length_singleton]
    omega

/-- A released permit is free or granted. -/
@[simp] theorem permits_release (s : Semaphore) : s.release.permits = s.permits + 1 := by
  unfold release
  rw [permits_wakeNext (Nat.succ_pos s.value)]
  unfold permits
  dsimp only
  omega

theorem length_erase_granted {s : Semaphore} {task : Nat} (h : task ∈ s.granted) :
    (s.granted.erase task).length + 1 = s.granted.length := by
  have hpos := List.length_pos_of_mem h
  rw [List.length_erase_of_mem h]
  omega

/-- Who resumes runs with the permit it was granted. -/
theorem permits_resume {s : Semaphore} {task : Nat} (h : task ∈ s.granted) :
    (s.resume task).permits + 1 = s.permits := by
  have hlength := length_erase_granted h
  have hfewer : permits { s with granted := s.granted.erase task } + 1 = s.permits := by
    unfold permits
    dsimp only
    omega
  unfold resume
  dsimp only
  split
  · rename_i hpos
    rw [permits_wakeNext (s := { s with granted := s.granted.erase task }) hpos]
    exact hfewer
  · exact hfewer

/-- Who gives up loses no permit. -/
@[simp] theorem permits_giveUp (s : Semaphore) (task : Nat) :
    (s.giveUp task).permits = s.permits := by
  unfold giveUp
  split
  · rename_i h
    have hlength := length_erase_granted h
    rw [permits_release]
    unfold permits
    dsimp only
    omega
  · rfl

end Semaphore
