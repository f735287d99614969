import Mathlib.Data.List.Basic

/- An event on a one-thread loop (`asyncio.Event`). A task that waits while the flag
   is clear is parked; setting the flag wakes every parked task, and a woken task
   runs later even if the flag is cleared first. Tasks are named by numbers. -/

/-- The flag, the tasks waiting for it, and those woken that have not run yet. Only
a clear event has tasks waiting. -/
structure Event where
  flag : Bool
  parked : List Nat
  woken : List Nat
  parked_clear : parked ≠ [] → flag = false
  deriving DecidableEq, Repr

namespace Event

def new : Event := ⟨false, [], [], fun _ => rfl⟩

def set (e : Event) : Event := ⟨true, [], e.woken ++ e.parked, fun h => absurd rfl h⟩

def clear (e : Event) : Event := ⟨false, e.parked, e.woken, fun _ => rfl⟩

/-- Wait: the task parks while the flag is clear. -/
def wait (e : Event) (task : Nat) : Event :=
  if h : e.flag = false then ⟨e.flag, e.parked ++ [task], e.woken, fun _ => h⟩ else e

/-- Clear the flag and wait: the task parks. -/
def clearAndWait (e : Event) (task : Nat) : Event :=
  ⟨false, e.parked ++ [task], e.woken, fun _ => rfl⟩

/-- A woken task runs. -/
def resume (e : Event) (task : Nat) : Event :=
  ⟨e.flag, e.parked, e.woken.erase task, e.parked_clear⟩

/-- A task stops waiting, woken or not. -/
def giveUp (e : Event) (task : Nat) : Event :=
  ⟨e.flag, e.parked.erase task, e.woken.erase task, fun h =>
    e.parked_clear (fun hnil => h (by rw [hnil]; rfl))⟩

@[simp] theorem set_flag (e : Event) : e.set.flag = true := rfl
@[simp] theorem set_parked (e : Event) : e.set.parked = [] := rfl
@[simp] theorem set_woken (e : Event) : e.set.woken = e.woken ++ e.parked := rfl
@[simp] theorem resume_parked (e : Event) (task : Nat) : (e.resume task).parked = e.parked := rfl
@[simp] theorem resume_woken (e : Event) (task : Nat) :
    (e.resume task).woken = e.woken.erase task := rfl
@[simp] theorem clearAndWait_parked (e : Event) (task : Nat) :
    (e.clearAndWait task).parked = e.parked ++ [task] := rfl
@[simp] theorem clearAndWait_woken (e : Event) (task : Nat) :
    (e.clearAndWait task).woken = e.woken := rfl
@[simp] theorem giveUp_parked (e : Event) (task : Nat) :
    (e.giveUp task).parked = e.parked.erase task := rfl
@[simp] theorem giveUp_woken (e : Event) (task : Nat) :
    (e.giveUp task).woken = e.woken.erase task := rfl

/-- One task waits on an event that nobody else waits on, and goes on when it is set. -/
theorem wait_set_resume (task : Nat) :
    ((new.set.clear.wait task).set).resume task = new.set := by
  simp [new, set, clear, wait, resume]

/-- A second set finds nobody waiting. -/
theorem set_set (e : Event) : e.set.set = e.set := by simp [set]

end Event
