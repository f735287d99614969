import Mathlib.Data.List.Basic

/- A lock on a one-thread loop (`asyncio.Lock`). Whoever finds it free, with nobody waiting, goes on
   at once; the others wait in line. `release` wakes the first, who takes the lock when it runs.
   Tasks are named by numbers.

   A body that does not suspend finds the lock free and leaves it free: from outside, the first in
   line has had its turn (`handOn`). Only a body that suspends is seen to hold the lock (`hold`). -/

/-- Whether it is held, the tasks in line, and whether the first of them has been woken. -/
structure Lock where
  locked : Bool
  waiters : List Nat
  woken : Bool
  deriving DecidableEq, Repr

namespace Lock

def new : Lock := ⟨false, [], false⟩

/-- `acquire` does not wait. -/
def free (l : Lock) : Bool := !l.locked && l.waiters.isEmpty

def wait (l : Lock) (task : Nat) : Lock := { l with waiters := l.waiters ++ [task] }

/-- The task is first in line, and has been woken. -/
def hasTurn (l : Lock) (task : Nat) : Bool := l.woken && l.waiters.head? == some task

/-- The first in line runs a body that does not suspend, or gives up. -/
def handOn (l : Lock) : Lock := ⟨false, l.waiters.tail, !l.waiters.tail.isEmpty⟩

/-- Whoever has its turn suspends, and has woken nobody yet. -/
def hold (l : Lock) : Lock := ⟨true, l.waiters, false⟩

def release (l : Lock) : Lock := ⟨false, l.waiters, !l.waiters.isEmpty⟩

/-- A task in line is cancelled. One that has been woken keeps its place until it runs. -/
def cancel (l : Lock) (task : Nat) : Lock :=
  if l.hasTurn task then l else { l with waiters := l.waiters.erase task }

/-- A cancelled task runs. -/
def giveUp (l : Lock) (task : Nat) : Lock := if l.hasTurn task then l.handOn else l

end Lock
