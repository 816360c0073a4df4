/-
**Events and mutexes.**

An event is a flag that threads wait for; unless it is reset by hand, it satisfies one wait only. A
mutex belongs to at most one thread, which may acquire it again and has to release it as often; it
counts that in a dword.
-/

namespace GuestDraw

/-- A flag to wait for. -/
structure Event where
  manualReset : Bool
  signaled : Bool
  deriving DecidableEq

namespace Event

/-- Raises the flag. -/
def set (event : Event) : Event := { event with signaled := true }

/-- Lowers the flag. -/
def reset (event : Event) : Event := { event with signaled := false }

/-- Whether a wait is satisfied, and the event afterwards. -/
def tryWait (event : Event) : Bool × Event :=
  (event.signaled, if event.manualReset then event else event.reset)

end Event

/-- A lock with its owner and the number of times that the owner holds it. -/
structure Mutex where
  owner : Option Nat
  recursion : UInt32
  deriving DecidableEq

namespace Mutex

/-- A mutex without an owner. -/
def free : Mutex := ⟨none, 0⟩

/-- Acquires for `thread` unless another thread owns the mutex. -/
def tryAcquire (mutex : Mutex) (thread : Nat) : Bool × Mutex :=
  if mutex.owner = none ∨ mutex.owner = some thread then
    (true, ⟨some thread, mutex.recursion + 1⟩)
  else (false, mutex)

/-- Undoes one acquisition of `thread`, if it owns the mutex. -/
def release (mutex : Mutex) (thread : Nat) : Bool × Mutex :=
  if mutex.owner = some thread then
    let left := mutex.recursion - 1
    (true, ⟨if left = 0 then none else mutex.owner, left⟩)
  else (false, mutex)

end Mutex

end GuestDraw
