/-
**Stubs.**

A stub is an address in guest code at which the host takes over. Stubs are cut off a range one after
the other, each with room for the trap and a return, and are known by name.
-/

import GuestDraw.Memory.Heap

namespace GuestDraw

/-- Why no stub could be handed out. -/
inductive StubError where
  /-- The range has no room for the stub `name`. -/
  | exhausted (name : String)
  deriving DecidableEq

/-- The wording of a stub failure. -/
def StubError.message : StubError → String
  | exhausted name => s!"no room left for host stub {name}"

/-- The stubs handed out so far, newest first; `next` is where the next one starts. -/
structure StubTable where
  next : Nat
  limit : Nat
  stubs : List (Nat × String)

namespace StubTable

/-- The bytes of one stub. -/
def slot : Nat := 8

/-- A table without stubs over `size` bytes from `base` on. -/
def ofRange (base size : Nat) : StubTable := ⟨base, rangeLimit base size, []⟩

/-- The name of the stub at an address. -/
def name? (table : StubTable) (address : Nat) : Option String := table.stubs.lookup address

/-- Hands out a stub. -/
def register (table : StubTable) (name : String) : Except StubError (Nat × StubTable) :=
  if table.next + slot < addressSpace ∧ table.next + slot ≤ table.limit then
    .ok (table.next,
      { table with next := table.next + slot, stubs := (table.next, name) :: table.stubs })
  else .error (.exhausted name)

end StubTable

end GuestDraw
