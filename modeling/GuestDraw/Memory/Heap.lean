/-
**The process heap.**

Blocks are cut off a range of the address space one after the other and never given back. A block
has at least one byte, and the next one starts at a multiple of sixteen. `reserve` decides where a
block lies; `allocate` also clears it, and the heap advances only after that succeeded.
-/

import GuestDraw.Memory

namespace GuestDraw

/-- The least multiple of `unit` that is not below `address`. -/
def alignUp (address unit : Nat) : Nat := (address + (unit - 1)) / unit * unit

/-- The end of a block of `size` bytes at `start`, rounded up to a multiple of `unit`. There is
none when the block has no room below `limit` or the rounding leaves the address space. -/
def blockEnd? (start size unit limit : Nat) : Option Nat :=
  let stop := start + max size 1
  if stop + (unit - 1) < addressSpace ∧ alignUp stop unit ≤ limit then some (alignUp stop unit)
  else none

/-- The end of a range of `size` bytes at `base`, cut off at the last address. -/
def rangeLimit (base size : Nat) : Nat := min (base + size) (addressSpace - 1)

/-- A heap whose blocks lie between `base` and `limit`; `next` is where the next one starts. -/
structure Heap where
  base : Nat
  limit : Nat
  next : Nat

namespace Heap

/-- Every block but the first starts at a multiple of this. -/
def alignment : Nat := 16

/-- What failures call the heap. -/
def region : String := "process heap"

/-- An empty heap over `size` bytes from `base` on. -/
def ofRange (base size : Nat) : Heap := ⟨base, rangeLimit base size, base⟩

/-- The bytes handed out so far, padding included. -/
def used (heap : Heap) : Nat := heap.next - heap.base

/-- Cuts off the next block of `size` bytes. -/
def reserve (heap : Heap) (size : Nat) : Except MemoryError (Nat × Heap) :=
  match blockEnd? heap.next size alignment heap.limit with
  | some stop => .ok (heap.next, { heap with next := stop })
  | none => .error (.exhausted region size (heap.limit - heap.next))

/-- Cuts off the next block of `size` bytes and, if `cleared`, sets it to zero. -/
def allocate (heap : Heap) (memory : Memory) (size : Nat) (cleared : Bool) :
    Except MemoryError (Nat × Heap × Memory) := do
  let (address, advanced) ← heap.reserve size
  let memory ← if cleared then memory.fill address size 0 else pure memory
  return (address, advanced, memory)

end Heap

end GuestDraw
