/-
**Any store of bytes.**

A `ByteStore` can read and write blocks and nothing else. Filling and moving are then derived: a
fill writes one chunk after the other, a move reads the whole source before it writes. A write may
change the store even if it fails, so both run in a state monad that keeps the store on failure. A
move reads into a buffer, which it makes first; where there is no such buffer the program ends
(`move?`).

A window of guest memory is one such store; there the derived fill differs from `Memory.fill` in
what a range that is backed only in part leaves behind, and in accepting a length of zero anywhere.
-/

import GuestDraw.Memory

namespace GuestDraw

/-- Blocks of bytes can be read from and written to a state of type `σ`. -/
class ByteStore (σ : Type) where
  read : σ → (address length : Nat) → Except MemoryError (List UInt8)
  write : (address : Nat) → List UInt8 → EStateM MemoryError σ Unit

instance : ByteStore Memory where
  read := Memory.read
  write address data := fun memory =>
    match memory.check address data.length with
    | .ok _ => .ok () (memory.put address data)
    | .error failure => .error failure memory

namespace ByteStore

variable {σ : Type} [ByteStore σ]

/-- The most bytes that a fill writes at once. -/
def chunk : Nat := 4096

/-- Writes `value` to the bytes of the range that come after the first `done` ones. -/
def fillFrom (address length : Nat) (value : UInt8) (done : Nat) : EStateM MemoryError σ Unit :=
  if done < length then do
    let size := min chunk (length - done)
    if address + done < addressSpace then
      write (address + done) (List.replicate size value)
    else
      throw (.outOfRange address length)
    fillFrom address length value (done + size)
  else
    pure ()
termination_by length - done
decreasing_by simp only [chunk]; omega

/-- Sets `length` bytes from `address` on to `value`, chunk by chunk. -/
def fill (address length : Nat) (value : UInt8) : EStateM MemoryError σ Unit :=
  fillFrom address length value 0

/-- Copies `length` bytes from `source` to `target` through a buffer that is there; the ranges may
overlap. -/
def move (source target length : Nat) : EStateM MemoryError σ Unit := fun store =>
  match read store source length with
  | .ok data => write target data store
  | .error failure => .error failure store

/-- The most bytes that a buffer can have. -/
def longestBuffer : Nat := 0x7FFFFFFFFFFFFFFF

/-- Makes a buffer and copies `length` bytes from `source` to `target` through it. Before anything
is looked at the program ends if no buffer is that long. -/
def move? (source target length : Nat) (store : σ) : Option (EStateM.Result MemoryError σ Unit) :=
  if length ≤ longestBuffer then some (move source target length store) else none

end ByteStore

end GuestDraw
