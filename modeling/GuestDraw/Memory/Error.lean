/-
**Failures of guest memory.**

An access leaves the window, an allocator runs out of its range, or an address is handed back that
was never handed out.
-/

import GuestDraw.Text.Hex

namespace GuestDraw

/-- The number of addresses of the guest. An address is a natural number below it, so that ranges
are compared before anything is narrowed to a machine word. -/
def addressSpace : Nat := 0x100000000

/-- The address that a sum of 32 bits comes to: beyond the last address it starts again at zero. -/
def wrapped (sum : Nat) : Nat := sum % addressSpace

theorem wrapped_of_lt {sum : Nat} (below : sum < addressSpace) : wrapped sum = sum :=
  Nat.mod_eq_of_lt below

/-- Why guest memory refused. -/
inductive MemoryError where
  /-- The bytes from `address` on, `length` of them, are not all backed by memory. -/
  | outOfRange (address : Nat) (length : Nat)
  /-- The range of an allocator has no room for `requested` more bytes. -/
  | exhausted (region : String) (requested available : Nat)
  /-- No live allocation of the range starts at `address`. -/
  | unknownAllocation (region : String) (address : Nat)
  deriving DecidableEq

/-- The wording of a memory failure. -/
def MemoryError.message : MemoryError → String
  | .outOfRange address length =>
    s!"guest memory access out of range: addr={Hex.address address} len={length}"
  | .exhausted region requested available =>
    s!"{region} exhausted: requested {requested} bytes, {available} available"
  | .unknownAllocation region address =>
    s!"{region}: {Hex.address address} is not a live allocation"

end GuestDraw
