/-
**The video aperture.**

The aperture is the range through which the frame buffer is seen. It is mapped in pages; giving
back the last mapping frees its space, an older hole stays unused. The live mappings are kept with
their lengths.
-/

import GuestDraw.Memory.Heap

namespace GuestDraw

/-- Mappings between `base` and `limit`; `next` is where the next one starts. Each entry of
`mappings` is the address and the length of a live mapping. -/
structure Aperture where
  base : Nat
  limit : Nat
  next : Nat
  mappings : List (Nat × Nat)

namespace Aperture

/-- Mappings have whole pages of this size. -/
def page : Nat := 4096

/-- What failures call the aperture. -/
def region : String := "video memory"

/-- An aperture of `size` bytes from `base` on without mappings. -/
def ofRange (base size : Nat) : Aperture := ⟨base, rangeLimit base size, base, []⟩

/-- The length of the live mapping at `address`. -/
def length? (aperture : Aperture) (address : Nat) : Option Nat :=
  aperture.mappings.lookup address

/-- Maps at least `size` bytes. -/
def map (aperture : Aperture) (size : Nat) : Except MemoryError (Nat × Aperture) :=
  match blockEnd? aperture.next size page aperture.limit with
  | some stop =>
    .ok (aperture.next,
      { aperture with
        next := stop
        mappings := (aperture.next, stop - aperture.next) :: aperture.mappings })
  | none => .error (.exhausted region size (aperture.limit - aperture.next))

/-- Gives back the mapping at `address`; the space of the last one can be mapped again. -/
def unmap (aperture : Aperture) (address : Nat) : Except MemoryError Aperture :=
  match aperture.length? address with
  | some length =>
    .ok { aperture with
      next := if address + length = aperture.next then address else aperture.next
      mappings := aperture.mappings.filter (·.1 ≠ address) }
  | none => .error (.unknownAllocation region address)

end Aperture

end GuestDraw
