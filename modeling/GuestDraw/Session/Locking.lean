/-
**Locking surfaces.**

The guest may touch the pixels of a surface while it is locked. A surface is locked directly, which
hands out the address of the pixels in a copy of the descriptor, or through a device context, which
the surface keeps for its whole life. The cache is settled first, and a locked surface gets none.
-/

import GuestDraw.Interface.Descriptor
import GuestDraw.Session.Contents

namespace GuestDraw.Engine

/-- Marks a surface as locked or as not locked. -/
def setLocked (handle : Handle) (locked : Bool) : Engine Unit :=
  updateSurface handle fun surface => { surface with locked := locked }

/-- Locks a surface and fills the descriptor at `out`, whose size field has to be right. The place
of the address of the pixels is a sum that nobody checks, so it wraps around. -/
def lock (this out : Nat) (flags : LockFlags) : Engine Unit := do
  let entry := SurfaceMethod.lock.name
  let handle ← resolveSurface entry this
  let unsupported := flags ∩ LockFlags.unsupported
  if !unsupported.isEmpty then
    throw (.unsupported entry (.lockFlags unsupported))
  if out = 0 then
    throw (.nullPointer entry)
  let surface ← surfaceAt handle
  let size ← readDword out
  if size.toNat ≠ surface.descriptorSize then
    throw (.invalidParams entry)
  move surface.descriptor out surface.descriptorSize
  writeDword (wrapped (out + Descriptor.pixelsOffset)) (UInt32.ofNat surface.memory)
  settle handle
  setLocked handle true

/-- Ends the lock of a surface. -/
def unlock (this : Nat) : Engine Unit := do
  let handle ← resolveSurface SurfaceMethod.unlock.name this
  setLocked handle false

/-- The device context of a surface, which is made at the first use. -/
def contextOf (handle : Handle) : Engine Handle := do
  match (← surfaceAt handle).deviceContext with
  | some context => return context
  | none =>
    let context ← create (.deviceContext ⟨some handle⟩)
    updateSurface handle fun surface => { surface with deviceContext := some context }
    return context

/-- Locks a surface and stores a reference to its device context at `out`. -/
def getDC (this out : Nat) : Engine Handle := do
  let entry := SurfaceMethod.getDC.name
  let handle ← resolveSurface entry this
  if out = 0 then
    throw (.invalidParams entry)
  let context ← contextOf handle
  let _ ← addReference context
  writeDword out context.dword
  settle handle
  setLocked handle true
  return context

/-- Gives the device context of a surface back and ends the lock. The reference of the surface
itself stays. -/
def releaseDC (this context : Nat) : Engine Unit := do
  let entry := SurfaceMethod.releaseDC.name
  let handle ← resolveSurface entry this
  let surface ← surfaceAt handle
  if context = 0 ∨ surface.deviceContext ≠ some ⟨context⟩ then
    throw (.invalidParams entry)
  match (← get).objects.find? ⟨context⟩ with
  | some object =>
    if object.references > 1 then
      let _ ← release ⟨context⟩
  | none => pure ()
  setLocked handle false

end GuestDraw.Engine
