/-
**Asking surfaces.**

The guest asks for the descriptor of a surface or a part of it, for the back buffer, and for states
that here are always the same: surfaces are never lost and copies are finished when the call
returns.
-/

import GuestDraw.Interface.Descriptor
import GuestDraw.Session

namespace GuestDraw.Engine

/-- Copies the descriptor of a surface to `out`, whose size field has to be right. -/
def getSurfaceDesc (this out : Nat) : Engine Unit := do
  let entry := SurfaceMethod.getSurfaceDesc.name
  let surface ← surfaceAt (← resolveSurface entry this)
  if out = 0 then
    throw (.invalidParams entry)
  let size ← readDword out
  if size.toNat ≠ surface.descriptorSize then
    throw (.invalidParams entry)
  move surface.descriptor out surface.descriptorSize

/-- Copies the capabilities of a surface to `out`, as many dwords as its generation has. -/
def getCaps (this out : Nat) : Engine Unit := do
  let entry := SurfaceMethod.getCaps.name
  let surface ← surfaceAt (← resolveSurface entry this)
  if out = 0 then
    throw (.nullPointer entry)
  let size := if surface.flags.contains SurfaceFlags.wideCaps then Descriptor.wideCapsSize else 4
  move (surface.descriptor + Descriptor.capsOffset) out size

/-- Copies the pixel format of a surface to `out`, whose size field has to be right. -/
def getPixelFormat (this out : Nat) : Engine Unit := do
  let entry := SurfaceMethod.getPixelFormat.name
  let surface ← surfaceAt (← resolveSurface entry this)
  if out = 0 then
    throw (.nullPointer entry)
  let size ← readDword out
  if size.toNat ≠ FormatRecord.size then
    throw (.invalidParams entry)
  move (surface.descriptor + Descriptor.formatOffset) out FormatRecord.size

/-- Stores the back buffer of a surface at `out`, with a reference. The capabilities at `caps` have
to ask for it. -/
def getAttachedSurface (this caps out : Nat) : Engine Nat := do
  let entry := SurfaceMethod.getAttachedSurface.name
  let surface ← surfaceAt (← resolveSurface entry this)
  if caps = 0 ∨ out = 0 then
    throw (.nullPointer entry)
  let wanted : SurfaceCaps := ⟨← readDword caps⟩
  if !wanted.contains SurfaceCaps.backBuffer then
    throw (.unsupported entry (.attachedLookup wanted))
  let some child := surface.backBuffer
    | throw (.failed entry .notFound)
  let _ ← addReference child
  let object := (← surfaceAt child).object
  writeDword out (UInt32.ofNat object)
  return object

/-- Takes a reference to a surface. -/
def surfaceAddReference (this : Nat) : Engine Nat := do
  addReference (← resolveSurface SurfaceMethod.addRef.name this)

/-- Gives a reference to a surface back. -/
def surfaceRelease (this : Nat) : Engine Nat := do
  release (← resolveSurface SurfaceMethod.release.name this)

/-- The memory of a surface is never taken away. -/
def restore (this : Nat) : Engine Unit :=
  discard (resolveSurface SurfaceMethod.restore.name this)

/-- A surface is never lost. -/
def isLost (this : Nat) : Engine Unit :=
  discard (resolveSurface SurfaceMethod.isLost.name this)

/-- Copies are finished when they return. -/
def getBltStatus (this : Nat) : Engine Unit :=
  discard (resolveSurface SurfaceMethod.getBltStatus.name this)

/-- Flips are finished when they return. -/
def getFlipStatus (this : Nat) : Engine Unit :=
  discard (resolveSurface SurfaceMethod.getFlipStatus.name this)

/-- Surfaces are complete once they exist. -/
def surfaceSetUp (this : Nat) : Engine Unit := do
  let entry := SurfaceMethod.setUp.name
  discard (resolveSurface entry this)
  throw (.failed entry .alreadyInitialized)

end GuestDraw.Engine
