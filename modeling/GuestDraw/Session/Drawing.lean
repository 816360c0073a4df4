/-
**Drawing and showing.**

Pixels are copied from one surface to another, and a surface with a back buffer is flipped by
showing the back buffer. A visible surface is shown again after it was drawn on.
-/

import GuestDraw.Session.Contents

namespace GuestDraw.Engine

/-- Copies the rectangle at `region`, or everything if that is null, of the surface `source` so
that its upper left corner comes to `x` and `y`. -/
def bltFast (this : Nat) (x y : Int32) (source region : Nat) (flags : BltFastFlags) :
    Engine Unit := do
  let entry := SurfaceMethod.bltFast.name
  let target ← resolveSurface entry this
  if source = 0 then
    throw (.invalidParams entry)
  let origin ← resolveSurface entry source
  if flags.meets (BltFastFlags.sourceColourKey ∪ BltFastFlags.targetColourKey) then
    throw (.notImplemented (entry ++ " with colour keys"))
  let image ← picture origin
  let rect ← if region = 0 then pure image.bounds else Rect.read (← get).memory region
  drawOn target fun raster => raster.blit image rect x y
  presentIfVisible target

/-- Shows the surface `target`, or if that is null the back buffer, or if there is none the
surface itself. -/
def flip (this target : Nat) : Engine Unit := do
  let entry := SurfaceMethod.flip.name
  let front ← resolveSurface entry this
  let shown ←
    if target ≠ 0 then resolveSurface entry target
    else pure ((← surfaceAt front).backBuffer.getD front)
  present (← picture shown)

end GuestDraw.Engine
