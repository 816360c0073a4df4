/-
**The contents of surfaces.**

The pixels of a surface lie in guest memory, where the guest may write them while the surface is
locked. While it is unlocked the engine keeps them decoded, in a cached raster that belongs to the
surface. Drawing goes to the cache and marks it dirty; before the guest may look at the memory, the
cache is written back and dropped (`settle`).
-/

import GuestDraw.Pixel.Conversion
import GuestDraw.Session

namespace GuestDraw

/-- The pixels of a surface as guest memory has them, in the colours of its palette. -/
def Session.decodeSurface (session : Session) (surface : Surface) : Except PixelError Raster :=
  Conversion.decode session.memory surface.buffer
    ((surface.palette.bind session.objects.palette?).map (·.entries))

namespace Engine

/-- The pixels of a surface as guest memory has them. -/
def decodeSurface (handle : Handle) : Engine Raster := do
  let surface ← surfaceAt handle
  (← get).decodeSurface surface

/-- Writes a raster to the pixels of a surface. -/
def storePixels (surface : Surface) (raster : Raster) : Engine Unit := do
  let data ← Conversion.encoded (← get).memory raster surface.buffer
  write surface.memory data

/-- The cache of a surface. If there is none it is made, provided it is asked for and the surface
is not locked. -/
def cacheOf (handle : Handle) (make : Bool) : Engine (Option Handle) := do
  let surface ← surfaceAt handle
  if surface.cache.isSome then
    return surface.cache
  if !make ∨ surface.locked then
    return none
  let raster ← decodeSurface handle
  let cache ← create (.cachedRaster ⟨handle, raster, false⟩)
  updateSurface handle fun surface => { surface with cache := some cache }
  return some cache

/-- Drops the cache of a surface with all that was drawn on it. -/
def dropCache (handle : Handle) : Engine Unit := do
  let surface ← surfaceAt handle
  match surface.cache with
  | none => pure ()
  | some cache =>
    updateSurface handle fun surface => { surface with cache := none }
    close cache

/-- Writes what was drawn on the cache of a surface to guest memory. -/
def writeBack (handle : Handle) : Engine Unit := do
  let surface ← surfaceAt handle
  match surface.cache with
  | none => pure ()
  | some cache =>
    let cached ← cachedAt cache
    if cached.dirty then
      storePixels surface cached.raster
      setPayload cache (.cachedRaster { cached with dirty := false })

/-- Takes the cache away without losing what was drawn. -/
def settle (handle : Handle) : Engine Unit := do
  writeBack handle
  dropCache handle

/-- What a surface shows. -/
def picture (handle : Handle) : Engine Raster := do
  match ← cacheOf handle true with
  | some cache =>
    match (← get).objects.cachedRaster? cache with
    | some cached => return cached.raster
    | none => decodeSurface handle
  | none => decodeSurface handle

/-- Draws on a surface: on its cache, or, while it is locked, straight on guest memory. -/
def drawOn (handle : Handle) (draw : Raster → Raster) : Engine Unit := do
  match ← cacheOf handle true with
  | some cache =>
    let cached ← cachedAt cache
    setPayload cache (.cachedRaster { cached with raster := draw cached.raster, dirty := true })
  | none =>
    let surface ← surfaceAt handle
    let raster ← decodeSurface handle
    storePixels surface (draw raster)

/-- Shows a surface if it is a visible one. -/
def presentIfVisible (handle : Handle) : Engine Unit := do
  if (← surfaceAt handle).caps.contains SurfaceCaps.visible then
    present (← picture handle)

end Engine

end GuestDraw
