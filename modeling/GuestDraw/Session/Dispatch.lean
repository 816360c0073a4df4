/-
**Calls from guest code.**

Guest code calls a method through its stub, with dwords as arguments, and finds the answer in a
register: a count for the methods that count references, a status otherwise. A failure that has a
status becomes that status; only fatal failures stay failures.
-/

import GuestDraw.Session.Drawing
import GuestDraw.Session.Locking
import GuestDraw.Session.Palettes
import GuestDraw.Session.Queries

namespace GuestDraw.Engine

/-- The answer of a call that has nothing else to tell. -/
def succeed (call : Engine Unit) : Engine UInt32 := do
  call
  return Status.ok.word

/-- The answer of a call that counts references. -/
def counting (call : Engine Nat) : Engine UInt32 := do
  return UInt32.ofNat (← call)

/-- Runs a method of surfaces with its dwords. -/
def runSurface (method : SurfaceMethod) (words : List UInt32) : Engine UInt32 :=
  let word (index : Nat) : UInt32 := words.getD index 0
  let pointer (index : Nat) : Nat := (word index).toNat
  match method with
  | .addRef => counting (surfaceAddReference (pointer 0))
  | .release => counting (surfaceRelease (pointer 0))
  | .bltFast =>
    succeed (bltFast (pointer 0) (word 1).toInt32 (word 2).toInt32 (pointer 3) (pointer 4)
      ⟨word 5⟩)
  | .flip => succeed (flip (pointer 0) (pointer 1))
  | .getAttachedSurface =>
    succeed (discard (getAttachedSurface (pointer 0) (pointer 1) (pointer 2)))
  | .getBltStatus => succeed (getBltStatus (pointer 0))
  | .getCaps => succeed (getCaps (pointer 0) (pointer 1))
  | .getDC => succeed (discard (getDC (pointer 0) (pointer 1)))
  | .getFlipStatus => succeed (getFlipStatus (pointer 0))
  | .getPalette => succeed (discard (getPalette (pointer 0) (pointer 1)))
  | .getPixelFormat => succeed (getPixelFormat (pointer 0) (pointer 1))
  | .getSurfaceDesc => succeed (getSurfaceDesc (pointer 0) (pointer 1))
  | .setUp => succeed (surfaceSetUp (pointer 0))
  | .isLost => succeed (isLost (pointer 0))
  | .lock => succeed (lock (pointer 0) (pointer 2) ⟨word 3⟩)
  | .releaseDC => succeed (releaseDC (pointer 0) (pointer 1))
  | .restore => succeed (restore (pointer 0))
  | .setPalette => succeed (setPalette (pointer 0) (pointer 1))
  | .unlock => succeed (unlock (pointer 0))
  | .queryInterface | .addAttachedSurface | .addOverlayDirtyRect | .blt | .bltBatch
  | .deleteAttachedSurface | .enumAttachedSurfaces | .enumOverlayZOrders | .getClipper
  | .getColorKey | .getOverlayPosition | .setClipper | .setColorKey | .setOverlayPosition
  | .updateOverlay | .updateOverlayDisplay | .updateOverlayZOrder =>
    throw (.notImplemented method.name)

/-- Runs a method of palettes with its dwords. -/
def runPalette (method : PaletteMethod) (words : List UInt32) : Engine UInt32 :=
  let pointer (index : Nat) : Nat := (words.getD index 0).toNat
  match method with
  | .addRef => counting (paletteAddReference (pointer 0))
  | .release => counting (paletteRelease (pointer 0))
  | .getCaps => succeed (paletteGetCaps (pointer 0) (pointer 1))
  | .getEntries =>
    succeed (paletteGetEntries (pointer 0) (pointer 2) (pointer 3) (pointer 4))
  | .setUp => succeed (paletteSetUp (pointer 0))
  | .setEntries =>
    succeed (paletteSetEntries (pointer 0) (pointer 2) (pointer 3) (pointer 4))
  | .queryInterface => throw (.notImplemented method.name)

/-- Runs a method, provided it gets as many dwords as it takes. -/
def runMethod (method : Method) (words : List UInt32) : Engine UInt32 := do
  if words.length ≠ method.arity then
    throw (.unsupported method.name (.argumentCount words.length method.arity))
  match method with
  | .surface method => runSurface method words
  | .palette method => runPalette method words

/-- What the guest gets from a method. -/
def dispatch (method : Method) (words : List UInt32) : Engine UInt32 := do
  try
    runMethod method words
  catch failure =>
    match failure.disposition with
    | .status status => return status.word
    | .fatal => throw failure

/-- What the guest gets from the method at a stub. -/
def callStub (stub : Nat) (words : List UInt32) : Engine UInt32 := do
  match (← get).methodAt? stub with
  | some method => dispatch method words
  | none => throw (.unsupported "vtable dispatch" (.unknownStub stub))

end GuestDraw.Engine
