/-
**Failures of pixel conversion.**
-/

import GuestDraw.Memory.Error

namespace GuestDraw

/-- Why pixels could not be converted. -/
inductive PixelError where
  /-- No format has this depth. -/
  | unsupportedDepth (depth : Nat)
  /-- The conversion is missing. -/
  | notImplemented (feature : String)
  /-- Indices cannot be read without a palette. -/
  | missingPalette (depth : Nat)
  | paletteTooLarge (count : Nat)
  /-- The raster has another size than the buffer. -/
  | sizeMismatch (width height actualWidth actualHeight : Nat)
  /-- The scanlines do not fit the address space. -/
  | tooLarge (width height depth : Nat)
  | memory (cause : MemoryError)
  deriving DecidableEq

namespace PixelError

/-- The wording of a pixel failure. -/
def message : PixelError → String
  | unsupportedDepth depth => s!"unsupported pixel depth: {depth} bits per pixel"
  | notImplemented feature => s!"{feature} is not implemented yet"
  | missingPalette depth => s!"{depth}-bit pixels require a palette"
  | paletteTooLarge count => s!"palette has {count} entries (at most 256 are allowed)"
  | sizeMismatch width height actualWidth actualHeight =>
    s!"raster is {actualWidth}x{actualHeight} but {width}x{height} was requested"
  | tooLarge width height depth =>
    s!"pixel buffer dimensions {width}x{height} at {depth} bpp overflow the address space"
  | memory cause => cause.message

/-- The pixels have a layout without any format, as opposed to a bad argument. -/
def isFatal : PixelError → Bool
  | unsupportedDepth _ => true
  | _ => false

end PixelError

end GuestDraw
