/-
**Pixel buffers.**

A pixel buffer is an image in guest memory. Its scanlines are stored from the bottom row up, each
padded to whole dwords; the distance from one to the next is the pitch. A pixel takes the whole
bytes that its depth needs.
-/

import GuestDraw.Pixel.Error
import GuestDraw.Pixel.Format

namespace GuestDraw

/-- The bytes of one pixel. -/
def bytesPerPixel (depth : Nat) : Nat := (depth + 7) / 8

/-- The bytes of one scanline, rounded up to dwords. -/
def exactPitch (width depth : Nat) : Nat := (width * bytesPerPixel depth + 3) / 4 * 4

/-- The pitch as a dword: a scanline that is too long counts as the longest one there is. -/
def pitch (width depth : Nat) : Nat :=
  if exactPitch width depth < addressSpace then exactPitch width depth else addressSpace - 4

/-- Scanlines of `width` pixels, `height` of them, from `address` on. -/
structure PixelBuffer where
  address : Nat
  depth : Nat
  width : Nat
  height : Nat
  deriving DecidableEq

namespace PixelBuffer

/-- The distance of two scanlines. -/
def stride (buffer : PixelBuffer) : Nat := pitch buffer.width buffer.depth

/-- The format of the pixels. -/
def format (buffer : PixelBuffer) : Except PixelError Format :=
  match Format.ofDepth? buffer.depth with
  | some format => .ok format
  | none => .error (.unsupportedDepth buffer.depth)

/-- The bytes of all scanlines. -/
def length (buffer : PixelBuffer) : Except PixelError Nat :=
  let line := exactPitch buffer.width buffer.depth
  if line < addressSpace ∧ line * buffer.height < addressSpace then .ok (line * buffer.height)
  else .error (.tooLarge buffer.width buffer.height buffer.depth)

/-- Where the pixel in a column and a row, counted from the top, is stored. -/
def pixelAddress (buffer : PixelBuffer) (column row : Nat) : Nat :=
  buffer.address + (buffer.height - 1 - row) * buffer.stride + column * bytesPerPixel buffer.depth

end PixelBuffer

end GuestDraw
