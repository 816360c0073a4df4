/-
**Between pixel buffers and rasters.**

`decode` reads a pixel buffer into a raster, `encode` writes a raster into a buffer with direct
colours. Both look at depth, palette or size, length and memory in this order, and the first one
that is wrong is the error. Writing keeps the padding of the scanlines. `copy` reads one buffer and
writes another of any size.
-/

import GuestDraw.Pixel.Buffer
import GuestDraw.Pixel.Transfer

namespace GuestDraw.Conversion

/-- Refuses a buffer that guest memory does not back. -/
def backed (memory : Memory) (buffer : PixelBuffer) (length : Nat) : Except PixelError Unit :=
  (memory.check buffer.address length).mapError .memory

/-- The palette that pixels of a format are read with. -/
def paletteFor (format : Format) (palette : Option (Array UInt32)) :
    Except PixelError (Array UInt32) :=
  if format.isIndexed then
    match palette with
    | none => .error (.missingPalette format.depth)
    | some entries =>
      if entries.size > maxPalette then .error (.paletteTooLarge entries.size) else .ok entries
  else .ok #[]

/-- The cell that is stored for the pixel in a column and a row. -/
def storedCell (memory : Memory) (buffer : PixelBuffer) (format : Format) (column row : Nat) :
    UInt32 :=
  let bytes := memory.slice (buffer.pixelAddress column row) (bytesPerPixel buffer.depth)
  let cell := LittleEndian.dword bytes
  if format = .indexed4 then cell % 16 else cell

/-- Reads a pixel buffer. -/
def decode (memory : Memory) (buffer : PixelBuffer) (palette : Option (Array UInt32)) :
    Except PixelError Raster := do
  let format ← buffer.format
  let entries ← paletteFor format palette
  backed memory buffer (← buffer.length)
  return Raster.generate buffer.width buffer.height format entries
    (storedCell memory buffer format)

/-- The cell that is stored for a pixel of a raster. -/
def cellToStore (raster : Raster) (format : Format) (column row : Nat) : UInt32 :=
  if raster.format = format then raster.cellAt column row
  else format.pack (raster.colourAt column row)

/-- Byte number `index` of the buffer once `raster` is stored in it: a byte of a pixel, or what the
padding holds. -/
def byteToStore (memory : Memory) (raster : Raster) (buffer : PixelBuffer) (format : Format)
    (index : Nat) : UInt8 :=
  let unit := bytesPerPixel buffer.depth
  let inLine := index % buffer.stride
  if inLine < buffer.width * unit then
    let cell := cellToStore raster format (inLine / unit)
      (buffer.height - 1 - index / buffer.stride)
    UInt8.ofNat (cell.toNat >>> (8 * (inLine % unit)))
  else memory.byteAt (buffer.address + index)

/-- All bytes of the buffer once `raster` is stored in it. -/
def encoded (memory : Memory) (raster : Raster) (buffer : PixelBuffer) :
    Except PixelError (List UInt8) := do
  let format ← buffer.format
  if format.isIndexed then
    throw (.notImplemented "encoding into indexed pixel buffers")
  if raster.width ≠ buffer.width ∨ raster.height ≠ buffer.height then
    throw (.sizeMismatch buffer.width buffer.height raster.width raster.height)
  let length ← buffer.length
  backed memory buffer length
  return (List.range length).map (byteToStore memory raster buffer format)

/-- Writes a raster into a pixel buffer. -/
def encode (memory : Memory) (raster : Raster) (buffer : PixelBuffer) :
    Except PixelError Memory := do
  return memory.put buffer.address (← encoded memory raster buffer)

/-- The raster that a copy into `buffer` draws on. -/
def canvas (memory : Memory) (buffer : PixelBuffer) (palette : Option (Array UInt32)) :
    Except PixelError Raster :=
  if buffer.depth = 8 then decode memory buffer palette
  else
    match Format.direct? buffer.depth with
    | some format => .ok (Raster.blank buffer.width buffer.height format)
    | none => .error (.unsupportedDepth buffer.depth)

/-- Converts the pixels of `source` into `target`, with `stretch` where the sizes differ. -/
def copyThrough (stretch : Raster → Raster → Rect → Rect → Raster) (memory : Memory)
    (source : PixelBuffer) (sourcePalette : Option (Array UInt32)) (target : PixelBuffer)
    (targetPalette : Option (Array UInt32)) : Except PixelError Memory := do
  let image ← decode memory source sourcePalette
  let canvas ← canvas memory target targetPalette
  encode memory (canvas.overlaid stretch image) target

/-- Converts the pixels of `source` into `target`, resized with `resize` where the sizes differ. -/
def copyBy (resize : Patch → (width height : Nat) → Patch) (memory : Memory) (source : PixelBuffer)
    (sourcePalette : Option (Array UInt32)) (target : PixelBuffer)
    (targetPalette : Option (Array UInt32)) : Except PixelError Memory :=
  copyThrough (·.stretchBy resize) memory source sourcePalette target targetPalette

/-- Converts the pixels of `source` into `target`, the nearest ones where the sizes differ. -/
def copy (memory : Memory) (source : PixelBuffer) (sourcePalette : Option (Array UInt32))
    (target : PixelBuffer) (targetPalette : Option (Array UInt32)) : Except PixelError Memory :=
  copyThrough Raster.stretch memory source sourcePalette target targetPalette

end GuestDraw.Conversion
