/-
**Descriptors in guest memory.**

Guest programs and the engine describe surfaces to each other by records of dwords at fixed offsets.
A record is stored as a whole: its bytes are zero except for the fields (`recordBytes`). Reading
looks at the fields one after the other, so the first field outside guest memory is the error.

There are two layouts of a surface descriptor, the plain one of 108 bytes and the extended one of
124; the record of a pixel format is a part of both.
-/

import GuestDraw.Memory
import GuestDraw.Objects.Surface

namespace GuestDraw

/-- The bytes of a record with the given fields, each an offset and the dword stored there. -/
def recordBytes (size : Nat) (fields : List (Nat × UInt32)) : List UInt8 :=
  (fields.foldl (fun bytes field => overwrite bytes field.1 (LittleEndian.ofDword field.2))
    (Array.replicate size 0)).toList

/-! ### Pixel formats -/

/-- How the pixels of a surface are described to the guest. -/
structure FormatRecord where
  flags : PixelFormatFlags
  bitCount : UInt32
  redMask : UInt32
  greenMask : UInt32
  blueMask : UInt32
  alphaMask : UInt32
  deriving DecidableEq

namespace FormatRecord

/-- The bytes of the record. -/
def size : Nat := 32

def flagsOffset : Nat := 0x04
def bitCountOffset : Nat := 0x0C
def redOffset : Nat := 0x10
def greenOffset : Nat := 0x14
def blueOffset : Nat := 0x18
def alphaOffset : Nat := 0x1C

/-- How surfaces are described on a display of a depth. -/
def forDepth? : (depth : Nat) → Option FormatRecord
  | 8 => some ⟨.union PixelFormatFlags.rgb PixelFormatFlags.paletteIndexed8, 8, 0, 0, 0, 0⟩
  | 16 => some ⟨PixelFormatFlags.rgb, 16, 0xF800, 0x07E0, 0x001F, 0⟩
  | 24 => some ⟨PixelFormatFlags.rgb, 24, 0xFF0000, 0x00FF00, 0x0000FF, 0⟩
  | 32 => some ⟨PixelFormatFlags.rgb, 32, 0x00FF0000, 0x0000FF00, 0x000000FF, 0xFF000000⟩
  | _ => none

/-- The fields of the record. -/
def fields (format : FormatRecord) : List (Nat × UInt32) :=
  [(0, UInt32.ofNat size), (flagsOffset, format.flags.bits), (bitCountOffset, format.bitCount),
    (redOffset, format.redMask), (greenOffset, format.greenMask), (blueOffset, format.blueMask),
    (alphaOffset, format.alphaMask)]

/-- Stores the record at `address`. -/
def write (format : FormatRecord) (memory : Memory) (address : Nat) : Except MemoryError Memory :=
  memory.write address (recordBytes size format.fields)

/-- The record stored at `address`. -/
def read (memory : Memory) (address : Nat) : Except MemoryError FormatRecord := do
  let flags ← memory.readDword (address + flagsOffset)
  let bitCount ← memory.readDword (address + bitCountOffset)
  let redMask ← memory.readDword (address + redOffset)
  let greenMask ← memory.readDword (address + greenOffset)
  let blueMask ← memory.readDword (address + blueOffset)
  let alphaMask ← memory.readDword (address + alphaOffset)
  return ⟨⟨flags⟩, bitCount, redMask, greenMask, blueMask, alphaMask⟩

end FormatRecord

/-! ### Surfaces -/

/-- What the guest is told about a surface. -/
structure Descriptor where
  extended : Bool
  flags : DescFlags
  width : UInt32
  height : UInt32
  pitch : UInt32
  backBufferCount : UInt32
  format : FormatRecord
  caps : SurfaceCaps
  deriving DecidableEq

namespace Descriptor

def sizeOffset : Nat := 0x00
def flagsOffset : Nat := 0x04
def heightOffset : Nat := 0x08
def widthOffset : Nat := 0x0C
def pitchOffset : Nat := 0x10
def backBufferCountOffset : Nat := 0x14
/-- Where locking a surface writes the address of its pixels. -/
def pixelsOffset : Nat := 0x24
def formatOffset : Nat := 0x48
def capsOffset : Nat := 0x68

/-- The bytes of capabilities in the extended layout. -/
def wideCapsSize : Nat := 16

/-- The fields of the record, those of the pixel format included. -/
def fields (descriptor : Descriptor) : List (Nat × UInt32) :=
  [(sizeOffset, UInt32.ofNat (descriptorSize descriptor.extended)),
    (flagsOffset, descriptor.flags.bits), (heightOffset, descriptor.height),
    (widthOffset, descriptor.width), (pitchOffset, descriptor.pitch),
    (backBufferCountOffset, descriptor.backBufferCount)]
  ++ descriptor.format.fields.map (fun field => (formatOffset + field.1, field.2))
  ++ [(capsOffset, descriptor.caps.bits)]

/-- The stored form of the record; the address of the pixels stays zero. -/
def bytes (descriptor : Descriptor) : List UInt8 :=
  recordBytes (descriptorSize descriptor.extended) descriptor.fields

/-- Stores the record at `address`. -/
def write (descriptor : Descriptor) (memory : Memory) (address : Nat) :
    Except MemoryError Memory :=
  memory.write address descriptor.bytes

end Descriptor

/-! ### Requests -/

/-- What a guest asks for when it wants a surface. -/
structure Request where
  size : UInt32
  flags : DescFlags
  width : UInt32
  height : UInt32
  backBufferCount : UInt32
  caps : SurfaceCaps
  deriving DecidableEq

/-- The request stored at `address`. -/
def Request.read (memory : Memory) (address : Nat) : Except MemoryError Request := do
  let size ← memory.readDword (address + Descriptor.sizeOffset)
  let flags ← memory.readDword (address + Descriptor.flagsOffset)
  let width ← memory.readDword (address + Descriptor.widthOffset)
  let height ← memory.readDword (address + Descriptor.heightOffset)
  let backBufferCount ← memory.readDword (address + Descriptor.backBufferCountOffset)
  let caps ← memory.readDword (address + Descriptor.capsOffset)
  return ⟨size, ⟨flags⟩, width, height, backBufferCount, ⟨caps⟩⟩

end GuestDraw
