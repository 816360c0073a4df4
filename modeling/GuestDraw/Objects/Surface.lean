/-
**Surfaces and palettes.**

A surface is an image that the guest draws on, a palette a table of colours for surfaces of indexed
pixels. Each has a block in guest memory, whose address is the interface pointer of the guest:

| offset | surface           | palette                 |
|--------|-------------------|-------------------------|
| 0      | vtable            | vtable                  |
| 4      | handle            | handle                  |
| 8      | descriptor        | 256 dwords `0x00RRGGBB` |
-/

import GuestDraw.Flags.Families
import GuestDraw.Objects.Handle
import GuestDraw.Pixel.Buffer

namespace GuestDraw

namespace Block

/-- Where a block holds the address of its vtable. -/
def vtableOffset : Nat := 0

/-- Where a block holds the handle of its object. -/
def handleOffset : Nat := 4

/-- Where the data of a block start. -/
def dataOffset : Nat := 8

end Block

/-! ### Surfaces -/

/-- The bytes of a surface descriptor, in the plain and in the extended layout. -/
def descriptorSize (extended : Bool) : Nat := if extended then 0x7C else 0x6C

/-- A surface as the engine keeps it. -/
structure Surface where
  /-- The address of the block. -/
  object : Nat
  flags : SurfaceFlags
  width : Nat
  height : Nat
  depth : Nat
  pitch : Nat
  caps : SurfaceCaps
  /-- The address of the pixels. -/
  memory : Nat
  palette : Option Handle
  backBuffer : Option Handle
  deviceContext : Option Handle
  cache : Option Handle
  locked : Bool
  deriving DecidableEq

namespace Surface

/-- The bytes of a surface block, with room for either descriptor. -/
def blockSize : Nat := Block.dataOffset + descriptorSize true

/-- Where the descriptor in the block starts. -/
def descriptor (surface : Surface) : Nat := surface.object + Block.dataOffset

/-- The size of the descriptor in the block. -/
def descriptorSize (surface : Surface) : Nat :=
  GuestDraw.descriptorSize (surface.flags.contains SurfaceFlags.wideDescriptor)

/-- The surface's pixels in guest memory. -/
def buffer (surface : Surface) : PixelBuffer :=
  ⟨surface.memory, surface.depth, surface.width, surface.height⟩

end Surface

/-! ### Palettes -/

/-- A palette as the engine keeps it; the entries are words `0x00RRGGBB`. -/
structure Palette where
  /-- The address of the block. -/
  object : Nat
  caps : PaletteCaps
  entries : Array UInt32
  deriving DecidableEq

namespace Palette

/-- The entries that every palette block has room for. -/
def slots : Nat := 256

/-- The bytes of a palette block. -/
def blockSize : Nat := Block.dataOffset + slots * 4

end Palette

end GuestDraw
