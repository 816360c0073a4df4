/-
**Pixel formats.**

A format says what a stored pixel, a *cell*, means. Two formats hold an index into a palette, four
hold the colour itself: five bits a channel, five with six for green, eight a channel, and eight a
channel with coverage. `colour` reads a cell and `pack` writes one; a channel of five or six bits
is widened by repeating its upper bits, and narrowed by dropping lower ones.
-/

import GuestDraw.Pixel.Colour

namespace GuestDraw

inductive Format where
  /-- Palette index in the lower four bits of a byte. -/
  | indexed4
  /-- Palette index in a byte. -/
  | indexed8
  /-- `0RRRRRGGGGGBBBBB`. -/
  | rgb555
  /-- `RRRRRGGGGGGBBBBB`. -/
  | rgb565
  /-- `0x00RRGGBB`. -/
  | rgb888
  /-- `0xAARRGGBB`. -/
  | argb8888
  deriving DecidableEq

/-- How wide the cells of a raster are. -/
inductive CellKind where
  | index
  | word
  | dword
  deriving DecidableEq

/-- The name of a cell width. -/
def CellKind.name : CellKind → String
  | .index => "Index"
  | .word => "Word"
  | .dword => "Dword"

/-- The part of a value that a cell of this width keeps. -/
def CellKind.narrow (kind : CellKind) (value : UInt32) : UInt32 :=
  match kind with
  | .index => value % 0x100
  | .word => value % 0x10000
  | .dword => value

namespace Format

/-- Every format. -/
def all : List Format := [indexed4, indexed8, rgb555, rgb565, rgb888, argb8888]

/-- The name of a format. -/
def name : Format → String
  | indexed4 => "Indexed4"
  | indexed8 => "Indexed8"
  | rgb555 => "Rgb555"
  | rgb565 => "Rgb565"
  | rgb888 => "Rgb888"
  | argb8888 => "Argb8888"

/-- The bits per pixel that name the format. -/
def depth : Format → Nat
  | indexed4 => 4
  | indexed8 => 8
  | rgb555 => 15
  | rgb565 => 16
  | rgb888 => 24
  | argb8888 => 32

/-- Cells are palette indices. -/
def isIndexed : Format → Bool
  | indexed4 | indexed8 => true
  | _ => false

/-- The format that holds colours at a given depth. -/
def direct? : (depth : Nat) → Option Format
  | 15 => some rgb555
  | 16 => some rgb565
  | 24 => some rgb888
  | 32 => some argb8888
  | _ => none

/-- The format of a given depth. -/
def ofDepth? : (depth : Nat) → Option Format
  | 4 => some indexed4
  | 8 => some indexed8
  | depth => direct? depth

/-- The width of a raster's cells. -/
def cellKind : Format → CellKind
  | indexed4 | indexed8 => .index
  | rgb555 | rgb565 => .word
  | rgb888 | argb8888 => .dword

/-- How many palette entries a cell can name. -/
def paletteLimit : Format → Nat
  | indexed4 => 16
  | _ => 256

/-! ### Cells and colours -/

/-- Eight bits from five. -/
def widenFive (channel : Nat) : UInt8 := UInt8.ofNat (channel * 8 + channel / 4)

/-- Eight bits from six. -/
def widenSix (channel : Nat) : UInt8 := UInt8.ofNat (channel * 4 + channel / 16)

/-- The colour of palette entry `index`, black if there is none. -/
def entryColour (palette : Array UInt32) (index : Nat) : Colour :=
  Colour.ofRgb (palette.getD index 0)

/-- The colour that a cell shows. -/
def colour (format : Format) (palette : Array UInt32) (cell : UInt32) : Colour :=
  let bits := cell.toNat
  match format with
  | indexed4 => entryColour palette (bits % 16)
  | indexed8 => entryColour palette bits
  | rgb555 => ⟨255, widenFive (bits / 1024 % 32), widenFive (bits / 32 % 32), widenFive (bits % 32)⟩
  | rgb565 => ⟨255, widenFive (bits / 2048 % 32), widenSix (bits / 32 % 64), widenFive (bits % 32)⟩
  | rgb888 => Colour.ofRgb cell
  | argb8888 => Colour.ofArgb cell

/-- The cell of a direct format that holds a colour, and zero for an indexed format. -/
def pack (format : Format) (colour : Colour) : UInt32 :=
  let red := colour.red.toNat
  let green := colour.green.toNat
  let blue := colour.blue.toNat
  match format with
  | indexed4 | indexed8 => 0
  | rgb555 => UInt32.ofNat (red / 8 * 1024 + green / 8 * 32 + blue / 8)
  | rgb565 => UInt32.ofNat (red / 8 * 2048 + green / 4 * 32 + blue / 8)
  | rgb888 => colour.rgb
  | argb8888 => colour.argb

end Format

end GuestDraw
