/-
**Rasters.**

A raster is an image with one cell per pixel, row by row from the top. It is read and written cell
by cell or as colours; reads outside it give zero and writes outside it do nothing. `paint` is the
one way in which drawing changes a raster: it replaces the cells that a rule picks a value for.

* `cellAt` is the view;
* `cellAt_paint`: a painted cell holds the picked value, every other one what it held.
-/

import GuestDraw.Pixel.Error
import GuestDraw.Pixel.Format
import GuestDraw.Pixel.Matching
import GuestDraw.Pixel.Rect

namespace GuestDraw

/-- The most entries of a palette. -/
def maxPalette : Nat := 256

/-- An image; `palette` holds `0x00RRGGBB` words and is empty for direct formats. -/
structure Raster where
  width : Nat
  height : Nat
  format : Format
  palette : Array UInt32
  cells : Array UInt32
  deriving DecidableEq

/-- An image as colours: red, green, blue and coverage of every pixel, row by row from the top. -/
structure ColourImage where
  width : Nat
  height : Nat
  channels : List UInt8
  deriving DecidableEq

namespace Raster

/-- The raster whose cells a rule gives by column and row. -/
def generate (width height : Nat) (format : Format) (palette : Array UInt32)
    (cell : (column row : Nat) → UInt32) : Raster where
  width := width
  height := height
  format := format
  palette := palette
  cells := Array.ofFn fun index : Fin (width * height) =>
    cell (index.val % width) (index.val / width)

/-- A raster of zero cells; an indexed one gets a palette that is black throughout. -/
def blank (width height : Nat) (format : Format) : Raster where
  width := width
  height := height
  format := format
  palette := if format.isIndexed then Array.replicate format.paletteLimit 0 else #[]
  cells := Array.replicate (width * height) 0

/-- The raster without pixels. -/
def empty : Raster := blank 0 0 .argb8888

/-- A raster of zero cells with the given palette. -/
def indexed (width height : Nat) (format : Format) (palette : Array UInt32) :
    Except PixelError Raster :=
  if !format.isIndexed then .error (.unsupportedDepth format.depth)
  else if palette.size > maxPalette then .error (.paletteTooLarge palette.size)
  else .ok { blank width height format with palette := palette }

/-- The whole image as a rectangle. -/
def bounds (raster : Raster) : Rect := Rect.ofSize raster.width raster.height

/-! ### Cells -/

/-- The cell in a column and a row, zero outside the raster. -/
def cellAt (raster : Raster) (column row : Nat) : UInt32 :=
  if column < raster.width ∧ row < raster.height then
    raster.cells.getD (row * raster.width + column) 0
  else 0

/-- Stores the part of `value` that fits a cell, nothing outside the raster. -/
def setCell (raster : Raster) (column row : Nat) (value : UInt32) : Raster :=
  if column < raster.width ∧ row < raster.height then
    { raster with
      cells := raster.cells.setIfInBounds (row * raster.width + column)
        (raster.format.cellKind.narrow value) }
  else raster

/-- Replaces every cell for which `pick` has a value. -/
def paint (raster : Raster) (pick : (column row : Nat) → Option UInt32) : Raster :=
  { raster with
    cells := raster.cells.mapIdx fun index cell =>
      match pick (index % raster.width) (index / raster.width) with
      | some value => raster.format.cellKind.narrow value
      | none => cell }

theorem cellAt_paint {raster : Raster} {pick : Nat → Nat → Option UInt32} {column row : Nat}
    (complete : raster.cells.size = raster.width * raster.height)
    (inside : column < raster.width ∧ row < raster.height) :
    (raster.paint pick).cellAt column row =
      match pick column row with
      | some value => raster.format.cellKind.narrow value
      | none => raster.cellAt column row := by
  have positive : 0 < raster.width := by omega
  have below : row * raster.width + column < raster.cells.size := by
    have rows : (row + 1) * raster.width ≤ raster.height * raster.width :=
      Nat.mul_le_mul_right _ inside.2
    rw [complete, Nat.mul_comm raster.width]
    rw [Nat.add_mul] at rows
    omega
  have modulus : (row * raster.width + column) % raster.width = column := by
    rw [Nat.add_comm, Nat.add_mul_mod_self_right, Nat.mod_eq_of_lt inside.1]
  have quotient : (row * raster.width + column) / raster.width = row := by
    rw [Nat.add_comm, Nat.add_mul_div_right _ _ positive, Nat.div_eq_of_lt inside.1, Nat.zero_add]
  simp only [cellAt, paint, inside, and_self, if_true, Array.getD_eq_getD_getElem?,
    Array.getElem?_mapIdx, Array.getElem?_eq_getElem below, Option.map_some, Option.getD_some,
    modulus, quotient]

/-! ### Colours -/

/-- The colour in a column and a row. -/
def colourAt (raster : Raster) (column row : Nat) : Colour :=
  raster.format.colour raster.palette (raster.cellAt column row)

/-- The palette entries that cells of the raster can name, as colours. -/
def entries (raster : Raster) : List Colour :=
  (raster.palette.toList.take raster.format.paletteLimit).map Colour.ofRgb

/-- The cell that stands for a colour in this raster. -/
def cellFor (raster : Raster) (colour : Colour) : UInt32 :=
  if raster.format.isIndexed then UInt32.ofNat (Matching.place colour raster.entries)
  else raster.format.pack colour

/-- Stores a colour, nothing outside the raster. -/
def setColour (raster : Raster) (column row : Nat) (colour : Colour) : Raster :=
  raster.setCell column row (raster.cellFor colour)

/-- The colours of all pixels within the bounds of a raster. -/
def colours (raster : Raster) : ColourImage :=
  let width := raster.bounds.width.toInt.toNat
  let height := raster.bounds.height.toInt.toNat
  { width := width
    height := height
    channels := (List.range (width * height)).flatMap fun index =>
      let colour := raster.colourAt (index % width) (index / width)
      [colour.red, colour.green, colour.blue, colour.alpha] }

end Raster

end GuestDraw
