/-
**Images of colours, and ways to resize them.**

A stretched copy takes a part of a raster out as an image, has it resized, and draws what comes back
pixel by pixel. Of resizing nothing is laid down but that the result has the size that was asked for
and that each of its pixels is one of the image. A place behind an edge is counted in 64 bits, and
cut to 32 of them where something is drawn there.
-/

import GuestDraw.Pixel.Colour

namespace GuestDraw

/-- An image of colours. -/
structure Patch where
  width : Nat
  height : Nat
  colourAt : (column row : Nat) → Colour

/-- A way to resize images: the result has the size that is asked for, and each of its pixels is one
of the image. -/
structure Resizes (resize : Patch → (width height : Nat) → Patch) : Prop where
  width : ∀ patch width height, (resize patch width height).width = width
  height : ∀ patch width height, (resize patch width height).height = height
  chosen : ∀ patch width height, 0 < patch.width → 0 < patch.height →
    ∀ column row, column < width → row < height → ∃ x y, x < patch.width ∧ y < patch.height ∧
      (resize patch width height).colourAt column row = patch.colourAt x y

/-- Where a place behind an edge is: it is counted in 64 bits and cut to 32 of them, and it is
nowhere if it is negative. -/
def landing? (edge : Int32) (place : Nat) : Option UInt32 :=
  let sum := edge.toInt64 + Int64.ofNat place
  if sum < 0 then none else some sum.toUInt64.toUInt32

/-- A colour to be drawn in a column and a row. -/
structure Dab where
  column : UInt32
  row : UInt32
  colour : Colour

/-- The pixels of an image whose upper left corner comes to `left` and `top`, one row after the
other, without those that come to negative columns or rows. -/
def Patch.dabs (patch : Patch) (left top : Int32) : List Dab :=
  (List.range patch.height).flatMap fun row => (List.range patch.width).filterMap fun column => do
    let toColumn ← landing? left column
    let toRow ← landing? top row
    return ⟨toColumn, toRow, patch.colourAt column row⟩

end GuestDraw
