/-
**Copying between rasters.**

`blit` moves a rectangle of one raster onto another, clipped to both. Cells are carried over
unchanged where both rasters agree on format and palette, otherwise pixel by pixel as colours.

`stretchBy` resizes the rectangle on the way, however that is done. `stretch` takes the nearest
pixels, and looks only at those that the target has (`paintPatch`).
-/

import GuestDraw.Pixel.Patch
import GuestDraw.Pixel.Raster
import GuestDraw.Pixel.Sampling

namespace GuestDraw.Raster

/-- Cells mean the same in both rasters. -/
def agrees (target source : Raster) : Bool :=
  target.format = source.format && target.palette = source.palette

/-- What the target stores for a pixel of the source: the cell itself if both rasters agree,
otherwise the cell for its colour. -/
def carried (target source : Raster) (agreed : Bool) (column row : Nat) : UInt32 :=
  if agreed then source.cellAt column row else target.cellFor (source.colourAt column row)

/-- Copies `region` of `source` so that its upper left corner comes to `x` and `y`. -/
def blit (target source : Raster) (region : Rect) (x y : Int32) : Raster :=
  match region.intersect source.bounds with
  | none => target
  | some visible =>
    let shiftX := saturate (x.toInt - region.left.toInt)
    let shiftY := saturate (y.toInt - region.top.toInt)
    match (visible.offset shiftX shiftY).intersect target.bounds with
    | none => target
    | some area =>
      let agreed := target.agrees source
      target.paint fun column row =>
        if area.covers column row then
          some (target.carried source agreed (column - shiftX.toInt).toNat
            (row - shiftY.toInt).toNat)
        else none

/-! ### Resizing -/

/-- A region of a raster as an image: columns and rows are added up in 32 bits. -/
def patch (raster : Raster) (region : Rect) : Patch where
  width := region.width.toInt.toNat
  height := region.height.toInt.toNat
  colourAt column row :=
    if column < region.width.toInt.toNat ∧ row < region.height.toInt.toNat then
      raster.colourAt ((max region.left 0).toUInt32 + UInt32.ofNat column).toNat
        ((max region.top 0).toUInt32 + UInt32.ofNat row).toNat
    else ⟨0, 0, 0, 0⟩

/-- The pixel is drawn, if it is one of the raster. -/
def dab (drawn : Raster) (dab : Dab) : Raster :=
  drawn.setColour dab.column.toNat dab.row.toNat dab.colour

/-- Draws an image on an area, one of its pixels after the other. -/
def drawPatch (target : Raster) (image : Patch) (area : Rect) : Raster :=
  (image.dabs area.left area.top).foldl dab target

/-- Draws an image on an area of its size, one pixel of the target after the other. -/
def paintPatch (target : Raster) (image : Patch) (area : Rect) : Raster :=
  target.paint fun column row =>
    let x := column - area.left.toInt
    let y := row - area.top.toInt
    if 0 ≤ x ∧ x < image.width ∧ 0 ≤ y ∧ y < image.height then
      some (target.cellFor (image.colourAt x.toNat y.toNat))
    else none

/-- Fills `area` with `region` of `source`, resized with `resize` unless the sizes agree, and then
drawn with `draw`. -/
def stretchThrough (draw : Raster → Patch → Rect → Raster)
    (resize : Patch → (width height : Nat) → Patch) (target source : Raster) (region area : Rect) :
    Raster :=
  if region.width = area.width ∧ region.height = area.height then
    target.blit source region area.left area.top
  else if area.isEmpty then target
  else
    match region.intersect source.bounds with
    | none => target
    | some visible =>
      let resized := resize (source.patch visible) area.width.toInt.toNat area.height.toInt.toNat
      draw target resized area

/-- Fills `area` with `region` of `source`, resized with `resize` unless the sizes agree. -/
def stretchBy (target : Raster) (resize : Patch → (width height : Nat) → Patch) (source : Raster)
    (region area : Rect) : Raster :=
  stretchThrough drawPatch resize target source region area

/-- Fills `area` with `region` of `source`, each pixel taken from the nearest one. -/
def stretch (target source : Raster) (region area : Rect) : Raster :=
  stretchThrough paintPatch Patch.nearest target source region area

/-- A raster with an image laid over it, with `stretch` where the sizes differ. -/
def overlaid (canvas : Raster) (stretch : Raster → Raster → Rect → Rect → Raster) (image : Raster) :
    Raster :=
  if image.width = canvas.width ∧ image.height = canvas.height then
    canvas.blit image image.bounds 0 0
  else stretch canvas image image.bounds canvas.bounds

end GuestDraw.Raster
