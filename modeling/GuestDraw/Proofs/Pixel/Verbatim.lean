/-
**Copying cells as they are.**

Between rasters of one format and palette a copy carries cells over as they are, whatever stands in
bits that the format does not read, and whichever of several equal entries a cell names. The way
through colours, which other rasters take, may store other cells. They show the same colours, as
long as a cell of an indexed raster names an entry of the palette.

* `Raster.Names`: an indexed pixel names an entry;
* `colour_cellFor_colour`: what stands for the colour of a cell shows that colour;
* `verbatim_shows_converted`: both ways of copying show the same picture.
-/

import GuestDraw.Proofs.Pixel.Nearest
import GuestDraw.Proofs.Pixel.Packing

namespace GuestDraw

/-- Solid colours are the same if they are at no distance. -/
theorem Colour.ofRgb_eq_of_distance {first second : UInt32}
    (same : (ofRgb first).distance (ofRgb second) = 0) : ofRgb first = ofRgb second := by
  obtain ⟨red, green, blue⟩ := distance_eq_zero_iff.mp same
  rw [ofRgb, solid, ofRgb, solid, mk.injEq]
  exact ⟨rfl, red, green, blue⟩

/-- The palette entry that a cell of an indexed format names. -/
def Format.entryIndex (format : Format) (cell : UInt32) : Nat :=
  if format = .indexed4 then cell.toNat % 16 else cell.toNat

theorem Format.colour_indexed {format : Format} (indexed : format.isIndexed = true)
    (palette : Array UInt32) (cell : UInt32) :
    format.colour palette cell = Colour.ofRgb (palette.getD (format.entryIndex cell) 0) := by
  revert indexed
  cases format with
  | indexed4 | indexed8 => exact fun _ => rfl
  | rgb555 | rgb565 | rgb888 | argb8888 => exact nofun

/-- A cell names no more entries than its format has room for. -/
theorem Format.entryIndex_lt {format : Format} (indexed : format.isIndexed = true) {cell : UInt32}
    (narrow : format.cellKind.narrow cell = cell) :
    format.entryIndex cell < format.paletteLimit := by
  revert indexed narrow
  cases format with
  | indexed4 => exact fun _ _ => Nat.mod_lt _ (by decide)
  | indexed8 =>
    intro _ narrow
    show cell.toNat < 256
    rw [← narrow]
    exact Nat.mod_lt cell.toNat (by decide)
  | rgb555 | rgb565 | rgb888 | argb8888 => exact nofun

namespace Raster

variable {target source : Raster} {region : Rect} {x y : Int32} {column row : Nat}

/-- The cell of an indexed raster in a column and a row names an entry of the palette. -/
def Names (raster : Raster) (column row : Nat) : Prop :=
  raster.format.isIndexed = true →
    raster.format.entryIndex (raster.cellAt column row) < raster.palette.size

instance (raster : Raster) (column row : Nat) : Decidable (raster.Names column row) :=
  inferInstanceAs (Decidable (_ → _))

/-- What stands for the colour of a cell shows that colour. -/
theorem colour_cellFor_colour (raster : Raster) (cell : UInt32)
    (narrow : raster.format.cellKind.narrow cell = cell)
    (named : raster.format.isIndexed = true → raster.format.entryIndex cell < raster.palette.size) :
    raster.format.colour raster.palette
        (raster.cellFor (raster.format.colour raster.palette cell)) =
      raster.format.colour raster.palette cell := by
  cases indexed : raster.format.isIndexed with
  | true =>
    -- The first of the nearest entries is no farther away than the one that the cell names.
    have there := getElem?_entries
      (Nat.lt_min.mpr ⟨named indexed, Format.entryIndex_lt indexed narrow⟩)
    have some : raster.entries ≠ [] := List.ne_nil_of_mem (List.mem_of_getElem? there)
    obtain ⟨distance, nearest⟩ := Matching.place_firstNearest
      (Colour.ofRgb (raster.palette.getD (raster.format.entryIndex cell) 0)) some
    obtain ⟨entry, found, rfl⟩ := nearest.there
    obtain rfl := Option.some.inj
      ((getElem?_entries (raster.length_entries ▸ nearest.index_lt)).symm.trans found)
    have zero := nearest.least _ (List.mem_of_getElem? there)
    rw [Colour.distance_eq_zero_iff.mpr ⟨rfl, rfl, rfl⟩] at zero
    rw [colour_cellFor indexed, Format.colour_indexed indexed]
    exact Colour.ofRgb_eq_of_distance (Nat.le_zero.mp zero)
  | false =>
    rw [cellFor, if_neg (ne_true_of_eq_false indexed)]
    exact Format.colour_eq_of_encodes indexed (Format.encodes_pack _ _) (Format.encodes_colour _ _ _) _ _

section Agreeing

variable (sound : target.Sound) (given : source.Sound) (format : target.format = source.format)
  (palette : target.palette = source.palette)

include given format palette in
/-- What stands for the colour of a pixel of the source shows that colour, as the cell itself
does. -/
theorem colour_cellFor_colourAt (named : source.Names column row) :
    target.format.colour target.palette (target.cellFor (source.colourAt column row)) =
      source.colourAt column row := by
  have shown := target.colour_cellFor_colour (source.cellAt column row)
    (format ▸ given.narrow_cellAt column row) (format ▸ palette ▸ named)
  rw [format, palette] at shown
  rw [format, palette]
  exact shown

include sound given format palette

/-- An assigned pixel shows the colour of the pixel that belongs to it. -/
theorem colourAt_blit_of_agrees (assigned : target.Assigned source region x y column row) :
    (target.blit source region x y).colourAt column row =
      source.colourAt (region.originColumn x column).toNat (region.originRow y row).toNat := by
  have agreed : target.agrees source = true := agrees_iff.mpr ⟨format, palette⟩
  obtain ⟨-, -, same⟩ := shape_eq_iff.mp (shape_blit target source region x y)
  rw [colourAt, same, palette_blit, cellAt_blit_of_inside sound.complete assigned.inside,
    if_pos assigned, brought, carried, if_pos agreed, format, given.narrow_cellAt,
      palette, colourAt]

/-- A colour of the source shows where it is stored in the target. -/
theorem colourAt_setColour_of_agrees {fromColumn fromRow : Nat}
    (inside : column < target.width ∧ row < target.height)
    (named : source.Names fromColumn fromRow) :
    (target.setColour column row (source.colourAt fromColumn fromRow)).colourAt column row =
      source.colourAt fromColumn fromRow := by
  rw [colourAt, cellAt_setColour sound.complete inside, setColour, format_setCell, palette_setCell,
    colour_cellFor_colourAt given format palette named]

end Agreeing

/-- Pixels to which nothing is copied stay what they are. -/
theorem cellAt_blit_of_unassigned (complete : target.cells.size = target.width * target.height)
    (missed : ¬ target.Assigned source region x y column row) :
    (target.blit source region x y).cellAt column row = target.cellAt column row := by
  obtain ⟨width, height, -⟩ := shape_eq_iff.mp (shape_blit target source region x y)
  by_cases inside : column < target.width ∧ row < target.height
  · rw [cellAt_blit_of_inside complete inside, if_neg missed]
  · rw [cellAt, cellAt, width, height, if_neg inside, if_neg inside]

/-- Colours that are stored one after the other: a pixel to which one is copied holds what stands
for the colour at the place that belongs to it, and every other one what it held. -/
theorem cellAt_foldl_colours {copies : List PixelCopy}
    (complete : target.cells.size = target.width * target.height)
    (places : ∀ copy ∈ copies, target.Carries source region x y copy) :
    (copies.foldl (PixelCopy.run source false) target).cellAt column row =
      if ∃ copy ∈ copies, copy.column = column ∧ copy.row = row then
        target.cellFor (source.colourAt (region.originColumn x column).toNat
          (region.originRow y row).toNat)
      else target.cellAt column row := by
  refine cellAt_foldl_run complete (fun copy inside => (places copy inside).assigned.inside)
    fun copy inside here there => ?_
  obtain ⟨-, fromColumn, fromRow⟩ := places copy inside
  rw [← here, ← there, ← fromColumn, ← fromRow]
  exact narrow_cellFor _ _

/-- Where all cells that are copied name entries, a copy shows what the colours show that are stored
one after the other. -/
theorem colourAt_blit_eq_foldl {copies : List PixelCopy} (sound : target.Sound)
    (given : source.Sound)
    (format : target.format = source.format) (palette : target.palette = source.palette)
    (places : ∀ copy ∈ copies, target.Carries source region x y copy)
    (assigned : ∀ column row : Nat, (∃ copy ∈ copies, copy.column = column ∧ copy.row = row) ↔
      target.Assigned source region x y column row)
    (named : ∀ copy ∈ copies, source.Names copy.sourceColumn copy.sourceRow) :
    (target.blit source region x y).colourAt column row =
      (copies.foldl (PixelCopy.run source false) target).colourAt column row := by
  obtain ⟨-, -, sameFormat, samePalette, -⟩ := @shape_foldl_run source false copies target
  have stored : (copies.foldl (PixelCopy.run source false) target).cellAt column row = _ :=
    cellAt_foldl_colours sound.complete places
  have shown : (copies.foldl (PixelCopy.run source false) target).colourAt column row =
      target.format.colour target.palette
        ((copies.foldl (PixelCopy.run source false) target).cellAt column row) := by
    rw [colourAt, sameFormat, samePalette]
  rw [shown, stored]
  by_cases here : ∃ copy ∈ copies, copy.column = column ∧ copy.row = row
  · rw [if_pos here, colourAt_blit_of_agrees sound given format palette ((assigned _ _).mp here)]
    obtain ⟨copy, inside, rfl, rfl⟩ := here
    obtain ⟨-, fromColumn, fromRow⟩ := places copy inside
    rw [← fromColumn, ← fromRow, Int.toNat_natCast, Int.toNat_natCast,
      colour_cellFor_colourAt given format palette (named copy inside)]
  · obtain ⟨-, -, kept⟩ := shape_eq_iff.mp (shape_blit target source region x y)
    rw [if_neg here, colourAt, kept, palette_blit,
      cellAt_blit_of_unassigned sound.complete fun there => here ((assigned column row).mpr there)]

/-- The single copies of a region, and that carrying cells over shows what storing colours would
show. -/
structure SamePicture (target source : Raster) (region : Rect) (x y : Int32)
    (copies : List PixelCopy) :
    Prop where
  listed : target.copies? source region x y = some copies
  drawn : target.blit source region x y = copies.foldl (PixelCopy.run source true) target
  places : ∀ copy ∈ copies, target.Carries source region x y copy
  assigned : ∀ column row : Nat, (∃ copy ∈ copies, copy.column = column ∧ copy.row = row) ↔
    target.Assigned source region x y column row
  /-- A pixel shows what it would show if the colour were stored in it, which is the colour
  itself. -/
  pixels : ∀ copy ∈ copies, source.Names copy.sourceColumn copy.sourceRow →
    (target.blit source region x y).colourAt copy.column copy.row =
        (target.setColour copy.column copy.row
          (source.colourAt copy.sourceColumn copy.sourceRow)).colourAt copy.column copy.row ∧
      (target.blit source region x y).colourAt copy.column copy.row =
        source.colourAt copy.sourceColumn copy.sourceRow
  /-- The picture is the one that comes of storing the colours one after the other. -/
  picture : (∀ copy ∈ copies, source.Names copy.sourceColumn copy.sourceRow) → ∀ column row : Nat,
    (target.blit source region x y).colourAt column row =
      (copies.foldl (PixelCopy.run source false) target).colourAt column row

/-- **Cells that are carried over show the same picture as colours that are stored**, where indexed
cells name entries of the palette. -/
theorem verbatim_shows_converted {target source : Raster} (sound : target.Sound)
    (given : source.Sound)
    (format : target.format = source.format) (palette : target.palette = source.palette)
    (region : Rect) (x y : Int32) : ∃ copies, SamePicture target source region x y copies := by
  obtain ⟨copies, listed, drawn, places, assigned⟩ :=
    @exists_assigned target source region x y sound.complete
  rw [agrees_iff.mpr ⟨format, palette⟩] at drawn
  have shown : ∀ copy ∈ copies, (target.blit source region x y).colourAt copy.column copy.row =
      source.colourAt copy.sourceColumn copy.sourceRow := by
    intro copy inside
    obtain ⟨here, fromColumn, fromRow⟩ := places copy inside
    rw [colourAt_blit_of_agrees sound given format palette here, ← fromColumn, ← fromRow,
      Int.toNat_natCast, Int.toNat_natCast]
  refine ⟨copies, listed, drawn, places, assigned, fun copy inside named => ⟨?_, shown copy inside⟩,
    fun named column row => ?_⟩
  · rw [shown copy inside, colourAt_setColour_of_agrees sound given format palette
      (places copy inside).assigned.inside named]
  · exact colourAt_blit_eq_foldl sound given format palette places assigned named

/-- A cell with bits that do not count, which names one of two equal entries, is carried over as it
is; stored as a colour it would name the other one. -/
theorem verbatim_shows_converted_duplicate :
    let colours : Array UInt32 := #[0x000010, 0x000020, 0xFF000020]
    let target : Raster := ⟨1, 1, .indexed4, colours, #[0]⟩
    let source : Raster := ⟨1, 1, .indexed4, colours, #[0xF2]⟩
    target.Sound ∧ source.Sound ∧ target.format = source.format ∧ target.palette = source.palette ∧
      source.Names 0 0 ∧ (∃ copies, SamePicture target source source.bounds 0 0 copies) ∧
      (target.blit source source.bounds 0 0).cells = #[0xF2] ∧
      (target.setColour 0 0 (source.colourAt 0 0)).cells = #[1] := by
  intro colours target source
  have narrow : ∀ cell ∈ target.cells, target.format.cellKind.narrow cell = cell := by
    intro cell inside
    obtain rfl := Array.mem_singleton.mp inside
    rfl
  have narrowToo : ∀ cell ∈ source.cells, source.format.cellKind.narrow cell = cell := by
    intro cell inside
    obtain rfl := Array.mem_singleton.mp inside
    rfl
  have sound : target.Sound := ⟨by decide, narrow, by decide, by decide⟩
  have given : source.Sound := ⟨by decide, narrowToo, by decide, by decide⟩
  exact ⟨sound, given, rfl, rfl, by decide, verbatim_shows_converted sound given rfl rfl _ _ _,
    by decide +kernel, by decide +kernel⟩

/-- A cell that names no entry is black where it is carried over; stored as a colour it comes to
name one. -/
example :
    let target : Raster := ⟨1, 1, .indexed8, #[0x000020], #[0]⟩
    let source : Raster := ⟨1, 1, .indexed8, #[0x000020], #[5]⟩
    (target.blit source source.bounds 0 0).colourAt 0 0 = ⟨255, 0, 0, 0⟩ ∧
      (target.setColour 0 0 (source.colourAt 0 0)).colourAt 0 0 = ⟨255, 0, 0, 0x20⟩ := by
  decide +kernel

end Raster

end GuestDraw
