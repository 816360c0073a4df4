/-
**Drawing never leaves the cells.**

Rasters are drawn on cell by cell, colour by colour, and with copies of other rasters, plain or
stretched, at any place and from any region; they are read and written to memory. All of this looks
cells up in arrays that may be too short or of the wrong width (`CellStore`), and it does so for
rasters that came about in any of the ways that there are. None of it fails.

* `blit?`, `stretchBy?`, `encode?`: copies and encoding one pixel after the other, which fail where
  a place is outside of an array; `blit?_gives`, `stretchBy?_gives`, `encode?_eq`: on intact rasters
  they never do, and they are the copies and the encoding of the rasters that are seen;
* `Stroke`, `Stroke.draw?_gives`: one step of drawing; `gives_foldlM`: any number of steps;
* `Obtained`: the rasters that there are, and `Obtained.intact`: they are intact, by induction on
  how they came about;
* `strokes_keep_whole`: whatever is drawn on them.
-/

import Mathlib.Data.List.Basic
import GuestDraw.Proofs.Pixel.Copying
import GuestDraw.Proofs.Pixel.Storage
import GuestDraw.Proofs.Pixel.Stretching

namespace GuestDraw

namespace StoredRaster

variable {raster target source : StoredRaster}

/-! ### Copies -/

/-- Where each step does to an intact raster what `step` does to the raster that is seen, so do all
of them. -/
theorem gives_foldlM {α : Type} {step? : StoredRaster → α → Option StoredRaster}
    {step : Raster → α → Raster} {items : List α}
    (gives : ∀ drawn : StoredRaster, drawn.Intact → ∀ item ∈ items,
      Gives (step? drawn item) (step drawn.view item))
    (intact : raster.Intact) :
    Gives (items.foldlM step? raster) (items.foldl step raster.view) := by
  induction items generalizing raster with
  | nil => exact ⟨raster, rfl, intact, rfl⟩
  | cons item rest ih =>
    obtain ⟨middle, first, whole, seen⟩ := gives raster intact item (.head _)
    rw [List.foldlM_cons, first, List.foldl_cons, ← seen]
    exact ih (fun drawn kept other listed => gives drawn kept other (.tail _ listed)) whole

/-- One pixel is copied: the cell itself if both rasters agree, otherwise the cell for its
colour. -/
def copy? (source : StoredRaster) (agreed : Bool) (drawn : StoredRaster) (copy : PixelCopy) :
    Option StoredRaster :=
  if agreed then
    (source.cell? copy.sourceColumn copy.sourceRow).bind fun cell =>
      drawn.setCell? copy.column copy.row cell
  else
    (source.colour? copy.sourceColumn copy.sourceRow).bind fun colour =>
      drawn.setColour? copy.column copy.row colour

/-- Copies `region` of `source` so that its upper left corner comes to `x` and `y`. -/
def blit? (target source : StoredRaster) (region : Rect) (x y : Int32) : Option StoredRaster := do
  let copies ← target.view.copies? source.view region x y
  let agreed := target.format = source.format && target.palette = source.palette
  copies.foldlM (copy? source agreed) target

/-- A region of a raster as an image, of which every pixel is read. -/
def patch? (raster : StoredRaster) (region : Rect) : Option Patch := do
  let rows ← (List.range region.height.toInt.toNat).mapM fun row =>
    (List.range region.width.toInt.toNat).mapM fun column =>
      raster.colour? ((max region.left 0).toUInt32 + UInt32.ofNat column).toNat
        ((max region.top 0).toUInt32 + UInt32.ofNat row).toNat
  return ⟨region.width.toInt.toNat, region.height.toInt.toNat, fun column row =>
    (rows.getD row []).getD column ⟨0, 0, 0, 0⟩⟩

/-- A colour is drawn, if its pixel is one of the raster. -/
def dab? (drawn : StoredRaster) (dab : Dab) : Option StoredRaster :=
  drawn.setColour? dab.column.toNat dab.row.toNat dab.colour

/-- Fills `area` with `region` of `source`, resized with `resize` unless the sizes agree. -/
def stretchBy? (target : StoredRaster) (resize : Patch → (width height : Nat) → Patch)
    (source : StoredRaster) (region area : Rect) : Option StoredRaster :=
  if region.width = area.width ∧ region.height = area.height then
    target.blit? source region area.left area.top
  else if area.isEmpty then some target
  else
    match region.intersect source.view.bounds with
    | none => some target
    | some visible => do
      let patch ← source.patch? visible
      let resized := resize patch area.width.toInt.toNat area.height.toInt.toNat
      (resized.dabs area.left area.top).foldlM dab? target

theorem copy?_gives (whole : source.Intact) (agreed : Bool) {drawn : StoredRaster}
    (intact : drawn.Intact) (copy : PixelCopy) :
    Gives (copy? source agreed drawn copy) (PixelCopy.run source.view agreed drawn.view copy) := by
  unfold copy? PixelCopy.run Raster.carried
  cases agreed with
  | true =>
    rw [if_pos rfl, if_pos rfl, whole.cell?_eq, Option.bind_some]
    exact intact.setCell?_gives _ _ _
  | false =>
    rw [if_neg nofun, if_neg nofun, whole.colour?_eq, Option.bind_some]
    exact intact.setColour?_gives _ _ _

theorem blit?_gives (intact : target.Intact) (whole : source.Intact) (region : Rect) (x y : Int32) :
    Gives (target.blit? source region x y) (target.view.blit source.view region x y) := by
  obtain ⟨copies, known, drawn, -⟩ :=
    @Raster.exists_assigned _ source.view region x y intact.sound.complete
  rw [blit?, known, drawn]
  exact gives_foldlM (fun _ kept copy _ => copy?_gives whole _ kept copy) intact

theorem dab?_gives {drawn : StoredRaster} (intact : drawn.Intact) (dab : Dab) :
    Gives (drawn.dab? dab) (drawn.view.dab dab) :=
  intact.setColour?_gives _ _ _

/-- Looking up what stands in rows. -/
theorem getD_rows (wide high : Nat) (colour : Nat → Nat → Colour) (column row : Nat)
    (outside : Colour) :
    (((List.range high).map fun row => (List.range wide).map fun column =>
        colour column row).getD row []).getD column outside =
      if column < wide ∧ row < high then colour column row else outside := by
  rw [List.getD_eq_getElem?_getD, List.getD_eq_getElem?_getD, List.getElem?_map]
  by_cases bottom : row < high
  · rw [List.getElem?_range bottom, Option.map_some, Option.getD_some, List.getElem?_map]
    by_cases right : column < wide
    · rw [List.getElem?_range right, if_pos ⟨right, bottom⟩]
      rfl
    · have none : (List.range wide)[column]? = none := List.getElem?_eq_none (by simpa using right)
      rw [none, if_neg fun inside => right inside.1]
      rfl
  · have none : (List.range high)[row]? = none := List.getElem?_eq_none (by simpa using bottom)
    rw [none, if_neg fun inside => bottom inside.2]
    rfl

/-- All pixels of a region are read, and the image is that of the region. -/
theorem patch?_eq (whole : source.Intact) (region : Rect) :
    source.patch? region = some (source.view.patch region) := by
  have line (row : Nat) := @mapM_eq_some_map _ _ _ _ (List.range region.width.toInt.toNat)
    fun column _ => whole.colour?_eq ((max region.left 0).toUInt32 + UInt32.ofNat column).toNat
      ((max region.top 0).toUInt32 + UInt32.ofNat row).toNat
  rw [patch?, mapM_eq_some_map fun row _ => line row]
  refine congrArg some ?_
  unfold Raster.patch
  congr 1
  funext column row
  exact getD_rows ..

theorem stretchBy?_gives (intact : target.Intact) (whole : source.Intact)
    (resize : Patch → (width height : Nat) → Patch) (region area : Rect) :
    Gives (target.stretchBy? resize source region area)
      (target.view.stretchBy resize source.view region area) := by
  unfold stretchBy? Raster.stretchBy Raster.stretchThrough
  split
  · exact blit?_gives intact whole _ _ _
  · split
    · exact ⟨target, rfl, intact, rfl⟩
    · cases region.intersect source.view.bounds with
      | none => exact ⟨target, rfl, intact, rfl⟩
      | some visible =>
        dsimp only
        rw [patch?_eq whole]
        exact gives_foldlM (fun _ kept dab _ => dab?_gives kept dab) intact

end StoredRaster

/-! ### Encoding -/

/-- Replaces a part of a scanline by `data`, if all of the scanline and of the part is there. -/
def overwrite? (bytes : List UInt8) (line stride place : Nat) (data : List UInt8) :
    Option (List UInt8) :=
  if line + stride ≤ bytes.length ∧ place + data.length ≤ stride then
    some (bytes.take (line + place) ++ data ++ bytes.drop (line + place + data.length))
  else none

theorem exists_overwritten {bytes data : List UInt8} {line stride place : Nat}
    (scanline : line + stride ≤ bytes.length) (part : place + data.length ≤ stride) :
    ∃ after, overwrite? bytes line stride place data = some after ∧ after.length = bytes.length ∧
      ∀ index, after[index]? = if line + place ≤ index ∧ index < line + place + data.length then
        data[index - (line + place)]? else bytes[index]? := by
  have before : (bytes.take (line + place)).length = line + place := by
    rw [List.length_take]
    omega
  refine ⟨_, if_pos ⟨scanline, part⟩, ?_, fun index => ?_⟩
  · rw [List.length_append, List.length_append, before, List.length_drop]
    omega
  · rw [List.append_assoc, List.getElem?_append, List.getElem?_append, before]
    by_cases first : index < line + place
    · rw [if_pos first, if_neg (by omega), List.getElem?_take_of_lt first]
    · by_cases within : index - (line + place) < data.length
      · rw [if_neg first, if_pos within, if_pos (by omega)]
      · rw [if_neg first, if_neg within, if_neg (by omega), List.getElem?_drop]
        congr 1
        omega

namespace PixelBuffer

/-- The pixels of a buffer, row by row from the top. -/
def pixels (buffer : PixelBuffer) : List (Nat × Nat) :=
  (List.range buffer.height).flatMap fun row => (List.range buffer.width).map fun column =>
    (column, row)

/-- Where the bytes of a pixel start in those of all scanlines. -/
def place (buffer : PixelBuffer) (pixel : Nat × Nat) : Nat :=
  buffer.stride * (buffer.height - 1 - pixel.2) + pixel.1 * bytesPerPixel buffer.depth

/-- A byte of the scanlines belongs to a pixel. -/
def Owns (buffer : PixelBuffer) (pixel : Nat × Nat) (index : Nat) : Prop :=
  buffer.place pixel ≤ index ∧ index < buffer.place pixel + bytesPerPixel buffer.depth

instance (buffer : PixelBuffer) (pixel : Nat × Nat) (index : Nat) :
    Decidable (buffer.Owns pixel index) :=
  inferInstanceAs (Decidable (_ ∧ _))

theorem mem_pixels_iff {buffer : PixelBuffer} {pixel : Nat × Nat} :
    pixel ∈ buffer.pixels ↔ pixel.1 < buffer.width ∧ pixel.2 < buffer.height := by
  obtain ⟨column, row⟩ := pixel
  simp only [pixels, List.mem_flatMap, List.mem_map, List.mem_range, Prod.mk.injEq]
  constructor
  · rintro ⟨_, high, _, inside, rfl, rfl⟩
    exact ⟨inside, high⟩
  · rintro ⟨inside, high⟩
    exact ⟨row, high, column, inside, rfl, rfl⟩

end PixelBuffer

namespace StoredRaster

variable {raster : StoredRaster}

/-- The cell that is stored for a pixel. -/
def cellToStore? (raster : StoredRaster) (format : Format) (column row : Nat) : Option UInt32 :=
  if raster.format = format then raster.cell? column row
  else (raster.colour? column row).map format.pack

/-- Stores a pixel in its place of the scanlines. -/
def storePixel? (raster : StoredRaster) (format : Format) (buffer : PixelBuffer)
    (bytes : List UInt8) (pixel : Nat × Nat) : Option (List UInt8) :=
  (raster.cellToStore? format pixel.1 pixel.2).bind fun cell =>
    overwrite? bytes (buffer.stride * (buffer.height - 1 - pixel.2)) buffer.stride
      (pixel.1 * bytesPerPixel buffer.depth)
      (LittleEndian.encode (bytesPerPixel buffer.depth) cell.toNat)

/-- Writes a raster into a pixel buffer: reads the scanlines, stores one pixel after the other in
them, and writes them back. There is no memory where a cell or a place of the scanlines is not
there. -/
def encode? (memory : Memory) (raster : StoredRaster) (buffer : PixelBuffer) :
    Except PixelError (Option Memory) := do
  let format ← buffer.format
  if format.isIndexed then
    throw (.notImplemented "encoding into indexed pixel buffers")
  if raster.width ≠ buffer.width ∨ raster.height ≠ buffer.height then
    throw (.sizeMismatch buffer.width buffer.height raster.width raster.height)
  let bytes ← (memory.read buffer.address (← buffer.length)).mapError .memory
  return (buffer.pixels.foldlM (raster.storePixel? format buffer) bytes).map
    (memory.put buffer.address)

section Stored

variable (whole : raster.Intact) {buffer : PixelBuffer} {format : Format}

include whole

theorem cellToStore?_eq (column row : Nat) :
    raster.cellToStore? format column row =
      some (Conversion.cellToStore raster.view format column row) := by
  rw [cellToStore?, whole.cell?_eq, whole.colour?_eq]
  by_cases same : raster.format = format
  · rw [if_pos same]
    exact congrArg some (if_pos same).symm
  · rw [if_neg same]
    exact congrArg some (if_neg same).symm

variable (room : buffer.width * bytesPerPixel buffer.depth ≤ buffer.stride)

include room

/-- A pixel is stored in its bytes, and in no other ones. -/
theorem exists_stored_pixel {bytes : List UInt8}
    (length : bytes.length = buffer.stride * buffer.height) {pixel : Nat × Nat}
    (inside : pixel ∈ buffer.pixels) (memory : Memory) :
    ∃ after, raster.storePixel? format buffer bytes pixel = some after ∧
      after.length = bytes.length ∧
      ∀ index, after[index]? = if buffer.Owns pixel index then
          some (Conversion.byteToStore memory raster.view buffer format index)
        else bytes[index]? := by
  obtain ⟨within, high⟩ := PixelBuffer.mem_pixels_iff.mp inside
  have unit := LittleEndian.length_encode (bytesPerPixel buffer.depth)
    (Conversion.cellToStore raster.view format pixel.1 pixel.2).toNat
  have scanline : buffer.stride * (buffer.height - 1 - pixel.2) + buffer.stride ≤ bytes.length := by
    rw [length, ← Nat.mul_succ]
    exact Nat.mul_le_mul_left _ (by omega)
  have part : pixel.1 * bytesPerPixel buffer.depth +
      (LittleEndian.encode (bytesPerPixel buffer.depth)
        (Conversion.cellToStore raster.view format pixel.1 pixel.2).toNat).length ≤
      buffer.stride := by
    rw [unit]
    exact Nat.le_trans (PixelBuffer.pixel_le_line within) room
  obtain ⟨after, stored, kept, contents⟩ := exists_overwritten scanline part
  refine ⟨after, by rw [storePixel?, cellToStore?_eq whole]; exact stored, kept, fun index => ?_⟩
  rw [contents, unit]
  by_cases own : buffer.Owns pixel index
  · rw [if_pos own]
    refine (if_pos own).trans ?_
    obtain ⟨offset, rfl⟩ := Nat.exists_eq_add_of_le own.1
    have below : offset < bytesPerPixel buffer.depth := Nat.lt_of_add_lt_add_left own.2
    unfold PixelBuffer.place
    rw [Nat.add_sub_cancel_left, LittleEndian.getElem?_encode _ below,
      Conversion.byteToStore_pixel room within high below]
  · rw [if_neg own]
    exact if_neg own

/-- The pixels that are stored hold their bytes, and the rest of the scanlines holds what it
held. -/
theorem exists_stored_pixels {pixels : List (Nat × Nat)}
    (inside : ∀ pixel ∈ pixels, pixel ∈ buffer.pixels) {bytes : List UInt8}
    (length : bytes.length = buffer.stride * buffer.height) (memory : Memory) :
    ∃ after, pixels.foldlM (raster.storePixel? format buffer) bytes = some after ∧
      after.length = bytes.length ∧
      ∀ index, after[index]? = (if ∃ pixel ∈ pixels, buffer.Owns pixel index then
          some (Conversion.byteToStore memory raster.view buffer format index)
        else bytes[index]?) := by
  induction pixels generalizing bytes with
  | nil => exact ⟨bytes, rfl, rfl, fun index => by rw [if_neg]; rintro ⟨_, listed, -⟩; cases listed⟩
  | cons pixel rest ih =>
    obtain ⟨middle, first, kept, stored⟩ :=
      exists_stored_pixel whole room length (inside pixel (.head _)) memory
    obtain ⟨after, later, same, contents⟩ :=
      ih (fun other listed => inside other (.tail _ listed)) (kept.trans length)
    refine ⟨after, ?_, same.trans kept, fun index => ?_⟩
    · rw [List.foldlM_cons, first]
      exact later
    · rw [contents, stored]
      by_cases later : ∃ other ∈ rest, buffer.Owns other index <;> simp [later]

end Stored

/-- The scanlines hold the encoded bytes once every pixel is stored in them. -/
theorem foldlM_storePixel? (whole : raster.Intact) (format : Format) {memory : Memory}
    {buffer : PixelBuffer} {length : Nat} (fits : buffer.length = .ok length)
    (held : memory.holds buffer.address length = true) :
    buffer.pixels.foldlM (raster.storePixel? format buffer) (memory.slice buffer.address length) =
      some ((List.range length).map (Conversion.byteToStore memory raster.view buffer format)) := by
  obtain ⟨rfl, room⟩ := PixelBuffer.length_eq_ok fits
  have total := Memory.length_slice held
  obtain ⟨after, stored, kept, contents⟩ :=
    exists_stored_pixels whole room (fun _ listed => listed) total memory
  rw [stored]
  refine congrArg some (List.ext_getElem? fun index => ?_)
  by_cases inside : index < buffer.stride * buffer.height
  · rw [contents, List.getElem?_map, List.getElem?_range inside, Option.map_some]
    split
    · rfl
    · next unowned =>
      have high : index / buffer.stride < buffer.height := Nat.div_lt_of_lt_mul inside
      have short := Nat.mod_lt index (Nat.pos_of_mul_pos_right (Nat.zero_lt_of_lt inside))
      have parts := Nat.div_add_mod index buffer.stride
      have beyond : buffer.width * bytesPerPixel buffer.depth ≤ index % buffer.stride := by
        refine Nat.le_of_not_lt fun within => unowned ?_
        obtain ⟨column, row, offset, right, bottom, below, same⟩ :=
          Conversion.exists_pixel high within
        refine ⟨(column, row), PixelBuffer.mem_pixels_iff.mpr ⟨right, bottom⟩, ?_⟩
        unfold PixelBuffer.Owns PixelBuffer.place
        dsimp only
        omega
      have padding : some (Conversion.byteToStore memory raster.view buffer format
          (buffer.stride * (index / buffer.stride) + index % buffer.stride)) = _ :=
        Conversion.byteToStore_padding held high beyond short
      rw [parts] at padding
      rw [padding, Memory.getElem?_slice held inside]
  · rw [List.getElem?_eq_none (by omega), List.getElem?_eq_none (by simpa using inside)]

theorem encode?_eq (whole : raster.Intact) (memory : Memory) (buffer : PixelBuffer) :
    raster.encode? memory buffer = (Conversion.encode memory raster.view buffer).map some := by
  unfold encode? Conversion.encode Conversion.encoded
  cases buffer.format with
  | error cause => rfl
  | ok format =>
    cases indexed : format.isIndexed with
    | true =>
      simp only [bind, Except.bind, indexed, if_true]
      rfl
    | false =>
      by_cases other : raster.width ≠ buffer.width ∨ raster.height ≠ buffer.height
      · have seen : raster.view.width ≠ buffer.width ∨ raster.view.height ≠ buffer.height := other
        simp only [bind, Except.bind, indexed, other, seen, Bool.false_eq_true, if_true, if_false]
        rfl
      · have seen : ¬ (raster.view.width ≠ buffer.width ∨ raster.view.height ≠ buffer.height) :=
          other
        simp only [bind, Except.bind, indexed, other, seen, Bool.false_eq_true, if_false]
        cases fits : buffer.length with
        | error cause => rfl
        | ok length =>
          simp only [Memory.read, Conversion.backed]
          cases checked : memory.check buffer.address length with
          | error cause => rfl
          | ok _ =>
            have stored := foldlM_storePixel? whole format fits (Memory.check_eq_ok_iff.mp checked)
            simp only [bind, Except.bind, Except.mapError, pure, Except.pure, stored]
            rfl

end StoredRaster

/-! ### Strokes -/

/-- One step of drawing on a raster. How images are resized is a part of a stretched copy. -/
inductive Stroke where
  | cell (column row : Nat) (value : UInt32)
  | dab (column row : Nat) (colour : Colour)
  | copy (source : StoredRaster) (region : Rect) (x y : Int32)
  | stretch (resize : Patch → (width height : Nat) → Patch) (source : StoredRaster)
      (region area : Rect)

namespace Stroke

/-- The raster that is copied from. -/
def source? : Stroke → Option StoredRaster
  | cell .. => none
  | dab .. => none
  | copy source .. => some source
  | stretch _ source .. => some source

/-- What is drawn, unless a place is outside of an array. -/
def draw? (raster : StoredRaster) : Stroke → Option StoredRaster
  | cell column row value => raster.setCell? column row value
  | dab column row colour => raster.setColour? column row colour
  | copy source region x y => raster.blit? source region x y
  | stretch resize source region area => raster.stretchBy? resize source region area

/-- What is seen to be drawn. -/
def draw (image : Raster) : Stroke → Raster
  | cell column row value => image.setCell column row value
  | dab column row colour => image.setColour column row colour
  | copy source region x y => image.blit source.view region x y
  | stretch resize source region area => image.stretchBy resize source.view region area

/-- One step on an intact raster does not fail, and leaves an intact one. -/
theorem draw?_gives {raster : StoredRaster} (intact : raster.Intact) (stroke : Stroke)
    (sources : ∀ source ∈ stroke.source?, source.Intact) :
    StoredRaster.Gives (stroke.draw? raster) (stroke.draw raster.view) := by
  cases stroke with
  | cell column row value => exact intact.setCell?_gives column row value
  | dab column row colour => exact intact.setColour?_gives column row colour
  | copy source region x y => exact StoredRaster.blit?_gives intact (sources source rfl) region x y
  | stretch resize source region area =>
    exact StoredRaster.stretchBy?_gives intact (sources source rfl) resize region area

/-- One step changes neither the size nor the format. -/
theorem shape_draw (image : Raster) (stroke : Stroke) :
    (stroke.draw image).shape = image.shape := by
  cases stroke with
  | cell column row value =>
    exact Raster.shape_eq_iff.mpr
      ⟨Raster.width_setCell .., Raster.height_setCell .., Raster.format_setCell ..⟩
  | dab column row colour =>
    exact Raster.shape_eq_iff.mpr
      ⟨Raster.width_setCell .., Raster.height_setCell .., Raster.format_setCell ..⟩
  | copy source region x y => exact Raster.shape_blit ..
  | stretch resize source region area => exact Raster.shape_stretchBy ..

/-- One step does not change the palette. -/
theorem palette_draw (image : Raster) (stroke : Stroke) :
    (stroke.draw image).palette = image.palette := by
  cases stroke with
  | cell column row value => exact Raster.palette_setCell ..
  | dab column row colour => exact Raster.palette_setCell ..
  | copy source region x y => exact Raster.palette_blit ..
  | stretch resize source region area => exact Raster.palette_stretchBy ..

theorem kept_foldl_draw (image : Raster) (strokes : List Stroke) :
    (strokes.foldl draw image).shape = image.shape ∧
      (strokes.foldl draw image).palette = image.palette := by
  induction strokes generalizing image with
  | nil => exact ⟨rfl, rfl⟩
  | cons stroke rest ih =>
    obtain ⟨shape, palette⟩ := ih (stroke.draw image)
    exact ⟨shape.trans (shape_draw image stroke), palette.trans (palette_draw image stroke)⟩

end Stroke

namespace StoredRaster

/-- The rasters that there are: new ones, decoded ones, and those that were drawn on with others. -/
inductive Obtained : StoredRaster → Prop
  | blank (width height : Nat) (format : Format) : Obtained (blank width height format)
  | indexed {width height : Nat} {format : Format} {palette : Array UInt32} {raster : StoredRaster}
      (made : StoredRaster.indexed width height format palette = .ok raster) : Obtained raster
  | empty : Obtained empty
  | decoded {memory : Memory} {buffer : PixelBuffer} {palette : Option (Array UInt32)}
      {raster : StoredRaster} (read : decode memory buffer palette = .ok (some raster)) :
      Obtained raster
  | drawn {before after : StoredRaster} {stroke : Stroke} (obtained : Obtained before)
      (sources : ∀ source ∈ stroke.source?, Obtained source)
      (done : stroke.draw? before = some after) : Obtained after

/-- However it came about, a raster is intact. -/
theorem Obtained.intact {raster : StoredRaster} (obtained : Obtained raster) : raster.Intact := by
  induction obtained with
  | blank width height format => exact intact_blank width height format
  | indexed made => exact intact_of_indexed made
  | empty => exact intact_empty
  | decoded read => exact intact_of_decode read
  | drawn _ _ done whole sources =>
    obtain ⟨after, given, intact, -⟩ := Stroke.draw?_gives whole _ sources
    cases Option.some.inj (given.symm.trans done)
    exact intact

/-- The raster `final` is `start` after it was drawn on: its array fits its size and format, which
are those of `start`, it is seen as `image`, and reading, writing and encoding do not reach beyond
its array. -/
structure KeptWhole (start final : StoredRaster) (image : Raster) : Prop where
  intact : final.Intact
  width : final.width = start.width
  height : final.height = start.height
  format : final.format = start.format
  palette : final.palette = start.palette
  view : final.view = image
  cells : ∀ column row, final.cell? column row = some (image.cellAt column row)
  colours : ∀ column row, final.colour? column row = some (image.colourAt column row)
  /-- A colour is stored as a value that the format has. -/
  stores : ∀ column row colour, column < final.width → row < final.height → ∃ after value,
    final.setColour? column row colour = some after ∧ after.cell? column row = some value ∧
      final.Takes value
  encodes : ∀ memory buffer,
    final.encode? memory buffer = (Conversion.encode memory image buffer).map some

/-- A colour is stored whole. -/
theorem Intact.exists_stored_colour {raster : StoredRaster} (intact : raster.Intact)
    {column row : Nat} (right : column < raster.width) (bottom : row < raster.height)
    (colour : Colour) : ∃ after, raster.setColour? column row colour = some after ∧
      after.cell? column row = some (raster.cellFor colour) := by
  obtain ⟨after, stored, kept, seen⟩ := intact.setColour?_gives column row colour
  refine ⟨after, stored, ?_⟩
  rw [kept.cell?_eq, seen, Raster.setColour,
    Raster.cellAt_setCell intact.sound.complete ⟨right, bottom⟩, if_pos ⟨rfl, rfl⟩,
    Raster.narrow_cellFor, cellFor_view]

/-- **Rasters stay whole**, whatever is drawn on them, and however images are resized for it. -/
theorem strokes_keep_whole {start : StoredRaster} (obtained : start.Obtained)
    {strokes : List Stroke}
    (sources : ∀ stroke ∈ strokes, ∀ source ∈ stroke.source?, source.Obtained) :
    ∃ final, strokes.foldlM Stroke.draw? start = some final ∧
      KeptWhole start final (strokes.foldl Stroke.draw start.view) := by
  have one (drawn : StoredRaster) (whole : drawn.Intact) (stroke : Stroke)
    (listed : stroke ∈ strokes) :
      Gives (stroke.draw? drawn) (stroke.draw drawn.view) :=
    Stroke.draw?_gives whole stroke fun source given => (sources stroke listed source given).intact
  obtain ⟨final, drawn, intact, seen⟩ := gives_foldlM one obtained.intact
  obtain ⟨shape, palette⟩ := Stroke.kept_foldl_draw start.view strokes
  rw [← seen] at shape palette
  obtain ⟨width, height, format⟩ := Raster.shape_eq_iff.mp shape
  refine ⟨final, drawn, intact, width, height, format, palette, seen, ?_, ?_, ?_, ?_⟩
  · rw [← seen]
    exact intact.cell?_eq
  · rw [← seen]
    exact intact.colour?_eq
  · intro column row colour right bottom
    obtain ⟨after, stored, kept⟩ := intact.exists_stored_colour right bottom colour
    exact ⟨after, _, stored, kept, final.takes_cellFor colour⟩
  · rw [← seen]
    exact encode?_eq intact

/-- Two pixels of four bits with two colours: one gets the nearest of them, and the other one what
comes of a white pixel that is stretched over an area beyond the edges. -/
theorem strokes_keep_whole_two_pixels :
    let start : StoredRaster := ⟨2, 1, .indexed4, #[0x0A0A0A, 0xFF0000], .index #[0, 0]⟩
    let white : StoredRaster := ⟨1, 1, .rgb565, #[], .word #[0xFFFF]⟩
    let strokes : List Stroke :=
      [.dab 1 0 ⟨255, 200, 10, 10⟩, .stretch .nearest white ⟨-5, 0, 1, 1⟩ ⟨-1, -1, 1, 1⟩,
      .dab 1 0 ⟨0, 0, 0, 60⟩, .cell 2 0 7]
    start.Obtained ∧ (∀ stroke ∈ strokes, ∀ source ∈ stroke.source?, source.Obtained) ∧
      ∃ final, strokes.foldlM Stroke.draw? start = some final ∧
        KeptWhole start final (strokes.foldl Stroke.draw start.view) ∧
          final.store = .index #[1, 0] := by
  intro start white strokes
  have obtained : start.Obtained :=
    @Obtained.indexed 2 1 .indexed4 #[0x0A0A0A, 0xFF0000] start (by rfl)
  have painted : white.Obtained :=
    @Obtained.drawn _ white (.cell 0 0 0xABCDFFFF) (.blank 1 1 .rgb565) nofun (by rfl)
  have sources : ∀ stroke ∈ strokes, ∀ source ∈ stroke.source?, source.Obtained := by
    intro stroke listed source given
    simp only [strokes, List.mem_cons, List.not_mem_nil, or_false] at listed
    rcases listed with rfl | rfl | rfl | rfl
    · cases given
    · cases given
      exact painted
    · cases given
    · cases given
  obtain ⟨final, drawn, kept⟩ := strokes_keep_whole obtained sources
  have known : (strokes.foldlM Stroke.draw? start).map (·.store) = some (.index #[1, 0]) := by
    decide +kernel
  rw [drawn] at known
  exact ⟨obtained, sources, final, drawn, kept, Option.some.inj known⟩

end StoredRaster

end GuestDraw
