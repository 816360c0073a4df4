/-
**Copies between pixel buffers.**

A copy reads its source, draws it on a raster that is as large as the target, and stores that raster
with one write at the end. So it is done as a whole or not at all, and what it stores is made of the
pixels that the source had at the start, however the two buffers overlap.

* `PixelBuffer.pixel`: a stored pixel as a number;
* `Conversion.copyInPlace`: the copy step by step, in a memory that changes;
* `copyThrough_eq_ok_iff`: what a copy takes and what it stores;
* `pixel_copied`: the pixels that a target of the same size comes to have;
* `copies_whole`: a copy that fails changes nothing, and one that succeeds nothing but the pixels.
-/

import GuestDraw.Memory.ByteStore
import GuestDraw.Proofs.Pixel.RoundTrip
import GuestDraw.Proofs.Pixel.Stretching
import GuestDraw.Proofs.Pixel.Verbatim

namespace GuestDraw

namespace Format

/-- Formats of one depth are the same. -/
theorem eq_of_depth {first second : Format} (same : first.depth = second.depth) : first = second :=
  Option.some.inj ((ofDepth?_eq_some_iff.mpr rfl).symm.trans (ofDepth?_eq_some_iff.mpr same))

theorem isIndexed_eq_false_iff {format : Format} :
    format.isIndexed = false ↔ format.depth ∈ [15, 16, 24, 32] := by
  cases format <;> decide

/-- Depths with direct colours are those of formats. -/
theorem exists_direct {depth : Nat} (direct : depth ∈ [15, 16, 24, 32]) :
    ∃ format : Format, depth = format.depth ∧ format.isIndexed = false := by
  simp only [List.mem_cons, List.not_mem_nil, or_false] at direct
  rcases direct with rfl | rfl | rfl | rfl
  · exact ⟨rgb555, rfl, rfl⟩
  · exact ⟨rgb565, rfl, rfl⟩
  · exact ⟨rgb888, rfl, rfl⟩
  · exact ⟨argb8888, rfl, rfl⟩

theorem direct?_depth {format : Format} (direct : format.isIndexed = false) :
    direct? format.depth = some format := by
  revert direct
  cases format with
  | indexed4 | indexed8 => exact nofun
  | rgb555 | rgb565 | rgb888 | argb8888 => exact fun _ => rfl

/-- Pixels with direct colours take two bytes or more, and no more than a dword has. -/
theorem bytesPerPixel_mem {format : Format} (direct : format.isIndexed = false) :
    2 ≤ bytesPerPixel format.depth ∧ bytesPerPixel format.depth ≤ 4 := by
  revert direct
  cases format <;> decide

end Format

namespace PixelBuffer

variable {memory : Memory} {buffer : PixelBuffer} {length column row place : Nat}

/-- The scanlines fit the address space, and the memory has all of them. -/
def Backed (memory : Memory) (buffer : PixelBuffer) : Prop :=
  ∃ length, buffer.length = .ok length ∧ memory.holds buffer.address length = true

/-- The pixel that is stored in a column and a row. -/
def pixel (memory : Memory) (buffer : PixelBuffer) (column row : Nat) : UInt32 :=
  LittleEndian.dword (memory.slice (buffer.pixelAddress column row) (bytesPerPixel buffer.depth))

theorem storedCell_eq {format : Format} (plain : format ≠ .indexed4) :
    Conversion.storedCell memory buffer format column row = buffer.pixel memory column row :=
  if_neg plain

/-- A pixel shows the colour of the cell that is read for it. -/
theorem colour_storedCell (format : Format) (palette : Array UInt32) :
    format.colour palette (Conversion.storedCell memory buffer format column row) =
      format.colour palette (buffer.pixel memory column row) := by
  by_cases small : format = .indexed4
  · subst small
    have low : (buffer.pixel memory column row % 16).toNat % 16 =
        (buffer.pixel memory column row).toNat % 16 := Nat.mod_mod _ 16
    exact congrArg (Format.entryColour palette) low
  · rw [storedCell_eq small]

/-- The bytes of a pixel are those of the number. -/
theorem byte?_pixel (short : bytesPerPixel buffer.depth ≤ 4)
    (below : place < bytesPerPixel buffer.depth)
    (held : memory.holds (buffer.pixelAddress column row) (bytesPerPixel buffer.depth) = true) :
    memory.byte? (buffer.pixelAddress column row + place) =
      some (UInt8.ofNat ((buffer.pixel memory column row).toNat >>> (8 * place))) := by
  have plain : Format.argb8888 ≠ .indexed4 := nofun
  exact (Conversion.byte_storedCell plain short below held).symm

theorem length_lt (fits : buffer.length = .ok length) : length < addressSpace := by
  unfold PixelBuffer.length at fits
  dsimp only at fits
  split at fits
  · next both => exact Except.ok.inj fits ▸ both.2
  · cases fits

/-- Signed numbers of 32 bits reach every pixel of a buffer whose pixels take two bytes or more. -/
theorem reach_of_length (fits : buffer.length = .ok length) (wide : 2 ≤ bytesPerPixel buffer.depth)
    (inside : column < buffer.width) (high : row < buffer.height) :
    column < 0x7FFFFFFF ∧ row < 0x7FFFFFFF := by
  obtain ⟨total, room⟩ := length_eq_ok fits
  have small : buffer.stride * buffer.height < 0x100000000 := total ▸ length_lt fits
  have line : buffer.width * 2 ≤ buffer.stride := Nat.le_trans (Nat.mul_le_mul_left _ wide) room
  have lines : buffer.stride * 1 ≤ buffer.stride * buffer.height :=
    Nat.mul_le_mul_left _ (Nat.zero_lt_of_lt high)
  have rows : 2 * buffer.height ≤ buffer.stride * buffer.height :=
    Nat.mul_le_mul_right _ (by omega)
  omega

end PixelBuffer

/-! ### Drawing -/

namespace Raster

variable {canvas image : Raster} {column row : Nat}
  {stretch : Raster → Raster → Rect → Rect → Raster}

theorem shape_overlaid
    (kept : ∀ region area, (stretch canvas image region area).shape = canvas.shape) :
    (canvas.overlaid stretch image).shape = canvas.shape := by
  unfold overlaid
  split
  · exact shape_blit canvas image _ _ _
  · exact kept _ _

theorem originColumn_bounds (image : Raster) (column : Nat) :
    image.bounds.originColumn 0 column = column := by
  show (column : Int) - 0 + 0 = column
  omega

theorem originRow_bounds (image : Raster) (row : Nat) : image.bounds.originRow 0 row = row := by
  show (row : Int) - 0 + 0 = row
  omega

/-- An image of the same size comes to lie pixel on pixel. -/
theorem assigned_whole (width : image.width = canvas.width) (height : image.height = canvas.height)
    (inside : column < canvas.width ∧ row < canvas.height)
    (reach : column < 0x7FFFFFFF ∧ row < 0x7FFFFFFF) :
    canvas.Assigned image image.bounds 0 0 column row := by
  have there : ∀ raster : Raster, column < raster.width → row < raster.height →
      raster.reached.Has column row := by
    intro raster right bottom
    exact ⟨⟨Int.natCast_nonneg _, Int.ofNat_lt.mpr (Nat.lt_min.mpr ⟨right, reach.1⟩)⟩,
      Int.natCast_nonneg _, Int.ofNat_lt.mpr (Nat.lt_min.mpr ⟨bottom, reach.2⟩)⟩
  have shown := there image (width ▸ inside.1) (height ▸ inside.2)
  rw [Assigned, Shown, originColumn_bounds, originRow_bounds, ← bounds_reached,
    image.withinReach_reached.covers_bounds]
  exact ⟨there canvas inside.1 inside.2, shown, shown⟩

/-- An image of the same size leaves in every pixel what is carried over from the same place. -/
theorem cellAt_overlaid (complete : canvas.cells.size = canvas.width * canvas.height)
    (width : image.width = canvas.width) (height : image.height = canvas.height)
    (inside : column < canvas.width ∧ row < canvas.height)
    (reach : column < 0x7FFFFFFF ∧ row < 0x7FFFFFFF) :
    (canvas.overlaid stretch image).cellAt column row =
      canvas.format.cellKind.narrow (canvas.carried image (canvas.agrees image) column row) := by
  rw [overlaid, if_pos ⟨width, height⟩, cellAt_blit_of_inside complete inside,
    if_pos (assigned_whole width height inside reach), brought, originColumn_bounds,
    originRow_bounds, Int.toNat_natCast, Int.toNat_natCast]

/-- A blank raster with direct colours suits any buffer of its size and depth. -/
theorem suits_blank {buffer : PixelBuffer} {format : Format} (depth : buffer.depth = format.depth) :
    (blank buffer.width buffer.height format).Suits buffer := by
  refine (sound_blank buffer.width buffer.height format).suits rfl rfl depth.symm fun _ cell inside => ?_
  obtain ⟨-, rfl⟩ := Array.mem_replicate.mp inside
  decide

end Raster

namespace Conversion

variable {memory after : Memory} {source target : PixelBuffer}
  {sourcePalette targetPalette : Option (Array UInt32)}
  {stretch : Raster → Raster → Rect → Rect → Raster}

/-! ### Step by step -/

/-- A step that looks at memory. -/
def looking {α : Type} (look : Memory → Except PixelError α) : EStateM PixelError Memory α :=
  fun memory =>
    match look memory with
    | .ok value => .ok value memory
    | .error cause => .error cause memory

/-- A step that stores bytes, as far as the memory takes them. -/
def storing (address : Nat) (data : List UInt8) : EStateM PixelError Memory Unit := fun memory =>
  match (ByteStore.write address data : EStateM MemoryError Memory Unit) memory with
  | .ok _ after => .ok () after
  | .error cause after => .error (.memory cause) after

/-- Copies `source` to `target` in a memory that changes: every step finds what those before it have
left. -/
def copyInPlace (stretch : Raster → Raster → Rect → Rect → Raster) (source : PixelBuffer)
    (sourcePalette : Option (Array UInt32)) (target : PixelBuffer)
    (targetPalette : Option (Array UInt32)) : EStateM PixelError Memory Unit := do
  let image ← looking fun memory => decode memory source sourcePalette
  let canvas ← looking fun memory => canvas memory target targetPalette
  let data ← looking fun memory => encoded memory (canvas.overlaid stretch image) target
  storing target.address data

/-- What is encoded fits the memory. -/
theorem holds_of_encoded {raster : Raster} {data : List UInt8}
    (stored : encoded memory raster target = .ok data) :
    memory.holds target.address data.length = true := by
  obtain ⟨-, length, -, -, -, -, fits, held, -⟩ := encoded_eq_ok_iff.mp stored
  rw [length_of_encoded stored, ← (PixelBuffer.length_eq_ok fits).1]
  exact held

/-- What the steps leave behind is what the copy as a whole gives, or after a failure what there
was. -/
theorem copyInPlace_eq (stretch : Raster → Raster → Rect → Rect → Raster) (memory : Memory)
    (source target : PixelBuffer) (sourcePalette targetPalette : Option (Array UInt32)) :
    copyInPlace stretch source sourcePalette target targetPalette memory =
      match copyThrough stretch memory source sourcePalette target targetPalette with
      | .ok after => .ok () after
      | .error cause => .error cause memory := by
  show EStateM.bind _ _ memory = _
  unfold copyThrough
  cases decoded : decode memory source sourcePalette with
  | error cause => simp only [EStateM.bind, looking, decoded, bind, Except.bind]
  | ok image =>
    cases drawn : canvas memory target targetPalette with
    | error cause => simp only [EStateM.bind, looking, decoded, drawn, bind, Except.bind]
    | ok canvas =>
      cases stored : encoded memory (canvas.overlaid stretch image) target with
      | error cause =>
        simp only [EStateM.bind, looking, decoded, drawn, stored, bind, Except.bind, encode]
      | ok data =>
        -- The write cannot be refused: the same range was checked before the bytes were put
        -- together.
        simp only [EStateM.bind, looking, decoded, drawn, stored, bind,
          Except.bind, encode, storing,
          ByteStore.write, Memory.check_eq_ok_iff.mpr (holds_of_encoded stored)]
        rfl

/-! ### What is copied -/

/-- Where the depth is one with direct colours, a copy draws on a blank raster. -/
theorem canvas_eq {format : Format} (depth : target.depth = format.depth)
    (direct : format.isIndexed = false) :
    canvas memory target targetPalette = .ok (.blank target.width target.height format) := by
  have wide : target.depth ≠ 8 := by
    rw [depth]
    revert direct
    cases format <;> decide
  rw [canvas, if_neg wide, depth, Format.direct?_depth direct]

/-- A copy draws on a sound raster. -/
theorem sound_of_canvas {raster : Raster}
    (drawn : canvas memory target targetPalette = .ok raster) :
    raster.Sound := by
  unfold canvas at drawn
  split at drawn
  · exact Raster.sound_of_decode drawn
  · split at drawn
    · cases drawn
      exact Raster.sound_blank _ _ _
    · cases drawn

/-- What a copy takes, and what it stores. -/
theorem copyThrough_eq_ok_iff :
    copyThrough stretch memory source sourcePalette target targetPalette = .ok after ↔
      ∃ image format data, decode memory source sourcePalette = .ok image ∧
        target.depth = format.depth ∧ format.isIndexed = false ∧
        encoded memory ((Raster.blank target.width target.height format).overlaid stretch image)
          target = .ok data ∧
        after = memory.put target.address data := by
  unfold copyThrough
  simp only [bind_eq_ok_iff, encode_eq_ok_iff]
  constructor
  · rintro ⟨image, decoded, canvas, drawn, data, stored, rfl⟩
    obtain ⟨format, -, depth, direct, -⟩ := encoded_eq_ok_iff.mp stored
    obtain rfl := Except.ok.inj ((canvas_eq depth direct).symm.trans drawn)
    exact ⟨image, format, data, decoded, depth, direct, stored, rfl⟩
  · rintro ⟨image, format, data, decoded, depth, direct, stored, rfl⟩
    exact ⟨image, decoded, _, canvas_eq depth direct, data, stored, rfl⟩

/-- A copy is done where the source can be read and the target has direct colours and is backed. -/
theorem exists_copyThrough_iff (kept : ∀ canvas image region area,
      (stretch canvas image region area).shape = canvas.shape) :
    (∃ after, copyThrough stretch memory source sourcePalette target targetPalette = .ok after) ↔
      (∃ image, decode memory source sourcePalette = .ok image) ∧ target.depth ∈ [15, 16, 24, 32] ∧
        target.Backed memory := by
  constructor
  · rintro ⟨after, copied⟩
    obtain ⟨image, format, data, decoded, depth, direct, stored, -⟩ :=
      copyThrough_eq_ok_iff.mp copied
    obtain ⟨-, length, -, -, -, -, fits, held, -⟩ := encoded_eq_ok_iff.mp stored
    exact ⟨⟨image, decoded⟩, depth ▸ Format.isIndexed_eq_false_iff.mp direct, length, fits, held⟩
  · rintro ⟨⟨image, decoded⟩, depth, length, fits, held⟩
    obtain ⟨format, known, direct⟩ := Format.exists_direct depth
    let canvas : Raster := .blank target.width target.height format
    obtain ⟨width, height, -⟩ :=
      Raster.shape_eq_iff.mp (canvas.shape_overlaid (kept canvas image))
    exact ⟨_, copyThrough_eq_ok_iff.mpr ⟨image, format, _, decoded, known, direct,
      encoded_eq_ok_iff.mpr ⟨format, length, known, direct, width, height, fits, held, rfl⟩, rfl⟩⟩

theorem exists_copyBy_iff {resize : Patch → (width height : Nat) → Patch} :
    (∃ after, copyBy resize memory source sourcePalette target targetPalette = .ok after) ↔
      (∃ image, decode memory source sourcePalette = .ok image) ∧ target.depth ∈ [15, 16, 24, 32] ∧
        target.Backed memory :=
  exists_copyThrough_iff fun canvas => canvas.shape_stretchBy resize

/-- The colours of an image that was decoded are read with the palette that was given. -/
theorem colour_of_decode {image : Raster} (decoded : decode memory source sourcePalette = .ok image)
    (cell : UInt32) :
    image.format.colour image.palette cell =
      image.format.colour (sourcePalette.getD #[]) cell := by
  obtain ⟨format, entries, -, -, chosen, -, -, rfl⟩ := decode_eq_ok_iff.mp decoded
  show format.colour entries cell = format.colour (sourcePalette.getD #[]) cell
  cases direct : format.isIndexed with
  | false => exact Format.colour_congr direct (fun _ _ => rfl) _ _
  | true =>
    unfold paletteFor at chosen
    rw [if_pos direct] at chosen
    cases sourcePalette with
    | none => cases chosen
    | some given =>
      dsimp only at chosen
      split at chosen
      · cases chosen
      · rw [← Except.ok.inj chosen]
        rfl

/-- What a raster with direct colours is given for a pixel of a decoded image: the pixel itself if
the format is the same, otherwise what stands for its colour. -/
theorem narrow_carried {canvas image : Raster} {column row : Nat}
    (direct : canvas.format.isIndexed = false) (plain : canvas.palette = #[])
    (decoded : decode memory source sourcePalette = .ok image) (inside : column < source.width)
    (high : row < source.height) :
    canvas.format.cellKind.narrow (canvas.carried image (canvas.agrees image) column row) =
      if image.format = canvas.format then source.pixel memory column row
      else canvas.format.pack
        (image.format.colour (sourcePalette.getD #[]) (source.pixel memory column row)) := by
  have cell := cellAt_of_decode decoded inside high
  by_cases same : image.format = canvas.format
  · -- Neither raster has a palette, so that the formats alone decide whether cells are carried over.
    have uncoloured := (suits_of_decode decoded).plain (same ▸ direct)
    have agreed := Raster.agrees_iff.mpr ⟨same.symm, plain.trans uncoloured.symm⟩
    have kept := (Raster.sound_of_decode decoded).narrow_cellAt column row
    rw [same] at kept
    rw [if_pos same, agreed, Raster.carried, if_pos rfl]
    refine kept.trans (cell.trans (PixelBuffer.storedCell_eq fun small => ?_))
    rw [← same, small] at direct
    cases direct
  · have differs : canvas.agrees image = false :=
      eq_false_of_ne_true fun agreed => same (Raster.agrees_iff.mp agreed).1.symm
    rw [if_neg same, differs, Raster.carried, if_neg Bool.false_ne_true, Raster.narrow_cellFor,
      ← PixelBuffer.colour_storedCell, ← cell, ← colour_of_decode decoded]
    exact if_neg (ne_true_of_eq_false direct)

/-- What was encoded is what the pixels hold. -/
theorem pixel_of_encoded {raster : Raster} {data : List UInt8} {column row : Nat}
    (suits : raster.Suits target) (stored : encoded memory raster target = .ok data)
    (inside : column < target.width) (high : row < target.height) :
    target.pixel (memory.put target.address data) column row = raster.cellAt column row := by
  obtain ⟨format, -, depth, direct, -⟩ := encoded_eq_ok_iff.mp stored
  obtain rfl : raster.format = format := Format.eq_of_depth (suits.depth.symm.trans depth)
  refine (PixelBuffer.storedCell_eq fun small => ?_).symm.trans
    (cellAt_of_decode (decode_of_encoded suits stored none) inside high).symm
  rw [small] at direct
  cases direct

/-- **The pixels of a copy of the same size**: with the same depth those of the source, otherwise
what is stored for the colours that they show. -/
theorem pixel_copied {shown stored : Format} {column row : Nat} (read : source.depth = shown.depth)
    (written : target.depth = stored.depth) (width : source.width = target.width)
    (height : source.height = target.height)
    (copied : copyThrough stretch memory source sourcePalette target targetPalette = .ok after)
    (inside : column < target.width) (high : row < target.height) :
    target.pixel after column row =
      if shown = stored then source.pixel memory column row
      else stored.pack (shown.colour (sourcePalette.getD #[]) (source.pixel memory column row)) := by
  obtain ⟨image, format, data, decoded, depth, direct, encoded, rfl⟩ :=
    copyThrough_eq_ok_iff.mp copied
  obtain rfl : stored = format := Format.eq_of_depth (written.symm.trans depth)
  have given := suits_of_decode decoded
  obtain rfl : shown = image.format := Format.eq_of_depth (read.symm.trans given.depth)
  let canvas : Raster := .blank target.width target.height stored
  have blank : canvas.Suits target := Raster.suits_blank depth
  have wide : image.width = canvas.width := given.width.trans width
  have tall : image.height = canvas.height := given.height.trans height
  have suits : (canvas.overlaid stretch image).Suits target := by
    rw [Raster.overlaid, if_pos ⟨wide, tall⟩]
    exact blank.blit given _ _ _
  obtain ⟨-, length, -, -, -, -, fits, -, -⟩ := encoded_eq_ok_iff.mp encoded
  -- The rectangles of the copy stop where signed numbers end, but no pixel lies beyond.
  have reach := PixelBuffer.reach_of_length fits
    (depth ▸ (Format.bytesPerPixel_mem direct).1) inside high
  rw [pixel_of_encoded suits encoded inside high,
    Raster.cellAt_overlaid blank.complete wide tall ⟨inside, high⟩ reach]
  exact narrow_carried direct (blank.plain direct) decoded (width.symm ▸ inside) (height.symm ▸ high)

end Conversion

/-! ### Whole or not at all -/

/-- From `memory` to `after` a copy of `source` was stored in `target`. Nothing changes but the
pixels, and they are made of those that `source` has in `memory`. -/
structure Copied (memory : Memory) (source : PixelBuffer) (palette : Option (Array UInt32))
    (after : Memory) (target : PixelBuffer) : Prop where
  base : after.base = memory.base
  size : after.size = memory.size
  padding : ∀ line place, line < target.height → target.width * bytesPerPixel target.depth ≤ place →
    place < target.stride → after.byte? (target.address + (target.stride * line + place)) =
      memory.byte? (target.address + (target.stride * line + place))
  outside : ∀ point, ¬ target.Covers point → after.byte? point = memory.byte? point
  /-- If the sizes are the same, every pixel holds the colour that the source has in its place, and
  no bit that does not count is set where the depths differ. -/
  colours : source.width = target.width → source.height = target.height →
    ∃ shown stored : Format, source.depth = shown.depth ∧ target.depth = stored.depth ∧
      ∀ column row, column < target.width → row < target.height →
        stored.Encodes (shown.colour (palette.getD #[]) (source.pixel memory column row))
            (target.pixel after column row) ∧
          (source.depth ≠ target.depth → target.pixel after column row =
            stored.pack (shown.colour (palette.getD #[]) (source.pixel memory column row)))
  /-- If the depths are the same too, every pixel has the bytes that the source has in its place. -/
  bytes : source.width = target.width → source.height = target.height →
    source.depth = target.depth →
    ∀ column row place, column < target.width → row < target.height →
      place < bytesPerPixel target.depth →
      after.byte? (target.pixelAddress column row + place) =
        memory.byte? (source.pixelAddress column row + place)

/-- A copy is done as a whole or not at all, and reads what there was before. -/
structure CopiesWhole (resize : Patch → (width height : Nat) → Patch) (memory : Memory)
    (source : PixelBuffer) (sourcePalette : Option (Array UInt32)) (target : PixelBuffer)
    (targetPalette : Option (Array UInt32)) : Prop where
  /-- A copy step by step leaves what it gives as a whole, and what there was if it fails. -/
  atomic :
    Conversion.copyInPlace (·.stretchBy resize) source sourcePalette target targetPalette memory =
    match Conversion.copyBy resize memory source sourcePalette target targetPalette with
    | .ok after => .ok () after
    | .error cause => .error cause memory
  succeeds :
    (∃ after,
      Conversion.copyBy resize memory source sourcePalette target targetPalette = .ok after) ↔
      (∃ image, Conversion.decode memory source sourcePalette = .ok image) ∧
        target.depth ∈ [15, 16, 24, 32] ∧ target.Backed memory
  /-- Palette indices are never written. -/
  indexed : target.depth ∈ [4, 8] → ∃ cause,
    Conversion.copyBy resize memory source sourcePalette target targetPalette = .error cause
  copied : ∀ after,
    Conversion.copyBy resize memory source sourcePalette target targetPalette = .ok after →
      Copied memory source sourcePalette after target

namespace Conversion

variable {memory after : Memory} {source target : PixelBuffer}
  {sourcePalette targetPalette : Option (Array UInt32)}
  {stretch : Raster → Raster → Rect → Rect → Raster}

/-- The pixels of both buffers are there before and after a copy. -/
theorem holds_of_copy
    (copied : copyThrough stretch memory source sourcePalette target targetPalette = .ok after) :
    (∀ column row, column < source.width → row < source.height →
        memory.holds (source.pixelAddress column row) (bytesPerPixel source.depth) = true) ∧
      ∀ column row, column < target.width → row < target.height →
        after.holds (target.pixelAddress column row) (bytesPerPixel target.depth) = true := by
  obtain ⟨image, format, data, decoded, -, -, encoded, rfl⟩ := copyThrough_eq_ok_iff.mp copied
  obtain ⟨-, -, length, -, -, fits, held, -⟩ := decode_eq_ok_iff.mp decoded
  obtain ⟨-, total, -, -, -, -, sized, backed, -⟩ := encoded_eq_ok_iff.mp encoded
  refine ⟨fun column row inside high => PixelBuffer.holds_pixel fits inside high held,
    fun column row inside high => ?_⟩
  rw [Memory.holds_put]
  exact PixelBuffer.holds_pixel sized inside high backed

/-- Where a copy draws, one may go through the pixels of the target. -/
theorem copy_eq_copyBy (memory : Memory) (source target : PixelBuffer)
    (sourcePalette targetPalette : Option (Array UInt32)) :
    copy memory source sourcePalette target targetPalette =
      copyBy Patch.nearest memory source sourcePalette target targetPalette := by
  unfold copy copyBy copyThrough
  cases decode memory source sourcePalette with
  | error cause => simp only [bind, Except.bind]
  | ok image =>
    cases drawn : canvas memory target targetPalette with
    | error cause => simp only [bind, Except.bind]
    | ok canvas =>
      have same : canvas.overlaid Raster.stretch image =
          canvas.overlaid (·.stretchBy Patch.nearest) image := by
        unfold Raster.overlaid
        rw [Raster.stretch_eq_stretchBy (sound_of_canvas drawn)]
      simp only [bind, Except.bind, same]

/-- A copy stores the pixels of its source and nothing else. -/
theorem copied_of_copy
    (copied : copyThrough stretch memory source sourcePalette target targetPalette = .ok after) :
    Copied memory source sourcePalette after target := by
  obtain ⟨image, stored, data, decoded, depth, direct, encoded, rfl⟩ :=
    copyThrough_eq_ok_iff.mp copied
  have given := suits_of_decode decoded
  obtain ⟨fromThere, toHere⟩ := holds_of_copy copied
  refine ⟨rfl, Memory.size_put _ _ _, fun line place high beyond short => ?_,
    fun point outside => byte?_of_encoded encoded (holds_of_encoded encoded) outside,
    fun width height => ⟨image.format, stored, given.depth, depth,
      fun column row inside high => ?_⟩,
    fun width height same column row place inside high below => ?_⟩
  · have held := holds_of_encoded encoded
    rw [length_of_encoded encoded] at held
    exact (byte?_scanline encoded depth (PixelBuffer.place_lt_length high short)).trans
      (byteToStore_padding held high beyond short)
  · have pixel := pixel_copied given.depth depth width height copied inside high
    by_cases same : image.format = stored
    · rw [if_pos same] at pixel
      refine ⟨?_, fun different => absurd (given.depth.trans (same ▸ depth.symm)) different⟩
      rw [pixel, ← same]
      exact Format.encodes_colour _ _ _
    · rw [if_neg same] at pixel
      rw [pixel]
      exact ⟨Format.encodes_pack _ _, fun _ => rfl⟩
  · have agreed : image.format = stored :=
      Format.eq_of_depth (given.depth.symm.trans (same.trans depth))
    have pixel := pixel_copied given.depth depth width height copied inside high
    rw [if_pos agreed] at pixel
    have short : bytesPerPixel target.depth ≤ 4 := depth ▸ (Format.bytesPerPixel_mem direct).2
    rw [PixelBuffer.byte?_pixel short below (toHere column row inside high), pixel,
      PixelBuffer.byte?_pixel (same ▸ short) (same ▸ below)
        (fromThere column row (width ▸ inside) (height ▸ high))]

end Conversion

/-- **A copy is done as a whole or not at all**, and what it stores are the pixels that the source
had before, wherever both buffers lie. Nothing has to be known of how images are resized. The copy
that takes the nearest pixels is one of these. -/
theorem copies_whole (memory : Memory) (source target : PixelBuffer)
    (sourcePalette targetPalette : Option (Array UInt32)) :
    (∀ resize, CopiesWhole resize memory source sourcePalette target targetPalette) ∧
      Conversion.copy memory source sourcePalette target targetPalette =
        Conversion.copyBy Patch.nearest memory source sourcePalette target targetPalette := by
  refine ⟨fun resize => ?_,
    Conversion.copy_eq_copyBy memory source target sourcePalette targetPalette⟩
  refine ⟨Conversion.copyInPlace_eq _ memory source target sourcePalette targetPalette,
    Conversion.exists_copyBy_iff, fun depth => ?_, fun after => Conversion.copied_of_copy⟩
  cases ended : Conversion.copyBy resize memory source sourcePalette target targetPalette with
  | error cause => exact ⟨cause, rfl⟩
  | ok after =>
    obtain ⟨-, direct, -⟩ := Conversion.exists_copyBy_iff.mp ⟨after, ended⟩
    simp only [List.mem_cons, List.not_mem_nil, or_false] at depth direct
    omega

/-- A row of two pixels that is copied onto its own second pixel is read before it is
overwritten. -/
example :
    Conversion.copy ⟨0, #[1, 2, 3, 4, 5, 6], by decide⟩ ⟨0, 16, 2, 1⟩ none ⟨2, 16, 2, 1⟩ none =
    .ok ⟨0, #[1, 2, 1, 2, 3, 4], by decide⟩ := by
  rfl

end GuestDraw
