/-
**Decoding and encoding.**

A pixel buffer in guest memory is decoded into a raster and a raster is encoded into it. A raster
can be kept for the pixels of a buffer as long as it `Suits` the buffer: it has its size and its
format, and every cell fits the bytes of a pixel.

* `decode_congr`: decoding looks at the bytes of the scanlines and at nothing else;
* `suits_of_decode`, `Raster.Suits.blit`: what was decoded suits the buffer, and goes on to do so
  when rasters are copied onto it;
* `decode_of_encoded`: a raster that suits the buffer is read back as it was written.
-/

import GuestDraw.Pixel.Conversion

namespace GuestDraw

/-- Computations that can fail are put together from computations that succeed. -/
theorem bind_eq_ok_iff {ε α β : Type} {first : Except ε α} {rest : α → Except ε β} {value : β} :
    (first >>= rest) = .ok value ↔ ∃ middle, first = .ok middle ∧ rest middle = .ok value := by
  cases first with
  | error cause => exact ⟨(fun failed => nomatch failed), fun ⟨_, failed, _⟩ => nomatch failed⟩
  | ok middle => exact ⟨fun done => ⟨middle, rfl, done⟩, fun ⟨_, rfl, done⟩ => done⟩

/-! ### Numbers in bytes -/

namespace LittleEndian

theorem value_lt (bytes : List UInt8) : value bytes < capacity bytes.length := by
  induction bytes with
  | nil => exact Nat.one_pos
  | cons byte rest ih =>
    have below : byte.toNat < 256 := byte.toNat_lt
    rw [List.length_cons, value, capacity]
    omega

theorem toNat_dword_lt (bytes : List UInt8) : (dword bytes).toNat < capacity bytes.length := by
  rw [dword, UInt32.toNat_ofNat']
  exact Nat.lt_of_le_of_lt (Nat.mod_le _ _) (value_lt bytes)

theorem getElem?_encode {count place : Nat} (number : Nat) (inside : place < count) :
    (encode count number)[place]? = some (UInt8.ofNat (number >>> (8 * place))) := by
  induction count generalizing number place with
  | zero => cases inside
  | succ count ih =>
    cases place with
    | zero => rfl
    | succ place =>
      have shifted : number / 256 = number >>> 8 := (Nat.shiftRight_eq_div_pow number 8).symm
      rw [encode, List.getElem?_cons_succ, ih _ (Nat.lt_of_succ_lt_succ inside), shifted,
        ← Nat.shiftRight_add, Nat.mul_succ, Nat.add_comm]

/-- A dword that fits `count` bytes is read back from them. -/
theorem dword_encode {count : Nat} {word : UInt32} (fits : word.toNat < capacity count) :
    dword (encode count word.toNat) = word := by
  rw [dword, value_encode, Nat.mod_eq_of_lt fits, UInt32.ofNat_toNat]

end LittleEndian

theorem Memory.slice_congr {first second : Memory} {address length : Nat}
    (backed : first.holds address length = true) (backedSecond : second.holds address length = true)
    (same : ∀ point, address ≤ point → point < address + length →
      second.byte? point = first.byte? point) :
    second.slice address length = first.slice address length := by
  refine List.ext_getElem? fun index => ?_
  by_cases inside : index < length
  · rw [getElem?_slice backed inside, getElem?_slice backedSecond inside,
      same _ (Nat.le_add_right _ _) (Nat.add_lt_add_left inside _)]
  · rw [List.getElem?_eq_none (by rw [length_slice backedSecond]; omega),
      List.getElem?_eq_none (by rw [length_slice backed]; omega)]

/-! ### The scanlines -/

namespace PixelBuffer

variable {buffer : PixelBuffer}

/-- The byte belongs to a scanline of the buffer. -/
def Covers (buffer : PixelBuffer) (point : Nat) : Prop :=
  buffer.address ≤ point ∧ point < buffer.address + buffer.stride * buffer.height

/-- The pitch of a buffer that fits the address space was not cut off. -/
theorem stride_eq {length : Nat} (fits : buffer.length = .ok length) :
    buffer.stride = exactPitch buffer.width buffer.depth := by
  unfold PixelBuffer.length at fits
  dsimp only at fits
  split at fits
  · next short => rw [stride, pitch, if_pos short.1]
  · cases fits

theorem length_eq_ok {length : Nat} (fits : buffer.length = .ok length) :
    length = buffer.stride * buffer.height ∧
      buffer.width * bytesPerPixel buffer.depth ≤ buffer.stride := by
  rw [stride_eq fits]
  unfold PixelBuffer.length at fits
  dsimp only at fits
  split at fits
  · cases fits
    refine ⟨rfl, ?_⟩
    unfold exactPitch
    omega
  · cases fits

/-- The place of a pixel in the bytes of the buffer. -/
theorem pixelAddress_eq (buffer : PixelBuffer) (column row : Nat) :
    buffer.pixelAddress column row = buffer.address +
      (buffer.stride * (buffer.height - 1 - row) + column * bytesPerPixel buffer.depth) := by
  rw [pixelAddress, Nat.mul_comm, Nat.add_assoc]

theorem pixel_le_line {column : Nat} (inside : column < buffer.width) :
    column * bytesPerPixel buffer.depth + bytesPerPixel buffer.depth ≤
      buffer.width * bytesPerPixel buffer.depth := by
  rw [← Nat.succ_mul]
  exact Nat.mul_le_mul_right _ inside

/-- The bytes of a pixel belong to a scanline. -/
theorem pixel_le_length {column row : Nat}
    (room : buffer.width * bytesPerPixel buffer.depth ≤ buffer.stride) (inside : column < buffer.width)
    (high : row < buffer.height) :
    buffer.stride * (buffer.height - 1 - row) + column * bytesPerPixel buffer.depth +
      bytesPerPixel buffer.depth ≤ buffer.stride * buffer.height := by
  have inLine := pixel_le_line inside
  have lines : buffer.stride * (buffer.height - 1 - row + 1) ≤ buffer.stride * buffer.height :=
    Nat.mul_le_mul_left _ (by omega)
  rw [Nat.mul_succ] at lines
  omega

section Pixels

variable {length column row : Nat} (fits : buffer.length = .ok length) (inside : column < buffer.width)
  (high : row < buffer.height)

include fits inside high

theorem covers_pixel {point : Nat} (above : buffer.pixelAddress column row ≤ point)
    (below : point < buffer.pixelAddress column row + bytesPerPixel buffer.depth) :
    buffer.Covers point := by
  obtain ⟨rfl, room⟩ := length_eq_ok fits
  have place := buffer.pixelAddress_eq column row
  have ends := pixel_le_length room inside high
  unfold Covers
  omega

theorem holds_pixel {memory : Memory} (held : memory.holds buffer.address length = true) :
    memory.holds (buffer.pixelAddress column row) (bytesPerPixel buffer.depth) = true := by
  obtain ⟨rfl, room⟩ := length_eq_ok fits
  have place := buffer.pixelAddress_eq column row
  have ends := pixel_le_length room inside high
  rw [Memory.holds_iff] at held ⊢
  omega

end Pixels

end PixelBuffer

theorem Format.ofDepth?_eq_some_iff {depth : Nat} {format : Format} :
    Format.ofDepth? depth = some format ↔ depth = format.depth := by
  constructor
  · unfold Format.ofDepth? Format.direct?
    split
    · rintro ⟨⟩; rfl
    · rintro ⟨⟩; rfl
    · split <;> rintro ⟨⟩ <;> rfl
  · rintro rfl
    cases format <;> rfl

/-! ### Decoding -/

namespace Raster

/-- A raster for the pixels of a buffer. -/
structure Suits (raster : Raster) (buffer : PixelBuffer) : Prop where
  width : raster.width = buffer.width
  height : raster.height = buffer.height
  depth : buffer.depth = raster.format.depth
  complete : raster.cells.size = raster.width * raster.height
  /-- Every cell fits the bytes of a pixel. -/
  narrow : ∀ cell ∈ raster.cells,
    cell.toNat < LittleEndian.capacity (bytesPerPixel raster.format.depth)
  plain : raster.format.isIndexed = false → raster.palette = #[]

theorem generate_congr {width height : Nat} {format : Format} {palette : Array UInt32}
    {first second : Nat → Nat → UInt32}
    (same : ∀ column row, column < width → row < height → second column row = first column row) :
    generate width height format palette second = generate width height format palette first := by
  have cells : (fun index : Fin (width * height) => second (index.val % width) (index.val / width)) =
      fun index : Fin (width * height) => first (index.val % width) (index.val / width) := by
    funext index
    have positive : 0 < width := Nat.pos_of_mul_pos_right (Nat.zero_lt_of_lt index.isLt)
    exact same _ _ (Nat.mod_lt _ positive) (Nat.div_lt_of_lt_mul index.isLt)
  rw [generate, generate, cells]

end Raster

namespace Conversion

variable {memory : Memory} {buffer : PixelBuffer} {palette : Option (Array UInt32)} {raster : Raster}

theorem format_eq_ok_iff {format : Format} :
    buffer.format = .ok format ↔ buffer.depth = format.depth := by
  rw [← Format.ofDepth?_eq_some_iff, PixelBuffer.format]
  cases Format.ofDepth? buffer.depth with
  | none => simp
  | some known => simp

theorem backed_eq_ok_iff {length : Nat} :
    backed memory buffer length = .ok () ↔ memory.holds buffer.address length = true := by
  rw [← Memory.check_eq_ok_iff, backed]
  cases memory.check buffer.address length with
  | error cause => exact ⟨(fun failed => nomatch failed), fun failed => nomatch failed⟩
  | ok _ => exact ⟨fun _ => rfl, fun _ => rfl⟩

/-- What decoding a buffer takes, and what it gives. -/
theorem decode_eq_ok_iff : decode memory buffer palette = .ok raster ↔
    ∃ format entries length, buffer.depth = format.depth ∧ paletteFor format palette = .ok entries ∧
      buffer.length = .ok length ∧ memory.holds buffer.address length = true ∧
      raster = .generate buffer.width buffer.height format entries
        (storedCell memory buffer format) := by
  unfold decode
  simp only [bind_eq_ok_iff, format_eq_ok_iff]
  constructor
  · rintro ⟨format, depth, entries, chosen, length, fits, _, held, decoded⟩
    cases decoded
    exact ⟨format, entries, length, depth, chosen, fits, backed_eq_ok_iff.mp held, rfl⟩
  · rintro ⟨format, entries, length, depth, chosen, fits, held, rfl⟩
    exact ⟨format, depth, entries, chosen, length, fits, (), backed_eq_ok_iff.mpr held, rfl⟩

section Congr

variable {other : Memory} (base : other.base = memory.base) (size : other.size = memory.size)
  (same : ∀ point, buffer.Covers point → other.byte? point = memory.byte? point)

include base size same

theorem generate_storedCell_congr {length : Nat} (fits : buffer.length = .ok length)
    (held : memory.holds buffer.address length = true) (format : Format) (entries : Array UInt32) :
    Raster.generate buffer.width buffer.height format entries (storedCell other buffer format) =
      Raster.generate buffer.width buffer.height format entries (storedCell memory buffer format) := by
  refine Raster.generate_congr fun column row inside high => ?_
  have there := PixelBuffer.holds_pixel fits inside high held
  have thereToo : other.holds (buffer.pixelAddress column row) (bytesPerPixel buffer.depth) = true := by
    rw [Memory.holds, base, size]
    exact there
  rw [storedCell, storedCell, Memory.slice_congr there thereToo
    fun point above below => same point (PixelBuffer.covers_pixel fits inside high above below)]

/-- Decoding looks at the bytes of the scanlines and at nothing else. -/
theorem decode_congr : decode other buffer palette = decode memory buffer palette := by
  have checks : backed other buffer = backed memory buffer := by
    funext length
    rw [backed, backed, Memory.check, Memory.check, Memory.holds, Memory.holds, base, size]
  rw [decode, decode, checks]
  cases known : buffer.format with
  | error cause => simp only [bind, Except.bind]
  | ok format =>
    cases chosen : paletteFor format palette with
    | error cause => simp only [bind, Except.bind, chosen]
    | ok entries =>
      cases fits : buffer.length with
      | error cause => simp only [bind, Except.bind, chosen]
      | ok length =>
        cases held : backed memory buffer length with
        | error cause => simp only [bind, Except.bind, chosen, held]
        | ok _ =>
          simp only [bind, Except.bind, chosen, held, generate_storedCell_congr base size same fits
            (backed_eq_ok_iff.mp held)]

end Congr

theorem suits_of_decode (decoded : decode memory buffer palette = .ok raster) :
    raster.Suits buffer := by
  obtain ⟨format, entries, length, depth, chosen, fits, held, rfl⟩ := decode_eq_ok_iff.mp decoded
  refine ⟨rfl, rfl, depth, ?_, fun cell inside => ?_, fun direct => ?_⟩
  · rw [Raster.generate, Array.size_ofFn]
  · obtain ⟨index, inBounds, rfl⟩ := Array.getElem_of_mem inside
    rw [Raster.generate, Array.size_ofFn] at inBounds
    have positive : 0 < buffer.width := Nat.pos_of_mul_pos_right (Nat.zero_lt_of_lt inBounds)
    have narrow : ∀ column row, column < buffer.width → row < buffer.height →
        (storedCell memory buffer format column row).toNat <
          LittleEndian.capacity (bytesPerPixel format.depth) := by
      intro column row inside high
      have there := PixelBuffer.holds_pixel fits inside high held
      have small := LittleEndian.toNat_dword_lt
        (memory.slice (buffer.pixelAddress column row) (bytesPerPixel buffer.depth))
      rw [Memory.length_slice there, depth] at small
      rw [storedCell, depth]
      split
      · rw [UInt32.toNat_mod]
        exact Nat.lt_of_le_of_lt (Nat.mod_le _ _) small
      · exact small
    simp only [Raster.generate, Array.getElem_ofFn]
    exact narrow _ _ (Nat.mod_lt _ positive) (Nat.div_lt_of_lt_mul inBounds)
  · have direct : format.isIndexed = false := direct
    simp only [paletteFor, direct] at chosen
    cases chosen
    rfl

/-- The cells do not depend on the palette that they are shown with. -/
theorem cells_of_decode (decoded : decode memory buffer palette = .ok raster) :
    (decode memory buffer (some #[])).map (·.cells) = .ok raster.cells := by
  obtain ⟨format, entries, length, depth, chosen, fits, held, rfl⟩ := decode_eq_ok_iff.mp decoded
  have anyway : paletteFor format (some #[]) = .ok #[] := by
    unfold paletteFor
    split <;> rfl
  rw [decode_eq_ok_iff.mpr ⟨format, #[], length, depth, anyway, fits, held, rfl⟩]
  rfl

/-- Pixels that are read with one palette are read with any other one. -/
theorem decode_recoloured {colours : Array UInt32} (decoded : decode memory buffer palette = .ok raster)
    (fits : colours.size ≤ maxPalette) :
    ∃ entries, decode memory buffer (some colours) = .ok { raster with palette := entries } := by
  obtain ⟨format, entries, length, depth, -, sized, held, rfl⟩ := decode_eq_ok_iff.mp decoded
  have chosen : paletteFor format (some colours) = .ok (if format.isIndexed then colours else #[]) := by
    unfold paletteFor
    split
    · exact if_neg (Nat.not_lt.mpr fits)
    · rfl
  exact ⟨_, decode_eq_ok_iff.mpr ⟨format, _, length, depth, chosen, sized, held, rfl⟩⟩

end Conversion

/-! ### Drawing -/

theorem CellKind.toNat_narrow_le (kind : CellKind) (value : UInt32) :
    (kind.narrow value).toNat ≤ value.toNat := by
  cases kind with
  | index => exact Nat.mod_le _ _
  | word => exact Nat.mod_le _ _
  | dword => exact Nat.le_refl _

theorem Colour.toNat_rgb_lt (colour : Colour) : colour.rgb.toNat < 0x1000000 := by
  have red := colour.red.toNat_lt
  have green := colour.green.toNat_lt
  have blue := colour.blue.toNat_lt
  have none : (0 : UInt8).toNat = 0 := rfl
  simp only [rgb, argb, UInt32.toNat_ofNat', none]
  omega

namespace Raster

variable {raster target source : Raster} {buffer : PixelBuffer}

/-- What stands for a colour fits the bytes of a pixel, once it is stored in a cell. -/
theorem toNat_narrow_cellFor_lt (raster : Raster) (colour : Colour) :
    (raster.format.cellKind.narrow (raster.cellFor colour)).toNat <
      LittleEndian.capacity (bytesPerPixel raster.format.depth) := by
  have index : ∀ value : UInt32, (CellKind.index.narrow value).toNat < LittleEndian.capacity 1 :=
    fun value => Nat.mod_lt value.toNat (by decide)
  have word : ∀ value : UInt32, (CellKind.word.narrow value).toNat < LittleEndian.capacity 2 :=
    fun value => Nat.mod_lt value.toNat (by decide)
  unfold cellFor
  cases raster.format with
  | indexed4 => exact index _
  | indexed8 => exact index _
  | rgb555 => exact word _
  | rgb565 => exact word _
  | rgb888 => exact colour.toNat_rgb_lt
  | argb8888 => exact UInt32.toNat_lt _

theorem Suits.toNat_cellAt_lt (suits : raster.Suits buffer) (column row : Nat) :
    (raster.cellAt column row).toNat <
      LittleEndian.capacity (bytesPerPixel raster.format.depth) := by
  have positive : 0 < LittleEndian.capacity (bytesPerPixel raster.format.depth) := by
    cases raster.format <;> decide
  unfold cellAt
  split
  · rw [Array.getD_eq_getD_getElem?]
    cases found : raster.cells[row * raster.width + column]? with
    | none => exact positive
    | some cell => exact suits.narrow cell (Array.mem_of_getElem? found)
  · exact positive

/-- A raster without a palette is made of its cells. -/
theorem Suits.generate_cellAt (suits : raster.Suits buffer)
    (direct : raster.format.isIndexed = false) :
    generate buffer.width buffer.height raster.format #[] raster.cellAt = raster := by
  have cells : (generate buffer.width buffer.height raster.format #[] raster.cellAt).cells =
      raster.cells := by
    refine Array.ext (by rw [generate, Array.size_ofFn, suits.complete, suits.width, suits.height])
      fun index inBounds inside => ?_
    have below : index < buffer.height * buffer.width := by
      rw [suits.complete, suits.width, suits.height, Nat.mul_comm] at inside
      exact inside
    have positive : 0 < buffer.width := Nat.pos_of_mul_pos_left (Nat.zero_lt_of_lt below)
    have place : index / buffer.width * buffer.width + index % buffer.width = index :=
      Nat.div_add_mod' index buffer.width
    simp only [generate, Array.getElem_ofFn, cellAt, suits.width, suits.height]
    rw [if_pos ⟨Nat.mod_lt _ positive, (Nat.div_lt_iff_lt_mul positive).mpr below⟩, place,
      Array.getD_eq_getD_getElem?, Array.getElem?_eq_getElem inside, Option.getD_some]
  calc generate buffer.width buffer.height raster.format #[] raster.cellAt
      = ⟨buffer.width, buffer.height, raster.format, #[],
          (generate buffer.width buffer.height raster.format #[] raster.cellAt).cells⟩ := rfl
    _ = ⟨raster.width, raster.height, raster.format, raster.palette, raster.cells⟩ := by
      rw [cells, suits.width, suits.height, suits.plain direct]

/-- Painting with values that fit keeps a raster suited to its buffer. -/
theorem Suits.paint (suits : raster.Suits buffer) {pick : Nat → Nat → Option UInt32}
    (fits : ∀ column row value, pick column row = some value →
      (raster.format.cellKind.narrow value).toNat <
        LittleEndian.capacity (bytesPerPixel raster.format.depth)) :
    (raster.paint pick).Suits buffer := by
  refine { suits with
    complete := (Array.size_mapIdx).trans suits.complete
    narrow := fun cell inside => ?_ }
  obtain ⟨index, inBounds, rfl⟩ := Array.getElem_of_mem inside
  simp only [Raster.paint, Array.getElem_mapIdx]
  split
  · next value picked => exact fits _ _ value picked
  · exact suits.narrow _ (Array.getElem_mem _)

/-- Size and format of a raster. -/
def shape (raster : Raster) : Nat × Nat × Format :=
  (raster.width, raster.height, raster.format)

theorem shape_eq_iff {first second : Raster} : first.shape = second.shape ↔
    first.width = second.width ∧ first.height = second.height ∧ first.format = second.format := by
  rw [shape, shape, Prod.mk.injEq, Prod.mk.injEq]

/-- Drawing on a raster changes neither its size nor its format. -/
theorem shape_blit (target source : Raster) (region : Rect) (x y : Int32) :
    (target.blit source region x y).shape = target.shape := by
  unfold Raster.blit
  dsimp only
  split
  · rfl
  · split <;> rfl

/-- Drawing on a raster does not change its colours. -/
theorem palette_blit (target source : Raster) (region : Rect) (x y : Int32) :
    (target.blit source region x y).palette = target.palette := by
  unfold Raster.blit
  dsimp only
  split
  · rfl
  · split <;> rfl

/-- Drawing on a raster adds no cells. -/
theorem size_blit (target source : Raster) (region : Rect) (x y : Int32) :
    (target.blit source region x y).cells.size = target.cells.size := by
  unfold Raster.blit
  dsimp only
  split
  · rfl
  · split
    · rfl
    · exact Array.size_mapIdx

/-- Copying between rasters that suit their buffers keeps the target suited to its own. -/
theorem Suits.blit {other : PixelBuffer} (suits : target.Suits buffer) (given : source.Suits other)
    (region : Rect) (x y : Int32) : (target.blit source region x y).Suits buffer := by
  unfold Raster.blit
  split
  · exact suits
  · dsimp only
    split
    · exact suits
    · refine suits.paint fun column row value picked => ?_
      split at picked
      · cases picked
        unfold carried
        split
        · next agreed =>
          have same : target.format = source.format := by
            simp only [agrees, Bool.and_eq_true, decide_eq_true_eq] at agreed
            exact agreed.1
          rw [same]
          exact Nat.lt_of_le_of_lt (CellKind.toNat_narrow_le _ _) (given.toNat_cellAt_lt _ _)
        · exact target.toNat_narrow_cellFor_lt _
      · cases picked

end Raster

/-! ### Encoding -/

namespace Conversion

variable {memory : Memory} {buffer : PixelBuffer} {raster : Raster} {data : List UInt8}

/-- What encoding into a buffer takes, and what it gives. -/
theorem encoded_eq_ok_iff : encoded memory raster buffer = .ok data ↔
    ∃ format length, buffer.depth = format.depth ∧ format.isIndexed = false ∧
      raster.width = buffer.width ∧ raster.height = buffer.height ∧
      buffer.length = .ok length ∧ memory.holds buffer.address length = true ∧
      data = (List.range length).map (byteToStore memory raster buffer format) := by
  unfold encoded
  simp only [bind_eq_ok_iff, format_eq_ok_iff]
  constructor
  · rintro ⟨format, depth, stored⟩
    split at stored
    · cases stored
    · next direct =>
      split at stored
      · cases stored
      · next same =>
        obtain ⟨length, fits, stored⟩ := bind_eq_ok_iff.mp stored
        obtain ⟨_, held, stored⟩ := bind_eq_ok_iff.mp stored
        cases stored
        obtain ⟨width, height⟩ := not_or.mp same
        exact ⟨format, length, depth, eq_false_of_ne_true direct, Decidable.not_not.mp width,
          Decidable.not_not.mp height, fits, backed_eq_ok_iff.mp held, rfl⟩
  · rintro ⟨format, length, depth, direct, width, height, fits, held, rfl⟩
    have same : ¬ (raster.width ≠ buffer.width ∨ raster.height ≠ buffer.height) := by
      simp only [width, height, ne_eq, not_true_eq_false, or_self, not_false_eq_true]
    refine ⟨format, depth, ?_⟩
    rw [if_neg (ne_true_of_eq_false direct), if_neg same]
    exact bind_eq_ok_iff.mpr ⟨length, fits, bind_eq_ok_iff.mpr ⟨(), backed_eq_ok_iff.mpr held, rfl⟩⟩

/-- As many bytes are written as the scanlines have. -/
theorem length_of_encoded (stored : encoded memory raster buffer = .ok data) :
    data.length = buffer.stride * buffer.height := by
  obtain ⟨format, length, -, -, -, -, fits, -, rfl⟩ := encoded_eq_ok_iff.mp stored
  rw [List.length_map, List.length_range]
  exact (PixelBuffer.length_eq_ok fits).1

/-- Only scanlines are written. -/
theorem byte?_of_encoded (stored : encoded memory raster buffer = .ok data)
    (backed : memory.holds buffer.address data.length = true) {point : Nat}
    (outside : ¬ buffer.Covers point) :
    (memory.put buffer.address data).byte? point = memory.byte? point := by
  rw [Memory.byte?_put backed, length_of_encoded stored]
  exact if_neg outside

/-- The bytes of a pixel once a raster was stored. -/
theorem byteToStore_pixel {format : Format} {column row place : Nat}
    (room : buffer.width * bytesPerPixel buffer.depth ≤ buffer.stride) (inside : column < buffer.width)
    (high : row < buffer.height) (below : place < bytesPerPixel buffer.depth) :
    byteToStore memory raster buffer format (buffer.stride * (buffer.height - 1 - row) +
      column * bytesPerPixel buffer.depth + place) =
        UInt8.ofNat ((cellToStore raster format column row).toNat >>> (8 * place)) := by
  have inLine := PixelBuffer.pixel_le_line inside
  have split : buffer.stride * (buffer.height - 1 - row) + column * bytesPerPixel buffer.depth + place =
      column * bytesPerPixel buffer.depth + place + buffer.stride * (buffer.height - 1 - row) := by
    omega
  have short : column * bytesPerPixel buffer.depth + place < buffer.stride := by omega
  have positive : 0 < buffer.stride := Nat.zero_lt_of_lt short
  have unit : 0 < bytesPerPixel buffer.depth := Nat.zero_lt_of_lt below
  have modulus : (column * bytesPerPixel buffer.depth + place +
      buffer.stride * (buffer.height - 1 - row)) % buffer.stride =
        column * bytesPerPixel buffer.depth + place := by
    rw [Nat.add_mul_mod_self_left, Nat.mod_eq_of_lt short]
  have quotient : (column * bytesPerPixel buffer.depth + place +
      buffer.stride * (buffer.height - 1 - row)) / buffer.stride = buffer.height - 1 - row := by
    rw [Nat.add_mul_div_left _ _ positive, Nat.div_eq_of_lt short, Nat.zero_add]
  have column_eq : (column * bytesPerPixel buffer.depth + place) / bytesPerPixel buffer.depth =
      column := by
    rw [Nat.add_comm, Nat.add_mul_div_right _ _ unit, Nat.div_eq_of_lt below, Nat.zero_add]
  have place_eq : (column * bytesPerPixel buffer.depth + place) % bytesPerPixel buffer.depth =
      place := by
    rw [Nat.add_comm, Nat.add_mul_mod_self_right, Nat.mod_eq_of_lt below]
  have row_eq : buffer.height - 1 - (buffer.height - 1 - row) = row := by omega
  rw [split, byteToStore]
  dsimp only
  rw [modulus, quotient, if_pos (by omega), column_eq, place_eq, row_eq]

/-- **A raster that suits a buffer is read back as it was written.** -/
theorem decode_of_encoded (suits : raster.Suits buffer)
    (stored : encoded memory raster buffer = .ok data) (palette : Option (Array UInt32)) :
    decode (memory.put buffer.address data) buffer palette = .ok raster := by
  obtain ⟨format, length, depth, direct, -, -, fits, held, rfl⟩ := encoded_eq_ok_iff.mp stored
  have same : raster.format = format := by
    have known := Format.ofDepth?_eq_some_iff.mpr suits.depth
    rw [Format.ofDepth?_eq_some_iff.mpr depth] at known
    exact (Option.some.inj known).symm
  subst same
  have chosen : paletteFor raster.format palette = .ok #[] := by
    simp only [paletteFor, direct, Bool.false_eq_true, if_false]
  have heldAfter : (memory.put buffer.address
      ((List.range length).map (byteToStore memory raster buffer raster.format))).holds
        buffer.address length = true := by
    rw [Memory.holds_put, held]
  have plain : raster.format ≠ .indexed4 := fun indexed => by
    rw [indexed] at direct
    cases direct
  obtain ⟨total, room⟩ := PixelBuffer.length_eq_ok fits
  -- Every cell is read from the bytes that were written for it.
  have cells : ∀ column row, column < buffer.width → row < buffer.height →
      storedCell (memory.put buffer.address
        ((List.range length).map (byteToStore memory raster buffer raster.format))) buffer
          raster.format column row = raster.cellAt column row := by
    intro column row inside high
    have there := PixelBuffer.holds_pixel fits inside high heldAfter
    have ends := PixelBuffer.pixel_le_length room inside high
    have bytes : (memory.put buffer.address
        ((List.range length).map (byteToStore memory raster buffer raster.format))).slice
          (buffer.pixelAddress column row) (bytesPerPixel buffer.depth) =
            LittleEndian.encode (bytesPerPixel buffer.depth) (raster.cellAt column row).toNat := by
      refine List.ext_getElem? fun place => ?_
      by_cases below : place < bytesPerPixel buffer.depth
      · have index : buffer.pixelAddress column row + place - buffer.address =
            buffer.stride * (buffer.height - 1 - row) + column * bytesPerPixel buffer.depth +
              place := by
          rw [buffer.pixelAddress_eq]
          omega
        have pixel := buffer.pixelAddress_eq column row
        rw [Memory.getElem?_slice there below, LittleEndian.getElem?_encode _ below,
          Memory.byte?_put (by rw [List.length_map, List.length_range, held]), if_pos, index,
          List.getElem?_map, List.getElem?_range (by omega), Option.map_some,
          byteToStore_pixel room inside high below, cellToStore, if_pos rfl]
        rw [List.length_map, List.length_range]
        omega
      · rw [List.getElem?_eq_none (by rw [Memory.length_slice there]; omega),
          List.getElem?_eq_none (by rw [LittleEndian.length_encode]; omega)]
    rw [storedCell, bytes, suits.depth, LittleEndian.dword_encode (suits.toNat_cellAt_lt column row)]
    exact if_neg plain
  refine decode_eq_ok_iff.mpr ⟨raster.format, #[], length, depth, chosen, fits, heldAfter, ?_⟩
  rw [Raster.generate_congr cells, suits.generate_cellAt direct]

end Conversion

end GuestDraw
