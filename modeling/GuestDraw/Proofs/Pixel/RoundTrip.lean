/-
**Pixels there and back.**

A raster that was decoded from a pixel buffer with direct colours can be encoded again. In the same
buffer that changes nothing; at any other place, in the same memory or in another one, the scanlines
come to have the same pixels, and neither their padding nor any other byte changes. The other way
round, a raster that was encoded is decoded as it was.

* `Stamped`: the pixels of one buffer were stored in another one;
* `exists_stamped_of_decode`: what was decoded can be encoded wherever there is room;
* `codec_round_trip`: both ways.
-/

import GuestDraw.Proofs.Pixel.Rasters

namespace GuestDraw

/-- Nothing of at most four bytes is lost in a dword. -/
theorem LittleEndian.toNat_dword {bytes : List UInt8} (short : bytes.length ≤ 4) :
    (dword bytes).toNat = value bytes := by
  have narrow : capacity bytes.length ≤ 2 ^ 32 := by
    have cases : bytes.length = 0 ∨ bytes.length = 1 ∨ bytes.length = 2 ∨ bytes.length = 3 ∨
        bytes.length = 4 := by omega
    rcases cases with length | length | length | length | length <;> rw [length] <;> decide
  exact UInt32.toNat_ofNat_of_lt' (Nat.lt_of_lt_of_le (value_lt bytes) narrow)

/-- A dword of at most four bytes is written as it was read. -/
theorem LittleEndian.encode_dword {bytes : List UInt8} (short : bytes.length ≤ 4) :
    encode bytes.length (dword bytes).toNat = bytes := by
  rw [toNat_dword short, encode_value]

/-- A place in a scanline comes before the end of the last one. -/
theorem PixelBuffer.place_lt_length {buffer : PixelBuffer} {line place : Nat}
    (high : line < buffer.height) (short : place < buffer.stride) :
    buffer.stride * line + place < buffer.stride * buffer.height := by
  have lines : buffer.stride * (line + 1) ≤ buffer.stride * buffer.height :=
    Nat.mul_le_mul_left _ high
  rw [Nat.mul_succ] at lines
  omega

/-- From `before` to `after` the pixels of `target` become those that `source` has in `memory`, and
no other byte changes. -/
structure Stamped (memory : Memory) (source : PixelBuffer) (before after : Memory)
    (target : PixelBuffer) : Prop where
  base : after.base = before.base
  size : after.size = before.size
  pixels : ∀ line place, line < target.height → place < target.width * bytesPerPixel target.depth →
    after.byte? (target.address + (target.stride * line + place)) =
      memory.byte? (source.address + (source.stride * line + place))
  padding : ∀ line place, line < target.height → target.width * bytesPerPixel target.depth ≤ place →
    place < target.stride → after.byte? (target.address + (target.stride * line + place)) =
      before.byte? (target.address + (target.stride * line + place))
  outside : ∀ point, ¬ target.Covers point → after.byte? point = before.byte? point

/-- A buffer that gets its own pixels keeps them. -/
theorem Stamped.eq_self {memory after : Memory} {buffer : PixelBuffer}
    (stamped : Stamped memory buffer memory after buffer) : after = memory := by
  refine Memory.ext_byte? stamped.base fun point => ?_
  by_cases inside : buffer.Covers point
  · obtain ⟨above, below⟩ := inside
    have positive : 0 < buffer.stride := by
      refine Nat.pos_of_ne_zero fun none => ?_
      rw [none, Nat.zero_mul] at below
      omega
    have line : (point - buffer.address) / buffer.stride < buffer.height :=
      Nat.div_lt_of_lt_mul (by omega)
    have short := Nat.mod_lt (point - buffer.address) positive
    have place : point = buffer.address + (buffer.stride * ((point - buffer.address) / buffer.stride) +
        (point - buffer.address) % buffer.stride) := by
      rw [Nat.div_add_mod]
      omega
    rw [place]
    by_cases pixel : (point - buffer.address) % buffer.stride <
        buffer.width * bytesPerPixel buffer.depth
    · exact stamped.pixels _ _ line pixel
    · exact stamped.padding _ _ line (Nat.le_of_not_lt pixel) short
  · exact stamped.outside point inside

/-! ### Pixels -/

/-- The formats of these depths hold colours. -/
theorem Format.direct_of_depth (format : Format) (direct : format.depth ∈ [15, 16, 24, 32]) :
    format ≠ .indexed4 ∧ format.isIndexed = false ∧ bytesPerPixel format.depth ≤ 4 := by
  revert direct
  cases format <;> decide

/-- The cells of a generated raster are those of the rule. -/
theorem Raster.cellAt_generate {width height column row : Nat} {format : Format}
    {palette : Array UInt32} {cell : Nat → Nat → UInt32} (inside : column < width)
    (high : row < height) :
    (generate width height format palette cell).cellAt column row = cell column row := by
  have positive : 0 < width := Nat.zero_lt_of_lt inside
  have below : row * width + column < width * height := by
    have rows : (row + 1) * width ≤ height * width := Nat.mul_le_mul_right _ high
    rw [Nat.mul_comm width]
    rw [Nat.add_mul] at rows
    omega
  have modulus : (row * width + column) % width = column := by
    rw [Nat.add_comm, Nat.add_mul_mod_self_right, Nat.mod_eq_of_lt inside]
  have quotient : (row * width + column) / width = row := by
    rw [Nat.add_comm, Nat.add_mul_div_right _ _ positive, Nat.div_eq_of_lt inside, Nat.zero_add]
  simp only [cellAt, generate, inside, high, and_self, if_true, Array.getD_eq_getD_getElem?]
  rw [Array.getElem?_eq_getElem (by rw [Array.size_ofFn]; exact below), Option.getD_some,
    Array.getElem_ofFn, modulus, quotient]

namespace Conversion

variable {memory other : Memory} {buffer : PixelBuffer} {raster : Raster}
  {palette : Option (Array UInt32)} {data : List UInt8} {format : Format}

/-- Encoding stores the encoded bytes. -/
theorem encode_eq_ok_iff {written : Memory} : encode memory raster buffer = .ok written ↔
    ∃ data, encoded memory raster buffer = .ok data ∧ written = memory.put buffer.address data := by
  unfold encode
  rw [bind_eq_ok_iff]
  exact exists_congr fun data => and_congr_right fun _ =>
    ⟨fun same => (Except.ok.inj same).symm, fun same => congrArg Except.ok same.symm⟩

/-- The bytes of the scanlines once a raster was stored. -/
theorem byte?_scanline (stored : encoded memory raster buffer = .ok data)
    (depth : buffer.depth = format.depth) {index : Nat}
    (inside : index < buffer.stride * buffer.height) :
    (memory.put buffer.address data).byte? (buffer.address + index) =
      some (byteToStore memory raster buffer format index) := by
  obtain ⟨known, length, same, -, -, -, fits, held, rfl⟩ := encoded_eq_ok_iff.mp stored
  obtain rfl : known = format := by
    rw [depth, ← Format.ofDepth?_eq_some_iff, Format.ofDepth?_eq_some_iff.mpr rfl] at same
    exact (Option.some.inj same).symm
  obtain ⟨rfl, -⟩ := PixelBuffer.length_eq_ok fits
  rw [Memory.byte?_put (by rw [List.length_map, List.length_range, held]), if_pos,
    Nat.add_sub_cancel_left, List.getElem?_map, List.getElem?_range inside, Option.map_some]
  rw [List.length_map, List.length_range]
  omega

/-- The bytes of a cell that was decoded are those that it was read from. -/
theorem byte_storedCell {column row place : Nat} (plain : format ≠ .indexed4)
    (short : bytesPerPixel buffer.depth ≤ 4) (below : place < bytesPerPixel buffer.depth)
    (held : memory.holds (buffer.pixelAddress column row) (bytesPerPixel buffer.depth) = true) :
    some (UInt8.ofNat ((storedCell memory buffer format column row).toNat >>> (8 * place))) =
      memory.byte? (buffer.pixelAddress column row + place) := by
  have length := Memory.length_slice held
  have bytes := LittleEndian.encode_dword (length.symm ▸ short :
    (memory.slice (buffer.pixelAddress column row) (bytesPerPixel buffer.depth)).length ≤ 4)
  rw [length] at bytes
  rw [storedCell, if_neg plain, ← LittleEndian.getElem?_encode _ below, bytes,
    Memory.getElem?_slice held below]

/-- Bytes that are not of a pixel are stored as they were. -/
theorem byteToStore_padding {line place : Nat} (held : memory.holds buffer.address
      (buffer.stride * buffer.height) = true) (high : line < buffer.height)
    (beyond : buffer.width * bytesPerPixel buffer.depth ≤ place) (short : place < buffer.stride) :
    some (byteToStore memory raster buffer format (buffer.stride * line + place)) =
      memory.byte? (buffer.address + (buffer.stride * line + place)) := by
  rw [Memory.byte?_eq_some held (PixelBuffer.place_lt_length high short), byteToStore]
  dsimp only
  rw [Nat.mul_add_mod, Nat.mod_eq_of_lt short, if_neg (Nat.not_lt.mpr beyond)]

/-- A place in a scanline as a place in a pixel. -/
theorem exists_pixel {line offset : Nat} (high : line < buffer.height)
    (inside : offset < buffer.width * bytesPerPixel buffer.depth) :
    ∃ column row place, column < buffer.width ∧ row < buffer.height ∧
      place < bytesPerPixel buffer.depth ∧ buffer.stride * line + offset =
        buffer.stride * (buffer.height - 1 - row) + column * bytesPerPixel buffer.depth + place := by
  have unit : 0 < bytesPerPixel buffer.depth := Nat.pos_of_mul_pos_left (Nat.zero_lt_of_lt inside)
  have parts := Nat.div_add_mod' offset (bytesPerPixel buffer.depth)
  have turned : buffer.height - 1 - (buffer.height - 1 - line) = line := by omega
  refine ⟨offset / bytesPerPixel buffer.depth, buffer.height - 1 - line,
    offset % bytesPerPixel buffer.depth, Nat.div_lt_of_lt_mul (Nat.mul_comm _ _ ▸ inside), by omega,
    Nat.mod_lt _ unit, ?_⟩
  rw [turned]
  omega

/-- A decoded raster has the cells that were stored. -/
theorem cellAt_of_decode (decoded : decode memory buffer palette = .ok raster) {column row : Nat}
    (inside : column < buffer.width) (high : row < buffer.height) :
    raster.cellAt column row = storedCell memory buffer raster.format column row := by
  obtain ⟨format, entries, length, -, -, -, -, rfl⟩ := decode_eq_ok_iff.mp decoded
  exact Raster.cellAt_generate inside high

/-- A decoded raster is stored as the bytes that it was decoded from. -/
theorem byteToStore_decoded {column row place target : Nat}
    (decoded : decode memory buffer palette = .ok raster) (plain : raster.format ≠ .indexed4)
    (short : bytesPerPixel buffer.depth ≤ 4) (inside : column < buffer.width)
    (high : row < buffer.height) (below : place < bytesPerPixel buffer.depth) :
    some (byteToStore other raster { buffer with address := target } raster.format
        (buffer.stride * (buffer.height - 1 - row) + column * bytesPerPixel buffer.depth + place)) =
      memory.byte? (buffer.address + (buffer.stride * (buffer.height - 1 - row) +
        column * bytesPerPixel buffer.depth + place)) := by
  obtain ⟨format, entries, length, -, -, fits, held, -⟩ := decode_eq_ok_iff.mp decoded
  obtain ⟨-, room⟩ := PixelBuffer.length_eq_ok fits
  have cell : cellToStore raster raster.format column row =
      storedCell memory buffer raster.format column row := by
    rw [cellToStore, if_pos rfl, cellAt_of_decode decoded inside high]
  have stored : byteToStore other raster { buffer with address := target } raster.format
      (buffer.stride * (buffer.height - 1 - row) + column * bytesPerPixel buffer.depth + place) =
        UInt8.ofNat ((cellToStore raster raster.format column row).toNat >>> (8 * place)) :=
    byteToStore_pixel room inside high below
  rw [stored, cell, byte_storedCell plain short below (PixelBuffer.holds_pixel fits inside high held),
    buffer.pixelAddress_eq, Nat.add_assoc]

/-- What was decoded can be encoded wherever there is room for it. -/
theorem exists_stamped_of_decode (direct : buffer.depth ∈ [15, 16, 24, 32])
    (decoded : decode memory buffer palette = .ok raster) {place : Nat}
    (held : other.holds place (buffer.stride * buffer.height) = true) :
    ∃ written, encode other raster { buffer with address := place } = .ok written ∧
      Stamped memory buffer other written { buffer with address := place } := by
  obtain ⟨-, -, length, -, -, fits, -, -⟩ := decode_eq_ok_iff.mp decoded
  obtain ⟨rfl, room⟩ := PixelBuffer.length_eq_ok fits
  have suits := suits_of_decode decoded
  have depth := suits.depth
  rw [depth] at direct
  obtain ⟨plain, direct, short⟩ := raster.format.direct_of_depth direct
  rw [← depth] at short
  have stored : encoded other raster { buffer with address := place } = .ok _ :=
    encoded_eq_ok_iff.mpr
      ⟨raster.format, _, depth, direct, suits.width, suits.height, fits, held, rfl⟩
  refine ⟨_, encode_eq_ok_iff.mpr ⟨_, stored, rfl⟩, rfl, Memory.size_put _ _ _,
    fun line offset (high : line < buffer.height)
      (pixel : offset < buffer.width * bytesPerPixel buffer.depth) => ?_,
    fun line offset high beyond inLine => ?_, fun point outside => ?_⟩
  · refine (byte?_scanline stored depth
      (PixelBuffer.place_lt_length high (Nat.lt_of_lt_of_le pixel room))).trans ?_
    obtain ⟨column, row, rest, inside, above, below, same⟩ := exists_pixel high pixel
    have moved : some (byteToStore other raster { buffer with address := place } raster.format _) =
        memory.byte? (buffer.address + _) :=
      byteToStore_decoded decoded plain short inside above below
    rw [← same] at moved
    exact moved
  · refine (byte?_scanline stored depth (PixelBuffer.place_lt_length high inLine)).trans ?_
    exact byteToStore_padding held high beyond inLine
  · refine byte?_of_encoded stored ?_ outside
    rw [length_of_encoded stored]
    exact held

end Conversion

/-! ### Both ways -/

/-- **What was decoded is encoded as it was, and what was encoded is decoded as it was.** -/
theorem codec_round_trip {depth : Nat} (direct : depth ∈ [15, 16, 24, 32])
    (address width height : Nat) :
    (∀ memory palette raster,
      Conversion.decode memory ⟨address, depth, width, height⟩ palette = .ok raster →
        Conversion.encode memory raster ⟨address, depth, width, height⟩ = .ok memory ∧
        ∀ (other : Memory) (place : Nat), other.holds place (pitch width depth * height) = true →
          ∃ written, Conversion.encode other raster ⟨place, depth, width, height⟩ = .ok written ∧
            Stamped memory ⟨address, depth, width, height⟩ other written
              ⟨place, depth, width, height⟩) ∧
    ∀ memory raster written palette, raster.Sound → raster.format.depth = depth →
      (raster.format = .rgb888 → ∀ cell ∈ raster.cells, cell.toNat < 0x1000000) →
      Conversion.encode memory raster ⟨address, depth, width, height⟩ = .ok written →
        Conversion.decode written ⟨address, depth, width, height⟩ palette = .ok raster := by
  refine ⟨fun memory palette raster decoded => ?_,
    fun memory raster written palette sound known topless encoded => ?_⟩
  · have anywhere : ∀ (other : Memory) (place : Nat),
        other.holds place (pitch width depth * height) = true →
          ∃ written, Conversion.encode other raster ⟨place, depth, width, height⟩ = .ok written ∧
            Stamped memory ⟨address, depth, width, height⟩ other written
              ⟨place, depth, width, height⟩ :=
      fun other place => Conversion.exists_stamped_of_decode direct decoded
    refine ⟨?_, anywhere⟩
    obtain ⟨format, entries, length, -, -, fits, held, -⟩ := Conversion.decode_eq_ok_iff.mp decoded
    obtain ⟨rfl, -⟩ := PixelBuffer.length_eq_ok fits
    obtain ⟨written, encoded, stamped⟩ := anywhere memory address held
    rw [encoded, stamped.eq_self]
  · obtain ⟨data, stored, rfl⟩ := Conversion.encode_eq_ok_iff.mp encoded
    obtain ⟨-, -, -, -, wide, high, -, -, -⟩ := Conversion.encoded_eq_ok_iff.mp stored
    exact Conversion.decode_of_encoded (sound.suits wide high known topless) stored palette

/-- One pixel of three bytes, with a byte of padding, is decoded, put back, and moved elsewhere. -/
theorem codec_round_trip_one_pixel :
    let memory : Memory := ⟨0, #[1, 2, 3, 4], by decide⟩
    Conversion.decode memory ⟨0, 24, 1, 1⟩ none =
        .ok ⟨1, 1, .rgb888, #[], #[0x030201]⟩ ∧
      Conversion.encode memory ⟨1, 1, .rgb888, #[], #[0x030201]⟩ ⟨0, 24, 1, 1⟩ = .ok memory ∧
      ∃ written,
        Conversion.encode (.zeroed 8 4) ⟨1, 1, .rgb888, #[], #[0x030201]⟩ ⟨8, 24, 1, 1⟩ =
          .ok written ∧
        Stamped memory ⟨0, 24, 1, 1⟩ (.zeroed 8 4) written ⟨8, 24, 1, 1⟩ ∧
        Conversion.decode written ⟨8, 24, 1, 1⟩ none = .ok ⟨1, 1, .rgb888, #[], #[0x030201]⟩ := by
  intro memory
  have decoded : Conversion.decode ⟨0, #[1, 2, 3, 4], by decide⟩ ⟨0, 24, 1, 1⟩ none =
      .ok ⟨1, 1, .rgb888, #[], #[0x030201]⟩ := by rfl
  obtain ⟨back, anywhere⟩ := (codec_round_trip (by decide) 0 1 1).1 _ _ _ decoded
  have backed : (Memory.zeroed 8 4).holds 8 4 = true := by decide +kernel
  obtain ⟨written, encoded, stamped⟩ := anywhere (.zeroed 8 4) 8 backed
  have topless : ∀ cell ∈ #[(0x030201 : UInt32)], cell.toNat < 0x1000000 := by
    intro cell member
    rw [Array.mem_singleton.mp member]
    decide
  exact ⟨decoded, back, written, encoded, stamped,
    (codec_round_trip (by decide) 8 1 1).2 _ _ _ none (Raster.sound_of_decode decoded) rfl
      (fun _ => topless) encoded⟩

end GuestDraw
